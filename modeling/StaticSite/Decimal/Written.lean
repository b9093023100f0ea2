import StaticSite.Decimal.Shortest
import StaticSite.Text.Digit

/-!
# Written numbers

A number may have blanks around it, a sign in front, digits of any script, and single
underscores between its digits.
-/

namespace StaticSite

namespace Decimal

/-- A character of a number in ASCII: a digit of any script as the digit of its value and a
blank as a space.  A character that no number has becomes a question mark. -/
def plainChar (character : Char) : Char :=
  if character.toNat < 0x7F then character
  else if Text.isBlank character then ' '
  else
    match Text.digitValue? character with
    | some value => Char.ofNat (48 + value)
    | none => '?'

/-- Whether a character is a blank of ASCII, which may stand around a number. -/
def isPlainBlank (character : Char) : Bool :=
  character = ' ' || (9 ≤ character.toNat && character.toNat ≤ 13)

/-- A number in ASCII without the blanks around it. -/
def plainNumber (text : Text) : Text := Text.trimOf isPlainBlank (text.map plainChar)

/-- A text without its underscores, each of which has to stand between two digits. -/
def dropUnderscores : (afterDigit : Bool) → Text → Option Text
  | _, [] => some []
  | afterDigit, '_' :: digit :: rest =>
    if afterDigit && digit.isDigit then (dropUnderscores true rest).map (digit :: ·) else none
  | _, character :: rest =>
    if character = '_' then none
    else (dropUnderscores character.isDigit rest).map (character :: ·)

/-- Whether a number has a minus sign, and the rest of it behind its sign. -/
def splitSign : Text → Bool × Text
  | '-' :: rest => (true, rest)
  | '+' :: rest => (false, rest)
  | text => (false, text)

/-- How many digits an integer may have. -/
def longestInteger : Nat := 4300

def integer? (text : Text) : Option Int := do
  let (negative, digits) := splitSign (← dropUnderscores false (plainNumber text))
  if digits.isEmpty || ! digits.all Char.isDigit || longestInteger < digits.length then none
  else
    let magnitude : Int := Text.toNumber digits
    return if negative then -magnitude else magnitude

def wordNumbers : List (String × Float) :=
  [("inf", 1.0 / 0.0), ("infinity", 1.0 / 0.0), ("nan", 0.0 / 0.0)]

/-- The power of ten at the end of a number; nothing stands for the power zero. -/
def power? : Text → Option Int
  | [] => some 0
  | mark :: rest =>
    let (negative, digits) := splitSign rest
    if mark.toLower = 'e' && ! digits.isEmpty && digits.all Char.isDigit then
      let magnitude : Int := Text.toNumber digits
      some (if negative then -magnitude else magnitude)
    else none

/-- The digits behind a decimal point, if there is one, and the rest. -/
def splitFraction : Text → Text × Text
  | '.' :: rest => (rest.takeWhile Char.isDigit, rest.dropWhile Char.isDigit)
  | rest => ([], rest)

/-- The value of a written number. -/
def float? (text : Text) : Option Float := do
  let (negative, magnitude) := splitSign (← dropUnderscores false (plainNumber text))
  match wordNumbers.find? fun (word, _) => word.toList = Text.lowerAscii magnitude with
  | some (_, value) => return if negative then -value else value
  | none =>
    let whole := magnitude.takeWhile Char.isDigit
    let (fraction, rest) := splitFraction (magnitude.dropWhile Char.isDigit)
    if whole.isEmpty && fraction.isEmpty then none
    else return toFloat negative whole fraction (← power? rest)

end Decimal

end StaticSite
