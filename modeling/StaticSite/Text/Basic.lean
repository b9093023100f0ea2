/-!
# Texts

A text is a list of characters.  This file holds the operations on texts that the
rest of the library is written in: stripping blanks, splitting into words, cutting a
text at the first occurrence of a mark, and replacing every occurrence of a mark.
-/

namespace StaticSite

/-- A text is a sequence of Unicode code points. -/
abbrev Text := List Char

instance : Coe String Text := ⟨String.toList⟩

instance : LawfulBEq Text := inferInstance

namespace Text

/-- Whether a character is white space: the bidirectional classes of separators and
blanks together with the separator category of Unicode. -/
def isBlank (character : Char) : Bool :=
  let code := character.toNat
  (9 ≤ code && code ≤ 13) || (28 ≤ code && code ≤ 32) || code == 0x85 || code == 0xA0 ||
    code == 0x1680 || (0x2000 ≤ code && code ≤ 0x200A) || code == 0x2028 || code == 0x2029 ||
    code == 0x202F || code == 0x205F || code == 0x3000

/-- A blank text has nothing but white space; the empty text is blank. -/
def blank (text : Text) : Bool := text.all isBlank

/-- Drop the characters of a class from the left end. -/
def trimLeftOf (drop : Char → Bool) (text : Text) : Text := text.dropWhile drop

/-- Drop the characters of a class from the right end. -/
def trimRightOf (drop : Char → Bool) (text : Text) : Text :=
  (text.reverse.dropWhile drop).reverse

/-- Drop the characters of a class from both ends. -/
def trimOf (drop : Char → Bool) (text : Text) : Text := trimRightOf drop (trimLeftOf drop text)

/-- Drop white space from the left end. -/
def trimLeft (text : Text) : Text := trimLeftOf isBlank text

/-- Drop white space from the right end. -/
def trimRight (text : Text) : Text := trimRightOf isBlank text

/-- Drop white space from both ends. -/
def trim (text : Text) : Text := trimOf isBlank text

def startsWith (mark text : Text) : Bool := mark.isPrefixOf text

def endsWith (mark text : Text) : Bool := mark.isSuffixOf text

def after? : (mark text : Text) → Option Text
  | [], text => some text
  | _ :: _, [] => none
  | expected :: mark, character :: text =>
    if expected = character then after? mark text else none

/-- The parts of a text before and after the first occurrence of a mark. -/
def cut? (mark : Text) : Text → Option (Text × Text)
  | [] => if mark.isEmpty then some ([], []) else none
  | character :: text =>
    match after? mark (character :: text) with
    | some rest => some ([], rest)
    | none => (cut? mark text).map fun (before, rest) => (character :: before, rest)

/-- The offset of the first occurrence of a mark. -/
def find? (mark text : Text) : Option Nat := (cut? mark text).map fun (before, _) => before.length

def contains (mark text : Text) : Bool := (cut? mark text).isSome

/-- The parts of a text before and after the last occurrence of a character. -/
def cutLast? (mark : Char) (text : Text) : Option (Text × Text) :=
  match text.reverse.dropWhile (· ≠ mark) with
  | [] => none
  | _ :: before => some (before.reverse, (text.reverse.takeWhile (· ≠ mark)).reverse)

/-- Replacing while `skip` characters of the last occurrence are still to be passed over. -/
def replaceFrom (mark substitute : Text) : (skip : Nat) → Text → Text
  | _, [] => []
  | skip + 1, _ :: text => replaceFrom mark substitute skip text
  | 0, character :: text =>
    if startsWith mark (character :: text) then
      substitute ++ replaceFrom mark substitute (mark.length - 1) text
    else character :: replaceFrom mark substitute 0 text

/-- Replace every occurrence of a nonempty mark, from left to right and without overlaps. -/
def replace (mark substitute text : Text) : Text := replaceFrom mark substitute 0 text

/-- Split a text at every character of a class; there is one part more than there are
separators. -/
def splitOn (separator : Char → Bool) : Text → List Text
  | [] => [[]]
  | character :: text =>
    if separator character then [] :: splitOn separator text
    else
      match splitOn separator text with
      | [] => [[character]]
      | part :: parts => (character :: part) :: parts

/-- Splitting while `skip` characters of the last separator are still to be passed over. -/
def splitByFrom (separator : Text) : (skip : Nat) → Text → List Text
  | _, [] => [[]]
  | skip + 1, _ :: text => splitByFrom separator skip text
  | 0, character :: text =>
    if startsWith separator (character :: text) then
      [] :: splitByFrom separator (separator.length - 1) text
    else
      match splitByFrom separator 0 text with
      | [] => [[character]]
      | part :: parts => (character :: part) :: parts

/-- Split a text at every occurrence of a nonempty separator, from left to right and without
overlaps. -/
def splitBy (separator text : Text) : List Text := splitByFrom separator 0 text

/-- The lines of a text, split at every line feed. -/
def lines (text : Text) : List Text := splitOn (· = '\n') text

/-- The words of a text: its longest stretches without white space. -/
def words (text : Text) : List Text := (splitOn isBlank text).filter (! ·.isEmpty)

/-- Join texts with a separator between each two. -/
def join (separator : Text) : List Text → Text
  | [] => []
  | [text] => text
  | text :: texts => text ++ separator ++ join separator texts

def lineFeeds (text : Text) : Nat := text.count '\n'

/-- How many characters follow the last line feed of a text. -/
def lastLineLength (text : Text) : Nat := (text.reverse.takeWhile (· ≠ '\n')).length

def ofNat (number : Nat) : Text := Nat.toDigits 10 number

/-- The decimal digits of an integer, after a minus sign if it is negative. -/
def ofInt : Int → Text
  | .ofNat number => ofNat number
  | .negSucc number => '-' :: ofNat (number + 1)

/-- Fill a text with a character on the left up to a width. -/
def padLeft (width : Nat) (filler : Char) (text : Text) : Text :=
  List.replicate (width - text.length) filler ++ text

/-- Two-digit decimals, with a zero in front where needed. -/
def twoDigits (number : Nat) : Text := padLeft 2 '0' (ofNat number)

/-- The lower-case form of the ASCII letters; other characters are kept. -/
def lowerAscii (text : Text) : Text := text.map Char.toLower

/-- Fold `\r\n` and a lone `\r` into `\n`, so that a text has one kind of line end. -/
def unifyLineEnds : Text → Text
  | [] => []
  | '\r' :: '\n' :: text => '\n' :: unifyLineEnds text
  | '\r' :: text => '\n' :: unifyLineEnds text
  | character :: text => character :: unifyLineEnds text

/-- The texts in a list, compared code point by code point. -/
def lessEqual : Text → Text → Bool
  | [], _ => true
  | _ :: _, [] => false
  | first :: firsts, second :: seconds =>
    if first = second then lessEqual firsts seconds else first.toNat < second.toNat

/-- Sort texts in code point order; equal texts keep their order. -/
def sort (texts : List Text) : List Text := texts.mergeSort lessEqual

end Text

end StaticSite
