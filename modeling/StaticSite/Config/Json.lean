import StaticSite.Config.Value

/-!
# Configurations in JSON

The reader follows the standard, and knows three more numbers: `NaN`, `Infinity` and
`-Infinity`.
-/

namespace StaticSite

namespace Config

namespace Json

/-- How deeply arrays and objects may be nested. -/
def deepest : Nat := 980

/-- Drop white space. -/
def skipBlanks (text : Text) : Text :=
  text.dropWhile fun character =>
    character = ' ' || character = '\t' || character = '\n' || character = '\r'

/-- The value of a hexadecimal digit. -/
def hexDigit? (digit : Char) : Option Nat :=
  if digit.isDigit then some (digit.toNat - 48)
  else if 'a' ≤ digit.toLower ∧ digit.toLower ≤ 'f' then some (digit.toLower.toNat - 87)
  else none

/-- The value of four hexadecimal digits. -/
def hexNumber? (digits : Text) : Option Nat :=
  digits.foldl (fun value digit => do return (← value) * 16 + (← hexDigit? digit)) (some 0)

/-- The value of an escape of four hexadecimal digits at the beginning of a text. -/
def hexEscape? (text : Text) : Option Nat :=
  if text.length < 4 then none else hexNumber? (text.take 4)

/-- The character of a code point, or the replacement character for half of a pair. -/
def charOf (code : Nat) : Char :=
  if 0xD800 ≤ code ∧ code ≤ 0xDFFF then '\uFFFD' else Char.ofNat code

def readEscape : Text → Reading (Char × Text)
  | '"' :: rest => .ok ('"', rest)
  | '\\' :: rest => .ok ('\\', rest)
  | '/' :: rest => .ok ('/', rest)
  | 'b' :: rest => .ok ('\x08', rest)
  | 'f' :: rest => .ok ('\x0c', rest)
  | 'n' :: rest => .ok ('\n', rest)
  | 'r' :: rest => .ok ('\r', rest)
  | 't' :: rest => .ok ('\t', rest)
  | 'u' :: rest =>
    match hexEscape? rest with
    | none => .error .malformed
    | some high =>
      let after := rest.drop 4
      let alone := (charOf high, after)
      if 0xD800 ≤ high ∧ high ≤ 0xDBFF then
        match after with
        | '\\' :: 'u' :: second =>
          match hexEscape? second with
          | none => .error .malformed
          | some low =>
            if 0xDC00 ≤ low ∧ low ≤ 0xDFFF then
              .ok (Char.ofNat (0x10000 + (high - 0xD800) * 0x400 + (low - 0xDC00)),
                second.drop 4)
            else .ok alone
        | _ => .ok alone
      else .ok alone
  | _ => .error .malformed

/-- Read a string after its opening quote, with the characters read so far from the last to
the first. -/
def readString : (fuel : Nat) → (reversed : Text) → Text → Reading (Text × Text)
  | 0, _, _ | _, _, [] => .error .malformed
  | fuel + 1, reversed, character :: rest =>
    if character = '"' then .ok (reversed.reverse, rest)
    else if character = '\\' then do
      let (escaped, rest) ← readEscape rest
      readString fuel (escaped :: reversed) rest
    else if character.toNat < 0x20 then .error .malformed
    else readString fuel (character :: reversed) rest

/-- The fraction of a number: a point with digits behind it. -/
def splitFraction (text : Text) : Text × Text :=
  match text with
  | '.' :: rest =>
    let digits := rest.takeWhile Char.isDigit
    if digits.isEmpty then ([], text) else (digits, rest.drop digits.length)
  | _ => ([], text)

def splitPower (text : Text) : Option Int × Text :=
  let read (negative : Bool) (rest : Text) : Option Int × Text :=
    let digits := rest.takeWhile Char.isDigit
    if digits.isEmpty then (none, text)
    else
      let size : Int := Text.toNumber digits
      (some (if negative then -size else size), rest.drop digits.length)
  match text with
  | 'e' :: '-' :: rest | 'E' :: '-' :: rest => read true rest
  | 'e' :: '+' :: rest | 'E' :: '+' :: rest => read false rest
  | 'e' :: rest | 'E' :: rest => read false rest
  | _ => (none, text)

def readNumber (negative : Bool) (text : Text) : Reading (Value × Text) :=
  let whole :=
    match text with
    | '0' :: _ => ['0']
    | _ => text.takeWhile Char.isDigit
  if whole.isEmpty then .error .malformed
  else
    let rest := text.drop whole.length
    let (fraction, rest) := splitFraction rest
    let (power, rest) := splitPower rest
    if fraction.isEmpty ∧ power.isNone then do
      return (.int (← integer negative whole), rest)
    else .ok (.float (Decimal.toFloat negative whole fraction (power.getD 0)), rest)

/-- Read a value that is neither an array nor an object. -/
def readPlain (text : Text) : Reading (Value × Text) :=
  match text with
  | '"' :: rest => do
    let (value, rest) ← readString (rest.length + 1) [] rest
    return (.text value, rest)
  | 'n' :: 'u' :: 'l' :: 'l' :: rest => .ok (.null, rest)
  | 't' :: 'r' :: 'u' :: 'e' :: rest => .ok (.bool true, rest)
  | 'f' :: 'a' :: 'l' :: 's' :: 'e' :: rest => .ok (.bool false, rest)
  | 'N' :: 'a' :: 'N' :: rest => .ok (.float (0.0 / 0.0), rest)
  | 'I' :: 'n' :: 'f' :: 'i' :: 'n' :: 'i' :: 't' :: 'y' :: rest => .ok (.float (1.0 / 0.0), rest)
  | '-' :: 'I' :: 'n' :: 'f' :: 'i' :: 'n' :: 'i' :: 't' :: 'y' :: rest =>
    .ok (.float (-1.0 / 0.0), rest)
  | '-' :: rest => readNumber true rest
  | _ => readNumber false text

mutual

/-- Read a value, nested so many levels deep. -/
def readValue : (fuel depth : Nat) → Text → Reading (Value × Text)
  | 0, _, _ => .error .malformed
  | fuel + 1, depth, text =>
    match text with
    | '[' :: rest =>
      if deepest < depth then .error (.fault .depth)
      else
        match skipBlanks rest with
        | ']' :: rest => .ok (.list [], rest)
        | rest => readItems fuel (depth + 1) [] rest
    | '\x7b' :: rest =>
      if deepest < depth then .error (.fault .depth)
      else
        match skipBlanks rest with
        | '\x7d' :: rest => .ok (.mapping [], rest)
        | rest => readEntries fuel (depth + 1) [] rest
    | _ => readPlain text

/-- Read the items of an array up to its end. -/
def readItems : (fuel depth : Nat) → (reversed : List Value) → Text → Reading (Value × Text)
  | 0, _, _, _ => .error .malformed
  | fuel + 1, depth, reversed, text => do
    let (item, rest) ← readValue fuel depth text
    match skipBlanks rest with
    | ']' :: rest => return (.list (item :: reversed).reverse, rest)
    | ',' :: rest => readItems fuel depth (item :: reversed) (skipBlanks rest)
    | _ => throw .malformed

/-- Read the entries of an object up to its end. -/
def readEntries : (fuel depth : Nat) → (entries : List (Value × Value)) → Text →
    Reading (Value × Text)
  | 0, _, _, _ => .error .malformed
  | fuel + 1, depth, entries, text =>
    match text with
    | '"' :: rest => do
      let (key, rest) ← readString (rest.length + 1) [] rest
      match skipBlanks rest with
      | ':' :: rest =>
        let (value, rest) ← readValue fuel depth (skipBlanks rest)
        let entries := put (.text key) value entries
        match skipBlanks rest with
        | '\x7d' :: rest => return (.mapping entries, rest)
        | ',' :: rest => readEntries fuel depth entries (skipBlanks rest)
        | _ => throw .malformed
      | _ => throw .malformed
    | _ => .error .malformed

end

def read (text : Text) : Reading Value := do
  let (value, rest) ← readValue (2 * text.length + 2) 0 (skipBlanks text)
  if (skipBlanks rest).isEmpty then return value else throw .malformed

end Json

end Config

end StaticSite
