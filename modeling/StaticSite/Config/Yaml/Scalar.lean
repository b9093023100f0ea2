import StaticSite.Config.Base64
import StaticSite.Config.Yaml.Node
import StaticSite.Decimal.Written
import StaticSite.Text.Case

/-!
# Scalars of YAML

The text of a scalar becomes a value by the tag of its node.  A tag that is written out may ask
for more than a plain scalar of its kind: numbers may have white space around them, a second
sign and digits of any script.
-/

namespace StaticSite

namespace Config

namespace Yaml

def splitSign (text : Text) : Bool × Text :=
  match text with
  | '-' :: rest => (true, rest)
  | '+' :: rest => (false, rest)
  | _ => (false, text)

/-- The letter that may stand behind a zero in front of digits of a base. -/
def baseLetter (base : Nat) : Char :=
  if base = 2 then 'b' else if base = 8 then 'o' else 'x'

/-- Digits of a base without the zero and the letter that may stand in front. -/
def dropBaseMark (base : Nat) : Text → Text
  | '0' :: letter :: digits =>
    if letter.toLower = baseLetter base then digits else '0' :: letter :: digits
  | digits => digits

/-- An integer in base two, eight or sixteen. -/
def readBase (base : Nat) (text : Text) : Reading Int :=
  let (negative, unsigned) := splitSign (Decimal.plainNumber text)
  let digits := dropBaseMark base unsigned
  let isDigit (digit : Char) : Bool := (Json.hexNumber? [digit]).any (· < base)
  if ! digits.isEmpty && digits.all isDigit then
    let magnitude : Int := Toml.inBase base digits
    .ok (if negative then -magnitude else magnitude)
  else
    .error (.fault (.value ("invalid literal for int() with base " ++ Text.ofNat base ++ ": " ++
      Text.quoted text)))

def readDecimal (text : Text) : Reading Int :=
  match Decimal.integer? text with
  | some value => .ok value
  | none =>
    .error (.fault (.value ("invalid literal for int() with base 10: " ++ Text.quoted text)))

/-- The value of groups that count by sixties, from the first group on. -/
def inSixties (groups : List Int) : Int := groups.foldl (fun value group => value * 60 + group) 0

/-- A number without underscores and without its sign, and whether that is a minus. -/
def unsignedNumber (text : Text) : Reading (Bool × Text) := do
  let bare := text.filter (· ≠ '_')
  if bare.isEmpty then throw (.fault .emptyText)
  return splitSign bare

def readInteger (text : Text) : Reading Int := do
  let (negative, digits) ← unsignedNumber text
  if digits.isEmpty then throw (.fault .emptyText)
  let magnitude ←
    match digits with
    | '0' :: 'b' :: digits => readBase 2 digits
    | '0' :: 'x' :: digits => readBase 16 digits
    | ['0'] => pure (0 : Int)
    | '0' :: _ => readBase 8 digits
    | _ => do
      if ':' ∈ digits then
        pure (inSixties (← (Text.splitOn (· = ':') digits).mapM readDecimal))
      else readDecimal digits
  return if negative then -magnitude else magnitude

/-- A number with a decimal point, or without one. -/
def readFraction (text : Text) : Reading Float :=
  match Decimal.float? text with
  | some value => .ok value
  | none =>
    .error (.fault (.value ("could not convert string to float: " ++ Text.quoted text)))

/-- The value of groups that count by sixties, the last of which may have a fraction. -/
def addSixties (groups : List Float) : Float :=
  (groups.reverse.foldl
    (fun (value, base) group => (value + group * base, base * 60.0)) (0.0, 1.0)).1

def isStandardNaN (text : Text) : Bool :=
  (splitSign (Text.lower (text.filter (· ≠ '_')))).2 = ".nan".toList

/-- A number with a decimal point. -/
def readFloat (text : Text) : Reading Float := do
  let (negative, digits) ← unsignedNumber (Text.lower text)
  let magnitude ←
    if digits = ".inf" then pure (1.0 / 0.0)
    else if digits = ".nan" then pure (0.0 / 0.0)
    else if ':' ∈ digits then do
      pure (addSixties (← (Text.splitOn (· = ':') digits).mapM readFraction))
    else readFraction digits
  return if negative then -magnitude else magnitude

def readOctets (text : Text) : Reading Bytes :=
  match text.all fun character => character.toNat < 0x80, Base64.read? text with
  | true, some octets => .ok octets
  | _, _ => .error .malformed

def readStamp (text : Text) : Reading Value :=
  match stamp? (dropLastFeed text) with
  | none => .error (.fault .noMatch)
  | some parts =>
    let outside : Reading Value := .error (.fault (.value "day is out of range for month"))
    match parts.time with
    | none => if parts.date.isValid then .ok (.date parts.date) else outside
    | some time =>
      let moment : Calendar.Moment := ⟨parts.date, time.hour, time.minute, time.second⟩
      match parts.zone with
      | some zone =>
        if 86400 ≤ zone.natAbs then .error (.fault (Calendar.zoneTooFar zone))
        else if moment.isValid then .ok (.timestamp ⟨moment, time.microsecond, some zone⟩)
        else outside
      | none =>
        if moment.isValid then .ok (.timestamp ⟨moment, time.microsecond, none⟩) else outside

def readScalar (tag text : Text) : Reading Value :=
  if tag = standardTag "str" then .ok (.text text)
  else if tag = standardTag "null" then .ok .null
  else if tag = standardTag "bool" then
    let word := Text.lower text
    match truthWords.find? fun (candidate, _) => candidate.toList = word with
    | some (_, truth) => .ok (.bool truth)
    | none => .error (.fault (.unknownWord word))
  else if tag = standardTag "int" then (readInteger text).map .int
  else if tag = standardTag "float" then (readFloat text).map .float
  else if tag = standardTag "binary" then (readOctets text).map .octets
  else if tag = standardTag "timestamp" then readStamp text
  else .error .malformed

def isScalarTag (tag : Text) : Bool :=
  ["str", "null", "bool", "int", "float", "binary", "timestamp"].any fun name =>
    tag = standardTag name

end Yaml

end Config

end StaticSite
