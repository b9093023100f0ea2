import StaticSite.Calendar.Stamp
import StaticSite.Decimal.Shortest
import StaticSite.Text.Printable
import StaticSite.Text.Utf8

/-!
# Values of a configuration

A configuration file in any of its formats is read into one type of values.  This file also
says how a value is written where a page needs a text.
-/

namespace StaticSite

namespace Config

/-- A moment of a configuration: parts of a second, and perhaps a zone in seconds east of the
universal time. -/
structure Timestamp where
  moment : Calendar.Moment
  microsecond : Nat := 0
  zone : Option Int := none
  deriving DecidableEq, Repr

/-- The seconds from the first moment of year 1 to a timestamp with a zone. -/
def Timestamp.seconds (stamp : Timestamp) (zone : Int) : Int := stamp.moment.toSeconds - zone

/-- A time of day. -/
structure ClockTime where
  hour : Nat
  minute : Nat
  second : Nat
  microsecond : Nat := 0
  deriving DecidableEq, Repr

/-- A value of a configuration. -/
inductive Value where
  | null
  | bool (value : Bool)
  | int (value : Int)
  | float (value : Float)
  | text (value : Text)
  | octets (value : Bytes)
  | date (value : Calendar.Date)
  | timestamp (value : Timestamp)
  | time (value : ClockTime)
  | list (items : List Value)
  /-- Keys with their values, in the order in which the keys came in. -/
  | mapping (entries : List (Value × Value))
  | set (keys : List Value)
  | pair (first second : Value)
  /-- A list, or else a mapping, that this value itself stands in. -/
  | again (isList : Bool)

/-- Why a configuration cannot be read. -/
inductive Trouble where
  /-- The text does not have the form of its format. -/
  | malformed
  /-- The form is right, but a value in it cannot be made. -/
  | fault (fault : Fault)
  deriving DecidableEq, Repr

/-- The result of reading a configuration or a part of it. -/
abbrev Reading := Except Trouble

/-- How many digits a decimal integer may have. -/
def longestInteger : Nat := 4300

/-- The fault of an integer that has too many digits. -/
def tooLong (digits : Nat) : Fault :=
  .value ("Exceeds the limit (4300 digits) for integer string conversion: value has " ++
    Text.ofNat digits ++ " digits; use sys.set_int_max_str_digits() to increase the limit")

def integer (negative : Bool) (digits : Text) : Reading Int :=
  if longestInteger < digits.length then .error (.fault (tooLong digits.length))
  else
    let magnitude : Int := Text.toNumber digits
    .ok (if negative then -magnitude else magnitude)

/-- The parts of a second behind a decimal point, if there are any. -/
def fractionText (microsecond : Nat) : Text :=
  if microsecond = 0 then [] else '.' :: Text.padLeft 6 '0' (Text.ofNat microsecond)

/-- A zone as hours and minutes with a sign. -/
def zoneText (seconds : Int) : Text :=
  let size := seconds.natAbs
  (if seconds < 0 then "-" else "+") ++ Text.twoDigits (size / 3600) ++ ":" ++
    Text.twoDigits (size % 3600 / 60) ++
    if size % 60 = 0 then [] else ':' :: Text.twoDigits (size % 60)

/-- The standard form of a timestamp, with a separator between the date and the time. -/
def Timestamp.iso (stamp : Timestamp) (separator : Char) : Text :=
  stamp.moment.date.iso ++ [separator] ++
    Calendar.isoTime stamp.moment.hour stamp.moment.minute stamp.moment.second ++
    fractionText stamp.microsecond ++
    match stamp.zone with
    | none => []
    | some seconds => zoneText seconds

/-- The standard form of a time of day. -/
def ClockTime.iso (time : ClockTime) : Text :=
  Calendar.isoTime time.hour time.minute time.second ++ fractionText time.microsecond

/-- Numbers in a list, the last ones left out as long as they are zero and not among the
first. -/
def trailing (required : List Nat) (second microsecond : Nat) : Text :=
  let optional :=
    if microsecond ≠ 0 then [second, microsecond] else if second ≠ 0 then [second] else []
  Text.join ", " ((required ++ optional).map Text.ofNat)

/-- A span of time as it is shown within a value. -/
def spanText (seconds : Int) : Text :=
  let days := seconds.fdiv 86400
  let rest := seconds.fmod 86400
  let parts : List Text :=
    (if days = 0 then [] else ["days=".toList ++ Text.ofInt days]) ++
      (if rest = 0 then [] else ["seconds=".toList ++ Text.ofInt rest])
  "datetime.timedelta(" ++ Text.join ", " parts ++ ")"

def zoneWithin (seconds : Int) : Text :=
  if seconds = 0 then "datetime.timezone.utc"
  else "datetime.timezone(" ++ spanText seconds ++ ")"

def dateWithin (date : Calendar.Date) : Text :=
  "datetime.date(" ++ Text.join ", " ([date.year, date.month, date.day].map Text.ofNat) ++ ")"

def Timestamp.within (stamp : Timestamp) : Text :=
  let moment := stamp.moment
  let date := moment.date
  "datetime.datetime(" ++
    trailing [date.year, date.month, date.day, moment.hour, moment.minute] moment.second
      stamp.microsecond ++
    (match stamp.zone with
    | none => []
    | some seconds => ", tzinfo=".toList ++ zoneWithin seconds) ++ ")"

/-- A time of day as it is shown within a value. -/
def ClockTime.within (time : ClockTime) : Text :=
  "datetime.time(" ++ trailing [time.hour, time.minute] time.second time.microsecond ++ ")"

def octetWithin (quote : Char) (octet : UInt8) : Text :=
  let character := Char.ofNat octet.toNat
  let digits := Nat.toDigits 16 octet.toNat
  if character = quote || character = '\\' then ['\\', character]
  else if character = '\t' then "\\t"
  else if character = '\n' then "\\n"
  else if character = '\r' then "\\r"
  else if octet < 0x20 || 0x7F ≤ octet then "\\x" ++ Text.padLeft 2 '0' digits
  else [character]

def octetsWithin (octets : Bytes) : Text :=
  let quote := if 0x27 ∈ octets && 0x22 ∉ octets then '"' else '\x27'
  'b' :: quote :: (octets.flatMap (octetWithin quote) ++ [quote])

mutual

/-- A value as it is shown within another one: texts are quoted. -/
def Value.within : Value → Text
  | .null => "None"
  | .bool value => if value then "True" else "False"
  | .int value => Text.ofInt value
  | .float value => Decimal.ofFloat value
  | .text value => Text.quoted value
  | .octets value => octetsWithin value
  | .date value => dateWithin value
  | .timestamp value => value.within
  | .time value => value.within
  | .list items => "[" ++ Text.join ", " (itemsWithin items) ++ "]"
  | .mapping entries => "\x7b" ++ Text.join ", " (entriesWithin entries) ++ "\x7d"
  | .set [] => "set()"
  | .set keys => "\x7b" ++ Text.join ", " (itemsWithin keys) ++ "\x7d"
  | .pair first second => "(" ++ first.within ++ ", " ++ second.within ++ ")"
  | .again isList => if isList then "[...]" else "\x7b...\x7d"

def itemsWithin : List Value → List Text
  | [] => []
  | item :: items => item.within :: itemsWithin items

/-- The entries of a mapping as they are shown. -/
def entriesWithin : List (Value × Value) → List Text
  | [] => []
  | (key, value) :: entries => (key.within ++ ": " ++ value.within) :: entriesWithin entries

end

def Value.asText : Value → Text
  | .text value => value
  | .date value => value.iso
  | .timestamp value => value.iso ' '
  | .time value => value.iso
  | value => value.within

def isInteger (value : Int) (number : Float) : Bool :=
  (Decimal.Parts.ofBits number.toBits.toNat).equals value

/-- Whether two timestamps are the same: both have a zone and are one moment, or neither
has. -/
def sameStamp (first second : Timestamp) : Bool :=
  match first.zone, second.zone with
  | some here, some there =>
    first.seconds here = second.seconds there && first.microsecond = second.microsecond
  | _, _ => first = second

def truthNumber (value : Bool) : Int := if value then 1 else 0

/-- Whether two keys of a mapping are one and the same.  Numbers are the same if they are
equal, whatever their type. -/
def sameKey : Value → Value → Bool
  | .text first, .text second => first = second
  | .octets first, .octets second => first = second
  | .null, .null => true
  | .bool first, .bool second => first = second
  | .int first, .int second => first = second
  | .float first, .float second => first == second
  | .bool first, .int second | .int second, .bool first => truthNumber first = second
  | .int first, .float second | .float second, .int first => isInteger first second
  | .bool first, .float second | .float second, .bool first =>
    isInteger (truthNumber first) second
  | .date first, .date second => first = second
  | .timestamp first, .timestamp second => sameStamp first second
  | .time first, .time second => first = second
  | _, _ => false

/-- Set a key of a mapping; a key that is there already keeps its place. -/
def put (key value : Value) : List (Value × Value) → List (Value × Value)
  | [] => [(key, value)]
  | (candidate, old) :: entries =>
    if sameKey candidate key then (candidate, value) :: entries
    else (candidate, old) :: put key value entries

def get? (key : Text) : List (Value × Value) → Option Value
  | [] => none
  | (.text candidate, value) :: entries =>
    if candidate = key then some value else get? key entries
  | _ :: entries => get? key entries

end Config

end StaticSite
