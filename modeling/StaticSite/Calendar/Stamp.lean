import StaticSite.Calendar.Date
import StaticSite.Calendar.Zone

/-!
# Date stamps

A post carries a stamp such as `Mon, 01 Jan 2024 00:00:00 UTC`: a weekday, a date, a time of
day and a zone.  The weekday has to be the name of one but is not checked against the date.
Letters may have either case, and the parts may be any blanks apart.
-/

namespace StaticSite

namespace Calendar

/-- Read one of several three-letter names in either case; the answer is its position. -/
def readName (names : List String) (text : Text) : Option (Nat × Text) :=
  let wanted := Text.lowerAscii (text.take 3)
  (names.findIdx? fun name => Text.lowerAscii (name.toList.take 3) = wanted).map
    fun index => (index, text.drop 3)

def readBlanks : Text → Option Text
  | [] => none
  | character :: text =>
    if Text.isBlank character then some (text.dropWhile Text.isBlank) else none

def readChar (expected : Char) : Text → Option Text
  | [] => none
  | character :: text => if character = expected then some text else none

/-- Read a number of one digit, or of two digits of which the first is an ASCII digit up to
a limit. -/
def readUpTo (firstLimit : Char) : Text → Option (Nat × Text)
  | first :: second :: text => do
    let tens ← Text.digitValue? first
    match Text.digitValue? second with
    | some ones =>
      if '0' ≤ first ∧ first ≤ firstLimit then return (tens * 10 + ones, text)
      else return (tens, second :: text)
    | none => return (tens, second :: text)
  | [first] => do return (← Text.digitValue? first, [])
  | [] => none

/-- Read the day of a month: one or two digits, from 1 to 31. -/
def readDay : Text → Option (Nat × Text)
  | '3' :: '0' :: text => some (30, text)
  | '3' :: '1' :: text => some (31, text)
  | '0' :: second :: text => do
    if '1' ≤ second ∧ second ≤ '9' then return (← Text.digitValue? second, text) else none
  | first :: text => do
    if '1' ≤ first ∧ first ≤ '9' then
      let tens ← Text.digitValue? first
      match text with
      | second :: rest =>
        match Text.digitValue? second with
        | some ones =>
          if first ≤ '2' then return (tens * 10 + ones, rest) else return (tens, text)
        | none => return (tens, text)
      | [] => return (tens, text)
    else none
  | [] => none

def readYear : Text → Option (Nat × Text)
  | a :: b :: c :: d :: text => do
    return ((← Text.digitValue? a) * 1000 + (← Text.digitValue? b) * 100 +
      (← Text.digitValue? c) * 10 + (← Text.digitValue? d), text)
  | _ => none

/-- Read an hour: one digit, or two digits up to 23. -/
def readHour : Text → Option (Nat × Text)
  | '2' :: second :: text =>
    if '0' ≤ second ∧ second ≤ '3' then do return (20 + (← Text.digitValue? second), text)
    else some (2, second :: text)
  | text => readUpTo '1' text

/-- Read a second: one digit, or two digits up to 61. -/
def readSecond : Text → Option (Nat × Text)
  | '6' :: '0' :: text => some (60, text)
  | '6' :: '1' :: text => some (61, text)
  | text => readUpTo '5' text

/-- Read a day, a month and a year with blanks between them. -/
def readDate (text : Text) : Option (Date × Text) := do
  let (day, text) ← readDay text
  let (month, text) ← readName monthNames (← readBlanks text)
  let (year, text) ← readYear (← readBlanks text)
  return (⟨year, month + 1, day⟩, text)

/-- Read the whole of a stamp without its zone. -/
def readWallClock (text : Text) : Option Moment := do
  let (_, text) ← readName weekdayNames text
  let (date, text) ← readDate (← readBlanks (← readChar ',' text))
  let (hour, text) ← readHour (← readBlanks text)
  let (minute, text) ← readUpTo '5' (← readChar ':' text)
  let (second, text) ← readSecond (← readChar ':' text)
  let moment : Moment := ⟨date, hour, minute, second⟩
  if text.isEmpty && moment.isValid then some moment else none

/-- A stamp without its zone, and the zone: what stands before and after the last space. -/
def splitStamp (value : Text) : Text × Text :=
  let trimmed := Text.trim value
  (Text.cutLast? ' ' trimmed).getD ([], trimmed)

/-- The moment of a stamp in universal time. -/
def parseStamp (value : Text) (source : Option Text) : Except Fault Moment := do
  let (head, zone) := splitStamp value
  match readWallClock head with
  | none => throw (.parse (.invalidDate value) ⟨source, none, none⟩)
  | some moment =>
    let offset ← parseZone zone source
    match moment.shift? (-offset) with
    | none => throw .range
    | some moment => return moment

/-- The date in a stamp as a page shows it: the second to fourth word, with the full name of
the month. -/
def displayStamp (value : Text) (source : Option Text) : Except Fault Text :=
  let words := (Text.words value).drop 1 |>.take 3
  match readDate (Text.join " " words) with
  | some (date, []) =>
    if date.isValid then
      .ok (monthName date.month ++ " " ++ Text.ofNat date.day ++ ", " ++ Text.ofNat date.year)
    else .error (.parse (.invalidDate value) ⟨source, none, none⟩)
  | _ => .error (.parse (.invalidDate value) ⟨source, none, none⟩)

/-- Digits with zeros in front, up to four. -/
def fourDigits (number : Nat) : Text := Text.padLeft 4 '0' (Text.ofNat number)

/-- The standard form of a day. -/
def Date.iso (date : Date) : Text :=
  fourDigits date.year ++ "-" ++ Text.twoDigits date.month ++ "-" ++ Text.twoDigits date.day

/-- The standard form of a time of day. -/
def isoTime (hour minute second : Nat) : Text :=
  Text.twoDigits hour ++ ":" ++ Text.twoDigits minute ++ ":" ++ Text.twoDigits second

/-- The standard form of a moment, without a zone. -/
def Moment.iso (moment : Moment) : Text :=
  moment.date.iso ++ "T" ++ isoTime moment.hour moment.minute moment.second

end Calendar

end StaticSite
