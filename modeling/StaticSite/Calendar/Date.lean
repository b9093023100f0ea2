import StaticSite.Text.Basic

/-!
# Dates

The Gregorian calendar from year 1 to year 9999.  A moment is a date with a time of day; it
corresponds to the number of seconds since the first moment of year 1.
-/

namespace StaticSite

namespace Calendar

def isLeap (year : Nat) : Bool := year % 4 == 0 && (year % 100 != 0 || year % 400 == 0)

def monthLengths (leap : Bool) : List Nat :=
  [31, if leap then 29 else 28, 31, 30, 31, 30, 31, 31, 30, 31, 30, 31]

/-- The length of a month; there is no month without days in a year. -/
def monthLength (year month : Nat) : Nat :=
  if month = 0 then 0 else (monthLengths (isLeap year))[month - 1]?.getD 0

def daysBeforeYear (year : Nat) : Nat :=
  let past := year - 1
  past * 365 + past / 4 - past / 100 + past / 400

def daysBeforeMonth (year month : Nat) : Nat :=
  ((monthLengths (isLeap year)).take (month - 1)).foldl (· + ·) 0

def lastYear : Nat := 9999

/-- A day. -/
structure Date where
  year : Nat
  month : Nat
  day : Nat
  deriving DecidableEq, Repr

namespace Date

def isValid (date : Date) : Bool :=
  1 ≤ date.year && date.year ≤ lastYear && 1 ≤ date.month && date.month ≤ 12 &&
    1 ≤ date.day && date.day ≤ monthLength date.year date.month

/-- The number of days before a day since the first day of year 1. -/
def toDays (date : Date) : Nat :=
  daysBeforeYear date.year + daysBeforeMonth date.year date.month + (date.day - 1)

/-- The month and the day of a day within a year, given the lengths of the months from
`month` on. -/
def monthAndDay (month : Nat) : List Nat → Nat → Nat × Nat
  | [], offset => (month, offset + 1)
  | length :: lengths, offset =>
    if offset < length then (month, offset + 1)
    else monthAndDay (month + 1) lengths (offset - length)

/-- The day after a number of days since the first day of year 1. -/
def ofDays (days : Nat) : Date :=
  let eras := days / 146097
  let inEra := days % 146097
  let centuries := min (inEra / 36524) 3
  let inCentury := inEra - centuries * 36524
  let cycles := inCentury / 1461
  let inCycle := inCentury % 1461
  let years := min (inCycle / 365) 3
  let year := eras * 400 + centuries * 100 + cycles * 4 + years + 1
  let (month, day) := monthAndDay 1 (monthLengths (isLeap year)) (inCycle - years * 365)
  ⟨year, month, day⟩

end Date

/-- A date with a time of day. -/
structure Moment where
  date : Date
  hour : Nat
  minute : Nat
  second : Nat
  deriving DecidableEq, Repr

namespace Moment

def isValid (moment : Moment) : Bool :=
  moment.date.isValid && moment.hour < 24 && moment.minute < 60 && moment.second < 60

/-- The number of seconds since the first moment of year 1. -/
def toSeconds (moment : Moment) : Nat :=
  moment.date.toDays * 86400 + moment.hour * 3600 + moment.minute * 60 + moment.second

/-- The moment a number of seconds after the first moment of year 1. -/
def ofSeconds (seconds : Nat) : Moment :=
  let inDay := seconds % 86400
  ⟨Date.ofDays (seconds / 86400), inDay / 3600, inDay % 3600 / 60, inDay % 60⟩

def secondsOfCalendar : Nat := daysBeforeYear (lastYear + 1) * 86400

/-- Move a moment by a number of seconds; the calendar may end before. -/
def shift? (moment : Moment) (seconds : Int) : Option Moment :=
  let total := (moment.toSeconds : Int) + seconds
  if 0 ≤ total ∧ total < secondsOfCalendar then some (ofSeconds total.toNat) else none

end Moment

def monthNames : List String :=
  ["January", "February", "March", "April", "May", "June", "July", "August", "September",
    "October", "November", "December"]

/-- The English names of the days of the week, beginning with Monday. -/
def weekdayNames : List String :=
  ["Monday", "Tuesday", "Wednesday", "Thursday", "Friday", "Saturday", "Sunday"]

def monthName (month : Nat) : Text := (monthNames[month - 1]?.getD "").toList

end Calendar

end StaticSite
