import Mathlib
import StaticSite.Calendar.Date

/-!
# Counting days and seconds

The days of the calendar are numbered without gaps, and so are the seconds.  Every number of days
before the end of the last year belongs to exactly one day, the numbers of two days compare as their
years, months and days do, and the next day or second has the next number, over the ends of months,
of years and of leap years.
-/

namespace StaticSite

namespace Calendar

section Years

variable {year later : Nat}

def yearLength (year : Nat) : Nat := if isLeap year then 366 else 365

theorem sum_monthLengths (leap : Bool) :
    (monthLengths leap).sum = if leap then 366 else 365 := by
  cases leap <;> rfl

/-- How many of the numbers up to the next one are multiples of a number. -/
theorem succ_div (number divisor : Nat) :
    (number + 1) / divisor = number / divisor + if (number + 1) % divisor = 0 then 1 else 0 := by
  rw [Nat.succ_div]
  exact congrArg _ (if_congr (Nat.dvd_iff_mod_eq_zero ..) rfl rfl)

theorem daysBeforeYear_succ (positive : 1 ≤ year) :
    daysBeforeYear (year + 1) = daysBeforeYear year + yearLength year := by
  obtain ⟨past, rfl⟩ := Nat.exists_eq_add_of_le' positive
  have rare : (past + 1) / 100 ≤ past / 4 := by omega
  simp only [daysBeforeYear, yearLength, Nat.add_sub_cancel, succ_div past 4, succ_div past 100,
    succ_div past 400] at rare ⊢
  simp only [isLeap, Bool.and_eq_true, Bool.or_eq_true, beq_iff_eq, bne_iff_ne, ne_eq]
  split_ifs <;> omega

theorem daysBeforeYear_mono (positive : 1 ≤ year) (less : year ≤ later) :
    daysBeforeYear year ≤ daysBeforeYear later := by
  induction less with
  | refl => exact Nat.le_refl _
  | step less ih =>
      rw [daysBeforeYear_succ (Nat.le_trans positive less)]
      exact Nat.le_trans ih (Nat.le_add_right _ _)

/-- A year by its place in the cycles of four hundred, one hundred and four years. -/
theorem daysBeforeYear_cycles {eras centuries cycles years : Nat} (fewCenturies : centuries ≤ 3)
    (fewCycles : cycles ≤ 24) (fewYears : years ≤ 3) :
    daysBeforeYear (eras * 400 + centuries * 100 + cycles * 4 + years + 1) =
      eras * 146097 + centuries * 36524 + cycles * 1461 + years * 365 := by
  simp only [daysBeforeYear]
  omega

theorem yearLength_cycles {eras centuries cycles years : Nat} (fewCenturies : centuries ≤ 3)
    (fewCycles : cycles ≤ 24) (fewYears : years ≤ 3) :
    yearLength (eras * 400 + centuries * 100 + cycles * 4 + years + 1) =
      if years = 3 ∧ (cycles = 24 → centuries = 3) then 366 else 365 := by
  simp only [yearLength, isLeap, Bool.and_eq_true, Bool.or_eq_true, beq_iff_eq, bne_iff_ne, ne_eq]
  refine if_congr ?_ rfl rfl
  constructor <;> omega

end Years

section Months

variable {year month later : Nat}

theorem daysBeforeMonth_eq (year month : Nat) :
    daysBeforeMonth year month = ((monthLengths (isLeap year)).take (month - 1)).sum :=
  List.sum_eq_foldl_nat.symm

theorem length_monthLengths (leap : Bool) : (monthLengths leap).length = 12 := rfl

theorem monthLength_succ (within : month < (monthLengths (isLeap year)).length) :
    monthLength year (month + 1) = (monthLengths (isLeap year))[month] := by
  simp [monthLength, within]

theorem monthLength_le (year month : Nat) : monthLength year month ≤ 31 := by
  have short : ∀ leap, ∀ length ∈ monthLengths leap, length ≤ 31 := by decide
  unfold monthLength
  split
  · decide
  · cases found : (monthLengths (isLeap year))[month - 1]? with
    | none => decide
    | some length => exact short _ length (List.mem_of_getElem? found)

theorem daysBeforeMonth_succ (positive : 1 ≤ month) :
    daysBeforeMonth year (month + 1) = daysBeforeMonth year month + monthLength year month := by
  obtain ⟨past, rfl⟩ := Nat.exists_eq_add_of_le' positive
  rw [daysBeforeMonth_eq, daysBeforeMonth_eq, Nat.add_sub_cancel, Nat.add_sub_cancel,
    List.take_add_one, List.sum_append, monthLength, if_neg (Nat.succ_ne_zero past),
    Nat.add_sub_cancel]
  cases (monthLengths (isLeap year))[past]? <;> rfl

theorem daysBeforeMonth_mono (positive : 1 ≤ month) (less : month ≤ later) :
    daysBeforeMonth year month ≤ daysBeforeMonth year later := by
  induction less with
  | refl => exact Nat.le_refl _
  | step less ih =>
      rw [daysBeforeMonth_succ (Nat.le_trans positive less)]
      exact Nat.le_trans ih (Nat.le_add_right _ _)

/-- The months of a year make up the year. -/
theorem daysBeforeMonth_last (year : Nat) : daysBeforeMonth year 13 = yearLength year := by
  rw [daysBeforeMonth_eq, List.take_of_length_le (Nat.le_of_eq (length_monthLengths _)), sum_monthLengths]
  rfl

/-- A day within months of given lengths is a day of one of them. -/
theorem monthAndDay_eq (first : Nat) {lengths : List Nat} {offset : Nat}
    (within : offset < lengths.sum) :
    ∃ index day, ∃ inside : index < lengths.length, day < lengths[index] ∧
      (lengths.take index).sum + day = offset ∧
      Date.monthAndDay first lengths offset = (first + index, day + 1) := by
  induction lengths generalizing first offset with
  | nil => simp at within
  | cons length lengths ih =>
      rw [Date.monthAndDay]
      split
      · next early => exact ⟨0, offset, by simp, by simpa using early, by simp, rfl⟩
      · next late =>
          rw [List.sum_cons] at within
          obtain ⟨index, day, inside, short, total, same⟩ :=
            @ih (first + 1) (offset - length) (by omega)
          refine ⟨index + 1, day, by simpa using inside, by simpa using short, ?_, ?_⟩
          · rw [List.take_succ_cons, List.sum_cons]
            omega
          · rw [same, Nat.add_assoc, Nat.add_comm 1 index]

end Months

section Days

variable {date first second : Date}

theorem Date.isValid_iff :
    date.isValid = true ↔ (1 ≤ date.year ∧ date.year ≤ lastYear) ∧
      (1 ≤ date.month ∧ date.month ≤ 12) ∧
        1 ≤ date.day ∧ date.day ≤ monthLength date.year date.month := by
  simp only [isValid, Bool.and_eq_true, decide_eq_true_eq]
  omega

/-- The number of a day lies within its month. -/
theorem Date.toDays_lt_month (valid : date.isValid = true) :
    date.toDays < daysBeforeYear date.year + daysBeforeMonth date.year (date.month + 1) := by
  obtain ⟨-, ⟨month, -⟩, day, short⟩ := isValid_iff.1 valid
  rw [daysBeforeMonth_succ month, toDays]
  omega

/-- The number of a day lies within its year. -/
theorem Date.toDays_lt_year (valid : date.isValid = true) :
    date.toDays < daysBeforeYear (date.year + 1) := by
  obtain ⟨⟨year, -⟩, ⟨-, month⟩, -⟩ := isValid_iff.1 valid
  have less := @daysBeforeMonth_mono date.year (date.month + 1) 13 (by omega) (by omega)
  have inside := toDays_lt_month valid
  rw [daysBeforeMonth_last] at less
  rw [daysBeforeYear_succ year]
  omega

/-- A number of days is the number of the day after it. -/
theorem Date.exists_ofDays (days : Nat) :
    ∃ year index day, ∃ inside : index < (monthLengths (isLeap year)).length,
      day < (monthLengths (isLeap year))[index] ∧ 1 ≤ year ∧ ofDays days = ⟨year, index + 1, day + 1⟩ ∧
        daysBeforeYear year + ((monthLengths (isLeap year)).take index).sum + day = days := by
  generalize erasIs : days / 146097 = eras
  generalize centuriesIs : min (days % 146097 / 36524) 3 = centuries
  generalize inCenturyIs : days % 146097 - centuries * 36524 = inCentury
  generalize cyclesIs : inCentury / 1461 = cycles
  generalize yearsIs : min (inCentury % 1461 / 365) 3 = years
  generalize offsetIs : inCentury % 1461 - years * 365 = offset
  generalize yearIs : eras * 400 + centuries * 100 + cycles * 4 + years + 1 = year
  have fewCenturies : centuries ≤ 3 := by omega
  have fewCycles : cycles ≤ 24 := by omega
  have fewYears : years ≤ 3 := by omega
  have before := @daysBeforeYear_cycles eras _ _ _ fewCenturies fewCycles fewYears
  have long := @yearLength_cycles eras _ _ _ fewCenturies fewCycles fewYears
  rw [yearIs] at before long
  have within : offset < (monthLengths (isLeap year)).sum := by
    rw [sum_monthLengths]
    unfold yearLength at long
    rw [long]
    split <;> omega
  obtain ⟨index, day, inside, short, total, same⟩ := monthAndDay_eq 1 within
  refine ⟨year, index, day, inside, short, by omega, ?_, by omega⟩
  simp only [ofDays, erasIs, centuriesIs, inCenturyIs, cyclesIs, yearsIs, offsetIs, yearIs, same,
    Nat.add_comm 1 index]

theorem Date.toDays_ofDays (days : Nat) : (ofDays days).toDays = days := by
  obtain ⟨year, index, day, inside, short, -, same, total⟩ := exists_ofDays days
  rw [same, toDays, daysBeforeMonth_eq]
  exact total

theorem Date.isValid_ofDays {days : Nat} (within : days < daysBeforeYear (lastYear + 1)) :
    (ofDays days).isValid = true := by
  obtain ⟨year, index, day, inside, short, positive, same, total⟩ := exists_ofDays days
  have early : year ≤ lastYear := by
    by_contra late
    have less := @daysBeforeYear_mono (lastYear + 1) year (Nat.succ_pos _) (Nat.lt_of_not_le late)
    omega
  have long := monthLength_succ inside
  rw [length_monthLengths] at inside
  rw [same, isValid_iff]
  dsimp only
  rw [long]
  omega

/-- Whether a day comes before another one, by the year, then the month, then the day. -/
def Date.Before (first second : Date) : Prop :=
  first.year < second.year ∨ first.year = second.year ∧
    (first.month < second.month ∨ first.month = second.month ∧ first.day < second.day)

theorem Date.Before.toDays_lt (before : first.Before second) (valid : first.isValid = true)
    (also : second.isValid = true) : first.toDays < second.toDays := by
  obtain ⟨⟨-, -⟩, ⟨month, -⟩, day, -⟩ := isValid_iff.1 valid
  obtain ⟨⟨-, -⟩, ⟨-, -⟩, later, -⟩ := isValid_iff.1 also
  rcases before with earlierYear | ⟨sameYear, earlierMonth | ⟨sameMonth, earlierDay⟩⟩
  · have inside := toDays_lt_year valid
    have less := @daysBeforeYear_mono (first.year + 1) second.year (Nat.succ_pos _) earlierYear
    rw [toDays, toDays] at *
    omega
  · have inside := toDays_lt_month valid
    have less := @daysBeforeMonth_mono second.year (first.month + 1) second.month (by omega)
      earlierMonth
    rw [sameYear] at inside
    rw [toDays, toDays] at *
    omega
  · rw [toDays, toDays, sameYear, sameMonth]
    omega

theorem Date.before_or_eq_or_before (first second : Date) :
    first.Before second ∨ first = second ∨ second.Before first := by
  obtain ⟨year, month, day⟩ := first
  obtain ⟨otherYear, otherMonth, otherDay⟩ := second
  simp only [Before, Date.mk.injEq]
  omega

theorem Date.eq_of_toDays (valid : first.isValid = true) (also : second.isValid = true)
    (same : first.toDays = second.toDays) : first = second := by
  rcases before_or_eq_or_before first second with before | equal | after
  · exact absurd same (Nat.ne_of_lt (before.toDays_lt valid also))
  · exact equal
  · exact absurd same (Nat.ne_of_gt (after.toDays_lt also valid))

end Days

section Seconds

variable {moment first second : Moment}

theorem Moment.isValid_iff :
    moment.isValid = true ↔ moment.date.isValid = true ∧ moment.hour < 24 ∧ moment.minute < 60 ∧
      moment.second < 60 := by
  simp only [isValid, Bool.and_eq_true, decide_eq_true_eq, and_assoc]

/-- The calendar holds a number of seconds from its beginning. -/
def Holds (seconds : Int) : Prop := 0 ≤ seconds ∧ seconds < Moment.secondsOfCalendar

theorem Moment.toSeconds_ofSeconds (seconds : Nat) : (ofSeconds seconds).toSeconds = seconds := by
  simp only [ofSeconds, toSeconds, Date.toDays_ofDays]
  omega

theorem Moment.isValid_ofSeconds {seconds : Nat} (within : seconds < secondsOfCalendar) :
    (ofSeconds seconds).isValid = true := by
  rw [isValid_iff]
  refine ⟨Date.isValid_ofDays (Nat.div_lt_of_lt_mul (Nat.mul_comm _ _ ▸ within)), ?_, ?_, ?_⟩
  all_goals
    simp only [ofSeconds]
    omega

theorem Moment.toSeconds_lt (valid : moment.isValid = true) :
    moment.toSeconds < secondsOfCalendar := by
  obtain ⟨dated, hour, minute, second⟩ := isValid_iff.1 valid
  obtain ⟨⟨-, year⟩, -⟩ := Date.isValid_iff.1 dated
  have inside := Date.toDays_lt_year dated
  have less := @daysBeforeYear_mono (moment.date.year + 1) (lastYear + 1) (Nat.succ_pos _)
    (Nat.add_le_add_right year 1)
  unfold toSeconds secondsOfCalendar
  generalize daysBeforeYear (lastYear + 1) = all at less ⊢
  omega

/-- Whether a moment comes before another one, by the date, then the hour, the minute and the
second. -/
def Moment.Before (first second : Moment) : Prop :=
  first.date.Before second.date ∨ first.date = second.date ∧
    (first.hour < second.hour ∨ first.hour = second.hour ∧
      (first.minute < second.minute ∨ first.minute = second.minute ∧ first.second < second.second))

theorem Moment.Before.toSeconds_lt (before : first.Before second) (valid : first.isValid = true)
    (also : second.isValid = true) : first.toSeconds < second.toSeconds := by
  obtain ⟨dated, hour, minute, short⟩ := isValid_iff.1 valid
  obtain ⟨alsoDated, -⟩ := isValid_iff.1 also
  rw [toSeconds, toSeconds]
  rcases before with earlier | ⟨sameDate, later⟩
  · have less := earlier.toDays_lt dated alsoDated
    omega
  · rw [sameDate]
    omega

theorem Moment.before_or_eq_or_before (first second : Moment) :
    first.Before second ∨ first = second ∨ second.Before first := by
  obtain ⟨date, hour, minute, second'⟩ := first
  obtain ⟨otherDate, otherHour, otherMinute, otherSecond⟩ := second
  rcases Date.before_or_eq_or_before date otherDate with earlier | rfl | later
  · exact Or.inl (Or.inl earlier)
  · simp only [Before, Moment.mk.injEq, true_and]
    omega
  · exact Or.inr (Or.inr (Or.inl later))

/-- The count of seconds compares two moments as the calendar does. -/
theorem Moment.toSeconds_lt_iff (valid : first.isValid = true) (also : second.isValid = true) :
    first.toSeconds < second.toSeconds ↔ first.Before second := by
  constructor
  · intro less
    rcases before_or_eq_or_before first second with before | rfl | after
    · exact before
    · exact absurd less (Nat.lt_irrefl _)
    · exact absurd (after.toSeconds_lt also valid) (Nat.lt_asymm less)
  · exact fun before => before.toSeconds_lt valid also

theorem Moment.eq_of_toSeconds (valid : first.isValid = true) (also : second.isValid = true)
    (same : first.toSeconds = second.toSeconds) : first = second := by
  rcases before_or_eq_or_before first second with before | equal | after
  · exact absurd same (Nat.ne_of_lt (before.toSeconds_lt valid also))
  · exact equal
  · exact absurd same (Nat.ne_of_gt (after.toSeconds_lt also valid))

end Seconds

section Successors

variable {date : Date} {moment : Moment}

/-- The day that follows on a day: the first of the next month on the last of a month, and the
first of the next year on the last of a year. -/
def Date.next (date : Date) : Date :=
  if date.day < monthLength date.year date.month then { date with day := date.day + 1 }
  else if date.month < 12 then ⟨date.year, date.month + 1, 1⟩
  else ⟨date.year + 1, 1, 1⟩

theorem Date.toDays_next (valid : date.isValid = true) : date.next.toDays = date.toDays + 1 := by
  obtain ⟨⟨year, -⟩, ⟨month, least⟩, day, short⟩ := isValid_iff.1 valid
  have start : ∀ year, daysBeforeMonth year 1 = 0 := fun _ => rfl
  have ends := @daysBeforeMonth_succ date.year date.month month
  unfold next
  split
  · simp only [toDays]
    omega
  · split
    · simp only [toDays]
      omega
    · have last : date.month + 1 = 13 := by omega
      rw [last, daysBeforeMonth_last] at ends
      simp only [toDays, daysBeforeYear_succ year, start]
      omega

/-- The moment one second after a moment. -/
def Moment.next (moment : Moment) : Moment :=
  if moment.second < 59 then { moment with second := moment.second + 1 }
  else if moment.minute < 59 then ⟨moment.date, moment.hour, moment.minute + 1, 0⟩
  else if moment.hour < 23 then ⟨moment.date, moment.hour + 1, 0, 0⟩
  else ⟨moment.date.next, 0, 0, 0⟩

/-- The count of seconds goes on by one with every second of the calendar, over the ends of days,
months and years. -/
theorem Moment.toSeconds_next (valid : moment.isValid = true) :
    moment.next.toSeconds = moment.toSeconds + 1 := by
  obtain ⟨dated, hour, minute, second⟩ := isValid_iff.1 valid
  have days := Date.toDays_next dated
  unfold next
  split
  · simp only [toSeconds]
    omega
  · split
    · simp only [toSeconds]
      omega
    · split
      · simp only [toSeconds]
        omega
      · simp only [toSeconds]
        omega

end Successors

end Calendar

end StaticSite
