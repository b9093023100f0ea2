import StaticSite.Proofs.Calendar.Refusing

/-!
# The instants of stamps

A stamp is written from a weekday, a wall clock and a zone, and is read back as its instant: the
moment in universal time whose count of seconds is that of the wall clock without the seconds that
the zone lies east.
-/

namespace StaticSite

namespace Text

variable {front back : Text}

/-- White space is dropped at the ends only. -/
theorem trim_append (middle : Text) (begun : front ≠ [])
    (plain : ∀ character ∈ front, isBlank character = false) (ended : back ≠ [])
    (plainEnd : ∀ character ∈ back, isBlank character = false) :
    trim (front ++ middle ++ back) = front ++ middle ++ back := by
  obtain ⟨first, front, rfl⟩ := List.exists_cons_of_ne_nil begun
  obtain rfl | ⟨back, last, rfl⟩ := List.eq_nil_or_concat back
  · exact absurd rfl ended
  · rw [List.concat_eq_append] at plainEnd ⊢
    have head : ¬ isBlank first = true := by simp [plain first List.mem_cons_self]
    have ending : ¬ isBlank last = true := by simp [plainEnd last List.mem_concat_self]
    rw [trim, trimOf, trimLeftOf, trimRightOf, List.cons_append, List.cons_append,
      List.dropWhile_cons_of_neg head, ← List.cons_append, ← List.append_assoc, List.reverse_append, List.reverse_singleton, List.singleton_append,
      List.dropWhile_cons_of_neg ending, ← List.singleton_append, List.reverse_append,
      List.reverse_reverse, List.reverse_singleton]

theorem plain_ofNat (width number : Nat) :
    ∀ character ∈ padLeft width '0' (ofNat number), isBlank character = false := by
  intro character member
  rcases List.mem_append.1 member with filler | digit
  · rw [List.eq_of_mem_replicate filler]
    decide
  · have isDigit := Nat.isDigit_of_mem_toDigits (by decide) (by decide) digit
    simp only [Char.isDigit, Bool.and_eq_true, decide_eq_true_eq] at isDigit
    have bounds : 48 ≤ character.toNat ∧ character.toNat ≤ 57 := isDigit
    simp only [isBlank, Bool.or_eq_false_iff, Bool.and_eq_false_iff, decide_eq_false_iff_not,
      beq_eq_false_iff_ne]
    omega

theorem padLeft_ofNat_ne_nil (width number : Nat) : padLeft width '0' (ofNat number) ≠ [] :=
  List.append_ne_nil_of_right_ne_nil _ Nat.toDigits_ne_nil

theorem digitValue?_digitChar {digit : Nat} (small : digit < 10) :
    digitValue? digit.digitChar = some digit := by
  interval_cases digit <;> rfl

/-- The last digit of a number of a fixed width. -/
theorem padLeft_ofNat_succ {width : Nat} (positive : 1 ≤ width) (number : Nat) :
    padLeft (width + 1) '0' (ofNat number) =
      padLeft width '0' (ofNat (number / 10)) ++ [(number % 10).digitChar] := by
  obtain ⟨width, rfl⟩ := Nat.exists_eq_add_of_le' positive
  by_cases small : number < 10
  · rw [ofNat, Nat.toDigits_of_lt_base small, Nat.mod_eq_of_lt small, Nat.div_eq_of_lt small]
    simp [padLeft, ofNat, List.replicate_succ']
  · rw [ofNat, Nat.toDigits_of_base_le (by decide) (Nat.le_of_not_lt small)]
    simp [padLeft, ofNat]

theorem padLeft_one_ofNat {number : Nat} (small : number < 10) :
    padLeft 1 '0' (ofNat number) = [number.digitChar] := by
  rw [ofNat, Nat.toDigits_of_lt_base small]
  rfl

end Text

namespace Calendar

section Parts

variable {names : List String} {index year number : Nat}

/-- A name of a day or a month as a stamp shortens it. -/
def shortName (names : List String) (index : Nat) : Text := (names[index]?.getD "").toList.take 3

theorem readName_shortName (rest : Text) (long : (shortName names index).length = 3)
    (first : (names.findIdx? fun name =>
      Text.lowerAscii (name.toList.take 3) = Text.lowerAscii (shortName names index)) = some index) :
    readName names (shortName names index ++ rest) = some (index, rest) := by
  rw [readName, List.take_left' long, List.drop_left' long, first]
  rfl

theorem readName_weekday (weekday : Fin 7) (rest : Text) :
    readName weekdayNames (shortName weekdayNames weekday ++ rest) = some (weekday.val, rest) := by
  apply readName_shortName
  · revert weekday
    decide
  · revert weekday
    decide

theorem readName_month (most : index < 12) (rest : Text) :
    readName monthNames (shortName monthNames index ++ rest) = some (index, rest) := by
  apply readName_shortName
  · interval_cases index <;> rfl
  · interval_cases index <;> rfl

theorem readDay_twoDigits (least : 1 ≤ number) (most : number ≤ 31) (rest : Text) :
    readDay (Text.twoDigits number ++ rest) = some (number, rest) := by
  interval_cases number <;> rfl

theorem readHour_twoDigits (most : number < 24) (rest : Text) :
    readHour (Text.twoDigits number ++ rest) = some (number, rest) := by
  interval_cases number <;> rfl

theorem readUpTo_twoDigits (most : number < 60) (rest : Text) :
    readUpTo '5' (Text.twoDigits number ++ rest) = some (number, rest) := by
  interval_cases number <;> rfl

theorem readSecond_twoDigits (most : number < 60) (rest : Text) :
    readSecond (Text.twoDigits number ++ rest) = some (number, rest) := by
  interval_cases number <;> rfl

theorem fourDigits_eq (most : year ≤ lastYear) :
    fourDigits year = [(year / 1000).digitChar, (year / 100 % 10).digitChar,
      (year / 10 % 10).digitChar, (year % 10).digitChar] := by
  have small : year / 1000 < 10 := by
    unfold lastYear at most
    omega
  have hundreds : year / 10 / 10 = year / 100 := Nat.div_div_eq_div_mul ..
  have thousands : year / 100 / 10 = year / 1000 := Nat.div_div_eq_div_mul ..
  rw [fourDigits, Text.padLeft_ofNat_succ (by decide), Text.padLeft_ofNat_succ (by decide),
    Text.padLeft_ofNat_succ (by decide), hundreds, thousands, Text.padLeft_one_ofNat small]
  rfl

theorem readYear_fourDigits (most : year ≤ lastYear) (rest : Text) :
    readYear (fourDigits year ++ rest) = some (year, rest) := by
  have small : year / 1000 < 10 := by
    unfold lastYear at most
    omega
  have value : year / 1000 * 1000 + year / 100 % 10 * 100 + year / 10 % 10 * 10 + year % 10 =
      year := by
    omega
  simp only [fourDigits_eq most, List.cons_append, List.nil_append, readYear,
    Text.digitValue?_digitChar small, Text.digitValue?_digitChar (Nat.mod_lt _ (by decide : 10 > 0)),
    Option.bind_eq_bind, Option.bind_some, Option.pure_def, value]

end Parts

section Clocks

variable {wall : Moment} {zone : Text}

def dateText (date : Date) : Text :=
  Text.twoDigits date.day ++ " " ++ shortName monthNames (date.month - 1) ++ " " ++
    fourDigits date.year

/-- A stamp without its zone. -/
def clockText (weekday : Fin 7) (wall : Moment) : Text :=
  shortName weekdayNames weekday ++ ", " ++ dateText wall.date ++ " " ++
    isoTime wall.hour wall.minute wall.second

theorem readBlanks_twoDigits (number : Nat) (rest : Text) :
    readBlanks (' ' :: (Text.twoDigits number ++ rest)) = some (Text.twoDigits number ++ rest) :=
  readBlanks_space rest (Text.padLeft_ofNat_ne_nil _ _) (Text.plain_ofNat _ _)

theorem readBlanks_fourDigits (number : Nat) (rest : Text) :
    readBlanks (' ' :: (fourDigits number ++ rest)) = some (fourDigits number ++ rest) :=
  readBlanks_space rest (Text.padLeft_ofNat_ne_nil _ _) (Text.plain_ofNat _ _)

theorem readBlanks_month {index : Nat} (most : index < 12) (rest : Text) :
    readBlanks (' ' :: (shortName monthNames index ++ rest)) =
      some (shortName monthNames index ++ rest) := by
  interval_cases index <;> rfl

theorem readDate_dateText {date : Date} (valid : date.isValid = true) (rest : Text) :
    readDate (dateText date ++ rest) = some (date, rest) := by
  obtain ⟨⟨-, year⟩, ⟨least, month⟩, day, short⟩ := Date.isValid_iff.1 valid
  have whole : dateText date ++ rest = Text.twoDigits date.day ++ (' ' ::
      (shortName monthNames (date.month - 1) ++ (' ' :: (fourDigits date.year ++ rest)))) := by
    simp [dateText]
  have few := Nat.le_trans short (monthLength_le date.year date.month)
  have named : date.month - 1 < 12 := by omega
  rw [whole, readDate]
  simp only [readDay_twoDigits day few, readBlanks_month named, readName_month named,
    readBlanks_fourDigits, readYear_fourDigits year, Option.bind_eq_bind, Option.bind_some, Option.pure_def,
    Nat.sub_add_cancel least]

theorem readWallClock_clockText (weekday : Fin 7) (valid : wall.isValid = true) :
    readWallClock (clockText weekday wall) = some wall := by
  obtain ⟨dated, hour, minute, second⟩ := Moment.isValid_iff.1 valid
  have whole : clockText weekday wall = shortName weekdayNames weekday ++ (',' :: (' ' ::
      (dateText wall.date ++ (' ' :: (Text.twoDigits wall.hour ++ (':' ::
        (Text.twoDigits wall.minute ++ (':' :: (Text.twoDigits wall.second ++ []))))))))) := by
    simp [clockText, isoTime]
  have dates (rest : Text) :
      readBlanks (' ' :: (dateText wall.date ++ rest)) = some (dateText wall.date ++ rest) := by
    simp only [dateText, List.append_assoc, readBlanks_twoDigits]
  rw [whole, readWallClock]
  simp only [readName_weekday, readChar, if_true, dates, readDate_dateText dated,
    readBlanks_twoDigits, readHour_twoDigits hour, readUpTo_twoDigits minute,
    readSecond_twoDigits second, Option.bind_eq_bind, Option.bind_some, List.isEmpty_nil,
    Bool.true_and, valid]

theorem splitStamp_clockText (weekday : Fin 7) (wall : Moment) (nonempty : zone ≠ [])
    (plain : ∀ character ∈ zone, Text.isBlank character = false) :
    splitStamp (clockText weekday wall ++ " " ++ zone) = (clockText weekday wall, zone) := by
  have named : shortName weekdayNames weekday ≠ [] ∧
      (shortName weekdayNames weekday).any Text.isBlank = false := by
    revert weekday
    decide
  have plainName (character : Char) (member : character ∈ shortName weekdayNames weekday) :=
    Bool.eq_false_iff.2 (List.any_eq_false.1 named.2 character member)
  have trimmed : Text.trim (clockText weekday wall ++ " " ++ zone) =
      clockText weekday wall ++ " " ++ zone := by
    simpa [clockText] using Text.trim_append (", " ++ dateText wall.date ++ " " ++
      isoTime wall.hour wall.minute wall.second ++ " ") named.1 plainName nonempty plain
  have spaceless : ' ' ∉ zone := fun member => absurd (plain ' ' member) (by decide)
  have cut : Text.cutLast? ' ' (clockText weekday wall ++ " " ++ zone) =
      some (clockText weekday wall, zone) := by
    simpa using Text.cutLast?_append (clockText weekday wall) spaceless
  rw [splitStamp, trimmed, cut]
  rfl

end Clocks

/-- A stamp of a moment that the calendar holds in universal time. -/
structure Stamp where
  weekday : Fin 7
  wall : Moment
  zone : Text
  /-- The seconds that the zone lies east of the universal time. -/
  east : Int
  valid : wall.isValid = true
  stands : StandsFor zone east
  near : east.natAbs < 86400
  held : Holds (wall.toSeconds - east)

namespace Stamp

variable {stamp first second : Stamp} {source : Option Text} {published later : Moment}

def text (stamp : Stamp) : Text := clockText stamp.weekday stamp.wall ++ " " ++ stamp.zone

/-- The seconds from the beginning of the calendar, in universal time, to what a stamp names. -/
def instant (stamp : Stamp) : Int := stamp.wall.toSeconds - stamp.east

theorem reads_text (stamp : Stamp) : Reads stamp.text stamp.wall stamp.east := by
  have parts := splitStamp_clockText stamp.weekday stamp.wall stamp.stands.plain.1
    stamp.stands.plain.2
  constructor
  · rw [text, parts, readWallClock_clockText _ stamp.valid]
  · rw [text, parts]
    exact stamp.stands

/-- A stamp is read as its instant. -/
theorem parseStamp_text (stamp : Stamp) (source : Option Text) :
    parseStamp stamp.text source = .ok (.ofSeconds stamp.instant.toNat) :=
  parseStamp_of_holds stamp.reads_text stamp.near stamp.held

theorem instant_of_parseStamp (parsed : parseStamp stamp.text source = .ok published) :
    published.isValid = true ∧ published.toSeconds = stamp.instant := by
  rw [parseStamp_text] at parsed
  cases parsed
  have held : Holds stamp.instant := stamp.held
  refine ⟨Moment.isValid_ofSeconds ((Int.toNat_lt held.1).2 held.2), ?_⟩
  rw [Moment.toSeconds_ofSeconds, Int.toNat_of_nonneg held.1]

theorem before_iff (parsed : parseStamp first.text source = .ok published) {other : Option Text}
    (also : parseStamp second.text other = .ok later) :
    published.Before later ↔ first.instant < second.instant := by
  obtain ⟨valid, counted⟩ := instant_of_parseStamp parsed
  obtain ⟨alsoValid, alsoCounted⟩ := instant_of_parseStamp also
  rw [← Moment.toSeconds_lt_iff valid alsoValid, ← counted, ← alsoCounted, Int.ofNat_lt]

theorem eq_iff (parsed : parseStamp first.text source = .ok published) {other : Option Text}
    (also : parseStamp second.text other = .ok later) :
    published = later ↔ first.instant = second.instant := by
  obtain ⟨valid, counted⟩ := instant_of_parseStamp parsed
  obtain ⟨alsoValid, alsoCounted⟩ := instant_of_parseStamp also
  rw [← counted, ← alsoCounted, Int.ofNat_inj]
  exact ⟨congrArg _, Moment.eq_of_toSeconds valid alsoValid⟩

end Stamp

end Calendar

end StaticSite
