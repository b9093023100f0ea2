import StaticSite.Proofs.Calendar.Counting
import StaticSite.Proofs.Calendar.Zone

/-!
# The stamps that are refused

A stamp that is not of the form of a stamp is refused as such.  A stamp of that form may still name
a zone that is a day or more away, or a moment that the calendar does not hold in universal time;
such a stamp fails as a value instead.
-/

namespace StaticSite

namespace Calendar

variable {value : Text} {source : Option Text} {wall : Moment} {east : Int} {date : Date}

/-- A stamp has the form of a stamp, with a wall clock and with a zone so many seconds to the
east. -/
structure Reads (value : Text) (wall : Moment) (east : Int) : Prop where
  clock : readWallClock (splitStamp value).1 = some wall
  zone : StandsFor (splitStamp value).2 east

/-- A stamp is taken for a moment of the calendar, or is refused as a stamp. -/
def IsAnswered (value : Text) (source : Option Text) : Prop :=
  (∃ published : Moment, published.isValid = true ∧ parseStamp value source = .ok published) ∨
    ∃ cause place, parseStamp value source = .error (.parse cause place)

theorem valid_of_readWallClock {text : Text} (read : readWallClock text = some wall) :
    wall.isValid = true := by
  obtain ⟨_, _, _, _, _, _, _, valid⟩ := exists_words_of_readWallClock read
  exact valid

/-- What has not the form of a stamp is refused as a stamp. -/
theorem exists_parse_of_not_reads (source : Option Text)
    (unread : ∀ wall east, ¬ Reads value wall east) :
    ∃ cause place, parseStamp value source = .error (.parse cause place) := by
  unfold parseStamp
  cases read : readWallClock (splitStamp value).1 with
  | none =>
      simp only [read]
      exact ⟨_, _, rfl⟩
  | some wall =>
      have unknown : parseZone (splitStamp value).2 source =
          .error (.parse (.unknownZone (splitStamp value).2) ⟨source, none, none⟩) :=
        parseZone_eq_error_iff.2 (Or.inr ⟨fun east stands => unread wall east ⟨read, stands⟩, rfl⟩)
      simp only [read, unknown]
      exact ⟨_, _, rfl⟩

theorem parseStamp_of_far (reads : Reads value wall east) (far : 86400 ≤ east.natAbs) :
    parseStamp value source = .error (zoneTooFar east) := by
  have zoned : parseZone (splitStamp value).2 source = .error (zoneTooFar east) :=
    parseZone_eq_error_iff.2 (Or.inl ⟨east, reads.zone, far, rfl⟩)
  unfold parseStamp
  simp only [reads.clock, zoned]
  rfl

theorem parseStamp_of_near (reads : Reads value wall east) (near : east.natAbs < 86400) :
    parseStamp value source =
      match wall.shift? (-east) with
      | none => .error .range
      | some published => .ok published := by
  have zoned : parseZone (splitStamp value).2 source = .ok east :=
    parseZone_eq_ok_iff.2 ⟨reads.zone, near⟩
  unfold parseStamp
  simp only [reads.clock, zoned]
  rfl

theorem parseStamp_of_holds (reads : Reads value wall east) (near : east.natAbs < 86400)
    (held : Holds (wall.toSeconds - east)) :
    parseStamp value source = .ok (.ofSeconds (wall.toSeconds - east).toNat) := by
  have shifted : wall.shift? (-east) = some (.ofSeconds (wall.toSeconds - east).toNat) :=
    if_pos held
  rw [parseStamp_of_near reads near, shifted]

theorem parseStamp_of_not_holds (reads : Reads value wall east) (near : east.natAbs < 86400)
    (lost : ¬ Holds (wall.toSeconds - east)) : parseStamp value source = .error .range := by
  have shifted : wall.shift? (-east) = none := if_neg lost
  rw [parseStamp_of_near reads near, shifted]

theorem not_isAnswered_of_error {fault : Fault} (failed : parseStamp value source = .error fault)
    (other : ∀ cause place, fault ≠ .parse cause place) : ¬ IsAnswered value source := by
  rintro (⟨published, -, parsed⟩ | ⟨cause, place, refused⟩)
  · rw [failed] at parsed
    cases parsed
  · rw [failed, Except.error.injEq] at refused
    exact other cause place refused

/-- A zone that is near moves only the first and the last day out of the calendar. -/
theorem first_or_last_of_not_holds (valid : wall.isValid = true) (near : east.natAbs < 86400)
    (lost : ¬ Holds (wall.toSeconds - east)) :
    wall.date = ⟨1, 1, 1⟩ ∨ wall.date = ⟨lastYear, 12, 31⟩ := by
  obtain ⟨dated, hour, minute, second⟩ := Moment.isValid_iff.1 valid
  have firstDay : (⟨1, 1, 1⟩ : Date).toDays = 0 := by decide
  have lastDay : (⟨lastYear, 12, 31⟩ : Date).toDays + 1 = daysBeforeYear (lastYear + 1) := by decide
  unfold Holds Moment.secondsOfCalendar Moment.toSeconds at lost
  rw [← lastDay] at lost
  by_cases early : wall.date.toDays = 0
  · exact Or.inl (Date.eq_of_toDays dated (by decide) (early.trans firstDay.symm))
  · refine Or.inr (Date.eq_of_toDays dated (by decide) ?_)
    have inside := Moment.toSeconds_lt valid
    unfold Moment.secondsOfCalendar Moment.toSeconds at inside
    rw [← lastDay] at inside
    generalize (⟨lastYear, 12, 31⟩ : Date).toDays = last at lost inside ⊢
    omega

/-- A stamp is taken or refused as a stamp exactly if, in case that it has the form of one, its zone
is less than a day away and the calendar holds its moment in universal time. -/
theorem isAnswered_iff (value : Text) (source : Option Text) :
    (IsAnswered value source ↔
      ∀ wall east, Reads value wall east →
        east.natAbs < 86400 ∧ Holds (wall.toSeconds - east)) ∧
    ∀ wall east, Reads value wall east →
      (86400 ≤ east.natAbs → parseStamp value source = .error (zoneTooFar east)) ∧
      (east.natAbs < 86400 → ¬ Holds (wall.toSeconds - east) →
        parseStamp value source = .error .range ∧
          (wall.date = ⟨1, 1, 1⟩ ∨ wall.date = ⟨lastYear, 12, 31⟩)) := by
  refine ⟨⟨fun answered wall east reads => ?_, fun reachable => ?_⟩, fun wall east reads =>
    ⟨parseStamp_of_far reads, fun near lost => ⟨parseStamp_of_not_holds reads near lost,
      first_or_last_of_not_holds (valid_of_readWallClock reads.clock) near lost⟩⟩⟩
  · by_cases near : east.natAbs < 86400
    · refine ⟨near, ?_⟩
      by_contra lost
      exact not_isAnswered_of_error (parseStamp_of_not_holds reads near lost) nofun answered
    · have failed : parseStamp value source = .error (zoneTooFar east) :=
        parseStamp_of_far reads (Nat.le_of_not_lt near)
      exact absurd answered (not_isAnswered_of_error failed nofun)
  · by_cases formed : ∃ wall east, Reads value wall east
    · obtain ⟨wall, east, reads⟩ := formed
      obtain ⟨near, held⟩ := reachable wall east reads
      exact Or.inl ⟨_, Moment.isValid_ofSeconds ((Int.toNat_lt held.1).2 held.2),
        parseStamp_of_holds reads near held⟩
    · exact Or.inr (exists_parse_of_not_reads source fun wall east reads =>
        formed ⟨wall, east, reads⟩)

/-- A stamp whose zone is a whole day away. -/
def longZoneStamp : Text := "Mon, 01 Jan 2024 00:00:00 +2400"

/-- A stamp of the first moment of the calendar, an hour to the east. -/
def firstDayStamp : Text := "Mon, 01 Jan 0001 00:00:00 +0100"

theorem reads_longZoneStamp : Reads longZoneStamp ⟨⟨2024, 1, 1⟩, 0, 0, 0⟩ 86400 where
  clock := by decide +kernel
  zone := zoneSeconds?_eq_some_iff.1 (by decide +kernel)

theorem reads_firstDayStamp : Reads firstDayStamp ⟨⟨1, 1, 1⟩, 0, 0, 0⟩ 3600 where
  clock := by decide +kernel
  zone := zoneSeconds?_eq_some_iff.1 (by decide +kernel)

theorem isAnswered_iff_longZoneStamp :
    parseStamp longZoneStamp none = .error (zoneTooFar 86400) ∧
      parseStamp firstDayStamp none = .error .range :=
  ⟨((isAnswered_iff _ none).2 _ _ reads_longZoneStamp).1 (by decide),
    (((isAnswered_iff _ none).2 _ _ reads_firstDayStamp).2 (by decide)
      fun held => absurd held.1 (by decide)).1⟩

theorem not_isAnswered_longZoneStamp :
    ¬ IsAnswered longZoneStamp none ∧ ¬ IsAnswered firstDayStamp none :=
  ⟨not_isAnswered_of_error (parseStamp_of_far reads_longZoneStamp (by decide)) nofun,
    not_isAnswered_of_error (parseStamp_of_not_holds reads_firstDayStamp (by decide)
      fun held => absurd held.1 (by decide)) nofun⟩

end Calendar

end StaticSite
