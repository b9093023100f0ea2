import StaticSite.Proofs.Calendar.Stamp

/-!
# What zones stand for

A zone text stands for seconds east of the universal time, by the table of abbreviations or by a
sign and two pairs of digits.  It is taken if they are less than a day; a text that stands for more
is refused as a value, and any other text as a zone that is not known.
-/

namespace StaticSite

namespace Calendar

variable {zone digits : Text} {offset : Int} {source : Option Text} {hours minutes : Nat}

/-- Two decimal digits of any script, and their number. -/
def IsPair (text : Text) (number : Nat) : Prop :=
  ∃ tens ones first second, text = [tens, ones] ∧ Text.digitValue? tens = some first ∧
    Text.digitValue? ones = some second ∧ number = first * 10 + second

/-- The seconds east of the universal time that a zone text stands for, however many they are. -/
inductive StandsFor : Text → Int → Prop where
  | listed {name : String} {hours : Int} (known : (name, hours) ∈ zoneHours) :
      StandsFor name.toList (hours * 3600)
  | numeric (west colon : Bool) {hours minutes : Text} {hour minute : Nat}
      (first : IsPair hours hour) (second : IsPair minutes minute) :
      StandsFor ((if west then '-' else '+') :: (hours ++ (if colon then [':'] else []) ++ minutes))
        (if west then -((hour * 3600 + minute * 60 : Nat) : Int)
          else ((hour * 3600 + minute * 60 : Nat) : Int))

theorem IsPair.plain {text : Text} {number : Nat} (pair : IsPair text number) :
    ∀ character ∈ text, Text.isBlank character = false := by
  obtain ⟨tens, ones, first, second, rfl, one, two, -⟩ := pair
  simp [Text.isBlank_of_digitValue? one, Text.isBlank_of_digitValue? two]

theorem zoneDigits?_eq_some_iff :
    zoneDigits? digits = some (hours, minutes) ↔
      ∃ (colon : Bool) (front back : Text), digits = front ++ (if colon then [':'] else []) ++ back ∧
        IsPair front hours ∧ IsPair back minutes := by
  constructor
  · intro read
    unfold zoneDigits? at read
    split at read
    · next a b c d =>
        simp only [Option.bind_eq_bind, Option.bind_eq_some_iff, Option.pure_def, Option.some.injEq,
          Prod.mk.injEq] at read
        obtain ⟨first, one, second, two, third, three, fourth, four, rfl, rfl⟩ := read
        exact ⟨false, [a, b], [c, d], rfl, ⟨a, b, first, second, rfl, one, two, rfl⟩,
          c, d, third, fourth, rfl, three, four, rfl⟩
    · next a b c d =>
        simp only [Option.bind_eq_bind, Option.bind_eq_some_iff, Option.pure_def, Option.some.injEq,
          Prod.mk.injEq] at read
        obtain ⟨first, one, second, two, third, three, fourth, four, rfl, rfl⟩ := read
        exact ⟨true, [a, b], [c, d], rfl, ⟨a, b, first, second, rfl, one, two, rfl⟩,
          c, d, third, fourth, rfl, three, four, rfl⟩
    · cases read
  · rintro ⟨colon, front, back, rfl, ⟨a, b, first, second, rfl, one, two, rfl⟩,
      c, d, third, fourth, rfl, three, four, rfl⟩
    cases colon <;> simp [zoneDigits?, one, two, three, four]

/-- The seconds that a zone text stands for, if it does. -/
def zoneSeconds? (zone : Text) : Option Int :=
  match zoneHours.find? fun (name, _) => name.toList = zone with
  | some (_, hours) => some (hours * 3600)
  | none =>
    match zone with
    | '+' :: digits => (zoneDigits? digits).map fun (hours, minutes) =>
      ((hours * 3600 + minutes * 60 : Nat) : Int)
    | '-' :: digits => (zoneDigits? digits).map fun (hours, minutes) =>
      -((hours * 3600 + minutes * 60 : Nat) : Int)
    | _ => none

/-- No abbreviation begins with a sign. -/
theorem find?_zoneHours_sign {sign : Char} (isSign : sign = '+' ∨ sign = '-') (rest : Text) :
    (zoneHours.find? fun (name, _) => name.toList = sign :: rest) = none := by
  have unsigned : ∀ entry ∈ zoneHours, entry.1.toList.head? ≠ some '+' ∧
      entry.1.toList.head? ≠ some '-' := by
    decide
  rw [List.find?_eq_none]
  intro entry member same
  have begins := congrArg List.head? (of_decide_eq_true same)
  rcases isSign with rfl | rfl
  · exact (unsigned entry member).1 begins
  · exact (unsigned entry member).2 begins

theorem zoneSeconds?_eq_some_iff : zoneSeconds? zone = some offset ↔ StandsFor zone offset := by
  constructor
  · intro read
    unfold zoneSeconds? at read
    split at read
    · next name hours found =>
        cases read
        have named := List.find?_some found
        rw [← of_decide_eq_true named]
        exact .listed (List.mem_of_find?_eq_some found)
    · split at read
      · next digits =>
          obtain ⟨⟨hours, minutes⟩, found, rfl⟩ := Option.map_eq_some_iff.1 read
          obtain ⟨colon, front, back, rfl, first, second⟩ := zoneDigits?_eq_some_iff.1 found
          exact .numeric false colon first second
      · next digits =>
          obtain ⟨⟨hours, minutes⟩, found, rfl⟩ := Option.map_eq_some_iff.1 read
          obtain ⟨colon, front, back, rfl, first, second⟩ := zoneDigits?_eq_some_iff.1 found
          exact .numeric true colon first second
      · cases read
  · intro stands
    unfold zoneSeconds?
    cases stands with
    | @listed name hours known =>
        have each : ∀ entry ∈ zoneHours,
            (zoneHours.find? fun other => decide (other.1.toList = entry.1.toList)) = some entry := by
          decide
        have found := each (name, hours) known
        simp only [found]
    | @numeric west colon front back hour minute first second =>
        have read := zoneDigits?_eq_some_iff.2 ⟨colon, front, back, rfl, first, second⟩
        cases west with
        | false =>
            simp only [Bool.false_eq_true, if_false, find?_zoneHours_sign (Or.inl rfl), read]
            rfl
        | true =>
            simp only [if_true, find?_zoneHours_sign (Or.inr rfl), read]
            rfl

theorem natAbs_of_listed {name : String} {hours : Int} (known : (name, hours) ∈ zoneHours) :
    (hours * 3600).natAbs < 86400 := by
  have near : ∀ entry ∈ zoneHours, (entry.2 * 3600).natAbs < 86400 := by decide
  exact near _ known

/-- A zone text is taken for what it stands for, if that is less than a day. -/
theorem parseZone_eq (zone : Text) (source : Option Text) :
    parseZone zone source =
      match zoneSeconds? zone with
      | none => .error (.parse (.unknownZone zone) ⟨source, none, none⟩)
      | some offset => if offset.natAbs < 86400 then .ok offset else .error (zoneTooFar offset) := by
  unfold parseZone zoneSeconds?
  cases found : zoneHours.find? fun (name, _) => name.toList = zone with
  | some entry =>
      obtain ⟨name, hours⟩ := entry
      exact (if_pos (natAbs_of_listed (List.mem_of_find?_eq_some found))).symm
  | none => rfl

theorem parseZone_eq_ok_iff :
    parseZone zone source = .ok offset ↔ StandsFor zone offset ∧ offset.natAbs < 86400 := by
  rw [parseZone_eq, ← zoneSeconds?_eq_some_iff]
  cases zoneSeconds? zone with
  | none => simp
  | some seconds =>
      simp only [Option.some.injEq]
      split
      · next near =>
          rw [Except.ok.injEq]
          exact ⟨fun same => ⟨same, same ▸ near⟩, And.left⟩
      · next far => exact iff_of_false nofun fun both => far (both.1 ▸ both.2)

/-- A zone text is refused as a value exactly if it stands for a day or more. -/
theorem parseZone_eq_error_iff {fault : Fault} :
    parseZone zone source = .error fault ↔
      (∃ offset, StandsFor zone offset ∧ 86400 ≤ offset.natAbs ∧ fault = zoneTooFar offset) ∨
        (∀ offset, ¬ StandsFor zone offset) ∧
          fault = .parse (.unknownZone zone) ⟨source, none, none⟩ := by
  rw [parseZone_eq]
  simp only [← zoneSeconds?_eq_some_iff]
  cases zoneSeconds? zone with
  | none => simp [eq_comm]
  | some seconds =>
      simp only [Option.some.injEq, exists_eq_left', forall_eq']
      split
      · next near => simp [Nat.not_le.2 near]
      · next far => simp [Nat.le_of_not_lt far, eq_comm]

/-- A zone text is a word. -/
theorem StandsFor.plain (stands : StandsFor zone offset) :
    zone ≠ [] ∧ ∀ character ∈ zone, Text.isBlank character = false := by
  cases stands with
  | @listed name hours known =>
      have words : ∀ entry ∈ zoneHours, entry.1.toList ≠ [] ∧
          entry.1.toList.any Text.isBlank = false := by
        decide
      obtain ⟨nonempty, plain⟩ := words _ known
      exact ⟨nonempty, fun character member =>
        Bool.eq_false_iff.2 (List.any_eq_false.1 plain character member)⟩
  | @numeric west colon front back hour minute first second =>
      refine ⟨List.cons_ne_nil _ _, fun character member => ?_⟩
      rcases List.mem_cons.1 member with rfl | member
      · cases west <;> decide
      · rcases List.mem_append.1 member with member | member
        · rcases List.mem_append.1 member with member | member
          · exact first.plain character member
          · cases colon with
            | false => cases member
            | true =>
                rw [List.mem_singleton.1 member]
                decide
        · exact second.plain character member

end Calendar

end StaticSite
