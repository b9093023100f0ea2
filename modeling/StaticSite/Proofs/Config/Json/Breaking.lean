import Mathlib.Logic.Basic
import StaticSite.Proofs.Config.Json.Steps

/-!
# Values that a configuration in JSON cannot have

Where the text has the form of JSON, the reader still fails at two kinds of values: at an array or
an object that is nested too deeply, and at an integer that has too many digits.  It fails exactly
if it comes to such a value, which means that all values in front of it can be read.
-/

namespace StaticSite

namespace Config

namespace Json

variable {depth fuel : Nat} {text rest after more inner digits key : Text} {value : Value}
  {mark : Char} {fault : Fault}

/-! ## The values to which the reader comes -/

/-- What is read of a value, with as many steps as it takes. -/
def valueAt (depth : Nat) (text : Text) : Reading (Value × Text) :=
  readValue (2 * text.length + 2) depth text

def itemsAt (depth : Nat) (reversed : List Value) (text : Text) : Reading (Value × Text) :=
  readItems (2 * text.length + 3) depth reversed text

def entriesAt (depth : Nat) (made : List (Value × Value)) (text : Text) : Reading (Value × Text) :=
  readEntries (2 * text.length + 3) depth made text

theorem readValue_eq (enough : 2 * text.length + 2 ≤ fuel) :
    readValue fuel depth text = valueAt depth text :=
  (nestedSettled fuel).value _ depth text enough (Nat.le_refl _)

theorem readItems_eq {reversed : List Value} (enough : 2 * text.length + 3 ≤ fuel) :
    readItems fuel depth reversed text = itemsAt depth reversed text :=
  (nestedSettled fuel).items _ depth reversed text enough (Nat.le_refl _)

theorem readEntries_eq {made : List (Value × Value)} (enough : 2 * text.length + 3 ≤ fuel) :
    readEntries fuel depth made text = entriesAt depth made text :=
  (nestedSettled fuel).entries _ depth made text enough (Nat.le_refl _)

theorem bounded_valueAt (depth : Nat) (text : Text) :
    Bounded text Prod.snd any (valueAt depth text) :=
  (nestedBounded _).value depth text

theorem valueAt_of_deep (opens : mark = '[' ∨ mark = '\x7b') (far : deepest < depth)
    (rest : Text) : valueAt depth (mark :: rest) = .error (.fault .depth) := by
  rcases opens with rfl | rfl
  · exact if_pos far
  · exact if_pos far

theorem valueAt_array_empty (near : ¬ deepest < depth) (closed : skipBlanks rest = ']' :: after) :
    valueAt depth ('[' :: rest) = .ok (.list [], after) := by
  refine (if_neg near).trans ?_
  rw [closed]
  rfl

theorem valueAt_object_empty (near : ¬ deepest < depth)
    (closed : skipBlanks rest = '\x7d' :: after) :
    valueAt depth ('\x7b' :: rest) = .ok (.mapping [], after) := by
  refine (if_neg near).trans ?_
  rw [closed]
  rfl

theorem valueAt_array (near : ¬ deepest < depth) (filled : (skipBlanks rest).head? ≠ some ']') :
    valueAt depth ('[' :: rest) = itemsAt (depth + 1) [] (skipBlanks rest) := by
  have short := length_skipBlanks_le rest
  refine (if_neg near).trans ?_
  split
  · next same => exact absurd (by rw [same]; rfl) filled
  · exact readItems_eq (by rw [List.length_cons]; omega)

theorem valueAt_object (near : ¬ deepest < depth)
    (filled : (skipBlanks rest).head? ≠ some '\x7d') :
    valueAt depth ('\x7b' :: rest) = entriesAt (depth + 1) [] (skipBlanks rest) := by
  have short := length_skipBlanks_le rest
  refine (if_neg near).trans ?_
  split
  · next same => exact absurd (by rw [same]; rfl) filled
  · exact readEntries_eq (by rw [List.length_cons]; omega)

theorem valueAt_plain (depth : Nat) (plain : text.head? ≠ some '[' ∧ text.head? ≠ some '\x7b') :
    valueAt depth text = readPlain text := by
  unfold valueAt readValue
  split
  · exact absurd rfl plain.1
  · exact absurd rfl plain.2
  · rfl

/-- The items of an array fail at the first of them that does. -/
theorem itemsAt_eq_fault_iff {reversed : List Value} :
    itemsAt depth reversed text = .error (.fault fault) ↔
      valueAt depth text = .error (.fault fault) ∨
        ∃ item rest more, valueAt depth text = .ok (item, rest) ∧ skipBlanks rest = ',' :: more ∧
          itemsAt depth (item :: reversed) (skipBlanks more) = .error (.fault fault) := by
  have again {item : Value} {rest more : Text} (read : valueAt depth text = .ok (item, rest))
      (comma : skipBlanks rest = ',' :: more) :
      readItems (2 * text.length + 2) depth (item :: reversed) (skipBlanks more) =
        itemsAt depth (item :: reversed) (skipBlanks more) := by
    have short : rest.length ≤ text.length := (bounded_valueAt depth text).length_le read
    have less := length_skipBlanks_le rest
    have shorter := length_skipBlanks_le more
    rw [comma, List.length_cons] at less
    exact readItems_eq (by omega)
  rw [itemsAt, readItems, bind_eq_error_iff]
  refine or_congr Iff.rfl ⟨?_, ?_⟩
  · rintro ⟨⟨item, rest⟩, read, failed⟩
    dsimp only at failed
    split at failed
    · cases failed
    · next more comma => exact ⟨item, rest, more, read, comma, (again read comma).symm.trans failed⟩
    · cases failed
  · rintro ⟨item, rest, more, read, comma, failed⟩
    refine ⟨(item, rest), read, ?_⟩
    simp only [comma]
    exact (again read comma).trans failed

/-- A text begins with a key and a colon, behind which there is the value. -/
def Keyed (text key inner : Text) : Prop :=
  ∃ quoted rest behind, text = '"' :: quoted ∧
    readString (quoted.length + 1) [] quoted = .ok (key, rest) ∧
    skipBlanks rest = ':' :: behind ∧ inner = skipBlanks behind

theorem Keyed.length_lt (keyed : Keyed text key inner) : inner.length < text.length := by
  obtain ⟨quoted, rest, behind, rfl, read, colon, rfl⟩ := keyed
  have short : rest.length ≤ quoted.length := (bounded_readString _ _ quoted).length_le read
  have less := length_skipBlanks_le rest
  have shorter := length_skipBlanks_le behind
  rw [colon, List.length_cons] at less
  rw [List.length_cons]
  omega

/-- The entries behind the first one are read with as many steps as they take. -/
theorem Keyed.readEntries_eq (keyed : Keyed text key inner)
    (read : valueAt depth inner = .ok (value, rest)) (comma : skipBlanks rest = ',' :: more)
    (made : List (Value × Value)) :
    readEntries (2 * text.length + 2) depth made (skipBlanks more) =
      entriesAt depth made (skipBlanks more) := by
  have short := keyed.length_lt
  have shorter : rest.length ≤ inner.length := (bounded_valueAt depth inner).length_le read
  have less := length_skipBlanks_le rest
  have shortest := length_skipBlanks_le more
  rw [comma, List.length_cons] at less
  exact Json.readEntries_eq (by omega)

/-- The value of an entry cannot be made, or that of a later entry. -/
def EntryFails (depth : Nat) (made : List (Value × Value)) (key inner : Text) (fault : Fault) :
    Prop :=
  valueAt depth inner = .error (.fault fault) ∨
    ∃ value rest more, valueAt depth inner = .ok (value, rest) ∧ skipBlanks rest = ',' :: more ∧
      entriesAt depth (put (.text key) value made) (skipBlanks more) = .error (.fault fault)

variable {made : List (Value × Value)}

theorem exists_entry_of_entriesAt (failed : entriesAt depth made text = .error (.fault fault)) :
    ∃ key inner, Keyed text key inner ∧ EntryFails depth made key inner fault := by
  unfold entriesAt readEntries at failed
  split at failed
  · next quoted =>
      rcases bind_eq_error_iff.1 failed with bad | ⟨⟨key, rest⟩, read, failed⟩
      · exact ((bounded_readString _ _ quoted).possible bad).elim
      · dsimp only at failed
        split at failed
        · next behind colon =>
            have keyed : Keyed ('"' :: quoted) key (skipBlanks behind) :=
              ⟨quoted, rest, behind, rfl, read, colon, rfl⟩
            have short := keyed.length_lt
            rw [readValue_eq (by omega)] at failed
            refine ⟨key, skipBlanks behind, keyed, ?_⟩
            rcases bind_eq_error_iff.1 failed with first | ⟨⟨value, rest⟩, read, failed⟩
            · exact Or.inl first
            · dsimp only at failed
              split at failed
              · cases failed
              · next more comma =>
                  exact Or.inr ⟨value, rest, more, read, comma,
                    (keyed.readEntries_eq read comma _).symm.trans failed⟩
              · cases failed
        · cases failed
  · cases failed

theorem entriesAt_of_entryFails (keyed : Keyed text key inner)
    (failed : EntryFails depth made key inner fault) :
    entriesAt depth made text = .error (.fault fault) := by
  have short := keyed.length_lt
  have whole := keyed
  obtain ⟨quoted, rest, behind, rfl, read, colon, rfl⟩ := keyed
  unfold entriesAt readEntries
  refine bind_eq_error_iff.2 (Or.inr ⟨(key, rest), read, ?_⟩)
  simp only [colon]
  rw [readValue_eq (by omega)]
  refine bind_eq_error_iff.2 ?_
  rcases failed with first | ⟨value, rest, more, read, comma, failed⟩
  · exact Or.inl first
  · refine Or.inr ⟨(value, rest), read, ?_⟩
    simp only [comma]
    exact (whole.readEntries_eq read comma _).trans failed

/-- The entries of an object fail at the first of them whose value does. -/
theorem entriesAt_eq_fault_iff :
    entriesAt depth made text = .error (.fault fault) ↔
      ∃ key inner, Keyed text key inner ∧ EntryFails depth made key inner fault :=
  ⟨exists_entry_of_entriesAt, fun ⟨_, _, keyed, failed⟩ => entriesAt_of_entryFails keyed failed⟩

/-! ## The values that cannot be made -/

/-- The reader comes to the beginning of an item of an array: it can read all items in front of
it. -/
inductive Item (depth : Nat) (start : Text) : Text → Prop where
  | first : Item depth start start
  | next {text rest more : Text} {value : Value} (item : Item depth start text)
      (read : valueAt depth text = .ok (value, rest)) (comma : skipBlanks rest = ',' :: more) :
      Item depth start (skipBlanks more)

/-- The reader comes to the beginning of an entry of an object. -/
inductive Entry (depth : Nat) (start : Text) : Text → Prop where
  | first : Entry depth start start
  | next {text key inner rest more : Text} {value : Value} (entry : Entry depth start text)
      (keyed : Keyed text key inner) (read : valueAt depth inner = .ok (value, rest))
      (comma : skipBlanks rest = ',' :: more) : Entry depth start (skipBlanks more)

/-- The reader comes to a value that it cannot make: an array or an object that is nested too
deeply, or an integer with too many digits. -/
inductive Breaks : Nat → Text → Fault → Prop where
  | deep {depth : Nat} {mark : Char} (opens : mark = '[' ∨ mark = '\x7b') (far : deepest < depth)
      (rest : Text) : Breaks depth (mark :: rest) .depth
  | large {text : Text} {fault : Fault} (depth : Nat) (large : IsTooLarge text fault) :
      Breaks depth text fault
  | item {depth : Nat} {rest text : Text} {fault : Fault} (near : ¬ deepest < depth)
      (filled : (skipBlanks rest).head? ≠ some ']') (item : Item (depth + 1) (skipBlanks rest) text)
      (breaks : Breaks (depth + 1) text fault) : Breaks depth ('[' :: rest) fault
  | entry {depth : Nat} {rest text key inner : Text} {fault : Fault} (near : ¬ deepest < depth)
      (filled : (skipBlanks rest).head? ≠ some '\x7d')
      (entry : Entry (depth + 1) (skipBlanks rest) text) (keyed : Keyed text key inner)
      (breaks : Breaks (depth + 1) inner fault) : Breaks depth ('\x7b' :: rest) fault

theorem itemsAt_of_item {start : Text} (item : Item depth start text)
    (fails : ∀ reversed, itemsAt depth reversed text = .error (.fault fault)) :
    ∀ reversed, itemsAt depth reversed start = .error (.fault fault) := by
  induction item with
  | first => exact fails
  | next _ read comma ih =>
      exact ih fun reversed => itemsAt_eq_fault_iff.2
        (Or.inr ⟨_, _, _, read, comma, fails _⟩)

theorem entriesAt_of_entry {start : Text} (entry : Entry depth start text)
    (fails : ∀ made, entriesAt depth made text = .error (.fault fault)) :
    ∀ made, entriesAt depth made start = .error (.fault fault) := by
  induction entry with
  | first => exact fails
  | next _ keyed read comma ih =>
      exact ih fun made => entriesAt_eq_fault_iff.2
        ⟨_, _, keyed, Or.inr ⟨_, _, _, read, comma, fails _⟩⟩

theorem Breaks.valueAt_eq (breaks : Breaks depth text fault) :
    valueAt depth text = .error (.fault fault) := by
  induction breaks with
  | deep opens far rest => exact valueAt_of_deep opens far rest
  | large depth large =>
      rw [valueAt_plain depth large.plain]
      exact readPlain_of_large large
  | item near filled item _ ih =>
      rw [valueAt_array near filled]
      exact itemsAt_of_item item (fun _ => itemsAt_eq_fault_iff.2 (Or.inl ih)) []
  | entry near filled entry keyed _ ih =>
      rw [valueAt_object near filled]
      exact entriesAt_of_entry entry
        (fun _ => entriesAt_eq_fault_iff.2 ⟨_, _, keyed, Or.inl ih⟩) []

theorem exists_opening (nested : ¬ (text.head? ≠ some '[' ∧ text.head? ≠ some '\x7b')) :
    ∃ mark rest, text = mark :: rest ∧ (mark = '[' ∨ mark = '\x7b') := by
  rw [not_and_or, not_ne_iff, not_ne_iff] at nested
  rcases nested with array | object
  · obtain ⟨rest, rfl⟩ := List.head?_eq_some_iff.1 array
    exact ⟨_, rest, rfl, Or.inl rfl⟩
  · obtain ⟨rest, rfl⟩ := List.head?_eq_some_iff.1 object
    exact ⟨_, rest, rfl, Or.inr rfl⟩

/-- In texts that are not too long, a fault of the reader is that of a value to which it comes. -/
structure Traced (bound : Nat) : Prop where
  value : ∀ depth text fault, 2 * text.length < bound →
    valueAt depth text = .error (.fault fault) → Breaks depth text fault
  items : ∀ depth reversed start text fault, 2 * text.length + 1 < bound → Item depth start text →
    itemsAt depth reversed text = .error (.fault fault) →
      ∃ last, Item depth start last ∧ Breaks depth last fault
  entries : ∀ depth made start text fault, 2 * text.length + 1 < bound → Entry depth start text →
    entriesAt depth made text = .error (.fault fault) →
      ∃ last key inner, Entry depth start last ∧ Keyed last key inner ∧ Breaks depth inner fault

namespace Traced

variable {bound : Nat} {start : Text} (traced : Traced bound)

include traced

theorem value_succ (less : 2 * text.length < bound + 1)
    (failed : valueAt depth text = .error (.fault fault)) : Breaks depth text fault := by
  by_cases plain : text.head? ≠ some '[' ∧ text.head? ≠ some '\x7b'
  · rw [valueAt_plain depth plain] at failed
    exact .large depth ((bounded_readPlain text).possible failed)
  · obtain ⟨mark, rest, rfl, opens⟩ := exists_opening plain
    have short := length_skipBlanks_le rest
    rw [List.length_cons] at less
    by_cases far : deepest < depth
    · rw [valueAt_of_deep opens far] at failed
      cases failed
      exact .deep opens far rest
    · rcases opens with rfl | rfl
      · by_cases closed : (skipBlanks rest).head? = some ']'
        · obtain ⟨after, same⟩ := List.head?_eq_some_iff.1 closed
          rw [valueAt_array_empty far same] at failed
          cases failed
        · rw [valueAt_array far closed] at failed
          obtain ⟨last, item, breaks⟩ :=
            traced.items (depth + 1) [] _ _ fault (by omega) .first failed
          exact .item far closed item breaks
      · by_cases closed : (skipBlanks rest).head? = some '\x7d'
        · obtain ⟨after, same⟩ := List.head?_eq_some_iff.1 closed
          rw [valueAt_object_empty far same] at failed
          cases failed
        · rw [valueAt_object far closed] at failed
          obtain ⟨last, key, inner, entry, keyed, breaks⟩ :=
            traced.entries (depth + 1) [] _ _ fault (by omega) .first failed
          exact .entry far closed entry keyed breaks

theorem items_succ {reversed : List Value} (less : 2 * text.length + 1 < bound + 1)
    (item : Item depth start text) (failed : itemsAt depth reversed text = .error (.fault fault)) :
    ∃ last, Item depth start last ∧ Breaks depth last fault := by
  rcases itemsAt_eq_fault_iff.1 failed with first | ⟨value, rest, more, read, comma, failed⟩
  · exact ⟨text, item, traced.value depth text fault (by omega) first⟩
  · have short : rest.length ≤ text.length := (bounded_valueAt depth text).length_le read
    have shorter := length_skipBlanks_le rest
    have shortest := length_skipBlanks_le more
    rw [comma, List.length_cons] at shorter
    exact traced.items depth _ start _ fault (by omega) (item.next read comma) failed

theorem entries_succ (less : 2 * text.length + 1 < bound + 1) (entry : Entry depth start text)
    (failed : entriesAt depth made text = .error (.fault fault)) :
    ∃ last key inner, Entry depth start last ∧ Keyed last key inner ∧ Breaks depth inner fault := by
  obtain ⟨key, inner, keyed, failed⟩ := entriesAt_eq_fault_iff.1 failed
  have within := keyed.length_lt
  rcases failed with first | ⟨value, rest, more, read, comma, failed⟩
  · exact ⟨text, key, inner, entry, keyed, traced.value depth inner fault (by omega) first⟩
  · have short : rest.length ≤ inner.length := (bounded_valueAt depth inner).length_le read
    have shorter := length_skipBlanks_le rest
    have shortest := length_skipBlanks_le more
    rw [comma, List.length_cons] at shorter
    exact traced.entries depth _ start _ fault (by omega) (entry.next keyed read comma) failed

end Traced

theorem traced (bound : Nat) : Traced bound := by
  induction bound with
  | zero => exact ⟨fun _ _ _ => nofun, fun _ _ _ _ _ => nofun, fun _ _ _ _ _ => nofun⟩
  | succ bound ih =>
      exact ⟨fun _ _ _ => ih.value_succ, fun _ _ _ _ _ => ih.items_succ,
        fun _ _ _ _ _ => ih.entries_succ⟩

theorem valueAt_eq_fault_iff :
    valueAt depth text = .error (.fault fault) ↔ Breaks depth text fault :=
  ⟨(traced _).value depth text fault (Nat.lt_succ_self _), Breaks.valueAt_eq⟩

/-- A configuration in JSON fails exactly if its reader comes to a value that it cannot make. -/
theorem read_eq_fault_iff : read text = .error (.fault fault) ↔ Breaks 0 (skipBlanks text) fault := by
  have short := length_skipBlanks_le text
  rw [read, readValue_eq (by omega), ← valueAt_eq_fault_iff, bind_eq_error_iff]
  refine ⟨?_, Or.inl⟩
  rintro (failed | ⟨⟨value, rest⟩, -, failed⟩)
  · exact failed
  · dsimp only at failed
    split at failed
    · cases failed
    · cases failed

end Json

end Config

end StaticSite
