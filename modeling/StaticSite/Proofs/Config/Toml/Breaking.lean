import StaticSite.Proofs.Config.Toml.Nested

/-!
# Values that a configuration in TOML cannot have

The values that have the form of TOML and yet cannot be made are those that are nested too deeply
and the integers that have too many digits.  A day that the calendar does not have is not one of
them: it has not the form.  The reader fails exactly if it comes to such a value, which means that
all statements and all values in front of it can be read.
-/

namespace StaticSite

namespace Config

namespace Toml

variable {depth fuel : Nat} {text start rest after more inner : Text} {path : KeyPath}
  {value : Value} {table : Table} {marks : Marks} {state next : State} {fault : Fault}

/-- The reader comes to the beginning of an item of an array: it can read all items in front of
it. -/
inductive Item (depth : Nat) (start : Text) : Text → Prop where
  | first : Item depth start start
  | next {text rest more inner : Text} {value : Value} (item : Item depth start text)
      (read : valueAt depth text = .ok (value, rest))
      (comma : skipFiller (rest.length + 1) rest = .ok (',' :: more))
      (skipped : skipFiller (more.length + 1) more = .ok inner)
      (filled : inner.head? ≠ some ']') : Item depth start inner

/-- The reader comes to the beginning of a pair of an inline table, with what the pairs in front of
it make. -/
inductive Pair (depth : Nat) (start : Text) : Table → Marks → Text → Prop where
  | first : Pair depth start [] [] start
  | next {table larger : Table} {marks : Marks} {text inner rest more : Text} {path : KeyPath}
      {value : Value} (pair : Pair depth start table marks text) (keyed : Keyed text path inner)
      (read : valueAt depth inner = .ok (value, rest)) (free : hasMark marks .frozen path = false)
      (added : extend false [] path value table = some larger)
      (comma : skipSpaces rest = ',' :: more) :
      Pair depth start larger (freeze path value marks) (skipSpaces more)

/-- The reader comes to a value that it cannot make: one that is nested too deeply, or an integer
with too many digits. -/
inductive Breaks : Nat → Text → Fault → Prop where
  | deep {depth : Nat} (far : deepest < depth) (mark : Char) (rest : Text) :
      Breaks depth (mark :: rest) .depth
  | large {depth : Nat} {text : Text} {fault : Fault} (near : ¬ deepest < depth)
      (large : IsTooLarge text fault) : Breaks depth text fault
  | item {depth : Nat} {rest start text : Text} {fault : Fault} (near : ¬ deepest < depth)
      (skipped : skipFiller (rest.length + 1) rest = .ok start) (filled : start.head? ≠ some ']')
      (item : Item (depth + 2) start text) (breaks : Breaks (depth + 2) text fault) :
      Breaks depth ('[' :: rest) fault
  | pair {depth : Nat} {rest text inner : Text} {table : Table} {marks : Marks} {path : KeyPath}
      {fault : Fault} (near : ¬ deepest < depth) (filled : (skipSpaces rest).head? ≠ some '\x7d')
      (pair : Pair (depth + 3) (skipSpaces rest) table marks text) (keyed : Keyed text path inner)
      (breaks : Breaks (depth + 3) inner fault) : Breaks depth ('\x7b' :: rest) fault

theorem itemsAt_of_item (item : Item depth start text)
    (fails : ∀ reversed, itemsAt depth reversed text = .error (.fault fault)) :
    ∀ reversed, itemsAt depth reversed start = .error (.fault fault) := by
  induction item with
  | first => exact fails
  | next _ read comma skipped filled ih =>
      exact ih fun reversed => itemsAt_eq_fault_iff.2
        (Or.inr ⟨_, _, _, _, read, comma, skipped, filled, fails _⟩)

theorem inlineAt_of_pair (pair : Pair depth start table marks text)
    (fails : inlineAt depth table marks text = .error (.fault fault)) :
    inlineAt depth [] [] start = .error (.fault fault) := by
  induction pair with
  | first => exact fails
  | next _ keyed read free added comma ih =>
      exact ih (inlineAt_eq_fault_iff.2
        ⟨_, _, keyed, Or.inr ⟨_, _, _, _, read, free, added, comma, fails⟩⟩)

theorem IsTooLarge.exists_plain (large : IsTooLarge text fault) :
    ∃ mark rest, text = mark :: rest ∧ IsPlain mark := by
  obtain ⟨mark, rest, same, -, -, -, plain⟩ := large.nonempty
  exact ⟨mark, rest, same, plain⟩

theorem Breaks.valueAt_eq (breaks : Breaks depth text fault) :
    valueAt depth text = .error (.fault fault) := by
  induction breaks with
  | deep far mark rest => exact valueAt_of_deep far mark rest
  | large near large =>
      obtain ⟨mark, rest, rfl, plain⟩ := large.exists_plain
      exact (valueAt_plain_eq_fault_iff near plain).2 large
  | item near skipped filled item _ ih =>
      exact (valueAt_array_eq_fault_iff near).2 ⟨_, skipped, filled,
        itemsAt_of_item item (fun _ => itemsAt_eq_fault_iff.2 (Or.inl ih)) []⟩
  | pair near filled pair keyed _ ih =>
      exact (valueAt_table_eq_fault_iff near).2 ⟨filled,
        inlineAt_of_pair pair (inlineAt_eq_fault_iff.2 ⟨_, _, keyed, Or.inl ih⟩)⟩

/-- In texts that are not too long, a fault of the reader is that of a value to which it comes. -/
structure Traced (bound : Nat) : Prop where
  value : ∀ depth text fault, 2 * text.length < bound →
    valueAt depth text = .error (.fault fault) → Breaks depth text fault
  items : ∀ depth reversed start text fault, 2 * text.length + 1 < bound → Item depth start text →
    itemsAt depth reversed text = .error (.fault fault) →
      ∃ last, Item depth start last ∧ Breaks depth last fault
  pairs : ∀ depth table marks start text fault, 2 * text.length + 1 < bound →
    Pair depth start table marks text → inlineAt depth table marks text = .error (.fault fault) →
      ∃ table marks last path inner, Pair depth start table marks last ∧ Keyed last path inner ∧
        Breaks depth inner fault

namespace Traced

variable {bound : Nat} (traced : Traced bound)

include traced

theorem value_succ (less : 2 * text.length < bound + 1)
    (failed : valueAt depth text = .error (.fault fault)) : Breaks depth text fault := by
  cases text with
  | nil => exact absurd failed not_valueAt_nil
  | cons mark rest =>
      rw [List.length_cons] at less
      by_cases far : deepest < depth
      · rw [valueAt_of_deep far] at failed
        cases failed
        exact .deep far mark rest
      · by_cases quoted : mark = '"' ∨ mark = singleQuote
        · exact absurd failed (not_valueAt_text far quoted)
        · obtain ⟨double, single⟩ := not_or.1 quoted
          by_cases array : mark = '['
          · subst array
            obtain ⟨start, skipped, filled, failed⟩ := (valueAt_array_eq_fault_iff far).1 failed
            have short : start.length ≤ rest.length := (bounded_skipFiller _ rest).length_le skipped
            obtain ⟨last, item, breaks⟩ := traced.items _ [] _ _ fault (by omega) .first failed
            exact .item far skipped filled item breaks
          · by_cases inline : mark = '\x7b'
            · subst inline
              obtain ⟨filled, failed⟩ := (valueAt_table_eq_fault_iff far).1 failed
              have short := length_skipSpaces_le rest
              obtain ⟨table, marks, last, path, inner, pair, keyed, breaks⟩ :=
                traced.pairs _ [] [] _ _ fault (by omega) .first failed
              exact .pair far filled pair keyed breaks
            · exact .large far ((valueAt_plain_eq_fault_iff far
                ⟨double, single, array, inline⟩).1 failed)

theorem items_succ {reversed : List Value} (less : 2 * text.length + 1 < bound + 1)
    (item : Item depth start text) (failed : itemsAt depth reversed text = .error (.fault fault)) :
    ∃ last, Item depth start last ∧ Breaks depth last fault := by
  rcases itemsAt_eq_fault_iff.1 failed with
    first | ⟨value, rest, more, inner, read, comma, skipped, filled, failed⟩
  · exact ⟨text, item, traced.value depth text fault (by omega) first⟩
  · have short : rest.length ≤ text.length := (bounded_valueAt depth text).length_le read
    have shorter : (',' :: more).length ≤ rest.length := (bounded_skipFiller _ rest).length_le comma
    have shortest : inner.length ≤ more.length := (bounded_skipFiller _ more).length_le skipped
    rw [List.length_cons] at shorter
    exact traced.items depth _ start _ fault (by omega) (item.next read comma skipped filled) failed

theorem pairs_succ (less : 2 * text.length + 1 < bound + 1) (pair : Pair depth start table marks text)
    (failed : inlineAt depth table marks text = .error (.fault fault)) :
    ∃ table marks last path inner, Pair depth start table marks last ∧ Keyed last path inner ∧
      Breaks depth inner fault := by
  obtain ⟨path, inner, keyed, failed⟩ := inlineAt_eq_fault_iff.1 failed
  have within := keyed.length_lt
  rcases failed with first | ⟨value, rest, more, larger, read, free, added, comma, failed⟩
  · exact ⟨table, marks, text, path, inner, pair, keyed,
      traced.value depth inner fault (by omega) first⟩
  · have short : rest.length ≤ inner.length := (bounded_valueAt depth inner).length_le read
    have shorter := length_skipSpaces_le rest
    have shortest := length_skipSpaces_le more
    rw [comma, List.length_cons] at shorter
    exact traced.pairs depth _ _ start _ fault (by omega) (pair.next keyed read free added comma)
      failed

end Traced

theorem traced (bound : Nat) : Traced bound := by
  induction bound with
  | zero => exact ⟨fun _ _ _ => nofun, fun _ _ _ _ _ => nofun, fun _ _ _ _ _ _ => nofun⟩
  | succ bound ih =>
      exact ⟨fun _ _ _ => ih.value_succ, fun _ _ _ _ _ => ih.items_succ,
        fun _ _ _ _ _ _ => ih.pairs_succ⟩

theorem valueAt_eq_fault_iff :
    valueAt depth text = .error (.fault fault) ↔ Breaks depth text fault :=
  ⟨(traced _).value depth text fault (Nat.lt_succ_self _), Breaks.valueAt_eq⟩

end Toml

end Config

end StaticSite
