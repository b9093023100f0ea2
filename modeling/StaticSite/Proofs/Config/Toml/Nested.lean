import Mathlib.Logic.Basic
import StaticSite.Proofs.Config.Toml.Steps

/-!
# Nested values of a configuration in TOML

Arrays and inline tables are read in steps that are bounded by the length of the text; more steps
than that change nothing.  They fail at the first of their values that does.
-/

namespace StaticSite

namespace Config

namespace Toml

variable {depth fuel : Nat} {text start rest after more inner : Text} {path : KeyPath}
  {value : Value} {table : Table} {marks : Marks} {mark : Char} {fault : Fault}

theorem bounded_demand_table (text : Text) (found : Option Table) :
    Bounded text (fun _ => []) never (demand found) :=
  bounded_demand <| by
    cases found with
    | none => trivial
    | some table => exact Nat.zero_le _

/-- With some steps, the values, the items of an array and the pairs of an inline table leave no more
than they were given. -/
structure NestedBounded (fuel : Nat) : Prop where
  value : ∀ depth text, Bounded text Prod.snd any (readValue fuel depth text)
  items : ∀ depth reversed text, Bounded text Prod.snd any (readItems fuel depth reversed text)
  pairs : ∀ depth table marks text,
    Bounded text Prod.snd any (readInline fuel depth table marks text)

namespace NestedBounded

variable (nested : NestedBounded fuel)

include nested

theorem value_succ (depth : Nat) (text : Text) :
    Bounded text Prod.snd any (readValue (fuel + 1) depth text) := by
  cases text with
  | nil =>
      unfold readValue
      trivial
  | cons character rest =>
      unfold readValue
      split
      · trivial
      · split
        · exact (bounded_readText character rest).of_never.longer (Nat.le_succ _)
        · split
          · refine ((bounded_skipFiller _ rest).of_never.bind fun behind short => ?_).longer
              (Nat.le_succ _)
            split
            · exact Nat.le_of_succ_le short
            · exact (nested.items _ _ _).longer short
          · split
            · have short := length_skipSpaces_le rest
              split
              · next same =>
                  rw [same, List.length_cons] at short
                  exact Nat.le_succ_of_le (Nat.le_of_succ_le short)
              · exact (nested.pairs _ _ _ _).longer (Nat.le_succ_of_le short)
            · exact (bounded_readPlain _).mono (Nat.le_refl _) fun _ _ => trivial

theorem items_succ (depth : Nat) (reversed : List Value) (text : Text) :
    Bounded text Prod.snd any (readItems (fuel + 1) depth reversed text) := by
  rw [readItems]
  refine (nested.value depth text).bind fun (item, rest) short => ?_
  refine ((bounded_skipFiller _ rest).of_never.longer short).bind fun behind less => ?_
  split
  · exact Nat.le_of_succ_le less
  · next more =>
      refine ((bounded_skipFiller _ more).of_never.longer (Nat.le_of_succ_le less)).bind
        fun behind less => ?_
      split
      · exact Nat.le_of_succ_le less
      · exact (nested.items _ _ _).longer less
  · trivial

theorem pairs_succ (depth : Nat) (table : Table) (marks : Marks) (text : Text) :
    Bounded text Prod.snd any (readInline (fuel + 1) depth table marks text) := by
  rw [readInline]
  refine (bounded_readKey text).of_never.bind fun (path, rest) short => ?_
  dsimp only
  split
  · next inner =>
      have less := Nat.le_trans (length_skipSpaces_le inner) (Nat.le_of_succ_le short)
      refine ((nested.value depth _).longer less).bind fun (value, rest) short => ?_
      dsimp only
      split
      · trivial
      · refine (bounded_demand_table text _).of_never.bind fun table _ => ?_
        have least := Nat.le_trans (length_skipSpaces_le rest) short
        split
        · next same =>
            rw [same, List.length_cons] at least
            exact Nat.le_of_succ_le least
        · next more same =>
            rw [same, List.length_cons] at least
            exact (nested.pairs _ _ _ _).longer
              (Nat.le_trans (length_skipSpaces_le more) (Nat.le_of_succ_le least))
        · trivial
  · trivial

end NestedBounded

theorem nestedBounded (fuel : Nat) : NestedBounded fuel := by
  induction fuel with
  | zero =>
      refine ⟨fun _ _ => ?_, fun _ _ _ => ?_, fun _ _ _ _ => ?_⟩
      · rw [readValue]
        trivial
      · rw [readItems]
        trivial
      · rw [readInline]
        trivial
  | succ fuel ih => exact ⟨ih.value_succ, ih.items_succ, ih.pairs_succ⟩

/-- More steps change nothing for a text that needs no more than these. -/
structure NestedSettled (fuel : Nat) : Prop where
  value : ∀ other depth text, 2 * text.length + 2 ≤ fuel → 2 * text.length + 2 ≤ other →
    readValue fuel depth text = readValue other depth text
  items : ∀ other depth reversed text, 2 * text.length + 3 ≤ fuel →
    2 * text.length + 3 ≤ other →
      readItems fuel depth reversed text = readItems other depth reversed text
  pairs : ∀ other depth table marks text, 2 * text.length + 3 ≤ fuel →
    2 * text.length + 3 ≤ other →
      readInline fuel depth table marks text = readInline other depth table marks text

namespace NestedSettled

variable {other : Nat} (nested : NestedSettled fuel)

include nested

theorem value_succ (depth : Nat) (enough : 2 * text.length + 2 ≤ fuel + 1)
    (also : 2 * text.length + 2 ≤ other) :
    readValue (fuel + 1) depth text = readValue other depth text := by
  obtain ⟨other, rfl⟩ := Nat.exists_eq_succ_of_ne_zero (show other ≠ 0 by omega)
  cases text with
  | nil =>
      unfold readValue
      rfl
  | cons character rest =>
      rw [List.length_cons] at enough also
      unfold readValue
      split
      · rfl
      · split
        · rfl
        · split
          · refine (bounded_skipFiller _ rest).bind_congr fun behind short => ?_
            dsimp only [id] at short
            split
            · rfl
            · exact nested.items other _ _ _ (by omega) (by omega)
          · split
            · have short := length_skipSpaces_le rest
              split
              · rfl
              · exact nested.pairs other _ _ _ _ (by omega) (by omega)
            · rfl

theorem items_succ (depth : Nat) (reversed : List Value) (enough : 2 * text.length + 3 ≤ fuel + 1)
    (also : 2 * text.length + 3 ≤ other) :
    readItems (fuel + 1) depth reversed text = readItems other depth reversed text := by
  obtain ⟨other, rfl⟩ := Nat.exists_eq_succ_of_ne_zero (show other ≠ 0 by omega)
  rw [readItems, readItems, nested.value other depth text (by omega) (by omega)]
  refine ((nestedBounded other).value depth text).bind_congr fun (item, rest) short => ?_
  refine (bounded_skipFiller _ rest).bind_congr fun behind less => ?_
  split
  · rfl
  · next more =>
      refine (bounded_skipFiller _ more).bind_congr fun behind least => ?_
      dsimp only [id] at short less least
      rw [List.length_cons] at less
      split
      · rfl
      · exact nested.items other _ _ _ (by omega) (by omega)
  · rfl

theorem pairs_succ (depth : Nat) (table : Table) (marks : Marks)
    (enough : 2 * text.length + 3 ≤ fuel + 1) (also : 2 * text.length + 3 ≤ other) :
    readInline (fuel + 1) depth table marks text = readInline other depth table marks text := by
  obtain ⟨other, rfl⟩ := Nat.exists_eq_succ_of_ne_zero (show other ≠ 0 by omega)
  rw [readInline, readInline]
  refine (bounded_readKey text).bind_congr fun (path, rest) short => ?_
  dsimp only
  split
  · next inner =>
      dsimp only at short
      have less := length_skipSpaces_le inner
      rw [List.length_cons] at short
      rw [nested.value other depth _ (by omega) (by omega)]
      refine ((nestedBounded other).value depth _).bind_congr fun (value, rest) shorter => ?_
      dsimp only
      split
      · rfl
      · refine (bounded_demand_table text _).bind_congr fun table _ => ?_
        have least := length_skipSpaces_le rest
        dsimp only at shorter
        split
        · rfl
        · next more same =>
            have shortest := length_skipSpaces_le more
            rw [same, List.length_cons] at least
            exact nested.pairs other _ _ _ _ (by omega) (by omega)
        · rfl
  · rfl

end NestedSettled

theorem nestedSettled (fuel : Nat) : NestedSettled fuel := by
  induction fuel with
  | zero => exact ⟨fun _ _ _ => nofun, fun _ _ _ _ => nofun, fun _ _ _ _ _ => nofun⟩
  | succ fuel ih =>
      exact ⟨fun _ depth _ => ih.value_succ depth, fun _ depth reversed _ => ih.items_succ depth reversed,
        fun _ depth table marks _ => ih.pairs_succ depth table marks⟩

/-! ## The values to which the reader comes -/

/-- What is read of a value, with as many steps as it takes. -/
def valueAt (depth : Nat) (text : Text) : Reading (Value × Text) :=
  readValue (2 * text.length + 2) depth text

def itemsAt (depth : Nat) (reversed : List Value) (text : Text) : Reading (Value × Text) :=
  readItems (2 * text.length + 3) depth reversed text

def inlineAt (depth : Nat) (table : Table) (marks : Marks) (text : Text) :
    Reading (Value × Text) :=
  readInline (2 * text.length + 3) depth table marks text

theorem readValue_eq (enough : 2 * text.length + 2 ≤ fuel) :
    readValue fuel depth text = valueAt depth text :=
  (nestedSettled fuel).value _ depth text enough (Nat.le_refl _)

theorem readItems_eq {reversed : List Value} (enough : 2 * text.length + 3 ≤ fuel) :
    readItems fuel depth reversed text = itemsAt depth reversed text :=
  (nestedSettled fuel).items _ depth reversed text enough (Nat.le_refl _)

theorem readInline_eq (enough : 2 * text.length + 3 ≤ fuel) :
    readInline fuel depth table marks text = inlineAt depth table marks text :=
  (nestedSettled fuel).pairs _ depth table marks text enough (Nat.le_refl _)

theorem bounded_valueAt (depth : Nat) (text : Text) :
    Bounded text Prod.snd any (valueAt depth text) :=
  (nestedBounded _).value depth text

theorem valueAt_of_deep (far : deepest < depth) (mark : Char) (rest : Text) :
    valueAt depth (mark :: rest) = .error (.fault .depth) :=
  if_pos far

theorem not_valueAt_nil : valueAt depth [] ≠ .error (.fault fault) := by
  unfold valueAt readValue
  nofun

theorem not_valueAt_text (near : ¬ deepest < depth) (quoted : mark = '"' ∨ mark = singleQuote) :
    valueAt depth (mark :: rest) ≠ .error (.fault fault) := by
  intro failed
  have read : valueAt depth (mark :: rest) = readText mark rest :=
    (if_neg near).trans (if_pos quoted)
  exact (bounded_readText mark rest).possible (read.symm.trans failed)

theorem valueAt_array (near : ¬ deepest < depth) :
    valueAt depth ('[' :: rest) =
      skipFiller (rest.length + 1) rest >>= fun behind =>
        match behind with
        | ']' :: rest => return (.list [], rest)
        | rest' => readItems (2 * rest.length + 3) (depth + 2) [] rest' :=
  (if_neg near).trans ((if_neg (by decide)).trans (if_pos rfl))

theorem valueAt_array_eq_fault_iff (near : ¬ deepest < depth) :
    valueAt depth ('[' :: rest) = .error (.fault fault) ↔
      ∃ inner, skipFiller (rest.length + 1) rest = .ok inner ∧ inner.head? ≠ some ']' ∧
        itemsAt (depth + 2) [] inner = .error (.fault fault) := by
  rw [valueAt_array near, bind_eq_error_iff]
  constructor
  · rintro (failed | ⟨inner, skipped, failed⟩)
    · exact ((bounded_skipFiller _ rest).possible failed).elim
    · have short : inner.length ≤ rest.length := (bounded_skipFiller _ rest).length_le skipped
      split at failed
      · cases failed
      · next other =>
          rw [readItems_eq (by omega)] at failed
          refine ⟨inner, skipped, fun closed => ?_, failed⟩
          obtain ⟨after, same⟩ := List.head?_eq_some_iff.1 closed
          exact other after same
  · rintro ⟨inner, skipped, filled, failed⟩
    have short : inner.length ≤ rest.length := (bounded_skipFiller _ rest).length_le skipped
    refine Or.inr ⟨inner, skipped, ?_⟩
    split
    · exact absurd rfl filled
    · rw [readItems_eq (by omega)]
      exact failed

theorem valueAt_table (near : ¬ deepest < depth) :
    valueAt depth ('\x7b' :: rest) =
      match skipSpaces rest with
      | '\x7d' :: rest => .ok (.mapping [], rest)
      | rest' => readInline (2 * rest.length + 3) (depth + 3) [] [] rest' :=
  (if_neg near).trans ((if_neg (by decide)).trans ((if_neg (by decide)).trans (if_pos rfl)))

theorem valueAt_table_eq_fault_iff (near : ¬ deepest < depth) :
    valueAt depth ('\x7b' :: rest) = .error (.fault fault) ↔
      (skipSpaces rest).head? ≠ some '\x7d' ∧
        inlineAt (depth + 3) [] [] (skipSpaces rest) = .error (.fault fault) := by
  have short := length_skipSpaces_le rest
  rw [valueAt_table near]
  constructor
  · intro failed
    split at failed
    · cases failed
    · next other =>
        rw [readInline_eq (by omega)] at failed
        refine ⟨fun closed => ?_, failed⟩
        obtain ⟨after, same⟩ := List.head?_eq_some_iff.1 closed
        exact other after same
  · rintro ⟨filled, failed⟩
    split
    · next same => exact absurd (by rw [same]; rfl) filled
    · rw [readInline_eq (by omega)]
      exact failed

/-- A character begins a value that is neither a text nor nested. -/
def IsPlain (mark : Char) : Prop :=
  mark ≠ '"' ∧ mark ≠ singleQuote ∧ mark ≠ '[' ∧ mark ≠ '\x7b'

theorem valueAt_plain_eq_fault_iff (near : ¬ deepest < depth) (plain : IsPlain mark) :
    valueAt depth (mark :: rest) = .error (.fault fault) ↔ IsTooLarge (mark :: rest) fault := by
  obtain ⟨double, single, array, table⟩ := plain
  have read : valueAt depth (mark :: rest) = readPlain (mark :: rest) :=
    (if_neg near).trans ((if_neg (not_or.2 ⟨double, single⟩)).trans
      ((if_neg array).trans (if_neg table)))
  rw [read]
  exact ⟨(bounded_readPlain _).possible, readPlain_of_large⟩

/-- The items of an array fail at the first of them that does. -/
theorem itemsAt_eq_fault_iff {reversed : List Value} :
    itemsAt depth reversed text = .error (.fault fault) ↔
      valueAt depth text = .error (.fault fault) ∨
        ∃ item rest more inner, valueAt depth text = .ok (item, rest) ∧
          skipFiller (rest.length + 1) rest = .ok (',' :: more) ∧
          skipFiller (more.length + 1) more = .ok inner ∧ inner.head? ≠ some ']' ∧
          itemsAt depth (item :: reversed) inner = .error (.fault fault) := by
  have again {item : Value} {rest more inner : Text} (read : valueAt depth text = .ok (item, rest))
      (comma : skipFiller (rest.length + 1) rest = .ok (',' :: more))
      (behind : skipFiller (more.length + 1) more = .ok inner) :
      readItems (2 * text.length + 2) depth (item :: reversed) inner =
        itemsAt depth (item :: reversed) inner := by
    have short : rest.length ≤ text.length := (bounded_valueAt depth text).length_le read
    have less : (',' :: more).length ≤ rest.length := (bounded_skipFiller _ rest).length_le comma
    have least : inner.length ≤ more.length := (bounded_skipFiller _ more).length_le behind
    rw [List.length_cons] at less
    exact readItems_eq (by omega)
  rw [itemsAt, readItems, bind_eq_error_iff]
  refine or_congr Iff.rfl ⟨?_, ?_⟩
  · rintro ⟨⟨item, rest⟩, read, failed⟩
    rcases bind_eq_error_iff.1 failed with failed | ⟨behind, comma, failed⟩
    · exact ((bounded_skipFiller _ rest).possible failed).elim
    · split at failed
      · cases failed
      · next more =>
          rcases bind_eq_error_iff.1 failed with failed | ⟨inner, skipped, failed⟩
          · exact ((bounded_skipFiller _ more).possible failed).elim
          · split at failed
            · cases failed
            · next other =>
                refine ⟨item, rest, more, inner, read, comma, skipped, fun closed => ?_,
                  (again read comma skipped).symm.trans failed⟩
                obtain ⟨after, same⟩ := List.head?_eq_some_iff.1 closed
                exact other after same
      · cases failed
  · rintro ⟨item, rest, more, inner, read, comma, skipped, filled, failed⟩
    refine ⟨(item, rest), read, bind_eq_error_iff.2 (Or.inr ⟨',' :: more, comma, ?_⟩)⟩
    refine bind_eq_error_iff.2 (Or.inr ⟨inner, skipped, ?_⟩)
    split
    · exact absurd rfl filled
    · exact (again read comma skipped).trans failed

/-- A text begins with a key and an equals sign, behind which there is the value. -/
def Keyed (text : Text) (path : KeyPath) (inner : Text) : Prop :=
  ∃ behind, readKey text = .ok (path, '=' :: behind) ∧ inner = skipSpaces behind

theorem Keyed.length_lt (keyed : Keyed text path inner) : inner.length < text.length := by
  obtain ⟨behind, read, rfl⟩ := keyed
  have short : ('=' :: behind).length ≤ text.length := (bounded_readKey text).length_le read
  have less := length_skipSpaces_le behind
  rw [List.length_cons] at short
  omega

/-- A table with one more value under a key path, unless the path is taken. -/
def extend (openLists : Bool) (header path : KeyPath) (value : Value) (table : Table) :
    Option Table :=
  modifyTable openLists (addKey (path.getLast?.getD []) value) (header ++ path.dropLast) table

/-- The pairs behind the first one are read with as many steps as they take. -/
theorem Keyed.readInline_eq {text inner rest more : Text} {value : Value} (keyed : Keyed text path inner)
    (read : valueAt depth inner = .ok (value, rest)) (comma : skipSpaces rest = ',' :: more)
    (table : Table) (marks : Marks) :
    readInline (2 * text.length + 2) depth table marks (skipSpaces more) =
      inlineAt depth table marks (skipSpaces more) := by
  have short := keyed.length_lt
  have shorter : rest.length ≤ inner.length := (bounded_valueAt depth inner).length_le read
  have less := length_skipSpaces_le rest
  have shortest := length_skipSpaces_le more
  rw [comma, List.length_cons] at less
  exact Toml.readInline_eq (by omega)

/-- The value of a pair cannot be made, or that of a later pair. -/
def PairFails (depth : Nat) (table : Table) (marks : Marks) (path : KeyPath) (inner : Text)
    (fault : Fault) : Prop :=
  valueAt depth inner = .error (.fault fault) ∨
    ∃ value rest more larger, valueAt depth inner = .ok (value, rest) ∧
      hasMark marks .frozen path = false ∧ extend false [] path value table = some larger ∧
      skipSpaces rest = ',' :: more ∧
      inlineAt depth larger (freeze path value marks) (skipSpaces more) = .error (.fault fault)

theorem exists_pair_of_inlineAt (failed : inlineAt depth table marks text = .error (.fault fault)) :
    ∃ path inner, Keyed text path inner ∧ PairFails depth table marks path inner fault := by
  unfold inlineAt readInline at failed
  rcases bind_eq_error_iff.1 failed with bad | ⟨⟨path, rest⟩, read, failed⟩
  · exact ((bounded_readKey text).possible bad).elim
  · dsimp only at failed
    split at failed
    · next behind =>
        have keyed : Keyed text path (skipSpaces behind) := ⟨behind, read, rfl⟩
        have short := keyed.length_lt
        rw [readValue_eq (by omega)] at failed
        refine ⟨path, skipSpaces behind, keyed, ?_⟩
        rcases bind_eq_error_iff.1 failed with first | ⟨⟨value, rest⟩, read, failed⟩
        · exact Or.inl first
        · dsimp only at failed
          split at failed
          · cases failed
          · next free =>
              rcases bind_eq_error_iff.1 failed with taken | ⟨larger, added, failed⟩
              · exact ((bounded_demand_table text _).possible taken).elim
              · split at failed
                · cases failed
                · next more comma =>
                    exact Or.inr ⟨value, rest, more, larger, read, Bool.eq_false_iff.2 free,
                      demand_eq_ok_iff.1 added, comma,
                      (keyed.readInline_eq read comma _ _).symm.trans failed⟩
                · cases failed
    · cases failed

theorem inlineAt_of_pairFails (keyed : Keyed text path inner)
    (failed : PairFails depth table marks path inner fault) :
    inlineAt depth table marks text = .error (.fault fault) := by
  have short := keyed.length_lt
  have whole := keyed
  obtain ⟨behind, read, rfl⟩ := keyed
  unfold inlineAt readInline
  refine bind_eq_error_iff.2 (Or.inr ⟨(path, '=' :: behind), read, ?_⟩)
  simp only
  rw [readValue_eq (by omega)]
  refine bind_eq_error_iff.2 ?_
  rcases failed with first | ⟨value, rest, more, larger, read, free, added, comma, failed⟩
  · exact Or.inl first
  · refine Or.inr ⟨(value, rest), read, ?_⟩
    have taken : ¬ hasMark marks .frozen path = true := Bool.eq_false_iff.1 free
    dsimp only
    rw [if_neg taken]
    refine bind_eq_error_iff.2 (Or.inr ⟨larger, demand_eq_ok_iff.2 added, ?_⟩)
    simp only [comma]
    exact (whole.readInline_eq read comma _ _).trans failed

/-- The pairs of an inline table fail at the first of them whose value does. -/
theorem inlineAt_eq_fault_iff :
    inlineAt depth table marks text = .error (.fault fault) ↔
      ∃ path inner, Keyed text path inner ∧ PairFails depth table marks path inner fault :=
  ⟨exists_pair_of_inlineAt, fun ⟨_, _, keyed, failed⟩ => inlineAt_of_pairFails keyed failed⟩

end Toml

end Config

end StaticSite
