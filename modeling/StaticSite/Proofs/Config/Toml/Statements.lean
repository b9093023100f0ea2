import StaticSite.Proofs.Config.Toml.Breaking

/-!
# Statements of a configuration in TOML

Of the statements only the pairs have values, so a configuration fails exactly if the reader comes
to a pair whose value cannot be made.
-/

namespace StaticSite

namespace Config

namespace Toml

variable {fuel : Nat} {text start rest more inner : Text} {path : KeyPath} {state next : State}
  {fault : Fault}

theorem bounded_readTable (state : State) (text : Text) :
    Bounded text Prod.snd never (readTable state text) := by
  unfold readTable
  refine ((bounded_readKey _).longer (length_skipSpaces_le text)).bind fun (path, rest) short => ?_
  dsimp only
  split
  · trivial
  · refine (bounded_demand_table text _).bind fun root _ => ?_
    refine ((bounded_demand (leaves_char ']' rest)).longer short).bind fun rest short => ?_
    exact short

theorem bounded_readArrayTable (state : State) (text : Text) :
    Bounded text Prod.snd never (readArrayTable state text) := by
  unfold readArrayTable
  refine ((bounded_readKey _).longer (length_skipSpaces_le text)).bind fun (path, rest) short => ?_
  dsimp only
  split
  · trivial
  · refine (bounded_demand_table text _).bind fun root _ => ?_
    refine ((bounded_demand (leaves_after "]]".toList rest)).longer short).bind fun rest short => ?_
    exact short

/-- The faults of a pair are those of its value. -/
def OfPair (text : Text) (fault : Fault) : Prop :=
  ∃ path inner, Keyed text path inner ∧ Breaks 0 inner fault

theorem bounded_readPair (state : State) (text : Text) :
    Bounded text Prod.snd (OfPair text) (readPair state text) := by
  unfold readPair
  refine (bounded_readKey text).of_never.bind_of fun (path, rest) read short => ?_
  refine ((bounded_demand (leaves_char '=' rest)).of_never.longer short).bind_of
    fun behind equals less => ?_
  rw [eq_of_char (demand_eq_ok_iff.1 equals)] at read
  have least := Nat.le_trans (length_skipSpaces_le behind) less
  have value : Bounded text Prod.snd (OfPair text) (valueAt 0 (skipSpaces behind)) :=
    ((bounded_valueAt 0 _).longer least).of_possible fun fault failed =>
      ⟨path, _, ⟨behind, read, rfl⟩, valueAt_eq_fault_iff.1 failed⟩
  refine value.bind fun (value, rest) short => ?_
  dsimp only
  split
  · trivial
  · split
    · trivial
    · refine (bounded_demand_table text _).of_never.bind fun root _ => ?_
      exact short

theorem readPair_of_keyed (state : State) (keyed : Keyed text path inner)
    (breaks : Breaks 0 inner fault) : readPair state text = .error (.fault fault) := by
  obtain ⟨behind, read, rfl⟩ := keyed
  unfold readPair
  refine bind_eq_error_iff.2 (Or.inr ⟨_, read, ?_⟩)
  refine bind_eq_error_iff.2 (Or.inr ⟨behind, rfl, ?_⟩)
  exact bind_eq_error_iff.2 (Or.inl (valueAt_eq_fault_iff.2 breaks))

theorem bounded_readStatement (state : State) (text : Text) :
    Bounded text Prod.snd (OfPair text) (readStatement state text) := by
  unfold readStatement
  split
  · next rest =>
      refine (bounded_readArrayTable state rest).of_never.longer ?_
      simp only [List.length_cons]
      omega
  · exact (bounded_readTable state _).of_never.longer (Nat.le_succ _)
  · exact Nat.le_refl _
  · split
    · exact bounded_readPair state _
    · trivial
  · exact Nat.le_refl _

theorem Keyed.begins (keyed : Keyed text path inner) :
    ∃ mark rest, text = mark :: rest ∧
      (isBareKey mark = true ∨ mark = '"' ∨ mark = singleQuote) := by
  obtain ⟨behind, read, -⟩ := keyed
  unfold readKey readKeyParts at read
  obtain ⟨⟨part, rest⟩, read, -⟩ := bind_eq_ok_iff.1 read
  unfold readKeyPart at read
  split at read
  · cases read
  · exact ⟨_, _, rfl, Or.inr (Or.inl rfl)⟩
  · next mark rest _ _ =>
      split at read
      · next single => exact ⟨mark, rest, rfl, Or.inr (Or.inr single)⟩
      · split at read
        · next bare => exact ⟨mark, rest, rfl, Or.inl bare⟩
        · cases read

theorem OfPair.begins (ofPair : OfPair text fault) :
    ∃ mark rest, text = mark :: rest ∧
      (isBareKey mark = true ∨ mark = '"' ∨ mark = singleQuote) := by
  obtain ⟨path, inner, keyed, -⟩ := ofPair
  exact keyed.begins

theorem readStatement_of_pair (state : State) (ofPair : OfPair text fault) :
    readStatement state text = .error (.fault fault) := by
  obtain ⟨path, inner, keyed, breaks⟩ := ofPair
  obtain ⟨mark, rest, rfl, begins⟩ := keyed.begins
  have noTable : mark ≠ '[' := by
    rintro rfl
    exact absurd begins (by decide)
  have noComment : mark ≠ '#' := by
    rintro rfl
    exact absurd begins (by decide)
  unfold readStatement
  split
  · next same => exact absurd (List.cons.inj same).1 noTable
  · next same => exact absurd (List.cons.inj same).1 noTable
  · next same => exact absurd (List.cons.inj same).1 noComment
  · next same =>
      rw [← (List.cons.inj same).1, if_pos begins]
      exact readPair_of_keyed state keyed breaks
  · next same => cases same

/-! ## The statements to which the reader comes -/

/-- What is read of statements, with as many steps as it takes. -/
def statementsAt (state : State) (text : Text) : Reading Table :=
  readStatements (text.length + 1) state text

theorem length_lt_of_line (read : readStatement state text = .ok (next, rest))
    (ends : skipComment (skipSpaces rest) = .ok ('\n' :: more)) : more.length < text.length := by
  have short : rest.length ≤ text.length := (bounded_readStatement state text).length_le read
  have less := length_skipSpaces_le rest
  have least : ('\n' :: more).length ≤ (skipSpaces rest).length :=
    (bounded_skipComment _).length_le ends
  rw [List.length_cons] at least
  omega

/-- More steps than a text needs change nothing. -/
theorem readStatements_congr (fuel : Nat) :
    ∀ other state text, text.length < fuel → text.length < other →
      readStatements fuel state text = readStatements other state text := by
  induction fuel with
  | zero => exact fun _ _ _ => nofun
  | succ fuel ih =>
      intro other state text enough also
      obtain ⟨other, rfl⟩ : ∃ before, other = before + 1 := ⟨other - 1, by omega⟩
      have short := length_skipSpaces_le text
      unfold readStatements
      split
      · rfl
      · next rest same =>
          rw [same, List.length_cons] at short
          exact ih other state rest (by omega) (by omega)
      · refine (bounded_readStatement state _).bind_of_congr fun (next, rest) read _ => ?_
        refine (bounded_skipComment _).bind_of_congr fun behind ends _ => ?_
        split
        · rfl
        · have less := length_lt_of_line read ends
          exact ih other next _ (by omega) (by omega)
        · rfl

theorem readStatements_eq (enough : text.length < fuel) :
    readStatements fuel state text = statementsAt state text :=
  readStatements_congr fuel _ state text enough (Nat.lt_succ_self _)

/-- A pair in the first line has a value that cannot be made, or one in a later line. -/
def LinesFail (state : State) (text : Text) (fault : Fault) : Prop :=
  OfPair (skipSpaces text) fault ∨
    (∃ rest, skipSpaces text = '\n' :: rest ∧ statementsAt state rest = .error (.fault fault)) ∨
      ∃ next rest more, readStatement state (skipSpaces text) = .ok (next, rest) ∧
        skipComment (skipSpaces rest) = .ok ('\n' :: more) ∧
        statementsAt next more = .error (.fault fault)

theorem linesFail_of_statementsAt (failed : statementsAt state text = .error (.fault fault)) :
    LinesFail state text fault := by
  have short := length_skipSpaces_le text
  unfold statementsAt readStatements at failed
  split at failed
  · cases failed
  · next rest same =>
      rw [same, List.length_cons] at short
      rw [readStatements_eq (by omega)] at failed
      exact Or.inr (Or.inl ⟨rest, same, failed⟩)
  · rcases bind_eq_error_iff.1 failed with failed | ⟨⟨next, rest⟩, read, failed⟩
    · exact Or.inl ((bounded_readStatement state _).possible failed)
    · rcases bind_eq_error_iff.1 failed with failed | ⟨behind, ends, failed⟩
      · exact ((bounded_skipComment _).possible failed).elim
      · split at failed
        · cases failed
        · next more =>
            have less := length_lt_of_line read ends
            rw [readStatements_eq (by omega)] at failed
            exact Or.inr (Or.inr ⟨next, rest, more, read, ends, failed⟩)
        · cases failed

theorem statementsAt_of_linesFail (failed : LinesFail state text fault) :
    statementsAt state text = .error (.fault fault) := by
  have short := length_skipSpaces_le text
  rcases failed with pair | ⟨rest, empty, failed⟩ | ⟨next, rest, more, read, ends, failed⟩
  · obtain ⟨mark, behind, same, begins⟩ := pair.begins
    unfold statementsAt readStatements
    split
    · next empty => cases empty.symm.trans same
    · next rest empty =>
        cases empty.symm.trans same
        exact absurd begins (by decide)
    · exact bind_eq_error_iff.2 (Or.inl (readStatement_of_pair state pair))
  · rw [empty, List.length_cons] at short
    unfold statementsAt readStatements
    simp only [empty]
    rw [readStatements_eq (by omega)]
    exact failed
  · have less := length_lt_of_line read ends
    unfold statementsAt readStatements
    split
    · next empty =>
        rw [empty] at read
        cases read
        cases ends
    · next rest empty =>
        rw [empty] at read
        cases read
    · refine bind_eq_error_iff.2 (Or.inr ⟨(next, rest), read, ?_⟩)
      refine bind_eq_error_iff.2 (Or.inr ⟨'\n' :: more, ends, ?_⟩)
      simp only
      rw [readStatements_eq (by omega)]
      exact failed

/-- Statements fail at the first of them that does. -/
theorem statementsAt_eq_fault_iff :
    statementsAt state text = .error (.fault fault) ↔ LinesFail state text fault :=
  ⟨linesFail_of_statementsAt, statementsAt_of_linesFail⟩

/-- The reader comes to a line, with what the lines in front of it make. -/
inductive Comes (start : Text) : State → Text → Prop where
  | first : Comes start {} start
  | blank {state : State} {text rest : Text} (comes : Comes start state text)
      (empty : skipSpaces text = '\n' :: rest) : Comes start state rest
  | next {state next : State} {text rest more : Text} (comes : Comes start state text)
      (read : readStatement state (skipSpaces text) = .ok (next, rest))
      (ends : skipComment (skipSpaces rest) = .ok ('\n' :: more)) : Comes start next more

theorem statementsAt_of_comes (comes : Comes start state text)
    (fails : statementsAt state text = .error (.fault fault)) :
    statementsAt {} start = .error (.fault fault) := by
  induction comes with
  | first => exact fails
  | blank _ empty ih => exact ih (statementsAt_eq_fault_iff.2 (Or.inr (Or.inl ⟨_, empty, fails⟩)))
  | next _ read ends ih =>
      exact ih (statementsAt_eq_fault_iff.2 (Or.inr (Or.inr ⟨_, _, _, read, ends, fails⟩)))

theorem exists_comes (bound : Nat) :
    ∀ state text, text.length < bound → Comes start state text →
      statementsAt state text = .error (.fault fault) →
        ∃ state last, Comes start state last ∧ OfPair (skipSpaces last) fault := by
  induction bound with
  | zero => exact fun _ _ => nofun
  | succ bound ih =>
      intro state text less comes failed
      have short := length_skipSpaces_le text
      rcases statementsAt_eq_fault_iff.1 failed with
        pair | ⟨rest, empty, failed⟩ | ⟨next, rest, more, read, ends, failed⟩
      · exact ⟨state, text, comes, pair⟩
      · rw [empty, List.length_cons] at short
        exact ih state rest (by omega) (comes.blank empty) failed
      · have shorter := length_lt_of_line read ends
        exact ih next more (by omega) (comes.next read ends) failed

/-- A configuration in TOML fails exactly if its reader comes to a pair whose value it cannot
make. -/
theorem read_eq_fault_iff :
    read text = .error (.fault fault) ↔
      ∃ state rest, Comes (Text.replace "\r\n" "\n" text) state rest ∧
        OfPair (skipSpaces rest) fault := by
  have short : (Text.replace "\r\n" "\n" text).length ≤ text.length :=
    Text.length_replace_le (by decide) text
  have whole : read text = .error (.fault fault) ↔
      statementsAt {} (Text.replace "\r\n" "\n" text) = .error (.fault fault) := by
    rw [read, readStatements_eq (by omega), bind_eq_error_iff]
    exact ⟨fun failed => failed.elim id fun ⟨_, _, made⟩ => (nomatch made), Or.inl⟩
  rw [whole]
  constructor
  · exact exists_comes _ _ _ (Nat.lt_succ_self _) .first
  · rintro ⟨state, rest, comes, pair⟩
    exact statementsAt_of_comes comes (statementsAt_eq_fault_iff.2 (Or.inl pair))

end Toml

end Config

end StaticSite
