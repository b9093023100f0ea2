import StaticSite.Config.Json
import StaticSite.Proofs.Config.Reading

/-!
# The steps of the reader of JSON

Strings have no faults, and of the numbers only the integers with too many digits have one.  What
is nested is read in steps that are bounded by the length of the text; more steps than that change
nothing.
-/

namespace StaticSite

namespace Config

namespace Json

variable {depth fuel : Nat} {text rest after more inner digits key : Text} {value : Value}
  {mark : Char} {fault : Fault}

theorem length_skipBlanks_le (text : Text) : (skipBlanks text).length ≤ text.length :=
  List.length_dropWhile_le _ text

/-! ## Strings and numbers -/

theorem bounded_readEscape (text : Text) : Bounded text Prod.snd never (readEscape text) := by
  unfold readEscape
  split
  all_goals try exact Nat.le_succ _
  · next rest =>
      have short : (rest.drop 4).length ≤ ('u' :: rest).length := by
        rw [List.length_drop, List.length_cons]
        omega
      split
      · trivial
      · dsimp only
        split
        · split
          · next second behind =>
              split
              · trivial
              · split
                · refine Nat.le_trans ?_ short
                  rw [behind, List.length_drop, List.length_cons, List.length_cons]
                  omega
                · exact short
          · exact short
        · exact short
  · trivial

theorem bounded_readString (fuel : Nat) (reversed text : Text) :
    Bounded text Prod.snd never (readString fuel reversed text) := by
  induction fuel generalizing reversed text with
  | zero => trivial
  | succ fuel ih =>
      cases text with
      | nil => trivial
      | cons character rest =>
          rw [readString]
          split
          · exact Nat.le_succ _
          · split
            · refine ((bounded_readEscape rest).bind fun escaped short => ?_).longer (Nat.le_succ _)
              exact (ih _ _).longer short
            · split
              · trivial
              · exact (ih _ _).longer (Nat.le_succ _)

/-- Digits of an integer that has too many of them, in front of a text with which the number does
not go on. -/
structure IsLong (digits rest : Text) : Prop where
  decimal : ∀ character ∈ digits, character.isDigit = true
  natural : digits.head? ≠ some '0'
  ends : ∀ character ∈ rest.head?, character.isDigit = false
  whole : (splitFraction rest).1 = []
  single : (splitPower rest).1 = none
  long : longestInteger < digits.length

theorem splitFraction_of_empty (whole : (splitFraction text).1 = []) :
    splitFraction text = ([], text) := by
  unfold splitFraction at whole ⊢
  dsimp only at whole ⊢
  split at whole
  · split at whole
    · next empty => rw [if_pos empty]
    · next filled => exact absurd (List.isEmpty_iff.2 whole) filled
  · rfl

theorem length_splitFraction_le (text : Text) : (splitFraction text).2.length ≤ text.length := by
  unfold splitFraction
  dsimp only
  split
  · split
    · exact Nat.le_refl _
    · simp only [List.length_drop, List.length_cons]
      omega
  · exact Nat.le_refl _

theorem length_splitPower_le (text : Text) : (splitPower text).2.length ≤ text.length := by
  unfold splitPower
  dsimp only
  split
  all_goals
    try split
    all_goals
      simp only [List.length_drop, List.length_cons]
      omega

/-- The digits in front of the fraction and the power of a number. -/
def wholeDigits (text : Text) : Text :=
  match text with
  | '0' :: _ => ['0']
  | _ => text.takeWhile Char.isDigit

theorem readNumber_eq (negative : Bool) (text : Text) :
    readNumber negative text =
      if (wholeDigits text).isEmpty then .error .malformed
      else
        let (fraction, rest) := splitFraction (text.drop (wholeDigits text).length)
        let (power, rest) := splitPower rest
        if fraction.isEmpty ∧ power.isNone then do
          return (.int (← integer negative (wholeDigits text)), rest)
        else
          .ok (.float (Decimal.toFloat negative (wholeDigits text) fraction (power.getD 0)), rest) :=
  rfl

theorem wholeDigits_of_long (long : longestInteger < (wholeDigits text).length) :
    wholeDigits text = text.takeWhile Char.isDigit ∧ (wholeDigits text).head? ≠ some '0' := by
  unfold wholeDigits at long ⊢
  split at long
  · exact absurd long (by decide)
  · next other =>
      refine ⟨rfl, fun zero => ?_⟩
      cases text with
      | nil => cases zero
      | cons first rest =>
          rw [List.takeWhile_cons] at zero
          split at zero
          · cases zero
            exact other rest rfl
          · cases zero

theorem IsLong.wholeDigits_append (long : IsLong digits rest) :
    wholeDigits (digits ++ rest) = digits := by
  have taken : (digits ++ rest).takeWhile Char.isDigit = digits := by
    rw [List.takeWhile_append_of_pos long.decimal]
    cases rest with
    | nil => simp
    | cons first rest =>
        rw [List.takeWhile_cons_of_neg (by simp [long.ends first rfl]), List.append_nil]
  cases digits with
  | nil => exact absurd long.long (by decide)
  | cons first digits =>
      unfold wholeDigits
      split
      · next same =>
          rw [List.cons_append] at same
          exact absurd (congrArg some (List.cons.inj same).1) long.natural
      · exact taken

/-- An integer with too many digits, without its sign, and the fault that it makes. -/
def IsTooLong (text : Text) (fault : Fault) : Prop :=
  ∃ digits rest, text = digits ++ rest ∧ IsLong digits rest ∧ fault = tooLong digits.length

theorem bounded_readNumber (negative : Bool) (text : Text) :
    Bounded text Prod.snd (IsTooLong text) (readNumber negative text) := by
  have short : (splitPower (splitFraction (text.drop (wholeDigits text).length)).2).2.length ≤
      text.length := by
    refine Nat.le_trans (length_splitPower_le _) (Nat.le_trans (length_splitFraction_le _) ?_)
    rw [List.length_drop]
    omega
  rw [readNumber_eq]
  split
  · trivial
  · dsimp only
    split
    · next plain =>
        obtain ⟨whole, single⟩ := plain
        have unchanged := splitFraction_of_empty (List.isEmpty_iff.1 whole)
        by_cases long : longestInteger < (wholeDigits text).length
        · rw [integer_of_long negative long]
          obtain ⟨taken, natural⟩ := wholeDigits_of_long long
          have behind : text.drop (wholeDigits text).length = text.dropWhile Char.isDigit := by
            rw [taken, drop_takeWhile]
          refine ⟨wholeDigits text, text.drop (wholeDigits text).length, ?_, ?_, rfl⟩
          · rw [behind, taken, List.takeWhile_append_dropWhile]
          · refine ⟨?_, ?_, ?_, List.isEmpty_iff.1 whole, ?_, long⟩
            · rw [taken]
              exact fun character member => List.mem_takeWhile_imp member
            · exact natural
            · rw [behind]
              exact head?_dropWhile _ _
            · rw [unchanged] at single
              exact Option.isNone_iff_eq_none.1 single
        · obtain ⟨value, made⟩ := exists_integer negative long
          rw [made]
          exact short
    · exact short

theorem readNumber_of_long (negative : Bool) (long : IsTooLong text fault) :
    readNumber negative text = .error (.fault fault) := by
  obtain ⟨digits, rest, rfl, long, rfl⟩ := long
  have nonempty : ¬ digits.isEmpty = true := by
    intro empty
    rw [List.isEmpty_iff.1 empty] at long
    exact absurd long.long (by decide)
  rw [readNumber_eq, long.wholeDigits_append, if_neg nonempty, List.drop_left]
  dsimp only
  rw [splitFraction_of_empty long.whole, long.single, integer_of_long negative long.long]
  rfl

/-- An integer with too many digits, and the fault that it makes. -/
def IsTooLarge (text : Text) (fault : Fault) : Prop :=
  IsTooLong text fault ∨ ∃ unsigned, text = '-' :: unsigned ∧ IsTooLong unsigned fault

theorem bounded_readPlain (text : Text) :
    Bounded text Prod.snd (IsTooLarge text) (readPlain text) := by
  unfold readPlain
  split
  · next rest =>
      refine Bounded.longer (Bounded.of_never ?_) (Nat.le_succ _)
      exact (bounded_readString _ _ rest).bind fun value short => short
  all_goals try simp only [Bounded, List.length_cons]; omega
  · exact (bounded_readNumber true _).mono (Nat.le_succ _) fun fault long =>
      Or.inr ⟨_, rfl, long⟩
  · exact (bounded_readNumber false text).mono (Nat.le_refl _) fun fault long => Or.inl long

theorem readPlain_of_digit {first : Char} (isDigit : first.isDigit = true) (rest : Text) :
    readPlain (first :: rest) = readNumber false (first :: rest) := by
  unfold readPlain
  split
  all_goals
    try
      next same =>
        obtain ⟨rfl, -⟩ := List.cons.inj same
        exact absurd isDigit (by decide)
  rfl

theorem readPlain_minus {first : Char} (isDigit : first.isDigit = true) (rest : Text) :
    readPlain ('-' :: first :: rest) = readNumber true (first :: rest) := by
  unfold readPlain
  split
  all_goals
    try
      next same => exact absurd (List.cons.inj same).1 (by decide)
  · next same =>
      obtain ⟨rfl, -⟩ := List.cons.inj (List.cons.inj same).2
      exact absurd isDigit (by decide)
  · next same =>
      rw [(List.cons.inj same).2]
  · next other => exact absurd rfl (other (first :: rest))

theorem IsTooLong.exists_first (long : IsTooLong text fault) :
    ∃ first rest, text = first :: rest ∧ first.isDigit = true := by
  obtain ⟨digits, rest, rfl, long, -⟩ := long
  cases digits with
  | nil => exact absurd long.long (by decide)
  | cons first digits => exact ⟨first, digits ++ rest, rfl, long.decimal first List.mem_cons_self⟩

theorem IsTooLarge.plain (large : IsTooLarge text fault) :
    text.head? ≠ some '[' ∧ text.head? ≠ some '\x7b' := by
  rcases large with long | ⟨unsigned, rfl, -⟩
  · obtain ⟨first, rest, rfl, isDigit⟩ := long.exists_first
    constructor
    all_goals
      rintro same
      cases same
      exact absurd isDigit (by decide)
  · simp

theorem readPlain_of_large (large : IsTooLarge text fault) :
    readPlain text = .error (.fault fault) := by
  rcases large with long | ⟨unsigned, rfl, long⟩
  · obtain ⟨first, rest, rfl, isDigit⟩ := long.exists_first
    rw [readPlain_of_digit isDigit, readNumber_of_long false long]
  · obtain ⟨first, rest, rfl, isDigit⟩ := long.exists_first
    rw [readPlain_minus isDigit, readNumber_of_long true long]

/-! ## Nested values -/

/-- With some steps, the values, the items and the entries that are read leave no more than they
were given. -/
structure NestedBounded (fuel : Nat) : Prop where
  value : ∀ depth text, Bounded text Prod.snd any (readValue fuel depth text)
  items : ∀ depth reversed text, Bounded text Prod.snd any (readItems fuel depth reversed text)
  entries : ∀ depth made text, Bounded text Prod.snd any (readEntries fuel depth made text)

namespace NestedBounded

variable {fuel : Nat} (nested : NestedBounded fuel)

include nested

theorem value_succ (depth : Nat) (text : Text) :
    Bounded text Prod.snd any (readValue (fuel + 1) depth text) := by
  unfold readValue
  split
  · next rest =>
      have short := length_skipBlanks_le rest
      split
      · trivial
      · split
        · next same =>
            rw [same, List.length_cons] at short
            simp only [Bounded, List.length_cons]
            omega
        · exact (nested.items _ _ _).longer (Nat.le_succ_of_le short)
  · next rest =>
      have short := length_skipBlanks_le rest
      split
      · trivial
      · split
        · next same =>
            rw [same, List.length_cons] at short
            simp only [Bounded, List.length_cons]
            omega
        · exact (nested.entries _ _ _).longer (Nat.le_succ_of_le short)
  · exact (bounded_readPlain text).mono (Nat.le_refl _) fun _ _ => trivial

theorem items_succ (depth : Nat) (reversed : List Value) (text : Text) :
    Bounded text Prod.snd any (readItems (fuel + 1) depth reversed text) := by
  rw [readItems]
  refine (nested.value depth text).bind fun (item, rest) short => ?_
  have less := Nat.le_trans (length_skipBlanks_le rest) short
  dsimp only
  split
  · next same =>
      rw [same, List.length_cons] at less
      exact Nat.le_of_succ_le less
  · next same =>
      rw [same, List.length_cons] at less
      exact (nested.items _ _ _).longer
        (Nat.le_trans (length_skipBlanks_le _) (Nat.le_of_succ_le less))
  · trivial

theorem entries_succ (depth : Nat) (made : List (Value × Value)) (text : Text) :
    Bounded text Prod.snd any (readEntries (fuel + 1) depth made text) := by
  unfold readEntries
  split
  · next quoted =>
      refine ((bounded_readString _ _ quoted).of_never.bind fun (key, rest) short => ?_).longer
        (Nat.le_succ _)
      have less := Nat.le_trans (length_skipBlanks_le rest) short
      dsimp only
      split
      · next behind same =>
          rw [same, List.length_cons] at less
          have inner := Nat.le_trans (length_skipBlanks_le behind) (Nat.le_of_succ_le less)
          refine (nested.value depth _).longer inner |>.bind fun (value, rest) short => ?_
          have less := Nat.le_trans (length_skipBlanks_le rest) short
          dsimp only
          split
          · next same =>
              rw [same, List.length_cons] at less
              exact Nat.le_of_succ_le less
          · next same =>
              rw [same, List.length_cons] at less
              exact (nested.entries _ _ _).longer
                (Nat.le_trans (length_skipBlanks_le _) (Nat.le_of_succ_le less))
          · trivial
      · trivial
  · trivial

end NestedBounded

theorem nestedBounded (fuel : Nat) : NestedBounded fuel := by
  induction fuel with
  | zero =>
      refine ⟨fun _ _ => ?_, fun _ _ _ => ?_, fun _ _ _ => ?_⟩
      · rw [readValue]
        trivial
      · rw [readItems]
        trivial
      · rw [readEntries]
        trivial
  | succ fuel ih => exact ⟨ih.value_succ, ih.items_succ, ih.entries_succ⟩

/-- More steps change nothing for a text that needs no more than these. -/
structure NestedSettled (fuel : Nat) : Prop where
  value : ∀ other depth text, 2 * text.length + 2 ≤ fuel → 2 * text.length + 2 ≤ other →
    readValue fuel depth text = readValue other depth text
  items : ∀ other depth reversed text, 2 * text.length + 3 ≤ fuel →
    2 * text.length + 3 ≤ other →
      readItems fuel depth reversed text = readItems other depth reversed text
  entries : ∀ other depth made text, 2 * text.length + 3 ≤ fuel → 2 * text.length + 3 ≤ other →
    readEntries fuel depth made text = readEntries other depth made text

namespace NestedSettled

variable {fuel other : Nat} {text : Text} (nested : NestedSettled fuel)

include nested

theorem value_succ (depth : Nat) (enough : 2 * text.length + 2 ≤ fuel + 1)
    (also : 2 * text.length + 2 ≤ other) :
    readValue (fuel + 1) depth text = readValue other depth text := by
  obtain ⟨other, rfl⟩ := Nat.exists_eq_succ_of_ne_zero (show other ≠ 0 by omega)
  unfold readValue
  split
  · next rest =>
      have short := length_skipBlanks_le rest
      rw [List.length_cons] at enough also
      split
      · rfl
      · split
        · rfl
        · exact nested.items other _ _ _ (by omega) (by omega)
  · next rest =>
      have short := length_skipBlanks_le rest
      rw [List.length_cons] at enough also
      split
      · rfl
      · split
        · rfl
        · exact nested.entries other _ _ _ (by omega) (by omega)
  · rfl

theorem items_succ (depth : Nat) (reversed : List Value) (enough : 2 * text.length + 3 ≤ fuel + 1)
    (also : 2 * text.length + 3 ≤ other) :
    readItems (fuel + 1) depth reversed text = readItems other depth reversed text := by
  obtain ⟨other, rfl⟩ := Nat.exists_eq_succ_of_ne_zero (show other ≠ 0 by omega)
  rw [readItems, readItems, nested.value other depth text (by omega) (by omega)]
  refine ((nestedBounded other).value depth text).bind_congr fun (item, rest) short => ?_
  have less := Nat.le_trans (length_skipBlanks_le rest) short
  dsimp only
  split
  · rfl
  · next behind same =>
      have shorter := length_skipBlanks_le behind
      rw [same, List.length_cons] at less
      exact nested.items other _ _ _ (by omega) (by omega)
  · rfl

theorem entries_succ (depth : Nat) (made : List (Value × Value))
    (enough : 2 * text.length + 3 ≤ fuel + 1) (also : 2 * text.length + 3 ≤ other) :
    readEntries (fuel + 1) depth made text = readEntries other depth made text := by
  obtain ⟨other, rfl⟩ := Nat.exists_eq_succ_of_ne_zero (show other ≠ 0 by omega)
  unfold readEntries
  split
  · next quoted =>
      rw [List.length_cons] at enough also
      refine (bounded_readString _ _ quoted).bind_congr fun (key, rest) short => ?_
      have less := Nat.le_trans (length_skipBlanks_le rest) short
      dsimp only
      split
      · next behind same =>
          have shorter := length_skipBlanks_le behind
          rw [same, List.length_cons] at less
          rw [nested.value other depth _ (by omega) (by omega)]
          refine ((nestedBounded other).value depth _).bind_congr fun (value, rest) short => ?_
          have less := Nat.le_trans (length_skipBlanks_le rest) short
          dsimp only
          split
          · rfl
          · next last same =>
              have shortest := length_skipBlanks_le last
              rw [same, List.length_cons] at less
              exact nested.entries other _ _ _ (by omega) (by omega)
          · rfl
      · rfl
  · rfl

end NestedSettled

theorem nestedSettled (fuel : Nat) : NestedSettled fuel := by
  induction fuel with
  | zero => exact ⟨fun _ _ _ => nofun, fun _ _ _ _ => nofun, fun _ _ _ _ => nofun⟩
  | succ fuel ih =>
      exact ⟨fun _ depth _ => ih.value_succ depth, fun _ depth reversed _ => ih.items_succ depth reversed,
        fun _ depth made _ => ih.entries_succ depth made⟩

end Json

end Config

end StaticSite
