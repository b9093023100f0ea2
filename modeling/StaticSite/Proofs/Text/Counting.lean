import Mathlib.Data.Nat.Init
import StaticSite.Proofs.Text.Searching

/-!
# Counting marks

A text may have blanks in which one mark is filled in.  To replace the mark is then to fill in
the substitute, provided that the mark occurs in these blanks only: not within the text around
them, and not across the two.  How often it occurs tells.
-/

namespace StaticSite

namespace Text

/-- How many occurrences of a mark begin in a text. -/
def occurrences (mark : Text) : Text → Nat
  | [] => 0
  | character :: text =>
    (if mark <+: character :: text then 1 else 0) + occurrences mark text

/-- Whether no occurrence of a mark begins within another one. -/
def Solitary (mark : Text) : Prop := mark ≠ [] ∧ Passes mark mark.tail

/-- A text with blanks. -/
abbrev Form := List (Option Text)

/-- Fill in all blanks. -/
def Form.fill (filler : Text) (form : Form) : Text := form.flatMap (·.getD filler)

variable {mark substitute text rest : Text}

@[simp]
theorem Form.fill_blank (filler : Text) (form : Form) :
    Form.fill filler (none :: form) = filler ++ form.fill filler := rfl

@[simp]
theorem Form.fill_text (filler text : Text) (form : Form) :
    Form.fill filler (some text :: form) = text ++ form.fill filler := rfl

theorem occurrences_le_append (mark text rest : Text) :
    occurrences mark rest ≤ occurrences mark (text ++ rest) := by
  induction text with
  | nil => exact Nat.le_refl _
  | cons character text ih => exact Nat.le_trans ih (Nat.le_add_left _ _)

theorem occurrences_append_of_passes (passes : Passes mark text) (rest : Text) :
    occurrences mark (text ++ rest) = occurrences mark rest := by
  induction text with
  | nil => rfl
  | cons character text ih =>
      rw [List.cons_append, occurrences, if_neg (passes.1 rest), ih passes.2, Nat.zero_add]

theorem occurrences_mark_append (solitary : Solitary mark) (rest : Text) :
    occurrences mark (mark ++ rest) = 1 + occurrences mark rest := by
  obtain ⟨nonempty, passes⟩ := solitary
  obtain ⟨character, others, rfl⟩ := List.exists_cons_of_ne_nil nonempty
  have begins : character :: others <+: character :: (others ++ rest) :=
    List.prefix_append (character :: others) rest
  rw [List.cons_append, occurrences, if_pos begins]
  exact congrArg _ (occurrences_append_of_passes passes rest)

/-- A text that has a mark has an occurrence of it. -/
theorem occurrences_pos (solitary : Solitary mark) (found : mark <:+: text) :
    0 < occurrences mark text := by
  obtain ⟨before, behind, rfl⟩ := found
  have least := occurrences_le_append mark before (mark ++ behind)
  rw [occurrences_mark_append solitary] at least
  rw [List.append_assoc]
  omega

/-- A replacement goes over a text in which no occurrence begins. -/
theorem replace_append_of_occurrences
    (same : occurrences mark (text ++ rest) = occurrences mark rest) (substitute : Text) :
    replace mark substitute (text ++ rest) = text ++ replace mark substitute rest := by
  induction text with
  | nil => rfl
  | cons character text ih =>
      rw [List.cons_append, occurrences] at same
      have later := occurrences_le_append mark text rest
      have absent : ¬ mark <+: character :: (text ++ rest) := by
        intro begins
        rw [if_pos begins] at same
        omega
      rw [if_neg absent, Nat.zero_add] at same
      rw [List.cons_append, replace_cons absent, ih same, List.cons_append]

/-- A text begins with one of some marks, or goes on behind its first character. -/
theorem marks_cases {motive : Text → Prop} {marks : List Text} (nonempty : [] ∉ marks)
    (nil : motive [])
    (found : ∀ mark ∈ marks, ∀ rest, motive rest → motive (mark ++ rest))
    (cons : ∀ character rest, (∀ mark ∈ marks, ¬ mark <+: character :: rest) → motive rest →
      motive (character :: rest)) (text : Text) : motive text := by
  induction length : text.length using Nat.strong_induction_on generalizing text with
  | _ size ih =>
      cases text with
      | nil => exact nil
      | cons character rest =>
          by_cases begins : ∃ mark ∈ marks, mark <+: character :: rest
          · obtain ⟨mark, listed, behind, whole⟩ := begins
            have filled : 0 < List.length mark := by
              refine List.length_pos_iff.2 ?_
              rintro rfl
              exact nonempty listed
            have parted := congrArg List.length whole
            rw [List.length_append] at parted
            rw [← whole]
            exact found mark listed behind (ih _ (by omega) behind rfl)
          · refine cons character rest (fun mark listed here => begins ⟨mark, listed, here⟩)
              (ih _ ?_ rest rfl)
            rw [← length]
            exact Nat.lt_succ_self _

theorem mark_cases {motive : Text → Prop} (nonempty : mark ≠ []) (nil : motive [])
    (found : ∀ rest, motive rest → motive (mark ++ rest))
    (cons : ∀ character rest, ¬ mark <+: character :: rest → motive rest →
      motive (character :: rest)) (text : Text) : motive text := by
  have single : [] ∉ [mark] := by simpa [eq_comm] using nonempty
  refine marks_cases single nil (fun other listed => ?_) (fun character rest absent => ?_) text
  · obtain rfl := List.mem_singleton.1 listed
    exact found
  · exact cons character rest (absent mark (List.mem_singleton_self _))

/-- To replace a mark by itself changes nothing. -/
theorem replace_self (nonempty : mark ≠ []) (text : Text) : replace mark mark text = text := by
  induction text using mark_cases nonempty with
  | nil => rfl
  | found rest ih => rw [replace_mark_append nonempty, ih]
  | cons character rest absent ih => rw [replace_cons absent, ih]

theorem length_replace (solitary : Solitary mark) (substitute text : Text) :
    (replace mark substitute text).length + occurrences mark text * mark.length =
      text.length + occurrences mark text * substitute.length := by
  induction text using mark_cases solitary.1 with
  | nil => simp [replace, replaceFrom, occurrences]
  | found rest ih =>
      rw [replace_mark_append solitary.1, occurrences_mark_append solitary, List.length_append,
        List.length_append, Nat.add_mul, Nat.add_mul]
      omega
  | cons character rest absent ih =>
      rw [replace_cons absent, occurrences, if_neg absent, List.length_cons, List.length_cons,
        Nat.zero_add]
      omega

theorem Passes.length_le {front behind : Text} (passes : Passes mark text)
    (occurs : text ++ rest = front ++ mark ++ behind) : text.length ≤ front.length := by
  induction text generalizing front with
  | nil => exact Nat.zero_le _
  | cons character text ih =>
      cases front with
      | nil => exact absurd ⟨behind, occurs.symm⟩ (passes.1 rest)
      | cons first front =>
          rw [List.cons_append, List.cons_append, List.cons_append, List.cons.injEq] at occurs
          exact Nat.succ_le_succ (ih passes.2 occurs.2)

/-- Behind a mark the next one begins where it ends, or later. -/
theorem Solitary.length_le {front behind : Text} (solitary : Solitary mark)
    (occurs : mark ++ rest = front ++ mark ++ behind) (nonempty : front ≠ []) :
    mark.length ≤ front.length := by
  obtain ⟨filled, passes⟩ := solitary
  obtain ⟨character, others, rfl⟩ := List.exists_cons_of_ne_nil filled
  obtain ⟨first, front, rfl⟩ := List.exists_cons_of_ne_nil nonempty
  rw [List.cons_append, List.cons_append, List.cons_append, List.cons.injEq] at occurs
  exact Nat.succ_le_succ (passes.length_le occurs.2)

/-- An occurrence that is replaced parts what is in front of it from what is behind. -/
theorem replace_append_mark_append (solitary : Solitary mark) (substitute before rest : Text) :
    replace mark substitute (before ++ (mark ++ rest)) =
      replace mark substitute before ++ (substitute ++ replace mark substitute rest) := by
  induction before using mark_cases solitary.1 with
  | nil => exact replace_mark_append solitary.1 substitute rest
  | found before ih =>
      rw [List.append_assoc, replace_mark_append solitary.1, ih, replace_mark_append solitary.1,
        List.append_assoc]
  | cons character before absent ih =>
      have unmarked : ¬ mark <+: character :: (before ++ (mark ++ rest)) := by
        rintro ⟨behind, whole⟩
        have occurs : mark ++ behind = (character :: before) ++ mark ++ rest := by
          rw [whole]
          simp
        have long := solitary.length_le occurs (List.cons_ne_nil character before)
        rw [List.append_assoc] at occurs
        exact absent (List.prefix_of_prefix_length_le ⟨behind, occurs⟩ (List.prefix_append _ _) long)
      rw [List.cons_append, replace_cons unmarked, ih, replace_cons absent, List.cons_append]

namespace Form

variable {form : Form}

theorem count_le_occurrences (solitary : Solitary mark) (form : Form) :
    form.count none ≤ occurrences mark (fill mark form) := by
  induction form with
  | nil => exact Nat.le_refl _
  | cons piece form ih =>
      cases piece with
      | none =>
          rw [fill_blank, occurrences_mark_append solitary, List.count_cons_self]
          omega
      | some text =>
          have later := occurrences_le_append mark text (fill mark form)
          rw [fill_text, List.count_cons_of_ne (by simp)]
          omega

/-- Where the mark occurs in the blanks only, to replace it is to fill in the substitute. -/
theorem replace_fill (solitary : Solitary mark)
    (only : occurrences mark (fill mark form) = form.count none) (substitute : Text) :
    replace mark substitute (fill mark form) = fill substitute form := by
  induction form with
  | nil => rfl
  | cons piece form ih =>
      have least := count_le_occurrences solitary form
      cases piece with
      | none =>
          rw [fill_blank, occurrences_mark_append solitary, List.count_cons_self] at only
          rw [fill_blank, replace_mark_append solitary.1, ih (by omega), fill_blank]
      | some text =>
          rw [fill_text, List.count_cons_of_ne (by simp)] at only
          have later := occurrences_le_append mark text (fill mark form)
          rw [fill_text, replace_append_of_occurrences (by omega), ih (by omega), fill_text]

theorem length_fill (mark substitute : Text) (form : Form) :
    (fill substitute form).length + form.count none * mark.length =
      (fill mark form).length + form.count none * substitute.length := by
  induction form with
  | nil => simp [fill]
  | cons piece form ih =>
      cases piece with
      | none =>
          rw [fill_blank, fill_blank, List.count_cons_self, List.length_append,
            List.length_append, Nat.add_mul, Nat.add_mul]
          omega
      | some text =>
          rw [fill_text, fill_text, List.count_cons_of_ne (by simp), List.length_append,
            List.length_append]
          omega

/-- What is filled in does not show before the first occurrence of the mark. -/
theorem take_fill {count : Nat} (substitute : Text)
    (late : ∀ front behind, fill mark form = front ++ mark ++ behind → count ≤ front.length) :
    (fill substitute form).take count = (fill mark form).take count := by
  induction form generalizing count with
  | nil => rfl
  | cons piece form ih =>
      cases piece with
      | none =>
          have none : count ≤ 0 := late [] (fill mark form) rfl
          obtain rfl := Nat.le_zero.1 none
          rfl
      | some text =>
          have rest := @ih (count - text.length) fun front behind occurs => by
            have further := late (text ++ front) behind (by simp [occurs])
            rw [List.length_append] at further
            omega
          rw [fill_text, fill_text, List.take_append, List.take_append, rest]

/-- If an occurrence of the mark begins in the text around the blanks, a replacement by a text of
the same length shows unless it changes nothing. -/
theorem eq_of_replace_text (solitary : Solitary mark)
    (sameLength : substitute.length = mark.length)
    (more : occurrences mark (text ++ fill mark form) ≠ occurrences mark (fill mark form))
    (replaced : replace mark substitute (text ++ fill mark form) =
      text ++ fill substitute form) : substitute = mark := by
  induction text with
  | nil => exact absurd rfl more
  | cons character text ih =>
      by_cases begins : mark <+: character :: (text ++ fill mark form)
      · -- The occurrence ends in front of the next blank, so that the two texts agree within it.
        obtain ⟨behind, whole⟩ := begins
        rw [← List.cons_append] at whole
        rw [List.cons_append, ← List.cons_append, ← whole,
          replace_mark_append solitary.1] at replaced
        have early := @take_fill mark form (mark.length - (character :: text).length) substitute
          fun front rest occurs => by
            have shifted : mark ++ behind = (character :: (text ++ front)) ++ mark ++ rest := by
              rw [whole, occurs]
              simp
            have later := solitary.length_le shifted (by simp)
            simp only [List.length_cons, List.length_append] at later ⊢
            omega
        calc substitute = (substitute ++ replace mark substitute behind).take mark.length := by
              rw [← sameLength, List.take_left]
          _ = (mark ++ behind).take mark.length := by
              rw [replaced, whole, List.take_append, List.take_append, early]
          _ = mark := List.take_left
      · rw [List.cons_append, replace_cons begins, List.cons_append, List.cons.injEq] at replaced
        rw [List.cons_append, occurrences, if_neg begins, Nat.zero_add] at more
        exact ih more replaced.2

theorem count_of_replace_fill (solitary : Solitary mark) (other : substitute ≠ mark)
    (sameLength : substitute.length = mark.length)
    (replaced : replace mark substitute (fill mark form) = fill substitute form) :
    occurrences mark (fill mark form) = form.count none := by
  induction form with
  | nil => rfl
  | cons piece form ih =>
      cases piece with
      | none =>
          rw [fill_blank, replace_mark_append solitary.1, fill_blank] at replaced
          rw [fill_blank, occurrences_mark_append solitary, List.count_cons_self,
            ih (List.append_cancel_left replaced), Nat.add_comm]
      | some text =>
          rw [fill_text, fill_text] at replaced
          have same : occurrences mark (text ++ fill mark form) =
              occurrences mark (fill mark form) := by
            by_contra more
            exact other (eq_of_replace_text solitary sameLength more replaced)
          rw [replace_append_of_occurrences same] at replaced
          rw [fill_text, same, List.count_cons_of_ne (by simp),
            ih (List.append_cancel_left replaced)]

/-- To replace a mark that is filled in is to fill in the substitute exactly if the mark occurs in
the blanks only, or is its own substitute. -/
theorem replace_fill_iff (solitary : Solitary mark) (substitute : Text) (form : Form) :
    replace mark substitute (fill mark form) = fill substitute form ↔
      substitute = mark ∨ occurrences mark (fill mark form) = form.count none := by
  constructor
  · intro replaced
    by_cases other : substitute = mark
    · exact Or.inl other
    by_cases sameLength : substitute.length = mark.length
    · exact Or.inr (count_of_replace_fill solitary other sameLength replaced)
    · -- Each occurrence that is replaced counts in the length of the text.
      have long := length_replace solitary substitute (fill mark form)
      have filled := length_fill mark substitute form
      rw [replaced] at long
      obtain ⟨more, counted⟩ := Nat.exists_eq_add_of_le (count_le_occurrences solitary form)
      rw [counted, Nat.add_mul, Nat.add_mul] at long
      have balanced : more * mark.length = more * substitute.length := by omega
      have none : more = 0 := by
        by_contra some
        exact sameLength (Nat.eq_of_mul_eq_mul_left (Nat.pos_of_ne_zero some) balanced).symm
      exact Or.inr (by rw [counted, none, Nat.add_zero])
  · rintro (rfl | only)
    · exact replace_self solitary.1 _
    · exact replace_fill solitary only substitute

end Form

end Text

end StaticSite
