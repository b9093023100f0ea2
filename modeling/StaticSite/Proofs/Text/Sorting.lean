import StaticSite.Text.Basic

/-!
# The order of texts

The comparison of texts by code points is total and transitive, so sorting puts every text
behind its own beginnings.
-/

namespace StaticSite

/-- Among finitely many things of a kind there is a last one, in an order of that kind. -/
theorem exists_greatest {α : Type} {isOne : α → Prop} {before : α → α → Prop}
    (total : ∀ first second, isOne first → isOne second →
      before first second ∨ before second first)
    (trans : ∀ first second third, before first second → before second third →
      before first third) (things : List α) (some : ∃ thing ∈ things, isOne thing) :
    ∃ last, isOne last ∧ ∀ thing ∈ things, isOne thing → before thing last := by
  have refl : ∀ thing, isOne thing → before thing thing := fun thing isThing =>
    (total thing thing isThing isThing).elim id id
  induction things with
  | nil => simp at some
  | cons first things ih =>
      by_cases later : ∃ thing ∈ things, isOne thing
      · obtain ⟨last, isLast, greatest⟩ := ih later
        by_cases beats : isOne first ∧ before last first
        · refine ⟨first, beats.1, List.forall_mem_cons.2 ⟨refl first, ?_⟩⟩
          exact fun thing member also => trans _ _ _ (greatest thing member also) beats.2
        · refine ⟨last, isLast, List.forall_mem_cons.2 ⟨fun isFirst => ?_, greatest⟩⟩
          exact (total first last isFirst isLast).resolve_right fun less => beats ⟨isFirst, less⟩
      · obtain ⟨only, member, isOnly⟩ := some
        rcases List.mem_cons.1 member with rfl | inside
        · refine ⟨only, isOnly, List.forall_mem_cons.2 ⟨refl only, ?_⟩⟩
          exact fun thing member also => absurd ⟨thing, member, also⟩ later
        · exact absurd ⟨only, inside, isOnly⟩ later

namespace Text

theorem lessEqual_trans (first second third : Text) (one : lessEqual first second = true)
    (two : lessEqual second third = true) : lessEqual first third = true := by
  induction first generalizing second third with
  | nil => rfl
  | cons a firsts ih =>
      cases second with
      | nil => simp [lessEqual] at one
      | cons b seconds =>
          cases third with
          | nil => simp [lessEqual] at two
          | cons c thirds =>
              simp only [lessEqual] at one two ⊢
              by_cases left : a = b
              · subst left
                by_cases right : a = c
                · subst right
                  simp only [if_true] at one two ⊢
                  exact ih seconds thirds one two
                · simpa [right] using two
              · simp only [left, if_false, decide_eq_true_eq] at one
                by_cases right : b = c
                · subst right
                  simpa [left] using one
                · simp only [right, if_false, decide_eq_true_eq] at two
                  have less : a.toNat < c.toNat := by omega
                  have apart : a ≠ c := by
                    rintro rfl
                    omega
                  simpa [apart] using less

theorem lessEqual_total (first second : Text) :
    (lessEqual first second || lessEqual second first) = true := by
  induction first generalizing second with
  | nil => rfl
  | cons a firsts ih =>
      cases second with
      | nil => rfl
      | cons b seconds =>
          by_cases same : a = b
          · subst same
            simpa [lessEqual] using ih seconds
          · have apart : a.toNat ≠ b.toNat := fun numbers =>
              same (Char.ext (UInt32.toNat_inj.1 numbers))
            simp only [lessEqual, same, Ne.symm same, if_false, Bool.or_eq_true,
              decide_eq_true_eq]
            omega

theorem lessEqual_refl (text : Text) : lessEqual text text = true := by
  simpa using lessEqual_total text text

theorem lessEqual_antisymm {first second : Text} (one : lessEqual first second = true)
    (two : lessEqual second first = true) : first = second := by
  induction first generalizing second with
  | nil =>
      cases second with
      | nil => rfl
      | cons b seconds => simp [lessEqual] at two
  | cons a firsts ih =>
      cases second with
      | nil => simp [lessEqual] at one
      | cons b seconds =>
          by_cases same : a = b
          · subst same
            simp only [lessEqual, if_true] at one two
            rw [ih one two]
          · simp only [lessEqual, same, Ne.symm same, if_false, decide_eq_true_eq] at one two
            omega

/-- Sorted texts without repetition are known by what is among them. -/
theorem eq_of_sorted {first second : List Text}
    (firstSorted : first.Pairwise fun text later => lessEqual text later = true)
    (secondSorted : second.Pairwise fun text later => lessEqual text later = true)
    (firstDistinct : first.Nodup) (secondDistinct : second.Nodup)
    (same : ∀ text, text ∈ first ↔ text ∈ second) : first = second :=
  ((List.perm_ext_iff_of_nodup firstDistinct secondDistinct).2 same).eq_of_pairwise
    (fun _ _ _ _ => lessEqual_antisymm) firstSorted secondSorted

theorem pairwise_sort (texts : List Text) :
    (sort texts).Pairwise fun first second => lessEqual first second = true :=
  List.pairwise_mergeSort lessEqual_trans lessEqual_total texts

/-- A longer text does not stand before its own beginning. -/
theorem not_lessEqual_append {text more : Text} (longer : more ≠ []) :
    lessEqual (text ++ more) text = false := by
  induction text with
  | nil =>
      cases more with
      | nil => exact absurd rfl longer
      | cons character more => rfl
  | cons character text ih => simpa [lessEqual] using ih

end Text

end StaticSite
