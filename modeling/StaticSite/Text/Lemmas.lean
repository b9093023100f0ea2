import StaticSite.Text.Basic

/-!
# Lemmas on cutting texts

A cut at a mark loses nothing: the part before the mark, the mark and the part after it are
the text again.  The loops that cut a text again and again end for this reason.
-/

namespace StaticSite

namespace Text

theorem eq_of_after? {mark text rest : Text} (found : after? mark text = some rest) :
    text = mark ++ rest := by
  induction mark generalizing text with
  | nil => simpa [after?] using found
  | cons expected mark ih =>
      cases text with
      | nil => simp [after?] at found
      | cons character text =>
          simp only [after?] at found
          split at found
          · next same => rw [same, List.cons_append, ih found]
          · simp at found

theorem eq_of_cut? {mark text before rest : Text} (found : cut? mark text = some (before, rest)) :
    text = before ++ mark ++ rest := by
  induction text generalizing before with
  | nil =>
      simp only [cut?] at found
      split at found
      · next none =>
          simp only [Option.some.injEq, Prod.mk.injEq] at found
          obtain ⟨rfl, rfl⟩ := found
          simpa using none
      · simp at found
  | cons character text ih =>
      simp only [cut?] at found
      split at found
      · next whole =>
          simp only [Option.some.injEq, Prod.mk.injEq] at found
          obtain ⟨rfl, rfl⟩ := found
          simpa using eq_of_after? whole
      · obtain ⟨⟨front, back⟩, cut, same⟩ := Option.map_eq_some_iff.1 found
        simp only [Prod.mk.injEq] at same
        obtain ⟨rfl, rfl⟩ := same
        simpa using ih cut

/-- What follows a mark is shorter than the text by the mark at least. -/
theorem length_of_cut? {mark text before rest : Text}
    (found : cut? mark text = some (before, rest)) :
    rest.length + mark.length ≤ text.length := by
  rw [eq_of_cut? found]
  simp only [List.length_append]
  omega

theorem length_replaceFrom_le {substitute : Text} (short : substitute.length ≤ 1) (mark : Text)
    (skip : Nat) (text : Text) : (replaceFrom mark substitute skip text).length ≤ text.length := by
  fun_induction replaceFrom mark substitute skip text with
  | case1 => exact Nat.le_refl _
  | case2 skip character text ih => exact Nat.le_succ_of_le ih
  | case3 character text found ih =>
      rw [List.length_append, List.length_cons]
      omega
  | case4 character text other ih => exact Nat.succ_le_succ ih

/-- Putting at most one character in the place of every mark makes no text longer. -/
theorem length_replace_le {mark substitute : Text} (short : substitute.length ≤ 1) (text : Text) :
    (replace mark substitute text).length ≤ text.length :=
  length_replaceFrom_le short mark 0 text

end Text

end StaticSite
