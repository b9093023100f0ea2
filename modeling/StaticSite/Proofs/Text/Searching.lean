import Mathlib.Data.List.Basic
import StaticSite.Text.Lemmas

/-!
# Searching texts

A mark passes a text if no occurrence of it begins there, whatever follows.  A search goes
over such a text and finds the mark behind it, and a replacement leaves it as it is.
-/

namespace StaticSite

namespace Text

/-- Whether no occurrence of a mark begins in a text, whatever follows the text. -/
def Passes (mark : Text) : Text → Prop
  | [] => True
  | character :: text =>
    (∀ rest, ¬ mark <+: character :: (text ++ rest)) ∧ Passes mark text

variable {mark text rest before : Text} {character : Char}

theorem Passes.append {first second : Text} (firstPasses : Passes mark first)
    (secondPasses : Passes mark second) : Passes mark (first ++ second) := by
  induction first with
  | nil => exact secondPasses
  | cons character first ih =>
      obtain ⟨here, later⟩ := firstPasses
      refine ⟨fun rest => ?_, ih later⟩
      have absent := here (second ++ rest)
      rwa [← List.append_assoc] at absent

theorem Passes.of_append {first second : Text} (passes : Passes mark (first ++ second)) :
    Passes mark second := by
  induction first with
  | nil => exact passes
  | cons character first ih => exact ih passes.2

theorem Passes.flatMap {α : Type} {pieces : List α} {write : α → Text}
    (passes : ∀ piece ∈ pieces, Passes mark (write piece)) : Passes mark (pieces.flatMap write) := by
  induction pieces with
  | nil => trivial
  | cons piece pieces ih =>
      rw [List.flatMap_cons]
      exact (passes piece List.mem_cons_self).append
        (ih fun other member => passes other (List.mem_cons_of_mem _ member))

/-- A mark passes a text that has not the first character of the mark. -/
theorem passes_of_not_mem {first : Char} {others : Text} (absent : first ∉ text) :
    Passes (first :: others) text := by
  induction text with
  | nil => trivial
  | cons character text ih =>
      rw [List.mem_cons, not_or] at absent
      refine ⟨fun rest found => ?_, ih absent.2⟩
      exact absent.1 (List.cons_prefix_cons.1 found).1

/-- A mark passes a text that has not the second character of the mark and does not end with
the first one. -/
theorem passes_of_second_not_mem {first second : Char} {others : Text} (absent : second ∉ text)
    (noEnd : text.getLast? ≠ some first) : Passes (first :: second :: others) text := by
  induction text with
  | nil => trivial
  | cons character text ih =>
      rw [List.mem_cons, not_or] at absent
      cases text with
      | nil =>
          refine ⟨fun rest found => ?_, trivial⟩
          have same := (List.cons_prefix_cons.1 found).1
          exact noEnd (by rw [same]; rfl)
      | cons next text =>
          refine ⟨fun rest found => ?_, ih absent.2 (by simpa using noEnd)⟩
          have later := (List.cons_prefix_cons.1 found).2
          exact absent.2 ((List.cons_prefix_cons.1 later).1 ▸ List.mem_cons_self)

/-- Two texts without a certain character that are followed by it in the same text are
equal. -/
theorem eq_of_begins {mark : Char} {first second front back : Text}
    (firstPlain : mark ∉ first) (secondPlain : mark ∉ second)
    (found : first ++ mark :: front <+: second ++ mark :: back) : first = second := by
  induction first generalizing second with
  | nil =>
      cases second with
      | nil => rfl
      | cons character second =>
          have same := (List.cons_prefix_cons.1 found).1
          exact absurd (by simp [same]) secondPlain
  | cons character first ih =>
      cases second with
      | nil =>
          have same := (List.cons_prefix_cons.1 found).1
          exact absurd (by simp [same]) firstPlain
      | cons other second =>
          obtain ⟨rfl, later⟩ := List.cons_prefix_cons.1 found
          rw [List.mem_cons, not_or] at firstPlain secondPlain
          rw [ih firstPlain.2 secondPlain.2 later]

theorem after?_append (mark rest : Text) : after? mark (mark ++ rest) = some rest := by
  induction mark with
  | nil => rfl
  | cons character mark ih => simpa [after?] using ih

theorem after?_eq_none (absent : ¬ mark <+: text) : after? mark text = none := by
  cases found : after? mark text with
  | none => rfl
  | some rest => exact absurd ⟨rest, (eq_of_after? found).symm⟩ absent

theorem cut?_append (mark rest : Text) : cut? mark (mark ++ rest) = some ([], rest) := by
  cases whole : mark ++ rest with
  | nil =>
      obtain ⟨rfl, rfl⟩ := List.append_eq_nil_iff.1 whole
      rfl
  | cons character text =>
      have found := after?_append mark rest
      rw [whole] at found
      rw [cut?, found]

theorem cut?_cons (absent : ¬ mark <+: character :: text) :
    cut? mark (character :: text) =
      (cut? mark text).map fun (before, rest) => (character :: before, rest) := by
  rw [cut?, after?_eq_none absent]

/-- A search finds nothing exactly where the mark does not occur. -/
theorem cut?_eq_none_iff : cut? mark text = none ↔ ¬ mark <:+: text := by
  induction text with
  | nil => simp [cut?]
  | cons character text ih =>
      rw [List.infix_cons_iff]
      by_cases here : mark <+: character :: text
      · obtain ⟨rest, whole⟩ := here
        rw [← whole, cut?_append]
        simp
      · rw [cut?_cons here, Option.map_eq_none_iff, ih]
        simp [here]

theorem contains_iff : contains mark text = true ↔ mark <:+: text := by
  rw [contains, Option.isSome_iff_ne_none, ne_eq, cut?_eq_none_iff, not_not]

/-- No occurrence of a mark begins before the one that a search finds. -/
theorem length_le_of_cut? (found : cut? mark text = some (before, rest)) {front behind : Text}
    (occurs : text = front ++ mark ++ behind) : before.length ≤ front.length := by
  induction text generalizing before front with
  | nil =>
      have whole := eq_of_cut? found
      simp only [List.nil_eq, List.append_eq_nil_iff] at whole
      simp [whole.1.1]
  | cons character text ih =>
      by_cases here : mark <+: character :: text
      · obtain ⟨later, whole⟩ := here
        rw [← whole, cut?_append, Option.some.injEq, Prod.mk.injEq] at found
        simp [← found.1]
      · rw [cut?_cons here] at found
        obtain ⟨⟨inner, later⟩, cut, same⟩ := Option.map_eq_some_iff.1 found
        simp only [Prod.mk.injEq] at same
        obtain ⟨rfl, rfl⟩ := same
        cases front with
        | nil => exact absurd ⟨behind, by simpa using occurs.symm⟩ here
        | cons first front =>
            rw [List.cons_append, List.cons_append, List.cons.injEq] at occurs
            simpa using ih cut occurs.2

/-- A search finds the first occurrence of a mark. -/
theorem cut?_eq_some_iff :
    cut? mark text = some (before, rest) ↔
      text = before ++ mark ++ rest ∧
        ∀ front behind, text = front ++ mark ++ behind → before.length ≤ front.length := by
  constructor
  · exact fun found => ⟨eq_of_cut? found, fun front behind => length_le_of_cut? found⟩
  · rintro ⟨whole, earliest⟩
    cases found : cut? mark text with
    | none => exact absurd ⟨before, rest, whole.symm⟩ (cut?_eq_none_iff.1 found)
    | some pair =>
        obtain ⟨first, later⟩ := pair
        have same := eq_of_cut? found
        have length : first.length = before.length :=
          Nat.le_antisymm (length_le_of_cut? found whole) (earliest _ _ same)
        obtain ⟨front, rfl⟩ := List.append_inj (same.symm.trans whole) (by simp [length])
        obtain rfl := List.append_cancel_right front
        rfl

/-- A search goes over a text that the mark passes. -/
theorem cut?_append_of_passes (passes : Passes mark text) (rest : Text) :
    cut? mark (text ++ rest) =
      (cut? mark rest).map fun (before, rest) => (text ++ before, rest) := by
  induction text with
  | nil => simp
  | cons character text ih =>
      rw [List.cons_append, cut?_cons (passes.1 rest), ih passes.2, Option.map_map]
      rfl

theorem Passes.not_infix (passes : Passes mark text) (nonempty : mark ≠ []) : ¬ mark <:+: text := by
  have nothing : cut? mark [] = none := by
    rw [cut?_eq_none_iff, List.infix_nil]
    exact nonempty
  rw [← cut?_eq_none_iff, ← List.append_nil text, cut?_append_of_passes passes, nothing]
  rfl

/-- A search goes over a text in which no occurrence of the mark begins. -/
theorem cut?_append_of_late
    (late : ∀ front behind, text ++ rest = front ++ mark ++ behind → text.length ≤ front.length) :
    cut? mark (text ++ rest) =
      (cut? mark rest).map fun (before, rest) => (text ++ before, rest) := by
  induction text with
  | nil => simp
  | cons character text ih =>
      have absent : ¬ mark <+: character :: (text ++ rest) := by
        rintro ⟨behind, whole⟩
        have early := late [] behind (by simpa using whole.symm)
        simp at early
      rw [List.cons_append, cut?_cons absent, ih, Option.map_map]
      · rfl
      · intro front behind occurs
        have later := late (character :: front) behind (by simp [occurs])
        simpa using later

theorem replaceFrom_skip (mark substitute skipped rest : Text) :
    replaceFrom mark substitute skipped.length (skipped ++ rest) =
      replaceFrom mark substitute 0 rest := by
  induction skipped with
  | nil => rfl
  | cons character skipped ih => simpa [replaceFrom] using ih

/-- The first occurrence of a mark is replaced, and then those behind it. -/
theorem replace_mark_append (nonempty : mark ≠ []) (substitute rest : Text) :
    replace mark substitute (mark ++ rest) = substitute ++ replace mark substitute rest := by
  cases mark with
  | nil => exact absurd rfl nonempty
  | cons character mark =>
      have begins : startsWith (character :: mark) (character :: (mark ++ rest)) = true :=
        List.isPrefixOf_iff_prefix.2 (List.prefix_append (character :: mark) rest)
      rw [replace, List.cons_append, replaceFrom, if_pos begins]
      exact congrArg _ (replaceFrom_skip (character :: mark) substitute mark rest)

/-- A replacement keeps a character at which the mark does not begin. -/
theorem replace_cons (absent : ¬ mark <+: character :: rest) (substitute : Text) :
    replace mark substitute (character :: rest) = character :: replace mark substitute rest := by
  have unread : ¬ startsWith mark (character :: rest) = true :=
    fun begins => absent (List.isPrefixOf_iff_prefix.1 begins)
  rw [replace, replaceFrom, if_neg unread]
  rfl

/-- A replacement leaves a text as it is that the mark passes. -/
theorem replace_append_of_passes (substitute : Text) (passes : Passes mark text) (rest : Text) :
    replace mark substitute (text ++ rest) = text ++ replace mark substitute rest := by
  induction text with
  | nil => rfl
  | cons character text ih =>
      rw [List.cons_append, replace_cons (passes.1 rest), ih passes.2, List.cons_append]

/-- A replacement that keeps what stands in front of a mark leaves a text as it is up to the first
occurrence of the mark. -/
theorem exists_replace_append (passes : Passes mark text) (lead substitute rest : Text) :
    ∃ later, replace (lead ++ mark) (lead ++ substitute) (text ++ rest) = text ++ later := by
  induction text with
  | nil => exact ⟨_, rfl⟩
  | cons character text ih =>
      by_cases begins : lead ++ mark <+: (character :: text) ++ rest
      · obtain ⟨behind, whole⟩ := begins
        have nonempty : lead ++ mark ≠ [] := by
          intro none
          rw [(List.append_eq_nil_iff.1 none).2] at passes
          exact passes.1 rest List.nil_prefix
        rw [← whole, replace_mark_append nonempty]
        rw [List.append_assoc] at whole
        rcases List.append_eq_append_iff.1 whole with ⟨inner, same, late⟩ | ⟨inner, rfl, -⟩
        · cases inner with
          | nil =>
              rw [same, List.append_nil, List.append_assoc]
              exact ⟨_, rfl⟩
          | cons first inner =>
              rw [same] at passes
              exact absurd ⟨behind, late⟩ (passes.of_append.1 rest)
        · rw [List.append_assoc, List.append_assoc]
          exact ⟨_, rfl⟩
      · obtain ⟨later, kept⟩ := ih passes.2
        rw [List.cons_append] at begins ⊢
        exact ⟨later, by rw [replace_cons begins, kept, List.cons_append]⟩

/-- A replacement leaves a text as it is that does not have the mark. -/
theorem replace_eq_self (absent : ¬ mark <:+: text) (substitute : Text) :
    replace mark substitute text = text := by
  induction text with
  | nil => rfl
  | cons character text ih =>
      rw [List.infix_cons_iff, not_or] at absent
      rw [replace_cons absent.1, ih absent.2]

/-- A mark passes a text that does not have it, with a character behind it that is not in the
mark. -/
theorem passes_concat {last : Char} (absent : ¬ mark <:+: text) (other : last ∉ mark) :
    Passes mark (text ++ [last]) := by
  induction text with
  | nil =>
      refine ⟨fun rest begins => ?_, trivial⟩
      cases mark with
      | nil => exact absent (List.infix_refl [])
      | cons first mark => exact other (by simp [(List.cons_prefix_cons.1 begins).1])
  | cons character text ih =>
      rw [List.infix_cons_iff, not_or] at absent
      refine ⟨fun rest begins => ?_, ih absent.2⟩
      -- The mark ends in front of the last character, so that it stands in the text.
      have whole : mark <+: (character :: text) ++ last :: rest := by simpa using begins
      rcases List.prefix_or_prefix_of_prefix whole (List.prefix_append _ _) with
        inside | ⟨later, rfl⟩
      · exact absent.1 inside
      · cases later with
        | nil => exact absent.1 (by simp)
        | cons next later =>
            have begun := (List.prefix_append_right_inj _).1 whole
            exact other (by simp [(List.cons_prefix_cons.1 begun).1])

/-- Whether a replacement turns one text into another, whatever follows the text. -/
def Replaces (mark substitute before after : Text) : Prop :=
  ∀ rest, replace mark substitute (before ++ rest) = after ++ replace mark substitute rest

variable {substitute : Text}

theorem Replaces.of_passes (passes : Passes mark text) : Replaces mark substitute text text :=
  replace_append_of_passes substitute passes

theorem Replaces.of_mark (nonempty : mark ≠ []) : Replaces mark substitute mark substitute :=
  replace_mark_append nonempty substitute

theorem Replaces.append {first second newFirst newSecond : Text}
    (one : Replaces mark substitute first newFirst)
    (other : Replaces mark substitute second newSecond) :
    Replaces mark substitute (first ++ second) (newFirst ++ newSecond) := by
  intro rest
  rw [List.append_assoc, one, other, List.append_assoc]

theorem Replaces.flatMap {α : Type} {pieces : List α} {write newWrite : α → Text}
    (replaces : ∀ piece ∈ pieces, Replaces mark substitute (write piece) (newWrite piece)) :
    Replaces mark substitute (pieces.flatMap write) (pieces.flatMap newWrite) := by
  induction pieces with
  | nil => exact fun rest => rfl
  | cons piece pieces ih =>
      rw [List.flatMap_cons, List.flatMap_cons]
      exact (replaces piece (by simp)).append
        (ih fun other member => replaces other (List.mem_cons_of_mem _ member))

theorem Replaces.eq {newText : Text} (replaces : Replaces mark substitute text newText) :
    replace mark substitute text = newText := by
  have whole := replaces []
  have nothing : replace mark substitute [] = [] := rfl
  rwa [nothing, List.append_nil, List.append_nil] at whole

section Infixes

variable {front back first second : Text}

/-- A mark in two texts is in one of them, or its parts meet where they do. -/
theorem infix_append_cases (found : mark <:+: first ++ second) :
    mark <:+: first ∨ mark <:+: second ∨
      ∃ left right, left ≠ [] ∧ right ≠ [] ∧ mark = left ++ right ∧ left <:+ first ∧
        right <+: second := by
  obtain ⟨before, behind, whole⟩ := found
  rcases List.append_eq_append_iff.1 whole with ⟨rest, inside, -⟩ | ⟨rest, ends, rfl⟩
  · exact Or.inl ⟨before, rest, inside.symm⟩
  · rcases List.append_eq_append_iff.1 ends with ⟨left, inside, whole⟩ | ⟨left, -, whole⟩
    · by_cases some : left = []
      · refine Or.inr (Or.inl ⟨[], behind, ?_⟩)
        rw [whole, some, List.nil_append, List.nil_append]
      by_cases more : rest = []
      · refine Or.inl ⟨before, [], ?_⟩
        rw [whole, more, List.append_nil, List.append_nil, inside]
      exact Or.inr (Or.inr ⟨left, rest, some, more, whole, ⟨before, inside.symm⟩, ⟨behind, rfl⟩⟩)
    · exact Or.inr (Or.inl ⟨left, behind, by rw [whole]⟩)

/-- A mark that does not begin in the middle of itself like what is behind a text, and does not end in
the middle of itself like what is in front of it, is in the text or beside it. -/
theorem infix_of_infix_between (begins : ∀ first ∈ back.head?, first ∉ mark.tail)
    (ends : ∀ last ∈ front.getLast?, last ∉ mark.dropLast)
    (noFront : ¬ mark <:+: front) (noBack : ¬ mark <:+: back)
    (found : mark <:+: front ++ text ++ back) : mark <:+: text := by
  rcases infix_append_cases found with inside | last | ⟨left, right, some, more, rfl, -, starts⟩
  · rcases infix_append_cases inside with whole | within | ⟨left, right, some, more, rfl, closes, -⟩
    · exact absurd whole noFront
    · exact within
    · obtain ⟨before, rfl⟩ := closes
      obtain ⟨left, last, rfl⟩ := (List.eq_nil_or_concat left).resolve_left some
      refine absurd ?_ (ends last (by simp))
      rw [List.concat_eq_append, List.append_assoc, List.singleton_append,
        List.dropLast_append_cons, List.dropLast_cons_of_ne_nil more]
      simp
  · exact absurd last noBack
  · obtain ⟨behind, rfl⟩ := starts
    obtain ⟨mark, right, rfl⟩ := List.exists_cons_of_ne_nil more
    refine absurd ?_ (begins mark (by simp))
    simp [some]

end Infixes

end Text

end StaticSite
