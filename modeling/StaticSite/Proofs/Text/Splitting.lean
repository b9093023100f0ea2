import Mathlib.Data.List.Basic
import Mathlib.Data.List.TakeWhile
import StaticSite.Text.Basic

/-!
# Splitting texts

A text is its first part, or its first part, a separator and a text that is split on.
Whatever is split at one character is joined again with that character.
-/

namespace StaticSite

namespace Text

theorem splitOn_ne_nil (separator : Char → Bool) (text : Text) :
    splitOn separator text ≠ [] := by
  cases text with
  | nil => simp [splitOn]
  | cons character text =>
      rw [splitOn]
      split
      · simp
      · split <;> simp

theorem splitOn_of_all {separator : Char → Bool} {text : Text}
    (plain : ∀ character ∈ text, separator character = false) :
    splitOn separator text = [text] := by
  induction text with
  | nil => rfl
  | cons character text ih =>
      have rest := ih fun other member => plain other (List.mem_cons_of_mem _ member)
      simp [splitOn, plain character (by simp), rest]

theorem splitOn_append_cons {separator : Char → Bool} {part : Text} {mark : Char}
    (rest : Text) (plain : ∀ character ∈ part, separator character = false)
    (isMark : separator mark = true) :
    splitOn separator (part ++ mark :: rest) = part :: splitOn separator rest := by
  induction part with
  | nil => simp [splitOn, isMark]
  | cons character part ih =>
      have later := ih fun other member => plain other (List.mem_cons_of_mem _ member)
      simp [splitOn, plain character (by simp), later]

/-- The first part of a split has no separator; behind it the text ends, or a separator
stands and the other parts are those of what follows. -/
theorem splitOn_cases {separator : Char → Bool} {text part : Text} {parts : List Text}
    (split : splitOn separator text = part :: parts) :
    (∀ character ∈ part, separator character = false) ∧
      (text = part ∧ parts = [] ∨
        ∃ mark rest, separator mark = true ∧ text = part ++ mark :: rest ∧
          parts = splitOn separator rest) := by
  induction text generalizing part parts with
  | nil =>
      simp only [splitOn, List.cons.injEq] at split
      obtain ⟨rfl, rfl⟩ := split
      simp
  | cons character text ih =>
      rw [splitOn] at split
      cases isMark : separator character with
      | true =>
          simp only [isMark, if_true, List.cons.injEq] at split
          obtain ⟨rfl, rfl⟩ := split
          exact ⟨by simp, Or.inr ⟨character, text, isMark, rfl, rfl⟩⟩
      | false =>
          simp only [isMark, Bool.false_eq_true, if_false] at split
          cases later : splitOn separator text with
          | nil => exact absurd later (splitOn_ne_nil separator text)
          | cons first others =>
              simp only [later, List.cons.injEq] at split
              obtain ⟨rfl, rfl⟩ := split
              obtain ⟨plain, ends | ⟨mark, rest, found, whole, same⟩⟩ := ih later
              · exact ⟨by simpa [isMark] using plain, Or.inl ⟨by rw [ends.1], ends.2⟩⟩
              · exact ⟨by simpa [isMark] using plain,
                  Or.inr ⟨mark, rest, found, by rw [whole, List.cons_append], same⟩⟩

theorem join_cons (separator part : Text) {parts : List Text} (nonempty : parts ≠ []) :
    join separator (part :: parts) = part ++ separator ++ join separator parts := by
  cases parts with
  | nil => exact absurd rfl nonempty
  | cons next parts => rfl

theorem join_cons_cons (separator part : Text) (character : Char) (parts : List Text) :
    join separator ((character :: part) :: parts) =
      character :: join separator (part :: parts) := by
  cases parts <;> rfl

theorem join_concat (separator last : Text) {parts : List Text} (nonempty : parts ≠ []) :
    join separator (parts ++ [last]) = join separator parts ++ separator ++ last := by
  induction parts with
  | nil => exact absurd rfl nonempty
  | cons part parts ih =>
      cases parts with
      | nil => rfl
      | cons next parts =>
          have longer : next :: parts ++ [last] ≠ [] := by simp
          have whole := ih (List.cons_ne_nil next parts)
          rw [List.cons_append, join_cons separator part longer, whole,
            join_cons separator part (List.cons_ne_nil next parts)]
          simp only [List.append_assoc]

/-- The last part stands behind all others, each with its separator. -/
theorem join_append_singleton (separator last : Text) (parts : List Text) :
    join separator (parts ++ [last]) = parts.flatMap (· ++ separator) ++ last := by
  induction parts with
  | nil => rfl
  | cons part parts ih =>
      rw [List.cons_append, join_cons _ _ (by simp), ih, List.flatMap_cons]
      simp only [List.append_assoc]

theorem append_join (separator : Text) {parts : List Text} (nonempty : parts ≠ []) :
    separator ++ join separator parts = parts.flatMap (separator ++ ·) := by
  induction parts with
  | nil => exact absurd rfl nonempty
  | cons part parts ih =>
      cases parts with
      | nil =>
          rw [List.flatMap_singleton]
          rfl
      | cons next parts =>
          rw [join_cons _ _ (by simp), List.flatMap_cons, ← ih (by simp)]
          simp only [List.append_assoc]

/-- No part of a text that is split at a mark has the mark. -/
theorem not_mem_of_splitOn {mark : Char} {text part : Text}
    (member : part ∈ splitOn (· = mark) text) : mark ∉ part := by
  induction split : splitOn (· = mark) text generalizing text with
  | nil => exact absurd split (splitOn_ne_nil _ text)
  | cons here parts ih =>
      rw [split] at member
      obtain ⟨plain, ⟨-, rfl⟩ | ⟨_, rest, -, -, rfl⟩⟩ := splitOn_cases split
      · rw [List.mem_singleton.1 member]
        exact fun inside => by simpa using plain mark inside
      · rcases List.mem_cons.1 member with rfl | later
        · exact fun inside => by simpa using plain mark inside
        · exact ih later rfl

theorem join_splitOn (mark : Char) (text : Text) :
    join [mark] (splitOn (· = mark) text) = text := by
  induction text with
  | nil => rfl
  | cons character text ih =>
      rw [splitOn]
      by_cases isMark : character = mark
      · rw [if_pos (by simpa using isMark), join_cons _ _ (splitOn_ne_nil _ text), ih, isMark]
        rfl
      · rw [if_neg (by simpa using isMark)]
        cases later : splitOn (· = mark) text with
        | nil => exact absurd later (splitOn_ne_nil _ text)
        | cons part parts =>
            rw [later] at ih
            simp only [join_cons_cons, ih]

/-- What is joined with a mark that no part has is split into its parts again. -/
theorem splitOn_join {mark : Char} {parts : List Text} (nonempty : parts ≠ [])
    (plain : ∀ part ∈ parts, mark ∉ part) :
    splitOn (· = mark) (join [mark] parts) = parts := by
  induction parts with
  | nil => exact absurd rfl nonempty
  | cons part parts ih =>
      have unmarked : ∀ character ∈ part, decide (character = mark) = false := by
        intro character member
        rw [decide_eq_false_iff_not]
        rintro rfl
        exact plain part List.mem_cons_self member
      cases parts with
      | nil => exact splitOn_of_all unmarked
      | cons next parts =>
          have rest := ih (by simp) fun other member => plain other (List.mem_cons_of_mem _ member)
          rw [join_cons _ _ (by simp), List.append_assoc, List.singleton_append,
            splitOn_append_cons _ unmarked (by simp), rest]

theorem cutLast?_append {mark : Char} (before : Text) {rest : Text} (later : mark ∉ rest) :
    cutLast? mark (before ++ mark :: rest) = some (before, rest) := by
  have passed : ∀ character ∈ rest.reverse, decide (character ≠ mark) = true := by
    intro character member
    have other : character ≠ mark := by
      rintro rfl
      exact later (List.mem_reverse.1 member)
    simpa using other
  unfold cutLast?
  rw [List.reverse_append, List.reverse_cons, List.append_assoc,
    List.dropWhile_append_of_pos passed, List.takeWhile_append_of_pos passed]
  simp

/-- A cut at the last mark loses nothing. -/
theorem eq_of_cutLast? {mark : Char} {text before rest : Text}
    (found : cutLast? mark text = some (before, rest)) :
    text = before ++ mark :: rest ∧ mark ∉ rest := by
  by_cases occurs : mark ∈ text.reverse
  · obtain ⟨last, first, whole, plain⟩ := List.eq_append_cons_of_mem occurs
    have parted : text = first.reverse ++ mark :: last.reverse := by
      rw [← List.reverse_reverse text, whole]
      simp
    have unmarked : mark ∉ last.reverse := fun member => plain (List.mem_reverse.1 member)
    rw [parted, cutLast?_append _ unmarked, Option.some.injEq, Prod.mk.injEq] at found
    obtain ⟨rfl, rfl⟩ := found
    exact ⟨parted, unmarked⟩
  · have dropped : text.reverse.dropWhile (· ≠ mark) = [] := by
      rw [List.dropWhile_eq_nil_iff]
      intro character member
      have other : character ≠ mark := by
        rintro rfl
        exact occurs member
      simpa using other
    rw [cutLast?, dropped] at found
    cases found

end Text

end StaticSite
