import Mathlib.Data.List.Induction
import StaticSite.Proofs.Text.Splitting

/-!
# Words

A blank parts the words of a text: those before it and those behind it are all that there are.
-/

namespace StaticSite

namespace Text

variable {word text : Text} {mark : Char}

theorem splitOn_append_separator {separator : Char → Bool} (first second : Text)
    (isMark : separator mark = true) :
    splitOn separator (first ++ mark :: second) =
      splitOn separator first ++ splitOn separator second := by
  induction first with
  | nil => simp [splitOn, isMark]
  | cons character first ih =>
      rw [List.cons_append, splitOn, splitOn, ih]
      by_cases separates : separator character
      · rw [if_pos separates, if_pos separates, List.cons_append]
      · rw [if_neg separates, if_neg separates]
        cases later : splitOn separator first with
        | nil => exact absurd later (splitOn_ne_nil separator first)
        | cons part parts => rfl

theorem words_append_blank (first second : Text) (blank : isBlank mark = true) :
    words (first ++ mark :: second) = words first ++ words second := by
  rw [words, splitOn_append_separator first second blank, List.filter_append]
  rfl

theorem words_cons_blank (text : Text) (blank : isBlank mark = true) :
    words (mark :: text) = words text :=
  words_append_blank [] text blank

theorem words_of_plain (nonempty : word ≠ [])
    (plain : ∀ character ∈ word, isBlank character = false) : words word = [word] := by
  rw [words, splitOn_of_all plain]
  simp [nonempty]

/-- A word that is followed by a blank is the first one. -/
theorem words_append_of_plain (nonempty : word ≠ [])
    (plain : ∀ character ∈ word, isBlank character = false) (blank : isBlank mark = true)
    (text : Text) : words (word ++ mark :: text) = word :: words text := by
  rw [words_append_blank word text blank, words_of_plain nonempty plain]
  rfl

theorem words_dropWhile (text : Text) : words (text.dropWhile isBlank) = words text := by
  induction text with
  | nil => rfl
  | cons character text ih =>
      by_cases blank : isBlank character = true
      · rw [List.dropWhile_cons_of_pos blank, ih, words_cons_blank text blank]
      · rw [List.dropWhile_cons_of_neg blank]

theorem words_trimRight (text : Text) : words (trimRight text) = words text := by
  induction text using List.reverseRecOn with
  | nil => rfl
  | append_singleton text last ih =>
      unfold trimRight trimRightOf at ih ⊢
      rw [List.reverse_append, List.reverse_singleton, List.singleton_append]
      by_cases blank : isBlank last = true
      · rw [List.dropWhile_cons_of_pos blank, ih, words_append_blank text [] blank]
        exact (List.append_nil _).symm
      · rw [List.dropWhile_cons_of_neg blank]
        simp

theorem words_trim (text : Text) : words (trim text) = words text :=
  (words_trimRight _).trans (words_dropWhile text)

end Text

end StaticSite
