import Mathlib.Data.List.TakeWhile
import StaticSite.Text.Basic

/-!
# Lines and columns

How many line feeds a text has, and how many characters stand behind the last one, when text is
added to it.
-/

namespace StaticSite

namespace Text

variable {added : Text}

@[simp]
theorem lineFeeds_append (text added : Text) :
    lineFeeds (text ++ added) = lineFeeds text + lineFeeds added := List.count_append

theorem lineFeeds_of_not_mem (noFeed : '\n' ∉ added) : lineFeeds added = 0 :=
  List.count_eq_zero.2 noFeed

/-- Text without a line feed makes the last line longer. -/
theorem lastLineLength_append (text : Text) (noFeed : '\n' ∉ added) :
    lastLineLength (text ++ added) = lastLineLength text + added.length := by
  have plain : ∀ character ∈ added.reverse, decide (character ≠ '\n') = true := by
    intro character member
    refine decide_eq_true ?_
    rintro rfl
    exact noFeed (List.mem_reverse.1 member)
  rw [lastLineLength, lastLineLength, List.reverse_append, List.takeWhile_append_of_pos plain,
    List.length_append, List.length_reverse, Nat.add_comm]

@[simp]
theorem lastLineLength_append_lineFeed (text : Text) : lastLineLength (text ++ ['\n']) = 0 := by
  simp [lastLineLength]

end Text

end StaticSite
