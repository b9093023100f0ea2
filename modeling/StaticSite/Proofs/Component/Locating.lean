import StaticSite.Proofs.Component.Splicing
import StaticSite.Proofs.Text.LineCounts

/-!
# The place of an unclosed invocation

An expansion that meets an invocation which is not closed names the place of it in the text as it
is by then, with the invocations in front of it expanded.  That is its place in the text that was
given for every body exactly if there are none.
-/

namespace StaticSite

namespace Component

/-- Whether an invocation that is not closed begins behind a part of a text. -/
def UnclosedAfter (name content before : Text) : Prop :=
  ∃ following, content = before ++ opener name ++ following ∧ ¬ closing <:+: ' ' :: following

variable {name content before body : Text} {front : List Segment}

theorem UnclosedAfter.lineFeeds_le (unclosed : UnclosedAfter name content before) :
    Text.lineFeeds before ≤ Text.lineFeeds content := by
  obtain ⟨following, rfl, -⟩ := unclosed
  rw [Text.lineFeeds_append, Text.lineFeeds_append, Nat.add_assoc]
  exact Nat.le_add_right _ _

/-- All the line feeds of a body come in for an invocation. -/
theorem lineFeeds_le_expanded {raw : Text} (member : Segment.invocation raw ∈ front)
    (braceless : '{' ∉ body) :
    Text.lineFeeds body ≤ Text.lineFeeds (front.flatMap (Segment.expanded body)) := by
  obtain ⟨ahead, behind, rfl⟩ := List.append_of_mem member
  rw [List.flatMap_append, List.flatMap_cons, Text.lineFeeds_append, Text.lineFeeds_append,
    Segment.expanded, fill_of_not_mem braceless]
  omega

/-- Where there are only stretches nothing is expanded. -/
theorem expanded_of_stretches (stretches : ∀ segment ∈ front, ∃ text, segment = .stretch text)
    (name body : Text) :
    front.flatMap (Segment.expanded body) = front.flatMap (Segment.written name) := by
  induction front with
  | nil => rfl
  | cons segment front ih =>
      obtain ⟨⟨text, rfl⟩, others⟩ := List.forall_mem_cons.1 stretches
      rw [List.flatMap_cons, List.flatMap_cons, ih others]
      rfl

/-- An expansion in the middle of a text moves what stands behind it: some body puts the place in a
line that the text does not have. -/
theorem stretches_of_placed
    (placed : ∀ body source, ∃ before, UnclosedAfter name content before ∧
      placeAfter source (front.flatMap (Segment.expanded body)) = placeAfter source before) :
    ∀ segment ∈ front, ∃ text, segment = .stretch text := by
  intro segment member
  cases segment with
  | stretch text => exact ⟨text, rfl⟩
  | invocation raw =>
      obtain ⟨before, unclosed, same⟩ :=
        placed (List.replicate (Text.lineFeeds content + 1) '\n') none
      have braceless : '{' ∉ List.replicate (Text.lineFeeds content + 1) '\n' := by
        simp [List.mem_replicate]
      have long := lineFeeds_le_expanded member braceless
      injection same with _ lines _
      have line := Option.some.inj lines
      have within := unclosed.lineFeeds_le
      have feeds : Text.lineFeeds (List.replicate (Text.lineFeeds content + 1) '\n') =
          Text.lineFeeds content + 1 := List.count_replicate_self
      omega

/-- Whether an expansion fails does not depend on the body.  If it does, an invocation of the text
is not closed, and its place is named as it is with all invocations in front of it
expanded.  For every body this is the place of an unclosed invocation in the text exactly if
none has been expanded. -/
theorem expand_names_place (name content : Text) :
    (∀ body source, ∃ text, expand content name body source = .ok text) ∨
      ∃ front : List Segment, (∀ segment ∈ front, segment.Closed) ∧
        UnclosedAfter name content (front.flatMap (Segment.written name)) ∧
        (∀ body source, expand content name body source =
          .error (.component (.unclosed name)
            (placeAfter source (front.flatMap (Segment.expanded body))))) ∧
        ((∀ body source, ∃ before, UnclosedAfter name content before ∧
            placeAfter source (front.flatMap (Segment.expanded body)) =
              placeAfter source before) ↔
          ∀ segment ∈ front, ∃ text, segment = .stretch text) := by
  obtain ⟨⟨front, complete⟩, ⟨closed, whole⟩, expands⟩ := exists_divides name content
  have outcome : ∀ body source, expand content name body source =
      Segmented.outcome name body source ⟨front, complete⟩ := fun body source =>
    (expands body source []).trans
      (Segmented.outcome_congr rfl (Segmented.expanded_behind body _ _))
  cases complete with
  | true => exact Or.inl fun body source => ⟨_, outcome body source⟩
  | false =>
      have unclosed : UnclosedAfter name content (front.flatMap (Segment.written name)) := whole
      refine Or.inr ⟨front, closed, unclosed, outcome, stretches_of_placed, fun stretches => ?_⟩
      intro body source
      exact ⟨_, unclosed, by rw [expanded_of_stretches stretches name body]⟩

section Example

/-- A closed invocation, and one that is not closed. -/
def movedPage : Text := "\x7b\x7b a \x7d\x7d\x7b\x7b a "

/-- A body with a line feed moves the invocation behind it to a second line, which the text does
not have. -/
theorem not_place_of_movedPage :
    expand movedPage "a" "\n" (some "index.html".toList) =
        .error (.component (.unclosed "a".toList) ⟨some "index.html".toList, some 2, some 1⟩) ∧
      UnclosedAfter "a" movedPage "\x7b\x7b a \x7d\x7d".toList ∧
      ∀ before, UnclosedAfter "a" movedPage before →
        placeAfter (some "index.html".toList) before ≠
          ⟨some "index.html".toList, some 2, some 1⟩ := by
  refine ⟨by cbv, ⟨[], rfl, by decide⟩, fun before unclosed same => ?_⟩
  injection same with _ lines _
  have line := Option.some.inj lines
  have within := unclosed.lineFeeds_le
  have none : Text.lineFeeds movedPage = 0 := by decide
  omega

end Example

end Component

end StaticSite
