import StaticSite.Proofs.Build.Sources
import StaticSite.Proofs.FileTree.Contents

/-!
# Trees without drafts

To leave the drafts among the sources out is to leave out some files: all directories and all
other files stay.
-/

namespace StaticSite

namespace Build

open FileTree

/-- Whether a node with a name is a document that is a draft. -/
def isDraftDocument (name : Text) : Node → Bool
  | .file content _ => isDocument name && (fieldsOf content).elim false Fields.isDraft
  | .directory => false

/-- A tree without the drafts at or below a location. -/
def withoutDrafts (source : Location) (tree : FileTree) : FileTree :=
  { tree with
    entries := tree.entries.filter fun entry =>
      ! (source.isPrefixOf entry.1 && isDraftDocument (entry.1.getLast?.getD []) entry.2) }

variable {tree : FileTree} {source location : Location} {name : Text} {content : Bytes}
  {modified : Int}

theorem isDraftDocument_file :
    isDraftDocument name (.file content modified) = true ↔ IsSkippedDraft false name content := by
  rw [isDraftDocument, IsSkippedDraft, Bool.and_eq_true, and_iff_right rfl]
  cases fieldsOf content <;> simp

theorem lookup_filter {keep : Location × Node → Bool} {entries : List (Location × Node)}
    (distinct : (entries.map Prod.fst).Nodup) :
    lookup location (entries.filter keep) =
      (lookup location entries).filter fun node => keep (location, node) := by
  induction entries with
  | nil => rfl
  | cons entry rest ih =>
      obtain ⟨candidate, node⟩ := entry
      rw [List.map_cons, List.nodup_cons] at distinct
      have later := ih distinct.2
      cases kept : keep (candidate, node) with
      | true =>
          rw [List.filter_cons_of_pos kept, lookup, lookup]
          by_cases here : candidate = location
          · subst here
            simp [kept, Option.filter_some]
          · simp only [here, if_false]
            exact later
      | false =>
          rw [List.filter_cons_of_neg (by simp [kept]), lookup, later]
          by_cases here : candidate = location
          · subst here
            have absent : lookup candidate rest = none := by
              by_contra found
              obtain ⟨other, found⟩ := Option.ne_none_iff_exists'.1 found
              exact distinct.1 (List.mem_map.2 ⟨_, mem_of_lookup found, rfl⟩)
            simp [absent, kept, Option.filter_some]
          · simp [here]

theorem node?_withoutDrafts (wellFormed : tree.WellFormed) :
    (withoutDrafts source tree).node? location = (tree.node? location).filter fun node =>
      ! (source.isPrefixOf location && isDraftDocument (location.getLast?.getD []) node) := by
  by_cases root : location = []
  · subst root
    simp [isDraftDocument, Option.filter_some]
  · rw [FileTree.node?, FileTree.node?, if_neg root, if_neg root]
    exact lookup_filter wellFormed.distinct

theorem sameDirectories_withoutDrafts (wellFormed : tree.WellFormed) :
    SameDirectories tree (withoutDrafts source tree) := by
  refine ⟨rfl, fun location => ?_⟩
  rw [node?_withoutDrafts wellFormed, Option.filter_eq_some_iff, and_iff_left]
  simp [isDraftDocument]

theorem wellFormed_withoutDrafts (wellFormed : tree.WellFormed) :
    (withoutDrafts source tree).WellFormed := by
  have kept : ∀ entry ∈ (withoutDrafts source tree).entries, entry ∈ tree.entries :=
    fun entry member => List.mem_of_mem_filter member
  refine ⟨wellFormed.distinct.sublist (List.filter_sublist.map _),
    fun entry member => wellFormed.named entry (kept entry member), fun entry member => ?_⟩
  exact ((sameDirectories_withoutDrafts wellFormed).directory_iff _).2
    (wellFormed.nested entry (kept entry member))

/-- The drafts are gone. -/
theorem node?_draft (wellFormed : tree.WellFormed) (inside : source <+: location)
    (skipped : SkipsAt false tree location) :
    (withoutDrafts source tree).node? location = none := by
  obtain ⟨name, content, modified, last, there, draft⟩ := skipped
  rw [node?_withoutDrafts wellFormed, there, last]
  simp [List.isPrefixOf_iff_prefix.2 inside, isDraftDocument_file.2 draft]

/-- Everything else is kept. -/
theorem node?_no_draft (wellFormed : tree.WellFormed)
    (other : ¬ (source <+: location ∧ SkipsAt false tree location)) :
    (withoutDrafts source tree).node? location = tree.node? location := by
  rw [node?_withoutDrafts wellFormed]
  rcases there : tree.node? location with _ | ⟨content, modified⟩ | _
  · rfl
  · rw [Option.filter_some, if_pos]
    rw [Bool.not_eq_true', ← Bool.not_eq_true, Bool.and_eq_true, List.isPrefixOf_iff_prefix]
    rintro ⟨inside, draft⟩
    refine other ⟨inside, location.getLast?.getD [], content, modified, ?_, there,
      isDraftDocument_file.1 draft⟩
    cases last : location.getLast? with
    | none =>
        rw [List.getLast?_eq_none_iff.1 last, node?_nil] at there
        cases there
    | some name => rfl
  · simp [isDraftDocument, Option.filter_some]

end Build

end StaticSite
