import StaticSite.Proofs.FileTree.Copying

/-!
# What a directory holds

What is at a location and below it, as a list of entries with their components from there on.
-/

namespace StaticSite

namespace FileTree

variable {tree first second : FileTree} {location target : Location} {parts : List Text}
  {node : Node} {entries : List (Location × Node)} {name : Text}

/-- A location and all that is below it hold the given entries, and nothing else. -/
def Holds (tree : FileTree) (location : Location) (entries : List (Location × Node)) : Prop :=
  ∀ parts, tree.node? (location ++ parts) = lookup parts entries

theorem Holds.set (holds : tree.Holds location entries) (within : location ++ parts ≠ []) :
    (tree.set (location ++ parts) node).Holds location (setEntry parts node entries) := by
  intro other
  rw [node?_set within, lookup_setEntry, holds other]
  simp

/-- The entries at a location and below it, with their components from there on. -/
def entriesAt (inner : List Text) (entries : List (Location × Node)) : List (Location × Node) :=
  entries.filterMap fun (candidate, node) =>
    if inner <+: candidate then some (candidate.drop inner.length, node) else none

theorem lookup_entriesAt (inner parts : List Text) (entries : List (Location × Node)) :
    lookup parts (entriesAt inner entries) = lookup (inner ++ parts) entries := by
  induction entries with
  | nil => rfl
  | cons entry entries ih =>
      obtain ⟨candidate, node⟩ := entry
      unfold entriesAt at ih ⊢
      rw [List.filterMap_cons]
      by_cases inside : inner <+: candidate
      · obtain ⟨rest, rfl⟩ := inside
        simp only [List.prefix_append, if_true, List.drop_left, lookup, ih,
          List.append_cancel_left_eq]
      · have apart : candidate ≠ inner ++ parts := fun same => inside (same ▸ List.prefix_append _ _)
        simp only [if_neg inside, lookup, if_neg apart, ih]

theorem Holds.below (holds : tree.Holds location entries) (inner : List Text) :
    tree.Holds (location ++ inner) (entriesAt inner entries) := by
  intro parts
  rw [List.append_assoc, holds, lookup_entriesAt]

theorem CopyOf.holds (copy : CopyOf first second location target)
    (holds : first.Holds location entries) : second.Holds target entries :=
  fun parts => (copy.inside parts).trans (holds parts)

theorem Holds.mem_names (holds : tree.Holds location entries) (wellFormed : tree.WellFormed) :
    name ∈ tree.names location ↔ lookup [name] entries ≠ none := by
  rw [wellFormed.mem_names, holds]

theorem Holds.names_eq_nil (holds : tree.Holds location entries) (wellFormed : tree.WellFormed)
    (empty : ∀ name, lookup [name] entries = none) : tree.names location = [] := by
  rw [List.eq_nil_iff_forall_not_mem]
  intro name member
  exact (holds.mem_names wellFormed).1 member (empty name)

theorem Holds.names_eq_singleton (holds : tree.Holds location entries)
    (wellFormed : tree.WellFormed)
    (only : ∀ other, lookup [other] entries ≠ none ↔ other = name) :
    tree.names location = [name] := by
  have each : ∀ other, other ∈ tree.names location ↔ other = name :=
    fun other => (holds.mem_names wellFormed).trans (only other)
  refine List.perm_singleton.1 ((List.perm_ext_iff_of_nodup (wellFormed.nodup_names location)
    (by simp)).2 fun other => ?_)
  rw [each other, List.mem_singleton]

end FileTree

end StaticSite
