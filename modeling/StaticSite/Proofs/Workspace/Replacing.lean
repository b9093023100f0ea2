import StaticSite.Proofs.FileTree.Copying
import StaticSite.Proofs.Workspace.Writing

/-!
# Replacing directories

Removing a directory that is not the root clears it, and copying a directory to a place where
nothing is makes a copy of it there.
-/

namespace StaticSite

namespace Workspace

/-- A workspace after changes of its files, one after the other. -/
def editedAll (workspace : Workspace) (edits : List Edit) : Workspace :=
  edits.foldl edited workspace

theorem editedAll_files (workspace : Workspace) (edits : List Edit) :
    (workspace.editedAll edits).files = edits.foldl FileTree.apply workspace.files := by
  induction edits generalizing workspace with
  | nil => rfl
  | cons edit edits ih => exact ih (workspace.edited edit)

/-- Nothing but files is changed. -/
def Edits (before after : Workspace) : Prop := ∃ edits, after = before.editedAll edits

theorem edits_refl (workspace : Workspace) : workspace.Edits workspace := ⟨[], rfl⟩

variable {first second third : Workspace}

theorem Edits.trans (one : first.Edits second) (two : second.Edits third) : first.Edits third := by
  obtain ⟨edits, rfl⟩ := one
  obtain ⟨more, rfl⟩ := two
  exact ⟨edits ++ more, List.foldl_append.symm⟩

theorem edits_edited (workspace : Workspace) (edit : Edit) :
    workspace.Edits (workspace.edited edit) :=
  ⟨[edit], rfl⟩

theorem Edits.programs (edits : first.Edits second) :
    second.programs = first.programs ∧ second.convert = first.convert := by
  obtain ⟨edits, rfl⟩ := edits
  induction edits generalizing first with
  | nil => exact ⟨rfl, rfl⟩
  | cons edit edits ih => exact @ih (first.edited edit)

theorem Edits.clock (edits : first.Edits second) : second.clock = first.clock := by
  obtain ⟨edits, rfl⟩ := edits
  induction edits generalizing first with
  | nil => rfl
  | cons edit edits ih => exact @ih (first.edited edit)

end Workspace

namespace Action

open FileTree

variable {before after : Workspace} {directory path source : Path}
  {location place target : Location} {name : Text} {value : Unit}

theorem runs_commitAll_iff {edits : List Edit} :
    Runs (commitAll edits) before value after ↔ after = before.editedAll edits := by
  induction edits generalizing before with
  | nil => exact runs_pure.trans (by simp [Workspace.editedAll, eq_comm])
  | cons edit edits ih => simp only [commitAll, runs_bind, runs_commit, exists_eq_left, ih,
      exists_const, Workspace.editedAll, List.foldl_cons]

theorem foldl_removalsBelow (files : FileTree) (location : Location) :
    (removalsBelow files location).foldl FileTree.apply files =
      files.eraseAll (((files.entriesBelow location).mergeSort fun first second =>
        second.1.length ≤ first.1.length).map fun entry => location ++ entry.1) := by
  rw [removalsBelow, eraseAll, List.foldl_map, List.foldl_map]
  rfl

theorem foldl_copies (files : FileTree) (target : Location) (entries : List (List Text × Node)) :
    (copies target entries).foldl FileTree.apply files =
      files.setAll target (entries.mergeSort fun first second =>
        first.1.length ≤ second.1.length) := by
  rw [copies, setAll, List.foldl_map]
  congr 1
  funext tree entry
  obtain ⟨parts, content | _⟩ := entry <;> rfl

theorem mem_removed_iff {files : FileTree} (wellFormed : files.WellFormed) :
    target ∈ (((files.entriesBelow location).mergeSort fun first second =>
        second.1.length ≤ first.1.length).map fun entry => location ++ entry.1) ↔
      location <+: target ∧ target ≠ location ∧ files.node? target ≠ none := by
  simp only [List.mem_map, List.mem_mergeSort]
  constructor
  · rintro ⟨⟨parts, node⟩, below, rfl⟩
    obtain ⟨longer, member⟩ := mem_entriesBelow.1 below
    refine ⟨List.prefix_append _ _, by simpa using longer, ?_⟩
    simp [wellFormed.node?_of_mem member (by simp [longer])]
  · rintro ⟨⟨parts, rfl⟩, other, found⟩
    obtain ⟨node, found⟩ := Option.ne_none_iff_exists'.1 found
    have longer : parts ≠ [] := by simpa using other
    exact ⟨(parts, node), mem_entriesBelow.2 ⟨longer, mem_of_node? found (by simp [longer])⟩, rfl⟩

/-- What is strictly below a location is gone first. -/
theorem node?_emptied {files : FileTree} (wellFormed : files.WellFormed) (within : location ≠ []) :
    ((removalsBelow files location).foldl FileTree.apply files).node? target =
      if location <+: target ∧ target ≠ location then none else files.node? target := by
  have noRoot : [] ∉ (((files.entriesBelow location).mergeSort fun first second =>
      second.1.length ≤ first.1.length).map fun entry => location ++ entry.1) := by
    intro member
    exact within (List.prefix_nil.1 ((mem_removed_iff wellFormed).1 member).1)
  rw [foldl_removalsBelow, node?_eraseAll noRoot]
  by_cases below : location <+: target ∧ target ≠ location
  · rw [if_pos below]
    by_contra found
    rw [ite_eq_left_iff, Classical.not_imp] at found
    exact found.1 ((mem_removed_iff wellFormed).2 ⟨below.1, below.2, found.2⟩)
  · rw [if_neg below, if_neg]
    intro member
    have inside := (mem_removed_iff wellFormed).1 member
    exact below ⟨inside.1, inside.2.1⟩

theorem here_emptied (files : FileTree) (location : Location) :
    ((removalsBelow files location).foldl FileTree.apply files).here = files.here := by
  rw [foldl_removalsBelow, here_eraseAll]

/-- A directory is removed if its path still leads to it when it is empty. -/
theorem runs_removeTree_iff :
    Runs (removeTree path) before value after ↔
      ∃ location, before.files.require path = .ok location ∧
        before.files.node? location = some .directory ∧ path.name ≠ ['.', '.'] ∧
        ((removalsBelow before.files location).foldl FileTree.apply before.files).require path =
          .ok location ∧
        after = (before.editedAll (removalsBelow before.files location)).edited
          (.remove location) := by
  unfold removeTree
  simp only [runs_bind, runs_inspect, runs_get]
  constructor
  · rintro ⟨location, _, ⟨required, rfl⟩, _, _, ⟨rfl, rfl⟩, ran⟩
    refine ⟨location, required, ?_⟩
    split at ran
    · exact absurd ran not_runs_throw
    · exact absurd ran not_runs_throw
    · next opened =>
        simp only [runs_bind, runs_inspect, runs_get] at ran
        obtain ⟨_, _, ⟨rfl, rfl⟩, _, middle, committed, again, _, ⟨led, rfl⟩, ran⟩ := ran
        obtain rfl := runs_commitAll_iff.1 committed
        rw [Workspace.editedAll_files] at led
        have same : again = location := by
          rw [eq_resolve_of_require led, eq_resolve_of_require required, here_emptied]
        subst same
        split at ran
        · exact absurd ran not_runs_throw
        · next named => exact ⟨opened, named, led, runs_commit.1 ran⟩
  · rintro ⟨location, required, opened, named, led, rfl⟩
    refine ⟨location, before, ⟨required, rfl⟩, before, before, ⟨rfl, rfl⟩, ?_⟩
    rw [opened]
    simp only [runs_bind, runs_inspect, runs_get]
    refine ⟨before, before, ⟨rfl, rfl⟩, (), _, runs_commitAll_iff.2 rfl, location, _, ⟨?_, rfl⟩, ?_⟩
    · rw [Workspace.editedAll_files]
      exact led
    · rw [if_neg named]
      exact runs_commit.2 rfl

theorem runs_removeTree (wellFormed : before.files.WellFormed) (within : location ≠ [])
    (required : before.files.require path = .ok location)
    (ran : Runs (removeTree path) before value after) :
    Cleared before.files after.files location := by
  obtain ⟨other, led, -, -, -, rfl⟩ := runs_removeTree_iff.1 ran
  rw [required, Except.ok.injEq] at led
  subst led
  rw [Workspace.edited_files, Workspace.editedAll_files, foldl_removalsBelow]
  exact cleared_eraseAll wellFormed within fun other => mem_removed_iff wellFormed

/-- A directory is copied to a place whose directory is there and where nothing is yet. -/
theorem runs_copyTree_iff (there : before.files.exists? path.parent = .ok true) :
    Runs (copyTree source path) before value after ↔
      ∃ location target, before.files.require source = .ok location ∧
        before.files.require path = .ok target ∧ before.files.node? target = none ∧
        (before.files.apply (.makeDirectory target)).require path = .ok target ∧
        after = (before.edited (.makeDirectory target)).editedAll
          (copies target (before.files.entriesBelow location)) := by
  unfold copyTree
  simp only [runs_bind, runs_inspect, runs_get]
  constructor
  · rintro ⟨location, _, ⟨required, rfl⟩, _, _, ⟨rfl, rfl⟩, answer, _, ⟨asked, rfl⟩, ran⟩
    rw [there, Except.ok.injEq] at asked
    rw [if_pos asked.symm] at ran
    simp only [runs_bind, runs_inspect] at ran
    obtain ⟨_, middle, made, copied, _, ⟨again, rfl⟩, committed⟩ := ran
    obtain ⟨target, led, missing, rfl⟩ := runs_makeDirectory.1 made
    have same : copied = target := by
      rw [eq_resolve_of_require again, eq_resolve_of_require led]
      rfl
    subst same
    exact ⟨location, copied, required, led, missing, again, runs_commitAll_iff.1 committed⟩
  · rintro ⟨location, target, required, led, missing, again, rfl⟩
    refine ⟨location, before, ⟨required, rfl⟩, before, before, ⟨rfl, rfl⟩, true, before,
      ⟨there, rfl⟩, ?_⟩
    rw [if_pos rfl]
    simp only [runs_bind, runs_inspect]
    exact ⟨(), _, runs_makeDirectory.2 ⟨target, led, missing, rfl⟩, target, _, ⟨again, rfl⟩,
      runs_commitAll_iff.2 rfl⟩

theorem exists?_of_opens {tree : FileTree} (opens : tree.Opens path location) :
    tree.exists? path = .ok true := by
  rw [exists?, probe_of_require opens.1, opens.2]
  rfl

theorem runs_copyTree (wellFormed : before.files.WellFormed)
    (opened : before.files.Opens source location) (opens : before.files.Opens directory place)
    (isName : IsName name) (ran : Runs (copyTree source (directory.child name)) before value after) :
    CopyOf before.files after.files location (place ++ [name]) ∧
      after.files.Opens (directory.child name) (place ++ [name]) := by
  have there : before.files.exists? (directory.child name).parent = .ok true := by
    rw [Path.parent_child]
    exact exists?_of_opens opens
  obtain ⟨origin, target, required, led, missing, -, rfl⟩ := (runs_copyTree_iff there).1 ran
  rw [opened.1, Except.ok.injEq] at required
  subst required
  obtain rfl := opens.eq_of_require_child isName led
  have copy : CopyOf before.files ((before.edited (.makeDirectory (place ++ [name]))).editedAll
      (copies (place ++ [name]) (before.files.entriesBelow location))).files location
      (place ++ [name]) := by
    rw [Workspace.editedAll_files, foldl_copies]
    apply copyOf_setAll wellFormed opened.2 opens.2 isName missing
    · intro entry
      exact List.mem_mergeSort
    · exact ((List.mergeSort_perm _ _).map Prod.fst).nodup_iff.2
        (nodup_entriesBelow wellFormed.distinct)
  have held := copy.inside []
  rw [List.append_nil, List.append_nil, opened.2] at held
  refine ⟨copy, require_of_directories copy.here ?_ led, held⟩
  intro other there
  have outside : ¬ place ++ [name] <+: other := by
    intro inside
    have gone := (Cleared.of_missing wellFormed missing).node? other
    rw [if_pos inside, there] at gone
    cases gone
  rw [copy.elsewhere other outside, there]

end Action

end StaticSite
