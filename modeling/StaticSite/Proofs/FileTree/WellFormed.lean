import Mathlib.Data.List.Induction
import StaticSite.FileTree
import StaticSite.Proofs.Path

/-!
# Well-formed file trees

In a well-formed tree every location has one node, every component is a name, and whatever
there is lies in a directory.  Changes of single files keep a tree well-formed.
-/

namespace StaticSite

namespace FileTree

/-- What a file system promises about the tree of its files and directories. -/
structure WellFormed (tree : FileTree) : Prop where
  distinct : (tree.entries.map Prod.fst).Nodup
  named : ∀ entry ∈ tree.entries, ∀ name ∈ entry.1, IsName name
  nested : ∀ entry ∈ tree.entries, tree.node? entry.1.dropLast = some .directory

/-- Whether there is a file at a location. -/
def HasFile (tree : FileTree) (location : Location) : Prop :=
  ∃ content modified, tree.node? location = some (.file content modified)

variable {tree : FileTree} {location other : Location} {node : Node} {name : Text}
  {content : Bytes} {modified : Int}

@[simp]
theorem node?_nil (tree : FileTree) : tree.node? [] = some .directory := by
  simp [node?]

theorem HasFile.ne_directory (file : tree.HasFile location) :
    tree.node? location ≠ some .directory := by
  obtain ⟨content, modified, found⟩ := file
  rw [found]
  simp

theorem HasFile.ne_none (file : tree.HasFile location) : tree.node? location ≠ none := by
  obtain ⟨content, modified, found⟩ := file
  rw [found]
  simp

theorem hasFile_congr {second : FileTree} (same : second.node? other = tree.node? location) :
    second.HasFile other ↔ tree.HasFile location := by
  unfold HasFile
  rw [same]

theorem mem_of_lookup {entries : List (Location × Node)}
    (found : lookup location entries = some node) : (location, node) ∈ entries := by
  induction entries with
  | nil => simp [lookup] at found
  | cons entry rest ih =>
      obtain ⟨candidate, old⟩ := entry
      by_cases here : candidate = location
      · simp only [lookup, here, if_true, Option.some.injEq] at found
        simp [here, found]
      · simp only [lookup, here, if_false] at found
        exact List.mem_cons_of_mem _ (ih found)

theorem lookup_append_of_ne {entries more : List (Location × Node)}
    (apart : ∀ entry ∈ more, entry.1 ≠ location) :
    lookup location (entries ++ more) = lookup location entries := by
  induction entries with
  | nil =>
      rw [List.nil_append]
      by_contra found
      obtain ⟨node, found⟩ := Option.ne_none_iff_exists'.1 found
      exact apart _ (mem_of_lookup found) rfl
  | cons entry rest ih => simp only [List.cons_append, lookup, ih]

theorem lookup_of_mem {entries : List (Location × Node)}
    (distinct : (entries.map Prod.fst).Nodup) (member : (location, node) ∈ entries) :
    lookup location entries = some node := by
  induction entries with
  | nil => simp at member
  | cons entry rest ih =>
      obtain ⟨candidate, old⟩ := entry
      rw [List.map_cons, List.nodup_cons] at distinct
      rcases List.mem_cons.1 member with same | later
      · cases same
        simp [lookup]
      · have apart : candidate ≠ location := by
          rintro rfl
          exact distinct.1 (List.mem_map.2 ⟨_, later, rfl⟩)
        simpa [lookup, apart] using ih distinct.2 later

theorem mem_of_node? (found : tree.node? location = some node) (below : location ≠ []) :
    (location, node) ∈ tree.entries := by
  rw [node?, if_neg below] at found
  exact mem_of_lookup found

theorem WellFormed.node?_of_mem (wellFormed : tree.WellFormed)
    (member : (location, node) ∈ tree.entries) (below : location ≠ []) :
    tree.node? location = some node := by
  rw [node?, if_neg below]
  exact lookup_of_mem wellFormed.distinct member

theorem WellFormed.isName (wellFormed : tree.WellFormed)
    (found : tree.node? location ≠ none) (member : name ∈ location) : IsName name := by
  obtain ⟨node, found⟩ := Option.ne_none_iff_exists'.1 found
  have below : location ≠ [] := List.ne_nil_of_mem member
  exact wellFormed.named _ (mem_of_node? found below) name member

theorem WellFormed.node?_parent (wellFormed : tree.WellFormed)
    (found : tree.node? (location ++ [name]) ≠ none) :
    tree.node? location = some .directory := by
  obtain ⟨node, found⟩ := Option.ne_none_iff_exists'.1 found
  have member := mem_of_node? found (by simp)
  simpa using wellFormed.nested _ member

/-- Whatever leads to something is a directory. -/
theorem WellFormed.node?_above (wellFormed : tree.WellFormed) {parts : List Text}
    (found : tree.node? (location ++ parts) ≠ none) (below : parts ≠ []) :
    tree.node? location = some .directory := by
  induction parts using List.reverseRecOn with
  | nil => exact absurd rfl below
  | append_singleton parts name ih =>
      rw [← List.append_assoc] at found
      have parent := wellFormed.node?_parent found
      by_cases last : parts = []
      · simpa [last] using parent
      · exact ih (by simp [parent]) last

theorem node?_set (within : location ≠ []) :
    (tree.set location node).node? other =
      if other = location then some node else tree.node? other := by
  by_cases root : other = []
  · subst root
    simp [within.symm]
  · simp only [node?, set, if_neg root, lookup_setEntry]

theorem node?_erase (within : location ≠ []) :
    (tree.erase location).node? other =
      if other = location then none else tree.node? other := by
  by_cases root : other = []
  · subst root
    simp [within.symm]
  · simp only [node?, erase, if_neg root, lookup_filter_ne]

theorem hasFile_set (within : location ≠ []) :
    (tree.set location (.file content modified)).HasFile other ↔
      other = location ∨ tree.HasFile other := by
  unfold HasFile
  rw [node?_set within]
  by_cases same : other = location
  · simp [same]
  · simp [same]

theorem hasFile_erase (within : location ≠ []) :
    (tree.erase location).HasFile other ↔ other ≠ location ∧ tree.HasFile other := by
  unfold HasFile
  rw [node?_erase within]
  by_cases same : other = location
  · simp [same]
  · simp [same]

theorem mem_setEntry {entries : List (Location × Node)} {entry : Location × Node}
    (member : entry ∈ setEntry location node entries) :
    entry = (location, node) ∨ entry ∈ entries := by
  induction entries with
  | nil => simpa [setEntry] using member
  | cons first rest ih =>
      obtain ⟨candidate, old⟩ := first
      by_cases here : candidate = location
      · simp only [setEntry, here, if_true, List.mem_cons] at member
        rcases member with same | later
        · exact Or.inl same
        · exact Or.inr (List.mem_cons_of_mem _ later)
      · simp only [setEntry, here, if_false, List.mem_cons] at member
        rcases member with same | later
        · exact Or.inr (same ▸ List.mem_cons_self)
        · exact (ih later).imp_right (List.mem_cons_of_mem _)

theorem nodup_setEntry {entries : List (Location × Node)}
    (distinct : (entries.map Prod.fst).Nodup) :
    ((setEntry location node entries).map Prod.fst).Nodup := by
  induction entries with
  | nil => simp [setEntry]
  | cons first rest ih =>
      obtain ⟨candidate, old⟩ := first
      rw [List.map_cons, List.nodup_cons] at distinct
      by_cases here : candidate = location
      · simp only [setEntry, here, if_true, List.map_cons, List.nodup_cons]
        exact here ▸ distinct
      · simp only [setEntry, here, if_false, List.map_cons, List.nodup_cons]
        refine ⟨fun member => ?_, ih distinct.2⟩
        obtain ⟨entry, set, same⟩ := List.mem_map.1 member
        rcases mem_setEntry set with rfl | old
        · exact here same.symm
        · exact distinct.1 (List.mem_map.2 ⟨entry, old, same⟩)

/-- A node may be put where a directory can hold it, unless it takes the place of another
kind of node. -/
theorem WellFormed.set (wellFormed : tree.WellFormed)
    (parent : tree.node? location = some .directory) (isName : IsName name)
    (kept : tree.node? (location ++ [name]) = some .directory → node = .directory) :
    (tree.set (location ++ [name]) node).WellFormed := by
  have within : location ++ [name] ≠ [] := by simp
  refine ⟨nodup_setEntry wellFormed.distinct, ?_, ?_⟩
  · intro entry member part inside
    rcases mem_setEntry member with rfl | old
    · rcases List.mem_append.1 inside with above | last
      · exact wellFormed.isName (by simp [parent]) above
      · obtain rfl : part = name := by simpa using last
        exact isName
    · exact wellFormed.named entry old part inside
  · intro entry member
    rw [node?_set within]
    rcases mem_setEntry member with rfl | old
    · simp [parent]
    · have nested := wellFormed.nested entry old
      split
      · next same => rw [kept (same ▸ nested)]
      · exact nested

/-- A file may be removed. -/
theorem WellFormed.erase (wellFormed : tree.WellFormed) (within : location ≠ [])
    (file : tree.node? location ≠ some .directory) : (tree.erase location).WellFormed := by
  have kept : ∀ entry, entry ∈ (tree.erase location).entries → entry ∈ tree.entries :=
    fun entry member => (List.mem_filter.1 member).1
  refine ⟨?_, fun entry member => wellFormed.named entry (kept entry member), ?_⟩
  · exact wellFormed.distinct.sublist (List.filter_sublist.map _)
  · intro entry member
    have nested := wellFormed.nested entry (kept entry member)
    rw [node?_erase within, if_neg]
    · exact nested
    · intro same
      exact file (same ▸ nested)

end FileTree

end StaticSite
