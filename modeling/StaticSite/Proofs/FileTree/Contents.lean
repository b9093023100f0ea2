import StaticSite.Proofs.FileTree.Opening
import StaticSite.Proofs.Text.Sorting

/-!
# The contents of files

Two trees with the same directories answer a question about a name in a directory in the same
way, if what they hold under the name is the same.  The time of a change is not asked for.
-/

namespace StaticSite

namespace FileTree

variable {tree first second : FileTree} {location target other : Location} {path : Path}
  {name : Text} {content : Bytes} {modified : Int}

/-- The content of the file at a location, if there is a file. -/
def content? (tree : FileTree) (location : Location) : Option Bytes :=
  match tree.node? location with
  | some (.file content _) => some content
  | _ => none

theorem content?_eq_some_iff :
    tree.content? location = some content ↔
      ∃ modified, tree.node? location = some (.file content modified) := by
  unfold content?
  rcases tree.node? location with _ | ⟨held, time⟩ | _ <;> simp

theorem content?_eq_none_iff : tree.content? location = none ↔ ¬ tree.HasFile location := by
  unfold HasFile content?
  rcases tree.node? location with _ | ⟨held, time⟩ | _ <;> simp

theorem content?_congr (same : second.node? other = first.node? location) :
    second.content? other = first.content? location := by
  rw [content?, content?, same]

/-- What is at a location is a file, a directory or nothing. -/
theorem node?_ne_none_iff :
    tree.node? location ≠ none ↔
      tree.node? location = some .directory ∨ tree.content? location ≠ none := by
  unfold content?
  rcases tree.node? location with _ | ⟨held, time⟩ | _ <;> simp

/-- What is like a file is a file. -/
theorem exists_of_rel {alike : Bytes → Bytes → Prop}
    (held : Option.Rel alike (first.content? location) (second.content? other))
    (there : first.node? location = some (.file content modified)) :
    ∃ also time, second.node? other = some (.file also time) ∧ alike content also := by
  rw [content?_eq_some_iff.2 ⟨modified, there⟩] at held
  cases found : second.content? other with
  | none =>
      rw [found] at held
      cases held
  | some also =>
      rw [found] at held
      obtain ⟨time, there⟩ := content?_eq_some_iff.1 found
      cases held with
      | some like => exact ⟨also, time, there, like⟩

theorem content?_set_file (within : location ≠ []) :
    (tree.set location (.file content modified)).content? other =
      if other = location then some content else tree.content? other := by
  unfold content?
  rw [node?_set within]
  by_cases here : other = location <;> simp [here]

theorem content?_erase (within : location ≠ []) :
    (tree.erase location).content? other =
      if other = location then none else tree.content? other := by
  unfold content?
  rw [node?_erase within]
  by_cases here : other = location <;> simp [here]

theorem isSome_content?_iff : (tree.content? location).isSome = true ↔ tree.HasFile location := by
  rw [← not_iff_not, ← content?_eq_none_iff, Option.not_isSome_iff_eq_none]

theorem isFile_of_no_content (required : tree.require path = .ok location)
    (absent : tree.content? location = none) : tree.isFile path = .ok false := by
  rw [isFile, probe_of_require required]
  unfold content? at absent
  rcases held : tree.node? location with _ | ⟨content, time⟩ | _
  · rfl
  · rw [held] at absent
    cases absent
  · rfl

namespace SameDirectories

variable (same : SameDirectories first second)
include same

/-- From a directory that opens, a name leads to the same location in both trees. -/
theorem locate_child (opens : first.Opens path location) (isName : IsName name) :
    second.locate (path.child name) = first.locate (path.child name) := by
  have followed := (locate_eq_ok_iff.1 (require_eq_ok_iff.1 opens.1).2).2
  have also := (locate_eq_ok_iff.1 (require_eq_ok_iff.1 (same.opens opens).1).2).2
  have parted : ∀ tree : FileTree, tree.follow
      (if (path.child name).anchor = .here then tree.here else []) (path.child name).parts =
        (tree.follow (if path.anchor = .here then tree.here else []) path.parts).bind
          fun middle => tree.follow middle [name] :=
    fun tree => follow_append path.parts [name]
  unfold locate
  rw [parted, parted, followed, also]
  simp only [Except.bind, follow_name opens.2 isName, follow_name (same.opens opens).2 isName]

theorem require_child (opens : first.Opens path location) (isName : IsName name) :
    second.require (path.child name) = first.require (path.child name) := by
  unfold FileTree.require
  rw [same.locate_child opens isName]

/-- Asking for what is under a name gives the same answer if it is the same. -/
theorem map_probe_child {α : Type} (question : Option Node → α)
    (opens : first.Opens path location) (isName : IsName name)
    (held : question (second.node? (location ++ [name])) =
      question (first.node? (location ++ [name]))) :
    (second.probe (path.child name)).map question =
      (first.probe (path.child name)).map question := by
  unfold probe
  rw [same.locate_child opens isName]
  rcases opens.locate_child isName with led | long
  · rw [led]
    cases hasNull (path.child name) with
    | true => rfl
    | false => exact congrArg Except.ok held
  · rw [long]

theorem isDirectory_child (opens : first.Opens path location) (isName : IsName name) :
    second.isDirectory (path.child name) = first.isDirectory (path.child name) := by
  apply same.map_probe_child _ opens isName
  rw [Bool.eq_iff_iff, beq_iff_eq, beq_iff_eq]
  exact same.directory_iff _

theorem isFile_child_of_isSome (opens : first.Opens path location) (isName : IsName name)
    (held : (second.content? (location ++ [name])).isSome =
      (first.content? (location ++ [name])).isSome) :
    second.isFile (path.child name) = first.isFile (path.child name) := by
  apply same.map_probe_child _ opens isName
  have asked : ∀ tree : FileTree, (match tree.node? (location ++ [name]) with
      | some (.file _ _) => true
      | _ => false) = (tree.content? (location ++ [name])).isSome := by
    intro tree
    unfold content?
    rcases tree.node? (location ++ [name]) with _ | ⟨held, time⟩ | _ <;> rfl
  exact (asked second).trans (held.trans (asked first).symm)

theorem isFile_child (opens : first.Opens path location) (isName : IsName name)
    (held : second.content? (location ++ [name]) = first.content? (location ++ [name])) :
    second.isFile (path.child name) = first.isFile (path.child name) :=
  same.isFile_child_of_isSome opens isName (congrArg Option.isSome held)

/-- What is read under a name is like what is read in the other tree if the contents are. -/
theorem exists_read_child {alike : Bytes → Bytes → Prop} (opens : first.Opens path location)
    (isName : IsName name)
    (held : Option.Rel alike (first.content? (location ++ [name]))
      (second.content? (location ++ [name])))
    (read : first.read (path.child name) = .ok content) :
    ∃ other, second.read (path.child name) = .ok other ∧ alike content other := by
  obtain ⟨target, required, modified, there⟩ := read_eq_ok_iff.1 read
  obtain rfl := opens.eq_of_require_child isName required
  obtain ⟨other, time, found, like⟩ := exists_of_rel held there
  exact ⟨other, read_eq_ok_iff.2 ⟨_, (same.require_child opens isName).trans required, time,
    found⟩, like⟩

theorem read_child (opens : first.Opens path location) (isName : IsName name)
    (held : second.content? (location ++ [name]) = first.content? (location ++ [name]))
    (read : first.read (path.child name) = .ok content) :
    second.read (path.child name) = .ok content := by
  obtain ⟨target, required, there⟩ := read_eq_ok_iff.1 read
  obtain rfl := opens.eq_of_require_child isName required
  have also := content?_eq_some_iff.1 (held.trans (content?_eq_some_iff.2 there))
  exact read_eq_ok_iff.2 ⟨_, (same.require_child opens isName).trans required, also⟩

end SameDirectories

/-- The names in a directory of a tree that has less are those that it has. -/
theorem names_eq_filter (firstFormed : first.WellFormed) (secondFormed : second.WellFormed)
    {kept : Text → Bool}
    (held : ∀ name, second.node? (location ++ [name]) ≠ none ↔
      first.node? (location ++ [name]) ≠ none ∧ kept name = true) :
    second.names location = (first.names location).filter kept := by
  have sorted : ∀ tree : FileTree, (tree.names location).Pairwise
      fun name later => Text.lessEqual name later = true :=
    fun tree => Text.pairwise_sort _
  apply Text.eq_of_sorted (sorted second) ((sorted first).sublist List.filter_sublist)
    (secondFormed.nodup_names location)
    ((firstFormed.nodup_names location).sublist List.filter_sublist)
  intro name
  rw [secondFormed.mem_names, List.mem_filter, firstFormed.mem_names, held]

theorem names_eq (firstFormed : first.WellFormed) (secondFormed : second.WellFormed)
    (same : ∀ name, second.node? (location ++ [name]) = first.node? (location ++ [name])) :
    second.names location = first.names location := by
  have all : second.names location = (first.names location).filter fun _ => true := by
    apply names_eq_filter firstFormed secondFormed
    intro name
    rw [same, and_iff_left rfl]
  rwa [List.filter_true] at all

end FileTree

end StaticSite
