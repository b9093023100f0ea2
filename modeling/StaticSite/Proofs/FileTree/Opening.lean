import StaticSite.Proofs.Fault
import StaticSite.Proofs.FileTree.WellFormed

/-!
# Paths that lead somewhere

Where a path leads depends on its components and on which locations are directories, and on
nothing else.  So a path still leads where it led as long as the directories stay the same.
-/

namespace StaticSite

namespace FileTree

variable {tree first second third : FileTree} {location target : Location} {path : Path}
  {name : Text} {content : Bytes} {modified : Int}

theorem follow_append (before after : List Text) :
    tree.follow location (before ++ after) =
      (tree.follow location before).bind fun middle => tree.follow middle after := by
  induction before generalizing location with
  | nil => rfl
  | cons part before ih =>
      simp only [List.cons_append, follow]
      split
      · rfl
      · rfl
      · split
        · exact ih
        · split
          · exact ih
          · split
            · rfl
            · exact ih

/-- A path leads where its components say by their names alone. -/
theorem normalize_of_follow {parts : List Text} (led : tree.follow location parts = .ok target) :
    target = Path.normalize location parts := by
  induction parts generalizing location with
  | nil =>
      simp only [follow, Except.ok.injEq] at led
      exact led.symm
  | cons part parts ih =>
      simp only [follow] at led
      simp only [Path.normalize]
      split at led
      · cases led
      · cases led
      · split at led
        · next here => simpa [here] using ih led
        · next notHere =>
            split at led
            · next above => simpa [above] using ih led
            · next notAbove =>
                split at led
                · cases led
                · simpa [notHere, notAbove] using ih led

theorem follow_name (directory : tree.node? location = some .directory) (isName : IsName name) :
    tree.follow location [name] =
      if longestName < (Utf8.encode name).length then .error .nameTooLong
      else .ok (location ++ [name]) := by
  simp only [follow, directory, if_neg isName.2.1, if_neg isName.2.2.1]

theorem require_eq_ok_iff :
    tree.require path = .ok location ↔
      hasNull path = false ∧ tree.locate path = .ok location := by
  unfold require
  cases hasNull path with
  | true => simp
  | false => cases tree.locate path <;> simp

theorem locate_eq_ok_iff :
    tree.locate path = .ok location ↔
      (Utf8.encode path.text).length ≤ longestPath ∧
        tree.follow (if path.anchor = .here then tree.here else []) path.parts = .ok location := by
  unfold locate
  split
  · next long =>
      constructor
      · intro led
        cases led
      · intro short
        omega
  · next short =>
      constructor
      · intro led
        exact ⟨by omega, led⟩
      · exact And.right

theorem eq_resolve_of_require (led : tree.require path = .ok location) :
    location = path.resolve tree.here :=
  normalize_of_follow (locate_eq_ok_iff.1 (require_eq_ok_iff.1 led).2).2

theorem probe_of_require (led : tree.require path = .ok location) :
    tree.probe path = .ok (tree.node? location) := by
  obtain ⟨noNull, located⟩ := require_eq_ok_iff.1 led
  simp [probe, noNull, located]

/-- A path leads to a location that is a directory. -/
def Opens (tree : FileTree) (path : Path) (location : Location) : Prop :=
  tree.require path = .ok location ∧ tree.node? location = some .directory

theorem opens_of_isDirectory (asked : tree.isDirectory path = .ok true) :
    ∃ location, tree.Opens path location := by
  unfold isDirectory probe at asked
  cases noNull : hasNull path with
  | true =>
      rw [noNull] at asked
      cases asked
  | false =>
      cases located : tree.locate path with
      | error refusal => cases refusal <;> simp [noNull, located, Except.map] at asked
      | ok location =>
          simp [noNull, located, Except.map] at asked
          exact ⟨location, require_eq_ok_iff.2 ⟨noNull, located⟩, asked⟩

theorem hasFile_of_isFile (asked : tree.isFile path = .ok true) :
    ∃ location, tree.require path = .ok location ∧ tree.HasFile location := by
  unfold isFile probe at asked
  cases noNull : hasNull path with
  | true =>
      rw [noNull] at asked
      cases asked
  | false =>
      cases located : tree.locate path with
      | error refusal => cases refusal <;> simp [noNull, located, Except.map] at asked
      | ok location =>
          refine ⟨location, require_eq_ok_iff.2 ⟨noNull, located⟩, ?_⟩
          simp only [noNull, located, Except.map] at asked
          rcases held : tree.node? location with _ | ⟨content, modified⟩ | _
          · simp [held] at asked
          · exact ⟨content, modified, held⟩
          · simp [held] at asked

theorem read_eq_ok_iff :
    tree.read path = .ok content ↔ ∃ location, tree.require path = .ok location ∧
      ∃ modified, tree.node? location = some (.file content modified) := by
  unfold FileTree.read
  rw [bind_eq_ok_iff]
  refine exists_congr fun location => and_congr_right fun _ => ?_
  rcases tree.node? location with _ | ⟨held, time⟩ | _
  · exact iff_of_false nofun nofun
  · simp [pure, Except.pure]
  · exact iff_of_false nofun nofun

theorem read_of_file (required : tree.require path = .ok location)
    (file : tree.node? location = some (.file content modified)) :
    tree.read path = .ok content :=
  read_eq_ok_iff.2 ⟨location, required, modified, file⟩

theorem isFile_of_file (required : tree.require path = .ok location)
    (file : tree.node? location = some (.file content modified)) :
    tree.isFile path = .ok true := by
  rw [isFile, probe_of_require required, file]
  rfl

theorem isDirectory_of_file (required : tree.require path = .ok location)
    (file : tree.node? location = some (.file content modified)) :
    tree.isDirectory path = .ok false := by
  rw [isDirectory, probe_of_require required, file]
  rfl

theorem isDirectory_of_opens (opens : tree.Opens path location) :
    tree.isDirectory path = .ok true := by
  rw [FileTree.isDirectory, probe_of_require opens.1, opens.2]
  rfl

theorem hasNull_child (directory : Path) (isName : IsName name) :
    hasNull (directory.child name) = hasNull directory := by
  simp [hasNull, Path.child, isName.2.2.2.2]

/-- From a directory that opens, a name leads to what the directory has under it, if it is
not too long. -/
theorem Opens.locate_child (opens : tree.Opens path location) (isName : IsName name) :
    tree.locate (path.child name) = .ok (location ++ [name]) ∨
      tree.locate (path.child name) = .error .nameTooLong := by
  have followed := (locate_eq_ok_iff.1 (require_eq_ok_iff.1 opens.1).2).2
  unfold locate
  split
  · exact Or.inr rfl
  · have led : tree.follow
        (if (path.child name).anchor = .here then tree.here else []) (path.child name).parts =
          tree.follow location [name] := by
      show tree.follow (if path.anchor = .here then tree.here else []) (path.parts ++ [name]) = _
      rw [follow_append, followed]
      rfl
    rw [led, follow_name opens.2 isName]
    split
    · exact Or.inr rfl
    · exact Or.inl rfl

theorem Opens.eq_of_require_child (opens : tree.Opens path location) (isName : IsName name)
    (led : tree.require (path.child name) = .ok target) : target = location ++ [name] := by
  have located := (require_eq_ok_iff.1 led).2
  rcases opens.locate_child isName with found | long
  · rw [found, Except.ok.injEq] at located
    exact located.symm
  · rw [long] at located
    cases located

theorem Opens.probe_child (opens : tree.Opens path location) (isName : IsName name)
    {found : Option Node} (probed : tree.probe (path.child name) = .ok found) :
    tree.require (path.child name) = .ok (location ++ [name]) ∧
      found = tree.node? (location ++ [name]) := by
  have noNull : hasNull (path.child name) = false := by
    rw [hasNull_child path isName]
    exact (require_eq_ok_iff.1 opens.1).1
  rcases opens.locate_child isName with led | long
  · have required := require_eq_ok_iff.2 ⟨noNull, led⟩
    rw [probe_of_require required, Except.ok.injEq] at probed
    exact ⟨required, probed.symm⟩
  · simp [probe, noNull, long] at probed

theorem Opens.isDirectory_child (opens : tree.Opens path location) (isName : IsName name)
    {answer : Bool} (asked : tree.isDirectory (path.child name) = .ok answer) :
    tree.require (path.child name) = .ok (location ++ [name]) ∧
      (answer = true ↔ tree.node? (location ++ [name]) = some .directory) := by
  unfold isDirectory at asked
  cases probed : tree.probe (path.child name) with
  | error fault => simp [probed, Except.map] at asked
  | ok found =>
      obtain ⟨required, rfl⟩ := opens.probe_child isName probed
      rw [probed] at asked
      cases asked
      simp [required]

theorem Opens.isFile_child (opens : tree.Opens path location) (isName : IsName name)
    {answer : Bool} (asked : tree.isFile (path.child name) = .ok answer) :
    tree.require (path.child name) = .ok (location ++ [name]) ∧
      (answer = true ↔ tree.HasFile (location ++ [name])) := by
  unfold isFile at asked
  cases probed : tree.probe (path.child name) with
  | error fault => simp [probed, Except.map] at asked
  | ok found =>
      obtain ⟨required, rfl⟩ := opens.probe_child isName probed
      rw [probed] at asked
      refine ⟨required, ?_⟩
      cases there : tree.node? (location ++ [name]) with
      | none =>
          rw [there] at asked
          cases asked
          simp [HasFile, there]
      | some node =>
          rw [there] at asked
          cases node with
          | file content modified =>
              cases asked
              simp [HasFile, there]
          | directory =>
              cases asked
              simp [HasFile, there]

/-- A name that is not too long leads on from a directory that opens. -/
theorem Opens.require_child (opens : tree.Opens path location) (isName : IsName name)
    (short : (Utf8.encode name).length ≤ longestName)
    (fits : (Utf8.encode (path.child name).text).length ≤ longestPath) :
    tree.require (path.child name) = .ok (location ++ [name]) := by
  obtain ⟨noNull, located⟩ := require_eq_ok_iff.1 opens.1
  refine require_eq_ok_iff.2 ⟨(hasNull_child path isName).trans noNull, locate_eq_ok_iff.2 ⟨fits, ?_⟩⟩
  show tree.follow (if path.anchor = .here then tree.here else []) (path.parts ++ [name]) = _
  rw [follow_append, (locate_eq_ok_iff.1 located).2]
  show tree.follow location [name] = _
  rw [follow_name opens.2 isName, if_neg (by omega)]

/-- A path with a name leads somewhere only if the path before it opens a directory. -/
theorem opens_of_require_child (isName : IsName name)
    (led : tree.require (path.child name) = .ok target) :
    ∃ location, tree.Opens path location ∧ target = location ++ [name] := by
  obtain ⟨noNull, located⟩ := require_eq_ok_iff.1 led
  obtain ⟨short, followed⟩ := locate_eq_ok_iff.1 located
  rw [hasNull_child path isName] at noNull
  have shorter := Path.length_encode_text_le path isName.1
  have parted : tree.follow (if path.anchor = .here then tree.here else [])
      (path.parts ++ [name]) = .ok target := followed
  rw [follow_append] at parted
  cases before : tree.follow (if path.anchor = .here then tree.here else []) path.parts with
  | error refusal =>
      rw [before] at parted
      cases parted
  | ok location =>
      rw [before] at parted
      have last : tree.follow location [name] = .ok target := parted
      have directory : tree.node? location = some .directory := by
        simp only [follow] at last
        split at last
        · cases last
        · cases last
        · assumption
      have required : tree.require path = .ok location :=
        require_eq_ok_iff.2 ⟨noNull, locate_eq_ok_iff.2 ⟨by omega, before⟩⟩
      have opens : tree.Opens path location := ⟨required, directory⟩
      exact ⟨location, opens, opens.eq_of_require_child isName led⟩

/-- Two trees with the same directories and the same current one. -/
structure SameDirectories (first second : FileTree) : Prop where
  here : second.here = first.here
  directory_iff : ∀ location,
    second.node? location = some .directory ↔ first.node? location = some .directory

theorem SameDirectories.refl (tree : FileTree) : SameDirectories tree tree :=
  ⟨rfl, fun _ => Iff.rfl⟩

theorem SameDirectories.symm (same : SameDirectories first second) :
    SameDirectories second first :=
  ⟨same.here.symm, fun location => (same.directory_iff location).symm⟩

theorem SameDirectories.trans (one : SameDirectories first second)
    (two : SameDirectories second third) : SameDirectories first third :=
  ⟨two.here.trans one.here,
    fun location => (two.directory_iff location).trans (one.directory_iff location)⟩

theorem follow_of_directories
    (kept : ∀ location, first.node? location = some .directory →
      second.node? location = some .directory) {parts : List Text}
    (led : first.follow location parts = .ok target) :
    second.follow location parts = .ok target := by
  induction parts generalizing location with
  | nil => exact led
  | cons part parts ih =>
      simp only [follow] at led ⊢
      split at led
      · cases led
      · cases led
      · next directory =>
          rw [kept _ directory]
          split at led
          · next here => simpa [here] using ih led
          · next notHere =>
              split at led
              · next above => simpa [above, notHere] using ih led
              · next notAbove =>
                  split at led
                  · cases led
                  · next short => simpa [notHere, notAbove, short] using ih led

/-- A path still leads where it led if no directory is gone. -/
theorem require_of_directories (here : second.here = first.here)
    (kept : ∀ location, first.node? location = some .directory →
      second.node? location = some .directory)
    (led : first.require path = .ok location) : second.require path = .ok location := by
  obtain ⟨noNull, located⟩ := require_eq_ok_iff.1 led
  obtain ⟨short, followed⟩ := locate_eq_ok_iff.1 located
  refine require_eq_ok_iff.2 ⟨noNull, locate_eq_ok_iff.2 ⟨short, ?_⟩⟩
  rw [here]
  exact follow_of_directories kept followed

theorem SameDirectories.require (same : SameDirectories first second)
    (led : first.require path = .ok location) : second.require path = .ok location :=
  require_of_directories same.here (fun location => (same.directory_iff location).2) led

theorem SameDirectories.opens (same : SameDirectories first second)
    (opens : first.Opens path location) : second.Opens path location :=
  ⟨same.require opens.1, (same.directory_iff location).2 opens.2⟩

theorem SameDirectories.set_file (within : location ≠ [])
    (file : tree.node? location ≠ some .directory) (content : Bytes) (modified : Int) :
    SameDirectories tree (tree.set location (.file content modified)) := by
  refine ⟨rfl, fun other => ?_⟩
  rw [node?_set within]
  split
  · next same => simp [same, file]
  · rfl

theorem SameDirectories.erase_file (within : location ≠ [])
    (file : tree.node? location ≠ some .directory) :
    SameDirectories tree (tree.erase location) := by
  refine ⟨rfl, fun other => ?_⟩
  rw [node?_erase within]
  split
  · next same => simp [same, file]
  · rfl

/-- No directory has more components than a number. -/
def NestedWithin (tree : FileTree) (limit : Nat) : Prop :=
  ∀ location, tree.node? location = some .directory → location.length ≤ limit

theorem SameDirectories.nestedWithin {limit : Nat} (same : SameDirectories first second)
    (nested : first.NestedWithin limit) : second.NestedWithin limit :=
  fun location directory => nested location ((same.directory_iff location).1 directory)

theorem le_foldl_max {entries : List (Location × Node)} (deepest : Nat) :
    deepest ≤ entries.foldl (fun deepest entry => max deepest entry.1.length) deepest ∧
      ∀ entry ∈ entries,
        entry.1.length ≤ entries.foldl (fun deepest entry => max deepest entry.1.length) deepest := by
  induction entries generalizing deepest with
  | nil => simp
  | cons entry rest ih =>
      obtain ⟨more, each⟩ := ih (max deepest entry.1.length)
      rw [List.foldl_cons]
      refine ⟨by omega, ?_⟩
      intro other member
      rcases List.mem_cons.1 member with rfl | later
      · omega
      · exact each other later

theorem nestedWithin_depth (tree : FileTree) : tree.NestedWithin tree.depth := by
  intro location directory
  by_cases root : location = []
  · simp [root]
  · exact (le_foldl_max 0).2 _ (mem_of_node? directory root)

/-- The names in a directory, in order. -/
def names (tree : FileTree) (location : Location) : List Text :=
  Text.sort (namesIn location tree.entries)

theorem opens_of_children {paths : List Path} (listed : tree.children path = .ok paths) :
    ∃ location, tree.Opens path location := by
  unfold children at listed
  obtain ⟨location, led, listed⟩ := bind_eq_ok_iff.1 listed
  split at listed
  · next held => exact ⟨location, led, held⟩
  · cases listed
  · cases listed

theorem Opens.children_eq (opens : tree.Opens path location) :
    tree.children path = .ok ((tree.names location).map path.child) := by
  unfold children
  simp only [opens.1, opens.2, bind, Except.bind, pure, Except.pure]
  rfl

theorem mem_namesIn {entries : List (Location × Node)} :
    name ∈ namesIn location entries ↔ ∃ node, (location ++ [name], node) ∈ entries := by
  unfold namesIn
  rw [List.mem_filterMap]
  constructor
  · rintro ⟨⟨candidate, node⟩, member, listed⟩
    simp only at listed
    split at listed
    · next parent =>
        obtain ⟨above, rfl⟩ := List.getLast?_eq_some_iff.1 listed
        obtain rfl : above = location := by simpa using parent
        exact ⟨node, member⟩
    · cases listed
  · rintro ⟨node, member⟩
    exact ⟨_, member, by simp⟩

theorem WellFormed.mem_names (wellFormed : tree.WellFormed) :
    name ∈ tree.names location ↔ tree.node? (location ++ [name]) ≠ none := by
  unfold names Text.sort
  rw [List.mem_mergeSort, mem_namesIn]
  constructor
  · rintro ⟨node, member⟩
    simp [wellFormed.node?_of_mem member (by simp)]
  · intro found
    obtain ⟨node, found⟩ := Option.ne_none_iff_exists'.1 found
    exact ⟨node, mem_of_node? found (by simp)⟩

theorem WellFormed.areNames (wellFormed : tree.WellFormed) (location : Location) :
    ∀ name ∈ tree.names location, IsName name := by
  intro name member
  exact wellFormed.isName (wellFormed.mem_names.1 member) (by simp)

theorem nodup_namesIn {entries : List (Location × Node)}
    (distinct : (entries.map Prod.fst).Nodup) : (namesIn location entries).Nodup := by
  induction entries with
  | nil => simp [namesIn]
  | cons entry rest ih =>
      rw [List.map_cons, List.nodup_cons] at distinct
      unfold namesIn at ih ⊢
      rw [List.filterMap_cons]
      split
      · exact ih distinct.2
      · next name listed =>
          refine List.nodup_cons.2 ⟨fun later => ?_, ih distinct.2⟩
          have here : entry.1 = location ++ [name] := by
            have only : name ∈ namesIn location [entry] := by
              unfold namesIn
              rw [List.filterMap_cons, listed]
              exact List.mem_cons_self
            obtain ⟨node, member⟩ := mem_namesIn.1 only
            rw [← List.mem_singleton.1 member]
          obtain ⟨node, member⟩ := mem_namesIn.1 later
          exact distinct.1 (here ▸ List.mem_map_of_mem member)

theorem WellFormed.nodup_names (wellFormed : tree.WellFormed) (location : Location) :
    (tree.names location).Nodup :=
  (List.mergeSort_perm _ _).nodup_iff.2 (nodup_namesIn wellFormed.distinct)

end FileTree

end StaticSite
