import StaticSite.Proofs.FileTree.Contents

/-!
# Trees that agree outside a location

Two trees may hold the same everywhere but at and below one location.  A path that nowhere leads
there leads to the same place in both, and finds the same.
-/

namespace StaticSite

/-- Along a path nothing at or below a location is entered. -/
def Path.Avoids (path : Path) (here location : List Text) : Prop :=
  ∀ parts, parts <+: path.parts → ¬ location <+: Path.resolve here ⟨path.anchor, parts⟩

namespace Path

variable {path : Path} {here location : List Text} {name : Text} {names : List Text}

theorem Avoids.resolve (avoids : path.Avoids here location) :
    ¬ location <+: path.resolve here :=
  avoids path.parts (List.prefix_refl _)

theorem Avoids.extend (avoids : path.Avoids here location)
    (areNames : ∀ name ∈ names, IsName name)
    (apart : ∀ inner, inner <+: names → ¬ location <+: path.resolve here ++ inner) :
    (path.extend names).Avoids here location := by
  intro parts inside
  by_cases early : parts <+: path.parts
  · exact avoids parts early
  · obtain ⟨inner, rfl⟩ : ∃ inner, parts = path.parts ++ inner := by
      have both := List.prefix_or_prefix_of_prefix inside (List.prefix_append path.parts names)
      obtain ⟨inner, whole⟩ := both.resolve_left early
      exact ⟨inner, whole.symm⟩
    have within : inner <+: names := (List.prefix_append_right_inj _).1 inside
    have plain : ∀ name ∈ inner, IsName name := fun name member =>
      areNames name (within.subset member)
    have resolved : Path.resolve here ⟨path.anchor, path.parts ++ inner⟩ =
        path.resolve here ++ inner := resolve_extend here path plain
    show ¬ location <+: Path.resolve here ⟨path.anchor, path.parts ++ inner⟩
    rw [resolved]
    exact apart inner within

/-- What leads from a path into a directory beside a location avoids it as well. -/
theorem Avoids.beside (avoids : path.Avoids here location) (isName : IsName name)
    (apart : ∀ inner, ¬ location <+: path.resolve here ++ name :: inner)
    (areNames : ∀ name ∈ names, IsName name) :
    (path.extend (name :: names)).Avoids here location := by
  apply avoids.extend (by simpa using ⟨isName, areNames⟩)
  intro inner within
  cases inner with
  | nil => simpa using avoids.resolve
  | cons other inner =>
      obtain ⟨rfl, -⟩ := List.cons_prefix_cons.1 within
      exact apart inner

end Path

namespace FileTree

/-- Two trees with one current directory that hold the same, but for what is at or below a
location. -/
structure AgreeOutside (location : Location) (first second : FileTree) : Prop where
  here : second.here = first.here
  node?_eq : ∀ other, ¬ location <+: other → second.node? other = first.node? other

variable {tree first second : FileTree} {location place target : Location} {path : Path}
  {name : Text}

theorem AgreeOutside.symm (agree : AgreeOutside location first second) :
    AgreeOutside location second first :=
  ⟨agree.here.symm, fun other outside => (agree.node?_eq other outside).symm⟩

/-- What leads through directories of a tree without any at or below a location avoids it. -/
theorem avoids_of_opens (opens : tree.Opens path place)
    (bare : ∀ other, location <+: other → tree.node? other ≠ some .directory) :
    path.Avoids tree.here location := by
  have led := (locate_eq_ok_iff.1 (require_eq_ok_iff.1 opens.1).2).2
  intro parts inside below
  obtain ⟨rest, whole⟩ := inside
  rw [← whole, follow_append] at led
  cases early : tree.follow (if path.anchor = .here then tree.here else []) parts with
  | error refusal =>
      rw [early] at led
      cases led
  | ok middle =>
      rw [early] at led
      have later : tree.follow middle rest = .ok place := led
      have passed := normalize_of_follow early
      apply bare middle (passed ▸ below)
      cases rest with
      | nil =>
          obtain rfl : middle = place := Except.ok.inj later
          exact opens.2
      | cons part rest =>
          -- A path goes on only in a directory.
          simp only [follow] at later
          split at later
          · cases later
          · cases later
          · assumption

namespace AgreeOutside

variable (agree : AgreeOutside location first second)
include agree

theorem follow_eq (start : Location) {parts : List Text}
    (avoids : ∀ early, early <+: parts → ¬ location <+: Path.normalize start early) :
    second.follow start parts = first.follow start parts := by
  induction parts generalizing start with
  | nil => rfl
  | cons part parts ih =>
      have same := agree.node?_eq start (avoids [] List.nil_prefix)
      have later : ∀ middle, (∀ rest, Path.normalize middle rest = Path.normalize start (part :: rest)) →
          second.follow middle parts = first.follow middle parts := by
        intro middle steps
        apply ih
        intro early inside
        rw [steps]
        exact avoids (part :: early) (List.cons_prefix_cons.2 ⟨rfl, inside⟩)
      simp only [follow, same]
      split
      · rfl
      · rfl
      · split
        · next here => exact later _ fun rest => by simp [Path.normalize, here]
        · next notHere =>
            split
            · next above => exact later _ fun rest => by simp [Path.normalize, above]
            · next notAbove =>
                split
                · rfl
                · exact later _ fun rest => by simp [Path.normalize, notHere, notAbove]

theorem locate_eq (avoids : path.Avoids first.here location) :
    second.locate path = first.locate path := by
  unfold locate
  rw [agree.here, agree.follow_eq (if path.anchor = .here then first.here else []) avoids]

/-- The last component of a path need not avoid the location. -/
theorem locate_child_eq (avoids : path.Avoids first.here location) :
    second.locate (path.child name) = first.locate (path.child name) := by
  have start : ∀ tree : FileTree, tree.follow
      (if (path.child name).anchor = .here then tree.here else []) (path.child name).parts =
        (tree.follow (if path.anchor = .here then tree.here else []) path.parts).bind
          fun middle => tree.follow middle [name] :=
    fun tree => follow_append path.parts [name]
  have early := agree.follow_eq (if path.anchor = .here then first.here else []) avoids
  unfold locate
  rw [start, start, agree.here, early]
  cases led : first.follow (if path.anchor = .here then first.here else []) path.parts with
  | error refusal => rfl
  | ok middle =>
      have outside : ¬ location <+: middle := normalize_of_follow led ▸ avoids.resolve
      simp only [Except.bind, follow, agree.node?_eq middle outside]

theorem require_eq (avoids : path.Avoids first.here location) :
    second.require path = first.require path := by
  unfold FileTree.require
  rw [agree.locate_eq avoids]

theorem require_child_eq (avoids : path.Avoids first.here location) :
    second.require (path.child name) = first.require (path.child name) := by
  unfold FileTree.require
  rw [agree.locate_child_eq avoids]

theorem node?_eq_of_require (avoids : path.Avoids first.here location)
    (led : first.require path = .ok place) : second.node? place = first.node? place :=
  agree.node?_eq place (eq_resolve_of_require led ▸ avoids.resolve)

theorem probe_eq (avoids : path.Avoids first.here location) :
    second.probe path = first.probe path := by
  unfold probe
  rw [agree.locate_eq avoids]
  cases noNull : hasNull path with
  | true => rfl
  | false =>
      cases led : first.locate path with
      | error refusal => cases refusal <;> rfl
      | ok middle =>
          have same := agree.node?_eq_of_require avoids (require_eq_ok_iff.2 ⟨noNull, led⟩)
          simp only [same]

theorem isDirectory_eq (avoids : path.Avoids first.here location) :
    second.isDirectory path = first.isDirectory path := by
  rw [isDirectory, isDirectory, agree.probe_eq avoids]

theorem isFile_eq (avoids : path.Avoids first.here location) :
    second.isFile path = first.isFile path := by
  rw [isFile, isFile, agree.probe_eq avoids]

theorem exists?_eq (avoids : path.Avoids first.here location) :
    second.exists? path = first.exists? path := by
  rw [exists?, exists?, agree.probe_eq avoids]

theorem read_eq (avoids : path.Avoids first.here location) :
    second.read path = first.read path := by
  unfold FileTree.read
  rw [agree.require_eq avoids]
  cases led : first.require path with
  | error fault => rfl
  | ok middle => simp only [bind, Except.bind, agree.node?_eq_of_require avoids led]

theorem opens (avoids : path.Avoids first.here location) (opened : first.Opens path place) :
    second.Opens path place :=
  ⟨(agree.require_eq avoids).trans opened.1,
    (agree.node?_eq_of_require avoids opened.1).trans opened.2⟩

/-- A directory has the same names in both trees, unless the location is one of its children. -/
theorem children_eq (firstFormed : first.WellFormed) (secondFormed : second.WellFormed)
    (avoids : path.Avoids first.here location) (opened : first.Opens path place)
    (apart : ∀ name, ¬ location <+: place ++ [name]) :
    second.children path = first.children path := by
  have names : second.names place = first.names place :=
    names_eq firstFormed secondFormed fun name => agree.node?_eq _ (apart name)
  rw [opened.children_eq, (agree.opens avoids opened).children_eq, names]

end AgreeOutside

end FileTree

end StaticSite
