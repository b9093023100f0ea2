import StaticSite.Fault
import StaticSite.Path

/-!
# File trees

A file tree maps the absolute locations of files and directories to what is there, and has a
current directory.  Looking a path up goes through its components one by one: each has to be
a directory for the next one to have a meaning, so `..` leads where the tree says.
-/

namespace StaticSite

/-- The absolute components of a place in a file tree, from the root. -/
abbrev Location := List Text

/-- What a location holds. -/
inductive Node where
  /-- A file with its content and the time at which it was changed last. -/
  | file (content : Bytes) (modified : Int)
  | directory
  deriving DecidableEq, Repr

/-- Files and directories by their locations, and a current directory. -/
structure FileTree where
  here : Location
  entries : List (Location × Node)
  deriving DecidableEq, Repr

/-- One change of a file tree. -/
inductive Edit where
  | write (location : Location) (content : Bytes) (modified : Int)
  | makeDirectory (location : Location)
  | remove (location : Location)
  deriving DecidableEq, Repr

def Edit.location : Edit → Location
  | .write location _ _ => location
  | .makeDirectory location => location
  | .remove location => location

namespace FileTree

def lookup (location : Location) : List (Location × Node) → Option Node
  | [] => none
  | (candidate, node) :: rest => if candidate = location then some node else lookup location rest

/-- Replace the node of a location among entries, or add it at the end. -/
def setEntry (location : Location) (node : Node) : List (Location × Node) → List (Location × Node)
  | [] => [(location, node)]
  | (candidate, old) :: rest =>
    if candidate = location then (candidate, node) :: rest
    else (candidate, old) :: setEntry location node rest

/-- What a location holds.  The root is always a directory. -/
def node? (tree : FileTree) (location : Location) : Option Node :=
  if location = [] then some .directory else lookup location tree.entries

def set (tree : FileTree) (location : Location) (node : Node) : FileTree :=
  { tree with entries := setEntry location node tree.entries }

/-- Let a location hold nothing. -/
def erase (tree : FileTree) (location : Location) : FileTree :=
  { tree with entries := tree.entries.filter fun entry => entry.1 ≠ location }

def apply (tree : FileTree) : Edit → FileTree
  | .write location content modified => tree.set location (.file content modified)
  | .makeDirectory location => tree.set location .directory
  | .remove location => tree.erase location

theorem lookup_setEntry (location other : Location) (node : Node)
    (entries : List (Location × Node)) :
    lookup other (setEntry location node entries) =
      if other = location then some node else lookup other entries := by
  induction entries with
  | nil =>
      by_cases same : other = location
      · simp [setEntry, lookup, same]
      · simp [setEntry, lookup, same, Ne.symm same]
  | cons entry rest ih =>
      obtain ⟨candidate, old⟩ := entry
      by_cases here : candidate = location
      · subst here
        by_cases same : other = candidate
        · simp [setEntry, lookup, same]
        · simp [setEntry, lookup, same, Ne.symm same]
      · by_cases found : candidate = other
        · subst found
          simp [setEntry, lookup, here]
        · simp [setEntry, lookup, here, found, ih]

theorem lookup_filter_ne (location other : Location) (entries : List (Location × Node)) :
    lookup other (entries.filter fun entry => entry.1 ≠ location) =
      if other = location then none else lookup other entries := by
  induction entries with
  | nil => simp [lookup]
  | cons entry rest ih =>
      obtain ⟨candidate, node⟩ := entry
      by_cases here : candidate = location
      · rw [List.filter_cons_of_neg (by simpa using here), ih]
        by_cases same : other = location
        · simp [same]
        · simp [lookup, same, here, Ne.symm same]
      · rw [List.filter_cons_of_pos (by simpa using here)]
        by_cases found : candidate = other
        · subst found
          simp [lookup, here]
        · simp only [lookup, found, if_false, ih]

/-- The longest name of a component, in octets. -/
def longestName : Nat := 255

/-- The longest written path, in octets. -/
def longestPath : Nat := 4095

/-- Whether a text contains the null character, which no path can have. -/
def hasNull (path : Path) : Bool := path.parts.any fun part => '\x00' ∈ part

/-- Follow components from a location.  The last one need not exist. -/
def follow (tree : FileTree) (location : Location) :
    List Text → Except FileRefusal Location
  | [] => .ok location
  | part :: parts =>
    match tree.node? location with
    | none => .error .missing
    | some (.file _ _) => .error .notDirectory
    | some .directory =>
      if part = ['.'] then follow tree location parts
      else if part = ['.', '.'] then follow tree location.dropLast parts
      else if longestName < (Utf8.encode part).length then .error .nameTooLong
      else follow tree (location ++ [part]) parts

def locate (tree : FileTree) (path : Path) : Except FileRefusal Location :=
  if longestPath < (Utf8.encode path.text).length then .error .nameTooLong
  else follow tree (if path.anchor = .here then tree.here else []) path.parts

/-- What is at a path.  A path that leads nowhere has nothing; a name that is too long is a
fault even here. -/
def probe (tree : FileTree) (path : Path) : Except Fault (Option Node) :=
  if hasNull path then .ok none
  else
    match tree.locate path with
    | .ok location => .ok (tree.node? location)
    | .error .nameTooLong => .error (.refused .nameTooLong path.text)
    | .error _ => .ok none

def exists? (tree : FileTree) (path : Path) : Except Fault Bool :=
  (tree.probe path).map Option.isSome

def isDirectory (tree : FileTree) (path : Path) : Except Fault Bool :=
  (tree.probe path).map (· == some .directory)

def isFile (tree : FileTree) (path : Path) : Except Fault Bool :=
  (tree.probe path).map fun
    | some (.file _ _) => true
    | _ => false

def require (tree : FileTree) (path : Path) : Except Fault Location :=
  if hasNull path then .error (.value "embedded null byte")
  else
    match tree.locate path with
    | .ok location => .ok location
    | .error refusal => .error (.refused refusal path.text)

def read (tree : FileTree) (path : Path) : Except Fault Bytes := do
  match tree.node? (← tree.require path) with
  | some (.file content _) => return content
  | some .directory => throw (.refused .isDirectory path.text)
  | none => throw (.refused .missing path.text)

def namesIn (location : Location) (entries : List (Location × Node)) : List Text :=
  entries.filterMap fun (candidate, _) =>
    if candidate.dropLast = location then candidate.getLast? else none

/-- The paths of what a directory holds, in the order of their names. -/
def children (tree : FileTree) (path : Path) : Except Fault (List Path) := do
  let location ← tree.require path
  match tree.node? location with
  | some .directory => return (Text.sort (namesIn location tree.entries)).map path.child
  | some (.file _ _) => throw (.refused .notDirectory path.text)
  | none => throw (.refused .missing path.text)

/-- The entries strictly below a location, each with its components from there on. -/
def entriesBelow (tree : FileTree) (location : Location) : List (List Text × Node) :=
  tree.entries.filterMap fun (candidate, node) =>
    if location.isPrefixOf candidate ∧ location.length < candidate.length then
      some (candidate.drop location.length, node)
    else none

/-- The files below a directory with their times of change; a path that is no directory has
none. -/
def filesBelow (tree : FileTree) (path : Path) : Except Fault (List (Path × Int)) := do
  match ← tree.probe path with
  | some .directory =>
    let location ← tree.require path
    return (tree.entriesBelow location).filterMap fun
      | (parts, .file _ modified) => some (⟨path.anchor, path.parts ++ parts⟩, modified)
      | (_, .directory) => none
  | _ => return []

/-- An upper bound of the number of components of the locations that hold something. -/
def depth (tree : FileTree) : Nat :=
  tree.entries.foldl (fun deepest entry => max deepest entry.1.length) 0

end FileTree

end StaticSite
