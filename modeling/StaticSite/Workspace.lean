import StaticSite.FileTree

/-!
# Workspaces

A workspace is what a command works on: a file tree, the programs that it can start, and what
it has printed.  Every change of the files is one edit and is written down in a journal, so
that each state between two edits can be told afterwards.  An action may fail and keeps what
it has changed until then.
-/

namespace StaticSite

/-- A piece of printed text. -/
inductive Printed where
  | text (text : Text)
  /-- The seconds that the last build took, with two decimals; only a clock knows them. -/
  | elapsed
  deriving DecidableEq, Repr

/-- What a command works on. -/
structure Workspace where
  files : FileTree
  /-- The names of the programs that can be started. -/
  programs : List Text := []
  /-- What the converter of documents makes of a text: its output, or its exit status. -/
  convert : Text → Except Nat Text := fun _ => .error 1
  /-- The time that a file written now is given. -/
  clock : Int := 0
  printed : List Printed := []
  /-- What has been printed as a fault. -/
  reported : Text := []
  /-- The changes of the files, from the last to the first. -/
  journal : List Edit := []

/-- A step that works on a workspace and may fail. -/
abbrev Action := ExceptT Fault (StateM Workspace)

namespace Action

def perform {α : Type} (action : Action α) (workspace : Workspace) : Except Fault α × Workspace :=
  ExceptT.run action workspace

def inspect {α : Type} (question : FileTree → Except Fault α) : Action α := do
  match question (← get).files with
  | .ok answer => return answer
  | .error fault => throw fault

/-- Answer with a value that is known already, or fail. -/
def ofExcept {α : Type} : Except Fault α → Action α
  | .ok value => pure value
  | .error fault => throw fault

/-- Make one change of the files and write it down. -/
def commit (edit : Edit) : Action Unit :=
  modify fun workspace =>
    { workspace with
      files := workspace.files.apply edit
      journal := edit :: workspace.journal }

def print (line : Text) : Action Unit :=
  modify fun workspace =>
    { workspace with printed := workspace.printed ++ [.text (line ++ ['\n'])] }

/-- Print pieces without a line end. -/
def printPieces (pieces : List Printed) : Action Unit :=
  modify fun workspace => { workspace with printed := workspace.printed ++ pieces }

/-- Print a line about a fault. -/
def report (line : Text) : Action Unit :=
  modify fun workspace => { workspace with reported := workspace.reported ++ line ++ ['\n'] }

/-- Write a file whose directory exists. -/
def writeBytes (path : Path) (content : Bytes) : Action Unit := do
  let location ← inspect (·.require path)
  match (← get).files.node? location with
  | some .directory => throw (.refused .isDirectory path.text)
  | _ => commit (.write location content (← get).clock)

def makeDirectory (path : Path) : Action Unit := do
  let location ← inspect (·.require path)
  match (← get).files.node? location with
  | some _ => throw (.refused .exists path.text)
  | none => commit (.makeDirectory location)

/-- Make a directory unless it exists. -/
def ensureDirectory (path : Path) : Action Unit := do
  try makeDirectory path
  catch fault =>
    match fault with
    | .file _ => if ← inspect (·.isDirectory path) then pure () else throw fault
    | _ => throw fault

/-- Make the directories along a path, whose components are given from the last to the
first, as far as they are missing. -/
def makeDirectoriesAlong (anchor : Anchor) : List Text → Action Unit
  | [] => ensureDirectory ⟨anchor, []⟩
  | part :: before => do
    let path : Path := ⟨anchor, (part :: before).reverse⟩
    try makeDirectory path
    catch fault =>
      match fault with
      | .file (.refused .missing _) =>
        makeDirectoriesAlong anchor before
        ensureDirectory path
      | .file _ => if ← inspect (·.isDirectory path) then pure () else throw fault
      | _ => throw fault

/-- Make a directory and those that lead to it, as far as they are missing. -/
def makeDirectories (path : Path) : Action Unit :=
  makeDirectoriesAlong path.anchor path.parts.reverse

/-- Write a text to a file, and make its directory if needed. -/
def writeText (path : Path) (text : Text) : Action Unit := do
  makeDirectories path.parent
  writeBytes path (Utf8.encode text)

/-- Read a file as a text, with one kind of line end. -/
def readText (path : Path) : Action Text := do
  match Utf8.decode (← inspect (·.read path)) with
  | .ok text => return Text.unifyLineEnds text
  | .error (flaw, offset) => throw (.parse (.encoding flaw offset) ⟨some path.text, none, none⟩)

/-- Read a file as a text; a byte order mark at its beginning is left out. -/
def readMarkedText (path : Path) : Action Text := do
  match Utf8.decode (Utf8.dropByteOrderMark (← inspect (·.read path))) with
  | .ok text => return Text.unifyLineEnds text
  | .error (flaw, offset) => throw (.parse (.encoding flaw offset) ⟨some path.text, none, none⟩)

def removeFile (path : Path) : Action Unit := do
  let location ← inspect (·.require path)
  match (← get).files.node? location with
  | some (.file _ _) => commit (.remove location)
  | some .directory => throw (.refused .isDirectory path.text)
  | none => throw (.refused .missing path.text)

/-- Make changes one after the other. -/
def commitAll : List Edit → Action Unit
  | [] => return
  | edit :: edits => do
    commit edit
    commitAll edits

/-- The changes that remove what is strictly below a location, what is deeper first. -/
def removalsBelow (files : FileTree) (location : Location) : List Edit :=
  let deeperFirst := (files.entriesBelow location).mergeSort fun first second =>
    second.1.length ≤ first.1.length
  deeperFirst.map fun entry => .remove (location ++ entry.1)

/-- Remove a directory with all that it holds.  The path has to lead there still when the
directory itself is removed. -/
def removeTree (path : Path) : Action Unit := do
  let location ← inspect (·.require path)
  match (← get).files.node? location with
  | none => throw (.refused .missing path.text)
  | some (.file _ _) => throw (.refused .notDirectory path.text)
  | some .directory =>
    commitAll (removalsBelow (← get).files location)
    let again ← inspect (·.require path)
    if path.name = ['.', '.'] then throw (.refused .notEmpty path.text)
    else commit (.remove again)

/-- The changes that make a copy of entries at a location, directories before what they
hold. -/
def copies (target : Location) (entries : List (List Text × Node)) : List Edit :=
  let shallowFirst := entries.mergeSort fun first second => first.1.length ≤ second.1.length
  shallowFirst.map fun
    | (parts, .file content modified) => .write (target ++ parts) content modified
    | (parts, .directory) => .makeDirectory (target ++ parts)

/-- Copy a directory with all that it holds to a place where nothing is yet.  Directories
that lead there are made; copies keep the times of change. -/
def copyTree (source target : Path) : Action Unit := do
  let location ← inspect (·.require source)
  let entries := (← get).files.entriesBelow location
  unless ← inspect (·.exists? target.parent) do makeDirectories target.parent
  makeDirectory target
  let copied ← inspect (·.require target)
  commitAll (copies copied entries)

end Action

end StaticSite
