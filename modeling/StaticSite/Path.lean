import StaticSite.Text.Basic

/-!
# Paths

A path is a sequence of component names, from the current directory or from the root.
Components `.` and empty ones are dropped when a path is read; a component `..` is kept,
because only a file tree can say where it leads.
-/

namespace StaticSite

/-- Where a path begins. -/
inductive Anchor where
  | here
  | root
  /-- At the root, written with two slashes. -/
  | doubleRoot
  deriving DecidableEq, Repr

/-- The slashes that a path begins with. -/
def Anchor.text : Anchor → Text
  | .here => ""
  | .root => "/"
  | .doubleRoot => "//"

/-- The anchor of a written path: exactly two slashes are an anchor of their own. -/
def Anchor.ofText : Text → Anchor
  | '/' :: '/' :: '/' :: _ => .root
  | '/' :: '/' :: _ => .doubleRoot
  | '/' :: _ => .root
  | _ => .here

/-- A path to a file or a directory. -/
structure Path where
  anchor : Anchor := .here
  parts : List Text := []
  deriving DecidableEq, Repr

namespace Path

def parse (text : Text) : Path :=
  ⟨Anchor.ofText text,
    (Text.splitOn (· = '/') text).filter fun part => part ≠ [] ∧ part ≠ ['.']⟩

def text (path : Path) : Text :=
  match path.anchor, path.parts with
  | .here, [] => "."
  | anchor, parts => anchor.text ++ Text.join "/" parts

/-- A path from a directory on; one that begins at the root does not depend on it. -/
def append (directory path : Path) : Path :=
  match path.anchor with
  | .here => ⟨directory.anchor, directory.parts ++ path.parts⟩
  | _ => path

def child (directory : Path) (name : Text) : Path :=
  ⟨directory.anchor, directory.parts ++ [name]⟩

/-- The directory that holds a path, as far as its components tell. -/
def parent (path : Path) : Path := ⟨path.anchor, path.parts.dropLast⟩

def name (path : Path) : Text := path.parts.getLast?.getD []

/-- A name without its suffix, and the suffix.  A suffix begins at the last dot, unless that
dot is the first or the last character of the name. -/
def splitName (name : Text) : Text × Text :=
  match Text.cutLast? '.' name with
  | some (stem, suffix) =>
    if stem.isEmpty || suffix.isEmpty then (name, []) else (stem, '.' :: suffix)
  | none => (name, [])

/-- The suffix of the last component, with its dot. -/
def suffix (path : Path) : Text := (splitName path.name).2

/-- The last component without its suffix. -/
def stem (path : Path) : Text := (splitName path.name).1

/-- Put another suffix in the place of the suffix of the last component. -/
def withSuffix (path : Path) (suffix : Text) : Path :=
  ⟨path.anchor, path.parts.dropLast ++ [path.stem ++ suffix]⟩

def below? (directory path : Path) : Option (List Text) :=
  if directory.parts.isEmpty then
    if directory.anchor = path.anchor then some path.parts else none
  else if directory.anchor = path.anchor ∧ directory.parts.isPrefixOf path.parts then
    some (path.parts.drop directory.parts.length)
  else none

/-- The path from a directory on, if the path begins with the directory. -/
def relativeTo? (path directory : Path) : Option Path :=
  (below? directory path).map fun parts => ⟨.here, parts⟩

/-- Resolve `.` and `..` by the names alone, from a directory on. -/
def normalize (directory : List Text) : List Text → List Text
  | [] => directory
  | part :: parts =>
    if part = ['.'] then normalize directory parts
    else if part = ['.', '.'] then normalize directory.dropLast parts
    else normalize (directory ++ [part]) parts

/-- The absolute components of a path, with `.` and `..` resolved by the names alone. -/
def resolve (here : List Text) (path : Path) : List Text :=
  normalize (if path.anchor = .here then here else []) path.parts

end Path

end StaticSite
