import StaticSite.Dictionary
import StaticSite.Workspace

/-!
# Templates and components in files

A template has the name of its file, and a component that name without its suffix.  Hidden
files and directories are left out.
-/

namespace StaticSite

namespace Build

def filesAmong : List Path → Action (List Path)
  | [] => return []
  | path :: paths => do
    let isFile ← Action.inspect (·.isFile path)
    let rest ← filesAmong paths
    return if isFile then path :: rest else rest

/-- The files of a directory that are not hidden, in the order of their names; a directory
that is missing has none. -/
def cachedFiles (directory : Path) : Action (List Path) := do
  if ← Action.inspect (·.isDirectory directory) then
    let files ← filesAmong (← Action.inspect (·.children directory))
    return files.filter fun path => ! Text.startsWith "." path.name
  else return []

/-- Read files and put their texts under the names that a function gives them. -/
def loadFiles (name : Path → Text) (change : Text → Text) :
    List Path → Dictionary Text → Action (Dictionary Text)
  | [], texts => return texts
  | path :: paths, texts => do
    let text ← Action.readText path
    loadFiles name change paths (texts.put (name path) (change text))

def loadTemplates (directory : Path) : Action (Dictionary Text) := do
  loadFiles Path.name id (← cachedFiles directory) ∅

/-- The components in a directory, without white space around them. -/
def loadComponents (directory : Path) : Action (Dictionary Text) := do
  loadFiles Path.stem Text.trim (← cachedFiles directory) ∅

end Build

end StaticSite
