import StaticSite.Page.Context
import StaticSite.Workspace

/-!
# Watching for changes

The server remembers the newest time of change that it has seen below the sources, the
templates and the components, and rebuilds the site when there is a newer one.  A build that
fails is reported and does not stop the server.
-/

namespace StaticSite

namespace Server

def watchedRoots (root : Path) : List Path :=
  [root.child Context.sourceName, root.child Context.templatesName,
    root.child Context.componentsName]

/-- The newest time of change below directories, or zero.  A directory that cannot be looked
at is passed over. -/
def latestChange (files : FileTree) (roots : List Path) : Int :=
  roots.foldl
    (fun latest root =>
      match files.filesBelow root with
      | .error _ => latest
      | .ok found => found.foldl (fun latest file => max latest file.2) latest)
    0

/-- Rebuild the site; whether it succeeded is answered, and a fault is reported. -/
def rebuildSafely (rebuild : Action Unit) : Action Bool := do
  Action.print "Rebuilding site..."
  try
    rebuild
    return true
  catch fault =>
    Action.report ("Build failed: " ++ fault.message)
    return false

/-- Rebuild the site if there is a change newer than the last one seen.  The answer is
whether there was, and the last one seen now. -/
def check (root : Path) (last : Int) (rebuild : Action Unit) : Action (Bool × Int) := do
  let current := latestChange (← get).files (watchedRoots root)
  if current ≤ last then return (false, last)
  else
    let _ ← rebuildSafely rebuild
    return (true, current)

/-- One round of watching.  A fault of the file system in the check is reported; then nothing
is answered and the last change seen stays as it is. -/
def watchRound (last : Int) (check : Int → Action (Bool × Int)) : Action (Option Bool × Int) := do
  try
    let (changed, last) ← check last
    return (some changed, last)
  catch fault =>
    match fault with
    | .file reason =>
      Action.report ("Watch failed: " ++ reason.message)
      return (none, last)
    | _ => throw fault

end Server

end StaticSite
