import StaticSite.Workspace

/-!
# Sources and output

A build begins with an empty output directory and a copy of the sources in it.  The output
directory of an earlier build is removed only if it lies strictly below the project.
-/

namespace StaticSite

namespace Build

/-- The suffixes of images, which are never processed. -/
def imageSuffixes : List String := [".avif", ".webp", ".png", ".jpeg", ".jpg", ".svg"]

/-- Whether a file may have content to process. -/
def isProcessed (path : Path) : Bool :=
  path.name != ".DS_Store".toList &&
    ! imageSuffixes.any fun suffix => suffix.toList = Text.lowerAscii path.suffix

/-- Remove the output directory, if there is one. -/
def cleanOutput (output root : Path) : Action Unit := do
  if ← Action.inspect (·.exists? output) then
    let here := (← get).files.here
    let target := output.resolve here
    let project := root.resolve here
    if FileTree.hasNull root then throw (.value "embedded null byte")
    else if target = project then throw (.source .cleansRoot)
    else if project.isPrefixOf target then Action.removeTree output
    else throw (.source .cleansOutside)

/-- Copy the sources to the output directory, which must not exist. -/
def copySource (source output : Path) : Action Unit := do
  unless ← Action.inspect (·.isDirectory source) do
    throw (.source (.noSource source.text))
  try Action.copyTree source output
  catch fault =>
    match fault with
    | .file reason => throw (.source (.copy source.text output.text reason.message))
    | _ => throw fault

end Build

end StaticSite
