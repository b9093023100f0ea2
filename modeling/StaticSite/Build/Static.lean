import StaticSite.Build.Source
import StaticSite.Page.Document
import StaticSite.Sitemap

/-!
# The pages in HTML

When all documents are rendered, the output is walked once more.  Components are expanded in
every page in HTML; an index page keeps its name and may enter the sitemap, and every other
page loses its suffix.
-/

namespace StaticSite

namespace Build

def isPage (path : Path) : Bool :=
  Text.lowerAscii path.suffix == ".html".toList && isProcessed path

/-- Expand the components of a page.  The answer is the address of an index page that the
sitemap takes, and empty otherwise. -/
def processFile (context : Context) (path : Path) : Action Text := do
  if ! isPage path then return []
  let text ← Action.readText path
  let content ← Action.ofExcept (Component.expandAll text context.components (some path.text))
  if path.name ≠ Page.indexName then
    Action.writeText (path.withSuffix []) content
    Action.removeFile path
    return []
  else
    Action.writeText path content
    if Text.contains Page.noIndexTag content then return []
    else
      Action.ofExcept <|
        Page.canonicalURL context.config.baseURL path context.outputDirectory

mutual

/-- Process a directory, with the addresses found so far. -/
def processTree (context : Context) : (depth : Nat) → (directory : Path) → (urls : List Text) →
    Action (List Text)
  | 0, _, urls => return urls
  | depth + 1, directory, urls => do
    processEntries context depth (← Action.inspect (·.children directory)) urls
termination_by depth => (depth, 0, 0)

def processEntries (context : Context) (depth : Nat) :
    List Path → (urls : List Text) → Action (List Text)
  | [], urls => return urls
  | path :: paths, urls => do
    processEntries context depth paths (← processEntry context depth path urls)
termination_by paths => (depth, 2, paths.length)

def processEntry (context : Context) (depth : Nat) (path : Path) (urls : List Text) :
    Action (List Text) := do
  if ← Action.inspect (·.isDirectory path) then processTree context depth path urls
  else if ← Action.inspect (·.isFile path) then
    return Sitemap.add urls (← processFile context path)
  else return urls
termination_by (depth, 1, 0)

end

end Build

end StaticSite
