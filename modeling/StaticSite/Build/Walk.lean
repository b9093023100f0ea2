import StaticSite.Feed
import StaticSite.Page.Document
import StaticSite.Workspace

/-!
# Gathering the pages of a site

The copy of the sources is walked in the order of names.  Every document in Markdown becomes
a job, unless it is a draft and drafts are not built: then it is removed.  A directory whose
index page says that it is a feed has its feed written before its own entries are visited.
-/

namespace StaticSite

namespace Build

/-- The name of the document that stands for its directory. -/
def indexDocument : Text := "index.md"

/-- The jobs and the feeds that a walk has found. -/
structure Findings where
  jobs : List Job := []
  feeds : List Path := []

/-- The findings of one walk and those of a later one. -/
def Findings.append (first second : Findings) : Findings :=
  ⟨first.jobs ++ second.jobs, first.feeds ++ second.feeds⟩

def readDocument (path : Path) : Action FrontMatter.Document := do
  let text ← Action.readMarkedText path
  Action.ofExcept (FrontMatter.readDocument path.text text)

/-- Whether a document is left out of the site. -/
def isSkipped (context : Context) (fields : Fields) : Bool :=
  fields.isDraft && ! context.buildDrafts

def postEntries (context : Context) : List Path → Action (List FeedEntry)
  | [] => return []
  | path :: paths => do
    let document ← readDocument path
    if isSkipped context document.header.fields then postEntries context paths
    else
      let entry ← Action.ofExcept <|
        Feed.entry path document.header.fields context.config.baseURL context.outputDirectory
      return entry :: (← postEntries context paths)

def writeFeed (directory : Path) (fields : Fields) (context : Context) : Action Path := do
  let children ← Action.inspect (·.children directory)
  let posts := children.filter fun path =>
    Text.endsWith ".md" path.name && path.name != indexDocument
  let entries ← postEntries context posts
  let output := directory.child Feed.fileName
  Action.writeText output <|
    Feed.text fields (Feed.sort entries) context.config.baseURL context.config.languageCode
  Action.print ("Generated RSS feed at: " ++ output.text)
  return output

/-- The job of a document, or nothing for a draft that is removed. -/
def jobOf (context : Context) (directory : Path) (isFeed : Bool) (path : Path) :
    Action (Option Job) := do
  let document ← readDocument path
  if isSkipped context document.header.fields then
    Action.removeFile path
    return none
  else
    let member := isFeed && path.name != indexDocument
    return some {
      source := path
      output := path.withSuffix ".html"
      fields := document.header.fields
      body := document.body
      isFeedMember := member
      feedDirectory := if member then some directory else none }

/-- The fields of the index page of a directory, if it has one that declares a feed. -/
def feedFields? (directory : Path) : Action (Option Fields) := do
  let index := directory.child indexDocument
  if ← Action.inspect (·.isFile index) then
    let fields := (← readDocument index).header.fields
    return if fields.value "type" = "feed" then some fields else none
  else return none

mutual

/-- Walk a directory; directories are nested at most `depth` deep below it. -/
def walk (context : Context) : (depth : Nat) → (directory : Path) → (isFeed : Bool) →
    Action Findings
  | 0, _, _ => return {}
  | depth + 1, directory, isFeed => do
    walkEntries context depth directory isFeed (← Action.inspect (·.children directory))
termination_by depth => (depth, 0, 0)

def walkEntries (context : Context) (depth : Nat) (directory : Path) (isFeed : Bool) :
    List Path → Action Findings
  | [] => return {}
  | path :: paths => do
    let found ← walkEntry context depth directory isFeed path
    return found.append (← walkEntries context depth directory isFeed paths)
termination_by paths => (depth, 2, paths.length)

def walkEntry (context : Context) (depth : Nat) (directory : Path) (isFeed : Bool)
    (path : Path) : Action Findings := do
  let isFile ← Action.inspect (·.isFile path)
  if isFile && path.suffix == ".md".toList then
    return ⟨(← jobOf context directory isFeed path).toList, []⟩
  else if ← Action.inspect (·.isDirectory path) then
    match ← feedFields? path with
    | some fields =>
      let feed ← writeFeed path fields context
      return (Findings.mk [] [feed]).append (← walk context depth path true)
    | none => walk context depth path false
  else return {}
termination_by (depth, 1, 0)

end

/-- The jobs and the feeds of a site. -/
def gather (context : Context) : Action Findings := do
  walk context ((← get).files.depth + 1) context.outputDirectory false

end Build

end StaticSite
