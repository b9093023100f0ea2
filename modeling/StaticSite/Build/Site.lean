import StaticSite.Build.Cache
import StaticSite.Build.Rendering
import StaticSite.Build.Static
import StaticSite.Build.Walk

/-!
# Building a site

A build reads the configuration, the templates and the components, and checks the
directories, before it changes anything.  Then it copies the sources to the output
directory, writes the feeds, renders the documents in Markdown, processes the pages in HTML
and writes the sitemap.
-/

namespace StaticSite

namespace Build

/-- What a build is asked for. -/
structure Request where
  root : Path := {}
  buildDrafts : Bool := false
  reload : Bool := false
  configName : Text := Config.defaultName
  /-- How many documents may be rendered at a time, unless the number got lost; zero leaves it
  open. -/
  workers : Option Int := some 0

/-- What a build has made. -/
structure Result where
  sitemapURLs : List Text
  feeds : List Path
  converted : Nat

/-- Read what a build works with. -/
def prepare (request : Request) : Action Context := do
  let config ← Action.inspect (Config.readSite · request.root request.configName)
  let templates ← loadTemplates (request.root.child Context.templatesName)
  let components ← loadComponents (request.root.child Context.componentsName)
  return {
    root := request.root
    config := config
    templates := templates
    components := components
    buildDrafts := request.buildDrafts
    reload := request.reload }

/-- Put a fresh copy of the sources into the output directory. -/
def refresh (context : Context) : Action Unit := do
  unless ← Action.inspect (·.isDirectory context.sourceDirectory) do
    throw (.source (.noSource context.sourceDirectory.text))
  cleanOutput context.outputDirectory context.root
  copySource context.sourceDirectory context.outputDirectory

/-- Write the page of a job in the place of its document.  The answer is the page's address
for the sitemap. -/
def writePage (context : Context) (job : Job) (html : Text) : Action Text := do
  let (document, url) ← Action.ofExcept (Page.render job html context)
  Action.writeText job.output document
  Action.removeFile job.source
  return url

/-- Write the pages of jobs, with the addresses found so far. -/
def writePages (context : Context) : List (Job × Text) → (urls : List Text) →
    Action (List Text)
  | [], urls => return urls
  | (job, html) :: rest, urls => do
    writePages context rest (Sitemap.add urls (← writePage context job html))

def writeSitemap (context : Context) (urls : List Text) : Action Path := do
  let path := context.outputDirectory.child Sitemap.fileName
  Action.writeText path (Sitemap.text urls)
  return path

/-- Render and write all pages, and process those in HTML. -/
def publish (context : Context) (workers : Option Int) : Action Result := do
  let findings ← gather context
  Action.print ("Converting " ++ Text.ofNat findings.jobs.length ++ " markdown files...")
  if workers.isNone then
    throw (.kind "'<=' not supported between instances of 'list' and 'int'")
  let workspace ← get
  let rendered ← Action.ofExcept <|
    renderAll workspace.programs workspace.convert findings.jobs
  let urls ← writePages context rendered []
  let urls ← processTree context ((← get).files.depth + 1) context.outputDirectory urls
  let sitemap ← writeSitemap context urls
  Action.print ("Generated sitemap at: " ++ sitemap.text)
  Action.print "done building"
  return ⟨urls, findings.feeds, rendered.length⟩

def site (request : Request) : Action Result := do
  let context ← prepare request
  refresh context
  publish context request.workers

end Build

end StaticSite
