import StaticSite.Config.SiteConfig
import StaticSite.FrontMatter.Document

/-!
# What a build works with

A build reads the configuration, the templates and the components of a site once, and then
only looks things up in them.  A page in Markdown is a job: where its document comes from,
where its page goes, and what its header says.
-/

namespace StaticSite

/-- What a build reads and never changes. -/
structure Context where
  root : Path
  config : SiteConfig
  templates : Dictionary Text
  components : Dictionary Text
  buildDrafts : Bool := false
  reload : Bool := false

namespace Context

def sourceName : Text := "src"

/-- The directory of the finished site. -/
def outputName : Text := "public"

def templatesName : Text := "templates"

def componentsName : Text := "components"

def sourceDirectory (context : Context) : Path := context.root.child sourceName

/-- Where the finished site goes. -/
def outputDirectory (context : Context) : Path := context.root.child outputName

end Context

/-- A page that is to be made from a document in Markdown. -/
structure Job where
  source : Path
  output : Path
  fields : Fields
  body : Text
  isFeedMember : Bool := false
  feedDirectory : Option Path := none

namespace Job

def renderer (job : Job) : Text := job.fields.value "renderer"

end Job

end StaticSite
