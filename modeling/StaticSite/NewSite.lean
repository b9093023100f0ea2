import StaticSite.Config.SiteConfig
import StaticSite.Page.Context

/-!
# New sites

A new site has a configuration, an index page, a template for all pages and an empty
directory for components.
-/

namespace StaticSite

namespace NewSite

/-- The index page of a new site. -/
def indexPage (name : Text) : Text :=
  "<!DOCTYPE html>\n" ++
  "<html lang=\"en-us\">\n" ++
  "<head>\n" ++
  "  <meta charset=\"utf-8\">\n" ++
  "  <meta name=\"viewport\" content=\"width=device-width, initial-scale=1.0\">\n" ++
  "  <title>" ++ name ++ "</title>\n" ++
  "</head>\n" ++
  "<body>\n" ++
  "  <h1>Hello World!</h1>\n" ++
  "</body>\n" ++
  "</html>\n"

def template : Text :=
  "<!DOCTYPE html>\n" ++
  "<html lang=\"\x7b\x7b .Lang \x7d\x7d\">\n" ++
  "<head>\n" ++
  "  <meta charset=\"utf-8\">\n" ++
  "  <meta name=\"viewport\" content=\"width=device-width, initial-scale=1.0\">\n" ++
  "  <title>\x7b\x7b .Title \x7d\x7d</title>\x7b\x7b .MetaTags \x7d\x7d\n" ++
  "</head>\n" ++
  "<body>\n" ++
  "\x7b\x7b .Content \x7d\x7d\n" ++
  "\x7b\x7b .Reload \x7d\x7d\n" ++
  "</body>\n" ++
  "</html>\n"

def configuration (name : Text) : Text :=
  "baseURL = 'https://" ++ name ++ ".com/'\nlanguageCode = 'en-us'\ntitle = '" ++ name ++ "'\n"

/-- Make a new site below a directory. -/
def create (parent : Path) (name : Text) : Action Path := do
  if name.isEmpty then throw (.config .noSiteName)
  let site := parent.append (Path.parse name)
  if ← Action.inspect (·.exists? site) then throw (.config (.siteExists site.text))
  Action.writeText (site.child Config.defaultName) (configuration name)
  Action.makeDirectory (site.child Context.componentsName)
  Action.writeText ((site.child Context.templatesName).child "default.html") template
  Action.writeText ((site.child Context.sourceName).child "index.html") (indexPage name)
  return site

end NewSite

end StaticSite
