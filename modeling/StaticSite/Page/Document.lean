import StaticSite.Calendar.Stamp
import StaticSite.Page.Address
import StaticSite.Page.Context
import StaticSite.Page.Meta
import StaticSite.Template

/-!
# Finished pages

A finished page is a template with the values of the page put in.
-/

namespace StaticSite

namespace Page

/-- The template of a page that names none. -/
def defaultTemplate : Text := "default.html"

/-- The end of the name of a feed's template. -/
def listTemplateEnd : Text := "_list.html"

/-- The name of the template that a job takes: the one it names, else that of its feed if
there is one, else the default. -/
def templateName (job : Job) (context : Context) : Text :=
  match job.fields.value "template" with
  | [] =>
    let implied :=
      match job.feedDirectory with
      | some directory => directory.name ++ listTemplateEnd
      | none => []
    if context.templates.contains implied then implied else defaultTemplate
  | name => name

def resolveTemplate (job : Job) (context : Context) : Except Fault (Text × Text) :=
  let name := templateName job context
  match context.templates.get? name with
  | some template => .ok (name, template)
  | none => .error (.site (.noTemplate name))

/-- The script that loads a page again when it has changed. -/
def reloadScript : Text :=
  "<script>var bfr = '';\n" ++
  "  setInterval(function () \x7b\n" ++
  "      fetch(window.location).then((response) => \x7b\n" ++
  "          return response.text();\n" ++
  "      \x7d).then(r => \x7b\n" ++
  "          if (bfr != '' && bfr != r) \x7b\n" ++
  "              setTimeout(function() \x7b\n" ++
  "                  window.location.reload();\n" ++
  "              \x7d, 1000);\n" ++
  "          \x7d\n" ++
  "          else \x7b\n" ++
  "              bfr = r;\n" ++
  "          \x7d\n" ++
  "      \x7d);\n" ++
  "  \x7d, 1000);</script>"

/-- The values of a page that its date adds: only the posts of a feed show their date and
their author. -/
def dateValues (job : Job) : Except Fault (List (Text × Text)) :=
  match job.isFeedMember, job.fields.get? "date" with
  | true, some date => do
    let shown ← Calendar.displayStamp date (some job.source.text)
    let author : List (Text × Text) :=
      match job.fields.get? "author" with
      | some author => [("Author".toList, author)]
      | none => []
    return ("Date".toList, shown) :: author
  | _, _ => .ok []

/-- The values that a template can show. -/
def context (job : Job) (content metaTags : Text) (context : Context) :
    Except Fault (Dictionary Text) := do
  let title : List (Text × Text) :=
    match job.fields.get? "title" with
    | some title => [("Title".toList, title)]
    | none => []
  let rest : List (Text × Text) :=
    [("Content".toList, content), ("Lang".toList, context.config.languageCode),
      ("MetaTags".toList, metaTags),
      ("Reload".toList, if context.reload then reloadScript else [])]
  return Dictionary.ofList (title ++ (← dateValues job) ++ rest)

/-- The content of a page with absolute links: those of an index page begin at its
directory. -/
def linkedContent (job : Job) (html : Text) (context : Context) : Except Fault Text := do
  if job.output.name = indexName then
    return Template.rewriteLinks html (← indexDirectory job.output context.outputDirectory)
  else return html

/-- The finished document of a page and its address for the sitemap, which is empty for a
page that is kept out of every index. -/
def render (job : Job) (html : Text) (context : Context) : Except Fault (Text × Text) := do
  let (_, template) ← resolveTemplate job context
  let content ← linkedContent job html context
  let canonical ← canonicalURL context.config.baseURL job.output context.outputDirectory
  let url := if job.fields.isNoIndex then [] else canonical
  let values ← Page.context job content (metaTags job.fields url) context
  return (Template.render template values, url)

end Page

end StaticSite
