import StaticSite.FrontMatter.Document
import StaticSite.Markup

/-!
# Meta tags

The tags in the head of a page for search engines and link previews.  A page that is kept
out of every index has one tag that says so; every other page has its title, its
description and its address.
-/

namespace StaticSite

namespace Page

/-- The tag that keeps a page out of every index. -/
def noIndexTag : Text := "<meta name=\"robots\" content=\"noindex\">"

def titleTag (title : Text) : Text :=
  "<meta property=\"og:title\" content=\"" ++ Markup.escape title ++ "\">"

def descriptionTag (description : Text) : Text :=
  "<meta name=\"description\" content=\"" ++ Markup.escape description ++ "\">"

def addressTags (url : Text) : List Text :=
  ["<link rel=\"canonical\" href=\"" ++ Markup.escape url ++ "\">",
    "<meta property=\"og:url\" content=\"" ++ Markup.escape url ++ "\">"]

/-- The tags of a page, in order. -/
def metaTagList (fields : Fields) (url : Text) : List Text :=
  if fields.isNoIndex then [noIndexTag]
  else
    let description := fields.value "desc"
    (match fields.get? "title" with
      | some title => [titleTag title]
      | none => []) ++
      (if description.isEmpty then [] else [descriptionTag description]) ++ addressTags url

/-- The tags of a page, each on a line of its own. -/
def metaTags (fields : Fields) (url : Text) : Text :=
  (metaTagList fields url).flatMap fun tag => "\n  " ++ tag

end Page

end StaticSite
