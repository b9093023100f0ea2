import StaticSite.Calendar.Stamp
import StaticSite.Markup
import StaticSite.Page.Address
import StaticSite.Page.Context

/-!
# Feeds

A feed lists the posts of a directory, the newest first, in the format of RSS.
-/

namespace StaticSite

/-- A post in a feed. -/
structure FeedEntry where
  title : Text
  link : Text
  source : Path
  /-- The date stamp as it is written in the post. -/
  publishedText : Text
  published : Calendar.Moment
  description : Text
  deriving DecidableEq, Repr

namespace Feed

def fileName : Text := "index.xml"

/-- The address of a post: its path below the output directory without its suffix. -/
def postLink (path : Path) (base : Text) (directory : Path) : Except Fault Text := do
  let relative ← Page.relative path directory
  if relative.parts.isEmpty then
    throw (.value (Text.quoted relative.text ++ " has an empty name"))
  else return base ++ (relative.withSuffix []).text

/-- The entry of a post.  A post without a description of its own is described by its
address. -/
def entry (path : Path) (fields : Fields) (base : Text) (directory : Path) :
    Except Fault FeedEntry := do
  let stamp := fields.value "date"
  if stamp.isEmpty then throw (.parse .undatedPost ⟨some path.text, none, none⟩)
  let link ← postLink path base directory
  let published ← Calendar.parseStamp stamp (some path.text)
  let description := fields.value "desc"
  return {
    title := fields.value "title"
    link := link
    source := path
    publishedText := stamp
    published := published
    description :=
      if description.isEmpty ∨ description = Fields.noIndexMark then link else description }

/-- Whether an entry may stand before another: it is at least as new. -/
def notOlder (first second : FeedEntry) : Bool :=
  second.published.toSeconds ≤ first.published.toSeconds

/-- The entries from the newest to the oldest; entries of one moment keep their order. -/
def sort (entries : List FeedEntry) : List FeedEntry := entries.mergeSort notOlder

/-- An element with a text, on a line of its own. -/
def element (indent name : String) (content : Text) : Text :=
  indent ++ "<" ++ name ++ ">" ++ Markup.escape content ++ "</" ++ name ++ ">"

def itemLines (entry : FeedEntry) : List Text :=
  ["    <item>",
    element "      " "title" entry.title,
    element "      " "link" entry.link,
    element "      " "pubDate" entry.publishedText,
    element "      " "description" entry.description,
    "    </item>"]

/-- The lines in front of the entries. -/
def heading (fields : Fields) (base language : Text) : List Text :=
  ["<?xml version=\"1.0\" encoding=\"UTF-8\"?>",
    "<rss xmlns:atom=\"http://www.w3.org/2005/Atom\" version=\"2.0\">",
    "  <channel>",
    element "    " "title" (fields.getD "title" "RSS Feed"),
    element "    " "link" base,
    element "    " "description" (fields.getD "desc" "My RSS Feed"),
    element "    " "language" language]

/-- The lines behind the entries. -/
def ending : List Text := ["  </channel>", "</rss>"]

def lines (fields : Fields) (entries : List FeedEntry) (base language : Text) : List Text :=
  heading fields base language ++ entries.flatMap itemLines ++ ending

/-- The text of a feed with the fields of its index page. -/
def text (fields : Fields) (entries : List FeedEntry) (base language : Text) : Text :=
  Text.join "\n" (lines fields entries base language)

end Feed

end StaticSite
