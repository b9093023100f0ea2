import StaticSite.FrontMatter.Document
import StaticSite.Path

/-!
# Addresses of pages

The address of a page is its path below the output directory without what a visitor does not
type: the suffix `.html`, and the name `index.html` at the end.
-/

namespace StaticSite

namespace Page

/-- The name of the page that stands for its directory. -/
def indexName : Text := "index.html"

def notBelow (path directory : Path) : Fault :=
  .value (Text.quoted path.text ++ " is not in the subpath of " ++ Text.quoted directory.text ++
    " OR one path is relative and the other is absolute.")

def relative (path directory : Path) : Except Fault Path :=
  match path.relativeTo? directory with
  | some relative => .ok relative
  | none => .error (notBelow path directory)

def dropEnd (mark text : Text) : Text := text.take (text.length - mark.length)

/-- The address of a written path below the output directory. -/
def shorten (path : Text) : Text :=
  if path = indexName then []
  else if Text.endsWith ("/" ++ indexName) path then dropEnd indexName path
  else if Text.endsWith ".html" path then dropEnd ".html" path
  else path

/-- The address of an output path, from the base on. -/
def canonicalPath (output directory : Path) : Except Fault Text := do
  return shorten (← relative output directory).text

def canonicalURL (base : Text) (output directory : Path) : Except Fault Text := do
  return base ++ (← canonicalPath output directory)

/-- The directory of an output path as the beginning of an address, between slashes. -/
def indexDirectory (output directory : Path) : Except Fault Text := do
  let parent := (← relative output directory).parent
  if parent.text = ['.'] then return "/" else return "/" ++ parent.text ++ "/"

end Page

end StaticSite
