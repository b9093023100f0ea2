import StaticSite.Component

/-!
# Templates

A template is a document with markers `{{ .Key }}`, each of which is replaced by the value of
its key.  Markers of other keys stay as they are.
-/

namespace StaticSite

namespace Template

def marker (key : Text) : Text := Component.opening ++ "." ++ key ++ Component.closing

/-- Replace the markers of the keys, one key after the other. -/
def renderEntries (template : Text) (entries : List (Text × Text)) : Text :=
  entries.foldl (fun output entry => Text.replace (marker entry.1) entry.2 output) template

/-- Put the values of a context into a template. -/
def render (template : Text) (context : Dictionary Text) : Text :=
  renderEntries template context.entries

/-- Make the relative links of a page absolute: `./` in front of a link's target becomes the
directory of the page. -/
def rewriteLinks (html directory : Text) : Text :=
  Text.replace "href=\"./" ("href=\"" ++ directory) html

end Template

end StaticSite
