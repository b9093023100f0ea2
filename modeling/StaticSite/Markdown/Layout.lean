import StaticSite.Markdown.Inline.Basic
import StaticSite.Markdown.Listing

/-!
# The layout of a rendered document

Elements that stand for themselves begin lines, line breaks end them, and blocks of code
become listings.  At the end the marks of raw markup are replaced by what was kept.
-/

namespace StaticSite

namespace Markdown

namespace Layout

/-! ## Listings -/

def unescapeCode (code : Text) : Text :=
  Text.replace "&amp;" "&" (Text.replace "&gt;" ">" (Text.replace "&lt;" "<" code))

def listingElement (code : Text) : Keeping Element := do
  let mark ← keepRaw (Listing.ofCode (unescapeCode code)).markup
  return Element.holding "p" (.plain mark)

mutual

/-- Put paragraphs with marks of listings in the place of blocks of code. -/
def keepListings : Element → Keeping Element
  | .mk tag attributes inside children behind => do
    match decide (tag = "pre"), children with
    | true, [.mk inner innerAttributes code innerChildren innerBehind] =>
      if inner = "code" then listingElement code.text
      else
        return .mk tag attributes inside [.mk inner innerAttributes code innerChildren innerBehind]
          behind
    | _, _ => return .mk tag attributes inside (← keepAllListings children) behind

/-- Put paragraphs with marks of listings in the place of blocks of code. -/
def keepAllListings : List Element → Keeping (List Element)
  | [] => return []
  | element :: rest => do return (← keepListings element) :: (← keepAllListings rest)

end

/-! ## Lines -/

/-- A line end in the place of a text of white space. -/
def lineEndIfBlank (inscription : Inscription) : Inscription :=
  if inscription.isBlank then .plain ['\n'] else inscription

mutual

/-- Let an element that stands for itself, and those within it, begin lines. -/
def spread : Element → Element
  | .mk tag attributes inside children behind =>
    let inside :=
      if children.head?.any fun child => Element.isBlockName child.tag then lineEndIfBlank inside
      else inside
    .mk tag attributes inside (spreadAll children) (lineEndIfBlank behind)

/-- Let those elements that stand for themselves begin lines. -/
def spreadAll : List Element → List Element
  | [] => []
  | element :: rest =>
    (if Element.isBlockName element.tag then spread element else element) :: spreadAll rest

end

def breakLine (element : Element) : Element :=
  if element.tag ≠ "br" then element
  else if element.behind.isBlank then element.withBehind (.plain ['\n'])
  else element.withBehind (.plain ('\n' :: element.behind.text))

def lines (tree : Element) : Element := (spread tree).mapTree breakLine

/-- Put escaped characters back into the texts of an element; code has none. -/
def unescape (element : Element) : Element :=
  let restore (inscription : Inscription) : Inscription :=
    { inscription with text := putEscapedBack inscription.text }
  let inside := if element.tag = "code" then element.inside else restore element.inside
  let attributes := element.attributes.map fun (name, value) => (name, putEscapedBack value)
  ((element.withInside inside).withAttributes attributes).withBehind (restore element.behind)

/-! ## Raw markup -/

/-- Whether raw markup stands for itself: an element that does, or a comment, a declaration
or an instruction. -/
def isBlock (markup : Text) : Bool :=
  match markup with
  | '<' :: rest =>
    let name := (Text.after? "/" rest).getD rest
    let name := name.takeWhile fun character => character ≠ ' ' && character ≠ '>'
    match name with
    | [] => false
    | first :: _ => first ∈ "!?@%".toList || Element.isBlockName name
  | _ => false

/-- The number of the raw markup whose mark a text begins with, and how many characters the
mark takes. -/
def rawMark? (text : Text) : Option (Nat × Nat) :=
  match Mark.read? text with
  | some (.raw number, length) => some (number, length)
  | _ => none

/-- The raw markup that a text begins with, and how many characters are to be replaced by
it.  If it stands for itself, a paragraph that it is alone in goes with its mark. -/
def substitute? (raws : RawStore) (text : Text) : Option (Text × Nat) :=
  let alone : Option (Text × Nat) := do
    let rest ← Text.after? "<p>" text
    let (number, length) ← rawMark? rest
    let markup ← raws[number]?
    if isBlock markup && Text.startsWith "</p>" (rest.drop length) then
      return (markup, length + 7)
    else none
  match alone with
  | some found => some found
  | none => do
    let (number, length) ← rawMark? text
    return (← raws[number]?, length)

/-- Replace the marks of raw markup, while some characters are still to be passed over. -/
def substituteFrom (raws : RawStore) : (skip : Nat) → Text → Text
  | _, [] => []
  | skip + 1, _ :: rest => substituteFrom raws skip rest
  | 0, character :: rest =>
    match substitute? raws (character :: rest) with
    | some (markup, length) => markup ++ substituteFrom raws (length - 1) rest
    | none => character :: substituteFrom raws 0 rest

/-- Replace the marks of raw markup, within raw markup as well; what is kept later may have
marks of what was kept earlier. -/
def restoreRaw (raws : RawStore) : (depth : Nat) → Text → Text
  | 0, text => text
  | depth + 1, text => restoreRaw raws depth (substituteFrom raws 0 text)

/-- A written text with everything put back that was kept. -/
def restore (raws : RawStore) (text : Text) : Text :=
  putAmpersandsBack (restoreRaw raws (raws.size + 1) text)

end Layout

end Markdown

end StaticSite
