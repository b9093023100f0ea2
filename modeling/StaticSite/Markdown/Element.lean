import StaticSite.Text.Pattern

/-!
# Elements

A rendered document is a tree of elements.  An element has a text in front of its children,
and every child may have a text behind it, which is kept with the child.  A settled text is
not searched for inline markup any more.
-/

namespace StaticSite

namespace Markdown

/-- A text in a tree. -/
structure Inscription where
  text : Text := []
  settled : Bool := false
  deriving DecidableEq, Repr

namespace Inscription

/-- A text that may have inline markup. -/
def plain (text : Text) : Inscription := ⟨text, false⟩

def fixed (text : Text) : Inscription := ⟨text, true⟩

def isEmpty (inscription : Inscription) : Bool := inscription.text.isEmpty

/-- Whether there is nothing but white space. -/
def isBlank (inscription : Inscription) : Bool := Text.blank inscription.text

/-- A text with another one behind it.  What is put together is not settled. -/
def append (first second : Inscription) : Inscription :=
  if first.isEmpty then second else plain (first.text ++ second.text)

end Inscription

/-- An element with the text behind it. -/
inductive Element where
  | mk (tag : Text) (attributes : List (Text × Text)) (inside : Inscription)
      (children : List Element) (behind : Inscription)

namespace Element

instance : Inhabited Element := ⟨.mk [] [] {} [] {}⟩

def tag : Element → Text
  | .mk tag _ _ _ _ => tag

def attributes : Element → List (Text × Text)
  | .mk _ attributes _ _ _ => attributes

/-- The text in front of the children. -/
def inside : Element → Inscription
  | .mk _ _ inside _ _ => inside

def children : Element → List Element
  | .mk _ _ _ children _ => children

def behind : Element → Inscription
  | .mk _ _ _ _ behind => behind

def named (tag : Text) : Element := .mk tag [] {} [] {}

def holding (tag : Text) (inside : Inscription) : Element := .mk tag [] inside [] {}

def withInside (element : Element) (inside : Inscription) : Element :=
  .mk element.tag element.attributes inside element.children element.behind

def withChildren (element : Element) (children : List Element) : Element :=
  .mk element.tag element.attributes element.inside children element.behind

def withBehind (element : Element) (behind : Inscription) : Element :=
  .mk element.tag element.attributes element.inside element.children behind

def withAttribute (element : Element) (name value : Text) : Element :=
  .mk element.tag (element.attributes ++ [(name, value)]) element.inside element.children
    element.behind

def withAttributes (element : Element) (attributes : List (Text × Text)) : Element :=
  .mk element.tag attributes element.inside element.children element.behind

def lastChild? (element : Element) : Option Element := element.children.getLast?

def add (element child : Element) : Element := element.withChildren (element.children ++ [child])

def addFirst (element child : Element) : Element :=
  element.withChildren (child :: element.children)

def replaceLast (element child : Element) : Element :=
  element.withChildren (element.children.dropLast ++ [child])

mutual

/-- The texts within an element, one after the other. -/
def textWithin : Element → Text
  | .mk _ _ inside children _ => inside.text ++ textOfAll children

/-- The texts within elements and behind them. -/
def textOfAll : List Element → Text
  | [] => []
  | .mk tag attributes inside children behind :: rest =>
    textWithin (.mk tag attributes inside children behind) ++ behind.text ++ textOfAll rest

end

mutual

/-- Change every element of a tree, an element after its children. -/
def mapTree (change : Element → Element) : Element → Element
  | .mk tag attributes inside children behind =>
    change (.mk tag attributes inside (mapTrees change children) behind)

def mapTrees (change : Element → Element) : List Element → List Element
  | [] => []
  | element :: rest => mapTree change element :: mapTrees change rest

end

/-- The names of the elements that stand for themselves in a document. -/
def blockNames : List String :=
  ["address", "article", "aside", "blockquote", "details", "div", "dl", "fieldset", "figcaption",
    "figure", "footer", "form", "h1", "h2", "h3", "h4", "h5", "h6", "header", "hgroup", "hr",
    "main", "menu", "nav", "ol", "p", "pre", "section", "table", "ul", "canvas",
    "colgroup", "dd", "body", "dt", "group", "html", "iframe", "li", "legend", "math", "map",
    "noscript", "output", "object", "option", "progress", "script", "style", "summary", "tbody",
    "td", "textarea", "tfoot", "th", "thead", "tr", "video", "center"]

/-- Whether a name is that of an element that stands for itself. -/
def isBlockName (name : Text) : Bool :=
  let name := Text.trimRightOf (· = '/') (Text.lowerAscii name)
  blockNames.any fun candidate => candidate.toList = name

def voidNames : List String :=
  ["area", "base", "basefont", "br", "col", "embed", "frame", "hr", "img", "input", "isindex",
    "link", "meta", "param", "source", "track", "wbr"]

def isVoidName (name : Text) : Bool :=
  voidNames.any fun candidate => candidate.toList = Text.lowerAscii name

def isHeadingName (name : Text) : Bool :=
  match name with
  | [mark, level] => (mark = 'h' || mark = 'H') && '1' ≤ level && level ≤ '6'
  | _ => false

/-! ## Writing -/

def referenceEnd : Pattern :=
  let digit := Pattern.one Char.isDigit
  let hexDigit := Pattern.one fun character =>
    character.isDigit || ('a' ≤ character.toLower && character.toLower ≤ 'f')
  .both
    (.anyOf
      [.both (.word "#") (.plus digit), .all [.word "#", .among "xX", .plus hexDigit],
        .plus (.one Char.isAlphanum)])
    (.word ";")

/-- A text in which every ampersand that begins no reference is written as one. -/
def escapeAmpersands : Text → Text
  | [] => []
  | '&' :: rest =>
    (if referenceEnd.accepts rest then "&" else "&amp;") ++ escapeAmpersands rest
  | character :: rest => character :: escapeAmpersands rest

def escapeText (text : Text) : Text :=
  (escapeAmpersands text).flatMap fun character =>
    if character = '<' then "&lt;" else if character = '>' then "&gt;" else [character]

def escapeValue (text : Text) : Text :=
  (escapeText text).flatMap fun character =>
    if character = '"' then "&quot;" else [character]

/-- The attributes in the order of their names. -/
def sortAttributes (attributes : List (Text × Text)) : List (Text × Text) :=
  attributes.mergeSort fun first second => Text.lessEqual first.1 second.1

def opening (tag : Text) (attributes : List (Text × Text)) : Text :=
  let shown : List Text := (sortAttributes attributes).map fun (name, value) =>
    " " ++ name ++ "=\"" ++ escapeValue value ++ "\""
  "<" ++ tag ++ shown.flatten

mutual

/-- The written form of an element with the text behind it. -/
def write : Element → Text
  | .mk tag attributes inside children behind =>
    let content :=
      if isVoidName tag then " />".toList
      else ">" ++ escapeText inside.text ++ writeAll children ++ "</" ++ tag ++ ">"
    opening tag attributes ++ content ++ escapeText behind.text

/-- The written form of several elements. -/
def writeAll : List Element → Text
  | [] => []
  | element :: rest => write element ++ writeAll rest

end

end Element

end Markdown

end StaticSite
