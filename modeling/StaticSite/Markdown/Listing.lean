import StaticSite.Decimal.Written
import StaticSite.Markdown.Lines
import StaticSite.Markup
import StaticSite.Text.Pattern

/-!
# Listings

A block of code is shown as a listing.  Lines of it can be set off, and its lines can be
numbered, within the code or beside it.
-/

namespace StaticSite

namespace Markdown

/-- Where the numbers of lines stand. -/
inductive Numbering where
  | none
  /-- In front of each line. -/
  | within
  /-- In a column of their own. -/
  | beside
  deriving DecidableEq, Repr

/-- A block of code as it is shown. -/
structure Listing where
  code : Text
  className : Text := "codehilite"
  /-- The numbers of the lines that are set off, counted from one. -/
  setOff : List Int := []
  numbering : Numbering := .none
  firstNumber : Nat := 1
  /-- Lines are numbered whose numbers are multiples of this one. -/
  numberStep : Nat := 1
  /-- Lines are special whose numbers are multiples of this one, unless it is zero. -/
  specialStep : Nat := 0
  /-- Only the lines are shown. -/
  bare : Bool := false
  fileName : Text := []
  /-- White space around the code is dropped. -/
  trimmed : Bool := false
  lineEnd : Text := "\n"
  /-- The code stands in an element of its own. -/
  enclosed : Bool := true
  /-- Styles are written out in the place of classes. -/
  styled : Bool := false
  /-- No background is written out with the styles. -/
  plainBackground : Bool := false
  boxStyle : Text := []
  codeStyle : Text := []
  /-- The beginning of the names of places at the lines. -/
  anchors : Text := []
  /-- The beginning of the names of the lines. -/
  spans : Text := []
  /-- Numbers are links to their lines. -/
  linked : Bool := false
  deriving DecidableEq, Repr

namespace Listing

def trimLineEnds (text : Text) : Text := Text.trimOf (· = '\n') text

def dropOrderMark : Text → Text
  | '\uFEFF' :: rest => rest
  | text => text

def lines (listing : Listing) : List Text :=
  let code := dropOrderMark (trimLineEnds listing.code)
  let code := if listing.trimmed then Text.trim code else trimLineEnds code
  (Text.lines code).map fun line => Markup.escapeCode line ++ listing.lineEnd

/-! ## Numbers -/

def numbered (name : Text) (number : Nat) : Text := name ++ "-" ++ Text.ofNat number

def linkTo (listing : Listing) (number : Nat) (shown : Text) : Text :=
  let name := if listing.anchors.isEmpty then listing.spans else listing.anchors
  "<a href=\"#" ++ numbered name number ++ "\">" ++ shown ++ "</a>"

/-- How many digits the numbers of some lines have at most. -/
def numberWidth (listing : Listing) (count : Nat) : Nat :=
  (Text.ofInt (count + listing.firstNumber - 1)).length

/-- The number of a line, or as much space if the line is not numbered. -/
def numberText (listing : Listing) (count number : Nat) : Text :=
  let width := listing.numberWidth count
  if number % listing.numberStep = 0 then Text.padLeft width ' ' (Text.ofNat number)
  else List.replicate width ' '

def numberStyle (isSpecial : Bool) : Text :=
  "color: " ++ (if isSpecial then "#000000" else "inherit") ++ "; background-color: " ++
    (if isSpecial then "#ffffc0" else "transparent") ++ "; padding-left: 5px; padding-right: 5px;"

def numberElement (listing : Listing) (className specialName : Text) (number : Nat)
    (shown : Text) : Text :=
  let isSpecial := listing.specialStep ≠ 0 && number % listing.specialStep = 0
  let look : Text :=
    if listing.styled then "style=\"" ++ numberStyle isSpecial
    else "class=\"" ++ (if isSpecial then specialName else className)
  "<span " ++ look ++ "\">" ++ shown ++ "</span>"

def numberWithin (listing : Listing) (count number : Nat) : Text :=
  let element :=
    listing.numberElement "linenos" "linenos special" number (listing.numberText count number)
  if listing.linked then listing.linkTo number element else element

def numberBeside (listing : Listing) (count number : Nat) : Text :=
  let shown := listing.numberText count number
  let isLink := listing.linked && number % listing.numberStep = 0
  listing.numberElement "normal" "special" number
    (if isLink then listing.linkTo number shown else shown)

/-! ## Lines -/

def emphasized (listing : Listing) (line : Text) : Text :=
  "<span " ++ (if listing.styled then "style=\"background-color: #ffffcc" else "class=\"hll") ++
    "\">" ++ line ++ "</span>"

def anchored (listing : Listing) (number : Nat) (line : Text) : Text :=
  let name := numbered listing.anchors number
  let link : Text := if listing.numbering = .none then " href=\"#" ++ name ++ "\"" else ""
  "<a id=\"" ++ name ++ "\" name=\"" ++ name ++ "\"" ++ link ++ "></a>" ++ line

def named (listing : Listing) (number : Nat) (line : Text) : Text :=
  "<span id=\"" ++ numbered listing.spans number ++ "\">" ++ line ++ "</span>"

/-- A line in markup; its index counts from zero. -/
def lineMarkup (listing : Listing) (count index : Nat) (line : Text) : Text :=
  let number := listing.firstNumber + index
  let line :=
    if listing.numbering = .within && ! listing.bare then
      listing.numberWithin count number ++ line
    else line
  let line := if ((index : Int) + 1) ∈ listing.setOff then listing.emphasized line else line
  let line :=
    if listing.anchors.isEmpty || listing.bare then line else listing.anchored number line
  if listing.spans.isEmpty || listing.bare then line else listing.named number line

/-- The lines in markup, one behind the other. -/
def body (listing : Listing) : Text :=
  let lines := listing.lines
  lines.zipIdx.flatMap fun (line, index) => listing.lineMarkup lines.length index line

/-! ## The whole listing -/

/-- The styles of an element, if there are any. -/
def styleAttribute (styles : List Text) : Text :=
  match styles.filter (! ·.isEmpty) with
  | [] => []
  | styles => " style=\"" ++ Text.join "; " styles ++ "\""

def fileNameMarkup (listing : Listing) : Text :=
  "<span class=\"filename\">" ++ Markup.escapeCode listing.fileName ++ "</span>"

def codeMarkup (listing : Listing) : Text :=
  let style := styleAttribute
    [listing.codeStyle, if listing.styled then "line-height: 125%;".toList else []]
  let hasName := ! listing.fileName.isEmpty && listing.numbering ≠ .beside
  let body := listing.body
  (if hasName then listing.fileNameMarkup else []) ++ "<pre" ++ style ++ "><span></span>" ++
    (if listing.enclosed then "<code>" ++ body ++ "</code>" else body) ++ "</pre>"

/-- The code in markup beside the numbers of its lines. -/
def tableMarkup (listing : Listing) : Text :=
  let count := listing.lines.length
  let numbers := (List.range count).map fun index =>
    listing.numberBeside count (listing.firstNumber + index)
  let nameRow : Text :=
    if listing.fileName.isEmpty then ""
    else "<tr><th colspan=\"2\" class=\"filename\">" ++ listing.fileNameMarkup ++ "</th></tr>"
  "<table class=\"" ++ listing.className ++ "table\">" ++ nameRow ++
    "<tr><td class=\"linenos\"><div class=\"linenodiv\"><pre>" ++ Text.join "\n" numbers ++
    "</pre></div></td><td class=\"code\"><div>" ++ listing.codeMarkup ++
    "</div></td></tr></table>"

def markup (listing : Listing) : Text :=
  if listing.bare then listing.body
  else
    let className : Text :=
      if listing.className.isEmpty then "" else " class=\"" ++ listing.className ++ "\""
    let hasBackground := listing.styled && ! listing.plainBackground
    let style := styleAttribute
      [if hasBackground then "background: #f8f8f8".toList else [], listing.boxStyle]
    let content := if listing.numbering = .beside then listing.tableMarkup else listing.codeMarkup
    "<div" ++ className ++ style ++ ">" ++ content ++ "</div>\n"

/-! ## Code with a headline -/

/-- The numbers of lines in a text; if one word is no integer there are none. -/
def lineNumbers (text : Text) : List Int :=
  ((Text.words text).mapM Decimal.integer?).getD []

/-- The first line of code if it says how the code is shown: two colons or a number sign and
an exclamation mark, a path, a language, and lines that are set off. -/
def headline : Pattern :=
  .all
    [.anyOf [.all [.begin false, .word ":", .plus (.word ":")],
        .group 1 (.all [.begin false, .word "#!"])],
      .maybe (.group 2 (.both (.star (.both (.word "/") (.plus (.one Text.isWordChar))))
        (.among "/ "))),
      .star (.one fun character => Text.isWordChar character || character ∈ "#.+-".toList),
      .blanks,
      .maybe (.all [.word "hl_lines=", .group 3 (.among "\"'"), .group 4 (.lazyStar .inLine),
        .again 3])]

/-- The listing of a block of code that may have a headline.  A headline with a path is code
all the same. -/
def ofCode (code : Text) : Listing :=
  match Text.lines (trimLineEnds code) with
  | [] => { code := code }
  | first :: rest =>
    match headline.search first with
    | none => { code := code }
    | some found =>
      { code := if (found.stop.capture? 2).isSome then code else Text.join "\n" rest
        setOff := lineNumbers (found.group 4)
        numbering := if found.has 1 then .beside else .none }

end Listing

end Markdown

end StaticSite
