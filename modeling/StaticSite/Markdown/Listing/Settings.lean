import StaticSite.Fault
import StaticSite.Markdown.Element
import StaticSite.Markdown.Listing

/-!
# The settings of a listing

Fenced code can have settings, which are names with values.  They say how its listing looks.
Some of their values are yes or no in one of several words, and others are integers.
-/

namespace StaticSite

namespace Markdown

namespace Listing

/-- Settings by their names; of two with one name the later one counts. -/
structure Settings where
  entries : List (Text × Text) := []
  deriving DecidableEq, Repr

namespace Settings

def get? (settings : Settings) (name : Text) : Option Text :=
  (settings.entries.reverse.find? fun entry => entry.1 = name).map Prod.snd

/-- The value of a setting; one that is not given is empty. -/
def get (settings : Settings) (name : Text) : Text := (settings.get? name).getD []

/-- Whether a word is one of some words, in capital or small letters. -/
def isAmong (words : List String) (value : Text) : Bool :=
  let value := Text.lowerAscii value
  words.any fun word => word.toList = value

def yesWords : List String := ["1", "yes", "true", "on"]

def noWords : List String := ["0", "no", "false", "off"]

/-- What a value says if it may be dropped; one that says neither yes nor no is. -/
def answer? (value : Text) : Option Bool :=
  if isAmong ("y" :: yesWords) value then some true
  else if isAmong ("n" :: noWords) value then some false
  else none

/-- What a setting says, which must say yes or no if it is given. -/
def saysYes (settings : Settings) (name : Text) (standard : Bool) : Except ListingFault Bool :=
  match settings.get? name with
  | none => .ok standard
  | some value =>
    if isAmong yesWords value then .ok true
    else if isAmong noWords value then .ok false
    else .error (.noAnswer name value)

/-- The size of the integer that a setting must have if it is given. -/
def size (settings : Settings) (name : Text) (standard : Nat) : Except ListingFault Nat :=
  match settings.get? name with
  | none => .ok standard
  | some value =>
    match Decimal.integer? value with
    | some number => .ok number.natAbs
    | none => .error (.noInteger name value)

/-- Whether the code is shown as a listing; it is unless the settings say otherwise. -/
def isListing (settings : Settings) : Bool :=
  ((settings.get? "use_pygments").map fun value => answer? value == some true).getD true

def isStyled (settings : Settings) : Except ListingFault Bool :=
  match settings.get? "noclasses" with
  | none => .ok false
  | some value =>
    match answer? value with
    | some styled => .ok styled
    | none => .error (.noValue "noclasses")

def numbering (settings : Settings) : Numbering :=
  match settings.get? "linenos" with
  | some value =>
    if value.isEmpty then .none else if value = "inline".toList then .within else .beside
  | none => if (settings.get? "linenums").bind answer? = some true then .beside else .none

/-- The class of the listing, with further classes in front of it. -/
def className (settings : Settings) (classes : List Text) : Text :=
  let name := (settings.get? "css_class").getD "codehilite"
  (settings.get? "cssclass").getD (Text.join " " (classes ++ [name]))

def reservedNames : List Text := ["lang".toList, "style".toList, "src".toList, "self".toList]

def styleNames : List String :=
  ["abap", "algol", "algol_nu", "arduino", "autumn", "borland", "bw", "coffee", "colorful",
    "default", "dracula", "emacs", "friendly", "friendly_grayscale", "fruity", "github-dark",
    "gruvbox-dark", "gruvbox-light", "igor", "inkpot", "lightbulb", "lilypond", "lovelace",
    "manni", "material", "monokai", "murphy", "native", "nord", "nord-darker", "one-dark",
    "paraiso-dark", "paraiso-light", "pastie", "perldoc", "rainbow_dash", "rrt", "sas",
    "solarized-dark", "solarized-light", "staroffice", "stata-dark", "stata-light", "tango",
    "trac", "vim", "vs", "xcode", "zenburn"]

def listing (settings : Settings) (classes : List Text) (code : Text) :
    Except ListingFault Listing := do
  for name in reservedNames do
    if (settings.get? name).isSome then throw (.reserved name)
  let _ ← settings.saysYes "stripnl" true
  let trimmed ← settings.saysYes "stripall" false
  let _ ← settings.saysYes "ensurenl" true
  let _ ← settings.size "tabsize" 0
  let style := (settings.get? "pygments_style").getD "default"
  if ! styleNames.any fun name => name.toList = style then throw (.unknownStyle style)
  let bare ← settings.saysYes "nowrap" false
  let styled ← settings.isStyled
  let _ ← settings.saysYes "noclobber_cssfile" false
  let enclosed ← settings.saysYes "wrapcode" true
  let _ ← settings.saysYes "debug_token_types" false
  if ! (settings.get "tagsfile").isEmpty then throw .noTags
  let firstNumber ← settings.size "linenostart" 1
  let numberStep ← settings.size "linenostep" 1
  let specialStep ← settings.size "linenospecial" 0
  let plainBackground ← settings.saysYes "nobackground" false
  let linked ← settings.saysYes "anchorlinenos" false
  let numbering := settings.numbering
  if numberStep = 0 && numbering ≠ .none && ! bare then throw .noStep
  return {
    code, trimmed, bare, styled, enclosed, firstNumber, numberStep, specialStep,
    plainBackground, linked, numbering
    className := settings.className classes
    setOff := lineNumbers (settings.get "hl_lines")
    fileName := settings.get "filename"
    lineEnd := (settings.get? "lineseparator").getD "\n"
    boxStyle := settings.get "cssstyles"
    codeStyle := settings.get "prestyles"
    anchors := settings.get "lineanchors"
    spans := settings.get "linespans" }

def plainCode (identifier : Text) (classes : List Text) (language : Option Text) (code : Text) :
    Text :=
  let written (name value : Text) : Text :=
    if value.isEmpty then "" else " " ++ name ++ "=\"" ++ Element.escapeValue value ++ "\""
  let languageClass : Text :=
    match language with
    | some language => "language-" ++ language
    | none => ""
  "<pre" ++ written "id" identifier ++ written "class" (Text.join " " classes) ++ "><code" ++
    written "class" languageClass ++ ">" ++
    Text.replace "\"" "&quot;" (Markup.escapeCode code) ++ "</code></pre>"

end Settings

end Listing

end Markdown

end StaticSite
