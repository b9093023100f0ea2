import StaticSite.Config.Toml
import StaticSite.Config.Yaml.Read
import StaticSite.Workspace

/-!
# The configuration of a site

A configuration file is read in the format that its suffix names; a file with another suffix
is read as JSON.  Of its keys a site needs the base address, which ends with a slash, and
may have a language and a title.
-/

namespace StaticSite

/-- The configuration of a site. -/
structure SiteConfig where
  baseURL : Text
  languageCode : Text
  title : Text
  deriving DecidableEq, Repr

namespace Config

/-- The name of the configuration file of a new site. -/
def defaultName : Text := "hunim.toml"

/-- The language of a site that names none. -/
def defaultLanguage : Text := "en-us"

def formatOf (suffix : Text) : ConfigFormat :=
  let lowered := Text.lower suffix
  if lowered = ".toml" then .toml
  else if lowered = ".yml" ∨ lowered = ".yaml" then .yaml
  else .json

/-- Read a text in a format.  A text in YAML without a value is an empty mapping. -/
def readAs (format : ConfigFormat) (text : Text) : Reading Value :=
  match format with
  | .toml => Toml.read text
  | .json => Json.read text
  | .yaml => do
    match ← Yaml.read text with
    | .null => return .mapping []
    | value => return value

def entriesOf (path : Path) (text : Text) : Except Fault (List (Value × Value)) :=
  let format := formatOf path.suffix
  match readAs format text with
  | .error .malformed => .error (.config (.malformed format path.text))
  | .error (.fault fault) => .error fault
  | .ok (.mapping entries) => .ok entries
  | .ok _ => .error (.config (.noMapping path.text))

def load (files : FileTree) (path : Path) : Except Fault (List (Value × Value)) := do
  unless ← files.exists? path do throw (.config (.missing path.text))
  match Utf8.decode (← files.read path) with
  | .error _ => throw (.config (.encoding path.text))
  | .ok text => entriesOf path (Text.unifyLineEnds text)

/-- The text of a key, or a default. -/
def textOf (entries : List (Value × Value)) (key default : Text) : Text :=
  match get? key entries with
  | some value => value.asText
  | none => default

def siteConfig (entries : List (Value × Value)) : Except Fault SiteConfig :=
  match get? "baseURL" entries with
  | some (.text base) =>
    if base.isEmpty then .error (.config .noBaseURL)
    else if ! Text.endsWith "/" base then .error (.config .openBaseURL)
    else .ok ⟨base, textOf entries "languageCode" defaultLanguage, textOf entries "title" []⟩
  | _ => .error (.config .noBaseURL)

def readSite (files : FileTree) (root : Path) (name : Text) : Except Fault SiteConfig := do
  siteConfig (← load files (root.append (Path.parse name)))

end Config

end StaticSite
