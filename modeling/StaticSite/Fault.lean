import StaticSite.Text.Printable
import StaticSite.Text.Utf8

/-!
# Faults

Every way in which a step can fail, as a cause, and the wording of each cause.  Faults of a
site are reported to its author; faults of the file system come from the machine; the
remaining ones are values that a step cannot take.
-/

namespace StaticSite

/-- A place in a source, as far as it is known. -/
structure Place where
  source : Option Text := none
  line : Option Nat := none
  column : Option Nat := none
  deriving DecidableEq, Repr

namespace Place

/-- The place in front of a message: the source, its line and its column.  A column needs a
line and a line needs a source. -/
def label (place : Place) : Text :=
  match place.source with
  | none | some [] => []
  | some source =>
    match place.line, place.column with
    | none, _ => source
    | some line, none => source ++ ":" ++ Text.ofNat line
    | some line, some column => source ++ ":" ++ Text.ofNat line ++ ":" ++ Text.ofNat column

def describe (place : Place) (message : Text) : Text :=
  match place.label with
  | [] => message
  | label => label ++ " " ++ message

end Place

/-- The formats of a configuration file. -/
inductive ConfigFormat where
  | toml
  | yaml
  | json
  deriving DecidableEq, Repr

def ConfigFormat.name : ConfigFormat → Text
  | .toml => "TOML"
  | .yaml => "YAML"
  | .json => "JSON"

/-- What is wrong with a configuration, or with the name of a new site. -/
inductive ConfigFault where
  | missing (path : Text)
  | encoding (path : Text)
  | malformed (format : ConfigFormat) (path : Text)
  | noMapping (path : Text)
  | noBaseURL
  | openBaseURL
  | noSiteName
  | siteExists (path : Text)
  | other (message : Text)
  deriving DecidableEq, Repr

def ConfigFault.message : ConfigFault → Text
  | .missing path => "Config file not found: " ++ path
  | .encoding path => "Config file is not valid UTF-8: " ++ path
  | .malformed format path =>
    "Invalid " ++ format.name ++ " in config file " ++ path ++ ": malformed text"
  | .noMapping path => "Config must be a mapping: " ++ path
  | .noBaseURL => "baseURL is required"
  | .openBaseURL => "baseURL must end with /"
  | .noSiteName => "You must provide a site name"
  | .siteExists path => "Directory already exists: " ++ path
  | .other message => message

/-- What is wrong with the directories of a site. -/
inductive SourceFault where
  | noSource (path : Text)
  | cleansRoot
  | cleansOutside
  | copy (source target reason : Text)
  | other (message : Text)
  deriving DecidableEq, Repr

/-- The wording of a fault of the site's directories. -/
def SourceFault.message : SourceFault → Text
  | .noSource path => "Expected a src directory: " ++ path
  | .cleansRoot => "Refusing to clean project root."
  | .cleansOutside => "Refusing to clean output directory outside project root."
  | .copy source target reason => "Could not copy " ++ source ++ " to " ++ target ++ ": " ++ reason
  | .other message => message

/-- What is wrong with a document. -/
inductive ParseFault where
  | encoding (flaw : Utf8.Flaw) (offset : Nat)
  | noOpeningBar
  | noPair
  | openPair
  | noClosingBar
  | unknownZone (zone : Text)
  | invalidDate (value : Text)
  | undatedPost
  | other (message : Text)
  deriving DecidableEq, Repr

def ParseFault.message : ParseFault → Text
  | .encoding flaw offset =>
    "Not valid UTF-8 (" ++ flaw.message ++ " at byte " ++ Text.ofNat offset ++ ")"
  | .noOpeningBar => "Expected --- at start"
  | .noPair => "Expected key value pair"
  | .openPair => "Got EOF on key-value pair"
  | .noClosingBar => "Expected --- at the end"
  | .unknownZone zone => "Unknown time zone: " ++ zone
  | .invalidDate value => "Invalid date: " ++ Text.quoted value
  | .undatedPost => "Feed post has no date"
  | .other message => message

/-- What is wrong with the use of components. -/
inductive ComponentFault where
  | unclosed (name : Text)
  | cyclic
  | other (message : Text)
  deriving DecidableEq, Repr

def ComponentFault.message : ComponentFault → Text
  | .unclosed name => "Unclosed template for " ++ name
  | .cyclic => "Component expansion does not terminate (cyclic components)"
  | .other message => message

/-- A fault of a site, which its author can mend. -/
inductive SiteFault where
  | config (fault : ConfigFault)
  | source (fault : SourceFault)
  | parse (fault : ParseFault) (place : Place)
  | component (fault : ComponentFault) (place : Place)
  | renderer (path detail : Text)
  | noTemplate (name : Text)
  | other (message : Text)
  deriving DecidableEq, Repr

def SiteFault.message : SiteFault → Text
  | .config fault => fault.message
  | .source fault => fault.message
  | .parse fault place => place.describe fault.message
  | .component fault place => place.describe fault.message
  | .renderer path [] => "Renderer failed for file " ++ path
  | .renderer path detail => "Renderer failed for file " ++ path ++ ": " ++ detail
  | .noTemplate name => "Template file not found in cache: " ++ name
  | .other message => message

/-- What the machine refuses to do with a path. -/
inductive FileRefusal where
  | missing
  | exists
  | notDirectory
  | isDirectory
  | nameTooLong
  | notEmpty
  deriving DecidableEq, Repr

def FileRefusal.number : FileRefusal → Nat
  | .missing => 2
  | .exists => 17
  | .notDirectory => 20
  | .isDirectory => 21
  | .nameTooLong => 36
  | .notEmpty => 39

def FileRefusal.message : FileRefusal → Text
  | .missing => "No such file or directory"
  | .exists => "File exists"
  | .notDirectory => "Not a directory"
  | .isDirectory => "Is a directory"
  | .nameTooLong => "File name too long"
  | .notEmpty => "Directory not empty"

/-- A fault of the file system or of the machine around it. -/
inductive FileFault where
  | refused (refusal : FileRefusal) (path : Text)
  | other (message : Text)
  deriving DecidableEq, Repr

def FileFault.message : FileFault → Text
  | .refused refusal path =>
    "[Errno " ++ Text.ofNat refusal.number ++ "] " ++ refusal.message ++ ": " ++ Text.quoted path
  | .other message => message

/-- What is wrong with the settings of a listing. -/
inductive ListingFault where
  /-- A setting whose value is neither yes nor no. -/
  | noAnswer (name value : Text)
  /-- A setting whose value has been dropped because it is neither yes nor no. -/
  | noValue (name : Text)
  | noInteger (name value : Text)
  /-- A setting whose name stands for a part of the listing itself. -/
  | reserved (name : Text)
  /-- A listing that numbers every line whose number is a multiple of zero. -/
  | noStep
  | unknownStyle (name : Text)
  /-- A file of tags, which needs a reader that there is not. -/
  | noTags
  deriving DecidableEq, Repr

def ListingFault.message : ListingFault → Text
  | .noAnswer name value =>
    "Invalid value " ++ Text.quoted value ++ " for option " ++ name ++ answers
  | .noValue name => "Invalid type None for option " ++ name ++ answers
  | .noInteger name value =>
    "Invalid value " ++ Text.quoted value ++ " for option " ++ name ++
      "; you must give an integer value"
  | .reserved name =>
    "markdown.extensions.codehilite.CodeHilite() got multiple values for keyword argument " ++
      Text.quoted name
  | .noStep => "integer modulo by zero"
  | .unknownStyle name =>
    "Could not find style module " ++ Text.quoted ("pygments.styles." ++ name) ++ "."
  | .noTags =>
    "The \"ctags\" package must to be installed to be able to use the \"tagsfile\" feature."
where
  answers : Text := "; use 1/0, yes/no, true/false, on/off"

/-- A fault of any kind. -/
inductive Fault where
  | site (fault : SiteFault)
  | file (fault : FileFault)
  | value (message : Text)
  /-- A moment outside the years 1 to 9999. -/
  | range
  | tooLarge
  /-- A value nested more deeply than a reader follows. -/
  | depth
  | unknownWord (word : Text)
  | emptyText
  /-- A text that has not the form of its tag. -/
  | noMatch
  /-- A value of a kind that a step has no use for. -/
  | kind (message : Text)
  /-- A listing that cannot be shown as it is asked for. -/
  | listing (fault : ListingFault)
  /-- A failure that was asked for. -/
  | failed (message : Text)
  deriving DecidableEq, Repr

namespace Fault

def message : Fault → Text
  | .site fault => fault.message
  | .file fault => fault.message
  | .value message => message
  | .range => "date value out of range"
  | .tooLarge => "signed integer is greater than maximum"
  | .depth => "maximum recursion depth exceeded"
  | .unknownWord word => Text.quoted word
  | .emptyText => "string index out of range"
  | .noMatch => "'NoneType' object has no attribute 'groupdict'"
  | .kind message => message
  | .listing fault => fault.message
  | .failed message => message

def config (fault : ConfigFault) : Fault := .site (.config fault)

def source (fault : SourceFault) : Fault := .site (.source fault)

def parse (fault : ParseFault) (place : Place) : Fault := .site (.parse fault place)

def component (fault : ComponentFault) (place : Place) : Fault := .site (.component fault place)

def refused (refusal : FileRefusal) (path : Text) : Fault := .file (.refused refusal path)

end Fault

end StaticSite
