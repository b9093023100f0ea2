import StaticSite.Config.Toml
import StaticSite.Config.Yaml.Token

/-!
# Nodes of YAML

The tokens of a text with one document are read into nodes: scalars, sequences and mappings,
each with a tag.  Nodes have numbers, by which sequences and mappings refer to those within
them.  A node with an anchor can be used again by an alias, even within itself.
-/

namespace StaticSite

namespace Config

namespace Yaml

/-- A node.  The nodes within it are given by their numbers. -/
inductive Node where
  | scalar (tag text : Text)
  | sequence (tag : Text) (items : List Nat)
  | mapping (tag : Text) (entries : List (Nat × Nat))
  deriving DecidableEq, Repr

def Node.tag : Node → Text
  | .scalar tag _ | .sequence tag _ | .mapping tag _ => tag

/-- What the reader has left and knows. -/
structure Reader where
  tokens : List Token
  nodes : Array Node := #[]
  anchors : List (Text × Nat) := []
  /-- The addresses that the handles of tags stand for. -/
  handles : List (Text × Text) := []

abbrev Read := StateT Reader Reading

/-- How deeply nodes may be nested. -/
def deepest : Nat := 485

def standard : Text := "tag:yaml.org,2002:"

def standardTag (name : String) : Text := standard ++ name.toList

def refuse {α : Type} : Read α := throw .malformed

def look : Read Token := return ((← get).tokens.head?).getD .streamEnd

def skip : Read Unit := modify fun reader => { reader with tokens := reader.tokens.drop 1 }

/-- Pass over a token if it is the next one. -/
def accept (token : Token) : Read Bool := do
  if (← look) = token then skip; return true else return false

/-! ## Tags of plain scalars -/

/-- Digits with single sixty-part groups behind them, such as `1:30:00`. -/
def isSixtyGroups (parts : List Text) : Bool :=
  ! parts.isEmpty && parts.all fun
    | [digit] => digit.isDigit
    | [tens, ones] => '0' ≤ tens && tens ≤ '5' && ones.isDigit
    | _ => false

def isDigitOrMark (character : Char) : Bool := character.isDigit || character = '_'

/-- Digits and underscores that begin with a digit. -/
def isMarkedNumber : Text → Bool
  | first :: rest => first.isDigit && rest.all isDigitOrMark
  | [] => false

def dropSign : Text → Text
  | '-' :: rest | '+' :: rest => rest
  | text => text

/-- Whether a text is a power of ten with a sign, or nothing. -/
def isSignedPower : Text → Bool
  | [] => true
  | mark :: sign :: digits =>
    (mark = 'e' || mark = 'E') && (sign = '-' || sign = '+') && ! digits.isEmpty &&
      digits.all Char.isDigit
  | _ => false

/-- Whether a plain scalar is a number with a decimal point. -/
def isFloat (text : Text) : Bool :=
  let unsigned := dropSign text
  let words : List Text := [".inf", ".Inf", ".INF"]
  let notNumbers : List Text := [".nan", ".NaN", ".NAN"]
  if words.contains unsigned || notNumbers.contains text then true
  else
    match Text.cut? "." unsigned with
    | none => false
    | some (whole, behind) =>
      let fraction := behind.takeWhile isDigitOrMark
      let power := behind.drop fraction.length
      if whole.isEmpty then
        unsigned.length = text.length && isMarkedNumber fraction && isSignedPower power
      else
        match Text.splitOn (· = ':') whole with
        | [whole] => isMarkedNumber whole && isSignedPower power
        | whole :: groups => isMarkedNumber whole && isSixtyGroups groups && power.isEmpty
        | [] => false

def isInteger (text : Text) : Bool :=
  match dropSign text with
  | ['0'] => true
  | '0' :: 'b' :: digits =>
    ! digits.isEmpty && digits.all fun digit => digit = '0' || digit = '1' || digit = '_'
  | '0' :: 'x' :: digits =>
    ! digits.isEmpty && digits.all fun digit =>
      digit = '_' || (Json.hexNumber? [digit]).isSome
  | '0' :: digits => digits.all fun digit => ('0' ≤ digit && digit ≤ '7') || digit = '_'
  | unsigned =>
    match Text.splitOn (· = ':') unsigned with
    | [digits] => isMarkedNumber digits
    | digits :: groups => isMarkedNumber digits && isSixtyGroups groups
    | [] => false

/-- A number of at most so many digits, and at least so many, at the beginning of a text. -/
def digitsBetween? (least most : Nat) (text : Text) : Option (Nat × Text) :=
  let digits := (text.take most).takeWhile Char.isDigit
  if digits.length < least then none else some (Text.toNumber digits, text.drop digits.length)

/-- The parts of a timestamp. -/
structure StampParts where
  date : Calendar.Date
  time : Option ClockTime := none
  zone : Option Int := none
  deriving DecidableEq, Repr

/-- The zone of a timestamp, which takes up the rest of the text. -/
def stampZone? (text : Text) : Option (Option Int) :=
  match text.dropWhile fun character => character = ' ' || character = '\t' with
  | [] => if text.isEmpty then some none else none
  | ['Z'] => some (some 0)
  | sign :: rest => do
    if sign = '-' || sign = '+' then
      let (hours, rest) ← digitsBetween? 1 2 rest
      let (minutes, rest) ←
        match rest with
        | ':' :: rest => digitsBetween? 2 2 rest
        | rest => some (0, rest)
      if rest.isEmpty then
        let seconds : Int := (hours * 3600 + minutes * 60 : Nat)
        return some (if sign = '-' then -seconds else seconds)
      else none
    else none

/-- The time of day and the zone of a timestamp, which take up the rest of the text. -/
def stampTime? (text : Text) : Option (ClockTime × Option Int) := do
  let (hour, rest) ← digitsBetween? 1 2 text
  let (minute, rest) ← digitsBetween? 2 2 (← Toml.char? ':' rest)
  let (second, rest) ← digitsBetween? 2 2 (← Toml.char? ':' rest)
  let (microsecond, rest) :=
    match rest with
    | '.' :: behind =>
      let digits := behind.takeWhile Char.isDigit
      let six := (digits ++ List.replicate 6 '0').take 6
      (Text.toNumber six, behind.drop digits.length)
    | _ => (0, rest)
  return (⟨hour, minute, second, microsecond⟩, ← stampZone? rest)

/-- The parts of a timestamp: a date alone, or a date and a time. -/
def stamp? (text : Text) : Option StampParts := do
  let (year, rest) ← digitsBetween? 4 4 text
  let (month, rest) ← digitsBetween? 1 2 (← Toml.char? '-' rest)
  let (day, rest) ← digitsBetween? 1 2 (← Toml.char? '-' rest)
  let date : Calendar.Date := ⟨year, month, day⟩
  match rest with
  | [] => return ⟨date, none, none⟩
  | separator :: behind =>
    if separator = 'T' || separator = 't' then
      let (time, zone) ← stampTime? behind
      return ⟨date, some time, zone⟩
    else if separator = ' ' || separator = '\t' then
      let (time, zone) ← stampTime? <|
        behind.dropWhile fun character => character = ' ' || character = '\t'
      return ⟨date, some time, zone⟩
    else none

def truthWords : List (String × Bool) :=
  [("yes", true), ("no", false), ("true", true), ("false", false), ("on", true), ("off", false)]

/-- Whether a text is a word in lower case, in upper case, or with a capital letter. -/
def isCased (word text : Text) : Bool :=
  text = word || text = word.map Char.toUpper ||
    text = (word.take 1).map Char.toUpper ++ word.drop 1

/-- A text without a line feed at its end. -/
def dropLastFeed (text : Text) : Text :=
  if text.getLast? = some '\n' then text.dropLast else text

/-- Whether a text is a timestamp by its form.  A date alone has two digits for month and
day. -/
def isStamp (text : Text) : Bool :=
  match stamp? text with
  | some parts => parts.time.isSome || text.length = 10
  | none => false

/-- The tag of a plain scalar.  A line feed at its end does not count. -/
def plainTag (scalar : Text) : Text :=
  let text := dropLastFeed scalar
  if truthWords.any fun (word, _) => isCased word.toList text then standardTag "bool"
  else if isFloat text then standardTag "float"
  else if isInteger text then standardTag "int"
  else if text = "<<" then standardTag "merge"
  else if scalar = [] ∨ text = "~" ∨ isCased "null" text then standardTag "null"
  else if isStamp text then standardTag "timestamp"
  else if text = "=" then standardTag "value"
  else standardTag "str"

/-! ## Reading nodes -/

/-- Give a number to a node that is not read yet. -/
def reserve : Read Nat := do
  let number := (← get).nodes.size
  modify fun reader => { reader with nodes := reader.nodes.push (.scalar [] []) }
  return number

def fill (number : Nat) (node : Node) : Read Unit :=
  modify fun reader => { reader with nodes := reader.nodes.set! number node }

def addNode (node : Node) : Read Nat := do
  let number ← reserve
  fill number node
  return number

/-- The node of a place where nothing is written. -/
def emptyNode : Read Nat := addNode (.scalar (standardTag "null") [])

/-- The anchor and the tag in front of a node. -/
structure Properties where
  anchor : Option Text := none
  tag : Option Text := none

def fullTag (handle : Option Text) (suffix : Text) : Read Text := do
  match handle with
  | none => return suffix
  | some handle =>
    match (← get).handles.lookup handle with
    | some start => return start ++ suffix
    | none => refuse

/-- Read the anchor and the tag of a node, in either order. -/
def readProperties : Read Properties := do
  match ← look with
  | .anchor name =>
    skip
    match ← look with
    | .tag handle suffix => skip; return ⟨some name, some (← fullTag handle suffix)⟩
    | _ => return ⟨some name, none⟩
  | .tag handle suffix =>
    skip
    match ← look with
    | .anchor name => skip; return ⟨some name, some (← fullTag handle suffix)⟩
    | _ => return ⟨none, some (← fullTag handle suffix)⟩
  | _ => return ⟨none, none⟩

def remember (anchor : Option Text) (number : Nat) : Read Unit :=
  match anchor with
  | none => return
  | some name => modify fun reader => { reader with anchors := (name, number) :: reader.anchors }

def collectionTag (tag : Option Text) (default : String) : Text :=
  match tag with
  | none | some ['!'] => standardTag default
  | some tag => tag

def scalarTag (tag : Option Text) (text : Text) (plain : Bool) : Text :=
  match tag with
  | some ['!'] => plainTag text
  | some tag => tag
  | none => if plain then plainTag text else standardTag "str"

def lookIn (tokens : List Token) : Read Bool := return tokens.contains (← look)

/-- The number of the node that an alias stands for. -/
def findAnchor (name : Text) : Read Nat := do
  match (← get).anchors.lookup name with
  | some number => return number
  | none => refuse

/-- Begin a node: read its anchor and its tag, and give it a number. -/
def beginNode : Read (Properties × Nat) := do
  let properties ← readProperties
  if ← isTaken properties.anchor then refuse
  else
    let number ← reserve
    remember properties.anchor number
    return (properties, number)
where
  /-- Whether an anchor is that of another node. -/
  isTaken (anchor : Option Text) : Read Bool := do
    let anchors := (← get).anchors
    return anchor.any fun name => (anchors.lookup name).isSome

/-- A node without a text of its own, which has to have an anchor or a tag. -/
def bareNode (properties : Properties) : Read Node :=
  if properties.anchor.isSome || properties.tag.isSome then
    return .scalar (scalarTag properties.tag [] true) []
  else refuse

/-- How the nodes within the collections of each kind are read. -/
structure Inner where
  indentless : Read (List Nat)
  blockItems : Read (List Nat)
  blockEntries : Read (List (Nat × Nat))
  flowItems : Read (List Nat)
  flowEntries : Read (List (Nat × Nat))

/-- Read a node behind its anchor and its tag. -/
def readContent (block indentless : Bool) (properties : Properties) (inner : Inner) :
    Read Node := do
  let sequence (items : List Nat) : Node := .sequence (collectionTag properties.tag "seq") items
  let mapping (entries : List (Nat × Nat)) : Node :=
    .mapping (collectionTag properties.tag "map") entries
  match ← look with
  | .blockEntry =>
    if indentless then return sequence (← inner.indentless) else bareNode properties
  | .scalar text plain =>
    skip
    return .scalar (scalarTag properties.tag text plain) text
  | .flowSequenceStart =>
    skip
    return sequence (← inner.flowItems)
  | .flowMappingStart =>
    skip
    return mapping (← inner.flowEntries)
  | .blockSequenceStart =>
    if block then skip; return sequence (← inner.blockItems) else bareNode properties
  | .blockMappingStart =>
    if block then skip; return mapping (← inner.blockEntries) else bareNode properties
  | _ => bareNode properties

/-- Pass over the comma in front of all entries of a flow collection but the first one. -/
def separate (first : Bool) : Read Unit := do
  if first then return
  else if ← accept .flowEntry then return
  else refuse

/-- Read the value behind a key, which may have none. -/
def readValueWith (value : Read Nat) : Read Nat := do
  if ← accept .value then value else emptyNode

mutual

/-- Read a node; the answer is its number.  Outside of flow collections block collections may
begin; as the value or the key of a mapping a sequence may be written without indentation. -/
def readNode : (fuel depth : Nat) → (block indentless : Bool) → Read Nat
  | 0, _, _, _ => refuse
  | fuel + 1, depth, block, indentless => do
    if deepest < depth then throw (.fault .depth)
    else
      match ← look with
      | .alias name => skip; findAnchor name
      | _ =>
        let (properties, number) ← beginNode
        let node ← readContent block indentless properties {
          indentless := readIndentless fuel (depth + 1)
          blockItems := readBlockItems fuel (depth + 1)
          blockEntries := readBlockEntries fuel (depth + 1)
          flowItems := readFlowItems fuel (depth + 1) true
          flowEntries := readFlowEntries fuel (depth + 1) true }
        fill number node
        return number
termination_by structural fuel => fuel

/-- Read a node unless one of the tokens that may follow it comes at once. -/
def readNodeUnless : (fuel depth : Nat) → (block indentless : Bool) → List Token → Read Nat
  | 0, _, _, _, _ => refuse
  | fuel + 1, depth, block, indentless, tokens => do
    if ← lookIn tokens then emptyNode else readNode fuel depth block indentless
termination_by structural fuel => fuel

def readBlockItems : (fuel depth : Nat) → Read (List Nat)
  | 0, _ => refuse
  | fuel + 1, depth => do
    if ← accept .blockEntry then
      let item ← readNodeUnless fuel depth true false [.blockEntry, .blockEnd]
      return item :: (← readBlockItems fuel depth)
    else if ← accept .blockEnd then return []
    else refuse
termination_by structural fuel => fuel

/-- Read the items of a sequence without indentation. -/
def readIndentless : (fuel depth : Nat) → Read (List Nat)
  | 0, _ => refuse
  | fuel + 1, depth => do
    if ← accept .blockEntry then
      let item ← readNodeUnless fuel depth true false [.blockEntry, .key, .value, .blockEnd]
      return item :: (← readIndentless fuel depth)
    else return []
termination_by structural fuel => fuel

def readBlockEntries : (fuel depth : Nat) → Read (List (Nat × Nat))
  | 0, _ => refuse
  | fuel + 1, depth => do
    let follow : List Token := [.key, .value, .blockEnd]
    if ← accept .blockEnd then return []
    else if ← accept .key then
      let key ← readNodeUnless fuel depth true true follow
      let value ← readValueWith (readNodeUnless fuel depth true true follow)
      return (key, value) :: (← readBlockEntries fuel depth)
    else refuse
termination_by structural fuel => fuel

/-- Read the items of a flow sequence.  An item may be a mapping with one entry. -/
def readFlowItems : (fuel depth : Nat) → (first : Bool) → Read (List Nat)
  | 0, _, _ => refuse
  | fuel + 1, depth, first => do
    if ← accept .flowSequenceEnd then return []
    separate first
    if ← accept .key then
      let key ← readNodeUnless fuel (depth + 1) false false
        [.value, .flowEntry, .flowSequenceEnd]
      let value ← readValueWith
        (readNodeUnless fuel (depth + 1) false false [.flowEntry, .flowSequenceEnd])
      let item ← addNode (.mapping (standardTag "map") [(key, value)])
      return item :: (← readFlowItems fuel depth false)
    else if ← accept .flowSequenceEnd then return []
    else
      let item ← readNode fuel depth false false
      return item :: (← readFlowItems fuel depth false)
termination_by structural fuel => fuel

/-- Read the entries of a flow mapping.  An entry may be a key alone. -/
def readFlowEntries : (fuel depth : Nat) → (first : Bool) → Read (List (Nat × Nat))
  | 0, _, _ => refuse
  | fuel + 1, depth, first => do
    if ← accept .flowMappingEnd then return []
    separate first
    if ← accept .key then
      let key ← readNodeUnless fuel depth false false [.value, .flowEntry, .flowMappingEnd]
      let value ← readValueWith
        (readNodeUnless fuel depth false false [.flowEntry, .flowMappingEnd])
      return (key, value) :: (← readFlowEntries fuel depth false)
    else if ← accept .flowMappingEnd then return []
    else
      let key ← readNode fuel depth false false
      let value ← emptyNode
      return (key, value) :: (← readFlowEntries fuel depth false)
termination_by structural fuel => fuel

end

/-! ## Documents -/

/-- The handles that every document knows. -/
def standardHandles : List (Text × Text) := [(['!'], ['!']), (['!', '!'], standard)]

def readDirectives (versioned : Bool) (handles : List (Text × Text)) : (fuel : Nat) → Read Unit
  | 0 => refuse
  | fuel + 1 => do
    match ← look with
    | .yamlDirective major _ =>
      if versioned ∨ major ≠ 1 then refuse
      skip
      readDirectives true handles fuel
    | .tagDirective handle start =>
      if (handles.lookup handle).isSome then refuse
      skip
      readDirectives versioned ((handle, start) :: handles) fuel
    | .otherDirective =>
      skip
      readDirectives versioned handles fuel
    | _ => modify fun reader => { reader with handles := handles ++ standardHandles }

/-- Pass over the marks of a document's end. -/
def skipDocumentEnds : (fuel : Nat) → Read Unit
  | 0 => return
  | fuel + 1 => do if ← accept .documentEnd then skipDocumentEnds fuel

def endsDocument : Token → Bool
  | .yamlDirective _ _ | .tagDirective _ _ | .otherDirective => true
  | .documentStart | .documentEnd | .streamEnd => true
  | _ => false

/-- Read a document that begins with directives or with its mark. -/
def readMarked (size : Nat) : Read Nat := do
  readDirectives false [] (size + 1)
  if ← accept .documentStart then
    if endsDocument (← look) then emptyNode else readNode (3 * size + 3) 0 true false
  else refuse

/-- Read the node of a document, or nothing if the text ends. -/
def readRoot (size : Nat) : Read (Option Nat) := do
  match ← look with
  | .streamEnd => return none
  | .documentStart | .yamlDirective _ _ | .tagDirective _ _ | .otherDirective =>
    return some (← readMarked size)
  | _ =>
    modify fun reader => { reader with handles := standardHandles }
    return some (← readNode (3 * size + 3) 0 true false)

/-- Read the only document of a text; a text may have none. -/
def readDocument (size : Nat) : Read (Option Nat) := do
  let node ← readRoot size
  skipDocumentEnds (size + 1)
  if (← look) = .streamEnd then return node else refuse

/-- The nodes of a text, and the number of the one that has all others within it. -/
def compose (text : Text) : Reading (Array Node × Option Nat) := do
  let tokens ← tokenize text
  let (root, reader) ← (readDocument tokens.length).run { tokens := tokens }
  return (reader.nodes, root)

end Yaml

end Config

end StaticSite
