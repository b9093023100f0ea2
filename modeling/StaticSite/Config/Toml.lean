import StaticSite.Config.Json

/-!
# Configurations in TOML

A configuration is a sequence of statements: tables `[a.b]`, items of arrays of tables
`[[a.b]]`, and pairs `key = value`.  Each statement adds to one nested mapping.  Marks on
the paths of the mapping keep a table from being declared twice and an inline value from
being added to.
-/

namespace StaticSite

namespace Config

namespace Toml

/-- How deeply arrays and inline tables may be nested.  An array counts for two levels and an
inline table for three. -/
def deepest : Nat := 978

abbrev KeyPath := List Text

/-- What is known of a key path. -/
inductive Mark where
  /-- The table was declared by its name and cannot be declared again. -/
  | declared
  /-- The value was written in line; nothing can be added to it or below it. -/
  | frozen
  deriving DecidableEq, Repr

abbrev Marks := List (KeyPath × Mark)

/-- Whether a key path has a mark.  A frozen path freezes what is below it. -/
def hasMark (marks : Marks) (mark : Mark) (path : KeyPath) : Bool :=
  marks.any fun (marked, kind) =>
    kind = mark &&
      match mark with
      | .declared => marked = path
      | .frozen => marked.isPrefixOf path

def unmark (marks : Marks) (path : KeyPath) : Marks :=
  marks.filter fun (marked, _) => ! path.isPrefixOf marked

/-- The marks with that of a value: nothing can be added to an array or to an inline table. -/
def freeze (path : KeyPath) (value : Value) (marks : Marks) : Marks :=
  match value with
  | .list _ | .mapping _ => (path, .frozen) :: marks
  | _ => marks

abbrev Table := List (Value × Value)

/-- Change the table at a key path, which is made as far as it is missing.  Where the path
meets an array of tables and `openLists` is set, it goes on in the last table. -/
def modifyTable (openLists : Bool) (change : Table → Option Table) : KeyPath → Table → Option Table
  | [], table => change table
  | key :: path, table => do
    match get? key table with
    | none =>
      let inner ← modifyTable openLists change path []
      return put (.text key) (.mapping inner) table
    | some (.mapping inner) =>
      let inner ← modifyTable openLists change path inner
      return put (.text key) (.mapping inner) table
    | some (.list items) =>
      match openLists, items.reverse with
      | true, .mapping inner :: earlier =>
        let inner ← modifyTable openLists change path inner
        return put (.text key) (.list ((.mapping inner :: earlier).reverse)) table
      | _, _ => none
    | some _ => none

def addKey (key : Text) (value : Value) (table : Table) : Option Table :=
  if (get? key table).isSome then none else some (table ++ [(.text key, value)])

def addTable (key : Text) (table : Table) : Option Table :=
  match get? key table with
  | none => some (table ++ [(.text key, .list [.mapping []])])
  | some (.list items) => some (put (.text key) (.list (items ++ [.mapping []])) table)
  | some _ => none

def demand {α : Type} : Option α → Reading α
  | some value => .ok value
  | none => .error .malformed

def isSpace (character : Char) : Bool := character = ' ' || character = '\t'

def skipSpaces (text : Text) : Text := text.dropWhile isSpace

/-- Whether a character is a control character other than those allowed. -/
def isControl (allowed : List Char) (character : Char) : Bool :=
  (character.toNat < 0x20 || character.toNat = 0x7F) && ! allowed.contains character

/-- Drop a comment up to the line feed. -/
def skipComment : Text → Reading Text
  | '#' :: rest =>
    let comment := rest.takeWhile (· ≠ '\n')
    if comment.any (isControl ['\t']) then .error .malformed
    else .ok (rest.drop comment.length)
  | text => .ok text

/-- Drop white space, line feeds and comments. -/
def skipFiller : (fuel : Nat) → Text → Reading Text
  | 0, text => .ok text
  | fuel + 1, text =>
    match text.dropWhile fun character => isSpace character || character = '\n' with
    | '#' :: rest => do skipFiller fuel (← skipComment ('#' :: rest))
    | rest => .ok rest

/-- Whether a character may stand in a key without quotes. -/
def isBareKey (character : Char) : Bool :=
  character.isAlphanum || character = '-' || character = '_'

/-- Read a character written as a number of hexadecimal digits. -/
def readHex (width : Nat) (text : Text) : Reading (Char × Text) :=
  if text.length < width then .error .malformed
  else
    match Json.hexNumber? (text.take width) with
    | none => .error .malformed
    | some code =>
      if code < 0xD800 ∨ (0xDFFF < code ∧ code < 0x110000) then
        .ok (Char.ofNat code, text.drop width)
      else .error .malformed

/-- Read an escape after its backslash.  In a text of several lines a backslash at the end of
a line drops the line end and the white space after it. -/
def readEscape (multiline : Bool) (text : Text) : Reading (Text × Text) :=
  match text with
  | 'b' :: rest => .ok (['\x08'], rest)
  | 't' :: rest => .ok (['\t'], rest)
  | 'n' :: rest => .ok (['\n'], rest)
  | 'f' :: rest => .ok (['\x0c'], rest)
  | 'r' :: rest => .ok (['\r'], rest)
  | '"' :: rest => .ok (['"'], rest)
  | '\\' :: rest => .ok (['\\'], rest)
  | 'u' :: rest => do
    let (character, rest) ← readHex 4 rest
    return ([character], rest)
  | 'U' :: rest => do
    let (character, rest) ← readHex 8 rest
    return ([character], rest)
  | character :: rest =>
    if multiline ∧ (isSpace character ∨ character = '\n') then
      let skipFilled (rest : Text) : Text :=
        rest.dropWhile fun character => isSpace character || character = '\n'
      if character = '\n' then .ok ([], skipFilled rest)
      else
        match skipSpaces rest with
        | [] => .ok ([], [])
        | '\n' :: rest => .ok ([], skipFilled rest)
        | _ => .error .malformed
    else .error .malformed
  | [] => .error .malformed

/-- Read a text in double quotes after its opening, with the characters read so far from the
last to the first. -/
def readBasic (multiline : Bool) : (fuel : Nat) → (reversed : Text) → Text →
    Reading (Text × Text)
  | 0, _, _ | _, _, [] => .error .malformed
  | fuel + 1, reversed, character :: rest =>
    if character = '"' then
      if multiline then
        match rest with
        | '"' :: '"' :: rest => .ok (reversed.reverse, rest)
        | _ => readBasic multiline fuel ('"' :: reversed) rest
      else .ok (reversed.reverse, rest)
    else if character = '\\' then do
      let (escaped, rest) ← readEscape multiline rest
      readBasic multiline fuel (escaped.reverse ++ reversed) rest
    else if isControl (if multiline then ['\t', '\n'] else ['\t']) character then
      .error .malformed
    else readBasic multiline fuel (character :: reversed) rest

/-- Read a text in single quotes up to its closing mark. -/
def readLiteral (closing : Text) (allowed : List Char) (text : Text) : Reading (Text × Text) := do
  let (value, rest) ← demand (Text.cut? closing text)
  if value.any (isControl allowed) then throw .malformed else return (value, rest)

/-- At most two more quotes that belong to a text of several lines. -/
def readExtraQuotes (quote : Char) (value rest : Text) : Text × Text :=
  match rest with
  | first :: second :: rest' =>
    if first = quote then
      if second = quote then (value ++ [quote, quote], rest')
      else (value ++ [quote], second :: rest')
    else (value, rest)
  | [first] => if first = quote then (value ++ [quote], []) else (value, rest)
  | [] => (value, rest)

/-- Drop a line feed right after the opening of a text of several lines. -/
def dropLineFeed : Text → Text
  | '\n' :: rest => rest
  | text => text

def singleQuote : Char := '\x27'

def readKeyPart (text : Text) : Reading (Text × Text) :=
  match text with
  | [] => .error .malformed
  | '"' :: rest => readBasic false (rest.length + 1) [] rest
  | character :: rest =>
    if character = singleQuote then readLiteral [singleQuote] ['\t'] rest
    else if isBareKey character then
      .ok (text.takeWhile isBareKey, text.dropWhile isBareKey)
    else .error .malformed

/-- Read the parts of a key, with the dots between them. -/
def readKeyParts : (fuel : Nat) → Text → Reading (KeyPath × Text)
  | 0, _ => .error .malformed
  | fuel + 1, text => do
    let (part, rest) ← readKeyPart text
    match skipSpaces rest with
    | '.' :: rest =>
      let (parts, rest) ← readKeyParts fuel (skipSpaces rest)
      return (part :: parts, rest)
    | rest => return ([part], rest)

def readKey (text : Text) : Reading (KeyPath × Text) := readKeyParts (text.length + 1) text

/-- A number of two digits within bounds, at the beginning of a text. -/
def twoDigits? (low high : Nat) : Text → Option (Nat × Text)
  | first :: second :: rest =>
    let value := (first.toNat - 48) * 10 + (second.toNat - 48)
    if first.isDigit && second.isDigit && low ≤ value && value ≤ high then some (value, rest)
    else none
  | _ => none

/-- A given character at the beginning of a text. -/
def char? (expected : Char) : Text → Option Text
  | character :: rest => if character = expected then some rest else none
  | [] => none

/-- A time of day at the beginning of a text; of the fraction six digits count. -/
def time? (text : Text) : Option (ClockTime × Text) := do
  let (hour, rest) ← twoDigits? 0 23 text
  let (minute, rest) ← twoDigits? 0 59 (← char? ':' rest)
  let (second, rest) ← twoDigits? 0 59 (← char? ':' rest)
  match rest with
  | '.' :: behind =>
    let digits := behind.takeWhile Char.isDigit
    if digits.isEmpty then return (⟨hour, minute, second, 0⟩, rest)
    else
      let six := (digits ++ List.replicate 6 '0').take 6
      return (⟨hour, minute, second, Text.toNumber six⟩, behind.drop digits.length)
  | _ => return (⟨hour, minute, second, 0⟩, rest)

/-- A date at the beginning of a text, whether the calendar has it or not. -/
def date? (text : Text) : Option (Calendar.Date × Text) := do
  let year := text.take 4
  if year.length = 4 && year.all Char.isDigit then
    let (month, rest) ← twoDigits? 1 12 (← char? '-' (text.drop 4))
    let (day, rest) ← twoDigits? 1 31 (← char? '-' rest)
    return (⟨Text.toNumber year, month, day⟩, rest)
  else none

/-- A zone at the beginning of a text, in seconds east of the universal time. -/
def zone? (text : Text) : Option (Int × Text) := do
  match text with
  | 'Z' :: rest | 'z' :: rest => return (0, rest)
  | sign :: rest =>
    if sign = '+' || sign = '-' then
      let (hours, rest) ← twoDigits? 0 23 rest
      let (minutes, rest) ← twoDigits? 0 59 (← char? ':' rest)
      let seconds : Int := (hours * 3600 + minutes * 60 : Nat)
      return (if sign = '-' then -seconds else seconds, rest)
    else none
  | [] => none

def dateValue? (text : Text) : Option (Reading (Value × Text)) := do
  let (date, rest) ← date? text
  let plain := (Value.date date, rest)
  let (value, rest) :=
    match rest with
    | separator :: behind =>
      if separator = 'T' || separator = 't' || separator = ' ' then
        match time? behind with
        | some (time, rest) =>
          let moment : Calendar.Moment := ⟨date, time.hour, time.minute, time.second⟩
          match zone? rest with
          | some (zone, rest) => (.timestamp ⟨moment, time.microsecond, some zone⟩, rest)
          | none => (.timestamp ⟨moment, time.microsecond, none⟩, rest)
        | none => plain
      else plain
    | [] => plain
  return if date.isValid then .ok (value, rest) else .error .malformed

/-- Digits of a base with single underscores between them, and the rest of a text. -/
def spanDigits (isDigit : Char → Bool) : Text → Text × Text
  | [] => ([], [])
  | '_' :: digit :: rest =>
    if isDigit digit then
      let (digits, rest) := spanDigits isDigit rest
      (digit :: digits, rest)
    else ([], '_' :: digit :: rest)
  | digit :: rest =>
    if isDigit digit then
      let (digits, rest) := spanDigits isDigit rest
      (digit :: digits, rest)
    else ([], digit :: rest)

def digits? (isDigit : Char → Bool) (text : Text) : Option (Text × Text) :=
  match text with
  | digit :: _ => if isDigit digit then some (spanDigits isDigit text) else none
  | [] => none

def inBase (base : Nat) (digits : Text) : Nat :=
  digits.foldl (fun value digit => value * base + (Json.hexNumber? [digit]).getD 0) 0

/-- A number in base two, eight or sixteen after its leading zero. -/
def radix? : Text → Option (Value × Text)
  | 'x' :: rest => do
    let (digits, rest) ← digits? (fun digit => (Json.hexNumber? [digit]).isSome) rest
    return (.int (inBase 16 digits), rest)
  | 'b' :: rest => do
    let (digits, rest) ← digits? (fun digit => digit = '0' || digit = '1') rest
    return (.int (inBase 2 digits), rest)
  | 'o' :: rest => do
    let (digits, rest) ← digits? (fun digit => '0' ≤ digit && digit ≤ '7') rest
    return (.int (inBase 8 digits), rest)
  | _ => none

def splitSign : Text → Bool × Text
  | '-' :: rest => (true, rest)
  | '+' :: rest => (false, rest)
  | text => (false, text)

/-- The digits behind a decimal point. -/
def fraction? : Text → Option (Text × Text)
  | '.' :: rest => digits? Char.isDigit rest
  | _ => none

def power? : Text → Option (Int × Text)
  | mark :: rest =>
    if mark = 'e' || mark = 'E' then do
      let (negative, rest) := splitSign rest
      let (digits, rest) ← digits? Char.isDigit rest
      let size : Int := Text.toNumber digits
      return (if negative then -size else size, rest)
    else none
  | [] => none

/-- The digits in front of a decimal point.  A zero stands alone. -/
def whole? : Text → Option (Text × Text)
  | '0' :: rest => some (['0'], rest)
  | text => digits? Char.isDigit text

def decimal? (text : Text) : Option (Reading (Value × Text)) := do
  let (negative, unsigned) := splitSign text
  let (whole, rest) ← whole? unsigned
  match fraction? rest, power? rest with
  | none, none => return do return (.int (← integer negative whole), rest)
  | none, some (power, rest) =>
    return .ok (.float (Decimal.toFloat negative whole [] power), rest)
  | some (fraction, rest), _ =>
    match power? rest with
    | none => return .ok (.float (Decimal.toFloat negative whole fraction 0), rest)
    | some (power, rest) =>
      return .ok (.float (Decimal.toFloat negative whole fraction power), rest)

def number? (text : Text) : Option (Reading (Value × Text)) :=
  match text with
  | '0' :: rest =>
    match radix? rest with
    | some answer => some (.ok answer)
    | none => decimal? text
  | _ => decimal? text

def wordNumbers : List (String × Float) :=
  [("inf", 1.0 / 0.0), ("+inf", 1.0 / 0.0), ("-inf", -1.0 / 0.0), ("nan", 0.0 / 0.0),
    ("+nan", 0.0 / 0.0), ("-nan", 0.0 / 0.0)]

/-- Read a value that is neither a text nor nested. -/
def readPlain (text : Text) : Reading (Value × Text) :=
  match Text.after? "true" text, Text.after? "false" text with
  | some rest, _ => .ok (.bool true, rest)
  | _, some rest => .ok (.bool false, rest)
  | none, none =>
    match dateValue? text with
    | some answer => answer
    | none =>
      match time? text with
      | some (time, rest) => .ok (.time time, rest)
      | none =>
        match number? text with
        | some answer => answer
        | none =>
          match wordNumbers.find? fun (word, _) => Text.startsWith word text with
          | some (word, value) => .ok (.float value, text.drop word.length)
          | none => .error .malformed

/-- Read a text in single or double quotes, of one line or of several. -/
def readText (quote : Char) (rest : Text) : Reading (Value × Text) :=
  match Text.after? [quote, quote] rest with
  | some inner => do
    let inner := dropLineFeed inner
    let (value, rest) ←
      if quote = '"' then readBasic true (inner.length + 1) [] inner
      else readLiteral [quote, quote, quote] ['\t', '\n'] inner
    let (value, rest) := readExtraQuotes quote value rest
    return (.text value, rest)
  | none => do
    let (value, rest) ←
      if quote = '"' then readBasic false (rest.length + 1) [] rest
      else readLiteral [quote] ['\t'] rest
    return (.text value, rest)

mutual

/-- Read a value, nested so many levels deep. -/
def readValue : (fuel depth : Nat) → Text → Reading (Value × Text)
  | 0, _, _ => .error .malformed
  | _, _, [] => .error .malformed
  | fuel + 1, depth, character :: rest =>
    if deepest < depth then .error (.fault .depth)
    else if character = '"' ∨ character = singleQuote then readText character rest
    else if character = '[' then do
      match ← skipFiller (rest.length + 1) rest with
      | ']' :: rest => return (.list [], rest)
      | rest => readItems fuel (depth + 2) [] rest
    else if character = '\x7b' then
      match skipSpaces rest with
      | '\x7d' :: rest => .ok (.mapping [], rest)
      | rest => readInline fuel (depth + 3) [] [] rest
    else readPlain (character :: rest)

/-- Read the items of an array up to its end. -/
def readItems : (fuel depth : Nat) → (reversed : List Value) → Text → Reading (Value × Text)
  | 0, _, _, _ => .error .malformed
  | fuel + 1, depth, reversed, text => do
    let (item, rest) ← readValue fuel depth text
    let reversed := item :: reversed
    match ← skipFiller (rest.length + 1) rest with
    | ']' :: rest => return (.list reversed.reverse, rest)
    | ',' :: rest =>
      match ← skipFiller (rest.length + 1) rest with
      | ']' :: rest => return (.list reversed.reverse, rest)
      | rest => readItems fuel depth reversed rest
    | _ => throw .malformed

/-- Read the pairs of an inline table up to its end. -/
def readInline : (fuel depth : Nat) → Table → Marks → Text → Reading (Value × Text)
  | 0, _, _, _, _ => .error .malformed
  | fuel + 1, depth, table, marks, text => do
    let (path, rest) ← readKey text
    match rest with
    | '=' :: rest =>
      let (value, rest) ← readValue fuel depth (skipSpaces rest)
      if hasMark marks .frozen path then throw .malformed
      let table ← demand
        (modifyTable false (addKey (path.getLast?.getD []) value) path.dropLast table)
      match skipSpaces rest with
      | '\x7d' :: rest => return (.mapping table, rest)
      | ',' :: rest =>
        readInline fuel depth table (freeze path value marks) (skipSpaces rest)
      | _ => throw .malformed
    | _ => throw .malformed

end

/-- What the statements read so far make. -/
structure State where
  root : Table := []
  marks : Marks := []
  /-- Marks that take effect with the next table. -/
  pending : Marks := []
  header : KeyPath := []

/-- Read a table's name after its opening brackets. -/
def readTableName (text : Text) : Reading (KeyPath × Text) := readKey (skipSpaces text)

def readTable (state : State) (text : Text) : Reading (State × Text) := do
  let (path, rest) ← readTableName text
  let marks := state.pending ++ state.marks
  if hasMark marks .declared path || hasMark marks .frozen path then throw .malformed
  let root ← demand (modifyTable true some path state.root)
  let rest ← demand (char? ']' rest)
  return (⟨root, (path, .declared) :: marks, [], path⟩, rest)

/-- Read the declaration of an item of an array of tables after `[[`. -/
def readArrayTable (state : State) (text : Text) : Reading (State × Text) := do
  let (path, rest) ← readTableName text
  let marks := state.pending ++ state.marks
  if hasMark marks .frozen path then throw .malformed
  let root ← demand (modifyTable true (addTable (path.getLast?.getD [])) path.dropLast state.root)
  let rest ← demand (Text.after? "]]" rest)
  return (⟨root, (path, .declared) :: unmark marks path, [], path⟩, rest)

/-- The paths between a table and a key with dots, each with the table's path in front. -/
def pathsBetween (header path : KeyPath) : List KeyPath :=
  (List.range (path.length - 1)).map fun count => header ++ path.take (count + 1)

def readPair (state : State) (text : Text) : Reading (State × Text) := do
  let (path, rest) ← readKey text
  let rest ← demand (char? '=' rest)
  let rest := skipSpaces rest
  let (value, rest) ← readValue (2 * rest.length + 2) 0 rest
  let between := pathsBetween state.header path
  if between.any (hasMark state.marks .declared) then throw .malformed
  let table := state.header ++ path.dropLast
  if hasMark state.marks .frozen table then throw .malformed
  let root ← demand (modifyTable true (addKey (path.getLast?.getD []) value) table state.root)
  let marks := freeze (state.header ++ path) value state.marks
  let pending := between.map (fun path => (path, Mark.declared)) ++ state.pending
  return (⟨root, marks, pending, state.header⟩, rest)

/-- Read a statement after the spaces in front of it. -/
def readStatement (state : State) (text : Text) : Reading (State × Text) :=
  match text with
  | '[' :: '[' :: rest => readArrayTable state rest
  | '[' :: rest => readTable state rest
  | '#' :: _ => .ok (state, text)
  | character :: _ =>
    if isBareKey character ∨ character = '"' ∨ character = singleQuote then readPair state text
    else .error .malformed
  | [] => .ok (state, text)

/-- Read statements, one on a line. -/
def readStatements : (fuel : Nat) → State → Text → Reading Table
  | 0, _, _ => .error .malformed
  | fuel + 1, state, text =>
    match skipSpaces text with
    | [] => .ok state.root
    | '\n' :: rest => readStatements fuel state rest
    | text => do
      let (state, rest) ← readStatement state text
      match ← skipComment (skipSpaces rest) with
      | [] => return state.root
      | '\n' :: rest => readStatements fuel state rest
      | _ => throw .malformed

def read (text : Text) : Reading Value := do
  return .mapping (← readStatements (text.length + 2) {} (Text.replace "\r\n" "\n" text))

end Toml

end Config

end StaticSite
