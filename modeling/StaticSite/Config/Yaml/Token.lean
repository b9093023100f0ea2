import StaticSite.Config.Json

/-!
# Tokens of YAML

The scanner turns a text into tokens.  Indentation opens and closes block collections, so
the scanner keeps the columns of the open ones.  A key without a mark of its own is known
only when its colon is met: every token that could begin such a key is remembered until
then, and the key's token is put in front of it afterwards.
-/

namespace StaticSite

namespace Config

namespace Yaml

/-- A token. -/
inductive Token where
  | yamlDirective (major minor : Nat)
  | tagDirective (handle start : Text)
  | otherDirective
  | documentStart
  | documentEnd
  | streamEnd
  | blockSequenceStart
  | blockMappingStart
  | blockEnd
  | flowSequenceStart
  | flowSequenceEnd
  | flowMappingStart
  | flowMappingEnd
  | blockEntry
  | flowEntry
  | key
  | value
  | alias (name : Text)
  | anchor (name : Text)
  | tag (handle : Option Text) (suffix : Text)
  | scalar (text : Text) (plain : Bool)
  deriving DecidableEq, Repr

/-- A token that may turn out to begin a key. -/
structure PossibleKey where
  /-- How many tokens come before it. -/
  tokenNumber : Nat
  /-- Whether its line can only be that of a key. -/
  required : Bool
  index : Nat
  line : Nat
  column : Nat
  deriving DecidableEq, Repr

/-- Where the scanner stands and what it has found. -/
structure Scanner where
  rest : Text
  index : Nat := 0
  line : Nat := 0
  column : Nat := 0
  flowLevel : Nat := 0
  /-- The column of the innermost block collection; negative outside of all. -/
  indent : Int := -1
  indents : List Int := []
  allowSimpleKey : Bool := true
  /-- The last possible key of each flow level. -/
  possibleKeys : List (Nat × PossibleKey) := []
  tokens : List Token := []
  deriving Repr

abbrev Scan := StateT Scanner Reading

/-- The text has not the form of YAML. -/
def fail {α : Type} : Scan α := throw .malformed

def isBreak (character : Char) : Bool :=
  character = '\n' || character = '\r' || character = '\x85' || character = '\u2028' ||
    character = '\u2029'

def isBreakOrEnd : Option Char → Bool
  | none => true
  | some character => isBreak character

/-- Whether there is a space, a line break or the end. -/
def isSpaceOrEnd : Option Char → Bool
  | some ' ' => true
  | character => isBreakOrEnd character

/-- Whether there is a space, a tab, a line break or the end. -/
def isBlankOrEnd : Option Char → Bool
  | some '\t' => true
  | character => isSpaceOrEnd character

def isNameChar (character : Char) : Bool :=
  character.isAlphanum || character = '-' || character = '_'

/-- Whether a text has only the characters that YAML admits. -/
def isAdmitted (character : Char) : Bool :=
  let code := character.toNat
  code = 9 || code = 10 || code = 13 || (0x20 ≤ code && code ≤ 0x7E) || code = 0x85 ||
    (0xA0 ≤ code && code ≤ 0xD7FF) || (0xE000 ≤ code && code ≤ 0xFFFD) || 0x10000 ≤ code

namespace Scanner

/-- Pass over one character. -/
def step (scanner : Scanner) : Scanner :=
  match scanner.rest with
  | [] => scanner
  | character :: rest =>
    let next := { scanner with rest := rest, index := scanner.index + 1 }
    if character = '\r' ∧ rest.head? = some '\n' then { next with column := scanner.column + 1 }
    else if isBreak character then { next with line := scanner.line + 1, column := 0 }
    else if character = '\uFEFF' then next
    else { next with column := scanner.column + 1 }

/-- Pass over characters. -/
def forward (scanner : Scanner) : (count : Nat) → Scanner
  | 0 => scanner
  | count + 1 => forward scanner.step count

end Scanner

/-- The character some places ahead. -/
def peekAt (ahead : Nat) : Scan (Option Char) := return (← get).rest[ahead]?

def peek : Scan (Option Char) := peekAt 0

def peekText (count : Nat) : Scan Text := return (← get).rest.take count

/-- Pass over characters. -/
def forwardBy (count : Nat) : Scan Unit := modify (·.forward count)

/-- Pass over one character. -/
def forward : Scan Unit := forwardBy 1

def takeWhile (member : Char → Bool) : Scan Text := do
  let taken := (← get).rest.takeWhile member
  forwardBy taken.length
  return taken

def skipSpaces : Scan Unit := do let _ ← takeWhile (· = ' ')

def skipComment : Scan Unit := do
  if (← peek) = some '#' then let _ ← takeWhile (! isBreak ·)

/-- Pass over a line break and answer what it stands for; nothing if there is none. -/
def scanBreak : Scan Text := do
  match (← get).rest with
  | '\r' :: '\n' :: _ => forwardBy 2; return ['\n']
  | character :: _ =>
    if character = '\n' ∨ character = '\r' ∨ character = '\x85' then forward; return ['\n']
    else if character = '\u2028' ∨ character = '\u2029' then forward; return [character]
    else return []
  | [] => return []

/-- The limit of a loop over the rest of the text. -/
def limit : Scan Nat := return (← get).rest.length + 1

def emit (token : Token) : Scan Unit :=
  modify fun scanner => { scanner with tokens := scanner.tokens ++ [token] }

/-- Put a token in front of those from a number on. -/
def emitAt (number : Nat) (token : Token) : Scan Unit :=
  modify fun scanner => { scanner with tokens := scanner.tokens.insertIdx number token }

/-- Whether keys without a mark of their own are allowed from here on. -/
def allowSimpleKey (allowed : Bool) : Scan Unit :=
  modify fun scanner => { scanner with allowSimpleKey := allowed }

/-! ## Possible keys -/

/-- Forget the possible keys that lie too far back.  A required one is missing its colon. -/
def dropStaleKeys : Scan Unit := do
  let scanner ← get
  let isStale (key : PossibleKey) : Bool :=
    key.line ≠ scanner.line || 1024 < scanner.index - key.index
  if scanner.possibleKeys.any fun (_, key) => isStale key && key.required then fail
  else
    set { scanner with
      possibleKeys := scanner.possibleKeys.filter fun (_, key) => ! isStale key }

/-- Forget the possible key of the current flow level.  A required one is missing its
colon. -/
def removePossibleKey : Scan Unit := do
  let scanner ← get
  if scanner.possibleKeys.any fun (level, key) => level = scanner.flowLevel && key.required then
    fail
  else
    set { scanner with
      possibleKeys := scanner.possibleKeys.filter fun (level, _) => level ≠ scanner.flowLevel }

/-- Remember that the next token may begin a key. -/
def savePossibleKey : Scan Unit := do
  let scanner ← get
  if scanner.allowSimpleKey then
    removePossibleKey
    modify fun scanner =>
      let required := scanner.flowLevel = 0 ∧ scanner.indent = scanner.column
      let key : PossibleKey :=
        ⟨scanner.tokens.length, required, scanner.index, scanner.line, scanner.column⟩
      { scanner with possibleKeys := scanner.possibleKeys ++ [(scanner.flowLevel, key)] }

/-! ## Indentation -/

/-- Close block collections while they are indented more than a column. -/
def closeBlocks (column : Int) : (open_ : Nat) → Scan Unit
  | 0 => return
  | open_ + 1 => do
    let scanner ← get
    if column < scanner.indent then
      match scanner.indents with
      | indent :: indents =>
        set { scanner with indent := indent, indents := indents }
        emit .blockEnd
        closeBlocks column open_
      | [] => return

/-- Close the block collections that a column ends. -/
def unwindIndent (column : Int) : Scan Unit := do
  let scanner ← get
  if scanner.flowLevel = 0 then closeBlocks column scanner.indents.length

/-- Open a block collection at a column, if it lies further right. -/
def addIndent (column : Nat) : Scan Bool := do
  let scanner ← get
  if scanner.indent < column then
    set { scanner with indents := scanner.indent :: scanner.indents, indent := column }
    return true
  else return false

/-! ## Directives, anchors and tags -/

def scanNumber : Scan Nat := do
  let digits ← takeWhile Char.isDigit
  if digits.isEmpty then fail else return Text.toNumber digits

/-- Pass over what may follow on a line that says nothing more. -/
def skipRestOfLine : Scan Unit := do
  skipSpaces
  skipComment
  if isBreakOrEnd (← peek) then let _ ← scanBreak else fail

/-- Scan the octets of a percent escape and those right after it. -/
def scanOctets : (fuel : Nat) → Scan Bytes
  | 0 => return []
  | fuel + 1 => do
    if (← peek) = some '%' then
      forward
      let digits ← peekText 2
      match digits.length, Json.hexNumber? digits with
      | 2, some octet =>
        forwardBy 2
        return UInt8.ofNat octet :: (← scanOctets fuel)
      | _, _ => fail
    else return []

/-- Whether a character may stand in the address of a tag. -/
def isAddressChar (character : Char) : Bool :=
  character.isAlphanum || "-;/?:@&=+$,_.!~*\x27()[]%".toList.contains character

def scanAddressPieces : (fuel : Nat) → Scan Text
  | 0 => return []
  | fuel + 1 => do
    let plain ← takeWhile fun character => isAddressChar character && character ≠ '%'
    if (← peek) = some '%' then
      match Utf8.decode (← scanOctets (← limit)) with
      | .ok escaped => return plain ++ escaped ++ (← scanAddressPieces fuel)
      | .error _ => fail
    else return plain

def scanAddress : Scan Text := do
  match ← peek with
  | some character =>
    if isAddressChar character then scanAddressPieces (← limit) else fail
  | none => fail

/-- Scan the handle of a tag, with its exclamation marks. -/
def scanHandle : Scan Text := do
  if (← peek) ≠ some '!' then fail
  if (← peekAt 1) = some ' ' then forward; return ['!']
  let name := ((← get).rest.drop 1).takeWhile isNameChar
  if (← peekAt (1 + name.length)) ≠ some '!' then fail
  forwardBy (2 + name.length)
  return '!' :: name ++ ['!']

def scanDirective : Scan Token := do
  forward
  let name ← takeWhile isNameChar
  if name.isEmpty || ! isSpaceOrEnd (← peek) then fail
  let token ←
    if name = "YAML" then
      skipSpaces
      let major ← scanNumber
      if (← peek) ≠ some '.' then fail
      forward
      let minor ← scanNumber
      if ! isSpaceOrEnd (← peek) then fail
      pure (.yamlDirective major minor)
    else if name = "TAG" then
      skipSpaces
      let handle ← scanHandle
      if (← peek) ≠ some ' ' then fail
      skipSpaces
      let start ← scanAddress
      if ! isSpaceOrEnd (← peek) then fail
      pure (.tagDirective handle start)
    else
      let _ ← takeWhile (! isBreak ·)
      pure .otherDirective
  skipRestOfLine
  return token

/-- Scan the name of an anchor or an alias after its mark. -/
def scanAnchorName : Scan Text := do
  forward
  let name ← takeWhile isNameChar
  if name.isEmpty then fail
  match ← peek with
  | some character =>
    if isBlankOrEnd (some character) || "?:,]\x7d%@\x60".toList.contains character then return name
    else fail
  | none => return name

def scanTag : Scan Token := do
  let token ← do
    match ← peekAt 1 with
    | some '<' =>
      forwardBy 2
      let suffix ← scanAddress
      if (← peek) ≠ some '>' then fail
      forward
      pure (.tag none suffix)
    | next =>
      if isBlankOrEnd next then
        forward
        pure (.tag none ['!'])
      else
        let word := ((← get).rest.drop 1).takeWhile fun character =>
          ! isSpaceOrEnd (some character)
        let handle ← if '!' ∈ word then scanHandle else do forward; pure ['!']
        pure (.tag (some handle) (← scanAddress))
  if isSpaceOrEnd (← peek) then return token else fail

/-! ## Scalars -/

/-- Pass over spaces up to a column. -/
def skipToColumn (column : Nat) : (fuel : Nat) → Scan Unit
  | 0 => return
  | fuel + 1 => do
    if (← get).column < column ∧ (← peek) = some ' ' then
      forward
      skipToColumn column fuel

def scanEmptyLines (column : Nat) : (fuel : Nat) → Scan Text
  | 0 => return []
  | fuel + 1 => do
    skipToColumn column (← limit)
    match ← peek with
    | some character =>
      if isBreak character then
        let first ← scanBreak
        return first ++ (← scanEmptyLines column fuel)
      else return []
    | none => return []

/-- Scan the empty lines in front of a block scalar, and find out how far its first line is
indented. -/
def scanIndentation (deepest : Nat) : (fuel : Nat) → Scan (Text × Nat)
  | 0 => return ([], deepest)
  | fuel + 1 => do
    match ← peek with
    | some ' ' =>
      forward
      scanIndentation (max deepest (← get).column) fuel
    | some character =>
      if isBreak character then
        let first ← scanBreak
        let (breaks, deepest) ← scanIndentation deepest fuel
        return (first ++ breaks, deepest)
      else return ([], deepest)
    | none => return ([], deepest)

/-- Scan whether the last line ends of a block scalar are kept or dropped. -/
def scanChomping : Scan (Option Bool) := do
  match ← peek with
  | some '+' => forward; return some true
  | some '-' => forward; return some false
  | _ => return none

/-- Scan by how much a block scalar is indented. -/
def scanIncrement : Scan (Option Nat) := do
  match ← peek with
  | some digit =>
    if digit = '0' then fail
    else if digit.isDigit then forward; return some (digit.toNat - 48)
    else return none
  | none => return none

/-- Scan the header of a block scalar: whether its last line ends are kept or dropped, and by
how much it is indented. -/
def scanBlockHeader : Scan (Option Bool × Option Nat) := do
  let header ← do
    match ← scanChomping with
    | some keep => pure (some keep, ← scanIncrement)
    | none =>
      match ← scanIncrement with
      | some count => pure (← scanChomping, some count)
      | none => pure (none, none)
  if isSpaceOrEnd (← peek) then return header else fail

/-- Whether a block scalar goes on at a column. -/
def atContent (column : Nat) : Scan Bool := do
  return (← get).column = column && (← peek).isSome

/-- Scan the lines of a block scalar.  `breaks` are the empty lines in front of the next one;
the answer is the text, the last line end, and the empty lines behind it. -/
def scanBlockLines (folded : Bool) (column : Nat) (breaks : Text) : (fuel : Nat) →
    Scan (Text × Text × Text)
  | 0 => return ([], [], breaks)
  | fuel + 1 => do
    let leading ← peek
    let line ← takeWhile (! isBreak ·)
    let lineEnd ← scanBreak
    let after ← scanEmptyLines column (← limit)
    if ← atContent column then
      let next ← peek
      let spaced (character : Option Char) : Bool :=
        character = some ' ' || character = some '\t'
      let joint :=
        if folded ∧ lineEnd = ['\n'] ∧ ! spaced leading ∧ ! spaced next then
          if after.isEmpty then [' '] else []
        else lineEnd
      let (later, lastEnd, last) ← scanBlockLines folded column after fuel
      return (breaks ++ line ++ joint ++ later, lastEnd, last)
    else return (breaks ++ line, lineEnd, after)

def scanBlockScalar (folded : Bool) : Scan Token := do
  forward
  let (chomping, increment) ← scanBlockHeader
  skipRestOfLine
  let least := max 1 ((← get).indent + 1).toNat
  let (breaks, column) ←
    match increment with
    | some count => do
      let column := least + count - 1
      pure (← scanEmptyLines column (← limit), column)
    | none => do
      let (breaks, deepest) ← scanIndentation 0 (← limit)
      pure (breaks, max least deepest)
  let (text, lineEnd, last) ←
    if ← atContent column then scanBlockLines folded column breaks (← limit)
    else pure ([], [], breaks)
  let tail :=
    match chomping with
    | some false => []
    | some true => lineEnd ++ last
    | none => lineEnd
  return .scalar (text ++ tail) false

/-- Whether a document ends or begins here. -/
def atSeparator : Scan Bool := do
  let mark ← peekText 3
  return (mark = "---" ∨ mark = "...") && isBlankOrEnd (← peekAt 3)

/-- Scan the empty lines within a quoted scalar. -/
def scanQuotedBreaks : (fuel : Nat) → Scan Text
  | 0 => return []
  | fuel + 1 => do
    if ← atSeparator then fail
    let _ ← takeWhile fun character => character = ' ' || character = '\t'
    match ← peek with
    | some character =>
      if isBreak character then
        let first ← scanBreak
        return first ++ (← scanQuotedBreaks fuel)
      else return []
    | none => return []

/-- The characters that stand for one escape letter each. -/
def escapes : List (Char × Char) :=
  [('0', '\x00'), ('a', '\x07'), ('b', '\x08'), ('t', '\t'), ('\t', '\t'), ('n', '\n'),
    ('v', '\x0b'), ('f', '\x0c'), ('r', '\r'), ('e', '\x1b'), (' ', ' '), ('"', '"'),
    ('\\', '\\'), ('/', '/'), ('N', '\x85'), ('_', '\xa0'), ('L', '\u2028'), ('P', '\u2029')]

/-- The number of hexadecimal digits after an escape letter. -/
def escapeWidth : Char → Option Nat
  | 'x' => some 2
  | 'u' => some 4
  | 'U' => some 8
  | _ => none

/-- The character of an escape by its number. -/
def escapedChar (code : Nat) : Reading Char :=
  if 0x7FFFFFFF < code then .error (.fault .tooLarge)
  else if 0x10FFFF < code then .error (.fault (.value "chr() arg not in range(0x110000)"))
  else .ok (Json.charOf code)

def scanEscape : Scan Text := do
  match ← peek with
  | none => fail
  | some letter =>
    match escapes.lookup letter, escapeWidth letter with
    | some character, _ => forward; return [character]
    | none, some width =>
      forward
      let digits ← peekText width
      match Json.hexNumber? digits with
      | some code =>
        if digits.length < width then fail
        let character ← escapedChar code
        forwardBy width
        return [character]
      | none => fail
    | none, none =>
      if isBreak letter then
        let _ ← scanBreak
        scanQuotedBreaks (← limit)
      else fail

/-- Scan a quote or a backslash that belongs to a quoted scalar; nothing is answered where the
stretch without white space ends. -/
def scanQuotedMark (double : Bool) : Scan (Option Text) := do
  match ← peek with
  | none => return none
  | some character =>
    if ! double && character = '\x27' then
      if (← peekAt 1) = some '\x27' then forwardBy 2; return some ['\x27'] else return none
    else if (double && character = '\x27') ||
        (! double && (character = '"' || character = '\\')) then
      forward; return some [character]
    else if double && character = '\\' then
      forward
      return some (← scanEscape)
    else return none

/-- Scan a stretch of a quoted scalar without white space. -/
def scanQuotedWord (double : Bool) : (fuel : Nat) → Scan Text
  | 0 => return []
  | fuel + 1 => do
    let plain ← takeWhile fun character =>
      ! (isBlankOrEnd (some character) || character = '\x27' || character = '"' ||
        character = '\\')
    match ← scanQuotedMark double with
    | some text => return plain ++ text ++ (← scanQuotedWord double fuel)
    | none => return plain

/-- Scan white space within a quoted scalar: a line end becomes a space, or as many line ends
as there are empty lines after it. -/
def scanQuotedSpaces : Scan Text := do
  let spaces ← takeWhile fun character => character = ' ' || character = '\t'
  match ← peek with
  | none => fail
  | some character =>
    if isBreak character then
      let lineEnd ← scanBreak
      let breaks ← scanQuotedBreaks (← limit)
      if lineEnd ≠ ['\n'] then return lineEnd ++ breaks
      else if breaks.isEmpty then return [' ']
      else return breaks
    else return spaces

/-- Scan the rest of a quoted scalar up to its closing quote. -/
def scanQuotedRest (quote : Char) : (fuel : Nat) → Scan Text
  | 0 => fail
  | fuel + 1 => do
    if (← peek) = some quote then return []
    let spaces ← scanQuotedSpaces
    let word ← scanQuotedWord (quote = '"') (← limit)
    return spaces ++ word ++ (← scanQuotedRest quote fuel)

def scanQuoted (quote : Char) : Scan Token := do
  forward
  let word ← scanQuotedWord (quote = '"') (← limit)
  let rest ← scanQuotedRest quote (← limit)
  forward
  return .scalar (word ++ rest) false

/-- How many characters of a plain scalar follow without white space. -/
def plainLength (flow : Bool) : Text → Nat
  | [] => 0
  | character :: rest =>
    if isBlankOrEnd (some character) then 0
    else if character = ':' ∧
        (isBlankOrEnd rest.head? ∨
          (flow ∧ (rest.head?.map (",[]\x7b\x7d".toList.contains ·)).getD false)) then 0
    else if flow ∧ ",?[]\x7b\x7d".toList.contains character then 0
    else plainLength flow rest + 1

/-- Scan the empty lines within a plain scalar; nothing is answered where the document
ends. -/
def scanPlainBreaks : (fuel : Nat) → Scan (Option Text)
  | 0 => return some []
  | fuel + 1 => do
    match ← peek with
    | some ' ' => forward; scanPlainBreaks fuel
    | some character =>
      if isBreak character then
        let first ← scanBreak
        if ← atSeparator then return none
        return (← scanPlainBreaks fuel).map (first ++ ·)
      else return some []
    | none => return some []

/-- Scan white space within a plain scalar; nothing is answered where the scalar ends. -/
def scanPlainSpaces : Scan Text := do
  let spaces ← takeWhile (· = ' ')
  match ← peek with
  | none => return spaces
  | some character =>
    if isBreak character then
      let lineEnd ← scanBreak
      allowSimpleKey true
      if ← atSeparator then return []
      match ← scanPlainBreaks (← limit) with
      | none => return []
      | some breaks =>
        if lineEnd ≠ ['\n'] then return lineEnd ++ breaks
        else if breaks.isEmpty then return [' ']
        else return breaks
    else return spaces

/-- Scan the words of a plain scalar, of which the first has white space in front. -/
def scanPlainWords (spaces : Text) : (fuel : Nat) → Scan Text
  | 0 => return []
  | fuel + 1 => do
    if (← peek) = some '#' then return []
    let scanner ← get
    let length := plainLength (scanner.flowLevel ≠ 0) scanner.rest
    if length = 0 then return []
    allowSimpleKey false
    let word ← peekText length
    forwardBy length
    let after ← scanPlainSpaces
    let scanner ← get
    if after.isEmpty || (← peek) = some '#' ||
        (scanner.flowLevel = 0 && (scanner.column : Int) < scanner.indent + 1) then
      return spaces ++ word
    else return spaces ++ word ++ (← scanPlainWords after fuel)

def scanPlain : Scan Token := do return .scalar (← scanPlainWords [] (← limit)) true

/-! ## Fetching tokens -/

/-- Pass over white space, comments and line breaks.  After a line break a key may begin. -/
def skipToToken : (fuel : Nat) → Scan Unit
  | 0 => return
  | fuel + 1 => do
    let scanner ← get
    if scanner.index = 0 ∧ (← peek) = some '\uFEFF' then forward
    skipSpaces
    skipComment
    unless (← scanBreak).isEmpty do
      if (← get).flowLevel = 0 then allowSimpleKey true
      skipToToken fuel

/-- End all block collections and possible keys in front of a directive or a mark between
documents. -/
def endBlocks : Scan Unit := do
  unwindIndent (-1)
  removePossibleKey
  allowSimpleKey false

def fetchKeyCandidate (scan : Scan Token) : Scan Unit := do
  savePossibleKey
  allowSimpleKey false
  emit (← scan)

def fetchFlowStart (token : Token) : Scan Unit := do
  savePossibleKey
  modify fun scanner => { scanner with flowLevel := scanner.flowLevel + 1 }
  allowSimpleKey true
  forward
  emit token

def fetchFlowEnd (token : Token) : Scan Unit := do
  removePossibleKey
  modify fun scanner => { scanner with flowLevel := scanner.flowLevel - 1 }
  allowSimpleKey false
  forward
  emit token

/-- Fetch the hyphen of a sequence's entry. -/
def fetchBlockEntry : Scan Unit := do
  let scanner ← get
  if scanner.flowLevel = 0 then
    unless scanner.allowSimpleKey do fail
    if ← addIndent scanner.column then emit .blockSequenceStart
  allowSimpleKey true
  removePossibleKey
  forward
  emit .blockEntry

def fetchKey : Scan Unit := do
  let scanner ← get
  if scanner.flowLevel = 0 then
    unless scanner.allowSimpleKey do fail
    if ← addIndent scanner.column then emit .blockMappingStart
  allowSimpleKey (scanner.flowLevel = 0)
  removePossibleKey
  forward
  emit .key

/-- Fetch the colon of a value.  If a possible key is open, its token is put in now. -/
def fetchValue : Scan Unit := do
  let scanner ← get
  match scanner.possibleKeys.find? fun (level, _) => level = scanner.flowLevel with
  | some (_, key) =>
    set { scanner with
      possibleKeys := scanner.possibleKeys.filter fun (level, _) => level ≠ scanner.flowLevel }
    emitAt key.tokenNumber .key
    if scanner.flowLevel = 0 then
      if ← addIndent key.column then emitAt key.tokenNumber .blockMappingStart
    allowSimpleKey false
  | none =>
    if scanner.flowLevel = 0 then
      unless scanner.allowSimpleKey do fail
      if ← addIndent scanner.column then emit .blockMappingStart
    allowSimpleKey (scanner.flowLevel = 0)
    removePossibleKey
  forward
  emit .value

def beginsPlain (flow : Bool) (character : Char) (next : Option Char) : Bool :=
  ! (isBlankOrEnd (some character) ||
      "-?:,[]\x7b\x7d#&*!|>\x27\"%@\x60".toList.contains character) ||
    (! isBlankOrEnd next &&
      (character = '-' || (! flow && (character = '?' || character = ':'))))

def fetchFrom (character : Char) : Scan Unit := do
  let scanner ← get
  let flow := scanner.flowLevel ≠ 0
  let next ← peekAt 1
  let atLineStart := scanner.column = 0
  if atLineStart ∧ character = '%' then
    endBlocks
    emit (← scanDirective)
  else if atLineStart ∧ character = '-' ∧ (← atSeparator) then
    endBlocks
    forwardBy 3
    emit .documentStart
  else if atLineStart ∧ character = '.' ∧ (← atSeparator) then
    endBlocks
    forwardBy 3
    emit .documentEnd
  else
    match character with
    | '[' => fetchFlowStart .flowSequenceStart
    | '\x7b' => fetchFlowStart .flowMappingStart
    | ']' => fetchFlowEnd .flowSequenceEnd
    | '\x7d' => fetchFlowEnd .flowMappingEnd
    | ',' =>
      allowSimpleKey true
      removePossibleKey
      forward
      emit .flowEntry
    | '*' => fetchKeyCandidate do return .alias (← scanAnchorName)
    | '&' => fetchKeyCandidate do return .anchor (← scanAnchorName)
    | '!' => fetchKeyCandidate scanTag
    | '\x27' => fetchKeyCandidate (scanQuoted '\x27')
    | '"' => fetchKeyCandidate (scanQuoted '"')
    | _ =>
      if character = '-' ∧ isBlankOrEnd next then fetchBlockEntry
      else if character = '?' ∧ (flow ∨ isBlankOrEnd next) then fetchKey
      else if character = ':' ∧ (flow ∨ isBlankOrEnd next) then fetchValue
      else if (character = '|' ∨ character = '>') ∧ ! flow then
        allowSimpleKey true
        removePossibleKey
        emit (← scanBlockScalar (character = '>'))
      else if beginsPlain flow character next then fetchKeyCandidate scanPlain
      else fail

def fetchAll : (fuel : Nat) → Scan Unit
  | 0 => fail
  | fuel + 1 => do
    skipToToken (← limit)
    dropStaleKeys
    unwindIndent (← get).column
    match ← peek with
    | none =>
      unwindIndent (-1)
      removePossibleKey
      emit .streamEnd
    | some character =>
      fetchFrom character
      fetchAll fuel

def tokenize (text : Text) : Reading (List Token) :=
  if text.all isAdmitted then do
    let (_, scanner) ← (fetchAll (2 * text.length + 2)).run { rest := text }
    return scanner.tokens
  else .error .malformed

end Yaml

end Config

end StaticSite
