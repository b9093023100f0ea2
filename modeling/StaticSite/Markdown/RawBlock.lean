import StaticSite.Markdown.Element
import StaticSite.Markdown.Lines
import StaticSite.Text.Case

/-!
# Blocks of raw markup

Markup that begins a line with the tag of an element that stands for itself is kept as it is
up to the end of that element, and a mark stands in its place.  Other tags stay in the text.
-/

namespace StaticSite

namespace Markdown

namespace RawBlock

/-- What has been read of a source so far. -/
structure Reader where
  /-- The pieces outside of raw markup, the last one first. -/
  outside : List Text := []
  /-- The pieces of the raw markup that is being read, the last one first. -/
  inside : List Text := []
  /-- The elements of the raw markup that are open, the innermost one first. -/
  opened : List Text := []
  inRaw : Bool := false
  /-- The elements outside of raw markup that are open, the innermost one first. -/
  outer : List Text := []
  /-- Whether the line goes on behind raw markup. -/
  inTail : Bool := false
  /-- The element whose content has no tags. -/
  tagless : Option Text := none
  /-- Nothing is left for a second reading of what could not be read. -/
  isFinal : Bool := false
  /-- The characters of the line so far, as far as they are not white space and how many. -/
  column : Nat := 0
  onlyBlanks : Bool := true
  raws : RawStore := #[]

namespace Reader

/-- Whether a line begins here, with three blanks at most in front. -/
def atLineStart (reader : Reader) : Bool :=
  reader.column = 0 || (reader.column ≤ 3 && reader.onlyBlanks)

def pass (reader : Reader) (text : Text) : Reader :=
  let line := Text.lastLineLength text
  let blank := Text.blank (text.drop (text.length - line))
  if '\n' ∈ text then { reader with column := line, onlyBlanks := blank }
  else { reader with column := reader.column + line, onlyBlanks := reader.onlyBlanks && blank }

def putOutside (reader : Reader) (piece : Text) : Reader :=
  { reader with outside := piece :: reader.outside }

/-- Put a piece into raw markup. -/
def putInside (reader : Reader) (piece : Text) : Reader :=
  { reader with inside := piece :: reader.inside }

/-- Put raw markup into the store, and its mark outside. -/
def store (reader : Reader) (markup : Text) : Reader :=
  let (mark, raws) := (keepRaw markup).run reader.raws
  { reader with raws := raws }.putOutside mark

def text (reader : Reader) (characters : Text) : Reader :=
  let reader := if '\n' ∈ characters then { reader with inTail := false } else reader
  if reader.inRaw then reader.putInside characters else reader.putOutside characters

def beginsWithBlankLine (rest : Text) : Bool :=
  match rest.dropWhile (· = ' ') with
  | '\n' :: later => (later.dropWhile (· = ' ')).head? = some '\n'
  | _ => false

/-- Take markup that has no content.  `rest` is what follows it. -/
def single (reader : Reader) (markup : Text) (isBlock : Bool) (rest : Text) : Reader :=
  if reader.inRaw || reader.inTail then reader.putInside markup
  else if reader.atLineStart && isBlock then
    let isAlone := beginsWithBlankLine rest
    let reader := if isAlone then reader else { reader with inTail := true }
    let last := reader.outside.head?.getD []
    let reader :=
      if Text.endsWith "\n" last && ! Text.endsWith "\n\n" last then reader.putOutside "\n"
      else reader
    (reader.store (if isAlone then markup ++ "\n" else markup)).putOutside "\n\n"
  else reader.putOutside markup

/-- Take the tag that begins an element.  `rest` is what follows it. -/
def openTag (reader : Reader) (name markup rest : Text) : Reader :=
  if name = "hr" then reader.single markup true rest
  else
    let begins := ! reader.inRaw && Element.isBlockName name &&
      (reader.inTail || reader.atLineStart)
    let reader := if begins then { reader with inRaw := true }.putOutside "\n" else reader
    if reader.inRaw then
      { reader with opened := name :: reader.opened }.putInside markup
    else
      let outer := if Element.isVoidName name then reader.outer else name :: reader.outer
      { reader with tagless := none, outer }.putOutside markup

/-- The elements that stay open when one is closed; an element that is not open closes
none. -/
def closing (name : Text) (opened : List Text) : List Text :=
  if name ∈ opened then (opened.dropWhile (· ≠ name)).drop 1 else opened

/-- Take the tag that ends an element.  `rest` is what follows it. -/
def closeTag (reader : Reader) (name markup rest : Text) : Reader :=
  if ! reader.inRaw then { reader with outer := closing name reader.outer }.putOutside markup
  else
    let reader := reader.putInside markup
    let opened := closing name reader.opened
    if ! opened.isEmpty then { reader with opened := opened }
    else
      let reader :=
        if beginsWithBlankLine rest then reader.putInside "\n"
        else { reader with inTail := true }
      let reader := { reader with inRaw := false, opened := [], inside := [] }.store
        reader.inside.reverse.flatten
      reader.putOutside "\n\n"

/-- End the reading: raw markup that is not closed ends with the source. -/
def finish (reader : Reader) : Reader :=
  if reader.inside.isEmpty then reader else reader.store reader.inside.reverse.flatten

end Reader

/-! ## Tags -/

/-- White space, or a slash that does not end a tag. -/
def tagGap : Pattern :=
  .star (.either (.one Text.isBlank) (.both (.word "/") (.ahead false (.word ">"))))

def tagNameChar : Pattern := .except "\t\n\r\x0c />\x00"

def letter : Pattern := .one Char.isAlpha

/-- The name of a tag, which is group 1, with the gap behind it. -/
def tagName : Pattern := .both (.group 1 (.both letter (.star tagNameChar))) tagGap

/-- What may stand in front of the name of an attribute. -/
def beforeName : Pattern :=
  .behind true fun character =>
    character = '"' || character = '\x27' || character = '/' || Text.isBlank character

/-- A character that is none of these and no white space. -/
def visibleExcept (characters : String) : Pattern :=
  let members := characters.toList
  .one fun character => ! Text.isBlank character && character ∉ members

/-- The value of an attribute; `others` are the characters that a bare value cannot have. -/
def attributeValue (others : String) : Pattern :=
  .anyOf
    [.all [.word "'", .star (.except "'"), .word "'"],
      .all [.word "\"", .star (.except "\""), .word "\""],
      .both (.ahead false (.among "'\"")) (.star (visibleExcept others))]

/-- The equals signs between the name and the value of an attribute. -/
def equals : Pattern := .all [.blanks, .plus (.word "="), .blanks]

def attributePart : Pattern :=
  .all
    [.all [beforeName, visibleExcept "/>", .star (visibleExcept "/=>")],
      .maybe (.both equals (attributeValue ">")),
      tagGap]

/-- The tag that begins an element up to its last character.  Backticks have no place in
names and in bare values. -/
def openTagBody : Pattern :=
  let attributeInside := Pattern.all
    [.all [beforeName, visibleExcept "`/>", .star (visibleExcept "/=>")],
      .maybe (.all [equals, attributeValue "`>", .star (.both .blanks (.word ","))]),
      tagGap]
  .all
    [.word "<", letter, .star (.except "`\t\n\r\x0c />\x00"),
      .maybe (.both (.star (.either (.one Text.isBlank) (.word "/"))) (.star attributeInside)),
      .blanks]

/-- How many characters the tag takes that a text begins with. -/
def openTagLength? (rest : Text) : Option Nat := do
  let found ← openTagBody.matchStart rest
  let length := found.stop.offset
  match found.after with
  | [] => none
  | '>' :: _ => return length + 1
  | '/' :: '>' :: _ => return length + 2
  | next :: _ =>
    if next.isAlpha || next = '=' || next = '/' then none else return max length 1

def passAttributes : (fuel : Nat) → (length : Nat) → Pattern.Spot → Pattern.Spot
  | 0, _, spot => spot
  | fuel + 1, length, spot =>
    if spot.offset < length then
      match attributePart.matchAt spot with
      | some found => passAttributes fuel length found.stop
      | none => spot
    else spot

/-- The tag that ends an element in good form, whose name is group 1. -/
def closeTagForm : Pattern :=
  .all
    [.word "</", .blanks,
      .group 1 (.both letter (.star (.one fun character =>
        character.isAlphanum || character ∈ "-.:_".toList))),
      .blanks, .word ">"]

/-- How many characters there are up to a mark, with the mark, from an offset on. -/
def lengthThrough? (mark : Text) (offset : Nat) (rest : Text) : Option Nat :=
  (Text.find? mark (rest.drop offset)).map fun before => offset + before + mark.length

/-- A step of the reading: the reader behind it and how many characters were read; nothing
if the markup does not end. -/
abbrev Step := Option (Reader × Nat)

/-- Read some characters as text. -/
def takeText (reader : Reader) (rest : Text) (length : Nat) : Step :=
  some (reader.text (rest.take length), length)

/-- Read a piece of markup without content. -/
def takeSingle (reader : Reader) (rest markup : Text) (isBlock : Bool) (length : Nat) : Step :=
  some (reader.single markup isBlock (rest.drop markup.length), length)

/-- The elements whose content has no tags. -/
def taglessNames : List Text := ["script".toList, "style".toList]

def readOpenTag (reader : Reader) (rest : Text) : Step :=
  if Text.startsWith "</>" rest then takeText reader rest 3
  else
    match openTagLength? rest, tagName.matchAt ⟨some '<', 1, rest.drop 1, []⟩ with
    | some length, some found =>
      let markup := rest.take length
      let name := Text.lower (found.group 1)
      let stop := passAttributes (length + 1) length found.stop
      let ending := Text.trim (stop.rest.take (length - stop.offset))
      if ending = "/>" then
        takeSingle reader rest markup (Element.isBlockName name) length
      else if ending = ">" then
        let reader :=
          if name ∈ taglessNames then { reader with tagless := some name } else reader
        some (reader.openTag name markup (rest.drop length), length)
      else takeText reader rest length
    | _, _ => takeText reader rest 1

/-- Read markup of no known form up to the next end of a tag. -/
def readUnknown (reader : Reader) (rest : Text) : Step := do
  let length ← lengthThrough? ">" 2 rest
  takeSingle reader rest (rest.take length) false length

def readCloseTag (reader : Reader) (rest : Text) : Step := do
  if ! ((rest.drop 2).head?.any Char.isAlpha) then return ← takeText reader rest 2
  let length ← lengthThrough? ">" 1 rest
  let markup := rest.take length
  match closeTagForm.matchStart rest with
  | some found =>
    let name := Text.lower (found.group 1)
    if reader.tagless.any (· ≠ name) then takeText reader rest length
    else
      let reader := reader.closeTag name markup (rest.drop length)
      return ({ reader with tagless := none }, length)
  | none =>
    if reader.tagless.isSome then takeText reader rest length
    else
      match tagName.matchAt ⟨some '/', 2, rest.drop 2, []⟩ with
      | none => readUnknown reader rest
      | some found =>
        return (reader.closeTag (Text.lower (found.group 1)) markup (rest.drop length), length)

def commentEnd : Pattern := .all [.word "--", .maybe (.word "!"), .word ">"]

def abruptCommentEnd : Pattern := .both (.maybe (.word "-")) (.word ">")

/-- Read a comment.  One that does not end is none. -/
def readComment (reader : Reader) (rest : Text) : Step :=
  let start : Pattern.Spot := ⟨none, 4, rest.drop 4, []⟩
  match (commentEnd.searchFrom start).or (abruptCommentEnd.matchAt start) with
  | none => takeText reader rest 1
  | some found =>
    let markup := rest.take found.start.offset ++ "-->"
    let isBlock := reader.outer.isEmpty
    some (reader.single markup isBlock (rest.drop markup.length), found.stop.offset)

def readInstruction (reader : Reader) (rest : Text) : Step := do
  if reader.atLineStart || reader.inTail then
    let length ← lengthThrough? "?>" 2 rest
    takeSingle reader rest (rest.take length) true length
  else takeText reader rest 2

def sectionEnd : Pattern := .all [.word "]", .blanks, .word "]", .blanks, .word ">"]

def readDeclaration (reader : Reader) (rest : Text) : Step := do
  if ! (reader.atLineStart || reader.inTail) then takeText reader rest 2
  else if Text.startsWith "<![CDATA[" rest then
    let found ← sectionEnd.searchFrom ⟨none, 3, rest.drop 3, []⟩
    takeSingle reader rest (rest.take found.start.offset ++ "]]>") true found.stop.offset
  else if Text.startsWith "<![" rest then
    match readUnknown reader rest with
    | some step => some step
    | none => takeText reader rest 1
  else if Text.lowerAscii (rest.take 9) = "<!doctype" then
    let length ← lengthThrough? ">" 9 rest
    takeSingle reader rest (rest.take length) true length
  else readUnknown reader rest

/-- Read markup that begins with an angle bracket. -/
def readMarkup (reader : Reader) (rest : Text) : Step :=
  match rest with
  | '<' :: '/' :: '>' :: _ => readOpenTag reader rest
  | '<' :: '/' :: _ => readCloseTag reader rest
  | '<' :: '!' :: '-' :: '-' :: _ => readComment reader rest
  | '<' :: '?' :: _ => readInstruction reader rest
  | '<' :: '!' :: _ => readDeclaration reader rest
  | '<' :: next :: _ => if next.isAlpha then readOpenTag reader rest else takeText reader rest 1
  | _ => takeText reader rest rest.length

/-- How much is read as text of markup that does not end: through the next end of a tag, or
up to the next beginning of one. -/
def unendedLength (rest : Text) : Nat :=
  match lengthThrough? ">" 1 rest, Text.find? "<" (rest.drop 1) with
  | some length, _ => length
  | none, some before => 1 + before
  | none, none => 1

/-- A reference by a number with the character behind it; the number is group 1. -/
def numberReference : Pattern :=
  let hexDigit := Pattern.one fun character =>
    character.isDigit || ('a' ≤ character.toLower && character.toLower ≤ 'f')
  .all
    [.word "&#",
      .group 1 (.either (.plus (.one Char.isDigit)) (.both (.among "xX") (.plus hexDigit))),
      .group 2 (.both (.ahead false hexDigit) .any)]

def wordReference : Pattern :=
  .all
    [.word "&", letter,
      .star (.one fun character => character.isAlphanum || character = '-' || character = '.'),
      .word ";"]

/-- The outcome of reading a reference. -/
inductive ReferenceStep where
  | read (reader : Reader) (length : Nat)
  /-- The reading goes on behind some characters, but for the last time. -/
  | interrupted (length : Nat)

def readReference (reader : Reader) (rest : Text) : ReferenceStep :=
  if Text.startsWith "&#" rest then
    match numberReference.matchStart rest with
    | some found =>
      let markup := "&#" ++ found.group 1 ++ ";"
      let length := if found.group 2 = ";" then found.stop.offset else found.stop.offset - 1
      .read (reader.single markup false (rest.drop markup.length)) length
    | none => .interrupted (if ';' ∈ rest then 2 else 0)
  else
    match wordReference.matchStart rest with
    | some found =>
      .read (reader.single found.text false found.after) found.stop.offset
    | none => .read (reader.text ['&']) 1

/-- The end of the element whose content has no tags. -/
def taglessEnd (name : Text) : Pattern :=
  .all
    [.word "</", .blanks,
      .all (name.map fun expected => .one fun character => character.toLower = expected),
      .blanks, .word ">"]

/-- How many characters there are in front of the next markup; nothing if all of them are
the content of an element that is not closed. -/
def textLength? (reader : Reader) (rest : Text) : Option Nat :=
  match reader.tagless with
  | some name => ((taglessEnd name).search rest).map fun found => found.start.offset
  | none => some (rest.takeWhile fun character => character ≠ '<' && character ≠ '&').length

def readAll : (fuel : Nat) → Reader → Text → Reader
  | 0, reader, _ => reader
  | _, reader, [] => reader
  | fuel + 1, reader, rest =>
    match textLength? reader rest with
    | none => reader.text rest
    | some (length + 1) =>
      let characters := rest.take (length + 1)
      readAll fuel ((reader.text characters).pass characters) (rest.drop (length + 1))
    | some 0 =>
      if rest.head? = some '&' then
        match readReference reader rest with
        | .read reader length =>
          readAll fuel (reader.pass (rest.take length)) (rest.drop length)
        | .interrupted length =>
          let reader := if length = 0 then reader else reader.text (rest.take length)
          let reader := reader.pass (rest.take length)
          if reader.isFinal then
            if rest.length ≤ length then reader else reader.text (rest.drop length)
          else readAll fuel { reader with isFinal := true } (rest.drop length)
      else
        match readMarkup reader rest with
        | some (reader, length) =>
          readAll fuel (reader.pass (rest.take length)) (rest.drop length)
        | none =>
          let length := unendedLength rest
          let characters := rest.take length
          readAll fuel (({ reader with isFinal := true }.text characters).pass characters)
            (rest.drop length)

/-- Put marks in the place of blocks of raw markup. -/
def keep (text : Text) : Keeping Text := do
  let reader := (readAll (2 * text.length + 2) { raws := ← get } text).finish
  set reader.raws
  return reader.outside.reverse.flatten

end RawBlock

end Markdown

end StaticSite
