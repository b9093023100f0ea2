import StaticSite.Dictionary
import StaticSite.Markdown.Element
import StaticSite.Markdown.Lines
import StaticSite.Markup
import StaticSite.Text.Case

/-!
# Blocks

A source is cut into blocks at its empty lines.  Each block is read by the first rule that
takes it; a rule adds elements to the element that it works in, and may put blocks back.
What a block means can depend on the element in front of it and on the surroundings.
-/

namespace StaticSite

namespace Markdown

/-- What is being read around a block. -/
inductive Surroundings where
  | tightList
  | looseList
  | quotation
  /-- The indentation of the block has been taken off already. -/
  | outdented
  deriving DecidableEq, Repr

/-- The target of a reference, with its title. -/
structure LinkTarget where
  address : Text
  title : Text := []
  deriving DecidableEq, Repr

abbrev References := Dictionary LinkTarget

/-- A step that may find references. -/
abbrev Parsing := StateM References

/-- Reads blocks within an element; the surroundings are given from the innermost one. -/
abbrev BlockReader := List Surroundings → Element → List Text → Parsing Element

/-- What a rule makes of a block: the element that it works in, and the blocks that are left;
nothing if it does not take the block. -/
abbrev BlockStep := Option (Parsing (Element × List Text))

/-- A rule for blocks.  It is given the reader for blocks within blocks, the surroundings, the
element that it works in, the block, and the blocks behind it. -/
abbrev BlockRule :=
  BlockReader → List Surroundings → Element → (block : Text) → (rest : List Text) → BlockStep

namespace Block

def split (text : Text) : List Text := Text.splitBy "\n\n" text

/-- A block in front of others, unless it is empty. -/
def putBack (block : Text) (rest : List Text) : List Text :=
  if block.isEmpty then rest else block :: rest

/-- The lines of a text up to the first one that is neither blank nor indented, without
their indentation, and the remaining lines. -/
def outdentWhile : List Text → List Text × List Text
  | [] => ([], [])
  | line :: lines =>
    match Text.after? indentation line with
    | some rest =>
      let (taken, left) := outdentWhile lines
      (rest :: taken, left)
    | none =>
      if Text.blank line then
        let (taken, left) := outdentWhile lines
        ([] :: taken, left)
      else ([], line :: lines)

/-- A text with the indentation of some levels taken off those lines that have it. -/
def outdentAll (levels : Nat) (text : Text) : Text :=
  let depth := List.replicate (levels * tabWidth) ' '
  Text.join "\n" <| (Text.lines text).map fun line => (Text.after? depth line).getD line

def isCode (element : Element) : Bool :=
  element.tag == "pre".toList && (element.children.head?.any fun child => child.tag == "code".toList)

def codeElement (code : Text) : Element :=
  (Element.named "pre").add (Element.holding "code" (.fixed code))

def codeOf (element : Element) : Text :=
  match element.children with
  | code :: _ => code.inside.text
  | [] => []

def withCode (element : Element) (code : Text) : Element :=
  match element.children with
  | child :: rest => element.withChildren (child.withInside (.fixed code) :: rest)
  | [] => element

def isItem (element : Element) : Bool := element.tag == "li".toList

def isList (element : Element) : Bool :=
  element.tag == "ul".toList || element.tag == "ol".toList

/-- An item whose own text has become a paragraph. -/
def loosen (item : Element) : Element :=
  if item.inside.isEmpty then item
  else (item.withInside {}).addFirst (Element.holding "p" item.inside)

/-! ## The rules -/

/-- The rule for empty blocks: they are dropped, but within code they are kept. -/
def emptyRule : BlockRule := fun _ _ parent block rest =>
  match block with
  | [] => some (return (fill parent "\n\n", rest))
  | '\n' :: later => some (return (fill parent "\n", putBack later rest))
  | _ => none
where
  /-- Add empty lines to the code at the end of an element. -/
  fill (parent : Element) (filler : Text) : Element :=
    match parent.lastChild? with
    | some last =>
      if isCode last then parent.replaceLast (withCode last (codeOf last ++ filler)) else parent
    | none => parent

/-- The rule for indented blocks: they are code. -/
def codeRule : BlockRule := fun _ _ parent block rest =>
  if ! Text.startsWith indentation block then none
  else
    let (taken, left) := outdentWhile (Text.lines block)
    let code := Markup.escapeCode (Text.trimRight (Text.join "\n" taken)) ++ "\n"
    let rest := putBack (Text.join "\n" left) rest
    let parent :=
      match parent.lastChild? with
      | some last =>
        if isCode last then parent.replaceLast (withCode last (codeOf last ++ "\n" ++ code))
        else parent.add (codeElement code)
      | none => parent.add (codeElement code)
    some (return (parent, rest))

/-- A heading with number signs: their group is 1 and that of the heading is 2. -/
def heading : Pattern :=
  .all
    [.either (.begin false) (.word "\n"),
      .group 1 (.times 1 6 (.word "#")),
      .group 2 (.lazyStar (.either (.both (.word "\\") .inLine) (.except "\\"))),
      .star (.word "#"),
      .either (.word "\n") (.ending false)]

def headingElement (level : Nat) (text : Text) : Element :=
  Element.holding ('h' :: Text.ofNat level) (.plain (Text.trim text))

/-- The rule for headings with number signs. -/
def headingRule : BlockRule := fun read surroundings parent block rest =>
  match heading.search block with
  | none => none
  | some found =>
    let before := block.take found.start.offset
    let after :=
      if surroundings.head? = some .looseList then outdentAll 1 found.after else found.after
    some do
      let parent ← if before.isEmpty then pure parent else read surroundings parent [before]
      return (parent.add (headingElement (found.group 1).length (found.group 2)),
        putBack after rest)

/-- A line of equals signs or of hyphens below a heading. -/
def underline : Pattern :=
  .all
    [.lazyStar .inLine, .word "\n", .either (.plus (.word "=")) (.plus (.word "-")), .spaces,
      .either (.word "\n") (.ending true)]

/-- The rule for headings with a line below. -/
def underlinedRule : BlockRule := fun _ _ parent block rest =>
  if ! underline.accepts block then none
  else
    match Text.lines block with
    | text :: line :: later =>
      let level := if line.head? = some '=' then 1 else 2
      some (return (parent.add (headingElement level text), putBack (Text.join "\n" later) rest))
    | _ => none

/-- Whether a line is a rule: three signs of one kind at least, with two spaces at most
between them. -/
def isRule (line : Text) : Bool :=
  let spaces := (line.takeWhile (· = ' ')).length
  let marks := Text.trimRightOf (· = ' ') (line.drop spaces)
  match marks with
  | [] => false
  | mark :: _ =>
    spaces ≤ 3 && (mark = '-' || mark = '_' || mark = '*') &&
      marks.all (fun character => character = mark || character = ' ') &&
      3 ≤ marks.count mark && ! Text.contains "   " marks

/-- The lines in front of the first rule and behind it. -/
def splitRule : List Text → Option (List Text × List Text)
  | [] => none
  | line :: lines =>
    if isRule line then some ([], lines)
    else (splitRule lines).map fun (before, after) => (line :: before, after)

def ruleRule : BlockRule := fun read surroundings parent block rest =>
  match splitRule (Text.lines block) with
  | none => none
  | some (before, after) =>
    let before := Text.trimRightOf (· = '\n') (Text.join "\n" before)
    let after := Text.trimLeftOf (· = '\n') (Text.join "\n" after)
    some do
      let parent ← if before.isEmpty then pure parent else read surroundings parent [before]
      return (parent.add (Element.named "hr"), putBack after rest)

/-- A line of a quotation: what is quoted is group 1. -/
def quoted : Pattern :=
  .all
    [.either (.begin false) (.word "\n"), .times 0 3 (.word " "), .word ">",
      .maybe (.word " "), .group 1 (.star .inLine)]

/-- A line of a quotation without the sign in front. -/
def unquote (line : Text) : Text :=
  if Text.trim line = ['>'] then []
  else
    match quoted.matchStart line with
    | some found => found.group 1
    | none => line

/-- The rule for quotations.  One that follows another continues it. -/
def quotationRule : BlockRule := fun read surroundings parent block rest =>
  match quoted.search block with
  | none => none
  | some found => some do
    let parent ← read surroundings parent [block.take found.start.offset]
    let lines := Text.lines (block.drop found.start.offset)
    let inner := split (Text.join "\n" (lines.map unquote))
    let inside := Surroundings.quotation :: surroundings
    match parent.lastChild? with
    | some last =>
      if last.tag = "blockquote" then
        return (parent.replaceLast (← read inside last inner), rest)
      else return (parent.add (← read inside (Element.named "blockquote") inner), rest)
    | none => return (parent.add (← read inside (Element.named "blockquote") inner), rest)

/-- The target of a reference: its name, its address and its title, which stands in quotes
or in parentheses, are the groups 1, 2, 4 and 5. -/
def reference : Pattern :=
  .all
    [.begin true, .times 0 3 (.word " "), .word "[", .group 1 (.star (.except "[]")),
      .word "]:", .spaces, .maybe (.word "\n"), .spaces,
      .group 2 (.plus (.one fun character => ! Text.isBlank character)), .spaces,
      .maybe (.both (.word "\n") .spaces),
      .maybe (.either
        (.all [.group 3 (.among "\"'"), .group 4 (.star .inLine), .again 3, .spaces])
        (.all [.word "(", .group 5 (.star .inLine), .word ")", .spaces])),
      .ending true]

def referenceRule : BlockRule := fun _ _ parent block rest =>
  match reference.search block with
  | none => none
  | some found =>
    let name := Text.lower (Text.trim (found.group 1))
    let address := Text.trimRightOf (· = '>') (Text.trimLeftOf (· = '<') (found.group 2))
    let title := if found.has 4 then found.group 4 else found.group 5
    let before := block.take found.start.offset
    let rest :=
      if Text.blank found.after then rest
      else Text.trimLeftOf (· = '\n') found.after :: rest
    let rest :=
      if Text.blank before then rest else Text.trimRightOf (· = '\n') before :: rest
    some do
      modify fun references => references.put name ⟨address, title⟩
      return (parent, rest)

/-- A text behind another one, on a line of its own. -/
def appendLine (first : Inscription) (second : Text) : Text := first.text ++ "\n" ++ second

/-- The rule for all other blocks: they are paragraphs, or the text of an item. -/
def paragraphRule : BlockRule := fun _ surroundings parent block rest =>
  if Text.blank block then some (return (parent, rest))
  else if surroundings.head? ≠ some .tightList then
    let paragraph := Element.holding "p" (.plain (Text.trimLeft block))
    some (return (parent.add paragraph, rest))
  else
    match parent.lastChild? with
    | some last =>
      let last := last.withBehind (.plain (appendLine last.behind block))
      some (return (parent.replaceLast last, rest))
    | none =>
      let text := Text.trimLeft block
      let inside := if parent.inside.isEmpty then text else appendLine parent.inside text
      some (return (parent.withInside (.plain inside), rest))

end Block

end Markdown

end StaticSite
