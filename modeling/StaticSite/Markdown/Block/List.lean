import StaticSite.Markdown.Block.Basic

/-!
# Lists

An item of a list begins with a bullet or with a number and a point.  What is indented below
an item belongs to it.  The text of an item is a paragraph if an empty line divides it from
the items around it.
-/

namespace StaticSite

namespace Markdown

namespace Block

def numberSign : Pattern := .both (.plus (.one Text.isDigit)) (.word ".")

def bullet : Pattern := .among "*+-"

/-- The beginning of an item with one of its signs; the text of the item is group 1. -/
def itemStart (least most : Nat) (sign : Pattern) : Pattern :=
  .all
    [.begin false, .times least most (.word " "), sign, .plus (.word " "),
      .group 1 (.star .inLine)]

def anyItem : Pattern := itemStart 0 (tabWidth - 1) (.either numberSign bullet)

def indentedItem : Pattern := itemStart tabWidth (2 * tabWidth - 1) (.either numberSign bullet)

/-- Items with one line more, given from the last one to the first: the line begins an item,
begins or continues an indented part, or continues the last item. -/
def addLine (line : Text) (items : List Text) : List Text :=
  match anyItem.matchStart line, items with
  | some found, _ => found.group 1 :: items
  | none, [] => [line]
  | none, last :: before =>
    if indentedItem.accepts line && ! Text.startsWith indentation last then line :: items
    else (last ++ "\n" ++ line) :: before

def itemsOf (block : Text) : List Text :=
  ((Text.lines block).foldl (fun items line => addLine line items) []).reverse

/-- A list whose last item is ready for items behind an empty line: its texts have become
paragraphs. -/
def loosenLast (list : Element) : Element :=
  match list.lastChild? with
  | none => list
  | some item =>
    let item := loosen item
    match item.lastChild? with
    | none => list.replaceLast item
    | some last =>
      if last.behind.isEmpty then list.replaceLast item
      else
        let paragraph := Element.holding "p" (.plain (Text.trimLeft last.behind.text))
        list.replaceLast ((item.replaceLast (last.withBehind {})).add paragraph)

def readItem (read : BlockReader) (surroundings : List Surroundings) (list : Element)
    (item : Text) : Parsing Element := do
  match Text.startsWith indentation item, list.lastChild? with
  | true, some last => return list.replaceLast (← read surroundings last [item])
  | _, _ => return list.add (← read surroundings (Element.named "li") [item])

def readItems (read : BlockReader) (surroundings : List Surroundings) (list : Element) :
    List Text → Parsing Element
  | [] => return list
  | item :: items => do
    readItems read surroundings (← readItem read surroundings list item) items

/-- The rule for lists of a kind: its element, and the sign that its first item has. -/
def listRule (tag : Text) (sign : Pattern) : BlockRule := fun read surroundings parent block rest =>
  if ! (itemStart 0 (tabWidth - 1) sign).accepts block then none
  else
    let items := itemsOf block
    let tight := Surroundings.tightList :: surroundings
    some do
      match parent.lastChild?, items with
      | some last, first :: later =>
        if isList last then
          let item ← read (.looseList :: surroundings) (Element.named "li") [first]
          let list ← readItems read tight ((loosenLast last).add item) later
          return (parent.replaceLast list, rest)
        else if isList parent then return (← readItems read tight parent items, rest)
        else return (parent.add (← readItems read tight (Element.named tag) items), rest)
      | _, _ =>
        if isList parent then return (← readItems read tight parent items, rest)
        else return (parent.add (← readItems read tight (Element.named tag) items), rest)

def numberedListRule : BlockRule := listRule "ol" numberSign

def bulletListRule : BlockRule := listRule "ul" bullet

/-! ## What is indented below an item -/

def levelsOf (block : Text) : Nat := (block.takeWhile (· = ' ')).length / tabWidth

/-- Go down to the last list or item as long as the level is not reached; the answer is the
level and how many steps down it lies. -/
def descend (wanted : Nat) : (fuel : Nat) → (level steps : Nat) → Element → Nat × Nat
  | 0, level, steps, _ => (level, steps)
  | fuel + 1, level, steps, element =>
    if wanted ≤ level then (level, steps)
    else
      match element.lastChild? with
      | some last =>
        if isList last then descend wanted fuel (level + 1) (steps + 1) last
        else if isItem last then descend wanted fuel level (steps + 1) last
        else (level, steps)
      | none => (level, steps)

/-- Change the element that lies some steps down at the end of an element. -/
def changeBelow (change : Element → Parsing Element) : (steps : Nat) → Element → Parsing Element
  | 0, element => change element
  | steps + 1, element => do
    match element.lastChild? with
    | some last => return element.replaceLast (← changeBelow change steps last)
    | none => return element

/-- Read a block into the item that it belongs to, in the element that was gone down to. -/
def readBelow (read : BlockReader) (surroundings : List Surroundings) (block : Text)
    (element : Element) : Parsing Element := do
  if isItem element then read surroundings element [block]
  else
    match element.lastChild? with
    | some last =>
      if isItem last then
        return element.replaceLast (← read surroundings (loosen last) (split block))
      else return element.add (← read surroundings (Element.named "li") [block])
    | none => return element.add (← read surroundings (Element.named "li") [block])

def indentedRule : BlockRule := fun read surroundings parent block rest =>
  let follows := isItem parent || parent.lastChild?.any isList
  if ! Text.startsWith indentation block || surroundings.head? = some .outdented || ! follows then
    none
  else
    let start := if surroundings.head? = some .tightList then 1 else 0
    let wanted := levelsOf block
    let (level, steps) := descend wanted (2 * wanted + 2) start 0 parent
    let block := outdentAll level block
    let inside := Surroundings.outdented :: surroundings
    some do
      if isItem parent then
        match parent.lastChild? with
        | some last =>
          if isList last then
            return (parent.replaceLast (← read inside last [block]), rest)
          else return (← read inside parent [block], rest)
        | none => return (← read inside parent [block], rest)
      else return (← changeBelow (readBelow read inside block) steps parent, rest)

end Block

end Markdown

end StaticSite
