import StaticSite.Markdown.Layout
import StaticSite.Markup.Entity
import StaticSite.Text.Fold

/-!
# Headings and the table of contents

Every heading gets an identifier made of its text, with a number behind it if the same one
was given before.  A table of contents links to the headings and stands in the place of its
marker.
-/

namespace StaticSite

namespace Markdown

namespace Contents

/-- A text without its comments and its tags, and with one space for every stretch of white
space. -/
def plainText (markup : Text) : Text :=
  Text.join " " (Text.words (dropTags (dropComments markup.length markup)))
where
  dropComments : (fuel : Nat) → Text → Text
    | 0, text => text
    | fuel + 1, text =>
      match Text.cut? "<!--" text with
      | none => text
      | some (before, rest) =>
        match Text.cut? "-->" ("<!--" ++ rest) with
        | none => text
        | some (_, after) => dropComments fuel (before ++ after)
  dropTags (text : Text) : Text := tag.replace (fun _ => []) text
  /-- A tag; an angle bracket in quotes does not end it. -/
  tag : Pattern :=
    .all
      [.word "<",
        .star (.anyOf
          [.all [.word "\"", .star (.except "\""), .word "\""],
            .all [.word "'", .star (.except "'"), .word "'"],
            .except "\"'>"]),
        .word ">"]

/-- A text as an identifier: its letters and digits in ASCII and lower case, and hyphens in
the place of hyphens and white space. -/
def slug (text : Text) : Text :=
  let folded := (Text.foldAscii text).filter fun character => character.toNat < 0x80
  let kept := folded.filter fun character =>
    character.isAlphanum || character = '_' || character = '-' || Text.isBlank character
  let trimmed := Text.lowerAscii (Text.trim kept)
  (Pattern.plus (.one fun character => character = '-' || Text.isBlank character)).replace
    (fun _ => ['-']) trimmed

def nextIdentifier (identifier : Text) : Text :=
  match Text.cutLast? '_' identifier with
  | some (before, digits) =>
    if ! digits.isEmpty && digits.all Char.isDigit then
      before ++ "_" ++ Text.ofNat (Text.toNumber digits + 1)
    else identifier ++ "_1"
  | none => identifier ++ "_1"

/-- The first identifier from one on that is neither empty nor used; one of those that follow
it by their numbers is free after as many steps as there are used ones. -/
def freshIdentifier (used : List Text) : (fuel : Nat) → Text → Text
  | 0, identifier => identifier
  | fuel + 1, identifier =>
    if identifier.isEmpty || identifier ∈ used then
      freshIdentifier used fuel (nextIdentifier identifier)
    else identifier

/-- A heading in the table of contents. -/
structure Entry where
  level : Nat
  identifier : Text
  name : Text
  deriving DecidableEq, Repr

def innerMarkup (raws : RawStore) (element : Element) : Text :=
  let inside := Element.escapeText element.inside.text ++ Element.writeAll element.children
  Layout.restore raws (Text.trim (putEscapedBack inside))

/-- Give a heading its identifier, with the entries of the headings in front of it. -/
def identify (raws : RawStore) (element : Element) : StateM (List Entry) Element := do
  let entries ← get
  let name := plainText (innerMarkup raws element)
  let used := entries.map Entry.identifier
  let identifier := freshIdentifier used (used.length + 2) (slug (Markup.unescape name))
  let level := Text.toNumber (element.tag.drop 1)
  set (entries ++ [⟨level, identifier, name⟩])
  return element.withAttribute "id" identifier

mutual

/-- Give the headings of a tree their identifiers. -/
def identifyTree (raws : RawStore) : Element → StateM (List Entry) Element
  | .mk tag attributes inside children behind => do
    if Element.isHeadingName tag then
      identify raws (.mk tag attributes inside children behind)
    else return .mk tag attributes inside (← identifyTrees raws children) behind

/-- Give the headings of several trees their identifiers. -/
def identifyTrees (raws : RawStore) : List Element → StateM (List Entry) (List Element)
  | [] => return []
  | element :: rest => do
    return (← identifyTree raws element) :: (← identifyTrees raws rest)

end

/-! ## The table -/

/-- A heading with those that stand below it. -/
inductive Outline where
  | mk (entry : Entry) (below : List Outline)

/-- The headings so far: finished ones, the last one first, and those that are open, each
with its level and with those in front of it on that level, the innermost one first. -/
structure Nesting where
  /-- The levels of the open headings, the innermost one first. -/
  levels : List Nat
  /-- The headings above the last one, the innermost one first, with their level. -/
  parents : List Nat
  deriving DecidableEq, Repr

/-- How deep each heading stands, in the order of the document: a heading of a lower rank
stands below the one in front of it. -/
def depths : Nesting → List Entry → List Nat
  | _, [] => []
  | nesting, entry :: rest =>
    let nesting : Nesting :=
      match nesting.levels with
      | [] => ⟨[entry.level], []⟩
      | last :: levels =>
        if entry.level < last then
          let closed := (nesting.parents.takeWhile (entry.level ≤ ·)).length
          ⟨entry.level :: levels.drop closed, nesting.parents.drop closed⟩
        else nesting
    let nesting : Nesting :=
      match nesting.levels with
      | last :: _ =>
        if last < entry.level then
          ⟨entry.level :: nesting.levels, last :: nesting.parents⟩
        else nesting
      | [] => nesting
    nesting.parents.length :: depths nesting rest

/-- The outlines at a depth among headings with their depths, and the headings that do not
stand at that depth or below. -/
def outlinesAt : (fuel depth : Nat) → List (Nat × Entry) → List Outline × List (Nat × Entry)
  | 0, _, entries => ([], entries)
  | _, _, [] => ([], [])
  | fuel + 1, depth, (own, entry) :: rest =>
    if own < depth then ([], (own, entry) :: rest)
    else
      let (below, rest) := outlinesAt fuel (own + 1) rest
      let (later, rest) := outlinesAt fuel depth rest
      (.mk entry below :: later, rest)

def outlines (entries : List Entry) : List Outline :=
  let placed := (depths ⟨[], []⟩ entries).zip entries
  (outlinesAt (2 * entries.length + 1) 0 placed).1

mutual

def listElement : List Outline → Element
  | [] => Element.named "ul"
  | outline :: rest => (Element.named "ul").withChildren (itemElement outline :: itemElements rest)

def itemElements : List Outline → List Element
  | [] => []
  | outline :: rest => itemElement outline :: itemElements rest

def itemElement : Outline → Element
  | .mk entry below =>
    let link := (Element.holding "a" (.plain entry.name)).withAttribute "href"
      ('#' :: entry.identifier)
    match below with
    | [] => (Element.named "li").add link
    | outline :: rest =>
      ((Element.named "li").add link).add <|
        (Element.named "ul").withChildren (itemElement outline :: itemElements rest)

end

def tableElement (entries : List Entry) : Element :=
  Layout.lines <|
    ((Element.named "div").withAttribute "class" "toc").add (listElement (outlines entries))

/-- What a table of contents stands in the place of. -/
def marker : Text := "[TOC]"

mutual

/-- Put a table of contents in the place of every marker in a tree. -/
def insert (table : Element) : Element → Element
  | .mk tag attributes inside children behind =>
    .mk tag attributes inside (insertAll table children) behind

/-- Put a table of contents in the place of every marker in several trees.  A heading or code
has no marker. -/
def insertAll (table : Element) : List Element → List Element
  | [] => []
  | element :: rest =>
    let isClosed := Element.isHeadingName element.tag || element.tag = "pre" ||
      element.tag = "code"
    let changed :=
      if isClosed then element
      else if Text.trim element.inside.text = marker ∧ element.children.isEmpty then table
      else insert table element
    changed :: insertAll table rest

end

/-- A tree with identifiers at its headings and with its table of contents. -/
def apply (raws : RawStore) (tree : Element) : Element :=
  let (tree, entries) := (identifyTree raws tree).run []
  insert (tableElement entries) tree

end Contents

end Markdown

end StaticSite
