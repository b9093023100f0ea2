import StaticSite.Markdown.Listing.Settings

/-!
# Fenced code

Code between two fences of backticks or tildes is a listing.  The opening fence may be
followed by a language and by the lines that are set off, or by attributes in braces.
-/

namespace StaticSite

namespace Markdown

namespace Fence

/-- Fenced code: the fence, the attributes, the lines that are set off and the code are the
groups 1, 2, 4 and 5. -/
def block : Pattern :=
  let language := Pattern.star (.one fun character =>
    Text.isWordChar character || character ∈ "#.+-".toList)
  .all
    [.group 1 (.both (.begin true)
        (.either (.many true 3 none (.word "~")) (.many true 3 none (.word "`")))),
      .spaces,
      .either
        (.all [.word "\x7b", .group 2 (.star .inLine), .word "\x7d"])
        (.both
          (.maybe (.all [.maybe (.word "."), language, .spaces]))
          (.maybe (.all [.word "hl_lines=", .group 3 (.among "\"'"), .group 4 (.lazyStar .any),
            .again 3, .spaces]))),
      .word "\n",
      .group 5 (.lazyStar .any),
      .behind true (· = '\n'),
      .again 1,
      .spaces,
      .ending true]

/-- One attribute in braces: a value in double quotes or in single quotes or without, or a
word alone. -/
def setting : Pattern :=
  let key := Pattern.plus (.except " =\x7d")
  .anyOf
    [.all [.group 1 key, .word "=\"", .group 2 (.lazyStar .inLine), .word "\""],
      .all [.group 1 key, .word "='", .group 3 (.lazyStar .inLine), .word "'"],
      .all [.group 1 key, .word "=", .group 4 key],
      .group 5 key,
      .word " "]

/-- The attributes at the beginning of a text, with what cannot be read. -/
def readAttributes : (fuel : Nat) → Text → List (Text × Text) × Text
  | 0, rest => ([], rest)
  | fuel + 1, text =>
    match setting.matchStart text with
    | none => ([], text)
    | some found =>
      let (later, rest) := readAttributes fuel found.after
      if found.has 5 then
        match found.group 5 with
        | '.' :: name => ((".".toList, name) :: later, rest)
        | '#' :: name => (("id".toList, name) :: later, rest)
        | name => ((name, name) :: later, rest)
      else if found.has 1 then
        ((found.group 1, found.group 2 ++ found.group 3 ++ found.group 4) :: later, rest)
      else (later, rest)

def valuesOf (name : Text) (attributes : List (Text × Text)) : List Text :=
  attributes.filterMap fun entry => if entry.1 = name then some entry.2 else none

/-- Fenced code in markup.  The first class in braces is the language. -/
def markup (found : Pattern.Found) (attributes : List (Text × Text)) :
    Except ListingFault Text := do
  let classes := valuesOf "." attributes
  let entries := attributes.filter fun entry => entry.1 ∉ [".".toList, "id".toList]
  let settings : Listing.Settings :=
    ⟨if found.has 4 then ("hl_lines".toList, found.group 4) :: entries else entries⟩
  if settings.isListing then
    return (← settings.listing (classes.drop 1) (found.group 5)).markup
  else
    let identifier := ((valuesOf "id" attributes).getLast?).getD []
    return Listing.Settings.plainCode identifier (classes.drop 1) classes.head? (found.group 5)

/-- A step that may keep fenced code, or find that it cannot be shown. -/
abbrev Fencing := StateT RawStore (Except ListingFault)

/-- Put marks in the place of fenced code, from a place on.  The text in front of it is
`before`. -/
def keepFrom : (fuel : Nat) → (before : Text) → Pattern.Spot → Fencing Text
  | 0, before, spot => return before ++ spot.rest
  | fuel + 1, before, spot =>
    match block.searchFrom spot with
    | none => return before ++ spot.rest
    | some found => do
      let unread := spot.rest.take (found.start.offset - spot.offset)
      let braces := found.stop.capture? 2
      let (attributes, rest) := readAttributes ((found.group 2).length + 1) (found.group 2)
      if '\x7d' ∈ rest then
        let length := match braces with
          | some capture => capture.start + capture.text.length - found.start.offset
          | none => 1
        keepFrom fuel (before ++ unread ++ found.start.rest.take length)
          (found.start.advanceBy length)
      else
        let (mark, raws) := (keepRaw (← markup found attributes)).run (← get)
        set raws
        keepFrom fuel (before ++ unread ++ "\n" ++ mark)
          ⟨some markClosing, 0, '\n' :: found.after, []⟩

/-- Put marks in the place of fenced code. -/
def keep (text : Text) : Fencing Text :=
  keepFrom (text.length + 1) [] ⟨none, 0, text, []⟩

end Fence

end Markdown

end StaticSite
