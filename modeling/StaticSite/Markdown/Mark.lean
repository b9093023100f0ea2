import StaticSite.Text.Digit

/-!
# Marks

Some pieces of a document are taken out of its text while the rest is rendered.  Each of them
leaves a mark: a letter and a number between two control characters, which are removed from
every source, so that no source can contain a mark.
-/

namespace StaticSite

namespace Markdown

def markOpening : Char := '\x02'

def markClosing : Char := '\x03'

/-- What stands in a text for something else. -/
inductive Mark where
  /-- A character that has lost its meaning in the markup. -/
  | escaped (character : Char)
  /-- A piece of inline content that is kept. -/
  | held (number : Nat)
  /-- A piece of raw markup that is kept. -/
  | raw (number : Nat)
  | ampersand
  deriving DecidableEq, Repr

namespace Mark

/-- The characters between the two that enclose a mark. -/
def body : Mark → Text
  | .escaped character => Text.ofNat character.toNat
  | .held number => 'h' :: Text.ofNat number
  | .raw number => 'r' :: Text.ofNat number
  | .ampersand => ['a']

def text (mark : Mark) : Text := markOpening :: mark.body ++ [markClosing]

/-- The number of decimal digits and nothing else. -/
def number? (digits : Text) : Option Nat :=
  if ! digits.isEmpty && digits.all Char.isDigit then some (Text.toNumber digits) else none

def ofBody? : Text → Option Mark
  | ['a'] => some .ampersand
  | 'h' :: digits => (number? digits).map .held
  | 'r' :: digits => (number? digits).map .raw
  | digits => (number? digits).map fun code => .escaped (Char.ofNat code)

/-- The mark that a text begins with, and how many characters it takes. -/
def read? : Text → Option (Mark × Nat)
  | [] => none
  | opening :: rest =>
    if opening = markOpening then
      let body := rest.takeWhile (· ≠ markClosing)
      if body.length < rest.length then (ofBody? body).map fun mark => (mark, body.length + 2)
      else none
    else none

end Mark

/-- A character of a text, or a mark in it. -/
abbrev Piece := Char ⊕ Mark

/-- The pieces of a text while `skip` characters of the last mark are still to be passed
over. -/
def piecesFrom : (skip : Nat) → Text → List Piece
  | _, [] => []
  | skip + 1, _ :: rest => piecesFrom skip rest
  | 0, character :: rest =>
    match Mark.read? (character :: rest) with
    | some (mark, length) => .inr mark :: piecesFrom (length - 1) rest
    | none => .inl character :: piecesFrom 0 rest

def pieces (text : Text) : List Piece := piecesFrom 0 text

def replaceMarks (meaning : Mark → Option Text) (text : Text) : Text :=
  (pieces text).flatMap fun
    | .inl character => [character]
    | .inr mark => (meaning mark).getD mark.text

def putEscapedBack : Text → Text :=
  replaceMarks fun
    | .escaped character => some [character]
    | _ => none

def putAmpersandsBack : Text → Text :=
  replaceMarks fun
    | .ampersand => some ['&']
    | _ => none

/-- Pieces of raw markup, in the order in which they were kept. -/
abbrev RawStore := Array Text

/-- A step that may keep raw markup. -/
abbrev Keeping := StateM RawStore

/-- Keep a piece of raw markup; the answer is its mark. -/
def keepRaw (markup : Text) : Keeping Text := do
  let number := (← get).size
  modify (·.push markup)
  return (Mark.raw number).text

end Markdown

end StaticSite
