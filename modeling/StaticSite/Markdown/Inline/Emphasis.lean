import StaticSite.Markdown.Inline.Basic

/-!
# Emphasis

Asterisks or underscores that follow one another are a run.  The characters around a run say
whether it may open emphasis and whether it may close it.  A run that closes meets the nearest
run of the same sign that is open: one sign of each makes an emphasis, and two make a strong
one.  What a run has left over closes more, then opens, and stands for itself in the end.
-/

namespace StaticSite

namespace Markdown

namespace Inline

/-! ## Runs -/

/-- A run of asterisks or underscores, with the characters around it. -/
structure Run where
  sign : Char
  size : Nat
  before : Option Char
  after : Option Char
  deriving DecidableEq, Repr

namespace Run

/-- Whether there is white space or an end of the text. -/
def isGap : Option Char → Bool
  | none => true
  | some character => Text.isBlank character

/-- Whether there is a character that is neither white space nor part of a word.  What is held
is no punctuation. -/
def isPunctuation : Option Char → Bool
  | none => false
  | some character =>
    ! (Text.isBlank character || Text.isWordChar character || character = markOpening ||
      character = markClosing)

/-- Whether a character is part of a word that underscores do not end. -/
def joinsWord (run : Run) (neighbour : Option Char) : Bool :=
  run.sign = '_' && neighbour.any Text.isWordChar

/-- Whether a run may open emphasis.  White space must not follow it, nor punctuation if the
run stands behind a word. -/
def opens (run : Run) : Bool :=
  ! isGap run.after &&
    (! isPunctuation run.after || isGap run.before || isPunctuation run.before) &&
    ! run.joinsWord run.before

/-- Whether a run may close emphasis.  It must not stand behind white space. -/
def closes (run : Run) : Bool := ! isGap run.before && ! run.joinsWord run.after

/-- Whether a run may close what another one has opened.  One that could open as well leaves
alone a run with which it has a multiple of three signs, if it has none by itself. -/
def answers (closing opening : Run) : Bool :=
  closing.sign = opening.sign &&
    ! (closing.opens && closing.size % 3 ≠ 0 && (closing.size + opening.size) % 3 = 0)

def signs (run : Run) (count : Nat) : Text := List.replicate count run.sign

end Run

/-- The runs of a text and the characters between them, where a character may stand in
front. -/
def runs (before : Option Char) : Text → List (Char ⊕ Run)
  | [] => []
  | character :: rest =>
    let later := runs (some character) rest
    if character = '*' || character = '_' then
      match later with
      | .inr run :: later' =>
        if run.sign = character then .inr { run with size := run.size + 1, before } :: later'
        else .inr ⟨character, 1, before, rest.head?⟩ :: later
      | _ => .inr ⟨character, 1, before, rest.head?⟩ :: later
    else .inl character :: later

/-! ## Nesting -/

/-- A run that may open emphasis. -/
structure Opening where
  run : Run
  /-- How many of its signs are not used yet. -/
  unused : Nat
  /-- What stands behind it, the last character first. -/
  content : Text

/-- An opening with its signs as they stand, the last character first. -/
def Opening.literal (opening : Opening) : Text := opening.content ++ opening.run.signs opening.unused

/-- What has been read of a text. -/
structure Nest where
  /-- What stands in front of all that is open, the last character first. -/
  front : Text := []
  /-- The runs that are open, the last one first. -/
  openings : List Opening := []

namespace Nest

/-- Put a text, whose last character comes first, at the end. -/
def add (nest : Nest) (text : Text) : Nest :=
  match nest.openings with
  | [] => { nest with front := text ++ nest.front }
  | last :: before =>
    { nest with openings := { last with content := text ++ last.content } :: before }

/-- The text of some openings that stay as they stand, the last character first. -/
def literal (openings : List Opening) : Text := openings.flatMap Opening.literal

/-- Whether two runs with some signs left make strong emphasis.  If both have more than two,
the emphasis that takes away an odd sign comes first. -/
def isStrong (opening closing : Nat) : Bool :=
  if 3 ≤ opening && 3 ≤ closing then closing % 2 = 0 else 2 ≤ opening && 2 ≤ closing

/-- Close as much as a run with some signs left can close; the answer has how many signs are
left then. -/
def close (run : Run) : (unused : Nat) → Nest → Inlining (Nest × Nat)
  | 0, nest => return (nest, 0)
  | unused + 1, nest => do
    let (inner, outer) := nest.openings.span fun opening => ! run.answers opening.run
    match outer with
    | [] => return (nest, unused + 1)
    | opening :: before =>
      let strong := isStrong opening.unused (unused + 1)
      let used := if strong then 2 else 1
      let content := (literal inner ++ opening.content).reverse
      let mark ← hold (.element
        (Element.holding (if strong then "strong" else "em") (.plain content)))
      let nest : Nest :=
        if opening.unused ≤ used then Nest.add ⟨nest.front, before⟩ mark.reverse
        else ⟨nest.front, ⟨opening.run, opening.unused - used, mark.reverse⟩ :: before⟩
      close run (unused + 1 - used) nest
  termination_by unused => unused
  decreasing_by split <;> omega

def step (nest : Nest) : Char ⊕ Run → Inlining Nest
  | .inl character => return nest.add [character]
  | .inr run => do
    let (nest, unused) ← if run.closes then nest.close run run.size else pure (nest, run.size)
    if run.opens && 0 < unused then
      return { nest with openings := ⟨run, unused, []⟩ :: nest.openings }
    else return nest.add (run.signs unused)

/-- What has been read, in which every run that is still open stands for itself. -/
def text (nest : Nest) : Text := (literal nest.openings ++ nest.front).reverse

end Nest

def emphasise (text : Text) : Inlining Text := do
  return ((← (runs none text).foldlM Nest.step {}).text)

end Inline

end Markdown

end StaticSite
