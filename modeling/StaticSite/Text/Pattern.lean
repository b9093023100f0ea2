import StaticSite.Text.Word

/-!
# Patterns

A pattern describes texts.  It is matched from left to right, and where it leaves a choice
the first one that leads to a match counts, so a match is determined by the pattern and the
place where it begins.  Parts of a match can be kept in groups and asked for again.
-/

namespace StaticSite

/-- A description of texts. -/
inductive Pattern where
  | empty
  | one (accepts : Char → Bool)
  | literal (mark : Text)
  | both (first second : Pattern)
  | either (first second : Pattern)
  /-- Repetitions, as many as possible or as few as possible first. -/
  | many (greedy : Bool) (least : Nat) (most : Option Nat) (item : Pattern)
  | group (number : Nat) (inner : Pattern)
  /-- The text of a group once more. -/
  | again (number : Nat)
  /-- Nothing, where the pattern follows or where it does not. -/
  | ahead (wanted : Bool) (inner : Pattern)
  /-- Nothing, behind a character of a class or behind none. -/
  | behind (wanted : Bool) (accepts : Char → Bool)
  /-- Nothing, at the beginning of the text, or of a line of it. -/
  | begin (everyLine : Bool)
  /-- Nothing, at the end of the text or in front of its last line feed, or at the end of a
  line of it. -/
  | ending (everyLine : Bool)

namespace Pattern

/-- A part of a match. -/
structure Capture where
  start : Nat
  text : Text
  deriving DecidableEq, Repr

/-- A place in a text during a match. -/
structure Spot where
  previous : Option Char := none
  offset : Nat := 0
  rest : Text
  /-- The groups kept so far, the latest one first. -/
  groups : List (Nat × Capture) := []
  deriving DecidableEq, Repr

namespace Spot

/-- The place behind the next character. -/
def advance (spot : Spot) : Spot :=
  match spot.rest with
  | [] => spot
  | character :: rest =>
    { spot with previous := some character, offset := spot.offset + 1, rest := rest }

/-- The place behind some characters. -/
def advanceBy (spot : Spot) : Nat → Spot
  | 0 => spot
  | count + 1 => spot.advance.advanceBy count

/-- Keep what lies between two places in a group. -/
def keep (start stop : Spot) (number : Nat) : Spot :=
  { stop with
    groups :=
      (number, ⟨start.offset, start.rest.take (stop.offset - start.offset)⟩) :: stop.groups }

/-- A kept group. -/
def capture? (spot : Spot) (number : Nat) : Option Capture :=
  (spot.groups.find? fun entry => entry.1 = number).map Prod.snd

/-- The text of a group; a group that took no part in the match is empty. -/
def group (spot : Spot) (number : Nat) : Text :=
  match spot.capture? number with
  | some capture => capture.text
  | none => []

end Spot

/-- What is to be done behind a match; it may refuse the match. -/
abbrev Goal := Spot → Option Spot

/-- Repeat a step.  An optional repetition that takes nothing does not count. -/
def repeatStep (greedy : Bool) (step : Spot → Goal → Option Spot) :
    (fuel least : Nat) → (most : Option Nat) → Spot → Goal → Option Spot
  | 0, _, _, spot, goal => goal spot
  | fuel + 1, least, most, spot, goal =>
    let more : Unit → Option Spot := fun _ =>
      step spot fun next =>
        if least = 0 ∧ next.offset = spot.offset then none
        else repeatStep greedy step fuel (least - 1) (most.map (· - 1)) next goal
    if most = some 0 then goal spot
    else if 0 < least then more ()
    else if greedy then
      match more () with
      | some found => some found
      | none => goal spot
    else
      match goal spot with
      | some found => some found
      | none => more ()

/-- Match a pattern at a place and go on with a goal. -/
def meet : Pattern → Spot → Goal → Option Spot
  | .empty, spot, goal => goal spot
  | .one accepts, spot, goal =>
    match spot.rest with
    | [] => none
    | character :: _ => if accepts character then goal spot.advance else none
  | .literal mark, spot, goal =>
    if mark.isPrefixOf spot.rest then goal (spot.advanceBy mark.length) else none
  | .both first second, spot, goal => first.meet spot fun next => second.meet next goal
  | .either first second, spot, goal =>
    match first.meet spot goal with
    | some found => some found
    | none => second.meet spot goal
  | .many greedy least most item, spot, goal =>
    repeatStep greedy item.meet (spot.rest.length + least + 1) least most spot goal
  | .group number inner, spot, goal => inner.meet spot fun next => goal (spot.keep next number)
  | .again number, spot, goal =>
    match spot.capture? number with
    | none => none
    | some capture =>
      if capture.text.isPrefixOf spot.rest then goal (spot.advanceBy capture.text.length)
      else none
  | .ahead wanted inner, spot, goal =>
    match inner.meet spot some with
    | some found => if wanted then goal { spot with groups := found.groups } else none
    | none => if wanted then none else goal spot
  | .behind wanted accepts, spot, goal =>
    if (spot.previous.any accepts) = wanted then goal spot else none
  | .begin everyLine, spot, goal =>
    if spot.previous = none ∨ (everyLine ∧ spot.previous = some '\n') then goal spot else none
  | .ending everyLine, spot, goal =>
    if spot.rest = [] ∨ spot.rest = ['\n'] ∨ (everyLine ∧ spot.rest.head? = some '\n') then
      goal spot
    else none

/-! ## Writing patterns -/

def all : List Pattern → Pattern
  | [] => .empty
  | [last] => last
  | first :: rest => .both first (all rest)

/-- The first of the patterns that leads to a match. -/
def anyOf : List Pattern → Pattern
  | [] => .one fun _ => false
  | [last] => last
  | first :: rest => .either first (anyOf rest)

def word (mark : String) : Pattern := .literal mark

def among (characters : String) : Pattern :=
  let members := characters.toList
  .one fun character => character ∈ members

def except (characters : String) : Pattern :=
  let members := characters.toList
  .one fun character => character ∉ members

def any : Pattern := .one fun _ => true

/-- Any character but a line feed. -/
def inLine : Pattern := .one (· ≠ '\n')

def star (item : Pattern) : Pattern := .many true 0 none item

/-- As many repetitions as possible, and one at least. -/
def plus (item : Pattern) : Pattern := .many true 1 none item

/-- As few repetitions as possible. -/
def lazyStar (item : Pattern) : Pattern := .many false 0 none item

def maybe (item : Pattern) : Pattern := .many true 0 (some 1) item

/-- As many repetitions as possible within two bounds. -/
def times (least most : Nat) (item : Pattern) : Pattern := .many true least (some most) item

/-- Spaces, as many as possible. -/
def spaces : Pattern := star (.one (· = ' '))

/-- White space, as much as possible. -/
def blanks : Pattern := star (.one Text.isBlank)

/-! ## Matches -/

/-- A match: where it begins, and where it ends with its groups. -/
structure Found where
  start : Spot
  stop : Spot
  deriving DecidableEq, Repr

/-- The text of a group of a match. -/
def Found.group (found : Found) (number : Nat) : Text := found.stop.group number

/-- Whether a group of a match has a text that is not empty. -/
def Found.has (found : Found) (number : Nat) : Bool := ! (found.group number).isEmpty

def Found.after (found : Found) : Text := found.stop.rest

def Found.text (found : Found) : Text :=
  found.start.rest.take (found.stop.offset - found.start.offset)

def matchAt (pattern : Pattern) (spot : Spot) : Option Found :=
  (pattern.meet { spot with groups := [] } some).map fun stop => ⟨spot, stop⟩

/-- The first match at a place or within the given number of characters behind it. -/
def searchWithin (pattern : Pattern) : (reach : Nat) → Spot → Option Found
  | 0, spot => pattern.matchAt spot
  | reach + 1, spot =>
    match pattern.matchAt spot with
    | some found => some found
    | none => pattern.searchWithin reach spot.advance

/-- The first match at a place or behind it. -/
def searchFrom (pattern : Pattern) (spot : Spot) : Option Found :=
  pattern.searchWithin spot.rest.length spot

def search (pattern : Pattern) (text : Text) : Option Found := pattern.searchFrom ⟨none, 0, text, []⟩

def matchStart (pattern : Pattern) (text : Text) : Option Found :=
  pattern.matchAt ⟨none, 0, text, []⟩

def accepts (pattern : Pattern) (text : Text) : Bool := (pattern.matchStart text).isSome

/-- Matches one behind the other, from a place on.  A match that takes nothing moves the
search on by one character. -/
def searchAllFrom (pattern : Pattern) : (fuel : Nat) → Spot → List Found
  | 0, _ => []
  | fuel + 1, spot =>
    match pattern.searchFrom spot with
    | none => []
    | some found =>
      if found.stop.offset = found.start.offset then
        if found.stop.rest.isEmpty then [found]
        else found :: pattern.searchAllFrom fuel found.stop.advance
      else found :: pattern.searchAllFrom fuel found.stop

/-- All matches in a text, from left to right and without overlaps. -/
def searchAll (pattern : Pattern) (text : Text) : List Found :=
  pattern.searchAllFrom (text.length + 1) ⟨none, 0, text, []⟩

/-- Replace matches by texts, from an offset on that the rest of the text begins at. -/
def replaceFound (substitute : Found → Text) : (offset : Nat) → List Found → Text → Text
  | _, [], rest => rest
  | offset, found :: later, rest =>
    rest.take (found.start.offset - offset) ++ substitute found ++
      replaceFound substitute found.stop.offset later
        (rest.drop (found.stop.offset - offset))

def replace (pattern : Pattern) (substitute : Found → Text) (text : Text) : Text :=
  replaceFound substitute 0 (pattern.searchAll text) text

end Pattern

end StaticSite
