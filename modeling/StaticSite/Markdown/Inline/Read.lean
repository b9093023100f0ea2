import StaticSite.Markdown.Inline.Emphasis
import StaticSite.Markdown.Inline.Rules

/-!
# Reading inline content

Every text of a tree is read by all rules, and then what its marks hold is put back as
elements and texts.  The texts of the elements that come in this way are read once more, by
which emphasis within emphasis is found.
-/

namespace StaticSite

namespace Markdown

namespace Inline

def beginning (text : Text) : Pattern.Spot := ⟨none, 0, text, []⟩

/-- What a rule makes of the first match from a place on that it does not refuse, and where
that match begins. -/
def firstFinding (rule : InlineRule) : (fuel : Nat) → Pattern.Spot →
    Inlining (Option (Pattern.Spot × Finding))
  | 0, _ => return none
  | fuel + 1, spot => do
    match rule.pattern.searchFrom spot with
    | none => return none
    | some found =>
      match ← rule.find found with
      | .refused => firstFinding rule fuel found.stop
      | finding => return some (found.start, finding)

/-- Change the texts of what is held with a function for the text in front of the children of
an element and one for the texts behind elements. -/
def changeTexts (inside behind : Inscription → Inlining Inscription) (element : Element) :
    Inlining Element := do
  let children ← element.children.mapM fun child => do
    return (child.withInside (← inside child.inside)).withBehind (← behind child.behind)
  return ((element.withInside (← inside element.inside)).withChildren children).withBehind
    (← behind element.behind)

/-- Apply rules to a text with at most so many steps: from a place on that the first rule has
come to, and from the beginning for each of the others.  Within an element that a rule has
found only the rules behind it are used, and behind its children the rule itself is, too. -/
def applyRules : (fuel : Nat) → List InlineRule → Text → Pattern.Spot → Inlining Text
  | 0, _, text, _ => return text
  | _, [], text, _ => emphasise text
  | fuel + 1, rule :: later, text, spot => do
    match ← firstFinding rule (spot.rest.length + 1) spot with
    | none => applyRules fuel later text (beginning text)
    | some (_, .refused) => applyRules fuel later text (beginning text)
    | some (_, .passed stop) => applyRules fuel (rule :: later) text { stop with groups := [] }
    | some (start, .taken held stop) => do
      let apply (rules : List InlineRule) (inscription : Inscription) : Inlining Inscription := do
        if inscription.settled || inscription.isEmpty then return inscription
        else
          let text := inscription.text
          return .plain (← applyRules fuel rules text (beginning text))
      let held ← match held with
        | .text text => pure (Held.text text)
        | .element element =>
          if element.inside.settled then pure (Held.element element)
          else do pure (Held.element (← changeTexts (apply later) (apply (rule :: later)) element))
      let mark ← hold held
      let front := text.take start.offset ++ mark
      applyRules fuel (rule :: later) (front ++ stop.rest)
        ⟨mark.getLast?, front.length, stop.rest, []⟩

/-- How many steps are enough for a text: every rule takes a character out of it for good, or
passes over one. -/
def stepsFor (text : Text) : Nat := 16 * (text.length + 2) * (text.length + 2)

/-- Read a text by all rules. -/
def applyAll (inscription : Inscription) : Inlining Inscription := do
  if inscription.settled then return inscription
  else
    let text := inscription.text
    return .plain (← applyRules (stepsFor text) rules text (beginning text))

/-! ## Putting back what is held -/

/-- A text with elements in it: the text in front of the first element, and the elements with
the texts behind them, the last one first. -/
structure Line where
  front : Inscription := {}
  elements : List Element := []

def Line.addText (line : Line) (text : Inscription) : Line :=
  if text.isEmpty then line
  else
    match line.elements with
    | [] => { line with front := line.front.append text }
    | last :: before =>
      { line with elements := last.withBehind (last.behind.append text) :: before }

def Line.addElement (line : Line) (element : Element) : Line :=
  { line with elements := element :: line.elements }

/-- The pieces of a text: stretches of it, and the numbers of what is held. -/
def stretches : List Piece → List (Text ⊕ Nat)
  | [] => []
  | .inr (.held number) :: rest => .inr number :: stretches rest
  | piece :: rest =>
    let text : Text :=
      match piece with
      | .inl character => [character]
      | .inr mark => mark.text
    match stretches rest with
    | .inl stretch :: later => .inl (text ++ stretch) :: later
    | later => .inl text :: later

/-- Put what is held into a text and into the texts of the elements that come in. -/
def expand (held : Array Held) : (fuel : Nat) → Inscription → Line
  | 0, inscription => { front := inscription }
  | fuel + 1, inscription =>
    let parts := stretches (pieces inscription.text)
    parts.zipIdx.foldl
      (fun line (part, index) =>
        match part with
        | .inl text =>
          line.addText ⟨text, inscription.settled && decide (index + 1 = parts.length)⟩
        | .inr number =>
          match held[number]? with
          | some (.text text) => line.addText (.plain text)
          | some (.element element) => line.addElement (expandWithin (expand held fuel) element)
          | none => line.addText (.plain (Mark.held number).text))
      {}
where
  /-- Put what is held into the text of an element, and into those of its children and behind
  them. -/
  expandWithin (expand : Inscription → Line) (element : Element) : Element :=
    let expandText (inscription : Inscription) : Line :=
      if inscription.isBlank then { front := inscription } else expand inscription
    let children := element.children.flatMap fun child =>
      let behind := expandText child.behind
      let inside := expandText child.inside
      ((child.withInside inside.front).withChildren
        (inside.elements.reverse ++ child.children)).withBehind behind.front ::
        behind.elements.reverse
    let inside := expandText element.inside
    (element.withInside inside.front).withChildren (inside.elements.reverse ++ children)

/-- Put what is held into a text. -/
def putBack (inscription : Inscription) : Inlining (Inscription × List Element) := do
  let held := (← get).held
  let line := expand held (held.size + 1) inscription
  return (line.front, line.elements.reverse)

/-! ## Trees -/

/-- Read a text in a tree.  A text in front of children that is settled stays as it is. -/
def readText (inscription : Inscription) : Inlining (Inscription × List Element) := do
  if inscription.isEmpty then return ({}, [])
  else putBack (← applyAll inscription)

/-- Read the texts of elements that follow one another, with at most so many steps.  Elements
that come in behind one are read after it. -/
def readElements : (fuel : Nat) → List Element → Inlining (List Element)
  | 0, elements => return elements
  | _, [] => return []
  | fuel + 1, element :: rest => do
    let (inside, within) ←
      if element.inside.settled then pure (element.inside, []) else readText element.inside
    let (behind, after) ← readText element.behind
    let children ←
      if element.children.isEmpty then
        within.mapM fun child => do
          return child.withChildren (← readElements fuel child.children)
      else readElements fuel (within ++ element.children)
    let element := ((element.withInside inside).withBehind behind).withChildren children
    return element :: (← readElements fuel (after ++ rest))

/-- Read the inline content of a tree that was made of so many characters. -/
def readTree (size : Nat) (tree : Element) : Inlining Element := do
  return tree.withChildren (← readElements (4 * size + 64) tree.children)

end Inline

end Markdown

end StaticSite
