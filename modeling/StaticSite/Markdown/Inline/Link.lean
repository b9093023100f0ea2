import StaticSite.Markdown.Inline.Basic
import StaticSite.Text.Case

/-!
# Links and images

A link is a text in brackets with its target in parentheses, or with the name of a reference
in brackets, or with neither if the text itself is the name.  An exclamation mark in front
makes it an image.
-/

namespace StaticSite

namespace Markdown

namespace Inline

/-- The text up to the bracket that closes one that is open, and how many characters there
are with that bracket. -/
def bracketed : (depth : Nat) → Text → Option (Text × Nat)
  | _, [] => none
  | depth, character :: rest =>
    let depth := if character = '[' then depth + 1 else if character = ']' then depth - 1 else depth
    if depth = 0 then some ([], 1)
    else (bracketed depth rest).map fun (text, length) => (character :: text, length + 1)

/-- The text in brackets behind an opening one, and the place behind the closing one. -/
def bracketText? (spot : Pattern.Spot) : Option (Text × Pattern.Spot) :=
  (bracketed 1 spot.rest).map fun (text, length) => (text, spot.advanceBy length)

/-! ## Targets in parentheses -/

/-- The beginning of a target.  If it is an address in angle brackets, that is group 1 and its
title in quotes is group 2, and the match has the whole target. -/
def targetStart : Pattern :=
  .all
    [.word "(", .blanks,
      .maybe (.all
        [.group 1 (.all [.word "<", .star (.except "<>"), .word ">"]), .blanks,
          .maybe (.both
            (.group 2 (.either
              (.all [.word "'", .star (.except "'"), .word "'"])
              (.all [.word "\"", .star (.except "\""), .word "\""])))
            .blanks),
          .word ")"])]

/-- A kind of quote that was found in a target: where its first one stands, and where its
last one stands. -/
structure QuoteSpan where
  quote : Char
  first : Nat
  last : Option Nat := none
  deriving DecidableEq, Repr

/-- How far a target has been read. -/
structure TargetScan where
  /-- How many parentheses are open. -/
  depth : Nat := 1
  /-- How many parentheses were open in front of the quotes. -/
  spare : Nat := 1
  /-- Where the target ends if the quotes do not close. -/
  fallback : Option Nat := none
  /-- The first kind of quotes; from there on parentheses are part of the title. -/
  primary : Option QuoteSpan := none
  secondary : Option QuoteSpan := none
  /-- The last character that is no space. -/
  previous : Option Char := none
  deriving DecidableEq, Repr

namespace QuoteSpan

/-- Whether a title has just been closed. -/
def isClosed (span : Option QuoteSpan) (previous : Option Char) : Bool :=
  match span with
  | some span => span.last.isSome && previous == some span.quote
  | none => false

/-- The address and the title of a target whose title is in these quotes. -/
def cut (span : QuoteSpan) (text : Text) : Text × Option Text :=
  let last := span.last.getD 0
  (text.take span.first, some ((text.take last).drop (span.first + 1)))

end QuoteSpan

namespace TargetScan

def quote (scan : TargetScan) (character : Char) (offset : Nat) : TargetScan :=
  match scan.primary with
  | none =>
    { scan with
      primary := some { quote := character, first := offset }
      spare := scan.depth
      depth := 1 }
  | some primary =>
    match decide (character = primary.quote), scan.secondary with
    | true, _ => { scan with primary := some { primary with last := some offset } }
    | false, none => { scan with secondary := some { quote := character, first := offset } }
    | false, some secondary =>
      if character = secondary.quote then
        { scan with secondary := some { secondary with last := some offset } }
      else scan

def openParenthesis (scan : TargetScan) : TargetScan :=
  if scan.primary.isNone then { scan with depth := scan.depth + 1 }
  else { scan with spare := scan.spare - 1 }

def closeParenthesis (scan : TargetScan) (offset : Nat) : TargetScan :=
  if QuoteSpan.isClosed scan.primary scan.previous ||
      QuoteSpan.isClosed scan.secondary scan.previous then
    { scan with depth := 0 }
  else if scan.primary.isNone then { scan with depth := scan.depth - 1 }
  else if scan.spare = 1 then { scan with spare := 0, fallback := some offset }
  else { scan with spare := scan.spare - 1 }

def step (scan : TargetScan) (character : Char) (offset : Nat) : TargetScan :=
  if character = '(' then scan.openParenthesis
  else if character = ')' then scan.closeParenthesis offset
  else if character = '"' || character = '\x27' then scan.quote character offset
  else scan

/-- The address and the title of a target that ends in front of an offset. -/
def finish (scan : TargetScan) (text : Text) (offset : Nat) : Text × Option Text :=
  match scan.primary, scan.secondary with
  | some primary, secondary =>
    if QuoteSpan.isClosed (some primary) scan.previous then primary.cut text
    else
      match secondary with
      | some secondary =>
        if QuoteSpan.isClosed (some secondary) scan.previous then secondary.cut text
        else (text.take offset, none)
      | none => (text.take offset, none)
  | none, _ => (text.take offset, none)

/-- Read a target from an offset on.  The answer is its address, its title, and how many
characters it takes with the closing parenthesis.  If quotes do not close, the target ends at
the parenthesis that would have closed it without them, or else in front of the last two
characters if further parentheses are open. -/
def run (text : Text) : TargetScan → (offset : Nat) → Text → Option (Text × Option Text × Nat)
  | scan, _, [] =>
    if scan.spare = 0 then
      let offset := scan.fallback.getD (text.length - 2)
      some (text.take offset, none, offset + 1)
    else none
  | scan, offset, character :: rest =>
    let scan := scan.step character offset
    if scan.depth = 0 then
      let (address, title) := scan.finish text offset
      some (address, title, offset + 1)
    else
      run text (if character = ' ' then scan else { scan with previous := some character })
        (offset + 1) rest

end TargetScan

/-- A text without the quotes around it. -/
def unquoteTitle (text : Text) : Text :=
  let isQuoted (quote : Char) : Bool := text.head? == some quote && text.getLast? == some quote
  if isQuoted '"' || isQuoted '\x27' then (text.drop 1).dropLast else text

def spacesForBlanks (text : Text) : Text :=
  text.map fun character => if Text.isBlank character then ' ' else character

/-- The target in parentheses at a place, with the place behind it. -/
def target? (spot : Pattern.Spot) : Inlining (Option (Text × Option Text × Pattern.Spot)) := do
  let read : Option (Text × Option Text × Pattern.Spot) := do
    let found ← targetStart.matchAt spot
    if found.has 1 then
      let address := Text.trim ((found.group 1).drop 1).dropLast
      let title := if found.has 2 then some ((found.group 2).drop 1).dropLast else none
      return (address, title, found.stop)
    else
      let (address, title, length) ← TargetScan.run found.after {} 0 found.after
      return (address, title, found.stop.advanceBy length)
  match read with
  | none => return none
  | some (address, title, stop) =>
    let address := Text.trim (← restoreText address)
    let title ← match title with
      | some title => do
        pure (some (spacesForBlanks (unquoteTitle (← restoreText (Text.trim title)))))
      | none => pure none
    return some (address, title, stop)

/-! ## Elements -/

/-- Whether a link or an image is made. -/
inductive LinkKind where
  | link
  | image
  deriving DecidableEq, Repr

def linkElement (kind : LinkKind) (text address : Text) (title : Option Text) :
    Inlining Element := do
  let titled (element : Element) : Element :=
    match title with
    | some title => element.withAttribute "title" title
    | none => element
  match kind with
  | .link =>
    return titled ((Element.holding "a" (.plain text)).withAttribute "href" address)
  | .image =>
    let element := titled ((Element.named "img").withAttribute "src" address)
    return element.withAttribute "alt" (← restoreText text)

/-- Where a link or an image may begin. -/
def linkStart : LinkKind → Pattern
  | .link => .both (.behind false (· = '!')) (.word "[")
  | .image => .word "!["

def targetRule (kind : LinkKind) : InlineRule :=
  ⟨linkStart kind, fun found => do
    match bracketText? found.stop with
    | none => return .refused
    | some (text, spot) =>
      match ← target? spot with
      | none => return .refused
      | some (address, title, stop) =>
        return .taken (.element (← linkElement kind text address title)) stop⟩

/-- A text with one space in the place of every stretch of white space. -/
def collapseBlanks (text : Text) : Text :=
  (Pattern.plus (.one Text.isBlank)).replace (fun _ => [' ']) text

/-- What a rule makes of the text of a link whose target has a name. -/
def findNamed (kind : LinkKind) (text name : Text) (stop : Pattern.Spot) : Inlining Finding := do
  match (← read).get? (collapseBlanks name) with
  | none => return .passed stop
  | some target =>
    let title := if target.title.isEmpty then none else some target.title
    return .taken (.element (← linkElement kind text target.address title)) stop

/-- The name of a reference in brackets, which is group 1. -/
def nameInBrackets : Pattern :=
  .all [.maybe (.one Text.isBlank), .word "[", .group 1 (.star (.except "]")), .word "]"]

/-- The rule for links or images with the name of a reference; an empty name is the text. -/
def namedRule (kind : LinkKind) : InlineRule :=
  ⟨linkStart kind, fun found => do
    match bracketText? found.stop with
    | none => return .refused
    | some (text, spot) =>
      match nameInBrackets.matchAt spot with
      | none => return .refused
      | some found =>
        let name := if found.has 1 then found.group 1 else text
        findNamed kind text (Text.lower name) found.stop⟩

/-- The rule for links or images whose text is the name of a reference. -/
def shortRule (kind : LinkKind) : InlineRule :=
  ⟨linkStart kind, fun found => do
    match bracketText? found.stop with
    | none => return .refused
    | some (text, stop) => findNamed kind text (Text.lower text) stop⟩

end Inline

end Markdown

end StaticSite
