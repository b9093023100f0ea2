import StaticSite.Fault

/-!
# Tokens of a document

A document begins with a header between two bars `---`.  The scanner reads one token at a
cursor; its mode changes at every bar, from the start to the header and from the header to
the body.  In the header a line `key: value` is two tokens, the key and the pair's value.
A token ends before a line feed, before the end of the text and, in the header, before a
colon; a stretch of white space that would be a token of its own is passed over.
-/

namespace StaticSite

namespace FrontMatter

/-- The kinds of tokens. -/
inductive TokenKind where
  /-- A line of three hyphens. -/
  | bar
  /-- The value of a pair, with its colon and its line feed. -/
  | pairValue
  | text
  | lineFeed
  | endOfText
  deriving DecidableEq, Repr

/-- The part of a document that a cursor stands in. -/
inductive Mode where
  | start
  | header
  | body
  deriving DecidableEq, Repr

/-- The part that follows a bar. -/
def Mode.next : Mode → Mode
  | .start => .header
  | .header | .body => .body

/-- A token with the offsets of its two ends and the line and column of its first
character, both counted from one. -/
structure Token where
  kind : TokenKind
  value : Text
  start : Nat
  stop : Nat
  line : Nat
  column : Nat
  deriving DecidableEq, Repr

/-- Where the scanner stands. -/
structure Cursor where
  offset : Nat := 0
  line : Nat := 1
  column : Nat := 1
  mode : Mode := .start
  deriving DecidableEq, Repr

namespace Cursor

/-- Pass over one character of a line. -/
def advance (cursor : Cursor) : Cursor :=
  { cursor with offset := cursor.offset + 1, column := cursor.column + 1 }

/-- Pass over the rest of a line and its line feed, which ends at an offset. -/
def nextLine (cursor : Cursor) (offset : Nat) : Cursor :=
  { cursor with offset := offset, line := cursor.line + 1, column := 1 }

end Cursor

/-- A stretch of characters that may become a token: where it began, and its characters
from the last to the first. -/
structure Run where
  start : Cursor
  reversed : Text
  deriving DecidableEq, Repr

/-- A token, the cursor after it, and the text that is left there. -/
structure Step where
  token : Token
  cursor : Cursor
  rest : Text
  deriving DecidableEq, Repr

/-- Whether a line ends in front of a text.  A null character counts as the end. -/
def endsLine : Text → Bool
  | [] => true
  | character :: _ => character = '\n' || character = '\x00'

/-- The value of a pair after its colon: the blanks in front of it are dropped and it
extends to the line feed, which has to be there. -/
def scanValue (name : Text) (colon : Cursor) (afterColon : Text) : Except Fault Step :=
  let trimmed := afterColon.dropWhile (· = ' ')
  let blanks := afterColon.length - trimmed.length
  let value := trimmed.takeWhile (· ≠ '\n')
  match trimmed.dropWhile (· ≠ '\n') with
  | [] =>
    .error (.parse .openPair
      ⟨some name, some colon.line, some (colon.column + 1 + blanks + trimmed.length)⟩)
  | _ :: rest =>
    let stop := colon.offset + 1 + blanks + value.length + 1
    .ok {
      token := ⟨.pairValue, value, colon.offset, stop, colon.line, colon.column⟩
      cursor := colon.nextLine stop
      rest := rest }

/-- A bar whose last hyphen the cursor stands on, with the line feed after it. -/
def scanBar (start last : Cursor) : Text → Step
  | [] =>
    { token := ⟨.bar, [], start.offset, last.offset + 1, start.line, start.column⟩
      cursor := { last.advance with mode := last.mode.next }
      rest := [] }
  | character :: rest =>
    let stop := last.offset + 2
    { token := ⟨.bar, [], start.offset, stop, start.line, start.column⟩
      cursor :=
        if character = '\n' then { last.nextLine stop with mode := last.mode.next }
        else { last.advance with offset := stop, mode := last.mode.next }
      rest := rest }

/-- Scan one token of a text that begins at a cursor, perhaps after the first characters of
a run. -/
def scan (name : Text) (cursor : Cursor) (run : Option Run) : Text → Except Fault Step
  | [] =>
    .ok {
      token := ⟨.endOfText, [], cursor.offset, cursor.offset, cursor.line, cursor.column⟩
      cursor := cursor
      rest := [] }
  | character :: rest =>
    if character = '\n' then
      let stop := cursor.offset + 1
      .ok {
        token := ⟨.lineFeed, [], cursor.offset, stop, cursor.line, cursor.column⟩
        cursor := cursor.nextLine stop
        rest := rest }
    else if cursor.mode = .header ∧ character = ':' then scanValue name cursor rest
    else
      let run := run.getD ⟨cursor, []⟩
      let run := { run with reversed := character :: run.reversed }
      if run.reversed = ['-', '-', '-'] ∧ endsLine rest then
        .ok (scanBar run.start cursor rest)
      else if endsLine rest ∨ (cursor.mode = .header ∧ rest.head? = some ':') then
        if Text.blank run.reversed then scan name cursor.advance none rest
        else
          .ok {
            token :=
              ⟨.text, run.reversed.reverse, run.start.offset, cursor.offset + 1,
                run.start.line, run.start.column⟩
            cursor := cursor.advance
            rest := rest }
      else scan name cursor.advance (some run) rest

/-- Scan one token at a cursor into a text.  A cursor behind the end stands at the end. -/
def nextToken (name text : Text) (cursor : Cursor) : Except Fault Step :=
  scan name { cursor with offset := min cursor.offset text.length } none
    (text.drop cursor.offset)

theorem rest_scanValue {name : Text} {colon : Cursor} {afterColon : Text} {step : Step}
    (scanned : scanValue name colon afterColon = .ok step) :
    step.rest.length < afterColon.length + 1 := by
  unfold scanValue at scanned
  simp only at scanned
  split at scanned
  · simp at scanned
  · next lineFeed rest parted =>
      simp only [Except.ok.injEq] at scanned
      subst scanned
      have shorter := (List.dropWhile_sublist (· ≠ '\n')
        (l := afterColon.dropWhile (· = ' '))).length_le
      have trimmed := (List.dropWhile_sublist (· = ' ') (l := afterColon)).length_le
      rw [parted, List.length_cons] at shorter
      simp only
      omega

/-- Every token but the end takes at least one character. -/
theorem rest_scan {name : Text} {cursor : Cursor} {run : Option Run} {text : Text}
    {step : Step} (scanned : scan name cursor run text = .ok step)
    (kind : step.token.kind ≠ .endOfText) : step.rest.length < text.length := by
  induction text generalizing cursor run with
  | nil =>
      simp only [scan, Except.ok.injEq] at scanned
      subst scanned
      exact absurd rfl kind
  | cons character rest ih =>
      unfold scan at scanned
      simp only at scanned
      split at scanned
      · simp only [Except.ok.injEq] at scanned
        subst scanned
        simp
      · split at scanned
        · simpa using rest_scanValue scanned
        · split at scanned
          · simp only [Except.ok.injEq] at scanned
            subst scanned
            cases rest with
            | nil => exact Nat.zero_lt_one
            | cons _ rest => exact Nat.lt_succ_of_lt (Nat.lt_succ_self rest.length)
          · split at scanned
            · split at scanned
              · exact Nat.lt_succ_of_lt (ih scanned)
              · simp only [Except.ok.injEq] at scanned
                subst scanned
                simp
            · exact Nat.lt_succ_of_lt (ih scanned)

/-- The tokens of a document: those before the end of the text or before the first fault,
with that fault. -/
structure TokenStream where
  tokens : List Token
  fault : Option Fault := none
  deriving DecidableEq, Repr

def tokensFrom (name : Text) (cursor : Cursor) (text : Text) : TokenStream :=
  match _ : scan name cursor none text with
  | .error fault => ⟨[], some fault⟩
  | .ok step =>
    if _ : step.token.kind = .endOfText then ⟨[step.token], none⟩
    else
      let later := tokensFrom name step.cursor step.rest
      ⟨step.token :: later.tokens, later.fault⟩
termination_by text.length
decreasing_by exact rest_scan ‹_› ‹_›

/-- The tokens of a document, up to and with the end. -/
def tokenize (name text : Text) : TokenStream := tokensFrom name {} text

end FrontMatter

end StaticSite
