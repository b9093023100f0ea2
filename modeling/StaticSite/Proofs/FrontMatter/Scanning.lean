import Mathlib.Data.List.TakeWhile
import StaticSite.FrontMatter.Document

/-!
# Scanning one line

The scanner goes through a line character by character.  Here one token is told from the
stretch of characters that it is made of: a stretch ends in front of a line feed, in front
of the end of the text or, in the header, in front of a colon, and it is a bar, a token of
text, or blank and passed over.
-/

namespace StaticSite

namespace FrontMatter

/-- The line that opens and closes a header. -/
def bar : Text := "---"

/-- Pass over some characters of a line. -/
def Cursor.skip (cursor : Cursor) (count : Nat) : Cursor :=
  { cursor with offset := cursor.offset + count, column := cursor.column + count }

/-- Characters that go on a stretch: line feeds and null characters end it, and so do colons
in the header. -/
def Plain (mode : Mode) (text : Text) : Prop :=
  ∀ character ∈ text,
    character ≠ '\n' ∧ character ≠ '\x00' ∧ (mode = .header → character ≠ ':')

/-- Whether a stretch ends in front of a text. -/
def Stops (mode : Mode) (text : Text) : Prop :=
  endsLine text ∨ (mode = .header ∧ text.head? = some ':')

/-- What the scanner makes of a whole stretch, with the cursor behind it. -/
def finishRun (name : Text) (start : Cursor) (stretch : Text) (cursor : Cursor) (rest : Text) :
    Except Fault Step :=
  if stretch = bar ∧ endsLine rest then .ok (scanBar start (start.skip 2) rest)
  else if Text.blank stretch then scan name cursor none rest
  else
    .ok {
      token :=
        ⟨.text, stretch, start.offset, cursor.offset, start.line, start.column⟩
      cursor := cursor
      rest := rest }

variable {name : Text} {mode : Mode} {cursor : Cursor} {character : Char} {stretch rest : Text}

theorem Plain.head (plain : Plain mode (character :: rest)) :
    character ≠ '\n' ∧ character ≠ '\x00' ∧ (mode = .header → character ≠ ':') :=
  plain character (by simp)

theorem Plain.tail (plain : Plain mode (character :: rest)) : Plain mode rest :=
  fun other member => plain other (List.mem_cons_of_mem _ member)

/-- No stretch ends in front of a character that goes on a stretch. -/
theorem Plain.not_stops (plain : Plain mode (character :: stretch)) :
    ¬ Stops mode (character :: stretch ++ rest) := by
  obtain ⟨noFeed, noNull, noColon⟩ := plain.head
  rintro (ends | ⟨header, colon⟩)
  · simp [endsLine, noFeed, noNull] at ends
  · simp only [List.cons_append, List.head?_cons, Option.some.injEq] at colon
    exact noColon header colon

/-- The last character of a stretch finishes it. -/
theorem scan_last {start : Cursor} {before : Text} (plain : Plain start.mode [character])
    (stops : Stops start.mode rest) :
    scan name (start.skip before.length) (some ⟨start, before.reverse⟩) (character :: rest) =
      finishRun name start (before ++ [character]) (start.skip (before.length + 1)) rest := by
  obtain ⟨noFeed, -, noColon⟩ := plain.head
  have noPair : ¬ ((start.skip before.length).mode = .header ∧ character = ':') :=
    fun pair => noColon pair.1 pair.2
  have atBar : character :: before.reverse = ['-', '-', '-'] ↔ before ++ [character] = bar := by
    rw [← List.reverse_inj]
    simp [bar]
  have blankness : Text.blank (character :: before.reverse) =
      Text.blank (before ++ [character]) := by
    simp [Text.blank, Bool.and_comm]
  have advanced : (start.skip before.length).advance = start.skip (before.length + 1) := rfl
  have stopped : endsLine rest = true ∨
      (start.skip before.length).mode = .header ∧ rest.head? = some ':' := stops
  rw [scan, if_neg noFeed, if_neg noPair]
  simp only [Option.getD_some, if_pos stopped, atBar, finishRun, blankness, advanced]
  split
  · next isBar =>
      have three : before.length = 2 := by
        have lengths := congrArg List.length isBar.1
        simpa [bar] using lengths
      rw [three]
  · simp [Cursor.skip, Nat.add_assoc]

/-- The cursor within a stretch stands on the line of its beginning, as many characters
behind it as have been read. -/
theorem scan_stretch {start : Cursor} {before : Text}
    (nonempty : stretch ≠ []) (plain : Plain start.mode stretch)
    (stops : Stops start.mode rest) :
    scan name (start.skip before.length) (some ⟨start, before.reverse⟩) (stretch ++ rest) =
      finishRun name start (before ++ stretch) (start.skip (before.length + stretch.length))
        rest := by
  induction stretch generalizing before with
  | nil => exact absurd rfl nonempty
  | cons character stretch ih =>
      cases stretch with
      | nil => exact scan_last plain stops
      | cons next stretch =>
          obtain ⟨noFeed, -, noColon⟩ := plain.head
          have noPair : ¬ ((start.skip before.length).mode = .header ∧ character = ':') :=
            fun pair => noColon pair.1 pair.2
          have going : ¬ Stops start.mode (next :: stretch ++ rest) := plain.tail.not_stops
          have notEnd : ¬ endsLine (next :: stretch ++ rest) = true :=
            fun ends => going (Or.inl ends)
          have notStop : ¬ (endsLine (next :: stretch ++ rest) = true ∨
              (start.skip before.length).mode = .header ∧
                (next :: stretch ++ rest).head? = some ':') := going
          have later := @ih (before ++ [character]) (by simp) plain.tail
          simp only [List.reverse_append, List.reverse_singleton, List.singleton_append,
            List.length_append, List.length_cons, List.length_nil, List.append_assoc] at later
          have advanced : (start.skip before.length).advance =
              start.skip (before.length + (0 + 1)) := rfl
          have lengths : before.length + (0 + 1) + (stretch.length + 1) =
              before.length + (stretch.length + 1 + 1) := by omega
          rw [List.cons_append, scan, if_neg noFeed, if_neg noPair]
          simp only [Option.getD_some]
          rw [if_neg fun isBar => notEnd isBar.2, if_neg notStop, advanced, later, lengths]
          rfl

/-- A stretch that begins at the cursor. -/
theorem scan_none_stretch {start : Cursor} (nonempty : stretch ≠ [])
    (plain : Plain start.mode stretch) (stops : Stops start.mode rest) :
    scan name start none (stretch ++ rest) =
      finishRun name start stretch (start.skip stretch.length) rest := by
  have whole := @scan_stretch name stretch rest start [] nonempty plain stops
  simp only [List.nil_append, List.length_nil, Nat.zero_add] at whole
  rw [← whole]
  cases stretch with
  | nil => exact absurd rfl nonempty
  | cons character stretch => rfl

theorem finishRun_bar {start : Cursor} (ends : endsLine rest = true) :
    finishRun name start bar cursor rest = .ok (scanBar start (start.skip 2) rest) := by
  rw [finishRun, if_pos ⟨rfl, ends⟩]

theorem finishRun_blank {start : Cursor} (blank : Text.blank stretch = true) :
    finishRun name start stretch cursor rest = scan name cursor none rest := by
  have noBar : stretch ≠ bar := by
    rintro rfl
    exact absurd blank (by decide)
  rw [finishRun, if_neg fun isBar => noBar isBar.1, if_pos blank]

theorem finishRun_text {start : Cursor} (noBar : ¬ (stretch = bar ∧ endsLine rest = true))
    (notBlank : ¬ Text.blank stretch = true) :
    finishRun name start stretch cursor rest =
      .ok ⟨⟨.text, stretch, start.offset, cursor.offset, start.line, start.column⟩, cursor,
        rest⟩ := by
  rw [finishRun, if_neg noBar, if_neg notBlank]

theorem dropWhile_space_append (said : Text) (rest : Text) :
    (said ++ '\n' :: rest).dropWhile (· = ' ') =
      said.dropWhile (· = ' ') ++ '\n' :: rest := by
  rw [List.dropWhile_append]
  split
  · next none => simp [List.isEmpty_iff.1 none]
  · rfl

theorem ne_of_mem_dropWhile {said : Text} (noFeed : '\n' ∉ said) :
    ∀ character ∈ said.dropWhile (· = ' '), decide (character ≠ '\n') = true := by
  intro character member
  have within := (List.dropWhile_sublist (· = ' ')).subset member
  exact decide_eq_true fun feed => noFeed (feed ▸ within)

/-- The value of a pair whose line is ended. -/
theorem scanValue_ended {colon : Cursor} {said : Text} (noFeed : '\n' ∉ said) :
    scanValue name colon (said ++ '\n' :: rest) =
      .ok ⟨⟨.pairValue, said.dropWhile (· = ' '), colon.offset, colon.offset + said.length + 2,
        colon.line, colon.column⟩, colon.nextLine (colon.offset + said.length + 2), rest⟩ := by
  have plain := ne_of_mem_dropWhile noFeed
  have shorter := (List.dropWhile_sublist (· = ' ') (l := said)).length_le
  have stop : colon.offset + 1 +
      ((said ++ '\n' :: rest).length - (said.dropWhile (· = ' ') ++ '\n' :: rest).length) +
        (said.dropWhile (· = ' ')).length + 1 = colon.offset + said.length + 2 := by
    simp only [List.length_append, List.length_cons]
    omega
  have value : ('\n' :: rest).takeWhile (fun character => decide (character ≠ '\n')) = [] := rfl
  have feed : ('\n' :: rest).dropWhile (fun character => decide (character ≠ '\n')) =
      '\n' :: rest := rfl
  rw [scanValue, dropWhile_space_append]
  simp only [List.dropWhile_append_of_pos plain, List.takeWhile_append_of_pos plain, value, feed,
    List.append_nil, stop]

/-- The value of a pair whose line is not ended. -/
theorem scanValue_open {colon : Cursor} {said : Text} (noFeed : '\n' ∉ said) :
    scanValue name colon said =
      .error (.parse .openPair
        ⟨some name, some colon.line, some (colon.column + 1 + said.length)⟩) := by
  have plain := ne_of_mem_dropWhile noFeed
  have nothing : (said.dropWhile (· = ' ')).dropWhile (· ≠ '\n') = [] :=
    List.dropWhile_eq_nil_iff.2 plain
  have shorter := (List.dropWhile_sublist (· = ' ') (l := said)).length_le
  have column : colon.column + 1 + (said.length - (said.dropWhile (· = ' ')).length) +
      (said.dropWhile (· = ' ')).length = colon.column + 1 + said.length := by omega
  rw [scanValue]
  simp only [nothing, column]

/-- The opening of a line: a colon in the header, read as the value of a pair. -/
theorem scan_colon (header : cursor.mode = .header) :
    scan name cursor none (':' :: rest) = scanValue name cursor rest := by
  rw [scan, if_neg (by decide), if_pos ⟨header, rfl⟩]

/-- The tokens from a place on: the first one, and those behind it. -/
theorem tokensFrom_of_scan {cursor : Cursor} {text : Text} {step : Step}
    (scanned : scan name cursor none text = .ok step)
    (kind : step.token.kind ≠ .endOfText) :
    tokensFrom name cursor text =
      ⟨step.token :: (tokensFrom name step.cursor step.rest).tokens,
        (tokensFrom name step.cursor step.rest).fault⟩ := by
  rw [tokensFrom]
  split
  · next failed => simp [scanned] at failed
  · next other same =>
      obtain rfl : step = other := by simpa [scanned] using same
      rw [dif_neg kind]

theorem tokensFrom_of_end {cursor : Cursor} {text : Text} {step : Step}
    (scanned : scan name cursor none text = .ok step)
    (kind : step.token.kind = .endOfText) :
    tokensFrom name cursor text = ⟨[step.token], none⟩ := by
  rw [tokensFrom]
  split
  · next failed => simp [scanned] at failed
  · next other same =>
      obtain rfl : step = other := by simpa [scanned] using same
      rw [dif_pos kind]

theorem tokensFrom_of_error {cursor : Cursor} {text : Text} {fault : Fault}
    (scanned : scan name cursor none text = .error fault) :
    tokensFrom name cursor text = ⟨[], some fault⟩ := by
  rw [tokensFrom]
  split
  · next other same =>
      obtain rfl : fault = other := by simpa [scanned] using same
      rfl
  · next failed => simp [scanned] at failed

end FrontMatter

end StaticSite
