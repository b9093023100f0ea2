import StaticSite.Proofs.FrontMatter.Scanning

/-!
# Runs of the scanner

A step of the scanner passes over white space within a line, takes the characters of one token
and leaves the cursor behind them; or it fails on a pair whose line is not ended.  From what one
step does, whatever the text is, comes what the tokens of a document are: a run of such steps up
to the end of the text or up to such a pair.
-/

namespace StaticSite

namespace FrontMatter

/-- What tokens look like: the kind and the value of a token with its span, the characters
between its two ends. -/
inductive Spells : TokenKind → (value span : Text) → Prop
  | bar {ending : Text} (ends : ending = [] ∨ ending = ['\n'] ∨ ending = ['\x00']) :
    Spells .bar [] (bar ++ ending)
  | pairValue {value : Text} (spaces : Nat) (noFeed : '\n' ∉ value)
    (noSpace : value.head? ≠ some ' ') :
    Spells .pairValue value (':' :: (List.replicate spaces ' ' ++ value ++ ['\n']))
  | text {value : Text} (filled : ¬ Text.blank value = true) (noFeed : '\n' ∉ value) :
    Spells .text value value
  | lineFeed : Spells .lineFeed [] ['\n']
  | endOfText : Spells .endOfText [] []

/-- White space within a line. -/
structure Gap (text : Text) : Prop where
  blank : Text.blank text = true
  noFeed : '\n' ∉ text

variable {name : Text} {mode : Mode} {cursor : Cursor} {kind : TokenKind} {step : Step}
  {text value span gap rest : Text}

namespace Spells

/-- Spaces in front of a value are no part of it. -/
theorem dropWhile_spaces (spaces : Nat) (noSpace : value.head? ≠ some ' ') :
    (List.replicate spaces ' ' ++ value).dropWhile (· = ' ') = value := by
  rw [List.dropWhile_append_of_pos (by simp +contextual [List.mem_replicate])]
  cases value with
  | nil => rfl
  | cons character value => simpa using noSpace

/-- A span says what the value of its token is. -/
theorem value_unique {other : Text} (spells : Spells kind value span)
    (again : Spells kind other span) : other = value := by
  cases spells with
  | bar => cases again with | bar => rfl
  | pairValue spaces noFeed noSpace =>
      generalize whole : ':' :: (List.replicate spaces ' ' ++ value ++ ['\n']) = span at again
      cases again with
      | pairValue otherSpaces otherFeed otherSpace =>
          have same := List.append_cancel_right (List.cons.inj whole).2
          rw [← dropWhile_spaces spaces noSpace, same, dropWhile_spaces otherSpaces otherSpace]
  | text => cases again with | text => rfl
  | lineFeed => cases again with | lineFeed => rfl
  | endOfText => cases again with | endOfText => rfl

/-- Only the end of the text takes no character. -/
theorem span_ne_nil (spells : Spells kind value span) (more : kind ≠ .endOfText) : span ≠ [] := by
  cases spells with
  | bar => simp [FrontMatter.bar]
  | pairValue => simp
  | text filled =>
      rintro rfl
      exact filled rfl
  | lineFeed => simp
  | endOfText => exact absurd rfl more

theorem span_eq_nil (spells : Spells kind value span) (ended : kind = .endOfText) : span = [] := by
  subst ended
  cases spells
  rfl

/-- A span has a line feed at most at its end. -/
theorem lineFeed_at_end (spells : Spells kind value span) :
    '\n' ∉ span ∨ ∃ front, span = front ++ ['\n'] ∧ '\n' ∉ front := by
  cases spells with
  | bar ends =>
      rcases ends with rfl | rfl | rfl
      · exact Or.inl (by decide)
      · exact Or.inr ⟨FrontMatter.bar, rfl, by decide⟩
      · exact Or.inl (by decide)
  | pairValue spaces noFeed =>
      refine Or.inr ⟨':' :: (List.replicate spaces ' ' ++ value), by simp, ?_⟩
      simp [noFeed, List.mem_replicate]
  | text _ noFeed => exact Or.inl noFeed
  | lineFeed => exact Or.inr ⟨[], rfl, by simp⟩
  | endOfText => exact Or.inl (by simp)

end Spells

namespace Gap

theorem nil : Gap [] := ⟨rfl, by simp⟩

theorem append {later : Text} (first : Gap gap) (second : Gap later) : Gap (gap ++ later) := by
  refine ⟨?_, by simp [first.noFeed, second.noFeed]⟩
  rw [Text.blank, List.all_append]
  exact Bool.and_eq_true_iff.2 ⟨first.blank, second.blank⟩

end Gap

/-- The token of a span that begins at a cursor. -/
def Cursor.token (here : Cursor) (kind : TokenKind) (value span : Text) : Token :=
  ⟨kind, value, here.offset, here.offset + span.length, here.line, here.column⟩

/-- The cursor behind a span.  A bar counts three columns whatever ends its line. -/
def Cursor.behind (here : Cursor) (kind : TokenKind) (span : Text) : Cursor where
  offset := here.offset + span.length
  line := if span.getLast? = some '\n' then here.line + 1 else here.line
  column :=
    if span.getLast? = some '\n' then 1
    else if kind = .bar then here.column + 3
    else here.column + span.length
  mode := if kind = .bar then here.mode.next else here.mode

/-- What one step of the scanner takes from a text: a gap that it passes over, and the span of
its token. -/
structure Takes (cursor : Cursor) (text gap span : Text) (step : Step) : Prop where
  parted : text = gap ++ span ++ step.rest
  passed : Gap gap
  spells : Spells step.token.kind step.token.value span
  token : step.token =
    (cursor.skip gap.length).token step.token.kind step.token.value span
  cursor : step.cursor = (cursor.skip gap.length).behind step.token.kind span
  ended : step.token.kind = .endOfText → step.rest = []

/-- A gap, and then a pair whose line is not ended. -/
def OpenPair (text : Text) : Prop := ∃ gap said, Gap gap ∧ '\n' ∉ said ∧ text = gap ++ ':' :: said

/-- What one step of the scanner does with a text: it takes a token, or fails on a pair whose
line is not ended and names the end of the text as the place. -/
def Reads (name : Text) (cursor : Cursor) (text : Text) : Except Fault Step → Prop
  | .ok step => ∃ gap span, Takes cursor text gap span step
  | .error fault =>
    OpenPair text ∧
      fault = .parse .openPair ⟨some name, some cursor.line, some (cursor.column + text.length)⟩

theorem Cursor.skip_skip (cursor : Cursor) (first second : Nat) :
    (cursor.skip first).skip second = cursor.skip (first + second) := by
  simp [Cursor.skip, Nat.add_assoc]

/-- What is read behind a gap is read with it. -/
theorem Reads.behind_gap {outcome : Except Fault Step} (passed : Gap gap)
    (reads : Reads name (cursor.skip gap.length) text outcome) :
    Reads name cursor (gap ++ text) outcome := by
  cases outcome with
  | ok step =>
      obtain ⟨later, span, takes⟩ := reads
      have same : (cursor.skip gap.length).skip later.length =
          cursor.skip (gap ++ later).length := by
        rw [Cursor.skip_skip, List.length_append]
      exact ⟨gap ++ later, span, by simp [takes.parted], passed.append takes.passed,
        takes.spells, same ▸ takes.token, same ▸ takes.cursor, takes.ended⟩
  | error fault =>
      obtain ⟨⟨later, said, blank, noFeed, rfl⟩, failed⟩ := reads
      refine ⟨⟨gap ++ later, said, passed.append blank, noFeed, by simp⟩, failed.trans ?_⟩
      simp [Cursor.skip, Nat.add_assoc]

/-- A bar is taken with what ends its line. -/
theorem takes_scanBar (ends : endsLine rest = true) :
    ∃ span, Takes cursor (bar ++ rest) [] span (scanBar cursor (cursor.skip 2) rest) := by
  cases rest with
  | nil => exact ⟨bar ++ [], rfl, .nil, .bar (Or.inl rfl), rfl, rfl, by simp [scanBar]⟩
  | cons character rest =>
      have ending : character = '\n' ∨ character = '\x00' := by simpa [endsLine] using ends
      rcases ending with rfl | rfl
      · exact ⟨bar ++ ['\n'], rfl, .nil, .bar (Or.inr (Or.inl rfl)), rfl, rfl, by simp [scanBar]⟩
      · exact ⟨bar ++ ['\x00'], rfl, .nil, .bar (Or.inr (Or.inr rfl)), rfl, rfl, by simp [scanBar]⟩

/-- The value of a pair is taken up to its line feed. -/
theorem reads_scanValue (colon : Cursor) (said : Text) :
    Reads name colon (':' :: said) (scanValue name colon said) := by
  by_cases ended : '\n' ∈ said
  · obtain ⟨line, rest, rfl, noFeed⟩ := List.eq_append_cons_of_mem ended
    rw [scanValue_ended noFeed]
    have parted : line.takeWhile (· = ' ') ++ line.dropWhile (· = ' ') = line :=
      List.takeWhile_append_dropWhile
    have spaces : line.takeWhile (· = ' ') =
        List.replicate (line.takeWhile (· = ' ')).length ' ' :=
      List.eq_replicate_of_mem fun character member => by
        simpa using List.mem_takeWhile_imp member
    have noSpace : (line.dropWhile (· = ' ')).head? ≠ some ' ' := by
      intro space
      have other := List.head?_dropWhile_not (fun character => decide (character = ' ')) line
      simp [space] at other
    have valueFeed : '\n' ∉ line.dropWhile (· = ' ') := fun feed =>
      noFeed ((List.dropWhile_sublist _).subset feed)
    have spells := Spells.pairValue (line.takeWhile (· = ' ')).length valueFeed noSpace
    rw [← spaces, parted] at spells
    have last : (':' :: (line ++ ['\n'])).getLast? = some '\n' := by
      rw [← List.cons_append, List.getLast?_append]
      rfl
    refine ⟨[], ':' :: (line ++ ['\n']), by simp, .nil, spells, ?_, ?_, by simp⟩
    · simp [Cursor.token, Cursor.skip, Nat.add_assoc]
    · simp [Cursor.behind, Cursor.nextLine, Cursor.skip, Nat.add_assoc, last]
  · have column : colon.column + 1 + said.length = colon.column + (':' :: said).length := by
      rw [List.length_cons, Nat.add_assoc, Nat.add_comm 1]
    rw [scanValue_open ended, column]
    exact ⟨⟨[], said, .nil, ended, rfl⟩, rfl⟩

/-- Every text begins with a stretch that goes on as long as it can. -/
theorem exists_stretch (mode : Mode) (text : Text) :
    ∃ stretch rest, text = stretch ++ rest ∧ Plain mode stretch ∧ Stops mode rest := by
  induction text with
  | nil => exact ⟨[], [], rfl, by simp [Plain], Or.inl rfl⟩
  | cons character text ih =>
      by_cases stops : Stops mode (character :: text)
      · exact ⟨[], character :: text, rfl, by simp [Plain], stops⟩
      · obtain ⟨stretch, rest, rfl, plain, later⟩ := ih
        refine ⟨character :: stretch, rest, rfl, ?_, later⟩
        intro other member
        rcases List.mem_cons.1 member with rfl | member
        · refine ⟨?_, ?_, ?_⟩
          · rintro rfl
            exact stops (Or.inl rfl)
          · rintro rfl
            exact stops (Or.inl rfl)
          · rintro header rfl
            exact stops (Or.inr ⟨header, rfl⟩)
        · exact plain other member

/-- The first character of a stretch may be a null character, for only what follows a character
ends the stretch that it is in. -/
theorem scan_first {start : Cursor} {character : Char} {stretch : Text}
    (noFeed : character ≠ '\n') (noPair : ¬ (start.mode = .header ∧ character = ':'))
    (plain : Plain start.mode stretch) (stops : Stops start.mode rest) :
    scan name start none (character :: (stretch ++ rest)) =
      finishRun name start (character :: stretch) (start.skip (stretch.length + 1)) rest := by
  cases stretch with
  | nil =>
      have noBar : [character] ≠ bar := by simp [bar]
      have stopped : endsLine rest = true ∨ start.mode = .header ∧ rest.head? = some ':' := stops
      rw [List.nil_append, scan, if_neg noFeed, if_neg noPair]
      simp only [Option.getD_none, if_pos stopped, finishRun, noBar, false_and, if_false]
      simp [Cursor.skip, Cursor.advance]
  | cons next stretch =>
      have going : ¬ Stops start.mode (next :: stretch ++ rest) := plain.not_stops
      have notEnd : ¬ endsLine (next :: stretch ++ rest) = true := fun ends => going (Or.inl ends)
      have notStop : ¬ (endsLine (next :: stretch ++ rest) = true ∨
          start.mode = .header ∧ (next :: stretch ++ rest).head? = some ':') := going
      have later := @scan_stretch name _ rest start [character] (by simp) plain stops
      rw [scan, if_neg noFeed, if_neg noPair]
      simp only [Option.getD_none]
      rw [if_neg fun isBar => notEnd isBar.2, if_neg notStop]
      rw [Nat.add_comm _ 1]
      exact later

/-- One step of the scanner, from any cursor in any text. -/
theorem scan_reads (name : Text) (cursor : Cursor) (text : Text) :
    Reads name cursor text (scan name cursor none text) := by
  induction length : text.length using Nat.strongRecOn generalizing cursor text with
  | ind size ih =>
      cases text with
      | nil => exact ⟨[], [], rfl, .nil, .endOfText, rfl, rfl, fun _ => rfl⟩
      | cons character text =>
          by_cases feed : character = '\n'
          · subst feed
            exact ⟨[], ['\n'], rfl, .nil, .lineFeed, rfl, rfl, by simp⟩
          by_cases pair : cursor.mode = .header ∧ character = ':'
          · obtain ⟨header, rfl⟩ := pair
            rw [scan_colon header]
            exact reads_scanValue cursor text
          obtain ⟨stretch, rest, rfl, plain, stops⟩ := exists_stretch cursor.mode text
          rw [scan_first feed pair plain stops]
          have noFeed : '\n' ∉ character :: stretch := by
            simpa [Ne.symm feed] using fun member => (plain _ member).1 rfl
          by_cases isBar : character :: stretch = bar ∧ endsLine rest = true
          · rw [← List.cons_append, isBar.1, finishRun_bar isBar.2]
            exact ⟨[], takes_scanBar isBar.2⟩
          by_cases blank : Text.blank (character :: stretch) = true
          · -- What is blank is a gap in front of the next token.
            rw [finishRun_blank blank, ← List.cons_append]
            have shorter : rest.length < size := by
              simp only [List.length_cons, List.length_append] at length
              omega
            exact (ih _ shorter _ rest rfl).behind_gap ⟨blank, noFeed⟩
          · rw [finishRun_text isBar blank]
            have inside : (character :: stretch).getLast? ≠ some '\n' := fun last =>
              noFeed (List.mem_of_getLast? last)
            refine ⟨[], character :: stretch, rfl, .nil, .text blank noFeed, rfl, ?_, by simp⟩
            simp only [Cursor.behind, inside, if_false]
            simp [Cursor.skip]

/-- A run of the scanner: the tokens that it takes one after the other, from a cursor in front of
a text up to a cursor in front of what is left. -/
inductive Runs : Cursor → Text → List Token → Cursor → Text → Prop
  | nothing (cursor : Cursor) (text : Text) : Runs cursor text [] cursor text
  | token {cursor last : Cursor} {kind : TokenKind} {value gap span text left : Text}
    {tokens : List Token} (passed : Gap gap) (spells : Spells kind value span)
    (later : Runs ((cursor.skip gap.length).behind kind span) text tokens last left) :
    Runs cursor (gap ++ span ++ text)
      ((cursor.skip gap.length).token kind value span :: tokens) last left

/-- How the tokens of a document end: with the end of the text, or in front of a pair whose line is
not ended, where the end of the text is named as the place. -/
inductive Ends (name : Text) (last : Cursor) : (left : Text) → TokenStream → Prop
  | whole {earlier : List Token} {final : Token}
    (more : ∀ token ∈ earlier, token.kind ≠ .endOfText) (kind : final.kind = .endOfText) :
    Ends name last [] ⟨earlier ++ [final], none⟩
  | openPair {left : Text} {tokens : List Token}
    (more : ∀ token ∈ tokens, token.kind ≠ .endOfText) (unended : OpenPair left) :
    Ends name last left ⟨tokens,
      some (.parse .openPair ⟨some name, some last.line, some (last.column + left.length)⟩)⟩

theorem Ends.cons {last : Cursor} {left : Text} {token : Token} {stream : TokenStream}
    (more : token.kind ≠ .endOfText) (ends : Ends name last left stream) :
    Ends name last left ⟨token :: stream.tokens, stream.fault⟩ := by
  cases ends with
  | whole others kind => exact .whole (List.forall_mem_cons.2 ⟨more, others⟩) kind
  | openPair others unended => exact .openPair (List.forall_mem_cons.2 ⟨more, others⟩) unended

theorem Takes.runs {last : Cursor} {left : Text} {tokens : List Token}
    (takes : Takes cursor text gap span step)
    (later : Runs step.cursor step.rest tokens last left) :
    Runs cursor text (step.token :: tokens) last left := by
  rw [takes.parted, takes.token]
  exact .token takes.passed takes.spells (takes.cursor ▸ later)

/-- The tokens from a cursor on are a run of the scanner. -/
theorem exists_runs (name : Text) (cursor : Cursor) (text : Text) :
    ∃ last left, Runs cursor text (tokensFrom name cursor text).tokens last left ∧
      Ends name last left (tokensFrom name cursor text) := by
  induction length : text.length using Nat.strongRecOn generalizing cursor text with
  | ind size ih =>
      have reads := scan_reads name cursor text
      cases scanned : scan name cursor none text with
      | error fault =>
          rw [scanned] at reads
          obtain ⟨unended, rfl⟩ := reads
          rw [tokensFrom_of_error scanned]
          exact ⟨cursor, text, .nothing cursor text, .openPair (by simp) unended⟩
      | ok step =>
          rw [scanned] at reads
          obtain ⟨gap, span, takes⟩ := reads
          by_cases kind : step.token.kind = .endOfText
          · rw [tokensFrom_of_end scanned kind]
            exact ⟨step.cursor, [], takes.runs (takes.ended kind ▸ .nothing _ _),
              @Ends.whole _ _ [] _ (by simp) kind⟩
          · have shorter := rest_scan scanned kind
            obtain ⟨last, left, runs, ends⟩ := ih _ (by omega) step.cursor step.rest rfl
            rw [tokensFrom_of_scan scanned kind]
            exact ⟨last, left, takes.runs runs, ends.cons kind⟩

end FrontMatter

end StaticSite
