import Mathlib.Data.List.TakeWhile
import StaticSite.Proofs.FrontMatter.Scanning
import StaticSite.Proofs.Text.Splitting

/-!
# The lines of a header

A document can be read line by line.  Its first line is a bar.  Every later line up to the
next bar is blank or has a colon behind something that is not blank, and a line feed ends
it; the body is what follows that bar.  The scanner and the reader of tokens accept exactly
these documents, give the same pairs and the same body, and otherwise name the fault of the
first line that is out of order.
-/

namespace StaticSite

namespace FrontMatter

namespace HeaderLines

/-- What a line says before its first colon. -/
def key (line : Text) : Text := line.takeWhile (· ≠ ':')

/-- What a line says after its first colon, without the spaces in front. -/
def value (line : Text) : Text := ((line.dropWhile (· ≠ ':')).drop 1).dropWhile (· = ' ')

/-- The pair of a line in a header; a blank line has none. -/
def pair? (line : Text) : Option (Text × Text) :=
  if Text.blank line then none else some (key line, value line)

/-- The wording of what is wrong with a line that is no bar and cannot stand in a header;
`ended` says whether a line feed ends the line. -/
def flaw? (line : Text) (ended : Bool) : Option Text :=
  if Text.blank line then if ended then none else some "Expected --- at the end"
  else if ':' ∉ line then some "Expected key value pair"
  else if ! ended then some "Got EOF on key-value pair"
  else if Text.blank (key line) then some "Expected --- at the end"
  else none

/-- Read the lines behind the opening bar: the pairs of the header and the body, or what is
wrong.  Every line but the last is ended by a line feed. -/
def readRest : List Text → Except Text (List (Text × Text) × Text)
  | [] => .error "Expected --- at the end"
  | line :: later =>
    if line = bar then .ok ([], Text.join "\n" later)
    else
      match flaw? line (! later.isEmpty) with
      | some flaw => .error flaw
      | none => (readRest later).map fun (pairs, body) => ((pair? line).toList ++ pairs, body)

/-- Read the lines of a document. -/
def read : List Text → Except Text (List (Text × Text) × Text)
  | [] => .error "Expected --- at start"
  | line :: later => if line = bar then readRest later else .error "Expected --- at start"

end HeaderLines

/-- Whether reading ends with a fault of a document that has a certain wording. -/
def FailsWith {α : Type} (outcome : Except Fault α) (message : Text) : Prop :=
  ∃ fault place, outcome = .error (.parse fault place) ∧ fault.message = message

/-- Read the pairs of a header from a place in it on. -/
def headerFrom (name : Text) (fields : Fields) (cursor : Cursor) (text : Text) :
    Except Fault Header :=
  readPairs name (tokensFrom name cursor text).fault fields (tokensFrom name cursor text).tokens

variable {name : Text} {fields : Fields} {cursor : Cursor} {stretch rest : Text}

/-- Two places with the same first token have the same tokens. -/
theorem headerFrom_congr {other : Cursor} {text otherText : Text}
    (same : scan name cursor none text = scan name other none otherText) :
    headerFrom name fields cursor text = headerFrom name fields other otherText := by
  have tokens : tokensFrom name cursor text = tokensFrom name other otherText := by
    cases scanned : scan name other none otherText with
    | error fault => rw [tokensFrom_of_error scanned, tokensFrom_of_error (same.trans scanned)]
    | ok step =>
        by_cases kind : step.token.kind = .endOfText
        · rw [tokensFrom_of_end scanned kind, tokensFrom_of_end (same.trans scanned) kind]
        · rw [tokensFrom_of_scan scanned kind, tokensFrom_of_scan (same.trans scanned) kind]
  rw [headerFrom, headerFrom, tokens]

theorem headerFrom_nil : FailsWith (headerFrom name fields cursor []) "Expected --- at the end" := by
  have scanned : scan name cursor none [] = .ok _ := rfl
  rw [headerFrom, tokensFrom_of_end scanned rfl]
  exact ⟨.noClosingBar, _, rfl, rfl⟩

theorem headerFrom_lineFeed :
    headerFrom name fields cursor ('\n' :: rest) =
      headerFrom name fields (cursor.nextLine (cursor.offset + 1)) rest := by
  have scanned : scan name cursor none ('\n' :: rest) = .ok _ := rfl
  rw [headerFrom, tokensFrom_of_scan scanned (by simp)]
  rfl

/-- A blank stretch is passed over. -/
theorem headerFrom_blank (plain : Plain cursor.mode stretch) (stops : Stops cursor.mode rest)
    (blank : Text.blank stretch = true) :
    headerFrom name fields cursor (stretch ++ rest) =
      headerFrom name fields (cursor.skip stretch.length) rest := by
  cases stretch with
  | nil => rfl
  | cons character stretch =>
      apply headerFrom_congr
      rw [scan_none_stretch (by simp) plain stops, finishRun_blank blank]

/-- A line feed or the end of the text is no value of a pair. -/
theorem scan_ends (ends : rest = [] ∨ rest.head? = some '\n') :
    ∃ step, scan name cursor none rest = .ok step ∧ step.token.kind ≠ .pairValue := by
  rcases ends with rfl | feed
  · exact ⟨_, rfl, by simp⟩
  · cases rest with
    | nil => simp at feed
    | cons character rest =>
        obtain rfl : character = '\n' := by simpa using feed
        exact ⟨_, rfl, by simp⟩

theorem tokensFrom_cons {step : Step} {text : Text}
    (scanned : scan name cursor none text = .ok step) :
    ∃ later, (tokensFrom name cursor text).tokens = step.token :: later := by
  by_cases kind : step.token.kind = .endOfText
  · exact ⟨[], by rw [tokensFrom_of_end scanned kind]⟩
  · exact ⟨_, by rw [tokensFrom_of_scan scanned kind]⟩

/-- A stretch of text is a key: what matters is the token behind it. -/
theorem headerFrom_text (plain : Plain cursor.mode stretch) (stops : Stops cursor.mode rest)
    (noBar : ¬ (stretch = bar ∧ endsLine rest = true))
    (notBlank : ¬ Text.blank stretch = true) :
    ∃ token : Token, token.kind = .text ∧ token.value = stretch ∧
      headerFrom name fields cursor (stretch ++ rest) =
        readPairs name (tokensFrom name (cursor.skip stretch.length) rest).fault fields
          (token :: (tokensFrom name (cursor.skip stretch.length) rest).tokens) := by
  have nonempty : stretch ≠ [] := by
    rintro rfl
    exact notBlank rfl
  have scanned := @scan_none_stretch name _ rest cursor nonempty plain stops
  rw [finishRun_text noBar notBlank] at scanned
  refine ⟨⟨.text, stretch, cursor.offset, (cursor.skip stretch.length).offset, cursor.line,
    cursor.column⟩, rfl, rfl, ?_⟩
  rw [headerFrom, tokensFrom_of_scan scanned (by simp)]

/-- A line without a pair: the token behind its text is no value. -/
theorem headerFrom_noPair (plain : Plain cursor.mode stretch)
    (ends : rest = [] ∨ rest.head? = some '\n') (noBar : stretch ≠ bar)
    (notBlank : ¬ Text.blank stretch = true) :
    FailsWith (headerFrom name fields cursor (stretch ++ rest)) "Expected key value pair" := by
  have stops : Stops cursor.mode rest := by
    rcases ends with rfl | feed
    · exact Or.inl rfl
    · cases rest with
      | nil => simp at feed
      | cons character rest => exact Or.inl (by simpa [endsLine] using Or.inl feed)
  obtain ⟨token, kind, -, read⟩ :=
    @headerFrom_text name fields cursor stretch rest plain stops (fun isBar => noBar isBar.1)
      notBlank
  obtain ⟨step, scanned, noValue⟩ := @scan_ends name (cursor.skip stretch.length) rest ends
  obtain ⟨later, tokens⟩ := tokensFrom_cons scanned
  rw [read, tokens, readPairs]
  simp only [kind, noValue, if_false]
  exact ⟨.noPair, _, rfl, rfl⟩

/-- A pair whose line is ended is put among the fields. -/
theorem headerFrom_pair {said : Text} (header : cursor.mode = .header)
    (plain : Plain cursor.mode stretch) (notBlank : ¬ Text.blank stretch = true)
    (noFeed : '\n' ∉ said) :
    headerFrom name fields cursor (stretch ++ ':' :: (said ++ '\n' :: rest)) =
      headerFrom name (fields.put stretch (said.dropWhile (· = ' ')))
        (cursor.nextLine (cursor.offset + stretch.length + said.length + 2)) rest := by
  obtain ⟨token, kind, value, read⟩ :=
    @headerFrom_text name fields cursor stretch (':' :: (said ++ '\n' :: rest)) plain
      (Or.inr ⟨header, rfl⟩) (by simp [endsLine]) notBlank
  have scanned := @scanValue_ended name rest (cursor.skip stretch.length) said noFeed
  have colon : (cursor.skip stretch.length).mode = .header := header
  rw [← scan_colon colon] at scanned
  rw [read, tokensFrom_of_scan scanned (by simp), readPairs]
  simp only [kind, value, if_true]
  rfl

/-- A pair whose line is not ended. -/
theorem headerFrom_openPair {said : Text} (header : cursor.mode = .header)
    (plain : Plain cursor.mode stretch) (noFeed : '\n' ∉ said) :
    FailsWith (headerFrom name fields cursor (stretch ++ ':' :: said))
      "Got EOF on key-value pair" := by
  have colon : (cursor.skip stretch.length).mode = .header := header
  have scanned := @scanValue_open name (cursor.skip stretch.length) said noFeed
  rw [← scan_colon colon] at scanned
  have stops : Stops cursor.mode (':' :: said) := Or.inr ⟨header, rfl⟩
  by_cases blank : Text.blank stretch = true
  · rw [headerFrom_blank plain stops blank, headerFrom, tokensFrom_of_error scanned]
    exact ⟨.openPair, _, rfl, rfl⟩
  · obtain ⟨token, kind, -, read⟩ :=
      @headerFrom_text name fields cursor stretch _ plain stops (by simp [endsLine]) blank
    rw [read, tokensFrom_of_error scanned, readPairs.eq_def]
    simp only [kind]
    exact ⟨.openPair, _, rfl, rfl⟩

/-- A pair without a key. -/
theorem headerFrom_noKey {said : Text} (header : cursor.mode = .header)
    (plain : Plain cursor.mode stretch) (blank : Text.blank stretch = true)
    (noFeed : '\n' ∉ said) :
    FailsWith (headerFrom name fields cursor (stretch ++ ':' :: (said ++ '\n' :: rest)))
      "Expected --- at the end" := by
  have colon : (cursor.skip stretch.length).mode = .header := header
  have scanned := @scanValue_ended name rest (cursor.skip stretch.length) said noFeed
  rw [← scan_colon colon] at scanned
  rw [headerFrom_blank plain (Or.inr ⟨header, rfl⟩) blank, headerFrom,
    tokensFrom_of_scan scanned (by simp)]
  exact ⟨.noClosingBar, _, rfl, rfl⟩

theorem plain_bar (mode : Mode) : Plain mode bar := by
  intro character member
  obtain rfl : character = '-' := by simpa [bar] using member
  exact ⟨by decide, by decide, fun _ => by decide⟩

theorem headerFrom_bar (plain : Plain cursor.mode bar) (ends : endsLine rest = true) :
    headerFrom name fields cursor (bar ++ rest) =
      .ok ⟨fields, (scanBar cursor (cursor.skip 2) rest).token.stop⟩ := by
  have scanned := @scan_none_stretch name bar rest cursor (by simp [bar]) plain (Or.inl ends)
  rw [finishRun_bar ends] at scanned
  have kind : (scanBar cursor (cursor.skip 2) rest).token.kind = .bar := by
    cases rest <;> rfl
  rw [headerFrom, tokensFrom_of_scan scanned (by simp [kind]), readPairs.eq_def]
  simp only [kind]

namespace HeaderLines

variable {line : Text}

/-- A line with a colon is its key, the colon and what the line says behind it. -/
theorem exists_said (colon : ':' ∈ line) :
    ∃ said, line = key line ++ ':' :: said ∧ value line = said.dropWhile (· = ' ') := by
  have parted : line = key line ++ line.dropWhile (· ≠ ':') :=
    List.takeWhile_append_dropWhile.symm
  cases rest : line.dropWhile (· ≠ ':') with
  | nil =>
      have := List.dropWhile_eq_nil_iff.1 rest ':' colon
      simp at this
  | cons mark said =>
      have isColon := List.head?_dropWhile_not (fun other => decide (other ≠ ':')) line
      rw [rest] at isColon
      have isColon : mark = ':' := by simpa using isColon
      refine ⟨said, ?_, ?_⟩
      · rw [rest, isColon] at parted
        exact parted
      · rw [value, rest, List.drop_one, List.tail_cons]

theorem plain_key (mode : Mode) (noFeed : '\n' ∉ line) (noNull : '\x00' ∉ line) :
    Plain mode (key line) := by
  intro character member
  have within := (List.takeWhile_sublist _).subset member
  have noColon := List.mem_takeWhile_imp member
  refine ⟨fun feed => noFeed (feed ▸ within), fun null => noNull (null ▸ within), fun _ => ?_⟩
  simpa using noColon

theorem plain_of_noColon (mode : Mode) (noFeed : '\n' ∉ line) (noNull : '\x00' ∉ line)
    (noColon : ':' ∉ line) : Plain mode line := by
  intro character member
  exact ⟨fun feed => noFeed (feed ▸ member), fun null => noNull (null ▸ member),
    fun _ colon => noColon (colon ▸ member)⟩

theorem noColon_of_blank (blank : Text.blank line = true) : ':' ∉ line := by
  intro colon
  have := List.all_eq_true.1 blank ':' colon
  exact absurd this (by decide)

/-- A line that no line feed ends always has a flaw. -/
theorem exists_flaw (line : Text) : ∃ message, flaw? line false = some message := by
  rw [flaw?]
  split
  · exact ⟨_, rfl⟩
  · split
    · exact ⟨_, rfl⟩
    · exact ⟨_, rfl⟩

/-- A line that cannot stand in a header is reported with what is wrong with it. -/
theorem headerFrom_flaw {message : Text} (header : cursor.mode = .header)
    (noFeed : '\n' ∉ line) (noNull : '\x00' ∉ line) (noBar : line ≠ bar)
    (ends : rest = [] ∨ rest.head? = some '\n')
    (flaw : flaw? line (! rest.isEmpty) = some message) :
    FailsWith (headerFrom name fields cursor (line ++ rest)) message := by
  rw [flaw?] at flaw
  split at flaw
  · next blank =>
      have plain := plain_of_noColon cursor.mode noFeed noNull (noColon_of_blank blank)
      split at flaw
      · simp at flaw
      · next last =>
          obtain rfl : rest = [] := by simpa using last
          obtain rfl : "Expected --- at the end".toList = message := by simpa using flaw
          rw [headerFrom_blank plain (Or.inl rfl) blank]
          exact headerFrom_nil
  · next notBlank =>
      split at flaw
      · next noColon =>
          obtain rfl : "Expected key value pair".toList = message := by simpa using flaw
          exact headerFrom_noPair (plain_of_noColon cursor.mode noFeed noNull noColon) ends noBar
            notBlank
      · next colon =>
          obtain ⟨said, parted, -⟩ := exists_said (not_not.1 colon)
          have plain := plain_key cursor.mode noFeed noNull
          have saidFeed : '\n' ∉ said := fun feed => noFeed (by rw [parted]; simp [feed])
          rw [parted]
          split at flaw
          · next last =>
              obtain rfl : rest = [] := by simpa using last
              obtain rfl : "Got EOF on key-value pair".toList = message := by simpa using flaw
              rw [List.append_nil]
              exact headerFrom_openPair header plain saidFeed
          · next ended =>
              split at flaw
              · next noKey =>
                  obtain rfl : "Expected --- at the end".toList = message := by simpa using flaw
                  cases rest with
                  | nil => simp at ended
                  | cons character rest =>
                      obtain rfl : character = '\n' := by simpa using ends
                      rw [List.append_assoc, List.cons_append]
                      exact headerFrom_noKey header plain noKey saidFeed
              · simp at flaw

/-- A line of a header is read and its pair, if it has one, is put among the fields. -/
theorem headerFrom_line (header : cursor.mode = .header) (noFeed : '\n' ∉ line)
    (noNull : '\x00' ∉ line) (sound : flaw? line true = none) :
    ∃ next : Cursor, next.mode = .header ∧ next.offset = cursor.offset + line.length + 1 ∧
      headerFrom name fields cursor (line ++ '\n' :: rest) =
        headerFrom name (fields.putAll (pair? line).toList) next rest := by
  rw [flaw?] at sound
  split at sound
  · next blank =>
      have plain := plain_of_noColon cursor.mode noFeed noNull (noColon_of_blank blank)
      refine ⟨(cursor.skip line.length).nextLine (cursor.offset + line.length + 1), header, rfl, ?_⟩
      rw [headerFrom_blank plain (Or.inl rfl) blank, headerFrom_lineFeed, pair?, if_pos blank]
      rfl
  · next notBlank =>
      split at sound
      · simp at sound
      · next colon =>
          obtain ⟨said, parted, stated⟩ := exists_said (not_not.1 colon)
          have plain := plain_key cursor.mode noFeed noNull
          have saidFeed : '\n' ∉ said := fun feed => noFeed (by rw [parted]; simp [feed])
          have hasKey : ¬ Text.blank (key line) = true := by
            intro noKey
            simp [noKey] at sound
          have length : cursor.offset + (key line).length + said.length + 2 =
              cursor.offset + line.length + 1 := by
            have := congrArg List.length parted
            simp only [List.length_append, List.length_cons] at this
            omega
          refine ⟨cursor.nextLine (cursor.offset + (key line).length + said.length + 2), header,
            length, ?_⟩
          have read := @headerFrom_pair name fields cursor (key line) rest said header plain hasKey
            saidFeed
          rw [pair?, if_neg notBlank, stated]
          conv_lhs => rw [parted]
          rw [List.append_assoc, List.cons_append, read]
          rfl

/-- Whether reading tokens into fields ends as reading lines does: with the same pairs put
among the fields and the same rest of the whole text, or with a fault of the same wording. -/
def Agrees (whole : Text) (fields : Fields) (outcome : Except Fault Header) :
    Except Text (List (Text × Text) × Text) → Prop
  | .ok (pairs, body) =>
    ∃ stop, outcome = .ok ⟨fields.putAll pairs, stop⟩ ∧ whole.drop stop = body
  | .error message => FailsWith outcome message

theorem Agrees.map {whole : Text} {outcome : Except Fault Header} {pairs : List (Text × Text)}
    {told : Except Text (List (Text × Text) × Text)}
    (agrees : Agrees whole (fields.putAll pairs) outcome told) :
    Agrees whole fields outcome (told.map fun (later, body) => (pairs ++ later, body)) := by
  cases told with
  | error message => exact agrees
  | ok result =>
      obtain ⟨stop, read, body⟩ := agrees
      refine ⟨stop, ?_, body⟩
      rw [read, Dictionary.putAll, Dictionary.putAll, Dictionary.putAll, List.foldl_append]

/-- The closing bar: the body is what stands behind its line. -/
theorem agrees_bar {whole before text : Text} {later : List Text}
    (split : Text.lines text = bar :: later) (parted : whole = before ++ text)
    (offset : cursor.offset = before.length) :
    Agrees whole fields (headerFrom name fields cursor text) (.ok ([], Text.join "\n" later)) := by
  have plain := plain_bar cursor.mode
  obtain ⟨-, ⟨rfl, rfl⟩ | ⟨mark, rest, isFeed, rfl, rfl⟩⟩ := Text.splitOn_cases split
  · refine ⟨_, List.append_nil bar ▸ headerFrom_bar plain rfl, ?_⟩
    simp [scanBar, Text.join, parted, offset, bar, Cursor.skip]
  · obtain rfl : mark = '\n' := by simpa using isFeed
    refine ⟨_, headerFrom_bar plain rfl, ?_⟩
    have stop : (scanBar cursor (cursor.skip 2) ('\n' :: rest)).token.stop =
        (before ++ (bar ++ ['\n'])).length := by
      simp [scanBar, offset, bar, Cursor.skip]
    have regroup : whole = (before ++ (bar ++ ['\n'])) ++ rest := by
      simp [parted]
    rw [stop, regroup, List.drop_left]
    exact (Text.join_splitOn '\n' rest).symm

/-- From any place in the header on, the tokens are read as the lines are.  The cursor stands
behind what has been read of the whole text. -/
theorem agrees_readRest {whole before text : Text} {lines : List Text}
    (split : Text.lines text = lines) (header : cursor.mode = .header)
    (noNull : '\x00' ∉ text) (parted : whole = before ++ text)
    (offset : cursor.offset = before.length) :
    Agrees whole fields (headerFrom name fields cursor text) (readRest lines) := by
  induction lines generalizing text before cursor fields with
  | nil => exact absurd split (Text.splitOn_ne_nil _ text)
  | cons line later ih =>
      rw [readRest]
      by_cases isBar : line = bar
      · rw [if_pos isBar]
        exact agrees_bar (isBar ▸ split) parted offset
      · rw [if_neg isBar]
        obtain ⟨plain, shape⟩ := Text.splitOn_cases split
        have noFeed : '\n' ∉ line := fun feed => by simpa using plain '\n' feed
        rcases shape with ⟨rfl, rfl⟩ | ⟨mark, rest, isFeed, rfl, rfl⟩
        · -- The last line has no line feed, so that it always has a flaw.
          obtain ⟨message, flaw⟩ := exists_flaw text
          have failed := @headerFrom_flaw name fields cursor [] text message header noFeed noNull
            isBar (Or.inl rfl) flaw
          rw [List.append_nil] at failed
          rw [List.isEmpty_nil, Bool.not_true, flaw]
          exact failed
        · obtain rfl : mark = '\n' := by simpa using isFeed
          have lineNull : '\x00' ∉ line := fun null => noNull (List.mem_append_left _ null)
          have ended : (! (Text.splitOn (· = '\n') rest).isEmpty) = true := by
            simp [Text.splitOn_ne_nil]
          rw [ended]
          cases flaw : flaw? line true with
          | some message =>
              exact headerFrom_flaw header noFeed lineNull isBar (Or.inr rfl) flaw
          | none =>
              obtain ⟨next, nextHeader, nextOffset, read⟩ :=
                @headerFrom_line name fields cursor rest line header noFeed lineNull flaw
              have regroup : whole = (before ++ (line ++ ['\n'])) ++ rest := by
                simp [parted]
              have nextLength : next.offset = (before ++ (line ++ ['\n'])).length := by
                simp only [nextOffset, offset, List.length_append, List.length_cons,
                  List.length_nil]
                omega
              rw [read]
              exact (ih rfl nextHeader (fun null => noNull (by simp [null])) regroup
                nextLength).map

/-- A document whose first line is a bar goes on with its header. -/
theorem readHeader_bar (ends : endsLine rest = true) :
    ∃ cursor : Cursor, cursor.mode = .header ∧
      cursor.offset = (bar ++ rest).length - (rest.drop 1).length ∧
      readHeader name (tokenize name (bar ++ rest)) = headerFrom name ∅ cursor (rest.drop 1) := by
  have plain := plain_bar .start
  have scanned := @scan_none_stretch name bar rest {} (by simp [bar]) plain (Or.inl ends)
  rw [finishRun_bar ends] at scanned
  refine ⟨(scanBar {} (Cursor.skip {} 2) rest).cursor, ?_, ?_, ?_⟩
  · cases rest with
    | nil => rfl
    | cons character rest => simp only [scanBar]; split <;> rfl
  · cases rest with
    | nil => rfl
    | cons character rest =>
        simp only [scanBar, List.drop_one, List.tail_cons, List.length_append, List.length_cons]
        split <;> simp [Cursor.skip, Cursor.nextLine, bar] <;> omega
  · have kind : (scanBar {} (Cursor.skip {} 2) rest).token.kind = .bar := by
      cases rest <;> rfl
    have left : (scanBar {} (Cursor.skip {} 2) rest).rest = rest.drop 1 := by
      cases rest <;> rfl
    rw [tokenize, tokensFrom_of_scan scanned (by simp [kind]), readHeader]
    simp only [kind, if_true, headerFrom, left]

/-- The first token of a document whose first line is no bar is no bar either. -/
theorem exists_scan_noBar (noFeed : '\n' ∉ line) (noNull : '\x00' ∉ line) (noBar : line ≠ bar)
    (ends : rest = [] ∨ rest.head? = some '\n') :
    ∃ step, scan name {} none (line ++ rest) = .ok step ∧ step.token.kind ≠ .bar := by
  have stops : Stops .start rest := by
    rcases ends with rfl | feed
    · exact Or.inl rfl
    · cases rest with
      | nil => simp at feed
      | cons character rest => exact Or.inl (by simpa [endsLine] using Or.inl feed)
  have plain : Plain .start line := fun character member =>
    ⟨fun feed => noFeed (feed ▸ member), fun null => noNull (null ▸ member), by simp⟩
  by_cases blank : Text.blank line = true
  · have passed : scan name {} none (line ++ rest) =
        scan name (Cursor.skip {} line.length) none rest := by
      cases line with
      | nil => rfl
      | cons character line =>
          rw [scan_none_stretch (by simp) plain stops, finishRun_blank blank]
    rw [passed]
    rcases ends with rfl | feed
    · exact ⟨_, rfl, by simp⟩
    · cases rest with
      | nil => simp at feed
      | cons character rest =>
          obtain rfl : character = '\n' := by simpa using feed
          exact ⟨_, rfl, by simp⟩
  · have nonempty : line ≠ [] := by
      rintro rfl
      exact blank rfl
    rw [scan_none_stretch nonempty plain stops, finishRun_text (fun isBar => noBar isBar.1) blank]
    exact ⟨_, rfl, by simp⟩

theorem readHeader_noBar (noFeed : '\n' ∉ line) (noNull : '\x00' ∉ line) (noBar : line ≠ bar)
    (ends : rest = [] ∨ rest.head? = some '\n') :
    FailsWith (readHeader name (tokenize name (line ++ rest))) "Expected --- at start" := by
  obtain ⟨step, scanned, kind⟩ := @exists_scan_noBar name rest line noFeed noNull noBar ends
  obtain ⟨later, tokens⟩ := tokensFrom_cons scanned
  rw [readHeader, tokenize, tokens]
  simp only [kind, if_false]
  exact ⟨.noOpeningBar, _, rfl, rfl⟩

/-- The tokens of a document are read as its lines are. -/
theorem agrees_read {text : Text} (noNull : '\x00' ∉ text) :
    Agrees text ∅ (readHeader name (tokenize name text)) (read (Text.lines text)) := by
  cases split : Text.lines text with
  | nil => exact absurd split (Text.splitOn_ne_nil _ text)
  | cons line later =>
      rw [read]
      obtain ⟨plain, shape⟩ := Text.splitOn_cases split
      have noFeed : '\n' ∉ line := fun feed => by simpa using plain '\n' feed
      rcases shape with ⟨rfl, rfl⟩ | ⟨mark, rest, isFeed, rfl, rfl⟩
      · by_cases isBar : text = bar
        · obtain ⟨cursor, -, -, opened⟩ := @readHeader_bar name [] rfl
          rw [List.append_nil] at opened
          rw [if_pos isBar, isBar, opened]
          exact headerFrom_nil
        · have failed := @readHeader_noBar name [] text noFeed noNull isBar (Or.inl rfl)
          rw [List.append_nil] at failed
          rw [if_neg isBar]
          exact failed
      · obtain rfl : mark = '\n' := by simpa using isFeed
        have lineNull : '\x00' ∉ line := fun null => noNull (List.mem_append_left _ null)
        by_cases isBar : line = bar
        · subst isBar
          obtain ⟨cursor, header, offset, opened⟩ := @readHeader_bar name ('\n' :: rest) rfl
          have parted : bar ++ '\n' :: rest = (bar ++ ['\n']) ++ rest := by simp
          have restNull : '\x00' ∉ rest := fun null => noNull (by simp [null])
          have length : cursor.offset = (bar ++ ['\n']).length := by
            have three : bar.length = 3 := rfl
            simp only [offset, List.drop_one, List.tail_cons, List.length_append, List.length_cons,
              List.length_nil, three]
            omega
          rw [if_pos rfl, opened]
          exact agrees_readRest rfl header restNull parted length
        · rw [if_neg isBar]
          exact readHeader_noBar noFeed lineNull isBar (Or.inr rfl)

end HeaderLines

/-- A document without null characters is read as its lines are: with the same fields and the
same body, or with a fault of the same wording. -/
theorem readDocument_eq_read_lines (name text : Text) (noNull : '\x00' ∉ text) :
    (∀ pairs body, HeaderLines.read (Text.lines text) = .ok (pairs, body) →
      ∃ stop, readDocument name text = .ok ⟨⟨Dictionary.ofList pairs, stop⟩, body⟩) ∧
    (∀ message, HeaderLines.read (Text.lines text) = .error message →
      ∃ fault place, readDocument name text = .error (.parse fault place) ∧
        fault.message = message) := by
  have agrees := @HeaderLines.agrees_read name text noNull
  constructor
  · intro pairs body told
    rw [told] at agrees
    obtain ⟨stop, read, rest⟩ := agrees
    exact ⟨stop, by rw [readDocument, read, ← rest]; rfl⟩
  · intro message told
    rw [told] at agrees
    obtain ⟨fault, place, failed, wording⟩ := agrees
    exact ⟨fault, place, by rw [readDocument, failed]; rfl, wording⟩

/-- Keys keep the blanks around them and may be hyphens, and values begin behind the spaces. -/
theorem readDocument_eq_read_lines_pairs :
    '\x00' ∉ "---\n title : A:B\n\t\n---:x\n---\nbody\n".toList ∧
      ∃ stop, readDocument "a.md" "---\n title : A:B\n\t\n---:x\n---\nbody\n" =
        .ok ⟨⟨Dictionary.ofList [(" title ".toList, "A:B".toList), ("---".toList, "x".toList)],
          stop⟩, "body\n".toList⟩ :=
  ⟨by decide, (readDocument_eq_read_lines "a.md" "---\n title : A:B\n\t\n---:x\n---\nbody\n"
    (by decide)).1 _ _ rfl⟩

end FrontMatter

end StaticSite
