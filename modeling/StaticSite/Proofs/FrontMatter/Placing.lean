import StaticSite.Component
import StaticSite.Proofs.FrontMatter.Spanning
import StaticSite.Proofs.Text.LineCounts

/-!
# Where the tokens of a document stand

The scanner counts lines and columns as it goes.  The lines are right for every text.  A column
counts the characters since the last line feed, but for the null characters that a bar takes for
the end of its line: the cursor passes over such a character without counting it, and every
column behind it on that line is too small.
-/

namespace StaticSite

namespace FrontMatter

/-- Whether a token is a bar that takes a null character for the end of its line. -/
def Token.Swallows (token : Token) (text : Text) : Prop :=
  token.kind = .bar ∧ token.span text = bar ++ ['\x00']

instance (token : Token) (text : Text) : Decidable (token.Swallows text) :=
  inferInstanceAs (Decidable (_ ∧ _))

/-- How many null characters the bars among some tokens take for the end of a line. -/
def swallowed (text : Text) (line : Nat) (tokens : List Token) : Nat :=
  tokens.countP fun token => token.line = line ∧ token.Swallows text

/-- Whether all tokens of a document name the place at which they begin, and a fault the end of
the text. -/
def Placed (name text : Text) (stream : TokenStream) : Prop :=
  (∀ token ∈ stream.tokens,
    token.place name = Component.placeAfter (some name) (text.take token.start)) ∧
  ∀ fault, stream.fault = some fault →
    fault = .parse .openPair (Component.placeAfter (some name) text)

/-- Whether a line is that of the end of a part of a text and a column is so too, but for the null
characters that the tokens of this part have taken for the end of that line. -/
structure Counts (whole before : Text) (earlier : List Token) (line column : Nat) : Prop where
  lineFeeds : line = Text.lineFeeds before + 1
  characters : column + swallowed whole line earlier = Text.lastLineLength before + 1

/-- A cursor behind a part of a text and behind its tokens. -/
structure Stands (whole before : Text) (earlier : List Token) (cursor : Cursor) : Prop where
  offset : cursor.offset = before.length
  counts : Counts whole before earlier cursor.line cursor.column
  above : ∀ token ∈ earlier, token.line ≤ cursor.line

variable {name whole before text span gap value left rest : Text} {earlier tokens : List Token}
  {cursor last : Cursor} {line column : Nat} {kind : TokenKind}

theorem swallowed_concat (text : Text) (line : Nat) (earlier : List Token) (token : Token) :
    swallowed text line (earlier ++ [token]) =
      swallowed text line earlier + if token.line = line ∧ token.Swallows text then 1 else 0 := by
  simp [swallowed, List.countP_append, List.countP_singleton]

/-- The tokens of the lines above have no part in a column. -/
theorem swallowed_of_above (above : ∀ token ∈ earlier, token.line < line) :
    swallowed whole line earlier = 0 := by
  rw [swallowed, List.countP_eq_zero]
  intro token member
  have lower := above token member
  simp only [decide_eq_true_eq]
  omega

/-- Further on in a line the column has grown by the characters in between. -/
theorem Counts.along {added : Text} (counts : Counts whole before earlier line column)
    (noFeed : '\n' ∉ added) :
    Counts whole (before ++ added) earlier line (column + added.length) := by
  refine ⟨?_, ?_⟩
  · rw [Text.lineFeeds_append, Text.lineFeeds_of_not_mem noFeed, counts.lineFeeds, Nat.add_zero]
  · have characters := counts.characters
    rw [Text.lastLineLength_append _ noFeed]
    omega

theorem Stands.skip (stands : Stands whole before earlier cursor) (passed : Gap gap) :
    Stands whole (before ++ gap) earlier (cursor.skip gap.length) := by
  refine ⟨?_, stands.counts.along passed.noFeed, stands.above⟩
  rw [List.length_append, ← stands.offset]
  rfl

/-- Within a line the column grows by the characters of a token, but not by the null character that
a bar swallows. -/
theorem Spells.column_behind (spells : Spells kind value span) (noFeed : '\n' ∉ span)
    (cursor : Cursor) :
    (cursor.behind kind span).column +
        (if kind = .bar ∧ span = FrontMatter.bar ++ ['\x00'] then 1 else 0) =
      cursor.column + span.length := by
  have inside : span.getLast? ≠ some '\n' := fun feed => noFeed (List.mem_of_getLast? feed)
  have column : (cursor.behind kind span).column =
      if kind = .bar then cursor.column + 3 else cursor.column + span.length := by
    simp [Cursor.behind, inside]
  rw [column]
  cases spells with
  | bar ends =>
      rcases ends with rfl | rfl | rfl
      · rfl
      · exact absurd (by simp) noFeed
      · rfl
  | pairValue => rfl
  | text => rfl
  | lineFeed => rfl
  | endOfText => rfl

/-- What one token does to the place of the cursor. -/
theorem Stands.behind (stands : Stands whole before earlier cursor)
    (spells : Spells kind value span) (parted : whole = before ++ span ++ rest) :
    Stands whole (before ++ span) (earlier ++ [cursor.token kind value span])
      (cursor.behind kind span) := by
  have offset : (cursor.behind kind span).offset = (before ++ span).length := by
    rw [List.length_append, ← stands.offset]
    rfl
  have above : ∀ token ∈ earlier ++ [cursor.token kind value span], token.line ≤ cursor.line := by
    intro token member
    rcases List.mem_append.1 member with member | member
    · exact stands.above token member
    · rw [List.mem_singleton.1 member]
      rfl
  rcases spells.lineFeed_at_end with noFeed | ⟨front, rfl, noFeed⟩
  · have inside : span.getLast? ≠ some '\n' := fun feed => noFeed (List.mem_of_getLast? feed)
    have line : (cursor.behind kind span).line = cursor.line := by simp [Cursor.behind, inside]
    have taken : (cursor.token kind value span).span whole = span :=
      parted ▸ Token.span_eq stands.offset rfl
    have swallows : ((cursor.token kind value span).line = cursor.line ∧
        (cursor.token kind value span).Swallows whole) ↔
          kind = .bar ∧ span = bar ++ ['\x00'] := by
      rw [Token.Swallows, taken]
      simp [Cursor.token]
    have along := stands.counts.along noFeed
    refine ⟨offset, ⟨line ▸ along.lineFeeds, ?_⟩, line ▸ above⟩
    have characters := along.characters
    have column := spells.column_behind noFeed cursor
    rw [line, swallowed_concat, if_congr swallows rfl rfl, ← characters]
    omega
  · have line : (cursor.behind kind (front ++ ['\n'])).line = cursor.line + 1 := by
      simp [Cursor.behind]
    have column : (cursor.behind kind (front ++ ['\n'])).column = 1 := by simp [Cursor.behind]
    have begun : swallowed whole (cursor.line + 1)
        (earlier ++ [cursor.token kind value (front ++ ['\n'])]) = 0 :=
      swallowed_of_above fun token member => Nat.lt_succ_of_le (above token member)
    refine ⟨offset, ⟨?_, ?_⟩, fun token member => (above token member).trans (by omega)⟩
    · rw [line, ← List.append_assoc, Text.lineFeeds_append, Text.lineFeeds_append,
        Text.lineFeeds_of_not_mem noFeed, stands.counts.lineFeeds]
      rfl
    · rw [line, column, begun, ← List.append_assoc, Text.lastLineLength_append_lineFeed]

/-- In a run every token counts what stands in front of it, and so does the cursor behind them. -/
theorem Runs.counts (runs : Runs cursor text tokens last left) (parted : whole = before ++ text)
    (stands : Stands whole before earlier cursor) :
    (∀ front token later, tokens = front ++ token :: later →
      Counts whole (whole.take token.start) (earlier ++ front) token.line token.column) ∧
    ∃ behind, whole = behind ++ left ∧ Stands whole behind (earlier ++ tokens) last := by
  induction runs generalizing before earlier with
  | nothing => exact ⟨by simp, before, parted, by simpa using stands⟩
  | @token cursor last kind value gap span text left tokens passed spells _ ih =>
      have here := stands.skip passed
      have regroup : whole = before ++ gap ++ span ++ text := by simp [parted]
      obtain ⟨others, behind, whole_eq, final⟩ := ih regroup (here.behind spells regroup)
      refine ⟨fun front token later split => ?_, behind, whole_eq, by simpa using final⟩
      cases front with
      | nil =>
          obtain ⟨rfl, rfl⟩ := List.cons.inj split
          have ahead : whole.take ((cursor.skip gap.length).token kind value span).start =
              before ++ gap := by
            rw [Cursor.token, here.offset, regroup, List.append_assoc, List.take_left]
          rw [ahead, List.append_nil]
          exact here.counts
      | cons first front =>
          obtain ⟨rfl, rfl⟩ := List.cons.inj split
          simpa using others front token later rfl

theorem OpenPair.noFeed (unended : OpenPair text) : '\n' ∉ text := by
  obtain ⟨gap, said, passed, noFeed, rfl⟩ := unended
  simp [passed.noFeed, noFeed]

theorem stands_start (whole : Text) : Stands whole [] [] {} := ⟨rfl, ⟨rfl, rfl⟩, by simp⟩

/-- What the tokens of a document count, and what a fault counts. -/
theorem counts_of_runs {stream : TokenStream} (runs : Runs {} text stream.tokens last left)
    (ends : Ends name last left stream) :
    (∀ earlier token later, stream.tokens = earlier ++ token :: later →
      Counts text (text.take token.start) earlier token.line token.column) ∧
    ∀ fault, stream.fault = some fault → ∃ line column,
      fault = .parse .openPair ⟨some name, some line, some column⟩ ∧
        Counts text text stream.tokens line column := by
  obtain ⟨tokens, behind, whole, stands⟩ := runs.counts (List.nil_append _).symm (stands_start text)
  refine ⟨tokens, fun fault failed => ?_⟩
  cases ends with
  | whole more kind => cases failed
  | openPair more unended =>
      cases failed
      refine ⟨_, _, rfl, ?_⟩
      have counts := stands.counts.along unended.noFeed
      rwa [← whole] at counts

/-- A place that is right has no bar in front of it on its line that swallows a character. -/
theorem Counts.not_swallows {token : Token} (counts : Counts whole before earlier line column)
    (exact : column = Text.lastLineLength before + 1) (member : token ∈ earlier)
    (same : token.line = line) : ¬ token.Swallows whole := by
  intro swallows
  have some : 0 < swallowed whole line earlier :=
    List.countP_pos_iff.2 ⟨token, member, decide_eq_true ⟨same, swallows⟩⟩
  have characters := counts.characters
  omega

theorem Counts.place_eq (counts : Counts whole before earlier line column)
    (none : ∀ token ∈ earlier, ¬ token.Swallows whole) :
    (⟨some name, some line, some column⟩ : Place) = Component.placeAfter (some name) before := by
  have zero : swallowed whole line earlier = 0 := by
    rw [swallowed, List.countP_eq_zero]
    intro token member
    simp [none token member]
  have characters := counts.characters
  rw [zero, Nat.add_zero] at characters
  rw [Component.placeAfter, counts.lineFeeds, characters]

/-- Behind a bar that swallows a character the line of the bar goes on. -/
theorem Covers.behind_bar {front later : List Token} {token : Token}
    (covers : Covers 0 text (front ++ token :: later) left) (swallows : token.Swallows text) :
    ∃ before rest, text = before ++ rest ∧ token.stop = before.length ∧
      Text.lineFeeds before = Text.lineFeeds (text.take token.start) ∧
      Covers token.stop rest later left := by
  obtain ⟨ahead, span, rest, rfl, start, stop, -, following⟩ :=
    covers.at_token (List.nil_append _).symm rfl
  have taken : span = bar ++ ['\x00'] := by rw [← swallows.2, Token.span_eq start stop]
  have noFeed : Text.lineFeeds (bar ++ ['\x00']) = 0 := by decide
  refine ⟨ahead ++ span, rest, rfl, ?_, ?_, following⟩
  · rw [stop, start, List.length_append]
  · rw [start, List.append_assoc, List.take_left, Text.lineFeeds_append, taken, noFeed,
      Nat.add_zero]

/-- If all places are right no bar swallows a character, for whatever follows the bar in the text
stands on its line. -/
theorem Placed.not_swallows {stream : TokenStream} (placed : Placed name text stream)
    (runs : Runs {} text stream.tokens last left) (ends : Ends name last left stream) :
    ∀ token ∈ stream.tokens, ¬ token.Swallows text := by
  intro token member swallows
  obtain ⟨front, later, split⟩ := List.append_of_mem member
  obtain ⟨counts, failed⟩ := counts_of_runs runs ends
  have covers := runs.covers
  rw [split] at covers
  obtain ⟨before, rest, parted, stop, feeds, following⟩ := covers.behind_bar swallows
  have line : ∀ added, '\n' ∉ added → token.line = Text.lineFeeds (before ++ added) + 1 := by
    intro added noFeed
    rw [(counts front token later split).lineFeeds, Text.lineFeeds_append, feeds,
      Text.lineFeeds_of_not_mem noFeed, Nat.add_zero]
  cases later with
  | nil =>
      cases following
      cases ends with
      | whole more kind =>
          have same := (List.append_inj' split rfl).2
          rw [(List.cons.inj same).1, swallows.1] at kind
          cases kind
      | openPair more unended =>
          obtain ⟨_, column, same, behind⟩ := failed _ rfl
          have right := same.symm.trans (placed.2 _ rfl)
          injection right with right
          injection right with _ right
          injection right with _ lineEq columnEq
          refine behind.not_swallows (Option.some.inj columnEq) member ?_ swallows
          rw [behind.lineFeeds, line left unended.noFeed, ← parted]
  | cons next later =>
      cases following with
      | @token _ _ _ gap nextSpan behindNext _ passed nextStart nextStop spells _ =>
          have ahead : text.take next.start = before ++ gap := by
            rw [nextStart, stop, ← List.length_append, parted, List.append_assoc,
              ← List.append_assoc before, List.take_left]
          have behind := counts (front ++ [token]) next later (by simp [split])
          have right := placed.1 next (by simp [split])
          injection right with _ lineEq columnEq
          refine behind.not_swallows (Option.some.inj columnEq) (by simp) ?_ swallows
          rw [behind.lineFeeds, ahead, line gap passed.noFeed]

/-- The lines that the scanner counts are right, for every text.  A column is too small by the null
characters that bars have taken for the end of its line; so all places are right exactly if no
bar takes one. -/
theorem tokenize_counts (name text : Text) :
    let stream := tokenize name text
    (∀ earlier token later, stream.tokens = earlier ++ token :: later →
      Counts text (text.take token.start) earlier token.line token.column) ∧
    (∀ fault, stream.fault = some fault → ∃ line column,
      fault = .parse .openPair ⟨some name, some line, some column⟩ ∧
        Counts text text stream.tokens line column) ∧
    (Placed name text stream ↔ ∀ token ∈ stream.tokens, ¬ token.Swallows text) := by
  intro stream
  obtain ⟨last, left, runs, ends⟩ := exists_runs name {} text
  change Runs _ _ stream.tokens _ _ at runs
  change Ends _ _ _ stream at ends
  obtain ⟨counts, failed⟩ := counts_of_runs runs ends
  refine ⟨counts, failed, fun placed => placed.not_swallows runs ends, fun none => ⟨?_, ?_⟩⟩
  · intro token member
    obtain ⟨earlier, later, split⟩ := List.append_of_mem member
    refine (counts earlier token later split).place_eq fun other within => none other ?_
    rw [split]
    exact List.mem_append_left _ within
  · intro fault fails
    obtain ⟨line, column, rfl, behind⟩ := failed fault fails
    rw [behind.place_eq none]

/-- A bar that takes a null character for the end of its line, and text on that line. -/
def nullPage : Text := "---\x00k:v"

/-- Behind the bar every column is one too small, that of the fault as well: it should be the
eighth. -/
theorem not_placed_nullPage :
    tokenize "a.md" nullPage =
        ⟨[⟨.bar, [], 0, 4, 1, 1⟩, ⟨.text, "k".toList, 4, 5, 1, 4⟩],
          some (.parse .openPair ⟨some "a.md".toList, some 1, some 7⟩)⟩ ∧
      Component.placeAfter (some "a.md".toList) nullPage =
        ⟨some "a.md".toList, some 1, some 8⟩ ∧
      ¬ Placed "a.md" nullPage (tokenize "a.md" nullPage) := by
  have tokens : tokenize "a.md" nullPage =
      ⟨[⟨.bar, [], 0, 4, 1, 1⟩, ⟨.text, "k".toList, 4, 5, 1, 4⟩],
        some (.parse .openPair ⟨some "a.md".toList, some 1, some 7⟩)⟩ := by cbv
  refine ⟨tokens, by decide, fun placed => ?_⟩
  rw [tokens] at placed
  exact absurd (placed.1 _ (List.mem_cons_of_mem _ List.mem_cons_self)) (by decide)

end FrontMatter

end StaticSite
