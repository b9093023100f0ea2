import StaticSite.Proofs.FrontMatter.Running

/-!
# What the tokens of a document cover

The tokens of a document lie in its text one behind the other, with nothing but white space
within a line in front of each, and the characters between the ends of a token say what its value
is.  So gaps and tokens make up the text again, up to its end or up to a pair whose line is not
ended.
-/

namespace StaticSite

namespace FrontMatter

/-- The characters of a text between the ends of a token. -/
def Token.span (token : Token) (text : Text) : Text := (text.take token.stop).drop token.start

/-- Whether tokens make up a text that begins at an offset, but for a gap in front of each and for
what is left behind the last one. -/
inductive Covers : (offset : Nat) → Text → List Token → (left : Text) → Prop
  | nothing (offset : Nat) (text : Text) : Covers offset text [] text
  | token {offset : Nat} {token : Token} {tokens : List Token} {gap span text left : Text}
    (passed : Gap gap) (start : token.start = offset + gap.length)
    (stop : token.stop = token.start + span.length)
    (spells : Spells token.kind token.value span) (later : Covers token.stop text tokens left) :
    Covers offset (gap ++ span ++ text) (token :: tokens) left

variable {name : Text} {cursor last : Cursor} {text left : Text} {tokens : List Token}
  {offset : Nat}

theorem Runs.covers (runs : Runs cursor text tokens last left) :
    Covers cursor.offset text tokens left := by
  induction runs with
  | nothing cursor text => exact .nothing _ _
  | token passed spells _ ih => exact .token passed rfl rfl spells ih

theorem Token.span_eq {token : Token} {before span rest : Text}
    (start : token.start = before.length) (stop : token.stop = token.start + span.length) :
    token.span (before ++ span ++ rest) = span := by
  rw [Token.span, stop, start, ← List.length_append, List.take_left, List.drop_left]

theorem Token.start_lt_stop {token : Token} (filled : token.span text ≠ []) :
    token.start < token.stop := by
  refine Nat.lt_of_not_le fun reversed => filled (List.drop_eq_nil_of_le ?_)
  exact (List.length_take_le _ _).trans reversed

namespace Covers

theorem le_start (covers : Covers offset text tokens left) :
    ∀ token ∈ tokens, offset ≤ token.start := by
  induction covers with
  | nothing => simp
  | token passed start stop spells later ih =>
      refine List.forall_mem_cons.2 ⟨by omega, fun token member => ?_⟩
      have behind := ih token member
      omega

theorem pairwise (covers : Covers offset text tokens left) :
    tokens.Pairwise fun first second => first.stop ≤ second.start := by
  induction covers with
  | nothing => exact .nil
  | token passed start stop spells later ih => exact .cons later.le_start ih

/-- Every token but the end of the text takes a character. -/
theorem countP_le (covers : Covers offset text tokens left) :
    tokens.countP (·.kind ≠ .endOfText) + left.length ≤ text.length := by
  induction covers with
  | nothing => simp
  | @token offset token tokens gap span text left passed start stop spells later ih =>
      rw [List.countP_cons, List.length_append, List.length_append]
      split
      · next more =>
          have filled := List.length_pos_iff.2 (spells.span_ne_nil (of_decide_eq_true more))
          omega
      · omega

/-- Where a token lies in the text: behind a gap and in front of the tokens that follow. -/
theorem at_token {front later : List Token} {token : Token} {before whole : Text}
    (covers : Covers offset text (front ++ token :: later) left)
    (parted : whole = before ++ text) (length : offset = before.length) :
    ∃ ahead span rest, whole = ahead ++ span ++ rest ∧ token.start = ahead.length ∧
      token.stop = token.start + span.length ∧ Spells token.kind token.value span ∧
      Covers token.stop rest later left := by
  induction front generalizing offset text before with
  | nil =>
      cases covers with
      | @token _ _ _ gap span text _ passed start stop spells later =>
          refine ⟨before ++ gap, span, text, by simp [parted], ?_, stop, spells, later⟩
          rw [start, length, List.length_append]
  | cons first front ih =>
      cases covers with
      | @token _ _ _ gap span text _ passed start stop spells later =>
          refine @ih _ _ (before ++ gap ++ span) later (by simp [parted]) ?_
          rw [stop, start, length, List.length_append, List.length_append]

/-- The characters between the ends of a token are those that it was taken from. -/
theorem spells_span (covers : Covers 0 text tokens left) :
    ∀ token ∈ tokens,
      token.stop ≤ text.length ∧ Spells token.kind token.value (token.span text) := by
  intro token member
  obtain ⟨front, later, rfl⟩ := List.append_of_mem member
  obtain ⟨ahead, span, rest, rfl, start, stop, spells, -⟩ :=
    covers.at_token (List.nil_append _).symm rfl
  rw [Token.span_eq start stop]
  refine ⟨?_, spells⟩
  rw [stop, start, List.length_append, List.length_append]
  exact Nat.le_add_right _ _

theorem length_le_succ {stream : TokenStream} (covers : Covers 0 text stream.tokens left)
    (ends : Ends name last left stream) : stream.tokens.length ≤ text.length + 1 := by
  have taken := covers.countP_le
  cases ends with
  | @whole earlier final more kind =>
      have counted : earlier.countP (·.kind ≠ .endOfText) = earlier.length :=
        List.countP_eq_length.2 fun token member => decide_eq_true (more token member)
      simp only [List.countP_append] at taken
      simp only [List.length_append, List.length_singleton]
      omega
  | @openPair left tokens more unended =>
      have counted : tokens.countP (·.kind ≠ .endOfText) = tokens.length :=
        List.countP_eq_length.2 fun token member => decide_eq_true (more token member)
      simp only at taken ⊢
      omega

/-- The end of the text stands at its end and takes nothing. -/
theorem final_eq {earlier : List Token} {final : Token}
    (covers : Covers 0 text (earlier ++ [final]) []) (kind : final.kind = .endOfText) :
    final.start = text.length ∧ final.stop = text.length := by
  obtain ⟨ahead, span, rest, rfl, start, stop, spells, later⟩ :=
    covers.at_token (List.nil_append _).symm rfl
  cases later
  rw [spells.span_eq_nil kind] at stop ⊢
  simp [start, stop]

end Covers

/-- The tokens of a document cover its text, in order and without overlaps: in front of each is a
gap, each but the end of the text takes some characters, and these say what its value is.  There
are at most as many as there are characters, and the end of the text; they go on up to it, or
else a fault says that a pair was open there. -/
theorem tokenize_covers (name text : Text) :
    let stream := tokenize name text
    ∃ left, Covers 0 text stream.tokens left ∧
      stream.tokens.length ≤ text.length + 1 ∧
      (stream.tokens.Pairwise fun first second => first.stop ≤ second.start) ∧
      (∀ token ∈ stream.tokens,
        (token.kind ≠ .endOfText → token.start < token.stop) ∧ token.stop ≤ text.length ∧
          ∀ value, Spells token.kind value (token.span text) ↔ value = token.value) ∧
      ((stream.fault = none ∧ left = [] ∧
          ∃ earlier final, stream.tokens = earlier ++ [final] ∧ final.kind = .endOfText ∧
            final.start = text.length ∧ final.stop = text.length ∧
            ∀ token ∈ earlier, token.kind ≠ .endOfText) ∨
        (∃ fault place, stream.fault = some (.parse fault place) ∧
          fault.message = "Got EOF on key-value pair".toList ∧ OpenPair left ∧
          ∀ token ∈ stream.tokens, token.kind ≠ .endOfText)) := by
  intro stream
  obtain ⟨last, left, runs, ends⟩ := exists_runs name {} text
  change Runs _ _ stream.tokens _ _ at runs
  change Ends _ _ _ stream at ends
  have covers := runs.covers
  refine ⟨left, covers, covers.length_le_succ ends, covers.pairwise, fun token member => ?_, ?_⟩
  · obtain ⟨within, spells⟩ := covers.spells_span token member
    refine ⟨fun more => Token.start_lt_stop (spells.span_ne_nil more), within, fun value => ?_⟩
    exact ⟨spells.value_unique, fun same => same ▸ spells⟩
  · generalize stream = found at covers ends
    cases ends with
    | whole more kind =>
        obtain ⟨start, stop⟩ := covers.final_eq kind
        exact Or.inl ⟨rfl, rfl, _, _, rfl, kind, start, stop, more⟩
    | openPair more unended => exact Or.inr ⟨_, _, rfl, rfl, unended, more⟩

end FrontMatter

end StaticSite
