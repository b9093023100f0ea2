import StaticSite.Proofs.Component.Scanning

/-!
# Splicing

The expansion of one component rewrites the text that it searches.  What it gives is put
together from segments of the text as it was: stretches that are kept, and invocations, each of
which gives way to the body with its arguments.  The text that comes in has no part in this.
The segments are those of a search for the beginning of an invocation, unless the name can
overlap itself, for then the expansion passes over invocations that begin within a longer name.
-/

namespace StaticSite

namespace Component

/-- The offset of the first occurrence of a mark from an offset on. -/
def findFrom? (mark text : Text) (start : Nat) : Option Nat :=
  (Text.find? mark (text.drop start)).map (start + ·)

theorem findFrom?_append (mark front text : Text) :
    findFrom? mark (front ++ text) front.length =
      (Text.cut? mark text).map fun (before, _) => front.length + before.length := by
  rw [findFrom?, List.drop_left, Text.find?, Option.map_map]
  rfl

theorem le_length_of_findFrom? {mark text : Text} {start index : Nat}
    (found : findFrom? mark text start = some index) (nonempty : mark ≠ []) :
    start ≤ index ∧ index + mark.length ≤ text.length := by
  rw [findFrom?, Text.find?, Option.map_map] at found
  obtain ⟨⟨before, rest⟩, cut, rfl⟩ := Option.map_eq_some_iff.1 found
  have whole := congrArg List.length (Text.eq_of_cut? cut)
  have filled := List.length_pos_iff.2 nonempty
  simp only [List.length_drop, List.length_append, Function.comp_apply] at whole ⊢
  omega

/-- Expand the invocations of a component in a text from an offset on, in the text itself.  The
search goes on behind the text that comes in for an invocation. -/
def expandInPlace (name body : Text) (source : Option Text) (content : Text) (start : Nat) :
    Except Fault Text :=
  match _ : findFrom? (opening ++ name) content start with
  | none => .ok content
  | some index =>
    let behind := index + (opening ++ name).length
    if Text.startsWith " " (content.drop behind) then
      match _ : findFrom? closing content behind with
      | none => .error (.component (.unclosed name) (placeAfter source (content.take index)))
      | some last =>
        let filled := fill body 1 (arguments ((content.drop behind).take (last - behind)))
        expandInPlace name body source
          (content.take index ++ filled ++ content.drop (last + closing.length))
          (index + filled.length)
    else expandInPlace name body source content behind
termination_by content.length - start
decreasing_by
  all_goals
    have outer := le_length_of_findFrom?
      ‹findFrom? (opening ++ name) content start = _› (by simp [opening])
    have long : 0 < (opening ++ name).length := by simp [opening]
  · have inner := le_length_of_findFrom? ‹findFrom? closing content _ = _› (by decide)
    simp only [List.length_append, List.length_take, List.length_drop]
    omega
  · omega

variable {name body content : Text} {source : Option Text}

/-- One round of the expansion in place. -/
theorem expandInPlace_eq (name body : Text) (source : Option Text) (content : Text) (start : Nat) :
    expandInPlace name body source content start =
      match findFrom? (opening ++ name) content start with
      | none => .ok content
      | some index =>
        let behind := index + (opening ++ name).length
        if Text.startsWith " " (content.drop behind) then
          match findFrom? closing content behind with
          | none => .error (.component (.unclosed name) (placeAfter source (content.take index)))
          | some last =>
            let filled := fill body 1 (arguments ((content.drop behind).take (last - behind)))
            expandInPlace name body source
              (content.take index ++ filled ++ content.drop (last + closing.length))
              (index + filled.length)
        else expandInPlace name body source content behind := by
  rw [expandInPlace]
  split
  · next absent => rw [absent]
  · next index found =>
      rw [found]
      simp only
      split
      · split
        · next absent => rw [absent]
        · next last closed => rw [closed]
      · rfl

/-- The expansion in place keeps what is done and goes on with the text behind it. -/
theorem expandInPlace_append (name body : Text) (source : Option Text) (finished rest : Text) :
    expandInPlace name body source (finished ++ rest) finished.length =
      expandFrom name body source finished rest := by
  induction length : rest.length using Nat.strong_induction_on generalizing finished rest with
  | _ size ih =>
      rw [expandInPlace_eq, expandFrom_eq, findFrom?_append]
      cases found : Text.cut? (opening ++ name) rest with
      | none => rfl
      | some pair =>
          obtain ⟨before, following⟩ := pair
          have shorter := Text.length_of_cut? found
          have whole : finished ++ rest =
              (finished ++ before ++ opening ++ name) ++ following := by
            rw [Text.eq_of_cut? found]
            simp
          have front : (finished ++ rest).take (finished.length + before.length) =
              finished ++ before := by
            rw [whole, List.append_assoc (finished ++ before),
              List.append_assoc (finished ++ before), ← List.length_append, List.take_left]
          have offset : finished.length + before.length + (opening ++ name).length =
              (finished ++ before ++ opening ++ name).length := by
            simp only [List.length_append]
            omega
          have back : (finished ++ rest).drop (finished ++ before ++ opening ++ name).length =
              following := by
            rw [whole, List.drop_left]
          simp only [Option.map_some, offset, back, front]
          split
          · next spaced =>
              rw [whole, findFrom?_append]
              cases closed : Text.cut? closing following with
              | none => rfl
              | some pair =>
                  obtain ⟨raw, behind⟩ := pair
                  have inner := Text.length_of_cut? closed
                  have read : following.take raw.length = raw := by
                    rw [Text.eq_of_cut? closed, List.append_assoc, List.take_left]
                  have filled : 0 < closing.length := by decide
                  have later : following.drop (raw.length + closing.length) = behind := by
                    rw [Text.eq_of_cut? closed, ← List.length_append, List.drop_left]
                  simp only [Option.map_some, Nat.add_sub_cancel_left, read]
                  rw [Nat.add_assoc, List.drop_length_add_append, later]
                  rw [← ih behind.length (by omega) _ behind rfl]
                  simp [Nat.add_assoc]
          · next longer =>
              rw [whole]
              exact ih following.length (by simp [opening] at shorter; omega) _ following rfl

/-- A segment of a text: a stretch without invocations, or an invocation with what is written
from its name to its end. -/
inductive Segment where
  | stretch (text : Text)
  | invocation (raw : Text)

namespace Segment

def written (name : Text) : Segment → Text
  | stretch text => text
  | invocation raw => opening ++ name ++ raw ++ closing

/-- What comes in for a segment. -/
def expanded (body : Text) : Segment → Text
  | stretch text => text
  | invocation raw => fill body 1 (arguments raw)

/-- Whether an invocation ends with the first closing mark behind the space after its name. -/
def Closed : Segment → Prop
  | stretch _ => True
  | invocation raw =>
    Text.startsWith " " (raw ++ closing) = true ∧ Text.cut? closing (raw ++ closing) = some (raw, [])

end Segment

/-- The segments of a text, up to an invocation that is not closed if there is one. -/
structure Segmented where
  segments : List Segment
  complete : Bool

namespace Segmented

def written (name : Text) (segmented : Segmented) : Text :=
  segmented.segments.flatMap (Segment.written name)

def expanded (body : Text) (segmented : Segmented) : Text :=
  segmented.segments.flatMap (Segment.expanded body)

/-- What an expansion gives for a segmented text. -/
def outcome (name body : Text) (source : Option Text) (segmented : Segmented) :
    Except Fault Text :=
  if segmented.complete then .ok (segmented.expanded body)
  else .error (.component (.unclosed name) (placeAfter source (segmented.expanded body)))

/-- Whether the segments are those of a text: they are closed and written in it one behind the
other, and what they leave is an invocation that is not closed. -/
def Divides (name content : Text) (segmented : Segmented) : Prop :=
  (∀ segment ∈ segmented.segments, segment.Closed) ∧
    if segmented.complete then content = segmented.written name
    else ∃ following, content = segmented.written name ++ opener name ++ following ∧
      ¬ closing <:+: ' ' :: following

/-- The segments of a text behind some others. -/
def behind (front : List Segment) (segmented : Segmented) : Segmented :=
  ⟨front ++ segmented.segments, segmented.complete⟩

end Segmented

/-- Where an invocation is closed, the text behind it is shorter. -/
theorem length_lt_of_closed {before following raw rest : Text}
    (found : Text.cut? (opener name) content = some (before, following))
    (closed : Text.cut? closing (' ' :: following) = some (raw, rest)) :
    rest.length < content.length := by
  have outer := Text.length_of_cut? found
  have inner := Text.length_of_cut? closed
  have long : 0 < closing.length := by decide
  simp only [opener, List.length_append, List.length_cons] at outer inner
  omega

/-- The segments that one search of a text from the left to the right finds for the invocations
of a name. -/
def divide (name content : Text) : Segmented :=
  match _ : Text.cut? (opener name) content with
  | none => ⟨[.stretch content], true⟩
  | some (before, following) =>
    match _ : Text.cut? closing (' ' :: following) with
    | none => ⟨[.stretch before], false⟩
    | some (raw, rest) => (divide name rest).behind [.stretch before, .invocation raw]
termination_by content.length
decreasing_by
  exact length_lt_of_closed ‹Text.cut? (opener name) content = _› ‹Text.cut? closing _ = _›

theorem divide_eq (name content : Text) :
    divide name content =
      match Text.cut? (opener name) content with
      | none => ⟨[.stretch content], true⟩
      | some (before, following) =>
        match Text.cut? closing (' ' :: following) with
        | none => ⟨[.stretch before], false⟩
        | some (raw, rest) => (divide name rest).behind [.stretch before, .invocation raw] := by
  rw [divide]
  split
  · next absent => rw [absent]
  · next before following found =>
      rw [found]
      simp only
      split
      · next absent => rw [absent]
      · next raw rest closed => rw [closed]

namespace Segmented

variable {segmented other : Segmented} {front : List Segment}

theorem written_behind (name : Text) (front : List Segment) (segmented : Segmented) :
    (segmented.behind front).written name =
      front.flatMap (Segment.written name) ++ segmented.written name := List.flatMap_append

theorem expanded_behind (body : Text) (front : List Segment) (segmented : Segmented) :
    (segmented.behind front).expanded body =
      front.flatMap (Segment.expanded body) ++ segmented.expanded body := List.flatMap_append

theorem outcome_congr (complete : segmented.complete = other.complete)
    (expanded : segmented.expanded body = other.expanded body) :
    segmented.outcome name body source = other.outcome name body source := by
  rw [outcome, outcome, complete, expanded]

/-- Closed segments and those of the text behind them are the segments of the whole text. -/
theorem Divides.behind (closed : ∀ segment ∈ front, segment.Closed)
    (divides : segmented.Divides name content) :
    (segmented.behind front).Divides name (front.flatMap (Segment.written name) ++ content) := by
  obtain ⟨later, whole⟩ := divides
  refine ⟨fun segment member => ?_, ?_⟩
  · exact (List.mem_append.1 member).elim (closed segment) (later segment)
  · rw [written_behind, Segmented.behind]
    split at whole
    · next complete => rw [if_pos complete, whole]
    · next partly =>
        obtain ⟨following, rfl, unclosed⟩ := whole
        rw [if_neg partly]
        exact ⟨following, by simp, unclosed⟩

end Segmented

/-- The first closing mark behind the beginning of an invocation closes it. -/
theorem closed_of_cut? {following raw rest : Text}
    (closed : Text.cut? closing (' ' :: following) = some (raw, rest)) :
    (Segment.invocation raw).Closed := by
  refine ⟨spaced_of_cut? closed, Text.cut?_eq_some_iff.2 ⟨by simp, fun front behind occurs => ?_⟩⟩
  refine @Text.length_le_of_cut? _ _ _ _ closed front (behind ++ rest) ?_
  rw [Text.eq_of_cut? closed, occurs, List.append_assoc]

/-- An invocation as it is written begins with its name and ends with the closing mark. -/
theorem written_invocation {following raw rest : Text} (name : Text)
    (closed : Text.cut? closing (' ' :: following) = some (raw, rest)) :
    (Segment.invocation raw).written name ++ rest = opener name ++ following := by
  rw [Segment.written, opener, List.append_assoc _ [' '], List.singleton_append,
    Text.eq_of_cut? closed]
  simp

/-- Segments that a search finds behind an invocation make, with it and the stretch in front of
it, segments of the whole text. -/
theorem divides_behind_invocation {segmented : Segmented} {before following raw rest : Text}
    (whole : content = before ++ opener name ++ following)
    (closed : Text.cut? closing (' ' :: following) = some (raw, rest))
    (later : segmented.Divides name rest) :
    (segmented.behind [.stretch before, .invocation raw]).Divides name content := by
  have parted : content =
      [Segment.stretch before, .invocation raw].flatMap (Segment.written name) ++ rest := by
    rw [whole, List.append_assoc, ← written_invocation name closed]
    simp [Segment.written]
  rw [parted]
  refine later.behind fun segment member => ?_
  simp only [List.mem_cons, List.not_mem_nil, or_false] at member
  rcases member with rfl | rfl
  · trivial
  · exact closed_of_cut? closed

theorem divides_stretch (name content : Text) :
    Segmented.Divides name content ⟨[.stretch content], true⟩ :=
  ⟨by simp [Segment.Closed], by simp [Segmented.written, Segment.written]⟩

theorem divides_unclosed {before following : Text}
    (whole : content = before ++ opener name ++ following)
    (unclosed : ¬ closing <:+: ' ' :: following) :
    Segmented.Divides name content ⟨[.stretch before], false⟩ :=
  ⟨by simp [Segment.Closed], following, by simpa [Segmented.written, Segment.written] using whole,
    unclosed⟩

/-- What a search finds are segments of the text. -/
theorem divides_divide (name content : Text) : (divide name content).Divides name content := by
  induction length : content.length using Nat.strong_induction_on generalizing content with
  | _ size ih =>
      rw [divide_eq]
      split
      · exact divides_stretch name content
      · next before following found =>
          split
          · next unclosed =>
              exact divides_unclosed (Text.eq_of_cut? found) (Text.cut?_eq_none_iff.1 unclosed)
          · next raw rest closed =>
              have shorter := length_lt_of_closed found closed
              exact divides_behind_invocation (Text.eq_of_cut? found) closed
                (ih _ (length ▸ shorter) rest rfl)

/-- What is finished is a stretch in front of the segments of the rest. -/
theorem outcome_behind_stretch (body finished : Text) (front : List Segment)
    (segmented : Segmented) :
    ((segmented.behind front).behind [.stretch finished]).outcome name body source =
      (segmented.behind [.stretch (finished ++ front.flatMap (Segment.expanded body))]).outcome name
        body source := by
  refine Segmented.outcome_congr rfl ?_
  simp [Segmented.expanded_behind, Segment.expanded]

/-- Every expansion is that of some segments of the text, the same for all bodies. -/
theorem exists_divides (name content : Text) :
    ∃ found : Segmented, found.Divides name content ∧ ∀ body source finished,
      expandFrom name body source finished content =
        (found.behind [.stretch finished]).outcome name body source := by
  induction length : content.length using Nat.strong_induction_on generalizing content with
  | _ size ih =>
      cases found : Text.cut? (opening ++ name) content with
      | none =>
          refine ⟨_, divides_stretch name content, fun body source finished => ?_⟩
          rw [expandFrom_eq, found]
          simp [Segmented.outcome, Segmented.behind, Segmented.expanded, Segment.expanded]
      | some pair =>
          obtain ⟨before, following⟩ := pair
          have whole := Text.eq_of_cut? found
          have shorter := Text.length_of_cut? found
          by_cases spaced : Text.startsWith " " following = true
          · obtain ⟨inner, rfl⟩ := startsWith_space.1 spaced
            have begun : content = before ++ opener name ++ inner := by
              rw [whole]
              simp [opener]
            cases closed : Text.cut? closing (' ' :: inner) with
            | none =>
                refine ⟨_, divides_unclosed begun (Text.cut?_eq_none_iff.1 closed),
                  fun body source finished => ?_⟩
                rw [expandFrom_eq, found]
                simp only [spaced, if_true, closed]
                simp [Segmented.outcome, Segmented.behind, Segmented.expanded, Segment.expanded]
            | some pair =>
                obtain ⟨raw, rest⟩ := pair
                have inside := Text.length_of_cut? closed
                have long : 0 < closing.length := by decide
                obtain ⟨later, divides, expands⟩ := ih rest.length (by omega) rest rfl
                refine ⟨_, divides_behind_invocation begun closed divides,
                  fun body source finished => ?_⟩
                rw [outcome_behind_stretch, expandFrom_eq, found]
                simp only [spaced, if_true, closed, expands]
                simp [Segment.expanded]
          · have long : 0 < (opening ++ name).length := by simp [opening]
            obtain ⟨later, divides, expands⟩ := ih following.length (by omega) following rfl
            have passed : content =
                [Segment.stretch (before ++ opening ++ name)].flatMap (Segment.written name) ++
                  following := by
              rw [whole]
              simp [Segment.written]
            refine ⟨later.behind [.stretch (before ++ opening ++ name)], ?_,
              fun body source finished => ?_⟩
            · rw [passed]
              exact divides.behind (by simp [Segment.Closed])
            · rw [outcome_behind_stretch, expandFrom_eq, found]
              simp only [spaced, expands]
              simp [Segment.expanded]

/-- Unless a name overlaps itself, an expansion is that of the segments that a search finds. -/
theorem expandFrom_eq_outcome (apart : ¬ Overlaps name) (body : Text) (source : Option Text)
    (finished content : Text) :
    expandFrom name body source finished content =
      ((divide name content).behind [.stretch finished]).outcome name body source := by
  induction length : content.length using Nat.strong_induction_on generalizing finished content with
  | _ size ih =>
      rw [expandFrom_eq_opener_of_not_overlaps apart, divide_eq]
      cases found : Text.cut? (opener name) content with
      | none => simp [Segmented.outcome, Segmented.behind, Segmented.expanded, Segment.expanded]
      | some pair =>
          obtain ⟨before, following⟩ := pair
          simp only
          cases closed : Text.cut? closing (' ' :: following) with
          | none => simp [Segmented.outcome, Segmented.behind, Segmented.expanded, Segment.expanded]
          | some pair =>
              obtain ⟨raw, rest⟩ := pair
              have shorter := length_lt_of_closed found closed
              simp only
              rw [outcome_behind_stretch, ih rest.length (length ▸ shorter) _ rest rfl]
              simp [Segment.expanded]

/-- A body without placeholders takes no argument. -/
theorem fill_of_absent (absent : ∀ index, ¬ placeholder index <:+: body) (index : Nat)
    (others : List Text) : fill body index others = body := by
  induction others generalizing index with
  | nil => rfl
  | cons argument others ih => rw [fill, Text.replace_eq_self (absent index), ih]

/-- A body without braces has no placeholders. -/
theorem fill_of_not_mem (braceless : '{' ∉ body) (index : Nat) (others : List Text) :
    fill body index others = body :=
  fill_of_absent (fun _ occurs => braceless (occurs.subset (by simp [placeholder, opening]))) index
    others

theorem fill_nil (index : Nat) (others : List Text) : fill [] index others = [] :=
  fill_of_not_mem (by simp) index others

/-- Without a body nothing comes in for an invocation. -/
theorem length_expanded_nil_le (name : Text) (segmented : Segmented) :
    (segmented.expanded []).length ≤ (segmented.written name).length := by
  obtain ⟨segments, complete⟩ := segmented
  simp only [Segmented.expanded, Segmented.written]
  induction segments with
  | nil => exact Nat.le_refl _
  | cons segment segments ih =>
      rw [List.flatMap_cons, List.flatMap_cons, List.length_append, List.length_append]
      refine Nat.add_le_add ?_ ih
      cases segment with
      | stretch text => exact Nat.le_refl _
      | invocation raw => simp [Segment.expanded, fill_nil]

/-- Where an invocation begins, an expansion without a body makes the text shorter. -/
theorem length_expanded_lt (invokes : Invokes name content)
    (complete : (divide name content).complete = true) :
    ((divide name content).expanded []).length < content.length := by
  rw [divide_eq] at complete ⊢
  split at complete
  · next absent => exact absurd invokes (Text.cut?_eq_none_iff.1 absent)
  · next before following found =>
      split at complete
      · cases complete
      · next raw rest closed =>
          have whole := (divides_divide name rest).2
          rw [if_pos (show (divide name rest).complete = true from complete)] at whole
          have shorter := length_expanded_nil_le name (divide name rest)
          have outer := congrArg List.length (Text.eq_of_cut? found)
          rw [List.append_assoc, ← written_invocation name closed] at outer
          rw [← whole] at shorter
          have long : 0 < closing.length := by decide
          simp only [Segmented.expanded_behind, Segment.expanded, fill_nil, Segment.written,
            List.flatMap_cons, List.flatMap_nil, List.length_append, List.length_nil] at outer ⊢
          omega

/-- In a text no longer than the beginning of an invocation there is nothing to expand. -/
theorem expandFrom_of_short {rest : Text} (short : rest.length ≤ (opening ++ name).length)
    (body : Text) (source : Option Text) (finished : Text) :
    expandFrom name body source finished rest = .ok (finished ++ rest) := by
  rw [expandFrom_eq]
  cases found : Text.cut? (opening ++ name) rest with
  | none => rfl
  | some pair =>
      obtain ⟨before, following⟩ := pair
      have length := Text.length_of_cut? found
      obtain rfl : following = [] := List.eq_nil_of_length_eq_zero (by omega)
      have nowhere : Text.cut? (opening ++ name) [] = none := rfl
      have unspaced : ¬ Text.startsWith " " [] = true := by decide
      simp only
      rw [if_neg unspaced, expandFrom_eq, nowhere, Text.eq_of_cut? found]
      simp

/-- Where a name overlaps itself, an expansion passes over an invocation. -/
theorem exists_passed_over (overlaps : Overlaps name) :
    ∃ content, Invokes name content ∧
      ∀ body source, expand content name body source = .ok content := by
  obtain ⟨front, border, rest, -, nonempty, ends, begins, longer⟩ := overlaps
  have whole : front ++ opener name = opening ++ name ++ rest := by
    rw [ends, begins, List.append_assoc]
  have short : rest.length ≤ (opening ++ name).length := by
    have length := congrArg List.length begins
    have filled := List.length_pos_iff.2 nonempty
    simp only [opener, List.length_append, List.length_singleton] at length ⊢
    omega
  refine ⟨front ++ opener name, (List.suffix_append _ _).isInfix, fun body source => ?_⟩
  rw [whole, expand, expandFrom_eq, Text.cut?_append]
  simp only
  rw [if_neg longer, expandFrom_of_short short]
  rfl

/-- The expansion of one component ends and reads its text once.  To rewrite the text in place
and search on behind what came in is the same as to go on with the rest.  What it gives is put
together from segments of the text that do not depend on the body: stretches as they are, and
for each closed invocation the body with its arguments; it fails exactly if behind them an
invocation is not closed.  These segments are those that a search for the name with a space
behind it finds, for every text, exactly if the name does not overlap itself. -/
theorem expand_splices_segments (name : Text) :
    (∀ content body source,
      expandInPlace name body source content 0 = expand content name body source) ∧
    (∀ content, ∃ found : Segmented, found.Divides name content ∧ ∀ body source,
      expand content name body source = found.outcome name body source) ∧
    (∀ content, (divide name content).Divides name content) ∧
    ((∀ content body source, expand content name body source =
      (divide name content).outcome name body source) ↔ ¬ Overlaps name) := by
  have unfinished : ∀ (found : Segmented) (body : Text) (source : Option Text),
      (found.behind [.stretch []]).outcome name body source = found.outcome name body source :=
    fun found body source => Segmented.outcome_congr rfl (Segmented.expanded_behind body _ found)
  refine ⟨fun content body source => expandInPlace_append name body source [] content,
    fun content => ?_, divides_divide name, ?_, ?_⟩
  · obtain ⟨found, divides, expands⟩ := exists_divides name content
    exact ⟨found, divides, fun body source => (expands body source []).trans (unfinished _ _ _)⟩
  · intro same overlaps
    obtain ⟨content, invokes, passed⟩ := exists_passed_over overlaps
    have outcome := same content [] none
    rw [passed, Segmented.outcome] at outcome
    split at outcome
    · next complete =>
        have shorter := length_expanded_lt invokes complete
        rw [← Except.ok.inj outcome] at shorter
        exact Nat.lt_irrefl _ shorter
    · cases outcome
  · intro apart content body source
    exact (expandFrom_eq_outcome apart body source [] content).trans (unfinished _ _ _)

section Example

/-- A name that ends as an invocation begins. -/
def braceName : Text := "x\x7b".toList

/-- An invocation that begins within a longer name. -/
def bracePage : Text := "\x7b\x7b x\x7b\x7b x\x7b \x7d\x7d".toList

/-- The expansion leaves the invocation that a search finds. -/
theorem expand_bracePage :
    expand bracePage braceName "B".toList none = .ok bracePage ∧
      (divide braceName bracePage).outcome braceName "B".toList none =
        .ok "\x7b\x7b xB".toList ∧ Overlaps braceName := by
  refine ⟨by cbv, by cbv, "\x7b\x7b x".toList, ['{'], "\x7b x\x7b ".toList, ?_⟩
  decide

end Example

end Component

end StaticSite
