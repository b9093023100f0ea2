import Mathlib.Data.List.MinMax
import StaticSite.Proofs.Component.Scanning

/-!
# Where text comes from

Expanded text is put together from pieces, and an invocation may begin in one piece and end in
another.  A traced text remembers its seams: every character has the names of the components
whose invocations led to the seam in front of it.  An invocation continues the longest lineage
of the seams that its beginning goes over.
-/

namespace StaticSite

namespace Component

/-- The names of the components whose invocations led to a seam, the last one first. -/
abbrev Lineage := List Text

/-- A text in which every character has the lineage of the seam in front of it. -/
abbrev Traced := List (Char × Lineage)

namespace Traced

def text (traced : Traced) : Text := traced.map Prod.fst

/-- A text all of whose seams have the same lineage. -/
def put (lineage : Lineage) (text : Text) : Traced := text.map fun character => (character, lineage)

/-- What stands behind a text that came in with a lineage. -/
def behind (lineage : Lineage) : Traced → Traced
  | [] => []
  | (character, _) :: rest => (character, lineage) :: rest

/-- The lineages of the seams that a text goes over. -/
def seams (traced : Traced) : List Lineage := traced.tail.map Prod.snd

variable {first second traced : Traced} {lineage : Lineage}

@[simp]
theorem text_append (first second : Traced) : text (first ++ second) = text first ++ text second :=
  List.map_append

@[simp]
theorem length_text (traced : Traced) : (text traced).length = traced.length := List.length_map _

@[simp]
theorem text_put (lineage : Lineage) (text : Text) : Traced.text (put lineage text) = text := by
  simp [Traced.text, put, Function.comp_def]

@[simp]
theorem text_behind (lineage : Lineage) (traced : Traced) :
    text (behind lineage traced) = text traced := by
  cases traced <;> rfl

/-- A traced text can be taken apart wherever its text can. -/
theorem exists_append {front back : Text} (whole : text traced = front ++ back) :
    ∃ first second, traced = first ++ second ∧ text first = front ∧ text second = back := by
  obtain ⟨first, second, same, one, other⟩ := List.map_eq_append_iff.1 whole
  exact ⟨first, second, same, one, other⟩

end Traced

/-- A scan of a traced text replaces the invocations of one component.  The text that comes in
for an invocation carries on its lineage, and so does the seam behind it.  The answer is the
new text and the lineages that were carried on. -/
inductive Scan (name body : Text) : Traced → Traced → List Lineage → Prop
  | finished {rest : Traced} (absent : ¬ Invokes name (Traced.text rest)) :
      Scan name body rest rest []
  | replaced {before invocation following later : Traced} {raw : Text} {lineage : Lineage}
      {log : List Lineage}
      (written : Traced.text invocation = opening ++ name ++ raw ++ closing)
      (spaced : Text.startsWith " " (raw ++ closing) = true)
      (first : ∀ front rest, Traced.text (before ++ invocation ++ following) =
        front ++ opener name ++ rest → before.length ≤ front.length)
      (closed : ∀ front rest, raw ++ closing ++ Traced.text following =
        front ++ closing ++ rest → raw.length ≤ front.length)
      (inherited : (Traced.seams (invocation.take (opener name).length)).argmax List.length =
        some lineage)
      (onward : Scan name body (Traced.behind (name :: lineage) following) later log) :
      Scan name body (before ++ invocation ++ following)
        (before ++ Traced.put (name :: lineage) (fill body 1 (arguments raw)) ++ later)
        ((name :: lineage) :: log)

variable {name other body text : Text} {source : Option Text} {traced later rest : Traced}
  {log more : List Lineage} {lineage : Lineage} {depth bound : Nat} {names : List Text}

section Faithful

/-- The beginning of an invocation goes over a seam. -/
theorem seams_ne_nil (marked : Traced.text traced = opener name) : traced.seams ≠ [] := by
  have long := congrArg List.length marked
  rw [Traced.length_text, opener_eq] at long
  simp only [Traced.seams, ne_eq, List.map_eq_nil_iff]
  intro short
  have tail := congrArg List.length short
  simp only [List.length_tail, List.length_nil] at tail
  simp only [List.length_cons, List.length_append] at long
  omega

theorem exists_opener_append {raw : Text} (spaced : Text.startsWith " " (raw ++ closing) = true) :
    ∃ rest, opening ++ name ++ raw ++ closing = opener name ++ rest := by
  obtain ⟨rest, same⟩ := startsWith_space.1 spaced
  refine ⟨rest, ?_⟩
  rw [List.append_assoc (opening ++ name), same]
  simp [opener]

theorem text_take_opener {raw : Text}
    (written : Traced.text traced = opening ++ name ++ raw ++ closing)
    (spaced : Text.startsWith " " (raw ++ closing) = true) :
    Traced.text (traced.take (opener name).length) = opener name := by
  obtain ⟨rest, same⟩ := @exists_opener_append name raw spaced
  rw [Traced.text, List.map_take, ← Traced.text, written, same, List.take_left]

/-- Every expansion can be traced. -/
theorem exists_scan (braceless : '{' ∉ name) {finished : Text}
    (expanded : expandFrom name body source finished (Traced.text traced) = .ok text) :
    ∃ later log, Scan name body traced later log ∧ text = finished ++ Traced.text later := by
  induction length : traced.length using Nat.strong_induction_on generalizing traced finished with
  | _ size ih =>
      rw [expandFrom_eq_opener braceless] at expanded
      split at expanded
      · next absent =>
          cases expanded
          exact ⟨traced, [], .finished (Text.cut?_eq_none_iff.1 absent), rfl⟩
      · next before following found =>
          split at expanded
          · cases expanded
          · next raw behind closed =>
              have spaced := spaced_of_cut? closed
              obtain ⟨inside, nearest⟩ := Text.cut?_eq_some_iff.1 closed
              have apart : Traced.text traced =
                  before ++ (opening ++ name ++ raw ++ closing ++ behind) := by
                rw [Text.eq_of_cut? found, opener, List.append_assoc, List.append_assoc _ [' '],
                  List.singleton_append, inside]
                simp only [List.append_assoc]
              obtain ⟨front, remaining, rfl, rfl, remainingText⟩ := Traced.exists_append apart
              obtain ⟨invocation, rest, rfl, written, rfl⟩ := Traced.exists_append remainingText
              have nonempty : 0 < invocation.length := by
                rw [← Traced.length_text, written, List.append_assoc, List.append_assoc,
                  opening_append]
                simp
              obtain ⟨lineage, inherited⟩ : ∃ lineage,
                  (Traced.seams (invocation.take (opener name).length)).argmax List.length =
                    some lineage :=
                Option.ne_none_iff_exists'.1 fun none =>
                  seams_ne_nil (text_take_opener written spaced) (List.argmax_eq_none.1 none)
              -- Behind the invocation only the lineage of the next seam changes, and no text.
              rw [← Traced.text_behind (name :: lineage) rest] at expanded
              obtain ⟨later, log, onward, rfl⟩ := ih (Traced.behind (name :: lineage) rest).length
                (by
                  rw [← length, ← Traced.length_text, Traced.text_behind, Traced.length_text]
                  simp only [List.length_append]
                  omega) expanded rfl
              rw [← List.append_assoc]
              refine ⟨_, _, .replaced written spaced ?_ ?_ inherited onward, ?_⟩
              · intro begun behind occurs
                rw [← Traced.length_text]
                exact Text.length_le_of_cut? found (by rw [← occurs, List.append_assoc])
              · rw [← inside]
                exact nearest
              · simp

/-- A traced scan gives the text of the expansion. -/
theorem Scan.expandFrom_eq (braceless : '{' ∉ name) (scan : Scan name body traced later log)
    (source : Option Text) (finished : Text) :
    expandFrom name body source finished (Traced.text traced) =
      .ok (finished ++ Traced.text later) := by
  induction scan generalizing finished with
  | finished absent =>
      rw [expandFrom_eq_opener braceless, Text.cut?_eq_none_iff.2 absent]
  | @replaced before invocation following later raw lineage log written spaced first closed
      _ _ ih =>
      obtain ⟨inner, same⟩ := startsWith_space.1 spaced
      have found : Text.cut? (opener name) (Traced.text (before ++ invocation ++ following)) =
          some (Traced.text before, inner ++ Traced.text following) := by
        refine Text.cut?_eq_some_iff.2 ⟨?_, fun front behind occurs => ?_⟩
        · rw [Traced.text_append, Traced.text_append, written, List.append_assoc (opening ++ name),
            same]
          simp [opener]
        · rw [Traced.length_text]
          exact first front behind occurs
      have ended : Text.cut? closing (' ' :: (inner ++ Traced.text following)) =
          some (raw, Traced.text following) := by
        rw [← List.cons_append, ← same]
        exact Text.cut?_eq_some_iff.2 ⟨rfl, closed⟩
      have onward := ih (finished ++ Traced.text before ++ fill body 1 (arguments raw))
      rw [Traced.text_behind] at onward
      rw [expandFrom_eq_opener braceless, found]
      simp only [ended, onward]
      simp

end Faithful

section Depth

/-- Whether every invocation of a name begins across a seam with a lineage of some length. -/
def Deep (depth : Nat) (name : Text) (traced : Traced) : Prop :=
  ∀ front marked back, traced = front ++ marked ++ back → Traced.text marked = opener name →
    ∃ lineage ∈ marked.seams, depth ≤ lineage.length

/-- Whether the seam in front of a text has a lineage of some length. -/
def DeepSeam (depth : Nat) (traced : Traced) : Prop :=
  ∀ entry rest, traced = entry :: rest → depth ≤ entry.2.length

variable {first second : Traced}

theorem Deep.within (deep : Deep depth name traced) (inside : first <:+: traced) :
    Deep depth name first := by
  obtain ⟨start, rest, rfl⟩ := inside
  rintro front marked back rfl begins
  exact deep (start ++ front) marked (back ++ rest) (by simp) begins

theorem deep_of_not_invokes (absent : ¬ Invokes name (Traced.text traced)) :
    Deep depth name traced := by
  rintro front marked back rfl begins
  refine absurd ⟨Traced.text front, Traced.text back, ?_⟩ absent
  simp [begins]

theorem deep_put (long : depth ≤ lineage.length) : Deep depth name (Traced.put lineage text) := by
  intro front marked back whole begins
  obtain ⟨other, member⟩ := List.exists_mem_of_ne_nil _ (seams_ne_nil begins)
  obtain ⟨entry, inside, rfl⟩ := List.mem_map.1 member
  have listed : entry ∈ Traced.put lineage text := by
    rw [whole]
    simp [List.mem_of_mem_tail inside]
  obtain ⟨character, -, rfl⟩ := List.mem_map.1 listed
  exact ⟨lineage, member, long⟩

/-- The seam in front of a text does not count for the invocations in it. -/
theorem Deep.behind (deep : Deep depth name traced) :
    Deep depth name (Traced.behind lineage traced) := by
  cases traced with
  | nil => exact deep
  | cons entry rest =>
      obtain ⟨character, old⟩ := entry
      intro front marked back whole begins
      cases front with
      | nil =>
          cases marked with
          | nil => exact absurd begins (by simp [Traced.text, opener_eq])
          | cons head inner =>
              simp only [Traced.behind, List.nil_append, List.cons_append, List.cons.injEq] at whole
              obtain ⟨rfl, rfl⟩ := whole
              exact deep [] ((character, old) :: inner) back rfl begins
      | cons head front =>
          simp only [Traced.behind, List.cons_append, List.cons.injEq] at whole
          exact deep ((character, old) :: front) marked back (by simp [whole.2]) begins

theorem deepSeam_behind (long : depth ≤ lineage.length) :
    DeepSeam depth (Traced.behind lineage traced) := by
  rintro entry rest whole
  cases traced with
  | nil => cases whole
  | cons old remaining =>
      cases whole
      exact long

/-- Nothing that begins on one side of a deep seam and ends on the other is less deep. -/
theorem Deep.append (one : Deep depth name first) (other : Deep depth name second)
    (seam : DeepSeam depth second) : Deep depth name (first ++ second) := by
  intro front marked back whole begins
  -- What begins in the first text and ends in the second goes over the seam between them.
  rcases List.append_eq_append_iff.1 whole with ⟨extra, same, rfl⟩ | ⟨extra, same, -⟩
  · rcases List.append_eq_append_iff.1 same with ⟨crossing, within, whole⟩ | ⟨crossing, -, whole⟩
    · subst marked
      cases crossing with
      | nil => exact other [] extra back rfl begins
      | cons character crossing =>
          cases extra with
          | nil => exact one front _ [] (by simp [within]) begins
          | cons head extra =>
              exact ⟨head.2, by simp [Traced.seams], seam head (extra ++ back) rfl⟩
    · exact other crossing marked back (by rw [whole]) begins
  · exact one front marked extra same begins

/-- A text that comes in makes the seam behind it deep, and its own if it is not empty. -/
theorem deepSeam_put_append (long : depth ≤ lineage.length) (seam : DeepSeam depth traced) :
    DeepSeam depth (Traced.put lineage text ++ traced) := by
  cases text with
  | nil => exact seam
  | cons character text =>
      rintro entry rest whole
      cases whole
      exact long

/-- What an invocation carries on is as long as the seams that its beginning goes over. -/
theorem lt_length_of_inherited {before invocation following : Traced} {raw : Text}
    (own : Deep depth name (before ++ invocation ++ following))
    (written : Traced.text invocation = opening ++ name ++ raw ++ closing)
    (spaced : Text.startsWith " " (raw ++ closing) = true)
    (inherited : (Traced.seams (invocation.take (opener name).length)).argmax List.length =
      some lineage) : depth + 1 ≤ (name :: lineage).length := by
  obtain ⟨longest, member, long⟩ := own before (invocation.take (opener name).length)
    (invocation.drop (opener name).length ++ following)
    (by rw [List.append_assoc before (invocation.take _), ← List.append_assoc (invocation.take _),
      List.take_append_drop, List.append_assoc]) (text_take_opener written spaced)
  have most := List.le_of_mem_argmax member inherited
  rw [List.length_cons]
  omega

theorem Scan.deepSeam (scan : Scan name body traced later log) (own : Deep depth name traced)
    (seam : DeepSeam (depth + 1) traced) : DeepSeam (depth + 1) later := by
  induction scan with
  | finished => exact seam
  | @replaced before invocation following later raw lineage log written spaced _ _ inherited _ ih =>
      have long := lt_length_of_inherited own written spaced inherited
      have deeper := ih (own.within (List.suffix_append _ following).isInfix).behind
        (deepSeam_behind long)
      cases before with
      | nil => exact deepSeam_put_append long deeper
      | cons head before =>
          rintro entry rest whole
          cases whole
          exact seam head _ rfl

/-- A scan leaves no invocation of its own name that is not deeper than before, and makes no
others that are not. -/
theorem Scan.deep (scan : Scan name body traced later log) (own : Deep depth name traced)
    (less : bound ≤ depth + 1) (known : other = name ∨ Deep bound other traced) :
    Deep bound other later := by
  induction scan with
  | finished absent =>
      rcases known with rfl | deep
      · exact deep_of_not_invokes absent
      · exact deep
  | @replaced before invocation following later raw lineage log written spaced first _ inherited
      onward ih =>
      have long := lt_length_of_inherited own written spaced inherited
      have rest : following <:+: before ++ invocation ++ following :=
        (List.suffix_append _ following).isInfix
      have ownBehind : Deep depth name (Traced.behind (name :: lineage) following) :=
        (own.within rest).behind
      -- The scan took the first invocation, so there is none of its name in front of it.
      have kept : Deep bound other before := by
        rcases known with rfl | deep
        · apply deep_of_not_invokes
          rintro ⟨front, back, whole⟩
          have early := first front
            (back ++ Traced.text invocation ++ Traced.text following) (by simp [← whole])
          have long := congrArg List.length whole
          rw [Traced.length_text, List.length_append, List.length_append, opener_eq,
            List.length_cons] at long
          omega
        · exact deep.within ((List.prefix_append before invocation).trans
            (List.prefix_append _ following)).isInfix
      have deeper := ih ownBehind (known.imp_right fun deep => (deep.within rest).behind)
      have seam := onward.deepSeam ownBehind (deepSeam_behind long)
      have boundSeam : DeepSeam bound later := fun entry rest whole =>
        less.trans (seam entry rest whole)
      have splice : bound ≤ (name :: lineage).length := less.trans long
      rw [List.append_assoc]
      exact kept.append ((deep_put splice).append deeper boundSeam)
        (deepSeam_put_append splice boundSeam)

/-- Every lineage that is carried on is longer than those before. -/
theorem Scan.lt_length (scan : Scan name body traced later log) (own : Deep depth name traced)
    (member : lineage ∈ log) : depth + 1 ≤ lineage.length := by
  induction scan with
  | finished => cases member
  | @replaced before invocation following later raw lineage log written spaced _ _ inherited _ ih =>
      rcases List.mem_cons.1 member with rfl | further
      · exact lt_length_of_inherited own written spaced inherited
      · exact ih (own.within (List.suffix_append _ following).isInfix).behind further

end Depth

section Names

/-- Whether all lineages of a text are made of some names. -/
def TracedTo (names : List Text) (traced : Traced) : Prop := ∀ entry ∈ traced, entry.2 ⊆ names

theorem tracedTo_put (known : lineage ⊆ names) : TracedTo names (Traced.put lineage text) := by
  intro entry member
  obtain ⟨character, -, rfl⟩ := List.mem_map.1 member
  exact known

theorem TracedTo.behind (tracedTo : TracedTo names traced) (known : lineage ⊆ names) :
    TracedTo names (Traced.behind lineage traced) := by
  cases traced with
  | nil => exact tracedTo
  | cons head rest =>
      intro entry member
      rcases List.mem_cons.1 member with rfl | inside
      · exact known
      · exact tracedTo entry (List.mem_cons_of_mem _ inside)

theorem Scan.tracedTo (scan : Scan name body traced later log) (known : name ∈ names)
    (tracedTo : TracedTo names traced) :
    TracedTo names later ∧ ∀ lineage ∈ log, lineage ⊆ names := by
  induction scan with
  | finished => exact ⟨tracedTo, by simp⟩
  | @replaced before invocation following later raw lineage log _ _ _ _ inherited _ ih =>
      have carried : name :: lineage ⊆ names := by
        obtain ⟨entry, member, rfl⟩ := List.mem_map.1 (List.argmax_mem inherited)
        have inside : entry ∈ invocation := List.mem_of_mem_take (List.mem_of_mem_tail member)
        exact List.cons_subset.2 ⟨known, tracedTo entry (by simp [inside])⟩
      have rest : TracedTo names following := fun entry member => tracedTo entry (by simp [member])
      obtain ⟨onward, logged⟩ := ih (rest.behind carried)
      refine ⟨fun entry member => ?_, fun other member => ?_⟩
      · rcases List.mem_append.1 member with front | last
        · rcases List.mem_append.1 front with kept | put
          · exact tracedTo entry (by simp [kept])
          · exact tracedTo_put carried entry put
        · exact onward entry last
      · rcases List.mem_cons.1 member with rfl | further
        · exact carried
        · exact logged other further

end Names

end Component

end StaticSite
