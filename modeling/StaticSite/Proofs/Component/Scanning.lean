import Mathlib.Data.List.Infix
import Mathlib.Data.Nat.Init
import StaticSite.Component
import StaticSite.Proofs.Fault
import StaticSite.Proofs.Text.Searching

/-!
# Scanning for invocations

An expansion looks for its name with a space behind it.  A longer name that begins in the same
way does not hide an invocation, because a name without opening braces cannot begin within the
beginning of its own invocation.
-/

namespace StaticSite

namespace Component

/-- What an invocation of a name begins with. -/
def opener (name : Text) : Text := opening ++ name ++ [' ']

/-- Whether an invocation of a name begins somewhere in a text. -/
def Invokes (name text : Text) : Prop := opener name <:+: text

instance (name text : Text) : Decidable (Invokes name text) :=
  inferInstanceAs (Decidable (_ <:+: _))

variable {name body before following rest : Text} {source : Option Text}

/-- Without the invocations of a name, an expansion goes on behind the text that is done. -/
theorem expandFrom_eq (name body : Text) (source : Option Text) (finished rest : Text) :
    expandFrom name body source finished rest =
      match Text.cut? (opening ++ name) rest with
      | none => .ok (finished ++ rest)
      | some (before, following) =>
        if Text.startsWith " " following then
          match Text.cut? closing following with
          | none =>
            .error (.component (.unclosed name) (placeAfter source (finished ++ before)))
          | some (raw, following) =>
            expandFrom name body source (finished ++ before ++ fill body 1 (arguments raw))
              following
        else expandFrom name body source (finished ++ before ++ opening ++ name) following := by
  rw [expandFrom]
  split
  · next absent => rw [absent]
  · next before following found =>
      rw [found]
      simp only
      split
      · split
        · next absent => rw [absent]
        · next raw behind closed => rw [closed]
      · rfl

theorem opening_append (text : Text) : opening ++ text = '{' :: '{' :: ' ' :: text := rfl

theorem opener_eq (name : Text) : opener name = '{' :: '{' :: ' ' :: (name ++ [' ']) := rfl

theorem startsWith_space {text : Text} :
    Text.startsWith " " text = true ↔ ∃ rest, text = ' ' :: rest := by
  rw [Text.startsWith, List.isPrefixOf_iff_prefix]
  constructor
  · rintro ⟨rest, rfl⟩
    exact ⟨rest, rfl⟩
  · rintro ⟨rest, rfl⟩
    exact ⟨rest, rfl⟩

theorem spaced_of_cut? {following raw behind : Text}
    (closed : Text.cut? closing (' ' :: following) = some (raw, behind)) :
    Text.startsWith " " (raw ++ closing) = true := by
  have whole := Text.eq_of_cut? closed
  cases raw with
  | nil => rfl
  | cons character raw =>
      rw [List.cons_append, List.cons_append, List.cons.injEq] at whole
      exact startsWith_space.2 ⟨raw ++ closing, by rw [← whole.1]; rfl⟩

/-- Whether an invocation of a name can begin within a longer name: an end of the opening mark
with the name is a beginning of them, and goes on there otherwise than with a space. -/
def Overlaps (name : Text) : Prop :=
  ∃ front border rest, front ≠ [] ∧ border ≠ [] ∧ opening ++ name = front ++ border ∧
    opener name = border ++ rest ∧ ¬ Text.startsWith " " rest = true

/-- A name without opening braces cannot be begun within the beginning of its invocation. -/
theorem not_overlaps (braceless : '{' ∉ name) : ¬ Overlaps name := by
  rintro ⟨front, border, rest, filled, nonempty, ends, begins, -⟩
  obtain ⟨first, front, rfl⟩ := List.exists_cons_of_ne_nil filled
  obtain ⟨brace, border, rfl⟩ := List.exists_cons_of_ne_nil nonempty
  rw [opener_eq, List.cons_append] at begins
  rw [opening_append, List.cons_append] at ends
  obtain ⟨rfl, onward⟩ := List.cons.inj begins
  have tail := (List.cons.inj ends).2
  -- The border begins with a brace, the second one of the mark or one in the name.
  cases front with
  | nil =>
      obtain ⟨-, rfl⟩ := List.cons.inj tail
      exact absurd (List.cons.inj onward).1 (by decide)
  | cons second front =>
      have inner : '{' ∈ ' ' :: name := by
        rw [(List.cons.inj tail).2]
        simp
      exact braceless ((List.mem_cons.1 inner).resolve_left (by decide))

/-- No invocation begins within a longer name. -/
theorem length_le_of_longer (apart : ¬ Overlaps name)
    (longer : ¬ Text.startsWith " " following = true) {front behind : Text}
    (occurs : opening ++ name ++ following = front ++ opener name ++ behind) :
    (opening ++ name).length ≤ front.length := by
  rw [List.append_assoc front] at occurs
  rcases List.append_eq_append_iff.1 occurs with ⟨extra, rfl, -⟩ | ⟨border, ends, whole⟩
  · simp
  · by_contra within
    have nonempty : border ≠ [] := by
      rintro rfl
      exact within (by simp [ends])
    have shorter : border.length ≤ (opener name).length := by
      have length := congrArg List.length ends
      simp only [opener, List.length_append] at length ⊢
      omega
    obtain ⟨rest, begins⟩ : border <+: opener name :=
      List.prefix_of_prefix_length_le ⟨following, whole.symm⟩ (List.prefix_append _ behind) shorter
    rw [← begins, List.append_assoc] at whole
    obtain rfl := (List.append_cancel_left whole).symm
    have filled : rest ≠ [] := by
      rintro rfl
      have length := congrArg List.length ends
      have same := congrArg List.length begins
      simp only [opener, List.length_append, List.length_nil, List.length_singleton] at length same
      omega
    obtain ⟨character, rest, rfl⟩ := List.exists_cons_of_ne_nil filled
    have unspaced : ¬ Text.startsWith " " (character :: rest) = true := fun spaced =>
      longer (startsWith_space.2 ((startsWith_space.1 spaced).imp' (· ++ behind) fun others same => by
        rw [same, List.cons_append]))
    refine apart ⟨front, border, character :: rest, ?_, nonempty, ends, begins.symm, unspaced⟩
    rintro rfl
    rw [List.nil_append] at ends
    rw [← ends, opener] at begins
    exact unspaced (startsWith_space.2 ⟨[], List.append_cancel_left begins⟩)

/-- A search for the beginning of an invocation goes over a longer name. -/
theorem cut?_opener_of_longer (apart : ¬ Overlaps name)
    (found : Text.cut? (opening ++ name) rest = some (before, following))
    (longer : ¬ Text.startsWith " " following = true) :
    Text.cut? (opener name) rest =
      (Text.cut? (opener name) following).map fun (inner, later) =>
        (before ++ opening ++ name ++ inner, later) := by
  have whole := Text.eq_of_cut? found
  rw [whole, Text.cut?_append_of_late]
  · simp
  · intro front behind occurs
    have late : before.length ≤ front.length :=
      @Text.length_le_of_cut? _ _ following _ found front ([' '] ++ behind)
        (by rw [whole, occurs]; simp [opener])
    rw [List.append_assoc before, List.append_assoc front] at occurs
    obtain ⟨inner, rfl⟩ : before <+: front :=
      List.prefix_of_prefix_length_le (List.prefix_append before (opening ++ name ++ following))
        ⟨opener name ++ behind, occurs.symm⟩ late
    rw [List.append_assoc before] at occurs
    have inside : opening ++ name ++ following = inner ++ opener name ++ behind := by
      rw [List.append_assoc inner]
      exact List.append_cancel_left occurs
    have length := length_le_of_longer apart longer inside
    simp only [List.length_append] at length ⊢
    omega

/-- An expansion goes from one invocation to the next. -/
theorem expandFrom_eq_opener_of_not_overlaps (apart : ¬ Overlaps name) (body : Text)
    (source : Option Text) (finished rest : Text) :
    expandFrom name body source finished rest =
      match Text.cut? (opener name) rest with
      | none => .ok (finished ++ rest)
      | some (before, following) =>
        match Text.cut? closing (' ' :: following) with
        | none =>
          .error (.component (.unclosed name) (placeAfter source (finished ++ before)))
        | some (raw, following) =>
          expandFrom name body source (finished ++ before ++ fill body 1 (arguments raw))
            following := by
  induction length : rest.length using Nat.strong_induction_on generalizing finished rest with
  | _ size ih =>
      rw [expandFrom_eq]
      cases found : Text.cut? (opening ++ name) rest with
      | none =>
          have nowhere := Text.cut?_eq_none_iff.1 found
          have absent : Text.cut? (opener name) rest = none :=
            Text.cut?_eq_none_iff.2 fun occurs =>
              nowhere ((List.prefix_append _ _).isInfix.trans occurs)
          rw [absent]
      | some pair =>
          obtain ⟨before, following⟩ := pair
          simp only
          split
          · next spaced =>
              obtain ⟨inner, rfl⟩ := startsWith_space.1 spaced
              have first : Text.cut? (opener name) rest = some (before, inner) := by
                refine Text.cut?_eq_some_iff.2 ⟨?_, fun front behind occurs => ?_⟩
                · rw [Text.eq_of_cut? found]
                  simp [opener]
                · refine @Text.length_le_of_cut? _ _ (' ' :: inner) _ found front
                    ([' '] ++ behind) ?_
                  rw [occurs]
                  simp [opener]
              exact first ▸ rfl
          · next longer =>
              have shorter := Text.length_of_cut? found
              rw [opening_append, List.length_cons] at shorter
              rw [ih following.length (by omega) _ following rfl,
                cut?_opener_of_longer apart found longer]
              cases Text.cut? (opener name) following with
              | none => simp [Text.eq_of_cut? found]
              | some later => simp

/-- An expansion of a name without opening braces goes from one invocation to the next. -/
theorem expandFrom_eq_opener (braceless : '{' ∉ name) (body : Text) (source : Option Text)
    (finished rest : Text) :
    expandFrom name body source finished rest =
      match Text.cut? (opener name) rest with
      | none => .ok (finished ++ rest)
      | some (before, following) =>
        match Text.cut? closing (' ' :: following) with
        | none =>
          .error (.component (.unclosed name) (placeAfter source (finished ++ before)))
        | some (raw, following) =>
          expandFrom name body source (finished ++ before ++ fill body 1 (arguments raw))
            following :=
  expandFrom_eq_opener_of_not_overlaps (not_overlaps braceless) body source finished rest

/-- The expansion of a text with one invocation. -/
theorem expand_of_cut? {content raw behind : Text} (braceless : '{' ∉ name) (body : Text)
    (source : Option Text) (first : Text.cut? (opener name) content = some (before, following))
    (closed : Text.cut? closing (' ' :: following) = some (raw, behind))
    (last : ¬ Invokes name behind) :
    expand content name body source = .ok (before ++ fill body 1 (arguments raw) ++ behind) := by
  rw [expand, expandFrom_eq_opener braceless, first]
  simp only [closed]
  rw [expandFrom_eq_opener braceless, Text.cut?_eq_none_iff.2 last]
  rfl

theorem expand_of_not_invokes {content : Text} (braceless : '{' ∉ name) (body : Text)
    (source : Option Text) (absent : ¬ Invokes name content) :
    expand content name body source = .ok content := by
  rw [expand, expandFrom_eq_opener braceless, Text.cut?_eq_none_iff.2 absent]
  rfl

theorem expandEach_of_not_invokes {components : List (Text × Text)} {content : Text}
    (braceless : ∀ component ∈ components, '{' ∉ component.1) (source : Option Text)
    (absent : ∀ component ∈ components, ¬ Invokes component.1 content) :
    expandEach source components content = .ok content := by
  induction components with
  | nil => rfl
  | cons component components ih =>
      rw [expandEach, expand_of_not_invokes (braceless _ List.mem_cons_self) _ source
        (absent _ List.mem_cons_self)]
      exact ih (fun other member => braceless other (List.mem_cons_of_mem _ member))
        fun other member => absent other (List.mem_cons_of_mem _ member)

theorem expandPasses_succ_eq_ok_iff {components : List (Text × Text)} {passes : Nat}
    {content text : Text} :
    expandPasses source components (passes + 1) content = .ok text ↔
      ∃ changed, expandEach source components content = .ok changed ∧
        (changed = content ∧ text = content ∨
          changed ≠ content ∧ expandPasses source components passes changed = .ok text) := by
  rw [expandPasses, bind_eq_ok_iff]
  refine exists_congr fun changed => and_congr_right fun _ => ?_
  by_cases same : changed = content
  · simp [same, pure, Except.pure, eq_comm]
  · simp [same]

end Component

end StaticSite
