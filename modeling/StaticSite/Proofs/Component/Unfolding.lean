import Mathlib.Data.List.Perm.Subperm
import Mathlib.Data.Nat.Find
import StaticSite.Proofs.Component.Expansion
import StaticSite.Proofs.Dictionary

/-!
# Unfolding a page

A pass puts the bodies of all components in the place of their invocations, one component
after the other.  Each pass takes away one level of nesting, whatever the order of the
components, and what is nested at all is nested no deeper than there are components.  So the
passes end with the page unfolded, if the invocations stand apart from each other.
-/

namespace StaticSite

namespace Component

variable {library : Dictionary Body} {names : List Text} {page body : Body} {depth : Nat}

section Separation

/-- Whether a piece, if it invokes a component of a library, has an argument for each placeholder
that the component passes on. -/
def Piece.Reaches (library : Dictionary Body) : Piece → Prop
  | .invocation name arguments =>
    ∀ target, library.get? name = some target →
      ∀ index ∈ target.flatMap Piece.passedOn, index ≤ arguments.length
  | _ => True

instance (library : Dictionary Body) (piece : Piece) : Decidable (piece.Reaches library) :=
  match piece with
  | .chunk _ => inferInstanceAs (Decidable True)
  | .placeholder _ => inferInstanceAs (Decidable True)
  | .invocation name arguments =>
    inferInstanceAs (Decidable (∀ target ∈ library.get? name,
      ∀ index ∈ target.flatMap Piece.passedOn, index ≤ arguments.length))

/-- Components whose invocations stand apart: none of some names begins in the text or in an
argument, and every placeholder in an argument is filled before its invocation is met. -/
structure Separate (names : List Text) (library : Dictionary Body) : Prop where
  isName : ∀ name ∈ library.keys, IsName name
  known : library.keys ⊆ names
  sound : ∀ name body, library.get? name = some body → ∀ piece ∈ body, piece.Sound names
  reaches : ∀ name body, library.get? name = some body → ∀ piece ∈ body, piece.Reaches library

/-- A page whose invocations stand apart.  Placeholders may stand in its text. -/
structure SeparatePage (names : List Text) (library : Dictionary Body) (page : Body) : Prop where
  sound : ∀ piece ∈ page, piece.Sound names
  reaches : ∀ piece ∈ page, piece.Reaches library
  settled : ∀ piece ∈ page, piece.passedOn = []

theorem Piece.fill_invocation {first : Nat} {arguments : List Text} {piece : Piece} {name : Text}
    {others : List Argument} (filled : piece.fill first arguments = .invocation name others) :
    ∃ originals, piece = .invocation name originals ∧ others.length = originals.length := by
  cases piece with
  | chunk text => simp [fill] at filled
  | placeholder index =>
      rw [fill] at filled
      split at filled <;> simp at filled
  | invocation other originals =>
      simp only [fill, invocation.injEq] at filled
      obtain ⟨rfl, rfl⟩ := filled
      exact ⟨originals, rfl, List.length_map _⟩

theorem argumentAt?_isSome {arguments : List Text} {index : Nat} (positive : 1 ≤ index)
    (within : index ≤ arguments.length) : ∃ argument, argumentAt? 1 arguments index = some argument := by
  rw [argumentAt?, if_neg (by omega)]
  exact ⟨_, List.getElem?_eq_getElem (by omega)⟩

theorem Piece.sound_fill {arguments : List Text} {piece : Piece} (sound : piece.Sound names)
    (areTexts : ∀ argument ∈ arguments, IsArgumentText argument) :
    (piece.fill 1 arguments).Sound names := by
  refine @fill_keeps (Sound names) _ _ _ sound areTexts ?_ ?_
  · intro text isText
    have wellFormed : (Piece.chunk text).WellFormed := isChunk_of_not_mem isText.2.2.1
    exact wellFormed.sound names
  · intro name others here
    refine ⟨here.1.2, fun more areArguments => ⟨⟨here.1.1, areArguments⟩, ?_⟩⟩
    rintro text ⟨⟩

/-- With an argument for each placeholder that is passed on, nothing is passed on any more. -/
theorem Piece.passedOn_fill {arguments : List Text} {piece : Piece} (fillable : piece.Fillable)
    (enough : ∀ index ∈ piece.passedOn, index ≤ arguments.length) :
    (piece.fill 1 arguments).passedOn = [] := by
  cases piece with
  | chunk text => rfl
  | placeholder index =>
      rw [fill]
      split <;> rfl
  | invocation name others =>
      rw [fill, passedOn, List.flatMap_eq_nil_iff]
      intro part member
      obtain ⟨filled, filledMember, partMember⟩ := List.mem_flatten.1 member
      obtain ⟨argument, argumentMember, rfl⟩ := List.mem_map.1 filledMember
      obtain ⟨original, originalMember, rfl⟩ := List.mem_map.1 partMember
      cases original with
      | plain text => rfl
      | placeholder index =>
          have listed : index ∈ (Piece.invocation name others).passedOn :=
            List.mem_flatMap.2 ⟨_, List.mem_flatten.2 ⟨argument, argumentMember, originalMember⟩,
              by simp [ArgumentPart.placeholders]⟩
          have positive : 1 ≤ index := (fillable.2 argument argumentMember).1 _ originalMember
          obtain ⟨text, found⟩ := argumentAt?_isSome positive (enough index listed)
          simp [ArgumentPart.fill, found, ArgumentPart.placeholders]

/-- The body of a component with arguments for all that it passes on is a page. -/
theorem Separate.instantiate (separate : Separate names library) {name : Text}
    (found : library.get? name = some body) {arguments : List Argument}
    (areTexts : ∀ argument ∈ arguments, IsArgumentText (writeArgument argument))
    (enough : ∀ index ∈ body.flatMap Piece.passedOn, index ≤ arguments.length) :
    SeparatePage names library (Component.instantiate arguments body) := by
  have texts : ∀ argument ∈ arguments.map writeArgument, IsArgumentText argument := by
    simpa using areTexts
  refine ⟨?_, ?_, ?_⟩
  all_goals
    intro piece member
    obtain ⟨original, originalMember, rfl⟩ := List.mem_map.1 member
    have sound := separate.sound name body found original originalMember
  · exact Piece.sound_fill sound texts
  · cases filled : original.fill 1 (arguments.map writeArgument) with
    | chunk text => trivial
    | placeholder index => trivial
    | invocation other others =>
        obtain ⟨originals, rfl, length⟩ := original.fill_invocation filled
        intro target listed index indexMember
        rw [length]
        exact separate.reaches name body found _ originalMember target listed index indexMember
  · refine Piece.passedOn_fill sound.1 fun index indexMember => ?_
    rw [List.length_map]
    exact enough index (List.mem_flatMap.2 ⟨original, originalMember, indexMember⟩)

theorem SeparatePage.instantiate (separate : Separate names library)
    (isPage : SeparatePage names library page) {name : Text} {arguments : List Argument}
    (member : .invocation name arguments ∈ page) (found : library.get? name = some body) :
    SeparatePage names library (Component.instantiate arguments body) :=
  separate.instantiate found
    (isArgumentText_of_mem (isPage.sound _ member).1 (isPage.settled _ member))
    (isPage.reaches _ member body found)

theorem SeparatePage.flatMap {pieces : List Piece} {change : Piece → Body}
    (pages : ∀ piece ∈ pieces, SeparatePage names library (change piece)) :
    SeparatePage names library (pieces.flatMap change) := by
  refine ⟨?_, ?_, ?_⟩
  all_goals
    intro piece member
    obtain ⟨original, originalMember, within⟩ := List.mem_flatMap.1 member
    have isPage := pages original originalMember
  · exact isPage.sound piece within
  · exact isPage.reaches piece within
  · exact isPage.settled piece within

theorem SeparatePage.singleton (isPage : SeparatePage names library page) {piece : Piece}
    (member : piece ∈ page) : SeparatePage names library [piece] := by
  refine ⟨?_, ?_, ?_⟩
  all_goals
    intro other same
    obtain rfl := List.mem_singleton.1 same
  · exact isPage.sound other member
  · exact isPage.reaches other member
  · exact isPage.settled other member

theorem SeparatePage.inline (separate : Separate names library)
    (isPage : SeparatePage names library page) {name : Text}
    (found : library.get? name = some body) :
    SeparatePage names library (page.flatMap (Piece.inline name body)) := by
  apply SeparatePage.flatMap
  intro piece member
  cases piece with
  | chunk text => exact isPage.singleton member
  | placeholder index => exact isPage.singleton member
  | invocation other arguments =>
      rw [Piece.inline]
      split
      · next same => exact isPage.instantiate separate member (same ▸ found)
      · exact isPage.singleton member

end Separation

section Nesting

/-- Whether the invocations of components in a body are nested at most so deep. -/
def NestsWithin (library : Dictionary Body) : (depth : Nat) → Body → Prop
  | 0, body => ∀ name arguments, .invocation name arguments ∈ body → library.get? name = none
  | depth + 1, body =>
    ∀ name arguments, .invocation name arguments ∈ body →
      ∀ target, library.get? name = some target → NestsWithin library depth target

/-- Whether what a name stands for is nested less deep. -/
def NameWithin (library : Dictionary Body) : (depth : Nat) → Text → Prop
  | 0, name => library.get? name = none
  | depth + 1, name => ∀ target, library.get? name = some target → NestsWithin library depth target

theorem nestsWithin_iff :
    NestsWithin library depth body ↔
      ∀ name arguments, .invocation name arguments ∈ body → NameWithin library depth name := by
  cases depth <;> rfl

theorem NameWithin.of_absent {name : Text} (absent : library.get? name = none) (depth : Nat) :
    NameWithin library depth name := by
  cases depth with
  | zero => exact absent
  | succ depth =>
      intro target found
      simp [absent] at found

theorem NestsWithin.succ (nests : NestsWithin library depth body) :
    NestsWithin library (depth + 1) body := by
  induction depth generalizing body with
  | zero =>
      intro name arguments member target found
      simp [nests name arguments member] at found
  | succ depth ih =>
      intro name arguments member target found
      exact ih (nests name arguments member target found)

theorem NameWithin.succ {name : Text} (within : NameWithin library depth name) :
    NameWithin library (depth + 1) name := by
  cases depth with
  | zero => exact .of_absent within 1
  | succ depth => exact fun target found => (within target found).succ

theorem NameWithin.mono {name : Text} {more : Nat} (within : NameWithin library depth name)
    (less : depth ≤ more) : NameWithin library more name := by
  induction less with
  | refl => exact within
  | step _ ih => exact ih.succ

theorem nestsWithin_instantiate {arguments : List Argument} :
    NestsWithin library depth (instantiate arguments body) ↔ NestsWithin library depth body := by
  rw [nestsWithin_iff, nestsWithin_iff]
  constructor
  · intro nests name others member
    exact nests name _ (List.mem_map.2 ⟨_, member, rfl⟩)
  · intro nests name others member
    obtain ⟨piece, pieceMember, filled⟩ := List.mem_map.1 member
    obtain ⟨originals, rfl, -⟩ := piece.fill_invocation filled
    exact nests name originals pieceMember

theorem NestsWithin.flatMap {pieces : List Piece} {change : Piece → Body}
    (nests : ∀ piece ∈ pieces, NestsWithin library depth (change piece)) :
    NestsWithin library depth (pieces.flatMap change) := by
  rw [nestsWithin_iff]
  intro name arguments member
  obtain ⟨piece, pieceMember, within⟩ := List.mem_flatMap.1 member
  exact nestsWithin_iff.1 (nests piece pieceMember) name arguments within

variable {met : List Text}

/-- As many components as there are, are all of them. -/
theorem mem_of_length_eq {name : Text} (distinct : met.Nodup) (known : met ⊆ library.keys)
    (length : met.length = library.keys.length) (found : library.get? name = some body) :
    name ∈ met :=
  ((List.subperm_of_subset distinct known).perm_of_length_le length.ge).mem_iff.2
    (Dictionary.mem_keys_of_get? found)

/-- What is nested to some depth is nested no deeper than the components that have not been met on
the way, because a component is nested deeper than those that it invokes. -/
theorem nestsWithin_of_met {deep : Nat} (distinct : met.Nodup)
    (known : met ⊆ library.keys) (length : met.length + depth = library.keys.length)
    (nests : NestsWithin library deep body)
    (deeper : ∀ caller ∈ met, ¬ NameWithin library deep caller) :
    NestsWithin library depth body := by
  induction depth generalizing deep met body with
  | zero =>
      intro name arguments member
      cases found : library.get? name with
      | none => rfl
      | some target =>
          have again := mem_of_length_eq distinct known length found
          exact absurd (nestsWithin_iff.1 nests name arguments member) (deeper name again)
  | succ depth ih =>
      intro name arguments member target found
      have within := nestsWithin_iff.1 nests name arguments member
      have fresh : name ∉ met := fun again => deeper name again within
      -- The least depth of the name bounds the depth of its body.
      obtain ⟨least, holds, below⟩ : ∃ least, NameWithin library least name ∧
          ∀ less, less < least → ¬ NameWithin library less name := by
        classical
        have some : ∃ bound, NameWithin library bound name := ⟨deep, within⟩
        exact ⟨Nat.find some, Nat.find_spec some, fun less => Nat.find_min some⟩
      have shallow : least ≤ deep := by
        by_contra other
        exact below deep (by omega) within
      cases least with
      | zero =>
          rw [NameWithin, found] at holds
          cases holds
      | succ least =>
          have more : (name :: met).length + depth = library.keys.length := by
            rw [List.length_cons]
            omega
          refine ih (List.nodup_cons.2 ⟨fresh, distinct⟩)
            (List.cons_subset.2 ⟨Dictionary.mem_keys_of_get? found, known⟩) more
            (holds target found) ?_
          intro caller callerMember
          rcases List.mem_cons.1 callerMember with rfl | earlier
          · exact below least (by omega)
          · exact fun inside => deeper caller earlier (inside.mono (by omega))

/-- What is nested to some depth is nested no deeper than there are components. -/
theorem NestsWithin.length (nests : NestsWithin library depth body) :
    NestsWithin library library.entries.length body :=
  nestsWithin_of_met List.nodup_nil (List.nil_subset _) (by simp [Dictionary.keys]) nests (by simp)

/-- Without a cycle, invocations are not nested deeper than the components that have not been
met on the way. -/
theorem nestsWithin_of_acyclic (acyclic : ∀ name, ¬ Relation.TransGen (Calls library) name name)
    (distinct : met.Nodup) (known : met ⊆ library.keys)
    (length : met.length + depth = library.keys.length)
    (reached : ∀ name arguments, .invocation name arguments ∈ body → name ∈ library.keys →
      ∀ caller ∈ met, Relation.TransGen (Calls library) caller name) :
    NestsWithin library depth body := by
  induction depth generalizing met body with
  | zero =>
      intro name arguments member
      cases found : library.get? name with
      | none => rfl
      | some target =>
          have key := Dictionary.mem_keys_of_get? found
          have again := mem_of_length_eq distinct known length found
          exact absurd (reached name arguments member key name again) (acyclic name)
  | succ depth ih =>
      intro name arguments member target found
      have key := Dictionary.mem_keys_of_get? found
      have fresh : name ∉ met := fun again =>
        acyclic name (reached name arguments member key name again)
      have more : (name :: met).length + depth = library.keys.length := by
        rw [List.length_cons]
        omega
      refine ih (List.nodup_cons.2 ⟨fresh, distinct⟩) (List.cons_subset.2 ⟨key, known⟩) more ?_
      intro callee others calleeMember calleeKey caller callerMember
      have call : Calls library name callee := ⟨target, others, found, calleeMember, calleeKey⟩
      rcases List.mem_cons.1 callerMember with rfl | earlier
      · exact .single call
      · exact (reached name arguments member key caller earlier).tail call

theorem NestsWithin.of_acyclic (acyclic : ∀ name, ¬ Relation.TransGen (Calls library) name name)
    (body : Body) : NestsWithin library library.entries.length body :=
  nestsWithin_of_acyclic acyclic List.nodup_nil (List.nil_subset _) (by simp [Dictionary.keys])
    (by simp)

end Nesting

section Passes

/-- Put the bodies of components in the place of their invocations, one component after the
other. -/
def inlineEach (components : List (Text × Body)) (page : Body) : Body :=
  components.foldl (fun page component => page.flatMap (Piece.inline component.1 component.2)) page

/-- What stands in the place of a piece if invocations are unfolded in some way. -/
def Piece.unfold (library : Dictionary Body) (inside : Body → Body) : Piece → Body
  | .invocation name arguments =>
    match library.get? name with
    | some body => inside (instantiate arguments body)
    | none => [.invocation name arguments]
  | piece => [piece]

/-- Put the bodies of all components in the place of their invocations, those that come in with
a body as well, down to some depth. -/
def unfold (library : Dictionary Body) : (depth : Nat) → Body → Body
  | 0, page => page
  | depth + 1, page => page.flatMap (Piece.unfold library (unfold library depth))

theorem unfold_flatMap {pieces : List Piece} {change : Piece → Body} :
    unfold library depth (pieces.flatMap change) =
      pieces.flatMap fun piece => unfold library depth (change piece) := by
  cases depth with
  | zero => rfl
  | succ depth =>
      rw [unfold, List.flatMap_assoc]
      rfl

theorem unfold_eq_flatMap (page : Body) :
    unfold library depth page = page.flatMap fun piece => unfold library depth [piece] := by
  have single := @unfold_flatMap library depth page fun piece => [piece]
  rwa [List.flatMap_singleton'] at single

theorem unfold_invocation {name : Text} (found : library.get? name = some body)
    (arguments : List Argument) :
    unfold library (depth + 1) [.invocation name arguments] =
      unfold library depth (instantiate arguments body) := by
  simp [unfold, Piece.unfold, found]

theorem unfold_eq_self (shallow : NestsWithin library 0 page) (depth : Nat) :
    unfold library depth page = page := by
  cases depth with
  | zero => rfl
  | succ depth =>
      have kept : ∀ piece ∈ page, piece.unfold library (unfold library depth) = [piece] := by
        intro piece member
        cases piece with
        | chunk text => rfl
        | placeholder index => rfl
        | invocation name arguments => rw [Piece.unfold, shallow name arguments member]
      rw [unfold, List.flatMap_congr kept]
      exact List.flatMap_singleton' page

theorem unfold_succ (nests : NestsWithin library depth page) :
    unfold library (depth + 1) page = unfold library depth page := by
  induction depth generalizing page with
  | zero => exact unfold_eq_self nests 1
  | succ depth ih =>
      rw [unfold_eq_flatMap, unfold_eq_flatMap page]
      refine List.flatMap_congr fun piece member => ?_
      cases piece with
      | chunk text => rfl
      | placeholder index => rfl
      | invocation name arguments =>
          cases found : library.get? name with
          | none => simp [unfold, Piece.unfold, found]
          | some body =>
              rw [unfold_invocation found, unfold_invocation found]
              exact ih (nestsWithin_instantiate.2 (nests name arguments member body found))

theorem nestsWithin_unfold (nests : NestsWithin library depth page) :
    NestsWithin library 0 (unfold library depth page) := by
  induction depth generalizing page with
  | zero => exact nests
  | succ depth ih =>
      rw [unfold_eq_flatMap]
      refine NestsWithin.flatMap fun piece member => ?_
      have kept : (∀ name arguments, piece = .invocation name arguments →
          library.get? name = none) → NestsWithin library 0 (unfold library (depth + 1) [piece]) := by
        intro absent
        have shallow : NestsWithin library 0 [piece] := fun name arguments same =>
          absent name arguments (List.mem_singleton.1 same).symm
        rwa [unfold_eq_self shallow]
      cases piece with
      | chunk text => exact kept (by simp)
      | placeholder index => exact kept (by simp)
      | invocation name arguments =>
          cases found : library.get? name with
          | none => exact kept (by simp [found])
          | some body =>
              rw [unfold_invocation found]
              exact ih (nestsWithin_instantiate.2 (nests name arguments member body found))

/-- Putting the body of a component in the place of its invocations does not change what a page
unfolds to. -/
theorem unfold_inline {name : Text} (found : library.get? name = some body)
    (nests : NestsWithin library depth page) :
    unfold library depth (page.flatMap (Piece.inline name body)) = unfold library depth page := by
  rw [unfold_flatMap, unfold_eq_flatMap page]
  refine List.flatMap_congr fun piece member => ?_
  cases piece with
  | chunk text => rfl
  | placeholder index => rfl
  | invocation other arguments =>
      rw [Piece.inline]
      split
      · next same =>
          subst same
          cases depth with
          | zero =>
              rw [nests other arguments member] at found
              cases found
          | succ depth =>
              rw [unfold_invocation found]
              exact unfold_succ (nestsWithin_instantiate.2 (nests other arguments member body found))
      · rfl

variable {components : List (Text × Body)}
  (known : ∀ component ∈ components, library.get? component.1 = some component.2)
include known

theorem SeparatePage.inlineEach (separate : Separate names library)
    (isPage : SeparatePage names library page) :
    SeparatePage names library (Component.inlineEach components page) := by
  induction components generalizing page with
  | nil => exact isPage
  | cons component components ih =>
      exact ih (fun other member => known other (List.mem_cons_of_mem _ member))
        (isPage.inline separate (known component List.mem_cons_self))

/-- A pass over the written form of a page is a pass over the page. -/
theorem expandEach_writeBody (separate : Separate names library)
    (isPage : SeparatePage names library page) (source : Option Text) :
    expandEach source (components.map fun component => (component.1, writeBody component.2))
        (writeBody page) =
      .ok (writeBody (Component.inlineEach components page)) := by
  induction components generalizing page with
  | nil => rfl
  | cons component components ih =>
      have found := known component List.mem_cons_self
      have listed := Dictionary.mem_keys_of_get? found
      have step := @expand_writeBody component.1 source names page component.2
        (separate.isName _ listed) (separate.known listed)
        (fun piece member => (separate.sound _ _ found piece member).1) isPage.sound isPage.settled
      rw [List.map_cons, expandEach, step]
      exact ih (fun other member => known other (List.mem_cons_of_mem _ member))
        (isPage.inline separate found)

/-- What is still nested deeper after some components waits for one of the others. -/
theorem nestsWithin_inlineEach {depth : Nat}
    (waiting : ∀ name arguments, .invocation name arguments ∈ page →
      NameWithin library depth name ∨
        NameWithin library (depth + 1) name ∧ name ∈ components.map Prod.fst) :
    NestsWithin library depth (Component.inlineEach components page) := by
  induction components generalizing page with
  | nil =>
      refine nestsWithin_iff.2 fun name arguments member => ?_
      simpa using waiting name arguments member
  | cons component components ih =>
      refine ih (fun other member => known other (List.mem_cons_of_mem _ member)) ?_
      intro name arguments member
      obtain ⟨piece, pieceMember, within⟩ := List.mem_flatMap.1 member
      have kept : ∀ other others, piece = .invocation other others → other ≠ component.1 →
          Piece.invocation name arguments = piece →
          NameWithin library depth name ∨
            NameWithin library (depth + 1) name ∧ name ∈ components.map Prod.fst := by
        rintro other others rfl different same
        obtain ⟨rfl, rfl⟩ := Piece.invocation.inj same
        refine (waiting name arguments pieceMember).imp_right fun later => ⟨later.1, ?_⟩
        exact (List.mem_cons.1 later.2).resolve_left different
      cases piece with
      | chunk text => simp [Piece.inline] at within
      | placeholder index => simp [Piece.inline] at within
      | invocation other others =>
          rw [Piece.inline] at within
          split at within
          · next same =>
              subst same
              obtain ⟨part, partMember, filled⟩ := List.mem_map.1 within
              obtain ⟨originals, rfl, -⟩ := part.fill_invocation filled
              -- What the body brings in is one level less deep than the component.
              have deep : NameWithin library (depth + 1) component.1 :=
                (waiting _ _ pieceMember).elim NameWithin.succ And.left
              have nests := deep component.2 (known component (by simp))
              exact Or.inl (nestsWithin_iff.1 nests name originals partMember)
          · next different => exact kept other others rfl different (List.mem_singleton.1 within)

theorem unfold_inlineEach (nests : NestsWithin library depth page) :
    unfold library depth (Component.inlineEach components page) = unfold library depth page := by
  induction components generalizing page with
  | nil => rfl
  | cons component components ih =>
      have first : ∀ other ∈ [component], library.get? other.1 = some other.2 := fun other member =>
        known other (by simpa using Or.inl (List.mem_singleton.1 member))
      have still := nestsWithin_inlineEach first fun name arguments member =>
        Or.inl (nestsWithin_iff.1 nests name arguments member)
      have later := ih (fun other member => known other (List.mem_cons_of_mem _ member)) still
      exact later.trans (unfold_inline (known component List.mem_cons_self) nests)

end Passes

section Limits

theorem inlineEach_eq_self {components : List (Text × Body)}
    (known : ∀ component ∈ components, library.get? component.1 = some component.2)
    (shallow : NestsWithin library 0 page) : inlineEach components page = page := by
  induction components with
  | nil => rfl
  | cons component components ih =>
      have found := known component (by simp)
      have kept : ∀ piece ∈ page, piece.inline component.1 component.2 = [piece] := by
        intro piece member
        cases piece with
        | chunk text => rfl
        | placeholder index => rfl
        | invocation name arguments =>
            rw [Piece.inline, if_neg]
            rintro rfl
            simp [shallow _ _ member] at found
      have unchanged : page.flatMap (Piece.inline component.1 component.2) = page := by
        rw [List.flatMap_congr kept]
        exact List.flatMap_singleton' page
      rw [inlineEach, List.foldl_cons, unchanged]
      exact ih fun other member => known other (List.mem_cons_of_mem _ member)

variable {components : List (Text × Body)}
  (known : ∀ component ∈ components, library.get? component.1 = some component.2)
  (complete : ∀ name target, library.get? name = some target →
    name ∈ components.map Prod.fst)
include known complete

theorem nestsWithin_pass {depth : Nat} (nests : NestsWithin library (depth + 1) page) :
    NestsWithin library depth (inlineEach components page) := by
  apply nestsWithin_inlineEach known
  intro name arguments member
  cases found : library.get? name with
  | none => exact Or.inl (.of_absent found depth)
  | some target =>
      exact Or.inr ⟨nestsWithin_iff.1 nests name arguments member, complete name target found⟩

variable (separate : Separate names library)
include separate

/-- A text that a pass does not change is that of the page unfolded. -/
theorem unfold_of_fixed (isPage : SeparatePage names library page)
    (nests : NestsWithin library depth page)
    (fixed : writeBody (inlineEach components page) = writeBody page) :
    writeBody (unfold library depth page) = writeBody page := by
  induction depth generalizing page with
  | zero => rfl
  | succ depth ih =>
      have still := isPage.inlineEach known separate
      have shallower := nestsWithin_pass known complete nests
      have first := expandEach_writeBody known separate isPage none
      have second := expandEach_writeBody known separate still none
      -- The text is the same, so that the next pass does not change it either.
      rw [fixed, first] at second
      have later := ih still shallower (Except.ok.inj second).symm
      rw [← unfold_inlineEach known nests, unfold_succ shallower, later, fixed]

/-- One pass more than the nesting is deep unfolds a page. -/
theorem expandPasses_writeBody (isPage : SeparatePage names library page)
    (nests : NestsWithin library depth page) (source : Option Text) :
    expandPasses source (components.map fun component => (component.1, writeBody component.2))
      (depth + 1) (writeBody page) = .ok (writeBody (unfold library depth page)) := by
  induction depth generalizing page with
  | zero =>
      have pass := expandEach_writeBody known separate isPage source
      rw [inlineEach_eq_self known nests] at pass
      rw [expandPasses, pass]
      simp [bind, Except.bind, pure, Except.pure, unfold]
  | succ depth ih =>
      have pass := expandEach_writeBody known separate isPage source
      by_cases same : writeBody (inlineEach components page) = writeBody page
      · rw [expandPasses, pass, unfold_of_fixed known complete separate isPage nests same]
        simp [bind, Except.bind, pure, Except.pure, same]
      · have shallower := nestsWithin_pass known complete nests
        have later := ih (isPage.inlineEach known separate) shallower
        rw [← unfold_succ shallower, unfold_inlineEach known nests] at later
        rw [expandPasses, pass]
        simpa [bind, Except.bind, same] using later

end Limits

section Results

theorem inOrder_map (library : Dictionary Body) :
    inOrder (library.map writeBody) =
      (library.entries.mergeSort fun first second => Text.lessEqual first.1 second.1).map
        fun component => (component.1, writeBody component.2) := by
  symm
  apply List.map_mergeSort
  intro first _ second _
  rfl

theorem get?_of_mem_mergeSort :
    ∀ component ∈ library.entries.mergeSort fun first second => Text.lessEqual first.1 second.1,
      library.get? component.1 = some component.2 :=
  fun _ member => Dictionary.get?_eq_some_iff.2 (List.mem_mergeSort.1 member)

theorem mem_map_fst_mergeSort (name : Text) (target : Body) (found : library.get? name = some target) :
    name ∈ (library.entries.mergeSort fun first second => Text.lessEqual first.1 second.1).map
      Prod.fst :=
  List.mem_map_of_mem (List.mem_mergeSort.2 (Dictionary.get?_eq_some_iff.1 found))

theorem expandAll_eq (library : Dictionary Body) (content : Text) (source : Option Text) :
    expandAll content (library.map writeBody) source =
      expandPasses source
        ((library.entries.mergeSort fun first second => Text.lessEqual first.1 second.1).map
          fun component => (component.1, writeBody component.2))
        (library.entries.length + 1) content := by
  have length : (library.map writeBody).entries.length = library.entries.length := by
    simp [Dictionary.map]
  rw [expandAll, inOrder_map, length]

/-- Expanding all components of a library unfolds a page that is nested to some depth. -/
theorem expandAll_writeBody (separate : Separate names library)
    (isPage : SeparatePage names library page)
    (nests : NestsWithin library library.entries.length page) (source : Option Text) :
    expandAll (writeBody page) (library.map writeBody) source =
      .ok (writeBody (unfold library library.entries.length page)) := by
  rw [expandAll_eq]
  exact expandPasses_writeBody get?_of_mem_mergeSort mem_map_fst_mergeSort separate isPage nests
    source

end Results

section Finished

/-- Whether the expansion of all components ends with a text that invokes none of them. -/
def Finishes (content : Text) (components : Dictionary Text) (source : Option Text)
    (text : Text) : Prop :=
  expandAll content components source = .ok text ∧ ∀ name ∈ components.keys, ¬ Invokes name text

variable {name text : Text} {source : Option Text}

theorem invokes_writeBody {arguments : List Argument}
    (member : .invocation name arguments ∈ page) : Invokes name (writeBody page) := by
  obtain ⟨front, back, rfl⟩ := List.append_of_mem member
  obtain ⟨tail, spaced⟩ := exists_space arguments (writeBody back)
  refine ⟨writeBody front, tail, ?_⟩
  have written : writeBody (front ++ .invocation name arguments :: back) =
      writeBody front ++ (opening ++ name ++
        (writeArguments arguments ++ closing ++ writeBody back)) := by
    simp [writeBody, Piece.write]
  rw [written, spaced]
  simp [opener]

theorem SeparatePage.not_invokes (isPage : SeparatePage names library page) (isName : IsName name)
    (member : name ∈ names) (absent : ∀ arguments, .invocation name arguments ∉ page) :
    ¬ Invokes name (writeBody page) := by
  refine Text.Passes.not_infix (Text.Passes.flatMap fun piece pieceMember => ?_) (by simp [opener_eq])
  refine (isPage.sound piece pieceMember).passes isName member ?_
  rintro arguments rfl
  exact absent arguments pieceMember

theorem SeparatePage.nestsWithin_zero_iff (separate : Separate names library)
    (isPage : SeparatePage names library page) :
    NestsWithin library 0 page ↔ ∀ name ∈ library.keys, ¬ Invokes name (writeBody page) := by
  constructor
  · intro shallow name listed
    refine isPage.not_invokes (separate.isName name listed) (separate.known listed) ?_
    intro arguments member
    obtain ⟨body, found⟩ := Dictionary.exists_of_mem_keys listed
    rw [shallow name arguments member] at found
    cases found
  · intro silent name arguments member
    cases found : library.get? name with
    | none => rfl
    | some body =>
        exact absurd (invokes_writeBody member) (silent name (Dictionary.mem_keys_of_get? found))

theorem SeparatePage.unfold (separate : Separate names library)
    (isPage : SeparatePage names library page) :
    SeparatePage names library (Component.unfold library depth page) := by
  induction depth generalizing page with
  | zero => exact isPage
  | succ depth ih =>
      refine SeparatePage.flatMap fun piece member => ?_
      cases piece with
      | chunk text => exact isPage.singleton member
      | placeholder index => exact isPage.singleton member
      | invocation name arguments =>
          rw [Piece.unfold]
          cases found : library.get? name with
          | none => exact isPage.singleton member
          | some body => exact ih (isPage.instantiate separate member found)

/-- Before a component is put in the place of its invocations, a page is one level deeper at most. -/
theorem NestsWithin.of_inline (found : library.get? name = some body)
    (nests : NestsWithin library depth (page.flatMap (Piece.inline name body))) :
    NestsWithin library (depth + 1) page := by
  rw [nestsWithin_iff] at nests ⊢
  intro other arguments member
  by_cases same : other = name
  · subst same
    intro target listed
    obtain rfl := Option.some.inj (found.symm.trans listed)
    refine (@nestsWithin_instantiate _ _ _ arguments).1 (nestsWithin_iff.2 fun inner others within => ?_)
    refine nests inner others (List.mem_flatMap.2 ⟨_, member, ?_⟩)
    rwa [Piece.inline, if_pos rfl]
  · refine (nests other arguments (List.mem_flatMap.2 ⟨_, member, ?_⟩)).succ
    rw [Piece.inline, if_neg same]
    exact List.mem_singleton_self _

variable {components : List (Text × Body)}
  (known : ∀ component ∈ components, library.get? component.1 = some component.2)
include known

theorem NestsWithin.of_inlineEach
    (nests : NestsWithin library depth (inlineEach components page)) :
    NestsWithin library (depth + components.length) page := by
  induction components generalizing page with
  | nil => exact nests
  | cons component components ih =>
      have later := ih (fun other member => known other (List.mem_cons_of_mem _ member)) nests
      exact later.of_inline (known component List.mem_cons_self)

/-- A page is nested to some depth if the passes end with a text that invokes nothing. -/
theorem exists_nestsWithin (separate : Separate names library)
    (isPage : SeparatePage names library page) {passes : Nat}
    (expanded : expandPasses source
      (components.map fun component => (component.1, writeBody component.2)) passes
      (writeBody page) = .ok text)
    (silent : ∀ name ∈ library.keys, ¬ Invokes name text) :
    ∃ depth, NestsWithin library depth page := by
  induction passes generalizing page with
  | zero => cases expanded
  | succ passes ih =>
      obtain ⟨changed, pass, ⟨-, rfl⟩ | ⟨-, further⟩⟩ := expandPasses_succ_eq_ok_iff.1 expanded
      · exact ⟨0, (isPage.nestsWithin_zero_iff separate).2 silent⟩
      · rw [expandEach_writeBody known separate isPage, Except.ok.injEq] at pass
        subst pass
        obtain ⟨depth, nests⟩ := ih (isPage.inlineEach known separate) further
        exact ⟨_, nests.of_inlineEach known⟩

omit known in
/-- The expansion of a page finishes exactly if the page is nested to some depth, and then it gives
the page unfolded. -/
theorem finishes_iff (separate : Separate names library)
    (isPage : SeparatePage names library page) :
    Finishes (writeBody page) (library.map writeBody) source text ↔
      NestsWithin library library.entries.length page ∧
        text = writeBody (Component.unfold library library.entries.length page) := by
  rw [Finishes, Dictionary.keys_map]
  constructor
  · rintro ⟨expanded, silent⟩
    have passes := expanded
    rw [expandAll_eq] at passes
    obtain ⟨depth, nests⟩ := exists_nestsWithin get?_of_mem_mergeSort separate isPage passes silent
    refine ⟨nests.length, ?_⟩
    rw [expandAll_writeBody separate isPage nests.length] at expanded
    exact (Except.ok.inj expanded).symm
  · rintro ⟨nests, rfl⟩
    refine ⟨expandAll_writeBody separate isPage nests source, ?_⟩
    exact ((isPage.unfold separate).nestsWithin_zero_iff separate).1 (nestsWithin_unfold nests)

end Finished

section Unclosed

variable {name raw : Text} {source : Option Text} (unclosed : ¬ closing <:+: ' ' :: raw)
  (isName : IsName name)
include unclosed isName

theorem expandFrom_unclosed (body finished : Text) :
    ∃ fault, expandFrom name body source finished (opener name ++ raw) = .error fault := by
  rw [expandFrom_eq_opener isName.not_mem.2, Text.cut?_append]
  simp only [Text.cut?_eq_none_iff.2 unclosed]
  exact ⟨_, rfl⟩

omit unclosed in
theorem expandFrom_other {other : Text} (otherName : IsName other) (different : name ≠ other)
    (silent : ¬ Invokes other raw) (body finished : Text) :
    expandFrom other body source finished (opener name ++ raw) =
      .ok (finished ++ (opener name ++ raw)) := by
  have nowhere : Text.cut? (opener other) (opener name ++ raw) = none := by
    rw [Text.cut?_append_of_passes (passes_opener_other otherName isName different),
      Text.cut?_eq_none_iff.2 silent]
    rfl
  rw [expandFrom_eq_opener otherName.not_mem.2, nowhere]

/-- A pass fails on a page with an invocation behind it that is not closed. -/
theorem expandEach_unclosed {components : List (Text × Body)}
    (known : ∀ component ∈ components, library.get? component.1 = some component.2)
    (listed : name ∈ components.map Prod.fst) (separate : Separate names library)
    (isPage : SeparatePage names library page)
    (silent : ∀ other ∈ names, ¬ Invokes other raw) :
    ∃ fault, expandEach source
      (components.map fun component => (component.1, writeBody component.2))
      (writeBody page ++ (opener name ++ raw)) = .error fault := by
  induction components generalizing page with
  | nil => cases listed
  | cons component components ih =>
      have found := known component List.mem_cons_self
      have here := Dictionary.mem_keys_of_get? found
      have otherName := separate.isName _ here
      have goesOn := @expands_writeBody component.1 source names page component.2 otherName
        (separate.known here) (fun piece member => (separate.sound _ _ found piece member).1)
        isPage.sound isPage.settled
      rw [List.map_cons, expandEach, expand, goesOn]
      by_cases same : name = component.1
      · obtain ⟨fault, failed⟩ := @expandFrom_unclosed name raw source unclosed isName
          (writeBody component.2)
          ([] ++ writeBody (page.flatMap (Piece.inline component.1 component.2)))
        rw [← same] at failed ⊢
        rw [failed]
        exact ⟨fault, rfl⟩
      · rw [expandFrom_other isName otherName same (silent _ (separate.known here))]
        exact ih (fun other member => known other (List.mem_cons_of_mem _ member))
          ((List.mem_cons.1 listed).resolve_left same) (isPage.inline separate found)

theorem expandAll_unclosed (listed : name ∈ library.keys) (separate : Separate names library)
    (isPage : SeparatePage names library page) (silent : ∀ other ∈ names, ¬ Invokes other raw) :
    ∃ fault, expandAll (writeBody page ++ (opener name ++ raw)) (library.map writeBody) source =
      .error fault := by
  obtain ⟨body, found⟩ := Dictionary.exists_of_mem_keys listed
  obtain ⟨fault, failed⟩ := @expandEach_unclosed library names page name raw source unclosed isName
    _ get?_of_mem_mergeSort (mem_map_fst_mergeSort name body found) separate isPage silent
  rw [expandAll_eq, expandPasses, failed]
  exact ⟨fault, rfl⟩

end Unclosed

end Component

end StaticSite
