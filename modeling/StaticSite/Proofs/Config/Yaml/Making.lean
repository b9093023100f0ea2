import StaticSite.Config.Yaml.Read
import StaticSite.Proofs.Config.Yaml.Stepping

/-!
# Faults of the values of YAML

The nodes of a text are changed while values are made of them: a mapping gets the entries that it
takes over, and the key `=` becomes a text.  The texts of the scalars and the tags of the mappings
stay what they are.  So where a value cannot be made, this is seen at the nodes of the text: at a
scalar whose text is not that of a value of its tag, at a mapping with the tag of a scalar, or at
the number of mappings that take over others.
-/

namespace StaticSite

namespace Config

namespace Yaml

variable {α β : Type} {nodes : Array Node} {node : Node} {number fuel : Nat} {tag : Text}
  {maker : Maker} {step : Making α} {fault : Fault}

/-- A node may stand for one of a text. -/
def Stands (nodes : Array Node) (number : Nat) : Node → Prop
  | .scalar tag text =>
    (∃ written, nodes[number]? = some (.scalar written text) ∧
      (tag = written ∨ tag = standardTag "str")) ∨ nodes[number]? = none ∧ tag = []
  | .sequence tag items => nodes[number]? = some (.sequence tag items)
  | .mapping tag _ => ∃ entries, nodes[number]? = some (.mapping tag entries)

theorem Stands.tag_of_scalar {written text : Text} (stands : Stands nodes number node)
    (at_ : nodes[number]? = some (.scalar written text)) :
    node.tag = written ∨ node.tag = standardTag "str" := by
  cases node with
  | scalar tag text =>
      rcases stands with ⟨other, found, same⟩ | ⟨none, -⟩
      · cases at_.symm.trans found
        exact same
      · cases at_.symm.trans none
  | sequence tag items => cases at_.symm.trans stands
  | mapping tag entries =>
      obtain ⟨entries, found⟩ := stands
      cases at_.symm.trans found

theorem Stands.tag_of_mapping {entries : List (Nat × Nat)} (stands : Stands nodes number node)
    (at_ : nodes[number]? = some (.mapping tag entries)) : node.tag = tag := by
  cases node with
  | scalar other text =>
      rcases stands with ⟨written, found, -⟩ | ⟨none, -⟩
      · cases at_.symm.trans found
      · cases at_.symm.trans none
  | sequence other items => cases at_.symm.trans stands
  | mapping other entries =>
      obtain ⟨entries, found⟩ := stands
      cases at_.symm.trans found
      rfl

theorem Stands.tag_of_none (stands : Stands nodes number node) (none : nodes[number]? = none) :
    node.tag = [] := by
  cases node with
  | scalar tag text =>
      rcases stands with ⟨written, found, -⟩ | ⟨-, empty⟩
      · cases none.symm.trans found
      · exact empty
  | sequence tag items => cases none.symm.trans stands
  | mapping tag entries =>
      obtain ⟨entries, found⟩ := stands
      cases none.symm.trans found

/-- What is known of the nodes of a text stands for them. -/
structure Sound (nodes : Array Node) (maker : Maker) : Prop where
  stands : ∀ number, Stands nodes number ((maker.nodes[number]?).getD (.scalar [] []))
  merges : maker.merges = mergeCount nodes

/-- There is a value among the nodes of a text that cannot be made. -/
inductive Breaks (nodes : Array Node) : Fault → Prop where
  /-- A scalar whose text is not that of a value of its tag. -/
  | scalar {number : Nat} {tag text : Text} {fault : Fault}
      (at_ : nodes[number]? = some (.scalar tag text))
      (failed : readScalar tag text = .error (.fault fault)) : Breaks nodes fault
  /-- A mapping with the tag of a scalar, whose text is found within it. -/
  | mapping {number : Nat} {tag text : Text} {entries : List (Nat × Nat)} {fault : Fault}
      (at_ : nodes[number]? = some (.mapping tag entries)) (isScalar : isScalarTag tag = true)
      (failed : readScalar tag text = .error (.fault fault)) : Breaks nodes fault
  /-- A mapping with the tag of a timestamp. -/
  | stamp {number : Nat} {entries : List (Nat × Nat)}
      (at_ : nodes[number]? = some (.mapping (standardTag "timestamp") entries)) :
      Breaks nodes (.kind "expected string or bytes-like object, got 'list'")
  /-- A mapping with the tag of a scalar, whose text is found too deeply within it. -/
  | deep {number : Nat} {tag : Text} {entries : List (Nat × Nat)}
      (at_ : nodes[number]? = some (.mapping tag entries)) (isScalar : isScalarTag tag = true) :
      Breaks nodes .depth
  /-- More mappings that take over others than may do so within one another. -/
  | merges (many : deepestMerge < mergeCount nodes) : Breaks nodes .depth

/-- A step keeps the nodes of a text, and fails only at a value among them. -/
def Keeps (nodes : Array Node) (step : Making α) : Prop :=
  Leads (Sound nodes) step (fun _ => Sound nodes) (Breaks nodes)

theorem Keeps.bind {next : α → Making β} (keeps : Keeps nodes step)
    (then_ : ∀ value, Keeps nodes (next value)) : Keeps nodes (step >>= next) :=
  Leads.bind keeps then_

theorem keeps_pure (value : α) : Keeps nodes (pure value) :=
  leads_pure value fun _ => id

theorem keeps_malformed : Keeps nodes (throw .malformed : Making α) :=
  leads_malformed

theorem keeps_get {next : Maker → Making β}
    (then_ : ∀ maker, Sound nodes maker → Keeps nodes (next maker)) : Keeps nodes (get >>= next) :=
  leads_get fun maker sound => (then_ maker sound).from_ fun _ same => same ▸ sound

theorem keeps_modify {change : Maker → Maker} (same : ∀ maker, (change maker).nodes = maker.nodes)
    (also : ∀ maker, (change maker).merges = maker.merges) : Keeps nodes (modify change) :=
  leads_modify fun maker sound =>
    ⟨fun number => same maker ▸ sound.stands number, (also maker).trans sound.merges⟩

theorem leads_nodeOf {next : Node → Making β} {last : β → Maker → Prop} {may : Fault → Prop}
    (then_ : ∀ node, Stands nodes number node → Leads (Sound nodes) (next node) last may) :
    Leads (Sound nodes) (nodeOf number >>= next) last may :=
  leads_get fun _ sound => (then_ _ (sound.stands number)).from_ fun _ same => same ▸ sound

theorem keeps_nodeOf {next : Node → Making β}
    (then_ : ∀ node, Stands nodes number node → Keeps nodes (next node)) :
    Keeps nodes (nodeOf number >>= next) :=
  leads_nodeOf then_

theorem keeps_setProduct (number : Nat) (product : Product) :
    Keeps nodes (setProduct number product) :=
  keeps_modify (fun _ => rfl) fun _ => rfl

/-! ## Taking over entries -/

/-- A node may be put in the place of another one that stands for the same. -/
theorem keeps_setNode (stands : Stands nodes number node) :
    Keeps nodes (modify fun maker => { maker with nodes := maker.nodes.set! number node }) := by
  refine leads_modify fun maker sound => ⟨fun other => ?_, sound.merges⟩
  have before := sound.stands other
  dsimp only
  rw [Array.set!_eq_setIfInBounds, Array.getElem?_setIfInBounds]
  split
  · next same =>
      subst same
      split
      · exact stands
      · next outside =>
          rw [Array.getElem?_eq_none (Nat.le_of_not_lt outside)] at before
          exact before
  · exact before

theorem keeps_isMerge (number : Nat) : Keeps nodes (isMerge number) :=
  keeps_nodeOf fun _ _ => keeps_pure _

theorem keeps_textForValue (number : Nat) : Keeps nodes (textForValue number) := by
  unfold textForValue
  refine keeps_nodeOf fun node stands => ?_
  split
  · split
    · next value =>
        refine keeps_setNode ?_
        rcases stands with ⟨written, at_, -⟩ | ⟨-, empty⟩
        · exact Or.inl ⟨written, at_, Or.inr rfl⟩
        · exact absurd (value.symm.trans empty) (by decide)
    · exact keeps_pure _
  · exact keeps_pure _

theorem keeps_passPlain (entries : List (Nat × Nat)) : Keeps nodes (passPlain entries) := by
  induction entries with
  | nil => exact keeps_pure _
  | cons entry entries ih =>
      rw [passPlain]
      refine (keeps_isMerge _).bind fun merges => ?_
      split
      · exact keeps_pure _
      · exact (keeps_textForValue _).bind fun _ => ih.bind fun _ => keeps_pure _

/-- There is a mapping of a text at a number. -/
def IsMapping (nodes : Array Node) (number : Nat) : Prop :=
  ∃ tag entries, nodes[number]? = some (.mapping tag entries)

theorem leads_entriesOf (number : Nat) :
    Leads (Sound nodes) (entriesOf number) (fun _ maker => Sound nodes maker ∧ IsMapping nodes number)
      (Breaks nodes) := by
  unfold entriesOf
  refine leads_nodeOf fun node stands => ?_
  split
  · next tag entries =>
      obtain ⟨written, at_⟩ := stands
      exact leads_pure _ fun maker sound => ⟨sound, tag, written, at_⟩
  · exact leads_malformed

theorem keeps_entriesOf (number : Nat) : Keeps nodes (entriesOf number) :=
  (leads_entriesOf number).to fun _ _ => And.left

theorem keeps_setEntries (isMapping : IsMapping nodes number) (entries : List (Nat × Nat)) :
    Keeps nodes (setEntries number entries) := by
  obtain ⟨tag, written, at_⟩ := isMapping
  unfold setEntries
  refine keeps_nodeOf fun node stands => keeps_setNode ?_
  exact ⟨written, stands.tag_of_mapping at_ ▸ at_⟩

/-- The entries that one mapping takes over from another one. -/
theorem keeps_within {merges depth : Nat}
    (flattens : ∀ number, Keeps nodes (flattenFrom merges depth number 0 [])) (item : Nat) :
    Keeps nodes (nodeOf item >>= fun node => match node with
      | .mapping _ _ => do
        flattenFrom merges depth item 0 []
        entriesOf item
      | _ => throw .malformed) := by
  refine keeps_nodeOf fun node _ => ?_
  split
  · exact (flattens item).bind fun _ => keeps_entriesOf item
  · exact keeps_malformed

theorem keeps_flattenFrom (merges : Nat) :
    ∀ (depth number index : Nat) (taken : List (Nat × Nat)),
      depth + merges ≤ mergeCount nodes + 1 →
        Keeps nodes (flattenFrom merges depth number index taken) := by
  induction merges with
  | zero => exact fun _ _ _ _ _ => keeps_malformed
  | succ merges ih =>
      intro depth number index taken fewer
      rw [flattenFrom]
      split
      · next far => exact leads_fault_bind fun _ _ => .merges (by omega)
      · refine (leads_entriesOf number).bind fun entries => leads_of_known fun isMapping => ?_
        dsimp only
        refine Keeps.bind (keeps_passPlain _) fun passed => ?_
        split
        · exact keeps_setEntries isMapping _
        · have within := keeps_within fun number => ih (depth + 1) number 0 [] (by omega)
          have again (more : List (Nat × Nat)) :=
            ih depth number (index + passed) (taken ++ more) (by omega)
          refine (keeps_setEntries isMapping _).bind fun _ => keeps_nodeOf fun node _ => ?_
          split
          · refine Keeps.bind (leads_foldlM _ (fun found item => ?_) _) again
            exact (within item).bind fun more => keeps_pure _
          · exact (within _).bind again

theorem keeps_flatEntries (number : Nat) : Keeps nodes (flatEntries number) := by
  refine keeps_get fun maker sound => (keeps_flattenFrom _ _ _ _ _ ?_).bind fun _ =>
    keeps_entriesOf number
  rw [sound.merges]
  omega

/-! ## The texts of scalars -/

theorem leads_scalarText (fuel number : Nat) :
    Leads (Sound nodes) (scalarText fuel number) (fun _ => Sound nodes) (· = .depth) := by
  induction fuel generalizing number with
  | zero => exact leads_fault fun _ _ => rfl
  | succ fuel ih =>
      rw [scalarText]
      refine leads_nodeOf fun node _ => ?_
      split
      · exact leads_pure _ fun _ => id
      · exact leads_malformed
      · refine (leads_findM _ fun entry => ?_).bind fun found => ?_
        · exact leads_nodeOf fun node _ => leads_pure _ fun _ => id
        · split
          · exact ih _
          · exact leads_malformed

/-- A text is that of a node: of a scalar its own, and of a mapping one that is found within it. -/
def GivesText (nodes : Array Node) (number : Nat) (tag text : Text) : Prop :=
  tag = standardTag "str" ∨ nodes[number]? = some (.scalar tag text) ∨
    ∃ entries, nodes[number]? = some (.mapping tag entries)

theorem leads_textOf (fuel : Nat) (stands : Stands nodes number node)
    (isScalar : isScalarTag node.tag = true) :
    Leads (Sound nodes) (scalarText (fuel + 1) number)
      (fun text maker => Sound nodes maker ∧ GivesText nodes number node.tag text)
      (Breaks nodes) := by
  rw [scalarText]
  refine leads_nodeOf fun other also => ?_
  split
  · next written text =>
      refine leads_pure _ fun maker sound => ⟨sound, ?_⟩
      rcases also with ⟨written, at_, -⟩ | ⟨none, -⟩
      · rcases stands.tag_of_scalar at_ with same | plain
        · exact Or.inr (Or.inl (same ▸ at_))
        · exact Or.inl plain
      · rw [stands.tag_of_none none] at isScalar
        exact absurd isScalar (by decide)
  · exact leads_malformed
  · next tag entries =>
      obtain ⟨written, at_⟩ := also
      have same := stands.tag_of_mapping at_
      have gives (text : Text) : GivesText nodes number node.tag text :=
        Or.inr (Or.inr ⟨written, same ▸ at_⟩)
      have found := @leads_findM _ _ (Breaks nodes) (Sound nodes) entries
        (fun entry => do return (← nodeOf entry.1).tag = standardTag "value") fun entry =>
          keeps_nodeOf fun _ _ => keeps_pure _
      refine Leads.bind found fun entry => ?_
      split
      · refine (leads_scalarText fuel _).mono (fun _ => id) (fun text maker sound =>
          ⟨sound, gives text⟩) ?_
        rintro fault rfl
        exact .deep at_ (same ▸ isScalar)
      · exact leads_malformed

theorem readScalar_str (text : Text) : readScalar (standardTag "str") text = .ok (.text text) :=
  if_pos rfl

theorem breaks_of_readScalar {text : Text} (gives : GivesText nodes number tag text)
    (isScalar : isScalarTag tag = true) (failed : readScalar tag text = .error (.fault fault)) :
    Breaks nodes fault := by
  rcases gives with rfl | at_ | ⟨entries, at_⟩
  · rw [readScalar_str] at failed
    cases failed
  · exact .scalar at_ failed
  · exact .mapping at_ isScalar failed

theorem keeps_makeScalar (stands : Stands nodes number node) :
    Keeps nodes (makeScalar node.tag number) := by
  unfold makeScalar
  dsimp only
  split
  · next isScalar =>
      refine keeps_get fun maker _ => (leads_textOf _ stands isScalar).bind fun text =>
        leads_of_known fun gives => ?_
      have ends (key : Value → Key) : Keeps nodes
          (liftM (readScalar node.tag text) >>= fun value => pure (key value)) :=
        Keeps.bind (leads_reading (fun _ _ _ => id) fun fault failed _ _ =>
          breaks_of_readScalar gives isScalar failed) fun _ => keeps_pure _
      split
      · next stamp =>
          refine keeps_nodeOf fun other also => ?_
          split
          · obtain ⟨entries, at_⟩ := also
            rw [← stands.tag_of_mapping at_, stamp] at at_
            exact leads_fault_bind fun _ _ => .stamp at_
          · exact ends _
      · exact ends _
  · exact leads_malformed_bind

/-! ## Making values -/

theorem keeps_make (number : Nat) : Keeps nodes (make number) := by
  unfold make
  refine keeps_get fun maker _ => ?_
  split
  · exact keeps_pure _
  · refine keeps_nodeOf fun node stands => ?_
    dsimp only
    split
    · refine Keeps.bind (keeps_modify ?_ ?_) fun _ => (keeps_pure _).bind fun product =>
        (keeps_setProduct number product).bind fun _ => keeps_pure _
      · exact fun _ => rfl
      · exact fun _ => rfl
    · exact (keeps_makeScalar stands).bind fun key => (keeps_pure _).bind fun product =>
        (keeps_setProduct number product).bind fun _ => keeps_pure _

theorem keeps_makeEntries (number : Nat) : Keeps nodes (makeEntries number) := by
  unfold makeEntries
  refine (keeps_flatEntries number).bind fun entries => leads_foldlM _ (fun made entry => ?_) _
  refine (keeps_make entry.1).bind fun product => ?_
  split
  · exact (keeps_make entry.2).bind fun _ => keeps_pure _
  · exact keeps_malformed

theorem keeps_makePair (number : Nat) : Keeps nodes (makePair number) := by
  unfold makePair
  refine (keeps_entriesOf number).bind fun entries => ?_
  split
  · exact (keeps_make _).bind fun _ => (keeps_make _).bind fun _ => keeps_pure _
  · exact keeps_malformed

theorem keeps_items (node : Node) :
    Keeps nodes (match node with
      | .sequence _ items => pure items
      | _ => throw .malformed : Making (List Nat)) := by
  split
  · exact keeps_pure _
  · exact keeps_malformed

theorem keeps_fillCollection (number : Nat) : Keeps nodes (fillCollection number) := by
  unfold fillCollection
  refine keeps_nodeOf fun node _ => ?_
  refine (keeps_make number).bind fun product => ?_
  split
  · exact keeps_pure _
  · refine (keeps_items node).bind fun items => Keeps.bind (leads_forM _ fun item => ?_) fun _ =>
      keeps_setProduct _ _
    exact (keeps_make item).bind fun _ => keeps_pure _
  · exact (keeps_makeEntries number).bind fun entries => keeps_setProduct _ _
  · exact (keeps_makeEntries number).bind fun entries => keeps_setProduct _ _
  · exact (keeps_items node).bind fun items => Keeps.bind (leads_mapM _ fun item => keeps_makePair item)
      fun pairs => keeps_setProduct _ _

theorem keeps_fillAll (fuel : Nat) : Keeps nodes (fillAll fuel) := by
  induction fuel with
  | zero => exact keeps_pure _
  | succ fuel ih =>
      rw [fillAll]
      refine keeps_get fun maker _ => ?_
      split
      · exact keeps_pure _
      · refine Keeps.bind (keeps_modify ?_ ?_) fun _ =>
          Keeps.bind (leads_forM _ fun number => keeps_fillCollection number) fun _ => ih
        · exact fun _ => rfl
        · exact fun _ => rfl

end Yaml

end Config

end StaticSite
