import Mathlib.Data.List.Permutation
import Mathlib.Logic.Relation
import StaticSite.Proofs.Component.Lineage
import StaticSite.Proofs.Dictionary
import StaticSite.Proofs.Fault

/-!
# Components that recur

Every pass that replaces an invocation carries on a lineage that is longer than those of the
passes before.  A lineage that is longer than there are components names one of them twice: an
invocation of it begins in what came in for an invocation of it.  So without such a recurrence
the passes end, and they end with a text that invokes no component.
-/

namespace StaticSite

namespace Component

/-- One pass over a traced text. -/
inductive Pass : List (Text × Text) → Traced → Traced → List Lineage → Prop
  | none {traced : Traced} : Pass [] traced traced []
  | next {name body : Text} {components : List (Text × Text)} {traced middle later : Traced}
      {log more : List Lineage} (scan : Scan name body traced middle log)
      (rest : Pass components middle later more) :
      Pass ((name, body) :: components) traced later (log ++ more)

/-- A number of passes, one after the other. -/
inductive Passes (components : List (Text × Text)) : Nat → Traced → Traced → List Lineage → Prop
  | none {traced : Traced} : Passes components 0 traced traced []
  | next {passes : Nat} {traced middle later : Traced} {log more : List Lineage}
      (earlier : Passes components passes traced middle log)
      (pass : Pass components middle later more) :
      Passes components (passes + 1) traced later (log ++ more)

/-- Whether some passes over a content meet an invocation of a component that begins in what
came in, directly or through others, for an invocation of the same component. -/
def Recurs (components : Dictionary Text) (content : Text) : Prop :=
  ∃ passes later log, Passes (inOrder components) passes (Traced.put [] content) later log ∧
    ∃ lineage ∈ log, ¬ lineage.Nodup

/-- Whether the body of a component invokes a component. -/
def Refers (components : Dictionary Text) (caller callee : Text) : Prop :=
  ∃ body, components.get? caller = some body ∧ callee ∈ components.keys ∧ Invokes callee body

/-- Whether some passes over a content meet an invocation that begins in what came in for a
component whose body does not have it: an argument brought it, or pieces of it came together. -/
def Strays (components : Dictionary Text) (content : Text) : Prop :=
  ∃ passes later log, Passes (inOrder components) passes (Traced.put [] content) later log ∧
    ∃ lineage ∈ log, ¬ lineage.IsChain fun callee caller => Refers components caller callee

variable {name text content : Text} {source : Option Text} {components : List (Text × Text)}
  {traced later : Traced} {log : List Lineage} {lineage : Lineage} {depth passes : Nat}
  {names : List Text}

section OnePass

theorem exists_pass (braceless : ∀ component ∈ components, '{' ∉ component.1)
    (expanded : expandEach source components (Traced.text traced) = .ok text) :
    ∃ later log, Pass components traced later log ∧ Traced.text later = text := by
  induction components generalizing traced with
  | nil =>
      cases expanded
      exact ⟨traced, [], .none, rfl⟩
  | cons component components ih =>
      obtain ⟨name, body⟩ := component
      obtain ⟨changed, first, second⟩ := bind_eq_ok_iff.1 expanded
      obtain ⟨middle, log, scan, rfl⟩ := exists_scan (braceless _ List.mem_cons_self) first
      obtain ⟨later, more, rest, same⟩ :=
        ih (fun other member => braceless other (List.mem_cons_of_mem _ member)) second
      exact ⟨later, log ++ more, .next scan rest, same⟩

/-- A traced pass gives the text of the pass. -/
theorem Pass.expandEach_eq (braceless : ∀ component ∈ components, '{' ∉ component.1)
    (pass : Pass components traced later log) (source : Option Text) :
    expandEach source components (Traced.text traced) = .ok (Traced.text later) := by
  induction pass with
  | none => rfl
  | next scan rest ih =>
      have first := scan.expandFrom_eq (braceless _ List.mem_cons_self) source []
      have second := ih fun other member => braceless other (List.mem_cons_of_mem _ member)
      rw [expandEach, expand, first]
      exact second

/-- A pass that carries on no lineage finds no invocation. -/
theorem Pass.eq_of_silent (pass : Pass components traced later []) :
    later = traced ∧ ∀ component ∈ components, ¬ Invokes component.1 (Traced.text traced) := by
  generalize silent : ([] : List Lineage) = log at pass
  induction pass with
  | none => exact ⟨rfl, by simp⟩
  | next scan rest ih =>
      obtain ⟨rfl, rfl⟩ := List.append_eq_nil_iff.1 silent.symm
      cases scan with
      | finished absent =>
          obtain ⟨same, others⟩ := ih rfl
          refine ⟨same, fun component member => ?_⟩
          rcases List.mem_cons.1 member with rfl | further
          · exact absent
          · exact others component further

theorem pass_of_not_invokes
    (absent : ∀ component ∈ components, ¬ Invokes component.1 (Traced.text traced)) :
    Pass components traced traced [] := by
  induction components with
  | nil => exact .none
  | cons component components ih =>
      have here : Scan component.1 component.2 traced traced [] :=
        .finished (absent component List.mem_cons_self)
      exact .next here (ih fun other member => absent other (List.mem_cons_of_mem _ member))

/-- A pass makes the invocations of its components deeper. -/
theorem Pass.deep (pass : Pass components traced later log)
    (own : ∀ component ∈ components, Deep depth component.1 traced)
    (known : name ∈ components.map Prod.fst ∨ Deep (depth + 1) name traced) :
    Deep (depth + 1) name later := by
  induction pass with
  | none => exact known.resolve_left (by simp)
  | @next first body components traced middle later log more scan rest ih =>
      have here := own _ List.mem_cons_self
      apply ih
      · intro component member
        exact scan.deep here (Nat.le_succ depth)
          (Or.inr (own component (List.mem_cons_of_mem _ member)))
      · rcases known with listed | deep
        · rcases List.mem_cons.1 listed with rfl | further
          · exact Or.inr (scan.deep here le_rfl (Or.inl rfl))
          · exact Or.inl further
        · exact Or.inr (scan.deep here le_rfl (Or.inr deep))

theorem Pass.lt_length (pass : Pass components traced later log)
    (own : ∀ component ∈ components, Deep depth component.1 traced) (member : lineage ∈ log) :
    depth + 1 ≤ lineage.length := by
  induction pass with
  | none => cases member
  | next scan rest ih =>
      have here := own _ List.mem_cons_self
      rcases List.mem_append.1 member with early | late
      · exact scan.lt_length here early
      · exact ih (fun component inside => scan.deep here (Nat.le_succ depth)
          (Or.inr (own component (List.mem_cons_of_mem _ inside)))) late

theorem Pass.tracedTo (pass : Pass components traced later log)
    (known : components.map Prod.fst ⊆ names) (tracedTo : TracedTo names traced) :
    TracedTo names later ∧ ∀ lineage ∈ log, lineage ⊆ names := by
  induction pass with
  | none => exact ⟨tracedTo, by simp⟩
  | next scan rest ih =>
      obtain ⟨here, others⟩ := List.cons_subset.1 known
      obtain ⟨first, logged⟩ := scan.tracedTo here tracedTo
      obtain ⟨second, further⟩ := ih others first
      refine ⟨second, fun lineage member => ?_⟩
      exact (List.mem_append.1 member).elim (logged lineage) (further lineage)

end OnePass

section Runs

theorem Passes.deep (run : Passes components passes (Traced.put [] content) later log) :
    ∀ component ∈ components, Deep passes component.1 later := by
  generalize Traced.put [] content = traced at run
  induction run with
  | none =>
      intro component member front marked back whole begins
      obtain ⟨lineage, listed⟩ := List.exists_mem_of_ne_nil _ (seams_ne_nil begins)
      exact ⟨lineage, listed, Nat.zero_le _⟩
  | next earlier pass ih =>
      exact fun component member => pass.deep ih (Or.inl (List.mem_map_of_mem member))

theorem Passes.tracedTo (run : Passes components passes (Traced.put [] content) later log) :
    TracedTo (components.map Prod.fst) later := by
  generalize start : Traced.put [] content = traced at run
  induction run with
  | none => exact start ▸ tracedTo_put (List.nil_subset _)
  | next earlier pass ih => exact (pass.tracedTo (List.Subset.refl _) (ih start)).1

/-- Whether a number of passes one after the other succeed and each does something. -/
def Lasts (does : Text → Text → Prop) (source : Option Text) (components : List (Text × Text)) :
    (passes : Nat) → Text → Prop
  | 0, _ => True
  | passes + 1, text => ∃ changed, expandEach source components text = .ok changed ∧
      does text changed ∧ Lasts does source components passes changed

/-- Whether a text is changed or invokes a component. -/
def Works (components : List (Text × Text)) (text changed : Text) : Prop :=
  changed ≠ text ∨ ∃ component ∈ components, Invokes component.1 text

theorem Lasts.mono {does also : Text → Text → Prop}
    (lasts : Lasts does source components passes text)
    (implies : ∀ text changed, does text changed → also text changed) :
    Lasts also source components passes text := by
  induction passes generalizing text with
  | zero => trivial
  | succ passes ih =>
      obtain ⟨changed, expanded, done, further⟩ := lasts
      exact ⟨changed, expanded, implies _ _ done, ih further⟩

/-- Passes that all work have a last one, which carries on a lineage. -/
theorem exists_last_pass (braceless : ∀ component ∈ components, '{' ∉ component.1)
    {earlier : Nat} (run : Passes components earlier (Traced.put [] content) traced log)
    (lasts : Lasts (Works components) source components (passes + 1) (Traced.text traced)) :
    ∃ middle later log more,
      Passes components (earlier + passes) (Traced.put [] content) middle log ∧
      Pass components middle later more ∧ more ≠ [] := by
  induction passes generalizing earlier traced log with
  | zero =>
      obtain ⟨changed, expanded, works, -⟩ := lasts
      obtain ⟨later, more, pass, rfl⟩ := exists_pass braceless expanded
      refine ⟨traced, later, log, more, run, pass, ?_⟩
      rintro rfl
      obtain ⟨rfl, absent⟩ := pass.eq_of_silent
      rcases works with changes | ⟨component, member, invokes⟩
      · exact changes rfl
      · exact absent component member invokes
  | succ passes ih =>
      obtain ⟨changed, expanded, -, further⟩ := lasts
      obtain ⟨middle, more, pass, rfl⟩ := exists_pass braceless expanded
      have longer := ih (run.next pass) further
      rwa [Nat.add_right_comm] at longer

end Runs

section Limits

variable {library : Dictionary Text}

theorem map_fst_inOrder : (inOrder library).map Prod.fst ⊆ library.keys := by
  intro name member
  obtain ⟨component, listed, rfl⟩ := List.mem_map.1 member
  exact List.mem_map_of_mem (List.mem_mergeSort.1 listed)

theorem keys_subset_inOrder : library.keys ⊆ (inOrder library).map Prod.fst := by
  intro name member
  obtain ⟨component, listed, rfl⟩ := List.mem_map.1 member
  exact List.mem_map_of_mem (List.mem_mergeSort.2 listed)

/-- More working passes than there are components come back to one of them. -/
theorem recurs_of_lasts (braceless : ∀ name ∈ library.keys, '{' ∉ name)
    (lasts : Lasts (Works (inOrder library)) source (inOrder library)
      (library.entries.length + 1) content) : Recurs library content := by
  have plain : ∀ component ∈ inOrder library, '{' ∉ component.1 := fun component member =>
    braceless _ (map_fst_inOrder (List.mem_map_of_mem member))
  have start : Lasts (Works (inOrder library)) source (inOrder library)
      (library.entries.length + 1) (Traced.text (Traced.put [] content)) := by
    rwa [Traced.text_put]
  obtain ⟨middle, later, log, more, run, pass, working⟩ := exists_last_pass plain .none start
  -- What the last pass carries on is longer than there are names to make it of.
  obtain ⟨lineage, member⟩ := List.exists_mem_of_ne_nil more working
  refine ⟨_, later, log ++ more, run.next pass, lineage, List.mem_append_right _ member, ?_⟩
  intro distinct
  have long := pass.lt_length run.deep member
  have known := List.Subset.trans
    ((pass.tracedTo (List.Subset.refl _) run.tracedTo).2 lineage member) map_fst_inOrder
  have short := (List.subperm_of_subset distinct known).length_le
  rw [Dictionary.keys, List.length_map] at short
  omega

theorem error_of_expandFrom {body finished rest : Text} {fault : Fault}
    (failed : expandFrom name body source finished rest = .error fault) :
    ∃ place, fault = .component (.unclosed name) place := by
  induction length : rest.length using Nat.strong_induction_on generalizing finished rest with
  | _ size ih =>
      rw [expandFrom_eq] at failed
      split at failed
      · cases failed
      · next before following found =>
          have shorter := Text.length_of_cut? found
          rw [opening_append, List.length_cons] at shorter
          split at failed
          · split at failed
            · cases failed
              exact ⟨_, rfl⟩
            · next closed =>
                have less := Text.length_of_cut? closed
                exact ih _ (by omega) failed rfl
          · exact ih _ (by omega) failed rfl

theorem error_of_expandEach {fault : Fault}
    (failed : expandEach source components text = .error fault) :
    ∃ name place, fault = .component (.unclosed name) place := by
  induction components generalizing text with
  | nil => cases failed
  | cons component components ih =>
      obtain ⟨name, body⟩ := component
      rcases bind_eq_error_iff.1 failed with first | ⟨changed, -, rest⟩
      · exact ⟨name, error_of_expandFrom first⟩
      · exact ih rest

/-- The passes give up exactly if each of those that are allowed changes the text. -/
theorem expandPasses_cyclic_iff :
    expandPasses source components passes text =
        .error (.component .cyclic ⟨source, none, none⟩) ↔
      Lasts (fun text changed => changed ≠ text) source components passes text := by
  induction passes generalizing text with
  | zero => exact iff_of_true rfl trivial
  | succ passes ih =>
      have other : expandEach source components text ≠
          .error (.component .cyclic ⟨source, none, none⟩) := by
        intro failed
        obtain ⟨name, place, same⟩ := error_of_expandEach failed
        cases same
      rw [expandPasses, Lasts, bind_eq_error_iff, or_iff_right other]
      refine exists_congr fun changed => and_congr_right fun _ => ?_
      by_cases same : changed = text
      · simp [same, pure, Except.pure]
      · simp [same, ih]

/-- A text that the passes end with is one that a pass does not change. -/
theorem expandEach_of_expandPasses
    (expanded : expandPasses source components passes content = .ok text) :
    expandEach source components text = .ok text := by
  induction passes generalizing content with
  | zero => cases expanded
  | succ passes ih =>
      obtain ⟨changed, pass, ⟨rfl, rfl⟩ | ⟨-, further⟩⟩ := expandPasses_succ_eq_ok_iff.1 expanded
      · exact pass
      · exact ih further

/-- Passes that leave an invocation go on for ever. -/
theorem lasts_of_invokes {component : Text × Text}
    (fixed : expandEach source components text = .ok text) (member : component ∈ components)
    (invokes : Invokes component.1 text) :
    Lasts (Works components) source components passes text := by
  induction passes with
  | zero => trivial
  | succ passes ih => exact ⟨text, fixed, Or.inr ⟨component, member, invokes⟩, ih⟩

theorem lasts_of_expandPasses {component : Text × Text} {allowed : Nat}
    (expanded : expandPasses source components allowed content = .ok text)
    (member : component ∈ components) (invokes : Invokes component.1 text) :
    Lasts (Works components) source components passes content := by
  induction allowed generalizing content passes with
  | zero => cases expanded
  | succ allowed ih =>
      cases passes with
      | zero => trivial
      | succ passes =>
          obtain ⟨changed, pass, ⟨-, rfl⟩ | ⟨differs, further⟩⟩ :=
            expandPasses_succ_eq_ok_iff.1 expanded
          · exact lasts_of_invokes (expandEach_of_expandPasses expanded) member invokes
          · exact ⟨changed, pass, Or.inl differs, ih further⟩

end Limits

section Results

variable {library : Dictionary Text}

/-- Without a cycle among the bodies only a stray invocation comes back to a component. -/
theorem Recurs.strays (acyclic : ∀ name, ¬ Relation.TransGen (Refers library) name name)
    (recurs : Recurs library content) : Strays library content := by
  obtain ⟨passes, later, log, run, lineage, member, repeated⟩ := recurs
  refine ⟨passes, later, log, run, lineage, member, fun chain => repeated ?_⟩
  have linked : lineage.IsChain (Function.swap (Relation.TransGen (Refers library))) :=
    chain.imp fun _ _ refers => .single refers
  have ordered : lineage.Pairwise (Function.swap (Relation.TransGen (Refers library))) :=
    linked.pairwise
  exact ordered.imp fun leads => fun same => acyclic _ (same ▸ leads)

/-- What the passes return is what the last of them found.  It invokes no component exactly if
that pass has nothing to replace, and an invocation that is left comes back to a component. -/
theorem expandAll_invokes_nothing_iff (content : Text) (components : Dictionary Text)
    (source : Option Text) (text : Text) (braceless : ∀ name ∈ components.keys, '{' ∉ name)
    (expanded : expandAll content components source = .ok text) :
    ((∀ name ∈ components.keys, ¬ Invokes name text) ↔
        Pass (inOrder components) (Traced.put [] text) (Traced.put [] text) []) ∧
      ((∃ name ∈ components.keys, Invokes name text) → Recurs components content) := by
  refine ⟨⟨fun absent => ?_, fun pass name listed => ?_⟩, ?_⟩
  · apply pass_of_not_invokes
    intro component member
    rw [Traced.text_put]
    exact absent _ (map_fst_inOrder (List.mem_map_of_mem member))
  · obtain ⟨component, member, rfl⟩ := List.mem_map.1 (keys_subset_inOrder listed)
    have absent := pass.eq_of_silent.2 component member
    rwa [Traced.text_put] at absent
  · rintro ⟨name, listed, invokes⟩
    obtain ⟨component, member, rfl⟩ := List.mem_map.1 (keys_subset_inOrder listed)
    exact recurs_of_lasts braceless (lasts_of_expandPasses expanded member invokes)

section Example

/-- An invocation of a component, and nothing else. -/
def loopPage : Text := "\x7b\x7b loop \x7d\x7d".toList

/-- A component whose body invokes it. -/
def loopLibrary : Dictionary Text := Dictionary.ofList [("loop".toList, loopPage)]

theorem expandAll_invokes_nothing_iff_loopPage :
    (∀ name ∈ loopLibrary.keys, '{' ∉ name) ∧ expandAll loopPage loopLibrary none = .ok loopPage ∧
      ((∀ name ∈ loopLibrary.keys, ¬ Invokes name loopPage) ↔
        Pass (inOrder loopLibrary) (Traced.put [] loopPage) (Traced.put [] loopPage) []) ∧
      ((∃ name ∈ loopLibrary.keys, Invokes name loopPage) → Recurs loopLibrary loopPage) :=
  have braceless : ∀ name ∈ loopLibrary.keys, '{' ∉ name := by decide
  have expanded : expandAll loopPage loopLibrary none = .ok loopPage := by cbv
  ⟨braceless, expanded, expandAll_invokes_nothing_iff _ _ _ _ braceless expanded⟩

/-- The first pass ends with the text that it began with. -/
theorem expandAll_loopPage :
    expandAll loopPage loopLibrary none = .ok loopPage ∧
      ∃ name ∈ loopLibrary.keys, Invokes name loopPage :=
  ⟨by cbv, "loop".toList, by decide, by decide⟩

end Example

/-- Where the bodies have no cycle, the passes give up exactly if each of them changes the
text, and then an invocation is met that no body has. -/
theorem expandAll_cyclic_iff (content : Text) (components : Dictionary Text)
    (source : Option Text) (braceless : ∀ name ∈ components.keys, '{' ∉ name)
    (acyclic : ∀ name, ¬ Relation.TransGen (Refers components) name name) :
    (expandAll content components source = .error (.component .cyclic ⟨source, none, none⟩) ↔
        Lasts (fun text changed => changed ≠ text) source (inOrder components)
          (components.entries.length + 1) content) ∧
      (expandAll content components source = .error (.component .cyclic ⟨source, none, none⟩) →
        Strays components content) := by
  refine ⟨expandPasses_cyclic_iff, fun failed => ?_⟩
  have changing := expandPasses_cyclic_iff.1 failed
  have working : Lasts (Works (inOrder components)) source (inOrder components)
      (components.entries.length + 1) content := changing.mono fun _ _ differs => Or.inl differs
  exact (recurs_of_lasts braceless working).strays acyclic

section Example

/-- A component that shows its argument. -/
def boxLibrary : Dictionary Text := Dictionary.ofList [("a".toList, "\x7b\x7b $1 \x7d\x7d".toList)]

/-- A box in a box. -/
def boxPage : Text := "\x7b\x7b a \"\x7b\x7b a \"x\" \x7d\x7d\" \x7d\x7d".toList

theorem not_refers_boxLibrary (caller callee : Text) : ¬ Refers boxLibrary caller callee := by
  rintro ⟨body, found, listed, invokes⟩
  have entry := List.mem_singleton.1 (Dictionary.get?_eq_some_iff.1 found)
  obtain ⟨-, rfl⟩ := Prod.mk.inj entry
  rw [List.mem_singleton.1 listed] at invokes
  exact absurd invokes (by decide)

theorem acyclic_boxLibrary (name : Text) : ¬ Relation.TransGen (Refers boxLibrary) name name := by
  intro cycle
  obtain ⟨next, first, -⟩ := Relation.TransGen.head'_iff.1 cycle
  exact not_refers_boxLibrary name next first

theorem expandAll_cyclic_iff_boxPage :
    (∀ name ∈ boxLibrary.keys, '{' ∉ name) ∧
      (∀ name, ¬ Relation.TransGen (Refers boxLibrary) name name) ∧
      (expandAll boxPage boxLibrary none = .error (.component .cyclic ⟨none, none, none⟩) ↔
        Lasts (fun text changed => changed ≠ text) none (inOrder boxLibrary)
          (boxLibrary.entries.length + 1) boxPage) ∧
      (expandAll boxPage boxLibrary none = .error (.component .cyclic ⟨none, none, none⟩) →
        Strays boxLibrary boxPage) :=
  have braceless : ∀ name ∈ boxLibrary.keys, '{' ∉ name := by decide
  ⟨braceless, acyclic_boxLibrary,
    expandAll_cyclic_iff boxPage boxLibrary none braceless acyclic_boxLibrary⟩

/-- The box in the argument is opened in a second pass, and there is no third to see the end. -/
theorem expandAll_boxPage :
    (∀ name, ¬ Relation.TransGen (Refers boxLibrary) name name) ∧
      expandAll boxPage boxLibrary none = .error (.component .cyclic ⟨none, none, none⟩) :=
  ⟨acyclic_boxLibrary, by cbv⟩

end Example

end Results

end Component

end StaticSite
