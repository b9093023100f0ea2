import StaticSite.Config.Value

/-!
# Steps of a reader with a state

A reader that has a state leads from states of one kind to states of another kind, finds that the
text has not its form, or fails at a value that it cannot make.  What its steps do one after the
other follows from what each of them does.
-/

namespace StaticSite

namespace Config

variable {σ α β : Type} {before first : σ → Prop} {middle last : α → σ → Prop}
  {after : β → σ → Prop} {may more : Fault → Prop} {step : StateT σ Reading α}

/-- From a state of a kind a step leads to a value and a state of a kind, and if it fails, it does
so with a possible fault. -/
def Leads (before : σ → Prop) (step : StateT σ Reading α) (after : α → σ → Prop)
    (may : Fault → Prop) : Prop :=
  ∀ state, before state →
    match step.run state with
    | .ok (value, next) => after value next
    | .error .malformed => True
    | .error (.fault fault) => may fault

theorem Leads.bind {next : α → StateT σ Reading β} (leads : Leads before step middle may)
    (then_ : ∀ value, Leads (middle value) (next value) after may) :
    Leads before (step >>= next) after may := by
  intro state holds
  have first := leads state holds
  rw [StateT.run_bind]
  cases ran : step.run state with
  | ok result =>
      rw [ran] at first
      exact then_ result.1 result.2 first
  | error trouble =>
      rw [ran] at first
      cases trouble with
      | malformed => trivial
      | fault fault => exact first

theorem Leads.mono (leads : Leads first step last more) (holds : ∀ state, before state → first state)
    (reached : ∀ value state, last value state → middle value state)
    (possible : ∀ fault, more fault → may fault) : Leads before step middle may := by
  intro state begins
  have result := leads state (holds state begins)
  revert result
  cases step.run state with
  | ok result => exact reached result.1 result.2
  | error trouble =>
      cases trouble with
      | malformed => exact id
      | fault fault => exact possible fault

theorem Leads.from_ (leads : Leads first step middle may)
    (holds : ∀ state, before state → first state) : Leads before step middle may :=
  leads.mono holds (fun _ _ => id) fun _ => id

theorem Leads.to (leads : Leads before step last may)
    (reached : ∀ value state, last value state → middle value state) :
    Leads before step middle may :=
  leads.mono (fun _ => id) reached fun _ => id

/-- What is known of a state and does not depend on it may be used. -/
theorem leads_of_known {known : Prop} (leads : known → Leads before step middle may) :
    Leads (fun state => before state ∧ known) step middle may :=
  fun state ⟨holds, fact⟩ => leads fact state holds

theorem leads_pure (value : α) (holds : ∀ state, before state → middle value state) :
    Leads before (pure value : StateT σ Reading α) middle may :=
  holds

theorem leads_malformed : Leads before (throw .malformed : StateT σ Reading α) middle may :=
  fun _ _ => trivial

theorem leads_fault {fault : Fault} (possible : ∀ state, before state → may fault) :
    Leads before (throw (.fault fault) : StateT σ Reading α) middle may :=
  possible

theorem leads_malformed_bind {next : α → StateT σ Reading β} :
    Leads before (throw .malformed >>= next) after may :=
  fun _ _ => trivial

theorem leads_fault_bind {fault : Fault} {next : α → StateT σ Reading β}
    (possible : ∀ state, before state → may fault) :
    Leads before (throw (.fault fault) >>= next) after may :=
  possible

theorem leads_reading {reading : Reading α}
    (made : ∀ value, reading = .ok value → ∀ state, before state → middle value state)
    (failed : ∀ fault, reading = .error (.fault fault) → ∀ state, before state → may fault) :
    Leads before (liftM reading : StateT σ Reading α) middle may := by
  intro state holds
  cases reading with
  | ok value => exact made value rfl state holds
  | error trouble =>
      cases trouble with
      | malformed => trivial
      | fault fault => exact failed fault rfl state holds

/-- What follows may depend on the state. -/
theorem leads_get {next : σ → StateT σ Reading β}
    (then_ : ∀ state, before state → Leads (· = state) (next state) after may) :
    Leads before (get >>= next) after may :=
  fun state holds => then_ state holds state rfl

theorem leads_modify {change : σ → σ} {after : PUnit → σ → Prop}
    (holds : ∀ state, before state → after ⟨⟩ (change state)) :
    Leads before (modify change : StateT σ Reading PUnit) after may :=
  holds

theorem leads_set {state : σ} {after : PUnit → σ → Prop}
    (holds : ∀ other, before other → after ⟨⟩ state) :
    Leads before (set state : StateT σ Reading PUnit) after may :=
  holds

/-! ## Steps for each item of a list -/

section Lists

variable {stays : σ → Prop} (items : List α)

theorem leads_foldlM {make : β → α → StateT σ Reading β}
    (each : ∀ made item, Leads stays (make made item) (fun _ => stays) may) (start : β) :
    Leads stays (items.foldlM make start) (fun _ => stays) may := by
  induction items generalizing start with
  | nil => exact leads_pure start fun _ => id
  | cons item items ih =>
      rw [List.foldlM_cons]
      exact (each start item).bind ih

theorem leads_mapM {make : α → StateT σ Reading β}
    (each : ∀ item, Leads stays (make item) (fun _ => stays) may) :
    Leads stays (items.mapM make) (fun _ => stays) may := by
  induction items with
  | nil => exact leads_pure [] fun _ => id
  | cons item items ih =>
      rw [List.mapM_cons]
      exact (each item).bind fun made => ih.bind fun others => leads_pure _ fun _ => id

theorem leads_forM {run : α → StateT σ Reading PUnit}
    (each : ∀ item, Leads stays (run item) (fun _ => stays) may) :
    Leads stays (items.forM run) (fun _ => stays) may := by
  induction items with
  | nil => exact leads_pure _ fun _ => id
  | cons item items ih =>
      exact (each item).bind fun _ => ih

theorem leads_findM {test : α → StateT σ Reading Bool}
    (each : ∀ item, Leads stays (test item) (fun _ => stays) may) :
    Leads stays (items.findM? test) (fun _ => stays) may := by
  induction items with
  | nil => exact leads_pure _ fun _ => id
  | cons item items ih =>
      refine (each item).bind fun found => ?_
      cases found with
      | true => exact leads_pure _ fun _ => id
      | false => exact ih

end Lists

end Config

end StaticSite
