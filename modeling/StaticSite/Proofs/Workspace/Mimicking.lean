import StaticSite.Proofs.Workspace.Running

/-!
# Actions that mimic others

Two workspaces may mirror each other without being equal.  A second action mimics a first one if
it succeeds wherever the first one does, with the same value, and the workspaces mirror each
other again.
-/

namespace StaticSite

namespace Action

variable {α β : Type} {mirror : Workspace → Workspace → Prop}

/-- Whatever the first action does, the second one does in every mirror of the workspace. -/
def Mimics (mirror : Workspace → Workspace → Prop) (first second : Action α) : Prop :=
  ∀ before other value after, mirror before other → Runs first before value after →
    ∃ last, Runs second other value last ∧ mirror after last

/-- Whether an action can give a value in a workspace that has a mirror. -/
def Yields (mirror : Workspace → Workspace → Prop) (action : Action α) (value : α) : Prop :=
  ∃ before other after, mirror before other ∧ Runs action before value after

theorem mimics_pure (value : α) : Mimics mirror (pure value : Action α) (pure value) := by
  intro before other given after mirrors ran
  obtain ⟨rfl, rfl⟩ := runs_pure.1 ran
  exact ⟨other, runs_pure.2 ⟨rfl, rfl⟩, mirrors⟩

theorem mimics_throw (fault : Fault) (second : Action α) :
    Mimics mirror (throw fault) second :=
  fun _ _ _ _ _ ran => absurd ran not_runs_throw

theorem mimics_ofExcept (known : Except Fault α) :
    Mimics mirror (ofExcept known) (ofExcept known) := by
  intro before other value after mirrors ran
  obtain ⟨known, rfl⟩ := runs_ofExcept.1 ran
  exact ⟨other, runs_ofExcept.2 ⟨known, rfl⟩, mirrors⟩

/-- Questions with the same answer mimic each other. -/
theorem mimics_inspect {question again : FileTree → Except Fault α}
    (same : ∀ before other value, mirror before other → question before.files = .ok value →
      again other.files = .ok value) :
    Mimics mirror (inspect question) (inspect again) := by
  intro before other value after mirrors ran
  obtain ⟨answered, rfl⟩ := runs_inspect.1 ran
  exact ⟨other, runs_inspect.2 ⟨same before other value mirrors answered, rfl⟩, mirrors⟩

/-- Actions mimic others step by step; the second step knows that its value has been given. -/
theorem Mimics.bind {first second : Action α} {next later : α → Action β}
    (one : Mimics mirror first second)
    (two : ∀ value, Yields mirror first value → Mimics mirror (next value) (later value)) :
    Mimics mirror (first >>= next) (second >>= later) := by
  intro before other value after mirrors ran
  obtain ⟨given, middle, begun, ended⟩ := runs_bind.1 ran
  obtain ⟨between, again, mirrored⟩ := one before other given middle mirrors begun
  obtain ⟨last, finished, mirrored⟩ :=
    two given ⟨before, other, middle, mirrors, begun⟩ middle between value after mirrored ended
  exact ⟨last, runs_bind.2 ⟨given, between, again, finished⟩, mirrored⟩

section Paired

variable {first second : Workspace}

/-- The two workspaces themselves. -/
def Paired (first second : Workspace) (before other : Workspace) : Prop :=
  before = first ∧ other = second

theorem mimics_asked {question : FileTree → Except Fault α}
    (same : question second.files = question first.files) :
    Mimics (Paired first second) (inspect question) (inspect question) := by
  apply mimics_inspect
  rintro _ _ value ⟨rfl, rfl⟩ answered
  rwa [same]

theorem answered_of_yields {question : FileTree → Except Fault α} {value : α}
    (given : Yields (Paired first second) (inspect question) value) :
    question first.files = .ok value := by
  obtain ⟨_, _, _, ⟨rfl, -⟩, ran⟩ := given
  exact (runs_inspect.1 ran).1

end Paired

end Action

end StaticSite
