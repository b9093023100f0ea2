import StaticSite.Workspace

/-!
# Running actions

An action that runs takes a workspace to a value and a workspace, and one that fails takes it
to a fault and a workspace.  The lemmas take a run of a composed action apart into the runs of
its parts.
-/

namespace StaticSite

/-- A workspace after one change of its files. -/
def Workspace.edited (workspace : Workspace) (edit : Edit) : Workspace :=
  { workspace with
    files := workspace.files.apply edit
    journal := edit :: workspace.journal }

@[simp]
theorem Workspace.edited_files (workspace : Workspace) (edit : Edit) :
    (workspace.edited edit).files = workspace.files.apply edit :=
  rfl

/-- A workspace after a line is printed. -/
def Workspace.saying (workspace : Workspace) (line : Text) : Workspace :=
  { workspace with printed := workspace.printed ++ [.text (line ++ ['\n'])] }

@[simp]
theorem Workspace.saying_files (workspace : Workspace) (line : Text) :
    (workspace.saying line).files = workspace.files :=
  rfl

namespace Action

variable {α β : Type} {before after : Workspace}

/-- An action succeeds with a value. -/
def Runs (action : Action α) (before : Workspace) (value : α) (after : Workspace) : Prop :=
  action.perform before = (.ok value, after)

/-- An action fails with a fault. -/
def Fails (action : Action α) (before : Workspace) (fault : Fault) (after : Workspace) : Prop :=
  action.perform before = (.error fault, after)

theorem perform_bind (action : Action α) (next : α → Action β) (before : Workspace) :
    (action >>= next).perform before =
      match action.perform before with
      | (.ok value, middle) => (next value).perform middle
      | (.error fault, middle) => (.error fault, middle) := by
  have unfolded : (action >>= next).perform before =
      ExceptT.bindCont next (action.perform before).1 (action.perform before).2 := rfl
  rw [unfolded]
  rcases action.perform before with ⟨_ | _, _⟩ <;> rfl

theorem perform_tryCatch (action : Action α) (rescue : Fault → Action α)
    (before : Workspace) :
    (tryCatch action rescue).perform before =
      match action.perform before with
      | (.ok value, middle) => (.ok value, middle)
      | (.error fault, middle) => (rescue fault).perform middle := by
  rcases ran : action.perform before with ⟨fault | value, middle⟩
  · have failed : action before = (.error fault, middle) := ran
    show (ExceptT.tryCatch action rescue) before = (rescue fault) middle
    simp only [ExceptT.tryCatch, ExceptT.mk, bind, StateT.bind]
    rw [failed]
  · have succeeded : action before = (.ok value, middle) := ran
    show (ExceptT.tryCatch action rescue) before = (.ok value, middle)
    simp only [ExceptT.tryCatch, ExceptT.mk, bind, StateT.bind]
    rw [succeeded]
    rfl

theorem perform_inspect (question : FileTree → Except Fault α) (before : Workspace) :
    (inspect question).perform before = (question before.files, before) := by
  unfold inspect
  rw [perform_bind]
  have asked : (get : Action Workspace).perform before = (.ok before, before) := rfl
  rw [asked]
  cases answered : question before.files <;> simp only [answered] <;> rfl

@[simp]
theorem runs_pure {given value : α} :
    Runs (pure given) before value after ↔ value = given ∧ before = after := by
  constructor
  · intro ran
    cases ran
    exact ⟨rfl, rfl⟩
  · rintro ⟨rfl, rfl⟩
    rfl

@[simp]
theorem runs_bind {action : Action α} {next : α → Action β} {value : β} :
    Runs (action >>= next) before value after ↔
      ∃ given middle, Runs action before given middle ∧ Runs (next given) middle value after := by
  unfold Runs
  rw [perform_bind]
  rcases action.perform before with ⟨fault | given, middle⟩
  · simp
  · constructor
    · intro ran
      exact ⟨given, middle, rfl, ran⟩
    · rintro ⟨other, between, same, ran⟩
      cases same
      exact ran

@[simp]
theorem not_runs_throw {fault : Fault} {value : α} :
    ¬ Runs (throw fault) before value after := by
  intro ran
  cases ran

@[simp]
theorem runs_get {value : Workspace} :
    Runs (get : Action Workspace) before value after ↔ before = value ∧ before = after := by
  constructor
  · intro ran
    cases ran
    exact ⟨rfl, rfl⟩
  · rintro ⟨rfl, rfl⟩
    rfl

@[simp]
theorem runs_inspect {question : FileTree → Except Fault α} {value : α} :
    Runs (inspect question) before value after ↔
      question before.files = .ok value ∧ before = after := by
  unfold Runs
  rw [perform_inspect, Prod.mk.injEq]

@[simp]
theorem runs_ofExcept {known : Except Fault α} {value : α} :
    Runs (ofExcept known) before value after ↔ known = .ok value ∧ before = after := by
  cases known with
  | error fault =>
      constructor
      · intro ran
        cases ran
      · rintro ⟨known, -⟩
        cases known
  | ok given =>
      simp only [ofExcept, runs_pure, Except.ok.injEq]
      constructor <;> exact fun ⟨same, still⟩ => ⟨same.symm, still⟩

@[simp]
theorem runs_commit {edit : Edit} {value : Unit} :
    Runs (commit edit) before value after ↔ after = before.edited edit := by
  constructor
  · intro ran
    cases ran
    rfl
  · rintro rfl
    rfl

theorem runs_print_iff {line : Text} {value : Unit} :
    Runs (print line) before value after ↔ after = before.saying line := by
  constructor
  · intro ran
    cases ran
    rfl
  · rintro rfl
    rfl

theorem runs_print {line : Text} {value : Unit} (ran : Runs (print line) before value after) :
    after.files = before.files := by
  rw [runs_print_iff.1 ran, Workspace.saying_files]

theorem runs_tryCatch {action : Action α} {rescue : Fault → Action α} {value : α} :
    Runs (tryCatch action rescue) before value after ↔
      Runs action before value after ∨
        ∃ fault middle, Fails action before fault middle ∧
          Runs (rescue fault) middle value after := by
  unfold Runs Fails
  rw [perform_tryCatch]
  rcases action.perform before with ⟨fault | given, middle⟩
  · constructor
    · intro ran
      exact Or.inr ⟨fault, middle, rfl, ran⟩
    · rintro (ran | ⟨other, between, same, ran⟩)
      · cases ran
      · cases same
        exact ran
  · constructor
    · intro ran
      exact Or.inl ran
    · rintro (ran | ⟨other, between, same, ran⟩)
      · exact ran
      · cases same

/-- An action that changes nothing when it succeeds. -/
def OnlyReads (action : Action α) : Prop :=
  ∀ before value after, Runs action before value after → after = before

theorem OnlyReads.bind {action : Action α} {next : α → Action β} (first : OnlyReads action)
    (second : ∀ value, OnlyReads (next value)) : OnlyReads (action >>= next) := by
  intro before value after ran
  obtain ⟨given, middle, ranFirst, ranSecond⟩ := runs_bind.1 ran
  rw [second _ _ _ _ ranSecond, first _ _ _ ranFirst]

theorem onlyReads_pure (value : α) : OnlyReads (pure value : Action α) :=
  fun _ _ _ ran => (runs_pure.1 ran).2.symm

theorem onlyReads_throw (fault : Fault) : OnlyReads (throw fault : Action α) :=
  fun _ _ _ ran => absurd ran not_runs_throw

theorem onlyReads_inspect (question : FileTree → Except Fault α) :
    OnlyReads (inspect question) :=
  fun _ _ _ ran => (runs_inspect.1 ran).2.symm

theorem onlyReads_ofExcept (known : Except Fault α) : OnlyReads (ofExcept known) :=
  fun _ _ _ ran => (runs_ofExcept.1 ran).2.symm

section Reading

variable {path : Path} {text : Text}

/-- A file is read as a text if its octets are one. -/
theorem runs_readText_iff :
    Runs (readText path) before text after ↔ ∃ content plain,
      before.files.read path = .ok content ∧ Utf8.decode content = .ok plain ∧
      text = Text.unifyLineEnds plain ∧ after = before := by
  unfold readText
  simp only [runs_bind, runs_inspect]
  constructor
  · rintro ⟨content, _, ⟨read, rfl⟩, ran⟩
    split at ran
    · next plain decoded =>
        obtain ⟨rfl, rfl⟩ := runs_pure.1 ran
        exact ⟨content, plain, read, decoded, rfl, rfl⟩
    · exact absurd ran not_runs_throw
  · rintro ⟨content, plain, read, decoded, rfl, rfl⟩
    refine ⟨content, after, ⟨read, rfl⟩, ?_⟩
    rw [decoded]
    exact runs_pure.2 ⟨rfl, rfl⟩

theorem runs_readMarkedText_iff :
    Runs (readMarkedText path) before text after ↔ ∃ content plain,
      before.files.read path = .ok content ∧
      Utf8.decode (Utf8.dropByteOrderMark content) = .ok plain ∧
      text = Text.unifyLineEnds plain ∧ after = before := by
  unfold readMarkedText
  simp only [runs_bind, runs_inspect]
  constructor
  · rintro ⟨content, _, ⟨read, rfl⟩, ran⟩
    split at ran
    · next plain decoded =>
        obtain ⟨rfl, rfl⟩ := runs_pure.1 ran
        exact ⟨content, plain, read, decoded, rfl, rfl⟩
    · exact absurd ran not_runs_throw
  · rintro ⟨content, plain, read, decoded, rfl, rfl⟩
    refine ⟨content, after, ⟨read, rfl⟩, ?_⟩
    rw [decoded]
    exact runs_pure.2 ⟨rfl, rfl⟩

theorem onlyReads_readText (path : Path) : OnlyReads (readText path) := by
  intro before text after ran
  obtain ⟨-, -, -, -, -, same⟩ := runs_readText_iff.1 ran
  exact same

end Reading

end Action

end StaticSite
