import StaticSite.Proofs.Workspace.Replacing

/-!
# What actions keep

An action that fails leaves a workspace as well, with what it has changed until then.  So what
an action keeps is said of the workspace that it leaves, whether it succeeds or fails.
-/

namespace StaticSite

namespace Action

variable {α β : Type} {before after start : Workspace} {fault : Fault}

theorem not_fails_pure {value : α} : ¬ Fails (pure value : Action α) before fault after := by
  intro failed
  cases failed

theorem fails_throw {thrown : Fault} :
    Fails (throw thrown : Action α) before fault after ↔ thrown = fault ∧ before = after := by
  constructor
  · intro failed
    cases failed
    exact ⟨rfl, rfl⟩
  · rintro ⟨rfl, rfl⟩
    rfl

theorem fails_bind {action : Action α} {next : α → Action β} :
    Fails (action >>= next) before fault after ↔
      Fails action before fault after ∨
        ∃ given middle, Runs action before given middle ∧ Fails (next given) middle fault after := by
  unfold Fails Runs
  rw [perform_bind]
  rcases action.perform before with ⟨other | given, middle⟩
  · simp
  · simp only [Prod.mk.injEq, reduceCtorEq, false_and, false_or, Except.ok.injEq]
    constructor
    · intro failed
      exact ⟨given, middle, ⟨rfl, rfl⟩, failed⟩
    · rintro ⟨_, _, ⟨rfl, rfl⟩, failed⟩
      exact failed

theorem fails_inspect {question : FileTree → Except Fault α} :
    Fails (inspect question) before fault after ↔
      question before.files = .error fault ∧ before = after := by
  unfold Fails
  rw [perform_inspect, Prod.mk.injEq]

theorem not_fails_get : ¬ Fails (get : Action Workspace) before fault after := by
  intro failed
  cases failed

theorem not_fails_commit {edit : Edit} : ¬ Fails (commit edit) before fault after := by
  intro failed
  cases failed

/-- A property of workspaces is kept by an action, whether it succeeds or fails. -/
def Keeps (holds : Workspace → Prop) (action : Action α) : Prop :=
  ∀ before, holds before → holds (action.perform before).2

/-- An action can give a value in a workspace with a property. -/
def Gives (holds : Workspace → Prop) (action : Action α) (value : α) : Prop :=
  ∃ before after, holds before ∧ Runs action before value after

variable {holds : Workspace → Prop}

theorem not_gives_throw {value : α} : ¬ Gives holds (throw fault : Action α) value := by
  rintro ⟨before, after, -, ran⟩
  exact not_runs_throw ran

theorem keeps_iff {action : Action α} :
    Keeps holds action ↔ ∀ before after, holds before →
      (∀ value, Runs action before value after → holds after) ∧
        ∀ fault, Fails action before fault after → holds after := by
  constructor
  · intro kept before after held
    have still := kept before held
    constructor
    · intro value ran
      unfold Runs at ran
      rwa [ran] at still
    · intro fault failed
      unfold Fails at failed
      rwa [failed] at still
  · intro cases_ before held
    rcases performed : action.perform before with ⟨fault | value, after⟩
    · exact (cases_ before after held).2 fault performed
    · exact (cases_ before after held).1 value performed

theorem keeps_pure (value : α) : Keeps holds (pure value : Action α) := fun _ held => held

theorem keeps_throw (fault : Fault) : Keeps holds (throw fault : Action α) := fun _ held => held

theorem keeps_get : Keeps holds (get : Action Workspace) := fun _ held => held

theorem keeps_inspect (question : FileTree → Except Fault α) : Keeps holds (inspect question) := by
  intro before held
  rwa [perform_inspect]

theorem keeps_ofExcept (known : Except Fault α) : Keeps holds (ofExcept known) := by
  cases known with
  | error fault => exact keeps_throw fault
  | ok value => exact keeps_pure value

/-- What each step keeps is kept by both; the second step knows that its value has been given. -/
theorem Keeps.bind {action : Action α} {next : α → Action β} (one : Keeps holds action)
    (two : ∀ value, Gives holds action value → Keeps holds (next value)) :
    Keeps holds (action >>= next) := by
  intro before held
  have still := one before held
  rw [perform_bind]
  rcases performed : action.perform before with ⟨fault | value, middle⟩
  · rwa [performed] at still
  · rw [performed] at still
    exact two value ⟨before, middle, held, performed⟩ middle still

theorem keeps_readText (path : Path) : Keeps holds (readText path) := by
  unfold readText
  refine (keeps_inspect _).bind fun content _ => ?_
  split
  · exact keeps_pure _
  · exact keeps_throw _

theorem keeps_readMarkedText (path : Path) : Keeps holds (readMarkedText path) := by
  unfold readMarkedText
  refine (keeps_inspect _).bind fun content _ => ?_
  split
  · exact keeps_pure _
  · exact keeps_throw _

end Action

namespace FileTree

variable {tree : FileTree} {location : Location} {edits : List Edit}

theorem filterMap_setEntry {α : Type} {place : Location} {node : Node}
    {entries : List (Location × Node)} {choose : Location × Node → Option α}
    (ignored : ∀ held, choose (place, held) = none) :
    (setEntry place node entries).filterMap choose = entries.filterMap choose := by
  induction entries with
  | nil => simp [setEntry, ignored]
  | cons entry entries ih =>
      obtain ⟨candidate, old⟩ := entry
      by_cases here : candidate = place
      · subst here
        simp [setEntry, ignored]
      · simp [setEntry, here, List.filterMap_cons, ih]

/-- What is below a location is not concerned by changes elsewhere. -/
theorem entriesBelow_apply {edit : Edit} (apart : ¬ location <+: edit.location) :
    (tree.apply edit).entriesBelow location = tree.entriesBelow location := by
  have outside : ∀ place, ¬ location <+: place →
      ¬ (location.isPrefixOf place = true ∧ location.length < place.length) :=
    fun place other inside => other (List.isPrefixOf_iff_prefix.1 inside.1)
  cases edit with
  | write place content modified =>
      exact filterMap_setEntry fun held => if_neg (outside place apart)
  | makeDirectory place => exact filterMap_setEntry fun held => if_neg (outside place apart)
  | remove place =>
      unfold entriesBelow
      rw [FileTree.apply, erase, List.filterMap_filter]
      apply List.filterMap_congr
      rintro ⟨candidate, node⟩ -
      by_cases here : candidate = place
      · rw [if_neg (by simpa using here), here]
        exact (if_neg (outside place apart)).symm
      · rw [if_pos (by simpa using here)]

theorem entriesBelow_foldl_apply (apart : ∀ edit ∈ edits, ¬ location <+: edit.location) :
    (edits.foldl FileTree.apply tree).entriesBelow location = tree.entriesBelow location := by
  induction edits generalizing tree with
  | nil => rfl
  | cons edit edits ih =>
      rw [List.foldl_cons, ih fun other member => apart other (List.mem_cons_of_mem _ member),
        entriesBelow_apply (apart edit List.mem_cons_self)]

end FileTree

/-- From one workspace to another nothing has happened but changes of the files at or below a
location, and printing. -/
def Workspace.EditsBelow (location : Location) (before after : Workspace) : Prop :=
  ∃ edits : List Edit, (∀ edit ∈ edits, location <+: edit.location) ∧
    after = { before.editedAll edits with printed := after.printed }

namespace Workspace

variable {location other : Location} {before after : Workspace}

theorem editsBelow_refl (location : Location) (workspace : Workspace) :
    EditsBelow location workspace workspace :=
  ⟨[], by simp, rfl⟩

theorem editsBelow_edited (workspace : Workspace) {edit : Edit} (below : location <+: edit.location) :
    EditsBelow location workspace (workspace.edited edit) :=
  ⟨[edit], by simpa using below, rfl⟩

theorem EditsBelow.files (changes : EditsBelow location before after) :
    ∃ edits : List Edit, (∀ edit ∈ edits, location <+: edit.location) ∧
      after.files = edits.foldl FileTree.apply before.files := by
  obtain ⟨edits, inside, whole⟩ := changes
  exact ⟨edits, inside, (congrArg Workspace.files whole).trans (before.editedAll_files edits)⟩

theorem editedAll_printed (workspace : Workspace) (edits : List Edit) (printed : List Printed) :
    ({ workspace with printed := printed } : Workspace).editedAll edits =
      { workspace.editedAll edits with printed := printed } := by
  induction edits generalizing workspace with
  | nil => rfl
  | cons edit edits ih => exact ih (workspace.edited edit)

theorem EditsBelow.trans {middle : Workspace} (one : EditsBelow location before middle)
    (two : EditsBelow location middle after) : EditsBelow location before after := by
  obtain ⟨edits, inside, whole⟩ := one
  obtain ⟨more, below, further⟩ := two
  refine ⟨edits ++ more, ?_, ?_⟩
  · intro edit member
    exact (List.mem_append.1 member).elim (inside edit) (below edit)
  · rw [further, whole, editedAll_printed, editedAll, editedAll, editedAll, List.foldl_append]

theorem EditsBelow.edited (changes : EditsBelow location before after) {edit : Edit}
    (below : location <+: edit.location) : EditsBelow location before (after.edited edit) :=
  changes.trans (after.editsBelow_edited below)

theorem EditsBelow.saying (changes : EditsBelow location before after) (line : Text) :
    EditsBelow location before (after.saying line) :=
  changes.trans ⟨[], by simp, rfl⟩

theorem EditsBelow.programs (changes : EditsBelow location before after) :
    after.programs = before.programs ∧ after.convert = before.convert := by
  obtain ⟨edits, -, whole⟩ := changes
  have kept : before.Edits (before.editedAll edits) := ⟨edits, rfl⟩
  exact ⟨(congrArg Workspace.programs whole).trans kept.programs.1,
    (congrArg Workspace.convert whole).trans kept.programs.2⟩

theorem here_foldl_apply (files : FileTree) (edits : List Edit) :
    (edits.foldl FileTree.apply files).here = files.here := by
  induction edits generalizing files with
  | nil => rfl
  | cons edit edits ih =>
      rw [List.foldl_cons, ih]
      cases edit <;> rfl

theorem EditsBelow.here (changes : EditsBelow location before after) :
    after.files.here = before.files.here := by
  obtain ⟨edits, -, files⟩ := changes.files
  rw [files, here_foldl_apply]

theorem node?_foldl_apply {edits : List Edit} (files : FileTree)
    (apart : ∀ edit ∈ edits, edit.location ≠ [] ∧ other ≠ edit.location) :
    (edits.foldl FileTree.apply files).node? other = files.node? other := by
  induction edits generalizing files with
  | nil => rfl
  | cons edit edits ih =>
      obtain ⟨within, different⟩ := apart edit List.mem_cons_self
      rw [List.foldl_cons, ih _ fun later member => apart later (List.mem_cons_of_mem _ member)]
      cases edit with
      | write place content modified => exact (FileTree.node?_set within).trans (if_neg different)
      | makeDirectory place => exact (FileTree.node?_set within).trans (if_neg different)
      | remove place => exact (FileTree.node?_erase within).trans (if_neg different)

/-- What is not below the location is as before. -/
theorem EditsBelow.node?_eq (changes : EditsBelow location before after) (within : location ≠ [])
    (outside : ¬ location <+: other) : after.files.node? other = before.files.node? other := by
  obtain ⟨edits, inside, files⟩ := changes.files
  rw [files]
  apply node?_foldl_apply
  intro edit member
  have below := inside edit member
  constructor
  · intro root
    rw [root] at below
    exact within (List.prefix_nil.1 below)
  · rintro rfl
    exact outside below

end Workspace

namespace Action

open FileTree

variable {location : Location} {path source : Path} {start : Workspace}

theorem keeps_commit {edit : Edit} (below : location <+: edit.location) :
    Keeps (start.EditsBelow location) (commit edit) :=
  fun _ held => held.edited below

theorem keeps_commitAll {edits : List Edit} (below : ∀ edit ∈ edits, location <+: edit.location) :
    Keeps (start.EditsBelow location) (commitAll edits) := by
  induction edits with
  | nil => exact keeps_pure ()
  | cons edit edits ih =>
      exact (keeps_commit (below edit List.mem_cons_self)).bind fun _ _ =>
        ih fun other member => below other (List.mem_cons_of_mem _ member)

theorem fails_writeBytes {content : Bytes} (failed : Fails (writeBytes path content) before fault after) :
    after = before := by
  unfold writeBytes at failed
  simp only [fails_bind, fails_inspect, runs_inspect, runs_get, not_fails_get, false_or] at failed
  obtain ⟨-, rfl⟩ | ⟨found, _, ⟨-, rfl⟩, _, _, ⟨rfl, rfl⟩, failed⟩ := failed
  · rfl
  · split at failed
    · exact (fails_throw.1 failed).2.symm
    · simp [fails_bind, not_fails_get, not_fails_commit] at failed

/-- In a directory that is there a text is written at once or not at all. -/
theorem fails_writeText {text : Text} (opens : before.files.Opens path.parent location)
    (failed : Fails (writeText path text) before fault after) : after = before := by
  unfold writeText at failed
  rcases fails_bind.1 failed with unmade | ⟨_, middle, made, unwritten⟩
  · cases (runs_makeDirectories opens).symm.trans unmade
  · obtain rfl := runs_makeDirectories_of_opens opens made
    exact fails_writeBytes unwritten

theorem fails_removeFile (failed : Fails (removeFile path) before fault after) : after = before := by
  unfold removeFile at failed
  simp only [fails_bind, fails_inspect, runs_inspect, runs_get, not_fails_get, false_or] at failed
  obtain ⟨-, rfl⟩ | ⟨found, _, ⟨-, rfl⟩, _, _, ⟨rfl, rfl⟩, failed⟩ := failed
  · rfl
  · split at failed
    · exact absurd failed not_fails_commit
    · exact (fails_throw.1 failed).2.symm
    · exact (fails_throw.1 failed).2.symm

section Resolved

variable (resolved : path.resolve start.files.here = location)
include resolved

/-- As long as the current directory stays, a path leads where its components say. -/
theorem eq_of_gives_require {found : Location}
    (given : Gives (start.EditsBelow location) (inspect (·.require path)) found) :
    found = location := by
  obtain ⟨before, after, changes, ran⟩ := given
  rw [eq_resolve_of_require (runs_inspect.1 ran).1, changes.here, resolved]

theorem keeps_makeDirectory : Keeps (start.EditsBelow location) (makeDirectory path) := by
  unfold makeDirectory
  refine (keeps_inspect _).bind fun found given => keeps_get.bind fun workspace _ => ?_
  obtain rfl := eq_of_gives_require resolved given
  split
  · exact keeps_throw _
  · exact keeps_commit (List.prefix_refl _)

theorem keeps_removeTree : Keeps (start.EditsBelow location) (removeTree path) := by
  unfold removeTree
  refine (keeps_inspect _).bind fun found given => keeps_get.bind fun workspace _ => ?_
  obtain rfl := eq_of_gives_require resolved given
  split
  · exact keeps_throw _
  · exact keeps_throw _
  · refine keeps_get.bind fun emptied _ => ?_
    have below : ∀ edit ∈ removalsBelow emptied.files found, found <+: edit.location := by
      intro edit member
      obtain ⟨entry, -, rfl⟩ := List.mem_map.1 member
      exact List.prefix_append _ _
    refine (keeps_commitAll below).bind fun _ _ => (keeps_inspect _).bind fun again given => ?_
    obtain rfl := eq_of_gives_require resolved given
    split
    · exact keeps_throw _
    · exact keeps_commit (List.prefix_refl _)

/-- A copy into a directory that is there makes nothing but the copy. -/
theorem editsBelow_copyTree (there : start.files.exists? path.parent = .ok true) :
    start.EditsBelow location ((copyTree source path).perform start).2 := by
  unfold copyTree
  rw [perform_bind, perform_inspect]
  cases start.files.require source with
  | error fault => exact Workspace.editsBelow_refl _ _
  | ok origin =>
      have asked : (get : Action Workspace).perform start = (.ok start, start) := rfl
      simp only
      rw [perform_bind, asked]
      simp only
      rw [perform_bind, perform_inspect, there]
      simp only [if_true]
      have copied : Keeps (start.EditsBelow location) (do
          makeDirectory path
          let target ← inspect (·.require path)
          commitAll (copies target (start.files.entriesBelow origin))) := by
        refine (keeps_makeDirectory resolved).bind fun _ _ =>
          (keeps_inspect _).bind fun found given => ?_
        obtain rfl := eq_of_gives_require resolved given
        apply keeps_commitAll
        intro edit member
        obtain ⟨⟨parts, node⟩, -, rfl⟩ := List.mem_map.1 member
        cases node <;> exact List.prefix_append _ _
      exact copied start (Workspace.editsBelow_refl _ _)

end Resolved

end Action

end StaticSite
