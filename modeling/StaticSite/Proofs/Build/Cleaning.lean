import StaticSite.Build.Source
import StaticSite.Proofs.FileTree.Contents
import StaticSite.Proofs.Workspace.Keeping

/-!
# Cleaning the output

The output of an earlier build is removed only if it lies strictly below the project, and then
nothing is changed but what is at or below it.  In every other case nothing is changed at all: the
paths are compared by where their components lead, and the output is removed by the path itself,
which leads to the same place.
-/

namespace StaticSite

namespace Build

open StaticSite.Action FileTree

variable {before after : Workspace} {output root : Path} {fault : Fault} {value : Unit}

section Outcomes

/-- A place below another one, which is not that place itself. -/
def StrictlyBelow (project target : Location) : Prop := project <+: target ∧ target ≠ project

instance (project target : Location) : Decidable (StrictlyBelow project target) :=
  inferInstanceAs (Decidable (_ ∧ _))

/-- An output that may be removed. -/
def Cleanable (files : FileTree) (output root : Path) : Prop :=
  hasNull root = false ∧ StrictlyBelow (root.resolve files.here) (output.resolve files.here)

instance (files : FileTree) (output root : Path) : Decidable (Cleanable files output root) :=
  inferInstanceAs (Decidable (_ ∧ _))

/-- Why an output may not be removed. -/
def uncleanable (files : FileTree) (output root : Path) : Fault :=
  if hasNull root then .value "embedded null byte"
  else if output.resolve files.here = root.resolve files.here then .source .cleansRoot
  else .source .cleansOutside

/-- Cleaning does nothing, turns the output down, or removes it. -/
theorem perform_cleanOutput (output root : Path) (before : Workspace) :
    (cleanOutput output root).perform before =
      match before.files.exists? output with
      | .error fault => (.error fault, before)
      | .ok false => (.ok (), before)
      | .ok true =>
        if Cleanable before.files output root then (removeTree output).perform before
        else (.error (uncleanable before.files output root), before) := by
  unfold cleanOutput
  rw [perform_bind, perform_inspect]
  cases before.files.exists? output with
  | error fault => rfl
  | ok there =>
      cases there with
      | false => rfl
      | true =>
          simp only [if_true]
          rw [perform_bind]
          have asked : (get : Action Workspace).perform before = (.ok before, before) := rfl
          rw [asked]
          simp only
          by_cases null : hasNull root = true
          · rw [if_pos null, if_neg (by simp [Cleanable, null]), uncleanable, if_pos null]
            rfl
          by_cases same : output.resolve before.files.here = root.resolve before.files.here
          · rw [if_neg null, if_pos same, if_neg (by simp [Cleanable, StrictlyBelow, same]),
              uncleanable, if_neg null, if_pos same]
            rfl
          rw [if_neg null, if_neg same]
          by_cases below : root.resolve before.files.here <+: output.resolve before.files.here
          · have cleanable : Cleanable before.files output root :=
              ⟨by simpa using null, below, same⟩
            rw [if_pos (List.isPrefixOf_iff_prefix.2 below), if_pos cleanable]
          · rw [if_neg fun starts => below (List.isPrefixOf_iff_prefix.1 starts),
              if_neg fun cleanable : Cleanable _ _ _ => below cleanable.2.1, uncleanable,
              if_neg null, if_neg same]
            rfl

theorem runs_cleanOutput_iff :
    Runs (cleanOutput output root) before value after ↔
      (before.files.exists? output = .ok false ∧ after = before) ∨
        (before.files.exists? output = .ok true ∧ Cleanable before.files output root ∧
          Runs (removeTree output) before value after) := by
  unfold Runs
  rw [perform_cleanOutput]
  rcases before.files.exists? output with fault | _ | _
  · simp
  · simp [eq_comm]
  · by_cases cleanable : Cleanable before.files output root
    · simp [cleanable]
    · simp [cleanable]

theorem fails_cleanOutput_iff :
    Fails (cleanOutput output root) before fault after ↔
      (before.files.exists? output = .error fault ∧ after = before) ∨
        (before.files.exists? output = .ok true ∧
          (Cleanable before.files output root ∧ Fails (removeTree output) before fault after ∨
            ¬ Cleanable before.files output root ∧
              fault = uncleanable before.files output root ∧ after = before)) := by
  unfold Fails
  rw [perform_cleanOutput]
  rcases before.files.exists? output with fault | _ | _
  · simp [eq_comm]
  · simp
  · by_cases cleanable : Cleanable before.files output root
    · simp [cleanable]
    · simp [cleanable, eq_comm]

end Outcomes

section Removing

theorem not_fails_commitAll {edits : List Edit} {fault : Fault} :
    ¬ Fails (commitAll edits) before fault after := by
  induction edits generalizing before with
  | nil => exact not_fails_pure
  | cons edit edits ih =>
      intro failed
      rcases fails_bind.1 failed with first | ⟨_, middle, -, later⟩
      · exact not_fails_commit first
      · exact ih later

/-- Only the checks before it speak of sources when a directory is removed. -/
theorem not_fails_removeTree_source {path : Path} {reason : SourceFault} :
    ¬ Fails (removeTree path) before (.source reason) after := by
  have required : ∀ files : FileTree, files.require path ≠ .error (.source reason) := by
    intro files
    unfold FileTree.require
    split
    · nofun
    · split <;> nofun
  have thrown : ∀ (refusal : FileRefusal) (workspace : Workspace),
      ¬ Fails (throw (.refused refusal path.text) : Action Unit) workspace (.source reason) after :=
    fun refusal workspace failed => nomatch (fails_throw.1 failed).1
  unfold removeTree
  simp only [fails_bind, fails_inspect, not_fails_get, false_or, required, false_and]
  rintro ⟨location, middle, -, _, workspace, -, failed⟩
  split at failed
  · exact thrown _ _ failed
  · exact thrown _ _ failed
  · simp only [fails_bind, fails_inspect, not_fails_get, not_fails_commitAll, false_or, required,
      false_and] at failed
    obtain ⟨_, _, -, _, _, -, again, last, -, failed⟩ := failed
    split at failed
    · exact thrown _ _ failed
    · exact not_fails_commit failed

/-- An output that may not be cleaned is left alone. -/
theorem fails_cleanOutput_source {reason : SourceFault}
    (failed : Fails (cleanOutput output root) before (.source reason) after) : after = before := by
  rcases fails_cleanOutput_iff.1 failed with ⟨-, same⟩ | ⟨-, ⟨-, refused⟩ | ⟨-, -, same⟩⟩
  · exact same
  · exact absurd refused not_fails_removeTree_source
  · exact same

/-- A file in the place of the output is not removed. -/
theorem fails_cleanOutput_file (taken : before.files.isFile output = .ok true) :
    ∃ fault, Fails (cleanOutput output root) before fault before := by
  obtain ⟨location, led, content, modified, there⟩ := hasFile_of_isFile taken
  have known : before.files.exists? output = .ok true := by
    rw [exists?, probe_of_require led, there]
    rfl
  by_cases cleanable : Cleanable before.files output root
  · have kept : Fails (removeTree output) before (.refused .notDirectory output.text) before := by
      unfold removeTree
      simp only [fails_bind, fails_inspect, runs_inspect, not_fails_get, runs_get, false_or]
      refine Or.inr ⟨location, before, ⟨led, rfl⟩, before, before, ⟨rfl, rfl⟩, ?_⟩
      rw [there]
      exact fails_throw.2 ⟨rfl, rfl⟩
    exact ⟨_, fails_cleanOutput_iff.2 (Or.inr ⟨known, Or.inl ⟨cleanable, kept⟩⟩)⟩
  · exact ⟨_, fails_cleanOutput_iff.2 (Or.inr ⟨known, Or.inr ⟨cleanable, rfl, rfl⟩⟩)⟩

/-- An output that may be removed is not the root of the file system. -/
theorem Cleanable.within {files : FileTree} (cleanable : Cleanable files output root) :
    output.resolve files.here ≠ [] := by
  intro top
  obtain ⟨-, below, other⟩ := cleanable
  rw [top] at below other
  exact other (List.prefix_nil.1 below).symm

/-- Cleaning changes nothing but what is at or below the output, and that only if it may be
removed. -/
theorem cleanOutput_cases (output root : Path) (before : Workspace) :
    ((cleanOutput output root).perform before).2 = before ∨
      Cleanable before.files output root ∧
        before.EditsBelow (output.resolve before.files.here)
          ((cleanOutput output root).perform before).2 := by
  rw [perform_cleanOutput]
  rcases before.files.exists? output with fault | _ | _
  · exact Or.inl rfl
  · exact Or.inl rfl
  · by_cases cleanable : Cleanable before.files output root
    · simp only [if_pos cleanable]
      exact Or.inr ⟨cleanable, keeps_removeTree rfl before (before.editsBelow_refl _)⟩
    · exact Or.inl (by rw [if_neg cleanable])

theorem editsBelow_cleanOutput (output root : Path) (before : Workspace) :
    before.EditsBelow (output.resolve before.files.here)
      ((cleanOutput output root).perform before).2 := by
  rcases cleanOutput_cases output root before with same | ⟨-, changes⟩
  · rw [same]
    exact before.editsBelow_refl _
  · exact changes

/-- Looking for a file does not fail for want of sources. -/
theorem not_exists?_source {files : FileTree} {path : Path} {reason : SourceFault} :
    files.exists? path ≠ .error (.source reason) := by
  unfold FileTree.exists? FileTree.probe
  split
  · nofun
  · split <;> nofun

/-- An output is turned down exactly if it is there and does not lie below the project. -/
theorem perform_cleanOutput_eq_source_iff :
    (∃ reason, ((cleanOutput output root).perform before).1 = .error (.source reason)) ↔
      before.files.exists? output = .ok true ∧ hasNull root = false ∧
        ¬ StrictlyBelow (root.resolve before.files.here) (output.resolve before.files.here) := by
  constructor
  · rintro ⟨reason, failed⟩
    have refused : Fails (cleanOutput output root) before (.source reason)
        ((cleanOutput output root).perform before).2 := Prod.ext failed rfl
    rcases fails_cleanOutput_iff.1 refused with ⟨unknown, -⟩ | ⟨there, ⟨-, removing⟩ | ⟨not, why, -⟩⟩
    · exact absurd unknown not_exists?_source
    · exact absurd removing not_fails_removeTree_source
    · have clean : hasNull root = false := by
        by_contra null
        rw [uncleanable, if_pos (by simpa using null)] at why
        cases why
      exact ⟨there, clean, fun below => not ⟨clean, below⟩⟩
  · rintro ⟨there, clean, outside⟩
    have not : ¬ Cleanable before.files output root := fun cleanable => outside cleanable.2
    rw [perform_cleanOutput, there]
    simp only [if_neg not, uncleanable, clean, Bool.false_eq_true, if_false]
    split
    · exact ⟨_, rfl⟩
    · exact ⟨_, rfl⟩

theorem StrictlyBelow.mono {project target location : Location}
    (below : StrictlyBelow project target) (inside : target <+: location) :
    StrictlyBelow project location := by
  refine ⟨below.1.trans inside, ?_⟩
  rintro rfl
  exact below.2 (inside.eq_of_length (Nat.le_antisymm inside.length_le below.1.length_le))

/-- Whatever the paths of an output and of a project are made of, cleaning the output changes nothing
unless it leads strictly below the project, and then only what is at or below it.  The project and
what is not below it survive.  If the output is turned down, which is if it is there and leads
elsewhere, then nothing has changed; and if it is removed, then nothing of it is left. -/
theorem cleanOutput_changes_only_below_project (output root : Path) (before : Workspace) :
    let project := root.resolve before.files.here
    let target := output.resolve before.files.here
    let outcome := ((cleanOutput output root).perform before).1
    let after := ((cleanOutput output root).perform before).2
    (after ≠ before → StrictlyBelow project target ∧ before.EditsBelow target after) ∧
      (∀ location, ¬ StrictlyBelow project location ∨ ¬ target <+: location →
        after.files.node? location = before.files.node? location) ∧
      ((∃ reason, outcome = .error (.source reason)) → after = before) ∧
      ((∃ reason, outcome = .error (.source reason)) ↔
        before.files.exists? output = .ok true ∧ hasNull root = false ∧
          ¬ StrictlyBelow project target) ∧
      (before.files.WellFormed → before.files.exists? output = .ok true → outcome = .ok () →
        ∀ location, target <+: location → after.files.node? location = none) := by
  intro project target outcome after
  refine ⟨?_, ?_, ?_, perform_cleanOutput_eq_source_iff, ?_⟩
  · intro changed
    rcases cleanOutput_cases output root before with same | ⟨cleanable, changes⟩
    · exact absurd same changed
    · exact ⟨cleanable.2, changes⟩
  · intro location outside
    rcases cleanOutput_cases output root before with same | ⟨cleanable, changes⟩
    · exact congrArg (fun workspace : Workspace => workspace.files.node? location) same
    · apply changes.node?_eq cleanable.within
      intro inside
      rcases outside with outside | outside
      · exact outside (cleanable.2.mono inside)
      · exact outside inside
  · rintro ⟨reason, failed⟩
    exact fails_cleanOutput_source (Prod.ext failed rfl)
  · intro wellFormed there succeeded location inside
    have ran : Runs (cleanOutput output root) before () after := Prod.ext succeeded rfl
    rcases runs_cleanOutput_iff.1 ran with ⟨absent, -⟩ | ⟨-, cleanable, removed⟩
    · cases there.symm.trans absent
    · obtain ⟨place, led, -⟩ := runs_removeTree_iff.1 removed
      rw [eq_resolve_of_require led] at led
      have cleared := runs_removeTree wellFormed cleanable.within led removed
      rw [cleared.node?, if_pos inside]

example : StrictlyBelow ((Path.parse "old/../site").resolve ["work"])
    ((Path.parse "./site/src/../public").resolve ["work"]) := by decide

end Removing

end Build

end StaticSite
