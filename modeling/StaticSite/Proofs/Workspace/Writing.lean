import StaticSite.Proofs.FileTree.Opening
import StaticSite.Proofs.Workspace.Running

/-!
# Writing and removing files

A file is written into or removed from a directory that opens already by one change at its
name there; no directory is made for it.
-/

namespace StaticSite

namespace Action

open FileTree

variable {before after : Workspace} {directory path : Path} {location target : Location}
  {name text : Text} {value : Unit}

theorem runs_makeDirectory :
    Runs (makeDirectory path) before value after ↔
      ∃ location, before.files.require path = .ok location ∧
        before.files.node? location = none ∧
        after = before.edited (.makeDirectory location) := by
  unfold makeDirectory
  simp only [runs_bind, runs_inspect, runs_get]
  constructor
  · rintro ⟨location, _, ⟨required, rfl⟩, _, _, ⟨rfl, rfl⟩, ran⟩
    split at ran
    · exact absurd ran not_runs_throw
    · next missing => exact ⟨location, required, missing, runs_commit.1 ran⟩
  · rintro ⟨location, required, missing, rfl⟩
    refine ⟨location, before, ⟨required, rfl⟩, before, before, ⟨rfl, rfl⟩, ?_⟩
    rw [missing]
    exact runs_commit.2 rfl

theorem fails_makeDirectory (opens : before.files.Opens path location) :
    Fails (makeDirectory path) before (.refused .exists path.text) before := by
  unfold Fails makeDirectory
  rw [perform_bind, perform_inspect, opens.1]
  simp only
  rw [perform_bind]
  have asked : (get : Action Workspace).perform before = (.ok before, before) := rfl
  simp only [asked, opens.2]
  rfl

theorem fails_makeDirectory_of_opens (opens : before.files.Opens path location) {fault : Fault}
    (failed : Fails (makeDirectory path) before fault after) :
    fault = .refused .exists path.text ∧ after = before := by
  have performed := (fails_makeDirectory opens).symm.trans failed
  cases performed
  exact ⟨rfl, rfl⟩

theorem not_runs_makeDirectory_of_opens (opens : before.files.Opens path location) :
    ¬ Runs (makeDirectory path) before value after := by
  intro ran
  obtain ⟨other, required, missing, -⟩ := runs_makeDirectory.1 ran
  rw [opens.1, Except.ok.injEq] at required
  rw [← required, opens.2] at missing
  cases missing

theorem runs_rescue_of_opens (opens : before.files.Opens path location)
    {rescue : Fault → Action Unit}
    (ran : Runs (tryCatch (makeDirectory path) rescue) before value after) :
    Runs (rescue (.refused .exists path.text)) before value after := by
  rcases runs_tryCatch.1 ran with made | ⟨fault, middle, failed, rescued⟩
  · exact absurd made (not_runs_makeDirectory_of_opens opens)
  · obtain ⟨rfl, rfl⟩ := fails_makeDirectory_of_opens opens failed
    exact rescued

theorem runs_makeDirectories (opens : before.files.Opens path location) :
    Runs (makeDirectories path) before () before := by
  have checked : Runs (do
      if ← inspect (·.isDirectory path) then pure () else throw (.refused .exists path.text))
      before () before :=
    runs_bind.2 ⟨true, before, runs_inspect.2 ⟨isDirectory_of_opens opens, rfl⟩, rfl⟩
  have failed := fails_makeDirectory opens
  unfold makeDirectories
  cases parts : path.parts.reverse with
  | nil =>
      have whole : path = ⟨path.anchor, []⟩ := by
        rw [← List.reverse_eq_nil_iff.1 parts]
      rw [makeDirectoriesAlong, ← whole]
      exact runs_tryCatch.2 (Or.inr ⟨_, _, failed, checked⟩)
  | cons part rest =>
      have whole : path = ⟨path.anchor, (part :: rest).reverse⟩ := by
        rw [← parts, List.reverse_reverse]
      rw [makeDirectoriesAlong, ← whole]
      exact runs_tryCatch.2 (Or.inr ⟨_, _, failed, checked⟩)

/-- A directory that exists is not made again. -/
theorem runs_makeDirectories_of_opens (opens : before.files.Opens path location)
    (ran : Runs (makeDirectories path) before value after) : after = before := by
  unfold makeDirectories at ran
  have checked : ∀ fault, OnlyReads (do
      if ← inspect (·.isDirectory path) then pure () else throw fault) := by
    intro fault
    apply (onlyReads_inspect _).bind
    intro answer
    split
    · exact onlyReads_pure ()
    · exact onlyReads_throw fault
  cases parts : path.parts.reverse with
  | nil =>
      have whole : path = ⟨path.anchor, []⟩ := by
        rw [← List.reverse_eq_nil_iff.1 parts]
      rw [parts, makeDirectoriesAlong, ← whole] at ran
      exact checked _ _ _ _ (runs_rescue_of_opens opens ran)
  | cons part rest =>
      have whole : path = ⟨path.anchor, (part :: rest).reverse⟩ := by
        rw [← parts, List.reverse_reverse]
      rw [parts, makeDirectoriesAlong, ← whole] at ran
      exact checked _ _ _ _ (runs_rescue_of_opens opens ran)

theorem runs_writeBytes {content : Bytes} (ran : Runs (writeBytes path content) before value after) :
    ∃ location, before.files.require path = .ok location ∧
      before.files.node? location ≠ some .directory ∧
      after = before.edited (.write location content before.clock) := by
  unfold writeBytes at ran
  simp only [runs_bind, runs_inspect, runs_get] at ran
  obtain ⟨location, _, ⟨required, rfl⟩, _, _, ⟨rfl, rfl⟩, written⟩ := ran
  refine ⟨location, required, ?_⟩
  split at written
  · exact absurd written not_runs_throw
  · next other =>
      simp only [runs_bind, runs_get, runs_commit] at written
      obtain ⟨_, _, ⟨rfl, rfl⟩, rfl⟩ := written
      exact ⟨fun directory => other directory, rfl⟩

/-- Where a text is written whose directory opens. -/
theorem runs_writeText (opens : before.files.Opens path.parent location)
    (ran : Runs (writeText path text) before value after) :
    ∃ target, before.files.require path = .ok target ∧
      before.files.node? target ≠ some .directory ∧
      after = before.edited (.write target (Utf8.encode text) before.clock) := by
  unfold writeText at ran
  obtain ⟨_, middle, made, written⟩ := runs_bind.1 ran
  obtain rfl := runs_makeDirectories_of_opens opens made
  exact runs_writeBytes written

theorem runs_writeText_child (opens : before.files.Opens directory location)
    (isName : IsName name) (ran : Runs (writeText (directory.child name) text) before value after) :
    before.files.require (directory.child name) = .ok (location ++ [name]) ∧
      before.files.node? (location ++ [name]) ≠ some .directory ∧
      after = before.edited (.write (location ++ [name]) (Utf8.encode text) before.clock) := by
  have parent : before.files.Opens (directory.child name).parent location := by
    rwa [Path.parent_child]
  obtain ⟨target, required, file, edited⟩ := runs_writeText parent ran
  obtain rfl := opens.eq_of_require_child isName required
  exact ⟨required, file, edited⟩

/-- A text may be written wherever a name leads from a directory, unless to a directory. -/
theorem runs_writeText_of_require (opens : before.files.Opens directory location)
    (required : before.files.require (directory.child name) = .ok target)
    (free : before.files.node? target ≠ some .directory) :
    Runs (writeText (directory.child name) text) before ()
      (before.edited (.write target (Utf8.encode text) before.clock)) := by
  have parent : before.files.Opens (directory.child name).parent location := by
    rwa [Path.parent_child]
  rw [writeText, runs_bind]
  refine ⟨(), before, runs_makeDirectories parent, ?_⟩
  unfold writeBytes
  simp only [runs_bind, runs_inspect, runs_get]
  refine ⟨target, before, ⟨required, rfl⟩, before, before, ⟨rfl, rfl⟩, ?_⟩
  split
  · next directory => exact absurd directory free
  · simp only [runs_bind, runs_get, runs_commit]
    exact ⟨before, before, ⟨rfl, rfl⟩, rfl⟩

theorem runs_removeFile (ran : Runs (removeFile path) before value after) :
    ∃ location, before.files.require path = .ok location ∧ before.files.HasFile location ∧
      after = before.edited (.remove location) := by
  unfold removeFile at ran
  simp only [runs_bind, runs_inspect, runs_get] at ran
  obtain ⟨location, _, ⟨required, rfl⟩, _, _, ⟨rfl, rfl⟩, removed⟩ := ran
  refine ⟨location, required, ?_⟩
  split at removed
  · next content modified file => exact ⟨⟨content, modified, file⟩, runs_commit.1 removed⟩
  · exact absurd removed not_runs_throw
  · exact absurd removed not_runs_throw

theorem runs_removeFile_of_require (required : before.files.require path = .ok target)
    (file : before.files.HasFile target) :
    Runs (removeFile path) before () (before.edited (.remove target)) := by
  obtain ⟨content, modified, there⟩ := file
  unfold removeFile
  simp only [runs_bind, runs_inspect, runs_get]
  refine ⟨target, before, ⟨required, rfl⟩, before, before, ⟨rfl, rfl⟩, ?_⟩
  rw [there]
  exact runs_commit.2 rfl

theorem runs_removeFile_child (opens : before.files.Opens directory location)
    (isName : IsName name) (ran : Runs (removeFile (directory.child name)) before value after) :
    before.files.HasFile (location ++ [name]) ∧
      after = before.edited (.remove (location ++ [name])) := by
  obtain ⟨target, required, file, edited⟩ := runs_removeFile ran
  obtain rfl := opens.eq_of_require_child isName required
  exact ⟨file, edited⟩

end Action

end StaticSite
