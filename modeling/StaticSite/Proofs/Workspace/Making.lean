import StaticSite.Proofs.FileTree.Copying
import StaticSite.Proofs.Workspace.Keeping
import StaticSite.Proofs.Workspace.Writing

/-!
# Making the directories that lead to a place

Directories are made from the first one that is missing on.  When a place is reached by names from a
directory that is there, the directories on the way are all that is new.
-/

namespace StaticSite

namespace Action

open FileTree

variable {before middle after : Workspace} {base directory path : Path} {location place : Location}
  {name folder text : Text} {names : List Text} {fault : Fault} {value : Unit}

/-- A path leads to a directory at a location, and nothing has changed but on the way there. -/
structure Reaches (before after : Workspace) (path : Path) (location : Location) : Prop where
  clock : after.clock = before.clock
  here : after.files.here = before.files.here
  wellFormed : after.files.WellFormed
  opens : after.files.Opens path location
  elsewhere : ∀ other, ¬ other <+: location → after.files.node? other = before.files.node? other

theorem reaches_refl (wellFormed : before.files.WellFormed)
    (opens : before.files.Opens path location) : Reaches before before path location :=
  ⟨rfl, rfl, wellFormed, opens, fun _ _ => rfl⟩

theorem Reaches.child (first : Reaches before middle directory place)
    (last : Reaches middle after (directory.child name) (place ++ [name])) :
    Reaches before after (directory.child name) (place ++ [name]) := by
  refine ⟨last.clock.trans first.clock, last.here.trans first.here, last.wellFormed, last.opens, ?_⟩
  intro other apart
  rw [last.elsewhere other apart, first.elsewhere other]
  exact fun inside => apart (inside.trans (List.prefix_append _ _))

/-- No directory is gone. -/
theorem Reaches.kept (reaches : Reaches before after path location) {other : Location}
    (held : before.files.node? other = some .directory) :
    after.files.node? other = some .directory := by
  by_cases inside : other <+: location
  · obtain ⟨parts, rfl⟩ := inside
    by_cases all : parts = []
    · simpa [all] using reaches.opens.2
    · exact reaches.wellFormed.node?_above (by simp [reaches.opens.2]) all
  · rw [reaches.elsewhere other inside, held]

theorem Reaches.require (reaches : Reaches before after path location) {other : Path}
    (led : before.files.require other = .ok place) : after.files.require other = .ok place :=
  require_of_directories reaches.here (fun _ => reaches.kept) led

theorem Reaches.keeps (reaches : Reaches before after path location) {other : Path}
    (opens : before.files.Opens other place) : after.files.Opens other place :=
  ⟨reaches.require opens.1, reaches.kept opens.2⟩

/-- A directory that cannot be made changes nothing. -/
theorem fails_makeDirectory_cases (failed : Fails (makeDirectory path) before fault after) :
    after = before ∧ (before.files.require path = .error fault ∨
      fault = .refused .exists path.text) := by
  unfold makeDirectory at failed
  simp only [fails_bind, fails_inspect, runs_inspect, runs_get, not_fails_get, false_or] at failed
  rcases failed with ⟨refused, same⟩ | ⟨found, _, ⟨required, rfl⟩, _, _, ⟨rfl, rfl⟩, failed⟩
  · exact ⟨same.symm, Or.inl refused⟩
  · split at failed
    · obtain ⟨reason, same⟩ := fails_throw.1 failed
      exact ⟨same.symm, Or.inr reason.symm⟩
    · exact absurd failed not_fails_commit

theorem reaches_makeDirectory (wellFormed : before.files.WellFormed)
    (opens : before.files.Opens directory place) (isName : IsName name)
    (ran : Runs (makeDirectory (directory.child name)) before value after) :
    Reaches before after (directory.child name) (place ++ [name]) ∧
      before.files.node? (place ++ [name]) = none ∧
      after = before.edited (.makeDirectory (place ++ [name])) := by
  obtain ⟨target, required, missing, rfl⟩ := runs_makeDirectory.1 ran
  obtain rfl := opens.eq_of_require_child isName required
  have within : place ++ [name] ≠ [] := by simp
  have held : ∀ other, (before.edited (.makeDirectory (place ++ [name]))).files.node? other =
      if other = place ++ [name] then some .directory else before.files.node? other :=
    fun other => node?_set within
  refine ⟨⟨rfl, rfl, wellFormed.set opens.2 isName fun _ => rfl, ⟨?_, ?_⟩, ?_⟩, missing, rfl⟩
  · have kept : ∀ other, before.files.node? other = some .directory →
        (before.edited (.makeDirectory (place ++ [name]))).files.node? other = some .directory := by
      intro other there
      rw [held, there, ite_self]
    have here : (before.edited (.makeDirectory (place ++ [name]))).files.here = before.files.here :=
      rfl
    exact require_of_directories here kept required
  · rw [held, if_pos rfl]
  · intro other apart
    rw [held, if_neg]
    rintro rfl
    exact apart (List.prefix_refl _)

/-- A directory that cannot be made may be there. -/
theorem opens_of_checked (ran : Runs (do
      if ← inspect (·.isDirectory path) then pure () else throw fault) before value after) :
    (∃ target, before.files.Opens path target) ∧ after = before := by
  obtain ⟨answer, _, asked, ran⟩ := runs_bind.1 ran
  obtain ⟨known, rfl⟩ := runs_inspect.1 asked
  split at ran
  · next there =>
      subst there
      exact ⟨opens_of_isDirectory known, (runs_pure.1 ran).2.symm⟩
  · exact absurd ran not_runs_throw

theorem reaches_ensureDirectory (wellFormed : before.files.WellFormed)
    (opens : before.files.Opens directory place) (isName : IsName name)
    (ran : Runs (ensureDirectory (directory.child name)) before value after) :
    Reaches before after (directory.child name) (place ++ [name]) := by
  unfold ensureDirectory at ran
  rcases runs_tryCatch.1 ran with made | ⟨fault, middle, failed, rescued⟩
  · exact (reaches_makeDirectory wellFormed opens isName made).1
  · obtain ⟨rfl, -⟩ := fails_makeDirectory_cases failed
    split at rescued
    · obtain ⟨⟨target, opened⟩, rfl⟩ := opens_of_checked rescued
      obtain rfl := opens.eq_of_require_child isName opened.1
      exact reaches_refl wellFormed opened
    · exact absurd rescued not_runs_throw

theorem makeDirectories_child (directory : Path) (name : Text) :
    makeDirectories (directory.child name) =
      tryCatch (makeDirectory (directory.child name)) fun fault =>
        match fault with
        | .file (.refused .missing _) => do
          makeDirectories directory
          ensureDirectory (directory.child name)
        | .file _ => do
          if ← inspect (·.isDirectory (directory.child name)) then pure () else throw fault
        | _ => throw fault := by
  have parts : (directory.child name).parts.reverse = name :: directory.parts.reverse := by
    simp [Path.child]
  have whole : (⟨directory.anchor, (name :: directory.parts.reverse).reverse⟩ : Path) =
      directory.child name := by
    simp [Path.child]
  have along := makeDirectoriesAlong.eq_2 directory.anchor name directory.parts.reverse
  rw [whole] at along
  unfold makeDirectories
  rw [parts]
  exact along

/-- Names lead on from where a path leads. -/
theorem eq_of_require_extend {files : FileTree} {target : Location}
    (opens : files.Opens base location) (areNames : ∀ name ∈ names, IsName name)
    (led : files.require (base.extend names) = .ok target) : target = location ++ names := by
  rw [eq_resolve_of_require led, Path.resolve_extend _ _ areNames, ← eq_resolve_of_require opens.1]

/-- Nothing that leads to a name is missing where its directory opens. -/
theorem not_missing_of_opens {files : FileTree} {text : Text}
    (opens : files.Opens directory place) (isName : IsName name) :
    files.require (directory.child name) ≠ .error (.refused .missing text) := by
  intro missing
  have noNull : hasNull (directory.child name) = false := by
    rw [hasNull_child directory isName]
    exact (require_eq_ok_iff.1 opens.1).1
  rcases opens.locate_child isName with led | long
  · cases (require_eq_ok_iff.2 ⟨noNull, led⟩).symm.trans missing
  · rw [FileTree.require, noNull, long] at missing
    cases missing

/-- Directories are made by names from a directory on.  The last one was there before, or nothing
was in its place. -/
theorem reaches_makeDirectories (wellFormed : before.files.WellFormed)
    (opens : before.files.Opens base location) (areNames : ∀ name ∈ names, IsName name)
    (ran : Runs (makeDirectories (base.extend names)) before value after) :
    Reaches before after (base.extend names) (location ++ names) ∧
      (before.files.Opens (base.extend names) (location ++ names) ∨
        before.files.node? (location ++ names) = none) := by
  induction names using List.reverseRecOn generalizing after value with
  | nil =>
      rw [Path.extend_nil, List.append_nil] at *
      obtain rfl := runs_makeDirectories_of_opens opens ran
      exact ⟨reaches_refl wellFormed opens, Or.inl opens⟩
  | append_singleton names name ih =>
      have isName : IsName name := areNames name (by simp)
      have inner : ∀ other ∈ names, IsName other :=
        fun other member => areNames other (List.mem_append_left _ member)
      rw [← Path.child_extend, ← List.append_assoc]
      rw [← Path.child_extend, makeDirectories_child] at ran
      -- A path of names that leads on opens the directory before its last name.
      have parent : ∀ target, before.files.require ((base.extend names).child name) = .ok target →
          before.files.Opens (base.extend names) (location ++ names) := by
        intro target led
        obtain ⟨place, opened, -⟩ := opens_of_require_child isName led
        rwa [eq_of_require_extend opens inner opened.1] at opened
      rcases runs_tryCatch.1 ran with made | ⟨fault, middle, failed, rescued⟩
      · obtain ⟨target, required, -⟩ := runs_makeDirectory.1 made
        obtain ⟨reaches, missing, -⟩ :=
          reaches_makeDirectory wellFormed (parent _ required) isName made
        exact ⟨reaches, Or.inr missing⟩
      · obtain ⟨rfl, why⟩ := fails_makeDirectory_cases failed
        split at rescued
        · obtain ⟨_, middle, ran, ensured⟩ := runs_bind.1 rescued
          obtain ⟨reaches, fresh⟩ := ih inner ran
          have last := reaches_ensureDirectory reaches.wellFormed reaches.opens isName ensured
          refine ⟨reaches.child last, Or.inr ?_⟩
          rcases fresh with opened | missing
          · rcases why with refused | other
            · exact absurd refused (not_missing_of_opens opened isName)
            · cases other
          · have empty := (Cleared.of_missing wellFormed missing).node? (location ++ names ++ [name])
            rw [if_pos (List.prefix_append _ _)] at empty
            exact empty
        · obtain ⟨⟨target, opened⟩, rfl⟩ := opens_of_checked rescued
          have above := parent _ opened.1
          obtain rfl := above.eq_of_require_child isName opened.1
          exact ⟨reaches_refl wellFormed opened, Or.inl opened⟩
        · exact absurd rescued not_runs_throw

/-- A text is written to a file when the directories that lead there are made. -/
theorem reaches_writeText (wellFormed : before.files.WellFormed)
    (opens : before.files.Opens base location) (areNames : ∀ name ∈ names, IsName name)
    (isName : IsName name)
    (ran : Runs (writeText ((base.extend names).child name) text) before value after) :
    ∃ middle, Reaches before middle (base.extend names) (location ++ names) ∧
      (before.files.Opens (base.extend names) (location ++ names) ∨
        before.files.node? (location ++ names) = none) ∧
      middle.files.require ((base.extend names).child name) = .ok (location ++ names ++ [name]) ∧
      middle.files.node? (location ++ names ++ [name]) ≠ some .directory ∧
      after =
        middle.edited (.write (location ++ names ++ [name]) (Utf8.encode text) before.clock) := by
  unfold writeText at ran
  obtain ⟨_, middle, made, written⟩ := runs_bind.1 ran
  rw [Path.parent_child] at made
  obtain ⟨reaches, fresh⟩ := reaches_makeDirectories wellFormed opens areNames made
  obtain ⟨target, required, file, edited⟩ := runs_writeBytes written
  obtain rfl := reaches.opens.eq_of_require_child isName required
  rw [reaches.clock] at edited
  exact ⟨middle, reaches, fresh, required, file, edited⟩

/-- A text can be written into a directory that is not there yet, if its path is not too long. -/
theorem exists_writeText (wellFormed : before.files.WellFormed)
    (opens : before.files.Opens directory place) (isFolder : IsName folder) (isName : IsName name)
    (missing : before.files.node? (place ++ [folder]) = none)
    (shortFolder : (Utf8.encode folder).length ≤ longestName)
    (short : (Utf8.encode name).length ≤ longestName)
    (fits : (Utf8.encode ((directory.child folder).child name).text).length ≤ longestPath) :
    ∃ after, Runs (writeText ((directory.child folder).child name) text) before () after := by
  have led : before.files.require (directory.child folder) = .ok (place ++ [folder]) :=
    opens.require_child isFolder shortFolder
      ((Path.length_encode_text_le (directory.child folder) isName.1).trans fits)
  have made : Runs (makeDirectory (directory.child folder)) before () _ :=
    runs_makeDirectory.2 ⟨_, led, missing, rfl⟩
  obtain ⟨reaches, -⟩ := reaches_makeDirectory wellFormed opens isFolder made
  have free : (before.edited (.makeDirectory (place ++ [folder]))).files.node?
      (place ++ [folder] ++ [name]) ≠ some .directory := by
    have below : ¬ place ++ [folder] ++ [name] <+: place ++ [folder] := fun inside => by
      simpa using inside.length_le
    rw [reaches.elsewhere _ below, (Cleared.of_missing wellFormed missing).node?,
      if_pos (List.prefix_append _ _)]
    nofun
  have wrote : Runs (writeText ((directory.child folder).child name) text) _ () _ :=
    runs_writeText_of_require reaches.opens (reaches.opens.require_child isName short fits) free
  obtain ⟨_, middle, still, written⟩ := runs_bind.1 wrote
  rw [Path.parent_child] at still
  obtain rfl := runs_makeDirectories_of_opens reaches.opens still
  refine ⟨_, runs_bind.2 ⟨(), _, ?_, written⟩⟩
  rw [Path.parent_child, makeDirectories_child]
  exact runs_tryCatch.2 (Or.inl made)

end Action

end StaticSite
