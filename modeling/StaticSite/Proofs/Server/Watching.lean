import StaticSite.Proofs.Server.Session

/-!
# What a look for the latest change comes to

Files below the watched directories only grow newer.  So whatever happens while the server looks for
the latest change, it comes to every change that there was when it began.
-/

namespace StaticSite

namespace Server

open FileTree Relation

/-- The watched directories can be looked at, what is below them lies in them, and the output is
not on the way. -/
structure Watchable (root : Path) (files : FileTree) : Prop where
  avoids : root.Avoids files.here (Build.outputLocation root files)
  required : ∀ directory ∈ watchedRoots root,
    files.require directory = .ok (directory.resolve files.here)
  grounded : ∀ directory ∈ watchedRoots root, ∀ place,
    directory.resolve files.here <+: place → place ≠ directory.resolve files.here →
      files.node? place ≠ none → files.node? (directory.resolve files.here) = some .directory

/-- A watched file was changed at a time or later. -/
def Held (root : Path) (files : FileTree) (place : Location) (time : Int) : Prop :=
  IsWatched root files place ∧ ∃ seen, time ≤ seen ∧ ChangedAt files place seen

/-- A change at a time or later can be found. -/
def Known (root : Path) (files : FileTree) (time : Int) : Prop :=
  ∃ place, Held root files place time

section Directories

variable {root directory : Path} {files changed : FileTree} {place : Location} {time : Int}

theorem exists_name_of_watched (watched : directory ∈ watchedRoots root) :
    ∃ name, IsName name ∧ name ≠ Context.outputName ∧ directory = root.child name := by
  simp only [watchedRoots, List.mem_cons, List.not_mem_nil, or_false] at watched
  rcases watched with rfl | rfl | rfl
  · exact ⟨Context.sourceName, by decide, by decide, rfl⟩
  · exact ⟨Context.templatesName, by decide, by decide, rfl⟩
  · exact ⟨Context.componentsName, by decide, by decide, rfl⟩

theorem apart_of_watched (watched : directory ∈ watchedRoots root)
    (inside : directory.resolve files.here <+: place) :
    ¬ Build.outputLocation root files <+: place := by
  obtain ⟨name, isName, other, rfl⟩ := exists_name_of_watched watched
  rw [Path.resolve_child _ _ isName] at inside
  obtain ⟨rest, rfl⟩ := inside
  intro below
  rw [Build.outputLocation, List.append_assoc, List.prefix_append_right_inj] at below
  exact other (List.cons_prefix_cons.1 below).1.symm

theorem Watchable.confined (watchable : Watchable root files)
    (agree : AgreeOutside (Build.outputLocation root files) files changed) :
    Watchable root changed := by
  have places : Build.outputLocation root changed = Build.outputLocation root files := by
    rw [Build.outputLocation, Build.outputLocation, agree.here]
  refine ⟨by rw [places, agree.here]; exact watchable.avoids, ?_, ?_⟩
  · intro directory watched
    rw [agree.here, ← watchable.required directory watched]
    obtain ⟨name, isName, other, rfl⟩ := exists_name_of_watched watched
    refine agree.require_eq (watchable.avoids.beside isName ?_ (by simp))
    intro inner
    refine apart_of_watched watched ⟨inner, ?_⟩
    rw [Path.resolve_child _ _ isName, List.append_assoc]
    rfl
  · intro directory watched place inside strict found
    rw [agree.here] at inside strict ⊢
    rw [agree.node?_eq _ (apart_of_watched watched inside)] at found
    rw [agree.node?_eq _ (apart_of_watched watched (List.prefix_refl _))]
    exact watchable.grounded directory watched place inside strict found

theorem isDirectory_of_cachedFiles {before after : Workspace} {paths : List Path}
    (ran : (Build.cachedFiles directory).Runs before paths after) :
    ∃ answer, before.files.isDirectory directory = .ok answer := by
  unfold Build.cachedFiles at ran
  obtain ⟨answer, _, asking, -⟩ := Action.runs_bind.1 ran
  exact ⟨answer, (Action.runs_inspect.1 asking).1⟩

theorem isDirectory_of_prepare {request : Build.Request} {context : Context}
    {before after : Workspace} (ran : (Build.prepare request).Runs before context after) :
    (∃ answer, before.files.isDirectory (request.root.child Context.templatesName) = .ok answer) ∧
      ∃ answer,
        before.files.isDirectory (request.root.child Context.componentsName) = .ok answer := by
  unfold Build.prepare Build.loadTemplates Build.loadComponents at ran
  simp only [Action.runs_bind, Action.runs_inspect] at ran
  obtain ⟨config, _, ⟨-, rfl⟩, templates, middle, ⟨paths, listed, listing, loading⟩, components,
    last, ⟨others, further, also, -⟩, -⟩ := ran
  have first : listed = before := Build.onlyReads_cachedFiles _ _ _ _ listing
  have second : middle = listed := Build.onlyReads_loadFiles _ _ _ _ _ _ _ loading
  have asked := isDirectory_of_cachedFiles also
  rw [second, first] at asked
  exact ⟨isDirectory_of_cachedFiles listing, asked⟩

/-- A tree that grows where directories are can still be watched. -/
theorem Watchable.grown (watchable : Watchable root files) (here : changed.here = files.here)
    (kept : ∀ place, files.node? place = some .directory → changed.node? place = some .directory)
    (lies : ∀ place, changed.node? place ≠ none →
      files.node? place ≠ none ∨ files.node? place.dropLast = some .directory) :
    Watchable root changed := by
  have places : Build.outputLocation root changed = Build.outputLocation root files := by
    rw [Build.outputLocation, Build.outputLocation, here]
  refine ⟨by rw [places, here]; exact watchable.avoids, ?_, ?_⟩
  · intro directory watched
    rw [here]
    exact require_of_directories here kept (watchable.required directory watched)
  · intro directory watched place inside strict found
    rw [here] at inside strict ⊢
    refine kept _ ?_
    rcases lies place found with before | parent
    · exact watchable.grounded directory watched place inside strict before
    · obtain ⟨rest, rfl⟩ := inside
      have further : rest ≠ [] := by
        rintro rfl
        exact strict (List.append_nil _)
      rw [List.dropLast_append_of_ne_nil further] at parent
      by_cases last : rest.dropLast = []
      · rwa [last, List.append_nil] at parent
      · exact watchable.grounded directory watched _ ⟨_, rfl⟩ (by simpa using last)
          (by rw [parent]; simp)

theorem isWatched_of_mem_listing (watched : directory ∈ watchedRoots root)
    (listed : place ∈ listing files directory) : IsWatched root files place := by
  unfold listing at listed
  split at listed
  · next location required =>
      split at listed
      · obtain ⟨⟨parts, node⟩, member, chosen⟩ := List.mem_filterMap.1 listed
        have longer := (mem_entriesBelow.1 member).1
        cases node with
        | directory => simp at chosen
        | file content modified =>
            obtain rfl : location ++ parts = place := by simpa using chosen
            obtain rfl := eq_resolve_of_require required
            exact ⟨directory, watched, ⟨parts, rfl⟩, by simpa using longer⟩
      · simp at listed
  · simp at listed

theorem mem_listing (watchable : Watchable root files) (watched : directory ∈ watchedRoots root)
    (inside : directory.resolve files.here <+: place)
    (strict : place ≠ directory.resolve files.here)
    (file : ChangedAt files place time) : place ∈ listing files directory := by
  obtain ⟨content, found⟩ := file
  have there := watchable.grounded directory watched place inside strict (by simp [found])
  obtain ⟨parts, rfl⟩ := inside
  have longer : parts ≠ [] := by
    rintro rfl
    exact strict (List.append_nil _)
  have member := mem_entriesBelow.2 ⟨longer, mem_of_node? found (by simp [longer])⟩
  unfold listing
  rw [watchable.required directory watched]
  simp only [there, if_true]
  exact List.mem_filterMap.2 ⟨_, member, rfl⟩

/-- What a build succeeds with can be watched. -/
theorem watchable_of_site {request : Build.Request} {result : Build.Result}
    {before after : Workspace} (wellFormed : before.files.WellFormed)
    (built : (Build.site request).Runs before result after) :
    Watchable request.root before.files := by
  obtain ⟨stages, -, -⟩ := Build.exists_stages built
  obtain ⟨-, sameRoot, -, -⟩ := Build.runs_prepare stages.prepares
  obtain ⟨asked, -⟩ := Build.runs_refresh_iff.1 stages.refreshes
  have avoids := Build.avoids_of_refresh wellFormed stages.refreshes
  have opens := (Build.opens_of_sourceDirectory asked).1
  rw [Context.sourceDirectory, sameRoot] at asked
  rw [sameRoot] at avoids opens
  obtain ⟨templates, components⟩ := isDirectory_of_prepare stages.prepares
  refine ⟨avoids, ?_, ?_⟩
  · intro directory watched
    obtain ⟨answer, answered⟩ : ∃ answer, before.files.isDirectory directory = .ok answer := by
      simp only [watchedRoots, List.mem_cons, List.not_mem_nil, or_false] at watched
      rcases watched with rfl | rfl | rfl
      · exact ⟨true, asked⟩
      · exact templates
      · exact components
    obtain ⟨name, isName, -, rfl⟩ := exists_name_of_watched watched
    rw [Path.resolve_child _ _ isName]
    unfold isDirectory at answered
    cases probed : before.files.probe (request.root.child name) with
    | error fault =>
        rw [probed] at answered
        cases answered
    | ok found => exact (opens.probe_child isName probed).1
  · intro directory watched place inside strict found
    obtain ⟨parts, rfl⟩ := inside
    exact wellFormed.node?_above found (by simpa using strict)

end Directories

/-- Files go over into others in which every change that could be found can be found. -/
structure Grows (root : Path) (files changed : FileTree) : Prop where
  here : changed.here = files.here
  held : ∀ place time, Held root files place time → Held root changed place time

/-- What may happen to the files and the edits at a stage: the files grow, and there may be a new
edit, later than every change before, that accounts for what is new. -/
structure Happens (root : Path) (stage : Stage) (files changed : FileTree)
    (edits later : List Made) : Prop where
  grows : Grows root files changed
  kept : ∀ made ∈ edits, made ∈ later
  added : ∀ made ∈ later, made ∈ edits ∨
    (made.stage = stage ∧ made.ticked = false ∧ made.built = false) ∧
      Known root changed made.time ∧ ∀ earlier, Known root files earlier → earlier < made.time
  covered : ∀ time, Known root changed time →
    Known root files time ∨ ∃ made ∈ later, time ≤ made.time

section Changes

variable {root : Path} {files changed : FileTree} {stage : Stage} {edits later : List Made}
  {folder : Location} {name : Text}

theorem Grows.known (grows : Grows root files changed) {time : Int}
    (known : Known root files time) : Known root changed time := by
  obtain ⟨place, held⟩ := known
  exact ⟨place, grows.held place time held⟩

/-- Nothing happens to the edits when all watched files stay as they are. -/
theorem happens_of_same (here : changed.here = files.here)
    (same : ∀ place time, IsWatched root files place →
      (ChangedAt changed place time ↔ ChangedAt files place time)) :
    Happens root stage files changed edits edits := by
  have watched : ∀ place, IsWatched root changed place ↔ IsWatched root files place := by
    intro place
    rw [IsWatched, IsWatched, here]
  refine ⟨⟨here, ?_⟩, fun _ member => member, fun _ member => Or.inl member, ?_⟩
  · rintro place time ⟨inside, seen, late, file⟩
    exact ⟨(watched place).2 inside, seen, late, (same place seen inside).2 file⟩
  · rintro time ⟨place, inside, seen, late, file⟩
    have before := (watched place).1 inside
    exact Or.inl ⟨place, before, seen, late, (same place seen before).1 file⟩

theorem happens_confined (agree : AgreeOutside (Build.outputLocation root files) files changed) :
    Happens root stage files changed edits edits := by
  refine happens_of_same agree.here fun place time watched => ?_
  obtain ⟨directory, member, inside, -⟩ := watched
  rw [ChangedAt, ChangedAt, agree.node?_eq place (apart_of_watched member inside)]

theorem happens_makeDirectory (free : files.node? (folder ++ [name]) = none) :
    Happens root stage files (files.apply (.makeDirectory (folder ++ [name]))) edits edits := by
  refine happens_of_same rfl fun place time _ => ?_
  rw [ChangedAt, ChangedAt, FileTree.apply, node?_set (by simp)]
  split
  · next same => simp [same, free]
  · rfl

theorem happens_edit {content : Bytes} {time : Int}
    (watched : IsWatched root files (folder ++ [name]))
    (newer : ∀ place earlier, IsWatched root files place → ChangedAt files place earlier →
      earlier < time) :
    Happens root stage files (files.apply (.write (folder ++ [name]) content time)) edits
      (⟨time, stage, false, false⟩ :: edits) := by
  have node : ∀ other, (files.apply (.write (folder ++ [name]) content time)).node? other =
      if other = folder ++ [name] then some (.file content time) else files.node? other :=
    fun other => node?_set (by simp)
  have written : ChangedAt (files.apply (.write (folder ++ [name]) content time)) (folder ++ [name])
      time := ⟨content, by rw [node, if_pos rfl]⟩
  refine ⟨⟨rfl, ?_⟩, fun _ member => List.mem_cons_of_mem _ member, ?_, ?_⟩
  · rintro place earlier ⟨inside, seen, late, file⟩
    refine ⟨inside, ?_⟩
    by_cases same : place = folder ++ [name]
    · subst same
      exact ⟨time, late.trans (newer _ _ inside file).le, written⟩
    · obtain ⟨old, found⟩ := file
      exact ⟨seen, late, old, by rw [node, if_neg same, found]⟩
  · intro made member
    rcases List.mem_cons.1 member with rfl | before
    · refine Or.inr ⟨⟨rfl, rfl, rfl⟩, ⟨_, watched, time, le_rfl, written⟩, ?_⟩
      rintro earlier ⟨place, inside, seen, late, file⟩
      exact late.trans_lt (newer place seen inside file)
    · exact Or.inl before
  · rintro found ⟨place, inside, seen, late, old, file⟩
    rw [node] at file
    split at file
    · obtain ⟨-, rfl⟩ : content = old ∧ time = seen := by simpa using file
      exact Or.inr ⟨_, List.mem_cons_self, late⟩
    · exact Or.inl ⟨place, inside, seen, late, old, file⟩

theorem Watchable.set {node : Node} (watchable : Watchable root files)
    (parent : files.node? folder = some .directory)
    (kept : files.node? (folder ++ [name]) = some .directory → node = .directory) :
    Watchable root (files.set (folder ++ [name]) node) := by
  refine watchable.grown rfl ?_ ?_
  · intro place directory
    rw [node?_set (by simp)]
    split
    · next same => rw [kept (same ▸ directory)]
    · exact directory
  · intro place found
    rw [node?_set (by simp)] at found
    split at found
    · next same => exact Or.inr (by rw [same, List.dropLast_concat, parent])
    · exact Or.inl found

end Changes

namespace Scan

/-- A look will come to a time at least that late: it has come to one, or the file is still to be
looked at. -/
def Sees (root : Path) (files : FileTree) (scan : Scan) (time : Int) : Prop :=
  time ≤ scan.latest ∨
    ∃ place, Held root files place time ∧
      (place ∈ scan.found ∨ ∃ directory ∈ scan.roots,
        directory.resolve files.here <+: place ∧ place ≠ directory.resolve files.here)

/-- A look stays among the watched files, and comes to no other times than theirs. -/
structure Sound (root : Path) (files : FileTree) (scan : Scan) : Prop where
  nonneg : 0 ≤ scan.latest
  reached : scan.latest ≤ 0 ∨ Known root files scan.latest
  found : ∀ place ∈ scan.found, IsWatched root files place
  roots : ∀ directory ∈ scan.roots, directory ∈ watchedRoots root

variable {root : Path} {files changed : FileTree} {scan further : Scan} {time : Int}

theorem sound_begin : (begin root).Sound root files :=
  ⟨le_rfl, Or.inl le_rfl, by simp [begin], fun _ member => member⟩

theorem sees_begin (known : Known root files time) : (begin root).Sees root files time := by
  obtain ⟨place, watched, late⟩ := known
  exact Or.inr ⟨place, ⟨watched, late⟩, Or.inr watched⟩

theorem Sees.le_latest (sees : scan.Sees root files time) (done : scan.Done) :
    time ≤ scan.latest := by
  rcases sees with late | ⟨place, -, found | ⟨directory, member, -⟩⟩
  · exact late
  · simp [done.1] at found
  · simp [done.2] at member

theorem Sees.grow (sees : scan.Sees root files time) (grows : Grows root files changed) :
    scan.Sees root changed time := by
  rcases sees with late | ⟨place, held, ahead⟩
  · exact Or.inl late
  · exact Or.inr ⟨place, grows.held place time held, by rwa [grows.here]⟩

theorem Sound.grow (sound : scan.Sound root files) (grows : Grows root files changed) :
    scan.Sound root changed := by
  refine ⟨sound.nonneg, sound.reached.imp_right grows.known, fun place member => ?_, sound.roots⟩
  rw [IsWatched, grows.here]
  exact sound.found place member

theorem Sound.step (sound : scan.Sound root files) (step : scan.Step root files further) :
    further.Sound root files := by
  cases step with
  | list =>
      refine ⟨sound.nonneg, sound.reached, ?_, fun other member =>
        sound.roots other (List.mem_cons_of_mem _ member)⟩
      intro place member
      rcases List.mem_append.1 member with before | listed
      · exact sound.found place before
      · exact isWatched_of_mem_listing (sound.roots _ List.mem_cons_self) listed
  | find watched =>
      refine ⟨sound.nonneg, sound.reached, ?_, sound.roots⟩
      intro place member
      rcases List.mem_cons.1 member with rfl | before
      · exact watched
      · exact sound.found place before
  | @look latest place found roots =>
      have rest : ∀ other ∈ found, IsWatched root files other := fun other member =>
        sound.found other (List.mem_cons_of_mem _ member)
      rcases there : files.node? place with _ | ⟨content, modified⟩ | _
      · simp only [later, there]
        exact ⟨sound.nonneg, sound.reached, rest, sound.roots⟩
      · simp only [later, there]
        refine ⟨le_max_of_le_left sound.nonneg, ?_, rest, sound.roots⟩
        rcases max_choice latest modified with same | same
        · simp only [same]
          exact sound.reached
        · simp only [same]
          have watched := sound.found place List.mem_cons_self
          exact Or.inr ⟨place, watched, modified, le_rfl, content, there⟩
      · simp only [later, there]
        exact ⟨sound.nonneg, sound.reached, rest, sound.roots⟩

theorem le_later (latest : Int) (place : Location) : latest ≤ later files latest place := by
  unfold later
  split
  · exact le_max_left _ _
  · exact le_rfl

theorem Sees.step (sees : scan.Sees root files time) (watchable : Watchable root files)
    (sound : scan.Sound root files) (step : scan.Step root files further) :
    further.Sees root files time := by
  cases step with
  | list =>
      rcases sees with late | ⟨place, held, found | ⟨directory, member, inside, strict⟩⟩
      · exact Or.inl late
      · exact Or.inr ⟨place, held, Or.inl (List.mem_append_left _ found)⟩
      · rcases List.mem_cons.1 member with rfl | after
        · obtain ⟨seen, -, file⟩ := held.2
          have listed := mem_listing watchable (sound.roots _ List.mem_cons_self) inside strict file
          exact Or.inr ⟨place, held, Or.inl (List.mem_append_right _ listed)⟩
        · exact Or.inr ⟨place, held, Or.inr ⟨directory, after, inside, strict⟩⟩
  | find watched =>
      rcases sees with late | ⟨place, held, ahead⟩
      · exact Or.inl late
      · exact Or.inr ⟨place, held, ahead.imp_left (List.mem_cons_of_mem _)⟩
  | @look latest other found roots =>
      rcases sees with late | ⟨place, held, member | ahead⟩
      · exact Or.inl (late.trans (le_later latest other))
      · rcases List.mem_cons.1 member with rfl | after
        · obtain ⟨-, seen, late, content, file⟩ := held
          refine Or.inl (late.trans ?_)
          simp only [later, file]
          exact le_max_right _ _
        · exact Or.inr ⟨place, held, Or.inl after⟩
      · exact Or.inr ⟨place, held, Or.inr ahead⟩

end Scan

end Server

end StaticSite
