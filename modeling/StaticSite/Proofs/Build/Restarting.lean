import StaticSite.Proofs.Build.Preparing
import StaticSite.Proofs.Workspace.Mirroring

/-!
# Starting a build in a mirror

Whether the output directory can be made afresh depends on the directories and on what is in the
place of the output, and making it afresh only edits files.  What a build reads beside the sources
is read in the same way in a mirror of the project.
-/

namespace StaticSite

open StaticSite.Action FileTree

namespace Action

variable {first second after : Workspace} {path source : Path} {location : Location} {value : Unit}

theorem edits_removeTree (ran : Runs (removeTree path) first value after) : first.Edits after := by
  obtain ⟨location, -, -, -, -, rfl⟩ := runs_removeTree_iff.1 ran
  exact Workspace.Edits.trans ⟨_, rfl⟩ (Workspace.edits_edited _ _)

theorem edits_copyTree (there : first.files.exists? path.parent = .ok true)
    (ran : Runs (copyTree source path) first value after) : first.Edits after := by
  obtain ⟨location, target, -, -, -, -, rfl⟩ := (runs_copyTree_iff there).1 ran
  exact (Workspace.edits_edited first _).trans ⟨_, rfl⟩

theorem sameDirectories_emptied (same : SameDirectories first.files second.files)
    (firstFormed : first.files.WellFormed) (secondFormed : second.files.WellFormed)
    (within : location ≠ []) :
    SameDirectories ((removalsBelow first.files location).foldl FileTree.apply first.files)
      ((removalsBelow second.files location).foldl FileTree.apply second.files) := by
  refine ⟨by rw [here_emptied, here_emptied, same.here], fun other => ?_⟩
  rw [node?_emptied firstFormed within, node?_emptied secondFormed within]
  split
  · rfl
  · exact same.directory_iff other

/-- A directory can be removed where the directories are the same. -/
theorem exists_removeTree (same : SameDirectories first.files second.files)
    (firstFormed : first.files.WellFormed) (secondFormed : second.files.WellFormed)
    (within : location ≠ []) (required : first.files.require path = .ok location)
    (ran : Runs (removeTree path) first value after) :
    ∃ last, Runs (removeTree path) second () last := by
  obtain ⟨other, led, directory, named, again, -⟩ := runs_removeTree_iff.1 ran
  rw [required, Except.ok.injEq] at led
  subst led
  have emptied := sameDirectories_emptied same firstFormed secondFormed within
  exact ⟨_, runs_removeTree_iff.2 ⟨location, same.require required,
    (same.directory_iff _).2 directory, named, emptied.require again, rfl⟩⟩

/-- A directory can be copied where the directories are the same and nothing is in its place. -/
theorem exists_copyTree (same : SameDirectories first.files second.files)
    (there : first.files.exists? path.parent = .ok true)
    (alsoThere : second.files.exists? path.parent = .ok true)
    (free : ∀ target, first.files.node? target = none → first.files.require path = .ok target →
      second.files.node? target = none)
    (within : first.files.require path ≠ .ok [])
    (ran : Runs (copyTree source path) first value after) :
    ∃ last, Runs (copyTree source path) second () last := by
  obtain ⟨location, target, required, led, missing, again, -⟩ := (runs_copyTree_iff there).1 ran
  have below : target ≠ [] := by
    rintro rfl
    exact within led
  have made : SameDirectories (first.files.apply (.makeDirectory target))
      (second.files.apply (.makeDirectory target)) := by
    refine ⟨same.here, fun other => ?_⟩
    rw [FileTree.apply, FileTree.apply, node?_set below, node?_set below]
    split
    · rfl
    · exact same.directory_iff other
  exact ⟨_, (runs_copyTree_iff alsoThere).2 ⟨location, target, same.require required,
    same.require led, free target missing led, made.require again, rfl⟩⟩

end Action

namespace Build

variable {first second after : Workspace} {request : Request} {context : Context}
  {location : Location}

section Refresh

variable (same : SameDirectories first.files second.files)
  (firstFormed : first.files.WellFormed) (secondFormed : second.files.WellFormed)

theorem edits_cleanOutput {value : Unit}
    (ran : Runs (cleanOutput context.outputDirectory context.root) first value after) :
    first.Edits after := by
  rcases runs_cleanOutput_iff.1 ran with ⟨-, rfl⟩ | ⟨-, -, removed⟩
  · exact Workspace.edits_refl _
  · exact edits_removeTree removed

include same firstFormed secondFormed in
/-- The place of the output can be cleaned if it can be cleaned in the mirror. -/
theorem exists_cleanOutput {value : Unit} (opens : first.files.Opens context.root location)
    (held : (second.files.node? (location ++ [Context.outputName])).isSome =
      (first.files.node? (location ++ [Context.outputName])).isSome)
    (ran : Runs (cleanOutput context.outputDirectory context.root) first value after) :
    ∃ last, Runs (cleanOutput context.outputDirectory context.root) second () last := by
  have also := same.map_probe_child Option.isSome opens isName_outputName held
  rcases runs_cleanOutput_iff.1 ran with ⟨absent, -⟩ | ⟨there, cleanable, removed⟩
  · exact ⟨second, runs_cleanOutput_iff.2 (Or.inl ⟨also.trans absent, rfl⟩)⟩
  · have required : first.files.require context.outputDirectory =
        .ok (location ++ [Context.outputName]) := by
      obtain ⟨target, led, -⟩ := runs_removeTree_iff.1 removed
      obtain rfl := opens.eq_of_require_child isName_outputName led
      exact led
    obtain ⟨last, again⟩ := exists_removeTree same firstFormed secondFormed (by simp) required
      removed
    have alsoCleanable : Cleanable second.files context.outputDirectory context.root := by
      rw [Cleanable, same.here]
      exact cleanable
    exact ⟨last, runs_cleanOutput_iff.2 (Or.inr ⟨also.trans there, alsoCleanable, again⟩)⟩

theorem exists?_root (asked : first.files.isDirectory context.sourceDirectory = .ok true) :
    first.files.exists? context.outputDirectory.parent = .ok true := by
  rw [Context.outputDirectory, Path.parent_child]
  exact exists?_of_opens (opens_of_sourceDirectory asked).1

theorem runs_copySource_iff {value : Unit} :
    Runs (copySource context.sourceDirectory context.outputDirectory) first value after ↔
      first.files.isDirectory context.sourceDirectory = .ok true ∧
        Runs (copyTree context.sourceDirectory context.outputDirectory) first () after := by
  unfold copySource
  simp only [runs_bind, runs_inspect]
  constructor
  · rintro ⟨answer, _, ⟨asked, rfl⟩, ran⟩
    split at ran
    · next there =>
        rcases runs_tryCatch.1 ran with copied | ⟨fault, middle, -, rescued⟩
        · exact ⟨there ▸ asked, copied⟩
        · split at rescued
          · exact absurd rescued not_runs_throw
          · exact absurd rescued not_runs_throw
    · simp only [runs_bind] at ran
      obtain ⟨_, _, thrown, -⟩ := ran
      exact absurd thrown not_runs_throw
  · rintro ⟨asked, copied⟩
    refine ⟨true, first, ⟨asked, rfl⟩, ?_⟩
    rw [if_pos rfl]
    exact runs_tryCatch.2 (Or.inl copied)

theorem runs_refresh_iff {value : Unit} :
    Runs (refresh context) first value after ↔
      first.files.isDirectory context.sourceDirectory = .ok true ∧
        ∃ middle, Runs (cleanOutput context.outputDirectory context.root) first () middle ∧
          Runs (copySource context.sourceDirectory context.outputDirectory) middle () after := by
  unfold refresh
  simp only [runs_bind, runs_inspect]
  constructor
  · rintro ⟨answer, _, ⟨asked, rfl⟩, ran⟩
    split at ran
    · next there =>
        obtain ⟨_, middle, cleaned, copied⟩ := runs_bind.1 ran
        exact ⟨there ▸ asked, middle, cleaned, copied⟩
    · simp only [runs_bind] at ran
      obtain ⟨_, _, thrown, -⟩ := ran
      exact absurd thrown not_runs_throw
  · rintro ⟨asked, middle, cleaned, copied⟩
    refine ⟨true, first, ⟨asked, rfl⟩, ?_⟩
    rw [if_pos rfl]
    exact runs_bind.2 ⟨(), middle, cleaned, copied⟩

theorem edits_refresh {value : Unit} (ran : Runs (refresh context) first value after) :
    first.Edits after := by
  obtain ⟨-, middle, cleaned, copied⟩ := runs_refresh_iff.1 ran
  obtain ⟨asked, copied⟩ := runs_copySource_iff.1 copied
  exact (edits_cleanOutput cleaned).trans (edits_copyTree (exists?_root asked) copied)

theorem isDirectory_source (same : SameDirectories first.files second.files)
    (asked : first.files.isDirectory context.sourceDirectory = .ok true) :
    second.files.isDirectory context.sourceDirectory = .ok true := by
  rw [Context.sourceDirectory, same.isDirectory_child (opens_of_sourceDirectory asked).1
    isName_sourceName]
  exact asked

include same in
/-- The sources can be copied where the directories are the same and the output is gone. -/
theorem exists_copySource {value : Unit}
    (gone : second.files.node? (outputLocation context.root first.files) = none)
    (ran : Runs (copySource context.sourceDirectory context.outputDirectory) first value after) :
    ∃ last, Runs (copySource context.sourceDirectory context.outputDirectory) second () last := by
  obtain ⟨asked, copied⟩ := runs_copySource_iff.1 ran
  have leads : ∀ target, first.files.require context.outputDirectory = .ok target →
      target = outputLocation context.root first.files :=
    fun target led => (opens_of_sourceDirectory asked).1.eq_of_require_child isName_outputName led
  have asking := isDirectory_source same asked
  obtain ⟨last, again⟩ := exists_copyTree same (exists?_root asked) (exists?_root asking)
    (fun target _ led => leads target led ▸ gone)
    (fun led => by simpa [outputLocation] using leads [] led) copied
  exact ⟨last, runs_copySource_iff.2 ⟨asking, again⟩⟩

include same firstFormed secondFormed in
/-- The output directory can be made afresh if it can be made afresh in the mirror. -/
theorem exists_refresh {value : Unit} (opens : first.files.Opens context.root location)
    (held : (second.files.node? (location ++ [Context.outputName])).isSome =
      (first.files.node? (location ++ [Context.outputName])).isSome)
    (ran : Runs (refresh context) first value after) :
    ∃ last, Runs (refresh context) second () last := by
  obtain ⟨asked, middle, cleaned, copied⟩ := runs_refresh_iff.1 ran
  obtain ⟨between, alsoCleaned⟩ :=
    exists_cleanOutput same firstFormed secondFormed opens held cleaned
  have one := runs_cleanOutput firstFormed opens cleaned
  have two := runs_cleanOutput secondFormed (same.opens opens) alsoCleaned
  -- Whatever was in the place of the output is gone on both sides before the copy.
  have emptied : SameDirectories middle.files between.files := by
    refine ⟨by rw [one.here, two.here, same.here], fun other => ?_⟩
    rw [one.node?, two.node?]
    split
    · rfl
    · exact same.directory_iff other
  have gone : between.files.node? (outputLocation context.root middle.files) = none := by
    rw [outputLocation, one.here, ← eq_resolve_of_require opens.1, two.node?,
      if_pos (List.prefix_refl _)]
  obtain ⟨last, again⟩ := exists_copySource emptied gone copied
  exact ⟨last, runs_refresh_iff.2 ⟨isDirectory_source same asked, between, alsoCleaned, again⟩⟩

end Refresh

section Prepare

variable {tree : FileTree} {base : Path} {origin : Location} {lacks varies : List Text → Prop}
  {folder : List Text} {name : Text} {before : Workspace}

theorem subset_of_filesAmong {paths files : List Path}
    (ran : Runs (filesAmong paths) before files after) : files ⊆ paths := by
  induction paths generalizing files after with
  | nil =>
      obtain ⟨rfl, -⟩ := runs_pure.1 ran
      exact List.Subset.refl _
  | cons path paths ih =>
      unfold filesAmong at ran
      simp only [runs_bind, runs_inspect] at ran
      obtain ⟨answer, _, ⟨-, rfl⟩, rest, middle, found, ended⟩ := ran
      obtain ⟨rfl, rfl⟩ := runs_pure.1 ended
      split
      · exact List.cons_subset_cons _ (ih found)
      · exact List.subset_cons_of_subset _ (ih found)

/-- The files of a directory that opens are found by their names in it. -/
theorem exists_name_of_cachedFiles {files : List Path}
    (wellFormed : before.files.WellFormed)
    (ran : Runs (cachedFiles (base.extend folder)) before files after) :
    ∃ names : List Text, (∀ name ∈ names, IsName name) ∧
      (names ≠ [] → ∃ location, before.files.Opens (base.extend folder) location) ∧
      files = names.map fun name => base.extend (folder ++ [name]) := by
  unfold cachedFiles at ran
  simp only [runs_bind, runs_inspect] at ran
  obtain ⟨answer, _, ⟨asked, rfl⟩, ran⟩ := ran
  split at ran
  · next there =>
      simp only [runs_bind, runs_inspect] at ran
      obtain ⟨children, _, ⟨listed, rfl⟩, among, middle, found, ended⟩ := ran
      obtain ⟨rfl, -⟩ := runs_pure.1 ended
      obtain ⟨location, opens⟩ := opens_of_isDirectory (there ▸ asked)
      rw [opens.children_eq, Except.ok.injEq] at listed
      subst listed
      have named : ∀ path ∈ among, IsName path.name ∧
          path = base.extend (folder ++ [path.name]) := by
        intro path member
        obtain ⟨name, inside, rfl⟩ := List.mem_map.1 (subset_of_filesAmong found member)
        rw [Path.name_child]
        exact ⟨wellFormed.areNames _ _ inside, Path.child_extend _ _ _⟩
      refine ⟨(among.filter fun path => ! Text.startsWith "." path.name).map Path.name, ?_,
        fun _ => ⟨location, opens⟩, ?_⟩
      · intro name member
        obtain ⟨path, inside, rfl⟩ := List.mem_map.1 member
        exact (named path (List.mem_of_mem_filter inside)).1
      · rw [List.map_map]
        conv_lhs => rw [← List.map_id (among.filter _)]
        apply List.map_congr_left
        intro path inside
        exact (named path (List.mem_of_mem_filter inside)).2
  · obtain ⟨rfl, -⟩ := runs_pure.1 ran
    exact ⟨[], by simp, by simp, rfl⟩

section Cache

variable (apart : ∀ name, ¬ lacks (folder ++ [name]))

include apart in
theorem mimics_filesAmong {names : List Text}
    (opens : tree.Opens (base.extend folder) (origin ++ folder))
    (areNames : ∀ name ∈ names, IsName name) :
    Mimics (Mirror tree origin lacks varies)
      (filesAmong (names.map fun name => base.extend (folder ++ [name])))
      (filesAmong (names.map fun name => base.extend (folder ++ [name]))) := by
  induction names with
  | nil => exact mimics_pure []
  | cons name names ih =>
      rw [List.map_cons, filesAmong]
      refine (Mirror.mimics_isFile opens (areNames name List.mem_cons_self) (apart name)).bind
        fun isFile _ => ?_
      exact (ih fun other member => areNames other (List.mem_cons_of_mem _ member)).bind
        fun rest _ => mimics_pure _

include apart in
theorem mimics_loadFiles {names : List Text} (key : Path → Text) (change : Text → Text)
    (texts : Dictionary Text)
    (opens : names ≠ [] → tree.Opens (base.extend folder) (origin ++ folder))
    (areNames : ∀ name ∈ names, IsName name) :
    Mimics (Mirror tree origin lacks varies)
      (loadFiles key change (names.map fun name => base.extend (folder ++ [name])) texts)
      (loadFiles key change (names.map fun name => base.extend (folder ++ [name])) texts) := by
  induction names generalizing texts with
  | nil => exact mimics_pure texts
  | cons name names ih =>
      have here := opens (by simp)
      rw [List.map_cons, loadFiles]
      refine (Mirror.mimics_readText here (areNames name List.mem_cons_self) (apart name)).bind
        fun text _ => ?_
      exact ih _ (fun _ => here) fun other member => areNames other (List.mem_cons_of_mem _ member)

end Cache

variable (apart : ∀ inner, ¬ lacks (folder ++ [name] ++ inner))
  (closed : ∀ parts, lacks parts → tree.node? (origin ++ parts) ≠ some .directory)

include apart closed in
theorem mimics_cachedFiles (opens : tree.Opens (base.extend folder) (origin ++ folder))
    (isName : IsName name) :
    Mimics (Mirror tree origin lacks varies) (cachedFiles (base.extend (folder ++ [name])))
      (cachedFiles (base.extend (folder ++ [name]))) := by
  unfold cachedFiles
  refine (Mirror.mimics_isDirectory opens isName).bind fun answer asked => ?_
  split
  · next there =>
      have inner := Mirror.opens_of_yields opens isName (there ▸ asked)
      apply Mirror.mimics_children inner closed
      intro keeps names areNames kept
      rw [List.filter_eq_self.2 fun other _ => (kept other).2 (apart [other])]
      exact (mimics_filesAmong (fun other => apart [other]) inner areNames).bind
        fun files _ => mimics_pure _
  · exact mimics_pure []

include apart closed in
/-- The files beside the sources are loaded as they are in the mirror. -/
theorem mimics_loadCached (key : Path → Text) (change : Text → Text)
    (opens : tree.Opens (base.extend folder) (origin ++ folder)) (isName : IsName name) :
    Mimics (Mirror tree origin lacks varies)
      (do loadFiles key change (← cachedFiles (base.extend (folder ++ [name]))) ∅)
      (do loadFiles key change (← cachedFiles (base.extend (folder ++ [name]))) ∅) := by
  refine (mimics_cachedFiles apart closed opens isName).bind fun files given => ?_
  obtain ⟨before, other, after, mirror, ran⟩ := given
  obtain ⟨names, areNames, opened, rfl⟩ := exists_name_of_cachedFiles mirror.firstFormed ran
  apply mimics_loadFiles (fun last => apart [last]) key change ∅ _ areNames
  intro some
  obtain ⟨location, inner⟩ := opened some
  have led := inner.1
  rw [← Path.child_extend] at led
  have same := (mirror.firstSame.opens opens).eq_of_require_child isName led
  rw [same, List.append_assoc] at inner
  exact mirror.firstSame.symm.opens inner

end Prepare

/-- A build works with the same in a mirror of the project where only sources are lacking, if it
finds the same configuration. -/
theorem exists_prepare {tree : FileTree} {origin : Location} {lacks varies : List Text → Prop}
    (mirror : Mirror tree origin lacks varies first second) (opens : tree.Opens request.root origin)
    (sources : ∀ parts, lacks parts → [Context.sourceName] <+: parts)
    (closed : ∀ parts, lacks parts → tree.node? (origin ++ parts) ≠ some .directory)
    (config : Config.readSite second.files request.root request.configName =
      Config.readSite first.files request.root request.configName)
    (ran : Runs (prepare request) first context after) :
    Runs (prepare request) second context second := by
  have root : tree.Opens (request.root.extend []) (origin ++ []) := by
    rwa [Path.extend_nil, List.append_nil]
  have apart : ∀ name, name ≠ Context.sourceName → ∀ inner, ¬ lacks ([] ++ [name] ++ inner) := by
    intro name other inner lacked
    obtain ⟨rest, same⟩ := sources _ lacked
    exact other (List.cons.inj same).1.symm
  unfold prepare at ran ⊢
  obtain ⟨found, _, asking, ran⟩ := runs_bind.1 ran
  obtain ⟨read, rfl⟩ := runs_inspect.1 asking
  obtain ⟨templates, middle, loaded, ran⟩ := runs_bind.1 ran
  obtain ⟨between, loadedAgain, mirrored⟩ := mimics_loadCached (apart _ (by decide)) closed
    Path.name id root (by decide) _ _ _ _ mirror loaded
  obtain ⟨components, ready, alsoLoaded, made⟩ := runs_bind.1 ran
  obtain ⟨last, alsoAgain, -⟩ := mimics_loadCached (apart _ (by decide)) closed
    Path.stem Text.trim root (by decide) _ _ _ _ mirrored alsoLoaded
  obtain ⟨rfl, rfl⟩ := runs_pure.1 made
  have whole : Runs (prepare request) second _ last :=
    runs_bind.2 ⟨found, second, runs_inspect.2 ⟨config.trans read, rfl⟩, runs_bind.2 ⟨templates,
      between, loadedAgain, runs_bind.2 ⟨components, last, alsoAgain, runs_pure.2 ⟨rfl, rfl⟩⟩⟩⟩
  obtain ⟨rfl, -⟩ := runs_prepare whole
  exact whole

end Build

end StaticSite
