import StaticSite.Build.Site
import StaticSite.Proofs.Build.Cleaning

/-!
# Preparing a build

Reading what a build works with changes nothing.  Then the output directory is a fresh copy of
the sources, whatever it was before.
-/

namespace StaticSite

namespace Build

open StaticSite.Action FileTree

variable {before after : Workspace} {request : Request} {context : Context}

theorem onlyReads_filesAmong (paths : List Path) : OnlyReads (filesAmong paths) := by
  induction paths with
  | nil => exact onlyReads_pure []
  | cons path paths ih =>
      unfold filesAmong
      exact (onlyReads_inspect _).bind fun _ => ih.bind fun _ => onlyReads_pure _

theorem onlyReads_cachedFiles (directory : Path) : OnlyReads (cachedFiles directory) := by
  unfold cachedFiles
  refine (onlyReads_inspect _).bind fun answer => ?_
  split
  · exact (onlyReads_inspect _).bind fun paths =>
      (onlyReads_filesAmong paths).bind fun _ => onlyReads_pure _
  · exact onlyReads_pure []

theorem onlyReads_loadFiles (name : Path → Text) (change : Text → Text) (paths : List Path)
    (texts : Dictionary Text) : OnlyReads (loadFiles name change paths texts) := by
  induction paths generalizing texts with
  | nil => exact onlyReads_pure texts
  | cons path paths ih =>
      unfold loadFiles
      exact (onlyReads_readText path).bind fun text => ih _

/-- What a build works with comes from the request and the configuration. -/
theorem runs_prepare (ran : Runs (prepare request) before context after) :
    before = after ∧ context.root = request.root ∧
      context.buildDrafts = request.buildDrafts ∧
      Config.readSite before.files request.root request.configName = .ok context.config := by
  unfold prepare at ran
  simp only [runs_bind, runs_inspect] at ran
  obtain ⟨config, _, ⟨read, rfl⟩, templates, middle, loaded, components, last, also, made⟩ := ran
  obtain ⟨rfl, rfl⟩ := runs_pure.1 made
  have first : middle = before := ((onlyReads_cachedFiles _).bind
    fun paths => onlyReads_loadFiles _ _ paths _) _ _ _ loaded
  have second : last = middle := ((onlyReads_cachedFiles _).bind
    fun paths => onlyReads_loadFiles _ _ paths _) _ _ _ also
  exact ⟨(second.trans first).symm, rfl, rfl, read⟩

/-- Where the sources of a site are. -/
def sourceLocation (root : Path) (files : FileTree) : Location :=
  root.resolve files.here ++ [Context.sourceName]

/-- Where the finished site goes. -/
def outputLocation (root : Path) (files : FileTree) : Location :=
  root.resolve files.here ++ [Context.outputName]

theorem isName_sourceName : IsName Context.sourceName := by decide

theorem isName_outputName : IsName Context.outputName := by decide

theorem runs_cleanOutput {location : Location} {value : Unit}
    (wellFormed : before.files.WellFormed)
    (opens : before.files.Opens context.root location)
    (ran : Runs (cleanOutput context.outputDirectory context.root) before value after) :
    Cleared before.files after.files (location ++ [Context.outputName]) := by
  rcases runs_cleanOutput_iff.1 ran with ⟨absent, rfl⟩ | ⟨asked, -, removed⟩
  · cases probed : after.files.probe context.outputDirectory with
    | error fault =>
        rw [exists?, probed] at absent
        cases absent
    | ok found =>
        obtain ⟨-, rfl⟩ := opens.probe_child isName_outputName probed
        apply Cleared.of_missing wellFormed
        rw [exists?, probed] at absent
        simpa [Except.map] using absent
  · cases probed : before.files.probe context.outputDirectory with
    | error fault =>
        rw [exists?, probed] at asked
        cases asked
    | ok found =>
        obtain ⟨required, rfl⟩ := opens.probe_child isName_outputName probed
        exact runs_removeTree wellFormed (by simp) required removed

theorem opens_of_sourceDirectory {tree : FileTree}
    (asked : tree.isDirectory context.sourceDirectory = .ok true) :
    tree.Opens context.root (context.root.resolve tree.here) ∧
      tree.Opens context.sourceDirectory (sourceLocation context.root tree) := by
  obtain ⟨source, opened⟩ := opens_of_isDirectory asked
  obtain ⟨location, rooted, same⟩ := opens_of_require_child isName_sourceName opened.1
  obtain rfl := eq_resolve_of_require rooted.1
  rw [same] at opened
  exact ⟨rooted, opened⟩

theorem runs_copySource {value : Unit} (wellFormed : before.files.WellFormed)
    (ran : Runs (copySource context.sourceDirectory context.outputDirectory) before value after) :
    CopyOf before.files after.files (sourceLocation context.root before.files)
        (outputLocation context.root before.files) ∧
      after.files.Opens context.outputDirectory (outputLocation context.root before.files) := by
  unfold copySource at ran
  simp only [runs_bind, runs_inspect] at ran
  obtain ⟨answer, _, ⟨asked, rfl⟩, ran⟩ := ran
  split at ran
  · next there =>
      obtain ⟨rooted, opened⟩ := opens_of_sourceDirectory (there ▸ asked)
      rcases runs_tryCatch.1 ran with copied | ⟨fault, middle, -, rescued⟩
      · exact runs_copyTree wellFormed opened rooted isName_outputName copied
      · split at rescued
        · exact absurd rescued not_runs_throw
        · exact absurd rescued not_runs_throw
  · simp only [runs_bind] at ran
    obtain ⟨_, _, thrown, -⟩ := ran
    exact absurd thrown not_runs_throw

/-- The output directory becomes a copy of the sources. -/
theorem runs_refresh {value : Unit} (wellFormed : before.files.WellFormed)
    (ran : Runs (refresh context) before value after) :
    before.files.Opens context.sourceDirectory (sourceLocation context.root before.files) ∧
      after.files.Opens context.outputDirectory (outputLocation context.root before.files) ∧
      CopyOf before.files after.files (sourceLocation context.root before.files)
        (outputLocation context.root before.files) := by
  unfold refresh at ran
  simp only [runs_bind, runs_inspect] at ran
  obtain ⟨answer, _, ⟨asked, rfl⟩, ran⟩ := ran
  split at ran
  · next there =>
      obtain ⟨rooted, opened⟩ := opens_of_sourceDirectory (there ▸ asked)
      obtain ⟨_, middle, cleaned, copied⟩ := runs_bind.1 ran
      have cleared := runs_cleanOutput wellFormed rooted cleaned
      obtain ⟨copy, opens⟩ := runs_copySource cleared.wellFormed copied
      have places : outputLocation context.root middle.files = outputLocation context.root before.files ∧
          sourceLocation context.root middle.files = sourceLocation context.root before.files := by
        simp [outputLocation, sourceLocation, cleared.here]
      rw [places.1, places.2] at copy
      rw [places.1] at opens
      have apart : ∀ parts, ¬ outputLocation context.root before.files <+:
          sourceLocation context.root before.files ++ parts := by
        intro parts inside
        rw [outputLocation, sourceLocation, List.append_assoc,
          List.prefix_append_right_inj] at inside
        obtain ⟨rest, same⟩ := inside
        exact absurd (List.cons.inj same).1 (by decide)
      refine ⟨opened, opens, copy.here.trans cleared.here, copy.wellFormed, ?_, ?_⟩
      · intro parts
        rw [copy.inside, cleared.node?]
        exact if_neg (apart parts)
      · intro other outside
        rw [copy.elsewhere other outside, cleared.node?]
        exact if_neg outside
  · simp only [runs_bind] at ran
    obtain ⟨_, _, thrown, -⟩ := ran
    exact absurd thrown not_runs_throw

end Build

end StaticSite
