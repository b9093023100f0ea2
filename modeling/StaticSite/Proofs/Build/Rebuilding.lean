import StaticSite.Proofs.Build.Confining
import StaticSite.Proofs.Build.Restarting
import StaticSite.Proofs.Build.Rewalking
import StaticSite.Proofs.Build.Republishing
import StaticSite.Proofs.FileTree.Agreeing

/-!
# Rebuilds carry nothing over

What an earlier build has left in the place of the output is neither read nor kept, so two builds of
projects that agree elsewhere come to the same.
-/

namespace StaticSite

/-- Two workspaces with the same programs that hold the same files, but for what is at or below a
location. -/
structure AlikeOutside (location : Location) (first second : Workspace) : Prop where
  firstFormed : first.files.WellFormed
  secondFormed : second.files.WellFormed
  agree : FileTree.AgreeOutside location first.files second.files
  programs : second.programs = first.programs
  convert : second.convert = first.convert

theorem AlikeOutside.symm {location : Location} {first second : Workspace}
    (alike : AlikeOutside location first second) : AlikeOutside location second first :=
  ⟨alike.secondFormed, alike.firstFormed, alike.agree.symm, alike.programs.symm,
    alike.convert.symm⟩

/-- At and below a location two trees have the same directories and the same files. -/
def SameBelow (location : Location) (first second : FileTree) : Prop :=
  ∀ parts, (second.node? (location ++ parts) = some .directory ↔
      first.node? (location ++ parts) = some .directory) ∧
    second.content? (location ++ parts) = first.content? (location ++ parts)

theorem SameBelow.symm {location : Location} {first second : FileTree}
    (same : SameBelow location first second) : SameBelow location second first :=
  fun parts => ⟨(same parts).1.symm, (same parts).2.symm⟩

namespace Build

open StaticSite.Action FileTree

variable {request : Request} {first second third fourth after : Workspace} {context : Context}
  {source output : Location}

/-- Copies in trees with the same directories have the same directories. -/
theorem sameDirectories_copies {first second third fourth : FileTree}
    (same : SameDirectories first third) (one : CopyOf first second source output)
    (two : CopyOf third fourth source output) : SameDirectories second fourth := by
  refine ⟨by rw [one.here, two.here, same.here], fun other => ?_⟩
  by_cases inside : output <+: other
  · obtain ⟨parts, rfl⟩ := inside
    rw [one.inside, two.inside]
    exact same.directory_iff _
  · rw [one.elsewhere other inside, two.elsewhere other inside]
    exact same.directory_iff _

section Prepare

theorem mimics_filesAmong_of_isFile {paths : List Path}
    (same : ∀ path ∈ paths, second.files.isFile path = first.files.isFile path) :
    Mimics (Paired first second) (filesAmong paths) (filesAmong paths) := by
  induction paths with
  | nil => exact mimics_pure []
  | cons path paths ih =>
      rw [filesAmong]
      refine (mimics_asked (same path List.mem_cons_self)).bind fun isFile _ => ?_
      exact (ih fun other member => same other (List.mem_cons_of_mem _ member)).bind
        fun rest _ => mimics_pure _

theorem mimics_loadFiles_of_read {paths : List Path} (key : Path → Text) (change : Text → Text)
    (texts : Dictionary Text)
    (same : ∀ path ∈ paths, second.files.read path = first.files.read path) :
    Mimics (Paired first second) (loadFiles key change paths texts)
      (loadFiles key change paths texts) := by
  induction paths generalizing texts with
  | nil => exact mimics_pure texts
  | cons path paths ih =>
      rw [loadFiles]
      have read : Mimics (Paired first second) (readText path) (readText path) := by
        unfold readText
        refine (mimics_asked (same path List.mem_cons_self)).bind fun content _ => ?_
        split
        · exact mimics_pure _
        · exact mimics_throw _ _
      exact read.bind fun text _ =>
        ih _ fun other member => same other (List.mem_cons_of_mem _ member)

variable {root : Path} {folder : Text} (alike : AlikeOutside output first second)
  (avoids : root.Avoids first.files.here output) (isName : IsName folder)
  (apart : ∀ inner, ¬ output <+: root.resolve first.files.here ++ folder :: inner)

include alike avoids isName apart in
/-- The files of a directory beside the output are loaded as they are. -/
theorem mimics_loadCached_beside (key : Path → Text) (change : Text → Text) :
    Mimics (Paired first second)
      (do loadFiles key change (← cachedFiles (root.child folder)) ∅)
      (do loadFiles key change (← cachedFiles (root.child folder)) ∅) := by
  have directory : (root.extend [folder]).Avoids first.files.here output :=
    avoids.beside isName apart (by simp)
  have inside : ∀ name, IsName name →
      (root.extend ([folder] ++ [name])).Avoids first.files.here output :=
    fun name named => avoids.beside isName apart (by simpa using named)
  have cached : Mimics (Paired first second) (cachedFiles (root.child folder))
      (cachedFiles (root.child folder)) := by
    unfold cachedFiles
    refine (mimics_asked (alike.agree.isDirectory_eq directory)).bind fun answer asked => ?_
    split
    · next there =>
        obtain ⟨place, opens⟩ := opens_of_isDirectory (there ▸ answered_of_yields asked)
        have resolved : place = root.resolve first.files.here ++ [folder] := by
          rw [eq_resolve_of_require opens.1]
          exact Path.resolve_child _ _ isName
        have listed := alike.agree.children_eq alike.firstFormed alike.secondFormed directory opens
          fun name => by rw [resolved, List.append_assoc]; exact apart [name]
        refine (mimics_asked listed).bind fun children given => ?_
        have found := answered_of_yields given
        rw [opens.children_eq, Except.ok.injEq] at found
        refine (mimics_filesAmong_of_isFile ?_).bind fun files _ => mimics_pure _
        intro path member
        obtain ⟨name, listed, rfl⟩ := List.mem_map.1 (found ▸ member)
        have path : (root.child folder).child name = root.extend ([folder] ++ [name]) :=
          Path.child_extend root [folder] name
        rw [path]
        exact alike.agree.isFile_eq (inside name (alike.firstFormed.areNames _ name listed))
    · exact mimics_pure []
  refine cached.bind fun files given => ?_
  obtain ⟨_, _, _, ⟨rfl, -⟩, ran⟩ := given
  have base : root.child folder = root.extend [folder] := rfl
  rw [base] at ran
  obtain ⟨names, areNames, -, rfl⟩ := exists_name_of_cachedFiles alike.firstFormed ran
  apply mimics_loadFiles_of_read
  intro path member
  obtain ⟨name, listed, rfl⟩ := List.mem_map.1 member
  exact alike.agree.read_eq (inside name (areNames name listed))

include alike in
/-- A build works with the same if the way to its configuration avoids the output. -/
theorem runs_prepare_alike (avoids : request.root.Avoids first.files.here output)
    (apart : ∀ folder inner, IsName folder → folder ≠ Context.outputName →
      ¬ output <+: request.root.resolve first.files.here ++ folder :: inner)
    (config : (request.root.append (Path.parse request.configName)).Avoids first.files.here output)
    (ran : Runs (prepare request) first context after) :
    Runs (prepare request) second context second := by
  have read : Config.readSite second.files request.root request.configName =
      Config.readSite first.files request.root request.configName := by
    unfold Config.readSite Config.load
    rw [alike.agree.exists?_eq config, alike.agree.read_eq config]
  have loads : ∀ key change folder, IsName folder → folder ≠ Context.outputName →
      Mimics (Paired first second)
        (do loadFiles key change (← cachedFiles (request.root.child folder)) ∅)
        (do loadFiles key change (← cachedFiles (request.root.child folder)) ∅) :=
    fun key change folder isName other => mimics_loadCached_beside alike avoids isName
      (fun inner => apart folder inner isName other) key change
  have mimics : Mimics (Paired first second) (prepare request) (prepare request) := by
    unfold prepare
    refine (mimics_asked read).bind fun config _ => ?_
    refine (loads Path.name id Context.templatesName (by decide) (by decide)).bind
      fun templates _ => ?_
    exact (loads Path.stem Text.trim Context.componentsName (by decide) (by decide)).bind
      fun components _ => mimics_pure _
  obtain ⟨last, again, -, rfl⟩ := mimics first second context after ⟨rfl, rfl⟩ ran
  exact again

end Prepare

section Refresh

/-- The place of the output can be cleaned if it is free or a directory. -/
theorem exists_cleanOutput_of_require {before : Workspace}
    (wellFormed : before.files.WellFormed)
    (avoids : context.root.Avoids before.files.here (outputLocation context.root before.files))
    (required : before.files.require context.outputDirectory =
      .ok (outputLocation context.root before.files))
    (place : before.files.node? (outputLocation context.root before.files) = none ∨
      before.files.node? (outputLocation context.root before.files) = some .directory) :
    ∃ last, Runs (cleanOutput context.outputDirectory context.root) before () last := by
  have within : outputLocation context.root before.files ≠ [] := by simp [outputLocation]
  have target := resolve_outputDirectory context before.files
  have below : context.root.resolve before.files.here <+:
      outputLocation context.root before.files := List.prefix_append _ _
  have asked : before.files.exists? context.outputDirectory =
      .ok (before.files.node? (outputLocation context.root before.files)).isSome := by
    rw [exists?, probe_of_require required]
    rfl
  rcases place with free | directory
  · rw [free] at asked
    exact ⟨before, runs_cleanOutput_iff.2 (Or.inl ⟨asked, rfl⟩)⟩
  · have emptied : AgreeOutside (outputLocation context.root before.files) before.files
        ((removalsBelow before.files (outputLocation context.root before.files)).foldl
          FileTree.apply before.files) := by
      refine ⟨here_emptied _ _, fun other outside => ?_⟩
      rw [node?_emptied wellFormed within, if_neg fun inside => outside inside.1]
    have named : context.outputDirectory.name ≠ ['.', '.'] := by
      rw [Context.outputDirectory, Path.name_child]
      decide
    obtain ⟨last, removed⟩ : ∃ last, Runs (removeTree context.outputDirectory) before () last :=
      ⟨_, runs_removeTree_iff.2 ⟨_, required, directory, named,
        (emptied.require_child_eq avoids).trans required, rfl⟩⟩
    have clean : hasNull context.root = false :=
      (hasNull_child _ isName_outputName).symm.trans (require_eq_ok_iff.1 required).1
    have cleanable : Cleanable before.files context.outputDirectory context.root := by
      rw [Cleanable, target]
      exact ⟨clean, below, by simp [outputLocation]⟩
    rw [directory] at asked
    exact ⟨last, runs_cleanOutput_iff.2 (Or.inr ⟨asked, cleanable, removed⟩)⟩

theorem require_of_cleanOutput {before : Workspace} {location : Location} {value : Unit}
    (opens : before.files.Opens context.root location)
    (ran : Runs (cleanOutput context.outputDirectory context.root) before value after) :
    before.files.require context.outputDirectory = .ok (location ++ [Context.outputName]) := by
  have asked : ∃ there, before.files.exists? context.outputDirectory = .ok there := by
    rcases runs_cleanOutput_iff.1 ran with ⟨absent, -⟩ | ⟨there, -⟩
    · exact ⟨_, absent⟩
    · exact ⟨_, there⟩
  obtain ⟨there, asked⟩ := asked
  unfold exists? at asked
  cases probed : before.files.probe context.outputDirectory with
  | error fault =>
      rw [probed] at asked
      cases asked
  | ok found => exact (opens.probe_child isName_outputName probed).1

/-- The sources are still found when the output is gone, so the way to them avoids it. -/
theorem avoids_of_refresh {before copied : Workspace} (wellFormed : before.files.WellFormed)
    (ran : Runs (refresh context) before () copied) :
    context.root.Avoids before.files.here (outputLocation context.root before.files) := by
  obtain ⟨asked, middle, cleaned, copies⟩ := runs_refresh_iff.1 ran
  have cleared : Cleared before.files middle.files (outputLocation context.root before.files) :=
    runs_cleanOutput wellFormed (opens_of_sourceDirectory asked).1 cleaned
  have again := (runs_copySource_iff.1 copies).1
  rw [← cleared.here]
  apply avoids_of_opens (opens_of_sourceDirectory again).1
  intro other below
  rw [cleared.node?, if_pos below]
  simp

variable (alike : AlikeOutside (outputLocation context.root first.files) first second)
include alike

/-- A fresh output is the same whatever was in its place. -/
theorem exists_refresh_alike
    (place : second.files.node? (outputLocation context.root first.files) = none ∨
      second.files.node? (outputLocation context.root first.files) = some .directory)
    {copied : Workspace} (ran : Runs (refresh context) first () copied) :
    context.root.Avoids first.files.here (outputLocation context.root first.files) ∧
      ∃ last, Runs (refresh context) second () last ∧
        Twins copied.files (outputLocation context.root first.files) (fun _ => False) copied
          last := by
  obtain ⟨asked, middle, cleaned, copies⟩ := runs_refresh_iff.1 ran
  have rooted := (opens_of_sourceDirectory asked).1
  have one : Cleared first.files middle.files (outputLocation context.root first.files) :=
    runs_cleanOutput alike.firstFormed rooted cleaned
  have avoids := avoids_of_refresh alike.firstFormed ran
  have source : context.sourceDirectory.Avoids first.files.here
      (outputLocation context.root first.files) := by
    show (context.root.extend [Context.sourceName]).Avoids _ _
    apply avoids.beside isName_sourceName _ (by simp)
    intro inner below
    rw [outputLocation, List.prefix_append_right_inj] at below
    exact absurd (List.cons_prefix_cons.1 below).1 (by decide)
  have places : outputLocation context.root second.files = outputLocation context.root first.files := by
    rw [outputLocation, outputLocation, alike.agree.here]
  have secondRooted := alike.agree.opens avoids rooted
  have required : second.files.require context.outputDirectory =
      .ok (outputLocation context.root first.files) :=
    (alike.agree.require_child_eq avoids).trans (require_of_cleanOutput rooted cleaned)
  obtain ⟨between, alsoCleaned⟩ := exists_cleanOutput_of_require alike.secondFormed
    (by rwa [places, alike.agree.here]) (by rwa [places]) (by rwa [places])
  have two : Cleared second.files between.files (outputLocation context.root first.files) :=
    runs_cleanOutput alike.secondFormed secondRooted alsoCleaned
  have emptied : ∀ other, between.files.node? other = middle.files.node? other := by
    intro other
    rw [one.node?, two.node?]
    split
    · rfl
    · next outside => exact alike.agree.node?_eq other outside
  have same : SameDirectories middle.files between.files :=
    ⟨by rw [one.here, two.here, alike.agree.here], fun other => by rw [emptied]⟩
  have moved : outputLocation context.root middle.files = outputLocation context.root first.files := by
    rw [outputLocation, outputLocation, one.here]
  obtain ⟨last, alsoCopies⟩ := exists_copySource same
    (by rw [moved, two.node?, if_pos (List.prefix_refl _)]) copies
  have alsoRan : Runs (refresh context) second () last :=
    runs_refresh_iff.2 ⟨(alike.agree.isDirectory_eq source).trans asked, between, alsoCleaned,
      alsoCopies⟩
  have copy := (runs_copySource one.wellFormed copies).1
  have also := (runs_copySource two.wellFormed alsoCopies).1
  have alsoPlaces : sourceLocation context.root between.files = sourceLocation context.root middle.files ∧
      outputLocation context.root between.files = outputLocation context.root middle.files := by
    rw [sourceLocation, sourceLocation, outputLocation, outputLocation, same.here]
    exact ⟨rfl, rfl⟩
  rw [alsoPlaces.1, alsoPlaces.2] at also
  have edits := (edits_refresh ran).programs
  have alsoEdits := (edits_refresh alsoRan).programs
  have contents : ∀ parts, last.files.node? (outputLocation context.root first.files ++ parts) =
      copied.files.node? (outputLocation context.root first.files ++ parts) := by
    intro parts
    rw [← moved, copy.inside, also.inside, emptied]
  refine ⟨avoids, last, alsoRan, copy.wellFormed, also.wellFormed, SameDirectories.refl _,
    sameDirectories_copies same copy also, ?_, ?_, ?_, ?_, fun _ => False.elim, fun _ => False.elim⟩
  · rw [alsoEdits.1, edits.1, alike.programs]
  · rw [alsoEdits.2, edits.2, alike.convert]
  · intro parts _ _
    exact content?_congr (contents parts)
  · intro parts _
    rw [content?_congr (contents parts)]
    exact Utf8.rel_readAlike_refl _

end Refresh

namespace Stages

variable {before other gathered copied : Workspace} {varies : List Text → Prop}

theorem opens_root (stages : Stages request before) :
    before.files.Opens request.root (request.root.resolve before.files.here) := by
  obtain ⟨asked, -⟩ := runs_refresh_iff.1 stages.refreshes
  have opened := (opens_of_sourceDirectory asked).1
  rwa [stages.root_eq] at opened

/-- A project with the same directories has a fresh copy of its own sources. -/
theorem exists_refreshed (stages : Stages request before) (wellFormed : before.files.WellFormed)
    (formed : other.files.WellFormed) (same : SameDirectories before.files other.files)
    (held : (other.files.node? (outputLocation request.root before.files)).isSome =
      (before.files.node? (outputLocation request.root before.files)).isSome)
    (programs : other.programs = before.programs) (convert : other.convert = before.convert) :
    ∃ copied, Runs (refresh stages.context) other () copied ∧ copied.files.WellFormed ∧
      SameDirectories stages.copied.files copied.files ∧
      copied.programs = stages.copied.programs ∧ copied.convert = stages.copied.convert ∧
      ∀ parts, copied.files.node? (outputLocation request.root before.files ++ parts) =
        other.files.node? (sourceLocation request.root before.files ++ parts) := by
  have opens := stages.opens_root
  have root := stages.root_eq
  rw [← root] at opens held
  obtain ⟨copied, again⟩ := exists_refresh same wellFormed formed opens held stages.refreshes
  obtain ⟨-, -, copy⟩ := stages.copyOf wellFormed
  obtain ⟨-, -, also⟩ := runs_refresh formed again
  have places : sourceLocation stages.context.root other.files =
      sourceLocation request.root before.files ∧
      outputLocation stages.context.root other.files =
        outputLocation request.root before.files := by
    rw [sourceLocation, sourceLocation, outputLocation, outputLocation, same.here, root]
    exact ⟨rfl, rfl⟩
  rw [places.1, places.2] at also
  have edits := (edits_refresh stages.refreshes).programs
  have alsoEdits := (edits_refresh again).programs
  exact ⟨copied, again, also.wellFormed, sameDirectories_copies same copy also,
    alsoEdits.1.trans (programs.trans edits.1.symm),
    alsoEdits.2.trans (convert.trans edits.2.symm), also.inside⟩

/-- What has been gathered alike is published alike. -/
theorem exists_of_gathered (stages : Stages request before) (wellFormed : before.files.WellFormed)
    (prepares : Runs (prepare request) other stages.context other)
    (refreshes : Runs (refresh stages.context) other () copied)
    (gathers : Runs (gather stages.context) copied stages.findings gathered)
    (twins : Twins stages.copied.files (outputLocation request.root before.files) varies
      stages.gathered gathered) :
    ∃ others : Stages request other, others.result = stages.result ∧
      others.context = stages.context ∧
      Twins stages.copied.files (outputLocation request.root before.files) varies
        stages.paged others.paged ∧
      Twins stages.copied.files (outputLocation request.root before.files) varies
        stages.after others.after := by
  obtain ⟨sources, opens, copy⟩ := stages.copyOf wellFormed
  have announced := twins.saying (announcement stages.findings)
  obtain ⟨paged, writes, pages⟩ :=
    mimics_writePages copy.wellFormed (stages.areJobs wellFormed) _ _ _ _ announced stages.writes
  obtain ⟨settled, processes, settles⟩ := exists_processTree opens pages stages.processes
  obtain ⟨mapped, maps, ended⟩ := mimics_writeSitemap opens _ _ _ _ settles stages.maps
  have renders : renderAll gathered.programs gathered.convert stages.findings.jobs =
      .ok stages.rendered := by
    rw [twins.programs, twins.convert]
    exact stages.renders
  let others : Stages request other := {
    stages with
    copied, gathered, paged, settled, mapped, refreshes, gathers, renders, writes, processes, maps
    prepares }
  exact ⟨others, rfl, rfl, pages, (ended.saying _).saying _⟩

end Stages

section Site

variable (alike : AlikeOutside (outputLocation request.root first.files) first second)
  (place : second.files.node? (outputLocation request.root first.files) = none ∨
    second.files.node? (outputLocation request.root first.files) = some .directory)
  (config : request.root.Avoids first.files.here (outputLocation request.root first.files) →
    (request.root.append (Path.parse request.configName)).Avoids first.files.here
      (outputLocation request.root first.files))

include alike place config

/-- A build that succeeds gives the same for whatever has been in the place of its output. -/
theorem exists_site_alike {result : Result} (built : Runs (site request) first result after) :
    ∃ last, Runs (site request) second result last ∧
      after.files.WellFormed ∧
      after.files.node? (outputLocation request.root first.files) = some .directory ∧
      SameBelow (outputLocation request.root first.files) after.files last.files := by
  obtain ⟨stages, rfl, rfl⟩ := exists_stages built
  have root := stages.root_eq
  rw [← root] at alike place
  obtain ⟨avoids, copied, refreshes, twins⟩ := exists_refresh_alike alike place stages.refreshes
  rw [root] at alike avoids twins
  have apart : ∀ folder inner, IsName folder → folder ≠ Context.outputName →
      ¬ outputLocation request.root first.files <+:
        request.root.resolve first.files.here ++ folder :: inner := by
    intro folder inner _ other below
    rw [outputLocation, List.prefix_append_right_inj] at below
    exact other (List.cons_prefix_cons.1 below).1.symm
  have prepares := runs_prepare_alike alike avoids apart (config avoids) stages.prepares
  obtain ⟨sources, opens, copy⟩ := stages.copyOf alike.firstFormed
  obtain ⟨gathered, gathers, found⟩ := mimics_gather (fun _ => False.elim)
    (fun _ _ => False.elim) opens _ _ _ _ twins stages.gathers
  obtain ⟨others, same, -, -, ended⟩ :=
    stages.exists_of_gathered alike.firstFormed prepares refreshes gathers found
  refine ⟨others.after, same ▸ others.runs, ended.firstFormed,
    (ended.firstSame.directory_iff _).2 opens.2, fun parts => ?_⟩
  exact ⟨ended.sameDirectories.directory_iff _, ended.shared parts id id⟩

end Site

/-- Builds of projects that agree outside the output come to the same, if the output is free or a
directory and the way from the root to the configuration avoids it.  So it is all one to build
again. -/
theorem site_carries_nothing_over
    (alike : AlikeOutside (outputLocation request.root first.files) first second)
    (firstPlace : first.files.node? (outputLocation request.root first.files) = none ∨
      first.files.node? (outputLocation request.root first.files) = some .directory)
    (secondPlace : second.files.node? (outputLocation request.root first.files) = none ∨
      second.files.node? (outputLocation request.root first.files) = some .directory)
    (config : request.root.Avoids first.files.here (outputLocation request.root first.files) →
      (request.root.append (Path.parse request.configName)).Avoids first.files.here
        (outputLocation request.root first.files)) :
    (∀ result after, Runs (site request) first result after →
        ∃ last, Runs (site request) second result last ∧
          SameBelow (outputLocation request.root first.files) after.files last.files) ∧
      (∀ result last, Runs (site request) second result last →
        ∃ after, Runs (site request) first result after ∧
          SameBelow (outputLocation request.root first.files) after.files last.files) ∧
      ∀ result after, Runs (site request) first result after →
        ∃ last, Runs (site request) after result last ∧
          SameBelow (outputLocation request.root first.files) after.files last.files := by
  have places : outputLocation request.root second.files =
      outputLocation request.root first.files := by
    rw [outputLocation, outputLocation, alike.agree.here]
  refine ⟨?_, ?_, ?_⟩
  · intro result after built
    obtain ⟨last, again, -, -, same⟩ := exists_site_alike alike secondPlace config built
    exact ⟨last, again, same⟩
  · intro result last built
    obtain ⟨after, again, -, -, same⟩ := exists_site_alike (places ▸ alike.symm)
      (places ▸ firstPlace) (by rwa [places, alike.agree.here]) built
    exact ⟨after, again, places ▸ same.symm⟩
  · intro result after built
    have changes : first.EditsBelow (outputLocation request.root first.files)
        ((site request).perform first).2 := editsBelow_site alike.firstFormed
    have performed : (site request).perform first = (.ok result, after) := built
    rw [performed] at changes
    obtain ⟨-, -, formed, directory, -⟩ := exists_site_alike alike secondPlace config built
    have rebuilt : AlikeOutside (outputLocation request.root first.files) first after :=
      ⟨alike.firstFormed, formed, ⟨changes.here, fun other outside =>
        changes.node?_eq (by simp [outputLocation]) outside⟩, changes.programs.1,
        changes.programs.2⟩
    obtain ⟨last, again, -, -, same⟩ := exists_site_alike rebuilt (Or.inr directory) config built
    exact ⟨last, again, same⟩

end Build

namespace Build.Example

open StaticSite.Action FileTree

/-- The project with an output that an earlier build has left. -/
def stale : Workspace where
  files := ⟨[], sources ++ [
    (["public".toList], .directory),
    (["public".toList, "old".toList], .file [79] 0)]⟩

/-- A request that names the configuration on a way through the output. -/
def detour : Request where
  configName := "public/../config"

theorem alike_stale : AlikeOutside (outputLocation request.root before.files) before stale := by
  refine ⟨wellFormed_before, ⟨by decide, by decide, by decide⟩, ⟨rfl, ?_⟩, rfl, rfl⟩
  intro other outside
  have apart : ∀ entry ∈ [(["public".toList], Node.directory),
      (["public".toList, "old".toList], .file [79] 0)], entry.1 ≠ other := by
    rintro entry member rfl
    apply outside
    simp only [List.mem_cons, List.not_mem_nil, or_false] at member
    rcases member with rfl | rfl <;> decide
  unfold node?
  exact congrArg (fun found => if other = [] then some Node.directory else found)
    (lookup_append_of_ne apart)

theorem avoids_config :
    (request.root.append (Path.parse request.configName)).Avoids before.files.here
      (outputLocation request.root before.files) := by
  have parts : request.root.append (Path.parse request.configName) =
      ⟨.here, ["config".toList]⟩ := by decide
  rw [parts]
  intro early inside
  have listed := (List.mem_inits _ _).2 inside
  simp only [List.inits, List.map_cons, List.map_nil, List.mem_cons, List.not_mem_nil,
    or_false] at listed
  rcases listed with rfl | rfl <;> decide

theorem site_carries_nothing_over_stale :
    AlikeOutside (outputLocation request.root before.files) before stale ∧
      before.files.node? (outputLocation request.root before.files) = none ∧
      stale.files.node? (outputLocation request.root before.files) = some .directory ∧
      Runs (site request) before ⟨["/".toList], [], 0⟩ after ∧
      (∃ last, Runs (site request) stale ⟨["/".toList], [], 0⟩ last ∧
        SameBelow (outputLocation request.root before.files) after.files last.files) ∧
      ∃ last, Runs (site request) after ⟨["/".toList], [], 0⟩ last ∧
        SameBelow (outputLocation request.root before.files) after.files last.files := by
  have free : before.files.node? (outputLocation request.root before.files) = none := by decide
  have directory : stale.files.node? (outputLocation request.root before.files) =
      some .directory := by decide
  have rebuilt := site_carries_nothing_over alike_stale (Or.inl free) (Or.inr directory)
    fun _ => avoids_config
  exact ⟨alike_stale, free, directory, runs_site, rebuilt.1 _ _ runs_site,
    rebuilt.2.2 _ _ runs_site⟩

/-- The configuration is outside the output, but it is found only if the output is there. -/
theorem not_site_carries_nothing_over_detour :
    AlikeOutside (outputLocation detour.root before.files) before stale ∧
      before.files.node? (outputLocation detour.root before.files) = none ∧
      stale.files.node? (outputLocation detour.root before.files) = some .directory ∧
      stale.files.require (detour.root.append (Path.parse detour.configName)) =
        .ok ["config".toList] ∧
      ¬ outputLocation detour.root before.files <+: ["config".toList] ∧
      (∃ last, Runs (site detour) stale ⟨["/".toList], [], 0⟩ last) ∧
      ¬ ∃ result last, Runs (site detour) before result last := by
  refine ⟨alike_stale, by decide, by decide, by decide, by decide, ?_, ?_⟩
  · have free : before.files.node? (outputLocation request.root before.files) = none := by decide
    have directory : stale.files.node? (outputLocation request.root before.files) =
        some .directory := by decide
    obtain ⟨last, again, -⟩ := exists_site_alike alike_stale (Or.inr directory)
      (fun _ => avoids_config) runs_site
    obtain ⟨known, middle, prepared, begun⟩ := runs_bind.1 again
    have direct : Runs (prepare request) stale context stale := by cbv
    cases direct.symm.trans prepared
    have detoured : Runs (prepare detour) stale context stale := by cbv
    exact ⟨last, runs_bind.2 ⟨context, stale, detoured, begun⟩⟩
  · rintro ⟨result, last, built⟩
    obtain ⟨stages, -, -⟩ := exists_stages built
    have read := (runs_prepare stages.prepares).2.2.2
    have missing : Config.readSite before.files detour.root detour.configName =
        .error (.config (.missing "public/../config")) := by cbv
    rw [missing] at read
    cases read

end Build.Example

end StaticSite
