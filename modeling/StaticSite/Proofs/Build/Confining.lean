import StaticSite.Proofs.Build.Publishing
import StaticSite.Proofs.Build.Restarting
import StaticSite.Proofs.Workspace.Keeping

/-!
# A build is confined to its output

Every change of the files that a build makes is in the place of the output or below it, whether
the build succeeds or fails.
-/

namespace StaticSite

namespace Build

open StaticSite.Action FileTree

section Refresh

variable {context : Context} {start : Workspace}

theorem resolve_outputDirectory (context : Context) (files : FileTree) :
    context.outputDirectory.resolve files.here = outputLocation context.root files :=
  Path.resolve_extend _ _ (by simp [isName_outputName])

theorem editsBelow_copySource (context : Context) (start : Workspace) :
    start.EditsBelow (outputLocation context.root start.files)
      ((copySource context.sourceDirectory context.outputDirectory).perform start).2 := by
  have still := start.editsBelow_refl (outputLocation context.root start.files)
  unfold copySource
  rw [perform_bind, perform_inspect]
  rcases asked : start.files.isDirectory context.sourceDirectory with fault | _ | _
  · exact still
  · exact still
  · have copied : start.EditsBelow (outputLocation context.root start.files)
        ((copyTree context.sourceDirectory context.outputDirectory).perform start).2 :=
      editsBelow_copyTree (resolve_outputDirectory context start.files) (exists?_root asked)
    simp only [if_true]
    rw [perform_tryCatch]
    rcases performed : (copyTree context.sourceDirectory context.outputDirectory).perform start with
      ⟨fault | _, after⟩
    · rw [performed] at copied
      simp only
      split <;> exact copied
    · rwa [performed] at copied

theorem editsBelow_refresh (context : Context) (start : Workspace) :
    start.EditsBelow (outputLocation context.root start.files)
      ((refresh context).perform start).2 := by
  have still := start.editsBelow_refl (outputLocation context.root start.files)
  unfold refresh
  rw [perform_bind, perform_inspect]
  rcases start.files.isDirectory context.sourceDirectory with fault | _ | _
  · exact still
  · exact still
  · have cleaned : start.EditsBelow (outputLocation context.root start.files)
        ((cleanOutput context.outputDirectory context.root).perform start).2 := by
      rw [← resolve_outputDirectory]
      exact editsBelow_cleanOutput _ _ _
    simp only [if_true]
    rw [perform_bind]
    rcases performed : (cleanOutput context.outputDirectory context.root).perform start with
      ⟨fault | _, middle⟩
    · rwa [performed] at cleaned
    · rw [performed] at cleaned
      have copied := editsBelow_copySource context middle
      rw [outputLocation, cleaned.here] at copied
      exact cleaned.trans copied

end Refresh

/-- A workspace of a build after its output is there: the directories are those of a tree, and
since the start only what is below the output has changed. -/
structure Confined (tree : FileTree) (origin : Location) (start now : Workspace) : Prop where
  wellFormed : now.files.WellFormed
  same : SameDirectories tree now.files
  changes : start.EditsBelow origin now

variable {tree : FileTree} {origin : Location} {start before after : Workspace} {context : Context}
  {base : Path} {folder : List Text} {name text : Text} {names : List Text} {isFeed : Bool}

theorem keeps_print (line : Text) : Keeps (Confined tree origin start) (print line) :=
  fun _ held => ⟨held.wellFormed, held.same, held.changes.saying line⟩

section Files

variable (opens : tree.Opens (base.extend folder) (origin ++ folder)) (isName : IsName name)
include opens isName

theorem keeps_writeText :
    Keeps (Confined tree origin start) (writeText (base.extend (folder ++ [name])) text) := by
  rw [keeps_iff, ← Path.child_extend]
  intro before after held
  have here := held.same.opens opens
  constructor
  · intro value ran
    obtain ⟨-, free, rfl⟩ := runs_writeText_child here isName ran
    refine ⟨held.wellFormed.set here.2 isName fun taken => absurd taken free,
      held.same.trans (SameDirectories.set_file (by simp) free _ _), held.changes.edited ?_⟩
    rw [Edit.location, List.append_assoc]
    exact List.prefix_append _ _
  · intro fault failed
    rwa [fails_writeText (by rwa [Path.parent_child]) failed]

theorem keeps_removeFile :
    Keeps (Confined tree origin start) (removeFile (base.extend (folder ++ [name]))) := by
  rw [keeps_iff, ← Path.child_extend]
  intro before after held
  have here := held.same.opens opens
  constructor
  · intro value ran
    obtain ⟨file, rfl⟩ := runs_removeFile_child here isName ran
    refine ⟨held.wellFormed.erase (by simp) file.ne_directory,
      held.same.trans (SameDirectories.erase_file (by simp) file.ne_directory),
      held.changes.edited ?_⟩
    rw [Edit.location, List.append_assoc]
    exact List.prefix_append _ _
  · intro fault failed
    rwa [fails_removeFile failed]

/-- A page whose stem is no name leads to a directory, so nothing is written there. -/
theorem keeps_writeText_stem :
    Keeps (Confined tree origin start)
      (writeText ((base.extend (folder ++ [name])).withSuffix []) text) := by
  rw [keeps_iff, ← Path.child_extend, Path.withSuffix_child, List.append_nil]
  intro before after held
  have here := held.same.opens opens
  constructor
  · intro value ran
    have stemName := isName_stem_of_writeText held.wellFormed here isName ran
    rw [Path.child_extend] at ran
    exact (keeps_iff.1 (keeps_writeText opens stemName) before after held).1 value ran
  · intro fault failed
    rwa [fails_writeText (by rwa [Path.parent_child]) failed]

end Files

section Directories

variable (opens : tree.Opens (base.extend folder) (origin ++ folder))
include opens

theorem keeps_children {α : Type} {next : List Path → Action α}
    (each : ∀ names : List Text, (∀ name ∈ names, IsName name) →
      Keeps (Confined tree origin start)
        (next (names.map fun name => base.extend (folder ++ [name])))) :
    Keeps (Confined tree origin start) (inspect (·.children (base.extend folder)) >>= next) := by
  refine (keeps_inspect _).bind fun children given => ?_
  obtain ⟨before, after, held, ran⟩ := given
  have listed := (runs_inspect.1 ran).1
  rw [(held.same.opens opens).children_eq, Except.ok.injEq] at listed
  rw [← listed, Path.child_extend_eq]
  exact each _ (held.wellFormed.areNames _)

/-- What is found to be a directory opens. -/
theorem opens_of_gives (isName : IsName name)
    (given : Gives (Confined tree origin start)
      (inspect (·.isDirectory (base.extend (folder ++ [name])))) true) :
    tree.Opens (base.extend (folder ++ [name])) (origin ++ (folder ++ [name])) := by
  obtain ⟨before, after, held, ran⟩ := given
  have asked := (runs_inspect.1 ran).1
  rw [← Path.child_extend] at asked ⊢
  obtain ⟨required, directory⟩ := (held.same.opens opens).isDirectory_child isName asked
  rw [← List.append_assoc]
  exact held.same.symm.opens ⟨required, directory.1 rfl⟩

end Directories

section Walk

variable {holds : Workspace → Prop}

theorem keeps_readDocument (path : Path) : Keeps holds (readDocument path) :=
  (keeps_readMarkedText path).bind fun _ _ => keeps_ofExcept _

theorem keeps_postEntries (paths : List Path) : Keeps holds (postEntries context paths) := by
  induction paths with
  | nil => exact keeps_pure []
  | cons path paths ih =>
      rw [postEntries]
      refine (keeps_readDocument path).bind fun document _ => ?_
      split
      · exact ih
      · exact (keeps_ofExcept _).bind fun entry _ => ih.bind fun _ _ => keeps_pure _

theorem keeps_feedFields? (directory : Path) : Keeps holds (feedFields? directory) := by
  unfold feedFields?
  refine (keeps_inspect _).bind fun answer _ => ?_
  split
  · exact (keeps_readDocument _).bind fun document _ => keeps_pure _
  · exact keeps_pure none

theorem keeps_writeFeed (opens : tree.Opens (base.extend folder) (origin ++ folder))
    (fields : Fields) :
    Keeps (Confined tree origin start) (writeFeed (base.extend folder) fields context) := by
  unfold writeFeed
  refine (keeps_inspect _).bind fun children _ => (keeps_postEntries _).bind fun entries _ => ?_
  rw [Path.child_extend]
  exact (keeps_writeText opens (by decide)).bind fun _ _ => (keeps_print _).bind fun _ _ =>
    keeps_pure _

theorem keeps_jobOf (opens : tree.Opens (base.extend folder) (origin ++ folder))
    (isName : IsName name) :
    Keeps (Confined tree origin start)
      (jobOf context (base.extend folder) isFeed (base.extend (folder ++ [name]))) := by
  unfold jobOf
  refine (keeps_readDocument _).bind fun document _ => ?_
  split
  · exact (keeps_removeFile opens isName).bind fun _ _ => keeps_pure none
  · exact keeps_pure _

/-- A walk of any directory of the tree is confined to the output. -/
def WalkConfined (context : Context) (tree : FileTree) (base : Path) (origin : Location)
    (start : Workspace) (depth : Nat) : Prop :=
  ∀ folder isFeed, tree.Opens (base.extend folder) (origin ++ folder) →
    Keeps (Confined tree origin start) (walk context depth (base.extend folder) isFeed)

variable {depth : Nat}

theorem keeps_walkEntry (walks : WalkConfined context tree base origin start depth)
    (opens : tree.Opens (base.extend folder) (origin ++ folder)) (isName : IsName name) :
    Keeps (Confined tree origin start)
      (walkEntry context depth (base.extend folder) isFeed (base.extend (folder ++ [name]))) := by
  rw [walkEntry]
  refine (keeps_inspect _).bind fun isFile _ => ?_
  split
  · exact (keeps_jobOf opens isName).bind fun job _ => keeps_pure _
  · refine (keeps_inspect _).bind fun isDirectory given => ?_
    split
    · next directory =>
        have inner := opens_of_gives opens isName (directory ▸ given)
        refine (keeps_feedFields? _).bind fun fields _ => ?_
        split
        · exact (keeps_writeFeed inner _).bind fun feed _ =>
            (walks _ true inner).bind fun found _ => keeps_pure _
        · exact walks _ false inner
    · exact keeps_pure _

theorem keeps_walkEntries (walks : WalkConfined context tree base origin start depth)
    (opens : tree.Opens (base.extend folder) (origin ++ folder))
    (areNames : ∀ name ∈ names, IsName name) :
    Keeps (Confined tree origin start)
      (walkEntries context depth (base.extend folder) isFeed
        (names.map fun name => base.extend (folder ++ [name]))) := by
  induction names with
  | nil =>
      rw [List.map_nil, walkEntries]
      exact keeps_pure _
  | cons name names ih =>
      rw [List.map_cons, walkEntries]
      refine (keeps_walkEntry walks opens (areNames name List.mem_cons_self)).bind fun found _ => ?_
      exact (ih fun other member => areNames other (List.mem_cons_of_mem _ member)).bind
        fun more _ => keeps_pure _

theorem walkConfined : WalkConfined context tree base origin start depth := by
  induction depth with
  | zero =>
      intro folder isFeed opens
      rw [walk]
      exact keeps_pure _
  | succ depth ih =>
      intro folder isFeed opens
      rw [walk]
      exact keeps_children opens fun names areNames => keeps_walkEntries ih opens areNames

theorem keeps_gather (opens : tree.Opens context.outputDirectory origin) :
    Keeps (Confined tree origin start) (gather context) := by
  unfold gather
  refine keeps_get.bind fun workspace _ => ?_
  have walks := @walkConfined tree origin start context context.outputDirectory
    (workspace.files.depth + 1) [] false
  rw [Path.extend_nil, List.append_nil] at walks
  exact walks opens

end Walk

section Pages

variable {buildDrafts : Bool} {stem html : Text} {job : Job} {urls : List Text} {depth : Nat}

theorem keeps_writePage (isJob : JobOf buildDrafts base origin tree folder stem job)
    (wellFormed : tree.WellFormed) :
    Keeps (Confined tree origin start) (writePage context job html) := by
  have isName := isJob.isName wellFormed
  unfold writePage
  refine (keeps_ofExcept _).bind fun rendered _ => ?_
  rw [isJob.output, isJob.source]
  exact (keeps_writeText isJob.opens (isName_pageName isName)).bind fun _ _ =>
    (keeps_removeFile isJob.opens isName).bind fun _ _ => keeps_pure _

theorem keeps_writePages {rendered : List (Job × Text)} (wellFormed : tree.WellFormed)
    (areJobs : ∀ entry ∈ rendered, ∃ folder stem,
      JobOf buildDrafts base origin tree folder stem entry.1) :
    Keeps (Confined tree origin start) (writePages context rendered urls) := by
  induction rendered generalizing urls with
  | nil => exact keeps_pure urls
  | cons entry rest ih =>
      obtain ⟨folder, stem, isJob⟩ := areJobs entry List.mem_cons_self
      rw [writePages]
      exact (keeps_writePage isJob wellFormed).bind fun url _ =>
        ih fun other member => areJobs other (List.mem_cons_of_mem _ member)

theorem keeps_processFile (opens : tree.Opens (base.extend folder) (origin ++ folder))
    (isName : IsName name) :
    Keeps (Confined tree origin start) (processFile context (base.extend (folder ++ [name]))) := by
  unfold processFile
  split
  · exact keeps_pure _
  · refine (keeps_readText _).bind fun text _ => (keeps_ofExcept _).bind fun content _ => ?_
    split
    · exact (keeps_writeText_stem opens isName).bind fun _ _ =>
        (keeps_removeFile opens isName).bind fun _ _ => keeps_pure _
    · refine (keeps_writeText opens isName).bind fun _ _ => ?_
      split
      · exact keeps_pure _
      · exact keeps_ofExcept _

/-- Processing any directory of the tree is confined to the output. -/
def ProcessConfined (context : Context) (tree : FileTree) (base : Path) (origin : Location)
    (start : Workspace) (depth : Nat) : Prop :=
  ∀ folder urls, tree.Opens (base.extend folder) (origin ++ folder) →
    Keeps (Confined tree origin start) (processTree context depth (base.extend folder) urls)

theorem keeps_processEntry (processes : ProcessConfined context tree base origin start depth)
    (opens : tree.Opens (base.extend folder) (origin ++ folder)) (isName : IsName name) :
    Keeps (Confined tree origin start)
      (processEntry context depth (base.extend (folder ++ [name])) urls) := by
  rw [processEntry]
  refine (keeps_inspect _).bind fun isDirectory given => ?_
  split
  · next directory => exact processes _ _ (opens_of_gives opens isName (directory ▸ given))
  · refine (keeps_inspect _).bind fun isFile _ => ?_
    split
    · exact (keeps_processFile opens isName).bind fun url _ => keeps_pure _
    · exact keeps_pure urls

theorem keeps_processEntries (processes : ProcessConfined context tree base origin start depth)
    (opens : tree.Opens (base.extend folder) (origin ++ folder))
    (areNames : ∀ name ∈ names, IsName name) :
    Keeps (Confined tree origin start)
      (processEntries context depth (names.map fun name => base.extend (folder ++ [name]))
        urls) := by
  induction names generalizing urls with
  | nil =>
      rw [List.map_nil, processEntries]
      exact keeps_pure urls
  | cons name names ih =>
      rw [List.map_cons, processEntries]
      exact (keeps_processEntry processes opens (areNames name List.mem_cons_self)).bind
        fun found _ => ih fun other member => areNames other (List.mem_cons_of_mem _ member)

theorem processConfined : ProcessConfined context tree base origin start depth := by
  induction depth with
  | zero =>
      intro folder urls opens
      rw [processTree]
      exact keeps_pure urls
  | succ depth ih =>
      intro folder urls opens
      rw [processTree]
      exact keeps_children opens fun names areNames => keeps_processEntries ih opens areNames

theorem keeps_writeSitemap (opens : tree.Opens context.outputDirectory origin) :
    Keeps (Confined tree origin start) (writeSitemap context urls) := by
  have root : tree.Opens (context.outputDirectory.extend []) (origin ++ []) := by
    rwa [Path.extend_nil, List.append_nil]
  have path : context.outputDirectory.child Sitemap.fileName =
      context.outputDirectory.extend ([] ++ [Sitemap.fileName]) := rfl
  unfold writeSitemap
  rw [path]
  exact (keeps_writeText root (by decide)).bind fun _ _ => keeps_pure _

end Pages

/-- Whatever becomes of the pages, only the output has changed. -/
theorem editsBelow_publish (wellFormed : before.files.WellFormed)
    (opens : before.files.Opens context.outputDirectory origin) {workers : Option Int} :
    before.EditsBelow origin ((publish context workers).perform before).2 := by
  have still : Confined before.files origin before before :=
    ⟨wellFormed, SameDirectories.refl _, before.editsBelow_refl origin⟩
  have gathering := keeps_gather opens before still
  unfold publish
  rw [perform_bind]
  rcases gathered : (gather context).perform before with ⟨fault | findings, middle⟩
  · rw [gathered] at gathering
    exact gathering.changes
  · rw [gathered] at gathering
    have walked := walked_gather wellFormed opens gathered
    have areJobs : ∀ job ∈ findings.jobs, ∃ folder stem,
        JobOf context.buildDrafts context.outputDirectory origin before.files folder stem job := by
      intro job member
      obtain ⟨folder, stem, -, isJob⟩ := walked.sound job member
      exact ⟨folder, stem, isJob⟩
    refine Confined.changes ((?_ : Keeps (Confined before.files origin before) _) middle gathering)
    refine (keeps_print _).bind fun _ _ => ?_
    split
    · exact (keeps_throw _).bind fun _ given => absurd given not_gives_throw
    · refine keeps_get.bind fun workspace _ => (keeps_ofExcept _).bind fun rendered given => ?_
      obtain ⟨_, _, -, ran⟩ := given
      have jobs := map_fst_of_renderAll (runs_ofExcept.1 ran).1
      have written : ∀ entry ∈ rendered, ∃ folder stem, JobOf context.buildDrafts
          context.outputDirectory origin before.files folder stem entry.1 :=
        fun entry member => areJobs _ (jobs ▸ List.mem_map_of_mem member)
      refine (keeps_writePages wellFormed written).bind fun pageURLs _ =>
        keeps_get.bind fun workspace _ => ?_
      have processes := @processConfined before.files origin before context
        context.outputDirectory (workspace.files.depth + 1) [] pageURLs
      rw [Path.extend_nil, List.append_nil] at processes
      exact (processes opens).bind fun urls _ => (keeps_writeSitemap opens).bind fun sitemap _ =>
        (keeps_print _).bind fun _ _ => (keeps_print _).bind fun _ _ => keeps_pure _

section Prepare

variable {holds : Workspace → Prop}

theorem keeps_filesAmong (paths : List Path) : Keeps holds (filesAmong paths) := by
  induction paths with
  | nil => exact keeps_pure []
  | cons path paths ih =>
      rw [filesAmong]
      exact (keeps_inspect _).bind fun isFile _ => ih.bind fun rest _ => keeps_pure _

theorem keeps_cachedFiles (directory : Path) : Keeps holds (cachedFiles directory) := by
  unfold cachedFiles
  refine (keeps_inspect _).bind fun answer _ => ?_
  split
  · exact (keeps_inspect _).bind fun children _ =>
      (keeps_filesAmong children).bind fun files _ => keeps_pure _
  · exact keeps_pure []

theorem keeps_loadFiles (key : Path → Text) (change : Text → Text) (paths : List Path)
    (texts : Dictionary Text) : Keeps holds (loadFiles key change paths texts) := by
  induction paths generalizing texts with
  | nil => exact keeps_pure texts
  | cons path paths ih =>
      rw [loadFiles]
      exact (keeps_readText path).bind fun text _ => ih _

/-- What a build works with is only read, even if it cannot be read. -/
theorem keeps_prepare (request : Request) : Keeps holds (prepare request) := by
  have loads : ∀ key change directory, Keeps holds
      (do loadFiles key change (← cachedFiles directory) ∅) := fun key change directory =>
    (keeps_cachedFiles directory).bind fun files _ => keeps_loadFiles key change files ∅
  unfold prepare
  exact (keeps_inspect _).bind fun config _ => (loads _ _ _).bind fun templates _ =>
    (loads _ _ _).bind fun components _ => keeps_pure _

end Prepare

/-- What turns a build down before it touches its output: something that it works with cannot be
read, there is no directory of sources, or the output may not be cleaned or is a file. -/
inductive TurnedDown (request : Request) (before : Workspace) : Prop
  | unprepared {fault : Fault} {after : Workspace} (failed : Fails (prepare request) before fault after)
  | noSource (missing : before.files.isDirectory (request.root.child Context.sourceName) ≠ .ok true)
  | uncleanable {context : Context} {reason : SourceFault} {after : Workspace}
      (prepared : Runs (prepare request) before context before)
      (refused : Fails (cleanOutput context.outputDirectory context.root) before (.source reason) after)
  | file (taken : before.files.isFile (request.root.child Context.outputName) = .ok true)

/-- Without sources, or with an output that cannot be cleaned at once, nothing is made afresh. -/
theorem fails_refresh
    (stuck : before.files.isDirectory context.sourceDirectory = .ok true →
      ∃ fault, Fails (cleanOutput context.outputDirectory context.root) before fault before) :
    ∃ fault, Fails (refresh context) before fault before := by
  unfold refresh
  rcases asked : before.files.isDirectory context.sourceDirectory with fault | _ | _
  · exact ⟨fault, fails_bind.2 (Or.inl (fails_inspect.2 ⟨asked, rfl⟩))⟩
  · refine ⟨.source (.noSource context.sourceDirectory.text),
      fails_bind.2 (Or.inr ⟨false, before, runs_inspect.2 ⟨asked, rfl⟩, ?_⟩)⟩
    rw [if_neg (by simp)]
    exact fails_bind.2 (Or.inl (fails_throw.2 ⟨rfl, rfl⟩))
  · obtain ⟨fault, refused⟩ := stuck asked
    refine ⟨fault, fails_bind.2 (Or.inr ⟨true, before, runs_inspect.2 ⟨asked, rfl⟩, ?_⟩)⟩
    rw [if_pos rfl]
    exact fails_bind.2 (Or.inl refused)

variable {request : Request}

/-- A build that is turned down changes nothing. -/
theorem TurnedDown.fails_site (down : TurnedDown request before) :
    ∃ fault, Fails (site request) before fault before := by
  have unchanged := @keeps_prepare (· = before) request before rfl
  rcases prepared : (prepare request).perform before with ⟨fault | context, middle⟩
  · rw [prepared] at unchanged
    obtain rfl : middle = before := unchanged
    exact ⟨fault, fails_bind.2 (Or.inl prepared)⟩
  · rw [prepared] at unchanged
    obtain rfl : middle = before := unchanged
    have root : context.root = request.root := (runs_prepare prepared).2.1
    suffices stuck : ∃ fault, Fails (refresh context) middle fault middle by
      obtain ⟨fault, failed⟩ := stuck
      exact ⟨fault, fails_bind.2 (Or.inr ⟨context, middle, prepared,
        fails_bind.2 (Or.inl failed)⟩)⟩
    apply fails_refresh
    intro asked
    cases down with
    | unprepared failed => cases prepared.symm.trans failed
    | noSource missing =>
        rw [Context.sourceDirectory, root] at asked
        exact absurd asked missing
    | uncleanable again refused =>
        cases prepared.symm.trans again
        obtain rfl := fails_cleanOutput_source refused
        exact ⟨_, refused⟩
    | file taken =>
        rw [Context.outputDirectory, root]
        exact fails_cleanOutput_file taken

theorem editsBelow_site (wellFormed : before.files.WellFormed) :
    before.EditsBelow (outputLocation request.root before.files)
      ((site request).perform before).2 := by
  have unchanged := @keeps_prepare (· = before) request before rfl
  unfold site
  rw [perform_bind]
  rcases prepared : (prepare request).perform before with ⟨fault | context, middle⟩
  · rw [prepared] at unchanged
    obtain rfl : middle = before := unchanged
    exact middle.editsBelow_refl _
  · rw [prepared] at unchanged
    obtain rfl : middle = before := unchanged
    rw [← (runs_prepare prepared).2.1]
    have refreshed := editsBelow_refresh context middle
    simp only
    rw [perform_bind]
    rcases copied : (refresh context).perform middle with ⟨fault | _, last⟩
    · rwa [copied] at refreshed
    · rw [copied] at refreshed
      obtain ⟨-, opens, copy⟩ := runs_refresh wellFormed copied
      exact refreshed.trans (editsBelow_publish copy.wellFormed opens)

/-- Whatever comes of a build, it has changed nothing outside its output, and not even the output
if it was turned down. -/
theorem site_changes_only_output {outcome : Except Fault Result}
    (wellFormed : before.files.WellFormed)
    (performed : (site request).perform before = (outcome, after)) :
    before.EditsBelow (outputLocation request.root before.files) after ∧
      (∀ location, ¬ outputLocation request.root before.files <+: location →
        after.files.node? location = before.files.node? location) ∧
      (TurnedDown request before → after = before) := by
  have changes : before.EditsBelow (outputLocation request.root before.files)
      ((site request).perform before).2 := editsBelow_site wellFormed
  rw [performed] at changes
  refine ⟨changes, fun location outside => changes.node?_eq (by simp [outputLocation]) outside, ?_⟩
  intro down
  obtain ⟨fault, failed⟩ := down.fails_site
  cases performed.symm.trans failed
  rfl

end Build

namespace Build.Example

open StaticSite.Action

/-- A project with an output and without sources. -/
def sourceless : Workspace where
  files := ⟨[], [
    (["config".toList], .file (Utf8.encode "\x7b\"baseURL\":\"/\"\x7d") 0),
    (["public".toList], .directory),
    (["public".toList, "a.txt".toList], .file [65] 0)]⟩

theorem turnedDown_sourceless : TurnedDown request sourceless := by
  have missing : sourceless.files.isDirectory (request.root.child Context.sourceName) =
      .ok false := by cbv
  exact .noSource (by simp [missing])

/-- A build that succeeds and one that is turned down. -/
theorem site_changes_only_output_example :
    (before.files.WellFormed ∧ (site request).perform before = (.ok ⟨["/".toList], [], 0⟩, after) ∧
      before.EditsBelow (outputLocation request.root before.files) after ∧
      ∀ location, ¬ outputLocation request.root before.files <+: location →
        after.files.node? location = before.files.node? location) ∧
    (sourceless.files.WellFormed ∧ TurnedDown request sourceless ∧
      ∃ outcome, (site request).perform sourceless = (outcome, sourceless)) := by
  have formed : sourceless.files.WellFormed := ⟨by decide, by decide, by decide⟩
  have built := site_changes_only_output wellFormed_before runs_site
  refine ⟨⟨wellFormed_before, runs_site, built.1, built.2.1⟩, formed, turnedDown_sourceless, ?_⟩
  rcases performed : (site request).perform sourceless with ⟨outcome, last⟩
  have refused := site_changes_only_output formed performed
  exact ⟨outcome, by rw [refused.2.2 turnedDown_sourceless]⟩

end Build.Example

end StaticSite
