import StaticSite.Proofs.Build.Processing
import StaticSite.Proofs.Workspace.Mirroring

/-!
# Publishing a mirror

Writing pages, processing the output and writing the sitemap take two outputs with the same files
to two outputs with the same files.
-/

namespace StaticSite

namespace Build

open StaticSite.Action FileTree

/-- Two workspaces with the same files below a location, but for the line ends of those that
vary. -/
abbrev Twins (tree : FileTree) (origin : Location) (varies : List Text → Prop) :
    Workspace → Workspace → Prop :=
  Mirror tree origin (fun _ => False) varies

variable {buildDrafts : Bool} {context : Context} {tree : FileTree} {base : Path}
  {origin : Location} {varies : List Text → Prop} {folder : List Text} {name stem html : Text}
  {job : Job}
  {urls : List Text} {names : List Text}

theorem mimics_writePage (isJob : JobOf buildDrafts base origin tree folder stem job)
    (wellFormed : tree.WellFormed) :
    Mimics (Twins tree origin varies) (writePage context job html)
      (writePage context job html) := by
  have isName := isJob.isName wellFormed
  unfold writePage
  refine (mimics_ofExcept _).bind fun rendered _ => ?_
  rw [isJob.output, isJob.source]
  refine (Mirror.mimics_writeText isJob.opens (isName_pageName isName) id).bind fun _ _ => ?_
  exact (Mirror.mimics_removeFile isJob.opens isName id).bind fun _ _ => mimics_pure _

theorem mimics_writePages {rendered : List (Job × Text)} (wellFormed : tree.WellFormed)
    (areJobs : ∀ entry ∈ rendered, ∃ folder stem,
      JobOf buildDrafts base origin tree folder stem entry.1) :
    Mimics (Twins tree origin varies) (writePages context rendered urls)
      (writePages context rendered urls) := by
  induction rendered generalizing urls with
  | nil => exact mimics_pure urls
  | cons entry rest ih =>
      obtain ⟨folder, stem, isJob⟩ := areJobs entry List.mem_cons_self
      rw [writePages]
      refine (mimics_writePage isJob wellFormed).bind fun url _ => ?_
      exact ih fun other member => areJobs other (List.mem_cons_of_mem _ member)

section Files

variable (opens : tree.Opens (base.extend folder) (origin ++ folder)) (isName : IsName name)
include opens isName

/-- A page is renamed to a name or not at all. -/
theorem mimics_writeText_stem (content : Text) :
    Mimics (Twins tree origin varies)
      (writeText ((base.extend (folder ++ [name])).withSuffix []) content)
      (writeText ((base.extend (folder ++ [name])).withSuffix []) content) := by
  rw [← Path.child_extend, Path.withSuffix_child, List.append_nil]
  intro first second value after mirror ran
  have stemName := isName_stem_of_writeText mirror.firstFormed (mirror.firstSame.opens opens)
    isName ran
  rw [Path.child_extend] at ran ⊢
  exact Mirror.mimics_writeText opens stemName id first second value after mirror ran

theorem mimics_processFile :
    Mimics (Twins tree origin varies) (processFile context (base.extend (folder ++ [name])))
      (processFile context (base.extend (folder ++ [name]))) := by
  unfold processFile
  split
  · exact mimics_pure _
  · refine (Mirror.mimics_readText opens isName id).bind fun text _ => ?_
    refine (mimics_ofExcept _).bind fun content _ => ?_
    split
    · refine (mimics_writeText_stem opens isName content).bind fun _ _ => ?_
      exact (Mirror.mimics_removeFile opens isName id).bind fun _ _ => mimics_pure _
    · refine (Mirror.mimics_writeText opens isName id).bind fun _ _ => ?_
      split
      · exact mimics_pure _
      · exact mimics_ofExcept _

end Files

/-- Processing a directory deeply enough mimics processing it in a twin. -/
def ProcessedAlike (context : Context) (tree : FileTree) (base : Path) (origin : Location)
    (varies : List Text → Prop) (limit depth again : Nat) : Prop :=
  ∀ folder urls, tree.Opens (base.extend folder) (origin ++ folder) →
    limit < (origin ++ folder).length + depth → limit < (origin ++ folder).length + again →
    Mimics (Twins tree origin varies) (processTree context depth (base.extend folder) urls)
      (processTree context again (base.extend folder) urls)

variable {limit depth again : Nat}

theorem mimics_processEntry
    (alike : ProcessedAlike context tree base origin varies limit depth again)
    (opens : tree.Opens (base.extend folder) (origin ++ folder)) (isName : IsName name)
    (deep : limit < (origin ++ folder).length + (depth + 1))
    (deepAgain : limit < (origin ++ folder).length + (again + 1)) :
    Mimics (Twins tree origin varies)
      (processEntry context depth (base.extend (folder ++ [name])) urls)
      (processEntry context again (base.extend (folder ++ [name])) urls) := by
  rw [processEntry, processEntry]
  refine (Mirror.mimics_isDirectory opens isName).bind fun isDirectory asked => ?_
  split
  · next directory =>
      apply alike _ _ (Mirror.opens_of_yields opens isName (directory ▸ asked))
      all_goals
        simp only [List.length_append, List.length_singleton] at deep deepAgain ⊢
        omega
  · refine (Mirror.mimics_isFile opens isName id).bind fun isFile _ => ?_
    split
    · exact (mimics_processFile opens isName).bind fun url _ => mimics_pure _
    · exact mimics_pure urls

theorem mimics_processEntries
    (alike : ProcessedAlike context tree base origin varies limit depth again)
    (opens : tree.Opens (base.extend folder) (origin ++ folder))
    (areNames : ∀ name ∈ names, IsName name)
    (deep : limit < (origin ++ folder).length + (depth + 1))
    (deepAgain : limit < (origin ++ folder).length + (again + 1)) :
    Mimics (Twins tree origin varies)
      (processEntries context depth (names.map fun name => base.extend (folder ++ [name])) urls)
      (processEntries context again (names.map fun name => base.extend (folder ++ [name]))
        urls) := by
  induction names generalizing urls with
  | nil =>
      rw [List.map_nil, processEntries, processEntries]
      exact mimics_pure urls
  | cons name names ih =>
      rw [List.map_cons, processEntries, processEntries]
      refine (mimics_processEntry alike opens (areNames name List.mem_cons_self) deep
        deepAgain).bind fun found _ => ?_
      exact ih fun other member => areNames other (List.mem_cons_of_mem _ member)

theorem processedAlike (nested : tree.NestedWithin limit) :
    ProcessedAlike context tree base origin varies limit depth again := by
  induction depth generalizing again with
  | zero =>
      intro folder urls opens deep
      have short := nested _ opens.2
      omega
  | succ depth ih =>
      intro folder urls opens deep deepAgain
      cases again with
      | zero =>
          have short := nested _ opens.2
          omega
      | succ again =>
          rw [processTree, processTree]
          apply Mirror.mimics_children opens fun parts => False.elim
          intro keeps names areNames kept
          rw [List.filter_eq_self.2 fun name _ => (kept name).2 id]
          exact mimics_processEntries ih opens areNames deep deepAgain

/-- Processing goes deep enough in both twins. -/
theorem exists_processTree {first second after : Workspace} {result : List Text}
    (opens : tree.Opens context.outputDirectory origin)
    (mirror : Twins tree origin varies first second)
    (ran : Runs (processTree context (first.files.depth + 1) context.outputDirectory urls)
      first result after) :
    ∃ last, Runs (processTree context (second.files.depth + 1) context.outputDirectory urls)
      second result last ∧ Twins tree origin varies after last := by
  have alike := @processedAlike context tree context.outputDirectory origin varies _
    (first.files.depth + 1) (second.files.depth + 1) mirror.nestedWithin_min [] urls
  rw [Path.extend_nil, List.append_nil] at alike
  exact alike opens (by omega) (by omega) _ _ _ _ mirror ran

theorem mimics_writeSitemap (opens : tree.Opens context.outputDirectory origin) :
    Mimics (Twins tree origin varies) (writeSitemap context urls) (writeSitemap context urls) := by
  have root : tree.Opens (context.outputDirectory.extend []) (origin ++ []) := by
    rwa [Path.extend_nil, List.append_nil]
  have path : context.outputDirectory.child Sitemap.fileName =
      context.outputDirectory.extend ([] ++ [Sitemap.fileName]) := rfl
  unfold writeSitemap
  rw [path]
  exact (Mirror.mimics_writeText root (by decide) id).bind fun _ _ => mimics_pure _

end Build

end StaticSite
