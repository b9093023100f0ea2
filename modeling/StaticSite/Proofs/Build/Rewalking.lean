import StaticSite.Proofs.Build.Gathering
import StaticSite.Proofs.Workspace.Mirroring

/-!
# Walking a mirror

A walk of an output that lacks some drafts finds what a walk of the whole output finds, which
removes those drafts.  Only an index document is asked for a feed before it is known to be a
draft, so no index document that declares a feed may be lacking.
-/

namespace StaticSite

namespace Build

open StaticSite.Action FileTree

variable {context : Context} {tree : FileTree} {base : Path} {origin : Location}
  {lacks varies : List Text → Prop} {first second after : Workspace} {folder : List Text}
  {name : Text} {names : List Text} {keeps : Text → Bool} {isFeed : Bool}

theorem exists_require_of_readDocument {path : Path} {document : FrontMatter.Document}
    (ran : Runs (readDocument path) first document after) :
    ∃ location, first.files.require path = .ok location := by
  unfold readDocument at ran
  obtain ⟨text, middle, marked, -⟩ := runs_bind.1 ran
  obtain ⟨content, plain, read, -⟩ := runs_readMarkedText_iff.1 marked
  obtain ⟨location, required, -⟩ := read_eq_ok_iff.1 read
  exact ⟨location, required⟩

section Documents

variable (opens : tree.Opens (base.extend folder) (origin ++ folder)) (isName : IsName name)

include opens isName in
theorem mimics_readDocument (shown : ¬ lacks (folder ++ [name])) :
    Mimics (Mirror tree origin lacks varies) (readDocument (base.extend (folder ++ [name])))
      (readDocument (base.extend (folder ++ [name]))) := by
  unfold readDocument
  exact (Mirror.mimics_readMarkedText opens isName shown).bind fun text _ => mimics_ofExcept _

include opens isName in
theorem mimics_jobOf (shown : ¬ lacks (folder ++ [name])) :
    Mimics (Mirror tree origin lacks varies)
      (jobOf context (base.extend folder) isFeed (base.extend (folder ++ [name])))
      (jobOf context (base.extend folder) isFeed (base.extend (folder ++ [name]))) := by
  unfold jobOf
  refine (mimics_readDocument opens isName shown).bind fun document _ => ?_
  split
  · exact (Mirror.mimics_removeFile opens isName shown).bind fun _ _ => mimics_pure none
  · exact mimics_pure _

variable (drafts : ∀ parts, lacks parts → SkipsAt context.buildDrafts tree (origin ++ parts))

include drafts in
/-- What is lacking is no directory. -/
theorem not_directory_of_lacks {parts : List Text} (lacked : lacks parts) :
    tree.node? (origin ++ parts) ≠ some .directory := by
  obtain ⟨name, content, modified, -, there, -⟩ := drafts parts lacked
  simp [there]

include opens isName drafts in
/-- A document that the mirror lacks is read as a draft that is skipped. -/
theorem isSkipped_of_lacks {document : FrontMatter.Document}
    (mirror : Mirror tree origin lacks varies first second) (lacked : lacks (folder ++ [name]))
    (ran : Runs (readDocument (base.extend (folder ++ [name]))) first document after) :
    first = after ∧ first.files.HasFile (origin ++ (folder ++ [name])) ∧
      isSkipped context document.header.fields = true := by
  obtain ⟨location, required⟩ := exists_require_of_readDocument ran
  obtain ⟨rfl, content, modified, there, fields⟩ := runs_readDocument required ran
  rw [← Path.child_extend] at required
  obtain rfl := (mirror.firstSame.opens opens).eq_of_require_child isName required
  rw [List.append_assoc] at there
  have held := content?_eq_some_iff.2 ⟨modified, there⟩
  obtain ⟨original, time, known, skipped⟩ := skipsAt_concat.1 (drafts _ lacked)
  have same : first.files.content? (origin ++ (folder ++ [name])) = some original := by
    rcases mirror.known _ lacked with gone | kept
    · rw [held] at gone
      cases gone
    · rw [kept, content?_eq_some_iff]
      exact ⟨time, known⟩
  obtain rfl : content = original := Option.some.inj (held.symm.trans same)
  exact ⟨rfl, ⟨content, modified, there⟩, (isSkippedDraft_iff skipped.1 fields).1 skipped⟩

include opens drafts in
/-- The posts of a feed are the same without the drafts. -/
theorem mimics_postEntries (areNames : ∀ name ∈ names, IsName name)
    (kept : ∀ name, keeps name = true ↔ ¬ lacks (folder ++ [name])) :
    Mimics (Mirror tree origin lacks varies)
      (postEntries context (names.map fun name => base.extend (folder ++ [name])))
      (postEntries context
        ((names.filter keeps).map fun name => base.extend (folder ++ [name]))) := by
  induction names with
  | nil => exact mimics_pure []
  | cons name names ih =>
      have isName := areNames name List.mem_cons_self
      have later := ih fun other member => areNames other (List.mem_cons_of_mem _ member)
      by_cases lacked : lacks (folder ++ [name])
      · rw [List.filter_cons_of_neg fun keep => (kept name).1 keep lacked]
        intro before other entries last mirror ran
        rw [List.map_cons, postEntries] at ran
        obtain ⟨document, middle, read, ran⟩ := runs_bind.1 ran
        obtain ⟨rfl, -, skipped⟩ := isSkipped_of_lacks opens isName drafts mirror lacked read
        rw [if_pos skipped] at ran
        exact later before other entries last mirror ran
      · rw [List.filter_cons_of_pos ((kept name).2 lacked), List.map_cons, List.map_cons,
          postEntries, postEntries]
        refine (mimics_readDocument opens isName lacked).bind fun document _ => ?_
        split
        · exact later
        · exact (mimics_ofExcept _).bind fun entry _ => later.bind fun _ _ => mimics_pure _

include opens drafts in
theorem mimics_writeFeed (fields : Fields) :
    Mimics (Mirror tree origin lacks varies) (writeFeed (base.extend folder) fields context)
      (writeFeed (base.extend folder) fields context) := by
  have shown : ¬ lacks (folder ++ [Feed.fileName]) :=
    fun lacked => not_skipsAt_feed (drafts _ lacked)
  unfold writeFeed
  apply Mirror.mimics_children opens fun parts => not_directory_of_lacks drafts
  intro keeps names areNames kept
  have isPost : (fun path : Path => Text.endsWith ".md" path.name && path.name != indexDocument) ∘
      (fun name => base.extend (folder ++ [name])) =
        fun name => Text.endsWith ".md" name && name != indexDocument := by
    funext name
    simp only [Function.comp_apply, Path.name_extend]
  simp only [List.filter_map, isPost, List.filter_comm _ keeps]
  have areAll : ∀ name ∈ names.filter fun name =>
      Text.endsWith ".md" name && name != indexDocument, IsName name :=
    fun name member => areNames name (List.mem_of_mem_filter member)
  refine (mimics_postEntries opens drafts areAll kept).bind fun entries _ => ?_
  rw [Path.child_extend]
  exact (Mirror.mimics_writeText opens (by decide) shown).bind fun _ _ =>
    (Mirror.mimics_print _).bind fun _ _ => mimics_pure _

include opens in
/-- A folder has a feed if it has one without the drafts. -/
theorem mimics_feedFields?
    (unfed : lacks (folder ++ [indexDocument]) → ¬ FeedIn tree (origin ++ folder)) :
    Mimics (Mirror tree origin lacks varies) (feedFields? (base.extend folder))
      (feedFields? (base.extend folder)) := by
  have isName : IsName indexDocument := by decide
  by_cases lacked : lacks (folder ++ [indexDocument])
  · -- A draft that declares no feed answers like one that is not there.
    intro before other fields last mirror ran
    obtain ⟨rfl, declared⟩ := runs_feedFields? (mirror.firstSame.opens opens) ran
    have none : fields = none := by
      rw [← Option.not_isSome_iff_eq_none, declared]
      rintro ⟨content, modified, there, declares⟩
      rw [List.append_assoc] at there
      have held := content?_eq_some_iff.2 ⟨modified, there⟩
      rcases mirror.known _ lacked with gone | kept
      · rw [held] at gone
        cases gone
      · obtain ⟨time, original⟩ := content?_eq_some_iff.1 (kept.symm.trans held)
        exact unfed lacked ⟨content, time, List.append_assoc _ _ _ ▸ original, declares⟩
    subst none
    unfold feedFields? at ran ⊢
    obtain ⟨answer, _, asking, -⟩ := runs_bind.1 ran
    obtain ⟨asked, rfl⟩ := runs_inspect.1 asking
    have required := ((mirror.firstSame.opens opens).isFile_child isName asked).1
    have also := (mirror.sameDirectories.require_child (mirror.firstSame.opens opens)
      isName).trans required
    have absent := mirror.absent _ lacked
    rw [← List.append_assoc] at absent
    refine ⟨other, runs_bind.2 ⟨false, other, runs_inspect.2 ⟨?_, rfl⟩, rfl⟩, mirror⟩
    exact isFile_of_no_content also absent
  · unfold feedFields?
    simp only [Path.child_extend]
    refine (Mirror.mimics_isFile opens isName lacked).bind fun answer _ => ?_
    split
    · exact (mimics_readDocument opens isName lacked).bind fun document _ => mimics_pure _
    · exact mimics_pure none

end Documents

section Walks

variable (drafts : ∀ parts, lacks parts → SkipsAt context.buildDrafts tree (origin ++ parts))
  (unfed : ∀ folder, folder ≠ [] → lacks (folder ++ [indexDocument]) →
    ¬ FeedIn tree (origin ++ folder))

/-- Walks of a folder that go deep enough mimic each other. -/
def WalksAlike (context : Context) (tree : FileTree) (base : Path) (origin : Location)
    (lacks varies : List Text → Prop) (limit depth again : Nat) : Prop :=
  ∀ folder isFeed, tree.Opens (base.extend folder) (origin ++ folder) →
    limit < (origin ++ folder).length + depth → limit < (origin ++ folder).length + again →
    Mimics (Mirror tree origin lacks varies) (walk context depth (base.extend folder) isFeed)
      (walk context again (base.extend folder) isFeed)

variable {limit depth again : Nat}

include drafts in
/-- To walk a draft that the mirror lacks is to forget it. -/
theorem mirror_of_lacks {findings : Findings}
    (opens : tree.Opens (base.extend folder) (origin ++ folder)) (isName : IsName name)
    (mirror : Mirror tree origin lacks varies first second) (lacked : lacks (folder ++ [name]))
    (ran : Runs (walkEntry context depth (base.extend folder) isFeed
      (base.extend (folder ++ [name]))) first findings after) :
    findings = {} ∧ Mirror tree origin lacks varies after second := by
  obtain ⟨-, -, -, document, -⟩ := skipsAt_concat.1 (drafts _ lacked)
  have suffix : ((base.extend (folder ++ [name])).suffix == ".md".toList) = true := by
    rw [Path.suffix, Path.name_extend]
    exact document
  have here := mirror.firstSame.opens opens
  simp only [walkEntry, suffix, Bool.and_true] at ran
  obtain ⟨answer, _, asking, ran⟩ := runs_bind.1 ran
  obtain ⟨asked, rfl⟩ := runs_inspect.1 asking
  -- The draft is either still there and removed now, or gone already.
  split at ran
  · obtain ⟨job, middle, found, ended⟩ := runs_bind.1 ran
    obtain ⟨rfl, rfl⟩ := runs_pure.1 ended
    unfold jobOf at found
    obtain ⟨document, _, read, found⟩ := runs_bind.1 found
    obtain ⟨rfl, file, skipped⟩ := isSkipped_of_lacks opens isName drafts mirror lacked read
    rw [if_pos skipped] at found
    obtain ⟨_, _, removed, ended⟩ := runs_bind.1 found
    obtain ⟨rfl, rfl⟩ := runs_pure.1 ended
    rw [← Path.child_extend] at removed
    obtain ⟨-, rfl⟩ := runs_removeFile_child here isName removed
    rw [List.append_assoc]
    exact ⟨rfl, mirror.forget lacked file⟩
  · obtain ⟨answer, _, asking, ran⟩ := runs_bind.1 ran
    obtain ⟨asked, rfl⟩ := runs_inspect.1 asking
    rw [← Path.child_extend] at asked
    have closed : answer = false := by
      rw [← Bool.not_eq_true, (here.isDirectory_child isName asked).2, List.append_assoc,
        mirror.firstSame.directory_iff]
      exact not_directory_of_lacks drafts lacked
    rw [if_neg (by simp [closed])] at ran
    obtain ⟨rfl, rfl⟩ := runs_pure.1 ran
    exact ⟨rfl, mirror⟩

include drafts unfed in
theorem mimics_walkEntry
    (alike : WalksAlike context tree base origin lacks varies limit depth again)
    (opens : tree.Opens (base.extend folder) (origin ++ folder)) (isName : IsName name)
    (shown : ¬ lacks (folder ++ [name]))
    (deep : limit < (origin ++ folder).length + (depth + 1))
    (deepAgain : limit < (origin ++ folder).length + (again + 1)) :
    Mimics (Mirror tree origin lacks varies)
      (walkEntry context depth (base.extend folder) isFeed (base.extend (folder ++ [name])))
      (walkEntry context again (base.extend folder) isFeed (base.extend (folder ++ [name]))) := by
  rw [walkEntry, walkEntry]
  refine (Mirror.mimics_isFile opens isName shown).bind fun isFile _ => ?_
  split
  · exact (mimics_jobOf opens isName shown).bind fun job _ => mimics_pure _
  · refine (Mirror.mimics_isDirectory opens isName).bind fun isDirectory asked => ?_
    split
    · next directory =>
        have inner := Mirror.opens_of_yields opens isName (directory ▸ asked)
        have deeper : limit < (origin ++ (folder ++ [name])).length + depth ∧
            limit < (origin ++ (folder ++ [name])).length + again := by
          simp only [List.length_append, List.length_singleton] at deep deepAgain ⊢
          omega
        have walks := fun isFeed => alike (folder ++ [name]) isFeed inner deeper.1 deeper.2
        refine (mimics_feedFields? inner (unfed _ (by simp))).bind fun fields _ => ?_
        split
        · refine (mimics_writeFeed inner drafts _).bind fun feed _ => ?_
          exact (walks true).bind fun found _ => mimics_pure _
        · exact walks false
    · exact mimics_pure _

include drafts unfed in
theorem mimics_walkEntries
    (alike : WalksAlike context tree base origin lacks varies limit depth again)
    (opens : tree.Opens (base.extend folder) (origin ++ folder))
    (areNames : ∀ name ∈ names, IsName name)
    (kept : ∀ name, keeps name = true ↔ ¬ lacks (folder ++ [name]))
    (deep : limit < (origin ++ folder).length + (depth + 1))
    (deepAgain : limit < (origin ++ folder).length + (again + 1)) :
    Mimics (Mirror tree origin lacks varies)
      (walkEntries context depth (base.extend folder) isFeed
        (names.map fun name => base.extend (folder ++ [name])))
      (walkEntries context again (base.extend folder) isFeed
        ((names.filter keeps).map fun name => base.extend (folder ++ [name]))) := by
  induction names with
  | nil =>
      rw [List.filter_nil, List.map_nil, walkEntries, walkEntries]
      exact mimics_pure _
  | cons name names ih =>
      have isName := areNames name List.mem_cons_self
      have later := ih fun other member => areNames other (List.mem_cons_of_mem _ member)
      by_cases lacked : lacks (folder ++ [name])
      · rw [List.filter_cons_of_neg fun keep => (kept name).1 keep lacked, List.map_cons,
          walkEntries]
        intro before other findings last mirror ran
        obtain ⟨found, middle, begun, ran⟩ := runs_bind.1 ran
        obtain ⟨rfl, mirrored⟩ := mirror_of_lacks drafts opens isName mirror lacked begun
        obtain ⟨more, _, walked, ended⟩ := runs_bind.1 ran
        obtain ⟨rfl, rfl⟩ := runs_pure.1 ended
        exact later middle other more _ mirrored walked
      · rw [List.filter_cons_of_pos ((kept name).2 lacked), List.map_cons, List.map_cons,
          walkEntries, walkEntries]
        refine (mimics_walkEntry drafts unfed alike opens isName lacked deep deepAgain).bind
          fun found _ => ?_
        exact later.bind fun more _ => mimics_pure _

include drafts unfed in
/-- All walks that go deep enough mimic each other. -/
theorem walksAlike (nested : tree.NestedWithin limit) :
    WalksAlike context tree base origin lacks varies limit depth again := by
  induction depth generalizing again with
  | zero =>
      intro folder isFeed opens deep
      have short := nested _ opens.2
      omega
  | succ depth ih =>
      intro folder isFeed opens deep deepAgain
      cases again with
      | zero =>
          have short := nested _ opens.2
          omega
      | succ again =>
          rw [walk, walk]
          apply Mirror.mimics_children opens fun parts => not_directory_of_lacks drafts
          intro keeps names areNames kept
          exact mimics_walkEntries drafts unfed ih opens areNames kept deep deepAgain

include drafts unfed in
/-- Gathering finds the same without the drafts that are skipped. -/
theorem mimics_gather (opens : tree.Opens context.outputDirectory origin) :
    Mimics (Mirror tree origin lacks varies) (gather context) (gather context) := by
  intro before other findings last mirror ran
  unfold gather at ran ⊢
  obtain ⟨_, _, asking, ran⟩ := runs_bind.1 ran
  obtain ⟨rfl, rfl⟩ := runs_get.1 asking
  have alike := @walksAlike context tree context.outputDirectory origin lacks varies drafts unfed _
    (before.files.depth + 1) (other.files.depth + 1) mirror.nestedWithin_min [] false
  rw [Path.extend_nil, List.append_nil] at alike
  obtain ⟨after, walked, mirrored⟩ := alike opens (by omega) (by omega) _ _ _ _ mirror ran
  exact ⟨after, runs_bind.2 ⟨other, other, runs_get.2 ⟨rfl, rfl⟩, walked⟩, mirrored⟩

end Walks

end Build

end StaticSite
