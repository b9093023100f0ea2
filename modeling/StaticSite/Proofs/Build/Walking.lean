import StaticSite.Proofs.Build.Sources

/-!
# What a walk does

A walk removes the drafts that it skips and writes the feeds that it meets, and leaves
everything else as it is.  Its jobs are those of the other documents.  Two walks through
different parts of the output come to one walk through both.
-/

namespace StaticSite

namespace Build

open StaticSite.Action FileTree

/-- The name of the document with a stem. -/
def documentName (stem : Text) : Text := stem ++ ".md"

/-- The name of the page with a stem. -/
def pageName (stem : Text) : Text := stem ++ ".html"

/-- Whether a walk comes to one file before another: in the folder where their ways part, its name
is the first in the order of the names. -/
def WalksBefore (first second : List Text) : Prop :=
  ∃ folder name other, name ≠ other ∧ Text.lessEqual name other = true ∧
    folder ++ [name] <+: first ∧ folder ++ [other] <+: second

/-- Whether a walk comes to the document of one job before that of another. -/
def Precedes (base : Path) (first second : Job) : Prop :=
  ∃ parts others, first.source = base.extend parts ∧ second.source = base.extend others ∧
    WalksBefore parts others

/-- A job is that of the document with a stem in a folder of the output. -/
structure JobOf (buildDrafts : Bool) (base : Path) (origin : Location) (tree : FileTree)
    (folder : List Text) (stem : Text) (job : Job) : Prop where
  named : stem ≠ []
  opens : tree.Opens (base.extend folder) (origin ++ folder)
  source : job.source = base.extend (folder ++ [documentName stem])
  output : job.output = base.extend (folder ++ [pageName stem])
  document : ∃ content modified,
    tree.node? (origin ++ (folder ++ [documentName stem])) = some (.file content modified) ∧
      fieldsOf content = some job.fields ∧
      ¬ IsSkippedDraft buildDrafts (documentName stem) content
  body : ∃ content modified document,
    tree.node? (origin ++ (folder ++ [documentName stem])) = some (.file content modified) ∧
      documentOf content = some document ∧ document.body = job.body

/-- What a walk through a part of the output has done: it has visited some components and
looked for feeds in some folders. -/
structure Walked (buildDrafts : Bool) (base : Path) (origin : Location)
    (visited feeds : List Text → Prop) (before after : FileTree) (jobs : List Job) : Prop where
  wellFormed : after.WellFormed
  same : SameDirectories before after
  removed : ∀ parts, visited parts → SkipsAt buildDrafts before (origin ++ parts) →
    after.node? (origin ++ parts) = none
  written : ∀ folder, feeds folder → FeedIn before (origin ++ folder) →
    after.HasFile (origin ++ (folder ++ [Feed.fileName]))
  kept : ∀ parts, ¬ (visited parts ∧ SkipsAt buildDrafts before (origin ++ parts)) →
    (∀ folder, parts = folder ++ [Feed.fileName] → feeds folder →
      ¬ FeedIn before (origin ++ folder)) →
    after.node? (origin ++ parts) = before.node? (origin ++ parts)
  sound : ∀ job ∈ jobs, ∃ folder stem, visited (folder ++ [documentName stem]) ∧
    JobOf buildDrafts base origin before folder stem job
  complete : ∀ folder stem content modified, visited (folder ++ [documentName stem]) → stem ≠ [] →
    before.node? (origin ++ (folder ++ [documentName stem])) = some (.file content modified) →
    ¬ IsSkippedDraft buildDrafts (documentName stem) content →
    ∃ job ∈ jobs, job.source = base.extend (folder ++ [documentName stem])
  ordered : jobs.Pairwise (Precedes base)

theorem isDocument_documentName {stem : Text} (named : stem ≠ []) :
    isDocument (documentName stem) = true := by
  have split : Path.splitName (documentName stem) = (stem, '.' :: ['m', 'd']) :=
    Path.splitName_of_dot named (by simp) (by decide)
  rw [isDocument, split]
  rfl

theorem eq_documentName {name : Text} (isDocument : isDocument name = true) :
    name = documentName (Path.splitName name).1 := by
  have whole := Path.splitName_append name
  rw [eq_of_beq isDocument] at whole
  exact whole.symm

theorem stem_ne_nil {name : Text} (document : isDocument name = true) :
    (Path.splitName name).1 ≠ [] := by
  apply Path.splitName_fst_ne_nil
  rintro rfl
  exact absurd document (by decide)

theorem not_isDocument_feed : isDocument Feed.fileName = false := by decide

section Walks

variable {buildDrafts : Bool} {base : Path} {origin : Location}
  {visited others feeds more : List Text → Prop} {before middle after tree : FileTree}
  {jobs later : List Job} {folder parts : List Text} {name stem : Text}

theorem not_isSkippedDraft_of_not_document (other : isDocument name = false) (content : Bytes) :
    ¬ IsSkippedDraft buildDrafts name content := by
  rintro ⟨document, -⟩
  rw [other] at document
  cases document

theorem not_skipsAt_of_not_document (other : isDocument name = false) :
    ¬ SkipsAt buildDrafts tree (origin ++ (folder ++ [name])) := by
  intro skips
  obtain ⟨content, modified, -, skipped⟩ := skipsAt_concat.1 skips
  exact not_isSkippedDraft_of_not_document other content skipped

theorem not_skipsAt_feed : ¬ SkipsAt buildDrafts tree (origin ++ (folder ++ [Feed.fileName])) :=
  not_skipsAt_of_not_document not_isDocument_feed

/-- A walk does not touch documents elsewhere. -/
theorem Walked.node?_of_isDocument
    (walked : Walked buildDrafts base origin visited feeds before after jobs)
    (outside : ¬ visited (folder ++ [name])) (document : isDocument name = true) :
    after.node? (origin ++ (folder ++ [name])) = before.node? (origin ++ (folder ++ [name])) := by
  apply walked.kept
  · exact fun inside => outside inside.1
  · intro other same
    rw [(List.append_singleton_inj.1 same).2, not_isDocument_feed] at document
    cases document

theorem skipsAt_congr (same : after.node? (origin ++ parts) = before.node? (origin ++ parts)) :
    SkipsAt buildDrafts after (origin ++ parts) ↔ SkipsAt buildDrafts before (origin ++ parts) := by
  unfold SkipsAt
  rw [same]

theorem feedIn_congr
    (same : after.node? (origin ++ (folder ++ [indexDocument])) =
      before.node? (origin ++ (folder ++ [indexDocument]))) :
    FeedIn after (origin ++ folder) ↔ FeedIn before (origin ++ folder) := by
  unfold FeedIn
  rw [List.append_assoc, same]

theorem Walked.skipsAt_iff (walked : Walked buildDrafts base origin visited feeds before after jobs)
    (outside : ¬ visited parts) :
    SkipsAt buildDrafts after (origin ++ parts) ↔ SkipsAt buildDrafts before (origin ++ parts) := by
  by_cases feed : ∃ folder, parts = folder ++ [Feed.fileName]
  · obtain ⟨folder, rfl⟩ := feed
    exact iff_of_false not_skipsAt_feed not_skipsAt_feed
  · apply skipsAt_congr
    exact walked.kept parts (fun inside => outside inside.1)
      fun folder same => absurd ⟨folder, same⟩ feed

theorem Walked.feedIn_iff (walked : Walked buildDrafts base origin visited feeds before after jobs)
    (outside : ¬ visited (folder ++ [indexDocument])) :
    FeedIn after (origin ++ folder) ↔ FeedIn before (origin ++ folder) :=
  feedIn_congr (walked.node?_of_isDocument outside (by decide))

/-- The job of a document elsewhere is the same before a walk. -/
theorem Walked.jobOf {job : Job}
    (walked : Walked buildDrafts base origin visited feeds before after jobs)
    (outside : ¬ visited (folder ++ [documentName stem]))
    (isJob : JobOf buildDrafts base origin after folder stem job) :
    JobOf buildDrafts base origin before folder stem job := by
  refine ⟨isJob.named, walked.same.symm.opens isJob.opens, isJob.source, isJob.output, ?_, ?_⟩
  · rw [← walked.node?_of_isDocument outside (isDocument_documentName isJob.named)]
    exact isJob.document
  · rw [← walked.node?_of_isDocument outside (isDocument_documentName isJob.named)]
    exact isJob.body

/-- Two walks through different parts are one walk. -/
theorem Walked.trans
    (one : Walked buildDrafts base origin visited feeds before middle jobs)
    (two : Walked buildDrafts base origin others more middle after later)
    (apart : ∀ parts, visited parts → ¬ others parts)
    (aside : ∀ folder, more folder → ¬ visited (folder ++ [indexDocument]))
    (sorted : ∀ first second, visited first → others second → WalksBefore first second) :
    Walked buildDrafts base origin (fun parts => visited parts ∨ others parts)
      (fun folder => feeds folder ∨ more folder) before after (jobs ++ later) := by
  refine ⟨two.wellFormed, one.same.trans two.same, ?_, ?_, ?_, ?_, ?_, ?_⟩
  · intro parts inside skip
    by_cases first : visited parts
    · rw [two.kept parts (fun second => apart parts first second.1)]
      · exact one.removed parts first skip
      · rintro folder rfl
        exact absurd skip not_skipsAt_feed
    · exact two.removed parts (inside.resolve_left first) ((one.skipsAt_iff first).2 skip)
  · intro folder searched feed
    by_cases second : more folder
    · exact two.written folder second ((one.feedIn_iff (aside folder second)).2 feed)
    · have written := one.written folder (searched.resolve_right second) feed
      rw [hasFile_congr (two.kept _ (fun inside => not_skipsAt_feed inside.2) ?_)]
      · exact written
      · intro other same again
        exact absurd ((List.append_singleton_inj.1 same).1 ▸ again) second
  · intro parts unskipped unfed
    rw [two.kept parts, one.kept parts]
    · exact fun inside => unskipped ⟨Or.inl inside.1, inside.2⟩
    · exact fun folder same searched => unfed folder same (Or.inl searched)
    · rintro ⟨second, skip⟩
      have outside : ¬ visited parts := fun first => apart parts first second
      exact unskipped ⟨Or.inr second, (one.skipsAt_iff outside).1 skip⟩
    · intro folder same searched feed
      exact unfed folder same (Or.inr searched) ((one.feedIn_iff (aside folder searched)).1 feed)
  · intro job member
    rcases List.mem_append.1 member with first | second
    · obtain ⟨folder, stem, inside, isJob⟩ := one.sound job first
      exact ⟨folder, stem, Or.inl inside, isJob⟩
    · obtain ⟨folder, stem, inside, isJob⟩ := two.sound job second
      exact ⟨folder, stem, Or.inr inside, one.jobOf (fun first => apart _ first inside) isJob⟩
  · intro folder stem content modified inside named there unskipped
    by_cases first : visited (folder ++ [documentName stem])
    · obtain ⟨job, member, source⟩ :=
        one.complete folder stem content modified first named there unskipped
      exact ⟨job, List.mem_append_left _ member, source⟩
    · have still := one.node?_of_isDocument first (isDocument_documentName named)
      obtain ⟨job, member, source⟩ := two.complete folder stem content modified
        (inside.resolve_left first) named (still.trans there) unskipped
      exact ⟨job, List.mem_append_right _ member, source⟩
  · refine List.pairwise_append.2 ⟨one.ordered, two.ordered, fun job early other late => ?_⟩
    obtain ⟨folder, stem, first, isJob⟩ := one.sound job early
    obtain ⟨inner, last, second, isOther⟩ := two.sound other late
    exact ⟨_, _, isJob.source, isOther.source, sorted _ _ first second⟩

/-- Only what is visited of the files, and only where feeds are, counts. -/
theorem Walked.congr (walked : Walked buildDrafts base origin visited feeds before after jobs)
    (visits : ∀ parts, before.HasFile (origin ++ parts) → (visited parts ↔ others parts))
    (searches : ∀ folder, FeedIn before (origin ++ folder) → (feeds folder ↔ more folder)) :
    Walked buildDrafts base origin others more before after jobs := by
  have held : ∀ parts, SkipsAt buildDrafts before (origin ++ parts) →
      before.HasFile (origin ++ parts) := by
    rintro parts ⟨name, content, modified, -, there, -⟩
    exact ⟨content, modified, there⟩
  refine ⟨walked.wellFormed, walked.same, ?_, ?_, ?_, ?_, ?_, walked.ordered⟩
  · intro parts inside skip
    exact walked.removed parts ((visits parts (held parts skip)).2 inside) skip
  · intro folder searched feed
    exact walked.written folder ((searches folder feed).2 searched) feed
  · intro parts unskipped unfed
    apply walked.kept
    · rintro ⟨inside, skip⟩
      exact unskipped ⟨(visits parts (held parts skip)).1 inside, skip⟩
    · intro folder same searched feed
      exact unfed folder same ((searches folder feed).1 searched) feed
  · intro job member
    obtain ⟨folder, stem, inside, isJob⟩ := walked.sound job member
    obtain ⟨content, modified, there, -⟩ := isJob.document
    exact ⟨folder, stem, (visits _ ⟨content, modified, there⟩).1 inside, isJob⟩
  · intro folder stem content modified inside named there unskipped
    exact walked.complete folder stem content modified
      ((visits _ ⟨content, modified, there⟩).2 inside) named there unskipped

/-- Where there is no document to visit and no feed to write, nothing happens. -/
theorem walked_still (wellFormed : tree.WellFormed) (root : tree.node? origin = some .directory)
    (unvisited : ∀ folder name, visited (folder ++ [name]) → isDocument name = true →
      ¬ tree.HasFile (origin ++ (folder ++ [name])))
    (unfed : ∀ folder, feeds folder → ¬ FeedIn tree (origin ++ folder)) :
    Walked buildDrafts base origin visited feeds tree tree [] := by
  refine ⟨wellFormed, SameDirectories.refl tree, ?_, ?_, ?_, ?_, ?_, .nil⟩
  · intro parts inside skips
    rcases List.eq_nil_or_concat parts with rfl | ⟨folder, name, rfl⟩
    · obtain ⟨name, content, modified, -, there, -⟩ := skips
      rw [List.append_nil, root] at there
      cases there
    · rw [List.concat_eq_append] at skips inside
      obtain ⟨content, modified, there, document, -⟩ := skipsAt_concat.1 skips
      exact absurd ⟨content, modified, there⟩ (unvisited folder name inside document)
  · intro folder searched feed
    exact absurd feed (unfed folder searched)
  · intro parts _ _
    rfl
  · intro job member
    cases member
  · intro folder stem content modified inside named there
    exact absurd ⟨content, modified, there⟩
      (unvisited folder _ inside (isDocument_documentName named))

end Walks

end Build

end StaticSite
