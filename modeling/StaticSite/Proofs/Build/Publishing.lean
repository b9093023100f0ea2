import Mathlib
import StaticSite.Proofs.Build.Phases

/-!
# The files of a finished site

A finished site has a file for every source file that is no skipped draft, for every feed and
for the sitemap, and no other file.  A source file that is no page keeps its octets, unless
something else claims its place.
-/

namespace StaticSite

namespace Build

open StaticSite.Action FileTree

/-- The name that a source file is published under. -/
def publishedName (name : Text) : Text :=
  if name = indexDocument then Page.indexName
  else if isDocument name = true ∨ isPageName name = true ∧ name ≠ Page.indexName then
    (Path.splitName name).1
  else name

/-- The name of the file that a source has become when the pages are processed. -/
def pagedName (name : Text) : Text :=
  if isDocument name then pageName (Path.splitName name).1 else name

/-- What a file of a finished site may come from. -/
inductive Contributor where
  /-- The source file with a name in a folder. -/
  | file (folder : List Text) (name : Text)
  /-- The feed of a folder. -/
  | feed (folder : List Text)
  | sitemap
  deriving DecidableEq, Repr

/-- The place of the contributed file in the finished site. -/
def Contributor.target : Contributor → List Text
  | .file folder name => folder ++ [publishedName name]
  | .feed folder => folder ++ [Feed.fileName]
  | .sitemap => [Sitemap.fileName]

/-- Whether the sources have a contributor. -/
def Contributor.IsPresent (buildDrafts : Bool) (tree : FileTree) (source : Location) :
    Contributor → Prop
  | .file folder name => ∃ content modified,
      tree.node? (source ++ (folder ++ [name])) = some (.file content modified) ∧
        ¬ IsSkippedDraft buildDrafts name content
  | .feed folder => folder ≠ [] ∧ FeedIn tree (source ++ folder)
  | .sitemap => True

/-- A source that is no document is present. -/
theorem Contributor.isPresent_of_not_document {buildDrafts : Bool} {tree : FileTree}
    {source : Location} {folder : List Text} {name : Text} (plain : isDocument name = false)
    (file : tree.HasFile (source ++ (folder ++ [name]))) :
    (Contributor.file folder name).IsPresent buildDrafts tree source := by
  obtain ⟨content, modified, there⟩ := file
  exact ⟨content, modified, there, not_isSkippedDraft_of_not_document plain content⟩

section Names

variable {name stem : Text}

theorem splitName_pageName (named : stem ≠ []) :
    Path.splitName (pageName stem) = (stem, ".html".toList) :=
  Path.splitName_of_dot named (by simp) (by decide)

theorem splitName_documentName (named : stem ≠ []) :
    Path.splitName (documentName stem) = (stem, ".md".toList) :=
  Path.splitName_of_dot named (by simp) (by decide)

theorem isPageName_pageName (named : stem ≠ []) : isPageName (pageName stem) = true := by
  rw [isPageName, splitName_pageName named]
  rfl

theorem pageName_eq_indexName : pageName stem = Page.indexName ↔ stem = "index".toList := by
  have index : Page.indexName = pageName "index".toList := rfl
  rw [index]
  exact List.append_left_inj ".html".toList

theorem documentName_eq_indexDocument :
    documentName stem = indexDocument ↔ stem = "index".toList := by
  have index : indexDocument = documentName "index".toList := rfl
  rw [index]
  exact List.append_left_inj ".md".toList

/-- The page of a document gets the name that the document is published under. -/
theorem staticName_pageName (named : stem ≠ []) :
    staticName (pageName stem) = publishedName (documentName stem) := by
  unfold staticName publishedName
  rw [isDocument_documentName named, isPageName_pageName named, splitName_pageName named,
    splitName_documentName named]
  by_cases index : stem = "index".toList
  · rw [if_pos (documentName_eq_indexDocument.2 index),
      if_neg fun renamed => renamed.2 (pageName_eq_indexName.2 index)]
    exact pageName_eq_indexName.2 index
  · rw [if_neg fun same => index (documentName_eq_indexDocument.1 same), if_pos (Or.inl rfl),
      if_pos ⟨rfl, fun same => index (pageName_eq_indexName.1 same)⟩]

theorem staticName_of_not_document (other : isDocument name = false) :
    staticName name = publishedName name := by
  have notIndex : name ≠ indexDocument := by
    rintro rfl
    exact absurd other (by decide)
  simp [staticName, publishedName, other, notIndex]

theorem pagedName_of_not_document (plain : isDocument name = false) : pagedName name = name := by
  simp [pagedName, plain]

theorem pagedName_documentName (named : stem ≠ []) :
    pagedName (documentName stem) = pageName stem := by
  rw [pagedName, if_pos (isDocument_documentName named), splitName_documentName named]

theorem staticName_pagedName (name : Text) : staticName (pagedName name) = publishedName name := by
  cases document : isDocument name with
  | false => rw [pagedName_of_not_document document, staticName_of_not_document document]
  | true =>
      have named := stem_ne_nil document
      rw [eq_documentName document, pagedName_documentName named, staticName_pageName named]

theorem staticName_feed : staticName Feed.fileName = Feed.fileName :=
  staticName_of_not_page (by decide)

end Names

namespace Phases

variable {request : Request} {result : Result} {source output : Location}
  {before after : FileTree} {folder parts : List Text} {name stem : Text}

/-- A document that is no skipped draft has a job, and nothing else has one. -/
theorem exists_job_source_iff (phases : Phases request result source output before after) :
    (∃ job ∈ phases.jobs,
      job.source = phases.context.outputDirectory.extend (folder ++ [name])) ↔
    ∃ stem, stem ≠ [] ∧ name = documentName stem ∧
      (Contributor.file folder name).IsPresent request.buildDrafts before source := by
  constructor
  · rintro ⟨job, member, same⟩
    obtain ⟨inner, stem, -, isJob⟩ := phases.walk.sound job member
    rw [isJob.source] at same
    obtain ⟨rfl, rfl⟩ := Path.extend_concat_inj.1 same
    obtain ⟨content, modified, there, -, published⟩ := isJob.document
    rw [phases.copy.inside] at there
    rw [phases.drafts] at published
    exact ⟨stem, isJob.named, rfl, content, modified, there, published⟩
  · rintro ⟨stem, named, rfl, content, modified, there, published⟩
    rw [← phases.copy.inside] at there
    rw [← phases.drafts] at published
    exact phases.walk.complete folder stem content modified (by simp) named there published

/-- The pages of the jobs are those of the documents that are published. -/
theorem exists_job_output_iff (phases : Phases request result source output before after) :
    (∃ job ∈ phases.jobs,
      job.output = phases.context.outputDirectory.extend (folder ++ [name])) ↔
    ∃ stem, stem ≠ [] ∧ name = pageName stem ∧
      (Contributor.file folder (documentName stem)).IsPresent request.buildDrafts before source := by
  constructor
  · rintro ⟨job, member, same⟩
    obtain ⟨inner, stem, -, isJob⟩ := phases.walk.sound job member
    rw [isJob.output] at same
    obtain ⟨rfl, rfl⟩ := Path.extend_concat_inj.1 same
    obtain ⟨_, _, _, present⟩ := phases.exists_job_source_iff.1 ⟨job, member, isJob.source⟩
    exact ⟨stem, isJob.named, rfl, present⟩
  · rintro ⟨stem, named, rfl, present⟩
    obtain ⟨job, member, same⟩ := phases.exists_job_source_iff.2 ⟨stem, named, rfl, present⟩
    obtain ⟨inner, other, -, isJob⟩ := phases.walk.sound job member
    rw [isJob.source] at same
    obtain ⟨rfl, names⟩ := Path.extend_concat_inj.1 same
    have stems : other = stem := List.append_cancel_right names
    exact ⟨job, member, stems ▸ isJob.output⟩

/-- The walk leaves the files that are no documents and the feeds. -/
theorem hasFile_gathered_of_not_document
    (phases : Phases request result source output before after)
    (other : isDocument name = false) :
    phases.gathered.HasFile (output ++ (folder ++ [name])) ↔
      before.HasFile (source ++ (folder ++ [name])) ∨
        (Contributor.feed folder).IsPresent request.buildDrafts before source ∧
          name = Feed.fileName := by
  have feeds : FeedIn phases.copied (output ++ folder) ↔ FeedIn before (source ++ folder) := by
    unfold FeedIn
    simp only [List.append_assoc, phases.copy.inside]
  by_cases feed : (Contributor.feed folder).IsPresent request.buildDrafts before source ∧
      name = Feed.fileName
  · obtain ⟨⟨within, declared⟩, rfl⟩ := feed
    exact iff_of_true (phases.walk.written folder within (feeds.2 declared))
      (Or.inr ⟨⟨within, declared⟩, rfl⟩)
  · rw [or_iff_left feed]
    apply hasFile_congr
    rw [← phases.copy.inside]
    apply phases.walk.kept
    · exact fun skipped => not_skipsAt_of_not_document other skipped.2
    · intro inner same within declared
      obtain ⟨rfl, last⟩ := List.append_singleton_inj.1 same
      exact feed ⟨⟨within, feeds.1 declared⟩, last⟩

/-- A document that the walk leaves has a job. -/
theorem exists_job_of_hasFile_gathered
    (phases : Phases request result source output before after) (named : stem ≠ [])
    (file : phases.gathered.HasFile (output ++ (folder ++ [documentName stem]))) :
    ∃ job ∈ phases.jobs,
      job.source = phases.context.outputDirectory.extend (folder ++ [documentName stem]) := by
  by_cases skipped : SkipsAt phases.context.buildDrafts phases.copied
      (output ++ (folder ++ [documentName stem]))
  · exact absurd (phases.walk.removed _ (by simp) skipped) file.ne_none
  · have document := isDocument_documentName named
    have same : phases.gathered.node? (output ++ (folder ++ [documentName stem])) =
        phases.copied.node? (output ++ (folder ++ [documentName stem])) := by
      apply phases.walk.kept
      · exact fun inside => skipped inside.2
      · intro inner same _ _
        rw [(List.append_singleton_inj.1 same).2, not_isDocument_feed] at document
        cases document
    obtain ⟨content, modified, there⟩ := (hasFile_congr same).1 file
    apply phases.walk.complete folder stem content modified (by simp) named there
    exact fun draft => skipped (skipsAt_concat.2 ⟨content, modified, there, draft⟩)

/-- When all pages are written, no document is left. -/
theorem hasFile_paged (phases : Phases request result source output before after) :
    phases.paged.HasFile (output ++ (folder ++ [name])) ↔
      (isDocument name = false ∧ before.HasFile (source ++ (folder ++ [name]))) ∨
      ((Contributor.feed folder).IsPresent request.buildDrafts before source ∧
        name = Feed.fileName) ∨
      ∃ stem, stem ≠ [] ∧ name = pageName stem ∧
        (Contributor.file folder (documentName stem)).IsPresent request.buildDrafts before
          source := by
  rw [phases.pages.hasFile, phases.exists_job_output_iff, ← or_assoc]
  apply or_congr_left
  cases document : isDocument name with
  | true =>
      have named := stem_ne_nil document
      refine iff_of_false ?_ ?_
      · rintro ⟨file, unread⟩
        rw [eq_documentName document] at file unread
        obtain ⟨job, member, same⟩ := phases.exists_job_of_hasFile_gathered named file
        exact unread job member same
      · rintro (⟨plain, -⟩ | ⟨-, rfl⟩)
        · cases plain
        · rw [not_isDocument_feed] at document
          cases document
  | false =>
      rw [phases.hasFile_gathered_of_not_document document, and_iff_left]
      · simp
      · intro job member same
        obtain ⟨stem, named, rfl, -⟩ := phases.exists_job_source_iff.1 ⟨job, member, same⟩
        rw [isDocument_documentName named] at document
        cases document

/-- Every file that is left when the pages are written comes from a contributor. -/
theorem exists_contributor (phases : Phases request result source output before after)
    (file : phases.paged.HasFile (output ++ (folder ++ [name]))) :
    ∃ contributor : Contributor, contributor ≠ .sitemap ∧
      contributor.IsPresent request.buildDrafts before source ∧
      contributor.target = folder ++ [staticName name] ∧
      (isPageName name = true → ∀ inner other, contributor = .file inner other →
        isDocument other = true ∨ isPageName other = true) := by
  rcases phases.hasFile_paged.1 file with ⟨plain, there⟩ | ⟨present, rfl⟩ |
    ⟨stem, named, rfl, present⟩
  · refine ⟨.file folder name, by simp, Contributor.isPresent_of_not_document plain there, ?_, ?_⟩
    · rw [Contributor.target, staticName_of_not_document plain]
    · rintro page inner other same
      cases same
      exact Or.inr page
  · refine ⟨.feed folder, by simp, present, ?_, ?_⟩
    · rw [Contributor.target, staticName_feed]
    · exact fun page => absurd page (by decide)
  · refine ⟨.file folder (documentName stem), by simp, present, ?_, ?_⟩
    · rw [Contributor.target, staticName_pageName named]
    · rintro - inner other same
      cases same
      exact Or.inl (isDocument_documentName named)

/-- A source that is published has become a file when the pages are processed. -/
theorem hasFile_pagedName (phases : Phases request result source output before after)
    (present : (Contributor.file folder name).IsPresent request.buildDrafts before source) :
    phases.paged.HasFile (output ++ (folder ++ [pagedName name])) := by
  cases document : isDocument name with
  | false =>
      obtain ⟨content, modified, there, -⟩ := present
      rw [pagedName_of_not_document document]
      exact phases.hasFile_paged.2 (Or.inl ⟨document, content, modified, there⟩)
  | true =>
      have named := stem_ne_nil document
      rw [eq_documentName document] at present ⊢
      rw [pagedName_documentName named]
      exact phases.hasFile_paged.2 (Or.inr (Or.inr ⟨_, named, rfl, present⟩))

/-- Processing gives every file that is left the name that its source is published under. -/
theorem hasFile_settled (phases : Phases request result source output before after) :
    phases.settled.HasFile (output ++ parts) ↔
      ∃ contributor : Contributor, contributor ≠ .sitemap ∧
        contributor.IsPresent request.buildDrafts before source ∧ contributor.target = parts := by
  rw [phases.settle.hasFile]
  constructor
  · rintro (⟨file, root⟩ | ⟨folder, name, -, file, rfl⟩)
    · obtain rfl := not_ne_iff.1 root
      rw [List.append_nil] at file
      have same := phases.walk.same.trans phases.pages.same
      exact absurd ((same.opens phases.opens).2) file.ne_directory
    · obtain ⟨contributor, kind, present, target, -⟩ := phases.exists_contributor file
      exact ⟨contributor, kind, present, target⟩
  · rintro ⟨contributor, kind, present, rfl⟩
    refine Or.inr ?_
    cases contributor with
    | sitemap => exact absurd rfl kind
    | feed folder =>
        refine ⟨folder, Feed.fileName, by simp, phases.hasFile_paged.2 ?_, ?_⟩
        · exact Or.inr (Or.inl ⟨present, rfl⟩)
        · rw [staticName_feed, Contributor.target]
    | file folder name =>
        refine ⟨folder, pagedName name, by simp, phases.hasFile_pagedName present, ?_⟩
        rw [staticName_pagedName, Contributor.target]

/-- The path of a published source leads to its file. -/
theorem require_published (phases : Phases request result source output before after)
    (present : (Contributor.file folder name).IsPresent request.buildDrafts before source) :
    after.require (phases.context.outputDirectory.extend (folder ++ [publishedName name])) =
      .ok (output ++ (folder ++ [publishedName name])) := by
  rw [← staticName_pagedName]
  exact phases.sameDirectories_after.require
    (phases.settle.reachable folder _ (by simp) (phases.hasFile_pagedName present))

/-- Until the pages are processed, a source that is no document stays as it is, unless a feed or
the page of a document is written over it. -/
theorem node?_paged (phases : Phases request result source output before after)
    (noDocument : isDocument name = false)
    (noFeed : name = Feed.fileName →
      ¬ (Contributor.feed folder).IsPresent request.buildDrafts before source)
    (unwritten : ∀ stem, stem ≠ [] → name = pageName stem →
      ¬ (Contributor.file folder (documentName stem)).IsPresent request.buildDrafts before
        source) :
    phases.paged.node? (output ++ (folder ++ [name])) =
      before.node? (source ++ (folder ++ [name])) :=
  calc phases.paged.node? (output ++ (folder ++ [name]))
      = phases.gathered.node? (output ++ (folder ++ [name])) := by
        apply phases.pages.kept
        refine fun job member => ⟨fun same => ?_, fun same => ?_⟩
        · obtain ⟨stem, named, rfl, -⟩ := phases.exists_job_source_iff.1 ⟨job, member, same⟩
          rw [isDocument_documentName named] at noDocument
          cases noDocument
        · obtain ⟨stem, named, same, present⟩ := phases.exists_job_output_iff.1 ⟨job, member, same⟩
          exact unwritten stem named same present
    _ = phases.copied.node? (output ++ (folder ++ [name])) := by
        apply phases.walk.kept
        · exact fun skipped => not_skipsAt_of_not_document noDocument skipped.2
        · intro inner same within declared
          obtain ⟨rfl, last⟩ := List.append_singleton_inj.1 same
          refine noFeed last ⟨within, ?_⟩
          unfold FeedIn at declared ⊢
          simpa only [List.append_assoc, phases.copy.inside] using declared
    _ = before.node? (source ++ (folder ++ [name])) := phases.copy.inside _

/-- A source file that is no page and whose place nothing else claims is kept as it is. -/
theorem node?_of_unclaimed (phases : Phases request result source output before after)
    (noDocument : isDocument name = false) (noPage : isPageName name = false)
    (alone : ∀ contributor : Contributor,
      contributor.IsPresent request.buildDrafts before source →
      contributor.target = folder ++ [name] → contributor = .file folder name) :
    after.node? (output ++ (folder ++ [name])) = before.node? (source ++ (folder ++ [name])) := by
  have noSitemap : folder ++ [name] ≠ [Sitemap.fileName] := by
    intro same
    cases alone .sitemap trivial same.symm
  have noFeed : name = Feed.fileName →
      ¬ (Contributor.feed folder).IsPresent request.buildDrafts before source := by
    rintro rfl present
    cases alone (.feed folder) present rfl
  have notRenamed : ∀ inner other, phases.paged.HasFile (output ++ (inner ++ [other])) →
      isPageName other = true → folder ++ [name] ≠ inner ++ [staticName other] := by
    intro inner other file page same
    obtain ⟨contributor, -, present, target, kind⟩ := phases.exists_contributor file
    have claimed := alone contributor present (target.trans same.symm)
    rcases kind page folder name claimed with document | page
    · rw [noDocument] at document
      cases document
    · rw [noPage] at page
      cases page
  calc after.node? (output ++ (folder ++ [name]))
      = phases.settled.node? (output ++ (folder ++ [name])) :=
        phases.node?_of_ne_sitemap noSitemap
    _ = phases.paged.node? (output ++ (folder ++ [name])) := by
        apply phases.settle.kept
        refine fun inner other _ file page => ⟨?_, notRenamed inner other file page⟩
        intro same
        rw [← (List.append_singleton_inj.1 same).2, noPage] at page
        cases page
    _ = before.node? (source ++ (folder ++ [name])) := by
        apply phases.node?_paged noDocument noFeed
        rintro stem named rfl
        rw [isPageName_pageName named] at noPage
        cases noPage

end Phases

/-- The files of a finished site are those of its contributors.  A source file that is no page
and whose place nothing else claims is there with its octets. -/
structure Publishes (buildDrafts : Bool) (before after : FileTree) (source output : Location) :
    Prop where
  hasFile_iff : ∀ parts, after.HasFile (output ++ parts) ↔
    ∃ contributor : Contributor,
      contributor.IsPresent buildDrafts before source ∧ contributor.target = parts
  unclaimed : ∀ folder name content modified,
    before.node? (source ++ (folder ++ [name])) = some (.file content modified) →
    isDocument name = false → isPageName name = false →
    (∀ contributor : Contributor, contributor.IsPresent buildDrafts before source →
      contributor.target = folder ++ [name] → contributor = .file folder name) →
    after.node? (output ++ (folder ++ [name])) = some (.file content modified)

/-- Every build that succeeds publishes the sources of its root. -/
theorem site_publishes {request : Request} {result : Result} {before after : Workspace}
    (wellFormed : before.files.WellFormed) (built : Runs (site request) before result after) :
    ∃ source output, before.files.Opens (request.root.child Context.sourceName) source ∧
      after.files.Opens (request.root.child Context.outputName) output ∧
      Publishes request.buildDrafts before.files after.files source output := by
  obtain ⟨phases⟩ := exists_phases wellFormed built
  refine ⟨_, _, phases.sourceDirectory_eq ▸ phases.sources,
    phases.outputDirectory_eq ▸ phases.opens_after, ?_, ?_⟩
  · intro parts
    rw [phases.hasFile_after, phases.hasFile_settled]
    constructor
    · rintro (rfl | ⟨contributor, -, present, target⟩)
      · exact ⟨.sitemap, trivial, rfl⟩
      · exact ⟨contributor, present, target⟩
    · rintro ⟨contributor, present, target⟩
      cases contributor with
      | sitemap => exact Or.inl target.symm
      | file folder name => exact Or.inr ⟨_, by simp, present, target⟩
      | feed folder => exact Or.inr ⟨_, by simp, present, target⟩
  · intro folder name content modified there noDocument noPage alone
    rw [phases.node?_of_unclaimed noDocument noPage alone, there]

namespace Example

/-- A site with a text, an index page and another page. -/
def sources : List (Location × Node) := [
  (["config".toList], .file (Utf8.encode "\x7b\"baseURL\":\"/\"\x7d") 0),
  (["src".toList], .directory),
  (["src".toList, "a.txt".toList], .file [65] 0),
  (["src".toList, "index.html".toList], .file [66] 0),
  (["src".toList, "x.html".toList], .file [67] 0)]

def before : Workspace where
  files := ⟨[], sources⟩

def copied : Workspace where
  files := ⟨[], sources ++ [
    (["public".toList], .directory),
    (["public".toList, "a.txt".toList], .file [65] 0),
    (["public".toList, "index.html".toList], .file [66] 0),
    (["public".toList, "x.html".toList], .file [67] 0)]⟩
  journal := [
    .write ["public".toList, "x.html".toList] [67] 0,
    .write ["public".toList, "index.html".toList] [66] 0,
    .write ["public".toList, "a.txt".toList] [65] 0,
    .makeDirectory ["public".toList]]

def gathered : Workspace :=
  { copied with printed := [.text "Converting 0 markdown files...\n"] }

def indexed : Workspace :=
  gathered.edited (.write ["public".toList, "index.html".toList] [66] 0)

def settled : Workspace :=
  (indexed.edited (.write ["public".toList, "x".toList] [67] 0)).edited
    (.remove ["public".toList, "x.html".toList])

def mapped : Workspace :=
  settled.edited (.write ["public".toList, Sitemap.fileName] (Utf8.encode (Sitemap.text ["/"])) 0)

def after : Workspace :=
  { mapped with
    printed := mapped.printed ++
      [.text "Generated sitemap at: public/sitemap.xml\n", .text "done building\n"] }

def request : Request where
  configName := "config"

def context : Context where
  root := {}
  config := ⟨"/", "en-us", []⟩
  templates := ∅
  components := ∅
  buildDrafts := false
  reload := false

theorem counts_request : request.workers.isNone = false := rfl

theorem wellFormed_before : before.files.WellFormed :=
  ⟨by decide, by decide, by decide⟩

theorem runs_processFile_index :
    Runs (processFile context (context.outputDirectory.child Page.indexName)) gathered "/".toList
      indexed := by
  have page : isPage (context.outputDirectory.child Page.indexName) = true := by cbv
  have listed : Text.contains Page.noIndexTag ['B'] = false := by cbv
  rw [processFile, page, if_neg (by decide), runs_bind]
  refine ⟨['B'], gathered, by cbv, ?_⟩
  rw [runs_bind]
  refine ⟨['B'], gathered, by cbv, ?_⟩
  rw [if_neg (by decide), runs_bind]
  refine ⟨(), indexed, by cbv, ?_⟩
  rw [listed, if_neg (by decide)]
  cbv

theorem runs_processFile_other :
    Runs (processFile context (context.outputDirectory.child "x.html".toList)) indexed [] settled :=
  have wrote : Runs (writeText ((context.outputDirectory.child "x.html".toList).withSuffix [])
      ['C']) indexed () (indexed.edited (.write ["public".toList, "x".toList] [67] 0)) := by cbv
  have read : Runs (readText (context.outputDirectory.child "x.html".toList)) indexed ['C']
      indexed := by cbv
  runs_processFile_renamed (by cbv) (by decide) read (by cbv) wrote (by cbv)

theorem runs_processTree :
    Runs (processTree context 3 context.outputDirectory []) gathered ["/".toList] settled := by
  have listed : gathered.files.children context.outputDirectory =
      .ok (["a.txt".toList, Page.indexName, "x.html".toList].map context.outputDirectory.child) := by
    cbv
  rw [processTree, runs_bind]
  refine ⟨_, gathered, runs_inspect.2 ⟨listed, rfl⟩, ?_⟩
  simp only [List.map_cons, List.map_nil, processEntries, runs_bind]
  refine ⟨[], gathered, by cbv, ["/".toList], indexed, ?_, ["/".toList], settled, ?_, rfl⟩
  · exact runs_processEntry (by cbv) (by cbv) runs_processFile_index
  · exact runs_processEntry (by cbv) (by cbv) runs_processFile_other

theorem runs_publish : Runs (publish context (some 0)) copied ⟨["/".toList], [], 0⟩ after := by
  rw [publish, runs_bind]
  refine ⟨{}, copied, by cbv, ?_⟩
  rw [runs_bind]
  refine ⟨(), gathered, rfl, ?_⟩
  rw [if_neg (by decide)]
  simp only [runs_bind, runs_get, runs_ofExcept]
  refine ⟨gathered, gathered, ⟨rfl, rfl⟩, [], gathered, ⟨by cbv, rfl⟩, [], gathered, rfl,
    gathered, gathered, ⟨rfl, rfl⟩, ["/".toList], settled, runs_processTree,
    context.outputDirectory.child Sitemap.fileName, mapped, by cbv, (), _, rfl, (), after, ?_, rfl⟩
  rfl

theorem runs_site : Runs (site request) before ⟨["/".toList], [], 0⟩ after := by
  rw [site, runs_bind]
  refine ⟨context, before, by cbv, ?_⟩
  rw [runs_bind]
  exact ⟨(), copied, by cbv, runs_publish⟩

theorem site_publishes_example :
    before.files.WellFormed ∧ Runs (site request) before ⟨["/".toList], [], 0⟩ after ∧
      ∃ source output, before.files.Opens (request.root.child Context.sourceName) source ∧
        after.files.Opens (request.root.child Context.outputName) output ∧
        Publishes request.buildDrafts before.files after.files source output :=
  ⟨wellFormed_before, runs_site, site_publishes wellFormed_before runs_site⟩

end Example

end Build

end StaticSite
