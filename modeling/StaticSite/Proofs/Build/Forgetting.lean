import StaticSite.Proofs.Build.Configuring
import StaticSite.Proofs.Build.Drafts
import StaticSite.Proofs.Build.Feeding
import StaticSite.Proofs.Build.Publishing
import StaticSite.Proofs.Build.Rebuilding

/-!
# Drafts are forgotten

A build without drafts gives what it would give if the drafts were not there, unless the index
document of a folder is a draft that declares a feed: a walk asks what the index document
declares before it asks whether the document is a draft.
-/

namespace StaticSite

namespace Build

open StaticSite.Action FileTree

/-- A project without the drafts among its sources. -/
def draftless (root : Path) (workspace : Workspace) : Workspace :=
  { workspace with
    files := withoutDrafts (sourceLocation root workspace.files) workspace.files }

variable {request : Request} {before : Workspace} {first second third fourth : FileTree}
  {source output : Location} {buildDrafts : Bool} {parts : List Text} {root : Path}

/-- A copy has the drafts of the original. -/
theorem skipsAt_copy (copy : CopyOf first second source output)
    (directory : first.node? source = some .directory) :
    SkipsAt buildDrafts second (output ++ parts) ↔ SkipsAt buildDrafts first (source ++ parts) := by
  rcases List.eq_nil_or_concat parts with rfl | ⟨folder, name, rfl⟩
  · have held := copy.inside []
    rw [List.append_nil, List.append_nil, directory] at held
    rw [List.append_nil, List.append_nil]
    refine iff_of_false ?_ ?_
    · rintro ⟨name, content, modified, -, there, -⟩
      rw [held] at there
      cases there
    · rintro ⟨name, content, modified, -, there, -⟩
      rw [directory] at there
      cases there
  · rw [List.concat_eq_append, skipsAt_concat, skipsAt_concat, copy.inside]

theorem feedIn_copy {folder : List Text} (copy : CopyOf first second source output) :
    FeedIn second (output ++ folder) ↔ FeedIn first (source ++ folder) := by
  unfold FeedIn
  simp only [List.append_assoc, copy.inside]

section Draftless

variable (wellFormed : before.files.WellFormed)
include wellFormed

/-- A project without its drafts mirrors the project. -/
theorem mirror_draftless :
    Mirror before.files (root.resolve before.files.here)
      (fun parts => [Context.sourceName] <+: parts ∧
        SkipsAt false before.files (root.resolve before.files.here ++ parts)) (fun _ => False)
      before (draftless root before) := by
  have inside : ∀ parts, sourceLocation root before.files <+:
      root.resolve before.files.here ++ parts ↔ [Context.sourceName] <+: parts :=
    fun parts => List.prefix_append_right_inj _
  have kept : ∀ parts, ¬ ([Context.sourceName] <+: parts ∧
        SkipsAt false before.files (root.resolve before.files.here ++ parts)) →
      (draftless root before).files.content? (root.resolve before.files.here ++ parts) =
        before.files.content? (root.resolve before.files.here ++ parts) := fun parts other =>
    content?_congr (node?_no_draft wellFormed fun draft =>
      other ⟨(inside parts).1 draft.1, draft.2⟩)
  refine ⟨wellFormed, wellFormed_withoutDrafts wellFormed, SameDirectories.refl _,
    sameDirectories_withoutDrafts wellFormed, rfl, rfl, fun parts other _ => kept parts other,
    fun parts other => ?_, ?_, fun _ _ => Or.inr rfl⟩
  · rw [kept parts other]
    exact Utf8.rel_readAlike_refl _
  · rintro parts ⟨below, skipped⟩
    have gone := node?_draft wellFormed ((inside parts).2 below) skipped
    rw [draftless, content?, gone]

/-- The configuration of a project is no draft. -/
theorem readSite_draftless {name : Text} {config : SiteConfig} {rooted : Location}
    (opens : before.files.Opens root rooted)
    (read : Config.readSite before.files root name = .ok config) :
    Config.readSite (draftless root before).files root name = .ok config := by
  apply Config.readSite_of_kept wellFormed (sameDirectories_withoutDrafts wellFormed) opens _ read
  intro location content held
  by_cases draft : sourceLocation root before.files <+: location ∧
      SkipsAt false before.files location
  · obtain ⟨-, name, other, modified, last, there, document, -, fields, readable, -⟩ := draft
    refine Or.inr ⟨name, last, document, ?_⟩
    obtain ⟨time, also⟩ := content?_eq_some_iff.1 held
    rw [there] at also
    cases also
    simp [readable]
  · refine Or.inl ?_
    rw [← held]
    exact content?_congr (node?_no_draft wellFormed draft)

end Draftless

namespace Stages

variable (stages : Stages request before) (wellFormed : before.files.WellFormed)

include wellFormed in
theorem prepares_draftless :
    Runs (prepare request) (draftless request.root before) stages.context
      (draftless request.root before) := by
  have config : Config.readSite before.files request.root request.configName =
      .ok stages.context.config := (runs_prepare stages.prepares).2.2.2
  apply exists_prepare (mirror_draftless wellFormed) stages.opens_root (fun parts draft => draft.1)
    _ _ stages.prepares
  · rintro parts ⟨-, name, content, modified, -, there, -⟩
    simp [there]
  · rw [config]
    exact readSite_draftless wellFormed stages.opens_root config

include wellFormed in
/-- The fresh output has everything but the drafts. -/
theorem exists_refresh_draftless :
    ∃ copied, Runs (refresh stages.context) (draftless request.root before) () copied ∧
      Mirror stages.copied.files (outputLocation request.root before.files)
        (fun parts => SkipsAt false stages.copied.files
          (outputLocation request.root before.files ++ parts)) (fun _ => False)
        stages.copied copied := by
  have apart : ¬ (sourceLocation request.root before.files <+:
      request.root.resolve before.files.here ++ [Context.outputName] ∧
        SkipsAt false before.files
          (request.root.resolve before.files.here ++ [Context.outputName])) := by
    rintro ⟨inside, -⟩
    rw [sourceLocation, List.prefix_append_right_inj] at inside
    exact absurd inside (by decide)
  have held : ((draftless request.root before).files.node?
      (outputLocation request.root before.files)).isSome =
      (before.files.node? (outputLocation request.root before.files)).isSome :=
    congrArg Option.isSome (node?_no_draft wellFormed apart)
  obtain ⟨copied, again, formed, same, programs, convert, inside⟩ := stages.exists_refreshed
    wellFormed (wellFormed_withoutDrafts wellFormed) (sameDirectories_withoutDrafts wellFormed) held
    rfl rfl
  refine ⟨copied, again, ?_⟩
  obtain ⟨sources, opened, copy⟩ := stages.copyOf wellFormed
  have skips := fun parts => @skipsAt_copy _ _ _ _ false parts copy sources.2
  have kept : ∀ parts, ¬ SkipsAt false stages.copied.files
        (outputLocation request.root before.files ++ parts) →
      copied.files.content? (outputLocation request.root before.files ++ parts) =
        stages.copied.files.content? (outputLocation request.root before.files ++ parts) := by
    intro parts other
    apply content?_congr
    rw [inside, copy.inside]
    exact node?_no_draft wellFormed fun draft => other ((skips parts).2 draft.2)
  refine ⟨copy.wellFormed, formed, SameDirectories.refl _, same, programs, convert,
    fun parts other _ => kept parts other, fun parts other => ?_, ?_, fun _ _ => Or.inr rfl⟩
  · rw [kept parts other]
    exact Utf8.rel_readAlike_refl _
  · intro parts skipped
    have gone := node?_draft wellFormed (List.prefix_append _ _) ((skips parts).1 skipped)
    have absent : copied.files.node? (outputLocation request.root before.files ++ parts) = none :=
      (inside parts).trans gone
    rw [content?, absent]

include wellFormed in
/-- A build without drafts gives the same without them if no draft declares the feed of a folder. -/
theorem exists_draftless (off : request.buildDrafts = false)
    (unfed : ∀ folder, folder ≠ [] →
      FeedIn before.files (sourceLocation request.root before.files ++ folder) →
      ¬ SkipsAt false before.files
        (sourceLocation request.root before.files ++ (folder ++ [indexDocument]))) :
    ∃ others : Stages request (draftless request.root before), others.result = stages.result ∧
      ∀ parts, others.after.files.content? (outputLocation request.root before.files ++ parts) =
        stages.after.files.content? (outputLocation request.root before.files ++ parts) := by
  obtain ⟨sources, opens, copy⟩ := stages.copyOf wellFormed
  have drafts : stages.context.buildDrafts = false := (runs_prepare stages.prepares).2.2.1.trans off
  have walked := stages.walked wellFormed
  rw [drafts] at walked
  obtain ⟨copied, refreshes, mirror⟩ := stages.exists_refresh_draftless wellFormed
  obtain ⟨gathered, gathers, mirrored⟩ := mimics_gather (by rw [drafts]; exact fun _ => id)
    (fun folder longer skipped feed => unfed folder longer ((feedIn_copy copy).1 feed)
      ((skipsAt_copy copy sources.2).1 skipped)) opens _ _ _ _ mirror stages.gathers
  -- The walk has removed every draft, so from here on the two builds have the same output.
  have gone : ∀ parts, SkipsAt false stages.copied.files
      (outputLocation request.root before.files ++ parts) →
      stages.gathered.files.content? (outputLocation request.root before.files ++ parts) =
        none := by
    intro parts skipped
    have below : parts ≠ [] := by
      rintro rfl
      obtain ⟨name, content, modified, -, there, -⟩ := skipped
      rw [List.append_nil, opens.2] at there
      cases there
    rw [content?, walked.removed parts below skipped]
  obtain ⟨others, same, -, -, ended⟩ := stages.exists_of_gathered wellFormed
    (stages.prepares_draftless wellFormed) refreshes gathers (mirrored.complete gone)
  exact ⟨others, same, fun parts => ended.shared parts id id⟩

include wellFormed in
/-- Builds with the same feeds have no draft that declares the feed of a folder. -/
theorem not_skipsAt_of_feeds (others : Stages request (draftless request.root before))
    (same : others.findings.feeds = stages.findings.feeds) {folder : List Text}
    (below : folder ≠ [])
    (feed : FeedIn before.files (sourceLocation request.root before.files ++ folder)) :
    ¬ SkipsAt false before.files
      (sourceLocation request.root before.files ++ (folder ++ [indexDocument])) := by
  intro skipped
  have formed : (draftless request.root before).files.WellFormed :=
    wellFormed_withoutDrafts wellFormed
  obtain ⟨-, opens, copy⟩ := stages.copyOf wellFormed
  obtain ⟨-, alsoOpens, also⟩ := others.copyOf formed
  have found := areFeeds_gather copy.wellFormed opens stages.gathers
  have again := areFeeds_gather also.wellFormed alsoOpens others.gathers
  have member : stages.context.outputDirectory.extend (folder ++ [Feed.fileName]) ∈
      others.findings.feeds := by
    rw [same, found]
    exact ⟨folder, below, (feedIn_copy copy).2 feed, rfl⟩
  -- The other build finds the feed as well, so it still has the index document.
  obtain ⟨inner, -, declared, path⟩ := (again _).1 member
  have outputs : others.context.outputDirectory = stages.context.outputDirectory := by
    rw [Context.outputDirectory, Context.outputDirectory, others.root_eq, stages.root_eq]
  rw [outputs] at path
  obtain ⟨rfl, -⟩ := Path.extend_concat_inj.1 path
  obtain ⟨content, modified, there, -⟩ := (feedIn_copy also).1 declared
  rw [List.append_assoc] at there
  have gone := node?_draft wellFormed (List.prefix_append _ _) skipped
  exact absurd (there.symm.trans gone) (by simp)

end Stages

/-- A build without drafts gives the same when they are removed, exactly if no index document of
a folder below the sources is a draft that declares a feed. -/
theorem site_forgets_drafts_iff {result : Result} {after : Workspace}
    (wellFormed : before.files.WellFormed) (built : Runs (site request) before result after)
    (off : request.buildDrafts = false) :
    (∃ last, Runs (site request) (draftless request.root before) result last ∧
        ∀ parts, last.files.content? (outputLocation request.root before.files ++ parts) =
          after.files.content? (outputLocation request.root before.files ++ parts)) ↔
      ∀ folder, folder ≠ [] →
        FeedIn before.files (sourceLocation request.root before.files ++ folder) →
        ¬ SkipsAt false before.files
          (sourceLocation request.root before.files ++ (folder ++ [indexDocument])) := by
  obtain ⟨stages, rfl, rfl⟩ := exists_stages built
  constructor
  · rintro ⟨last, again, -⟩ folder below feed
    obtain ⟨others, same, -⟩ := exists_stages again
    have feeds : others.findings.feeds = stages.findings.feeds :=
      (congrArg Result.feeds same).symm
    exact stages.not_skipsAt_of_feeds wellFormed others feeds below feed
  · intro unfed
    obtain ⟨others, same, contents⟩ := stages.exists_draftless wellFormed off unfed
    exact ⟨others.after, same ▸ others.runs, contents⟩

namespace Example

def draftDocument : Text := "---\ndraft: true\ntype: feed\n---\n"

/-- A site with a folder whose index document is a draft and declares a feed. -/
def draftSources : List (Location × Node) := [
  (["config".toList], .file (Utf8.encode "\x7b\"baseURL\":\"/\"\x7d") 0),
  (["src".toList], .directory),
  (["src".toList, "blog".toList], .directory),
  (["src".toList, "blog".toList, indexDocument], .file (Utf8.encode draftDocument) 0)]

def draftBefore : Workspace where
  files := ⟨[], draftSources⟩

def blog : Path := ⟨.here, ["public".toList, "blog".toList]⟩

def draftFields : Fields :=
  Dictionary.ofList [("draft".toList, "true".toList), ("type".toList, "feed".toList)]

def draftCopied : Workspace where
  files := ⟨[], draftSources ++ [
    (["public".toList], .directory),
    (["public".toList, "blog".toList], .directory),
    (["public".toList, "blog".toList, indexDocument], .file (Utf8.encode draftDocument) 0)]⟩
  journal := [
    .write ["public".toList, "blog".toList, indexDocument] (Utf8.encode draftDocument) 0,
    .makeDirectory ["public".toList, "blog".toList],
    .makeDirectory ["public".toList]]

/-- The site with a feed of some content. -/
def draftFed (feed : Bytes) : Workspace :=
  (draftCopied.edited (.write ["public".toList, "blog".toList, Feed.fileName] feed 0)).saying
    "Generated RSS feed at: public/blog/index.xml"

def draftGathered (feed : Bytes) : Workspace :=
  (draftFed feed).edited (.remove ["public".toList, "blog".toList, indexDocument])

def draftAnnounced (feed : Bytes) : Workspace :=
  (draftGathered feed).saying "Converting 0 markdown files..."

def draftMapped (feed : Bytes) : Workspace :=
  (draftAnnounced feed).edited
    (.write ["public".toList, Sitemap.fileName] (Utf8.encode (Sitemap.text [])) 0)

theorem wellFormed_draftBefore : draftBefore.files.WellFormed :=
  ⟨by decide, by decide, by decide⟩

theorem reads_draft {workspace : Workspace}
    (there : Runs (readMarkedText (blog.child indexDocument)) workspace draftDocument workspace) :
    Runs (readDocument (blog.child indexDocument)) workspace ⟨⟨draftFields, 31⟩, []⟩ workspace := by
  rw [readDocument, runs_bind]
  exact ⟨draftDocument, workspace, there, runs_ofExcept.2 ⟨by cbv, rfl⟩⟩

theorem runs_writeFeed_draft :
    Runs (writeFeed blog draftFields context) draftCopied (blog.child Feed.fileName)
      (draftFed (Utf8.encode (Feed.text draftFields (Feed.sort []) context.config.baseURL
        context.config.languageCode))) := by
  have opens : draftCopied.files.Opens blog ["public".toList, "blog".toList] := ⟨by cbv, by cbv⟩
  have listed : draftCopied.files.children blog = .ok [blog.child indexDocument] := by cbv
  rw [writeFeed, runs_bind]
  refine ⟨_, draftCopied, runs_inspect.2 ⟨listed, rfl⟩, ?_⟩
  rw [runs_bind]
  refine ⟨[], draftCopied, by cbv, ?_⟩
  rw [runs_bind]
  refine ⟨(), _, runs_writeText_of_require opens (by cbv) (by decide), ?_⟩
  rw [runs_bind]
  exact ⟨(), _, runs_print_iff.2 rfl, rfl⟩

variable (feed : Bytes)

theorem runs_walkEntries_draft :
    Runs (walkEntries context 2 blog true [blog.child indexDocument, blog.child Feed.fileName])
      (draftFed feed) {} (draftGathered feed) := by
  have read : Runs (readMarkedText (blog.child indexDocument)) (draftFed feed) draftDocument
      (draftFed feed) := by cbv
  simp only [walkEntries, runs_bind]
  refine ⟨{}, draftGathered feed, ?_, {}, draftGathered feed, ⟨{}, draftGathered feed, ?_, {},
    draftGathered feed, rfl, rfl⟩, rfl⟩
  · rw [walkEntry, runs_bind]
    refine ⟨true, draftFed feed, by cbv, ?_⟩
    rw [if_pos (by decide), runs_bind]
    refine ⟨none, draftGathered feed, ?_, rfl⟩
    rw [jobOf, runs_bind]
    refine ⟨_, _, reads_draft read, ?_⟩
    rw [if_pos (by decide), runs_bind]
    exact ⟨(), draftGathered feed, by cbv, rfl⟩
  · rw [walkEntry, runs_bind]
    refine ⟨true, draftGathered feed, by cbv, ?_⟩
    rw [if_neg (by decide), runs_bind]
    exact ⟨false, draftGathered feed, by cbv, rfl⟩

theorem runs_gather_draft {feed : Bytes}
    (written : Runs (writeFeed blog draftFields context) draftCopied (blog.child Feed.fileName)
      (draftFed feed)) :
    Runs (gather context) draftCopied ⟨[], [blog.child Feed.fileName]⟩ (draftGathered feed) := by
  have read : Runs (readMarkedText (blog.child indexDocument)) draftCopied draftDocument
      draftCopied := by cbv
  have listed : draftCopied.files.children context.outputDirectory = .ok [blog] := by cbv
  have inner : (draftFed feed).files.children blog =
      .ok [blog.child indexDocument, blog.child Feed.fileName] := by cbv
  have declared : Runs (feedFields? blog) draftCopied (some draftFields) draftCopied := by
    rw [feedFields?, runs_bind]
    refine ⟨true, draftCopied, by cbv, ?_⟩
    rw [if_pos rfl, runs_bind]
    exact ⟨_, _, reads_draft read, by cbv⟩
  have depth : draftCopied.files.depth = 3 := by decide
  rw [gather, runs_bind]
  refine ⟨draftCopied, draftCopied, rfl, ?_⟩
  rw [depth, walk, runs_bind]
  refine ⟨_, draftCopied, runs_inspect.2 ⟨listed, rfl⟩, ?_⟩
  simp only [walkEntries, runs_bind]
  refine ⟨⟨[], [blog.child Feed.fileName]⟩, draftGathered feed, ?_, {}, _, rfl, rfl⟩
  rw [walkEntry, runs_bind]
  refine ⟨false, draftCopied, by cbv, ?_⟩
  rw [if_neg (by decide), runs_bind]
  refine ⟨true, draftCopied, by cbv, ?_⟩
  rw [if_pos rfl, runs_bind]
  refine ⟨some draftFields, draftCopied, declared, ?_⟩
  simp only [runs_bind]
  refine ⟨blog.child Feed.fileName, draftFed feed, written, {}, draftGathered feed, ?_, rfl⟩
  rw [walk, runs_bind]
  exact ⟨_, _, runs_inspect.2 ⟨inner, rfl⟩, runs_walkEntries_draft feed⟩

theorem runs_writePages_draft :
    Runs (writePages context [] [])
      ((draftGathered feed).saying (announcement ⟨[], [blog.child Feed.fileName]⟩)) []
      (draftAnnounced feed) := by
  have announced : announcement ⟨[], [blog.child Feed.fileName]⟩ =
      "Converting 0 markdown files...".toList := by decide
  rw [announced]
  rfl

theorem runs_processTree_draft :
    Runs (processTree context ((draftAnnounced feed).files.depth + 1) context.outputDirectory [])
      (draftAnnounced feed) [] (draftAnnounced feed) := by
  cbv

theorem runs_writeSitemap_draft :
    Runs (writeSitemap context []) (draftAnnounced feed)
      (context.outputDirectory.child Sitemap.fileName) (draftMapped feed) := by
  cbv

/-- The build of the site with the draft. -/
def draftStages : Stages Example.request draftBefore :=
  let feed := Utf8.encode (Feed.text draftFields (Feed.sort []) context.config.baseURL
    context.config.languageCode)
  { context := context
    copied := draftCopied
    findings := ⟨[], [blog.child Feed.fileName]⟩
    gathered := draftGathered feed
    rendered := []
    pageURLs := []
    paged := draftAnnounced feed
    urls := []
    settled := draftAnnounced feed
    sitemap := context.outputDirectory.child Sitemap.fileName
    mapped := draftMapped feed
    prepares := by cbv
    refreshes := by cbv
    gathers := runs_gather_draft runs_writeFeed_draft
    counts := counts_request
    renders := rfl
    writes := runs_writePages_draft _
    processes := runs_processTree_draft _
    maps := runs_writeSitemap_draft _ }

/-- The draft declares the feed of its folder. -/
theorem draft_source :
    FeedIn draftBefore.files (sourceLocation Example.request.root draftBefore.files ++
        ["blog".toList]) ∧
      SkipsAt false draftBefore.files (sourceLocation Example.request.root draftBefore.files ++
        (["blog".toList] ++ [indexDocument])) := by
  have header : fieldsOf (Utf8.encode draftDocument) = some draftFields := by cbv
  refine ⟨⟨Utf8.encode draftDocument, 0, by decide, draftFields, header, by decide⟩, ?_⟩
  rw [skipsAt_concat]
  exact ⟨Utf8.encode draftDocument, 0, by decide, by decide, rfl, draftFields, header, by decide⟩

theorem site_forgets_drafts_iff_blog :
    draftBefore.files.WellFormed ∧
      Runs (site Example.request) draftBefore draftStages.result draftStages.after ∧
      Example.request.buildDrafts = false ∧
      ((∃ last, Runs (site Example.request) (draftless Example.request.root draftBefore)
          draftStages.result last ∧
          ∀ parts, last.files.content?
              (outputLocation Example.request.root draftBefore.files ++ parts) =
            draftStages.after.files.content?
              (outputLocation Example.request.root draftBefore.files ++ parts)) ↔
        ∀ folder, folder ≠ [] →
          FeedIn draftBefore.files
            (sourceLocation Example.request.root draftBefore.files ++ folder) →
          ¬ SkipsAt false draftBefore.files
            (sourceLocation Example.request.root draftBefore.files ++ (folder ++ [indexDocument]))) :=
  ⟨wellFormed_draftBefore, draftStages.runs, rfl,
    site_forgets_drafts_iff wellFormed_draftBefore draftStages.runs rfl⟩

/-- Without the draft no build has the feed that the draft declares. -/
theorem not_site_forgets_blog :
    Runs (site Example.request) draftBefore draftStages.result draftStages.after ∧
      Example.request.buildDrafts = false ∧ draftStages.result.feeds = [blog.child Feed.fileName] ∧
      ¬ ∃ last, Runs (site Example.request) (draftless Example.request.root draftBefore)
        draftStages.result last := by
  refine ⟨draftStages.runs, rfl, rfl, ?_⟩
  rintro ⟨last, again⟩
  obtain ⟨others, same, -⟩ := exists_stages again
  have feeds : others.findings.feeds = draftStages.findings.feeds :=
    (congrArg Result.feeds same).symm
  obtain ⟨declared, skipped⟩ := draft_source
  exact draftStages.not_skipsAt_of_feeds wellFormed_draftBefore others feeds (by simp) declared
    skipped

end Example

end Build

end StaticSite
