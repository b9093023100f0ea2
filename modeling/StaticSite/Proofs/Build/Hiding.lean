import StaticSite.Proofs.Build.Indexing
import StaticSite.Proofs.Build.Listing
import StaticSite.Proofs.Build.Written
import StaticSite.Proofs.Sitemap

/-!
# Pages that are kept out of every index

A document says in its header that its page is kept out of every index.  Writing the page honours
that, but processing knows only what the page says: the address of an index page is listed
after all unless its text has the tag.
-/

namespace StaticSite

namespace Build

open StaticSite.Action FileTree Page

variable {request : Request} {result : Result} {before after : Workspace} {folder : List Text}
  {stem url : Text}

theorem baseURL_ne_nil {files : FileTree} {root : Path} {name : Text} {config : SiteConfig}
    (read : Config.readSite files root name = .ok config) : config.baseURL ≠ [] := by
  obtain ⟨entries, -, made⟩ := bind_eq_ok_iff.1 read
  unfold Config.siteConfig at made
  split at made
  · split at made
    · cases made
    · next nonempty =>
        split at made
        · cases made
        · cases made
          simpa using nonempty
  · cases made

namespace Phases

variable {source output : Location} {before after : FileTree}

theorem canonicalURL_eq (phases : Phases request result source output before after)
    (file : phases.paged.HasFile (output ++ (folder ++ [pageName stem]))) :
    Page.canonicalURL phases.context.config.baseURL
        (phases.context.outputDirectory.extend (folder ++ [pageName stem]))
        phases.context.outputDirectory =
      .ok (phases.context.config.baseURL ++ addressText folder (addressName stem)) := by
  have isName : IsName (stem ++ ".html".toList) :=
    phases.pages.wellFormed.isName file.ne_none (by simp [pageName])
  have path : Page.canonicalPath
      (phases.context.outputDirectory.extend (folder ++ [pageName stem]))
      phases.context.outputDirectory = .ok (addressText folder (addressName stem)) :=
    canonicalPath_extend isName
  rw [Page.canonicalURL, path]
  rfl

theorem eq_of_address (phases : Phases request result source output before after)
    {inner : List Text} {other : Text} (named : stem ≠ []) (also : other ≠ [])
    (file : phases.paged.HasFile (output ++ (folder ++ [pageName stem])))
    (second : phases.paged.HasFile (output ++ (inner ++ [pageName other])))
    (same : addressText folder (addressName stem) = addressText inner (addressName other)) :
    folder = inner ∧ stem = other := by
  have isAddress := (phases.hasFile_of_page named file).1
  have isSecond := (phases.hasFile_of_page also second).1
  obtain ⟨folders, names⟩ := isAddress.eq_of_addressText isSecond same
  refine ⟨folders, ?_⟩
  unfold addressName at names
  split at names
  · next index =>
      split at names
      · next alike => rw [index, alike]
      · exact absurd names.symm also
  · split at names
    · exact absurd names named
    · exact names

end Phases

namespace Stages

variable (stages : Stages request before) (wellFormed : before.files.WellFormed)

include wellFormed in
theorem written_pages :
    Written stages.context stages.context.outputDirectory
      (outputLocation request.root before.files) stages.rendered stages.gathered.files
      stages.paged.files [] stages.pageURLs := by
  have ⟨_, opens, copy⟩ := stages.copyOf wellFormed
  have walk := stages.walked wellFormed
  have announced : (stages.gathered.saying (announcement stages.findings)).files.WellFormed :=
    walk.wellFormed
  have written := written_writePages copy.wellFormed announced walk.same
    (stages.areJobs wellFormed) stages.writes
  exact written

include wellFormed in
theorem appended_output :
    Appended stages.context stages.context.outputDirectory
      (outputLocation request.root before.files) (· ≠ []) stages.paged.files
      stages.pageURLs stages.urls :=
  appended_processTree (stages.paged_jobs wellFormed).1.wellFormed
    (stages.opens_paged wellFormed) stages.processes

include wellFormed in
theorem indexed_output :
    Indexed stages.context stages.context.outputDirectory
      (outputLocation request.root before.files) (· ≠ []) stages.paged.files
      stages.pageURLs stages.urls :=
  (stages.appended_output wellFormed).indexed

/-- The address of a page that was written. -/
def addressOf (folder : List Text) (stem : Text) : Text :=
  stages.context.config.baseURL ++ addressText folder (addressName stem)

theorem addressOf_ne_nil (folder : List Text) (stem : Text) :
    stages.addressOf folder stem ≠ [] := by
  intro none
  have config := (runs_prepare stages.prepares).2.2.2
  exact baseURL_ne_nil config (List.append_eq_nil_iff.1 none).1

include wellFormed in
theorem canonicalURL_eq
    (file : stages.paged.files.HasFile (outputLocation request.root before.files ++
      (folder ++ [pageName stem]))) :
    Page.canonicalURL stages.context.config.baseURL
        (stages.context.outputDirectory.extend (folder ++ [pageName stem]))
        stages.context.outputDirectory = .ok (stages.addressOf folder stem) :=
  (stages.phases wellFormed).canonicalURL_eq file

include wellFormed in
/-- No two pages have one address. -/
theorem eq_of_addressOf {inner : List Text} {other : Text} (named : stem ≠ []) (also : other ≠ [])
    (file : stages.paged.files.HasFile (outputLocation request.root before.files ++
      (folder ++ [pageName stem])))
    (second : stages.paged.files.HasFile (outputLocation request.root before.files ++
      (inner ++ [pageName other])))
    (same : stages.addressOf folder stem = stages.addressOf inner other) :
    folder = inner ∧ stem = other :=
  (stages.phases wellFormed).eq_of_address named also file second (List.append_cancel_left same)

include wellFormed in
/-- A page brings its own address only. -/
theorem mem_pageURLs_iff (named : stem ≠ [])
    (file : stages.paged.files.HasFile (outputLocation request.root before.files ++
      (folder ++ [pageName stem]))) :
    stages.addressOf folder stem ∈ stages.pageURLs ↔ ∃ entry ∈ stages.rendered, ∃ document,
      entry.1.output = stages.context.outputDirectory.extend (folder ++ [pageName stem]) ∧
      Page.render entry.1 entry.2 stages.context =
        .ok (document, stages.addressOf folder stem) := by
  have paged := (stages.paged_jobs wellFormed).1
  rw [(stages.written_pages wellFormed).listed_iff]
  constructor
  · rintro (none | ⟨-, entry, member, document, rendering⟩)
    · cases none
    · refine ⟨entry, member, document, ?_, rendering⟩
      obtain ⟨inner, other, isJob⟩ := stages.areJobs wellFormed entry member
      have job : entry.1 ∈ stages.findings.jobs :=
        map_fst_of_renderAll stages.renders ▸ List.mem_map_of_mem member
      have second : stages.paged.files.HasFile (outputLocation request.root before.files ++
          (inner ++ [pageName other])) :=
        (paged.hasFile _).2 (Or.inr ⟨entry.1, job, isJob.output⟩)
      obtain ⟨address, canonical, same⟩ := url_eq_of_render rendering
      split at same
      · exact absurd same (stages.addressOf_ne_nil folder stem)
      · rw [isJob.output, stages.canonicalURL_eq wellFormed second, ← same] at canonical
        obtain ⟨rfl, rfl⟩ := stages.eq_of_addressOf wellFormed named isJob.named file second
          (Except.ok.inj canonical).symm
        exact isJob.output
  · rintro ⟨entry, member, document, -, rendering⟩
    exact Or.inr ⟨stages.addressOf_ne_nil folder stem, entry, member, document, rendering⟩

include wellFormed in
/-- An index page enters the sitemap under its own address only. -/
theorem enters_iff {inner : List Text} (named : stem ≠ [])
    (file : stages.paged.files.HasFile (outputLocation request.root before.files ++
      (folder ++ [pageName stem]))) :
    Enters stages.context stages.context.outputDirectory
        (outputLocation request.root before.files) stages.paged.files inner
        (stages.addressOf folder stem) ↔
      inner = folder ∧ stem = "index".toList ∧ ∃ octets modified text content,
        stages.paged.files.node? (outputLocation request.root before.files ++
          (folder ++ [pageName stem])) = some (.file octets modified) ∧
        Utf8.decode octets = .ok text ∧
        Component.expandAll (Text.unifyLineEnds text) stages.context.components
          (some (stages.context.outputDirectory.extend (folder ++ [pageName stem])).text) =
            .ok content ∧
        Text.contains Page.noIndexTag content = false := by
  constructor
  · rintro ⟨octets, modified, text, content, there, decoded, expanded, untagged, canonical⟩
    rw [indexName_eq_pageName] at there expanded canonical
    have second : stages.paged.files.HasFile (outputLocation request.root before.files ++
        (inner ++ [pageName "index".toList])) := ⟨octets, modified, there⟩
    rw [stages.canonicalURL_eq wellFormed second] at canonical
    obtain ⟨rfl, rfl⟩ := stages.eq_of_addressOf wellFormed named (by decide) file second
      (Except.ok.inj canonical).symm
    exact ⟨rfl, rfl, octets, modified, text, content, there, decoded, expanded, untagged⟩
  · rintro ⟨rfl, rfl, octets, modified, text, content, there, decoded, expanded, untagged⟩
    unfold Enters
    rw [indexName_eq_pageName]
    exact ⟨octets, modified, text, content, there, decoded, expanded, untagged,
      stages.canonicalURL_eq wellFormed file⟩

include wellFormed in
/-- The page of a document that is no skipped draft, as it was rendered and written. -/
theorem exists_rendered (named : stem ≠ [])
    (present : (Contributor.file folder (documentName stem)).IsPresent request.buildDrafts
      before.files (sourceLocation request.root before.files)) :
    ∃ job html document url written, (job, html) ∈ stages.rendered ∧
      JobOf stages.context.buildDrafts stages.context.outputDirectory
        (outputLocation request.root before.files) stages.copied.files folder stem job ∧
      Page.render job html stages.context = .ok (document, url) ∧
      stages.paged.files.node? (outputLocation request.root before.files ++
        (folder ++ [pageName stem])) = some (.file (Utf8.encode document) written) := by
  obtain ⟨job, member, output⟩ :=
    (stages.phases wellFormed).exists_job_output_iff.2 ⟨stem, named, rfl, present⟩
  have among : job ∈ stages.rendered.map Prod.fst := map_fst_of_renderAll stages.renders ▸ member
  obtain ⟨⟨_, html⟩, listed, rfl⟩ := List.mem_map.1 among
  obtain ⟨document, url, rendering, written⟩ := (stages.written_pages wellFormed).pages _ listed
  obtain ⟨written, page⟩ := written _ output
  obtain ⟨inner, other, isJob⟩ := stages.areJobs wellFormed _ listed
  obtain ⟨rfl, names⟩ := Path.extend_concat_inj.1 (isJob.output.symm.trans output)
  obtain rfl : other = stem := List.append_cancel_right names
  exact ⟨_, html, document, url, written, listed, isJob, rendering, page⟩

section Document

variable {content : Bytes} {modified : Int} {fields : Fields}
  (there : before.files.node? (sourceLocation request.root before.files ++
    (folder ++ [documentName stem])) = some (.file content modified))
  (header : fieldsOf content = some fields)

include wellFormed there header in
/-- The job of a page has the fields of its document. -/
theorem fields_eq {job : Job} (member : job ∈ stages.findings.jobs)
    (output : job.output = stages.context.outputDirectory.extend (folder ++ [pageName stem])) :
    job.fields = fields ∧
      job.source = stages.context.outputDirectory.extend (folder ++ [documentName stem]) := by
  have copied := ((stages.copyOf wellFormed).2.2.inside (folder ++ [documentName stem])).trans there
  obtain ⟨inner, other, -, isJob⟩ := (stages.walked wellFormed).sound job member
  rw [isJob.output] at output
  obtain ⟨rfl, names⟩ := Path.extend_concat_inj.1 output
  obtain rfl : other = stem := List.append_cancel_right names
  obtain ⟨octets, time, found, read, -⟩ := isJob.document
  rw [copied] at found
  cases found
  rw [header] at read
  cases read
  exact ⟨rfl, isJob.source⟩

include wellFormed there header in
/-- The page of a document with the fields of its header. -/
theorem exists_page (named : stem ≠ [])
    (published : ¬ IsSkippedDraft request.buildDrafts (documentName stem) content) :
    ∃ job html document url written, (job, html) ∈ stages.rendered ∧
      job.source = stages.context.outputDirectory.extend (folder ++ [documentName stem]) ∧
      job.output = stages.context.outputDirectory.extend (folder ++ [pageName stem]) ∧
      job.fields = fields ∧ Page.render job html stages.context = .ok (document, url) ∧
      stages.paged.files.node? (outputLocation request.root before.files ++
        (folder ++ [pageName stem])) = some (.file (Utf8.encode document) written) := by
  obtain ⟨job, html, document, url, written, listed, isJob, rendering, page⟩ :=
    stages.exists_rendered wellFormed named ⟨content, modified, there, published⟩
  have member : job ∈ stages.findings.jobs :=
    map_fst_of_renderAll stages.renders ▸ List.mem_map_of_mem listed
  obtain ⟨same, source⟩ := stages.fields_eq wellFormed there header member isJob.output
  exact ⟨job, html, document, url, written, listed, source, isJob.output, same, rendering, page⟩

end Document

end Stages

/-- The address of a page that its document keeps out of every index is listed exactly if the
page is an index page whose finished text has lost the tag that says so. -/
theorem site_lists_hidden_iff {content : Bytes} {modified : Int} {fields : Fields}
    (wellFormed : before.files.WellFormed) (built : Runs (site request) before result after)
    (named : stem ≠ [])
    (there : before.files.node? (sourceLocation request.root before.files ++
      (folder ++ [documentName stem])) = some (.file content modified))
    (header : fieldsOf content = some fields) (hidden : fields.isNoIndex = true)
    (published : ¬ IsSkippedDraft request.buildDrafts (documentName stem) content) :
    ∃ (stages : Stages request before) (job : Job) (html document url : Text),
      result = stages.result ∧ after = stages.after ∧ (job, html) ∈ stages.rendered ∧
      job.source = stages.context.outputDirectory.extend (folder ++ [documentName stem]) ∧
      job.fields = fields ∧ Page.render job html stages.context = .ok (document, []) ∧
      Page.canonicalURL stages.context.config.baseURL job.output stages.context.outputDirectory =
        .ok url ∧
      (url ∈ result.sitemapURLs ↔ stem = "index".toList ∧ ∃ finished,
        Component.expandAll (Text.unifyLineEnds document) stages.context.components
          (some job.output.text) = .ok finished ∧
        Text.contains Page.noIndexTag finished = false) ∧
      (∃ written, after.files.node?
          (outputLocation request.root before.files ++ [Sitemap.fileName]) =
        some (.file (Utf8.encode (Sitemap.text result.sitemapURLs)) written)) ∧
      (Sitemap.location url <:+: Sitemap.text result.sitemapURLs ↔ url ∈ result.sitemapURLs) := by
  obtain ⟨stages, rfl, rfl⟩ := exists_stages built
  obtain ⟨job, html, document, url, written, listed, source, output, rfl, rendering, page⟩ :=
    stages.exists_page wellFormed there header named published
  have file : stages.paged.files.HasFile (outputLocation request.root before.files ++
    (folder ++ [pageName stem])) := ⟨_, _, page⟩
  obtain ⟨address, -, none⟩ := url_eq_of_render rendering
  rw [if_pos hidden] at none
  subst none
  -- Writing the pages honours the header, so only processing can list the address.
  have silent : stages.addressOf folder stem ∉ stages.pageURLs := by
    rw [stages.mem_pageURLs_iff wellFormed named file]
    rintro ⟨entry, member, other, same, brings⟩
    have job : entry.1 ∈ stages.findings.jobs :=
      map_fst_of_renderAll stages.renders ▸ List.mem_map_of_mem member
    obtain ⟨canonical, -, address⟩ := url_eq_of_render brings
    rw [(stages.fields_eq wellFormed there header job same).1, if_pos hidden] at address
    exact stages.addressOf_ne_nil folder stem address
  refine ⟨stages, job, html, document, stages.addressOf folder stem, rfl, rfl, listed, source, rfl,
    rendering, output ▸ stages.canonicalURL_eq wellFormed file, ?_, ?_,
    Sitemap.location_infix_text_iff⟩
  · show stages.addressOf folder stem ∈ stages.urls ↔ _
    rw [stages.indexed_output wellFormed, or_iff_right silent]
    constructor
    · rintro ⟨-, inner, -, enters⟩
      obtain ⟨rfl, index, octets, time, text, finished, held, decoded, expanded, untagged⟩ :=
        (stages.enters_iff wellFormed named file).1 enters
      rw [page] at held
      cases held
      rw [Utf8.decode_encode] at decoded
      cases decoded
      exact ⟨index, finished, output ▸ expanded, untagged⟩
    · rintro ⟨index, finished, expanded, untagged⟩
      refine ⟨stages.addressOf_ne_nil folder stem, folder, by simp, ?_⟩
      exact (stages.enters_iff wellFormed named file).2 ⟨rfl, index, Utf8.encode document, written,
        document, finished, page, Utf8.decode_encode document, output ▸ expanded, untagged⟩
  · obtain ⟨-, time, mapped⟩ := stages.exists_sitemap wellFormed
    refine ⟨time, ?_⟩
    rw [mapped, node?_set (by simp), if_pos rfl]
    rfl

namespace Example

/-- A document without a body that is kept out of every index. -/
def hiddenDocument : Text := "---\ndesc: no-index\n---\n"

/-- A site whose template shows the content of a page and none of its tags. -/
def hiddenSources : List (Location × Node) := [
  (["config".toList], .file (Utf8.encode "\x7b\"baseURL\":\"/\"\x7d") 0),
  (["templates".toList], .directory),
  (["templates".toList, Page.defaultTemplate], .file (Utf8.encode "\x7b\x7b .Content \x7d\x7d") 0),
  (["src".toList], .directory),
  (["src".toList, indexDocument], .file (Utf8.encode hiddenDocument) 0)]

def hiddenBefore : Workspace where
  files := ⟨[], hiddenSources⟩

def hiddenContext : Context where
  root := {}
  config := ⟨"/", "en-us", []⟩
  templates := Dictionary.ofList [(Page.defaultTemplate, "\x7b\x7b .Content \x7d\x7d")]
  components := ∅

def hiddenFields : Fields := Dictionary.ofList [("desc".toList, "no-index".toList)]

def hiddenJob : Job where
  source := ⟨.here, ["public".toList, indexDocument]⟩
  output := ⟨.here, ["public".toList, Page.indexName]⟩
  fields := hiddenFields
  body := []

def hiddenCopied : Workspace where
  files := ⟨[], hiddenSources ++ [(["public".toList], .directory),
    (["public".toList, indexDocument], .file (Utf8.encode hiddenDocument) 0)]⟩
  journal := [.write ["public".toList, indexDocument] (Utf8.encode hiddenDocument) 0,
    .makeDirectory ["public".toList]]

def hiddenGathered : Workspace := hiddenCopied.saying "Converting 1 markdown files..."

def hiddenPaged : Workspace :=
  (hiddenGathered.edited (.write ["public".toList, Page.indexName] [] 0)).edited
    (.remove ["public".toList, indexDocument])

def hiddenSettled : Workspace :=
  hiddenPaged.edited (.write ["public".toList, Page.indexName] [] 0)

def hiddenMapped : Workspace :=
  hiddenSettled.edited
    (.write ["public".toList, Sitemap.fileName] (Utf8.encode (Sitemap.text ["/"])) 0)

theorem wellFormed_hiddenBefore : hiddenBefore.files.WellFormed :=
  ⟨by decide, by decide, by decide⟩

theorem runs_jobOf_hidden :
    Runs (jobOf hiddenContext hiddenContext.outputDirectory false
      (hiddenContext.outputDirectory.child indexDocument)) hiddenCopied (some hiddenJob)
      hiddenCopied := by
  have read : Runs (readDocument (hiddenContext.outputDirectory.child indexDocument)) hiddenCopied
      ⟨⟨hiddenFields, 23⟩, []⟩ hiddenCopied := by
    rw [readDocument, runs_bind]
    exact ⟨hiddenDocument, hiddenCopied, by cbv, runs_ofExcept.2 ⟨by cbv, rfl⟩⟩
  rw [jobOf, runs_bind]
  refine ⟨_, _, read, ?_⟩
  rw [if_neg (by decide)]
  rfl

theorem runs_gather_hidden :
    Runs (gather hiddenContext) hiddenCopied ⟨[hiddenJob], []⟩ hiddenCopied := by
  have listed : hiddenCopied.files.children hiddenContext.outputDirectory =
      .ok ([indexDocument].map hiddenContext.outputDirectory.child) := by cbv
  have file : hiddenCopied.files.isFile (hiddenContext.outputDirectory.child indexDocument) =
      .ok true := by cbv
  rw [gather, runs_bind]
  refine ⟨hiddenCopied, hiddenCopied, rfl, ?_⟩
  rw [walk, runs_bind]
  refine ⟨_, hiddenCopied, runs_inspect.2 ⟨listed, rfl⟩, ?_⟩
  simp only [List.map_cons, List.map_nil, walkEntries, runs_bind]
  refine ⟨⟨[hiddenJob], []⟩, hiddenCopied, ?_, {}, hiddenCopied, rfl, rfl⟩
  rw [walkEntry, runs_bind]
  refine ⟨true, hiddenCopied, runs_inspect.2 ⟨file, rfl⟩, ?_⟩
  rw [if_pos (by decide), runs_bind]
  exact ⟨_, _, runs_jobOf_hidden, rfl⟩

theorem renderAll_hidden (convert : Text → Except Nat Text) :
    renderAll [] convert [hiddenJob] = .ok [(hiddenJob, [])] := by
  have rendered : Markdown.render hiddenJob.body = .ok [] := by cbv
  have plain : isConverted hiddenJob = false := by decide
  have started : firstUnstarted? [] [hiddenJob] = none := by decide
  rw [renderAll, started]
  simp only [collectResults, renderStarted, plain, rendered]
  rfl

theorem announcement_hidden :
    announcement ⟨[hiddenJob], []⟩ = "Converting 1 markdown files...".toList := by
  decide

theorem runs_writePages_hidden :
    Runs (writePages hiddenContext [(hiddenJob, [])] []) hiddenGathered [] hiddenPaged := by
  cbv

theorem runs_processFile_hidden :
    Runs (processFile hiddenContext (hiddenContext.outputDirectory.child Page.indexName))
      hiddenPaged "/".toList hiddenSettled := by
  have page : isPage (hiddenContext.outputDirectory.child Page.indexName) = true := by cbv
  have untagged : Text.contains Page.noIndexTag [] = false := by cbv
  rw [processFile, page, if_neg (by decide), runs_bind]
  refine ⟨[], hiddenPaged, by cbv, ?_⟩
  rw [runs_bind]
  refine ⟨[], hiddenPaged, by cbv, ?_⟩
  rw [if_neg (by decide), runs_bind]
  refine ⟨(), hiddenSettled, by cbv, ?_⟩
  rw [untagged, if_neg (by decide)]
  cbv

theorem runs_processTree_hidden :
    Runs (processTree hiddenContext (hiddenPaged.files.depth + 1) hiddenContext.outputDirectory [])
      hiddenPaged ["/".toList] hiddenSettled := by
  have listed : hiddenPaged.files.children hiddenContext.outputDirectory =
      .ok ([Page.indexName].map hiddenContext.outputDirectory.child) := by cbv
  rw [processTree, runs_bind]
  refine ⟨_, hiddenPaged, runs_inspect.2 ⟨listed, rfl⟩, ?_⟩
  simp only [List.map_cons, List.map_nil, processEntries, runs_bind]
  exact ⟨["/".toList], hiddenSettled,
    runs_processEntry (by cbv) (by cbv) runs_processFile_hidden, rfl⟩

/-- The build of the site with the hidden page. -/
def hiddenStages : Stages Example.request hiddenBefore where
  context := hiddenContext
  copied := hiddenCopied
  findings := ⟨[hiddenJob], []⟩
  gathered := hiddenCopied
  rendered := [(hiddenJob, [])]
  pageURLs := []
  paged := hiddenPaged
  urls := ["/".toList]
  settled := hiddenSettled
  sitemap := hiddenContext.outputDirectory.child Sitemap.fileName
  mapped := hiddenMapped
  prepares := by cbv
  refreshes := by cbv
  gathers := runs_gather_hidden
  counts := counts_request
  renders := renderAll_hidden _
  writes := announcement_hidden ▸ runs_writePages_hidden
  processes := runs_processTree_hidden
  maps := by cbv

/-- The source of the hidden page. -/
theorem hidden_source :
    hiddenBefore.files.node? (sourceLocation Example.request.root hiddenBefore.files ++
        ([] ++ [documentName "index".toList])) =
        some (.file (Utf8.encode hiddenDocument) 0) ∧
      fieldsOf (Utf8.encode hiddenDocument) = some hiddenFields ∧
      hiddenFields.isNoIndex = true ∧
      ¬ IsSkippedDraft Example.request.buildDrafts (documentName "index".toList)
        (Utf8.encode hiddenDocument) := by
  have header : fieldsOf (Utf8.encode hiddenDocument) = some hiddenFields := by cbv
  refine ⟨by decide, header, by decide, ?_⟩
  rintro ⟨-, -, fields, read, draft⟩
  rw [header] at read
  cases read
  exact absurd draft (by decide)

theorem site_lists_hidden_iff_index :
    hiddenBefore.files.WellFormed ∧
      Runs (site Example.request) hiddenBefore hiddenStages.result hiddenStages.after ∧
      ∃ (stages : Stages Example.request hiddenBefore) (job : Job) (html document url : Text),
        hiddenStages.result = stages.result ∧ hiddenStages.after = stages.after ∧
        (job, html) ∈ stages.rendered ∧
        job.source =
          stages.context.outputDirectory.extend ([] ++ [documentName "index".toList]) ∧
        job.fields = hiddenFields ∧ Page.render job html stages.context = .ok (document, []) ∧
        Page.canonicalURL stages.context.config.baseURL job.output
          stages.context.outputDirectory = .ok url ∧
        (url ∈ hiddenStages.result.sitemapURLs ↔
          "index".toList = "index".toList ∧ ∃ finished,
            Component.expandAll (Text.unifyLineEnds document) stages.context.components
              (some job.output.text) = .ok finished ∧
            Text.contains Page.noIndexTag finished = false) ∧
        (∃ written, hiddenStages.after.files.node?
            (outputLocation Example.request.root hiddenBefore.files ++ [Sitemap.fileName]) =
          some (.file (Utf8.encode (Sitemap.text hiddenStages.result.sitemapURLs)) written)) ∧
        (Sitemap.location url <:+: Sitemap.text hiddenStages.result.sitemapURLs ↔
          url ∈ hiddenStages.result.sitemapURLs) :=
  have ⟨there, header, hidden, published⟩ := hidden_source
  ⟨wellFormed_hiddenBefore, hiddenStages.runs,
    site_lists_hidden_iff wellFormed_hiddenBefore hiddenStages.runs (by decide) there header hidden
      published⟩

/-- The address of the hidden page is listed. -/
theorem site_lists_hidden :
    Runs (site Example.request) hiddenBefore hiddenStages.result hiddenStages.after ∧
      hiddenBefore.files.node? (sourceLocation Example.request.root hiddenBefore.files ++
        ([] ++ [documentName "index".toList])) = some (.file (Utf8.encode hiddenDocument) 0) ∧
      fieldsOf (Utf8.encode hiddenDocument) = some hiddenFields ∧
      hiddenFields.isNoIndex = true ∧
      Page.canonicalURL "/" (hiddenContext.outputDirectory.child (pageName "index".toList))
        hiddenContext.outputDirectory = .ok "/".toList ∧
      "/".toList ∈ hiddenStages.result.sitemapURLs :=
  have ⟨there, header, hidden, _⟩ := hidden_source
  ⟨hiddenStages.runs, there, header, hidden, by cbv, List.mem_singleton_self _⟩

end Example

end Build

end StaticSite
