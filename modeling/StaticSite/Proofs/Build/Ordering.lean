import StaticSite.Proofs.Build.Hiding
import StaticSite.Proofs.Feed.Reading

/-!
# The order of a sitemap

A sitemap lists the addresses of the pages of documents in the order in which a walk comes to
them, and behind them those of the other index pages.  No two of these pages have one address, so
an address that is left out as a repetition is that of the same page.
-/

namespace StaticSite

namespace Build

open StaticSite.Action FileTree

variable {request : Request} {result : Result} {before after : Workspace}

theorem WalksBefore.ne {first second : List Text} (walks : WalksBefore first second) :
    first ≠ second := by
  rintro rfl
  obtain ⟨folder, name, other, different, -, one, two⟩ := walks
  have same := (List.prefix_of_prefix_length_le one two (by simp)).eq_of_length (by simp)
  exact different (List.append_singleton_inj.1 same).2

theorem Precedes.ne {base : Path} {first second : Job} (precedes : Precedes base first second) :
    first.source ≠ second.source := by
  obtain ⟨parts, others, one, two, walks⟩ := precedes
  rw [one, two]
  exact fun same => walks.ne (Path.extend_injective same)

/-- What is ordered stays so under a relation that takes the order over. -/
theorem pairwise_of_forall₂ {α β : Type} {holds : α → β → Prop} {order : α → α → Prop}
    {taken : β → β → Prop} {sources : List α} {targets : List β}
    (matched : sources.Forall₂ holds targets) (ordered : sources.Pairwise order)
    (takes : ∀ source ∈ sources, ∀ other ∈ sources, ∀ target last, holds source target →
      holds other last → order source other → taken target last) : targets.Pairwise taken := by
  rw [List.pairwise_iff_getElem]
  intro first second early late less
  have one := matched.get (matched.length_eq ▸ early) early
  have two := matched.get (matched.length_eq ▸ late) late
  exact takes _ (List.get_mem _ _) _ (List.get_mem _ _) _ _ one two
    (List.pairwise_iff_getElem.1 ordered first second _ _ less)

namespace Stages

variable (stages : Stages request before) (wellFormed : before.files.WellFormed)

include wellFormed in
theorem exists_place {job : Job} (member : job ∈ stages.findings.jobs) : ∃ folder stem, stem ≠ [] ∧
    job.source = stages.context.outputDirectory.extend (folder ++ [documentName stem]) ∧
    stages.paged.files.HasFile
      (outputLocation request.root before.files ++ (folder ++ [pageName stem])) ∧
    ∀ url, HasAddress stages.context job url → url = stages.addressOf folder stem := by
  obtain ⟨folder, stem, -, isJob⟩ := (stages.walked wellFormed).sound job member
  have page : stages.paged.files.HasFile
      (outputLocation request.root before.files ++ (folder ++ [pageName stem])) :=
    ((stages.paged_jobs wellFormed).1.hasFile _).2 (Or.inr ⟨job, member, isJob.output⟩)
  refine ⟨folder, stem, isJob.named, isJob.source, page, fun url canonical => ?_⟩
  rw [HasAddress, isJob.output, stages.canonicalURL_eq wellFormed page] at canonical
  exact (Except.ok.inj canonical).symm

include wellFormed in
theorem nodup_of_jobs {addresses : List Text}
    (matched : (stages.findings.jobs.filter isListed).Forall₂ (HasAddress stages.context)
      addresses) : addresses.Nodup := by
  refine pairwise_of_forall₂ matched ((stages.walked wellFormed).ordered.filter _) ?_
  rintro job member other also url last one two precedes rfl
  obtain ⟨folder, stem, named, source, page, address⟩ :=
    stages.exists_place wellFormed (List.mem_of_mem_filter member)
  obtain ⟨inner, final, filled, second, file, same⟩ :=
    stages.exists_place wellFormed (List.mem_of_mem_filter also)
  obtain ⟨rfl, rfl⟩ := stages.eq_of_addressOf wellFormed named filled page file
    ((address _ one).symm.trans (same _ two))
  exact precedes.ne (source.trans second.symm)

include wellFormed in
/-- Writing the pages lists the addresses of the jobs, each once. -/
theorem matched_pageURLs :
    (stages.findings.jobs.filter isListed).Forall₂ (HasAddress stages.context)
      stages.pageURLs := by
  obtain ⟨addresses, matched, listed⟩ := exists_addresses stages.writes
  rw [map_fst_of_renderAll stages.renders] at matched
  have filled : [] ∉ addresses := by
    intro empty
    obtain ⟨job, among, none⟩ := exists_of_forall₂ matched empty
    obtain ⟨folder, stem, -, -, -, address⟩ :=
      stages.exists_place wellFormed (List.mem_of_mem_filter among)
    exact stages.addressOf_ne_nil folder stem (address _ none).symm
  rw [Sitemap.foldl_add (stages.nodup_of_jobs wellFormed matched) filled] at listed
  simpa [listed] using matched

include wellFormed in
theorem eq_addressOf_of_enters {folder : List Text} {url : Text}
    (enters : Enters stages.context stages.context.outputDirectory
      (outputLocation request.root before.files) stages.paged.files folder url) :
    url = stages.addressOf folder "index" := by
  have page := enters.hasFile
  obtain ⟨-, -, -, -, -, -, -, -, canonical⟩ := enters
  rw [indexName_eq_pageName] at page canonical
  rw [stages.canonicalURL_eq wellFormed page] at canonical
  exact (Except.ok.inj canonical).symm

include wellFormed in
/-- Behind the addresses of the pages stand those of the index pages that are new, each once. -/
theorem urls_eq {indexes : List (List Text × Text)}
    (entering : Entering stages.context stages.context.outputDirectory
      (outputLocation request.root before.files) (· ≠ []) stages.paged.files indexes)
    (added : stages.urls = (indexes.map Prod.snd).foldl Sitemap.add stages.pageURLs) :
    stages.urls =
      stages.pageURLs ++ (indexes.map Prod.snd).filter (· ∉ stages.pageURLs) ∧
    stages.urls.Nodup := by
  have place : ∀ entry ∈ indexes, entry.2 = stages.addressOf entry.1 "index" ∧
      stages.paged.files.HasFile (outputLocation request.root before.files ++
        (entry.1 ++ [pageName "index"])) := fun entry member =>
    have enters := ((entering.mem_iff entry.1 entry.2).1 member).2
    ⟨stages.eq_addressOf_of_enters wellFormed enters, indexName_eq_pageName ▸ enters.hasFile⟩
  have distinct : (indexes.map Prod.snd).Nodup := by
    refine List.pairwise_map.2
      (entering.ordered.imp_of_mem fun {one two} member also walks same => ?_)
    rw [(place one member).1, (place two also).1] at same
    obtain ⟨folders, -⟩ := stages.eq_of_addressOf wellFormed (by decide) (by decide)
      (place one member).2 (place two also).2 same
    exact walks.ne (by rw [folders])
  have filled : [] ∉ indexes.map Prod.snd := by
    intro empty
    obtain ⟨entry, member, none⟩ := List.mem_map.1 empty
    exact stages.addressOf_ne_nil _ _ ((place entry member).1.symm.trans none)
  rw [Sitemap.foldl_add distinct filled] at added
  refine ⟨added, added ▸ List.nodup_append.2 ⟨?_, distinct.filter _, ?_⟩⟩
  · exact stages.nodup_of_jobs wellFormed (stages.matched_pageURLs wellFormed)
  · rintro url listed _ new rfl
    simpa [listed] using List.of_mem_filter new

end Stages

/-- The sitemap of a build is in order: it lists the pages of jobs, then the index pages. -/
structure ListsInOrder {request : Request} {before : Workspace} (stages : Stages request before)
    (indexes : List (List Text × Text)) : Prop where
  /-- No address is repeated. -/
  nodup : stages.result.sitemapURLs.Nodup
  /-- The addresses of pages come first, then those of index pages that are not listed yet. -/
  listed : stages.result.sitemapURLs =
    stages.pageURLs ++ (indexes.map Prod.snd).filter (· ∉ stages.pageURLs)
  /-- Each job that may be listed has its address at its place. -/
  matched : (stages.findings.jobs.filter isListed).Forall₂ (HasAddress stages.context)
    stages.pageURLs
  /-- The jobs are in the order of the walk. -/
  ordered : stages.findings.jobs.Pairwise (Precedes stages.context.outputDirectory)
  /-- Every job is that of a document. -/
  areJobs : ∀ job ∈ stages.findings.jobs, ∃ folder stem,
    JobOf stages.context.buildDrafts stages.context.outputDirectory
      (outputLocation request.root before.files) stages.copied.files folder stem job
  /-- Every document has a job, unless it is a draft that is skipped. -/
  exists_job_iff : ∀ folder name, (∃ job ∈ stages.findings.jobs,
      job.source = stages.context.outputDirectory.extend (folder ++ [name])) ↔
    ∃ stem, stem ≠ [] ∧ name = documentName stem ∧
      (Contributor.file folder name).IsPresent request.buildDrafts before.files
        (sourceLocation request.root before.files)
  /-- The index pages are in the order of the walk. -/
  walked : indexes.Pairwise fun first second =>
    WalksBefore (first.1 ++ [Page.indexName]) (second.1 ++ [Page.indexName])
  /-- They are those that do not say, when processing begins, that they are kept out. -/
  mem_indexes_iff : ∀ folder url, (folder, url) ∈ indexes ↔
    Enters stages.context stages.context.outputDirectory
      (outputLocation request.root before.files) stages.paged.files folder url
  /-- The addresses are what can be read in the sitemap. -/
  written : ∃ octets modified text,
    stages.after.files.node? (outputLocation request.root before.files ++ [Sitemap.fileName]) =
      some (.file octets modified) ∧
    Utf8.decode octets = .ok text ∧ Sitemap.read text = stages.result.sitemapURLs

/-- Every build that succeeds lists its pages in order. -/
theorem site_lists_in_order (wellFormed : before.files.WellFormed)
    (built : Runs (site request) before result after) :
    ∃ (stages : Stages request before) (indexes : List (List Text × Text)),
      result = stages.result ∧ after = stages.after ∧ ListsInOrder stages indexes := by
  obtain ⟨stages, rfl, rfl⟩ := exists_stages built
  obtain ⟨indexes, entering, added⟩ := stages.appended_output wellFormed
  obtain ⟨listed, nodup⟩ := stages.urls_eq wellFormed entering added
  refine ⟨stages, indexes, rfl, rfl, nodup, listed, stages.matched_pageURLs wellFormed,
    (stages.walked wellFormed).ordered, fun job member => ?_,
    fun _ _ => (stages.phases wellFormed).exists_job_source_iff, entering.ordered,
    fun folder url => (entering.mem_iff folder url).trans (and_iff_right (by simp)), ?_⟩
  · obtain ⟨folder, stem, -, isJob⟩ := (stages.walked wellFormed).sound job member
    exact ⟨folder, stem, isJob⟩
  · obtain ⟨-, modified, mapped⟩ := stages.exists_sitemap wellFormed
    refine ⟨Utf8.encode (Sitemap.text stages.urls), modified, Sitemap.text stages.urls, ?_,
      Utf8.decode_encode _, Sitemap.read_text_eq _⟩
    rw [mapped, node?_set (by simp), if_pos rfl]

namespace Example

theorem site_lists_in_order_hidden :
    hiddenBefore.files.WellFormed ∧
      Runs (site Example.request) hiddenBefore hiddenStages.result hiddenStages.after ∧
      ∃ (stages : Stages Example.request hiddenBefore) (indexes : List (List Text × Text)),
        hiddenStages.result = stages.result ∧ hiddenStages.after = stages.after ∧
        ListsInOrder stages indexes :=
  ⟨wellFormed_hiddenBefore, hiddenStages.runs,
    site_lists_in_order wellFormed_hiddenBefore hiddenStages.runs⟩

end Example

end Build

end StaticSite
