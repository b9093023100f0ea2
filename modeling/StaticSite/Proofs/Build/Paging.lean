import Mathlib.Data.List.Forall2
import StaticSite.Proofs.Build.Walking

/-!
# What writing pages does

Every job leaves its page where its document was.  No page takes the name of a document, so the
jobs do not disturb each other.
-/

namespace StaticSite

theorem Sitemap.mem_add {urls : List Text} {url other : Text} :
    other ∈ Sitemap.add urls url ↔ other ∈ urls ∨ other = url ∧ url ≠ [] := by
  unfold Sitemap.add
  split
  · next known =>
      constructor
      · exact Or.inl
      · rintro (old | ⟨rfl, nonempty⟩)
        · exact old
        · exact known.resolve_left nonempty
  · next new =>
      rw [not_or] at new
      rw [List.mem_append, List.mem_singleton]
      constructor
      · exact Or.imp_right fun same => ⟨same, new.1⟩
      · exact Or.imp_right And.left

theorem Sitemap.mem_foldl_add {urls addresses : List Text} {other : Text} :
    other ∈ addresses.foldl Sitemap.add urls ↔ other ∈ urls ∨ other ≠ [] ∧ other ∈ addresses := by
  induction addresses generalizing urls with
  | nil => simp
  | cons address addresses ih =>
      rw [List.foldl_cons, ih, Sitemap.mem_add, or_assoc, List.mem_cons]
      refine or_congr_right ?_
      constructor
      · rintro (⟨rfl, nonempty⟩ | ⟨nonempty, later⟩)
        · exact ⟨nonempty, Or.inl rfl⟩
        · exact ⟨nonempty, Or.inr later⟩
      · rintro ⟨nonempty, rfl | later⟩
        · exact Or.inl ⟨rfl, nonempty⟩
        · exact Or.inr ⟨nonempty, later⟩

/-- Of addresses that differ, those are added that are not listed yet. -/
theorem Sitemap.foldl_add {addresses : List Text} (distinct : addresses.Nodup)
    (filled : [] ∉ addresses) (urls : List Text) :
    addresses.foldl Sitemap.add urls = urls ++ addresses.filter (· ∉ urls) := by
  induction addresses generalizing urls with
  | nil => simp
  | cons address addresses ih =>
      rw [List.nodup_cons] at distinct
      rw [List.mem_cons, not_or] at filled
      rw [List.foldl_cons, ih distinct.2 filled.2]
      by_cases known : address ∈ urls
      · simp [Sitemap.add, known]
      · have added : Sitemap.add urls address = urls ++ [address] :=
          if_neg (not_or.2 ⟨Ne.symm filled.1, known⟩)
        have others : addresses.filter (· ∉ urls ++ [address]) = addresses.filter (· ∉ urls) := by
          refine List.filter_congr fun other member => ?_
          have different : other ≠ address := fun same => distinct.1 (same ▸ member)
          simp [different]
        rw [added, others, List.filter_cons_of_pos (by simpa using known), List.append_assoc,
          List.singleton_append]

namespace Build

open StaticSite.Action FileTree

/-- What writing the pages of jobs has done. -/
structure Paged (base : Path) (origin : Location) (jobs : List Job) (before after : FileTree) :
    Prop where
  wellFormed : after.WellFormed
  same : SameDirectories before after
  hasFile : ∀ parts, after.HasFile (origin ++ parts) ↔
    (before.HasFile (origin ++ parts) ∧ ∀ job ∈ jobs, job.source ≠ base.extend parts) ∨
      ∃ job ∈ jobs, job.output = base.extend parts
  kept : ∀ parts,
    (∀ job ∈ jobs, job.source ≠ base.extend parts ∧ job.output ≠ base.extend parts) →
    after.node? (origin ++ parts) = before.node? (origin ++ parts)

variable {buildDrafts : Bool} {context : Context} {base : Path} {origin : Location}
  {before after : Workspace} {tree : FileTree} {folder parts : List Text} {stem : Text} {job : Job}

theorem pageName_ne_documentName (page document : Text) : pageName page ≠ documentName document := by
  intro same
  have last := congrArg List.getLast? same
  simp [pageName, documentName] at last

theorem isName_pageName (isName : IsName (documentName stem)) : IsName (pageName stem) := by
  have inside : ∀ character ∈ stem, character ∈ documentName stem :=
    fun character member => List.mem_append_left _ member
  have long : (Build.pageName stem).length = stem.length + 5 := by simp [Build.pageName]
  refine ⟨?_, ?_, ?_, ?_, ?_⟩
  · intro empty
    rw [empty] at long
    simp at long
  · intro dot
    rw [dot] at long
    simp at long
  · intro dots
    rw [dots] at long
    simp at long
  · intro slash
    rcases List.mem_append.1 slash with early | late
    · exact isName.2.2.2.1 (inside _ early)
    · exact absurd late (by decide)
  · intro null
    rcases List.mem_append.1 null with early | late
    · exact isName.2.2.2.2 (inside _ early)
    · exact absurd late (by decide)

theorem JobOf.isName (isJob : JobOf buildDrafts base origin tree folder stem job)
    (wellFormed : tree.WellFormed) : IsName (documentName stem) := by
  obtain ⟨content, modified, there, -⟩ := isJob.document
  have found : tree.node? (origin ++ (folder ++ [documentName stem])) ≠ none := by simp [there]
  exact wellFormed.isName found (by simp)

/-- The address of a page is that of its output, unless the page is kept out of every index. -/
theorem url_eq_of_render {html document url : Text}
    (rendered : Page.render job html context = .ok (document, url)) :
    ∃ canonical, Page.canonicalURL context.config.baseURL job.output context.outputDirectory =
        .ok canonical ∧
      url = if job.fields.isNoIndex then [] else canonical := by
  unfold Page.render at rendered
  obtain ⟨template, -, rendered⟩ := bind_eq_ok_iff.1 rendered
  obtain ⟨content, -, rendered⟩ := bind_eq_ok_iff.1 rendered
  obtain ⟨address, canonical, rendered⟩ := bind_eq_ok_iff.1 rendered
  obtain ⟨values, -, rendered⟩ := bind_eq_ok_iff.1 rendered
  cases rendered
  exact ⟨address, canonical, rfl⟩

theorem exists_of_forall₂ {α β : Type} {holds : α → β → Prop} {sources : List α}
    {targets : List β} (matched : sources.Forall₂ holds targets) {target : β}
    (member : target ∈ targets) : ∃ source ∈ sources, holds source target := by
  induction matched with
  | nil => cases member
  | cons first rest ih =>
      rcases List.mem_cons.1 member with rfl | later
      · exact ⟨_, List.mem_cons_self, first⟩
      · obtain ⟨source, among, held⟩ := ih later
        exact ⟨source, List.mem_cons_of_mem _ among, held⟩

/-- The address of the page of a job. -/
def HasAddress (context : Context) (job : Job) (url : Text) : Prop :=
  Page.canonicalURL context.config.baseURL job.output context.outputDirectory = .ok url

/-- Whether the page of a job may be listed. -/
def isListed (job : Job) : Bool := ! job.fields.isNoIndex

theorem render_of_runs_writePage {html url : Text}
    (ran : Runs (writePage context job html) before url after) :
    ∃ document, Page.render job html context = .ok (document, url) := by
  unfold writePage at ran
  simp only [runs_bind, runs_ofExcept] at ran
  obtain ⟨⟨document, address⟩, _, ⟨rendered, rfl⟩, _, _, -, _, _, -, ended⟩ := ran
  obtain ⟨rfl, -⟩ := runs_pure.1 ended
  exact ⟨document, rendered⟩

/-- Writing pages adds the addresses of those that may be listed, one by one. -/
theorem exists_addresses {rendered : List (Job × Text)} {urls result : List Text}
    (ran : Runs (writePages context rendered urls) before result after) :
    ∃ addresses, ((rendered.map Prod.fst).filter isListed).Forall₂ (HasAddress context) addresses ∧
      result = addresses.foldl Sitemap.add urls := by
  induction rendered generalizing before urls with
  | nil =>
      rw [writePages] at ran
      exact ⟨[], .nil, (runs_pure.1 ran).1⟩
  | cons entry rest ih =>
      obtain ⟨job, html⟩ := entry
      rw [writePages] at ran
      obtain ⟨url, middle, first, others⟩ := runs_bind.1 ran
      obtain ⟨addresses, matched, rfl⟩ := ih others
      obtain ⟨document, rendering⟩ := render_of_runs_writePage first
      obtain ⟨address, canonical, same⟩ := url_eq_of_render rendering
      rw [List.map_cons]
      by_cases hidden : job.fields.isNoIndex = true
      · rw [if_pos hidden] at same
        have skipped : Sitemap.add urls url = urls := if_pos (Or.inl same)
        rw [List.filter_cons_of_neg (by simp [isListed, hidden]), skipped]
        exact ⟨addresses, matched, rfl⟩
      · rw [if_neg hidden] at same
        subst same
        rw [List.filter_cons_of_pos (by simpa [isListed] using hidden)]
        exact ⟨url :: addresses, .cons canonical matched, rfl⟩

/-- Only jobs bring addresses. -/
theorem exists_job_of_listed {rendered : List (Job × Text)} {result : List Text} {url : Text}
    (ran : Runs (writePages context rendered []) before result after) (listed : url ∈ result) :
    ∃ job ∈ rendered.map Prod.fst, HasAddress context job url := by
  obtain ⟨addresses, matched, rfl⟩ := exists_addresses ran
  obtain ⟨-, member⟩ := (Sitemap.mem_foldl_add.1 listed).resolve_left List.not_mem_nil
  obtain ⟨job, among, address⟩ := exists_of_forall₂ matched member
  exact ⟨job, List.mem_of_mem_filter among, address⟩

/-- A page is there in the place of its document once the one is written and the other removed. -/
theorem paged_singleton {octets : Bytes} {modified : Int} (wellFormed : tree.WellFormed)
    (folderThere : tree.node? (origin ++ folder) = some .directory)
    (isName : IsName (documentName stem))
    (source : job.source = base.extend (folder ++ [documentName stem]))
    (output : job.output = base.extend (folder ++ [pageName stem]))
    (free : tree.node? (origin ++ folder ++ [pageName stem]) ≠ some .directory)
    (held : (tree.set (origin ++ folder ++ [pageName stem]) (.file octets modified)).HasFile
      (origin ++ folder ++ [documentName stem])) :
    Paged base origin [job] tree ((tree.set (origin ++ folder ++ [pageName stem])
      (.file octets modified)).erase (origin ++ folder ++ [documentName stem])) := by
  have pageWithin : origin ++ folder ++ [pageName stem] ≠ [] := by simp
  have documentWithin : origin ++ folder ++ [documentName stem] ≠ [] := by simp
  have written : (tree.set (origin ++ folder ++ [pageName stem])
      (.file octets modified)).WellFormed :=
    wellFormed.set folderThere (isName_pageName isName) fun taken => absurd taken free
  have same := SameDirectories.set_file pageWithin free octets modified
  have ended := SameDirectories.erase_file documentWithin held.ne_directory
  have source_ne : ∀ parts, job.source ≠ base.extend parts ↔
      origin ++ parts ≠ origin ++ folder ++ [documentName stem] := by
    intro parts
    rw [source, List.append_assoc, not_iff_not, List.append_cancel_left_eq]
    exact ⟨fun same => (Path.extend_injective same).symm, fun same => by rw [same]⟩
  have output_eq : ∀ parts, job.output = base.extend parts ↔
      origin ++ parts = origin ++ folder ++ [pageName stem] := by
    intro parts
    rw [output, List.append_assoc, List.append_cancel_left_eq]
    exact ⟨fun same => (Path.extend_injective same).symm, fun same => by rw [same]⟩
  refine ⟨written.erase documentWithin held.ne_directory, same.trans ended, ?_, ?_⟩
  · intro parts
    simp only [List.mem_singleton, forall_eq, exists_eq_left]
    rw [hasFile_erase documentWithin, hasFile_set pageWithin, source_ne, output_eq]
    constructor
    · rintro ⟨other, page | old⟩
      · exact Or.inr page
      · exact Or.inl ⟨old, other⟩
    · rintro (⟨old, other⟩ | page)
      · exact ⟨other, Or.inr old⟩
      · refine ⟨?_, Or.inl page⟩
        rw [page]
        intro same
        have last : pageName stem = documentName stem := by simpa using same
        exact pageName_ne_documentName _ _ last
  · intro parts apart
    obtain ⟨source, output⟩ := apart job (List.mem_singleton_self job)
    rw [node?_erase documentWithin, if_neg ((source_ne parts).1 source), node?_set pageWithin,
      if_neg fun same => output ((output_eq parts).2 same)]

theorem runs_writePage {html url : Text} (wellFormed : before.files.WellFormed)
    (opens : before.files.Opens (base.extend folder) (origin ++ folder))
    (isName : IsName (documentName stem))
    (source : job.source = base.extend (folder ++ [documentName stem]))
    (output : job.output = base.extend (folder ++ [pageName stem]))
    (ran : Runs (writePage context job html) before url after) :
    Paged base origin [job] before.files after.files := by
  unfold writePage at ran
  simp only [runs_bind, runs_ofExcept] at ran
  obtain ⟨⟨document, address⟩, _, ⟨rendered, rfl⟩, _, middle, wrote, _, last, removed, ended⟩ := ran
  obtain ⟨rfl, rfl⟩ := runs_pure.1 ended
  rw [output, ← Path.child_extend] at wrote
  obtain ⟨-, free, rfl⟩ := runs_writeText_child opens (isName_pageName isName) wrote
  rw [source, ← Path.child_extend] at removed
  have same := SameDirectories.set_file (by simp) free (Utf8.encode document) before.clock
  obtain ⟨held, rfl⟩ := runs_removeFile_child (same.opens opens) isName removed
  exact paged_singleton wellFormed opens.2 isName source output free held

theorem Paged.trans {first second : List Job} {middle last : FileTree}
    (one : Paged base origin first tree middle) (two : Paged base origin second middle last)
    (apart : ∀ job ∈ first, ∀ later ∈ second, ∀ parts,
      job.output = base.extend parts → later.source ≠ base.extend parts) :
    Paged base origin (first ++ second) tree last := by
  refine ⟨two.wellFormed, one.same.trans two.same, ?_, ?_⟩
  · intro parts
    rw [two.hasFile, one.hasFile]
    constructor
    · rintro (⟨⟨old, unread⟩ | ⟨job, member, output⟩, still⟩ | ⟨job, member, output⟩)
      · refine Or.inl ⟨old, fun job member => ?_⟩
        exact (List.mem_append.1 member).elim (unread job) (still job)
      · exact Or.inr ⟨job, List.mem_append_left _ member, output⟩
      · exact Or.inr ⟨job, List.mem_append_right _ member, output⟩
    · rintro (⟨old, unread⟩ | ⟨job, member, output⟩)
      · exact Or.inl ⟨Or.inl ⟨old, fun job member => unread job (List.mem_append_left _ member)⟩,
          fun job member => unread job (List.mem_append_right _ member)⟩
      · rcases List.mem_append.1 member with early | late
        · exact Or.inl ⟨Or.inr ⟨job, early, output⟩,
            fun later among => apart job early later among parts output⟩
        · exact Or.inr ⟨job, late, output⟩
  · intro parts unused
    rw [two.kept parts fun job member => unused job (List.mem_append_right _ member),
      one.kept parts fun job member => unused job (List.mem_append_left _ member)]

/-- Writing pages one after the other leaves every page and no document of theirs. -/
theorem runs_writePages {rendered : List (Job × Text)} {urls result : List Text}
    (known : tree.WellFormed) (wellFormed : before.files.WellFormed)
    (same : SameDirectories tree before.files)
    (areJobs : ∀ entry ∈ rendered, ∃ folder stem,
      JobOf buildDrafts base origin tree folder stem entry.1)
    (ran : Runs (writePages context rendered urls) before result after) :
    Paged base origin (rendered.map Prod.fst) before.files after.files := by
  induction rendered generalizing before urls with
  | nil =>
      rw [writePages] at ran
      obtain ⟨rfl, rfl⟩ := runs_pure.1 ran
      refine ⟨wellFormed, SameDirectories.refl _, fun parts => ?_, fun _ _ => rfl⟩
      simp
  | cons entry rest ih =>
      obtain ⟨job, html⟩ := entry
      rw [writePages] at ran
      obtain ⟨address, middle, first, second⟩ := runs_bind.1 ran
      obtain ⟨folder, stem, isJob⟩ := areJobs _ List.mem_cons_self
      have one := runs_writePage wellFormed (same.opens isJob.opens)
        (isJob.isName known) isJob.source isJob.output first
      have two := ih one.wellFormed (same.trans one.same)
        (fun other member => areJobs other (List.mem_cons_of_mem _ member)) second
      apply one.trans two
      intro other member later among parts output source
      obtain rfl := List.mem_singleton.1 member
      obtain ⟨entry, member, rfl⟩ := List.mem_map.1 among
      obtain ⟨inner, last, isLater⟩ := areJobs entry (List.mem_cons_of_mem _ member)
      rw [isJob.output] at output
      rw [isLater.source, ← output] at source
      exact pageName_ne_documentName stem last (Path.extend_concat_inj.1 source).2.symm

theorem map_fst_of_collectResults {convert : Text → Except Nat Text} {jobs : List Job}
    {rendered : List (Job × Text)} (collected : collectResults convert jobs = .ok rendered) :
    rendered.map Prod.fst = jobs := by
  induction jobs generalizing rendered with
  | nil =>
      cases collected
      rfl
  | cons job jobs ih =>
      obtain ⟨html, -, collected⟩ := bind_eq_ok_iff.1 collected
      obtain ⟨rest, later, collected⟩ := bind_eq_ok_iff.1 collected
      cases collected
      rw [List.map_cons, ih later]

/-- Every job is rendered, in order. -/
theorem map_fst_of_renderAll {programs : List Text} {convert : Text → Except Nat Text}
    {jobs : List Job} {rendered : List (Job × Text)}
    (all : renderAll programs convert jobs = .ok rendered) : rendered.map Prod.fst = jobs := by
  unfold renderAll at all
  split at all
  · cases all
  · exact map_fst_of_collectResults all

theorem renderStarted_of_collectResults {convert : Text → Except Nat Text} {jobs : List Job}
    {rendered : List (Job × Text)} (collected : collectResults convert jobs = .ok rendered) :
    ∀ entry ∈ rendered, renderStarted convert entry.1 = .ok entry.2 := by
  induction jobs generalizing rendered with
  | nil =>
      cases collected
      simp
  | cons job jobs ih =>
      obtain ⟨html, first, collected⟩ := bind_eq_ok_iff.1 collected
      obtain ⟨rest, later, collected⟩ := bind_eq_ok_iff.1 collected
      cases collected
      exact List.forall_mem_cons.2 ⟨first, ih later⟩

theorem renderStarted_of_renderAll {programs : List Text} {convert : Text → Except Nat Text}
    {jobs : List Job} {rendered : List (Job × Text)}
    (all : renderAll programs convert jobs = .ok rendered) :
    ∀ entry ∈ rendered, renderStarted convert entry.1 = .ok entry.2 := by
  unfold renderAll at all
  split at all
  · cases all
  · exact renderStarted_of_collectResults all

end Build

end StaticSite
