import StaticSite.Proofs.Build.Confining
import StaticSite.Proofs.Build.Finishing
import StaticSite.Proofs.Build.Hiding

/-!
# Sources that are published under one path

Nothing keeps two sources from being published under one path.  Then the file that is written last
is there, and the site has lost what the others say.  The copies come first, then the feeds, then
the pages in the order of their names, and the sitemap at the end.
-/

namespace StaticSite

namespace Build

open StaticSite.Action FileTree

/-- Whether a source is published as a page. -/
def isPublishedPage (name : Text) : Bool := isDocument name || isPageName name

/-- The step of a build that gives a contributed file its content. -/
def Contributor.stage : Contributor → Nat
  | .file _ name => if isPublishedPage name then 2 else 0
  | .feed _ => 1
  | .sitemap => 3

/-- Whether the file of one contributor is written after that of another.  Before the pages are
processed, the page of a document has replaced a source with its name. -/
inductive Contributor.Outlasts : Contributor → Contributor → Prop
  | stage {later earlier : Contributor} (before : earlier.stage < later.stage) :
    later.Outlasts earlier
  | order {folder inner : List Text} {name other : Text}
    (same : (Contributor.file inner other).stage = (Contributor.file folder name).stage)
    (sorted : Text.lessEqual (pagedName other) (pagedName name) = true)
    (replaces : pagedName other = pagedName name → isDocument name = true) :
    (Contributor.file folder name).Outlasts (.file inner other)

/-- A contributor whose file is written after those of all others with its place. -/
structure Contributor.Prevails (buildDrafts : Bool) (tree : FileTree) (source : Location)
    (contributor : Contributor) : Prop where
  present : contributor.IsPresent buildDrafts tree source
  last : ∀ other : Contributor, other.IsPresent buildDrafts tree source →
    other.target = contributor.target → other ≠ contributor → contributor.Outlasts other

section Names

variable {name other stem : Text}

theorem isPageName_pagedName (page : isPublishedPage name = true) :
    isPageName (pagedName name) = true := by
  cases document : isDocument name with
  | false =>
      rw [pagedName_of_not_document document]
      simpa [isPublishedPage, document] using page
  | true =>
      have named := stem_ne_nil document
      rw [eq_documentName document, pagedName_documentName named]
      exact isPageName_pageName named

theorem publishedName_of_not_page (asset : isPublishedPage name = false) :
    publishedName name = name := by
  obtain ⟨plain, noPage⟩ := Bool.or_eq_false_iff.1 asset
  rw [← staticName_of_not_document plain, staticName_of_not_page noPage]

/-- Only the page of a document takes the name of another source. -/
theorem eq_of_pagedName (same : pagedName name = pagedName other)
    (kind : isDocument name = isDocument other) : name = other := by
  cases document : isDocument name with
  | false =>
      rwa [pagedName_of_not_document document,
        pagedName_of_not_document (kind.symm.trans document)] at same
  | true =>
      have also := kind.symm.trans document
      rw [eq_documentName document, pagedName_documentName (stem_ne_nil document),
        eq_documentName also, pagedName_documentName (stem_ne_nil also)] at same
      have stems : (Path.splitName name).1 = (Path.splitName other).1 :=
        List.append_cancel_right same
      rw [eq_documentName document, eq_documentName also, stems]

end Names

namespace Contributor

variable {buildDrafts : Bool} {tree : FileTree} {source : Location} {parts : List Text}
  {first second third : Contributor}

theorem folder_eq {folder inner : List Text} {name other : Text}
    (same : (file folder name).target = (file inner other).target) : folder = inner :=
  (List.append_singleton_inj.1 same).1

/-- No source is written together with the feeds, and all are written before the sitemap. -/
theorem stage_file (folder : List Text) (name : Text) :
    (file folder name).stage ≠ (feed folder).stage ∧ (file folder name).stage < sitemap.stage := by
  cases page : isPublishedPage name <;> simp [stage, page]

/-- Only sources share a place and the step that writes it. -/
theorem exists_sources (same : first.target = second.target) (equal : first.stage = second.stage)
    (different : first ≠ second) :
    ∃ folder name other, first = file folder name ∧ second = file folder other := by
  cases first with
  | sitemap => cases second with
    | sitemap => exact absurd rfl different
    | feed inner => cases equal
    | file inner other => exact absurd equal.symm (stage_file inner other).2.ne
  | feed folder => cases second with
    | sitemap => cases equal
    | feed inner => exact absurd (congrArg feed (List.append_singleton_inj.1 same).1) different
    | file inner other => exact absurd equal.symm (stage_file inner other).1
  | file folder name => cases second with
    | sitemap => exact absurd equal (stage_file folder name).2.ne
    | feed inner => exact absurd equal (stage_file folder name).1
    | file inner other =>
        exact ⟨folder, name, other, rfl, congrArg (file · other) (folder_eq same).symm⟩

/-- Of two contributors with one place one is written after the other. -/
theorem outlasts_or (same : first.target = second.target) (different : first ≠ second) :
    first.Outlasts second ∨ second.Outlasts first := by
  rcases lt_trichotomy first.stage second.stage with before | equal | after
  · exact Or.inr (.stage before)
  · obtain ⟨folder, name, other, rfl, rfl⟩ := exists_sources same equal different
    by_cases names : pagedName name = pagedName other
    · have either : isDocument name = true ∨ isDocument other = true := by
        by_contra neither
        obtain ⟨plain, also⟩ := not_or.1 neither
        have kind := (Bool.eq_false_iff.2 plain).trans (Bool.eq_false_iff.2 also).symm
        exact different (congrArg (file folder) (eq_of_pagedName names kind))
      rcases either with document | document
      · exact Or.inl (.order equal.symm (names ▸ Text.lessEqual_refl _) fun _ => document)
      · exact Or.inr (.order equal (names ▸ Text.lessEqual_refl _) fun _ => document)
    · rcases Bool.or_eq_true_iff.1 (Text.lessEqual_total (pagedName name) (pagedName other))
        with sorted | sorted
      · exact Or.inr (.order equal sorted fun same => absurd same names)
      · exact Or.inl (.order equal.symm sorted fun same => absurd same.symm names)
  · exact Or.inl (.stage after)

/-- Two contributors with one place are not written after each other. -/
theorem Outlasts.asymm (same : first.target = second.target) (different : first ≠ second)
    (after : first.Outlasts second) : ¬ second.Outlasts first := by
  intro before
  cases after with
  | stage less => cases before with
    | stage greater => omega
    | order equal => omega
  | order equal sorted replaces => cases before with
    | stage greater => omega
    | order _ also replaced =>
        have names := Text.lessEqual_antisymm sorted also
        have kind := (replaced names.symm).trans (replaces names).symm
        exact different (congrArg₂ file (folder_eq same) (eq_of_pagedName names.symm kind.symm))

theorem Outlasts.trans (one : first.Outlasts second) (two : second.Outlasts third) :
    first.Outlasts third := by
  cases one with
  | stage before => cases two with
    | stage earlier => exact .stage (earlier.trans before)
    | order equal => exact .stage (equal ▸ before)
  | order equal sorted replaces => cases two with
    | stage before => exact .stage (equal ▸ before)
    | order also earlier =>
        refine .order (also.trans equal) (Text.lessEqual_trans _ _ _ earlier sorted) fun ends => ?_
        exact replaces (Text.lessEqual_antisymm sorted (ends ▸ earlier))

/-- Among finitely many contributors with one place there is one that is written last. -/
theorem exists_last (among : Contributor → Prop)
    (same : ∀ first second, among first → among second → first.target = second.target)
    (contributors : List Contributor) (some : ∃ contributor ∈ contributors, among contributor) :
    ∃ last, among last ∧ ∀ other ∈ contributors, among other → other ≠ last →
      last.Outlasts other := by
  have total : ∀ first second, among first → among second →
      (first = second ∨ second.Outlasts first) ∨ second = first ∨ first.Outlasts second := by
    intro first second isFirst isSecond
    by_cases equal : first = second
    · exact Or.inl (Or.inl equal)
    · exact (outlasts_or (same _ _ isFirst isSecond) equal).symm.imp Or.inr Or.inr
  have trans : ∀ first second third : Contributor, first = second ∨ second.Outlasts first →
      second = third ∨ third.Outlasts second → first = third ∨ third.Outlasts first := by
    rintro first second third (rfl | one) (rfl | two)
    · exact Or.inl rfl
    · exact Or.inr two
    · exact Or.inr one
    · exact Or.inr (two.trans one)
  obtain ⟨last, isLast, greatest⟩ := exists_greatest total trans contributors some
  exact ⟨last, isLast, fun other member also different =>
    (greatest other member also).resolve_left different⟩

/-- The contributors with one place are among finitely many. -/
theorem mem_candidates (folder : List Text)
    (present : first.IsPresent buildDrafts tree source) (name : Text)
    (target : first.target = folder ++ [name]) :
    first ∈ [.sitemap, .feed folder] ++ tree.entries.map fun entry =>
      Contributor.file folder (entry.1.getLast?.getD []) := by
  cases first with
  | sitemap => simp
  | feed inner =>
      obtain ⟨rfl, -⟩ := List.append_singleton_inj.1 target
      simp
  | file inner other =>
      obtain ⟨rfl, -⟩ := List.append_singleton_inj.1 target
      obtain ⟨content, modified, there, -⟩ := present
      refine List.mem_append_right _ (List.mem_map.2 ⟨_, mem_of_node? there (by simp), ?_⟩)
      rw [← List.append_assoc, List.getLast?_concat]
      rfl

/-- Of the contributors with one place exactly one prevails. -/
theorem existsUnique_prevails (present : first.IsPresent buildDrafts tree source) :
    ∃! last : Contributor, last.Prevails buildDrafts tree source ∧ last.target = first.target := by
  have placed : ∃ folder name, first.target = folder ++ [name] := by
    cases first with
    | sitemap => exact ⟨[], Sitemap.fileName, rfl⟩
    | feed folder => exact ⟨folder, Feed.fileName, rfl⟩
    | file folder name => exact ⟨folder, publishedName name, rfl⟩
  obtain ⟨folder, name, place⟩ := placed
  have listed := fun (other : Contributor) (also : other.IsPresent buildDrafts tree source)
    (same : other.target = first.target) => mem_candidates folder also name (same.trans place)
  obtain ⟨last, ⟨held, target⟩, outlasts⟩ :=
    exists_last (fun other => other.IsPresent buildDrafts tree source ∧
      other.target = first.target) (fun one two isOne isTwo => isOne.2.trans isTwo.2.symm) _
      ⟨first, listed first present rfl, present, rfl⟩
  refine ⟨last, ⟨⟨held, fun other also same => ?_⟩, target⟩, ?_⟩
  · exact outlasts other (listed other also (same.trans target)) ⟨also, same.trans target⟩
  · rintro other ⟨prevails, same⟩
    by_contra different
    have places := same.trans target.symm
    exact (prevails.last last held places.symm (Ne.symm different)).asymm places different
      (outlasts other (listed other prevails.present same) ⟨prevails.present, same⟩ different)

end Contributor

variable {request : Request} {result : Result} {before after : Workspace} {folder : List Text}
  {name : Text} {content : Bytes} {modified : Int}

/-- The octets that a source is published as. -/
inductive PublishedAs (stages : Stages request before) (folder : List Text) (name : Text)
    (content : Bytes) : Bytes → Prop
  | asset (other : isPublishedPage name = false) : PublishedAs stages folder name content content
  | page {plain text : Text} (noDocument : isDocument name = false) (page : isPageName name = true)
    (decoded : Utf8.decode content = .ok plain)
    (expanded : Component.expandAll (Text.unifyLineEnds plain) stages.context.components
      (some (stages.context.outputDirectory.extend (folder ++ [name])).text) = .ok text) :
    PublishedAs stages folder name content (Utf8.encode text)
  | document {document : FrontMatter.Document} {job : Job} {html written url text : Text}
    (known : documentOf content = some document) (listed : (job, html) ∈ stages.rendered)
    (source : job.source = stages.context.outputDirectory.extend (folder ++ [name]))
    (output : job.output = stages.context.outputDirectory.extend (folder ++ [pagedName name]))
    (fields : job.fields = document.header.fields) (body : job.body = document.body)
    (converted : renderStarted before.convert job = .ok html)
    (rendered : Page.render job html stages.context = .ok (written, url))
    (expanded : Component.expandAll (Text.unifyLineEnds written) stages.context.components
      (some job.output.text) = .ok text) :
    PublishedAs stages folder name content (Utf8.encode text)

/-- The file of a source is there and says what the source says. -/
def IsPublished (stages : Stages request before) (folder : List Text) (name : Text)
    (content : Bytes) : Prop :=
  ∃ octets time, stages.after.files.node? (outputLocation request.root before.files ++
      (folder ++ [publishedName name])) = some (.file octets time) ∧
    PublishedAs stages folder name content octets

namespace Contributor

variable {buildDrafts : Bool} {tree : FileTree} {source : Location}

theorem stage_eq_zero : (file folder name).stage = 0 ↔ isPublishedPage name = false := by
  cases page : isPublishedPage name <;> simp [stage, page]

/-- A source that is no page prevails only if nothing else has its place. -/
theorem Prevails.alone (prevails : (file folder name).Prevails buildDrafts tree source)
    (asset : isPublishedPage name = false) {other : Contributor}
    (present : other.IsPresent buildDrafts tree source)
    (same : other.target = folder ++ [name]) : other = file folder name := by
  by_contra different
  have place : (file folder name).target = folder ++ [name] :=
    congrArg (fun last => folder ++ [last]) (publishedName_of_not_page asset)
  have first : (file folder name).stage = 0 := stage_eq_zero.2 asset
  cases prevails.last other present (same.trans place.symm) different with
  | stage before => omega
  | order equal =>
      have also := stage_eq_zero.1 (equal.trans first)
      obtain ⟨folders, names⟩ := List.append_singleton_inj.1 same
      rw [publishedName_of_not_page also] at names
      exact different (congrArg₂ file folders names)

/-- A page that prevails is not replaced by that of a document with its name. -/
theorem Prevails.not_replaced (prevails : (file folder name).Prevails buildDrafts tree source)
    (plain : isDocument name = false) {stem : Text} (named : stem ≠ [])
    (same : name = pageName stem) :
    ¬ (file folder (documentName stem)).IsPresent buildDrafts tree source := by
  intro present
  have document := isDocument_documentName named
  have place : publishedName (documentName stem) = publishedName name := by
    rw [← staticName_pageName named, ← same, staticName_of_not_document plain]
  have kind : (file folder (documentName stem)).stage = (file folder name).stage := by
    simp [stage, isPublishedPage, document, same, isPageName_pageName named]
  have different : file folder (documentName stem) ≠ file folder name := by
    simp [same, (pageName_ne_documentName stem stem).symm]
  cases prevails.last _ present (congrArg (fun last => folder ++ [last]) place) different with
  | stage before => omega
  | order _ _ replaces =>
      have replaced := replaces ((pagedName_documentName named).trans
        (same.symm.trans (pagedName_of_not_document plain).symm))
      rw [plain] at replaced
      cases replaced

/-- A source that prevails is not published where the sitemap is. -/
theorem Prevails.ne_sitemap (prevails : (file folder name).Prevails buildDrafts tree source) :
    folder ++ [publishedName name] ≠ [Sitemap.fileName] := by
  intro same
  cases prevails.last .sitemap trivial same.symm (by simp) with
  | stage before => exact absurd before (stage_file folder name).2.asymm

/-- Among the pages with its place, a page that prevails has the last name. -/
theorem Prevails.lessEqual (prevails : (file folder name).Prevails buildDrafts tree source)
    (page : isPublishedPage name = true) {other : Text} (also : isPublishedPage other = true)
    (present : (file folder other).IsPresent buildDrafts tree source)
    (same : publishedName other = publishedName name) :
    Text.lessEqual (pagedName other) (pagedName name) = true := by
  by_cases names : other = name
  · exact names ▸ Text.lessEqual_refl _
  · cases prevails.last _ present (congrArg (fun last => folder ++ [last]) same) (by simp [names])
      with
    | stage before => simp [stage, page, also] at before
    | order _ sorted => exact sorted

end Contributor

namespace Stages

variable (stages : Stages request before) (wellFormed : before.files.WellFormed)

include wellFormed in
/-- The converter is the same when the documents are rendered. -/
theorem convert_gathered : stages.gathered.convert = before.convert := by
  obtain ⟨-, opens, copy⟩ := stages.copyOf wellFormed
  have still : Confined stages.copied.files (outputLocation request.root before.files)
      stages.copied stages.copied :=
    ⟨copy.wellFormed, SameDirectories.refl _, stages.copied.editsBelow_refl _⟩
  have gathering := keeps_gather opens stages.copied still
  rw [stages.gathers] at gathering
  exact gathering.changes.programs.2.trans (edits_refresh stages.refreshes).programs.2

include wellFormed in
/-- The job of a source has what the source says. -/
theorem exists_document {stem : Text} {job : Job}
    (isJob : JobOf stages.context.buildDrafts stages.context.outputDirectory
      (outputLocation request.root before.files) stages.copied.files folder stem job)
    (there : before.files.node? (sourceLocation request.root before.files ++
      (folder ++ [documentName stem])) = some (.file content modified)) :
    ∃ document, documentOf content = some document ∧ job.fields = document.header.fields ∧
      job.body = document.body := by
  have copied := ((stages.copyOf wellFormed).2.2.inside (folder ++ [documentName stem])).trans there
  obtain ⟨octets, _, held, fields, -⟩ := isJob.document
  obtain ⟨_, _, document, also, known, body⟩ := isJob.body
  rw [copied] at held also
  cases held
  cases also
  rw [fieldsOf_eq, known] at fields
  exact ⟨document, known, (Option.some.inj fields).symm, body.symm⟩

include wellFormed in
/-- The last page with a new name is left under it when the sitemap is written. -/
theorem exists_finished {last : Text}
    (lasts : LastPage (outputLocation request.root before.files) (· ≠ []) stages.paged.files
      folder last) (other : folder ++ [staticName last] ≠ [Sitemap.fileName]) :
    ∃ text time, Expanded stages.context stages.context.outputDirectory
        (outputLocation request.root before.files) stages.paged.files folder last text ∧
      stages.after.files.node? (outputLocation request.root before.files ++
        (folder ++ [staticName last])) = some (.file (Utf8.encode text) time) := by
  obtain ⟨text, time, expanded, written⟩ :=
    finished_processTree (stages.paged_jobs wellFormed).1.wellFormed
      (stages.opens_paged wellFormed) stages.processes folder last lasts
  exact ⟨text, time, expanded,
    ((stages.phases wellFormed).node?_of_ne_sitemap other).trans written⟩

variable (prevails : (Contributor.file folder name).Prevails request.buildDrafts before.files
  (sourceLocation request.root before.files))

include wellFormed prevails in
/-- A page that prevails is the last with its new name. -/
theorem lastPage (page : isPublishedPage name = true)
    (file : stages.paged.files.HasFile (outputLocation request.root before.files ++
      (folder ++ [pagedName name]))) :
    LastPage (outputLocation request.root before.files) (· ≠ []) stages.paged.files folder
      (pagedName name) := by
  refine ⟨by simp, file, isPageName_pagedName page, ?_⟩
  intro other _ held isPage same
  rw [staticName_pagedName] at same
  rcases (stages.phases wellFormed).hasFile_paged.1 held with ⟨plain, there⟩ | ⟨-, rfl⟩ |
    ⟨stem, named, rfl, present⟩
  · rw [staticName_of_not_document plain] at same
    rw [← pagedName_of_not_document plain]
    exact prevails.lessEqual page (by simp [isPublishedPage, isPage])
      (Contributor.isPresent_of_not_document plain there) same
  · exact absurd isPage (by decide)
  · rw [staticName_pageName named] at same
    rw [← pagedName_documentName named]
    have document : isPublishedPage (documentName stem) = true := by
      simp [isPublishedPage, isDocument_documentName named]
    exact prevails.lessEqual page document present same

include wellFormed prevails in
/-- A page that prevails is published with its components expanded. -/
theorem exists_expanded (page : isPublishedPage name = true) {octets : Bytes} {time : Int}
    (there : stages.paged.files.node? (outputLocation request.root before.files ++
      (folder ++ [pagedName name])) = some (.file octets time)) :
    ∃ plain text time, Utf8.decode octets = .ok plain ∧
      Component.expandAll (Text.unifyLineEnds plain) stages.context.components
        (some (stages.context.outputDirectory.extend (folder ++ [pagedName name])).text) =
          .ok text ∧
      stages.after.files.node? (outputLocation request.root before.files ++
        (folder ++ [publishedName name])) = some (.file (Utf8.encode text) time) := by
  have last := stages.lastPage wellFormed prevails page ⟨octets, time, there⟩
  obtain ⟨text, written, ⟨found, old, plain, held, decoded, expanded⟩, ends⟩ :=
    stages.exists_finished wellFormed last
      (staticName_pagedName name ▸ prevails.ne_sitemap)
  rw [there] at held
  cases held
  rw [staticName_pagedName] at ends
  exact ⟨plain, text, written, decoded, expanded, ends⟩

section Kinds

variable (there : before.files.node? (sourceLocation request.root before.files ++
  (folder ++ [name])) = some (.file content modified))

include wellFormed prevails there in
theorem isPublished_page (noDocument : isDocument name = false)
    (isPage : isPageName name = true) : IsPublished stages folder name content := by
  have page : isPublishedPage name = true := by simp [isPublishedPage, isPage]
  have paged := (stages.phases wellFormed).node?_paged noDocument
    (fun feed => absurd (feed ▸ isPage) (by decide))
    fun stem named same => prevails.not_replaced noDocument named same
  rw [there, ← pagedName_of_not_document noDocument] at paged
  obtain ⟨plain, text, time, decoded, expanded, ends⟩ :=
    stages.exists_expanded wellFormed prevails page paged
  rw [pagedName_of_not_document noDocument] at expanded
  exact ⟨_, time, ends, .page noDocument isPage decoded expanded⟩

include wellFormed prevails there in
theorem isPublished_document (document : isDocument name = true) :
    IsPublished stages folder name content := by
  have page : isPublishedPage name = true := by simp [isPublishedPage, document]
  have named := stem_ne_nil document
  have whole := eq_documentName document
  have present := prevails.present
  rw [whole] at present there
  obtain ⟨job, html, written, url, time, listed, isJob, rendered, paged⟩ :=
    stages.exists_rendered wellFormed named present
  obtain ⟨parsed, known, fields, body⟩ := stages.exists_document wellFormed isJob there
  have converted := renderStarted_of_renderAll stages.renders _ listed
  rw [stages.convert_gathered wellFormed] at converted
  have source := isJob.source
  have output := isJob.output
  rw [← whole] at source
  rw [← pagedName_documentName named, ← whole] at paged output
  obtain ⟨plain, text, time, decoded, expanded, ends⟩ :=
    stages.exists_expanded wellFormed prevails page paged
  obtain rfl := Except.ok.inj ((Utf8.decode_encode written).symm.trans decoded)
  rw [← output] at expanded
  exact ⟨_, time, ends, .document known listed source output fields body converted rendered
    expanded⟩

include wellFormed prevails there in
/-- The content of a source that prevails is there. -/
theorem isPublished : IsPublished stages folder name content := by
  cases document : isDocument name with
  | true => exact stages.isPublished_document wellFormed prevails there document
  | false => cases page : isPageName name with
    | true => exact stages.isPublished_page wellFormed prevails there document page
    | false =>
        have asset : isPublishedPage name = false := Bool.or_eq_false_iff.2 ⟨document, page⟩
        refine ⟨content, modified, ?_, .asset asset⟩
        rw [publishedName_of_not_page asset, ← there]
        exact (stages.phases wellFormed).node?_of_unclaimed document page
          fun _ present same => prevails.alone asset present same

end Kinds

end Stages

/-- Of the contributors with one place exactly one prevails, and the published file says what a
source says that prevails. -/
structure Preserves (stages : Stages request before) : Prop where
  unique : ∀ contributor : Contributor,
    contributor.IsPresent request.buildDrafts before.files
      (sourceLocation request.root before.files) →
    ∃! last : Contributor, last.Prevails request.buildDrafts before.files
      (sourceLocation request.root before.files) ∧ last.target = contributor.target
  published : ∀ folder name content modified,
    before.files.node? (sourceLocation request.root before.files ++ (folder ++ [name])) =
      some (.file content modified) →
    (Contributor.file folder name).Prevails request.buildDrafts before.files
      (sourceLocation request.root before.files) →
    IsPublished stages folder name content

/-- Of the sources that are published under one path a build keeps the one that is written last. -/
theorem site_preserves (wellFormed : before.files.WellFormed)
    (built : Runs (site request) before result after) :
    ∃ stages : Stages request before, result = stages.result ∧ after = stages.after ∧
      Preserves stages := by
  obtain ⟨stages, rfl, rfl⟩ := exists_stages built
  exact ⟨stages, rfl, rfl, fun _ present => Contributor.existsUnique_prevails present,
    fun _ _ _ _ there prevails => stages.isPublished wellFormed prevails there⟩

namespace Example

/-- A site with a text and a page that are published under one path. -/
def clashingSources : List (Location × Node) := [
  (["config".toList], .file (Utf8.encode "\x7b\"baseURL\":\"/\"\x7d") 0),
  (["src".toList], .directory),
  (["src".toList, "v1.2.html".toList], .file (Utf8.encode "<html>") 0),
  (["src".toList, "x".toList], .file [65] 0),
  (["src".toList, "x.html".toList], .file [67] 0)]

def clashingBefore : Workspace where
  files := ⟨[], clashingSources⟩

def clashingCopied : Workspace where
  files := ⟨[], clashingSources ++ [
    (["public".toList], .directory),
    (["public".toList, "v1.2.html".toList], .file (Utf8.encode "<html>") 0),
    (["public".toList, "x".toList], .file [65] 0),
    (["public".toList, "x.html".toList], .file [67] 0)]⟩
  journal := [
    .write ["public".toList, "x.html".toList] [67] 0,
    .write ["public".toList, "x".toList] [65] 0,
    .write ["public".toList, "v1.2.html".toList] (Utf8.encode "<html>") 0,
    .makeDirectory ["public".toList]]

def clashingGathered : Workspace := clashingCopied.saying "Converting 0 markdown files..."

/-- The page with a name is written under its new name. -/
def clashingWritten (static text : Text) (workspace : Workspace) : Workspace :=
  workspace.edited (.write ["public".toList, static] (Utf8.encode text) 0)

def clashingVersioned : Workspace :=
  (clashingWritten "v1.2" "<html>" clashingGathered).edited
    (.remove ["public".toList, "v1.2.html".toList])

def clashingSettled : Workspace :=
  (clashingWritten "x" "C" clashingVersioned).edited (.remove ["public".toList, "x.html".toList])

def clashingMapped : Workspace :=
  clashingSettled.edited
    (.write ["public".toList, Sitemap.fileName] (Utf8.encode (Sitemap.text [])) 0)

theorem wellFormed_clashingBefore : clashingBefore.files.WellFormed :=
  ⟨by decide, by decide, by decide⟩

theorem runs_processFile_versioned :
    Runs (processFile context (context.outputDirectory.child "v1.2.html".toList)) clashingGathered
      [] clashingVersioned :=
  have read : Runs (readText (context.outputDirectory.child "v1.2.html".toList)) clashingGathered
      "<html>".toList clashingGathered := by cbv
  have wrote : Runs (writeText ((context.outputDirectory.child "v1.2.html".toList).withSuffix [])
      "<html>".toList) clashingGathered () (clashingWritten "v1.2" "<html>" clashingGathered) := by
    cbv
  runs_processFile_renamed (by cbv) (by decide) read (by cbv) wrote (by cbv)

theorem runs_processFile_clashing :
    Runs (processFile context (context.outputDirectory.child "x.html".toList)) clashingVersioned
      [] clashingSettled :=
  have read : Runs (readText (context.outputDirectory.child "x.html".toList)) clashingVersioned
      ['C'] clashingVersioned := by cbv
  have wrote : Runs (writeText ((context.outputDirectory.child "x.html".toList).withSuffix [])
      ['C']) clashingVersioned () (clashingWritten "x" "C" clashingVersioned) := by cbv
  runs_processFile_renamed (by cbv) (by decide) read (by cbv) wrote (by cbv)

theorem runs_processTree_clashing :
    Runs (processTree context (clashingGathered.files.depth + 1) context.outputDirectory [])
      clashingGathered [] clashingSettled := by
  have listed : clashingGathered.files.children context.outputDirectory =
      .ok (["v1.2.html".toList, "x".toList, "x.html".toList].map
        context.outputDirectory.child) := by
    cbv
  rw [processTree, runs_bind]
  refine ⟨_, clashingGathered, runs_inspect.2 ⟨listed, rfl⟩, ?_⟩
  simp only [List.map_cons, List.map_nil, processEntries, runs_bind]
  refine ⟨[], clashingVersioned, ?_, [], clashingVersioned, by cbv, [], clashingSettled, ?_, rfl⟩
  · exact runs_processEntry (by cbv) (by cbv) runs_processFile_versioned
  · exact runs_processEntry (by cbv) (by cbv) runs_processFile_clashing

theorem announcement_empty :
    announcement ⟨[], []⟩ = "Converting 0 markdown files...".toList := by
  decide

/-- The build of the site with the clashing sources. -/
def clashingStages : Stages Example.request clashingBefore where
  context := context
  copied := clashingCopied
  findings := ⟨[], []⟩
  gathered := clashingCopied
  rendered := []
  pageURLs := []
  paged := clashingGathered
  urls := []
  settled := clashingSettled
  sitemap := context.outputDirectory.child Sitemap.fileName
  mapped := clashingMapped
  prepares := by cbv
  refreshes := by cbv
  gathers := by cbv
  counts := counts_request
  renders := rfl
  writes := announcement_empty ▸ runs_pure.2 ⟨rfl, rfl⟩
  processes := runs_processTree_clashing
  maps := by cbv

theorem site_preserves_clashing :
    clashingBefore.files.WellFormed ∧
      Runs (site Example.request) clashingBefore clashingStages.result clashingStages.after ∧
      ∃ stages : Stages Example.request clashingBefore, clashingStages.result = stages.result ∧
        clashingStages.after = stages.after ∧ Preserves stages :=
  ⟨wellFormed_clashingBefore, clashingStages.runs,
    site_preserves wellFormed_clashingBefore clashingStages.runs⟩

/-- Two sources are published under one path, and nothing says what the first of them says. -/
theorem site_loses_clashing :
    Runs (site Example.request) clashingBefore clashingStages.result clashingStages.after ∧
      (Contributor.file [] "x".toList).IsPresent Example.request.buildDrafts clashingBefore.files
        (sourceLocation Example.request.root clashingBefore.files) ∧
      (Contributor.file [] "x.html".toList).IsPresent Example.request.buildDrafts
        clashingBefore.files (sourceLocation Example.request.root clashingBefore.files) ∧
      (Contributor.file [] "x".toList).target = (Contributor.file [] "x.html".toList).target ∧
      clashingBefore.files.node? ["src".toList, "x".toList] = some (.file [65] 0) ∧
      ∀ parts, clashingStages.after.files.content?
        (outputLocation Example.request.root clashingBefore.files ++ parts) ≠ some [65] := by
  refine ⟨clashingStages.runs,
    Contributor.isPresent_of_not_document (by decide) ⟨[65], 0, by decide⟩,
    Contributor.isPresent_of_not_document (by decide) ⟨[67], 0, by decide⟩, by decide, by decide,
    ?_⟩
  intro parts found
  obtain ⟨modified, there⟩ := content?_eq_some_iff.1 found
  have apart : ∀ entry ∈ clashingStages.after.files.entries, ["public".toList] <+: entry.1 →
      clashingStages.after.files.content? entry.1 ≠ some [65] := by decide
  exact apart _ (mem_of_node? there (by simp [outputLocation])) (List.prefix_append _ _) found

end Example

end Build

end StaticSite
