import StaticSite.Proofs.Build.Processing
import StaticSite.Proofs.Build.Restarting
import StaticSite.Proofs.Build.Stages
import StaticSite.Proofs.Config.Loading
import StaticSite.Proofs.NewSite.Creating
import StaticSite.Proofs.NewSite.Settings
import StaticSite.Proofs.Page.Address
import StaticSite.Proofs.Sitemap

/-!
# Building a new site

A build of a new site reads its configuration and then has one page to publish, the index page.  It
succeeds if the configuration is read, and the finished site holds that page and the sitemap alone.
-/

namespace StaticSite

namespace NewSite

open StaticSite.Action FileTree

variable {before after workspace copied : Workspace} {parent site output : Path}
  {location place origin : Location} {name folder file text : Text} {names : List Text}
  {entries : List (Location × Node)} {clock : Int} {config : SiteConfig} {context : Context}
  {fault : Fault}

section Paths

theorem Made.fits (made : Made site location name clock workspace) :
    (Utf8.encode ((site.child Context.templatesName).child templateName).text).length ≤ longestPath :=
  (locate_eq_ok_iff.1 (require_eq_ok_iff.1 made.template).2).1

theorem Made.require_child (made : Made site location name clock workspace) (folder : Text)
    (isName : IsName folder) (short : (Utf8.encode folder).length ≤ 11) :
    workspace.files.require (site.child folder) = .ok (location ++ [folder]) :=
  made.opens.require_child isName (short.trans (by decide)) ((length_child_le site short).trans made.fits)

/-- A directory of a new site opens. -/
theorem Made.opens_child (made : Made site location name clock workspace) (folder : Text)
    (isName : IsName folder)
    (short : (Utf8.encode folder).length ≤ 11)
    (held : lookup [folder] (contents name clock) = some .directory) :
    workspace.files.Opens (site.child folder) (location ++ [folder]) :=
  ⟨made.require_child folder isName short, (made.holds [folder]).trans held⟩

end Paths

/-- What a directory holds that has one file. -/
def page (file : Text) (content : Bytes) (clock : Int) : List (Location × Node) :=
  [([], .directory), ([file], .file content clock)]

theorem lookup_page_ne_none_iff {content : Bytes} {other : Text} :
    lookup [other] (page file content clock) ≠ none ↔ other = file := by
  simp [page, lookup, eq_comm]

theorem setEntry_page {content : Bytes} {other : Text} {node : Node} (distinct : file ≠ other) :
    setEntry [other] node (page file content clock) =
      [([], .directory), ([file], .file content clock), ([other], node)] := by
  simp [page, setEntry, distinct]

section Preparing

theorem runs_readText_of_file {path : Path} {target : Location}
    (led : workspace.files.require path = .ok target)
    (held : workspace.files.node? target = some (.file (Utf8.encode text) clock)) :
    Runs (readText path) workspace (Text.unifyLineEnds text) workspace :=
  runs_readText_iff.2 ⟨_, text, read_of_file led held, Utf8.decode_encode text, rfl, rfl⟩

theorem runs_filesAmong {paths : List Path}
    (files : ∀ path ∈ paths, workspace.files.isFile path = .ok true) :
    Runs (Build.filesAmong paths) workspace paths workspace := by
  induction paths with
  | nil => rfl
  | cons path paths ih =>
      unfold Build.filesAmong
      simp only [runs_bind, runs_inspect]
      exact ⟨true, workspace, ⟨files path List.mem_cons_self, rfl⟩, paths, workspace,
        ih fun other member => files other (List.mem_cons_of_mem _ member), rfl⟩

/-- The files that a directory holds are all read, unless they are hidden. -/
theorem runs_cachedFiles (opens : workspace.files.Opens output origin)
    (listed : workspace.files.names origin = names)
    (files : ∀ name ∈ names, workspace.files.isFile (output.child name) = .ok true)
    (shown : ∀ name ∈ names, Text.startsWith ['.'] name = false) :
    Runs (Build.cachedFiles output) workspace (names.map output.child) workspace := by
  unfold Build.cachedFiles
  rw [runs_bind]
  refine ⟨true, workspace, runs_inspect.2 ⟨isDirectory_of_opens opens, rfl⟩, ?_⟩
  rw [if_pos rfl, runs_bind]
  refine ⟨names.map output.child, workspace, runs_inspect.2 ⟨?_, rfl⟩, ?_⟩
  · rw [opens.children_eq, listed]
  rw [runs_bind]
  refine ⟨names.map output.child, workspace, runs_filesAmong (by simpa using files), ?_⟩
  refine runs_pure.2 ⟨?_, rfl⟩
  rw [eq_comm, List.filter_eq_self]
  intro path member
  obtain ⟨name, inside, rfl⟩ := List.mem_map.1 member
  simp [shown name inside]

theorem Made.readSite (made : Made site location name clock workspace) :
    Config.readSite workspace.files site Config.defaultName = settings site name := by
  have led := made.require_child Config.defaultName (by decide) (by decide)
  have held : workspace.files.node? (location ++ [Config.defaultName]) =
      some (.file (Utf8.encode (configuration name)) clock) := made.holds [Config.defaultName]
  have there : workspace.files.exists? (site.child Config.defaultName) = .ok true := by
    rw [exists?, probe_of_require led, held]
    rfl
  have path : site.append (Path.parse Config.defaultName) = site.child Config.defaultName := rfl
  have loaded : Config.load workspace.files (site.child Config.defaultName) =
      Config.entriesOf (site.child Config.defaultName)
        (Text.unifyLineEnds (configuration name)) := by
    rw [Config.load_of_read (read_of_file led held) there, Utf8.decode_encode]
  rw [Config.readSite, path, loaded]
  rfl

theorem Made.runs_loadTemplates (made : Made site location name clock workspace) :
    ∃ templates, Runs (Build.loadTemplates (site.child Context.templatesName)) workspace templates
      workspace := by
  have opens := made.opens_child Context.templatesName (by decide) (by decide) rfl
  have below : workspace.files.Holds (location ++ [Context.templatesName])
      (page templateName (Utf8.encode NewSite.template) clock) :=
    made.holds.below [Context.templatesName]
  have listed := below.names_eq_singleton made.wellFormed fun other => lookup_page_ne_none_iff
  have held := made.holds [Context.templatesName, templateName]
  have cached := runs_cachedFiles opens listed
    (by simpa using isFile_of_file made.template held) (by decide)
  refine ⟨(∅ : Dictionary Text).put ((site.child Context.templatesName).child templateName).name
    (Text.unifyLineEnds NewSite.template), runs_bind.2 ⟨_, workspace, cached, ?_⟩⟩
  exact runs_bind.2 ⟨_, workspace, runs_readText_of_file made.template held, rfl⟩

theorem Made.runs_loadComponents (made : Made site location name clock workspace) :
    Runs (Build.loadComponents (site.child Context.componentsName)) workspace ∅ workspace := by
  have opens := made.opens_child Context.componentsName (by decide) (by decide) rfl
  have listed : workspace.files.names (location ++ [Context.componentsName]) = [] := by
    have below : workspace.files.Holds (location ++ [Context.componentsName]) [([], .directory)] :=
      made.holds.below [Context.componentsName]
    exact below.names_eq_nil made.wellFormed fun other => rfl
  exact runs_bind.2 ⟨_, workspace, runs_cachedFiles opens listed (by simp) (by simp), rfl⟩

/-- A new site is prepared for a build if its configuration is read. -/
theorem Made.exists_prepared (made : Made site location name clock workspace)
    (read : settings site name = .ok config) :
    ∃ context, Runs (Build.prepare { root := site }) workspace context workspace ∧
      context.root = site ∧ context.config = config ∧ context.components = ∅ := by
  obtain ⟨templates, loaded⟩ := made.runs_loadTemplates
  have configured : Config.readSite workspace.files site Config.defaultName = .ok config :=
    made.readSite.trans read
  refine ⟨⟨site, config, templates, ∅, false, false⟩, ?_, rfl, rfl, rfl⟩
  unfold Build.prepare
  simp only [runs_bind, runs_inspect]
  exact ⟨config, workspace, ⟨configured, rfl⟩, templates, workspace, loaded, ∅, workspace,
    made.runs_loadComponents, rfl⟩

end Preparing

section Publishing

/-- The sources of a new site are copied to where nothing was before. -/
theorem Made.exists_copied (made : Made context.root location name clock workspace) :
    ∃ copied, Runs (Build.refresh context) workspace () copied ∧
      Stage context.outputDirectory (location ++ [Context.outputName]) clock
        (page Page.indexName (Utf8.encode (indexPage name)) clock) copied := by
  have source := made.opens_child Context.sourceName (by decide) (by decide) rfl
  have led := made.require_child Context.outputName (by decide) (by decide)
  have missing : workspace.files.node? (location ++ [Context.outputName]) = none :=
    made.holds [Context.outputName]
  have absent : workspace.files.exists? context.outputDirectory = .ok false := by
    rw [exists?, Context.outputDirectory, probe_of_require led, missing]
    rfl
  have asked : workspace.files.isDirectory context.sourceDirectory = .ok true :=
    isDirectory_of_opens source
  have begun : Runs (makeDirectory context.outputDirectory) workspace ()
      (workspace.edited (.makeDirectory (location ++ [Context.outputName]))) :=
    runs_makeDirectory.2 ⟨_, led, missing, rfl⟩
  obtain ⟨reaches, -⟩ := reaches_makeDirectory made.wellFormed made.opens (by decide) begun
  have copied : Runs (copyTree context.sourceDirectory context.outputDirectory) workspace () _ :=
    (runs_copyTree_iff (Build.exists?_root asked)).2
      ⟨_, _, source.1, led, missing, reaches.opens.1, rfl⟩
  obtain ⟨copy, opens⟩ := runs_copyTree made.wellFormed source made.opens (by decide) copied
  have cleaned : Runs (Build.cleanOutput context.outputDirectory context.root) workspace () workspace :=
    Build.runs_cleanOutput_iff.2 (Or.inl ⟨absent, rfl⟩)
  have refreshed : Runs (Build.refresh context) workspace () _ := Build.runs_refresh_iff.2
    ⟨asked, workspace, cleaned, Build.runs_copySource_iff.2 ⟨asked, copied⟩⟩
  exact ⟨_, refreshed, (Build.edits_refresh refreshed).clock.trans made.clock, copy.wellFormed, opens,
    copy.holds (made.holds.below [Context.sourceName])⟩

/-- Without components nothing is expanded. -/
theorem expandAll_of_empty (none : context.components = ∅) (text : Text) (source : Option Text) :
    Component.expandAll text context.components source = .ok text := by
  have order : Component.inOrder ∅ = [] := List.mergeSort_nil
  rw [none, Component.expandAll, order]
  show (if text = text then pure text else _ : Except Fault Text) = _
  rw [if_pos rfl]
  rfl

theorem canonicalURL_index (context : Context) :
    Page.canonicalURL context.config.baseURL (context.outputDirectory.child Page.indexName)
      context.outputDirectory = .ok context.config.baseURL := by
  have path : context.outputDirectory.child Page.indexName =
      context.outputDirectory.extend [Page.indexName] := rfl
  have address : Page.shorten (⟨.here, [Page.indexName]⟩ : Path).text = [] := by decide
  rw [Page.canonicalURL, Page.canonicalPath, path, Page.relative_extend]
  show Except.ok (context.config.baseURL ++ Page.shorten (⟨.here, [Page.indexName]⟩ : Path).text) = _
  rw [address, List.append_nil]

/-- The addresses of a site whose only page is an index page with a content. -/
def addresses (config : SiteConfig) (content : Text) : List Text :=
  if Text.contains Page.noIndexTag content then [] else [config.baseURL]

variable {content : Bytes}
  (stage : Stage context.outputDirectory origin clock (page Page.indexName content clock) workspace)
  (led : workspace.files.require (context.outputDirectory.child Page.indexName) =
    .ok (origin ++ [Page.indexName]))

include stage in
theorem children_page : workspace.files.children context.outputDirectory =
    .ok [context.outputDirectory.child Page.indexName] := by
  rw [stage.opens.children_eq,
    stage.holds.names_eq_singleton stage.wellFormed fun other => lookup_page_ne_none_iff]
  rfl

include stage led

/-- There are no documents beside the index page. -/
theorem runs_gather_page : Runs (Build.gather context) workspace {} workspace := by
  have held := stage.holds [Page.indexName]
  have document : ((context.outputDirectory.child Page.indexName).suffix == ".md".toList) = false := by
    rw [Path.suffix, Path.name_child]
    decide
  have entry : Runs (Build.walkEntry context workspace.files.depth context.outputDirectory false
      (context.outputDirectory.child Page.indexName)) workspace {} workspace := by
    rw [Build.walkEntry, runs_bind]
    refine ⟨true, workspace, runs_inspect.2 ⟨isFile_of_file led held, rfl⟩, ?_⟩
    rw [document, if_neg (by decide), runs_bind]
    exact ⟨false, workspace, runs_inspect.2 ⟨isDirectory_of_file led held, rfl⟩, rfl⟩
  unfold Build.gather
  simp only [runs_bind, runs_get]
  refine ⟨workspace, workspace, ⟨rfl, rfl⟩, ?_⟩
  rw [Build.walk, runs_bind]
  refine ⟨_, workspace, runs_inspect.2 ⟨children_page stage, rfl⟩, ?_⟩
  simp only [Build.walkEntries, runs_bind]
  exact ⟨{}, workspace, entry, {}, workspace, rfl, rfl⟩

omit stage in
/-- Processing writes the index page again, with one kind of line end. -/
theorem exists_processed (none : context.components = ∅) (based : context.config.baseURL ≠ [])
    (stage : Stage context.outputDirectory origin clock
      (page Page.indexName (Utf8.encode text) clock) workspace) (depth : Nat) :
    ∃ processed, Runs (Build.processTree context (depth + 1) context.outputDirectory []) workspace
        (addresses context.config (Text.unifyLineEnds text)) processed ∧
      Stage context.outputDirectory origin clock
        (page Page.indexName (Utf8.encode (Text.unifyLineEnds text)) clock) processed := by
  have held := stage.holds [Page.indexName]
  have free : workspace.files.node? (origin ++ [Page.indexName]) ≠ some .directory := by
    rw [held]
    nofun
  have wrote : Runs (writeText (context.outputDirectory.child Page.indexName)
      (Text.unifyLineEnds text)) workspace () _ := runs_writeText_of_require stage.opens led free
  have isPage : Build.isPage (context.outputDirectory.child Page.indexName) = true := by
    unfold Build.isPage Build.isProcessed
    rw [Path.suffix, Path.name_child]
    decide
  have processed : Runs (Build.processFile context (context.outputDirectory.child Page.indexName))
      workspace (if Text.contains Page.noIndexTag (Text.unifyLineEnds text) then []
        else context.config.baseURL) (workspace.edited
          (.write (origin ++ [Page.indexName]) (Utf8.encode (Text.unifyLineEnds text))
            workspace.clock)) := by
    rw [Build.processFile, isPage, if_neg (by decide), runs_bind]
    refine ⟨_, workspace, runs_readText_of_file led held, ?_⟩
    rw [runs_bind]
    refine ⟨_, workspace, runs_ofExcept.2 ⟨expandAll_of_empty none _ _, rfl⟩, ?_⟩
    rw [if_neg (by simp), runs_bind]
    refine ⟨(), _, wrote, ?_⟩
    split
    · rfl
    · exact runs_ofExcept.2 ⟨canonicalURL_index context, rfl⟩
  refine ⟨_, ?_, stage.write (by decide) wrote⟩
  rw [Build.processTree, runs_bind]
  refine ⟨_, workspace, runs_inspect.2 ⟨children_page stage, rfl⟩, ?_⟩
  simp only [Build.processEntries, runs_bind]
  refine ⟨_, _, Build.runs_processEntry (isDirectory_of_file led held) (isFile_of_file led held)
    processed, runs_pure.2 ⟨?_, rfl⟩⟩
  unfold addresses Sitemap.add
  split <;> simp [based]

end Publishing

/-- What the finished site holds that is built from a new site. -/
def finished (content : Text) (urls : List Text) (clock : Int) : List (Location × Node) := [
  ([], .directory),
  ([Page.indexName], .file (Utf8.encode content) clock),
  ([Sitemap.fileName], .file (Utf8.encode (Sitemap.text urls)) clock)]

theorem baseURL_ne_nil (read : settings site name = .ok config) : config.baseURL ≠ [] := by
  unfold settings at read
  obtain ⟨entries, -, made⟩ := bind_eq_ok_iff.1 read
  unfold Config.siteConfig at made
  split at made
  · next base _ =>
      cases base with
      | nil => cases made
      | cons first base =>
          split at made
          · cases made
          · split at made
            · cases made
            · cases made
              exact List.cons_ne_nil first base
  · cases made

/-- A build that finds no documents ends with what it made of the pages in HTML. -/
theorem exists_built_of_stages {request : Build.Request} {processed mapped : Workspace}
    {urls : List Text} (counts : request.workers.isNone = false)
    (prepares : Runs (Build.prepare request) workspace context workspace)
    (refreshes : Runs (Build.refresh context) workspace () copied)
    (gathers : Runs (Build.gather context) copied {} copied)
    (processes : Runs (Build.processTree context (copied.files.depth + 1) context.outputDirectory [])
      (copied.saying (Build.announcement {})) urls processed)
    (maps : Runs (writeText (context.outputDirectory.child Sitemap.fileName) (Sitemap.text urls))
      processed () mapped) :
    ∃ after, Runs (Build.site request) workspace ⟨urls, [], 0⟩ after ∧
      after.clock = mapped.clock ∧ after.files = mapped.files := by
  let stages : Build.Stages request workspace := {
    context := context
    copied := copied
    findings := {}
    gathered := copied
    rendered := []
    pageURLs := []
    paged := copied.saying (Build.announcement {})
    urls := urls
    settled := processed
    sitemap := context.outputDirectory.child Sitemap.fileName
    mapped := mapped
    prepares := prepares
    refreshes := refreshes
    gathers := gathers
    counts := counts
    renders := by simp [Build.renderAll, Build.firstUnstarted?, Build.collectResults]
    writes := rfl
    processes := processes
    maps := runs_bind.2 ⟨(), mapped, maps, rfl⟩ }
  exact ⟨stages.after, stages.runs, rfl, rfl⟩

/-- A new site is built if its configuration is read. -/
theorem Made.exists_built (made : Made site location name clock workspace)
    (read : settings site name = .ok config) :
    let content := Text.unifyLineEnds (indexPage name)
    ∃ after, Runs (Build.site { root := site }) workspace ⟨addresses config content, [], 0⟩ after ∧
      Stage (site.child Context.outputName) (location ++ [Context.outputName]) clock
        (finished content (addresses config content) clock) after := by
  intro content
  obtain ⟨context, prepares, rfl, rfl, none⟩ := made.exists_prepared read
  obtain ⟨copied, refreshes, stage⟩ := made.exists_copied
  have led : copied.files.require (context.outputDirectory.child Page.indexName) =
      .ok (location ++ [Context.outputName] ++ [Page.indexName]) :=
    stage.opens.require_child (by decide) (by decide)
      ((length_below_le _ (by decide)).trans made.fits)
  have announced : Stage context.outputDirectory (location ++ [Context.outputName]) clock
      (page Page.indexName (Utf8.encode (indexPage name)) clock)
      (copied.saying (Build.announcement {})) := stage.congr rfl rfl
  have said : (copied.saying (Build.announcement {})).files.require
      (context.outputDirectory.child Page.indexName) =
        .ok (location ++ [Context.outputName] ++ [Page.indexName]) := led
  obtain ⟨processed, processes, also⟩ :=
    exists_processed said none (baseURL_ne_nil read) announced copied.files.depth
  have place : processed.files.require (context.outputDirectory.child Sitemap.fileName) =
      .ok (location ++ [Context.outputName] ++ [Sitemap.fileName]) :=
    also.opens.require_child (by decide) (by decide)
      ((length_below_le _ (by decide)).trans made.fits)
  have free : processed.files.node? (location ++ [Context.outputName] ++ [Sitemap.fileName]) ≠
      some .directory := by
    rw [also.holds]
    nofun
  have maps : Runs (writeText (context.outputDirectory.child Sitemap.fileName)
      (Sitemap.text (addresses context.config content))) processed () _ :=
    runs_writeText_of_require also.opens place free
  obtain ⟨after, ran, same, files⟩ :=
    exists_built_of_stages rfl prepares refreshes (runs_gather_page stage led) processes maps
  have last := also.write (by decide) maps
  rw [setEntry_page (by decide)] at last
  exact ⟨after, ran, last.congr same files⟩

end NewSite

end StaticSite
