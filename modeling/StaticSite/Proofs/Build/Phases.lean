import StaticSite.Proofs.Build.Stages
import StaticSite.Proofs.Build.Processing

/-!
# The phases of a build

A build that succeeds copies the sources, walks the copy, writes the pages of the jobs,
processes the pages and writes the sitemap, each from the tree that the phase before has left.
-/

namespace StaticSite

namespace Build

open StaticSite.Action FileTree

/-- The trees between the phases of a build. -/
structure Phases (request : Request) (result : Result) (source output : Location)
    (before after : FileTree) where
  context : Context
  jobs : List Job
  pageURLs : List Text
  copied : FileTree
  gathered : FileTree
  paged : FileTree
  settled : FileTree
  root : context.root = request.root
  drafts : context.buildDrafts = request.buildDrafts
  config : Config.readSite before request.root request.configName = .ok context.config
  sources : before.Opens context.sourceDirectory source
  opens : copied.Opens context.outputDirectory output
  copy : CopyOf before copied source output
  walk : Walked context.buildDrafts context.outputDirectory output (· ≠ []) (· ≠ [])
    copied gathered jobs
  pages : Paged context.outputDirectory output jobs gathered paged
  listed : ∀ url ∈ pageURLs, ∃ job ∈ jobs,
    Page.canonicalURL context.config.baseURL job.output context.outputDirectory = .ok url
  settle : Settled context context.outputDirectory output (· ≠ []) paged settled
    pageURLs result.sitemapURLs
  sitemap : settled.node? (output ++ [Sitemap.fileName]) ≠ some .directory ∧
    ∃ content modified, after = settled.set (output ++ [Sitemap.fileName]) (.file content modified)

namespace Phases

variable {request : Request} {result : Result} {source output : Location}
  {before after : FileTree} {parts : List Text}

theorem sourceDirectory_eq (phases : Phases request result source output before after) :
    phases.context.sourceDirectory = request.root.child Context.sourceName :=
  congrArg (Path.child · Context.sourceName) phases.root

theorem outputDirectory_eq (phases : Phases request result source output before after) :
    phases.context.outputDirectory = request.root.child Context.outputName :=
  congrArg (Path.child · Context.outputName) phases.root

theorem node?_of_ne_sitemap (phases : Phases request result source output before after)
    (other : parts ≠ [Sitemap.fileName]) :
    after.node? (output ++ parts) = phases.settled.node? (output ++ parts) := by
  obtain ⟨-, content, modified, mapped⟩ := phases.sitemap
  apply (congrArg (node? · (output ++ parts)) mapped).trans
  rw [node?_set (by simp), if_neg]
  exact fun same => other (List.append_cancel_left same)

theorem hasFile_after (phases : Phases request result source output before after) :
    after.HasFile (output ++ parts) ↔
      parts = [Sitemap.fileName] ∨ phases.settled.HasFile (output ++ parts) := by
  obtain ⟨-, content, modified, mapped⟩ := phases.sitemap
  apply (iff_of_eq (congrArg (HasFile · (output ++ parts)) mapped)).trans
  rw [hasFile_set (by simp), List.append_cancel_left_eq]

/-- Once the output is there, its directories stay as they are. -/
theorem sameDirectories_after (phases : Phases request result source output before after) :
    SameDirectories phases.settled after := by
  obtain ⟨free, content, modified, mapped⟩ := phases.sitemap
  have same : ∀ mappedTree,
      mappedTree = phases.settled.set (output ++ [Sitemap.fileName]) (.file content modified) →
      SameDirectories phases.settled mappedTree := by
    rintro _ rfl
    exact SameDirectories.set_file (by simp) free content modified
  exact same after mapped

theorem opens_after (phases : Phases request result source output before after) :
    after.Opens phases.context.outputDirectory output :=
  phases.sameDirectories_after.opens (phases.settle.same.opens
    ((phases.walk.same.trans phases.pages.same).opens phases.opens))

end Phases

variable {request : Request} {result : Result} {before after : Workspace}

theorem runs_writeSitemap {context : Context} {urls : List Text} {output : Location} {path : Path}
    (opens : before.files.Opens context.outputDirectory output)
    (ran : Runs (writeSitemap context urls) before path after) :
    before.files.node? (output ++ [Sitemap.fileName]) ≠ some .directory ∧
      ∃ modified, after.files = before.files.set (output ++ [Sitemap.fileName])
        (.file (Utf8.encode (Sitemap.text urls)) modified) := by
  unfold writeSitemap at ran
  obtain ⟨_, middle, wrote, ended⟩ := runs_bind.1 ran
  obtain ⟨rfl, rfl⟩ := runs_pure.1 ended
  obtain ⟨-, free, rfl⟩ := runs_writeText_child opens (by decide) wrote
  exact ⟨free, _, rfl⟩

namespace Stages

variable (stages : Stages request before) (wellFormed : before.files.WellFormed)

theorem root_eq : stages.context.root = request.root := (runs_prepare stages.prepares).2.1

include wellFormed in
theorem copyOf :
    before.files.Opens stages.context.sourceDirectory (sourceLocation request.root before.files) ∧
      stages.copied.files.Opens stages.context.outputDirectory
        (outputLocation request.root before.files) ∧
      CopyOf before.files stages.copied.files (sourceLocation request.root before.files)
        (outputLocation request.root before.files) := by
  have refreshed := runs_refresh wellFormed stages.refreshes
  rwa [stages.root_eq] at refreshed

include wellFormed in
theorem walked :
    Walked stages.context.buildDrafts stages.context.outputDirectory
      (outputLocation request.root before.files) (· ≠ []) (· ≠ [])
      stages.copied.files stages.gathered.files stages.findings.jobs :=
  have ⟨_, opens, copy⟩ := stages.copyOf wellFormed
  walked_gather copy.wellFormed opens stages.gathers

include wellFormed in
theorem areJobs : ∀ entry ∈ stages.rendered, ∃ folder stem,
    JobOf stages.context.buildDrafts stages.context.outputDirectory
      (outputLocation request.root before.files) stages.copied.files folder stem entry.1 := by
  intro entry member
  have found : entry.1 ∈ stages.findings.jobs :=
    map_fst_of_renderAll stages.renders ▸ List.mem_map_of_mem member
  obtain ⟨folder, stem, -, isJob⟩ := (stages.walked wellFormed).sound entry.1 found
  exact ⟨folder, stem, isJob⟩

include wellFormed in
theorem paged_jobs :
    Paged stages.context.outputDirectory (outputLocation request.root before.files)
        stages.findings.jobs stages.gathered.files stages.paged.files ∧
      ∀ url ∈ stages.pageURLs, ∃ job ∈ stages.findings.jobs,
        Page.canonicalURL stages.context.config.baseURL job.output
          stages.context.outputDirectory = .ok url := by
  have ⟨_, opens, copy⟩ := stages.copyOf wellFormed
  have walk := stages.walked wellFormed
  have announced : (stages.gathered.saying (announcement stages.findings)).files.WellFormed :=
    walk.wellFormed
  have pages := runs_writePages copy.wellFormed announced walk.same (stages.areJobs wellFormed)
    stages.writes
  have listed := fun url member => @exists_job_of_listed _ _ _ _ _ url stages.writes member
  rw [map_fst_of_renderAll stages.renders] at pages listed
  exact ⟨pages, listed⟩

include wellFormed in
theorem opens_paged : stages.paged.files.Opens stages.context.outputDirectory
    (outputLocation request.root before.files) :=
  have ⟨_, opens, _⟩ := stages.copyOf wellFormed
  ((stages.walked wellFormed).same.trans (stages.paged_jobs wellFormed).1.same).opens opens

include wellFormed in
theorem settled_output :
    Settled stages.context stages.context.outputDirectory
      (outputLocation request.root before.files) (· ≠ []) stages.paged.files stages.settled.files
      stages.pageURLs stages.urls :=
  settled_processTree (stages.paged_jobs wellFormed).1.wellFormed
    (stages.opens_paged wellFormed) stages.processes

include wellFormed in
theorem exists_sitemap :
    stages.settled.files.node? (outputLocation request.root before.files ++ [Sitemap.fileName]) ≠
        some .directory ∧
      ∃ modified, stages.after.files = stages.settled.files.set
        (outputLocation request.root before.files ++ [Sitemap.fileName])
        (.file (Utf8.encode (Sitemap.text stages.urls)) modified) :=
  have opens := (stages.settled_output wellFormed).same.opens (stages.opens_paged wellFormed)
  have mapped := runs_writeSitemap opens stages.maps
  mapped

/-- The trees that the stages of a build have left. -/
def phases : Phases request stages.result (sourceLocation request.root before.files)
    (outputLocation request.root before.files) before.files stages.after.files where
  context := stages.context
  jobs := stages.findings.jobs
  pageURLs := stages.pageURLs
  copied := stages.copied.files
  gathered := stages.gathered.files
  paged := stages.paged.files
  settled := stages.settled.files
  root := stages.root_eq
  drafts := (runs_prepare stages.prepares).2.2.1
  config := (runs_prepare stages.prepares).2.2.2
  sources := (stages.copyOf wellFormed).1
  opens := (stages.copyOf wellFormed).2.1
  copy := (stages.copyOf wellFormed).2.2
  walk := stages.walked wellFormed
  pages := (stages.paged_jobs wellFormed).1
  listed := (stages.paged_jobs wellFormed).2
  settle := stages.settled_output wellFormed
  sitemap := (stages.exists_sitemap wellFormed).imp_right fun mapped => ⟨_, mapped⟩

end Stages

/-- Every build that succeeds goes through all phases. -/
theorem exists_phases (wellFormed : before.files.WellFormed)
    (built : Runs (site request) before result after) :
    Nonempty (Phases request result (sourceLocation request.root before.files)
      (outputLocation request.root before.files) before.files after.files) := by
  obtain ⟨stages, rfl, rfl⟩ := exists_stages built
  exact ⟨stages.phases wellFormed⟩

end Build

end StaticSite
