import StaticSite.Build.Site
import StaticSite.Proofs.Build.Preparing

/-!
# The stages of a build

A build that succeeds is a chain of runs, each from the workspace that the run before has left.
-/

namespace StaticSite

namespace Build

open StaticSite.Action

/-- What is printed when all documents are found. -/
def announcement (findings : Findings) : Text :=
  "Converting " ++ Text.ofNat findings.jobs.length ++ " markdown files..."

/-- The runs of a build, and what they have left. -/
structure Stages (request : Request) (before : Workspace) where
  context : Context
  copied : Workspace
  findings : Findings
  gathered : Workspace
  rendered : List (Job × Text)
  pageURLs : List Text
  paged : Workspace
  urls : List Text
  settled : Workspace
  sitemap : Path
  mapped : Workspace
  prepares : Runs (prepare request) before context before
  refreshes : Runs (refresh context) before () copied
  gathers : Runs (gather context) copied findings gathered
  counts : request.workers.isNone = false
  renders : renderAll gathered.programs gathered.convert findings.jobs = .ok rendered
  writes : Runs (writePages context rendered []) (gathered.saying (announcement findings))
    pageURLs paged
  processes : Runs (processTree context (paged.files.depth + 1) context.outputDirectory pageURLs)
    paged urls settled
  maps : Runs (writeSitemap context urls) settled sitemap mapped

namespace Stages

variable {request : Request} {before : Workspace}

def result (stages : Stages request before) : Result :=
  ⟨stages.urls, stages.findings.feeds, stages.rendered.length⟩

def after (stages : Stages request before) : Workspace :=
  (stages.mapped.saying ("Generated sitemap at: " ++ stages.sitemap.text)).saying "done building"

@[simp]
theorem after_files (stages : Stages request before) : stages.after.files = stages.mapped.files :=
  rfl

end Stages

variable {request : Request} {before after : Workspace} {result : Result}

theorem Stages.runs (stages : Stages request before) :
    Runs (site request) before stages.result stages.after := by
  rw [site, runs_bind]
  refine ⟨_, _, stages.prepares, ?_⟩
  rw [runs_bind]
  refine ⟨_, _, stages.refreshes, ?_⟩
  rw [publish, runs_bind]
  refine ⟨_, _, stages.gathers, ?_⟩
  rw [runs_bind]
  refine ⟨(), _, runs_print_iff.2 rfl, ?_⟩
  rw [if_neg (by simp [stages.counts])]
  simp only [runs_bind, runs_get, runs_ofExcept, runs_print_iff, runs_pure]
  exact ⟨_, _, ⟨rfl, rfl⟩, _, _, ⟨stages.renders, rfl⟩, _, _, stages.writes, _, _, ⟨rfl, rfl⟩,
    _, _, stages.processes, _, _, stages.maps, (), _, rfl, (), _, rfl, rfl, rfl⟩

/-- A build that succeeds goes through all stages. -/
theorem exists_stages (built : Runs (site request) before result after) :
    ∃ stages : Stages request before, result = stages.result ∧ after = stages.after := by
  unfold site at built
  obtain ⟨context, _, prepared, begun⟩ := runs_bind.1 built
  obtain ⟨rfl, -⟩ := runs_prepare prepared
  obtain ⟨_, copied, refreshed, published⟩ := runs_bind.1 begun
  unfold publish at published
  obtain ⟨findings, gathered, walked, announced⟩ := runs_bind.1 published
  obtain ⟨_, ready, printed, checked⟩ := runs_bind.1 announced
  obtain rfl := runs_print_iff.1 printed
  split at checked
  · obtain ⟨_, _, thrown, -⟩ := runs_bind.1 checked
    exact absurd thrown not_runs_throw
  · next counted =>
      simp only [runs_bind, runs_get, runs_ofExcept, runs_print_iff, runs_pure] at checked
      obtain ⟨_, _, ⟨rfl, rfl⟩, rendered, _, ⟨all, rfl⟩, pageURLs, paged, wrote, _, _, ⟨rfl, rfl⟩,
        urls, settled, processed, sitemap, mapped, written, _, _, rfl, _, _, rfl, rfl,
        rfl⟩ := checked
      exact ⟨⟨context, copied, findings, gathered, rendered, pageURLs, paged, urls, settled,
        sitemap, mapped, prepared, refreshed, walked, Bool.eq_false_iff.2 counted, all, wrote,
        processed, written⟩, rfl, rfl⟩

end Build

end StaticSite
