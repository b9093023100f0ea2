import StaticSite.Proofs.Build.Rebuilding
import StaticSite.Proofs.Server.Thinning

/-!
# Requests during a build

A build begins with the removal of the output.  Until then requests are answered as before, as far
as their files are still there; and when it is gone nothing is found, although much of it may be
found again when the build has ended.
-/

namespace StaticSite

open StaticSite.Action FileTree Server

namespace Workspace

variable {before middle after : Workspace} {location : Location} {files : FileTree}

/-- The trees on the way from one workspace to another: those between the changes in the journal. -/
def Passes (before after : Workspace) (files : FileTree) : Prop :=
  ∃ done rest : List Edit, after.journal = (done ++ rest).reverse ++ before.journal ∧
    files = done.foldl FileTree.apply before.files

theorem journal_editedAll (workspace : Workspace) (edits : List Edit) :
    (workspace.editedAll edits).journal = edits.reverse ++ workspace.journal := by
  induction edits generalizing workspace with
  | nil => rfl
  | cons edit edits ih =>
      rw [editedAll, List.foldl_cons]
      refine (ih (workspace.edited edit)).trans ?_
      simp [edited]

theorem EditsBelow.journal (changes : EditsBelow location before after) :
    ∃ edits : List Edit, after.journal = edits.reverse ++ before.journal := by
  obtain ⟨edits, -, whole⟩ := changes
  exact ⟨edits, (congrArg Workspace.journal whole).trans (before.journal_editedAll edits)⟩

/-- What is passed on the way to a workspace is passed on the way on from there. -/
theorem Passes.trans (passed : before.Passes middle files)
    (changes : EditsBelow location middle after) : before.Passes after files := by
  obtain ⟨done, rest, written, same⟩ := passed
  obtain ⟨edits, further⟩ := changes.journal
  refine ⟨done, rest ++ edits, ?_, same⟩
  rw [further, written]
  simp

theorem passes_editedAll (before : Workspace) (edits : List Edit) :
    before.Passes (before.editedAll edits) (before.editedAll edits).files :=
  ⟨edits, [], by rw [journal_editedAll, List.append_nil], editedAll_files before edits⟩

end Workspace

namespace Build

variable {request : Request} {result : Result} {before after : Workspace} {context : Context}

/-- Cleaning the output makes no changes but removals. -/
theorem removals_of_cleanOutput {value : Unit}
    (ran : Runs (cleanOutput context.outputDirectory context.root) before value after) :
    ∃ edits : List Edit, (∀ edit ∈ edits, ∃ location, location ≠ [] ∧ edit = .remove location) ∧
      after = before.editedAll edits := by
  rcases runs_cleanOutput_iff.1 ran with ⟨-, rfl⟩ | ⟨-, cleanable, removed⟩
  · exact ⟨[], by simp, rfl⟩
  · obtain ⟨location, required, -, -, -, rfl⟩ := runs_removeTree_iff.1 removed
    have within : location ≠ [] := by
      rw [eq_resolve_of_require required]
      exact cleanable.within
    refine ⟨removalsBelow before.files location ++ [.remove location], ?_, ?_⟩
    · intro edit member
      rcases List.mem_append.1 member with inside | last
      · obtain ⟨entry, -, rfl⟩ := List.mem_map.1 inside
        exact ⟨_, by simp [within], rfl⟩
      · exact ⟨location, within, List.mem_singleton.1 last⟩
    · rw [Workspace.editedAll, Workspace.editedAll, List.foldl_append]
      rfl

theorem nothing_of_copySource {value : Unit}
    (ran : Runs (copySource context.sourceDirectory context.outputDirectory) before value after) :
    before.files.probe context.outputDirectory = .ok none := by
  obtain ⟨asked, copied⟩ := runs_copySource_iff.1 ran
  obtain ⟨-, target, -, led, missing, -⟩ := (runs_copyTree_iff (exists?_root asked)).1 copied
  rw [probe_of_require led, missing]

/-- Every build that succeeds passes a tree without an output. -/
theorem exists_cleared (wellFormed : before.files.WellFormed)
    (built : Runs (site request) before result after) :
    ∃ edits : List Edit, (∀ edit ∈ edits, ∃ location, location ≠ [] ∧ edit = .remove location) ∧
      (before.editedAll edits).EditsBelow (outputLocation request.root before.files) after ∧
      (before.editedAll edits).files.probe (request.root.child Context.outputName) = .ok none := by
  unfold site at built
  obtain ⟨context, _, prepared, begun⟩ := runs_bind.1 built
  obtain ⟨rfl, root, -⟩ := runs_prepare prepared
  obtain ⟨_, copied, refreshed, published⟩ := runs_bind.1 begun
  obtain ⟨asked, middle, cleaned, copies⟩ := runs_refresh_iff.1 refreshed
  have rooted := (opens_of_sourceDirectory asked).1
  have cleared := runs_cleanOutput wellFormed rooted cleaned
  obtain ⟨copy, opens⟩ := runs_copySource cleared.wellFormed copies
  have copying := editsBelow_copySource context middle
  have publishing : copied.EditsBelow (outputLocation context.root middle.files)
      ((publish context request.workers).perform copied).2 :=
    editsBelow_publish copy.wellFormed opens
  unfold Runs at copies published
  rw [copies] at copying
  rw [published] at publishing
  have nothing := nothing_of_copySource copies
  obtain ⟨edits, removals, rfl⟩ := removals_of_cleanOutput cleaned
  have whole := copying.trans publishing
  rw [outputLocation, cleared.here, root] at whole
  rw [Context.outputDirectory, root] at nothing
  exact ⟨edits, removals, whole, nothing⟩

/-- The sitemap is found after every build that succeeds. -/
theorem respond_sitemap (wellFormed : before.files.WellFormed)
    (built : Runs (site request) before result after) :
    respond after.files (request.root.child Context.outputName) "GET" "/sitemap.xml" =
      .ok ⟨.ok, "text/xml; charset=utf-8", Utf8.encode (Sitemap.text result.sitemapURLs)⟩ := by
  obtain ⟨stages, rfl, rfl⟩ := exists_stages built
  have opens := (stages.settled_output wellFormed).same.opens (stages.opens_paged wellFormed)
  have maps := stages.maps
  unfold writeSitemap at maps
  obtain ⟨_, middle, wrote, ended⟩ := runs_bind.1 maps
  obtain ⟨-, mapped⟩ := runs_pure.1 ended
  obtain ⟨led, free, written⟩ := runs_writeText_child opens (by decide) wrote
  have files : stages.after.files = stages.settled.files.set
      (outputLocation request.root before.files ++ [Sitemap.fileName])
      (.file (Utf8.encode (Sitemap.text stages.urls)) stages.settled.clock) := by
    rw [Stages.after_files, ← mapped, written]
    rfl
  have output : stages.context.outputDirectory = request.root.child Context.outputName := by
    rw [Context.outputDirectory, stages.root_eq]
  rw [output] at led
  have required : stages.after.files.require
      ((request.root.child Context.outputName).child Sitemap.fileName) =
        .ok (outputLocation request.root before.files ++ [Sitemap.fileName]) := by
    rw [files]
    exact (SameDirectories.set_file (by simp) free _ _).require led
  have there : stages.after.files.node?
      (outputLocation request.root before.files ++ [Sitemap.fileName]) =
      some (.file (Utf8.encode (Sitemap.text stages.urls)) stages.settled.clock) := by
    rw [files, node?_set (by simp), if_pos rfl]
  have typed : contentType stages.after.files
      ((request.root.child Context.outputName).child Sitemap.fileName) =
        .ok "text/xml; charset=utf-8" := by
    rw [contentType, Path.suffix, Path.name_child, if_neg (by decide)]
    rfl
  have requested : requestedPath "/sitemap.xml" = .ok "/sitemap.xml" := by cbv
  exact respond_of_child requested (by decide) rfl required there typed

theorem wellFormed_of_site (wellFormed : before.files.WellFormed)
    (built : Runs (site request) before result after) : after.files.WellFormed := by
  obtain ⟨stages, rfl, rfl⟩ := exists_stages built
  have settled := stages.settled_output wellFormed
  have opens := settled.same.opens (stages.opens_paged wellFormed)
  obtain ⟨free, modified, mapped⟩ := stages.exists_sitemap wellFormed
  rw [mapped]
  exact settled.wellFormed.set opens.2 (by decide) fun taken => absurd taken free

/-- Between two workspaces every request is answered as in the one or as in the other. -/
def Uninterrupted (output : Path) (before after : Workspace) : Prop :=
  ∀ files, before.Passes after files → ∀ target,
    respond files output "GET" target = respond before.files output "GET" target ∨
      respond files output "GET" target = respond after.files output "GET" target

/-- A build interrupts whatever is found before and after it. -/
theorem not_uninterrupted_of_found (wellFormed : before.files.WellFormed)
    (built : Runs (site request) before result after) {target : Text} {old new : Response}
    (one : respond before.files (request.root.child Context.outputName) "GET" target = .ok old)
    (two : respond after.files (request.root.child Context.outputName) "GET" target = .ok new)
    (found : old.status = .ok ∧ new.status = .ok) :
    ¬ Uninterrupted (request.root.child Context.outputName) before after := by
  obtain ⟨edits, -, changes, nothing⟩ := exists_cleared wellFormed built
  intro law
  have answered := law _ ((before.passes_editedAll edits).trans changes) target
  rw [one, two] at answered
  exact (respond_of_nothing_between nothing one two).1 answered found

/-- Until the output is gone a build takes away answers and changes none.  Then exactly those
requests are interrupted whose files are found before and after the build; and as the sitemap is
always one of these, no site can be built again without an interruption. -/
theorem site_interrupts_requests (wellFormed : before.files.WellFormed)
    (built : Runs (site request) before result after) :
    let output := request.root.child Context.outputName
    (∃ cleared : Workspace, before.Passes after cleared.files ∧
      (∀ files, before.Passes cleared files → before.Passes after files ∧ ∀ target,
        respond files output "GET" target = .ok (.notice .notFound) ∨
          respond files output "GET" target = respond before.files output "GET" target) ∧
      ∀ target old new, respond before.files output "GET" target = .ok old →
        respond after.files output "GET" target = .ok new →
        ((respond cleared.files output "GET" target = .ok old ∨
          respond cleared.files output "GET" target = .ok new) ↔
            ¬ (old.status = .ok ∧ new.status = .ok))) ∧
    ∀ (again : Request) outcome last, again.root = request.root →
      Runs (site again) after outcome last → ¬ Uninterrupted output after last := by
  refine ⟨?_, ?_⟩
  · obtain ⟨edits, removals, changes, nothing⟩ := exists_cleared wellFormed built
    refine ⟨_, (before.passes_editedAll edits).trans changes, ?_, ?_⟩
    · intro files passed
      refine ⟨passed.trans changes, fun target => ?_⟩
      obtain ⟨done, rest, written, rfl⟩ := passed
      -- The journal of the removals tells which of them have been made.
      rw [Workspace.journal_editedAll, List.append_left_inj, List.reverse_inj] at written
      have thinned := (thinned_refl before.files).removals fun edit member =>
        removals edit (written ▸ List.mem_append_left rest member)
      exact respond_of_thinned thinned _ _ target
    · intro target old new one two
      exact respond_of_nothing_between nothing one two
  · intro again outcome last root rebuilt
    have formed := wellFormed_of_site wellFormed built
    have one := respond_sitemap wellFormed built
    have two := respond_sitemap formed rebuilt
    rw [← root] at one ⊢
    exact not_uninterrupted_of_found formed rebuilt one two ⟨rfl, rfl⟩

end Build

namespace Build.Example

/-- A site that has been built is like its project. -/
theorem alike_built : AlikeOutside (outputLocation request.root before.files) before after := by
  have changes : before.EditsBelow (outputLocation request.root before.files)
      ((site request).perform before).2 := editsBelow_site wellFormed_before
  have performed : (site request).perform before = (.ok ⟨["/".toList], [], 0⟩, after) := runs_site
  rw [performed] at changes
  exact ⟨wellFormed_before, wellFormed_of_site wellFormed_before runs_site,
    ⟨changes.here, fun other outside => changes.node?_eq (by simp [outputLocation]) outside⟩,
    changes.programs.1, changes.programs.2⟩

theorem require_public {tree : FileTree} (here : tree.here = []) :
    tree.require (request.root.child Context.outputName) = .ok ["public".toList] := by
  refine require_eq_ok_iff.2 ⟨by decide, locate_eq_ok_iff.2 ⟨by decide, ?_⟩⟩
  show tree.follow tree.here ["public".toList] = .ok ["public".toList]
  rw [here, follow_name (node?_nil tree) (by decide)]
  rfl

/-- The site is built again and answers as before. -/
theorem exists_built_again : ∃ last, Runs (site request) after ⟨["/".toList], [], 0⟩ last ∧
    ∀ target, respond last.files (request.root.child Context.outputName) "GET" target =
      respond after.files (request.root.child Context.outputName) "GET" target := by
  have directory : after.files.node? (outputLocation request.root before.files) =
      some .directory := by decide
  obtain ⟨last, again, -, -, same⟩ :=
    exists_site_alike alike_built (Or.inr directory) (fun _ => avoids_config) runs_site
  have changes : after.EditsBelow (outputLocation request.root after.files)
      ((site request).perform after).2 := editsBelow_site alike_built.secondFormed
  have performed : (site request).perform after = (.ok ⟨["/".toList], [], 0⟩, last) := again
  rw [performed] at changes
  refine ⟨last, again, fun target => respond_eq_of_shareAt (Or.inr ⟨["public".toList],
    ["public".toList], require_public rfl, require_public changes.here, ?_, ?_⟩)⟩
  · exact fun parts => (same parts).1
  · exact fun parts => (same parts).2

theorem site_interrupts_index :
    before.files.WellFormed ∧ Runs (site request) before ⟨["/".toList], [], 0⟩ after ∧
      ∃ last, Runs (site request) after ⟨["/".toList], [], 0⟩ last ∧
        ¬ Uninterrupted (request.root.child Context.outputName) after last := by
  obtain ⟨last, again, -⟩ := exists_built_again
  exact ⟨wellFormed_before, runs_site, last, again,
    (site_interrupts_requests wellFormed_before runs_site).2 request _ last rfl again⟩

/-- The page is the same before and after the site is built again, and in between it is not
found. -/
theorem not_uninterrupted_index :
    let output := request.root.child Context.outputName
    let page : Response := ⟨.ok, "text/html; charset=utf-8", [66]⟩
    after.files.WellFormed ∧ respond after.files output "GET" "/" = .ok page ∧
      ∃ last, Runs (site request) after ⟨["/".toList], [], 0⟩ last ∧
        respond last.files output "GET" "/" = .ok page ∧
        (∃ files, after.Passes last files ∧
          respond files output "GET" "/" = .ok (.notice .notFound)) ∧
        ¬ Uninterrupted output after last := by
  have formed := alike_built.secondFormed
  have before : respond after.files (request.root.child Context.outputName) "GET" "/" =
      .ok ⟨.ok, "text/html; charset=utf-8", [66]⟩ := by
    have requested : requestedPath "/" = .ok "/" := by cbv
    have required : after.files.require
        ((request.root.child Context.outputName).child Server.indexName) =
          .ok ["public".toList, Server.indexName] := by decide
    have there : after.files.node? ["public".toList, Server.indexName] =
        some (.file [66] 0) := by rfl
    exact respond_of_child requested (by decide) rfl required there rfl
  obtain ⟨last, again, same⟩ := exists_built_again
  have afterwards := (same "/").trans before
  obtain ⟨edits, -, changes, nothing⟩ := exists_cleared formed again
  have passed := (after.passes_editedAll edits).trans changes
  refine ⟨formed, before, last, again, afterwards, ⟨_, passed, ?_⟩,
    not_uninterrupted_of_found formed again before afterwards ⟨rfl, rfl⟩⟩
  rcases respond_of_nothing nothing "GET" "/" with gone | ⟨known, noFile⟩
  · exact gone
  · exact absurd rfl (noFile _ ((known after.files).symm.trans before))

end Build.Example

end StaticSite
