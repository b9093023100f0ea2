import StaticSite.Proofs.Build.Publishing
import StaticSite.Proofs.Server.Serving

/-!
# The pages of a sitemap

Every address that a sitemap lists is that of a page of the finished site, and the server
answers a request for the address with that page.
-/

namespace StaticSite

namespace Build

open StaticSite.Action FileTree Page

variable {request : Request} {result : Result} {source output : Location}
  {before after : FileTree} {folder : List Text} {stem url : Text}

/-- The last part of the address of a page. -/
def addressName (stem : Text) : Text := if stem = "index".toList then [] else stem

theorem indexName_eq_pageName : Page.indexName = pageName "index".toList := rfl

theorem staticName_eq_addressName (named : stem ≠ []) :
    staticName (pageName stem) =
      if addressName stem = [] then Page.indexName else addressName stem := by
  unfold staticName addressName
  rw [isPageName_pageName named, splitName_pageName named, indexName_eq_pageName]
  by_cases index : stem = "index".toList
  · subst index
    decide
  · have other : pageName stem ≠ pageName "index".toList :=
      fun same => index (pageName_eq_indexName.1 same)
    rw [if_pos ⟨rfl, other⟩, if_neg index, if_neg named]

namespace Phases

/-- An address of the sitemap is that of a page that was written. -/
theorem exists_page_of_listed (phases : Phases request result source output before after)
    (listed : url ∈ result.sitemapURLs) :
    ∃ folder stem, stem ≠ [] ∧ phases.paged.HasFile (output ++ (folder ++ [pageName stem])) ∧
      Page.canonicalURL phases.context.config.baseURL
        (phases.context.outputDirectory.extend (folder ++ [pageName stem]))
        phases.context.outputDirectory = .ok url := by
  rcases phases.settle.listed url listed with early | ⟨folder, -, file, canonical⟩
  · obtain ⟨job, member, canonical⟩ := phases.listed url early
    obtain ⟨folder, stem, -, isJob⟩ := phases.walk.sound job member
    rw [isJob.output] at canonical
    exact ⟨folder, stem, isJob.named,
      (phases.pages.hasFile _).2 (Or.inr ⟨job, member, isJob.output⟩), canonical⟩
  · exact ⟨folder, "index".toList, by decide, file, canonical⟩

/-- A page that was written is published under its address. -/
theorem hasFile_of_page (phases : Phases request result source output before after)
    (named : stem ≠ []) (file : phases.paged.HasFile (output ++ (folder ++ [pageName stem]))) :
    IsAddress folder (addressName stem) ∧
      after.HasFile (output ++ addressedFile (addressText folder (addressName stem))) ∧
      after.require (phases.context.outputDirectory.extend
          (addressedFile (addressText folder (addressName stem)))) =
        .ok (output ++ addressedFile (addressText folder (addressName stem))) := by
  have published : phases.settled.HasFile
      (output ++ (folder ++ [staticName (pageName stem)])) :=
    (phases.settle.hasFile _).2 (Or.inr ⟨folder, pageName stem, by simp, file, rfl⟩)
  have areNames : ∀ name ∈ output ++ (folder ++ [staticName (pageName stem)]), IsName name :=
    fun name member => phases.settle.wellFormed.isName published.ne_none member
  have isAddress : IsAddress folder (addressName stem) := by
    refine ⟨fun name member => areNames name (by simp [member]), ?_⟩
    have isName := areNames (staticName (pageName stem)) (by simp)
    rw [staticName_eq_addressName named] at isName
    by_cases index : addressName stem = []
    · exact Or.inl index
    · rw [if_neg index] at isName
      exact Or.inr isName
  rw [isAddress.addressedFile, ← staticName_eq_addressName named]
  exact ⟨isAddress, phases.hasFile_after.2 (Or.inr published),
    phases.sameDirectories_after.require
      (phases.settle.reachable folder (pageName stem) (by simp) file)⟩

end Phases

/-- The server answers a request for an address of the sitemap with the page that has it. -/
theorem site_serves_listed {request : Request} {result : Result} {before after : Workspace}
    (wellFormed : before.files.WellFormed) (built : Runs (site request) before result after) :
    ∃ config output,
      Config.readSite before.files request.root request.configName = .ok config ∧
      after.files.Opens (request.root.child Context.outputName) output ∧
      (∀ url ∈ result.sitemapURLs, config.baseURL <+: url) ∧
      ∀ address, config.baseURL ++ address ∈ result.sitemapURLs →
        Server.Serves after.files (request.root.child Context.outputName) output address := by
  obtain ⟨phases⟩ := exists_phases wellFormed built
  have addressed : ∀ url ∈ result.sitemapURLs, ∃ folder stem, stem ≠ [] ∧
      phases.paged.HasFile (outputLocation request.root before.files ++
        (folder ++ [pageName stem])) ∧
      url = phases.context.config.baseURL ++ addressText folder (addressName stem) := by
    intro url listed
    obtain ⟨folder, stem, named, file, canonical⟩ := phases.exists_page_of_listed listed
    have isName : IsName (stem ++ ".html".toList) :=
      phases.pages.wellFormed.isName file.ne_none (by simp [pageName])
    have path : Page.canonicalPath
        (phases.context.outputDirectory.extend (folder ++ [pageName stem]))
        phases.context.outputDirectory = .ok (addressText folder (addressName stem)) :=
      canonicalPath_extend isName
    rw [Page.canonicalURL, path] at canonical
    cases canonical
    exact ⟨folder, stem, named, file, rfl⟩
  refine ⟨phases.context.config, _, phases.config, phases.outputDirectory_eq ▸ phases.opens_after,
    ?_, ?_⟩
  · intro url listed
    obtain ⟨folder, stem, -, -, rfl⟩ := addressed url listed
    exact List.prefix_append _ _
  · intro address listed
    obtain ⟨folder, stem, named, file, same⟩ := addressed _ listed
    obtain rfl := List.append_cancel_left same
    obtain ⟨isAddress, published, required⟩ := phases.hasFile_of_page named file
    rw [phases.outputDirectory_eq] at required
    exact Server.serves_address isAddress required published

/-- The index page of the small site is listed and served. -/
theorem Example.site_serves_listed_index :
    Example.before.files.WellFormed ∧
      Runs (site Example.request) Example.before ⟨["/".toList], [], 0⟩ Example.after ∧
      ∃ config output,
        Config.readSite Example.before.files Example.request.root Example.request.configName =
          .ok config ∧
        Example.after.files.Opens (Example.request.root.child Context.outputName) output ∧
        (∀ url ∈ ["/".toList], config.baseURL <+: url) ∧
        ∀ address, config.baseURL ++ address ∈ ["/".toList] →
          Server.Serves Example.after.files (Example.request.root.child Context.outputName) output
            address :=
  ⟨Example.wellFormed_before, Example.runs_site,
    site_serves_listed Example.wellFormed_before Example.runs_site⟩

end Build

end StaticSite
