import StaticSite.Proofs.Build.Configuring
import StaticSite.Proofs.Build.Prevailing
import StaticSite.Proofs.Build.Rebuilding

/-!
# Line ends do not matter

Documents, pages, templates and components are read as texts with one kind of line end before
anything else is done with them, and none of them is published as it is.  So it makes no difference
how their lines end.
-/

namespace StaticSite

namespace Build

open StaticSite.Action FileTree

/-- Whether the file at a location is one that a build only reads as a text: a document or a page
among the sources, a template or a component. -/
def IsText (root : Path) (files : FileTree) (location : Location) : Prop :=
  (∃ folder name, isPublishedPage name = true ∧
      location = sourceLocation root files ++ (folder ++ [name])) ∨
    ∃ folder ∈ [Context.templatesName, Context.componentsName], ∃ name,
      location = root.resolve files.here ++ [folder, name]

/-- Two projects that are the same, but for how the lines of texts end. -/
structure Respelled (root : Path) (first second : Workspace) : Prop where
  formed : second.files.WellFormed
  same : SameDirectories first.files second.files
  kept : ∀ location, ¬ IsText root first.files location →
    second.files.content? location = first.files.content? location
  alike : ∀ location, Option.Rel Utf8.ReadAlike (first.files.content? location)
    (second.files.content? location)
  programs : second.programs = first.programs
  convert : second.convert = first.convert

/-- Two projects that are the same, but for chosen files whose line ends are widened. -/
structure Widened (chosen : Location → Prop) (first second : Workspace) : Prop where
  formed : second.files.WellFormed
  same : SameDirectories first.files second.files
  kept : ∀ location, ¬ chosen location →
    second.files.content? location = first.files.content? location
  widened : ∀ location, chosen location → ∃ content,
    first.files.content? location = some content ∧ 13 ∉ content ∧
      second.files.content? location = some (Utf8.widenLineEnds content)
  programs : second.programs = first.programs
  convert : second.convert = first.convert

/-- The components of a document or a page among the sources. -/
def IsPagePath (parts : List Text) : Prop :=
  ∃ folder name, isPublishedPage name = true ∧ parts = folder ++ [name]

variable {request : Request} {result : Result} {before other after : Workspace} {root : Path}
  {chosen : Location → Prop} {folder parts : List Text} {name : Text}

theorem isPagePath_of_isText {files : FileTree}
    (isText : IsText root files (sourceLocation root files ++ parts)) : IsPagePath parts := by
  rcases isText with ⟨folder, name, page, same⟩ | ⟨folder, listed, name, same⟩
  · exact ⟨folder, name, page, List.append_cancel_left same⟩
  · rw [sourceLocation, List.append_assoc, List.append_cancel_left_eq] at same
    rw [← (List.cons.inj same).1] at listed
    exact absurd listed (by decide)

theorem Widened.respelled (widened : Widened chosen before other)
    (texts : ∀ location, chosen location → IsText root before.files location) :
    Respelled root before other where
  __ := widened
  kept location noText := widened.kept location fun choice => noText (texts location choice)
  alike location := by
    by_cases choice : chosen location
    · obtain ⟨content, held, plain, wide⟩ := widened.widened location choice
      rw [held, wide]
      exact .some (Utf8.readAlike_widenLineEnds plain)
    · rw [widened.kept location choice]
      exact Utf8.rel_readAlike_refl _

namespace Respelled

theorem mirror (respelled : Respelled root before other) (wellFormed : before.files.WellFormed) :
    Mirror before.files (root.resolve before.files.here) (fun _ => False)
      (fun parts => IsText root before.files (root.resolve before.files.here ++ parts))
      before other :=
  ⟨wellFormed, respelled.formed, SameDirectories.refl _, respelled.same, respelled.programs,
    respelled.convert, fun _ _ noText => respelled.kept _ noText, fun _ _ => respelled.alike _,
    fun _ => False.elim, fun _ => False.elim⟩

theorem outputLocation_eq (respelled : Respelled root before other) :
    outputLocation root other.files = outputLocation root before.files := by
  rw [outputLocation, outputLocation, respelled.same.here]

theorem isSome_output (respelled : Respelled root before other)
    (wellFormed : before.files.WellFormed) :
    (other.files.node? (outputLocation root before.files)).isSome =
      (before.files.node? (outputLocation root before.files)).isSome := by
  have contents := @Mirror.isSome_eq _ _ _ _ _ _ [Context.outputName]
    (respelled.mirror wellFormed) id
  rw [Bool.eq_iff_iff, Option.isSome_iff_ne_none, Option.isSome_iff_ne_none, node?_ne_none_iff,
    node?_ne_none_iff, respelled.same.directory_iff, ← Option.isSome_iff_ne_none,
    ← Option.isSome_iff_ne_none, outputLocation, contents]

end Respelled

/-- Pages that are read alike are expanded alike. -/
theorem eq_of_expanded {context : Context} {base : Path} {origin : Location}
    {first second : FileTree} {content also : Text}
    (alike : Option.Rel Utf8.ReadAlike (first.content? (origin ++ (folder ++ [name])))
      (second.content? (origin ++ (folder ++ [name]))))
    (one : Expanded context base origin first folder name content)
    (two : Expanded context base origin second folder name also) : also = content := by
  obtain ⟨octets, modified, text, there, decoded, expanded⟩ := one
  obtain ⟨bytes, time, plain, held, reread, again⟩ := two
  obtain ⟨_, _, found, reads⟩ := exists_of_rel alike there
  rw [held] at found
  cases found
  obtain ⟨_, read, unified⟩ := reads.plain text decoded
  rw [reread] at read
  cases read
  rw [unified, expanded] at again
  exact (Except.ok.inj again).symm

namespace Stages

variable (stages : Stages request before) (wellFormed : before.files.WellFormed)

include wellFormed in
/-- No document is left when the pages are written. -/
theorem isPageName_of_paged (page : isPublishedPage name = true)
    (held : stages.paged.files.HasFile (outputLocation request.root before.files ++
      (folder ++ [name]))) : isPageName name = true := by
  rcases (stages.phases wellFormed).hasFile_paged.1 held with ⟨plain, -⟩ | ⟨-, rfl⟩ |
    ⟨stem, named, rfl, -⟩
  · rwa [isPublishedPage, plain, Bool.false_or] at page
  · exact absurd page (by decide)
  · exact isPageName_pageName named

include wellFormed in
/-- Where the name of a document or a page is left, the last page with that new name was. -/
theorem exists_renamed (page : isPublishedPage name = true)
    (file : stages.settled.files.HasFile (outputLocation request.root before.files ++
      (folder ++ [name]))) :
    ∃ last, LastPage (outputLocation request.root before.files) (· ≠ []) stages.paged.files folder
      last ∧ staticName last = name := by
  rcases ((stages.settled_output wellFormed).hasFile _).1 file with ⟨-, unvisited⟩ |
    ⟨inner, old, -, held, same⟩
  · exact absurd (by simp) unvisited
  obtain ⟨rfl, rfl⟩ := List.append_singleton_inj.1 same
  have isPage : isPageName old = true := by
    by_contra noPage
    rw [staticName_of_not_page (Bool.eq_false_iff.2 noPage)] at page
    exact noPage (stages.isPageName_of_paged wellFormed page held)
  exact exists_lastPage (stages.paged_jobs wellFormed).1.wellFormed isPage held

include wellFormed in
/-- The fresh output has the same files, but for how the lines of documents and pages end. -/
theorem exists_refresh_respelled (respelled : Respelled request.root before other) :
    ∃ copied, Runs (refresh stages.context) other () copied ∧
      Twins stages.copied.files (outputLocation request.root before.files) IsPagePath
        stages.copied copied := by
  obtain ⟨copied, again, formed, same, programs, convert, inside⟩ :=
    stages.exists_refreshed wellFormed respelled.formed respelled.same
      (respelled.isSome_output wellFormed) respelled.programs respelled.convert
  obtain ⟨-, -, copy⟩ := stages.copyOf wellFormed
  have original := fun parts => content?_congr (copy.inside parts)
  have contents := fun parts => content?_congr (inside parts)
  refine ⟨copied, again, copy.wellFormed, formed, SameDirectories.refl _, same, programs, convert,
    fun parts _ noPage => ?_, fun parts _ => ?_, fun _ => False.elim, fun _ => False.elim⟩
  · rw [contents, original]
    exact respelled.kept _ fun isText => noPage (isPagePath_of_isText isText)
  · rw [contents, original]
    exact respelled.alike _

include wellFormed in
/-- A build goes through the same stages however lines end. -/
theorem exists_respelled (respelled : Respelled request.root before other) :
    ∃ others : Stages request other, others.result = stages.result ∧
      others.context = stages.context ∧
      Twins stages.copied.files (outputLocation request.root before.files) IsPagePath
        stages.paged others.paged ∧
      Twins stages.copied.files (outputLocation request.root before.files) IsPagePath
        stages.after others.after := by
  have config := (runs_prepare stages.prepares).2.2.2
  have prepares := exists_prepare (respelled.mirror wellFormed) stages.opens_root
    (fun _ => False.elim) (fun _ => False.elim)
    ((Config.readSite_of_alike respelled.same respelled.alike config).trans config.symm)
    stages.prepares
  obtain ⟨copied, refreshes, twins⟩ := stages.exists_refresh_respelled wellFormed respelled
  obtain ⟨-, opens, -⟩ := stages.copyOf wellFormed
  obtain ⟨gathered, gathers, found⟩ := mimics_gather (fun _ => False.elim)
    (fun _ _ => False.elim) opens _ _ _ _ twins stages.gathers
  exact stages.exists_of_gathered wellFormed prepares refreshes gathers found

include wellFormed in
/-- What is left of documents and pages are texts that were written alike. -/
theorem content?_of_page (respelled : Respelled request.root before other)
    {others : Stages request other} (context : others.context = stages.context)
    (paged : Twins stages.copied.files (outputLocation request.root before.files) IsPagePath
      stages.paged others.paged)
    (ended : Twins stages.copied.files (outputLocation request.root before.files) IsPagePath
      stages.after others.after)
    (page : isPublishedPage name = true) :
    others.after.files.content? (outputLocation request.root before.files ++ (folder ++ [name])) =
      stages.after.files.content?
        (outputLocation request.root before.files ++ (folder ++ [name])) := by
  have place := respelled.outputLocation_eq
  by_cases file : stages.after.files.HasFile
      (outputLocation request.root before.files ++ (folder ++ [name]))
  · have noSitemap : folder ++ [name] ≠ [Sitemap.fileName] := by
      intro same
      rw [(List.append_singleton_inj.1 (same.trans (List.nil_append _).symm)).2] at page
      exact absurd page (by decide)
    have settled := hasFile_congr ((stages.phases wellFormed).node?_of_ne_sitemap noSitemap)
    obtain ⟨last, lasts, rfl⟩ := stages.exists_renamed wellFormed page (settled.1 file)
    obtain ⟨content, modified, expanded, written⟩ :=
      stages.exists_finished wellFormed lasts noSitemap
    obtain ⟨also, time, again, rewritten⟩ := others.exists_finished respelled.formed
      (place ▸ lasts.congr fun parts => paged.hasFile_iff id) noSitemap
    rw [place, context] at again
    rw [place] at rewritten
    obtain rfl := eq_of_expanded (paged.alike _ id) expanded again
    exact (content?_eq_some_iff.2 ⟨time, rewritten⟩).trans
      (content?_eq_some_iff.2 ⟨modified, written⟩).symm
  · have absent := content?_eq_none_iff.2 file
    rw [absent, content?_eq_none_iff, ended.hasFile_iff id]
    exact file

end Stages

/-- However the lines of documents, pages, templates and components end, a build that succeeds
gives the same. -/
theorem exists_site_respelled (wellFormed : before.files.WellFormed)
    (built : Runs (site request) before result after)
    (respelled : Respelled request.root before other) :
    ∃ last, Runs (site request) other result last ∧
      SameBelow (outputLocation request.root before.files) after.files last.files := by
  obtain ⟨stages, rfl, rfl⟩ := exists_stages built
  obtain ⟨others, same, context, paged, ended⟩ := stages.exists_respelled wellFormed respelled
  refine ⟨others.after, same ▸ others.runs, fun parts =>
    ⟨ended.sameDirectories.directory_iff _, ?_⟩⟩
  by_cases page : IsPagePath parts
  · obtain ⟨folder, name, isPage, rfl⟩ := page
    exact stages.content?_of_page wellFormed respelled context paged ended isPage
  · exact ended.shared parts id page

/-- A build that succeeds gives the same when the line ends of chosen documents, pages, templates
and components are widened. -/
theorem site_ignores_line_ends (wellFormed : before.files.WellFormed)
    (built : Runs (site request) before result after)
    (texts : ∀ location, chosen location → IsText request.root before.files location)
    (widened : Widened chosen before other) :
    ∃ last, Runs (site request) other result last ∧
      SameBelow (outputLocation request.root before.files) after.files last.files :=
  exists_site_respelled wellFormed built (widened.respelled texts)

/-- The line ends of one file are widened by writing it again. -/
theorem widened_edited {location : Location} {content : Bytes} {modified : Int}
    (wellFormed : before.files.WellFormed)
    (there : before.files.node? location = some (.file content modified)) (plain : 13 ∉ content)
    (time : Int) :
    Widened (· = location) before
      (before.edited (.write location (Utf8.widenLineEnds content) time)) := by
  have file : before.files.HasFile location := ⟨content, modified, there⟩
  have within : location ≠ [] := by
    rintro rfl
    rw [node?_nil] at there
    cases there
  have formed : (before.files.set location
      (.file (Utf8.widenLineEnds content) time)).WellFormed := by
    obtain ⟨folder, name, rfl⟩ := (List.eq_nil_or_concat location).resolve_left within
    rw [List.concat_eq_append] at file ⊢
    exact wellFormed.set (wellFormed.node?_parent file.ne_none)
      (wellFormed.isName file.ne_none (by simp)) fun taken => absurd taken file.ne_directory
  refine ⟨formed, SameDirectories.set_file within file.ne_directory _ _, fun other different => ?_,
    ?_, rfl, rfl⟩
  · rw [Workspace.edited_files, FileTree.apply, content?_set_file within, if_neg different]
  · rintro _ rfl
    refine ⟨content, content?_eq_some_iff.2 ⟨modified, there⟩, plain, ?_⟩
    rw [Workspace.edited_files, FileTree.apply, content?_set_file within, if_pos rfl]

namespace Example

/-- Where the hidden page has its source. -/
def hiddenLocation : Location := ["src".toList, indexDocument]

/-- The site whose page has wide line ends. -/
def hiddenWidened : Workspace :=
  hiddenBefore.edited
    (.write hiddenLocation (Utf8.widenLineEnds (Utf8.encode hiddenDocument)) 1)

theorem site_ignores_line_ends_hidden :
    hiddenBefore.files.WellFormed ∧
      Runs (site Example.request) hiddenBefore hiddenStages.result hiddenStages.after ∧
      (∀ location, location = hiddenLocation →
        IsText Example.request.root hiddenBefore.files location) ∧
      Widened (· = hiddenLocation) hiddenBefore hiddenWidened ∧
      ∃ last, Runs (site Example.request) hiddenWidened hiddenStages.result last ∧
        SameBelow (outputLocation Example.request.root hiddenBefore.files)
          hiddenStages.after.files last.files := by
  have texts : ∀ location, location = hiddenLocation →
      IsText Example.request.root hiddenBefore.files location := by
    rintro _ rfl
    exact Or.inl ⟨[], indexDocument, by decide, by decide⟩
  have widened : Widened (· = hiddenLocation) hiddenBefore hiddenWidened :=
    widened_edited wellFormed_hiddenBefore
      (show hiddenBefore.files.node? hiddenLocation =
        some (.file (Utf8.encode hiddenDocument) 0) by decide) (by decide) 1
  exact ⟨wellFormed_hiddenBefore, hiddenStages.runs, texts, widened,
    site_ignores_line_ends wellFormed_hiddenBefore hiddenStages.runs texts widened⟩

end Example

end Build

end StaticSite
