import StaticSite.Proofs.Build.Phases

/-!
# What the written pages say

When the pages of all jobs are written, each of them is there as it was rendered: no two jobs
have one document, because the first of them would have removed it.
-/

namespace StaticSite

namespace Build

open StaticSite.Action FileTree

/-- What the pages of rendered jobs say, and which addresses they have brought. -/
structure Written (context : Context) (base : Path) (origin : Location)
    (rendered : List (Job × Text)) (before after : FileTree) (urls result : List Text) : Prop where
  sources : ∀ entry ∈ rendered, ∀ parts, entry.1.source = base.extend parts →
    before.HasFile (origin ++ parts)
  pages : ∀ entry ∈ rendered, ∃ document url,
    Page.render entry.1 entry.2 context = .ok (document, url) ∧
      ∀ parts, entry.1.output = base.extend parts →
        ∃ modified, after.node? (origin ++ parts) = some (.file (Utf8.encode document) modified)
  listed_iff : ∀ url, url ∈ result ↔ url ∈ urls ∨ url ≠ [] ∧ ∃ entry ∈ rendered, ∃ document,
    Page.render entry.1 entry.2 context = .ok (document, url)

variable {buildDrafts : Bool} {context : Context} {base : Path} {origin : Location}
  {before after : Workspace} {tree middle last : FileTree} {folder : List Text} {stem : Text}
  {job : Job} {html : Text} {urls found result : List Text} {rendered : List (Job × Text)}

/-- The page of one job is there as it was rendered. -/
theorem written_singleton {url : Text} (isJob : JobOf buildDrafts base origin tree folder stem job)
    (isName : IsName (documentName stem))
    (opens : before.files.Opens (base.extend folder) (origin ++ folder))
    (ran : Runs (writePage context job html) before url after) :
    Written context base origin [(job, html)] before.files after.files urls
      (Sitemap.add urls url) := by
  unfold writePage at ran
  simp only [runs_bind, runs_ofExcept] at ran
  obtain ⟨⟨document, address⟩, _, ⟨rendered, rfl⟩, _, between, wrote, _, _, removed, ended⟩ := ran
  obtain ⟨rfl, rfl⟩ := runs_pure.1 ended
  rw [isJob.output, ← Path.child_extend] at wrote
  obtain ⟨-, free, rfl⟩ := runs_writeText_child opens (isName_pageName isName) wrote
  rw [isJob.source, ← Path.child_extend] at removed
  have same := SameDirectories.set_file (by simp) free (Utf8.encode document) before.clock
  obtain ⟨held, rfl⟩ := runs_removeFile_child (same.opens opens) isName removed
  have other : origin ++ folder ++ [pageName stem] ≠ origin ++ folder ++ [documentName stem] := by
    intro same
    exact pageName_ne_documentName stem stem (List.append_singleton_inj.1 same).2
  have here : before.files.HasFile (origin ++ folder ++ [documentName stem]) :=
    ((hasFile_set (by simp)).1 held).resolve_left other.symm
  refine ⟨?_, ?_, ?_⟩
  · intro entry member parts source
    obtain rfl := List.mem_singleton.1 member
    obtain rfl := Path.extend_injective (isJob.source.symm.trans source)
    rwa [← List.append_assoc]
  · intro entry member
    obtain rfl := List.mem_singleton.1 member
    refine ⟨document, url, rendered, fun parts output => ⟨before.clock, ?_⟩⟩
    obtain rfl := Path.extend_injective (isJob.output.symm.trans output)
    rw [Workspace.edited_files, Workspace.edited_files, FileTree.apply, FileTree.apply,
      ← List.append_assoc, node?_erase (by simp), if_neg other, node?_set (by simp), if_pos rfl]
  · intro other
    rw [Sitemap.mem_add]
    simp only [List.mem_singleton, exists_eq_left, rendered, Except.ok.injEq, Prod.mk.injEq]
    refine or_congr_right ⟨?_, ?_⟩
    · rintro ⟨rfl, nonempty⟩
      exact ⟨nonempty, document, rfl, rfl⟩
    · rintro ⟨nonempty, -, -, rfl⟩
      exact ⟨rfl, nonempty⟩

/-- Pages that are written one after the other all stay. -/
theorem Written.cons {entry : Job × Text}
    (areJobs : ∀ other ∈ entry :: rendered, ∃ folder stem,
      JobOf buildDrafts base origin tree folder stem other.1)
    (paged : Paged base origin [entry.1] before.files middle)
    (others : Paged base origin (rendered.map Prod.fst) middle last)
    (one : Written context base origin [entry] before.files middle urls found)
    (rest : Written context base origin rendered middle last found result) :
    Written context base origin (entry :: rendered) before.files last urls result := by
  obtain ⟨folder, stem, isJob⟩ := areJobs _ List.mem_cons_self
  refine ⟨?_, ?_, ?_⟩
  · intro other member parts source
    rcases List.mem_cons.1 member with rfl | later
    · exact one.sources other (List.mem_singleton_self other) parts source
    · rcases (paged.hasFile parts).1 (rest.sources other later parts source) with
        ⟨old, -⟩ | ⟨job, single, output⟩
      · exact old
      · obtain rfl := List.mem_singleton.1 single
        obtain ⟨inner, name, isOther⟩ := areJobs other member
        rw [← source, isJob.output, isOther.source] at output
        exact absurd (Path.extend_concat_inj.1 output).2 (pageName_ne_documentName _ _)
  · intro other member
    rcases List.mem_cons.1 member with rfl | later
    · obtain ⟨document, url, rendering, written⟩ := one.pages other (List.mem_singleton_self other)
      refine ⟨document, url, rendering, fun parts output => ?_⟩
      rw [others.kept parts]
      · exact written parts output
      · intro job among
        obtain ⟨second, later, rfl⟩ := List.mem_map.1 among
        obtain ⟨inner, name, isOther⟩ := areJobs second (List.mem_cons_of_mem _ later)
        rw [← output, isJob.output, isOther.source, isOther.output]
        refine ⟨fun same => ?_, fun same => ?_⟩
        · exact pageName_ne_documentName _ _ (Path.extend_concat_inj.1 same).2.symm
        · -- A second job of the document would have found it removed.
          obtain ⟨rfl, names⟩ := Path.extend_concat_inj.1 same
          obtain rfl : name = stem := List.append_cancel_right names
          rcases (paged.hasFile _).1 (rest.sources second later _ isOther.source) with
            ⟨-, unread⟩ | ⟨first, single, page⟩
          · exact unread _ (List.mem_singleton_self _) isJob.source
          · rw [List.mem_singleton.1 single, isJob.output] at page
            exact pageName_ne_documentName _ _ (Path.extend_concat_inj.1 page).2
    · exact rest.pages other later
  · intro url
    rw [rest.listed_iff, one.listed_iff]
    simp only [List.exists_mem_cons_iff, List.not_mem_nil, false_and, exists_false, or_false,
      and_or_left, or_assoc]

theorem written_writePages (known : tree.WellFormed) (wellFormed : before.files.WellFormed)
    (same : SameDirectories tree before.files)
    (areJobs : ∀ entry ∈ rendered, ∃ folder stem,
      JobOf buildDrafts base origin tree folder stem entry.1)
    (ran : Runs (writePages context rendered urls) before result after) :
    Written context base origin rendered before.files after.files urls result := by
  induction rendered generalizing before urls with
  | nil =>
      rw [writePages] at ran
      obtain ⟨rfl, rfl⟩ := runs_pure.1 ran
      exact ⟨by simp, by simp, by simp⟩
  | cons entry rest ih =>
      obtain ⟨job, html⟩ := entry
      rw [writePages] at ran
      obtain ⟨address, middle, first, second⟩ := runs_bind.1 ran
      obtain ⟨folder, stem, isJob⟩ := areJobs _ List.mem_cons_self
      have later := fun other member => areJobs other (List.mem_cons_of_mem _ member)
      have opens := same.opens isJob.opens
      have isName := isJob.isName known
      have one := runs_writePage wellFormed opens isName isJob.source isJob.output first
      have two := runs_writePages known one.wellFormed (same.trans one.same) later second
      have written := ih one.wellFormed (same.trans one.same) later second
      exact Written.cons areJobs one two (written_singleton isJob isName opens first) written

end Build

end StaticSite
