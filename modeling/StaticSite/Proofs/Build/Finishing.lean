import StaticSite.Proofs.Build.Indexing

/-!
# What processed pages say

A page is left under its new name with its components expanded.  Where several pages of a folder
get one name, the last of them in the order of the names stays, and the others are gone.
-/

namespace StaticSite

namespace Build

open StaticSite.Action FileTree

/-- What the page with a name in a folder says when its components are expanded. -/
def Expanded (context : Context) (base : Path) (origin : Location) (tree : FileTree)
    (folder : List Text) (name content : Text) : Prop :=
  ∃ octets modified text,
    tree.node? (origin ++ (folder ++ [name])) = some (.file octets modified) ∧
      Utf8.decode octets = .ok text ∧
      Component.expandAll (Text.unifyLineEnds text) context.components
        (some (base.extend (folder ++ [name])).text) = .ok content

/-- The last of the visited pages in a folder that get one name. -/
structure LastPage (origin : Location) (visited : List Text → Prop) (tree : FileTree)
    (folder : List Text) (name : Text) : Prop where
  visits : visited (folder ++ [name])
  file : tree.HasFile (origin ++ (folder ++ [name]))
  page : isPageName name = true
  last : ∀ other, visited (folder ++ [other]) → tree.HasFile (origin ++ (folder ++ [other])) →
    isPageName other = true → staticName other = staticName name →
    Text.lessEqual other name = true

/-- The last page with every new name is left under that name. -/
def Finished (context : Context) (base : Path) (origin : Location) (visited : List Text → Prop)
    (before after : FileTree) : Prop :=
  ∀ folder name, LastPage origin visited before folder name →
    ∃ content modified, Expanded context base origin before folder name content ∧
      after.node? (origin ++ (folder ++ [staticName name])) =
        some (.file (Utf8.encode content) modified)

variable {context : Context} {base : Path} {origin : Location} {before after : Workspace}
  {tree middle last : FileTree} {visited others : List Text → Prop} {folder : List Text}
  {name url : Text} {urls found result : List Text}

/-- Among the pages of a folder that get one name there is a last one. -/
theorem exists_lastPage (wellFormed : tree.WellFormed) (page : isPageName name = true)
    (file : tree.HasFile (origin ++ (folder ++ [name]))) :
    ∃ last, LastPage origin (· ≠ []) tree folder last ∧ staticName last = staticName name := by
  have listed : ∀ other, tree.HasFile (origin ++ (folder ++ [other])) →
      other ∈ tree.names (origin ++ folder) := by
    intro other held
    rw [wellFormed.mem_names, List.append_assoc]
    exact held.ne_none
  obtain ⟨last, ⟨held, isPage, renamed⟩, greatest⟩ := @exists_greatest _
    (fun other => tree.HasFile (origin ++ (folder ++ [other])) ∧ isPageName other = true ∧
      staticName other = staticName name)
    (fun first second => Text.lessEqual first second = true)
    (fun first second _ _ => Bool.or_eq_true_iff.1 (Text.lessEqual_total first second))
    Text.lessEqual_trans _ ⟨name, listed name file, file, page, rfl⟩
  refine ⟨last, ⟨by simp, held, isPage, fun other _ there also same => ?_⟩, renamed⟩
  exact greatest other (listed other there) ⟨there, also, same.trans renamed⟩

/-- The last pages are the same where the files are. -/
theorem LastPage.congr (lasts : LastPage origin visited tree folder name)
    (same : ∀ parts, middle.HasFile (origin ++ parts) ↔ tree.HasFile (origin ++ parts)) :
    LastPage origin visited middle folder name :=
  ⟨lasts.visits, (same _).2 lasts.file, lasts.page,
    fun other inside held => lasts.last other inside ((same _).1 held)⟩

/-- Of two parts that are processed one after the other, a later page replaces an earlier one. -/
theorem Finished.trans (settled : Settled context base origin visited tree middle urls found)
    (ended : Settled context base origin others middle last found result)
    (one : Finished context base origin visited tree middle)
    (two : Finished context base origin others middle last)
    (apart : ∀ parts, visited parts → ¬ others parts)
    (aside : ∀ folder name, visited (folder ++ [name]) →
      tree.HasFile (origin ++ (folder ++ [name])) → ¬ others (folder ++ [staticName name]))
    (ordered : ∀ first second, visited first → others second → WalksBefore first second) :
    Finished context base origin (fun parts => visited parts ∨ others parts) tree last := by
  have still : ∀ parts, others parts →
      middle.node? (origin ++ parts) = tree.node? (origin ++ parts) :=
    fun parts second => settled.node?_eq apart aside second
  rintro folder name ⟨first | second, file, page, greatest⟩
  · obtain ⟨content, modified, expanded, written⟩ := one folder name
      ⟨first, file, page, fun other inside => greatest other (Or.inl inside)⟩
    refine ⟨content, modified, expanded, (ended.kept _ ?_).trans written⟩
    intro inner other second held isPage
    refine ⟨fun same => aside folder name first file (same ▸ second), fun same => ?_⟩
    -- A later page with the new name would have a name that is not later.
    obtain ⟨rfl, news⟩ := List.append_singleton_inj.1 same
    have before := greatest other (Or.inr second) ((hasFile_congr (still _ second)).1 held) isPage
      news.symm
    obtain rfl := Text.lessEqual_antisymm before
      (lessEqual_of_walksBefore (ordered _ _ first second))
    exact apart _ first second
  · have lasts : LastPage origin others middle folder name := by
      refine ⟨second, (hasFile_congr (still _ second)).2 file, page, ?_⟩
      intro other inside held
      exact greatest other (Or.inr inside) ((hasFile_congr (still _ inside)).1 held)
    obtain ⟨content, modified, expanded, written⟩ := two folder name lasts
    refine ⟨content, modified, ?_, written⟩
    unfold Expanded at expanded ⊢
    rwa [still _ second] at expanded

theorem Finished.congr (finished : Finished context base origin visited tree last)
    (visits : ∀ parts, tree.HasFile (origin ++ parts) → (visited parts ↔ others parts)) :
    Finished context base origin others tree last := by
  rintro folder name ⟨inside, file, page, greatest⟩
  refine finished folder name ⟨(visits _ file).2 inside, file, page, ?_⟩
  exact fun other visit held => greatest other ((visits _ held).1 visit) held

theorem finished_still (unvisited : ∀ parts, visited parts → ¬ tree.HasFile (origin ++ parts)) :
    Finished context base origin visited tree tree :=
  fun _ _ lasts => absurd lasts.file (unvisited _ lasts.visits)

/-- A page that is processed is left under its new name. -/
theorem finished_processFile (wellFormed : before.files.WellFormed)
    (opens : before.files.Opens (base.extend folder) (origin ++ folder)) (isName : IsName name)
    (required : before.files.require (base.extend (folder ++ [name])) =
      .ok (origin ++ (folder ++ [name])))
    (file : before.files.HasFile (origin ++ (folder ++ [name])))
    (ran : Runs (processFile context (base.extend (folder ++ [name]))) before url after) :
    Finished context base origin (folder ++ [name] <+: ·) before.files after.files := by
  rintro inner other ⟨inside, held, page, -⟩
  have same := eq_of_above wellFormed file.ne_directory inside held.ne_none
  obtain ⟨rfl, rfl⟩ := List.append_singleton_inj.1 same
  rcases runs_processFile ran with ⟨noPage, -, -⟩ | ⟨-, text, content, read, expanded, outcome⟩
  · rw [Path.name_extend, page] at noPage
    cases noPage
  obtain ⟨octets, modified, plain, there, decoded, rfl⟩ := runs_readText required read
  refine ⟨content, before.clock, ⟨octets, modified, plain, there, decoded, expanded⟩, ?_⟩
  rw [Path.name_extend] at outcome
  rcases outcome with ⟨index, wrote, -⟩ | ⟨renamed, -, between, wrote, removed⟩
  · rw [← Path.child_extend] at wrote
    obtain ⟨-, -, rfl⟩ := runs_writeText_child opens isName wrote
    rw [index, staticName_indexName, ← index, Workspace.edited_files, FileTree.apply,
      List.append_assoc, node?_set (by simp), if_pos rfl]
  · obtain ⟨static, shorter⟩ := staticName_of_renamed page renamed
    rw [← Path.child_extend, Path.withSuffix_child, List.append_nil] at wrote
    have stemName := isName_stem_of_writeText wellFormed opens isName wrote
    rw [← static] at wrote stemName
    obtain ⟨-, free, rfl⟩ := runs_writeText_child opens stemName wrote
    have same := SameDirectories.set_file (by simp) free (Utf8.encode content) before.clock
    rw [← Path.child_extend] at removed
    obtain ⟨-, rfl⟩ := runs_removeFile_child (same.opens opens) isName removed
    rw [Workspace.edited_files, Workspace.edited_files, FileTree.apply, FileTree.apply,
      List.append_assoc, List.append_assoc, node?_erase (by simp), if_neg, node?_set (by simp),
      if_pos rfl]
    intro same
    exact shorter (List.append_singleton_inj.1 (List.append_cancel_left same)).2

theorem gradual_finished (context : Context) (base : Path) (origin : Location) :
    Effect.Gradual (fun visited before after _ _ =>
      Finished context base origin visited before after) context base origin where
  still := finished_still
  file wellFormed opens isName required file ran :=
    finished_processFile wellFormed opens isName required file ran
  trans := Finished.trans
  congr := Finished.congr

/-- Processing the output leaves every last page of a folder under its new name. -/
theorem finished_processTree {origin : Location} (wellFormed : before.files.WellFormed)
    (opens : before.files.Opens context.outputDirectory origin)
    (ran : Runs (processTree context (before.files.depth + 1) context.outputDirectory urls)
      before result after) :
    Finished context context.outputDirectory origin (· ≠ []) before.files after.files :=
  ((gradual_finished context context.outputDirectory origin).processTree wellFormed opens ran).2

end Build

end StaticSite
