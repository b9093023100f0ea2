import StaticSite.Proofs.Build.Gathering
import StaticSite.Proofs.Build.Settling

/-!
# Processing a tree settles it

Each entry of a directory is settled by itself, and a directory by its entries in the order of
their names.
-/

namespace StaticSite

namespace Build

open StaticSite.Action FileTree

variable {context : Context} {base : Path} {origin : Location} {before after : Workspace}
  {tree : FileTree} {folder parts : List Text} {name : Text} {urls result : List Text}

/-- A file whose place is taken by its new name settles its part of the output. -/
theorem settled_file {last : FileTree} (wellFormed : tree.WellFormed) (ended : last.WellFormed)
    (same : SameDirectories tree last) (file : tree.HasFile (origin ++ (folder ++ [name])))
    (hasFile : ∀ parts, last.HasFile (origin ++ parts) ↔
      (tree.HasFile (origin ++ parts) ∧ parts ≠ folder ++ [name]) ∨
        parts = folder ++ [staticName name])
    (kept : ∀ parts,
      (isPageName name = true → parts ≠ folder ++ [name] ∧ parts ≠ folder ++ [staticName name]) →
      last.node? (origin ++ parts) = tree.node? (origin ++ parts))
    (reachable : last.require (base.extend (folder ++ [staticName name])) =
      .ok (origin ++ (folder ++ [staticName name])))
    (listed : ∀ url ∈ result, url ∈ urls ∨ name = Page.indexName ∧
      Page.canonicalURL context.config.baseURL (base.extend (folder ++ [name]))
        context.outputDirectory = .ok url) :
    Settled context base origin (folder ++ [name] <+: ·) tree last urls result := by
  have alone : ∀ parts, folder ++ [name] <+: parts → tree.HasFile (origin ++ parts) →
      parts = folder ++ [name] := by
    rintro parts inside ⟨content, modified, there⟩
    exact eq_of_above wellFormed file.ne_directory inside (by simp [there])
  have only : ∀ inner other, folder ++ [name] <+: inner ++ [other] →
      tree.HasFile (origin ++ (inner ++ [other])) → inner = folder ∧ other = name := by
    intro inner other inside there
    exact List.append_singleton_inj.1 (alone _ inside there)
  refine ⟨ended, same, ?_, ?_, ?_, ?_⟩
  · intro parts
    rw [hasFile]
    constructor
    · rintro (⟨there, other⟩ | rfl)
      · exact Or.inl ⟨there, fun inside => other (alone parts inside there)⟩
      · exact Or.inr ⟨folder, name, List.prefix_refl _, file, rfl⟩
    · rintro (⟨there, outside⟩ | ⟨inner, other, inside, there, rfl⟩)
      · refine Or.inl ⟨there, ?_⟩
        rintro rfl
        exact outside (List.prefix_refl _)
      · obtain ⟨rfl, rfl⟩ := only inner other inside there
        exact Or.inr rfl
  · intro parts untouched
    exact kept parts fun page => untouched folder name (List.prefix_refl _) file page
  · intro inner other inside there
    obtain ⟨rfl, rfl⟩ := only inner other inside there
    exact reachable
  · intro url member
    rcases listed url member with old | ⟨rfl, canonical⟩
    · exact Or.inl old
    · exact Or.inr ⟨folder, List.prefix_refl _, file, canonical⟩

/-- A text is not written over the directory of its path or the one above. -/
theorem isName_stem_of_writeText {text : Text} {value : Unit} {location : Location}
    {directory : Path} (wellFormed : before.files.WellFormed)
    (opens : before.files.Opens directory location) (isName : IsName name)
    (ran : Runs (writeText (directory.child (Path.splitName name).1) text) before value after) :
    IsName (Path.splitName name).1 := by
  have parent : before.files.Opens (directory.child (Path.splitName name).1).parent location := by
    rwa [Path.parent_child]
  obtain ⟨target, required, file, -⟩ := runs_writeText parent ran
  have led := (locate_eq_ok_iff.1 (require_eq_ok_iff.1 required).2).2
  have start := (locate_eq_ok_iff.1 (require_eq_ok_iff.1 opens.1).2).2
  have step : before.files.follow location [(Path.splitName name).1] = .ok target := by
    have whole : before.files.follow (if directory.anchor = .here then before.files.here else [])
        (directory.parts ++ [(Path.splitName name).1]) = .ok target := led
    rw [follow_append, start] at whole
    exact whole
  simp only [follow, opens.2] at step
  apply isName.stem
  · intro here
    rw [if_pos here] at step
    cases step
    exact file opens.2
  · intro above
    rw [if_neg (by rw [above]; decide), if_pos above] at step
    cases step
    apply file
    rcases List.eq_nil_or_concat location with rfl | ⟨outer, last, rfl⟩
    · rfl
    · have found : before.files.node? (outer ++ [last]) ≠ none := by
        rw [← List.concat_eq_append, opens.2]
        simp
      rw [List.concat_eq_append, List.dropLast_concat]
      exact wellFormed.node?_parent found

/-- Processing leaves a file that is no page, writes an index page again and renames every
other page. -/
theorem runs_processFile {path : Path} {url : Text}
    (ran : Runs (processFile context path) before url after) :
    (isPageName path.name = false ∧ before = after ∧ url = []) ∨
      isPageName path.name = true ∧ ∃ text content,
        Runs (readText path) before text before ∧
        Component.expandAll text context.components (some path.text) = .ok content ∧
        ((path.name = Page.indexName ∧ Runs (writeText path content) before () after ∧
            (url = [] ∨ Page.canonicalURL context.config.baseURL path context.outputDirectory =
              .ok url)) ∨
          (path.name ≠ Page.indexName ∧ url = [] ∧ ∃ middle,
            Runs (writeText (path.withSuffix []) content) before () middle ∧
            Runs (removeFile path) middle () after)) := by
  unfold processFile at ran
  rw [isPage_eq] at ran
  split at ran
  · next other =>
      obtain ⟨rfl, rfl⟩ := runs_pure.1 ran
      exact Or.inl ⟨by simpa using other, rfl, rfl⟩
  · next page =>
      simp only [runs_bind, runs_ofExcept] at ran
      obtain ⟨text, middle, read, content, _, ⟨expanded, rfl⟩, ran⟩ := ran
      obtain rfl := onlyReads_readText path _ _ _ read
      refine Or.inr ⟨by simpa using page, text, content, read, expanded, ?_⟩
      split at ran
      · next renamed =>
          simp only [runs_bind] at ran
          obtain ⟨_, between, wrote, _, last, removed, ended⟩ := ran
          obtain ⟨rfl, rfl⟩ := runs_pure.1 ended
          exact Or.inr ⟨renamed, rfl, between, wrote, removed⟩
      · next index =>
          obtain ⟨_, between, wrote, ran⟩ := runs_bind.1 ran
          refine Or.inl ⟨not_not.1 index, ?_⟩
          split at ran
          · obtain ⟨rfl, rfl⟩ := runs_pure.1 ran
            exact ⟨wrote, Or.inl rfl⟩
          · obtain ⟨canonical, rfl⟩ := runs_ofExcept.1 ran
            exact ⟨wrote, Or.inr canonical⟩

theorem runs_processFile_renamed {middle : Workspace} {path : Path} {text content : Text}
    (page : isPage path = true) (renamed : path.name ≠ Page.indexName)
    (read : Runs (readText path) before text before)
    (expanded : Component.expandAll text context.components (some path.text) = .ok content)
    (wrote : Runs (writeText (path.withSuffix []) content) before () middle)
    (removed : Runs (removeFile path) middle () after) :
    Runs (processFile context path) before [] after := by
  rw [processFile, page, if_neg (by decide), runs_bind]
  refine ⟨text, before, read, ?_⟩
  rw [runs_bind]
  refine ⟨content, before, runs_ofExcept.2 ⟨expanded, rfl⟩, ?_⟩
  rw [if_pos renamed, runs_bind]
  refine ⟨(), middle, wrote, ?_⟩
  rw [runs_bind]
  exact ⟨(), after, removed, rfl⟩

theorem runs_processEntry {path : Path} {url : Text} {depth : Nat}
    (noDirectory : before.files.isDirectory path = .ok false)
    (file : before.files.isFile path = .ok true)
    (ran : Runs (processFile context path) before url after) :
    Runs (processEntry context depth path urls) before (Sitemap.add urls url) after := by
  rw [processEntry, runs_bind]
  refine ⟨false, before, runs_inspect.2 ⟨noDirectory, rfl⟩, ?_⟩
  rw [if_neg (by decide), runs_bind]
  refine ⟨true, before, runs_inspect.2 ⟨file, rfl⟩, ?_⟩
  rw [if_pos rfl, runs_bind]
  exact ⟨url, after, ran, rfl⟩

section File

variable (wellFormed : before.files.WellFormed)
  (opens : before.files.Opens (base.extend folder) (origin ++ folder)) (isName : IsName name)
  (required : before.files.require (base.extend (folder ++ [name])) =
    .ok (origin ++ (folder ++ [name])))
  (file : before.files.HasFile (origin ++ (folder ++ [name])))

include wellFormed required file in
theorem settled_other (other : isPageName name = false) :
    Settled context base origin (folder ++ [name] <+: ·) before.files before.files urls urls := by
  have static := staticName_of_not_page other
  apply settled_file wellFormed wellFormed (SameDirectories.refl _) file
  · intro parts
    rw [static]
    constructor
    · intro there
      by_cases here : parts = folder ++ [name]
      · exact Or.inr here
      · exact Or.inl ⟨there, here⟩
    · rintro (⟨there, -⟩ | rfl)
      · exact there
      · exact file
  · intro parts _
    rfl
  · rwa [static]
  · exact fun url member => Or.inl member

include wellFormed opens isName required file in
theorem settled_index {content : Text} (index : name = Page.indexName)
    (listed : ∀ url ∈ result, url ∈ urls ∨
      Page.canonicalURL context.config.baseURL (base.extend (folder ++ [name]))
        context.outputDirectory = .ok url)
    (wrote : Runs (writeText (base.extend (folder ++ [name])) content) before () after) :
    Settled context base origin (folder ++ [name] <+: ·) before.files after.files urls result := by
  have static : staticName name = name := by rw [index, staticName_indexName]
  have within : origin ++ (folder ++ [name]) ≠ [] := by simp
  rw [← Path.child_extend] at wrote
  obtain ⟨-, free, rfl⟩ := runs_writeText_child opens isName wrote
  rw [List.append_assoc] at free
  have same := SameDirectories.set_file within free (Utf8.encode content) before.clock
  have written : (before.files.set (origin ++ folder ++ [name])
      (.file (Utf8.encode content) before.clock)).WellFormed :=
    wellFormed.set opens.2 isName fun taken => absurd (List.append_assoc _ _ _ ▸ taken) free
  rw [Workspace.edited_files, FileTree.apply]
  rw [List.append_assoc] at written ⊢
  apply settled_file wellFormed written same file
  · intro parts
    rw [static, hasFile_set within, List.append_cancel_left_eq]
    constructor
    · rintro (here | there)
      · exact Or.inr here
      · by_cases here : parts = folder ++ [name]
        · exact Or.inr here
        · exact Or.inl ⟨there, here⟩
    · rintro (⟨there, -⟩ | here)
      · exact Or.inr there
      · exact Or.inl here
  · intro parts untouched
    rw [node?_set within, if_neg]
    have page : isPageName name = true := by rw [index]; decide
    exact fun here => (untouched page).1 (List.append_cancel_left here)
  · rw [static]
    exact same.require required
  · intro url member
    exact (listed url member).imp_right fun canonical => ⟨index, canonical⟩

include wellFormed opens isName file in
theorem settled_renamed {content : Text} {middle : Workspace} (page : isPageName name = true)
    (renamed : name ≠ Page.indexName)
    (wrote : Runs (writeText ((base.extend (folder ++ [name])).withSuffix []) content)
      before () middle)
    (removed : Runs (removeFile (base.extend (folder ++ [name]))) middle () after) :
    Settled context base origin (folder ++ [name] <+: ·) before.files after.files urls urls := by
  obtain ⟨static, shorter⟩ := staticName_of_renamed page renamed
  rw [← Path.child_extend, Path.withSuffix_child, List.append_nil] at wrote
  have stemName := isName_stem_of_writeText wellFormed opens isName wrote
  rw [← static] at wrote stemName
  obtain ⟨led, free, rfl⟩ := runs_writeText_child opens stemName wrote
  rw [List.append_assoc] at free
  have newWithin : origin ++ (folder ++ [staticName name]) ≠ [] := by simp
  have oldWithin : origin ++ (folder ++ [name]) ≠ [] := by simp
  have same := SameDirectories.set_file newWithin free (Utf8.encode content) before.clock
  have written : (before.files.set (origin ++ folder ++ [staticName name])
      (.file (Utf8.encode content) before.clock)).WellFormed :=
    wellFormed.set opens.2 stemName fun taken => absurd (List.append_assoc _ _ _ ▸ taken) free
  rw [← Path.child_extend] at removed
  rw [List.append_assoc] at written removed led
  obtain ⟨held, rfl⟩ := runs_removeFile_child (same.opens opens) isName removed
  rw [List.append_assoc] at held
  have ended := SameDirectories.erase_file oldWithin held.ne_directory
  rw [Workspace.edited_files, Workspace.edited_files, FileTree.apply, FileTree.apply,
    List.append_assoc]
  apply settled_file wellFormed (written.erase oldWithin held.ne_directory) (same.trans ended) file
  · intro parts
    rw [hasFile_erase oldWithin, hasFile_set newWithin, ne_eq, List.append_cancel_left_eq,
      List.append_cancel_left_eq]
    constructor
    · rintro ⟨other, new | old⟩
      · exact Or.inr new
      · exact Or.inl ⟨old, other⟩
    · rintro (⟨old, other⟩ | new)
      · exact ⟨other, Or.inr old⟩
      · refine ⟨?_, Or.inl new⟩
        rw [new]
        intro same
        exact shorter (by simpa using same)
  · intro parts untouched
    obtain ⟨old, new⟩ := untouched page
    rw [node?_erase oldWithin, if_neg fun here => old (List.append_cancel_left here),
      node?_set newWithin, if_neg fun here => new (List.append_cancel_left here)]
  · exact ended.require (same.require (Path.child_extend _ _ _ ▸ led))
  · exact fun url member => Or.inl member

end File

theorem settled_processFile {url : Text} (wellFormed : before.files.WellFormed)
    (opens : before.files.Opens (base.extend folder) (origin ++ folder)) (isName : IsName name)
    (required : before.files.require (base.extend (folder ++ [name])) =
      .ok (origin ++ (folder ++ [name])))
    (file : before.files.HasFile (origin ++ (folder ++ [name])))
    (ran : Runs (processFile context (base.extend (folder ++ [name]))) before url after) :
    Settled context base origin (folder ++ [name] <+: ·) before.files after.files
      urls (Sitemap.add urls url) := by
  rcases runs_processFile ran with ⟨other, rfl, rfl⟩ | ⟨page, text, content, -, -, outcome⟩
  · rw [Path.name_extend] at other
    exact settled_other wellFormed required file other
  · rw [Path.name_extend] at page outcome
    rcases outcome with ⟨index, wrote, canonical⟩ | ⟨renamed, rfl, middle, wrote, removed⟩
    · apply settled_index wellFormed opens isName required file index _ wrote
      intro other member
      rcases Sitemap.mem_add.1 member with old | ⟨rfl, nonempty⟩
      · exact Or.inl old
      · exact Or.inr (canonical.resolve_left nonempty)
    · exact settled_renamed wellFormed opens isName file page renamed wrote removed

/-- What is said of a part of the output that was visited, and of the trees and the addresses before
and after. -/
abbrev Effect :=
  (visited : List Text → Prop) → (before after : FileTree) → (urls result : List Text) → Prop

/-- An effect that processing has file by file, in the order of the names. -/
structure Effect.Gradual (effect : Effect) (context : Context) (base : Path) (origin : Location) :
    Prop where
  still : ∀ {visited tree urls}, (∀ parts, visited parts → ¬ tree.HasFile (origin ++ parts)) →
    effect visited tree tree urls urls
  file : ∀ {folder name urls url} {before after : Workspace}, before.files.WellFormed →
    before.files.Opens (base.extend folder) (origin ++ folder) → IsName name →
    before.files.require (base.extend (folder ++ [name])) = .ok (origin ++ (folder ++ [name])) →
    before.files.HasFile (origin ++ (folder ++ [name])) →
    Runs (processFile context (base.extend (folder ++ [name]))) before url after →
    effect (folder ++ [name] <+: ·) before.files after.files urls (Sitemap.add urls url)
  trans : ∀ {visited others before middle after urls found result},
    Settled context base origin visited before middle urls found →
    Settled context base origin others middle after found result →
    effect visited before middle urls found → effect others middle after found result →
    (∀ parts, visited parts → ¬ others parts) →
    (∀ folder name, visited (folder ++ [name]) → before.HasFile (origin ++ (folder ++ [name])) →
      ¬ others (folder ++ [staticName name])) →
    (∀ first second, visited first → others second → WalksBefore first second) →
    effect (fun parts => visited parts ∨ others parts) before after urls result
  congr : ∀ {visited others before after urls result}, effect visited before after urls result →
    (∀ parts, before.HasFile (origin ++ parts) → (visited parts ↔ others parts)) →
    effect others before after urls result

/-- Processing a directory settles what is in it, with an effect. -/
def SettlesWithin (effect : Effect) (context : Context) (base : Path) (origin : Location)
    (limit depth : Nat) : Prop :=
  ∀ folder before urls result after, before.files.WellFormed →
    before.files.Opens (base.extend folder) (origin ++ folder) →
    before.files.NestedWithin limit → limit < (origin ++ folder).length + depth →
    Runs (processTree context depth (base.extend folder) urls) before result after →
    Settled context base origin (Beneath folder) before.files after.files urls result ∧
      effect (Beneath folder) before.files after.files urls result

variable {limit depth : Nat} {effect : Effect}

/-- A name among sorted ones is not renamed to what is reached through a later one. -/
theorem not_among_staticName {names inner : List Text} {last : Text}
    (sorted : ∀ later ∈ names, Text.lessEqual name later = true) (new : name ∉ names)
    (inside : folder ++ [name] <+: inner ++ [last]) :
    ¬ Among folder names (inner ++ [staticName last]) := by
  intro also
  rcases List.prefix_concat_iff.1 inside with whole | above
  · obtain ⟨rfl, rfl⟩ := List.append_singleton_inj.1 whole
    obtain ⟨other, member, same⟩ := also
    have reached : other = staticName name := by
      simpa using same.eq_of_length_le (by simp)
    exact staticName_not_mem sorted new (reached ▸ member)
  · exact not_among_of_isPrefix new (above.trans (List.prefix_append _ _)) also

namespace Effect.Gradual

variable (gradual : effect.Gradual context base origin)

include gradual in
theorem processEntry (settles : SettlesWithin effect context base origin limit depth)
    (wellFormed : before.files.WellFormed)
    (opens : before.files.Opens (base.extend folder) (origin ++ folder)) (isName : IsName name)
    (nested : before.files.NestedWithin limit)
    (deep : limit < (origin ++ folder).length + (depth + 1))
    (ran : Runs (processEntry context depth (base.extend (folder ++ [name])) urls)
      before result after) :
    Settled context base origin (folder ++ [name] <+: ·) before.files after.files urls result ∧
      effect (folder ++ [name] <+: ·) before.files after.files urls result := by
  rw [Build.processEntry] at ran
  obtain ⟨inner, _, asking, ran⟩ := runs_bind.1 ran
  obtain ⟨asked, rfl⟩ := runs_inspect.1 asking
  rw [← Path.child_extend] at asked
  obtain ⟨required, isDirectory⟩ := opens.isDirectory_child isName asked
  rw [Path.child_extend, List.append_assoc] at required
  rw [List.append_assoc] at isDirectory
  split at ran
  · next directory =>
      have deeper : limit < (origin ++ (folder ++ [name])).length + depth := by
        simp only [List.length_append, List.length_singleton] at deep ⊢
        omega
      obtain ⟨settled, whole⟩ := settles _ _ _ _ _ wellFormed ⟨required, isDirectory.1 directory⟩
        nested deeper ran
      have visits := fun parts (file : before.files.HasFile (origin ++ parts)) =>
        beneath_iff_isPrefix (isDirectory.1 directory) file
      exact ⟨settled.congr visits, gradual.congr whole visits⟩
  · next noDirectory =>
      have closed : before.files.node? (origin ++ (folder ++ [name])) ≠ some .directory :=
        fun there => noDirectory (isDirectory.2 there)
      obtain ⟨answer, _, asking, ran⟩ := runs_bind.1 ran
      obtain ⟨asked, rfl⟩ := runs_inspect.1 asking
      rw [← Path.child_extend] at asked
      have isFile := (opens.isFile_child isName asked).2
      rw [List.append_assoc] at isFile
      split at ran
      · next file =>
          obtain ⟨url, middle, processed, ended⟩ := runs_bind.1 ran
          obtain ⟨rfl, rfl⟩ := runs_pure.1 ended
          have there := isFile.1 file
          exact ⟨settled_processFile wellFormed opens isName required there processed,
            gradual.file wellFormed opens isName required there processed⟩
      · next noFile =>
          obtain ⟨rfl, rfl⟩ := runs_pure.1 ran
          have unvisited : ∀ parts, folder ++ [name] <+: parts →
              ¬ before.files.HasFile (origin ++ parts) := by
            rintro parts inside file
            obtain rfl := eq_of_above wellFormed closed inside file.ne_none
            exact noFile (isFile.2 file)
          exact ⟨settled_still wellFormed unvisited, gradual.still unvisited⟩

include gradual in
/-- The entries of a directory are settled one after the other, in the order of their names. -/
theorem processEntries {names : List Text}
    (settles : SettlesWithin effect context base origin limit depth)
    (wellFormed : before.files.WellFormed)
    (opens : before.files.Opens (base.extend folder) (origin ++ folder))
    (areNames : ∀ name ∈ names, IsName name) (distinct : names.Nodup)
    (sorted : names.Pairwise fun first second => Text.lessEqual first second = true)
    (nested : before.files.NestedWithin limit)
    (deep : limit < (origin ++ folder).length + (depth + 1))
    (ran : Runs (processEntries context depth (names.map (base.extend folder).child) urls)
      before result after) :
    Settled context base origin (Among folder names) before.files after.files urls result ∧
      effect (Among folder names) before.files after.files urls result := by
  induction names generalizing before urls with
  | nil =>
      rw [List.map_nil, Build.processEntries] at ran
      obtain ⟨rfl, rfl⟩ := runs_pure.1 ran
      have unvisited : ∀ parts, Among folder [] parts →
          ¬ before.files.HasFile (origin ++ parts) := by
        rintro parts ⟨name, member, -⟩
        cases member
      exact ⟨settled_still wellFormed unvisited, gradual.still unvisited⟩
  | cons name names ih =>
      rw [List.map_cons, Build.processEntries, Path.child_extend] at ran
      obtain ⟨found, middle, first, second⟩ := runs_bind.1 ran
      rw [List.nodup_cons] at distinct
      rw [List.pairwise_cons] at sorted
      obtain ⟨one, begun⟩ := gradual.processEntry settles wellFormed opens
        (areNames name List.mem_cons_self) nested deep first
      obtain ⟨two, ended⟩ := ih one.wellFormed (one.same.opens opens)
        (fun other member => areNames other (List.mem_cons_of_mem _ member)) distinct.2 sorted.2
        (one.same.nestedWithin nested) second
      have apart : ∀ parts, folder ++ [name] <+: parts → ¬ Among folder names parts :=
        fun parts inside => not_among_of_isPrefix distinct.1 inside
      have aside : ∀ inner last, folder ++ [name] <+: inner ++ [last] →
          before.files.HasFile (origin ++ (inner ++ [last])) →
          ¬ Among folder names (inner ++ [staticName last]) :=
        fun inner last inside _ => not_among_staticName sorted.1 distinct.1 inside
      have whole := gradual.trans one two begun ended apart aside
        fun _ _ => walksBefore_of_among sorted.1 distinct.1
      have visits : ∀ parts, before.files.HasFile (origin ++ parts) →
          (folder ++ [name] <+: parts ∨ Among folder names parts ↔
            Among folder (name :: names) parts) :=
        fun parts _ => among_cons_iff.symm
      exact ⟨(one.trans two apart aside).congr visits, gradual.congr whole visits⟩

include gradual in
theorem settlesWithin (limit depth : Nat) :
    SettlesWithin effect context base origin limit depth := by
  induction depth with
  | zero =>
      intro folder before urls result after wellFormed opens nested deep ran
      have short := nested _ opens.2
      omega
  | succ depth ih =>
      intro folder before urls result after wellFormed opens nested deep ran
      rw [Build.processTree] at ran
      obtain ⟨children, _, listing, ran⟩ := runs_bind.1 ran
      obtain ⟨listed, rfl⟩ := runs_inspect.1 listing
      rw [opens.children_eq, Except.ok.injEq] at listed
      subst listed
      obtain ⟨settled, whole⟩ := gradual.processEntries ih wellFormed opens
        (wellFormed.areNames (origin ++ folder)) (wellFormed.nodup_names _)
        (Text.pairwise_sort _) nested deep ran
      have visits : ∀ parts, before.files.HasFile (origin ++ parts) →
          (Among folder (before.files.names (origin ++ folder)) parts ↔ Beneath folder parts) :=
        fun parts file => among_names_iff wellFormed file.ne_none
      exact ⟨settled.congr visits, gradual.congr whole visits⟩

end Effect.Gradual

/-- Processing the output settles all of it, with every effect that it has file by file. -/
theorem Effect.Gradual.processTree {origin : Location}
    (gradual : effect.Gradual context context.outputDirectory origin)
    (wellFormed : before.files.WellFormed)
    (opens : before.files.Opens context.outputDirectory origin)
    (ran : Runs (processTree context (before.files.depth + 1) context.outputDirectory urls)
      before result after) :
    Settled context context.outputDirectory origin (· ≠ []) before.files after.files urls result ∧
      effect (· ≠ []) before.files after.files urls result := by
  have whole := gradual.settlesWithin before.files.depth (before.files.depth + 1) [] before urls
    result after wellFormed
  rw [Path.extend_nil, List.append_nil] at whole
  obtain ⟨settled, effects⟩ := whole opens (nestedWithin_depth _) (by omega) ran
  exact ⟨settled.congr fun parts _ => beneath_nil_iff,
    gradual.congr effects fun parts _ => beneath_nil_iff⟩

/-- Processing the output settles all of it. -/
theorem settled_processTree {origin : Location} (wellFormed : before.files.WellFormed)
    (opens : before.files.Opens context.outputDirectory origin)
    (ran : Runs (processTree context (before.files.depth + 1) context.outputDirectory urls)
      before result after) :
    Settled context context.outputDirectory origin (· ≠ []) before.files after.files urls result := by
  have gradual : Effect.Gradual (fun _ _ _ _ _ => True) context context.outputDirectory origin :=
    ⟨fun _ => trivial, fun _ _ _ _ _ _ => trivial, fun _ _ _ _ _ _ _ => trivial,
      fun _ _ => trivial⟩
  exact (gradual.processTree wellFormed opens ran).1

end Build

end StaticSite
