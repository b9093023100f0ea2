import StaticSite.Proofs.Build.Walking
import StaticSite.Proofs.Build.Paging
import StaticSite.Proofs.Text.Sorting

/-!
# What processing pages does

Processing renames pages within their folders and leaves all other files as they are.  A page's
new name is a beginning of its old one, so among sorted names nothing is renamed to a name that
is visited later.
-/

namespace StaticSite

namespace Build

open StaticSite.Action FileTree

/-- Whether a file with a name is a page in HTML. -/
def isPageName (name : Text) : Bool :=
  Text.lowerAscii (Path.splitName name).2 == ".html".toList

/-- The name of a file after its directory has been processed. -/
def staticName (name : Text) : Text :=
  if isPageName name = true ∧ name ≠ Page.indexName then (Path.splitName name).1 else name

/-- What processing a part of the output has done to the files and the addresses. -/
structure Settled (context : Context) (base : Path) (origin : Location)
    (visited : List Text → Prop) (before after : FileTree) (urls result : List Text) : Prop where
  wellFormed : after.WellFormed
  same : SameDirectories before after
  hasFile : ∀ parts, after.HasFile (origin ++ parts) ↔
    (before.HasFile (origin ++ parts) ∧ ¬ visited parts) ∨
      ∃ folder name, visited (folder ++ [name]) ∧
        before.HasFile (origin ++ (folder ++ [name])) ∧ parts = folder ++ [staticName name]
  kept : ∀ parts,
    (∀ folder name, visited (folder ++ [name]) →
      before.HasFile (origin ++ (folder ++ [name])) → isPageName name = true →
      parts ≠ folder ++ [name] ∧ parts ≠ folder ++ [staticName name]) →
    after.node? (origin ++ parts) = before.node? (origin ++ parts)
  reachable : ∀ folder name, visited (folder ++ [name]) →
    before.HasFile (origin ++ (folder ++ [name])) →
    after.require (base.extend (folder ++ [staticName name])) =
      .ok (origin ++ (folder ++ [staticName name]))
  listed : ∀ url ∈ result, url ∈ urls ∨
    ∃ folder, visited (folder ++ [Page.indexName]) ∧
      before.HasFile (origin ++ (folder ++ [Page.indexName])) ∧
      Page.canonicalURL context.config.baseURL (base.extend (folder ++ [Page.indexName]))
        context.outputDirectory = .ok url

theorem isPage_eq (path : Path) : isPage path = isPageName path.name := by
  unfold isPage isPageName Path.suffix
  cases page : Text.lowerAscii (Path.splitName path.name).2 == ".html".toList with
  | false => rfl
  | true =>
      have suffix := eq_of_beq page
      have noImage : (imageSuffixes.any fun suffix =>
          suffix.toList = Text.lowerAscii path.suffix) = false := by
        rw [Path.suffix, suffix]
        decide
      have noStore : (path.name != ".DS_Store".toList) = true := by
        rw [bne_iff_ne]
        intro store
        rw [store] at suffix
        exact absurd suffix (by decide)
      rw [isProcessed, noImage, noStore]
      rfl

theorem staticName_of_not_page {name : Text} (other : isPageName name = false) :
    staticName name = name := by
  simp [staticName, other]

theorem staticName_indexName : staticName Page.indexName = Page.indexName := by
  simp [staticName]

/-- A page that is renamed loses a suffix that is not empty. -/
theorem exists_suffix_of_page {name : Text} (page : isPageName name = true) :
    ∃ suffix, suffix ≠ [] ∧ (Path.splitName name).1 ++ suffix = name := by
  refine ⟨(Path.splitName name).2, ?_, Path.splitName_append name⟩
  intro empty
  rw [isPageName, empty] at page
  exact absurd page (by decide)

theorem staticName_of_renamed {name : Text} (page : isPageName name = true)
    (renamed : name ≠ Page.indexName) :
    staticName name = (Path.splitName name).1 ∧ staticName name ≠ name := by
  have static : staticName name = (Path.splitName name).1 := by simp [staticName, page, renamed]
  refine ⟨static, fun same => ?_⟩
  obtain ⟨suffix, longer, whole⟩ := exists_suffix_of_page page
  rw [← static, same] at whole
  exact longer (by simpa using whole)

/-- A name among sorted ones is not the new name of one before it. -/
theorem staticName_not_mem {name : Text} {names : List Text}
    (sorted : ∀ later ∈ names, Text.lessEqual name later = true) (new : name ∉ names) :
    staticName name ∉ names := by
  unfold staticName
  split
  · next renamed =>
      intro member
      obtain ⟨suffix, longer, whole⟩ := exists_suffix_of_page renamed.1
      have before := sorted _ member
      have longerFirst : Text.lessEqual ((Path.splitName name).1 ++ suffix)
          (Path.splitName name).1 = true := by
        rw [whole]
        exact before
      rw [Text.not_lessEqual_append longer] at longerFirst
      cases longerFirst
  · exact new

section Settle

variable {context : Context} {base : Path} {origin : Location}
  {visited others : List Text → Prop} {before middle after tree : FileTree}
  {urls found result : List Text} {folder parts : List Text} {name : Text}

/-- What is visited later is as it was. -/
theorem Settled.node?_eq
    (settled : Settled context base origin visited before middle urls found)
    (apart : ∀ parts, visited parts → ¬ others parts)
    (aside : ∀ folder name, visited (folder ++ [name]) →
      before.HasFile (origin ++ (folder ++ [name])) → ¬ others (folder ++ [staticName name]))
    (later : others parts) : middle.node? (origin ++ parts) = before.node? (origin ++ parts) := by
  apply settled.kept
  intro folder name inside file page
  refine ⟨fun same => apart _ inside (same ▸ later), fun same => ?_⟩
  exact aside folder name inside file (same ▸ later)

theorem Settled.trans
    (one : Settled context base origin visited before middle urls found)
    (two : Settled context base origin others middle after found result)
    (apart : ∀ parts, visited parts → ¬ others parts)
    (aside : ∀ folder name, visited (folder ++ [name]) →
      before.HasFile (origin ++ (folder ++ [name])) → ¬ others (folder ++ [staticName name])) :
    Settled context base origin (fun parts => visited parts ∨ others parts)
      before after urls result := by
  have held : ∀ parts, others parts →
      (middle.HasFile (origin ++ parts) ↔ before.HasFile (origin ++ parts)) :=
    fun parts second => hasFile_congr (one.node?_eq apart aside second)
  refine ⟨two.wellFormed, one.same.trans two.same, ?_, ?_, ?_, ?_⟩
  · intro parts
    rw [two.hasFile, one.hasFile]
    constructor
    · rintro (⟨⟨file, first⟩ | ⟨folder, name, first, file, rfl⟩, second⟩ |
        ⟨folder, name, second, file, rfl⟩)
      · exact Or.inl ⟨file, not_or.2 ⟨first, second⟩⟩
      · exact Or.inr ⟨folder, name, Or.inl first, file, rfl⟩
      · exact Or.inr ⟨folder, name, Or.inr second, (held _ second).1 file, rfl⟩
    · rintro (⟨file, neither⟩ | ⟨folder, name, first | second, file, rfl⟩)
      · rw [not_or] at neither
        exact Or.inl ⟨Or.inl ⟨file, neither.1⟩, neither.2⟩
      · exact Or.inl ⟨Or.inr ⟨folder, name, first, file, rfl⟩, aside folder name first file⟩
      · exact Or.inr ⟨folder, name, second, (held _ second).2 file, rfl⟩
  · intro parts untouched
    rw [two.kept parts, one.kept parts]
    · exact fun folder name first file page => untouched folder name (Or.inl first) file page
    · intro folder name second file page
      exact untouched folder name (Or.inr second) ((held _ second).1 file) page
  · rintro folder name (first | second) file
    · exact two.same.require (one.reachable folder name first file)
    · exact two.reachable folder name second ((held _ second).2 file)
  · intro url member
    rcases two.listed url member with early | ⟨folder, second, file, canonical⟩
    · rcases one.listed url early with old | ⟨folder, first, file, canonical⟩
      · exact Or.inl old
      · exact Or.inr ⟨folder, Or.inl first, file, canonical⟩
    · exact Or.inr ⟨folder, Or.inr second, (held _ second).1 file, canonical⟩

/-- Only the files that are visited count. -/
theorem Settled.congr (settled : Settled context base origin visited before after urls result)
    (visits : ∀ parts, before.HasFile (origin ++ parts) → (visited parts ↔ others parts)) :
    Settled context base origin others before after urls result := by
  refine ⟨settled.wellFormed, settled.same, ?_, ?_, ?_, ?_⟩
  · intro parts
    rw [settled.hasFile]
    constructor
    · rintro (⟨file, outside⟩ | ⟨folder, name, inside, file, rfl⟩)
      · exact Or.inl ⟨file, fun inside => outside ((visits parts file).2 inside)⟩
      · exact Or.inr ⟨folder, name, (visits _ file).1 inside, file, rfl⟩
    · rintro (⟨file, outside⟩ | ⟨folder, name, inside, file, rfl⟩)
      · exact Or.inl ⟨file, fun inside => outside ((visits parts file).1 inside)⟩
      · exact Or.inr ⟨folder, name, (visits _ file).2 inside, file, rfl⟩
  · intro parts untouched
    apply settled.kept
    intro folder name inside file page
    exact untouched folder name ((visits _ file).1 inside) file page
  · intro folder name inside file
    exact settled.reachable folder name ((visits _ file).2 inside) file
  · intro url member
    rcases settled.listed url member with old | ⟨folder, inside, file, canonical⟩
    · exact Or.inl old
    · exact Or.inr ⟨folder, (visits _ file).1 inside, file, canonical⟩

/-- Where there is no file to visit, nothing happens. -/
theorem settled_still (wellFormed : tree.WellFormed)
    (unvisited : ∀ parts, visited parts → ¬ tree.HasFile (origin ++ parts)) :
    Settled context base origin visited tree tree urls urls := by
  refine ⟨wellFormed, SameDirectories.refl tree, ?_, fun _ _ => rfl, ?_, fun _ => Or.inl⟩
  · intro parts
    constructor
    · intro file
      exact Or.inl ⟨file, fun inside => unvisited parts inside file⟩
    · rintro (⟨file, -⟩ | ⟨folder, name, inside, file, -⟩)
      · exact file
      · exact absurd file (unvisited _ inside)
  · intro folder name inside file
    exact absurd file (unvisited _ inside)

end Settle

end Build

end StaticSite
