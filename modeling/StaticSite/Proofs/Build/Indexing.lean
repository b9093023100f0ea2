import StaticSite.Proofs.Build.Processing

/-!
# Which index pages enter the sitemap

Processing adds the addresses of exactly those index pages whose text does not say that they are
kept out of every index, in the order in which a walk comes to them.  What the text says is what
the page said before processing began: no page that is renamed takes the place of an index page
that is still to be visited.
-/

namespace StaticSite

namespace Build

open StaticSite.Action FileTree

/-- Whether the index page of a folder says nothing that keeps its address out of the sitemap. -/
def Enters (context : Context) (base : Path) (origin : Location) (tree : FileTree)
    (folder : List Text) (url : Text) : Prop :=
  ∃ octets modified text content,
    tree.node? (origin ++ (folder ++ [Page.indexName])) = some (.file octets modified) ∧
    Utf8.decode octets = .ok text ∧
    Component.expandAll (Text.unifyLineEnds text) context.components
      (some (base.extend (folder ++ [Page.indexName])).text) = .ok content ∧
    Text.contains Page.noIndexTag content = false ∧
    Page.canonicalURL context.config.baseURL (base.extend (folder ++ [Page.indexName]))
      context.outputDirectory = .ok url

/-- Processing a part of the output has added the addresses of its index pages. -/
def Indexed (context : Context) (base : Path) (origin : Location) (visited : List Text → Prop)
    (tree : FileTree) (urls result : List Text) : Prop :=
  ∀ url, url ∈ result ↔ url ∈ urls ∨ url ≠ [] ∧ ∃ folder,
    visited (folder ++ [Page.indexName]) ∧ Enters context base origin tree folder url

variable {context : Context} {base : Path} {origin : Location} {before after : Workspace}
  {tree middle : FileTree} {visited others : List Text → Prop} {folder parts : List Text}
  {name url : Text} {urls found result : List Text}

theorem Enters.hasFile (enters : Enters context base origin tree folder url) :
    tree.HasFile (origin ++ (folder ++ [Page.indexName])) := by
  obtain ⟨octets, modified, -, -, there, -⟩ := enters
  exact ⟨octets, modified, there⟩

theorem enters_congr
    (same : middle.node? (origin ++ (folder ++ [Page.indexName])) =
      tree.node? (origin ++ (folder ++ [Page.indexName]))) :
    Enters context base origin middle folder url ↔ Enters context base origin tree folder url := by
  unfold Enters
  rw [same]

/-- The index pages of a part of the output that enter the sitemap, with their addresses, in the
order in which a walk comes to them. -/
structure Entering (context : Context) (base : Path) (origin : Location)
    (visited : List Text → Prop) (tree : FileTree) (pages : List (List Text × Text)) : Prop where
  ordered : pages.Pairwise fun first second =>
    WalksBefore (first.1 ++ [Page.indexName]) (second.1 ++ [Page.indexName])
  mem_iff : ∀ folder url, (folder, url) ∈ pages ↔
    visited (folder ++ [Page.indexName]) ∧ Enters context base origin tree folder url

/-- Processing a part of the output has added the addresses of its index pages one by one. -/
def Appended (context : Context) (base : Path) (origin : Location) (visited : List Text → Prop)
    (tree : FileTree) (urls result : List Text) : Prop :=
  ∃ pages, Entering context base origin visited tree pages ∧
    result = (pages.map Prod.snd).foldl Sitemap.add urls

theorem Appended.indexed (appended : Appended context base origin visited tree urls result) :
    Indexed context base origin visited tree urls result := by
  obtain ⟨pages, entering, rfl⟩ := appended
  intro url
  rw [Sitemap.mem_foldl_add, List.mem_map]
  refine or_congr_right (and_congr_right fun _ => ?_)
  constructor
  · rintro ⟨⟨folder, url⟩, member, rfl⟩
    exact ⟨folder, (entering.mem_iff folder url).1 member⟩
  · rintro ⟨folder, inside⟩
    exact ⟨(folder, url), (entering.mem_iff folder url).2 inside, rfl⟩

/-- Two parts of the output that are processed one after the other are one part. -/
theorem Appended.trans (settled : Settled context base origin visited tree middle urls found)
    (one : Appended context base origin visited tree urls found)
    (two : Appended context base origin others middle found result)
    (apart : ∀ parts, visited parts → ¬ others parts)
    (aside : ∀ folder name, visited (folder ++ [name]) →
      tree.HasFile (origin ++ (folder ++ [name])) → ¬ others (folder ++ [staticName name]))
    (sorted : ∀ first second, visited first → others second → WalksBefore first second) :
    Appended context base origin (fun parts => visited parts ∨ others parts) tree urls result := by
  obtain ⟨first, early, rfl⟩ := one
  obtain ⟨second, late, rfl⟩ := two
  have still : ∀ folder url, others (folder ++ [Page.indexName]) →
      (Enters context base origin middle folder url ↔ Enters context base origin tree folder url) :=
    fun folder url later => enters_congr (settled.node?_eq apart aside later)
  refine ⟨first ++ second, ⟨?_, fun folder url => ?_⟩, by rw [List.map_append, List.foldl_append]⟩
  · refine List.pairwise_append.2 ⟨early.ordered, late.ordered, fun page member other also => ?_⟩
    exact sorted _ _ ((early.mem_iff _ _).1 member).1 ((late.mem_iff _ _).1 also).1
  · rw [List.mem_append, early.mem_iff, late.mem_iff, or_and_right]
    exact or_congr_right (and_congr_right (still folder url))

theorem Appended.congr (appended : Appended context base origin visited tree urls result)
    (visits : ∀ parts, tree.HasFile (origin ++ parts) → (visited parts ↔ others parts)) :
    Appended context base origin others tree urls result := by
  obtain ⟨pages, entering, same⟩ := appended
  refine ⟨pages, ⟨entering.ordered, fun folder url => ?_⟩, same⟩
  rw [entering.mem_iff]
  exact and_congr_left fun enters => visits _ enters.hasFile

theorem appended_nil
    (none : ∀ folder url, visited (folder ++ [Page.indexName]) →
      ¬ Enters context base origin tree folder url) :
    Appended context base origin visited tree urls urls :=
  ⟨[], ⟨.nil, fun folder url => iff_of_false List.not_mem_nil fun inside =>
    none folder url inside.1 inside.2⟩, rfl⟩

section File

variable {path : Path} {location : Location} {text : Text}

theorem runs_readText (required : before.files.require path = .ok location)
    (ran : Runs (readText path) before text after) :
    ∃ octets modified plain, before.files.node? location = some (.file octets modified) ∧
      Utf8.decode octets = .ok plain ∧ text = Text.unifyLineEnds plain := by
  obtain ⟨octets, plain, read, decoded, unified, -⟩ := runs_readText_iff.1 ran
  obtain ⟨modified, there⟩ := read_of_require required read
  exact ⟨octets, modified, plain, there, decoded, unified⟩

theorem eq_nil_of_processFile (other : path.name ≠ Page.indexName)
    (ran : Runs (processFile context path) before url after) : url = [] := by
  rcases runs_processFile ran with ⟨-, -, none⟩ | ⟨-, text, content, -, -, ⟨index, -⟩ | ⟨-, none, -⟩⟩
  · exact none
  · exact absurd index other
  · exact none

theorem runs_processFile_indexName (index : path.name = Page.indexName)
    (ran : Runs (processFile context path) before url after) :
    ∃ text content, Runs (readText path) before text before ∧
      Component.expandAll text context.components (some path.text) = .ok content ∧
      (Text.contains Page.noIndexTag content = true ∧ url = [] ∨
        Text.contains Page.noIndexTag content = false ∧
          Page.canonicalURL context.config.baseURL path context.outputDirectory = .ok url) := by
  have page : isPage path = true := by rw [isPage_eq, index]; decide
  rw [processFile, page, if_neg (by decide)] at ran
  simp only [runs_bind, runs_ofExcept] at ran
  obtain ⟨text, middle, read, content, _, ⟨expanded, rfl⟩, ran⟩ := ran
  obtain rfl := onlyReads_readText path _ _ _ read
  refine ⟨text, content, read, expanded, ?_⟩
  rw [if_neg (not_not_intro index)] at ran
  simp only [runs_bind] at ran
  obtain ⟨_, middle, -, ran⟩ := ran
  split at ran
  · next tagged => exact Or.inl ⟨tagged, (runs_pure.1 ran).1⟩
  · next untagged =>
      exact Or.inr ⟨Bool.eq_false_iff.2 untagged, (runs_ofExcept.1 ran).1⟩

/-- A file brings its address exactly if it is an index page that enters the sitemap. -/
theorem appended_processFile (wellFormed : before.files.WellFormed)
    (required : before.files.require (base.extend (folder ++ [name])) =
      .ok (origin ++ (folder ++ [name])))
    (file : before.files.HasFile (origin ++ (folder ++ [name])))
    (ran : Runs (processFile context (base.extend (folder ++ [name]))) before url after) :
    Appended context base origin (folder ++ [name] <+: ·) before.files urls
      (Sitemap.add urls url) := by
  have only : ∀ inner other, folder ++ [name] <+: inner ++ [Page.indexName] →
      Enters context base origin before.files inner other →
      inner = folder ∧ Page.indexName = name := by
    intro inner other inside enters
    have same := eq_of_above wellFormed file.ne_directory inside enters.hasFile.ne_none
    exact List.append_singleton_inj.1 same
  have silent : Sitemap.add urls [] = urls := by simp [Sitemap.add]
  by_cases index : name = Page.indexName
  · subst index
    obtain ⟨text, content, read, expanded, outcome⟩ :=
      runs_processFile_indexName (Path.name_extend _ _ _) ran
    obtain ⟨octets, modified, plain, there, decoded, rfl⟩ := runs_readText required read
    have known : ∀ other, Enters context base origin before.files folder other →
        Text.contains Page.noIndexTag content = false ∧
          Page.canonicalURL context.config.baseURL (base.extend (folder ++ [Page.indexName]))
            context.outputDirectory = .ok other := by
      rintro other ⟨bytes, time, words, finished, held, read, done, untagged, canonical⟩
      rw [there] at held
      cases held
      rw [decoded] at read
      cases read
      rw [expanded] at done
      cases done
      exact ⟨untagged, canonical⟩
    rcases outcome with ⟨tagged, rfl⟩ | ⟨untagged, address⟩
    · rw [silent]
      refine appended_nil fun inner other inside enters => ?_
      obtain ⟨rfl, -⟩ := only inner other inside enters
      have untagged := (known other enters).1
      rw [tagged] at untagged
      cases untagged
    · refine ⟨[(folder, url)], ⟨List.pairwise_singleton _ _, fun inner other => ?_⟩, rfl⟩
      rw [List.mem_singleton, Prod.mk.injEq]
      constructor
      · rintro ⟨rfl, rfl⟩
        exact ⟨List.prefix_refl _, octets, modified, plain, content, there, decoded, expanded,
          untagged, address⟩
      · rintro ⟨inside, enters⟩
        obtain ⟨rfl, -⟩ := only inner other inside enters
        have canonical := (known other enters).2
        rw [address] at canonical
        exact ⟨rfl, (Except.ok.inj canonical).symm⟩
  · have none := eq_nil_of_processFile (by rwa [Path.name_extend]) ran
    rw [none, silent]
    exact appended_nil fun inner other inside enters =>
      index (only inner other inside enters).2.symm

end File

theorem gradual_appended (context : Context) (base : Path) (origin : Location) :
    Effect.Gradual (fun visited before _ => Appended context base origin visited before)
      context base origin where
  still unvisited := appended_nil fun _ _ inside enters => unvisited _ inside enters.hasFile
  file wellFormed _ _ required file ran := appended_processFile wellFormed required file ran
  trans settled _ := Appended.trans settled
  congr := Appended.congr

/-- Processing the output adds the addresses of all its index pages, one after the other. -/
theorem appended_processTree {origin : Location} (wellFormed : before.files.WellFormed)
    (opens : before.files.Opens context.outputDirectory origin)
    (ran : Runs (processTree context (before.files.depth + 1) context.outputDirectory urls)
      before result after) :
    Appended context context.outputDirectory origin (· ≠ []) before.files urls result :=
  ((gradual_appended context context.outputDirectory origin).processTree wellFormed opens ran).2

end Build

end StaticSite
