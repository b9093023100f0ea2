import StaticSite.Proofs.Build.Prevailing
import StaticSite.Proofs.Server.Containing

/-!
# The types of published pages

A page that is published under a name without a suffix is answered as a page because its text
begins like one.  But only one suffix of the source is dropped.  What is left of a stem with a dot
looks like a suffix, and the server goes by that without a look at the text.
-/

namespace StaticSite

namespace Server

open FileTree Page

/-- Whether a text begins like a page. -/
def BeginsPage (text : Text) : Prop := ∃ beginning ∈ pageBeginnings, beginning.toList <+: text

/-- Whether a page with a name is answered as one. -/
def IsTypedPage (name : Text) : Prop :=
  (Path.splitName name).2 = [] ∨ typeOfName? name = some "text/html".toList

theorem beginsPage_encode {text : Text} (begins : BeginsPage text) :
    beginsPage (Utf8.encode text) = true := by
  obtain ⟨beginning, member, rest, rfl⟩ := begins
  have short : ∀ beginning ∈ pageBeginnings, (Utf8.encode beginning.toList).length ≤ 64 := by
    decide
  unfold beginsPage
  rw [Utf8.encode_append, List.take_append, List.take_of_length_le (short beginning member)]
  refine List.any_eq_true.2 ⟨beginning, member, ?_⟩
  exact List.isPrefixOf_iff_prefix.2 (Utf8.isPrefix_decodeIgnoring _ _)

theorem eq_htmlType_iff {mediaType : Text} :
    (if isTextual mediaType then mediaType ++ "; charset=utf-8" else mediaType) = htmlType ↔
      mediaType = "text/html".toList := by
  have whole : htmlType = "text/html".toList ++ "; charset=utf-8".toList := rfl
  constructor
  · intro typed
    split at typed
    · exact List.append_cancel_right (typed.trans whole)
    · next plain =>
        rw [typed] at plain
        exact absurd (by decide) plain
  · rintro rfl
    rw [if_pos (by decide)]
    rfl

variable {tree : FileTree} {path : Path} {location : Location} {text : Text} {modified : Int}

/-- A file that begins like a page is answered as a page if its name has no suffix or that of a
page, and in no other case. -/
theorem contentType_of_beginsPage (read : tree.read path = .ok (Utf8.encode text))
    (begins : BeginsPage text) :
    ∃ mediaType, contentType tree path = .ok mediaType ∧
      (mediaType = htmlType ↔ IsTypedPage path.name) := by
  unfold contentType IsTypedPage
  split
  · next bare =>
      rw [read]
      refine ⟨htmlType, congrArg Except.ok (if_pos (beginsPage_encode begins)), ?_⟩
      exact iff_of_true rfl (Or.inl (List.isEmpty_iff.1 bare))
  · next suffixed =>
      have named : (Path.splitName path.name).2 ≠ [] :=
        fun none => suffixed (List.isEmpty_iff.2 none)
      rw [or_iff_right named]
      split
      · next unknown =>
          rw [unknown]
          exact ⟨_, rfl, iff_of_false (by decide) (by simp)⟩
      · next mediaType known =>
          rw [known, Option.some.injEq]
          exact ⟨_, rfl, eq_htmlType_iff⟩

section Requests

variable {folder : List Text} {name : Text} {base : Path} {content : Bytes}

/-- A request asks for the file with a name in a folder. -/
def AsksFor (tree : FileTree) (base : Path) (folder : List Text) (name target : Text) : Prop :=
  resolveRequest tree base target = .ok (some (base.extend (folder ++ [name])))

/-- There is a request for every file that a path leads to. -/
theorem exists_asksFor (areNames : ∀ part ∈ folder, IsName part) (isName : IsName name)
    (required : tree.require (base.extend (folder ++ [name])) = .ok location)
    (there : tree.node? location = some (.file content modified)) :
    ∃ target, AsksFor tree base folder name target := by
  have addressed : ∃ last, IsAddress folder last ∧
      addressedFile (addressText folder last) = folder ++ [name] := by
    by_cases index : name = Page.indexName
    · have isAddress : IsAddress folder [] := ⟨areNames, Or.inl rfl⟩
      exact ⟨[], isAddress, index ▸ isAddress.addressedFile⟩
    · have isAddress : IsAddress folder name := ⟨areNames, Or.inr isName⟩
      exact ⟨name, isAddress, by rw [isAddress.addressedFile, if_neg isName.1]⟩
  obtain ⟨last, isAddress, same⟩ := addressed
  unfold AsksFor
  rw [← same] at required ⊢
  exact ⟨_, resolveRequest_address isAddress required there⟩

/-- How requests for a file with a text are answered: if it begins like a page, its name decides
whether it is answered as one. -/
structure TypedByName (tree : FileTree) (base : Path) (folder : List Text) (name text : Text) :
    Prop where
  asked : ∃ target, AsksFor tree base folder name target
  answered : ∀ method target : Text, method = "GET" ∨ method = "HEAD" →
    AsksFor tree base folder name target →
    ∃ mediaType, respond tree base method target = .ok ⟨.ok, mediaType, Utf8.encode text⟩ ∧
      (BeginsPage text → (mediaType = htmlType ↔ IsTypedPage name))

theorem typedByName (areNames : ∀ part ∈ folder, IsName part) (isName : IsName name)
    (required : tree.require (base.extend (folder ++ [name])) = .ok location)
    (there : tree.node? location = some (.file (Utf8.encode text) modified)) :
    TypedByName tree base folder name text := by
  refine ⟨exists_asksFor areNames isName required there, ?_⟩
  intro method target asks resolved
  have read := read_of_file required there
  by_cases begins : BeginsPage text
  · obtain ⟨mediaType, typed, type⟩ := contentType_of_beginsPage read begins
    rw [Path.name_extend] at type
    exact ⟨mediaType, respond_of_resolved asks resolved required there typed, fun _ => type⟩
  · obtain ⟨mediaType, typed⟩ := contentType_of_read read
    exact ⟨mediaType, respond_of_resolved asks resolved required there typed,
      fun also => absurd also begins⟩

end Requests

section Published

open StaticSite.Action Build

variable {request : Request} {result : Result} {before after : Workspace} {folder : List Text}
  {name : Text} {content : Bytes}

/-- A page that is published under a path of its own is answered as a page, if it begins like one,
exactly if the name that it is published under has no suffix or that of a page. -/
theorem pages_typed_by_name (wellFormed : before.files.WellFormed)
    (built : Runs (site request) before result after) (page : isPublishedPage name = true)
    (there : before.files.node? (sourceLocation request.root before.files ++ (folder ++ [name])) =
      some (.file content modified))
    (published : ¬ IsSkippedDraft request.buildDrafts name content)
    (alone : ∀ other : Contributor, other.IsPresent request.buildDrafts before.files
      (sourceLocation request.root before.files) →
      other.target = folder ++ [publishedName name] → other = .file folder name) :
    ∃ (stages : Stages request before) (text : Text) (time : Int),
      result = stages.result ∧ after = stages.after ∧
      PublishedAs stages folder name content (Utf8.encode text) ∧
      after.files.node? (outputLocation request.root before.files ++
        (folder ++ [publishedName name])) = some (.file (Utf8.encode text) time) ∧
      TypedByName after.files (request.root.child Context.outputName) folder (publishedName name)
        text := by
  obtain ⟨stages, rfl, rfl⟩ := exists_stages built
  have present : (Contributor.file folder name).IsPresent request.buildDrafts before.files
      (sourceLocation request.root before.files) := ⟨content, modified, there, published⟩
  have prevails : (Contributor.file folder name).Prevails request.buildDrafts before.files
      (sourceLocation request.root before.files) :=
    ⟨present, fun other also same different => absurd (alone other also same) different⟩
  obtain ⟨octets, time, file, kept⟩ := stages.isPublished wellFormed prevails there
  have encoded : ∃ text, octets = Utf8.encode text := by
    cases kept with
    | asset other => exact absurd (page.symm.trans other) (by decide)
    | page => exact ⟨_, rfl⟩
    | document => exact ⟨_, rfl⟩
  obtain ⟨text, rfl⟩ := encoded
  have phases := stages.phases wellFormed
  have required := phases.require_published present
  rw [phases.outputDirectory_eq] at required
  have areNames : ∀ part ∈ folder ++ [publishedName name], IsName part := by
    have settled : phases.settled.HasFile (outputLocation request.root before.files ++
        (folder ++ [publishedName name])) :=
      phases.hasFile_settled.2 ⟨_, by simp, present, rfl⟩
    exact fun part member =>
      phases.settle.wellFormed.isName settled.ne_none (List.mem_append_right _ member)
  exact ⟨stages, text, time, rfl, rfl, kept, file,
    typedByName (fun part member => areNames part (List.mem_append_left _ member))
      (areNames _ (by simp)) required file⟩

namespace Example

open Build.Example

theorem present_versioned :
    clashingBefore.files.node? (sourceLocation Build.Example.request.root clashingBefore.files ++
        ([] ++ ["v1.2.html".toList])) = some (.file (Utf8.encode "<html>") 0) ∧
      ¬ IsSkippedDraft Build.Example.request.buildDrafts "v1.2.html".toList
        (Utf8.encode "<html>") :=
  ⟨by decide, not_isSkippedDraft_of_not_document (by decide) _⟩

theorem alone_versioned : ∀ other : Contributor,
    other.IsPresent Build.Example.request.buildDrafts clashingBefore.files
      (sourceLocation Build.Example.request.root clashingBefore.files) →
    other.target = [] ++ [publishedName "v1.2.html".toList] →
    other = .file [] "v1.2.html".toList := by
  intro other present target
  have place : publishedName "v1.2.html".toList = "v1.2".toList := by decide
  rw [place] at target
  cases other with
  | sitemap => exact absurd target (by decide)
  | feed folder => exact absurd (List.append_singleton_inj.1 target).2 (by decide)
  | file folder name =>
      obtain ⟨rfl, named⟩ := List.append_singleton_inj.1 target
      obtain ⟨content, modified, there, -⟩ := present
      have only : ∀ entry ∈ clashingSources,
          publishedName (entry.1.getLast?.getD []) = "v1.2".toList →
          entry.1.getLast?.getD [] = "v1.2.html".toList := by decide
      have last : (sourceLocation Build.Example.request.root clashingBefore.files ++
          ([] ++ [name])).getLast?.getD [] = name := by simp
      have listed := only _ (mem_of_node? there (by simp))
      rw [last] at listed
      rw [listed named]

theorem pages_typed_by_name_versioned :
    clashingBefore.files.WellFormed ∧
      Runs (site Build.Example.request) clashingBefore clashingStages.result clashingStages.after ∧
      isPublishedPage "v1.2.html".toList = true ∧
      ∃ (stages : Stages Build.Example.request clashingBefore) (text : Text) (time : Int),
        clashingStages.result = stages.result ∧ clashingStages.after = stages.after ∧
        PublishedAs stages [] "v1.2.html".toList (Utf8.encode "<html>") (Utf8.encode text) ∧
        clashingStages.after.files.node?
          (outputLocation Build.Example.request.root clashingBefore.files ++
            ([] ++ [publishedName "v1.2.html".toList])) = some (.file (Utf8.encode text) time) ∧
        TypedByName clashingStages.after.files
          (Build.Example.request.root.child Context.outputName) []
          (publishedName "v1.2.html".toList) text :=
  ⟨wellFormed_clashingBefore, clashingStages.runs, by decide,
    pages_typed_by_name wellFormed_clashingBefore clashingStages.runs (by decide)
      present_versioned.1 present_versioned.2 alone_versioned⟩

/-- A page that begins like one and is published under a path of its own is answered as a file of
no known type. -/
theorem not_typed_versioned :
    Runs (site Build.Example.request) clashingBefore clashingStages.result clashingStages.after ∧
      isPublishedPage "v1.2.html".toList = true ∧
      (Contributor.file [] "v1.2.html".toList).IsPresent Build.Example.request.buildDrafts
        clashingBefore.files
        (sourceLocation Build.Example.request.root clashingBefore.files) ∧
      (∀ other : Contributor, other.IsPresent Build.Example.request.buildDrafts clashingBefore.files
        (sourceLocation Build.Example.request.root clashingBefore.files) →
        other.target = [] ++ [publishedName "v1.2.html".toList] →
        other = .file [] "v1.2.html".toList) ∧
      clashingStages.after.files.node?
        (outputLocation Build.Example.request.root clashingBefore.files ++
          ([] ++ [publishedName "v1.2.html".toList])) = some (.file (Utf8.encode "<html>") 0) ∧
      BeginsPage "<html>" ∧
      respond clashingStages.after.files (Build.Example.request.root.child Context.outputName)
        "GET" "/v1.2" = .ok ⟨.ok, binaryType, Utf8.encode "<html>"⟩ ∧ binaryType ≠ htmlType := by
  refine ⟨clashingStages.runs, by decide, ⟨_, _, present_versioned⟩, alone_versioned, by decide,
    ⟨"<html", by decide, List.prefix_append _ [_]⟩, ?_, by decide⟩
  have resolved : resolveRequest clashingStages.after.files
      (Build.Example.request.root.child Context.outputName) "/v1.2" =
        .ok (some ((Build.Example.request.root.child Context.outputName).child "v1.2")) := by cbv
  have required : clashingStages.after.files.require
      ((Build.Example.request.root.child Context.outputName).child "v1.2") =
        .ok ["public".toList, "v1.2".toList] := by cbv
  have there : clashingStages.after.files.node? ["public".toList, "v1.2".toList] =
      some (.file (Utf8.encode "<html>") 0) := by decide
  have unknown : typeOfName? "v1.2".toList = none := by decide +kernel
  have typed : contentType clashingStages.after.files
      ((Build.Example.request.root.child Context.outputName).child "v1.2") = .ok binaryType := by
    unfold contentType
    rw [if_neg (by decide), Path.name_child]
    exact unknown ▸ rfl
  exact respond_of_resolved (Or.inl rfl) resolved required there typed

end Example

end Published

end Server

end StaticSite
