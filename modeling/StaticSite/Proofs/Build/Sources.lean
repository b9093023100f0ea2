import StaticSite.Build.Site
import StaticSite.Proofs.FrontMatter.Naming
import StaticSite.Proofs.Workspace.Writing

/-!
# What sources say

What becomes of a source file depends on its name and, for a document in Markdown, on the
header that its octets begin with.
-/

namespace StaticSite

namespace Build

open StaticSite.Action FileTree

/-- The fields of the header that octets begin with, if they are a document. -/
def fieldsOf (content : Bytes) : Option Fields :=
  match Utf8.decode (Utf8.dropByteOrderMark content) with
  | .ok text =>
    (FrontMatter.readDocument [] (Text.unifyLineEnds text)).toOption.map (·.header.fields)
  | .error _ => none

/-- The document that octets are, if they are one. -/
def documentOf (content : Bytes) : Option FrontMatter.Document :=
  match Utf8.decode (Utf8.dropByteOrderMark content) with
  | .ok text => (FrontMatter.readDocument [] (Text.unifyLineEnds text)).toOption
  | .error _ => none

theorem fieldsOf_eq (content : Bytes) :
    fieldsOf content = (documentOf content).map (·.header.fields) := by
  unfold fieldsOf documentOf
  split <;> rfl

/-- Whether a file with a name is a document in Markdown. -/
def isDocument (name : Text) : Bool := (Path.splitName name).2 == ".md".toList

/-- Whether a file with a name and a content is a draft that is left out of a site. -/
def IsSkippedDraft (buildDrafts : Bool) (name : Text) (content : Bytes) : Prop :=
  isDocument name = true ∧ buildDrafts = false ∧
    ∃ fields, fieldsOf content = some fields ∧ fields.isDraft = true

/-- Whether a content declares a feed. -/
def DeclaresFeed (content : Bytes) : Prop :=
  ∃ fields, fieldsOf content = some fields ∧ fields.value "type" = "feed"

/-- Whether there is a draft at a location that is left out of a site. -/
def SkipsAt (buildDrafts : Bool) (tree : FileTree) (location : Location) : Prop :=
  ∃ name content modified, location.getLast? = some name ∧
    tree.node? location = some (.file content modified) ∧
    IsSkippedDraft buildDrafts name content

/-- Whether a directory has an index document that declares a feed. -/
def FeedIn (tree : FileTree) (location : Location) : Prop :=
  ∃ content modified,
    tree.node? (location ++ [indexDocument]) = some (.file content modified) ∧
      DeclaresFeed content

/-- The draft at a location has the name that the location ends with. -/
theorem skipsAt_concat {buildDrafts : Bool} {tree : FileTree} {origin folder : Location}
    {name : Text} :
    SkipsAt buildDrafts tree (origin ++ (folder ++ [name])) ↔
      ∃ content modified,
        tree.node? (origin ++ (folder ++ [name])) = some (.file content modified) ∧
          IsSkippedDraft buildDrafts name content := by
  have last : (origin ++ (folder ++ [name])).getLast? = some name := by
    rw [← List.append_assoc, List.getLast?_concat]
  constructor
  · rintro ⟨other, content, modified, same, there, skipped⟩
    obtain rfl : name = other := Option.some.inj (last.symm.trans same)
    exact ⟨content, modified, there, skipped⟩
  · rintro ⟨content, modified, there, skipped⟩
    exact ⟨name, content, modified, last, there, skipped⟩

variable {before after : Workspace} {context : Context} {path : Path} {location : Location}

theorem read_of_require {tree : FileTree} {content : Bytes}
    (required : tree.require path = .ok location) (read : tree.read path = .ok content) :
    ∃ modified, tree.node? location = some (.file content modified) := by
  obtain ⟨target, led, there⟩ := FileTree.read_eq_ok_iff.1 read
  obtain rfl := Except.ok.inj (required.symm.trans led)
  exact there

/-- Reading a document gives what its content is and changes nothing. -/
theorem documentOf_of_runs {document : FrontMatter.Document}
    (required : before.files.require path = .ok location)
    (ran : Runs (readDocument path) before document after) :
    before = after ∧ ∃ content modified,
      before.files.node? location = some (.file content modified) ∧
        documentOf content = some document := by
  unfold readDocument at ran
  simp only [runs_bind, runs_ofExcept] at ran
  obtain ⟨text, middle, marked, known, rfl⟩ := ran
  obtain ⟨content, plain, read, decoded, rfl, rfl⟩ := runs_readMarkedText_iff.1 marked
  obtain ⟨modified, there⟩ := read_of_require required read
  refine ⟨rfl, content, modified, there, ?_⟩
  have named := FrontMatter.toOption_readDocument path.text [] (Text.unifyLineEnds plain)
  rw [known] at named
  rw [documentOf, decoded]
  exact named.symm

/-- Reading a document gives the fields of its content and changes nothing. -/
theorem runs_readDocument {document : FrontMatter.Document}
    (required : before.files.require path = .ok location)
    (ran : Runs (readDocument path) before document after) :
    before = after ∧ ∃ content modified,
      before.files.node? location = some (.file content modified) ∧
        fieldsOf content = some document.header.fields := by
  obtain ⟨same, content, modified, there, known⟩ := documentOf_of_runs required ran
  exact ⟨same, content, modified, there, by rw [fieldsOf_eq, known]; rfl⟩

theorem runs_feedFields? {fields : Option Fields} (opens : before.files.Opens path location)
    (ran : Runs (feedFields? path) before fields after) :
    before = after ∧ (fields.isSome ↔ FeedIn before.files location) := by
  unfold feedFields? at ran
  simp only [runs_bind, runs_inspect] at ran
  obtain ⟨answer, _, ⟨asked, rfl⟩, ran⟩ := ran
  have isName : IsName indexDocument := by decide
  obtain ⟨required, isFile⟩ := opens.isFile_child isName asked
  split at ran
  · simp only [runs_bind] at ran
    obtain ⟨document, middle, read, ended⟩ := ran
    obtain ⟨rfl, content, modified, there, same⟩ := runs_readDocument required read
    obtain ⟨rfl, rfl⟩ := runs_pure.1 ended
    refine ⟨rfl, ?_⟩
    constructor
    · intro declared
      refine ⟨content, modified, there, document.header.fields, same, ?_⟩
      by_contra other
      rw [if_neg other] at declared
      cases declared
    · rintro ⟨found, time, held, fields, read, declared⟩
      rw [there] at held
      cases held
      rw [same] at read
      cases read
      rw [if_pos declared]
      rfl
  · next absent =>
      obtain ⟨rfl, rfl⟩ := runs_pure.1 ran
      refine ⟨rfl, ?_⟩
      constructor
      · intro none
        cases none
      · rintro ⟨content, modified, there, -⟩
        exact absurd (isFile.2 ⟨content, modified, there⟩) absent

theorem onlyReads_readDocument (path : Path) : OnlyReads (readDocument path) := by
  unfold readDocument readMarkedText
  refine ((onlyReads_inspect _).bind fun content => ?_).bind fun text => onlyReads_ofExcept _
  split
  · exact onlyReads_pure _
  · exact onlyReads_throw _

theorem onlyReads_postEntries (context : Context) (paths : List Path) :
    OnlyReads (postEntries context paths) := by
  induction paths with
  | nil => exact onlyReads_pure []
  | cons path paths ih =>
      unfold postEntries
      refine (onlyReads_readDocument path).bind fun document => ?_
      split
      · exact ih
      · exact (onlyReads_ofExcept _).bind fun entry => ih.bind fun _ => onlyReads_pure _

/-- A feed is written into its directory and changes nothing else. -/
theorem runs_writeFeed {fields : Fields} {output : Path} (opens : before.files.Opens path location)
    (ran : Runs (writeFeed path fields context) before output after) :
    before.files.node? (location ++ [Feed.fileName]) ≠ some .directory ∧
      ∃ content modified, after.files =
        before.files.set (location ++ [Feed.fileName]) (.file content modified) := by
  unfold writeFeed at ran
  simp only [runs_bind, runs_inspect] at ran
  obtain ⟨children, _, ⟨listed, rfl⟩, entries, middle, found, _, written, wrote, _, last,
    printed, ended⟩ := ran
  have same := onlyReads_postEntries context _ _ _ _ found
  subst same
  have isName : IsName Feed.fileName := by decide
  obtain ⟨required, file, rfl⟩ := runs_writeText_child opens isName wrote
  obtain ⟨rfl, rfl⟩ := runs_pure.1 ended
  exact ⟨file, _, _, runs_print printed⟩

end Build

end StaticSite
