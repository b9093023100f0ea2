import StaticSite.Proofs.Build.Sources
import StaticSite.Proofs.FileTree.Contents
import StaticSite.Proofs.FrontMatter.Beginning
import StaticSite.Proofs.Text.LineEnds

/-!
# Documents are no configurations

A file with the suffix of a document is read as JSON, and no text in JSON begins with a bar or
with a byte order mark.
-/

namespace StaticSite

namespace Config

theorem read_bar (rest : Text) : Json.read ('-' :: '-' :: rest) = .error .malformed := by
  have number : Json.readNumber true ('-' :: rest) = .error .malformed := rfl
  simp [Json.read, Json.skipBlanks, Json.readValue, Json.readPlain, number, bind, Except.bind]

theorem read_mark (rest : Text) : Json.read ('\uFEFF' :: rest) = .error .malformed := by
  have number : Json.readNumber false ('\uFEFF' :: rest) = .error .malformed := rfl
  simp [Json.read, Json.skipBlanks, Json.readValue, Json.readPlain, number, bind, Except.bind]

theorem read_of_bar {text : Text} (begins : FrontMatter.bar <+: text) :
    Json.read text = .error .malformed := by
  obtain ⟨rest, rfl⟩ := begins
  exact read_bar _

/-- The octets of a document are no text in JSON. -/
theorem read_of_fieldsOf {content : Bytes} {fields : Fields} {text : Text}
    (document : Build.fieldsOf content = some fields) (decoded : Utf8.decode content = .ok text) :
    Json.read (Text.unifyLineEnds text) = .error .malformed := by
  unfold Build.fieldsOf at document
  split at document
  · next plain ok =>
      cases read : FrontMatter.readDocument [] (Text.unifyLineEnds plain) with
      | error fault => simp [read, Except.toOption] at document
      | ok found =>
          have begins := FrontMatter.bar_isPrefix_of_readDocument read
          -- The mark is dropped from a document and stays in a configuration.
          unfold Utf8.dropByteOrderMark at ok
          split at ok
          · next octets =>
              have marked : Utf8.decode (0xEF :: 0xBB :: 0xBF :: octets) =
                (Utf8.strict (Utf8.scan none 3 octets)).map ('\uFEFF' :: ·) := rfl
              rw [marked] at decoded
              cases rest : Utf8.strict (Utf8.scan none 3 octets) with
              | error flaw =>
                  rw [rest] at decoded
                  cases decoded
              | ok later =>
                  rw [rest] at decoded
                  cases decoded
                  exact read_mark _
          · cases ok
            exact absurd (List.prefix_nil.1 begins) (by decide)
          · cases ok
            exact absurd (List.prefix_nil.1 begins) (by decide)
          · rw [ok, Except.ok.injEq] at decoded
            exact read_of_bar (decoded ▸ begins)
  · cases document

theorem load_eq_ok_iff {files : FileTree} {path : Path} {entries : List (Value × Value)} :
    load files path = .ok entries ↔ ∃ location content modified text,
      files.require path = .ok location ∧
      files.node? location = some (.file content modified) ∧
      Utf8.decode content = .ok text ∧ entriesOf path (Text.unifyLineEnds text) = .ok entries := by
  unfold load
  constructor
  · intro loaded
    obtain ⟨there, -, loaded⟩ := bind_eq_ok_iff.1 loaded
    cases there with
    | false => simp [bind, Except.bind, throw, throwThe, MonadExceptOf.throw] at loaded
    | true =>
        obtain ⟨content, read, told⟩ := bind_eq_ok_iff.1 loaded
        obtain ⟨location, required, modified, held⟩ := FileTree.read_eq_ok_iff.1 read
        cases decoded : Utf8.decode content with
        | error flaw => simp [decoded, throw, throwThe, MonadExceptOf.throw] at told
        | ok text =>
            rw [decoded] at told
            exact ⟨location, content, modified, text, required, held, decoded, told⟩
  · rintro ⟨location, content, modified, text, required, held, decoded, told⟩
    have there : files.exists? path = .ok true := by
      rw [FileTree.exists?, FileTree.probe_of_require required, held]
      rfl
    refine bind_eq_ok_iff.2 ⟨true, there, bind_eq_ok_iff.2 ⟨content, ?_, ?_⟩⟩
    · exact FileTree.read_of_file required held
    · rw [decoded]
      exact told

/-- The configuration is found in a tree that has the same directories and files that are read
alike. -/
theorem readSite_of_alike {first second : FileTree} {root : Path} {name : Text}
    {config : SiteConfig} (same : FileTree.SameDirectories first second)
    (alike : ∀ location, Option.Rel Utf8.ReadAlike (first.content? location)
      (second.content? location))
    (read : readSite first root name = .ok config) : readSite second root name = .ok config := by
  obtain ⟨entries, loaded, found⟩ := bind_eq_ok_iff.1 read
  obtain ⟨location, content, modified, text, led, there, decoded, told⟩ := load_eq_ok_iff.1 loaded
  obtain ⟨other, time, held, reads⟩ := FileTree.exists_of_rel (alike location) there
  obtain ⟨also, again, unified⟩ := reads.plain text decoded
  have reloaded : load second (root.append (Path.parse name)) = .ok entries :=
    load_eq_ok_iff.2 ⟨location, other, time, also, same.require led, held, again,
      unified.symm ▸ told⟩
  exact bind_eq_ok_iff.2 ⟨entries, reloaded, found⟩

/-- A path to a file ends with the file's name. -/
theorem getLast?_of_file {tree : FileTree} {path : Path} {location : Location} {content : Bytes}
    {modified : Int} (wellFormed : tree.WellFormed) (required : tree.require path = .ok location)
    (held : tree.node? location = some (.file content modified)) (longer : path.parts ≠ [])
    (notHere : path.name ≠ ['.']) : location.getLast? = some path.name := by
  obtain ⟨anchor, parts⟩ := path
  obtain ⟨before, name, rfl⟩ := (List.eq_nil_or_concat parts).resolve_left longer
  rw [List.concat_eq_append] at *
  have named : Path.name ⟨anchor, before ++ [name]⟩ = name := by simp [Path.name]
  rw [named] at notHere ⊢
  have led := (FileTree.locate_eq_ok_iff.1 (FileTree.require_eq_ok_iff.1 required).2).2
  rw [FileTree.follow_append] at led
  generalize tree.follow _ before = middle at led
  cases middle with
  | error refusal => cases led
  | ok middle =>
      have last : tree.follow middle [name] = .ok location := led
      simp only [FileTree.follow, if_neg notHere] at last
      split at last
      · cases last
      · cases last
      · next directory =>
          split at last
          · -- The directory above a directory is no file.
            cases last
            rcases List.eq_nil_or_concat middle with rfl | ⟨above, part, rfl⟩
            · rw [List.dropLast_nil, FileTree.node?_nil] at held
              cases held
            · rw [List.concat_eq_append] at directory held
              have found : tree.node? (above ++ [part]) ≠ none := by simp [directory]
              rw [List.dropLast_concat, wellFormed.node?_parent found] at held
              cases held
          · split at last
            · cases last
            · cases last
              rw [List.getLast?_concat]

/-- A file is at no path that is given by nothing but slashes and dots. -/
theorem named_of_file {tree : FileTree} {root : Path} {rooted location : Location} {name : Text}
    {content : Bytes} {modified : Int} (opens : tree.Opens root rooted)
    (required : tree.require (root.append (Path.parse name)) = .ok location)
    (held : tree.node? location = some (.file content modified)) :
    (root.append (Path.parse name)).parts ≠ [] ∧ (root.append (Path.parse name)).name ≠ ['.'] := by
  have appended : ∃ before, (root.append (Path.parse name)).parts =
      before ++ (Path.parse name).parts := by
    unfold Path.append
    split
    · exact ⟨root.parts, rfl⟩
    · exact ⟨[], rfl⟩
  have longer : (Path.parse name).parts ≠ [] := by
    intro empty
    unfold Path.append at required
    split at required
    · rw [empty, List.append_nil] at required
      have same : location = rooted := Except.ok.inj (required.symm.trans opens.1)
      rw [same, opens.2] at held
      cases held
    · next anchored =>
        have led := (FileTree.locate_eq_ok_iff.1 (FileTree.require_eq_ok_iff.1 required).2).2
        rw [empty, if_neg anchored] at led
        cases led
        rw [FileTree.node?_nil] at held
        cases held
  obtain ⟨before, parts⟩ := appended
  obtain ⟨early, last, whole⟩ := (List.eq_nil_or_concat (Path.parse name).parts).resolve_left longer
  rw [List.concat_eq_append] at whole
  have kept : last ∈ (Path.parse name).parts := by simp [whole]
  have plain : last ≠ ['.'] := by
    simp only [Path.parse, List.mem_filter, decide_eq_true_eq] at kept
    exact kept.2.2
  refine ⟨by simp [parts, longer], ?_⟩
  rw [Path.name, parts, whole, ← List.append_assoc, List.getLast?_concat]
  exact plain

theorem formatOf_document : formatOf ".md".toList = .json := by decide

/-- A configuration that is read is no document. -/
theorem not_document_of_readSite {tree : FileTree} {root : Path} {rooted location : Location}
    {name last : Text} {config : SiteConfig} {content : Bytes} {modified : Int}
    (wellFormed : tree.WellFormed) (opens : tree.Opens root rooted)
    (read : readSite tree root name = .ok config)
    (required : tree.require (root.append (Path.parse name)) = .ok location)
    (held : tree.node? location = some (.file content modified))
    (ends : location.getLast? = some last) (document : Build.isDocument last = true) :
    Build.fieldsOf content = none := by
  by_contra readable
  obtain ⟨fields, readable⟩ := Option.ne_none_iff_exists'.1 readable
  obtain ⟨longer, notHere⟩ := named_of_file opens required held
  have named := getLast?_of_file wellFormed required held longer notHere
  rw [ends, Option.some.injEq] at named
  have suffix : (root.append (Path.parse name)).suffix = ".md".toList := by
    rw [Path.suffix, ← named]
    exact eq_of_beq document
  obtain ⟨entries, loaded, -⟩ := bind_eq_ok_iff.1 read
  obtain ⟨place, octets, time, text, led, there, decoded, told⟩ := load_eq_ok_iff.1 loaded
  rw [required, Except.ok.injEq] at led
  subst led
  rw [held] at there
  cases there
  have malformed := read_of_fieldsOf readable decoded
  rw [entriesOf, suffix, formatOf_document] at told
  simp only [readAs, malformed] at told
  cases told

/-- The configuration is found in a tree that has the same directories and all files but some
documents. -/
theorem readSite_of_kept {first second : FileTree} {root : Path} {rooted : Location} {name : Text}
    {config : SiteConfig} (wellFormed : first.WellFormed)
    (same : FileTree.SameDirectories first second) (opens : first.Opens root rooted)
    (kept : ∀ location content, first.content? location = some content →
      second.content? location = some content ∨ ∃ last, location.getLast? = some last ∧
        Build.isDocument last = true ∧ Build.fieldsOf content ≠ none)
    (read : readSite first root name = .ok config) : readSite second root name = .ok config := by
  obtain ⟨entries, loaded, found⟩ := bind_eq_ok_iff.1 read
  obtain ⟨location, content, modified, text, led, there, decoded, told⟩ := load_eq_ok_iff.1 loaded
  have held := kept location content (FileTree.content?_eq_some_iff.2 ⟨modified, there⟩)
  rcases held with held | ⟨last, ends, document, readable⟩
  · obtain ⟨time, also⟩ := FileTree.content?_eq_some_iff.1 held
    have again : load second (root.append (Path.parse name)) = .ok entries :=
      load_eq_ok_iff.2 ⟨location, content, time, text, same.require led, also, decoded, told⟩
    exact bind_eq_ok_iff.2 ⟨entries, again, found⟩
  · exact absurd (not_document_of_readSite wellFormed opens read led there ends document) readable

end Config

end StaticSite
