import StaticSite.Config.SiteConfig
import StaticSite.Proofs.Config.Json.Breaking
import StaticSite.Proofs.Config.Toml.Statements
import StaticSite.Proofs.Config.Yaml.Making
import StaticSite.Proofs.Config.Yaml.Nesting
import StaticSite.Proofs.FileTree.Opening

/-!
# Loading a configuration

A file that is there gives a mapping, or it is told that it is no configuration, whatever its octets
are, as long as all its values can be made.  A value that has the form of its format and yet cannot be
made gives another fault: a collection that is nested too deeply or an integer with too many digits in
any format, and in YAML also a day that the calendar does not have and other texts that are not those
of their tags.
-/

namespace StaticSite

namespace Config

variable {files : FileTree} {path : Path} {content : Bytes} {text : Text} {fault : Fault}

namespace Yaml

variable {nodes : Array Node}

/-- The nodes of a text are known from the start. -/
theorem sound_begin (nodes : Array Node) :
    Sound nodes { nodes, products := Array.replicate nodes.size none, merges := mergeCount nodes } where
  stands number := by
    cases found : nodes[number]? with
    | none => exact Or.inr ⟨found, rfl⟩
    | some node =>
        cases node with
        | scalar tag text => exact Or.inl ⟨tag, found, Or.inl rfl⟩
        | sequence tag items => exact found
        | mapping tag entries => exact ⟨entries, found⟩
  merges := rfl

/-- A configuration in YAML fails only at an escape that is no character, where collections are
nested too deeply, and at a node of which no value can be made. -/
theorem cases_of_read (failed : read text = .error (.fault fault)) :
    Escapes text fault ∨ (∃ tokens, tokenize text = .ok tokens ∧ Nests tokens fault) ∨
      ∃ nodes root, compose text = .ok (nodes, some root) ∧ Breaks nodes fault := by
  unfold read at failed
  rcases bind_eq_error_iff.1 failed with failed | ⟨⟨nodes, root⟩, composed, failed⟩
  · rcases nests_of_compose failed with escapes | nests
    · exact Or.inl escapes
    · exact Or.inr (Or.inl nests)
  · cases root with
    | none => cases failed
    | some root =>
        have keeps : Keeps nodes (do let _ ← make root; fillAll (nodes.size + 1)) :=
          (keeps_make root).bind fun _ => keeps_fillAll _
        have may := keeps _ (sound_begin nodes)
        rcases bind_eq_error_iff.1 failed with failed | ⟨result, -, made⟩
        · rw [failed] at may
          exact Or.inr (Or.inr ⟨nodes, root, composed, may⟩)
        · cases made

end Yaml

/-- A text in a format that has a value which cannot be made, with the fault that it gives. -/
inductive Unmakeable : ConfigFormat → Text → Fault → Prop where
  /-- The reader of JSON comes to such a value. -/
  | json {text : Text} {fault : Fault} (breaks : Json.Breaks 0 (Json.skipBlanks text) fault) :
      Unmakeable .json text fault
  /-- The reader of TOML comes to a pair with such a value. -/
  | toml {text rest : Text} {fault : Fault} {state : Toml.State}
      (comes : Toml.Comes (Text.replace "\r\n" "\n" text) state rest)
      (pair : Toml.OfPair (Toml.skipSpaces rest) fault) : Unmakeable .toml text fault
  /-- A quoted text in YAML has the escape of a number that is no character. -/
  | escape {text : Text} {fault : Fault} (escapes : Yaml.Escapes text fault) :
      Unmakeable .yaml text fault
  /-- The collections of a text in YAML are nested too deeply. -/
  | nesting {text : Text} {tokens : List Yaml.Token} {fault : Fault}
      (scanned : Yaml.tokenize text = .ok tokens) (nests : Yaml.Nests tokens fault) :
      Unmakeable .yaml text fault
  /-- A node of a text in YAML has no value. -/
  | node {text : Text} {nodes : Array Yaml.Node} {root : Nat} {fault : Fault}
      (composed : Yaml.compose text = .ok (nodes, some root)) (breaks : Yaml.Breaks nodes fault) :
      Unmakeable .yaml text fault

theorem unmakeable_of_readAs {format : ConfigFormat}
    (failed : readAs format text = .error (.fault fault)) : Unmakeable format text fault := by
  cases format with
  | json => exact .json (Json.read_eq_fault_iff.1 failed)
  | toml =>
      obtain ⟨state, rest, comes, pair⟩ := Toml.read_eq_fault_iff.1 failed
      exact .toml comes pair
  | yaml =>
      rcases bind_eq_error_iff.1 failed with failed | ⟨value, -, made⟩
      · rcases Yaml.cases_of_read failed with escapes | ⟨tokens, scanned, nests⟩ |
          ⟨nodes, root, composed, breaks⟩
        · exact .escape escapes
        · exact .nesting scanned nests
        · exact .node composed breaks
      · split at made
        · cases made
        · cases made

/-- The readers of TOML and JSON fail at every such value to which they come. -/
theorem Unmakeable.readAs_eq {format : ConfigFormat} (unmakeable : Unmakeable format text fault)
    (exactly : format ≠ .yaml) : readAs format text = .error (.fault fault) := by
  cases unmakeable with
  | json breaks => exact Json.read_eq_fault_iff.2 breaks
  | toml comes pair => exact Toml.read_eq_fault_iff.2 ⟨_, _, comes, pair⟩
  | escape => exact absurd rfl exactly
  | nesting => exact absurd rfl exactly
  | node => exact absurd rfl exactly

theorem entriesOf_of_unmakeable (failed : readAs (formatOf path.suffix) text = .error (.fault fault)) :
    entriesOf path text = .error fault := by
  unfold entriesOf
  simp only [failed]

/-- What is read in a format is a mapping, is told to be no configuration, or cannot be made. -/
theorem entriesOf_cases (path : Path) (text : Text) :
    (∃ entries, entriesOf path text = .ok entries) ∨
      (∃ reason, entriesOf path text = .error (.config reason)) ∨
      ∃ fault, entriesOf path text = .error fault ∧
        Unmakeable (formatOf path.suffix) text fault := by
  cases read : readAs (formatOf path.suffix) text with
  | error trouble =>
      cases trouble with
      | malformed =>
          refine Or.inr (Or.inl ⟨.malformed (formatOf path.suffix) path.text, ?_⟩)
          unfold entriesOf
          simp only [read]
      | fault fault =>
          exact Or.inr (Or.inr ⟨fault, entriesOf_of_unmakeable read, unmakeable_of_readAs read⟩)
  | ok value =>
      unfold entriesOf
      simp only [read]
      split
      · next same => cases same
      · next same => cases same
      · exact Or.inl ⟨_, rfl⟩
      · exact Or.inr (Or.inl ⟨.noMapping path.text, rfl⟩)

theorem load_of_read (read : files.read path = .ok content) (there : files.exists? path = .ok true) :
    load files path =
      match Utf8.decode content with
      | .error _ => .error (.config (.encoding path.text))
      | .ok text => entriesOf path (Text.unifyLineEnds text) := by
  unfold load
  rw [there, read]
  rfl

end Config

namespace Config.Example

/-- A configuration with a day that February does not have. -/
def leapSite : FileTree :=
  ⟨[], [(["site.yaml".toList], .file (Utf8.encode "when: 2024-02-30\n") 0)]⟩

def leapPath : Path := ⟨.here, ["site.yaml".toList]⟩

/-- The fault of what has failed. -/
def faultOf {α : Type} : Except Fault α → Option Fault
  | .ok _ => none
  | .error fault => some fault

theorem load_leapSite :
    load leapSite leapPath = .error (.value "day is out of range for month") := by
  have failed : faultOf (load leapSite leapPath) = some (.value "day is out of range for month") := by
    decide +kernel
  cases loaded : load leapSite leapPath with
  | ok entries =>
      rw [loaded] at failed
      cases failed
  | error fault =>
      rw [loaded] at failed
      exact congrArg _ (Option.some.inj failed)

theorem isFile_leapSite : leapSite.isFile leapPath = .ok true := by decide

end Config.Example

end StaticSite
