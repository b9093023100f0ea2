import StaticSite.NewSite
import StaticSite.Proofs.Config.Toml.Steps
import StaticSite.Proofs.Path
import StaticSite.Proofs.Text.LineEnds
import StaticSite.Proofs.Text.Searching

/-!
# The configuration of a new site

The name of a new site is written into its configuration as it is, between single quotes.  It is
read back as the name exactly if a text between single quotes may hold it: if it has no single quote
and no control character but tabs.
-/

namespace StaticSite

namespace Config

variable {key name : Text} {value other : Value} {entries more : List (Value × Value)}

theorem get?_append_of_none (absent : get? key entries = none) :
    get? key (entries ++ more) = get? key more := by
  induction entries with
  | nil => rfl
  | cons entry entries ih =>
      obtain ⟨candidate, held⟩ := entry
      cases candidate with
      | text candidate =>
          rw [get?] at absent
          split at absent
          · cases absent
          · next apart => rw [List.cons_append, get?, if_neg apart, ih absent]
      | _ => exact ih absent

theorem get?_append_of_some (found : get? key entries = some value) :
    get? key (entries ++ more) = some value := by
  induction entries with
  | nil => cases found
  | cons entry entries ih =>
      obtain ⟨candidate, held⟩ := entry
      cases candidate with
      | text candidate =>
          rw [get?] at found
          rw [List.cons_append, get?]
          split at found
          · next same => rw [if_pos same, found]
          · next apart => rw [if_neg apart, ih found]
      | _ => exact ih found

/-- Setting one key leaves the others. -/
theorem get?_put_of_ne (apart : name ≠ key) :
    get? key (put (.text name) other entries) = get? key entries := by
  induction entries with
  | nil => simp [put, get?, apart]
  | cons entry entries ih =>
      obtain ⟨candidate, held⟩ := entry
      cases candidate with
      | text candidate =>
          by_cases same : candidate = name
          · simp [put, get?, sameKey, same, apart]
          · simp [put, get?, sameKey, same, ih]
      | _ => simpa [put, get?, sameKey] using ih

namespace Toml

variable {text rest : Text} {table after : Table} {path : KeyPath} {state next : State}
  {change : Table → Option Table} {fuel : Nat}

section Keeping

/-! A key that holds a text keeps it: nothing can be added below it, and it cannot be set again. -/

theorem modifyTable_keeps {openLists : Bool} (held : get? key table = some (.text text))
    (keeps : ∀ before after, get? key before = some (.text text) → change before = some after →
      get? key after = some (.text text))
    (changed : modifyTable openLists change path table = some after) :
    get? key after = some (.text text) := by
  cases path with
  | nil => exact keeps table after held changed
  | cons part path =>
      have apart : get? part table ≠ some (.text text) → part ≠ key := by
        rintro other rfl
        exact other held
      have put_keeps : ∀ inner, put (.text part) inner table = after →
          get? part table ≠ some (.text text) → get? key after = some (.text text) := by
        rintro inner rfl other
        rw [get?_put_of_ne (apart other), held]
      rw [modifyTable] at changed
      split at changed
      · next missing =>
          obtain ⟨inner, -, made⟩ := Option.bind_eq_some_iff.1 changed
          exact put_keeps _ (Option.some.inj made) (by simp [missing])
      · next inner there =>
          obtain ⟨inner, -, made⟩ := Option.bind_eq_some_iff.1 changed
          exact put_keeps _ (Option.some.inj made) (by simp [there])
      · next items there =>
          split at changed
          · obtain ⟨inner, -, made⟩ := Option.bind_eq_some_iff.1 changed
            exact put_keeps _ (Option.some.inj made) (by simp [there])
          · cases changed
      · cases changed

theorem addKey_keeps (held : get? key table = some (.text text))
    (added : addKey name value table = some after) : get? key after = some (.text text) := by
  unfold addKey at added
  split at added
  · cases added
  · cases added
    exact get?_append_of_some held

theorem addTable_keeps (held : get? key table = some (.text text))
    (added : addTable name table = some after) : get? key after = some (.text text) := by
  unfold addTable at added
  split at added
  · cases added
    exact get?_append_of_some held
  · next items there =>
      cases added
      have apart : name ≠ key := by
        rintro rfl
        cases there.symm.trans held
      rw [get?_put_of_ne apart, held]
  · cases added

theorem readTable_keeps (held : get? key state.root = some (.text name))
    (read : readTable state text = .ok (next, rest)) : get? key next.root = some (.text name) := by
  unfold readTable at read
  obtain ⟨⟨path, behind⟩, -, read⟩ := bind_eq_ok_iff.1 read
  dsimp only at read
  split at read
  · cases read
  · obtain ⟨root, changed, read⟩ := bind_eq_ok_iff.1 read
    obtain ⟨behind, -, made⟩ := bind_eq_ok_iff.1 read
    cases made
    refine modifyTable_keeps held ?_ (demand_eq_ok_iff.1 changed)
    rintro before after held same
    cases same
    exact held

theorem readArrayTable_keeps (held : get? key state.root = some (.text name))
    (read : readArrayTable state text = .ok (next, rest)) :
    get? key next.root = some (.text name) := by
  unfold readArrayTable at read
  obtain ⟨⟨path, behind⟩, -, read⟩ := bind_eq_ok_iff.1 read
  dsimp only at read
  split at read
  · cases read
  · obtain ⟨root, changed, read⟩ := bind_eq_ok_iff.1 read
    obtain ⟨behind, -, made⟩ := bind_eq_ok_iff.1 read
    cases made
    exact modifyTable_keeps held (fun _ _ => addTable_keeps) (demand_eq_ok_iff.1 changed)

theorem readPair_keeps (held : get? key state.root = some (.text name))
    (read : readPair state text = .ok (next, rest)) : get? key next.root = some (.text name) := by
  unfold readPair at read
  obtain ⟨⟨path, behind⟩, -, read⟩ := bind_eq_ok_iff.1 read
  obtain ⟨behind, -, read⟩ := bind_eq_ok_iff.1 read
  obtain ⟨⟨value, behind⟩, -, read⟩ := bind_eq_ok_iff.1 read
  dsimp only at read
  split at read
  · cases read
  · split at read
    · cases read
    · obtain ⟨root, changed, made⟩ := bind_eq_ok_iff.1 read
      cases made
      exact modifyTable_keeps held (fun _ _ => addKey_keeps) (demand_eq_ok_iff.1 changed)

theorem readStatement_keeps (held : get? key state.root = some (.text name))
    (read : readStatement state text = .ok (next, rest)) :
    get? key next.root = some (.text name) := by
  unfold readStatement at read
  split at read
  · exact readArrayTable_keeps held read
  · exact readTable_keeps held read
  · cases read
    exact held
  · split at read
    · exact readPair_keeps held read
    · cases read
  · cases read
    exact held

theorem readStatements_keeps (held : get? key state.root = some (.text name))
    (read : readStatements fuel state text = .ok table) : get? key table = some (.text name) := by
  induction fuel generalizing state text with
  | zero => cases read
  | succ fuel ih =>
      unfold readStatements at read
      split at read
      · cases read
        exact held
      · exact ih held read
      · obtain ⟨⟨next, rest⟩, statement, read⟩ := bind_eq_ok_iff.1 read
        have still := readStatement_keeps held statement
        obtain ⟨behind, -, read⟩ := bind_eq_ok_iff.1 read
        split at read
        · cases read
          exact still
        · exact ih still read
        · cases read

end Keeping

section Literals

/-- What may stand between single quotes in one line. -/
def IsLiteral (text : Text) : Prop :=
  singleQuote ∉ text ∧ text.any (isControl ['\t']) = false

instance (text : Text) : Decidable (IsLiteral text) := inferInstanceAs (Decidable (_ ∧ _))

theorem isLiteral_append {first second : Text} :
    IsLiteral (first ++ second) ↔ IsLiteral first ∧ IsLiteral second := by
  simp only [IsLiteral, List.mem_append, not_or, List.any_append, Bool.or_eq_false_iff]
  tauto

/-- A text between single quotes ends at the first quote. -/
theorem readLiteral_eq_ok_iff {value : Text} :
    readLiteral [singleQuote] ['\t'] text = .ok (value, rest) ↔
      IsLiteral value ∧ text = value ++ singleQuote :: rest := by
  unfold readLiteral
  rw [bind_eq_ok_iff]
  constructor
  · rintro ⟨⟨found, behind⟩, cut, read⟩
    dsimp only at read
    split at read
    · cases read
    · next plain =>
        cases read
        obtain ⟨whole, first⟩ := Text.cut?_eq_some_iff.1 (demand_eq_ok_iff.1 cut)
        refine ⟨⟨fun inside => ?_, by simpa using plain⟩, by simpa using whole⟩
        obtain ⟨front, back, rfl⟩ := List.append_of_mem inside
        have early := first front (back ++ singleQuote :: rest) (by simpa using whole)
        simp only [List.length_append, List.length_cons] at early
        omega
  · rintro ⟨⟨single, plain⟩, rfl⟩
    refine ⟨(value, rest), demand_eq_ok_iff.2 ?_, ?_⟩
    · have behind : Text.cut? [singleQuote] (singleQuote :: rest) = some ([], rest) :=
        Text.cut?_append [singleQuote] rest
      rw [Text.cut?_append_of_passes (Text.passes_of_not_mem single), behind]
      simp
    · dsimp only
      rw [plain]
      rfl

theorem ne_of_bare {first other : Char} (bare : isBareKey first = true)
    (mark : isBareKey other = false) : first ≠ other := by
  rintro rfl
  rw [bare] at mark
  cases mark

variable (bare : ∀ character ∈ key, isBareKey character = true) (named : key ≠ [])

include bare named

theorem readKey_bare (text : Text) : readKey (key ++ " =" ++ text) = .ok ([key], '=' :: text) := by
  obtain ⟨first, others, rfl⟩ := List.exists_cons_of_ne_nil named
  have begins : isBareKey first = true := bare first List.mem_cons_self
  have ends : isBareKey ' ' = false := by decide
  have part : readKeyPart (first :: others ++ " =" ++ text) =
      .ok (first :: others, ' ' :: '=' :: text) := by
    rw [List.append_assoc]
    unfold readKeyPart
    split
    · next none => cases none
    · next same => exact absurd (List.cons.inj same).1 (ne_of_bare begins (by decide))
    · next character rest _ same =>
        rw [← (List.cons.inj same).1, if_neg (ne_of_bare begins (by decide)), if_pos begins,
          List.takeWhile_append_of_pos bare, List.dropWhile_append_of_pos bare]
        simp [ends]
  rw [readKey, readKeyParts, part]
  rfl

variable (new : get? key table = none)

include new

/-- A key without quotes with a text between single quotes adds one pair. -/
theorem readPair_literal (single : ¬ [singleQuote, singleQuote] <+: text) :
    readPair { root := table } (key ++ " = '" ++ text) =
      (readLiteral [singleQuote] ['\t'] text).map fun (value, rest) =>
        ({ root := table ++ [(.text key, .text value)] }, rest) := by
  have read : readKey (key ++ " = '" ++ text) = .ok ([key], '=' :: ' ' :: singleQuote :: text) := by
    have found := readKey_bare bare named (' ' :: singleQuote :: text)
    rwa [List.append_assoc] at found ⊢
  have value : readValue (2 * (singleQuote :: text).length + 2) 0 (singleQuote :: text) =
      (readLiteral [singleQuote] ['\t'] text).map fun (value, rest) => (.text value, rest) := by
    rw [readValue, if_neg (by decide), if_pos (Or.inr rfl), readText, Text.after?_eq_none single]
    cases readLiteral [singleQuote] ['\t'] text <;> rfl
  unfold readPair
  rw [read]
  show (readValue (2 * (singleQuote :: text).length + 2) 0 (singleQuote :: text) >>= _) = _
  rw [value]
  cases readLiteral [singleQuote] ['\t'] text with
  | error trouble => rfl
  | ok found =>
      have added : addKey key (.text found.1) table =
          some (table ++ [(.text key, .text found.1)]) := by
        rw [addKey, new]
        rfl
      show (demand (addKey key (.text found.1) table) >>= _) = _
      rw [added]
      rfl

theorem readStatement_literal (single : ¬ [singleQuote, singleQuote] <+: text) :
    readStatement { root := table } (key ++ " = '" ++ text) =
      (readLiteral [singleQuote] ['\t'] text).map fun (value, rest) =>
        ({ root := table ++ [(.text key, .text value)] }, rest) := by
  rw [← readPair_literal bare named new single]
  obtain ⟨first, others, rfl⟩ := List.exists_cons_of_ne_nil named
  have begins : isBareKey first = true := bare first List.mem_cons_self
  unfold readStatement
  split
  · next same => exact absurd (List.cons.inj same).1 (ne_of_bare begins (by decide))
  · next same => exact absurd (List.cons.inj same).1 (ne_of_bare begins (by decide))
  · next same => exact absurd (List.cons.inj same).1 (ne_of_bare begins (by decide))
  · next same => rw [← (List.cons.inj same).1, if_pos (Or.inl begins)]
  · next same => cases same

theorem readStatements_eq_bind (single : ¬ [singleQuote, singleQuote] <+: text) :
    readStatements (fuel + 1) { root := table } (key ++ " = '" ++ text) =
      (do
        let (value, rest) ← readLiteral [singleQuote] ['\t'] text
        let added := table ++ [(.text key, .text value)]
        match ← skipComment (skipSpaces rest) with
        | [] => return added
        | '\n' :: rest => readStatements fuel { root := added } rest
        | _ => throw .malformed) := by
  have read := readStatement_literal bare named new single
  obtain ⟨first, others, rfl⟩ := List.exists_cons_of_ne_nil named
  have begins : isBareKey first = true := bare first List.mem_cons_self
  have notSpace : first ≠ ' ' ∧ first ≠ '\t' :=
    ⟨ne_of_bare begins (by decide), ne_of_bare begins (by decide)⟩
  have skipped : skipSpaces (first :: others ++ " = '" ++ text) = first :: others ++ " = '" ++ text := by
    simp [skipSpaces, isSpace, notSpace]
  rw [readStatements, skipped]
  split
  · next same => cases same
  · next same => exact absurd (List.cons.inj same).1 (ne_of_bare begins (by decide))
  · rw [read]
    cases readLiteral [singleQuote] ['\t'] text <;> rfl

/-- A line with a text between single quotes is read, and then the lines behind it. -/
theorem readStatements_line {value : Text} (literal : IsLiteral value) :
    readStatements (fuel + 1) { root := table } (key ++ " = '" ++ (value ++ "'\n" ++ rest)) =
      readStatements fuel { root := table ++ [(.text key, .text value)] } rest := by
  have single : ¬ [singleQuote, singleQuote] <+: value ++ "'\n" ++ rest := by
    intro begins
    cases value with
    | nil => exact absurd (List.cons_prefix_cons.1 (List.cons_prefix_cons.1 begins).2).1 (by decide)
    | cons first value =>
        exact literal.1 ((List.cons_prefix_cons.1 begins).1 ▸ List.mem_cons_self)
  have read : readLiteral [singleQuote] ['\t'] (value ++ "'\n" ++ rest) =
      .ok (value, '\n' :: rest) :=
    readLiteral_eq_ok_iff.2 ⟨literal, by simp [singleQuote]⟩
  rw [readStatements_eq_bind bare named new single, read]
  rfl

/-- A line that begins with a text between single quotes keeps that text in what is read. -/
theorem get?_of_line (single : ¬ [singleQuote, singleQuote] <+: text)
    (read : readStatements fuel { root := table } (key ++ " = '" ++ text) = .ok after) :
    ∃ value, IsLiteral value ∧ get? key after = some (.text value) := by
  cases fuel with
  | zero => cases read
  | succ fuel =>
      rw [readStatements_eq_bind bare named new single] at read
      obtain ⟨⟨value, rest⟩, literal, read⟩ := bind_eq_ok_iff.1 read
      have held : get? key (table ++ [(.text key, .text value)]) = some (.text value) := by
        rw [get?_append_of_none new, get?, if_pos rfl]
      refine ⟨value, (readLiteral_eq_ok_iff.1 literal).1, ?_⟩
      obtain ⟨behind, -, read⟩ := bind_eq_ok_iff.1 read
      split at read
      · cases read
        exact held
      · exact readStatements_keeps held read
      · cases read

end Literals

end Toml

end Config

namespace NewSite

open Config

variable {site : Path} {name : Text} {config : SiteConfig}

/-- The base address of a new site. -/
def baseOf (name : Text) : Text := "https://" ++ name ++ ".com/"

/-- What the configuration of a new site is read as. -/
def settings (site : Path) (name : Text) : Except Fault SiteConfig := do
  siteConfig <| ← entriesOf (site.child defaultName) (Text.unifyLineEnds (configuration name))

/-- The lines of the configuration behind the base address. -/
def otherSettings (name : Text) : Text :=
  "languageCode" ++ " = '" ++ ("en-us" ++ "'\n" ++
    ("title" ++ " = '" ++ (name ++ "'\n" ++ ([] : Text))))

theorem configuration_eq (name : Text) :
    configuration name = "baseURL" ++ " = '" ++ (baseOf name ++ "'\n" ++ otherSettings name) := by
  have front : "baseURL = 'https://".toList =
      "baseURL".toList ++ (" = '".toList ++ "https://".toList) := by
    simp
  have middle : ".com/'\nlanguageCode = 'en-us'\ntitle = '".toList =
      ".com/".toList ++ ("'\n".toList ++ ("languageCode".toList ++ (" = '".toList ++
        ("en-us".toList ++ ("'\n".toList ++ ("title".toList ++ " = '".toList)))))) := by
    simp
  unfold configuration baseOf otherSettings
  simp only [front, middle, List.append_assoc, List.append_nil]

theorem formatOf_defaultName (site : Path) : formatOf (site.child defaultName).suffix = .toml := by
  rw [Path.suffix, Path.name_child]
  decide

theorem settings_eq (site : Path) (name : Text) :
    settings site name =
      match Toml.readStatements ((Text.unifyLineEnds (configuration name)).length + 2) {}
        (Text.unifyLineEnds (configuration name)) with
      | .ok entries => siteConfig entries
      | .error .malformed => .error (.config (.malformed .toml (site.child defaultName).text))
      | .error (.fault fault) => .error fault := by
  have plain : ¬ "\r\n".toList <:+: Text.unifyLineEnds (configuration name) := by
    intro inside
    exact Text.not_mem_unifyLineEnds _ (inside.subset (by decide))
  unfold settings entriesOf
  rw [formatOf_defaultName]
  dsimp only [readAs]
  rw [Toml.read, Text.replace_eq_self plain]
  rcases Toml.readStatements ((Text.unifyLineEnds (configuration name)).length + 2) {}
    (Text.unifyLineEnds (configuration name)) with ⟨_ | fault⟩ | entries <;> rfl

theorem isLiteral_baseOf : Toml.IsLiteral (baseOf name) ↔ Toml.IsLiteral name := by
  have around : Toml.IsLiteral "https://" ∧ Toml.IsLiteral ".com/" := by decide
  unfold baseOf
  exact ⟨fun literal => (Toml.isLiteral_append.1 (Toml.isLiteral_append.1 literal).1).2,
    fun literal => Toml.isLiteral_append.2 ⟨Toml.isLiteral_append.2 ⟨around.1, literal⟩, around.2⟩⟩

theorem readStatements_configuration (literal : Toml.IsLiteral name) (fuel : Nat) :
    Toml.readStatements (fuel + 1 + 1 + 1 + 1) {} (configuration name) =
      .ok [(.text "baseURL", .text (baseOf name)), (.text "languageCode", .text "en-us"),
        (.text "title", .text name)] := by
  rw [configuration_eq]
  refine (Toml.readStatements_line (List.all_eq_true.1 (by decide)) (by decide) rfl (isLiteral_baseOf.2 literal)).trans ?_
  refine (Toml.readStatements_line (List.all_eq_true.1 (by decide)) (by decide) (by simp [get?]) (by decide)).trans ?_
  refine (Toml.readStatements_line (List.all_eq_true.1 (by decide)) (by decide) (by simp [get?]) literal).trans ?_
  rfl

theorem siteConfig_baseOf (name : Text) :
    siteConfig [(.text "baseURL", .text (baseOf name)), (.text "languageCode", .text "en-us"),
      (.text "title", .text name)] = .ok ⟨baseOf name, "en-us", name⟩ := by
  have some : (baseOf name).isEmpty = false := by
    unfold baseOf
    simp
  have ends : Text.endsWith ['/'] (baseOf name) = true := by
    refine List.isSuffixOf_iff_suffix.2 ⟨"https://" ++ name ++ ".com", ?_⟩
    unfold baseOf
    simp
  simp [siteConfig, get?, textOf, some, ends, Value.asText]

theorem noReturn_of_isLiteral (literal : Toml.IsLiteral name) : '\r' ∉ name := by
  intro inside
  have plain := List.any_eq_false.1 literal.2 _ inside
  exact plain (by decide)

/-- A name that may stand between single quotes is read back from its configuration. -/
theorem settings_of_isLiteral (site : Path) (literal : Toml.IsLiteral name) :
    settings site name = .ok ⟨baseOf name, "en-us", name⟩ := by
  have noReturn := noReturn_of_isLiteral literal
  have plain : '\r' ∉ configuration name := by
    unfold configuration
    simp only [List.mem_append, not_or]
    exact ⟨⟨⟨⟨by decide, noReturn⟩, by decide⟩, noReturn⟩, by decide⟩
  obtain ⟨fuel, enough⟩ : ∃ fuel, (configuration name).length + 2 = fuel + 1 + 1 + 1 + 1 := by
    have ending : "'\n".toList.length = 2 := rfl
    refine ⟨(configuration name).length - 2, ?_⟩
    unfold configuration
    simp only [List.length_append]
    omega
  rw [settings_eq, Text.unifyLineEnds_of_not_mem plain, enough, readStatements_configuration literal]
  exact siteConfig_baseOf name

theorem baseURL_of_siteConfig {entries : List (Value × Value)} {base : Text}
    (held : get? "baseURL" entries = some (.text base)) (made : siteConfig entries = .ok config) :
    config.baseURL = base := by
  rw [siteConfig, held] at made
  dsimp only at made
  split at made
  · cases made
  · split at made
    · cases made
    · cases made
      rfl

/-- The base address is read as it is meant only if the name may stand between single quotes. -/
theorem isLiteral_of_settings (read : settings site name = .ok config)
    (base : config.baseURL = baseOf name) : Toml.IsLiteral name := by
  have lines : Text.unifyLineEnds (configuration name) = "baseURL" ++ " = '" ++
      ("https://" ++ Text.unifyLineEnds (name ++ (".com/" ++ "'\n" ++ otherSettings name))) := by
    have front : configuration name = "baseURL" ++ " = '" ++ "https://" ++
        (name ++ (".com/" ++ "'\n" ++ otherSettings name)) := by
      rw [configuration_eq]
      unfold baseOf
      simp only [List.append_assoc]
    rw [front, Text.unifyLineEnds_append (by decide)]
    simp only [List.append_assoc]
  rw [settings_eq] at read
  split at read
  · next entries statements =>
      rw [lines] at statements
      obtain ⟨value, literal, held⟩ :=
        Toml.get?_of_line (List.all_eq_true.1 (by decide)) (by decide) rfl (by simp [Toml.singleQuote]) statements
      rw [← baseURL_of_siteConfig held read, base] at literal
      exact isLiteral_baseOf.1 literal
  · cases read
  · cases read

end NewSite

end StaticSite
