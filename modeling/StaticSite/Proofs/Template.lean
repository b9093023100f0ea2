import Mathlib.Data.List.Induction
import StaticSite.Page.Document
import StaticSite.Proofs.Dictionary
import StaticSite.Proofs.Text.Counting

/-!
# Substituting values

A template is rendered key by key: the markers of a key give way to its value in the text that
the keys before it have left.  To put all values in at once is one scan of the template, which
does not search the values and for which the order of the keys is nothing.  The two are the same
as long as no value, together with the text around it, makes a marker of a later key.
-/

namespace StaticSite

namespace Template

/-- Put the values of entries into a template in one scan from the left to the right; `skip`
characters of the last marker are still to be passed over. -/
def substituteFrom (entries : List (Text × Text)) : (skip : Nat) → Text → Text
  | _, [] => []
  | skip + 1, _ :: text => substituteFrom entries skip text
  | 0, character :: text =>
    match entries.find? fun entry => Text.startsWith (marker entry.1) (character :: text) with
    | some (key, value) => value ++ substituteFrom entries ((marker key).length - 1) text
    | none => character :: substituteFrom entries 0 text

/-- Put all values of entries into a template at once. -/
def substitute (entries : List (Text × Text)) (template : Text) : Text :=
  substituteFrom entries 0 template

/-- Whether the markers of keys stand apart in every text: no marker begins within another one. -/
structure Apart (keys : List Text) : Prop where
  within : ∀ key ∈ keys, Text.Passes (marker key) (marker key).tail
  between : ∀ key ∈ keys, ∀ other ∈ keys, other ≠ key → Text.Passes (marker other) (marker key)

/-- Whether each key finds the markers of the template and no others when its turn comes and the
values of the keys before it are in the text.  A value that is its own marker changes nothing. -/
def Undisturbed (template : Text) (entries : List (Text × Text)) : Prop :=
  ∀ front key value, front ++ [(key, value)] <+: entries →
    value = marker key ∨
      Text.occurrences (marker key) (substitute front template) =
        Text.occurrences (marker key) template

/-- A piece of a template: a marker, or a character at which none begins. -/
inductive Piece where
  | plain (character : Char)
  | marker (key : Text)
  deriving DecidableEq

def Piece.written : Piece → Text
  | plain character => [character]
  | marker key => Template.marker key

/-- What comes in for a piece. -/
def Piece.filled (entries : List (Text × Text)) : Piece → Text
  | plain character => [character]
  | marker key => (Dictionary.lookup key entries).getD (Template.marker key)

/-- A piece with the markers of one key as blanks. -/
def Piece.blank (entries : List (Text × Text)) (key : Text) (piece : Piece) : Option Text :=
  if piece = .marker key then none else some (piece.filled entries)

/-- Whether pieces are those of a scan for the markers of some keys. -/
def Scanned (keys : List Text) : List Piece → Prop
  | [] => True
  | .plain character :: later =>
    (∀ key ∈ keys, ¬ marker key <+: character :: later.flatMap Piece.written) ∧ Scanned keys later
  | .marker key :: later => key ∈ keys ∧ Scanned keys later

variable {keys : List Text} {entries front : List (Text × Text)} {pieces : List Piece}
  {key value text rest template : Text}

theorem marker_eq (key : Text) :
    marker key = '{' :: '{' :: ' ' :: '.' :: (key ++ Component.closing) := by
  simp [marker, Component.opening]

theorem marker_ne_nil (key : Text) : marker key ≠ [] := by simp [marker_eq]

theorem Apart.solitary (apart : Apart keys) (member : key ∈ keys) : Text.Solitary (marker key) :=
  ⟨marker_ne_nil key, apart.within key member⟩

theorem Apart.of_subset {others : List Text} (apart : Apart keys) (subset : others ⊆ keys) :
    Apart others :=
  ⟨fun key member => apart.within key (subset member), fun key member other listed =>
    apart.between key (subset member) other (subset listed)⟩

/-- Keys without braces have markers that stand apart. -/
theorem apart_of_braceless (braceless : ∀ key ∈ keys, '{' ∉ key ∧ '}' ∉ key) : Apart keys := by
  have inner : ∀ key ∈ keys, '{' ∉ ' ' :: '.' :: (key ++ Component.closing) := by
    intro key member
    simp [(braceless key member).1, Component.closing]
  have tails : ∀ key ∈ keys, ∀ other, Text.Passes (marker other) (marker key).tail := by
    intro key member other
    rw [marker_eq, marker_eq]
    refine ⟨fun rest begins => ?_, Text.passes_of_not_mem (inner key member)⟩
    have second := (List.cons_prefix_cons.1 begins).2
    exact absurd (List.cons_prefix_cons.1 second).1 (by decide)
  refine ⟨fun key member => tails key member key, fun key member other others different => ?_⟩
  have tail := tails key member other
  rw [marker_eq key] at tail ⊢
  refine ⟨fun rest begins => different ?_, tail⟩
  rw [marker_eq] at begins
  -- Behind the point of both markers stand their keys, each up to its first closing brace.
  have named : other ++ Component.closing <+: key ++ Component.closing ++ rest := by
    simpa [List.cons_prefix_cons] using begins
  have spaced : (other ++ [' ']) ++ '}' :: ['}'] <+: (key ++ [' ']) ++ '}' :: ('}' :: rest) := by
    simpa [Component.closing] using named
  refine List.append_cancel_right (Text.eq_of_begins ?_ ?_ spaced)
  · simp [(braceless other others).2]
  · simp [(braceless key member).2]

/-- Every text is scanned into pieces. -/
theorem exists_scanned (keys : List Text) (text : Text) :
    ∃ pieces, Scanned keys pieces ∧ pieces.flatMap Piece.written = text := by
  have nonempty : [] ∉ keys.map marker := by simp [marker_ne_nil]
  induction text using Text.marks_cases nonempty with
  | nil => exact ⟨[], trivial, rfl⟩
  | found mark listed rest ih =>
      obtain ⟨key, member, rfl⟩ := List.mem_map.1 listed
      obtain ⟨later, scanned, rfl⟩ := ih
      exact ⟨.marker key :: later, ⟨member, scanned⟩, rfl⟩
  | cons character rest absent ih =>
      obtain ⟨later, scanned, rfl⟩ := ih
      exact ⟨.plain character :: later,
        ⟨fun key member => absent _ (List.mem_map_of_mem member), scanned⟩, rfl⟩

theorem substituteFrom_skip (entries : List (Text × Text)) (skipped rest : Text) :
    substituteFrom entries skipped.length (skipped ++ rest) = substituteFrom entries 0 rest := by
  induction skipped with
  | nil => rfl
  | cons character skipped ih => simpa [substituteFrom] using ih

/-- The scan keeps a character at which no marker begins. -/
theorem substitute_cons {character : Char}
    (absent : ∀ entry ∈ entries, ¬ marker entry.1 <+: character :: rest) :
    substitute entries (character :: rest) = character :: substitute entries rest := by
  have none : entries.find? (fun entry => Text.startsWith (marker entry.1) (character :: rest)) =
      none := by
    rw [List.find?_eq_none]
    exact fun entry member begins =>
      absent entry member (List.isPrefixOf_iff_prefix.1 begins)
  rw [substitute, substituteFrom, none]
  rfl

theorem substitute_append_of_passes (passes : ∀ entry ∈ entries, Text.Passes (marker entry.1) text)
    (rest : Text) : substitute entries (text ++ rest) = text ++ substitute entries rest := by
  induction text with
  | nil => rfl
  | cons character text ih =>
      rw [List.cons_append, substitute_cons fun entry member => (passes entry member).1 rest,
        ih fun entry member => (passes entry member).2, List.cons_append]

/-- The first entry whose marker begins where the marker of a key stands is that of the key. -/
theorem find?_marker (apart : Apart keys) (known : ∀ entry ∈ entries, entry.1 ∈ keys)
    (member : key ∈ keys) (rest : Text) :
    entries.find? (fun entry => Text.startsWith (marker entry.1) (marker key ++ rest)) =
      (Dictionary.lookup key entries).map (key, ·) := by
  induction entries with
  | nil => rfl
  | cons entry entries ih =>
      obtain ⟨other, value⟩ := entry
      obtain ⟨otherKnown, known⟩ := List.forall_mem_cons.1 known
      by_cases same : other = key
      · subst same
        have begins : Text.startsWith (marker other) (marker other ++ rest) = true :=
          List.isPrefixOf_iff_prefix.2 (List.prefix_append _ _)
        simp [begins, Dictionary.lookup]
      · have passes := apart.between key member other otherKnown same
        have absent : ¬ Text.startsWith (marker other) (marker key ++ rest) = true := by
          intro begins
          rw [marker_eq key] at passes begins
          exact passes.1 rest (List.isPrefixOf_iff_prefix.1 begins)
        rw [List.find?_cons, Bool.eq_false_iff.2 absent, ih known, Dictionary.lookup,
          if_neg same]

/-- The scan puts the value of a key in the place of its marker. -/
theorem substitute_marker_append (apart : Apart keys) (known : ∀ entry ∈ entries, entry.1 ∈ keys)
    (member : key ∈ keys) (rest : Text) :
    substitute entries (marker key ++ rest) =
      (Dictionary.lookup key entries).getD (marker key) ++ substitute entries rest := by
  cases found : Dictionary.lookup key entries with
  | none =>
      refine substitute_append_of_passes (fun entry listed => ?_) rest
      have other : entry.1 ≠ key := by
        rintro rfl
        exact Dictionary.lookup_eq_none_iff.1 found (List.mem_map_of_mem listed)
      exact apart.between key member entry.1 (known entry listed) other
  | some value =>
      have first := find?_marker apart known member rest
      rw [found] at first
      obtain ⟨character, others, whole⟩ := List.exists_cons_of_ne_nil (marker_ne_nil key)
      rw [whole, List.cons_append] at first ⊢
      rw [substitute, substituteFrom, first]
      simp only [Option.map_some, whole, List.length_cons, Nat.add_sub_cancel, Option.getD_some]
      rw [substituteFrom_skip]
      rfl

/-- To put values into a template is to fill its pieces. -/
theorem substitute_pieces (apart : Apart keys) (known : ∀ entry ∈ entries, entry.1 ∈ keys)
    (scanned : Scanned keys pieces) :
    substitute entries (pieces.flatMap Piece.written) = pieces.flatMap (Piece.filled entries) := by
  induction pieces with
  | nil => rfl
  | cons piece pieces ih =>
      rw [List.flatMap_cons, List.flatMap_cons]
      cases piece with
      | plain character =>
          rw [← ih scanned.2]
          exact substitute_cons fun entry member => scanned.1 _ (known entry member)
      | marker key =>
          rw [← ih scanned.2]
          exact substitute_marker_append apart known scanned.1 _

/-- The markers of a template are its pieces. -/
theorem occurrences_pieces (apart : Apart keys) (member : key ∈ keys)
    (scanned : Scanned keys pieces) :
    Text.occurrences (marker key) (pieces.flatMap Piece.written) = pieces.count (.marker key) := by
  induction pieces with
  | nil => rfl
  | cons piece pieces ih =>
      rw [List.flatMap_cons]
      cases piece with
      | plain character =>
          rw [List.count_cons_of_ne (by simp), ← ih scanned.2]
          exact (congrArg (· + _) (if_neg (scanned.1 key member))).trans (Nat.zero_add _)
      | marker other =>
          by_cases same : other = key
          · subst same
            rw [List.count_cons_self, ← ih scanned.2, Nat.add_comm]
            exact Text.occurrences_mark_append (apart.solitary member) _
          · rw [List.count_cons_of_ne (by simpa using same), ← ih scanned.2]
            exact Text.occurrences_append_of_passes
              (apart.between other scanned.1 key member (Ne.symm same)) _

/-- The blanks of a key are the places where its markers stand. -/
theorem fill_marker (absent : key ∉ front.map Prod.fst) (pieces : List Piece) :
    Text.Form.fill (marker key) (pieces.map (Piece.blank front key)) =
      pieces.flatMap (Piece.filled front) := by
  rw [Text.Form.fill, List.flatMap_map]
  refine List.flatMap_congr fun piece _ => ?_
  rw [Piece.blank]
  split
  · next same => rw [same, Piece.filled, Dictionary.lookup_eq_none_iff.2 absent]
  · rfl

/-- To fill in the blanks of a key is to put in one more entry. -/
theorem fill_value (absent : key ∉ front.map Prod.fst) (value : Text) (pieces : List Piece) :
    Text.Form.fill value (pieces.map (Piece.blank front key)) =
      pieces.flatMap (Piece.filled (front ++ [(key, value)])) := by
  rw [Text.Form.fill, List.flatMap_map]
  refine List.flatMap_congr fun piece _ => ?_
  cases piece with
  | plain character => rfl
  | marker other =>
      rw [Piece.filled, Dictionary.lookup_append]
      by_cases same : other = key
      · subst same
        simp [Piece.blank, Dictionary.lookup_eq_none_iff.2 absent, Dictionary.lookup]
      · simp [Piece.blank, Piece.filled, Dictionary.lookup, same, Ne.symm same]

theorem count_blank (front : List (Text × Text)) (key : Text) (pieces : List Piece) :
    (pieces.map (Piece.blank front key)).count none = pieces.count (.marker key) := by
  induction pieces with
  | nil => rfl
  | cons piece pieces ih =>
      by_cases same : piece = .marker key
      · simp [Piece.blank, same, ih]
      · simp [Piece.blank, same, ih]

/-- The turn of a key puts its value in if the text has the markers of the template and no
others, and only then. -/
theorem replace_substitute_iff (distinct : (entries.map Prod.fst).Nodup)
    (apart : Apart (entries.map Prod.fst)) (begins : front ++ [(key, value)] <+: entries)
    (template : Text) :
    Text.replace (marker key) value (substitute front template) =
        substitute (front ++ [(key, value)]) template ↔
      value = marker key ∨
        Text.occurrences (marker key) (substitute front template) =
          Text.occurrences (marker key) template := by
  have known : ∀ entry ∈ front ++ [(key, value)], entry.1 ∈ entries.map Prod.fst :=
    fun entry member => List.mem_map_of_mem (begins.subset member)
  obtain ⟨before, last⟩ := List.forall_mem_append.1 known
  have member : key ∈ entries.map Prod.fst := last _ (List.mem_singleton_self _)
  have once := (begins.map Prod.fst).sublist.nodup distinct
  rw [List.map_append, List.nodup_append] at once
  have absent : key ∉ front.map Prod.fst := fun twice => once.2.2 key twice key (by simp) rfl
  obtain ⟨pieces, scanned, rfl⟩ := exists_scanned (entries.map Prod.fst) template
  rw [substitute_pieces apart before scanned, substitute_pieces apart known scanned,
    occurrences_pieces apart member scanned, ← fill_marker absent, ← fill_value absent,
    ← count_blank front key]
  exact Text.Form.replace_fill_iff (apart.solitary member) value _

theorem substitute_nil (template : Text) : substitute [] template = template := by
  induction template with
  | nil => rfl
  | cons character template ih => rw [substitute_cons (by simp), ih]

theorem renderEntries_concat (template : Text) (front : List (Text × Text)) (key value : Text) :
    renderEntries template (front ++ [(key, value)]) =
      Text.replace (marker key) value (renderEntries template front) := by
  rw [renderEntries, List.foldl_append]
  rfl

theorem substitute_perm {others : List (Text × Text)} (same : entries.Perm others)
    (distinct : (entries.map Prod.fst).Nodup) (apart : Apart (entries.map Prod.fst))
    (template : Text) : substitute entries template = substitute others template := by
  obtain ⟨pieces, scanned, rfl⟩ := exists_scanned (entries.map Prod.fst) template
  have known : ∀ entry ∈ entries, entry.1 ∈ entries.map Prod.fst :=
    fun entry listed => List.mem_map_of_mem listed
  rw [substitute_pieces apart known scanned,
    substitute_pieces apart (fun entry listed => known entry (same.mem_iff.2 listed)) scanned]
  refine List.flatMap_congr fun piece _ => ?_
  cases piece with
  | plain character => rfl
  | marker key => rw [Piece.filled, Piece.filled, Dictionary.lookup_eq_of_perm same distinct]

/-- Rendering goes along with the substitution, from one entry to the next, exactly if each key
finds the markers of the template and no others. -/
theorem renderEntries_follows_iff (distinct : (entries.map Prod.fst).Nodup)
    (apart : Apart (entries.map Prod.fst)) (template : Text) :
    (∀ front, front <+: entries →
        renderEntries template front = substitute front template) ↔
      Undisturbed template entries := by
  constructor
  · intro follows front key value begins
    have before := follows front ((List.prefix_append _ _).trans begins)
    have after := follows _ begins
    rw [renderEntries_concat, before] at after
    exact (replace_substitute_iff distinct apart begins template).1 after
  · intro undisturbed front begins
    induction front using List.reverseRecOn with
    | nil => exact (substitute_nil template).symm
    | append_singleton front entry ih =>
        obtain ⟨key, value⟩ := entry
        rw [renderEntries_concat, ih ((List.prefix_append _ _).trans begins)]
        exact (replace_substitute_iff distinct apart begins template).2
          (undisturbed front key value begins)

theorem render_eq_substitute {context : Dictionary Text} (apart : Apart context.keys)
    (undisturbed : Undisturbed template context.entries) :
    render template context = substitute context.entries template :=
  (renderEntries_follows_iff context.distinct apart template).2 undisturbed _
    (List.prefix_refl _)

/-- Where the values do not disturb each other, the value of a key is shown where its marker is. -/
theorem infix_render {context : Dictionary Text}
    (apart : Apart context.keys) (undisturbed : Undisturbed template context.entries)
    (found : context.get? key = some value) (shown : marker key <:+: template) :
    value <:+: render template context := by
  have known : ∀ entry ∈ context.entries, entry.1 ∈ context.keys :=
    fun entry listed => List.mem_map_of_mem listed
  have member : key ∈ context.keys := Dictionary.mem_keys_of_get? found
  rw [render_eq_substitute apart undisturbed]
  obtain ⟨pieces, scanned, rfl⟩ := exists_scanned context.keys template
  have counted := Text.occurrences_pos (apart.solitary member) shown
  rw [occurrences_pieces apart member scanned, List.count_pos_iff] at counted
  have filled : (Piece.marker key).filled context.entries = value := by
    rw [Piece.filled, show Dictionary.lookup key context.entries = some value from found]
    rfl
  rw [substitute_pieces apart known scanned, ← filled]
  exact List.infix_of_mem_flatten (List.mem_map_of_mem counted)

/-- Rendering goes along with the substitution exactly if each key finds the markers of the
template and no others, and the order of the keys is then nothing to the outcome. -/
theorem render_follows_substitute_iff (template : Text) (context : Dictionary Text)
    (apart : Apart context.keys) :
    ((∀ front, front <+: context.entries →
        renderEntries template front = substitute front template) ↔
      Undisturbed template context.entries) ∧
    ∀ other : Dictionary Text, other.entries.Perm context.entries →
      Undisturbed template context.entries → Undisturbed template other.entries →
      render template other = render template context := by
  refine ⟨renderEntries_follows_iff context.distinct apart template,
    fun other same here there => ?_⟩
  have apartOther : Apart other.keys := apart.of_subset (same.map Prod.fst).subset
  calc render template other
      = substitute other.entries template := render_eq_substitute apartOther there
    _ = substitute context.entries template :=
        substitute_perm same other.distinct apartOther template
    _ = render template context := (render_eq_substitute apart here).symm

/-- The title of a page and its text in a template. -/
def titledTemplate : Text := "<h1>\x7b\x7b .Title \x7d\x7d</h1>\x7b\x7b .Content \x7d\x7d"

/-- The values of a page that says hello. -/
def greeting : Dictionary Text where
  entries := [("Title".toList, "Home".toList), ("Content".toList, "<p>Hello</p>".toList)]
  distinct := by decide

theorem render_follows_substitute_greeting :
    Apart greeting.keys ∧ Undisturbed titledTemplate greeting.entries ∧
      render titledTemplate greeting = substitute greeting.entries titledTemplate := by
  have apart : Apart greeting.keys := apart_of_braceless (by decide)
  have undisturbed : Undisturbed titledTemplate greeting.entries := by
    intro front key value begins
    right
    rcases front with _ | ⟨first, _ | ⟨second, more⟩⟩
    · rfl
    · simp only [greeting, List.cons_append, List.nil_append, List.cons_prefix_cons] at begins
      obtain ⟨rfl, same, -⟩ := begins
      obtain ⟨rfl, rfl⟩ := Prod.mk.inj same
      decide
    · have short := begins.length_le
      simp [greeting] at short
  exact ⟨apart, undisturbed,
    (render_follows_substitute_iff titledTemplate greeting apart).1.2 undisturbed _
      (List.prefix_refl _)⟩

/-- A text that speaks about the marker of the language, and the language. -/
def quoted : Dictionary Text where
  entries := [("Content".toList, "\x7b\x7b .Lang \x7d\x7d".toList), ("Lang".toList, "en".toList)]
  distinct := by decide

theorem render_ne_substitute_quoted :
    render "\x7b\x7b .Content \x7d\x7d" quoted = "en" ∧
      substitute quoted.entries "\x7b\x7b .Content \x7d\x7d" = "\x7b\x7b .Lang \x7d\x7d" ∧
      renderEntries "\x7b\x7b .Content \x7d\x7d" quoted.entries.reverse =
        "\x7b\x7b .Lang \x7d\x7d" := by
  decide

end Template

namespace Page

/-- The keys that the values of a page can have. -/
def contextKeys : List Text := ["Title", "Date", "Author", "Content", "Lang", "MetaTags", "Reload"]

theorem keys_dateValues {job : Job} {values : List (Text × Text)}
    (made : dateValues job = .ok values) : ∀ key ∈ values.map Prod.fst, key ∈ contextKeys := by
  unfold dateValues at made
  split at made
  · next date _ _ =>
      cases shown : Calendar.displayStamp date (some job.source.text) with
      | error fault => rw [shown] at made; cases made
      | ok stamp =>
          rw [shown] at made
          obtain rfl := Except.ok.inj made
          rw [List.map_cons, List.forall_mem_cons]
          refine ⟨by simp [contextKeys], ?_⟩
          split <;> simp [contextKeys]
  · obtain rfl := Except.ok.inj made
    exact fun key member => absurd member List.not_mem_nil

theorem keys_context {job : Job} {content metaTags : Text} {context : Context}
    {values : Dictionary Text} (made : Page.context job content metaTags context = .ok values) :
    values.keys ⊆ contextKeys := by
  unfold Page.context at made
  cases dated : dateValues job with
  | error fault => rw [dated] at made; cases made
  | ok dates =>
      rw [dated] at made
      obtain rfl := Except.ok.inj made
      refine fun key member => ?_
      have listed := Dictionary.mem_of_mem_keys_ofList member
      rw [List.map_append, List.map_append, List.mem_append, List.mem_append] at listed
      rcases listed with (titled | dateKey) | rest
      · split at titled
        · obtain rfl := List.mem_singleton.1 titled
          simp [contextKeys]
        · cases titled
      · exact keys_dateValues dated key dateKey
      · have known : ["Content".toList, "Lang".toList, "MetaTags".toList, "Reload".toList] ⊆
            contextKeys := by decide
        exact known rest

/-- The markers of the values of a page stand apart. -/
theorem apart_of_context {job : Job} {content metaTags : Text} {context : Context}
    {values : Dictionary Text} (made : Page.context job content metaTags context = .ok values) :
    Template.Apart values.keys :=
  (Template.apart_of_braceless (by decide)).of_subset (keys_context made)

end Page

end StaticSite
