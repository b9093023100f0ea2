import StaticSite.Proofs.Markup.Reading

/-!
# Tags with quoted attributes

A reader of tags takes markup character by character: the name of a tag, then attributes with values
in double quotes, up to the bracket that closes the tag.  It reads tags as they were written, whatever
the values are: an escaped value has no quote that could end it.
-/

namespace StaticSite

namespace Markup

/-- A tag, with the values of its attributes as they are meant. -/
structure Tag where
  name : Text
  attributes : List (Text × Text)
  deriving DecidableEq, Repr

/-- Where in the markup a reader is. -/
inductive Place where
  /-- Not in a tag. -/
  | outside
  /-- In the name of a tag, which may go on. -/
  | name (name : Text)
  /-- Between the attributes of a tag. -/
  | gap (tag : Tag)
  | key (tag : Tag) (name : Text)
  /-- Between an attribute and its value. -/
  | assigned (tag : Tag) (name : Text)
  /-- In the value of an attribute, as it is written. -/
  | value (tag : Tag) (name value : Text)
  /-- In what is no tag with quoted attributes. -/
  | broken
  deriving DecidableEq, Repr

/-- A reader of tags, with the text that was not in tags. -/
structure Reader where
  plain : Text := []
  tags : List Tag := []
  place : Place := .outside
  deriving DecidableEq, Repr

/-- The white space between attributes. -/
def gaps : List Char := [' ', '\t', '\n', '\x0C', '\r']

def isTagChar (character : Char) : Bool := character.isAlphanum || character = '-'

namespace Reader

/-- Read a character between the attributes of a tag. -/
def between (reader : Reader) (tag : Tag) (character : Char) : Reader :=
  if character = '>' then { reader with tags := reader.tags ++ [tag], place := .outside }
  else if character ∈ gaps then { reader with place := .gap tag }
  else if isTagChar character then { reader with place := .key tag [character] }
  else { reader with place := .broken }

def step (reader : Reader) (character : Char) : Reader :=
  match reader.place with
  | .outside =>
    if character = '<' then { reader with place := .name [] }
    else { reader with plain := reader.plain ++ [character] }
  | .name name =>
    if isTagChar character then { reader with place := .name (name ++ [character]) }
    else if name = [] then { reader with place := .broken }
    else reader.between ⟨name, []⟩ character
  | .gap tag => reader.between tag character
  | .key tag name =>
    if isTagChar character then { reader with place := .key tag (name ++ [character]) }
    else if character = '=' then { reader with place := .assigned tag name }
    else { reader with place := .broken }
  | .assigned tag name =>
    if character = '"' then { reader with place := .value tag name [] }
    else { reader with place := .broken }
  | .value tag name value =>
    if character = '"' then
      { reader with place := .gap { tag with attributes := tag.attributes ++ [(name, decode value)] } }
    else { reader with place := .value tag name (value ++ [character]) }
  | .broken => reader

def run (reader : Reader) (text : Text) : Reader := text.foldl step reader

end Reader

/-- Read all of some markup. -/
def readTags (text : Text) : Reader := Reader.run {} text

/-- A word that names a tag or an attribute. -/
def IsWord (name : Text) : Prop := name ≠ [] ∧ name.all isTagChar = true

instance (name : Text) : Decidable (IsWord name) := inferInstanceAs (Decidable (_ ∧ _))

namespace Tag

def writeField (field : Text × Text) : Text :=
  ' ' :: (field.1 ++ "=\"".toList ++ escape field.2 ++ ['"'])

def write (tag : Tag) : Text :=
  '<' :: (tag.name ++ tag.attributes.flatMap writeField ++ ['>'])

/-- A tag of which all parts are named. -/
def IsNamed (tag : Tag) : Prop :=
  IsWord tag.name ∧ ∀ field ∈ tag.attributes, IsWord field.1

instance (tag : Tag) : Decidable tag.IsNamed := inferInstanceAs (Decidable (_ ∧ _))

end Tag

section Running

variable {reader : Reader} {plain text name value : Text} {tags : List Tag} {tag : Tag}

@[simp]
theorem run_nil (reader : Reader) : reader.run [] = reader := rfl

@[simp]
theorem run_cons (reader : Reader) (character : Char) (text : Text) :
    reader.run (character :: text) = (reader.step character).run text := rfl

@[simp]
theorem run_append (reader : Reader) (first second : Text) :
    reader.run (first ++ second) = (reader.run first).run second := List.foldl_append

/-- What a reader gathers grows as long as every character is added to it. -/
theorem run_gathering (gathering : Text → Reader)
    (adds : ∀ character ∈ text, ∀ gathered,
      (gathering gathered).step character = gathering (gathered ++ [character]))
    (gathered : Text) : (gathering gathered).run text = gathering (gathered ++ text) := by
  induction text generalizing gathered with
  | nil => simp
  | cons character text ih =>
      obtain ⟨first, others⟩ := List.forall_mem_cons.1 adds
      rw [run_cons, first, ih others, List.append_assoc, List.singleton_append]

/-- Text outside of tags is kept, up to the bracket of the next tag. -/
theorem run_outside (free : '<' ∉ text) :
    Reader.run ⟨plain, tags, .outside⟩ text = ⟨plain ++ text, tags, .outside⟩ :=
  run_gathering (fun plain => ⟨plain, tags, .outside⟩)
    (fun _ member _ => if_neg (ne_of_mem_of_not_mem member free)) plain

theorem run_name (word : text.all isTagChar = true) :
    Reader.run ⟨plain, tags, .name name⟩ text = ⟨plain, tags, .name (name ++ text)⟩ :=
  run_gathering (fun name => ⟨plain, tags, .name name⟩)
    (fun _ member _ => if_pos (List.all_eq_true.1 word _ member)) name

theorem run_key (word : text.all isTagChar = true) :
    Reader.run ⟨plain, tags, .key tag name⟩ text = ⟨plain, tags, .key tag (name ++ text)⟩ :=
  run_gathering (fun name => ⟨plain, tags, .key tag name⟩)
    (fun _ member _ => if_pos (List.all_eq_true.1 word _ member)) name

/-- A value goes on up to the next quote, whatever else is in it. -/
theorem run_value (unquoted : '"' ∉ text) :
    Reader.run ⟨plain, tags, .value tag name value⟩ text =
      ⟨plain, tags, .value tag name (value ++ text)⟩ :=
  run_gathering (fun value => ⟨plain, tags, .value tag name value⟩)
    (fun _ member _ => if_neg (ne_of_mem_of_not_mem member unquoted)) value

end Running

section Tags

variable {plain : Text} {tags : List Tag} {tag : Tag} {field : Text × Text}

theorem quote_not_mem_escape (text : Text) : '"' ∉ escape text := by
  intro member
  obtain ⟨character, -, inside⟩ := List.mem_flatMap.1 member
  unfold escapeChar at inside
  split_ifs at inside with ampersand less greater quote apostrophe
  · exact absurd inside (by decide)
  · exact absurd inside (by decide)
  · exact absurd inside (by decide)
  · exact absurd inside (by decide)
  · exact absurd inside (by decide)
  · exact quote (List.mem_singleton.1 inside).symm

/-- An attribute begins with its name. -/
theorem run_word {name : Text} (word : IsWord name) :
    Reader.run ⟨plain, tags, .gap tag⟩ name = ⟨plain, tags, .key tag name⟩ := by
  obtain ⟨filled, letters⟩ := word
  cases name with
  | nil => exact absurd rfl filled
  | cons first others =>
      rw [List.all_cons, Bool.and_eq_true] at letters
      have inside : first ∉ '>' :: gaps := by
        intro member
        have ends : ('>' :: gaps).any isTagChar = false := by decide
        exact List.any_eq_false.1 ends first member letters.1
      rw [List.mem_cons, not_or] at inside
      have opened : Reader.step ⟨plain, tags, .gap tag⟩ first =
          ⟨plain, tags, .key tag [first]⟩ := by
        simp only [Reader.step, Reader.between, if_neg inside.1, if_neg inside.2, if_pos letters.1]
      rw [run_cons, opened, run_key letters.2, List.singleton_append]

/-- An attribute is read with its value as it was before it was escaped. -/
theorem run_writeField (word : IsWord field.1) :
    Reader.run ⟨plain, tags, .gap tag⟩ (Tag.writeField field) =
      ⟨plain, tags, .gap { tag with attributes := tag.attributes ++ [field] }⟩ := by
  have blank : Reader.step ⟨plain, tags, .gap tag⟩ ' ' = ⟨plain, tags, .gap tag⟩ := rfl
  have assigned : Reader.run ⟨plain, tags, .key tag field.1⟩ "=\"".toList =
      ⟨plain, tags, .value tag field.1 []⟩ := rfl
  have closed : Reader.run ⟨plain, tags, .value tag field.1 (escape field.2)⟩ ['"'] =
      ⟨plain, tags, .gap { tag with
        attributes := tag.attributes ++ [(field.1, decode (escape field.2))] }⟩ := rfl
  rw [Tag.writeField, run_cons, blank, run_append, run_append, run_append, run_word word, assigned,
    run_value (quote_not_mem_escape field.2), List.nil_append, closed, decode_escape]

theorem run_attributes {attributes : List (Text × Text)}
    (words : ∀ field ∈ attributes, IsWord field.1) :
    Reader.run ⟨plain, tags, .gap tag⟩ (attributes.flatMap Tag.writeField) =
      ⟨plain, tags, .gap { tag with attributes := tag.attributes ++ attributes }⟩ := by
  induction attributes generalizing tag with
  | nil => simp
  | cons field attributes ih =>
      obtain ⟨word, words⟩ := List.forall_mem_cons.1 words
      rw [List.flatMap_cons, run_append, run_writeField word, ih words]
      simp

/-- The name of a tag ends where its attributes begin, or where the tag does. -/
theorem run_name_end (word : tag.name ≠ []) (attributes : List (Text × Text)) :
    Reader.run ⟨plain, tags, .name tag.name⟩ (attributes.flatMap Tag.writeField ++ ['>']) =
      Reader.run ⟨plain, tags, .gap ⟨tag.name, []⟩⟩
        (attributes.flatMap Tag.writeField ++ ['>']) := by
  have same : ∀ character ∈ [' ', '>'], Reader.step ⟨plain, tags, .name tag.name⟩ character =
      Reader.step ⟨plain, tags, .gap ⟨tag.name, []⟩⟩ character := by
    intro character member
    have others : [' ', '>'].any isTagChar = false := by decide
    simp [Reader.step, Reader.between, List.any_eq_false.1 others character member, word]
  cases attributes with
  | nil => exact same '>' (by simp)
  | cons field attributes =>
      rw [List.flatMap_cons, Tag.writeField, List.cons_append, List.cons_append, run_cons,
        run_cons, same ' ' (by simp)]

/-- A tag is read as it was written, in whatever tags it stands. -/
theorem run_write (named : tag.IsNamed) :
    Reader.run ⟨plain, tags, .outside⟩ tag.write = ⟨plain, tags ++ [tag], .outside⟩ := by
  obtain ⟨⟨filled, letters⟩, words⟩ := named
  have opened : Reader.step ⟨plain, tags, .outside⟩ '<' = ⟨plain, tags, .name []⟩ := rfl
  have closed : ∀ tag, Reader.run ⟨plain, tags, .gap tag⟩ ['>'] =
      ⟨plain, tags ++ [tag], .outside⟩ := fun _ => rfl
  rw [Tag.write, run_cons, opened, List.append_assoc, run_append, run_name letters,
    List.nil_append, run_name_end filled, run_append, run_attributes words, closed,
    List.nil_append]

/-- Tags behind indents are read in their order. -/
theorem run_lines {indent : Text} (indented : '<' ∉ indent) {written : List Tag}
    (named : ∀ tag ∈ written, tag.IsNamed) :
    Reader.run ⟨plain, tags, .outside⟩ (written.flatMap fun tag => indent ++ tag.write) =
      ⟨plain ++ written.flatMap fun _ => indent, tags ++ written, .outside⟩ := by
  induction written generalizing plain tags with
  | nil => simp
  | cons tag written ih =>
      obtain ⟨first, named⟩ := List.forall_mem_cons.1 named
      rw [List.flatMap_cons, run_append, run_append, run_outside indented, run_write first, ih named]
      simp

end Tags

end Markup

end StaticSite
