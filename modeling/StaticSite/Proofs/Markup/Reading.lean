import StaticSite.Proofs.Sitemap
import StaticSite.Proofs.Text.Searching

/-!
# Reading markup

Markup is read by its tags: an element is what stands between the tag of its name and the next
tag that ends it, and in its text the references stand for the characters that were escaped.
Text without brackets between the tags can neither contain nor complete one, so that a search for
a tag finds the tags as they were written.
-/

namespace StaticSite

namespace Markup

section References

/-- The references that are decoded, with the characters that they stand for. -/
def references : List (Text × Char) :=
  [("&amp;", '&'), ("&lt;", '<'), ("&gt;", '>'), ("&quot;", '"'), ("&#x27;", '\x27')]

/-- The reference that a text begins with, and the character it stands for. -/
def reference? (text : Text) : Option (Text × Char) :=
  references.find? fun reference => Text.startsWith reference.1 text

/-- Decoding while `skip` characters of the last reference are still to be passed over. -/
def decodeFrom : (skip : Nat) → Text → Text
  | _, [] => []
  | skip + 1, _ :: text => decodeFrom skip text
  | 0, character :: text =>
    match reference? (character :: text) with
    | some (reference, meant) => meant :: decodeFrom (reference.length - 1) text
    | none => character :: decodeFrom 0 text

/-- Decode the references to the five escaped characters; other text is kept. -/
def decode (text : Text) : Text := decodeFrom 0 text

theorem reference?_of_ne {character : Char} (plain : character ≠ '&') (text : Text) :
    reference? (character :: text) = none := by
  have marked : ∀ reference ∈ references, reference.1.head? = some '&' := by decide
  rw [reference?, List.find?_eq_none]
  intro reference member begins
  obtain ⟨others, same⟩ := List.head?_eq_some_iff.1 (marked reference member)
  rw [Text.startsWith, List.isPrefixOf_iff_prefix, same, List.cons_prefix_cons] at begins
  exact plain begins.1.symm

/-- What a character is escaped to is decoded to the character. -/
theorem decode_escapeChar (character : Char) (rest : Text) :
    decode (escapeChar character ++ rest) = character :: decode rest := by
  unfold escapeChar
  split_ifs with ampersand less greater quote apostrophe
  · rw [ampersand]
    rfl
  · rw [less]
    rfl
  · rw [greater]
    rfl
  · rw [quote]
    rfl
  · rw [apostrophe]
    rfl
  · rw [List.singleton_append, decode, decodeFrom, reference?_of_ne ampersand]
    rfl

theorem decode_escape (text : Text) : decode (escape text) = text := by
  induction text with
  | nil => rfl
  | cons character text ih =>
      rw [escape, List.flatMap_cons, decode_escapeChar]
      exact congrArg _ ih

end References

section Parts

/-- A part of markup: a tag with what stands between its brackets, or text between tags. -/
inductive Part where
  | tag (label : Text)
  | plain (text : Text)
  deriving DecidableEq

namespace Part

def write : Part → Text
  | tag label => '<' :: (label ++ ['>'])
  | plain text => text

/-- A part without brackets but those of a tag. -/
def WellFormed : Part → Prop
  | tag label => '<' ∉ label ∧ '>' ∉ label
  | plain text => '<' ∉ text

instance : DecidablePred WellFormed
  | tag _ => inferInstanceAs (Decidable (_ ∧ _))
  | plain _ => inferInstanceAs (Decidable (¬ _))

variable {label : Text} {front : List Part}

/-- A tag does not begin in another part. -/
theorem passes_write (unbracketed : '>' ∉ label) {part : Part} (wellFormed : part.WellFormed)
    (other : part ≠ tag label) : Text.Passes (tag label).write part.write := by
  cases part with
  | plain text => exact Text.passes_of_not_mem wellFormed
  | tag otherLabel =>
      refine ⟨fun rest found => ?_, Text.passes_of_not_mem ?_⟩
      · have begins := (List.cons_prefix_cons.1 found).2
        rw [List.append_assoc] at begins
        exact other (congrArg tag (Text.eq_of_begins unbracketed wellFormed.2 begins).symm)
      · simpa using wellFormed.1

end Part

/-- Markup is written part by part. -/
def write (parts : List Part) : Text := parts.flatMap Part.write

@[simp]
theorem write_append (first second : List Part) :
    write (first ++ second) = write first ++ write second :=
  List.flatMap_append

@[simp]
theorem write_cons (part : Part) (parts : List Part) :
    write (part :: parts) = part.write ++ write parts :=
  rfl

/-- Whether a tag is not in some markup. -/
def Lacks (label : Text) (parts : List Part) : Prop :=
  ∀ part ∈ parts, part.WellFormed ∧ part ≠ .tag label

instance (label : Text) (parts : List Part) : Decidable (Lacks label parts) :=
  inferInstanceAs (Decidable (∀ part ∈ parts, _))

variable {label : Text} {first second : List Part}

theorem lacks_append : Lacks label (first ++ second) ↔ Lacks label first ∧ Lacks label second :=
  List.forall_mem_append

theorem Lacks.flatMap {α : Type} {pieces : List α} {parts : α → List Part}
    (lacks : ∀ piece ∈ pieces, Lacks label (parts piece)) : Lacks label (pieces.flatMap parts) := by
  intro part member
  obtain ⟨piece, inside, within⟩ := List.mem_flatMap.1 member
  exact lacks piece inside part within

theorem Lacks.passes (lacks : Lacks label first) (unbracketed : '>' ∉ label) :
    Text.Passes (Part.tag label).write (write first) :=
  Text.Passes.flatMap fun part member =>
    Part.passes_write unbracketed (lacks part member).1 (lacks part member).2

/-- A search for a tag finds the first of them. -/
theorem Lacks.cut?_write (lacks : Lacks label first) (unbracketed : '>' ∉ label) (rest : Text) :
    Text.cut? (Part.tag label).write (write first ++ ((Part.tag label).write ++ rest)) =
      some (write first, rest) := by
  rw [Text.cut?_append_of_passes (lacks.passes unbracketed), Text.cut?_append]
  simp

theorem Lacks.cut?_eq_none (lacks : Lacks label first) (unbracketed : '>' ∉ label) :
    Text.cut? (Part.tag label).write (write first) = none :=
  Text.cut?_eq_none_iff.2 (Text.Passes.not_infix (lacks.passes unbracketed) (by simp [Part.write]))

end Parts

section Elements

/-- The content of the first element of a name, and what follows the element. -/
def element? (name text : Text) : Option (Text × Text) := do
  let (_, inside) ← Text.cut? (Part.tag name).write text
  Text.cut? (Part.tag ('/' :: name)).write inside

theorem length_of_element? {name text content rest : Text}
    (found : element? name text = some (content, rest)) : rest.length < text.length := by
  obtain ⟨⟨before, inside⟩, opened, closed⟩ := Option.bind_eq_some_iff.1 found
  have outer := Text.length_of_cut? opened
  have inner := Text.length_of_cut? closed
  simp only [Part.write, List.length_cons] at outer inner
  omega

/-- The contents of the elements of a name, in their order. -/
def elements (name text : Text) : List Text :=
  match _ : element? name text with
  | none => []
  | some (content, rest) => content :: elements name rest
termination_by text.length
decreasing_by exact length_of_element? ‹_›

theorem elements_eq (name text : Text) :
    elements name text =
      match element? name text with
      | none => []
      | some (content, rest) => content :: elements name rest := by
  rw [elements]
  split
  · next absent => rw [absent]
  · next content rest found => rw [found]

/-- The text of the first element of a name. -/
def field? (name text : Text) : Option Text :=
  (element? name text).map fun (content, _) => decode content

/-- A name of elements has none of the characters that tags are made with. -/
def IsTagName (name : Text) : Prop := '<' ∉ name ∧ '>' ∉ name ∧ '/' ∉ name

instance (name : Text) : Decidable (IsTagName name) := inferInstanceAs (Decidable (_ ∧ _ ∧ _))

variable {name content indent : Text} {front inner back : List Part}

/-- The first element of a name goes from its tag to the next one that ends it. -/
theorem element?_write (isName : IsTagName name) (before : Lacks name front)
    (within : Lacks ('/' :: name) inner) (back : List Part) :
    element? name (write (front ++ .tag name :: inner ++ .tag ('/' :: name) :: back)) =
      some (write inner, write back) := by
  have unbracketed : '>' ∉ '/' :: name := by simpa using isName.2.1
  simp only [write_append, write_cons, List.append_assoc]
  rw [element?, before.cut?_write isName.2.1]
  exact within.cut?_write unbracketed _

/-- Without its tag there are no elements of a name. -/
theorem Lacks.elements_eq_nil (lacks : Lacks name back) (isName : IsTagName name) :
    elements name (write back) = [] := by
  rw [elements_eq, element?, lacks.cut?_eq_none isName.2.1]
  rfl

/-- An element with a text. -/
def element (name content : Text) : List Part :=
  [.tag name, .plain (escape content), .tag ('/' :: name)]

/-- An element with a text, on a line of its own. -/
def line (indent : Text) (field : Text × Text) : List Part :=
  .plain indent :: element field.1 field.2 ++ [.plain ['\n']]

theorem lacks_line {label : Text} {field : Text × Text} (indented : '<' ∉ indent)
    (isName : IsTagName field.1) (other : label ≠ field.1 ∧ label ≠ '/' :: field.1) :
    Lacks label (line indent field) := by
  obtain ⟨noOpening, noClosing, -⟩ := isName
  have text := not_mem_escape field.2
  simp [Lacks, line, element, Part.WellFormed, indented, noOpening, noClosing, text, other.1.symm,
    other.2.symm]

variable {fields : List (Text × Text)} {names : List Text}

/-- Lines have no tags but those of their names. -/
theorem lacks_lines {label : Text} (indented : '<' ∉ indent) (named : fields.map Prod.fst = names)
    (others : ∀ name ∈ names, IsTagName name ∧ label ≠ name ∧ label ≠ '/' :: name) :
    Lacks label (fields.flatMap (line indent)) := by
  refine .flatMap fun field member => ?_
  have other := others field.1 (named ▸ List.mem_map_of_mem member)
  exact lacks_line indented other.1 other.2

/-- The first line with a name is the one that is read. -/
theorem field?_lines (indented : '<' ∉ indent) (before : Lacks name front)
    (named : fields.map Prod.fst = names) (areNames : ∀ name ∈ names, IsTagName name)
    (known : fields.lookup name = some content) (back : List Part) :
    field? name (write (front ++ fields.flatMap (line indent) ++ back)) = some content := by
  obtain ⟨early, late, rfl, others⟩ := List.lookup_eq_some_iff.1 known
  have isNames : ∀ field ∈ early ++ (name, content) :: late,
      IsTagName field.1 := fun field member =>
    areNames field.1 (named ▸ List.mem_map_of_mem member)
  have isName : IsTagName name := isNames (name, content) (by simp)
  have parted : front ++ (early ++ (name, content) :: late).flatMap (line indent) ++ back =
      (front ++ early.flatMap (line indent) ++ [.plain indent]) ++ .tag name ::
        [.plain (escape content)] ++ .tag ('/' :: name) ::
          (.plain ['\n'] :: late.flatMap (line indent) ++ back) := by
    simp [line, element]
  have lacks : Lacks name (front ++ early.flatMap (line indent) ++ [.plain indent]) := by
    refine lacks_append.2 ⟨lacks_append.2 ⟨before, .flatMap fun field member => ?_⟩, ?_⟩
    · have different : name ≠ field.1 := by simpa using others field member
      refine lacks_line indented (isNames field (List.mem_append_left _ member)) ⟨different, ?_⟩
      rintro rfl
      exact isName.2.2 List.mem_cons_self
    · simpa [Lacks, Part.WellFormed] using indented
  have text : Lacks ('/' :: name) [.plain (escape content)] := by
    simpa [Lacks, Part.WellFormed] using not_mem_escape content
  rw [field?, parted, element?_write isName lacks text]
  simp [write, Part.write, decode_escape]

end Elements

end Markup

end StaticSite
