import StaticSite.Path
import StaticSite.Proofs.Text.Splitting
import StaticSite.Proofs.Text.Utf8

/-!
# Lemmas on paths

A name is its stem and its suffix.  A path that goes on from a directory is written as the
directory, a slash and what follows, so it is never shorter.
-/

namespace StaticSite

/-- What may be the name of a file or a directory. -/
def IsName (name : Text) : Prop :=
  name ≠ [] ∧ name ≠ ['.'] ∧ name ≠ ['.', '.'] ∧ '/' ∉ name ∧ '\x00' ∉ name

instance (name : Text) : Decidable (IsName name) := inferInstanceAs (Decidable (_ ∧ _))

namespace Path

variable {name stem suffix : Text}

/-- The path of components from a directory on. -/
def extend (directory : Path) (parts : List Text) : Path :=
  ⟨directory.anchor, directory.parts ++ parts⟩

@[simp]
theorem extend_nil (directory : Path) : directory.extend [] = directory := by
  simp [extend]

@[simp]
theorem child_extend (directory : Path) (parts : List Text) (name : Text) :
    (directory.extend parts).child name = directory.extend (parts ++ [name]) := by
  simp [extend, child]

theorem child_extend_eq (directory : Path) (parts : List Text) :
    (directory.extend parts).child = fun name => directory.extend (parts ++ [name]) :=
  funext fun name => child_extend directory parts name

theorem extend_injective {directory : Path} {first second : List Text}
    (same : directory.extend first = directory.extend second) : first = second := by
  simpa [extend] using same

theorem extend_concat_inj {directory : Path} {folder inner : List Text} {other : Text} :
    directory.extend (folder ++ [name]) = directory.extend (inner ++ [other]) ↔
      folder = inner ∧ name = other := by
  rw [← List.append_singleton_inj]
  exact ⟨extend_injective, fun same => by rw [same]⟩

@[simp]
theorem name_child (directory : Path) (name : Text) : (directory.child name).name = name := by
  simp [child, Path.name]

@[simp]
theorem name_extend (directory : Path) (parts : List Text) (name : Text) :
    (directory.extend (parts ++ [name])).name = name := by
  rw [← child_extend, name_child]

@[simp]
theorem parent_child (directory : Path) (name : Text) :
    (directory.child name).parent = directory := by
  simp [child, parent]

theorem normalize_append (directory before after : List Text) :
    normalize directory (before ++ after) = normalize (normalize directory before) after := by
  induction before generalizing directory with
  | nil => rfl
  | cons part before ih =>
      simp only [List.cons_append, normalize, ih]
      split
      · rfl
      · split <;> rfl

theorem normalize_names (directory : List Text) {names : List Text}
    (areNames : ∀ name ∈ names, IsName name) : normalize directory names = directory ++ names := by
  induction names generalizing directory with
  | nil => simp [normalize]
  | cons name names ih =>
      have isName := areNames name List.mem_cons_self
      rw [normalize, if_neg isName.2.1, if_neg isName.2.2.1,
        ih _ fun other member => areNames other (List.mem_cons_of_mem _ member), List.append_assoc]
      rfl

theorem resolve_extend (here : List Text) (directory : Path) {names : List Text}
    (areNames : ∀ name ∈ names, IsName name) :
    (directory.extend names).resolve here = directory.resolve here ++ names := by
  unfold resolve extend
  rw [normalize_append, normalize_names _ areNames]

theorem resolve_child (here : List Text) (directory : Path) (isName : IsName name) :
    (directory.child name).resolve here = directory.resolve here ++ [name] :=
  resolve_extend here directory (by simpa using isName)

theorem withSuffix_child (directory : Path) (name suffix : Text) :
    (directory.child name).withSuffix suffix = directory.child ((splitName name).1 ++ suffix) := by
  simp [withSuffix, Path.stem, child, Path.name]

theorem splitName_append (name : Text) : (splitName name).1 ++ (splitName name).2 = name := by
  unfold splitName
  split
  · next stem suffix cut =>
      split
      · simp
      · exact (Text.eq_of_cutLast? cut).1.symm
  · simp

theorem splitName_fst_ne_nil (nonempty : name ≠ []) : (splitName name).1 ≠ [] := by
  unfold splitName
  split
  · next stem suffix cut =>
      split
      · exact nonempty
      · next both =>
          rintro rfl
          simp at both
  · exact nonempty

theorem splitName_of_dot (named : stem ≠ []) (suffixed : suffix ≠ []) (last : '.' ∉ suffix) :
    splitName (stem ++ '.' :: suffix) = (stem, '.' :: suffix) := by
  unfold splitName
  rw [Text.cutLast?_append stem last]
  simp [named, suffixed]

/-- The components of a written path are names, unless they lead upwards or have a null. -/
theorem isName_of_parse {text part : Text} (member : part ∈ (parse text).parts)
    (down : part ≠ ['.', '.']) (noNull : '\x00' ∉ part) : IsName part := by
  obtain ⟨listed, kept⟩ := List.mem_filter.1 member
  rw [decide_eq_true_eq] at kept
  exact ⟨kept.1, kept.2, down, Text.not_mem_of_splitOn listed, noNull⟩

theorem text_of_parts {anchor : Anchor} {parts : List Text} (nonempty : parts ≠ []) :
    text ⟨anchor, parts⟩ = anchor.text ++ Text.join "/" parts := by
  unfold text
  split
  · next here none => exact absurd none nonempty
  · rfl

theorem text_child (directory : Path) (name : Text) :
    (directory.child name).text =
      directory.anchor.text ++ Text.join "/" (directory.parts ++ [name]) :=
  text_of_parts (by simp)

/-- Of two paths that go on from a directory by two names, the one with the longer names is the
longer one. -/
theorem length_encode_text_child_le (directory : Path) {folder other last : Text}
    (short : (Utf8.encode folder).length + (Utf8.encode name).length ≤
      (Utf8.encode other).length + (Utf8.encode last).length) :
    (Utf8.encode ((directory.child folder).child name).text).length ≤
      (Utf8.encode ((directory.child other).child last).text).length := by
  have front : ∀ folder name : Text, ((directory.child folder).child name).text =
      directory.anchor.text ++
        (directory.parts.flatMap (· ++ "/".toList) ++ folder ++ "/".toList ++ name) := by
    intro folder name
    rw [text_child]
    show directory.anchor.text ++ Text.join "/" (directory.parts ++ [folder] ++ [name]) = _
    rw [Text.join_concat _ _ (by simp), Text.join_append_singleton]
  rw [front, front]
  simp only [Utf8.encode_append, List.length_append]
  omega

theorem length_encode_text_le (directory : Path) (nonempty : name ≠ []) :
    (Utf8.encode directory.text).length ≤ (Utf8.encode (directory.child name).text).length := by
  rw [text_child]
  by_cases some : directory.parts = []
  · have anchored : directory = ⟨directory.anchor, []⟩ := by rw [← some]
    have letters := Utf8.length_encode_pos nonempty
    rw [anchored]
    cases directory.anchor <;>
      simp only [text, Text.join, List.nil_append, List.append_nil, Utf8.encode_append,
        List.length_append]
    · have dot : (Utf8.encode (".".toList : Text)).length = 1 := rfl
      omega
    · omega
    · omega
  · rw [show directory.text = directory.anchor.text ++ Text.join "/" directory.parts from
      text_of_parts some, Text.join_concat _ _ some]
    simp only [Utf8.encode_append, List.length_append]
    omega

end Path

theorem IsName.stem {name : Text} (isName : IsName name) (notHere : (Path.splitName name).1 ≠ ['.'])
    (notAbove : (Path.splitName name).1 ≠ ['.', '.']) : IsName (Path.splitName name).1 := by
  have inside : ∀ character ∈ (Path.splitName name).1, character ∈ name := by
    intro character member
    rw [← Path.splitName_append name]
    exact List.mem_append_left _ member
  exact ⟨Path.splitName_fst_ne_nil isName.1, notHere, notAbove,
    fun slash => isName.2.2.2.1 (inside _ slash), fun null => isName.2.2.2.2 (inside _ null)⟩

end StaticSite
