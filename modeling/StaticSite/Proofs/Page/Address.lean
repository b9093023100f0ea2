import StaticSite.Page.Address
import StaticSite.Proofs.Path

/-!
# The addresses of pages

An address below the base has the names of folders and a last part, with slashes between
them.  The last part is empty for an index page, and the name of the page without its suffix
otherwise.
-/

namespace StaticSite

namespace Page

/-- Names of folders and a last part that may be empty. -/
structure IsAddress (folder : List Text) (last : Text) : Prop where
  folders : ∀ name ∈ folder, IsName name
  last : last = [] ∨ IsName last

/-- The written form of an address below the base. -/
def addressText (folder : List Text) (last : Text) : Text := Text.join "/" (folder ++ [last])

/-- Names of folders, each with a slash behind it. -/
def folderText (folder : List Text) : Text := folder.flatMap (· ++ ['/'])

/-- The components of the file that an address stands for, below the output directory. -/
def addressedFile (address : Text) : List Text :=
  let parts := Text.splitOn (· = '/') address
  if address = [] ∨ Text.endsWith "/" address = true then parts.dropLast ++ [indexName] else parts

variable {folder : List Text} {last stem before name mark text : Text} {base : Path}

theorem addressText_eq (folder : List Text) (last : Text) :
    addressText folder last = folderText folder ++ last :=
  Text.join_append_singleton "/" last folder

theorem IsAddress.noSlash (isAddress : IsAddress folder last) : '/' ∉ last := by
  rcases isAddress.last with rfl | isName
  · exact List.not_mem_nil
  · exact isName.2.2.2.1

theorem IsAddress.splitOn (isAddress : IsAddress folder last) :
    Text.splitOn (· = '/') (addressText folder last) = folder ++ [last] := by
  apply Text.splitOn_join (by simp)
  intro part member
  rcases List.mem_append.1 member with above | here
  · exact (isAddress.folders part above).2.2.2.1
  · rw [List.mem_singleton.1 here]
    exact isAddress.noSlash

theorem IsAddress.eq_of_addressText {other : List Text} {final : Text}
    (isAddress : IsAddress folder last) (also : IsAddress other final)
    (same : addressText folder last = addressText other final) : folder = other ∧ last = final := by
  have split := isAddress.splitOn
  rw [same, also.splitOn] at split
  exact List.append_singleton_inj.1 split.symm

theorem head?_addressText_ne_slash (folders : ∀ name ∈ folder, IsName name)
    (noSlash : '/' ∉ last) : (addressText folder last).head? ≠ some '/' := by
  rw [addressText_eq]
  intro slash
  cases folder with
  | nil => exact noSlash (List.mem_of_mem_head? slash)
  | cons name folder =>
      obtain ⟨nonempty, -, -, noSlash, -⟩ := folders name List.mem_cons_self
      obtain ⟨first, rest, rfl⟩ := List.exists_cons_of_ne_nil nonempty
      simp only [folderText, List.flatMap_cons, List.cons_append, List.head?_cons,
        Option.some.injEq] at slash
      exact noSlash (slash ▸ List.mem_cons_self)

theorem IsAddress.head_ne_slash (isAddress : IsAddress folder last) :
    (addressText folder last).head? ≠ some '/' :=
  head?_addressText_ne_slash isAddress.folders isAddress.noSlash

/-- The folders of an address are written with a slash at the end. -/
theorem folders_cases (folder : List Text) :
    folderText folder = [] ∨ ∃ before, folderText folder = before ++ ['/'] := by
  rcases List.eq_nil_or_concat folder with rfl | ⟨above, name, rfl⟩
  · exact Or.inl rfl
  · refine Or.inr ⟨folderText above ++ name, ?_⟩
    simp [folderText, List.flatMap_append]

theorem endsWith_append (text mark : Text) : Text.endsWith mark (text ++ mark) = true :=
  List.isSuffixOf_iff_suffix.2 (List.suffix_append text mark)

theorem dropEnd_append (text mark : Text) : dropEnd mark (text ++ mark) = text := by
  rw [dropEnd, List.length_append, Nat.add_sub_cancel]
  exact List.take_left

/-- The text of an address is empty or ends with a slash for an index page alone. -/
theorem IsAddress.last_eq_nil_iff (isAddress : IsAddress folder last) :
    addressText folder last = [] ∨ Text.endsWith "/" (addressText folder last) = true ↔
      last = [] := by
  rw [addressText_eq]
  constructor
  · rintro (empty | slash)
    · exact (List.append_eq_nil_iff.1 empty).2
    · by_contra named
      obtain ⟨front, whole⟩ := List.isSuffixOf_iff_suffix.1 slash
      have marked : front ++ ['/'] = folderText folder ++ last := whole
      have ends := congrArg List.getLast? marked
      rw [List.getLast?_append_of_ne_nil _ named, List.getLast?_concat] at ends
      exact isAddress.noSlash (List.mem_of_getLast? ends.symm)
  · rintro rfl
    rw [List.append_nil]
    rcases folders_cases folder with none | ⟨before, some⟩
    · exact Or.inl none
    · rw [some]
      exact Or.inr (endsWith_append before "/")

theorem IsAddress.addressedFile (isAddress : IsAddress folder last) :
    addressedFile (addressText folder last) =
      folder ++ [if last = [] then indexName else last] := by
  unfold Page.addressedFile
  simp only [isAddress.splitOn, isAddress.last_eq_nil_iff]
  split
  · rw [List.dropLast_concat]
  · rfl

theorem IsAddress.parse (isAddress : IsAddress folder last) :
    Path.parse (addressText folder last) =
      ⟨.here, folder ++ if last = [] then [] else [last]⟩ := by
  have anchored : Anchor.ofText (addressText folder last) = .here := by
    have slash := isAddress.head_ne_slash
    cases written : addressText folder last with
    | nil => rfl
    | cons first rest =>
        rw [written, List.head?_cons] at slash
        unfold Anchor.ofText
        split <;> simp_all
  have folders : folder.filter (fun part => part ≠ [] ∧ part ≠ ['.']) = folder := by
    rw [List.filter_eq_self]
    intro name member
    have isName := isAddress.folders name member
    simpa using ⟨isName.1, isName.2.1⟩
  rw [Path.parse, anchored, isAddress.splitOn, List.filter_append, folders]
  rcases isAddress.last with rfl | isName
  · rfl
  · rw [if_neg isName.1]
    simp [isName.1, isName.2.1]

theorem relative_extend (base : Path) (parts : List Text) :
    relative (base.extend parts) base = .ok ⟨.here, parts⟩ := by
  have below : Path.below? base (base.extend parts) = some parts := by
    unfold Path.below? Path.extend
    by_cases empty : base.parts = []
    · simp [empty]
    · simp [empty]
  rw [relative, Path.relativeTo?, below]
  rfl

/-- A name behind folders that ends an index path is that of the index page. -/
theorem eq_indexName_of_endsWith (noSlash : '/' ∉ name)
    (ends : Text.endsWith ("/" ++ indexName) (folderText folder ++ name) = true) :
    name = indexName ∧ folderText folder ≠ [] := by
  obtain ⟨front, whole⟩ := List.isSuffixOf_iff_suffix.1 ends
  have index : Text.cutLast? '/' (front ++ '/' :: indexName) = some (front, indexName) :=
    Text.cutLast?_append front (by decide)
  have same : front ++ '/' :: indexName = folderText folder ++ name := whole
  rcases folders_cases folder with none | ⟨before, some⟩
  · rw [none, List.nil_append] at same
    exact absurd (same ▸ (by simp : '/' ∈ front ++ '/' :: indexName)) noSlash
  · have named : Text.cutLast? '/' (before ++ '/' :: name) = Option.some (before, name) :=
      Text.cutLast?_append before noSlash
    rw [same, some, List.append_assoc] at index
    have both := named.symm.trans index
    exact ⟨(Prod.mk.inj (Option.some.inj both)).2, by simp [some]⟩

/-- The address of an index page ends with its folder, and that of another page with its name
without the suffix. -/
theorem shorten_eq (noSlash : '/' ∉ stem) :
    shorten (folderText folder ++ (stem ++ ".html".toList)) =
      folderText folder ++ if stem = "index".toList then [] else stem := by
  have noSlashes : '/' ∉ stem ++ ".html".toList := by
    rw [List.mem_append, not_or]
    exact ⟨noSlash, by decide⟩
  unfold shorten
  by_cases index : stem = "index".toList
  · have page : stem ++ ".html".toList = indexName := by
      rw [index]
      rfl
    rw [page, if_pos index, List.append_nil]
    rcases folders_cases folder with none | ⟨before, some⟩
    · rw [none, List.nil_append, if_pos rfl]
    · have whole : before ++ ['/'] ++ indexName = before ++ ("/" ++ indexName) :=
        List.append_assoc _ _ _
      have longer : before ++ ['/'] ++ indexName ≠ indexName := by
        intro same
        have lengths := congrArg List.length same
        rw [List.length_append, List.length_append, List.length_singleton] at lengths
        omega
      rw [some, if_neg longer, whole, if_pos (endsWith_append before _), ← whole, dropEnd_append]
  · have other : stem ++ ".html".toList ≠ indexName := by
      intro same
      exact index (List.append_cancel_right (same.trans (rfl : indexName = "index".toList ++ ".html".toList)))
    rw [if_neg index, if_neg, if_neg, ← List.append_assoc, if_pos (endsWith_append _ _),
      dropEnd_append]
    · exact fun ends => other (eq_indexName_of_endsWith noSlashes ends).1
    · intro same
      rcases folders_cases folder with none | ⟨before, some⟩
      · rw [none, List.nil_append] at same
        exact other same
      · have slash : '/' ∈ indexName := by
          rw [← same, some]
          simp
        exact absurd slash (by decide)

theorem noSlash_of_page (isName : IsName (stem ++ ".html".toList)) : '/' ∉ stem :=
  fun member => isName.2.2.2.1 (List.mem_append_left _ member)

/-- The address of an output file. -/
theorem canonicalPath_extend (isName : IsName (stem ++ ".html".toList)) :
    canonicalPath (base.extend (folder ++ [stem ++ ".html".toList])) base =
      .ok (addressText folder (if stem = "index".toList then [] else stem)) := by
  have written : Path.text ⟨.here, folder ++ [stem ++ ".html".toList]⟩ =
      folderText folder ++ (stem ++ ".html".toList) := by
    rw [Path.text_of_parts (by simp)]
    exact Text.join_append_singleton "/" _ folder
  have shortened : canonicalPath (base.extend (folder ++ [stem ++ ".html".toList])) base =
      .ok (shorten (folderText folder ++ (stem ++ ".html".toList))) := by
    rw [canonicalPath, relative_extend, ← written]
    rfl
  rw [shortened, shorten_eq (noSlash_of_page isName), addressText_eq]

/-- The folder of a written path as the beginning of an address. -/
theorem indexDirectory_extend (folders : ∀ name ∈ folder, IsName name) (name : Text) :
    indexDirectory (base.extend (folder ++ [name])) base = .ok ('/' :: folderText folder) := by
  have parent : (⟨.here, folder ++ [name]⟩ : Path).parent = ⟨.here, folder⟩ := by
    simp [Path.parent]
  have directory : indexDirectory (base.extend (folder ++ [name])) base =
      if (⟨.here, folder⟩ : Path).text = ['.'] then .ok ['/']
      else .ok ('/' :: ((⟨.here, folder⟩ : Path).text ++ ['/'])) := by
    rw [indexDirectory, relative_extend, ← parent]
    rfl
  rw [directory]
  rcases List.eq_nil_or_concat' folder with rfl | ⟨above, last, rfl⟩
  · rfl
  · have written : (⟨.here, above ++ [last]⟩ : Path).text = folderText above ++ last := by
      rw [Path.text_of_parts (by simp)]
      exact Text.join_append_singleton "/" last above
    have other : folderText above ++ last ≠ ['.'] := by
      intro dot
      have isName := folders last (by simp)
      rcases folders_cases above with none | ⟨front, some⟩
      · rw [none, List.nil_append] at dot
        exact isName.2.1 dot
      · have lengths := congrArg List.length dot
        have long := List.length_pos_iff.2 isName.1
        simp only [some, List.length_append, List.length_singleton] at lengths
        omega
    rw [written, if_neg other]
    simp [folderText]

end Page

end StaticSite
