import StaticSite.Proofs.FileTree.Contents

/-!
# Trees that hold the same below a path

Two trees may have one directory in common and nothing else, and they may even have it in different
places.  A path that goes on from there, and not upwards, finds the same in both.
-/

namespace StaticSite

namespace Path

/-- The components of a path that goes nowhere but down. -/
def GoesDown (parts : List Text) : Prop := ∀ part ∈ parts, part ≠ [] ∧ part ≠ ['.', '.']

theorem length_encode_text_extend_le (directory : Path) {parts : List Text}
    (down : GoesDown parts) :
    (Utf8.encode directory.text).length ≤ (Utf8.encode (directory.extend parts).text).length := by
  induction parts using List.reverseRecOn with
  | nil => rw [extend_nil]
  | append_singleton parts name ih =>
      have shorter := ih fun part member => down part (List.mem_append_left _ member)
      have nonempty := (down name (by simp)).1
      rw [← child_extend]
      exact shorter.trans (length_encode_text_le _ nonempty)

end Path

namespace FileTree

variable {tree first second : FileTree} {one two : Location} {path : Path} {parts : List Text}

/-- Two trees hold the same at and below two locations, but for the times of changes. -/
structure MatchBelow (first second : FileTree) (one two : Location) : Prop where
  directory_iff : ∀ parts, second.node? (two ++ parts) = some .directory ↔
    first.node? (one ++ parts) = some .directory
  content?_eq : ∀ parts, second.content? (two ++ parts) = first.content? (one ++ parts)

/-- Two trees hold the same at and below a path: they find nothing, or the same. -/
def ShareAt (path : Path) (first second : FileTree) : Prop :=
  second.probe path = first.probe path ∧ (∀ node, first.probe path ≠ .ok (some node)) ∨
    ∃ one two, first.require path = .ok one ∧ second.require path = .ok two ∧
      MatchBelow first second one two

theorem locate_extend (down : Path.GoesDown parts)
    (short : (Utf8.encode (path.extend parts).text).length ≤ longestPath) :
    tree.locate (path.extend parts) =
      (tree.locate path).bind fun location => tree.follow location parts := by
  have shorter : ¬ longestPath < (Utf8.encode path.text).length :=
    Nat.not_lt.2 ((Path.length_encode_text_extend_le path down).trans short)
  unfold locate
  rw [if_neg (Nat.not_lt.2 short), if_neg shorter]
  exact follow_append path.parts parts

theorem hasNull_of_extend (clean : hasNull (path.extend parts) = false) : hasNull path = false := by
  simp only [hasNull, Path.extend, List.any_append, Bool.or_eq_false_iff] at clean ⊢
  exact clean.1

/-- What is at a path that has no null character. -/
theorem probe_of_locate (clean : hasNull path = false) :
    tree.probe path = match tree.locate path with
      | .ok location => .ok (tree.node? location)
      | .error .nameTooLong => .error (.refused .nameTooLong path.text)
      | .error _ => .ok none := by
  exact if_neg (by simp [clean])

/-- Below nothing there is nothing. -/
theorem probe_extend_of_none (down : Path.GoesDown parts)
    (short : (Utf8.encode (path.extend parts).text).length ≤ longestPath)
    (clean : hasNull (path.extend parts) = false) (nothing : tree.probe path = .ok none) :
    tree.probe (path.extend parts) = .ok none := by
  rw [probe_of_locate (hasNull_of_extend clean)] at nothing
  rw [probe_of_locate clean, locate_extend down short]
  cases located : tree.locate path with
  | error refusal =>
      rw [located] at nothing
      cases refusal with
      | nameTooLong => cases nothing
      | _ => rfl
  | ok location =>
      simp only [located, Except.ok.injEq] at nothing
      cases parts with
      | nil => simp [Except.bind, follow, nothing]
      | cons part parts => simp [Except.bind, follow, nothing]

theorem probe_extend_of_error {fault : Fault} (down : Path.GoesDown parts)
    (short : (Utf8.encode (path.extend parts).text).length ≤ longestPath)
    (clean : hasNull (path.extend parts) = false) (refused : tree.probe path = .error fault) :
    tree.probe (path.extend parts) = .error (.refused .nameTooLong (path.extend parts).text) := by
  rw [probe_of_locate (hasNull_of_extend clean)] at refused
  rw [probe_of_locate clean, locate_extend down short]
  cases located : tree.locate path with
  | error refusal =>
      rw [located] at refused
      cases refusal with
      | nameTooLong => rfl
      | _ => cases refused
  | ok location =>
      rw [located] at refused
      cases refused

namespace MatchBelow

variable (same : MatchBelow first second one two)
include same

theorem append (parts : List Text) : MatchBelow first second (one ++ parts) (two ++ parts) where
  directory_iff inner := by simpa using same.directory_iff (parts ++ inner)
  content?_eq inner := by simpa using same.content?_eq (parts ++ inner)

theorem node?_eq_none_iff : second.node? two = none ↔ first.node? one = none := by
  have directory := same.directory_iff []
  have content := same.content?_eq []
  rw [List.append_nil, List.append_nil] at directory content
  rw [← not_iff_not, ← ne_eq, ← ne_eq, node?_ne_none_iff, node?_ne_none_iff, directory, content]

/-- Downwards one goes equally far in both trees. -/
theorem follow_alike (down : ['.', '.'] ∉ parts) :
    (∃ rest, first.follow one parts = .ok (one ++ rest) ∧
        second.follow two parts = .ok (two ++ rest)) ∨
      ∃ refusal, first.follow one parts = .error refusal ∧
        second.follow two parts = .error refusal := by
  induction parts generalizing one two with
  | nil => exact Or.inl ⟨[], by simp [follow], by simp [follow]⟩
  | cons part parts ih =>
      rw [List.mem_cons, not_or] at down
      have directory := same.directory_iff []
      have missing := same.node?_eq_none_iff
      rw [List.append_nil, List.append_nil] at directory
      rcases held : first.node? one with _ | ⟨content, modified⟩ | _
      · exact Or.inr ⟨.missing, by simp [follow, held], by simp [follow, missing.2 held]⟩
      · have file : ∃ content modified, second.node? two = some (.file content modified) := by
          rcases there : second.node? two with _ | ⟨content, modified⟩ | _
          · simp [missing.1 there] at held
          · exact ⟨content, modified, rfl⟩
          · simp [directory.1 there] at held
        obtain ⟨other, time, there⟩ := file
        exact Or.inr ⟨.notDirectory, by simp [follow, held], by simp [follow, there]⟩
      · simp only [follow, held, directory.2 held, if_neg (Ne.symm down.1)]
        split
        · exact ih same down.2
        · split
          · exact Or.inr ⟨_, rfl, rfl⟩
          · rcases ih (same.append [part]) down.2 with ⟨rest, led, also⟩ | refused
            · exact Or.inl ⟨part :: rest, by simpa using led, by simpa using also⟩
            · exact Or.inr refused

end MatchBelow

/-- What two trees share at a path they share at every path that goes on from there. -/
theorem ShareAt.extend (share : ShareAt path first second) (down : Path.GoesDown parts) :
    ShareAt (path.extend parts) first second := by
  by_cases clean : hasNull (path.extend parts) = false
  swap
  · have null : hasNull (path.extend parts) = true := by simpa using clean
    exact Or.inl ⟨by simp [probe, null], by simp [probe, null]⟩
  by_cases short : (Utf8.encode (path.extend parts).text).length ≤ longestPath
  swap
  · have long : ∀ tree : FileTree, tree.locate (path.extend parts) = .error .nameTooLong :=
      fun tree => if_pos (by omega)
    left
    rw [probe_of_locate clean, probe_of_locate clean, long, long]
    exact ⟨rfl, by simp⟩
  rcases share with ⟨alike, nothing⟩ | ⟨one, two, leads, also, same⟩
  · left
    rcases found : first.probe path with fault | _ | node
    · rw [found] at alike
      rw [probe_extend_of_error down short clean found,
        probe_extend_of_error down short clean alike]
      exact ⟨rfl, by simp⟩
    · rw [found] at alike
      rw [probe_extend_of_none down short clean found, probe_extend_of_none down short clean alike]
      exact ⟨rfl, by simp⟩
    · exact absurd found (nothing node)
  · have up : ['.', '.'] ∉ parts := fun member => (down _ member).2 rfl
    have located : ∀ {tree : FileTree} {location : Location}, tree.require path = .ok location →
        tree.locate (path.extend parts) = tree.follow location parts := by
      intro tree location led
      rw [locate_extend down short, (require_eq_ok_iff.1 led).2]
      rfl
    rcases same.follow_alike up with ⟨rest, led, otherLed⟩ | ⟨refusal, refused, otherRefused⟩
    · right
      refine ⟨one ++ rest, two ++ rest, ?_, ?_, same.append rest⟩
      · exact require_eq_ok_iff.2 ⟨clean, (located leads).trans led⟩
      · exact require_eq_ok_iff.2 ⟨clean, (located also).trans otherLed⟩
    · left
      rw [probe_of_locate clean, probe_of_locate clean, located leads, located also, refused,
        otherRefused]
      cases refusal <;> exact ⟨rfl, by simp⟩

namespace ShareAt

variable (share : ShareAt path first second)
include share

theorem isDirectory_eq : second.isDirectory path = first.isDirectory path := by
  rcases share with ⟨alike, -⟩ | ⟨one, two, leads, also, same⟩
  · rw [isDirectory, isDirectory, alike]
  · have directory := same.directory_iff []
    rw [List.append_nil, List.append_nil] at directory
    rw [isDirectory, isDirectory, probe_of_require leads, probe_of_require also]
    by_cases here : first.node? one = some .directory
    · rw [here, directory.2 here]
    · have other := mt directory.1 here
      simp [Except.map, here, other]

theorem isFile_eq : second.isFile path = first.isFile path := by
  rcases share with ⟨alike, -⟩ | ⟨one, two, leads, also, same⟩
  · rw [isFile, isFile, alike]
  · have content := same.content?_eq []
    rw [List.append_nil, List.append_nil] at content
    cases held : first.content? one with
    | none => rw [isFile_of_no_content leads held, isFile_of_no_content also (content.trans held)]
    | some octets =>
        obtain ⟨_, there⟩ := content?_eq_some_iff.1 held
        obtain ⟨_, alsoThere⟩ := content?_eq_some_iff.1 (content.trans held)
        rw [isFile_of_file leads there, isFile_of_file also alsoThere]

theorem read_eq (isFile : first.isFile path = .ok true) : second.read path = first.read path := by
  obtain ⟨one, leads, octets, time, there⟩ := hasFile_of_isFile isFile
  rcases share with ⟨-, nothing⟩ | ⟨other, two, led, also, same⟩
  · rw [probe_of_require leads, there] at nothing
    exact absurd rfl (nothing _)
  · obtain rfl : one = other := Except.ok.inj (leads.symm.trans led)
    have content := same.content?_eq []
    rw [List.append_nil, List.append_nil, content?_eq_some_iff.2 ⟨time, there⟩] at content
    obtain ⟨_, alsoThere⟩ := content?_eq_some_iff.1 content
    rw [read_of_file leads there, read_of_file also alsoThere]

end ShareAt

end FileTree

end StaticSite
