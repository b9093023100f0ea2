import StaticSite.Proofs.Server.Containing
import StaticSite.Proofs.Workspace.Replacing

/-!
# Serving what is left of a tree

While a directory is removed, what is still there is served as before, and what is gone is not
found.  Where nothing is left of the output directory, no file is served.
-/

namespace StaticSite

namespace FileTree

variable {first second : FileTree} {location : Location} {path : Path}

/-- Nothing is in the second tree but what is in the first one. -/
structure Thinned (first second : FileTree) : Prop where
  here : second.here = first.here
  node?_eq : ∀ location,
    second.node? location = none ∨ second.node? location = first.node? location

theorem thinned_refl (tree : FileTree) : Thinned tree tree := ⟨rfl, fun _ => Or.inr rfl⟩

/-- Removing locations thins a tree. -/
theorem Thinned.removals {edits : List Edit} (thinned : Thinned first second)
    (removes : ∀ edit ∈ edits, ∃ location, location ≠ [] ∧ edit = .remove location) :
    Thinned first (edits.foldl FileTree.apply second) := by
  induction edits generalizing second with
  | nil => exact thinned
  | cons edit edits ih =>
      obtain ⟨gone, within, rfl⟩ := removes edit List.mem_cons_self
      apply ih _ fun other member => removes other (List.mem_cons_of_mem _ member)
      refine ⟨thinned.here, fun location => ?_⟩
      show (second.erase gone).node? location = none ∨
        (second.erase gone).node? location = first.node? location
      rw [node?_erase within]
      split
      · exact Or.inl rfl
      · exact thinned.node?_eq location

namespace Thinned

variable (thinned : Thinned first second)
include thinned

theorem follow_cases (location : Location) (parts : List Text) :
    second.follow location parts = .error .missing ∨
      second.follow location parts = first.follow location parts := by
  induction parts generalizing location with
  | nil => exact Or.inr rfl
  | cons part parts ih =>
      rcases thinned.node?_eq location with gone | same
      · exact Or.inl (by simp only [follow, gone])
      · simp only [follow, same]
        split
        · exact Or.inr rfl
        · exact Or.inr rfl
        · split
          · exact ih location
          · split
            · exact ih location.dropLast
            · split
              · exact Or.inr rfl
              · exact ih (location ++ [part])

theorem locate_cases (path : Path) :
    second.locate path = .error .missing ∨ second.locate path = first.locate path := by
  unfold locate
  rw [thinned.here]
  split
  · exact Or.inr rfl
  · exact thinned.follow_cases _ path.parts

theorem probe_cases (path : Path) :
    second.probe path = .ok none ∨ second.probe path = first.probe path := by
  cases clean : hasNull path with
  | true => exact Or.inl (by rw [probe, if_pos clean])
  | false =>
      rw [probe_of_locate clean, probe_of_locate clean]
      rcases thinned.locate_cases path with gone | same
      · rw [gone]
        exact Or.inl rfl
      · rw [same]
        cases first.locate path with
        | error refusal => cases refusal <;> exact Or.inr rfl
        | ok location =>
            rcases thinned.node?_eq location with gone | same
            · exact Or.inl (congrArg Except.ok gone)
            · exact Or.inr (congrArg Except.ok same)

theorem read_eq (isFile : second.isFile path = .ok true) : second.read path = first.read path := by
  obtain ⟨location, required, content, modified, there⟩ := hasFile_of_isFile isFile
  obtain ⟨clean, located⟩ := require_eq_ok_iff.1 required
  have led : first.locate path = .ok location := by
    rcases thinned.locate_cases path with gone | same
    · rw [gone] at located
      cases located
    · exact same ▸ located
  have before : first.node? location = some (.file content modified) := by
    rcases thinned.node?_eq location with gone | same
    · rw [gone] at there
      cases there
    · exact same ▸ there
  rw [read_of_file required there, read_of_file (require_eq_ok_iff.2 ⟨clean, led⟩) before]

end Thinned

theorem isDirectory_of_nothing (nothing : first.probe path = .ok none) :
    first.isDirectory path = .ok false := by
  rw [isDirectory, nothing]
  rfl

theorem isFile_of_nothing (nothing : first.probe path = .ok none) :
    first.isFile path = .ok false := by
  rw [isFile, nothing]
  rfl

end FileTree

namespace Server

open FileTree

variable {first second files : FileTree} {output path : Path} {method target : Text}
  {response : Response}

theorem deliver_of_thinned (thinned : Thinned first second) :
    deliver second path = .ok (.notice .notFound) ∨ deliver second path = deliver first path := by
  rcases thinned.probe_cases path with nothing | same
  · exact Or.inl (deliver_of_not_file (isFile_of_nothing nothing))
  · have isFile : second.isFile path = first.isFile path := by rw [FileTree.isFile, same]; rfl
    exact Or.inr (deliver_eq isFile fun file => thinned.read_eq (isFile.trans file))

/-- In what is left of a tree a request is answered as before, or its file is not found. -/
theorem respond_of_thinned (thinned : Thinned first second) (output : Path) (method target : Text) :
    respond second output method target = .ok (.notice .notFound) ∨
      respond second output method target = respond first output method target := by
  rcases respond_cases output method target with ⟨answer, same, -⟩ | ⟨parts, inner, asks⟩
  · exact Or.inr (by rw [same, same])
  · rw [asks, asks]
    rcases thinned.probe_cases (output.extend parts) with nothing | same
    · rw [isDirectory_of_nothing nothing]
      exact Or.inl (deliver_of_not_file (isFile_of_nothing nothing))
    · have isDirectory : second.isDirectory (output.extend parts) =
          first.isDirectory (output.extend parts) := by
        rw [FileTree.isDirectory, same]
        rfl
      rw [isDirectory]
      cases first.isDirectory (output.extend parts) with
      | error fault => exact Or.inr rfl
      | ok answer => exact deliver_of_thinned thinned

/-- Where nothing is in the place of the output, the file of a request is not found, unless the
answer is the same for all trees. -/
theorem respond_of_nothing (nothing : files.probe output = .ok none) (method target : Text) :
    respond files output method target = .ok (.notice .notFound) ∨
      (∀ other, respond other output method target = respond files output method target) ∧
        ∀ response, respond files output method target = .ok response → response.status ≠ .ok := by
  rcases respond_cases output method target with ⟨answer, same, noFile⟩ | ⟨parts, inner, asks⟩
  · exact Or.inr ⟨fun other => (same other).trans (same files).symm,
      fun response answered => noFile response ((same files).symm.trans answered)⟩
  · by_cases long : longestPath < (Utf8.encode (output.extend parts).text).length ∧
        hasNull (output.extend parts) = false
    · have refused : ∀ tree, respond tree output method target =
          .error (.refused .nameTooLong (output.extend parts).text) := by
        intro tree
        have located : tree.locate (output.extend parts) = .error .nameTooLong := if_pos long.1
        rw [asks, isDirectory, probe_of_locate long.2, located]
        rfl
      refine Or.inr ⟨fun other => (refused other).trans (refused files).symm, ?_⟩
      intro response answered
      rw [refused] at answered
      cases answered
    · have missing : files.probe (output.extend parts) = .ok none := by
        cases clean : hasNull (output.extend parts) with
        | true => rw [probe, if_pos clean]
        | false =>
            have short : (Utf8.encode (output.extend parts).text).length ≤ longestPath :=
              Nat.not_lt.1 fun exceeds => long ⟨exceeds, clean⟩
            exact probe_extend_of_none inner.goesDown short clean nothing
      rw [asks, isDirectory_of_nothing missing]
      exact Or.inl (deliver_of_not_file (isFile_of_nothing missing))

/-- Whatever is answered is a file, or not found, or the same for all trees. -/
theorem respond_eq_ok_cases (answered : respond files output method target = .ok response) :
    response.status = .ok ∨ response = .notice .notFound ∨
      ∀ other, respond other output method target = .ok response := by
  rcases respond_cases output method target with ⟨answer, same, -⟩ | ⟨parts, inner, asks⟩
  · rw [same] at answered
    simp only [same]
    exact Or.inr (Or.inr fun _ => answered)
  · rw [asks] at answered
    cases isDirectory : files.isDirectory (output.extend parts) with
    | error fault =>
        rw [isDirectory] at answered
        cases answered
    | ok answer =>
        rw [isDirectory] at answered
        exact (deliver_cases answered).imp_right Or.inl

/-- A request whose file is found before and after nothing was in the place of the output has been
answered otherwise in between, and no other request has. -/
theorem respond_of_nothing_between {old new : Response} (nothing : files.probe output = .ok none)
    (before : respond first output method target = .ok old)
    (after : respond second output method target = .ok new) :
    (respond files output method target = .ok old ∨ respond files output method target = .ok new) ↔
      ¬ (old.status = .ok ∧ new.status = .ok) := by
  rcases respond_of_nothing nothing method target with gone | ⟨same, noFile⟩
  · have notFound : (Response.notice .notFound).status ≠ .ok := by decide
    rw [gone, Except.ok.injEq, Except.ok.injEq]
    constructor
    · rintro (rfl | rfl) ⟨one, two⟩
      · exact notFound one
      · exact notFound two
    · intro lost
      have absent : ∀ {tree : FileTree} {answer : Response},
          respond tree output method target = .ok answer → answer.status ≠ .ok →
            .notice .notFound = answer := by
        intro tree answer answered other
        rcases respond_eq_ok_cases answered with found | missing | always
        · exact absurd found other
        · exact missing.symm
        · exact Except.ok.inj (gone.symm.trans (always files))
      rcases not_and_or.1 lost with one | two
      · exact Or.inl (absent before one)
      · exact Or.inr (absent after two)
  · have known : respond files output method target = .ok old := (same first).symm.trans before
    exact iff_of_true (Or.inl known) fun found => noFile old known found.1

end Server

end StaticSite
