import StaticSite.Proofs.FileTree.Sharing
import StaticSite.Proofs.Server.Serving

/-!
# Requests stay below the output directory

What a target asks for is made of components that lead downwards, however the target is written.
So an answer depends on nothing but what is at and below the output directory.
-/

namespace StaticSite

namespace Server

open FileTree

variable {files first second : FileTree} {output path : Path} {method target text : Text}
  {parts : List Text}

/-- Components that can be below a directory only. -/
def Inner (parts : List Text) : Prop :=
  ∀ part ∈ parts, part ≠ [] ∧ part ≠ ['.'] ∧ part ≠ ['.', '.'] ∧ '/' ∉ part

theorem Inner.goesDown (inner : Inner parts) : Path.GoesDown parts :=
  fun part member => ⟨(inner part member).1, (inner part member).2.2.1⟩

theorem Inner.index (inner : Inner parts) : Inner (parts ++ [indexName]) := by
  intro part member
  rcases List.mem_append.1 member with inside | last
  · exact inner part inside
  · rw [List.mem_singleton.1 last]
    decide

/-- Without the slashes in front a text has no other parts. -/
theorem mem_splitOn_of_dropWhile {part : Text}
    (member : part ∈ Text.splitOn (· = '/') (text.dropWhile (· = '/'))) :
    part ∈ Text.splitOn (· = '/') text := by
  induction text with
  | nil => exact member
  | cons character text ih =>
      by_cases slash : character = '/'
      · rw [List.dropWhile_cons_of_pos (by simpa using slash)] at member
        rw [Text.splitOn, if_pos (by simpa using slash)]
        exact List.mem_cons_of_mem _ (ih member)
      · rwa [List.dropWhile_cons_of_neg (by simpa using slash)] at member

theorem anchor_of_dropWhile (text : Text) :
    Anchor.ofText (text.dropWhile (· = '/')) = .here := by
  cases rest : text.dropWhile (· = '/') with
  | nil => rfl
  | cons character later =>
      have other := List.head?_dropWhile_not (p := (· = '/')) (l := text)
      rw [rest] at other
      have notSlash : character ≠ '/' := by simpa using other
      unfold Anchor.ofText
      split <;> simp_all

/-- A path without parts that lead upwards is one below the output directory. -/
theorem append_parse_eq_extend (noUp : (Text.splitOn (· = '/') text).contains ['.', '.'] = false) :
    ∃ parts, Inner parts ∧
      output.append (Path.parse (text.dropWhile (· = '/'))) = output.extend parts := by
  have up : ['.', '.'] ∉ Text.splitOn (· = '/') text := by simpa using noUp
  refine ⟨(Path.parse (text.dropWhile (· = '/'))).parts, ?_, ?_⟩
  · intro part member
    obtain ⟨listed, kept⟩ := List.mem_filter.1 member
    rw [decide_eq_true_eq] at kept
    refine ⟨kept.1, kept.2, ?_, Text.not_mem_of_splitOn listed⟩
    rintro rfl
    exact up (mem_splitOn_of_dropWhile listed)
  · rw [Path.append]
    simp only [Path.parse, anchor_of_dropWhile]
    rfl

/-- What a target asks for below the output directory, whatever the tree is. -/
theorem resolveRequest_cases (output : Path) (target : Text) :
    (∃ fault, ∀ files, resolveRequest files output target = .error fault) ∨
      (∀ files, resolveRequest files output target = .ok none) ∨
      ∃ parts, Inner parts ∧ ∀ files, resolveRequest files output target =
        (files.isDirectory (output.extend parts)).map fun isDirectory =>
          some (output.extend (if isDirectory then parts ++ [indexName] else parts)) := by
  unfold resolveRequest
  cases requested : requestedPath target with
  | error fault => exact Or.inl ⟨fault, fun _ => rfl⟩
  | ok path =>
      right
      cases noUp : (Text.splitOn (· = '/') path).contains ['.', '.'] with
      | true => exact Or.inl fun _ => by simp only [bind, Except.bind, noUp, if_true]; rfl
      | false =>
          right
          have whole : ∃ parts, Inner parts ∧ output.append (Path.parse
              ((if path = [] ∨ path = ['/'] then '/' :: indexName else path).dropWhile
                (· = '/'))) = output.extend parts := by
            split
            · exact append_parse_eq_extend (by decide)
            · exact append_parse_eq_extend noUp
          obtain ⟨parts, inner, extended⟩ := whole
          refine ⟨parts, inner, fun files => ?_⟩
          simp only [bind, Except.bind, noUp, extended, Path.child_extend]
          rcases files.isDirectory (output.extend parts) with fault | _ | _ <;> rfl

/-- The answer with a file, if it is there. -/
def deliver (files : FileTree) (file : Path) : Except Fault Response := do
  if ! (← files.isFile file) then return .notice .notFound
  match files.read file with
  | .error (.file _) => return .notice .internalError
  | .error fault => throw fault
  | .ok body => return ⟨.ok, ← contentType files file, body⟩

theorem deliver_of_not_file (asked : files.isFile path = .ok false) :
    deliver files path = .ok (.notice .notFound) := by
  unfold deliver
  rw [asked]
  rfl

theorem deliver_of_node {mediaType : Text} {location : Location} {content : Bytes} {modified : Int}
    (required : files.require path = .ok location)
    (there : files.node? location = some (.file content modified))
    (typed : contentType files path = .ok mediaType) :
    deliver files path = .ok ⟨.ok, mediaType, content⟩ := by
  unfold deliver
  rw [isFile_of_file required there, read_of_file required there]
  simp only [bind, Except.bind, typed]
  rfl

theorem deliver_of_file (asked : files.isFile path = .ok true) :
    ∃ response, deliver files path = .ok response ∧ response.status = .ok := by
  obtain ⟨location, required, content, modified, there⟩ := hasFile_of_isFile asked
  obtain ⟨mediaType, typed⟩ := contentType_of_read (read_of_file required there)
  exact ⟨_, deliver_of_node required there typed, rfl⟩

/-- What is delivered is a file, or it is said that there is none. -/
theorem deliver_cases {response : Response} (delivered : deliver files path = .ok response) :
    response.status = .ok ∨ response = .notice .notFound := by
  cases asked : files.isFile path with
  | error fault =>
      unfold deliver at delivered
      rw [asked] at delivered
      cases delivered
  | ok answer =>
      cases answer with
      | false =>
          rw [deliver_of_not_file asked, Except.ok.injEq] at delivered
          exact Or.inr delivered.symm
      | true =>
          obtain ⟨other, known, found⟩ := deliver_of_file asked
          rw [known, Except.ok.injEq] at delivered
          exact Or.inl (delivered ▸ found)

theorem deliver_eq (isFile : second.isFile path = first.isFile path)
    (read : first.isFile path = .ok true → second.read path = first.read path) :
    deliver second path = deliver first path := by
  unfold deliver
  rw [isFile]
  rcases asked : first.isFile path with fault | _ | _
  · rfl
  · rfl
  · unfold contentType
    rw [read asked]

theorem respond_eq_bind (asks : method = "GET" ∨ method = "HEAD") (files : FileTree)
    (output : Path) (target : Text) :
    respond files output method target = (resolveRequest files output target).bind fun
      | none => .ok (.notice .forbidden)
      | some file => deliver files file := by
  unfold respond
  rw [if_neg (not_not.2 asks)]
  rcases resolveRequest files output target with fault | _ | file <;> rfl

/-- A request that asks for a file is answered with it. -/
theorem respond_of_resolved {mediaType : Text} {location : Location} {content : Bytes}
    {modified : Int} (asks : method = "GET" ∨ method = "HEAD")
    (resolved : resolveRequest files output target = .ok (some path))
    (required : files.require path = .ok location)
    (there : files.node? location = some (.file content modified))
    (typed : contentType files path = .ok mediaType) :
    respond files output method target = .ok ⟨.ok, mediaType, content⟩ := by
  rw [respond_eq_bind asks, resolved]
  exact deliver_of_node required there typed

/-- A file in the output directory itself is delivered. -/
theorem respond_of_child {name asked mediaType : Text} {location : Location} {content : Bytes}
    {modified : Int} (requested : requestedPath target = .ok asked)
    (noUp : (Text.splitOn (· = '/') asked).contains ['.', '.'] = false)
    (parsed : Path.parse ((if asked = [] ∨ asked = ['/'] then '/' :: indexName
      else asked).dropWhile (· = '/')) = ⟨.here, [name]⟩)
    (required : files.require (output.child name) = .ok location)
    (there : files.node? location = some (.file content modified))
    (typed : contentType files (output.child name) = .ok mediaType) :
    respond files output "GET" target = .ok ⟨.ok, mediaType, content⟩ := by
  have resolved : resolveRequest files output target = .ok (some (output.child name)) := by
    have below : output.append ⟨.here, [name]⟩ = output.child name := rfl
    unfold resolveRequest
    rw [requested]
    simp only [bind, Except.bind, noUp, parsed, below, isDirectory_of_file required there]
    rfl
  exact respond_of_resolved (Or.inl rfl) resolved required there typed

/-- An answer to a request either comes before any tree is asked, and then it is no file, or it is
the delivery of a file below the output directory. -/
theorem respond_cases (output : Path) (method target : Text) :
    (∃ answer, (∀ files, respond files output method target = answer) ∧
        ∀ response, answer = .ok response → response.status ≠ .ok) ∨
      ∃ parts, Inner parts ∧ ∀ files, respond files output method target =
        (files.isDirectory (output.extend parts)).bind fun isDirectory =>
          deliver files (output.extend (if isDirectory then parts ++ [indexName] else parts)) := by
  by_cases asks : method = "GET" ∨ method = "HEAD"
  swap
  · refine Or.inl ⟨.ok (.notice .methodNotAllowed), fun files => if_pos asks, ?_⟩
    intro response same
    cases same
    decide
  rcases resolveRequest_cases output target with ⟨fault, faults⟩ | forbidden | ⟨parts, inner, found⟩
  · exact Or.inl ⟨.error fault, fun files => by rw [respond_eq_bind asks, faults]; rfl, nofun⟩
  · have answered : ∀ files, respond files output method target = .ok (.notice .forbidden) := by
      intro files
      rw [respond_eq_bind asks, forbidden]
      rfl
    refine Or.inl ⟨_, answered, ?_⟩
    intro response same
    cases same
    decide
  · refine Or.inr ⟨parts, inner, fun files => ?_⟩
    rw [respond_eq_bind asks, found]
    cases files.isDirectory (output.extend parts) <;> rfl

/-- Where two trees hold the same at and below the output directory, requests are answered
alike. -/
theorem respond_eq_of_shareAt (share : ShareAt output first second) :
    respond second output method target = respond first output method target := by
  rcases respond_cases output method target with ⟨answer, same, -⟩ | ⟨parts, inner, asks⟩
  · rw [same, same]
  · rw [asks, asks, (share.extend inner.goesDown).isDirectory_eq]
    congr 1
    funext isDirectory
    have down : Path.GoesDown (if isDirectory = true then parts ++ [indexName] else parts) := by
      split
      · exact inner.index.goesDown
      · exact inner.goesDown
    exact deliver_eq (share.extend down).isFile_eq (share.extend down).read_eq

end Server

namespace Server.Example

open FileTree

/-- A page of a project, which has a secret beside it. -/
def guarded : FileTree where
  here := ["project".toList]
  entries := [
    (["project".toList], .directory),
    (["project".toList, "public".toList], .directory),
    (["project".toList, "public".toList, indexName], .file (Utf8.encode "page") 1),
    (["project".toList, "secret".toList], .file (Utf8.encode "one") 1)]

/-- The same page in another place, at another time and beside another secret. -/
def moved : FileTree where
  here := ["home".toList, "copy".toList]
  entries := [
    (["secret".toList], .file (Utf8.encode "two") 2),
    (["home".toList], .directory),
    (["home".toList, "copy".toList], .directory),
    (["home".toList, "copy".toList, "public".toList], .directory),
    (["home".toList, "copy".toList, "public".toList, indexName], .file (Utf8.encode "page") 3)]

theorem shareAt_moved : ShareAt ⟨.here, ["public".toList]⟩ guarded moved := by
  refine Or.inr ⟨["project".toList, "public".toList],
    ["home".toList, "copy".toList, "public".toList], by cbv, by cbv, ?_, ?_⟩
  · intro parts
    simp [node?, lookup, guarded, moved]
  · intro parts
    rcases parts with _ | ⟨part, parts⟩
    · rfl
    · by_cases page : part :: parts = [indexName]
      · rw [page]
        rfl
      · simp [content?, node?, lookup, guarded, moved, Ne.symm page]

end Server.Example

end StaticSite
