import StaticSite.Proofs.FileTree.Opening
import StaticSite.Proofs.Page.Address
import StaticSite.Proofs.Server.Escaping
import StaticSite.Server.Response

/-!
# Serving pages

The server answers a request for an address with the file that the address stands for.
-/

namespace StaticSite

namespace Server

open FileTree Page

/-- Whether a request for an address is answered with the file that it stands for. -/
def Serves (tree : FileTree) (base : Path) (output : Location) (address : Text) : Prop :=
  ∃ content modified mediaType,
    tree.node? (output ++ addressedFile address) = some (.file content modified) ∧
      respond tree base "GET" ('/' :: escape address) = .ok ⟨.ok, mediaType, content⟩

variable {tree : FileTree} {base path : Path} {folder : List Text} {last : Text}
  {location : Location} {content : Bytes} {modified : Int}

theorem contentType_of_read (read : tree.read path = .ok content) :
    ∃ mediaType, contentType tree path = .ok mediaType := by
  unfold contentType
  split
  · rw [read]
    exact ⟨_, rfl⟩
  · split
    · exact ⟨_, rfl⟩
    · exact ⟨_, rfl⟩

/-- No part of an address leads upwards. -/
theorem not_above_of_isAddress (isAddress : IsAddress folder last) :
    (Text.splitOn (· = '/') ('/' :: addressText folder last)).contains ['.', '.'] = false := by
  have split : Text.splitOn (· = '/') ('/' :: addressText folder last) =
      [] :: (folder ++ [last]) := by
    rw [Text.splitOn, if_pos (by decide), isAddress.splitOn]
  rw [split, List.contains_eq_mem, decide_eq_false_iff_not]
  intro member
  rcases List.mem_cons.1 member with empty | inside
  · cases empty
  · rcases List.mem_append.1 inside with above | here
    · exact (isAddress.folders _ above).2.2.1 rfl
    · obtain rfl := List.mem_singleton.1 here
      rcases isAddress.last with empty | isName
      · cases empty
      · exact isName.2.2.1 rfl

theorem dropWhile_slash {text : Text} (other : text.head? ≠ some '/') :
    ('/' :: text).dropWhile (· = '/') = text := by
  rw [List.dropWhile_cons_of_pos (by decide)]
  cases text with
  | nil => rfl
  | cons first rest =>
      rw [List.dropWhile_cons_of_neg]
      simpa using other

/-- The path that a request for an address leads to. -/
theorem resolveRequest_address (isAddress : IsAddress folder last)
    (required : tree.require (base.extend (addressedFile (addressText folder last))) =
      .ok location)
    (file : tree.node? location = some (.file content modified)) :
    resolveRequest tree base ('/' :: escape (addressText folder last)) =
      .ok (some (base.extend (addressedFile (addressText folder last)))) := by
  have below := not_above_of_isAddress isAddress
  have single : ('/' :: addressText folder last = [] ∨ '/' :: addressText folder last = ['/']) ↔
      addressText folder last = [] := by simp
  rw [isAddress.addressedFile] at required ⊢
  unfold resolveRequest
  rw [requestedPath_escape isAddress.head_ne_slash]
  simp only [bind, Except.bind, below, Bool.false_eq_true, if_false, single]
  have leads : ∀ parts, base.append ⟨.here, parts⟩ = base.extend parts := fun _ => rfl
  by_cases empty : addressText folder last = []
  · obtain rfl := isAddress.last_eq_nil_iff.1 (Or.inl empty)
    have root : folder = [] := by
      by_contra above
      rw [addressText, Text.join_concat _ _ above] at empty
      simp at empty
    subst root
    have index : Path.parse (('/' :: Server.indexName).dropWhile (· = '/')) =
        ⟨.here, [Page.indexName]⟩ := rfl
    have noDirectory := isDirectory_of_file required file
    rw [if_pos rfl, List.nil_append] at noDirectory
    rw [if_pos empty, index, leads, noDirectory]
    rfl
  · rw [if_neg empty, dropWhile_slash isAddress.head_ne_slash, isAddress.parse, leads]
    by_cases index : last = []
    · -- The folder is a directory, so its index page is served.
      simp only [if_pos index, List.append_nil] at required ⊢
      rw [← Path.child_extend] at required ⊢
      obtain ⟨inner, opens, -⟩ := opens_of_require_child (by decide) required
      rw [isDirectory_of_opens opens]
      rfl
    · simp only [if_neg index] at required ⊢
      rw [isDirectory_of_file required file]
      rfl

/-- A page that the path of its address leads to is served. -/
theorem serves_address {output : Location} (isAddress : IsAddress folder last)
    (required : tree.require (base.extend (addressedFile (addressText folder last))) =
      .ok (output ++ addressedFile (addressText folder last)))
    (file : tree.HasFile (output ++ addressedFile (addressText folder last))) :
    Serves tree base output (addressText folder last) := by
  obtain ⟨content, modified, there⟩ := file
  obtain ⟨mediaType, typed⟩ := contentType_of_read (read_of_file required there)
  refine ⟨content, modified, mediaType, there, ?_⟩
  unfold respond
  rw [if_neg (by decide), resolveRequest_address isAddress required there]
  simp only [bind, Except.bind, isFile_of_file required there, read_of_file required there, typed]
  rfl

end Server

end StaticSite
