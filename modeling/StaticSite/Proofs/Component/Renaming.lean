import Mathlib
import StaticSite.Proofs.Component.Inlining

/-!
# Renaming components

A pass visits the components in the order of their names, so new names change the order.  Where
the invocations stand apart this does not show in the end: a page unfolds in the same way under
the new names.  In the argument of another invocation it does show, because the outer one ends
where the inner one does.
-/

namespace StaticSite

namespace Component

/-- Put the new names in the place of the old ones wherever an invocation begins. -/
def renameText (newName : Text → Text) (names : List Text) (text : Text) : Text :=
  names.foldl (fun text name => Text.replace (opener name) (opener (newName name)) text) text

/-- The components under new names, which their bodies use as well. -/
def renameComponents (newName : Text → Text) (components : Dictionary Text) : Dictionary Text :=
  Dictionary.ofList (components.entries.map fun component =>
    (newName component.1, renameText newName components.keys component.2))

def renameName (newName : Text → Text) (names : List Text) (name : Text) : Text :=
  if name ∈ names then newName name else name

def Piece.rename (newName : Text → Text) (names : List Text) : Piece → Piece
  | .invocation name arguments => .invocation (renameName newName names name) arguments
  | piece => piece

def renameBody (newName : Text → Text) (names : List Text) (body : Body) : Body :=
  body.map (Piece.rename newName names)

def renameLibrary (newName : Text → Text) (library : Dictionary Body) : Dictionary Body :=
  Dictionary.ofList (library.entries.map fun component =>
    (newName component.1, renameBody newName library.keys component.2))

/-- New names for components that neither the components nor a page use. -/
structure Fresh (newName : Text → Text) (library : Dictionary Body) (page : Body) : Prop where
  isName : ∀ name ∈ library.keys, IsName (newName name)
  distinct : (library.keys.map newName).Nodup
  unknown : ∀ name ∈ library.keys, newName name ∉ library.keys
  unused : ∀ name ∈ library.keys, ¬ Invokes (newName name) (writeBody page)
  unusedInside : ∀ name ∈ library.keys, ∀ caller body, library.get? caller = some body →
    ¬ Invokes (newName name) (writeBody body)

variable {newName : Text → Text} {library : Dictionary Body} {names more : List Text}
  {page body : Body} {piece : Piece} {name raw : Text} {depth : Nat}

section Texts

theorem Piece.rename_nil (piece : Piece) : piece.rename newName [] = piece := by
  cases piece <;> simp [rename, renameName]

theorem renameName_of_not_mem (absent : name ∉ names) : renameName newName names name = name :=
  if_neg absent

/-- Renaming one component and then the others is renaming them all. -/
theorem renameName_renameName (fresh : newName name ∉ more) (other : Text) :
    renameName newName more (renameName newName [name] other) =
      renameName newName (name :: more) other := by
  by_cases same : other = name
  · simp [renameName, same, fresh]
  · simp [renameName, same]

theorem renameBody_renameBody (fresh : newName name ∉ more) (page : Body) :
    renameBody newName more (renameBody newName [name] page) =
      renameBody newName (name :: more) page := by
  rw [renameBody, renameBody, List.map_map]
  refine List.map_congr_left fun piece _ => ?_
  cases piece with
  | chunk text => rfl
  | placeholder index => rfl
  | invocation other arguments => simp [Piece.rename, renameName_renameName fresh]

theorem Piece.Sound.rename (sound : piece.Sound names)
    (areNames : ∀ name ∈ more, IsName (newName name)) :
    (piece.rename newName more).Sound names := by
  cases piece with
  | chunk text => exact sound
  | placeholder index => exact sound
  | invocation name arguments =>
      refine ⟨⟨?_, sound.1.2⟩, ?_⟩
      · rw [renameName]
        split
        · next listed => exact areNames name listed
        · exact sound.1.1
      · rintro text ⟨⟩

/-- Replacing the beginnings of the invocations of a name gives them the new name. -/
theorem Piece.Sound.replaces (sound : piece.Sound names) (isName : IsName name)
    (member : name ∈ names) :
    Text.Replaces (opener name) (opener (newName name)) piece.write
      (piece.rename newName [name]).write := by
  have kept : (∀ arguments, piece ≠ .invocation name arguments) →
      Text.Replaces (opener name) (opener (newName name)) piece.write piece.write := fun other =>
    .of_passes (sound.passes isName member other)
  cases piece with
  | chunk text => exact kept (by simp)
  | placeholder index => exact kept (by simp)
  | invocation other arguments =>
      by_cases same : other = name
      · subst same
        obtain ⟨tail, written, passes⟩ := exists_write_invocation sound.1.2
        have begins : Text.Replaces (opener other) (opener (newName other)) (opener other)
            (opener (newName other)) := .of_mark (by simp [opener_eq])
        rw [Piece.rename, renameName, if_pos (List.mem_singleton_self _), written, written]
        exact begins.append (.of_passes (passes other isName))
      · rw [Piece.rename, renameName_of_not_mem (by simpa using same)]
        exact kept (by simp [same])

section Several

variable (areNames : ∀ name ∈ more, IsName name) (newNames : ∀ name ∈ more, IsName (newName name))
  (fresh : ∀ name ∈ more, newName name ∉ more)
include areNames newNames fresh

/-- Renaming in the written form of a page is renaming in the page, whatever follows. -/
theorem renameText_writeBody_append (known : more ⊆ names)
    (sound : ∀ piece ∈ page, piece.Sound names) (rest : Text) :
    renameText newName more (writeBody page ++ rest) =
      writeBody (renameBody newName more page) ++ renameText newName more rest := by
  induction more generalizing page rest with
  | nil =>
      have pieces : Piece.rename newName [] = id := funext Piece.rename_nil
      rw [renameBody, pieces, List.map_id]
      rfl
  | cons name more ih =>
      obtain ⟨here, others⟩ := List.cons_subset.1 known
      have single : ∀ other ∈ [name], IsName (newName other) := fun other member =>
        newNames other (by simpa using Or.inl (List.mem_singleton.1 member))
      have first : Text.Replaces (opener name) (opener (newName name)) (writeBody page)
          (writeBody (renameBody newName [name] page)) := by
        rw [renameBody, writeBody, writeBody, List.flatMap_map]
        exact Text.Replaces.flatMap fun piece member =>
          (sound piece member).replaces (areNames name List.mem_cons_self) here
      have stillSound : ∀ piece ∈ renameBody newName [name] page, piece.Sound names := by
        intro piece member
        obtain ⟨original, originalMember, rfl⟩ := List.mem_map.1 member
        exact (sound original originalMember).rename single
      have apart : newName name ∉ more := fun member =>
        fresh name List.mem_cons_self (List.mem_cons_of_mem _ member)
      have later := ih (fun other member => areNames other (List.mem_cons_of_mem _ member))
        (fun other member => newNames other (List.mem_cons_of_mem _ member))
        (fun other member inside => fresh other (List.mem_cons_of_mem _ member)
          (List.mem_cons_of_mem _ inside)) others stillSound
        (Text.replace (opener name) (opener (newName name)) rest)
      rw [renameText, List.foldl_cons, first rest]
      rw [renameBody_renameBody apart] at later
      exact later

theorem renameText_writeBody (known : more ⊆ names) (sound : ∀ piece ∈ page, piece.Sound names) :
    renameText newName more (writeBody page) = writeBody (renameBody newName more page) := by
  have whole := renameText_writeBody_append areNames newNames fresh known sound []
  have nothing : renameText newName more [] = [] := by
    clear areNames newNames fresh known sound whole
    induction more with
    | nil => rfl
    | cons name more ih => exact ih
  rwa [nothing, List.append_nil, List.append_nil] at whole

/-- Renaming at the beginning of an invocation, with a text behind it that has none. -/
theorem renameText_opener (isName : IsName name) (silent : ∀ other ∈ more, ¬ Invokes other raw) :
    renameText newName more (opener name ++ raw) =
      opener (renameName newName more name) ++ raw := by
  induction more generalizing name with
  | nil => simp [renameText, renameName]
  | cons first more ih =>
      have still := Text.replace_eq_self (silent first List.mem_cons_self) (opener (newName first))
      have later : ∀ other, IsName other → renameText newName more (opener other ++ raw) =
          opener (renameName newName more other) ++ raw := fun other otherName =>
        ih (fun other member => areNames other (List.mem_cons_of_mem _ member))
          (fun other member => newNames other (List.mem_cons_of_mem _ member))
          (fun other member inside => fresh other (List.mem_cons_of_mem _ member)
            (List.mem_cons_of_mem _ inside)) otherName
          fun other member => silent other (List.mem_cons_of_mem _ member)
      have apart : newName first ∉ more := fun member =>
        fresh first List.mem_cons_self (List.mem_cons_of_mem _ member)
      rw [renameText, List.foldl_cons, ← renameName_renameName apart]
      by_cases same : name = first
      · subst same
        have begins : Text.Replaces (opener name) (opener (newName name)) (opener name)
            (opener (newName name)) := .of_mark (by simp [opener_eq])
        have single : renameName newName [name] name = newName name :=
          if_pos (List.mem_singleton_self _)
        rw [begins, still, single]
        exact later _ (newNames name List.mem_cons_self)
      · have passes := passes_opener_other (areNames first List.mem_cons_self) isName same
        have kept : renameName newName [first] name = name :=
          renameName_of_not_mem (by simpa using same)
        rw [Text.replace_append_of_passes _ passes, still, kept]
        exact later name isName

end Several

end Texts

section Lookups

theorem entries_renameLibrary (distinct : (library.keys.map newName).Nodup) :
    (renameLibrary newName library).entries = library.entries.map fun component =>
      (newName component.1, renameBody newName library.keys component.2) := by
  apply Dictionary.entries_ofList
  rwa [List.map_map, Dictionary.keys, List.map_map] at *

theorem keys_renameLibrary (distinct : (library.keys.map newName).Nodup) :
    (renameLibrary newName library).keys = library.keys.map newName := by
  rw [Dictionary.keys, entries_renameLibrary distinct, Dictionary.keys, List.map_map, List.map_map]
  rfl

/-- A name that is not one of the new ones is looked up as before. -/
theorem get?_renameLibrary (distinct : (library.keys.map newName).Nodup)
    (old : name ∉ library.keys.map newName) :
    (renameLibrary newName library).get? (renameName newName library.keys name) =
      (library.get? name).map (renameBody newName library.keys) := by
  cases found : library.get? name with
  | some body =>
      rw [renameName, if_pos (Dictionary.mem_keys_of_get? found), Option.map_some,
        Dictionary.get?_eq_some_iff, entries_renameLibrary distinct]
      exact List.mem_map.2 ⟨_, Dictionary.get?_eq_some_iff.1 found, rfl⟩
  | none =>
      have absent : name ∉ library.keys := by
        intro listed
        obtain ⟨body, known⟩ := Dictionary.exists_of_mem_keys listed
        rw [found] at known
        cases known
      rw [renameName_of_not_mem absent, Option.map_none]
      cases again : (renameLibrary newName library).get? name with
      | none => rfl
      | some body =>
          have listed := Dictionary.mem_keys_of_get? again
          rw [keys_renameLibrary distinct] at listed
          exact absurd listed old

/-- Renaming the written forms of components is renaming the components. -/
theorem renameComponents_map (fresh : Fresh newName library page)
    (separate : Separate names library) :
    renameComponents newName (library.map writeBody) =
      (renameLibrary newName library).map writeBody := by
  have written : (library.map writeBody).entries.map (fun component =>
        (newName component.1, renameText newName (library.map writeBody).keys component.2)) =
      library.entries.map fun component =>
        (newName component.1, writeBody (renameBody newName library.keys component.2)) := by
    rw [Dictionary.keys_map, Dictionary.entries_map, List.map_map]
    refine List.map_congr_left fun component member => ?_
    have sound := separate.sound _ _ (Dictionary.get?_eq_some_iff.2 member)
    exact congrArg _ (renameText_writeBody separate.isName fresh.isName fresh.unknown
      separate.known sound)
  apply Dictionary.eq_of_entries
  rw [renameComponents, written, Dictionary.entries_ofList, Dictionary.entries_map,
    entries_renameLibrary fresh.distinct, List.map_map]
  · rfl
  · rw [List.map_map]
    have distinct := fresh.distinct
    rwa [Dictionary.keys, List.map_map] at distinct

end Lookups

section Meaning

/-- Whether a page invokes none of some names. -/
def Avoids (names : List Text) (page : Body) : Prop :=
  ∀ name arguments, .invocation name arguments ∈ page → name ∉ names

theorem Avoids.instantiate {arguments : List Argument} (avoids : Avoids names body) :
    Avoids names (Component.instantiate arguments body) := by
  intro name others member
  obtain ⟨original, originalMember, filled⟩ := List.mem_map.1 member
  obtain ⟨originals, rfl, -⟩ := original.fill_invocation filled
  exact avoids name originals originalMember

theorem avoids_of_not_invokes
    (unused : ∀ name ∈ library.keys, ¬ Invokes (newName name) (writeBody body)) :
    Avoids (library.keys.map newName) body := by
  intro name arguments member listed
  obtain ⟨old, known, rfl⟩ := List.mem_map.1 listed
  exact unused old known (invokes_writeBody member)

theorem Piece.rename_fill (first : Nat) (arguments : List Text) (piece : Piece) :
    (piece.fill first arguments).rename newName names =
      (piece.rename newName names).fill first arguments := by
  cases piece with
  | chunk text => rfl
  | placeholder index =>
      have same : (Piece.placeholder index).rename newName names = .placeholder index := rfl
      rw [same, fill]
      split <;> rfl
  | invocation name others => rfl

theorem renameBody_instantiate (arguments : List Argument) (body : Body) :
    renameBody newName names (instantiate arguments body) =
      instantiate arguments (renameBody newName names body) := by
  rw [renameBody, instantiate, instantiate, renameBody, List.map_map, List.map_map]
  exact List.map_congr_left fun piece _ => piece.rename_fill 1 _

theorem Piece.passedOn_rename (piece : Piece) :
    (piece.rename newName names).passedOn = piece.passedOn := by
  cases piece <;> rfl

theorem mem_renameBody {arguments : List Argument} :
    .invocation name arguments ∈ renameBody newName names page ↔
      ∃ old, .invocation old arguments ∈ page ∧ name = renameName newName names old := by
  constructor
  · intro member
    obtain ⟨piece, pieceMember, same⟩ := List.mem_map.1 member
    cases piece with
    | chunk text => cases same
    | placeholder index => cases same
    | invocation old others =>
        obtain ⟨rfl, rfl⟩ := Piece.invocation.inj same
        exact ⟨old, pieceMember, rfl⟩
  · rintro ⟨old, member, rfl⟩
    exact List.mem_map.2 ⟨_, member, rfl⟩

/-- A page without invocations of components has no name that changes. -/
theorem renameBody_eq_self (shallow : NestsWithin library 0 page) :
    renameBody newName library.keys page = page := by
  rw [renameBody]
  refine (List.map_congr_left fun piece member => ?_).trans (List.map_id page)
  cases piece with
  | chunk text => rfl
  | placeholder index => rfl
  | invocation name arguments =>
      have absent : name ∉ library.keys := by
        intro listed
        obtain ⟨body, found⟩ := Dictionary.exists_of_mem_keys listed
        rw [shallow name arguments member] at found
        cases found
      rw [Piece.rename, renameName_of_not_mem absent]
      rfl

variable {change : Dictionary Body}

theorem nestsWithin_renameBody_iff :
    NestsWithin change depth (renameBody newName names page) ↔
      ∀ name arguments, .invocation name arguments ∈ page →
        NameWithin change depth (renameName newName names name) := by
  rw [nestsWithin_iff]
  constructor
  · intro nests name arguments member
    exact nests _ arguments (mem_renameBody.2 ⟨name, member, rfl⟩)
  · intro nests name arguments member
    obtain ⟨old, oldMember, rfl⟩ := mem_renameBody.1 member
    exact nests old arguments oldMember

variable (distinct : (library.keys.map newName).Nodup)
  (avoidsInside : ∀ caller body, library.get? caller = some body →
    Avoids (library.keys.map newName) body)
include distinct avoidsInside

theorem nestsWithin_renameBody (avoids : Avoids (library.keys.map newName) page) :
    NestsWithin (renameLibrary newName library) depth (renameBody newName library.keys page) ↔
      NestsWithin library depth page := by
  induction depth generalizing page with
  | zero =>
      rw [nestsWithin_renameBody_iff, nestsWithin_iff]
      refine forall_congr' fun name => forall_congr' fun arguments => forall_congr' fun member => ?_
      rw [NameWithin, NameWithin, get?_renameLibrary distinct (avoids name arguments member),
        Option.map_eq_none_iff]
  | succ depth ih =>
      rw [nestsWithin_renameBody_iff, nestsWithin_iff]
      refine forall_congr' fun name => forall_congr' fun arguments => forall_congr' fun member => ?_
      have found := get?_renameLibrary distinct (avoids name arguments member)
      constructor
      · intro within target known
        rw [known] at found
        exact (ih (avoidsInside name target known)).1 (within _ found)
      · intro within target known
        rw [found, Option.map_eq_some_iff] at known
        obtain ⟨body, listed, rfl⟩ := known
        exact (ih (avoidsInside name body listed)).2 (within body listed)

/-- A page unfolds in the same way under the new names. -/
theorem unfold_renameBody (avoids : Avoids (library.keys.map newName) page) :
    unfold (renameLibrary newName library) depth (renameBody newName library.keys page) =
      renameBody newName library.keys (unfold library depth page) := by
  induction depth generalizing page with
  | zero => rfl
  | succ depth ih =>
      rw [renameBody, unfold, unfold, renameBody, List.flatMap_map, List.map_flatMap]
      refine List.flatMap_congr fun piece member => ?_
      cases piece with
      | chunk text => rfl
      | placeholder index => rfl
      | invocation name arguments =>
          have found := get?_renameLibrary distinct (avoids name arguments member)
          rw [Piece.rename, Piece.unfold, Piece.unfold, found]
          cases known : library.get? name with
          | none => rfl
          | some body =>
              have inside := @ih (instantiate arguments body) (avoidsInside name body known).instantiate
              rw [renameBody_instantiate] at inside
              exact inside

omit avoidsInside in
theorem Piece.Reaches.rename (reaches : piece.Reaches library)
    (avoids : Avoids (library.keys.map newName) [piece]) :
    (piece.rename newName library.keys).Reaches (renameLibrary newName library) := by
  cases piece with
  | chunk text => trivial
  | placeholder index => trivial
  | invocation name arguments =>
      intro target known index member
      rw [get?_renameLibrary distinct (avoids name arguments List.mem_cons_self),
        Option.map_eq_some_iff] at known
      obtain ⟨body, found, rfl⟩ := known
      refine reaches body found index ?_
      rw [renameBody, List.flatMap_map] at member
      simpa [Piece.passedOn_rename] using member

omit avoidsInside in
theorem SeparatePage.rename (isPage : SeparatePage names library page)
    (newNames : ∀ name ∈ library.keys, IsName (newName name))
    (avoids : Avoids (library.keys.map newName) page) :
    SeparatePage names (renameLibrary newName library) (renameBody newName library.keys page) := by
  refine ⟨?_, ?_, ?_⟩
  all_goals
    intro piece member
    obtain ⟨original, originalMember, rfl⟩ := List.mem_map.1 member
  · exact (isPage.sound original originalMember).rename newNames
  · refine (isPage.reaches original originalMember).rename distinct ?_
    intro name arguments same
    exact avoids name arguments (List.mem_singleton.1 same ▸ originalMember)
  · rw [Piece.passedOn_rename]
    exact isPage.settled original originalMember

theorem Separate.rename (separate : Separate names library)
    (newNames : ∀ name ∈ library.keys, IsName (newName name))
    (known : library.keys.map newName ⊆ names) :
    Separate names (renameLibrary newName library) := by
  have bodies : ∀ name body, (renameLibrary newName library).get? name = some body →
      ∃ old before, library.get? old = some before ∧ body = renameBody newName library.keys before := by
    intro name body found
    rw [Dictionary.get?_eq_some_iff, entries_renameLibrary distinct] at found
    obtain ⟨component, member, same⟩ := List.mem_map.1 found
    exact ⟨component.1, component.2, Dictionary.get?_eq_some_iff.2 member,
      (Prod.mk.inj same).2.symm⟩
  refine ⟨?_, ?_, ?_, ?_⟩
  · rw [keys_renameLibrary distinct]
    intro name member
    obtain ⟨old, listed, rfl⟩ := List.mem_map.1 member
    exact newNames old listed
  · rwa [keys_renameLibrary distinct]
  · intro name body found piece member
    obtain ⟨old, before, listed, rfl⟩ := bodies name body found
    obtain ⟨original, originalMember, rfl⟩ := List.mem_map.1 member
    exact (separate.sound old before listed original originalMember).rename newNames
  · intro name body found piece member
    obtain ⟨old, before, listed, rfl⟩ := bodies name body found
    obtain ⟨original, originalMember, rfl⟩ := List.mem_map.1 member
    refine (separate.reaches old before listed original originalMember).rename distinct ?_
    intro other arguments same
    exact avoidsInside old before listed other arguments
      (List.mem_singleton.1 same ▸ originalMember)

end Meaning

/-- Where the invocations stand apart, the names of the components do not matter: the expansion
ends with the same text under fresh names, it ends if no component leads back to itself, and it
fails under both names on an invocation that is not closed. -/
theorem expandAll_rename (fresh : Fresh newName library page)
    (separate : Separate (library.keys ++ library.keys.map newName) library)
    (isPage : SeparatePage (library.keys ++ library.keys.map newName) library page)
    (source : Option Text) :
    (∀ text, Finishes (writeBody page) (library.map writeBody) source text ↔
      Finishes (renameText newName library.keys (writeBody page))
        (renameComponents newName (library.map writeBody)) source text) ∧
    ((∀ name, ¬ Relation.TransGen (Calls library) name name) →
      ∃ text, Finishes (writeBody page) (library.map writeBody) source text) ∧
    ∀ name ∈ library.keys, ∀ raw, ¬ closing <:+: ' ' :: raw →
      (∀ other ∈ library.keys ++ library.keys.map newName, ¬ Invokes other raw) →
      (∃ fault, expandAll (writeBody page ++ (opener name ++ raw)) (library.map writeBody) source =
        .error fault) ∧
      ∃ fault, expandAll (renameText newName library.keys (writeBody page ++ (opener name ++ raw)))
        (renameComponents newName (library.map writeBody)) source = .error fault := by
  have avoids : Avoids (library.keys.map newName) page := avoids_of_not_invokes fresh.unused
  have avoidsInside : ∀ caller body, library.get? caller = some body →
      Avoids (library.keys.map newName) body := fun caller body found =>
    avoids_of_not_invokes fun name listed => fresh.unusedInside name listed caller body found
  have renamedLibrary := separate.rename fresh.distinct avoidsInside fresh.isName
    (List.subset_append_right _ _)
  have renamedPage := isPage.rename fresh.distinct fresh.isName avoids
  have length : (renameLibrary newName library).entries.length = library.entries.length := by
    rw [entries_renameLibrary fresh.distinct, List.length_map]
  have content := renameText_writeBody separate.isName fresh.isName fresh.unknown separate.known
    isPage.sound
  rw [renameComponents_map fresh separate]
  refine ⟨fun text => ?_, fun acyclic => ?_, fun name listed raw unclosed silent => ⟨?_, ?_⟩⟩
  · rw [content, finishes_iff separate isPage, finishes_iff renamedLibrary renamedPage, length,
      nestsWithin_renameBody fresh.distinct avoidsInside avoids,
      unfold_renameBody fresh.distinct avoidsInside avoids]
    refine and_congr_right fun nests => ?_
    rw [renameBody_eq_self (nestsWithin_unfold nests)]
  · exact ⟨_, (finishes_iff separate isPage).2 ⟨.of_acyclic acyclic page, rfl⟩⟩
  · exact expandAll_unclosed unclosed (separate.isName name listed) listed separate isPage silent
  · have written := renameText_writeBody_append separate.isName fresh.isName fresh.unknown
      separate.known isPage.sound (opener name ++ raw)
    rw [renameText_opener separate.isName fresh.isName fresh.unknown (separate.isName name listed)
      fun other member => silent other (List.mem_append_left _ member)] at written
    have member : newName name ∈ (renameLibrary newName library).keys := by
      rw [keys_renameLibrary fresh.distinct]
      exact List.mem_map_of_mem listed
    rw [written, renameName, if_pos listed]
    exact expandAll_unclosed unclosed (fresh.isName name listed) member renamedLibrary renamedPage
      silent

section Example

/-- Names under which the components of the card are visited the other way round. -/
def cardName (name : Text) : Text := if name = "card".toList then "panel".toList else "image".toList

theorem cardName_fresh : Fresh cardName cardLibrary cardPage where
  isName := by decide
  distinct := by decide
  unknown := by decide
  unused := by decide
  unusedInside name listed caller body found := by
    have all : ∀ name ∈ cardLibrary.keys, ∀ entry ∈ cardLibrary.entries,
        ¬ Invokes (cardName name) (writeBody entry.2) := by decide
    exact all name listed _ (Dictionary.get?_eq_some_iff.1 found)

theorem expandAll_rename_card :
    let names := cardLibrary.keys ++ cardLibrary.keys.map cardName
    Fresh cardName cardLibrary cardPage ∧ Separate names cardLibrary ∧
      SeparatePage names cardLibrary cardPage ∧
      ∃ text, Finishes (writeBody cardPage) (cardLibrary.map writeBody) none text ∧
        Finishes (renameText cardName cardLibrary.keys (writeBody cardPage))
          (renameComponents cardName (cardLibrary.map writeBody)) none text := by
  have isPage : IsPage cardLibrary cardPage := ⟨by decide, by decide, by decide⟩
  have separate := cardLibrary_isLibrary.separate
    (List.subset_append_left cardLibrary.keys (cardLibrary.keys.map cardName))
  have separatePage := isPage.separate (cardLibrary.keys ++ cardLibrary.keys.map cardName)
  obtain ⟨same, ends, -⟩ := expandAll_rename cardName_fresh separate separatePage none
  obtain ⟨text, finishes⟩ := ends cardLibrary_isLibrary.acyclic
  exact ⟨cardName_fresh, separate, separatePage, text, finishes, (same text).1 finishes⟩

/-- A component that puts its argument between brackets, and another one. -/
def nestedComponents : Dictionary Text :=
  Dictionary.ofList [("a".toList, "[\x7b\x7b $1 \x7d\x7d]".toList), ("b".toList, "B".toList)]

/-- An invocation in the argument of another one. -/
def nestedPage : Text := "\x7b\x7b a \"\x7b\x7b b \x7d\x7d\" \x7d\x7d".toList

def nestedName (name : Text) : Text := if name = "a".toList then "y".toList else "x".toList

/-- The components under the new names. -/
def renamedComponents : Dictionary Text :=
  Dictionary.ofList [("y".toList, "[\x7b\x7b $1 \x7d\x7d]".toList), ("x".toList, "B".toList)]

def renamedPage : Text := "\x7b\x7b y \"\x7b\x7b x \x7d\x7d\" \x7d\x7d".toList

/-- What is left of the inner invocation. -/
def brokenPage : Text := "[\x7b\x7b b]\" \x7d\x7d".toList

theorem expandAll_nestedPage : expandAll nestedPage nestedComponents none = .ok brokenPage := by
  have order : inOrder nestedComponents =
      [("a".toList, "[\x7b\x7b $1 \x7d\x7d]".toList), ("b".toList, "B".toList)] := by
    cbv
  have outer : expand nestedPage "a".toList "[\x7b\x7b $1 \x7d\x7d]".toList none =
      .ok brokenPage := by
    have first : Text.cut? (opener "a".toList) nestedPage =
        some ([], "\"\x7b\x7b b \x7d\x7d\" \x7d\x7d".toList) := rfl
    have closed : Text.cut? closing (' ' :: "\"\x7b\x7b b \x7d\x7d\" \x7d\x7d".toList) =
        some (" \"\x7b\x7b b".toList, "\" \x7d\x7d".toList) := rfl
    exact expand_of_cut? (by decide) _ none first closed (by decide)
  have inner : expand brokenPage "b".toList "B".toList none = .ok brokenPage :=
    expand_of_not_invokes (by decide) _ none (by decide)
  have pass : expandEach none (inOrder nestedComponents) nestedPage = .ok brokenPage := by
    rw [order, expandEach, outer]
    exact congrArg (· >>= expandEach none []) inner
  have last : expandEach none (inOrder nestedComponents) brokenPage = .ok brokenPage := by
    rw [order]
    exact expandEach_of_not_invokes (by decide) none (by decide)
  have changes : brokenPage ≠ nestedPage := by decide
  refine expandPasses_succ_eq_ok_iff.2 ⟨_, pass, Or.inr ⟨changes, ?_⟩⟩
  exact expandPasses_succ_eq_ok_iff.2 ⟨_, last, Or.inl ⟨rfl, rfl⟩⟩

theorem expandAll_renamedPage : expandAll renamedPage renamedComponents none = .ok "[B]".toList := by
  have order : inOrder renamedComponents =
      [("x".toList, "B".toList), ("y".toList, "[\x7b\x7b $1 \x7d\x7d]".toList)] := by
    cbv
  have inner : expand renamedPage "x".toList "B".toList none =
      .ok "\x7b\x7b y \"B\" \x7d\x7d".toList := by
    have first : Text.cut? (opener "x".toList) renamedPage =
        some ("\x7b\x7b y \"".toList, "\x7d\x7d\" \x7d\x7d".toList) := rfl
    have closed : Text.cut? closing (' ' :: "\x7d\x7d\" \x7d\x7d".toList) =
        some ([], "\" \x7d\x7d".toList) := rfl
    exact expand_of_cut? (by decide) _ none first closed (by decide)
  have outer : expand "\x7b\x7b y \"B\" \x7d\x7d".toList "y".toList
      "[\x7b\x7b $1 \x7d\x7d]".toList none = .ok "[B]".toList := by
    have first : Text.cut? (opener "y".toList) "\x7b\x7b y \"B\" \x7d\x7d".toList =
        some ([], "\"B\" \x7d\x7d".toList) := rfl
    have closed : Text.cut? closing (' ' :: "\"B\" \x7d\x7d".toList) =
        some (" \"B\"".toList, []) := rfl
    exact expand_of_cut? (by decide) _ none first closed (by decide)
  have pass : expandEach none (inOrder renamedComponents) renamedPage = .ok "[B]".toList := by
    rw [order, expandEach, inner]
    exact congrArg (· >>= expandEach none []) outer
  have last : expandEach none (inOrder renamedComponents) "[B]".toList = .ok "[B]".toList := by
    rw [order]
    exact expandEach_of_not_invokes (by decide) none (by decide)
  have changes : "[B]".toList ≠ renamedPage := by decide
  refine expandPasses_succ_eq_ok_iff.2 ⟨_, pass, Or.inr ⟨changes, ?_⟩⟩
  exact expandPasses_succ_eq_ok_iff.2 ⟨_, last, Or.inl ⟨rfl, rfl⟩⟩

/-- The outer invocation takes the end of the inner one for its own, unless its name comes later. -/
theorem not_expandAll_rename_nested :
    ((nestedComponents.keys.map nestedName).Nodup ∧ ∀ name ∈ nestedComponents.keys,
      IsName name ∧ IsName (nestedName name) ∧ nestedName name ∉ nestedComponents.keys ∧
        ¬ Invokes (nestedName name) nestedPage) ∧
    ∃ first second, expandAll nestedPage nestedComponents none = .ok first ∧
      expandAll (renameText nestedName nestedComponents.keys nestedPage)
        (renameComponents nestedName nestedComponents) none = .ok second ∧
      renameText nestedName nestedComponents.keys first ≠ second := by
  have page : renameText nestedName nestedComponents.keys nestedPage = renamedPage := by cbv
  have components : renameComponents nestedName nestedComponents = renamedComponents := by
    apply Dictionary.eq_of_entries
    cbv
  have unchanged : renameText nestedName nestedComponents.keys brokenPage = brokenPage := by cbv
  rw [page, components]
  refine ⟨by decide, brokenPage, "[B]".toList, expandAll_nestedPage, expandAll_renamedPage, ?_⟩
  rw [unchanged]
  decide

end Example

end Component

end StaticSite
