import StaticSite.Proofs.FileTree.Opening

/-!
# Removing and copying directories

Many changes at different locations come to the same in every order: what is removed is gone,
what is copied holds what the original holds, and everything else is as before.
-/

namespace StaticSite

namespace FileTree

variable {tree before after : FileTree} {location other target source : Location}
  {parts : List Text} {node : Node}

theorem mem_entriesBelow :
    (parts, node) ∈ tree.entriesBelow location ↔
      parts ≠ [] ∧ (location ++ parts, node) ∈ tree.entries := by
  unfold entriesBelow
  rw [List.mem_filterMap]
  constructor
  · rintro ⟨⟨candidate, held⟩, member, listed⟩
    simp only at listed
    split at listed
    · next inside =>
        obtain ⟨rest, rfl⟩ := List.isPrefixOf_iff_prefix.1 inside.1
        rw [List.drop_left, Option.some.injEq, Prod.mk.injEq] at listed
        obtain ⟨rfl, rfl⟩ := listed
        refine ⟨?_, member⟩
        rintro rfl
        simp at inside
    · cases listed
  · rintro ⟨below, member⟩
    refine ⟨_, member, ?_⟩
    have longer : 0 < parts.length := List.length_pos_iff.2 below
    simp [longer]

theorem nodup_entriesBelow (distinct : (tree.entries.map Prod.fst).Nodup) :
    ((tree.entriesBelow location).map Prod.fst).Nodup := by
  obtain ⟨here, entries⟩ := tree
  induction entries with
  | nil => simp [entriesBelow]
  | cons entry rest ih =>
      have one : ∀ found ∈ entriesBelow ⟨here, [entry]⟩ location,
          entry = (location ++ found.1, found.2) := by
        intro found member
        exact (List.mem_singleton.1 (mem_entriesBelow.1 member).2).symm
      have parted : entriesBelow ⟨here, entry :: rest⟩ location =
          entriesBelow ⟨here, [entry]⟩ location ++ entriesBelow ⟨here, rest⟩ location := by
        simp only [entriesBelow, List.filterMap_cons, List.filterMap_nil]
        split <;> rfl
      simp only [List.map_cons, List.nodup_cons] at distinct
      have later : ∀ found ∈ entriesBelow ⟨here, [entry]⟩ location,
          found.1 ∉ (entriesBelow ⟨here, rest⟩ location).map Prod.fst := by
        intro found member again
        obtain ⟨other, below, same⟩ := List.mem_map.1 again
        apply distinct.1
        rw [one found member, ← same]
        exact List.mem_map.2 ⟨_, (mem_entriesBelow.1 below).2, rfl⟩
      rw [parted, List.map_append]
      refine List.nodup_append.2 ⟨?_, ih distinct.2, ?_⟩
      · simp only [entriesBelow, List.filterMap_cons, List.filterMap_nil]
        split <;> simp
      · intro key first other second same
        obtain ⟨found, member, rfl⟩ := List.mem_map.1 first
        exact later found member (same ▸ second)

/-- Remove what locations hold, one after the other. -/
def eraseAll (tree : FileTree) (locations : List Location) : FileTree :=
  locations.foldl erase tree

/-- Put nodes below a location, one after the other. -/
def setAll (tree : FileTree) (target : Location) (entries : List (List Text × Node)) : FileTree :=
  entries.foldl (fun tree entry => tree.set (target ++ entry.1) entry.2) tree

theorem node?_eraseAll {locations : List Location} (within : [] ∉ locations) :
    (tree.eraseAll locations).node? other =
      if other ∈ locations then none else tree.node? other := by
  induction locations generalizing tree with
  | nil => simp [eraseAll]
  | cons location locations ih =>
      rw [List.mem_cons, not_or] at within
      have step : tree.eraseAll (location :: locations) =
          (tree.erase location).eraseAll locations := rfl
      rw [step, ih within.2, node?_erase (Ne.symm within.1)]
      by_cases here : other = location
      · simp [here]
      · simp [here]

theorem entries_eraseAll_sublist (tree : FileTree) (locations : List Location) :
    (tree.eraseAll locations).entries.Sublist tree.entries := by
  induction locations generalizing tree with
  | nil => exact List.Sublist.refl _
  | cons location locations ih => exact (ih (tree.erase location)).trans List.filter_sublist

theorem here_eraseAll (tree : FileTree) (locations : List Location) :
    (tree.eraseAll locations).here = tree.here := by
  induction locations generalizing tree with
  | nil => rfl
  | cons location locations ih => exact ih (tree.erase location)

theorem here_setAll (tree : FileTree) (target : Location) (entries : List (List Text × Node)) :
    (tree.setAll target entries).here = tree.here := by
  induction entries generalizing tree with
  | nil => rfl
  | cons entry entries ih => exact ih (tree.set (target ++ entry.1) entry.2)

theorem node?_setAll_of_not_mem {entries : List (List Text × Node)} (within : target ≠ [])
    (apart : ∀ entry ∈ entries, other ≠ target ++ entry.1) :
    (tree.setAll target entries).node? other = tree.node? other := by
  induction entries generalizing tree with
  | nil => rfl
  | cons entry entries ih =>
      have step : tree.setAll target (entry :: entries) =
          (tree.set (target ++ entry.1) entry.2).setAll target entries := rfl
      rw [step, ih fun later member => apart later (List.mem_cons_of_mem _ member),
        node?_set (by simp [within]), if_neg (apart entry List.mem_cons_self)]

theorem node?_setAll_of_mem {entries : List (List Text × Node)} (within : target ≠ [])
    (distinct : (entries.map Prod.fst).Nodup) (member : (parts, node) ∈ entries) :
    (tree.setAll target entries).node? (target ++ parts) = some node := by
  induction entries generalizing tree with
  | nil => simp at member
  | cons entry entries ih =>
      have step : tree.setAll target (entry :: entries) =
          (tree.set (target ++ entry.1) entry.2).setAll target entries := rfl
      rw [List.map_cons, List.nodup_cons] at distinct
      rcases List.mem_cons.1 member with rfl | later
      · have apart : ∀ entry ∈ entries, target ++ parts ≠ target ++ entry.1 := by
          intro entry member same
          have key := List.append_cancel_left same
          exact distinct.1 (List.mem_map.2 ⟨entry, member, key.symm⟩)
        rw [step, node?_setAll_of_not_mem within apart, node?_set (by simp [within]), if_pos rfl]
      · rw [step]
        exact ih distinct.2 later

theorem mem_setAll {entries : List (List Text × Node)} {entry : Location × Node}
    (member : entry ∈ (tree.setAll target entries).entries) :
    entry ∈ tree.entries ∨ ∃ parts node, (parts, node) ∈ entries ∧ entry.1 = target ++ parts := by
  induction entries generalizing tree with
  | nil => exact Or.inl member
  | cons first entries ih =>
      rcases @ih (tree.set (target ++ first.1) first.2) member with old | ⟨parts, node, later, place⟩
      · rcases mem_setEntry old with rfl | old
        · exact Or.inr ⟨first.1, first.2, List.mem_cons_self, rfl⟩
        · exact Or.inl old
      · exact Or.inr ⟨parts, node, List.mem_cons_of_mem _ later, place⟩

theorem nodup_setAll {entries : List (List Text × Node)}
    (distinct : (tree.entries.map Prod.fst).Nodup) :
    (((tree.setAll target entries).entries).map Prod.fst).Nodup := by
  induction entries generalizing tree with
  | nil => exact distinct
  | cons first entries ih =>
      exact @ih (tree.set (target ++ first.1) first.2) (nodup_setEntry distinct)

/-- Nothing but the node of a location and what is below it is gone. -/
structure Cleared (before after : FileTree) (location : Location) : Prop where
  here : after.here = before.here
  wellFormed : after.WellFormed
  node? : ∀ other, after.node? other =
    if location <+: other then none else before.node? other

/-- A directory holds what another one holds, and everything elsewhere is as before. -/
structure CopyOf (before after : FileTree) (source target : Location) : Prop where
  here : after.here = before.here
  wellFormed : after.WellFormed
  inside : ∀ parts, after.node? (target ++ parts) = before.node? (source ++ parts)
  elsewhere : ∀ other, ¬ target <+: other → after.node? other = before.node? other

theorem Cleared.of_missing (wellFormed : tree.WellFormed) (missing : tree.node? location = none) :
    Cleared tree tree location := by
  refine ⟨rfl, wellFormed, fun other => ?_⟩
  split
  · next inside =>
      obtain ⟨parts, rfl⟩ := inside
      cases parts with
      | nil => simpa using missing
      | cons part parts =>
          by_contra found
          have above := wellFormed.node?_above found (by simp)
          rw [missing] at above
          cases above
  · rfl

theorem Cleared.wellFormed_of_sublist (wellFormed : before.WellFormed)
    (kept : after.entries.Sublist before.entries)
    (held : ∀ other, after.node? other =
      if location <+: other then none else before.node? other) : after.WellFormed := by
  have distinct : (after.entries.map Prod.fst).Nodup :=
    wellFormed.distinct.sublist (kept.map Prod.fst)
  refine ⟨distinct, fun entry member => wellFormed.named entry (kept.subset member), ?_⟩
  intro entry member
  have outside : ¬ location <+: entry.1.dropLast := by
    intro above
    have inside : location <+: entry.1 := above.trans (List.dropLast_prefix _)
    have found := held entry.1
    rw [if_pos inside] at found
    by_cases root : entry.1 = []
    · rw [root, node?_nil] at found
      cases found
    · rw [FileTree.node?, if_neg root, lookup_of_mem distinct member] at found
      cases found
  rw [held, if_neg outside]
  exact wellFormed.nested entry (kept.subset member)

/-- Removing all entries below a directory and then the directory clears it. -/
theorem cleared_eraseAll (wellFormed : tree.WellFormed) (within : location ≠ [])
    {locations : List Location}
    (all : ∀ other, other ∈ locations ↔
      location <+: other ∧ other ≠ location ∧ tree.node? other ≠ none) :
    Cleared tree ((tree.eraseAll locations).erase location) location := by
  have noRoot : [] ∉ locations := by
    intro member
    exact within (List.prefix_nil.1 ((all []).1 member).1)
  have held : ∀ other, ((tree.eraseAll locations).erase location).node? other =
      if location <+: other then none else tree.node? other := by
    intro other
    rw [node?_erase within, node?_eraseAll noRoot]
    by_cases same : other = location
    · subst same
      rw [if_pos rfl, if_pos (List.prefix_refl other)]
    · rw [if_neg same]
      by_cases inside : location <+: other
      · rw [if_pos inside]
        split
        · rfl
        · next absent =>
            by_contra found
            exact absent ((all other).2 ⟨inside, same, found⟩)
      · rw [if_neg inside, if_neg fun member => inside ((all other).1 member).1]
  refine ⟨here_eraseAll tree locations, ?_, held⟩
  have kept : ((tree.eraseAll locations).erase location).entries.Sublist tree.entries :=
    List.filter_sublist.trans (entries_eraseAll_sublist tree locations)
  exact Cleared.wellFormed_of_sublist wellFormed kept held

section Copies

variable {name : Text} {entries : List (List Text × Node)}
  (wellFormed : tree.WellFormed) (directory : tree.node? source = some .directory)
  (parent : tree.node? location = some .directory) (isName : IsName name)
  (missing : tree.node? (location ++ [name]) = none)
  (all : ∀ entry, entry ∈ entries ↔ entry ∈ tree.entriesBelow source)
  (distinct : (entries.map Prod.fst).Nodup)

include wellFormed all

theorem mem_copied {parts : List Text} {node : Node} :
    (parts, node) ∈ entries ↔ parts ≠ [] ∧ tree.node? (source ++ parts) = some node := by
  rw [all, mem_entriesBelow]
  refine and_congr_right fun longer => ?_
  exact ⟨fun member => wellFormed.node?_of_mem member (by simp [longer]),
    fun found => mem_of_node? found (by simp [longer])⟩

include directory missing distinct

theorem node?_copied (parts : List Text) :
    ((tree.set (location ++ [name]) .directory).setAll (location ++ [name]) entries).node?
      (location ++ [name] ++ parts) = tree.node? (source ++ parts) := by
  have within : location ++ [name] ≠ [] := by simp
  have empty := (Cleared.of_missing wellFormed missing).node?
  by_cases listed : ∃ node, (parts, node) ∈ entries
  · obtain ⟨node, member⟩ := listed
    rw [node?_setAll_of_mem within distinct member, ((mem_copied wellFormed all).1 member).2]
  · rw [node?_setAll_of_not_mem within, node?_set within]
    · by_cases root : parts = []
      · subst root
        simp [directory]
      · rw [if_neg (by simpa using root), empty, if_pos (List.prefix_append _ _)]
        by_contra found
        obtain ⟨node, found⟩ := Option.ne_none_iff_exists'.1 (Ne.symm found)
        exact listed ⟨node, (mem_copied wellFormed all).2 ⟨root, found⟩⟩
    · intro entry member same
      have key := List.append_cancel_left same
      exact listed ⟨entry.2, key ▸ member⟩

omit wellFormed directory missing all distinct in
theorem node?_outside_copied {other : Location} (outside : ¬ location ++ [name] <+: other) :
    ((tree.set (location ++ [name]) .directory).setAll (location ++ [name]) entries).node? other =
      tree.node? other := by
  have within : location ++ [name] ≠ [] := by simp
  rw [node?_setAll_of_not_mem within, node?_set within, if_neg]
  · rintro rfl
    exact outside (List.prefix_refl _)
  · rintro entry - rfl
    exact outside (List.prefix_append _ _)

include parent isName

theorem wellFormed_copied :
    ((tree.set (location ++ [name]) .directory).setAll (location ++ [name]) entries).WellFormed := by
  have within : location ++ [name] ≠ [] := by simp
  have empty := (Cleared.of_missing wellFormed missing).node?
  have inside := @node?_copied _ _ _ _ _ wellFormed directory missing all distinct
  have made : (tree.set (location ++ [name]) .directory).WellFormed :=
    wellFormed.set parent isName fun _ => rfl
  refine ⟨nodup_setAll made.distinct, ?_, ?_⟩
  · intro entry member part held
    rcases mem_setAll member with old | ⟨parts, node, copied, place⟩
    · exact made.named entry old part held
    · rw [place] at held
      rcases List.mem_append.1 held with above | further
      · have found : (tree.set (location ++ [name]) .directory).node? (location ++ [name]) ≠ none := by
          simp [node?_set within]
        exact made.isName found above
      · have found : tree.node? (source ++ parts) ≠ none := by
          simp [((mem_copied wellFormed all).1 copied).2]
        exact wellFormed.isName found (List.mem_append_right _ further)
  · intro entry member
    rcases mem_setAll member with old | ⟨parts, node, copied, place⟩
    · have nested := made.nested entry old
      rw [node?_set within] at nested
      by_cases here : location ++ [name] <+: entry.1.dropLast
      · obtain ⟨parts, same⟩ := here
        have root : parts = [] := by
          by_contra longer
          rw [← same, if_neg (by simpa using longer), empty, if_pos (List.prefix_append _ _)] at nested
          cases nested
        rw [← same, inside, root, List.append_nil]
        exact directory
      · rw [node?_outside_copied here]
        have apart : entry.1.dropLast ≠ location ++ [name] :=
          fun same => here (same ▸ List.prefix_refl _)
        rwa [if_neg apart] at nested
    · obtain ⟨longer, found⟩ := (mem_copied wellFormed all).1 copied
      obtain ⟨above, last, rfl⟩ := (List.eq_nil_or_concat parts).resolve_left longer
      rw [List.concat_eq_append] at place found
      rw [place, ← List.append_assoc, List.dropLast_concat, inside]
      have held : tree.node? (source ++ above ++ [last]) ≠ none := by
        rw [List.append_assoc, found]
        simp
      exact wellFormed.node?_parent held

/-- Putting the entries below a directory into a new one copies it. -/
theorem copyOf_setAll :
    CopyOf tree ((tree.set (location ++ [name]) .directory).setAll (location ++ [name]) entries)
      source (location ++ [name]) :=
  ⟨here_setAll _ _ _, wellFormed_copied wellFormed directory parent isName missing all distinct,
    node?_copied wellFormed directory missing all distinct, fun _ => node?_outside_copied⟩

end Copies

end FileTree

end StaticSite
