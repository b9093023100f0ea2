import Mathlib.Data.List.Basic
import StaticSite.Dictionary

/-!
# Looking things up in dictionaries

A dictionary has the value of a key exactly if the pair is among its entries, and changing
the values of a dictionary changes what is found.
-/

namespace StaticSite

namespace Dictionary

variable {α β : Type}

/-- The dictionary with the same keys and changed values. -/
def map (change : α → β) (dictionary : Dictionary α) : Dictionary β where
  entries := dictionary.entries.map fun entry => (entry.1, change entry.2)
  distinct := by
    rw [List.map_map]
    exact dictionary.distinct

theorem entries_map (change : α → β) (dictionary : Dictionary α) :
    (dictionary.map change).entries =
      dictionary.entries.map fun entry => (entry.1, change entry.2) := rfl

theorem eq_of_entries {first second : Dictionary α} (same : first.entries = second.entries) :
    first = second := by
  cases first
  cases second
  cases same
  rfl

theorem lookup_eq_some_iff {entries : List (Text × α)} (distinct : (entries.map Prod.fst).Nodup)
    {key : Text} {value : α} : lookup key entries = some value ↔ (key, value) ∈ entries := by
  induction entries with
  | nil => simp [lookup]
  | cons entry rest ih =>
      obtain ⟨candidate, old⟩ := entry
      rw [List.map_cons, List.nodup_cons] at distinct
      by_cases same : candidate = key
      · subst same
        have absent : (candidate, value) ∉ rest := fun member =>
          distinct.1 (List.mem_map.2 ⟨(candidate, value), member, rfl⟩)
        simp [lookup, absent, eq_comm]
      · simp [lookup, same, ih distinct.2, Ne.symm same]

theorem lookup_eq_none_iff {entries : List (Text × α)} {key : Text} :
    lookup key entries = none ↔ key ∉ entries.map Prod.fst := by
  induction entries with
  | nil => simp [lookup]
  | cons entry rest ih =>
      obtain ⟨candidate, old⟩ := entry
      by_cases same : candidate = key
      · simp [lookup, same]
      · simp [lookup, same, ih, Ne.symm same]

theorem lookup_append (key : Text) (front back : List (Text × α)) :
    lookup key (front ++ back) = (lookup key front).or (lookup key back) := by
  induction front with
  | nil => rfl
  | cons entry rest ih =>
      obtain ⟨candidate, old⟩ := entry
      by_cases same : candidate = key
      · simp [lookup, same]
      · simp [lookup, same, ih]

/-- The order of entries with different keys is nothing to a search. -/
theorem lookup_eq_of_perm {entries others : List (Text × α)} (same : entries.Perm others)
    (distinct : (entries.map Prod.fst).Nodup) (key : Text) :
    lookup key entries = lookup key others := by
  have distinctOthers := (same.map Prod.fst).nodup_iff.1 distinct
  ext value
  rw [lookup_eq_some_iff distinct, lookup_eq_some_iff distinctOthers, same.mem_iff]

theorem get?_eq_some_iff {dictionary : Dictionary α} {key : Text} {value : α} :
    dictionary.get? key = some value ↔ (key, value) ∈ dictionary.entries :=
  lookup_eq_some_iff dictionary.distinct

theorem mem_keys_of_get? {dictionary : Dictionary α} {key : Text} {value : α}
    (found : dictionary.get? key = some value) : key ∈ dictionary.keys :=
  List.mem_map.2 ⟨(key, value), get?_eq_some_iff.1 found, rfl⟩

theorem keys_map (change : α → β) (dictionary : Dictionary α) :
    (dictionary.map change).keys = dictionary.keys := by
  simp [keys, map, Function.comp_def]

theorem putEntry_of_not_mem {key : Text} {entries : List (Text × α)}
    (absent : key ∉ entries.map Prod.fst) (value : α) :
    putEntry key value entries = entries ++ [(key, value)] := by
  induction entries with
  | nil => rfl
  | cons entry rest ih =>
      rw [List.map_cons, List.mem_cons, not_or] at absent
      rw [putEntry, if_neg (Ne.symm absent.1), ih absent.2, List.cons_append]

/-- A dictionary that is made from pairs with different keys has these pairs. -/
theorem entries_ofList {pairs : List (Text × α)} (distinct : (pairs.map Prod.fst).Nodup) :
    (ofList pairs).entries = pairs := by
  have all : ∀ dictionary : Dictionary α, (dictionary.keys ++ pairs.map Prod.fst).Nodup →
      (dictionary.putAll pairs).entries = dictionary.entries ++ pairs := by
    induction pairs with
    | nil => simp [putAll]
    | cons pair pairs ih =>
        intro dictionary apart
        rw [List.map_cons] at apart
        have absent : pair.1 ∉ dictionary.keys := fun member =>
          (List.nodup_append.1 apart).2.2 _ member _ List.mem_cons_self rfl
        have entries : (dictionary.put pair.1 pair.2).entries = dictionary.entries ++ [pair] :=
          putEntry_of_not_mem absent pair.2
        have keys : (dictionary.put pair.1 pair.2).keys = dictionary.keys ++ [pair.1] := by
          rw [Dictionary.keys, entries, List.map_append]
          rfl
        have later := ih (List.nodup_cons.1 distinct).2 (dictionary.put pair.1 pair.2) (by
          rw [keys, List.append_assoc]
          exact apart)
        rw [entries, List.append_assoc] at later
        exact later
  exact all empty distinct

theorem mem_of_mem_keys_putAll {pairs : List (Text × α)} {dictionary : Dictionary α} {key : Text}
    (member : key ∈ (dictionary.putAll pairs).keys) :
    key ∈ dictionary.keys ∨ key ∈ pairs.map Prod.fst := by
  induction pairs generalizing dictionary with
  | nil => exact Or.inl member
  | cons pair pairs ih =>
      rcases @ih (dictionary.put pair.1 pair.2) member with old | later
      · rw [keys, put, keys_putEntry] at old
        split at old
        · exact Or.inl old
        · rcases List.mem_append.1 old with old | new
          · exact Or.inl old
          · exact Or.inr (by simp [List.mem_singleton.1 new])
      · exact Or.inr (List.mem_cons_of_mem _ later)

/-- A dictionary that is made from pairs has no other keys than these. -/
theorem mem_of_mem_keys_ofList {pairs : List (Text × α)} {key : Text}
    (member : key ∈ (ofList pairs).keys) : key ∈ pairs.map Prod.fst :=
  (mem_of_mem_keys_putAll member).resolve_left List.not_mem_nil

theorem exists_of_mem_keys {dictionary : Dictionary α} {key : Text} (member : key ∈ dictionary.keys) :
    ∃ value, dictionary.get? key = some value := by
  obtain ⟨⟨_, value⟩, listed, rfl⟩ := List.mem_map.1 member
  exact ⟨value, get?_eq_some_iff.2 listed⟩

theorem get?_putAll_of_not_mem {pairs : List (Text × α)} {key : Text}
    (dictionary : Dictionary α) (absent : key ∉ pairs.map Prod.fst) :
    (dictionary.putAll pairs).get? key = dictionary.get? key := by
  induction pairs generalizing dictionary with
  | nil => rfl
  | cons pair pairs ih =>
      rw [List.map_cons, List.mem_cons, not_or] at absent
      exact (ih _ absent.2).trans ((get?_put _ _ _ _).trans (if_neg absent.1))

/-- The last value that a key is given is the one that it has. -/
theorem get?_ofList_append_cons (front : List (Text × α)) {back : List (Text × α)} {key : Text}
    {value : α} (absent : key ∉ back.map Prod.fst) :
    (ofList (front ++ (key, value) :: back)).get? key = some value := by
  have last : ofList (front ++ (key, value) :: back) =
      ((ofList front).put key value).putAll back :=
    List.foldl_append
  rw [last, get?_putAll_of_not_mem _ absent, get?_put, if_pos rfl]

end Dictionary

end StaticSite
