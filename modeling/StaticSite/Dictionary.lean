import StaticSite.Text.Basic

/-!
# Dictionaries

A dictionary maps texts to values and remembers the order in which its keys came in.  A key
that is put in again keeps its place and takes the new value.
-/

namespace StaticSite

/-- An ordered map from texts to values, with every key once. -/
structure Dictionary (α : Type) where
  /-- The keys with their values, in the order in which the keys came in. -/
  entries : List (Text × α)
  /-- No key occurs twice. -/
  distinct : (entries.map Prod.fst).Nodup

namespace Dictionary

variable {α β : Type}

def empty : Dictionary α := ⟨[], by simp⟩

instance : EmptyCollection (Dictionary α) := ⟨empty⟩

instance : Inhabited (Dictionary α) := ⟨empty⟩

/-- The keys, in order. -/
def keys (dictionary : Dictionary α) : List Text := dictionary.entries.map Prod.fst

/-- The value of a key among entries. -/
def lookup (key : Text) : List (Text × α) → Option α
  | [] => none
  | (candidate, value) :: rest => if candidate = key then some value else lookup key rest

def get? (dictionary : Dictionary α) (key : Text) : Option α := lookup key dictionary.entries

/-- The value of a key, or a default. -/
def getD (dictionary : Dictionary α) (key : Text) (default : α) : α :=
  (dictionary.get? key).getD default

def contains (dictionary : Dictionary α) (key : Text) : Bool := (dictionary.get? key).isSome

/-- Replace the value of a key among entries, or add the key at the end. -/
def putEntry (key : Text) (value : α) : List (Text × α) → List (Text × α)
  | [] => [(key, value)]
  | (candidate, old) :: rest =>
    if candidate = key then (candidate, value) :: rest
    else (candidate, old) :: putEntry key value rest

theorem keys_putEntry (key : Text) (value : α) (entries : List (Text × α)) :
    (putEntry key value entries).map Prod.fst =
      if key ∈ entries.map Prod.fst then entries.map Prod.fst
      else entries.map Prod.fst ++ [key] := by
  induction entries with
  | nil => simp [putEntry]
  | cons entry rest ih =>
      obtain ⟨candidate, old⟩ := entry
      by_cases same : candidate = key
      · subst same
        simp [putEntry]
      · by_cases member : key ∈ rest.map Prod.fst
        · rw [if_pos member] at ih
          simp only [putEntry, same, if_false, List.map_cons, ih]
          rw [if_pos (List.mem_cons_of_mem _ member)]
        · rw [if_neg member] at ih
          simp only [putEntry, same, if_false, List.map_cons, ih, List.cons_append]
          rw [if_neg (by simpa [Ne.symm same] using member)]

theorem nodup_putEntry (key : Text) (value : α) {entries : List (Text × α)}
    (distinct : (entries.map Prod.fst).Nodup) :
    ((putEntry key value entries).map Prod.fst).Nodup := by
  rw [keys_putEntry]
  split
  · exact distinct
  · next absent =>
      refine List.nodup_append.2 ⟨distinct, by simp, ?_⟩
      intro candidate member other single
      simp only [List.mem_singleton] at single
      rintro rfl
      exact absent (single ▸ member)

def put (dictionary : Dictionary α) (key : Text) (value : α) : Dictionary α :=
  ⟨putEntry key value dictionary.entries, nodup_putEntry key value dictionary.distinct⟩

def putAll (dictionary : Dictionary α) (pairs : List (Text × α)) : Dictionary α :=
  pairs.foldl (fun result pair => result.put pair.1 pair.2) dictionary

def ofList (pairs : List (Text × α)) : Dictionary α := empty.putAll pairs

/-- The value of a key that was put in is the value put in last, and other keys keep theirs. -/
theorem get?_put (dictionary : Dictionary α) (key other : Text) (value : α) :
    (dictionary.put key value).get? other =
      if other = key then some value else dictionary.get? other := by
  obtain ⟨entries, distinct⟩ := dictionary
  simp only [get?, put]
  clear distinct
  induction entries with
  | nil =>
      by_cases same : other = key
      · simp [putEntry, lookup, same]
      · simp [putEntry, lookup, same, Ne.symm same]
  | cons entry rest ih =>
      obtain ⟨candidate, old⟩ := entry
      by_cases here : candidate = key
      · subst here
        by_cases same : other = candidate
        · simp [putEntry, lookup, same]
        · simp [putEntry, lookup, same, Ne.symm same]
      · by_cases found : candidate = other
        · subst found
          simp [putEntry, lookup, here]
        · simp [putEntry, lookup, here, found, ih]

end Dictionary

end StaticSite
