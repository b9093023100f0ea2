import Mathlib.Data.List.TakeWhile
import StaticSite.Config.Value
import StaticSite.Proofs.Fault

/-!
# Readers of configurations

A reader takes a value off a text and leaves the rest, finds that the text has not its form, or
fails at a value that it cannot make.  Readers are put together from smaller ones, and leave no more
than they were given.
-/

namespace StaticSite

namespace Config

variable {α β : Type} {text shorter digits rest : Text} {left : α → Text} {behind : β → Text}
  {may more : Fault → Prop} {reading : Reading α} {next : α → Reading β} {value : α} {fault : Fault}

/-- A reading leaves no more than a text, and if it fails, it does so with a possible fault. -/
def Bounded (text : Text) (left : α → Text) (may : Fault → Prop) : Reading α → Prop
  | .ok value => (left value).length ≤ text.length
  | .error .malformed => True
  | .error (.fault fault) => may fault

/-- No fault is possible. -/
def never : Fault → Prop := fun _ => False

/-- Any fault is possible. -/
def any : Fault → Prop := fun _ => True

theorem Bounded.bind_of (first : Bounded text left may reading)
    (second : ∀ value, reading = .ok value → (left value).length ≤ text.length →
      Bounded text behind may (next value)) : Bounded text behind may (reading >>= next) := by
  cases reading with
  | ok value => exact second value rfl first
  | error trouble =>
      cases trouble with
      | malformed => trivial
      | fault fault => exact first

theorem Bounded.bind (first : Bounded text left may reading)
    (second : ∀ value, (left value).length ≤ text.length → Bounded text behind may (next value)) :
    Bounded text behind may (reading >>= next) :=
  first.bind_of fun value _ => second value

theorem Bounded.mono (bounded : Bounded shorter left may reading)
    (short : shorter.length ≤ text.length) (weaker : ∀ fault, may fault → more fault) :
    Bounded text left more reading := by
  cases reading with
  | ok value => exact Nat.le_trans bounded short
  | error trouble =>
      cases trouble with
      | malformed => trivial
      | fault fault => exact weaker fault bounded

theorem Bounded.longer (bounded : Bounded shorter left may reading)
    (short : shorter.length ≤ text.length) : Bounded text left may reading :=
  bounded.mono short fun _ => id

theorem Bounded.of_never (bounded : Bounded text left never reading) :
    Bounded text left may reading :=
  bounded.mono (Nat.le_refl _) fun _ => False.elim

theorem Bounded.of_possible (bounded : Bounded text left more reading)
    (possible : ∀ fault, reading = .error (.fault fault) → may fault) :
    Bounded text left may reading := by
  cases reading with
  | ok value => exact bounded
  | error trouble =>
      cases trouble with
      | malformed => trivial
      | fault fault => exact possible fault rfl

theorem Bounded.length_le (bounded : Bounded text left may reading) (read : reading = .ok value) :
    (left value).length ≤ text.length := by
  rw [read] at bounded
  exact bounded

theorem Bounded.possible (bounded : Bounded text left may reading)
    (failed : reading = .error (.fault fault)) : may fault := by
  rw [failed] at bounded
  exact bounded

/-- What is done with a value matters only for the values that can be read. -/
theorem Bounded.bind_of_congr {other : α → Reading β} (bounded : Bounded text left may reading)
    (same : ∀ value, reading = .ok value → (left value).length ≤ text.length →
      next value = other value) : reading >>= next = reading >>= other := by
  cases reading with
  | ok value => exact same value rfl bounded
  | error trouble => rfl

theorem Bounded.bind_congr {other : α → Reading β} (bounded : Bounded text left may reading)
    (same : ∀ value, (left value).length ≤ text.length → next value = other value) :
    reading >>= next = reading >>= other :=
  bounded.bind_of_congr fun value _ => same value

/-- What may be found at the beginning of a text leaves no more than the text. -/
def Leaves (text : Text) (left : α → Text) : Option α → Prop
  | none => True
  | some value => (left value).length ≤ text.length

theorem Leaves.bind {found : Option α} {next : α → Option β} (first : Leaves text left found)
    (second : ∀ value, (left value).length ≤ text.length → Leaves text behind (next value)) :
    Leaves text behind (found >>= next) := by
  cases found with
  | none => trivial
  | some value => exact second value first

theorem Leaves.longer {found : Option α} (leaves : Leaves shorter left found)
    (short : shorter.length ≤ text.length) : Leaves text left found := by
  cases found with
  | none => trivial
  | some value => exact Nat.le_trans leaves short

theorem Leaves.length_le {found : Option α} (leaves : Leaves text left found)
    (some : found = some value) : (left value).length ≤ text.length := by
  rw [some] at leaves
  exact leaves

theorem integer_of_long (negative : Bool) (long : longestInteger < digits.length) :
    integer negative digits = .error (.fault (tooLong digits.length)) :=
  if_pos long

theorem exists_integer (negative : Bool) (short : ¬ longestInteger < digits.length) :
    ∃ value, integer negative digits = .ok value :=
  ⟨_, if_neg short⟩

theorem drop_takeWhile (member : Char → Bool) (text : Text) :
    text.drop (text.takeWhile member).length = text.dropWhile member := by
  have whole := @List.takeWhile_append_dropWhile _ member text
  calc
    text.drop (text.takeWhile member).length =
        (text.takeWhile member ++ text.dropWhile member).drop (text.takeWhile member).length := by
      rw [whole]
    _ = text.dropWhile member := List.drop_left

/-- What is left behind characters of a class does not begin with one of them. -/
theorem head?_dropWhile (member : Char → Bool) (text : Text) :
    ∀ character ∈ (text.dropWhile member).head?, member character = false := by
  intro character first
  obtain ⟨rest, same⟩ := List.head?_eq_some_iff.1 first
  have nonempty : text.dropWhile member ≠ [] := by simp [same]
  have other := List.head_dropWhile_not member nonempty
  simpa only [same, List.head_cons] using other

end Config

end StaticSite
