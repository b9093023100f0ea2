import StaticSite.Fault

/-!
# Computations that may fail

A computation in two steps gives a value exactly if both steps do, and a fault is that of the
first step that fails.
-/

namespace StaticSite

variable {ε α β : Type} {first : Except ε α} {next : α → Except ε β} {value : β} {fault : ε}

theorem bind_eq_ok_iff :
    first >>= next = .ok value ↔ ∃ middle, first = .ok middle ∧ next middle = .ok value := by
  cases first <;> simp [bind, Except.bind]

theorem bind_eq_error_iff :
    first >>= next = .error fault ↔
      first = .error fault ∨ ∃ middle, first = .ok middle ∧ next middle = .error fault := by
  cases first <;> simp [bind, Except.bind]

end StaticSite
