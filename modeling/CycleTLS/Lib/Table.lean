import Mathlib.Logic.Function.Basic

/-!
# Tables

A table gives some keys a value. What it holds after a change of one key is what it
held before, but for that key.
-/

namespace Table

variable {K V : Type*} [DecidableEq K] {table : K → Option V} {k k' : K} {v w : V}

theorem set_eq_some_iff : Function.update table k (some v) k' = some w ↔
    (k' = k ∧ v = w) ∨ (k' ≠ k ∧ table k' = some w) := by
  by_cases hk : k' = k
  · subst hk
    simp
  · simp [hk]

theorem erase_eq_some_iff : Function.update table k none k' = some w ↔
    k' ≠ k ∧ table k' = some w := by
  by_cases hk : k' = k
  · subst hk
    simp
  · simp [hk]

/-- A key has a value after another one was given one if it had one before. -/
theorem isSome_set (h : k' ≠ k → (table k').isSome) :
    (Function.update table k (some v) k').isSome := by
  by_cases hk : k' = k
  · subst hk
    rw [Function.update_self, Option.isSome_some]
  · rw [Function.update_of_ne hk]
    exact h hk

end Table
