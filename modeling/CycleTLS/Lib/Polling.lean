import Mathlib.Data.Nat.Init

/-!
# Polling

A loop that checks again and again whether there is a result, and gives up when a check
has not found one and it is too late. It ends at the first check of which one of the two is
true (`polls_iff`), so in one way only (`Polls.unique`), and where no check finds anything,
without a result (`Polls.eq_none`).
-/

namespace Polling

variable {α : Type} {check : Nat → Option α} {late : Nat → Bool} {k n n' : Nat} {o o' : Option α}

/-- From its check of the number `k` on, the loop ends with a result or without one, after
    `n` checks in all. -/
inductive Polls (check : Nat → Option α) (late : Nat → Bool) : Nat → Option α → Nat → Prop
  | found (k : Nat) (a : α) (hk : check k = some a) : Polls check late k (some a) (k + 1)
  | late (k : Nat) (hk : check k = none) (hlate : late k = true) :
      Polls check late k none (k + 1)
  | again (k : Nat) (o : Option α) (n : Nat) (hk : check k = none) (hlate : late k = false)
      (hrest : Polls check late (k + 1) o n) : Polls check late k o n

/-- No check before the number `k` has found a result or is too late. -/
def Waits (check : Nat → Option α) (late : Nat → Bool) (k : Nat) : Prop :=
  ∀ i < k, check i = none ∧ late i = false

theorem Waits.succ (h : Waits check late k) (hk : check k = none) (hlate : late k = false) :
    Waits check late (k + 1) := by
  intro i hi
  rcases Nat.lt_succ_iff_lt_or_eq.1 hi with hi | rfl
  · exact h i hi
  · exact ⟨hk, hlate⟩

/-- The loop ends at its last check. -/
theorem Polls.exists_last (h : Polls check late k o n) (hwaits : Waits check late k) :
    ∃ j, n = j + 1 ∧ Waits check late j ∧ check j = o ∧ (o = none → late j = true) := by
  induction h with
  | found k a hk => exact ⟨k, rfl, hwaits, hk, nofun⟩
  | late k hk hlate => exact ⟨k, rfl, hwaits, hk, fun _ => hlate⟩
  | again k o n hk hlate hrest ih => exact ih (hwaits.succ hk hlate)

/-- Before it, the loop goes on. -/
theorem Polls.of_waits (h : Polls check late k o n) (hwaits : Waits check late k) :
    Polls check late 0 o n := by
  induction k with
  | zero => exact h
  | succ k ih =>
    obtain ⟨hk, hlate⟩ := hwaits k (Nat.lt_succ_self k)
    exact ih (.again k o n hk hlate h) fun i hi => hwaits i (Nat.lt_succ_of_lt hi)

theorem polls_iff : Polls check late 0 o n ↔
    ∃ j, n = j + 1 ∧ Waits check late j ∧ check j = o ∧ (o = none → late j = true) := by
  refine ⟨fun h => h.exists_last fun i hi => absurd hi (Nat.not_lt_zero i), ?_⟩
  rintro ⟨j, rfl, hwaits, hj, hlate⟩
  cases o with
  | none => exact Polls.of_waits (.late j hj (hlate rfl)) hwaits
  | some a => exact Polls.of_waits (.found j a hj) hwaits

/-- With the result of the first check that finds one, if it is not too late for it. -/
theorem exists_polls_some_iff {a : α} : (∃ n, Polls check late 0 (some a) n) ↔
    ∃ j, Waits check late j ∧ check j = some a := by
  simp only [polls_iff, reduceCtorEq, false_implies, and_true]
  constructor
  · rintro ⟨_, j, -, hwaits, hj⟩
    exact ⟨j, hwaits, hj⟩
  · rintro ⟨j, hwaits, hj⟩
    exact ⟨j + 1, j, rfl, hwaits, hj⟩

/-- A loop that has found a result, or is too late, does not wait any longer. -/
theorem Waits.le {j : Nat} (h : Waits check late k) (hj : check j = none → late j = true) :
    k ≤ j := by
  refine Nat.le_of_not_lt fun hlt => ?_
  obtain ⟨hnone, hlate⟩ := h j hlt
  exact Bool.false_ne_true (hlate.symm.trans (hj hnone))

/-- It ends in one way only. -/
theorem Polls.unique (h : Polls check late 0 o n) (h' : Polls check late 0 o' n') :
    o = o' ∧ n = n' := by
  obtain ⟨j, rfl, hwaits, rfl, hlate⟩ := polls_iff.1 h
  obtain ⟨j', rfl, hwaits', rfl, hlate'⟩ := polls_iff.1 h'
  obtain rfl := Nat.le_antisymm (hwaits.le hlate') (hwaits'.le hlate)
  exact ⟨rfl, rfl⟩

theorem Polls.pos (h : Polls check late 0 o n) : 0 < n := by
  obtain ⟨j, rfl, -⟩ := polls_iff.1 h
  exact Nat.succ_pos j

/-- Without a result if there is never one. -/
theorem Polls.eq_none (h : Polls check late 0 o n) (hnone : ∀ k, check k = none) : o = none := by
  obtain ⟨j, -, -, rfl, -⟩ := polls_iff.1 h
  exact hnone j

end Polling
