import Mathlib.Data.List.Basic

/-!
# Transition systems

The steps of several parties, interleaved in any way: a relation between a state,
the party that takes the step, and the next state. A path lists the states that
were left with who left them. An invariant of the steps is one of the paths
(`Path.inv`), and what a party makes progress towards is reached on every path on
which it takes enough steps (`Path.progress`). The path of a system has one of each
of its parts in it (`Path.project`).
-/

namespace Transition

variable {S A : Type*} {step : S → A → S → Prop}

/-- The paths from a state. -/
inductive Path (step : S → A → S → Prop) (s : S) : List (S × A) → S → Prop
  | nil : Path step s [] s
  | snoc {es : List (S × A)} {t t' : S} {a : A} (h : Path step s es t) (hstep : step t a t') :
      Path step s (es ++ [(t, a)]) t'

variable {s s' : S} {es : List (S × A)}

theorem forall_mem_snoc (Guard : S → A → Prop) {t : S} {a : A} :
    (∀ e ∈ es ++ [(t, a)], Guard e.1 e.2) ↔ (∀ e ∈ es, Guard e.1 e.2) ∧ Guard t a := by
  simp [or_imp, forall_and]

/-- What guarded steps keep holds along guarded paths. -/
theorem Path.inv (Inv : S → Prop) (Guard : S → A → Prop)
    (hinv : ∀ s a s', Inv s → Guard s a → step s a s' → Inv s')
    (h : Path step s es s') (hguard : ∀ e ∈ es, Guard e.1 e.2) (hs : Inv s) : Inv s' := by
  induction h with
  | nil => exact hs
  | snoc _ hstep ih =>
    obtain ⟨hes, ha⟩ := (forall_mem_snoc Guard).1 hguard
    exact hinv _ _ _ (ih hes) ha hstep

/-- What guarded steps from states with the invariant do holds of all steps of guarded
    paths. -/
theorem Path.forall_mem (Inv : S → Prop) (Guard P : S → A → Prop)
    (hstep : ∀ s a s', Inv s → Guard s a → step s a s' → Inv s' ∧ P s a)
    (h : Path step s es s') (hguard : ∀ e ∈ es, Guard e.1 e.2) (hs : Inv s) :
    ∀ e ∈ es, P e.1 e.2 := by
  induction h with
  | nil => exact fun e he => nomatch he
  | @snoc es t t' a hpath ha ih =>
    obtain ⟨hes, hg⟩ := (forall_mem_snoc Guard).1 hguard
    have ht : Inv t := hpath.inv Inv Guard (fun s a s' hi hg h => (hstep s a s' hi hg h).1) hes hs
    exact (forall_mem_snoc P).2 ⟨ih hes, (hstep _ _ _ ht hg ha).2⟩

/-- The number of steps of some parties. -/
def steps (ticks : A → Bool) (es : List (S × A)) : Nat := es.countP fun e => ticks e.2

/-- A goal that is never left is reached once the parties that bring it closer have
    taken enough steps, if no step of the others takes it further away. -/
theorem Path.progress (Inv : S → Prop) (Guard : S → A → Prop) (distance : S → Nat)
    {Goal : S → Prop} {ticks : A → Bool}
    (hinv : ∀ s a s', Inv s → Guard s a → step s a s' → Inv s')
    (hgoal : ∀ s a s', Inv s → Guard s a → step s a s' → Goal s → Goal s')
    (hstep : ∀ s a s', Inv s → Guard s a → step s a s' → ¬Goal s →
      distance s' + (ticks a).toNat ≤ distance s)
    (h : Path step s es s') (hguard : ∀ e ∈ es, Guard e.1 e.2) (hs : Inv s)
    (henough : distance s < steps ticks es) : Goal s' := by
  -- on the path: until the goal is reached, each tick is paid for by the distance
  have hbound : Goal s' ∨ distance s' + steps ticks es ≤ distance s := by
    clear henough
    induction h with
    | nil => exact .inr (Nat.le_refl _)
    | @snoc es t t' a hpath ha ih =>
      obtain ⟨hes, hg⟩ := (forall_mem_snoc Guard).1 hguard
      have ht : Inv t := hpath.inv Inv Guard hinv hes hs
      by_cases hgt : Goal t
      · exact .inl (hgoal _ _ _ ht hg ha hgt)
      · have hcloser := hstep _ _ _ ht hg ha hgt
        have hsofar := (ih hes).resolve_left hgt
        have hcount : steps ticks (es ++ [(t, a)]) = steps ticks es + (ticks a).toNat := by
          rw [steps, List.countP_append, List.countP_singleton, steps]
          cases ticks a <;> rfl
        right
        omega
  rcases hbound with hgoal | hfar
  · exact hgoal
  · omega

/-- The path of a part of a system, if each step of the system is one of the part, or
    leaves the part as it is. -/
theorem Path.project {T B : Type*} {step' : T → B → T → Prop} (view : S → T) (part : A → Option B)
    (hmove : ∀ s a s' b, step s a s' → part a = some b → step' (view s) b (view s'))
    (hstay : ∀ s a s', step s a s' → part a = none → view s' = view s)
    (h : Path step s es s') :
    Path step' (view s) (es.filterMap fun e => (part e.2).map fun b => (view e.1, b))
      (view s') := by
  induction h with
  | nil => exact .nil
  | @snoc es t t' a _ hstep ih =>
    rw [List.filterMap_append]
    cases ha : part a with
    | none =>
      rw [hstay _ _ _ hstep ha]
      simpa [ha] using ih
    | some b => simpa [ha] using ih.snoc (hmove _ _ _ _ hstep ha)

end Transition
