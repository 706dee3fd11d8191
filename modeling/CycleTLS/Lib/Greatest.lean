import Mathlib.Data.List.MinMax

/-!
# The first of the greatest

`List.argmax` gives the first of the elements of a list that have the greatest value: those before
it have a lesser one (`Greatest.exists_of_argmax`).
-/

namespace Greatest

variable {α β : Type*} [LinearOrder β] [DecidableLT β] {f : α → β}

/-- The first of the greatest. -/
theorem exists_of_argmax {l : List α} {m : α} (h : l.argmax f = some m) : ∃ before after,
    l = before ++ m :: after ∧ (∀ a ∈ before, f a < f m) ∧ ∀ a ∈ after, f a ≤ f m := by
  induction l using List.reverseRecOn generalizing m with
  | nil => cases h
  | append_singleton l a ih =>
    rw [List.argmax_concat] at h
    cases hl : l.argmax f with
    | none =>
      obtain rfl := List.argmax_eq_none.1 hl
      obtain rfl := Option.some.inj (hl ▸ h)
      exact ⟨[], [], rfl, by simp, by simp⟩
    | some c =>
      obtain ⟨before, after, hsplit, hbefore, hafter⟩ := ih hl
      rw [hl] at h
      -- the element behind replaces the one that was found only if it is greater
      by_cases hlt : f c < f a
      · obtain rfl : a = m := by simpa [hlt] using h
        refine ⟨l, [], rfl, fun b hb => lt_of_le_of_lt ?_ hlt, by simp⟩
        rcases List.mem_append.1 (hsplit ▸ hb) with hb | hb
        · exact (hbefore b hb).le
        · rcases List.mem_cons.1 hb with rfl | hb
          · exact le_rfl
          · exact hafter b hb
      · obtain rfl : c = m := by simpa [hlt] using h
        refine ⟨before, after ++ [a], by rw [hsplit, List.append_assoc, List.cons_append], hbefore,
          fun b hb => ?_⟩
        rcases List.mem_append.1 hb with hb | hb
        · exact hafter b hb
        · rw [List.mem_singleton.1 hb]
          exact not_lt.1 hlt

theorem argmax_map {γ δ : Type*} [Preorder δ] [DecidableLT δ] (f : α → δ) (g : γ → α)
    (l : List γ) :
    (l.map g).argmax f = (l.argmax (f ∘ g)).map g := by
  induction l using List.reverseRecOn with
  | nil => rfl
  | append_singleton l c ih =>
    rw [List.map_append, List.map_singleton, List.argmax_concat, List.argmax_concat, ih]
    cases l.argmax (f ∘ g) with
    | none => rfl
    | some m =>
      by_cases hlt : f (g m) < f (g c)
      · simp [hlt]
      · simp [hlt]

end Greatest
