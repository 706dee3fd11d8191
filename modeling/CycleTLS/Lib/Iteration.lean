import Mathlib.Data.List.Basic

/-!
# Iteration

A loop asks for one item after the other, and is left at the first answer that is none
(`results`). What holds of every answer holds of those of a loop, where the answers keep an
invariant (`forall_mem_results`); and a source that has some items ready gives these first
(`results_of_items`).
-/

namespace Iteration

variable {S R : Type*} (next : S → R × S) (isItem : R → Bool)

/-- The answers to a loop that is followed for `n` of them. -/
def results : Nat → S → List R
  | 0, _ => []
  | n + 1, s => (next s).1 :: if isItem (next s).1 then results n (next s).2 else []

variable {next isItem}

theorem forall_mem_results {Inv : S → Prop} {P : R → Prop}
    (hnext : ∀ s, Inv s → P (next s).1 ∧ (isItem (next s).1 → Inv (next s).2)) {n : Nat} {s : S}
    (hs : Inv s) : ∀ r ∈ results next isItem n s, P r := by
  induction n generalizing s with
  | zero => exact fun r hr => absurd hr List.not_mem_nil
  | succ n ih =>
    obtain ⟨hp, hinv⟩ := hnext s hs
    rw [results]
    split_ifs with hitem
    · exact List.forall_mem_cons.2 ⟨hp, ih (hinv hitem)⟩
    · exact List.forall_mem_cons.2 ⟨hp, fun r hr => absurd hr List.not_mem_nil⟩

/-- A source that gives some items and gets to `rest` after them. -/
theorem results_of_items {α : Type*} {item : α → R} (hitem : ∀ a, isItem (item a) = true)
    {source : List α → S} (hnext : ∀ a items, next (source (a :: items)) = (item a, source items))
    (items : List α) (n : Nat) : results next isItem (items.length + n) (source items) =
      items.map item ++ results next isItem n (source []) := by
  induction items with
  | nil => rw [List.length_nil, Nat.zero_add, List.map_nil, List.nil_append]
  | cons a items ih =>
    rw [List.length_cons, Nat.succ_add, results, hnext, if_pos (hitem a), ih, List.map_cons,
      List.cons_append]

end Iteration
