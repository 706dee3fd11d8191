import CycleTLS.Lib.Log
import CycleTLS.Lib.Transition

/-!
# Tables that are written along paths

A table that the parties of a system write, an entry a step at most, holds for a key
what the last step has left that was about the key (`table_eq`), whoever took it.
-/

namespace Ledger

open Transition

variable {S A K V : Type*} [DecidableEq K] {step : S → A → S → Prop} {s s' : S}
  {es : List (S × A)}

/-- A table after an entry is written, if one is. -/
def write (table : K → V) : Option (K × V) → K → V
  | none => table
  | some e => Function.update table e.1 e.2

theorem write_apply (table : K → V) (e : Option (K × V)) (k : K) :
    e = some (k, write table e k) ∨ write table e k = table k ∧ ∀ v, e ≠ some (k, v) := by
  cases e with
  | none => exact .inr ⟨rfl, fun _ h => nomatch h⟩
  | some e =>
    by_cases hk : e.1 = k
    · left
      rw [write, ← hk, Function.update_self]
    · right
      refine ⟨Function.update_of_ne (Ne.symm hk) _ _, fun v h => hk ?_⟩
      rw [Option.some.inj h]

/-- The entries that the steps of a path write. -/
def entries (entry : S → A → Option (K × V)) (es : List (S × A)) : List (K × V) :=
  es.filterMap fun e => entry e.1 e.2

/-- The last entry of a path that is about a key. -/
def last (entry : S → A → Option (K × V)) (k : K) (es : List (S × A)) : Option V :=
  (Log.latest Prod.fst k (entries entry es)).map Prod.snd

variable {entry : S → A → Option (K × V)}

@[simp] theorem last_nil (k : K) : last entry k [] = none := rfl

theorem last_append (k : K) (es es' : List (S × A)) :
    last entry k (es ++ es') = (last entry k es').or (last entry k es) := by
  rw [last, entries, List.filterMap_append, Log.latest_append, Option.map_or]
  rfl

theorem last_snoc (k : K) (es : List (S × A)) (s : S) (a : A) :
    last entry k (es ++ [(s, a)]) =
      if (entry s a).map Prod.fst = some k then (entry s a).map Prod.snd else last entry k es := by
  rw [last_append, last, entries]
  cases he : entry s a with
  | none => simp [he]
  | some e =>
    by_cases hk : e.1 = k
    · simp [he, hk, Log.latest]
    · simp [he, hk, Log.latest]

/-- What the table holds is what was left last. -/
theorem table_eq (table : S → K → V)
    (hstep : ∀ s a s', step s a s' → table s' = write (table s) (entry s a))
    (h : Path step s es s') (k : K) : table s' k = (last entry k es).getD (table s k) := by
  induction h with
  | nil => rfl
  | @snoc es t t' a _ ha ih =>
    rw [hstep _ _ _ ha, last_snoc]
    cases he : entry t a with
    | none => simpa [write] using ih
    | some e =>
      by_cases hk : e.1 = k
      · simp [write, ← hk]
      · simpa [write, hk, Function.update_of_ne (Ne.symm hk)] using ih

end Ledger
