import Mathlib.Data.List.Basic

/-!
# Merged logs

Several writers write to one log, in any order, each entry with the key of its writer. What a
reader selects by a key are the entries of the writer of the key, in order, if no other writer has
the key and each entry is read back (`select_map`).
-/

namespace Merge

variable {I K F B : Type*} [DecidableEq I] [DecidableEq K]

/-- The entries of a writer. -/
def ofWriter (i : I) (log : List (I × F)) : List F :=
  log.filterMap fun e => if e.1 = i then some e.2 else none

/-- What a reader selects by a key. -/
def select (decode : B → Option (K × F)) (k : K) (sent : List B) : List F :=
  sent.filterMap fun b => (decode b).bind fun e => if e.1 = k then some e.2 else none

variable {i j : I} {log : List (I × F)}

theorem ofWriter_append (log' : List (I × F)) :
    ofWriter i (log ++ log') = ofWriter i log ++ ofWriter i log' := List.filterMap_append

/-- What a writer writes is its own. -/
theorem ofWriter_map (fs : List F) :
    ofWriter j (fs.map fun f => (i, f)) = if i = j then fs else [] := by
  rw [ofWriter, List.filterMap_map]
  by_cases hi : i = j
  · simp [hi]
  · simp [hi]

theorem ofWriter_eq_nil (h : ∀ e ∈ log, e.1 ≠ i) : ofWriter i log = [] :=
  List.filterMap_eq_nil_iff.2 fun e he => if_neg (h e he)

theorem mem_ofWriter {f : F} (h : (i, f) ∈ log) : f ∈ ofWriter i log :=
  List.mem_filterMap.2 ⟨(i, f), h, if_pos rfl⟩

/-- What is selected by the key of a writer is what it wrote. -/
theorem select_map {decode : B → Option (K × F)} (write : K → F → B) (key : I → K)
    (hdecode : ∀ e ∈ log, decode (write (key e.1) e.2) = some (key e.1, e.2))
    (hunique : ∀ e ∈ log, key e.1 = key i → e.1 = i) :
    select decode (key i) (log.map fun e => write (key e.1) e.2) = ofWriter i log := by
  rw [select, List.filterMap_map, ofWriter]
  -- what another writer wrote has another key
  refine List.filterMap_congr fun e he => ?_
  rw [Function.comp_apply, hdecode e he, Option.bind_some]
  by_cases hkey : e.1 = i
  · simp [hkey]
  · simp [hkey, mt (hunique e he) hkey]

end Merge
