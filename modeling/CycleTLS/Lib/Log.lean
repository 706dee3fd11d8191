import Mathlib.Logic.Function.Basic
import Mathlib.Data.List.Basic

/-!
# Logs of keyed events

A log is a list of events, oldest first, each of which is about one key. What a
store holds for a key after a log is a matter of the last event of that key
(`latest`), whatever the store is: an overwritten function (`foldl_update`) or a
list of what was not overwritten (`standing`).
-/

namespace Log

variable {E K V : Type*} [DecidableEq K] (key : E → K)

/-- The last event of a key. -/
def latest (k : K) : List E → Option E
  | [] => none
  | e :: log => (latest k log).or (if key e = k then some e else none)

@[simp] theorem latest_nil (k : K) : latest key k [] = none := rfl

theorem latest_append (k : K) (log log' : List E) :
    latest key k (log ++ log') = (latest key k log').or (latest key k log) := by
  induction log with
  | nil => exact (Option.or_none).symm
  | cons e log ih => rw [List.cons_append, latest, ih, Option.or_assoc, latest]

variable {key}

theorem latest_eq_none_iff {k : K} {log : List E} :
    latest key k log = none ↔ ∀ e ∈ log, key e ≠ k := by
  induction log with
  | nil => simp
  | cons e log ih =>
    rw [latest, Option.or_eq_none_iff, ih, List.forall_mem_cons, and_comm]
    simp

theorem latest_eq_some_iff {k : K} {log : List E} {e : E} :
    latest key k log = some e ↔
      ∃ pre post, log = pre ++ e :: post ∧ key e = k ∧ ∀ e' ∈ post, key e' ≠ k := by
  induction log with
  | nil => simp
  | cons a log ih =>
    rw [latest, Option.or_eq_some_iff, ih, latest_eq_none_iff]
    constructor
    · -- `latest` asks the rest of the log first, and `a` only if it has no event of the key
      rintro (⟨pre, post, rfl, hk, hpost⟩ | ⟨hlog, ha⟩)
      · exact ⟨a :: pre, post, rfl, hk, hpost⟩
      · obtain ⟨hk, ha⟩ := Option.ite_none_right_eq_some.1 ha
        obtain rfl := Option.some.inj ha
        exact ⟨[], log, rfl, hk, hlog⟩
    · rintro ⟨pre, post, heq, hk, hpost⟩
      cases pre with
      | nil =>
        obtain ⟨rfl, rfl⟩ := List.cons_eq_cons.1 heq
        exact .inr ⟨hpost, if_pos hk⟩
      | cons b pre =>
        obtain ⟨rfl, rfl⟩ := List.cons_eq_cons.1 heq
        exact .inl ⟨pre, post, rfl, hk, hpost⟩

theorem key_of_latest {k : K} {log : List E} {e : E} (h : latest key k log = some e) :
    key e = k := by
  obtain ⟨_, _, _, hk, _⟩ := latest_eq_some_iff.1 h
  exact hk

theorem mem_of_latest {k : K} {log : List E} {e : E} (h : latest key k log = some e) : e ∈ log := by
  obtain ⟨_, _, rfl, _⟩ := latest_eq_some_iff.1 h
  simp

/-- With one event a key, the last one is the one. -/
theorem latest_eq_some_iff_of_nodup {k : K} {log : List E} (h : (log.map key).Nodup) {e : E} :
    latest key k log = some e ↔ e ∈ log ∧ key e = k := by
  refine ⟨fun he => ⟨mem_of_latest he, key_of_latest he⟩, fun ⟨he, hk⟩ => ?_⟩
  obtain ⟨pre, post, rfl⟩ := List.append_of_mem he
  rw [List.map_append, List.map_cons] at h
  have hpost := (List.nodup_cons.1 (List.nodup_append.1 h).2.1).1
  refine latest_eq_some_iff.2 ⟨pre, post, rfl, hk, fun e' he' hk' => hpost ?_⟩
  exact List.mem_map.2 ⟨e', he', hk'.trans hk.symm⟩

/-- The last event of a key is told by which events are of it. -/
theorem latest_congr {K' : Type*} [DecidableEq K'] {key' : E → K'} {k : K} {k' : K'} {log : List E}
    (h : ∀ e ∈ log, key e = k ↔ key' e = k') : latest key k log = latest key' k' log := by
  induction log with
  | nil => rfl
  | cons e log ih =>
    obtain ⟨he, hlog⟩ := List.forall_mem_cons.1 h
    rw [latest, latest, ih hlog]
    simp only [he]

variable (key) in
theorem latest_map {F : Type*} (f : F → E) (k : K) (log : List F) :
    latest key k (log.map f) = (latest (fun e => key (f e)) k log).map f := by
  induction log with
  | nil => rfl
  | cons e log ih =>
    rw [List.map_cons, latest, latest, ih]
    cases latest (fun e => key (f e)) k log with
    | some e' => rfl
    | none => by_cases hk : key (f e) = k <;> simp [hk]

variable (key) in
/-- A store that every event overwrites under its key holds what the last event
    of a key left. -/
theorem foldl_update (val : E → V) (log : List E) (s : K → V) (k : K) :
    log.foldl (fun s e => Function.update s (key e) (val e)) s k =
      (latest key k log).elim (s k) val := by
  induction log generalizing s with
  | nil => rfl
  | cons e log ih =>
    rw [List.foldl_cons, ih, latest]
    cases latest key k log with
    | some e' => rfl
    | none =>
      by_cases hk : key e = k
      · rw [if_pos hk, ← hk]
        exact Function.update_self _ _ _
      · rw [if_neg hk]
        exact Function.update_of_ne (Ne.symm hk) _ _

/-! ## What stands -/

variable (key) (removes : E → Bool)

/-- The events that are the last of their keys and do not remove them. -/
def standing : List E → List E
  | [] => []
  | e :: log =>
    if removes e = true ∨ (latest key (key e) log).isSome then standing log
    else e :: standing log

variable {key removes}

theorem mem_standing_iff {log : List E} {e : E} :
    e ∈ standing key removes log ↔ removes e = false ∧ latest key (key e) log = some e := by
  induction log with
  | nil => simp [standing]
  | cons a log ih =>
    rw [standing, latest]
    split_ifs with hgone hk hk
    · -- `a` is not kept; for `e` it counts only if there is no later event.
      rw [ih]
      refine and_congr_right fun he => ?_
      cases hlog : latest key (key e) log with
      | some e' => rfl
      | none =>
        rw [Option.none_or, Option.some.injEq]
        refine iff_of_false (by simp) fun hae => ?_
        rw [hae, he, hlog] at hgone
        simp at hgone
    · rw [ih]
      cases hlog : latest key (key e) log with
      | some e' => rfl
      | none => simp
    · obtain ⟨ha, hnone⟩ := not_or.1 hgone
      rw [Option.not_isSome_iff_eq_none] at hnone
      rw [List.mem_cons, ih, ← hk, hnone, Option.none_or, Option.some.injEq, eq_comm]
      simp only [reduceCtorEq, and_false, or_false]
      exact ⟨fun h => ⟨h ▸ Bool.eq_false_iff.2 ha, h⟩, And.right⟩
    · rw [List.mem_cons, ih, Option.or_none, or_iff_right]
      rintro rfl
      exact hk rfl

end Log
