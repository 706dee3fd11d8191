import CycleTLS.Lib.Log
import Mathlib.Data.List.Nodup

/-!
# Dictionaries in the order of insertion

A dictionary lists its entries in the order in which their keys were first set;
a key that is set again keeps its place.
-/

/-- Keys with their values, no key twice. -/
@[ext]
structure Dict (K V : Type*) where
  entries : List (K × V)
  nodup : (entries.map Prod.fst).Nodup

namespace Dict

variable {K V : Type*}

/-- The dictionary without entries. -/
def empty : Dict K V := ⟨[], .nil⟩

def isEmpty (d : Dict K V) : Bool := d.entries.isEmpty

/-- The values, in order. -/
def values (d : Dict K V) : List V := d.entries.map Prod.snd

variable [DecidableEq K]

/-- The value of a key. -/
def get? (d : Dict K V) (k : K) : Option V := (d.entries.find? fun e => e.1 = k).map Prod.snd

/-- The entries with a new value for `k`. -/
def setEntries (entries : List (K × V)) (k : K) (v : V) : List (K × V) :=
  if k ∈ entries.map Prod.fst then entries.map fun e => if e.1 = k then (k, v) else e
  else entries ++ [(k, v)]

theorem map_fst_replace (entries : List (K × V)) (k : K) (v : V) :
    (entries.map fun e => if e.1 = k then (k, v) else e).map Prod.fst = entries.map Prod.fst := by
  rw [List.map_map]
  refine List.map_congr_left fun e _ => ?_
  by_cases h : e.1 = k
  · rw [Function.comp_apply, if_pos h, h]
  · rw [Function.comp_apply, if_neg h]

/-- Gives `k` the value `v`. -/
def set (d : Dict K V) (k : K) (v : V) : Dict K V where
  entries := setEntries d.entries k v
  nodup := by
    rw [setEntries]
    split_ifs with h
    · rw [map_fst_replace]
      exact d.nodup
    · rw [List.map_append, List.map_singleton]
      rw [← List.concat_eq_append]
      exact d.nodup.concat h

theorem mem_entries_iff {d : Dict K V} {k : K} {v : V} :
    (k, v) ∈ d.entries ↔ d.get? k = some v := by
  rw [get?, Option.map_eq_some_iff]
  constructor
  · intro h
    cases hf : d.entries.find? fun e => e.1 = k with
    | none => exact absurd (List.find?_eq_none.1 hf _ h) (by simp)
    | some e =>
      have hk : e.1 = k := by simpa using List.find?_some hf
      have he := List.inj_on_of_nodup_map d.nodup (List.mem_of_find?_eq_some hf) h hk
      exact ⟨e, rfl, congrArg Prod.snd he⟩
  · rintro ⟨e, hf, rfl⟩
    have hk : e.1 = k := by simpa using List.find?_some hf
    rw [← hk]
    exact List.mem_of_find?_eq_some hf

/-- The entries in order are a log that the dictionary is made from. -/
theorem latest_entries (d : Dict K V) (k : K) :
    Log.latest Prod.fst k d.entries = (d.get? k).map fun v => (k, v) := by
  rw [Option.ext_iff]
  rintro ⟨k', v⟩
  rw [Log.latest_eq_some_iff_of_nodup d.nodup, mem_entries_iff, Option.map_eq_some_iff]
  constructor
  · rintro ⟨h, rfl⟩
    exact ⟨v, h, rfl⟩
  · rintro ⟨w, h, heq⟩
    cases heq
    exact ⟨h, rfl⟩

theorem mem_setEntries_iff {entries : List (K × V)} {k : K} {v : V} {e : K × V} :
    e ∈ setEntries entries k v ↔ e = (k, v) ∨ e.1 ≠ k ∧ e ∈ entries := by
  rw [setEntries]
  split_ifs with h
  · rw [List.mem_map]
    constructor
    · rintro ⟨a, ha, rfl⟩
      by_cases hk : a.1 = k
      · exact .inl (if_pos hk)
      · rw [if_neg hk]
        exact .inr ⟨hk, ha⟩
    · rintro (rfl | ⟨hk, he⟩)
      · obtain ⟨a, ha, hak⟩ := List.mem_map.1 h
        exact ⟨a, ha, if_pos hak⟩
      · exact ⟨e, he, if_neg hk⟩
  · rw [List.mem_append, List.mem_singleton, or_comm]
    refine or_congr_right ((and_iff_right_of_imp fun he hk => h ?_).symm)
    exact List.mem_map.2 ⟨e, he, hk⟩

/-- A key that is set has the new value, and the others keep theirs. -/
theorem get?_set (d : Dict K V) (k : K) (v : V) :
    (d.set k v).get? = Function.update d.get? k (some v) := by
  funext k'
  rw [Option.ext_iff]
  intro w
  rw [← mem_entries_iff, set, mem_setEntries_iff]
  by_cases hk : k' = k
  · subst hk
    rw [Function.update_self]
    simp [eq_comm]
  · rw [Function.update_of_ne hk, ← mem_entries_iff]
    simp [hk]

/-- Sets the value of each key in turn. -/
def setAll {E : Type*} (key : E → K) (val : E → V) (d : Dict K V) (es : List E) : Dict K V :=
  es.foldl (fun d e => d.set (key e) (val e)) d

/-- Gives `k` the value `v` unless it has one. -/
def setDefault (d : Dict K V) (k : K) (v : V) : Dict K V :=
  if (d.get? k).isSome then d else d.set k v

/-- The dictionary without `k`. -/
def erase (d : Dict K V) (k : K) : Dict K V where
  entries := d.entries.filter fun e => e.1 ≠ k
  nodup := d.nodup.sublist (List.filter_sublist.map Prod.fst)

/-- Setting the value that a key has already changes nothing. -/
theorem set_of_get? {d : Dict K V} {k : K} {v : V} (h : d.get? k = some v) : d.set k v = d := by
  have hmem : (k, v) ∈ d.entries := mem_entries_iff.2 h
  have hentries : setEntries d.entries k v = d.entries := by
    rw [setEntries, if_pos (List.mem_map_of_mem (f := Prod.fst) hmem)]
    refine (List.map_congr_left fun e he => ?_).trans (List.map_id _)
    by_cases hk : e.1 = k
    · rw [if_pos hk, List.inj_on_of_nodup_map d.nodup he hmem hk, id]
    · rw [if_neg hk, id]
  exact Dict.ext hentries

theorem setDefault_of_isSome {d : Dict K V} {k : K} {v : V} (h : (d.get? k).isSome) :
    d.setDefault k v = d := if_pos h

theorem get?_setAll {E : Type*} (key : E → K) (val : E → V) (d : Dict K V) (es : List E) (k : K) :
    (d.setAll key val es).get? k = ((Log.latest key k es).map val).or (d.get? k) := by
  have hfold : (d.setAll key val es).get? =
      es.foldl (fun s e => Function.update s (key e) (some (val e))) d.get? := by
    rw [setAll]
    induction es generalizing d with
    | nil => rfl
    | cons e es ih => rw [List.foldl_cons, List.foldl_cons, ih, get?_set]
  rw [hfold, Log.foldl_update key fun e => some (val e)]
  cases Log.latest key k es <;> rfl

/-- Setting all entries of a dictionary in an empty one gives it back. -/
theorem setAll_entries (d : Dict K V) :
    (empty : Dict K V).setAll Prod.fst Prod.snd d.entries = d := by
  have hfold (l : List (K × V)) (d : Dict K V) (h : ((d.entries ++ l).map Prod.fst).Nodup) :
      (d.setAll Prod.fst Prod.snd l).entries = d.entries ++ l := by
    induction l generalizing d with
    | nil => exact (List.append_nil _).symm
    | cons e l ih =>
      have hset : (d.set e.1 e.2).entries = d.entries ++ [e] := by
        refine if_neg fun hmem => ?_
        rw [List.map_append, List.nodup_append'] at h
        exact h.2.2 hmem (List.mem_map_of_mem List.mem_cons_self)
      have hassoc : (d.set e.1 e.2).entries ++ l = d.entries ++ e :: l := by
        rw [hset, List.append_assoc, List.singleton_append]
      refine (ih (d.set e.1 e.2) (by rw [hassoc]; exact h)).trans hassoc
  exact Dict.ext ((hfold d.entries empty d.nodup).trans (List.nil_append _))

theorem get?_setDefault (d : Dict K V) (k : K) (v : V) :
    (d.setDefault k v).get? = Function.update d.get? k ((d.get? k).or (some v)) := by
  rw [setDefault]
  cases h : d.get? k with
  | some w =>
    rw [Option.isSome_some, if_pos rfl, Option.some_or, ← h, Function.update_eq_self]
  | none =>
    rw [Option.isSome_none, if_neg Bool.false_ne_true, Option.none_or, get?_set]

theorem get?_foldl_setDefault (es : List (K × V)) (d : Dict K V) (k : K) :
    (es.foldl (fun d e => d.setDefault e.1 e.2) d).get? k =
      (d.get? k).or ((es.find? fun e => e.1 = k).map Prod.snd) := by
  induction es generalizing d with
  | nil => exact Option.or_none.symm
  | cons e es ih =>
    rw [List.foldl_cons, ih, get?_setDefault, List.find?_cons]
    by_cases hk : e.1 = k
    · rw [← hk, Function.update_self, decide_eq_true rfl, Option.or_assoc]
      rfl
    · rw [Function.update_of_ne (Ne.symm hk), decide_eq_false hk]

theorem get?_erase (d : Dict K V) (k : K) :
    (d.erase k).get? = Function.update d.get? k none := by
  funext k'
  rw [Option.ext_iff]
  intro v
  rw [← mem_entries_iff, erase, List.mem_filter, mem_entries_iff]
  by_cases hk : k' = k
  · subst hk
    rw [Function.update_self]
    exact iff_of_false (fun h => of_decide_eq_true h.2 rfl) nofun
  · rw [Function.update_of_ne hk]
    exact and_iff_left (decide_eq_true hk)

@[simp] theorem get?_erase_self (d : Dict K V) (k : K) : (d.erase k).get? k = none := by
  rw [get?_erase, Function.update_self]

theorem get?_erase_of_ne (d : Dict K V) {k k' : K} (h : k' ≠ k) :
    (d.erase k).get? k' = d.get? k' := by
  rw [get?_erase, Function.update_of_ne h]

theorem lookup_entries [BEq K] [LawfulBEq K] (d : Dict K V) (k : K) :
    d.entries.lookup k = d.get? k := by
  rw [get?]
  induction d.entries with
  | nil => rfl
  | cons e l ih =>
    rw [List.lookup_cons, List.find?_cons]
    by_cases h : e.1 = k
    · rw [beq_iff_eq.2 h.symm, decide_eq_true h]
      rfl
    · rw [beq_eq_false_iff_ne.2 (Ne.symm h), decide_eq_false h]
      exact ih

section FirstKey

variable (p : K → Bool)

/-- The first key of a kind. -/
def firstKey (d : Dict K V) : Option K := (d.entries.map Prod.fst).find? p

theorem firstKey_set (d : Dict K V) (k : K) (v : V) :
    (d.set k v).firstKey p = (d.firstKey p).or (if p k then some k else none) := by
  change ((setEntries d.entries k v).map Prod.fst).find? p = _
  rw [setEntries, firstKey]
  split_ifs with hmem hp hp
  · -- the first key of the kind is this one or comes before it
    rw [map_fst_replace]
    cases hf : (d.entries.map Prod.fst).find? p with
    | some k' => rfl
    | none => exact absurd hp (List.find?_eq_none.1 hf k hmem)
  · rw [map_fst_replace, Option.or_none]
  · rw [List.map_append, List.find?_append, List.map_singleton, List.find?_singleton, if_pos hp]
  · rw [List.map_append, List.find?_append, List.map_singleton, List.find?_singleton, if_neg hp]

theorem firstKey_setAll {E : Type*} (key : E → K) (val : E → V) (d : Dict K V) (es : List E) :
    (d.setAll key val es).firstKey p = (d.firstKey p).or ((es.map key).find? p) := by
  induction es generalizing d with
  | nil => exact Option.or_none.symm
  | cons e es ih =>
    refine (ih (d.set (key e) (val e))).trans ?_
    rw [firstKey_set, Option.or_assoc, List.map_cons, List.find?_cons]
    cases p (key e) <;> rfl

/-- The first entry with a key of a kind. -/
theorem find?_entries (d : Dict K V) :
    (d.entries.find? fun e => p e.1) = (d.firstKey p).bind fun k => (d.get? k).map (Prod.mk k) := by
  have hkeys : d.firstKey p = (d.entries.find? fun e => p e.1).map Prod.fst := List.find?_map ..
  rw [hkeys]
  cases hf : d.entries.find? fun e => p e.1 with
  | none => rfl
  | some e =>
    have hget : d.get? e.1 = some e.2 := mem_entries_iff.1 (List.mem_of_find?_eq_some hf)
    rw [Option.map_some, Option.bind_some, hget]
    rfl

end FirstKey

@[simp] theorem get?_empty (k : K) : (empty : Dict K V).get? k = none := rfl

/-- A dictionary is told from its keys in order and their values. -/
theorem ext_of_keys {d d' : Dict K V} (hkeys : d.entries.map Prod.fst = d'.entries.map Prod.fst)
    (hget : d.get? = d'.get?) : d = d' := by
  have hvalues (d : Dict K V) : (d.entries.map Prod.fst).map (fun k => (k, d.get? k)) =
      d.entries.map fun e => (e.1, some e.2) := by
    rw [List.map_map]
    refine List.map_congr_left fun e he => ?_
    rw [Function.comp_apply, mem_entries_iff.1 he]
  have hinjective : Function.Injective fun e : K × V => (e.1, some e.2) := by
    intro e e' h
    obtain ⟨hk, hv⟩ := Prod.mk.inj h
    exact Prod.ext hk (Option.some.inj hv)
  have hentries := hvalues d
  rw [hkeys, hget, hvalues d'] at hentries
  exact Dict.ext (List.map_injective_iff.2 hinjective hentries).symm

theorem mem_keys_iff {d : Dict K V} {k : K} :
    k ∈ d.entries.map Prod.fst ↔ (d.get? k).isSome := by
  rw [List.mem_map, Option.isSome_iff_exists]
  constructor
  · rintro ⟨e, he, rfl⟩
    exact ⟨e.2, mem_entries_iff.1 he⟩
  · rintro ⟨v, hv⟩
    exact ⟨(k, v), mem_entries_iff.2 hv, rfl⟩

theorem keys_set (d : Dict K V) (k : K) (v : V) : (d.set k v).entries.map Prod.fst =
    if k ∈ d.entries.map Prod.fst then d.entries.map Prod.fst
    else d.entries.map Prod.fst ++ [k] := by
  change (setEntries d.entries k v).map Prod.fst = _
  rw [setEntries]
  split_ifs
  · exact map_fst_replace d.entries k v
  · rw [List.map_append, List.map_singleton]

theorem set_eq_self_iff {d : Dict K V} {k : K} {v : V} : d.set k v = d ↔ d.get? k = some v := by
  refine ⟨fun h => ?_, set_of_get?⟩
  rw [← h, get?_set, Function.update_self]

theorem setDefault_eq_self_iff {d : Dict K V} {k : K} {v : V} :
    d.setDefault k v = d ↔ (d.get? k).isSome := by
  refine ⟨fun h => ?_, setDefault_of_isSome⟩
  rw [← h, get?_setDefault, Function.update_self, Option.isSome_or, Option.isSome_some,
    Bool.or_true]

/-- Of two values for a key the last one stays. -/
theorem set_set (d : Dict K V) (k : K) (v w : V) : (d.set k v).set k w = d.set k w := by
  refine ext_of_keys ?_ ?_
  · rw [keys_set, keys_set (d := d), keys_set]
    by_cases hk : k ∈ d.entries.map Prod.fst
    · rw [if_pos hk, if_pos hk]
    · rw [if_neg hk, if_pos (List.mem_append_right _ List.mem_cons_self)]
  · rw [get?_set, get?_set, get?_set, Function.update_idem]

theorem setDefault_set (d : Dict K V) (k : K) (v w : V) :
    (d.setDefault k v).set k w = d.set k w := by
  rw [setDefault]
  split_ifs
  · rfl
  · exact set_set d k v w

/-- New keys come in the order in which they are first set. -/
theorem keys_setAll {E : Type*} (key : E → K) (val : E → V) (d : Dict K V) (es : List E) :
    (d.setAll key val es).entries.map Prod.fst = d.entries.map Prod.fst ++
      ((es.map key).filter fun k => k ∉ d.entries.map Prod.fst).eraseDups := by
  induction es generalizing d with
  | nil => exact (List.append_nil _).symm
  | cons e es ih =>
    refine (ih (d.set (key e) (val e))).trans ?_
    rw [keys_set, List.map_cons]
    by_cases hk : key e ∈ d.entries.map Prod.fst
    · rw [if_pos hk, List.filter_cons_of_neg (by simpa using hk)]
    · rw [if_neg hk, List.filter_cons_of_pos (by simpa using hk), List.eraseDups_cons,
        List.append_assoc, List.singleton_append, List.filter_filter]
      refine congrArg (fun l => _ ++ key e :: List.eraseDups l) (List.filter_congr fun k _ => ?_)
      rw [Bool.eq_iff_iff]
      simp only [decide_eq_true_eq, List.mem_append, List.mem_singleton, not_or, Bool.and_eq_true,
        Bool.not_eq_true', beq_eq_false_iff_ne]
      exact and_comm

/-- A dictionary stays as it is exactly if each key has the value already that it is last
    given. -/
theorem setAll_eq_self_iff {E : Type*} {key : E → K} {val : E → V} {d : Dict K V} {es : List E} :
    d.setAll key val es = d ↔
      ∀ k e, Log.latest key k es = some e → d.get? k = some (val e) := by
  constructor
  · intro h k e he
    rw [← h, get?_setAll, he, Option.map_some, Option.some_or]
  · intro h
    refine ext_of_keys ?_ (funext fun k => ?_)
    · have hnil : (es.map key).filter (fun k => k ∉ d.entries.map Prod.fst) = [] := by
        refine List.filter_eq_nil_iff.2 fun k hk => ?_
        rw [decide_eq_true_eq, not_not, mem_keys_iff]
        cases he : Log.latest key k es with
        | some e => rw [h k e he, Option.isSome_some]
        | none =>
          obtain ⟨e, hmem, rfl⟩ := List.mem_map.1 hk
          exact absurd rfl (Log.latest_eq_none_iff.1 he e hmem)
      rw [keys_setAll, hnil]
      exact List.append_nil _
    · rw [get?_setAll]
      cases he : Log.latest key k es with
      | some e => rw [h k e he, Option.map_some, Option.some_or]
      | none => rw [Option.map_none, Option.none_or]

/-- What a dictionary is that is filled from an empty one. -/
theorem setAll_empty_eq_iff {E : Type*} {key : E → K} {val : E → V} {d : Dict K V}
    {es : List E} : (empty : Dict K V).setAll key val es = d ↔
      d.entries.map Prod.fst = (es.map key).eraseDups ∧
        ∀ k e, Log.latest key k es = some e → d.get? k = some (val e) := by
  have hkeys : ((empty : Dict K V).setAll key val es).entries.map Prod.fst =
      (es.map key).eraseDups := by
    rw [keys_setAll]
    exact congrArg List.eraseDups (List.filter_eq_self.2 fun _ _ => rfl)
  have hget (k : K) : ((empty : Dict K V).setAll key val es).get? k =
      (Log.latest key k es).map val := by
    rw [get?_setAll, get?_empty, Option.or_none]
  constructor
  · rintro rfl
    refine ⟨hkeys, fun k e he => ?_⟩
    rw [hget, he, Option.map_some]
  · rintro ⟨hd, h⟩
    refine ext_of_keys (hkeys.trans hd.symm) (funext fun k => ?_)
    rw [hget]
    cases he : Log.latest key k es with
    | some e => rw [h k e he, Option.map_some]
    | none =>
      rw [Option.map_none, eq_comm, ← Option.not_isSome_iff_eq_none, ← mem_keys_iff, hd,
        List.mem_eraseDups, List.mem_map]
      rintro ⟨e, hmem, rfl⟩
      exact Log.latest_eq_none_iff.1 he e hmem rfl

/-- The keys are read off the values. -/
def Keyed (name : V → K) (d : Dict K V) : Prop := ∀ e ∈ d.entries, name e.2 = e.1

variable {name : V → K}

omit [DecidableEq K] in
theorem keyed_empty : (empty : Dict K V).Keyed name := fun _ h => nomatch h

theorem Keyed.set {d : Dict K V} (h : d.Keyed name) {k : K} {v : V} (hv : name v = k) :
    (d.set k v).Keyed name := by
  intro e he
  rcases mem_setEntries_iff.1 he with rfl | ⟨-, he⟩
  · exact hv
  · exact h e he

theorem Keyed.setAll {E : Type*} {key : E → K} {val : E → V} {d : Dict K V} (h : d.Keyed name)
    (hval : ∀ e, name (val e) = key e) (es : List E) : (d.setAll key val es).Keyed name := by
  induction es generalizing d with
  | nil => exact h
  | cons e es ih => exact ih (h.set (hval e))

omit [DecidableEq K] in
theorem Keyed.map_values {d : Dict K V} (h : d.Keyed name) :
    d.values.map name = d.entries.map Prod.fst := by
  rw [values, List.map_map]
  exact List.map_congr_left h

theorem Keyed.mem_values_iff {d : Dict K V} (h : d.Keyed name) {v : V} :
    v ∈ d.values ↔ d.get? (name v) = some v := by
  rw [values, List.mem_map, ← mem_entries_iff]
  refine ⟨?_, fun hv => ⟨_, hv, rfl⟩⟩
  rintro ⟨⟨k, v⟩, he, rfl⟩
  rwa [h _ he]

/-- The values in order are a log that the dictionary is made from. -/
theorem Keyed.latest_values {d : Dict K V} (h : d.Keyed name) (k : K) :
    Log.latest name k d.values = d.get? k := by
  rw [Option.ext_iff]
  intro v
  rw [Log.latest_eq_some_iff_of_nodup (h.map_values ▸ d.nodup), h.mem_values_iff]
  refine ⟨fun ⟨hv, hk⟩ => hk ▸ hv, fun hv => ?_⟩
  have hk : name v = k := h _ (mem_entries_iff.2 hv)
  exact ⟨hk ▸ hv, hk⟩

end Dict
