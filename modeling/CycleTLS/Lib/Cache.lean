import Mathlib.Logic.Function.Basic
import Mathlib.Data.List.Basic

/-!
# Caches of made values

A cache answers a call with the value it holds under the key of the call, and
makes (and keeps) one when it holds none. Values are made from the call and a
fresh number, their identity. Entries may be evicted at any time.

A value is thus handed to calls it was not made for, as soon as two calls have
one key:

* in every run, a value that is returned was made for a call of the same key,
  which got it too (`run_maker`);
* without evictions, it was made for the first call of that key for which one
  can be made (`run_got`);
* so calls are served with values made for calls like them if the keys separate
  unlike calls (`serves_of_separates`), and without evictions only if they do
  (`serves_iff`).
-/

namespace Cache

/-- What the cache holds, and the next fresh number. -/
structure State (K V : Type*) where
  entries : K → Option V
  next : Nat

/-- Nothing is held. -/
def empty (K V : Type*) : State K V := ⟨fun _ => none, 0⟩

/-- A use of the cache. -/
inductive Op (C K : Type*)
  | get (c : C)
  | evict (p : K → Bool)

variable {K C V : Type*} [DecidableEq K] (key : C → K) (make : C → Nat → Option V)

/-- The answer to a call, and the cache after it. -/
def get (s : State K V) (c : C) : State K V × Option V :=
  match s.entries (key c) with
  | some v => (s, some v)
  | none =>
    match make c s.next with
    | some v => (⟨Function.update s.entries (key c) (some v), s.next + 1⟩, some v)
    | none => (s, none)

/-- The entries with a key in `p` are dropped. -/
def evict (p : K → Bool) (s : State K V) : State K V :=
  ⟨fun k => if p k then none else s.entries k, s.next⟩

/-- The calls of a run, with their answers. -/
def run : State K V → List (Op C K) → List (C × Option V)
  | _, [] => []
  | s, .get c :: ops => (c, (get key make s c).2) :: run (get key make s c).1 ops
  | s, .evict p :: ops => run (evict p s) ops

/-- The calls of a run. -/
def calls : List (Op C K) → List C
  | [] => []
  | .get c :: ops => c :: calls ops
  | .evict _ :: ops => calls ops

theorem map_fst_run (s : State K V) (ops : List (Op C K)) :
    (run key make s ops).map Prod.fst = calls ops := by
  induction ops generalizing s with
  | nil => rfl
  | cons op ops ih => cases op with
    | get c => exact congrArg (c :: ·) (ih _)
    | evict p => exact ih _

omit [DecidableEq K] in
theorem calls_map_get (cs : List C) : calls (cs.map (.get (K := K))) = cs := by
  induction cs with
  | nil => rfl
  | cons c cs ih => exact congrArg (c :: ·) ih

section Get

variable {key make}

theorem get_of_held {s : State K V} {c : C} {v : V} (h : s.entries (key c) = some v) :
    get key make s c = (s, some v) := by
  rw [get, h]

theorem get_of_made {s : State K V} {c : C} {v : V} (h : s.entries (key c) = none)
    (hm : make c s.next = some v) :
    get key make s c =
      (⟨Function.update s.entries (key c) (some v), s.next + 1⟩, some v) := by
  rw [get, h, hm]

theorem get_of_not_made {s : State K V} {c : C} (h : s.entries (key c) = none)
    (hm : make c s.next = none) : get key make s c = (s, none) := by
  rw [get, h, hm]

end Get

/-- What a call does: it finds a value, makes one, or cannot. -/
theorem get_cases (s : State K V) (c : C) :
    (∃ v, s.entries (key c) = some v ∧ get key make s c = (s, some v)) ∨
      (∃ v, s.entries (key c) = none ∧ make c s.next = some v ∧ get key make s c =
        (⟨Function.update s.entries (key c) (some v), s.next + 1⟩, some v)) ∨
      (s.entries (key c) = none ∧ make c s.next = none ∧ get key make s c = (s, none)) := by
  cases hs : s.entries (key c) with
  | some v => exact .inl ⟨v, rfl, get_of_held hs⟩
  | none =>
    cases hm : make c s.next with
    | some v => exact .inr (.inl ⟨v, rfl, rfl, get_of_made hs hm⟩)
    | none => exact .inr (.inr ⟨rfl, rfl, get_of_not_made hs hm⟩)

/-! ## Makers -/

/-- The first call that got `v` is `d`. -/
def First (past : List (C × Option V)) (v : V) (d : C) : Prop :=
  ∃ l₁ l₂, past = l₁ ++ (d, some v) :: l₂ ∧ ∀ e ∈ l₁, e.2 ≠ some v

theorem First.append {past : List (C × Option V)} {v : V} {d : C} (h : First past v d)
    (past' : List (C × Option V)) : First (past ++ past') v d := by
  obtain ⟨l₁, l₂, rfl, hl⟩ := h
  exact ⟨l₁, l₂ ++ past', by simp, hl⟩

theorem First.mem {past : List (C × Option V)} {v : V} {d : C} (h : First past v d) :
    (d, some v) ∈ past := by
  obtain ⟨l₁, l₂, rfl, -⟩ := h
  simp

theorem first_append_singleton {past : List (C × Option V)} {v : V} (h : ∀ e ∈ past, e.2 ≠ some v)
    (d : C) : First (past ++ [(d, some v)]) v d := ⟨past, [], rfl, h⟩

/-- There is one first call. -/
theorem First.unique {past : List (C × Option V)} {v : V} {d d' : C} (h : First past v d)
    (h' : First past v d') : d = d' := by
  obtain ⟨l₁, l₂, rfl, hl⟩ := h
  obtain ⟨m₁, m₂, heq, hm⟩ := h'
  rcases List.append_eq_append_iff.1 heq with ⟨r, rfl, hr⟩ | ⟨r, rfl, hr⟩
  · cases r with
    | nil => exact congrArg Prod.fst (List.cons_eq_cons.1 hr).1
    | cons e r =>
      obtain ⟨rfl, -⟩ := List.cons_eq_cons.1 hr
      exact absurd rfl (hm (d, some v) (by simp))
  · cases r with
    | nil => exact (congrArg Prod.fst (List.cons_eq_cons.1 hr).1).symm
    | cons e r =>
      obtain ⟨rfl, -⟩ := List.cons_eq_cons.1 hr
      exact absurd rfl (hl (d', some v) (by simp))

section Makers

variable {ident : V → Nat}

variable (ident) in
/-- No value that was returned has the next number. -/
def Fresh (past : List (C × Option V)) (s : State K V) : Prop :=
  ∀ e ∈ past, ∀ v, e.2 = some v → ident v < s.next

/-- Every entry was made for a past call of its key, the first that got it. -/
def Made (past : List (C × Option V)) (s : State K V) : Prop :=
  ∀ k v, s.entries k = some v → ∃ d n, First past v d ∧ key d = k ∧ make d n = some v

variable {key make}

omit [DecidableEq K] in
theorem fresh_empty : Fresh ident ([] : List (C × Option V)) (empty K V) := fun _ h => nomatch h

omit [DecidableEq K] in
theorem made_empty : Made key make [] (empty K V : State K V) := fun _ _ h => nomatch h

omit [DecidableEq K] in
theorem Made.append {past : List (C × Option V)} {s : State K V} (h : Made key make past s)
    (past' : List (C × Option V)) : Made key make (past ++ past') s := fun k v hv =>
  let ⟨d, n, hd, hk, hm⟩ := h k v hv
  ⟨d, n, hd.append past', hk, hm⟩

omit [DecidableEq K] in
theorem Made.evict {past : List (C × Option V)} {s : State K V} (h : Made key make past s)
    (p : K → Bool) : Made key make past (evict p s) := fun k v hv => by
  by_cases hp : p k = true
  · simp [Cache.evict, hp] at hv
  · exact h k v (by simpa [Cache.evict, hp] using hv)

variable (hident : ∀ c n v, make c n = some v → ident v = n)
include hident

theorem Fresh.get {past : List (C × Option V)} {s : State K V} (hf : Fresh ident past s)
    (h : Made key make past s) (c : C) :
    Fresh ident (past ++ [(c, (get key make s c).2)]) (get key make s c).1 := by
  -- a hit returns what `Made` found before; what is made bears the counter itself
  rcases get_cases key make s c with ⟨v, hs, hg⟩ | ⟨v, hs, hm, hg⟩ | ⟨hs, hm, hg⟩
  · rw [hg]
    intro e he w hw
    rcases List.mem_append.1 he with he | he
    · exact hf e he w hw
    · obtain ⟨d, n, hd, -, -⟩ := h _ v hs
      rw [List.mem_singleton.1 he] at hw
      cases hw
      exact hf _ hd.mem v rfl
  · rw [hg]
    intro e he w hw
    rcases List.mem_append.1 he with he | he
    · exact Nat.lt_succ_of_lt (hf e he w hw)
    · rw [List.mem_singleton.1 he] at hw
      cases hw
      exact Nat.lt_succ_of_le (Nat.le_of_eq (hident _ _ _ hm))
  · rw [hg]
    intro e he w hw
    rcases List.mem_append.1 he with he | he
    · exact hf e he w hw
    · rw [List.mem_singleton.1 he] at hw
      cases hw

omit [DecidableEq K] in
/-- A value that is made was not returned before. -/
theorem Fresh.first {past : List (C × Option V)} {s : State K V} (hf : Fresh ident past s) {c : C}
    {v : V} (hm : make c s.next = some v) : First (past ++ [(c, some v)]) v c :=
  first_append_singleton
    (fun e he hv => absurd (hf e he v hv) (hident _ _ _ hm ▸ Nat.lt_irrefl _)) c

/-- A call keeps the invariant, and gets what was made for a call of its key. -/
theorem Made.get {past : List (C × Option V)} {s : State K V} (h : Made key make past s)
    (hf : Fresh ident past s) (c : C) :
    Made key make (past ++ [(c, (get key make s c).2)]) (get key make s c).1 ∧
      ∀ v, (get key make s c).2 = some v → ∃ d n,
        First (past ++ [(c, some v)]) v d ∧ key d = key c ∧ make d n = some v := by
  rcases get_cases key make s c with ⟨v, hs, hg⟩ | ⟨v, hs, hm, hg⟩ | ⟨hs, hm, hg⟩
  · rw [hg]
    refine ⟨h.append _, fun w hw => ?_⟩
    obtain ⟨d, n, hd, hk, hm⟩ := h _ v hs
    cases hw
    exact ⟨d, n, hd.append _, hk, hm⟩
  · rw [hg]
    -- what is made now is fresh, so this call is the first to get it
    have hfirst := hf.first hident hm
    refine ⟨fun k w hw => ?_, fun w hw => ?_⟩
    · by_cases hk : k = key c
      · simp only [hk, Function.update_self, Option.some.injEq] at hw
        exact ⟨c, s.next, hw ▸ hfirst, hk.symm, hw ▸ hm⟩
      · simp only [Function.update_of_ne hk] at hw
        exact h.append _ k w hw
    · cases hw
      exact ⟨c, s.next, hfirst, rfl, hm⟩
  · rw [hg]
    exact ⟨h.append _, fun w hw => nomatch hw⟩

/-- A value that is returned was made for a call of the same key, the first
    that got it. -/
theorem run_maker {past : List (C × Option V)} {s : State K V} (h : Made key make past s)
    (hf : Fresh ident past s) {ops : List (Op C K)} {pre post : List (C × Option V)} {c : C} {v : V}
    (hrun : run key make s ops = pre ++ (c, some v) :: post) :
    ∃ d n, First (past ++ pre ++ [(c, some v)]) v d ∧ key d = key c ∧ make d n = some v := by
  -- on the operations, generalised over what was returned before the run
  induction ops generalizing s past pre with
  | nil => simp [run] at hrun
  | cons op ops ih =>
    cases op with
    | evict p => exact ih (h.evict p) hf hrun
    | get d =>
      obtain ⟨hnext, hgot⟩ := h.get hident hf d
      cases pre with
      | nil =>
        obtain ⟨hd, -⟩ := List.cons_eq_cons.1 hrun
        obtain ⟨rfl, hv⟩ := Prod.mk.inj hd
        rw [List.append_nil]
        exact hgot v hv
      | cons e pre =>
        obtain ⟨rfl, hrest⟩ := List.cons_eq_cons.1 hrun
        have := ih hnext (hf.get hident h d) hrest
        rwa [List.append_assoc past [_] pre, List.singleton_append] at this

end Makers

/-! ## Without evictions -/

section Owners

variable (makes : C → Bool)

/-- The first call of the key `k` for which a value can be made. -/
def owner (past : List C) (k : K) : Option C :=
  past.find? fun d => decide (key d = k) && makes d

/-- An entry is held for a key exactly when one could be made for a past call
    of it, and it was made for the first such call. -/
def Owned (past : List (C × Option V)) (s : State K V) : Prop :=
  ∀ k, (owner key makes (past.map Prod.fst) k = none → s.entries k = none) ∧
    ∀ d, owner key makes (past.map Prod.fst) k = some d →
      ∃ v n, s.entries k = some v ∧ make d n = some v ∧ First past v d

variable {key make makes}

theorem owned_empty : Owned key make makes [] (empty K V : State K V) := fun _ =>
  ⟨fun _ => rfl, fun _ h => nomatch h⟩

variable (key makes) in
theorem owner_append_singleton (past : List C) (c : C) (k : K) :
    owner key makes (past ++ [c]) k =
      (owner key makes past k).or (if key c = k ∧ makes c = true then some c else none) := by
  rw [owner, owner, List.find?_append, List.find?_singleton]
  simp

/-- What a call gets without evictions: the value made for the owner of its key,
    which may be the call itself. -/
def Got (key : C → K) (make : C → Nat → Option V) (makes : C → Bool)
    (past : List (C × Option V)) (c : C) (r : Option V) : Prop :=
  (owner key makes (past.map Prod.fst ++ [c]) (key c) = none → r = none) ∧
    ∀ d, owner key makes (past.map Prod.fst ++ [c]) (key c) = some d →
      ∃ v n, r = some v ∧ make d n = some v ∧ First (past ++ [(c, r)]) v d

/-- The owners of the other keys do not change with a call. -/
theorem owner_of_ne {past : List (C × Option V)} {c : C} {k : K} (hk : k ≠ key c) (r : Option V) :
    owner key makes ((past ++ [(c, r)]).map Prod.fst) k =
      owner key makes (past.map Prod.fst) k := by
  rw [List.map_append, List.map_singleton, owner_append_singleton, if_neg fun h => hk h.1.symm,
    Option.or_none]

theorem Owned.owner_eq_none {past : List (C × Option V)} {s : State K V}
    (h : Owned key make makes past s) {k : K} (hs : s.entries k = none) :
    owner key makes (past.map Prod.fst) k = none := by
  cases ho : owner key makes (past.map Prod.fst) k with
  | none => rfl
  | some d =>
    obtain ⟨v, _, hv, _⟩ := (h k).2 d ho
    rw [hs] at hv
    cases hv

/-- Calls that own nothing change nothing. -/
theorem Owned.append {past : List (C × Option V)} {s : State K V}
    (h : Owned key make makes past s) {c : C}
    (hc : owner key makes (past.map Prod.fst ++ [c]) (key c) =
      owner key makes (past.map Prod.fst) (key c)) (r : Option V) :
    Owned key make makes (past ++ [(c, r)]) s := by
  intro k
  have hk : owner key makes ((past ++ [(c, r)]).map Prod.fst) k =
      owner key makes (past.map Prod.fst) k := by
    by_cases hk : k = key c
    · rw [List.map_append, hk]
      exact hc
    · exact owner_of_ne hk r
  rw [hk]
  refine ⟨(h k).1, fun d hd => ?_⟩
  obtain ⟨v, n, h₁, h₂, h₃⟩ := (h k).2 d hd
  exact ⟨v, n, h₁, h₂, h₃.append _⟩

variable {ident : V → Nat} (hident : ∀ c n v, make c n = some v → ident v = n)
  (hmakes : ∀ c n, (make c n).isSome = makes c)
include hident hmakes

theorem Owned.get {past : List (C × Option V)} {s : State K V} (h : Owned key make makes past s)
    (hf : Fresh ident past s) (c : C) :
    Owned key make makes (past ++ [(c, (get key make s c).2)]) (get key make s c).1 ∧
      Got key make makes past c (get key make s c).2 := by
  obtain ⟨hnone, hsome⟩ := h (key c)
  have happend := owner_append_singleton key makes (past.map Prod.fst) c (key c)
  rw [Got]
  rcases get_cases key make s c with ⟨v, hs, hg⟩ | ⟨v, hs, hm, hg⟩ | ⟨hs, hm, hg⟩
  · -- The key has an owner already.
    cases ho : owner key makes (past.map Prod.fst) (key c) with
    | none => rw [hnone ho] at hs; cases hs
    | some d =>
      obtain ⟨w, n, hw, hmake, hfirst⟩ := hsome d ho
      obtain rfl : w = v := Option.some.inj (hw.symm.trans hs)
      rw [ho, Option.some_or] at happend
      rw [hg, happend]
      refine ⟨h.append (happend.trans ho.symm) _, fun hn => (nomatch hn), fun e he => ?_⟩
      cases he
      exact ⟨w, n, rfl, hmake, hfirst.append _⟩
  · -- The call becomes the owner.
    have ho := h.owner_eq_none hs
    have hmc : makes c = true := by rw [← hmakes c s.next, hm]; rfl
    have hfirst := hf.first hident hm
    rw [ho, Option.none_or, if_pos ⟨rfl, hmc⟩] at happend
    rw [hg, happend]
    refine ⟨fun k => ?_, fun hn => (nomatch hn), fun e he => ?_⟩
    · by_cases hk : k = key c
      · rw [hk, List.map_append, List.map_singleton, happend]
        refine ⟨fun hn => (nomatch hn), fun e he => ?_⟩
        cases he
        exact ⟨v, s.next, Function.update_self _ _ _, hm, hfirst⟩
      · rw [owner_of_ne hk]
        refine ⟨fun hn => ?_, fun e he => ?_⟩
        · exact (Function.update_of_ne hk _ _).trans ((h k).1 hn)
        · obtain ⟨w, n, h₁, h₂, h₃⟩ := (h k).2 e he
          exact ⟨w, n, (Function.update_of_ne hk _ _).trans h₁, h₂, h₃.append _⟩
    · cases he
      exact ⟨v, s.next, rfl, hm, hfirst⟩
  · -- Nothing is held, and nothing can be made.
    have ho := h.owner_eq_none hs
    have hmc : makes c = false := by rw [← hmakes c s.next, hm]; rfl
    rw [ho, Option.none_or, if_neg (by simp [hmc])] at happend
    rw [hg, happend]
    exact ⟨h.append (happend.trans ho.symm) _, fun _ => rfl, fun e he => (nomatch he)⟩

/-- In a run of calls, each gets what was made for the owner of its key. -/
theorem run_got {past : List (C × Option V)} {s : State K V} (h : Owned key make makes past s)
    (hmade : Made key make past s) (hf : Fresh ident past s) {cs : List C}
    {pre post : List (C × Option V)} {c : C} {r : Option V}
    (hrun : run key make s (cs.map .get) = pre ++ (c, r) :: post) :
    Got key make makes (past ++ pre) c r := by
  -- on the calls, generalised over what was returned before the run
  induction cs generalizing s past pre with
  | nil => simp [run] at hrun
  | cons d cs ih =>
    obtain ⟨hnext, hgot⟩ := h.get hident hmakes hf d
    cases pre with
    | nil =>
      obtain ⟨hd, -⟩ := List.cons_eq_cons.1 hrun
      obtain ⟨rfl, rfl⟩ := Prod.mk.inj hd
      rw [List.append_nil]
      exact hgot
    | cons e pre =>
      obtain ⟨rfl, hrest⟩ := List.cons_eq_cons.1 hrun
      have := ih hnext (hmade.get hident hf d).1 (hf.get hident hmade d) hrest
      rwa [List.append_assoc past [_] pre, List.singleton_append] at this

end Owners

/-! ## What is served -/

section Serves

variable {β : Type*}

/-- Every value that is returned was first made for a call that agrees in `f`
    with the one it is returned to. -/
def Serves (make : C → Nat → Option V) (f : C → β) (trace : List (C × Option V)) : Prop :=
  ∀ pre c v post, trace = pre ++ (c, some v) :: post →
    ∃ d n, First (pre ++ [(c, some v)]) v d ∧ make d n = some v ∧ f d = f c

/-- Calls of one key agree in `f`, if a value can be made for the earlier. -/
def Separates (key : C → K) (makes : C → Bool) (f : C → β) (cs : List C) : Prop :=
  cs.Pairwise fun d c => makes d = true → key d = key c → f d = f c

variable {key make} {makes : C → Bool} {ident : V → Nat} {f : C → β}
  (hident : ∀ c n v, make c n = some v → ident v = n)
  (hmakes : ∀ c n, (make c n).isSome = makes c)
include hident hmakes

/-- Where the keys separate the calls, the cache serves them well, whatever is
    evicted. -/
theorem serves_of_separates {ops : List (Op C K)} (h : Separates key makes f (calls ops)) :
    Serves make f (run key make (empty K V) ops) := by
  intro pre c v post hrun
  obtain ⟨d, n, hfirst, hk, hm⟩ := run_maker hident made_empty fresh_empty hrun
  rw [List.nil_append] at hfirst
  refine ⟨d, n, hfirst, hm, ?_⟩
  have hmd : makes d = true := by rw [← hmakes d n, hm]; rfl
  rcases List.mem_append.1 hfirst.mem with hd | hd
  · have hcalls := map_fst_run key make (empty K V) ops
    rw [hrun, List.map_append, List.map_cons] at hcalls
    rw [Separates, ← hcalls] at h
    exact (List.pairwise_append.1 h).2.2 d (List.mem_map_of_mem hd) c (List.mem_cons_self) hmd hk
  · rw [(Prod.mk.inj (List.mem_singleton.1 hd)).1]

omit hident hmakes in
/-- An owner stays the owner. -/
theorem owner_append {past : List C} {k : K} {d : C} (h : owner key makes past k = some d)
    (cs : List C) : owner key makes (past ++ cs) k = some d := by
  rw [owner] at h ⊢
  rw [List.find?_append, h, Option.some_or]

/-- Without evictions, a call that is served well agrees with the owner of its
    key. -/
theorem Serves.eq_owner {cs pre post : List C} {c d : C}
    (h : Serves make f (run key make (empty K V) (cs.map .get))) (hcs : cs = pre ++ c :: post)
    (hd : owner key makes (pre ++ [c]) (key c) = some d) : f d = f c := by
  have hcalls : (run key make (empty K V) (cs.map .get)).map Prod.fst = pre ++ c :: post := by
    rw [map_fst_run, ← hcs]
    exact calls_map_get cs
  obtain ⟨trace, rest, hrun, hpre, hrest⟩ := List.map_eq_append_iff.1 hcalls
  obtain ⟨⟨c, r⟩, trace', rfl, rfl, -⟩ := List.map_eq_cons_iff.1 hrest
  have hgot := run_got hident hmakes owned_empty made_empty fresh_empty hrun
  rw [List.nil_append, Got, hpre] at hgot
  obtain ⟨v, n, rfl, -, hfirst⟩ := hgot.2 d hd
  obtain ⟨d', n', hfirst', -, hf⟩ := h trace c v trace' hrun
  rw [hfirst.unique hfirst', hf]

omit [DecidableEq K] hident hmakes in
theorem pairwise_of_split {R : C → C → Prop} {cs : List C}
    (h : ∀ pre d mid c post, cs = pre ++ d :: mid ++ c :: post → R d c) : cs.Pairwise R := by
  induction cs with
  | nil => exact .nil
  | cons a cs ih =>
    refine .cons (fun c hc => ?_) (ih fun pre d mid c post hcs => ?_)
    · obtain ⟨mid, post, rfl⟩ := List.append_of_mem hc
      exact h [] a mid c post rfl
    · exact h (a :: pre) d mid c post (by rw [hcs]; rfl)

/-- Without evictions, the cache serves its calls well exactly where the keys
    separate them. -/
theorem serves_iff {cs : List C} :
    Serves make f (run key make (empty K V) (cs.map .get)) ↔ Separates key makes f cs := by
  refine ⟨fun h => ?_, fun h => serves_of_separates hident hmakes (by rwa [calls_map_get])⟩
  refine pairwise_of_split fun pre d mid c post hcs hmd hk => ?_
  -- Both calls get what was made for the owner of their key when `d` came.
  have hd : (owner key makes (pre ++ [d]) (key d)).isSome := by
    rw [owner, List.find?_isSome]
    exact ⟨d, by simp, by simp [hmd]⟩
  obtain ⟨e, he⟩ := Option.isSome_iff_exists.1 hd
  have hc : owner key makes (pre ++ d :: mid ++ [c]) (key c) = some e := by
    rw [← hk, List.append_cons pre d mid, List.append_assoc]
    exact owner_append he _
  rw [← h.eq_owner hident hmakes (hcs.trans (List.append_assoc _ _ _)) he,
    h.eq_owner hident hmakes hcs hc]

end Serves

end Cache
