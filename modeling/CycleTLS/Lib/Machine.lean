import Mathlib.Data.List.Basic

/-!
# Machines

A machine answers each event with an output and a new state. Its runs are
recorded as lists of steps, each with the state it started from. What holds of
every step from a state with an invariant holds of every step of a run, where
the invariant and a guard on the steps carry each other along (`trace_of_inv`).
A property that is kept by some steps only is kept by the runs of those
(`forall_prefix_iff`).
-/

namespace Machine

variable {S E O : Type*}

/-- A step of a run: the state before it, the event and the output. -/
structure Step (S E O : Type*) where
  before : S
  event : E
  output : O

variable (step : S → E → S × O)

/-- The steps of a run from `s`. -/
def trace (s : S) : List E → List (Step S E O)
  | [] => []
  | e :: es => ⟨s, e, (step s e).2⟩ :: trace (step s e).1 es

/-- The state after a run from `s`. -/
def final (s : S) (es : List E) : S := es.foldl (fun s e => (step s e).1) s

theorem final_append (s : S) (es es' : List E) :
    final step s (es ++ es') = final step (final step s es) es' := List.foldl_append

theorem map_event_trace (s : S) (es : List E) : (trace step s es).map Step.event = es := by
  induction es generalizing s with
  | nil => rfl
  | cons e es ih => exact congrArg (e :: ·) (ih _)

/-- A guarded invariant: each step of a run has the property `P` and starts with
    the invariant. -/
theorem trace_of_inv (Inv : S → Prop) (Guard : S → E → Prop) (P : S → E → O → Prop)
    (hstep : ∀ s e, Inv s → Guard s e → Inv (step s e).1 ∧ P s e (step s e).2) {s : S}
    {es : List E} (hs : Inv s) (hguard : ∀ t ∈ trace step s es, Guard t.before t.event) :
    ∀ t ∈ trace step s es, Inv t.before ∧ P t.before t.event t.output := by
  induction es generalizing s with
  | nil => exact fun t ht => nomatch ht
  | cons e es ih =>
    obtain ⟨hnext, hp⟩ := hstep s e hs (hguard _ List.mem_cons_self)
    intro t ht
    rcases List.mem_cons.1 ht with rfl | ht
    · exact ⟨hs, hp⟩
    · exact ih hnext (fun t ht => hguard t (List.mem_cons_of_mem _ ht)) t ht

/-- A property that is kept exactly by the steps with `Keeps` holds all along the
    runs of such steps, and of no others, where all steps have the guard. -/
theorem forall_prefix_iff_of_guard {Inv P : S → Prop} {Guard Keeps : S → E → Prop}
    (hinv : ∀ s e, Inv s → Guard s e → Inv (step s e).1)
    (hkeeps : ∀ s e, Inv s → Guard s e → P s → (P (step s e).1 ↔ Keeps s e)) {s : S} (hs : Inv s)
    (hp : P s) {es : List E} (hguard : ∀ t ∈ trace step s es, Guard t.before t.event) :
    (∀ pre, pre <+: es → P (final step s pre)) ↔
      ∀ t ∈ trace step s es, Keeps t.before t.event := by
  induction es generalizing s with
  | nil =>
    refine iff_of_true (fun pre hpre => ?_) fun t ht => nomatch ht
    rw [List.prefix_nil.1 hpre]
    exact hp
  | cons e es ih =>
    rw [trace, List.forall_mem_cons] at hguard ⊢
    have hs' := hinv s e hs hguard.1
    constructor
    · intro h
      -- the prefix `[e]` says that the first step keeps the property
      have hnext : P (step s e).1 := h [e] (List.prefix_append [e] es)
      refine ⟨(hkeeps s e hs hguard.1 hp).1 hnext, (ih hs' hnext hguard.2).1 fun pre hpre => ?_⟩
      exact h (e :: pre) (List.cons_prefix_cons.2 ⟨rfl, hpre⟩)
    · rintro ⟨hk, hrest⟩ pre hpre
      cases pre with
      | nil => exact hp
      | cons a pre =>
        obtain ⟨rfl, htail⟩ := List.cons_prefix_cons.1 hpre
        have hnext := (hkeeps s a hs hguard.1 hp).2 hk
        exact (ih hs' hnext hguard.2).2 hrest pre htail

/-- The same without a guard. -/
theorem forall_prefix_iff {Inv P : S → Prop} {Keeps : S → E → Prop}
    (hinv : ∀ s e, Inv s → Inv (step s e).1)
    (hkeeps : ∀ s e, Inv s → P s → (P (step s e).1 ↔ Keeps s e)) {s : S} (hs : Inv s) (hp : P s)
    (es : List E) :
    (∀ pre, pre <+: es → P (final step s pre)) ↔
      ∀ t ∈ trace step s es, Keeps t.before t.event :=
  forall_prefix_iff_of_guard step (fun s e h (_ : True) => hinv s e h)
    (fun s e h _ => hkeeps s e h) hs hp fun _ _ => trivial

end Machine
