import CycleTLS.Lib.Transition
import Mathlib.Data.List.Nodup
import Mathlib.Data.List.Perm.Subperm
import Mathlib.Data.List.Range
import Mathlib.Data.List.ReduceOption
import Mathlib.Logic.Function.Basic

/-!
# The batcher (`_batcher.py`)

Callers put requests into a queue and wait for a future each; a thread takes them
out in batches, sends a batch by `batch_fn` and hands its results to the futures.
A batch ends when it is full, when its time is up, or at a sentinel, so it may end
at any point. What `batch_fn` returns or raises is any `outcome`.

As long as nobody cancels a future or shuts the batcher down (`exactlyOnce`),

* the batches together are the queue's order of submission, each of them is of the
  size it should be;
* a future gets the result at the place of its request, or an exception if there
  are not as many results as requests, and gets it once;
* each future is resolved once the thread has taken a number of steps, and it can
  always take another.
-/

namespace CycleTLS

open Transition

namespace Batcher

/-- A queued request; the future is its number. -/
structure Pending (P : Type) where
  payload : P
  future : Nat

/-- An exception that a future is given. -/
inductive Raised (E : Type)
  | byBatchFn (exc : E)
  | runtimeError (message : String)

/-- What a future is resolved by. -/
inductive Resolution (R E : Type)
  | result (r : R)
  | exception (exc : Raised E)

/-- A `concurrent.futures.Future`. -/
inductive FutureState (R E : Type)
  | pending
  | cancelled
  | finished (r : Resolution R E)

/-- The message of the exception for a wrong number of results. -/
def mismatch (results requests : Nat) : String :=
  s!"Batch FFI returned {results} results for {requests} requests"

/-- The resolutions `_flush` has for the requests of a batch. -/
def resolutions {P R E : Type} (batch : List (Pending P)) (outcome : Except E (List R)) :
    List (Pending P × Resolution R E) :=
  match outcome with
  | .error exc => batch.map (·, .exception (.byBatchFn exc))
  | .ok results =>
    if results.length ≠ batch.length then
      batch.map (·, .exception (.runtimeError (mismatch results.length batch.length)))
    else (batch.zip results).map fun (p, r) => (p, .result r)

/-- Where the thread is. A flush is the last one after the queue has been drained. -/
inductive Phase (P R E : Type)
  /-- At the test of the loop in `_run`. -/
  | top
  /-- At the first `get` of `_collect_batch`. -/
  | waiting
  /-- In the loop of `_collect_batch`. -/
  | collecting (batch : List (Pending P))
  /-- At the call of `batch_fn`. -/
  | flushing (batch : List (Pending P)) (last : Bool)
  /-- At the test of `done` for the first of these. -/
  | distributing (rest : List (Pending P × Resolution R E)) (last : Bool)
  /-- At `set_result` or `set_exception`. -/
  | setting (p : Pending P) (r : Resolution R E) (rest : List (Pending P × Resolution R E))
      (last : Bool)
  /-- In `_drain_remaining`. -/
  | draining (items : List (Pending P))
  | exited
  /-- Ended by an `InvalidStateError`. -/
  | crashed

/-- A batcher. What follows `phase` and `futures` is a record of what happened. -/
structure State (P R E : Type) where
  /-- The queue; `none` is the sentinel. -/
  queue : List (Option (Pending P))
  shutdownEvent : Bool
  /-- Calls of `shutdown` that still have to put their sentinel. -/
  sentinels : Nat
  phase : Phase P R E
  futures : Nat → FutureState R E
  submitted : List (Pending P)
  batches : List (List (Pending P) × Except E (List R))
  log : List (Nat × Resolution R E)

/-- A step is taken by a caller, for one of three reasons, or by the thread. -/
inductive Actor
  | submit
  | cancel
  | shutdown
  | thread
  deriving DecidableEq

variable {P R E : Type}

/-- A new batcher. -/
def State.new : State P R E where
  queue := []
  shutdownEvent := false
  sentinels := 0
  phase := .top
  futures _ := .pending
  submitted := []
  batches := []
  log := []

/-- What `submit_sync` and `submit_async` queue. -/
def State.request (s : State P R E) (payload : P) : Pending P := ⟨payload, s.submitted.length⟩

/-- The steps of a batcher, with its `batch_size`. -/
inductive Step (size : Int) : State P R E → Actor → State P R E → Prop
  | submit (s : State P R E) (payload : P) :
      Step size s .submit { s with
        queue := s.queue ++ [some (s.request payload)]
        submitted := s.submitted ++ [s.request payload] }
  | cancel (s : State P R E) (f : Nat) (hf : s.futures f = .pending) :
      Step size s .cancel { s with futures := Function.update s.futures f .cancelled }
  /-- `shutdown`, past its test of the event, which several calls may pass. -/
  | setEvent (s : State P R E) :
      Step size s .shutdown { s with shutdownEvent := true, sentinels := s.sentinels + 1 }
  | putSentinel (s : State P R E) (n : Nat) (hn : s.sentinels = n + 1) :
      Step size s .shutdown { s with queue := s.queue ++ [none], sentinels := n }
  | enter (s : State P R E) (hp : s.phase = .top) (he : s.shutdownEvent = false) :
      Step size s .thread { s with phase := .waiting }
  | leave (s : State P R E) (hp : s.phase = .top) (he : s.shutdownEvent = true) :
      Step size s .thread { s with phase := .draining [] }
  | idle (s : State P R E) (hp : s.phase = .waiting) (hq : s.queue = []) :
      Step size s .thread { s with phase := .top }
  | woken (s : State P R E) (q : List (Option (Pending P))) (hp : s.phase = .waiting)
      (hq : s.queue = none :: q) :
      Step size s .thread { s with phase := .top, queue := q }
  | first (s : State P R E) (p : Pending P) (q : List (Option (Pending P)))
      (hp : s.phase = .waiting) (hq : s.queue = some p :: q) :
      Step size s .thread { s with phase := .collecting [p], queue := q }
  | more (s : State P R E) (batch : List (Pending P)) (p : Pending P)
      (q : List (Option (Pending P))) (hp : s.phase = .collecting batch)
      (hsize : (batch.length : Int) < size) (hq : s.queue = some p :: q) :
      Step size s .thread { s with phase := .collecting (batch ++ [p]), queue := q }
  | stop (s : State P R E) (batch : List (Pending P)) (q : List (Option (Pending P)))
      (hp : s.phase = .collecting batch) (hsize : (batch.length : Int) < size)
      (hq : s.queue = none :: q) :
      Step size s .thread { s with phase := .flushing batch false, queue := q }
  /-- The batch is full, or its time is up. -/
  | cut (s : State P R E) (batch : List (Pending P)) (hp : s.phase = .collecting batch) :
      Step size s .thread { s with phase := .flushing batch false }
  | call (s : State P R E) (batch : List (Pending P)) (last : Bool)
      (outcome : Except E (List R)) (hp : s.phase = .flushing batch last) :
      Step size s .thread { s with
        phase := .distributing (resolutions batch outcome) last
        batches := s.batches ++ [(batch, outcome)] }
  | skip (s : State P R E) (p : Pending P) (r : Resolution R E)
      (rest : List (Pending P × Resolution R E)) (last : Bool)
      (hp : s.phase = .distributing ((p, r) :: rest) last)
      (hf : s.futures p.future ≠ .pending) :
      Step size s .thread { s with phase := .distributing rest last }
  | check (s : State P R E) (p : Pending P) (r : Resolution R E)
      (rest : List (Pending P × Resolution R E)) (last : Bool)
      (hp : s.phase = .distributing ((p, r) :: rest) last)
      (hf : s.futures p.future = .pending) :
      Step size s .thread { s with phase := .setting p r rest last }
  | set (s : State P R E) (p : Pending P) (r : Resolution R E)
      (rest : List (Pending P × Resolution R E)) (last : Bool)
      (hp : s.phase = .setting p r rest last) (hf : s.futures p.future = .pending) :
      Step size s .thread { s with
        phase := .distributing rest last
        futures := Function.update s.futures p.future (.finished r)
        log := s.log ++ [(p.future, r)] }
  /-- A future that was cancelled since it was tested cannot be set. -/
  | invalid (s : State P R E) (p : Pending P) (r : Resolution R E)
      (rest : List (Pending P × Resolution R E)) (last : Bool)
      (hp : s.phase = .setting p r rest last) (hf : s.futures p.future ≠ .pending) :
      Step size s .thread { s with phase := .crashed }
  | flushed (s : State P R E) (hp : s.phase = .distributing [] false) :
      Step size s .thread { s with phase := .top }
  | exit (s : State P R E) (hp : s.phase = .distributing [] true) :
      Step size s .thread { s with phase := .exited }
  | drain (s : State P R E) (items : List (Pending P)) (p : Pending P)
      (q : List (Option (Pending P))) (hp : s.phase = .draining items)
      (hq : s.queue = some p :: q) :
      Step size s .thread { s with phase := .draining (items ++ [p]), queue := q }
  | drainSentinel (s : State P R E) (items : List (Pending P))
      (q : List (Option (Pending P))) (hp : s.phase = .draining items)
      (hq : s.queue = none :: q) :
      Step size s .thread { s with queue := q }
  | drained (s : State P R E) (items : List (Pending P)) (hp : s.phase = .draining items)
      (hq : s.queue = []) :
      Step size s .thread { s with
        phase := if items = [] then .exited else .flushing items true }

/-! ## Accounting -/

/-- The requests the thread has taken out and not yet passed to `batch_fn`. -/
def Phase.held : Phase P R E → List (Pending P)
  | .collecting batch | .flushing batch _ | .draining batch => batch
  | _ => []

/-- The resolutions the thread has yet to hand out. -/
def Phase.undelivered : Phase P R E → List (Pending P × Resolution R E)
  | .distributing rest _ => rest
  | .setting p r rest _ => (p, r) :: rest
  | _ => []

/-- A resolution as it is logged. -/
def entry (e : Pending P × Resolution R E) : Nat × Resolution R E := (e.1.future, e.2)

/-- All requests are accounted for, if no future was cancelled. -/
structure Accounted (s : State P R E) : Prop where
  order : s.batches.flatMap Prod.fst ++ (s.phase.held ++ s.queue.reduceOption) = s.submitted
  numbered : s.submitted.map Pending.future = List.range s.submitted.length
  resolved : s.log ++ s.phase.undelivered.map entry =
    s.batches.flatMap fun b => (resolutions b.1 b.2).map entry
  pending : ∀ f, s.futures f = .pending ↔ ∀ r, (f, r) ∉ s.log
  finished : ∀ f r, s.futures f = .finished r ↔ (f, r) ∈ s.log
  running : s.phase ≠ .crashed

/-- All requests are accounted for, where the resolution of a future that was cancelled
    may have been left out. -/
structure Tracked (s : State P R E) : Prop where
  order : s.batches.flatMap Prod.fst ++ (s.phase.held ++ s.queue.reduceOption) = s.submitted
  numbered : s.submitted.map Pending.future = List.range s.submitted.length
  delivered : (s.log ++ s.phase.undelivered.map entry).Sublist
    (s.batches.flatMap fun b => (resolutions b.1 b.2).map entry)
  complete : ∀ e ∈ s.batches.flatMap fun b => (resolutions b.1 b.2).map entry,
    e ∈ s.log ++ s.phase.undelivered.map entry ∨ s.futures e.1 = .cancelled
  finished : ∀ f r, s.futures f = .finished r ↔ (f, r) ∈ s.log

theorem map_fst_resolutions (batch : List (Pending P)) (outcome : Except E (List R)) :
    (resolutions batch outcome).map Prod.fst = batch := by
  cases outcome with
  | error exc => simp [resolutions, Function.comp_def]
  | ok results =>
    simp only [resolutions]
    split_ifs with hlen
    · simp [Function.comp_def]
    · rw [List.map_map]
      exact List.map_fst_zip (by omega)

theorem map_future_resolutions (batch : List (Pending P)) (outcome : Except E (List R)) :
    ((resolutions batch outcome).map entry).map Prod.fst = batch.map Pending.future := by
  rw [← map_fst_resolutions batch outcome, List.map_map, List.map_map, map_fst_resolutions]
  rfl

variable {s s' : State P R E} {a : Actor} {size : Int}

namespace Tracked

/-- The futures with a resolution are among those submitted, once each. -/
theorem nodup_resolutions (h : Tracked s) :
    ((s.batches.flatMap fun b => (resolutions b.1 b.2).map entry).map Prod.fst).Nodup := by
  have hprefix : (s.batches.flatMap fun b => (resolutions b.1 b.2).map entry).map Prod.fst <+:
      List.range s.submitted.length := by
    rw [← h.numbered, ← h.order, List.map_flatMap, List.map_append, List.map_flatMap]
    simp only [map_future_resolutions]
    exact List.prefix_append _ _
  exact List.nodup_range.sublist hprefix.sublist

theorem nodup (h : Tracked s) :
    ((s.log ++ s.phase.undelivered.map entry).map Prod.fst).Nodup :=
  h.nodup_resolutions.sublist (h.delivered.map Prod.fst)

/-- A future that is about to be tested is not resolved. -/
theorem ne_finished_of_undelivered (h : Tracked s) {p : Pending P} {r : Resolution R E}
    {rest : List (Pending P × Resolution R E)} (hu : s.phase.undelivered = (p, r) :: rest)
    (r' : Resolution R E) : s.futures p.future ≠ .finished r' := by
  have hnodup := h.nodup
  rw [hu, List.map_append, List.map_cons] at hnodup
  intro hr
  have hlog := List.mem_map_of_mem (f := Prod.fst) ((h.finished _ _).1 hr)
  exact (List.nodup_append.1 hnodup).2.2 _ hlog _ List.mem_cons_self rfl

/-- Moving on without a call of `batch_fn` or a resolution. -/
theorem move (h : Tracked s) {phase : Phase P R E} {queue : List (Option (Pending P))}
    (hheld : phase.held ++ queue.reduceOption = s.phase.held ++ s.queue.reduceOption)
    (hundelivered : phase.undelivered = s.phase.undelivered) :
    Tracked { s with phase := phase, queue := queue } where
  order := by rw [hheld]; exact h.order
  numbered := h.numbered
  delivered := by rw [hundelivered]; exact h.delivered
  complete := by rw [hundelivered]; exact h.complete
  finished := h.finished

theorem step (h : Tracked s) (hstep : Step size s a s') (hrunning : s'.phase ≠ .crashed) :
    Tracked s' := by
  cases hstep with
  | cancel f hf =>
    refine ⟨h.order, h.numbered, h.delivered, fun e he => ?_, fun f' r => ?_⟩
    · refine (h.complete e he).imp_right fun hcancelled => ?_
      by_cases hef : e.1 = f
      · rw [hef]
        exact Function.update_self ..
      · exact (Function.update_of_ne hef _ _).trans hcancelled
    · by_cases hff : f' = f
      · subst hff
        simp [← h.finished, hf]
      · simp [h.finished, hff]
  | submit payload =>
    refine ⟨?_, ?_, h.delivered, h.complete, h.finished⟩
    · simp only [List.reduceOption_append, ← h.order]
      simp [State.request]
    · simp only [List.map_append, h.numbered, List.length_append, List.length_singleton,
        List.range_succ]
      rfl
  | setEvent => exact ⟨h.order, h.numbered, h.delivered, h.complete, h.finished⟩
  | putSentinel n hn =>
    refine ⟨?_, h.numbered, h.delivered, h.complete, h.finished⟩
    simpa [List.reduceOption_append] using h.order
  -- The thread moves a request from the queue to what it holds, or nothing: the two together
  -- are as they were.
  | enter hp | idle hp hq | leave hp => exact h.move (by rw [hp]; rfl) (by rw [hp]; rfl)
  | flushed hp | exit hp => exact h.move (by rw [hp]; rfl) (by rw [hp]; rfl)
  | woken q hp hq => exact h.move (by rw [hp, hq]; rfl) (by rw [hp]; rfl)
  | first p q hp hq => exact h.move (by rw [hp, hq]; rfl) (by rw [hp]; rfl)
  | more batch p q hp hsize hq =>
    exact h.move (by rw [hp, hq]; simp [Phase.held]) (by rw [hp]; rfl)
  | stop batch q hp hsize hq => exact h.move (by rw [hp, hq]; rfl) (by rw [hp]; rfl)
  | cut batch hp => exact h.move (by rw [hp]; rfl) (by rw [hp]; rfl)
  | drain items p q hp hq =>
    exact h.move (by rw [hp, hq]; simp [Phase.held]) (by rw [hp]; rfl)
  | drainSentinel items q hp hq => exact h.move (by rw [hq]; rfl) rfl
  | drained items hp hq =>
    split_ifs with hitems
    · exact h.move (by rw [hp, hitems]; rfl) (by rw [hp]; rfl)
    · exact h.move (by rw [hp]; rfl) (by rw [hp]; rfl)
  -- What is held becomes the last batch, and its resolutions are those to be delivered.
  | call batch last outcome hp =>
    have horder := h.order
    have hdelivered := h.delivered
    have hcomplete := h.complete
    rw [hp] at horder hdelivered hcomplete
    simp only [Phase.undelivered, List.map_nil, List.append_nil] at hdelivered hcomplete
    refine ⟨?_, h.numbered, ?_, fun e he => ?_, h.finished⟩
    · rw [List.flatMap_append, ← horder]
      simp [Phase.held]
    · rw [List.flatMap_append, List.flatMap_singleton]
      exact hdelivered.append (List.Sublist.refl _)
    · rw [List.flatMap_append, List.flatMap_singleton, List.mem_append] at he
      rcases he with he | he
      · exact (hcomplete e he).imp_left (List.mem_append_left _)
      · exact .inl (List.mem_append_right _ he)
  -- A future that is skipped is done, and it was not resolved.
  | skip p r rest last hp hf =>
    have hu : s.phase.undelivered = (p, r) :: rest := by rw [hp]; rfl
    have hdelivered := h.delivered
    have hcomplete := h.complete
    rw [hu, List.map_cons] at hdelivered hcomplete
    refine ⟨?_, h.numbered, ?_, fun e he => ?_, h.finished⟩
    · have horder := h.order
      rwa [hp] at horder
    · exact ((List.sublist_cons_self _ _).append_left _).trans hdelivered
    · refine (hcomplete e he).elim (fun hmem => ?_) .inr
      rcases List.mem_append.1 hmem with hlog | hmem
      · exact .inl (List.mem_append_left _ hlog)
      rcases List.mem_cons.1 hmem with rfl | hrest
      · right
        change s.futures p.future = .cancelled
        cases hfut : s.futures p.future with
        | pending => exact absurd hfut hf
        | cancelled => rfl
        | finished r' => exact absurd hfut (h.ne_finished_of_undelivered hu r')
      · exact .inl (List.mem_append_right _ hrest)
  | check p r rest last hp hf => exact h.move (by rw [hp]; rfl) (by rw [hp]; rfl)
  | set p r rest last hp hf =>
    have hu : s.phase.undelivered = (p, r) :: rest := by rw [hp]; rfl
    have hlog : s.log ++ [(p.future, r)] ++ rest.map entry =
        s.log ++ s.phase.undelivered.map entry := by
      rw [hu, List.append_assoc]
      rfl
    have hnone : ∀ r', (p.future, r') ∉ s.log := fun r' hr' => by
      rw [← h.finished, hf] at hr'
      cases hr'
    refine ⟨?_, h.numbered, hlog ▸ h.delivered, fun e he => ?_, fun f r' => ?_⟩
    · have horder := h.order
      rwa [hp] at horder
    · refine (h.complete e he).imp (fun hmem => hlog ▸ hmem) fun hcancelled => ?_
      have hne : e.1 ≠ p.future := fun heq => by
        rw [heq, hf] at hcancelled
        cases hcancelled
      exact (Function.update_of_ne hne _ _).trans hcancelled
    · by_cases hfp : f = p.future
      · subst hfp
        simp [hnone, eq_comm]
      · simp [h.finished, hfp]
  | invalid p r rest last hp hf => exact absurd rfl hrunning

end Tracked

/-- What is lost is lost to a cancellation. -/
theorem accounted_iff :
    Accounted s ↔ Tracked s ∧ (∀ f, s.futures f ≠ .cancelled) ∧ s.phase ≠ .crashed := by
  constructor
  · intro h
    refine ⟨⟨h.order, h.numbered, by rw [h.resolved], fun e he => .inl (h.resolved ▸ he),
      h.finished⟩, fun f hf => ?_, h.running⟩
    have hpending : s.futures f ≠ .pending := by rw [hf]; nofun
    rw [Ne, h.pending, not_forall] at hpending
    obtain ⟨r, hr⟩ := hpending
    rw [not_not, ← h.finished, hf] at hr
    cases hr
  · rintro ⟨h, huncancelled, hrunning⟩
    -- Nothing is left out, so what is delivered in order is everything.
    have hsubset : (s.batches.flatMap fun b => (resolutions b.1 b.2).map entry) ⊆
        s.log ++ s.phase.undelivered.map entry := fun e he =>
      (h.complete e he).resolve_right (huncancelled e.1)
    have hnodup := h.nodup_resolutions.of_map
    refine ⟨h.order, h.numbered,
      h.delivered.eq_of_length_le (List.subperm_of_subset hnodup hsubset).length_le, fun f => ?_,
      h.finished, hrunning⟩
    constructor
    · intro hf r hr
      rw [← h.finished, hf] at hr
      cases hr
    · intro hnone
      cases hfut : s.futures f with
      | pending => rfl
      | cancelled => exact absurd hfut (huncancelled f)
      | finished r => exact absurd ((h.finished f r).1 hfut) (hnone r)

theorem Accounted.tracked (h : Accounted s) : Tracked s := (accounted_iff.1 h).1

/-- A future that is about to be tested is pending. -/
theorem Accounted.pending_of_undelivered (h : Accounted s) {p : Pending P} {r : Resolution R E}
    {rest : List (Pending P × Resolution R E)} (hu : s.phase.undelivered = (p, r) :: rest) :
    s.futures p.future = .pending := by
  cases hfut : s.futures p.future with
  | pending => rfl
  | cancelled => exact absurd hfut ((accounted_iff.1 h).2.1 _)
  | finished r' => exact absurd hfut (h.tracked.ne_finished_of_undelivered hu r')

theorem accounted_new : Accounted (.new : State P R E) :=
  ⟨rfl, rfl, rfl, fun _ => by simp [State.new], fun _ _ => by simp [State.new], nofun⟩

/-- Only the step that cancels a future makes it cancelled. -/
theorem ne_cancelled_step (ha : a ≠ .cancel) (hstep : Step size s a s') {f : Nat}
    (hf : s.futures f ≠ .cancelled) : s'.futures f ≠ .cancelled := by
  cases hstep with
  | cancel => exact absurd rfl ha
  | set p r rest last hp hpending =>
    by_cases hfp : f = p.future
    · subst hfp
      simp
    · simpa [hfp] using hf
  | _ => exact hf

theorem Accounted.step (h : Accounted s) (ha : a ≠ .cancel) (hstep : Step size s a s') :
    Accounted s' := by
  obtain ⟨htracked, huncancelled, hrunning⟩ := accounted_iff.1 h
  have hrunning' : s'.phase ≠ .crashed := by
    cases hstep with
    | invalid p r rest last hp hf => exact absurd (h.pending_of_undelivered (by rw [hp]; rfl)) hf
    | drained items hp hq =>
      simp only
      split_ifs <;> nofun
    | cancel | submit | setEvent | putSentinel | drainSentinel => exact hrunning
    | _ => nofun
  exact accounted_iff.2 ⟨htracked.step hstep hrunning',
    fun f => ne_cancelled_step ha hstep (huncancelled f), hrunning'⟩

/-! ## Without a shutdown -/

/-- Steps that neither cancel a future nor shut the batcher down. -/
def Quiet (a : Actor) : Prop := a ≠ .cancel ∧ a ≠ .shutdown

/-- A batch of the size it should be. -/
def Sized (size : Int) (batch : List (Pending P)) : Prop :=
  1 ≤ batch.length ∧ (batch.length : Int) ≤ max 1 size

/-- The thread is in its loop. -/
def Phase.Looping (size : Int) : Phase P R E → Prop
  | .top | .waiting => True
  | .collecting batch => Sized size batch
  | .flushing batch last => last = false ∧ Sized size batch
  | .distributing _ last | .setting _ _ _ last => last = false
  | .draining _ | .exited | .crashed => False

/-- A batcher that was not shut down. -/
structure Looping (size : Int) (s : State P R E) : Prop where
  event : s.shutdownEvent = false
  queue : none ∉ s.queue
  phase : s.phase.Looping size
  sized : ∀ b ∈ s.batches, Sized size b.1

theorem looping_new (size : Int) : Looping size (.new : State P R E) :=
  ⟨rfl, List.not_mem_nil, trivial, fun _ h => nomatch h⟩

namespace Looping

theorem move (h : Looping size s) {phase : Phase P R E} {queue : List (Option (Pending P))}
    (hqueue : queue <:+ s.queue) (hphase : phase.Looping size) :
    Looping size { s with phase := phase, queue := queue } :=
  ⟨h.event, fun hn => h.queue (hqueue.subset hn), hphase, h.sized⟩

theorem step (h : Looping size s) (ha : a ≠ .shutdown) (hstep : Step size s a s')
    (hrunning : s'.phase ≠ .crashed) : Looping size s' := by
  have hphase := h.phase
  have hqueue := h.queue
  cases hstep with
  | cancel => exact ⟨h.event, h.queue, h.phase, h.sized⟩
  | setEvent => exact absurd rfl ha
  | putSentinel => exact absurd rfl ha
  | submit payload => exact ⟨h.event, by simpa using h.queue, h.phase, h.sized⟩
  | enter hp | idle hp hq => exact h.move List.suffix_rfl trivial
  -- Without a shutdown the event is not set, and no sentinel is in the queue.
  | leave hp he =>
    rw [h.event] at he
    cases he
  | woken q hp hq => simp [hq] at hqueue
  | stop batch q hp hsize hq => simp [hq] at hqueue
  | first p q hp hq =>
    exact h.move (hq ▸ List.suffix_cons _ q) ⟨Nat.le_refl 1, Int.le_max_left 1 size⟩
  | more batch p q hp hsize hq =>
    rw [hp] at hphase
    refine h.move (hq ▸ List.suffix_cons _ q) ⟨?_, ?_⟩
    · simp
    · rw [List.length_append, List.length_singleton]
      push_cast
      omega
  | cut batch hp =>
    rw [hp] at hphase
    exact h.move List.suffix_rfl ⟨rfl, hphase⟩
  | call batch last outcome hp =>
    rw [hp] at hphase
    refine ⟨h.event, h.queue, hphase.1, fun b hb => ?_⟩
    rcases List.mem_append.1 hb with hb | hb
    · exact h.sized b hb
    · rw [List.mem_singleton.1 hb]
      exact hphase.2
  | skip p r rest last hp | check p r rest last hp =>
    rw [hp] at hphase
    exact h.move List.suffix_rfl hphase
  | set p r rest last hp =>
    rw [hp] at hphase
    exact ⟨h.event, h.queue, hphase, h.sized⟩
  -- The thread would have crashed.
  | invalid p r rest last hp hf => exact absurd rfl hrunning
  | flushed hp => exact h.move List.suffix_rfl trivial
  | exit hp =>
    rw [hp] at hphase
    cases hphase
  | drain items p q hp | drainSentinel items q hp | drained items hp =>
    rw [hp] at hphase
    exact hphase.elim

end Looping

/-- The resolution that a request at a place of a batch is to get: the result at that
    place, or an exception. -/
def IsAnswer (batch : List (Pending P)) (outcome : Except E (List R)) (i : Nat)
    (r : Resolution R E) : Prop :=
  match outcome with
  | .error exc => r = .exception (.byBatchFn exc)
  | .ok results =>
    if results.length = batch.length then ∃ x, results[i]? = some x ∧ r = .result x
    else r = .exception (.runtimeError (mismatch results.length batch.length))

theorem isAnswer_of_resolutions {batch : List (Pending P)} {outcome : Except E (List R)} {i : Nat}
    {p : Pending P} {r : Resolution R E} (h : (resolutions batch outcome)[i]? = some (p, r)) :
    IsAnswer batch outcome i r := by
  cases outcome with
  | error exc =>
    simp only [resolutions, List.getElem?_map, Option.map_eq_some_iff] at h
    obtain ⟨_, -, heq⟩ := h
    exact (congrArg Prod.snd heq).symm
  | ok results =>
    simp only [resolutions, IsAnswer] at h ⊢
    -- A list of another length gives every request of the batch the same exception.
    by_cases hlen : results.length = batch.length
    · rw [if_neg (not_not.2 hlen), List.getElem?_map, Option.map_eq_some_iff] at h
      obtain ⟨⟨p', x⟩, hx, heq⟩ := h
      rw [if_pos hlen]
      exact ⟨x, (List.getElem?_zip_eq_some.1 hx).2, (congrArg Prod.snd heq).symm⟩
    · rw [if_pos hlen, List.getElem?_map, Option.map_eq_some_iff] at h
      obtain ⟨_, -, heq⟩ := h
      rw [if_neg hlen]
      exact (congrArg Prod.snd heq).symm

/-- Everything is delivered once, in order, so far. -/
structure ExactlyOnce (size : Int) (s : State P R E) : Prop where
  /-- The batches passed to `batch_fn`, and then what the thread holds and what is in
      the queue, are what was submitted. -/
  order : s.batches.flatMap Prod.fst ++ (s.phase.held ++ s.queue.reduceOption) = s.submitted
  sized : ∀ b ∈ s.batches, Sized size b.1
  /-- Each future is resolved once at most, and then stays so. -/
  once : (s.log.map Prod.fst).Nodup
  logged : ∀ f r, s.futures f = .finished r ↔ (f, r) ∈ s.log
  answered : ∀ b ∈ s.batches, ∀ i p r, b.1[i]? = some p → s.futures p.future = .finished r →
    IsAnswer b.1 b.2 i r

/-- The resolution of a future that is in a batch is the one it has there. -/
theorem Tracked.answered (h : Tracked s) {b : List (Pending P) × Except E (List R)}
    (hb : b ∈ s.batches) {i : Nat} {p : Pending P} {r : Resolution R E} (hp : b.1[i]? = some p)
    (hr : s.futures p.future = .finished r) : IsAnswer b.1 b.2 i r := by
  have hall : (p.future, r) ∈ s.batches.flatMap fun b => (resolutions b.1 b.2).map entry :=
    h.delivered.subset (List.mem_append_left _ ((h.finished _ _).1 hr))
  -- The resolution that the batch has for the request is logged under the same future.
  have hfst := map_fst_resolutions b.1 b.2
  rw [← hfst, List.getElem?_map, Option.map_eq_some_iff] at hp
  obtain ⟨⟨q, r'⟩, hq, rfl⟩ := hp
  have hmem : (q.future, r') ∈ s.batches.flatMap fun b => (resolutions b.1 b.2).map entry :=
    List.mem_flatMap.2 ⟨b, hb, List.mem_map_of_mem (f := entry) (List.mem_of_getElem? hq)⟩
  have heq : r = r' :=
    congrArg Prod.snd (List.inj_on_of_nodup_map h.nodup_resolutions hall hmem rfl)
  rw [heq]
  exact isAnswer_of_resolutions hq

theorem exactlyOnce_of_accounted (h : Accounted s) (hl : Looping size s) : ExactlyOnce size s where
  order := h.order
  sized := hl.sized
  once := by
    have hnodup := h.tracked.nodup
    rw [List.map_append] at hnodup
    exact (List.nodup_append.1 hnodup).1
  logged := h.finished
  answered _ hb _ _ _ hp hr := h.tracked.answered hb hp hr

/-! ## Progress -/

/-- A future has its resolution. -/
def Resolved (f : Nat) (s : State P R E) : Prop := ∃ r, s.futures f = .finished r

/-- The steps the thread takes at most before it is at its first `get` again, if a
    batch has at most `n` requests. -/
def Phase.left (n : Nat) : Phase P R E → Nat
  | .top => 1
  | .collecting batch => 4 + 2 * n + (n - batch.length)
  | .flushing batch _ => 3 + 2 * batch.length
  | .distributing rest _ => 2 + 2 * rest.length
  | .setting _ _ rest _ => 3 + 2 * rest.length
  | _ => 0

/-- The steps the thread takes at most until a future is resolved. -/
def distance (size : Int) (f : Nat) (s : State P R E) : Nat :=
  let n := (max 1 size).toNat
  (4 + 3 * n) * s.queue.reduceOption.countP (·.future ≤ f) + s.phase.left n

/-- A future has its resolution, or was cancelled. -/
def Settled (f : Nat) (s : State P R E) : Prop := Resolved f s ∨ s.futures f = .cancelled

theorem Accounted.resolved_of_settled (h : Accounted s) {f : Nat} (hf : Settled f s) :
    Resolved f s :=
  hf.resolve_right ((accounted_iff.1 h).2.1 f)

/-- A request that is not settled is still on its way. -/
theorem Tracked.mem_of_not_settled (h : Tracked s) {f : Nat} (hf : f < s.submitted.length)
    (hr : ¬Settled f s) :
    f ∈ (s.phase.held ++ s.queue.reduceOption).map Pending.future ∨
      f ∈ s.phase.undelivered.map fun e => e.1.future := by
  obtain ⟨hresolved, hcancelled⟩ := not_or.1 hr
  have hall : f ∈ s.submitted.map Pending.future := by
    rw [h.numbered]
    exact List.mem_range.2 hf
  rw [← h.order, List.map_append, List.mem_append] at hall
  refine hall.symm.imp_right fun hbatch => ?_
  have hentry : f ∈ (s.batches.flatMap fun b => (resolutions b.1 b.2).map entry).map Prod.fst := by
    rw [List.map_flatMap] at hbatch ⊢
    simpa only [map_future_resolutions] using hbatch
  obtain ⟨⟨f, r⟩, he, rfl⟩ := List.mem_map.1 hentry
  rcases List.mem_append.1 ((h.complete _ he).resolve_right hcancelled) with hlog | hrest
  · exact absurd ⟨r, (h.finished _ _).2 hlog⟩ hresolved
  · obtain ⟨e, he, heq⟩ := List.mem_map.1 hrest
    exact List.mem_map.2 ⟨e, he, congrArg Prod.fst heq⟩

/-- The requests in the queue are in the order of their numbers. -/
theorem Tracked.sorted_queue (h : Tracked s) :
    (s.queue.reduceOption.map Pending.future).Pairwise (· < ·) := by
  have hsorted : (s.submitted.map Pending.future).Pairwise (· < ·) := by
    rw [h.numbered]
    exact List.pairwise_lt_range
  rw [← h.order, List.map_append, List.map_append] at hsorted
  exact (List.pairwise_append.1 (List.pairwise_append.1 hsorted).2.1).2.1

/-- At the first `get`, a request that is not settled is in the queue. -/
theorem Tracked.le_of_waiting (h : Tracked s) {f : Nat} (hf : f < s.submitted.length)
    (hr : ¬Settled f s) (hp : s.phase = .waiting) :
    ∃ p q, s.queue.reduceOption = p :: q ∧ p.future ≤ f := by
  have hmem := h.mem_of_not_settled hf hr
  have hsorted := h.sorted_queue
  rw [hp] at hmem
  simp only [Phase.held, Phase.undelivered, List.nil_append, List.map_nil, List.not_mem_nil,
    or_false] at hmem
  -- The thread holds nothing here, so the request is in the queue, and the first one there is
  -- not after it.
  cases hq : s.queue.reduceOption with
  | nil =>
    rw [hq] at hmem
    cases hmem
  | cons p q =>
    rw [hq, List.map_cons] at hmem hsorted
    refine ⟨p, q, rfl, ?_⟩
    rcases List.mem_cons.1 hmem with rfl | hmem
    · exact Nat.le_refl _
    · exact Nat.le_of_lt ((List.pairwise_cons.1 hsorted).1 f hmem)

/-- The thread comes closer to a future that is not settled with every step. -/
theorem distance_step (h : Tracked s) (hl : Looping size s) (ha : a ≠ .shutdown)
    (hstep : Step size s a s') (hrunning : s'.phase ≠ .crashed) {f : Nat}
    (hf : f < s.submitted.length) (hr : ¬Settled f s) :
    distance size f s' + (decide (a = .thread)).toNat ≤ distance size f s := by
  have hloop := hl.phase
  have hqueue := hl.queue
  cases hstep with
  | cancel => exact Nat.le_refl _
  | setEvent => exact absurd rfl ha
  | putSentinel => exact absurd rfl ha
  | submit payload =>
    -- The request that is added is after `f`, and does not count.
    have hlater : ¬s.submitted.length ≤ f := by omega
    simp [distance, State.request, List.reduceOption_append, hlater]
  | enter hp => simp [distance, Phase.left, hp]
  | leave hp he =>
    rw [hl.event] at he
    cases he
  | idle hp hq =>
    -- A request up to `f` is in the queue: the thread is not idle.
    obtain ⟨p, q, hcons, -⟩ := h.le_of_waiting hf hr hp
    rw [hq] at hcons
    cases hcons
  | woken q hp hq => simp [hq] at hqueue
  | stop batch q hp hsize hq => simp [hq] at hqueue
  | first p q hp hq =>
    -- The request that is taken counts, which pays for all the steps of its batch.
    obtain ⟨p', q', hcons, hle⟩ := h.le_of_waiting hf hr hp
    rw [hq, List.reduceOption_cons_of_some] at hcons
    obtain ⟨rfl, -⟩ := List.cons_eq_cons.1 hcons
    simp only [distance, Phase.left, hp, hq, List.reduceOption_cons_of_some, List.countP_cons,
      hle, decide_true, if_true, List.length_singleton, Nat.mul_add, Bool.toNat_true]
    omega
  | more batch p q hp hsize hq =>
    rw [hp] at hloop
    obtain ⟨hpos, hmax⟩ := hloop
    simp only [distance, Phase.left, hp, hq, List.reduceOption_cons_of_some, List.countP_cons,
      List.length_append, List.length_singleton, Nat.mul_add, decide_true, Bool.toNat_true]
    have hlt : batch.length < (max 1 size).toNat := by omega
    omega
  | cut batch hp =>
    rw [hp] at hloop
    obtain ⟨hpos, hmax⟩ := hloop
    simp only [distance, Phase.left, hp, decide_true, Bool.toNat_true]
    have hle : batch.length ≤ (max 1 size).toNat := by omega
    omega
  | call batch last outcome hp =>
    have hlen := congrArg List.length (map_fst_resolutions batch outcome)
    rw [List.length_map] at hlen
    simp only [distance, Phase.left, hp, hlen, decide_true, Bool.toNat_true]
    omega
  | skip p r rest last hp | check p r rest last hp =>
    simp only [distance, Phase.left, hp, List.length_cons, decide_true, Bool.toNat_true]
    omega
  | set p r rest last hp =>
    simp only [distance, Phase.left, hp, decide_true, Bool.toNat_true]
    omega
  | invalid p r rest last hp hfut => exact absurd rfl hrunning
  | flushed hp =>
    simp only [distance, Phase.left, hp, List.length_nil, decide_true, Bool.toNat_true]
    omega
  | exit hp =>
    rw [hp] at hloop
    cases hloop
  | drain items p q hp | drainSentinel items q hp | drained items hp =>
    rw [hp] at hloop
    exact hloop.elim

/-- A future that is resolved stays so. -/
theorem Resolved.step {f : Nat} (hr : Resolved f s) (hstep : Step size s a s') : Resolved f s' := by
  have hne {g : Nat} {x : FutureState R E} (hg : s.futures g = .pending) :
      Resolved f { s with futures := Function.update s.futures g x } := by
    obtain ⟨r, hr⟩ := hr
    have hfg : f ≠ g := by
      rintro rfl
      rw [hg] at hr
      cases hr
    exact ⟨r, (Function.update_of_ne hfg _ _).trans hr⟩
  cases hstep with
  | cancel g hg => exact hne hg
  | set p r rest last hp hf => exact hne hf
  | _ => exact hr

/-- The thread can take a step. -/
theorem exists_thread_step (hl : Looping size s) : ∃ s', Step size s .thread s' := by
  have hphase := hl.phase
  cases hp : s.phase with
  | top => exact ⟨_, .enter s hp hl.event⟩
  | waiting =>
    cases hq : s.queue with
    | nil => exact ⟨_, .idle s hp hq⟩
    | cons item q =>
      cases item with
      | none => exact ⟨_, .woken s q hp hq⟩
      | some p => exact ⟨_, .first s p q hp hq⟩
  | collecting batch => exact ⟨_, .cut s batch hp⟩
  | flushing batch last => exact ⟨_, .call s batch last (.ok []) hp⟩
  | distributing rest last =>
    cases rest with
    | nil =>
      cases last with
      | false => exact ⟨_, .flushed s hp⟩
      | true => exact ⟨_, .exit s hp⟩
    | cons e rest =>
      by_cases hf : s.futures e.1.future = .pending
      · exact ⟨_, .check s e.1 e.2 rest last hp hf⟩
      · exact ⟨_, .skip s e.1 e.2 rest last hp hf⟩
  | setting p r rest last =>
    by_cases hf : s.futures p.future = .pending
    · exact ⟨_, .set s p r rest last hp hf⟩
    · exact ⟨_, .invalid s p r rest last hp hf⟩
  -- The thread is not in its loop.
  | draining items | exited | crashed =>
    rw [hp] at hphase
    exact hphase.elim

theorem length_submitted_le (hstep : Step size s a s') :
    s.submitted.length ≤ s'.submitted.length := by
  cases hstep with
  | submit payload => simp
  | _ => exact Nat.le_refl _

/-- A path of steps that cancel no future and do not shut the batcher down. -/
def QuietPath (size : Int) (s : State P R E) (es : List (State P R E × Actor)) (s' : State P R E) :
    Prop :=
  Path (Step size) s es s' ∧ ∀ e ∈ es, Quiet e.2

theorem accounted_looping_of_path {es : List (State P R E × Actor)}
    (h : QuietPath size s es s') (hs : Accounted s ∧ Looping size s) :
    Accounted s' ∧ Looping size s' := by
  refine h.1.inv (fun s => Accounted s ∧ Looping size s) (fun _ a => Quiet a)
    (fun s a s' hs ha hstep => ?_) h.2 hs
  have haccounted := hs.1.step ha.1 hstep
  exact ⟨haccounted, hs.2.step ha.2 hstep haccounted.running⟩

/-- As long as no future is cancelled and the batcher is not shut down, everything is
    delivered once and in order; the thread can take a step; and whatever the callers
    do meanwhile, each future is resolved once the thread has taken some number of
    steps. -/
theorem exactlyOnce {es : List (State P R E × Actor)} (h : QuietPath size .new es s) :
    ExactlyOnce size s ∧ (∃ s', Step size s .thread s') ∧
      ∀ p ∈ s.submitted, ∃ n, ∀ es' s', QuietPath size s es' s' →
        n < steps (· = .thread) es' → Resolved p.future s' := by
  obtain ⟨hs, hl⟩ := accounted_looping_of_path h ⟨accounted_new, looping_new size⟩
  refine ⟨exactlyOnce_of_accounted hs hl, exists_thread_step hl, fun p hp => ?_⟩
  have hlt : p.future < s.submitted.length := by
    rw [← List.mem_range, ← hs.numbered]
    exact List.mem_map_of_mem hp
  -- The distance to the future bounds the steps that the thread takes until it is resolved.
  refine ⟨distance size p.future s, fun es' s' hpath henough => ?_⟩
  refine hpath.1.progress
    (fun s => (Accounted s ∧ Looping size s) ∧ p.future < s.submitted.length)
    (fun _ a => Quiet a) (distance size p.future)
    (fun s a s' hs ha hstep => ?_) (fun s a s' hs ha hstep hr => hr.step hstep)
    (fun s a s' hs ha hstep hr => ?_) hpath.2 ⟨⟨hs, hl⟩, hlt⟩ henough
  · have haccounted := hs.1.1.step ha.1 hstep
    refine ⟨⟨haccounted, hs.1.2.step ha.2 hstep haccounted.running⟩, hs.2.trans_le ?_⟩
    exact length_submitted_le hstep
  · exact distance_step hs.1.1.tracked hs.1.2 ha.2 hstep (hs.1.1.step ha.1 hstep).running hs.2
      fun hsettled => hr (hs.1.1.resolved_of_settled hsettled)

/-- Two requests in a batch, of which the first has its result. -/
theorem exactlyOnce_twoRequests : ∃ (es : _) (s : State String String String),
    QuietPath 2 .new es s ∧ s.submitted.length = 2 ∧
      s.futures 0 = .finished (.result "A") ∧ s.futures 1 = .pending ∧
      ExactlyOnce 2 s ∧ (∃ s', Step 2 s .thread s') ∧
      ∀ p ∈ s.submitted, ∃ n, ∀ es' s', QuietPath 2 s es' s' →
        n < steps (· = .thread) es' → Resolved p.future s' := by
  have hnew : Path (Step 2) (.new : State String String String) [] .new := .nil
  have hpath := ((((((((hnew.snoc (.submit _ "a")).snoc (.submit _ "b")).snoc
    (.enter _ rfl rfl)).snoc (.first _ _ _ rfl rfl)).snoc
    (.more _ _ _ _ rfl (by decide) rfl)).snoc (.cut _ _ rfl)).snoc
    (.call _ _ _ (.ok ["A", "B"]) rfl)).snoc (.check _ _ _ _ _ rfl rfl)).snoc
    (.set _ _ _ _ _ rfl rfl)
  have hquiet : QuietPath 2 _ _ _ := ⟨hpath, by simp [Quiet]⟩
  exact ⟨_, _, hquiet, rfl, rfl, rfl, exactlyOnce hquiet⟩

end Batcher

end CycleTLS
