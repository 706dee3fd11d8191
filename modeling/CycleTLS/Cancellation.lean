import CycleTLS.Batcher

/-!
# Cancelled requests of the batcher (`_flush` in `_batcher.py`)

A caller that is cancelled cancels its future. `_flush` tests a future before it sets
it, so a future that is cancelled by then is left out. But the test and setting it are
two steps: a future that is cancelled between them raises an `InvalidStateError`, which
ends the thread of the batcher, and nobody gets a result after that (`Doomed.path`).

As long as no shutdown is requested, the requests that are not cancelled get their own
results, and the thread keeps running, exactly if no future is cancelled between its
test and its result (`isolated_iff`).
-/

namespace CycleTLS

open Transition

namespace Batcher

variable {P R E : Type}

/-- The thread has tested the future and is about to set it. -/
def InWindow (s : State P R E) (f : Nat) : Prop :=
  ∃ p r rest last, s.phase = .setting p r rest last ∧ p.future = f

/-- A step that does not cancel the future the thread is about to set. -/
def ClearStep (size : Int) (s : State P R E) (a : Actor) (s' : State P R E) : Prop :=
  Step size s a s' ∧ ∀ f, InWindow s f → s.futures f = .pending → s'.futures f ≠ .cancelled

/-- A path without a shutdown on which no future is cancelled while the thread is about
    to set it. -/
def ClearPath (size : Int) (s : State P R E) (es : List (State P R E × Actor))
    (s' : State P R E) : Prop :=
  Path (ClearStep size) s es s' ∧ ∀ e ∈ es, e.2 ≠ .shutdown

/-- Cancellations only concern those that are cancelled. -/
structure Isolated (size : Int) (s : State P R E) : Prop where
  /-- The thread goes on. -/
  running : ∃ s', Step size s .thread s' ∧ s'.phase ≠ .crashed
  /-- A result is the one at the place of the request in its batch. -/
  answered : ∀ b ∈ s.batches, ∀ i p r, b.1[i]? = some p → s.futures p.future = .finished r →
    IsAnswer b.1 b.2 i r
  /-- The requests that are not cancelled get a result. -/
  settled : ∀ p ∈ s.submitted, ∃ n, ∀ es s', ClearPath size s es s' →
    n < steps (· = .thread) es → Settled p.future s'

/-- The thread has ended with an error, or is about to. -/
def Doomed (s : State P R E) : Prop :=
  s.phase = .crashed ∨ ∃ f, InWindow s f ∧ s.futures f = .cancelled

variable {s s' : State P R E} {a : Actor} {size : Int} {es : List (State P R E × Actor)}

/-! ## After a cancellation between the test and the result -/

/-- The callers leave the thread where it is, resolve nothing, and undo no cancellation. -/
theorem step_of_ne_thread (ha : a ≠ .thread) (hstep : Step size s a s') :
    s'.phase = s.phase ∧ ∀ f, (Resolved f s' → Resolved f s) ∧
      (s.futures f = .cancelled → s'.futures f = .cancelled) := by
  cases hstep with
  | submit | setEvent | putSentinel => exact ⟨rfl, fun _ => ⟨id, id⟩⟩
  | cancel g hg =>
    refine ⟨rfl, fun f => ?_⟩
    by_cases hf : f = g
    · subst hf
      simp [Resolved]
    · simp [Resolved, hf]
  | _ => exact absurd rfl ha

theorem not_step_of_crashed (hp : s.phase = .crashed) : ¬Step size s .thread s' := by
  rintro ⟨⟩ <;> simp_all

/-- The thread sets the future it has tested, or ends. -/
theorem step_of_setting {p : Pending P} {r : Resolution R E}
    {rest : List (Pending P × Resolution R E)} {last : Bool}
    (hp : s.phase = .setting p r rest last) (hstep : Step size s .thread s') :
    s.futures p.future = .pending ∨ s' = { s with phase := .crashed } := by
  cases hstep with
  | set p' r' rest' last' hp' hf =>
    rw [hp] at hp'
    cases hp'
    exact .inl hf
  | invalid => exact .inr rfl
  | _ => simp_all

/-- A thread that is about to end resolves nothing any more. -/
theorem Doomed.step (h : Doomed s) (hstep : Step size s a s') :
    Doomed s' ∧ ∀ f, Resolved f s' → Resolved f s := by
  by_cases ha : a = .thread
  · subst ha
    rcases h with hp | ⟨f, ⟨p, r, rest, last, hp, rfl⟩, hf⟩
    · exact absurd hstep (not_step_of_crashed hp)
    · rcases step_of_setting hp hstep with hpending | rfl
      · rw [hf] at hpending
        cases hpending
      · exact ⟨.inl rfl, fun _ => id⟩
  · obtain ⟨hphase, hfutures⟩ := step_of_ne_thread ha hstep
    refine ⟨h.imp hphase.trans ?_, fun f => (hfutures f).1⟩
    rintro ⟨f, hwindow, hf⟩
    refine ⟨f, ?_, (hfutures f).2 hf⟩
    rwa [InWindow, hphase]

/-- After a future is cancelled between its test and its result, nobody gets a result. -/
theorem Doomed.path (h : Doomed s) (hpath : Path (Step size) s es s') :
    Doomed s' ∧ ∀ f, Resolved f s' → Resolved f s := by
  induction hpath with
  | nil => exact ⟨h, fun _ => id⟩
  | snoc _ hstep ih =>
    obtain ⟨hdoomed, hresolved⟩ := ih.1.step hstep
    exact ⟨hdoomed, fun f hf => ih.2 f (hresolved f hf)⟩

theorem Doomed.not_isolated (h : Doomed s) : ¬Isolated size s := by
  rintro ⟨⟨s', hstep, hrunning⟩, -, -⟩
  rcases h with hp | ⟨f, ⟨p, r, rest, last, hp, rfl⟩, hf⟩
  · exact not_step_of_crashed hp hstep
  · rcases step_of_setting hp hstep with hpending | rfl
    · rw [hf] at hpending
      cases hpending
    · exact hrunning rfl

/-- On the way to a state whose thread is not about to end with an error, no future was
    cancelled between its test and its result. -/
theorem clear_of_not_doomed (h : Path (Step size) s es s') (hs : ¬Doomed s') :
    Path (ClearStep size) s es s' := by
  induction h with
  | nil => exact .nil
  | snoc _ hstep ih =>
    refine (ih fun hdoomed => hs (hdoomed.step hstep).1).snoc
      ⟨hstep, fun f hwindow hpending hcancelled => ?_⟩
    refine hs (.inr ⟨f, ?_, hcancelled⟩)
    obtain ⟨p, r, rest, last, hp, rfl⟩ := hwindow
    -- Only the thread leaves the window, and it would have set the future.
    cases hstep with
    | cancel | submit | setEvent | putSentinel => exact ⟨p, r, rest, last, hp, rfl⟩
    | set p' r' rest' last' hp' hf =>
      rw [hp] at hp'
      cases hp'
      simp at hcancelled
    | _ => simp_all

/-! ## Without one -/

/-- A future that the thread is about to set is pending. -/
def Guarded (s : State P R E) : Prop := ∀ f, InWindow s f → s.futures f = .pending

theorem Guarded.step (h : Guarded s) (hstep : ClearStep size s a s') : Guarded s' := by
  obtain ⟨hstep, hclear⟩ := hstep
  by_cases ha : a = .thread
  · subst ha
    rintro f ⟨p, r, rest, last, hp, rfl⟩
    -- Only the test of a future leads here.
    cases hstep with
    | check p' r' rest' last' hp' hf =>
      cases hp
      exact hf
    | drained items hp' =>
      simp only at hp
      split_ifs at hp
    | drainSentinel items q hp' => simp [hp'] at hp
    | _ => cases hp
  · intro f hwindow
    have hwindow' : InWindow s f := by rwa [InWindow, ← (step_of_ne_thread ha hstep).1]
    have hpending := h f hwindow'
    have hsame := hclear f hwindow' hpending
    cases hstep with
    | cancel g hg =>
      by_cases hf : f = g
      · subst hf
        exact absurd (Function.update_self ..) hsame
      · exact (Function.update_of_ne hf _ _).trans hpending
    | submit | setEvent | putSentinel => exact hpending
    | _ => exact absurd rfl ha

/-- With the future it is about to set pending, the thread does not end with an error. -/
theorem Guarded.running (h : Guarded s) (hp : s.phase ≠ .crashed) (hstep : Step size s a s') :
    s'.phase ≠ .crashed := by
  cases hstep with
  | invalid p r rest last hp' hf => exact absurd (h _ ⟨p, r, rest, last, hp', rfl⟩) hf
  | drained items hp' =>
    simp only
    split_ifs <;> nofun
  | submit | cancel | setEvent | putSentinel | drainSentinel => exact hp
  | _ => nofun

/-- A future that is settled stays so. -/
theorem Settled.step {f : Nat} (hf : Settled f s) (hstep : Step size s a s') : Settled f s' := by
  rcases hf with hr | hcancelled
  · exact .inl (hr.step hstep)
  right
  by_cases ha : a = .thread
  · subst ha
    cases hstep with
    | set p r rest last hp hpending =>
      have hne : f ≠ p.future := by
        rintro rfl
        rw [hcancelled] at hpending
        cases hpending
      exact (Function.update_of_ne hne _ _).trans hcancelled
    | _ => exact hcancelled
  · exact ((step_of_ne_thread ha hstep).2 f).2 hcancelled

/-- What the steps of a clear path keep. -/
structure Steady (size : Int) (s : State P R E) : Prop where
  tracked : Tracked s
  looping : Looping size s
  guarded : Guarded s

theorem steady_new (size : Int) : Steady size (.new : State P R E) :=
  ⟨accounted_new.tracked, looping_new size, fun _ ⟨_, _, _, _, hp, _⟩ => nomatch hp⟩

namespace Steady

theorem ne_crashed (h : Steady size s) : s.phase ≠ .crashed := fun hp => by
  have hphase := h.looping.phase
  rwa [hp] at hphase

theorem step (h : Steady size s) (ha : a ≠ .shutdown) (hstep : ClearStep size s a s') :
    Steady size s' := by
  have hrunning := h.guarded.running h.ne_crashed hstep.1
  exact ⟨h.tracked.step hstep.1 hrunning, h.looping.step ha hstep.1 hrunning,
    h.guarded.step hstep⟩

theorem path (h : Steady size s) (hpath : ClearPath size s es s') : Steady size s' :=
  hpath.1.inv (Steady size) (fun _ a => a ≠ .shutdown) (fun _ _ _ hs ha hstep => hs.step ha hstep)
    hpath.2 h

/-- Everyone who is not cancelled gets a result of their own. -/
theorem isolated (h : Steady size s) : Isolated size s := by
  refine ⟨?_, fun b hb i p r hp hr => h.tracked.answered hb hp hr, fun p hp => ?_⟩
  · obtain ⟨s', hstep⟩ := exists_thread_step h.looping
    exact ⟨s', hstep, h.guarded.running h.ne_crashed hstep⟩
  have hlt : p.future < s.submitted.length := by
    rw [← List.mem_range, ← h.tracked.numbered]
    exact List.mem_map_of_mem hp
  -- As without cancellations, the distance to the future bounds the steps of the thread.
  refine ⟨distance size p.future s, fun es s' hpath henough => ?_⟩
  refine hpath.1.progress (fun s => Steady size s ∧ p.future < s.submitted.length)
    (fun _ a => a ≠ .shutdown) (distance size p.future) (fun s a s' hs ha hstep => ?_)
    (fun s a s' hs ha hstep hsettled => hsettled.step hstep.1)
    (fun s a s' hs ha hstep hnot => ?_) hpath.2 ⟨h, hlt⟩ henough
  · exact ⟨hs.1.step ha hstep, hs.2.trans_le (length_submitted_le hstep.1)⟩
  · exact distance_step hs.1.tracked hs.1.looping ha hstep.1
      (hs.1.guarded.running hs.1.ne_crashed hstep.1) hs.2 hnot

end Steady

/-- The requests that are not cancelled get their own results, and the thread goes on,
    exactly if no future was cancelled between its test and its result. -/
theorem isolated_iff (h : Path (Step size) .new es s) (hquiet : ∀ e ∈ es, e.2 ≠ .shutdown) :
    Isolated size s ↔ Path (ClearStep size) .new es s := by
  constructor
  · intro hisolated
    exact clear_of_not_doomed h fun hdoomed => hdoomed.not_isolated hisolated
  · intro hclear
    exact ((steady_new size).path ⟨hclear, hquiet⟩).isolated

/-- Of two requests in a batch, the first is cancelled before its future is tested. -/
theorem isolated_iff_skipped : ∃ (es : _) (s : State String String String),
    Path (Step 2) .new es s ∧ s.futures 0 = .cancelled ∧
      s.futures 1 = .finished (.result "B") ∧ Path (ClearStep 2) .new es s ∧ Isolated 2 s := by
  have hnew : Path (Step 2) (.new : State String String String) [] .new := .nil
  have hpath := ((((((((((hnew.snoc (.submit _ "a")).snoc (.submit _ "b")).snoc
    (.enter _ rfl rfl)).snoc (.first _ _ _ rfl rfl)).snoc
    (.more _ _ _ _ rfl (by decide) rfl)).snoc (.cut _ _ rfl)).snoc
    (.cancel _ 0 rfl)).snoc (.call _ _ _ (.ok ["A", "B"]) rfl)).snoc
    (.skip _ _ _ _ _ rfl nofun)).snoc (.check _ _ _ _ _ rfl rfl)).snoc (.set _ _ _ _ _ rfl rfl)
  have hclear := clear_of_not_doomed hpath (by
    rintro (hp | ⟨f, ⟨p, r, rest, last, hp, -⟩, -⟩) <;> cases hp)
  exact ⟨_, _, hpath, rfl, rfl, hclear, (isolated_iff hpath (by simp)).2 hclear⟩

/-- Of two requests in a batch, the first is cancelled after its future was tested. -/
theorem not_forall_isolated : ¬∀ (size : Int) (es : List (State String String String × Actor))
    (s : State String String String), Path (Step size) .new es s →
      (∀ e ∈ es, e.2 ≠ .shutdown) → Isolated size s := by
  intro h
  have hnew : Path (Step 2) (.new : State String String String) [] .new := .nil
  have hpath := ((((((((hnew.snoc (.submit _ "a")).snoc (.submit _ "b")).snoc
    (.enter _ rfl rfl)).snoc (.first _ _ _ rfl rfl)).snoc
    (.more _ _ _ _ rfl (by decide) rfl)).snoc (.cut _ _ rfl)).snoc
    (.call _ _ _ (.ok ["A", "B"]) rfl)).snoc (.check _ _ _ _ _ rfl rfl)).snoc (.cancel _ 0 rfl)
  refine Doomed.not_isolated ?_ (h 2 _ _ hpath (by simp))
  exact .inr ⟨0, ⟨_, _, _, _, rfl, rfl⟩, rfl⟩

end Batcher

end CycleTLS
