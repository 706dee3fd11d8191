import CycleTLS.Lib.Transition
import Mathlib.Logic.Function.Basic

/-!
# Asynchronous results (`ffi.go`)

A submitted request has a handle, an entry in one of two stores, and a goroutine that
delivers its result to a channel or to a record with a flag. A retrieval looks the
entry up, tests whether there is a result, deletes the entry and deletes the handle, in
four steps, between which others may do theirs. A handle that is deleted twice is a
panic.

Receiving from a channel takes the result out of it, so that one caller gets it. The
flag of a record stays set: two callers get the result, or one panics, once both have
passed the test (`linear_iff`).
-/

namespace CycleTLS

open Transition

namespace AsyncResults

/-- The stores. -/
inductive Store
  /-- Of channels. -/
  | asyncResults
  /-- Of records. -/
  | asyncNotifyResults
  deriving DecidableEq

/-- The functions that submit a request. -/
inductive Submission
  | submitRequestAsync
  | submitRequestAsyncWithNotify
  | submitRequestAsyncZeroCopy

/-- The functions that retrieve its result. -/
inductive Retrieval
  | checkRequestAsync
  | getAsyncResult
  | getAsyncResultZeroCopy

def Submission.store : Submission → Store
  | .submitRequestAsync => .asyncResults
  | .submitRequestAsyncWithNotify => .asyncNotifyResults
  | .submitRequestAsyncZeroCopy => .asyncNotifyResults

def Retrieval.store : Retrieval → Store
  | .checkRequestAsync => .asyncResults
  | .getAsyncResult => .asyncNotifyResults
  | .getAsyncResultZeroCopy => .asyncNotifyResults

/-- Where a retrieval is; a result is the one it will return. -/
inductive Point (R : Type)
  /-- At `Load`. -/
  | entered
  /-- At the test. -/
  | loaded
  /-- Has returned `nil`. -/
  | nothing
  /-- At `Delete` on the store. -/
  | ready (r : R)
  /-- At `Delete` on the handle. -/
  | forgotten (r : R)
  | returned (r : R)

/-- The result that a retrieval has found ready. -/
def Point.result {R : Type} : Point R → Option R
  | .ready r | .forgotten r | .returned r => some r
  | _ => none

/-- A call of one of the functions. -/
structure Call (R : Type) where
  retrieval : Retrieval
  point : Point R

/-- A number for `cgo.Handle`, with what there is of it in the stores. -/
structure Cell (R : Type) where
  /-- The store of its request, if the number has been given to one. -/
  submitted : Option Store
  /-- Whether the store has its entry. -/
  stored : Bool
  /-- Whether it is a valid `cgo.Handle`. -/
  handle : Bool
  /-- Whether the goroutine still has to deliver a result. -/
  running : Bool
  /-- What is in the channel, or in the record. -/
  result : Option R
  calls : Nat → Option (Call R)
  panicked : Bool

variable {R : Type}

def Cell.new : Cell R where
  submitted := none
  stored := false
  handle := false
  running := false
  result := none
  calls _ := none
  panicked := false

/-- What happens to a handle. -/
inductive Action
  | submit
  | deliver
  | call
  /-- A step of a call. -/
  | advance (c : Nat)

/-- With a call at another point. -/
def Cell.move (x : Cell R) (c : Nat) (retrieval : Retrieval) (point : Point R) : Cell R :=
  { x with calls := Function.update x.calls c (some ⟨retrieval, point⟩) }

/-- The steps for a handle. -/
inductive CellStep : Cell R → Action → Cell R → Prop
  | submit (x : Cell R) (f : Submission) (hx : x.submitted = none) :
      CellStep x .submit { x with
        submitted := some f.store, stored := true, handle := true, running := true }
  | deliver (x : Cell R) (r : R) (hx : x.running = true) :
      CellStep x .deliver { x with running := false, result := some r }
  | call (x : Cell R) (c : Nat) (f : Retrieval) (hc : x.calls c = none) :
      CellStep x .call (x.move c f .entered)
  | load (x : Cell R) (c : Nat) (f : Retrieval) (hc : x.calls c = some ⟨f, .entered⟩)
      (hx : x.submitted = some f.store) (hstored : x.stored = true) :
      CellStep x (.advance c) (x.move c f .loaded)
  | absent (x : Cell R) (c : Nat) (f : Retrieval) (hc : x.calls c = some ⟨f, .entered⟩)
      (hx : ¬(x.submitted = some f.store ∧ x.stored = true)) :
      CellStep x (.advance c) (x.move c f .nothing)
  | unready (x : Cell R) (c : Nat) (f : Retrieval) (hc : x.calls c = some ⟨f, .loaded⟩)
      (hx : x.result = none) :
      CellStep x (.advance c) (x.move c f .nothing)
  /-- Only the channel is empty after this. -/
  | ready (x : Cell R) (c : Nat) (f : Retrieval) (r : R) (hc : x.calls c = some ⟨f, .loaded⟩)
      (hx : x.result = some r) :
      CellStep x (.advance c)
        { x.move c f (.ready r) with
          result := if f.store = .asyncResults then none else some r }
  | forget (x : Cell R) (c : Nat) (f : Retrieval) (r : R) (hc : x.calls c = some ⟨f, .ready r⟩) :
      CellStep x (.advance c) { x.move c f (.forgotten r) with stored := false }
  | delete (x : Cell R) (c : Nat) (f : Retrieval) (r : R)
      (hc : x.calls c = some ⟨f, .forgotten r⟩) (hx : x.handle = true) :
      CellStep x (.advance c) { x.move c f (.returned r) with handle := false }
  /-- A handle that is not valid cannot be deleted. -/
  | panic (x : Cell R) (c : Nat) (f : Retrieval) (r : R)
      (hc : x.calls c = some ⟨f, .forgotten r⟩) (hx : x.handle = false) :
      CellStep x (.advance c) { x with panicked := true }

/-- All handles, and the last one that `cgo.NewHandle` returned. -/
structure State (R : Type) where
  last : Nat
  cells : Nat → Cell R

def State.new : State R := ⟨0, fun _ => .new⟩

/-- The steps of the library, until there is a panic. A new handle has a new number, and
    no number is zero. -/
inductive Step : State R → Nat × Action → State R → Prop
  | submit (s : State R) (x : Cell R) (hlive : ∀ n, (s.cells n).panicked = false)
      (hx : CellStep (s.cells (s.last + 1)) .submit x) :
      Step s (s.last + 1, .submit)
        { last := s.last + 1, cells := Function.update s.cells (s.last + 1) x }
  | move (s : State R) (n : Nat) (a : Action) (x : Cell R)
      (hlive : ∀ n, (s.cells n).panicked = false) (ha : a ≠ .submit)
      (hx : CellStep (s.cells n) a x) :
      Step s (n, a) { s with cells := Function.update s.cells n x }

/-! ## One handle -/

namespace Cell

/-- A caller has got the result. -/
def Returned (x : Cell R) (c : Nat) : Prop := ∃ f r, x.calls c = some ⟨f, .returned r⟩

/-- No call is still on its way. -/
def Quiet (x : Cell R) : Prop :=
  ∀ c f p, x.calls c = some ⟨f, p⟩ → p = .nothing ∨ ∃ r, p = .returned r

/-- The handle is deleted once, by the one caller that gets the result; without that
    caller, the result is still there to be got. -/
structure Linear (x : Cell R) : Prop where
  live : x.panicked = false
  once : ∀ c c', x.Returned c → x.Returned c' → c = c'
  deleted : x.submitted.isSome → (x.handle = false ↔ ∃ c, x.Returned c)
  kept : x.submitted.isSome → x.running = false → x.Quiet → (∀ c, ¬x.Returned c) →
    x.stored = true ∧ x.result.isSome

/-- The point of a call that has found the result ready. -/
def holder (x : Cell R) (c : Nat) : Option (Point R) :=
  (x.calls c).bind fun call => if call.point.result.isSome then some call.point else none

/-- A call that tests the flag of a record does not find a result that another call has
    found: no such call comes between its `Load` and its test. -/
def Clear (x : Cell R) : Action → Prop
  | .advance c => ∀ f r, f.store = .asyncNotifyResults → x.calls c = some ⟨f, .loaded⟩ →
      x.result = some r → ∀ c', x.holder c' = none
  | _ => True

variable {x : Cell R} {c : Nat} {f : Retrieval} {p : Point R}

@[simp] theorem calls_move :
    (x.move c f p).calls = Function.update x.calls c (some ⟨f, p⟩) := rfl

theorem holder_move :
    (x.move c f p).holder =
      Function.update x.holder c (if p.result.isSome then some p else none) := by
  funext c'
  by_cases h : c' = c
  · subst h
    simp [holder, move]
  · simp [holder, move, h]

theorem holder_eq_none (hc : x.calls c = some ⟨f, p⟩) (hp : p.result = none) :
    x.holder c = none := by
  simp [holder, hc, hp]

theorem holder_eq_some (hc : x.calls c = some ⟨f, p⟩) {r : R} (hp : p.result = some r) :
    x.holder c = some p := by
  simp [holder, hc, hp]

theorem calls_of_holder (hc : x.holder c = some p) :
    ∃ f r, x.calls c = some ⟨f, p⟩ ∧ p.result = some r := by
  obtain ⟨⟨f, q⟩, hcall, hq⟩ := Option.bind_eq_some_iff.1 hc
  obtain ⟨hresult, hqp⟩ := Option.ite_none_right_eq_some.1 hq
  cases hqp
  obtain ⟨r, hr⟩ := Option.isSome_iff_exists.1 hresult
  exact ⟨f, r, hcall, hr⟩

theorem Returned.holder (h : x.Returned c) : ∃ r, x.holder c = some (.returned r) := by
  obtain ⟨f, r, hc⟩ := h
  exact ⟨r, holder_eq_some hc rfl⟩

theorem holder_move_none (hc : x.holder c = none) (hp : p.result = none) :
    (x.move c f p).holder = x.holder := by
  rw [holder_move, hp, ← hc]
  exact Function.update_eq_self c _

theorem holder_move_some {r : R} (hp : p.result = some r) :
    (x.move c f p).holder = Function.update x.holder c (some p) := by
  rw [holder_move, hp]
  rfl

end Cell

/-- Whether the entry is still there for a call at this point. -/
def Point.stored : Point R → Bool
  | .ready _ => true
  | _ => false

/-- Whether the handle is. -/
def Point.handle : Point R → Bool
  | .ready _ | .forgotten _ => true
  | _ => false

namespace Cell

variable {x : Cell R} {c : Nat} {f : Retrieval} {p : Point R}

/-- The result is with nobody yet, or with one call. -/
inductive Stage (x : Cell R) : Prop
  | unused (hsubmitted : x.submitted = none) (hholder : x.holder = fun _ => none)
      (hstored : x.stored = false) (hrunning : x.running = false) (hresult : x.result = none)
  | kept (hsubmitted : x.submitted.isSome) (hholder : x.holder = fun _ => none)
      (hstored : x.stored = true) (hhandle : x.handle = true)
      (hresult : x.running = x.result.isNone)
  | taken (c : Nat) (p : Point R) (hsubmitted : x.submitted.isSome)
      (hholder : x.holder = Function.update (fun _ => none) c (some p))
      (hstored : x.stored = p.stored) (hhandle : x.handle = p.handle)
      (hrunning : x.running = false)
      (hresult : x.submitted = some .asyncResults → x.result = none)

/-- What clear steps keep. -/
structure Exclusive (x : Cell R) : Prop where
  live : x.panicked = false
  /-- A call has its entry from the store of the request. -/
  loaded : ∀ c f, x.calls c = some ⟨f, .loaded⟩ → x.submitted = some f.store
  stage : x.Stage

theorem exclusive_new : (.new : Cell R).Exclusive :=
  ⟨rfl, fun _ _ hc => (nomatch hc), .unused rfl rfl rfl rfl rfl⟩

theorem loaded_move (h : ∀ c f, x.calls c = some ⟨f, .loaded⟩ → x.submitted = some f.store)
    (hp : p = .loaded → x.submitted = some f.store) :
    ∀ c' f', (x.move c f p).calls c' = some ⟨f', .loaded⟩ → x.submitted = some f'.store := by
  intro c' f' hc'
  by_cases hcc : c' = c
  · subst hcc
    rw [calls_move, Function.update_self] at hc'
    cases hc'
    exact hp rfl
  · rw [calls_move, Function.update_of_ne hcc] at hc'
    exact h c' f' hc'

namespace Exclusive

/-- The call that holds the result is the only one that does. -/
theorem holder_eq (h : x.Exclusive) {q : Point R} (hc : x.holder c = some q) :
    x.submitted.isSome ∧ x.holder = Function.update (fun _ => none) c (some q) ∧
      x.stored = q.stored ∧ x.handle = q.handle ∧ x.running = false ∧
      (x.submitted = some .asyncResults → x.result = none) := by
  rcases h.stage with ⟨-, hholder, -⟩ | ⟨-, hholder, -⟩ |
    ⟨c', p, hsubmitted, hholder, hstored, hhandle, hrunning, hresult⟩
  · rw [hholder] at hc
    cases hc
  · rw [hholder] at hc
    cases hc
  · have hcc : c = c' := by
      by_contra hne
      rw [hholder, Function.update_of_ne hne] at hc
      cases hc
    subst hcc
    rw [hholder, Function.update_self] at hc
    cases hc
    exact ⟨hsubmitted, hholder, hstored, hhandle, hrunning, hresult⟩

/-- A call that has not found a result, and does not find one. -/
theorem move (h : x.Exclusive) (hc : x.holder c = none) (hp : p.result = none)
    (hloaded : p = .loaded → x.submitted = some f.store) : (x.move c f p).Exclusive := by
  refine ⟨h.live, loaded_move h.loaded hloaded, ?_⟩
  have hholder : (x.move c f p).holder = x.holder := holder_move_none hc hp
  rcases h.stage with ⟨h₁, h₂, h₃, h₄, h₅⟩ | ⟨h₁, h₂, h₃, h₄, h₅⟩ |
    ⟨c', p', h₁, h₂, h₃, h₄, h₅, h₆⟩
  · exact .unused h₁ (hholder.trans h₂) h₃ h₄ h₅
  · exact .kept h₁ (hholder.trans h₂) h₃ h₄ h₅
  · exact .taken c' p' h₁ (hholder.trans h₂) h₃ h₄ h₅ h₆

/-- The call that holds the result, at its next point. -/
theorem advance (h : x.Exclusive) {q : Point R} {r : R} (hc : x.holder c = some q)
    (hp : p.result = some r) {stored handle : Bool} (hstored : stored = p.stored)
    (hhandle : handle = p.handle) :
    Exclusive { x.move c f p with stored := stored, handle := handle } := by
  obtain ⟨hsubmitted, hholder, -, -, hrunning, hresult⟩ := h.holder_eq hc
  refine ⟨h.live, loaded_move h.loaded fun hl => ?_, .taken c p hsubmitted ?_ hstored hhandle
    hrunning hresult⟩
  · rw [hl] at hp
    cases hp
  · refine Eq.trans (holder_move_some (x := x) (f := f) hp) ?_
    rw [hholder, Function.update_idem]

/-- A clear test, that takes the result. -/
theorem ready (h : x.Exclusive) {r : R} (hc : x.calls c = some ⟨f, .loaded⟩)
    (hx : x.result = some r) (hclear : x.Clear (.advance c)) :
    Exclusive { x.move c f (.ready r) with
      result := if f.store = .asyncResults then none else some r } := by
  have hstore : x.submitted = some f.store := h.loaded c f hc
  -- Nobody holds the result: the channel would be empty, or this test not be clear.
  have hnobody : ∀ c', x.holder c' = none := by
    intro c'
    by_contra hne
    obtain ⟨q, hq⟩ := Option.ne_none_iff_exists'.1 hne
    obtain ⟨-, -, -, -, -, hresult⟩ := h.holder_eq hq
    cases hs : f.store with
    | asyncResults =>
      rw [hresult (hstore.trans (congrArg some hs))] at hx
      cases hx
    | asyncNotifyResults => exact hne (hclear f r hs hc hx c')
  have hholder : x.holder = fun _ => none := funext hnobody
  refine ⟨h.live, loaded_move h.loaded nofun, ?_⟩
  rcases h.stage with ⟨hsubmitted, -⟩ | ⟨hsubmitted, -, hstored, hhandle, hresult⟩ |
    ⟨c', q, -, hq, -⟩
  · rw [hsubmitted] at hstore
    cases hstore
  · refine .taken c (.ready r) hsubmitted ?_ hstored hhandle ?_ fun hs => ?_
    · rw [← hholder]
      exact holder_move_some rfl
    · rw [hx] at hresult
      exact hresult
    · exact if_pos (Option.some.inj (hstore.symm.trans hs))
  · have hc' := hnobody c'
    rw [hq, Function.update_self] at hc'
    cases hc'

/-- Clear steps keep it. -/
theorem step (h : x.Exclusive) {a : Action} {x' : Cell R} (hclear : x.Clear a)
    (hstep : CellStep x a x') : x'.Exclusive := by
  cases hstep with
  | submit f hx =>
    rcases h.stage with ⟨-, hholder, -, -, hresult⟩ | ⟨hsubmitted, -⟩ | ⟨_, _, hsubmitted, -⟩
    · refine ⟨h.live, fun c g hc => ?_, .kept rfl hholder rfl rfl ?_⟩
      · have hnone : some g.store = none := (h.loaded c g hc).symm.trans hx
        cases hnone
      · rw [hresult]
        rfl
    all_goals
      rw [hx] at hsubmitted
      cases hsubmitted
  | deliver r hx =>
    refine ⟨h.live, h.loaded, ?_⟩
    rcases h.stage with ⟨-, -, -, hrunning, -⟩ | ⟨h₁, h₂, h₃, h₄, -⟩ |
      ⟨_, _, -, -, -, -, hrunning, -⟩
    · rw [hx] at hrunning
      cases hrunning
    · exact .kept h₁ h₂ h₃ h₄ rfl
    · rw [hx] at hrunning
      cases hrunning
  | call c f hc => exact h.move (by rw [holder, hc]; rfl) rfl nofun
  | load c f hc hx => exact h.move (holder_eq_none hc rfl) rfl fun _ => hx
  | absent c f hc => exact h.move (holder_eq_none hc rfl) rfl nofun
  | unready c f hc => exact h.move (holder_eq_none hc rfl) rfl nofun
  | ready c f r hc hx => exact h.ready hc hx hclear
  | forget c f r hc =>
    have hholder := holder_eq_some hc rfl
    exact h.advance hholder rfl rfl (h.holder_eq hholder).2.2.2.1
  | delete c f r hc hx =>
    have hholder := holder_eq_some hc rfl
    exact h.advance hholder rfl (h.holder_eq hholder).2.2.1 rfl
  | panic c f r hc hx =>
    have hhandle := (h.holder_eq (holder_eq_some hc rfl)).2.2.2.1
    rw [hx] at hhandle
    cases hhandle

theorem isLinear (h : x.Exclusive) : x.Linear where
  live := h.live
  once c c' hc hc' := by
    obtain ⟨r, hr⟩ := hc.holder
    obtain ⟨r', hr'⟩ := hc'.holder
    rw [(h.holder_eq hr).2.1] at hr'
    by_contra hne
    rw [Function.update_of_ne (Ne.symm hne)] at hr'
    cases hr'
  deleted hsubmitted := by
    constructor
    · intro hhandle
      rcases h.stage with ⟨hnot, -⟩ | ⟨-, -, -, hlive, -⟩ | ⟨c, p, -, hholder, -, hp, -⟩
      · rw [hnot] at hsubmitted
        cases hsubmitted
      · rw [hhandle] at hlive
        cases hlive
      · have hc : x.holder c = some p := by rw [hholder, Function.update_self]
        obtain ⟨f, r, hcall, hr⟩ := calls_of_holder hc
        rw [hhandle] at hp
        cases p with
        | returned r => exact ⟨c, f, r, hcall⟩
        | ready | forgotten => cases hp
        | entered | loaded | nothing => cases hr
    · rintro ⟨c, hc⟩
      obtain ⟨r, hr⟩ := hc.holder
      exact (h.holder_eq hr).2.2.2.1
  kept hsubmitted hrunning hquiet hnobody := by
    rcases h.stage with ⟨hnot, -⟩ | ⟨-, -, hstored, -, hresult⟩ | ⟨c, p, -, hholder, -⟩
    · rw [hnot] at hsubmitted
      cases hsubmitted
    · refine ⟨hstored, ?_⟩
      rw [hrunning, eq_comm, Option.isNone_eq_false_iff] at hresult
      exact hresult
    · have hc : x.holder c = some p := by rw [hholder, Function.update_self]
      obtain ⟨f, r, hcall, hr⟩ := calls_of_holder hc
      rcases hquiet c f p hcall with rfl | ⟨r', rfl⟩
      · cases hr
      · exact absurd ⟨f, r', hcall⟩ (hnobody c)

end Exclusive

/-- Two calls have found the result ready. -/
def Contested (x : Cell R) : Prop :=
  ∃ c c', c ≠ c' ∧ (x.holder c).isSome ∧ (x.holder c').isSome

/-- A call that has found a result keeps it. -/
theorem isSome_holder_step {a : Action} {x' : Cell R} (hstep : CellStep x a x')
    (hc : (x.holder c).isSome) : (x'.holder c).isSome := by
  -- A call moves with a result, or had none.
  have hmove {c' : Nat} {g : Retrieval} {q : Point R}
      (hq : q.result.isSome ∨ x.holder c' = none) : ((x.move c' g q).holder c).isSome := by
    rw [holder_move]
    by_cases hcc : c = c'
    · subst hcc
      rcases hq with hq | hq
      · rw [Function.update_self, if_pos hq]
        rfl
      · rw [hq] at hc
        cases hc
    · rwa [Function.update_of_ne hcc]
  cases hstep with
  | submit | deliver | panic => exact hc
  | call c' f hnone => exact hmove (.inr (by rw [holder, hnone]; rfl))
  | load c' f hc' | absent c' f hc' | unready c' f hc' =>
    exact hmove (.inr (holder_eq_none hc' rfl))
  | ready | forget | delete => exact hmove (.inl rfl)

theorem Contested.step (h : x.Contested) {a : Action} {x' : Cell R} (hstep : CellStep x a x') :
    x'.Contested := by
  obtain ⟨c, c', hne, hc, hc'⟩ := h
  exact ⟨c, c', hne, isSome_holder_step hstep hc, isSome_holder_step hstep hc'⟩

/-- A test that is not clear. -/
theorem contested_of_not_clear {a : Action} {x' : Cell R} (hstep : CellStep x a x')
    (hnot : ¬x.Clear a) : x'.Contested := by
  cases a with
  | submit | deliver | call => exact absurd trivial hnot
  | advance c =>
    simp only [Clear, not_forall] at hnot
    obtain ⟨f, r, -, hc, hx, c', hc'⟩ := hnot
    have hne : c' ≠ c := by
      rintro rfl
      exact hc' (holder_eq_none hc rfl)
    refine ⟨c', c, hne, isSome_holder_step hstep (Option.isSome_iff_ne_none.2 hc'), ?_⟩
    -- The call is at its test, and there is a result.
    cases hstep with
    | unready _ _ _ hnone =>
      rw [hx] at hnone
      cases hnone
    | ready _ g q =>
      exact Option.isSome_iff_exists.2 ⟨.ready q, holder_eq_some (Function.update_self _ _ _) rfl⟩
    | load _ _ hc' | absent _ _ hc' | forget _ _ _ hc' | delete _ _ _ hc' | panic _ _ _ hc' =>
      rw [hc] at hc'
      cases hc'

/-- A panic, or no call is still on its way. -/
def Ended (x : Cell R) : Prop := x.panicked = true ∨ x.Quiet

theorem Contested.not_linear (h : x.Contested) (hend : x.Ended) : ¬x.Linear := by
  intro hlinear
  obtain ⟨c, c', hne, hc, hc'⟩ := h
  rcases hend with hpanic | hquiet
  · rw [hlinear.live] at hpanic
    cases hpanic
  -- Both have returned it.
  have hreturned {c : Nat} (hc : (x.holder c).isSome) : x.Returned c := by
    obtain ⟨p, hp⟩ := Option.isSome_iff_exists.1 hc
    obtain ⟨f, r, hcall, hr⟩ := calls_of_holder hp
    rcases hquiet c f p hcall with rfl | ⟨r', rfl⟩
    · cases hr
    · exact ⟨f, r', hcall⟩
  exact hne (hlinear.once c c' (hreturned hc) (hreturned hc'))

end Cell

/-! ## All handles -/

/-- Whether a step for a handle is clear. -/
def Clear (n : Nat) (s : State R) (a : Nat × Action) : Prop :=
  a.1 = n → (s.cells n).Clear a.2

variable {s s' : State R} {a : Nat × Action} {es : List (State R × (Nat × Action))} {n : Nat}

theorem Step.cell (h : Step s a s') (ha : a.1 = n) : CellStep (s.cells n) a.2 (s'.cells n) := by
  subst ha
  cases h with
  | submit x _ hx => simpa using hx
  | move m b x _ _ hx => simpa using hx

theorem Step.frame (h : Step s a s') (ha : a.1 ≠ n) : s'.cells n = s.cells n := by
  cases h with
  | submit x => exact Function.update_of_ne (Ne.symm ha) _ _
  | move m b x => exact Function.update_of_ne (Ne.symm ha) _ _

theorem exclusive_of_clear (h : Path Step .new es s) (hclear : ∀ e ∈ es, Clear n e.1 e.2) :
    (s.cells n).Exclusive := by
  refine h.inv (fun s => (s.cells n).Exclusive) (Clear n) (fun s a s' hs hc hstep => ?_) hclear
    Cell.exclusive_new
  by_cases ha : a.1 = n
  · exact hs.step (hc ha) (hstep.cell ha)
  · rw [hstep.frame ha]
    exact hs

/-- However many calls there are for a handle, and however their steps, those of the
    request and those for other handles follow each other: if no call that reads a flag
    is between its `Load` and its test when another one finds the result, or has found
    it, then the result goes to one caller and the handle is deleted once; and only then,
    as is seen when all calls have ended. -/
theorem linear_iff (h : Path Step .new es s) (n : Nat) :
    ((∀ e ∈ es, Clear n e.1 e.2) → (s.cells n).Linear) ∧
      ((s.cells n).Ended → (s.cells n).Linear → ∀ e ∈ es, Clear n e.1 e.2) := by
  constructor
  · exact fun hclear => (exclusive_of_clear h hclear).isLinear
  · intro hend hlinear
    by_contra hnot
    -- Since the test that was not clear, two calls hold the result.
    have hcontested : (s.cells n).Contested := by
      clear hend hlinear
      induction h with
      | nil => exact absurd (fun e he => nomatch he) hnot
      | @snoc es t t' a hpath hstep ih =>
        rw [forall_mem_snoc, not_and_or] at hnot
        by_cases ha : a.1 = n
        · rcases hnot with hes | hnow
          · exact (ih hes).step (hstep.cell ha)
          · exact Cell.contested_of_not_clear (hstep.cell ha) fun hc => hnow fun _ => hc
        · rw [hstep.frame ha]
          exact ih (hnot.resolve_right (not_not.2 fun h => absurd h ha))
    exact hcontested.not_linear hend hlinear

theorem submitted_step {x x' : Cell R} {a : Action} {store : Store} (hstep : CellStep x a x')
    (hx : x.submitted = some store) : x'.submitted = some store := by
  cases hstep with
  | submit f hnone =>
    rw [hnone] at hx
    cases hx
  | _ => exact hx

/-- For `checkRequestAsync` there is no condition: only one call receives from the
    channel. -/
theorem linear_of_channel (h : Path Step .new es s)
    (hn : (s.cells n).submitted ≠ some .asyncNotifyResults) : (s.cells n).Linear := by
  suffices hclear : ∀ e ∈ es, Clear n e.1 e.2 from (exclusive_of_clear h hclear).isLinear
  induction h with
  | nil => exact fun e he => nomatch he
  | @snoc es t t' a hpath hstep ih =>
    have ht : (t.cells n).submitted ≠ some .asyncNotifyResults := by
      intro ht
      by_cases ha : a.1 = n
      · exact hn (submitted_step (hstep.cell ha) ht)
      · exact hn (hstep.frame ha ▸ ht)
    refine (forall_mem_snoc (Clear n)).2 ⟨ih ht, fun _ => ?_⟩
    have hloaded := (exclusive_of_clear hpath (ih ht)).loaded
    cases a.2 with
    | advance c => exact fun f r hf hc => absurd (hf ▸ hloaded c f hc) ht
    | submit | deliver | call => trivial

/-- A request with a record. -/
def Cell.submittedWithNotify : Cell R :=
  { Cell.new with submitted := some .asyncNotifyResults, stored := true, handle := true,
                  running := true }

/-- The state in which there is one handle. -/
def State.single (x : Cell R) : State R := ⟨1, Function.update (fun _ => .new) 1 x⟩

theorem path_single : Path Step (.new : State R) [(.new, (1, .submit))]
    (.single .submittedWithNotify) :=
  .snoc .nil (.submit .new _ (fun _ => rfl) (.submit _ .submitRequestAsyncWithNotify rfl))

/-- What is done with one handle. -/
theorem exists_path_single {xs : List (Cell R × Action)} {x : Cell R}
    (h : Path CellStep .submittedWithNotify xs x)
    (hlive : ∀ e ∈ xs, e.1.panicked = false ∧ e.2 ≠ .submit) :
    ∃ es, Path Step .new es (.single x) ∧
      ((∀ e ∈ xs, e.1.Clear e.2) → ∀ e ∈ es, Clear 1 e.1 e.2) := by
  induction h with
  | nil =>
    refine ⟨_, path_single, fun _ e he => ?_⟩
    rw [List.mem_singleton.1 he]
    exact fun _ => trivial
  | @snoc es y x a hpath hstep ih =>
    obtain ⟨hes, hy, ha⟩ :=
      (forall_mem_snoc fun (x : Cell R) (a : Action) => x.panicked = false ∧ a ≠ .submit).1 hlive
    obtain ⟨es', hes', hclear⟩ := ih hes
    have hmove := Step.move (.single y) 1 a x (fun n => ?_) ha (by simpa [State.single] using hstep)
    · rw [State.single, Function.update_idem] at hmove
      refine ⟨_, hes'.snoc hmove, fun hxs => ?_⟩
      obtain ⟨hes, hlast⟩ := (forall_mem_snoc Cell.Clear).1 hxs
      refine (forall_mem_snoc (Clear 1)).2 ⟨hclear hes, fun _ => ?_⟩
      simpa [State.single] using hlast
    · by_cases hn : n = 1
      · subst hn
        simpa [State.single] using hy
      · simp [State.single, hn, Cell.new]

/-- Of two callers, the second looks the record up when the first one has deleted it. -/
theorem linear_iff_submitted : ∃ es x, Path Step (.new : State String) es (.single x) ∧
    x.calls 0 = some ⟨.getAsyncResult, .returned "ok"⟩ ∧
    x.calls 1 = some ⟨.getAsyncResult, .nothing⟩ ∧ ((State.single x).cells 1).Linear := by
  have hnew : Path CellStep (.submittedWithNotify : Cell String) [] .submittedWithNotify := .nil
  have hpath := (((((((hnew.snoc (.call _ 0 .getAsyncResult rfl)).snoc
    (.call _ 1 .getAsyncResult rfl)).snoc (.deliver _ "ok" rfl)).snoc
    (.load _ 0 _ rfl rfl rfl)).snoc (.ready _ 0 _ _ rfl rfl)).snoc
    (.forget _ 0 _ _ rfl)).snoc (.delete _ 0 _ _ rfl rfl)).snoc
    (.absent _ 1 _ rfl (by simp [Cell.move]))
  obtain ⟨es, hes, hclear⟩ := exists_path_single hpath
    (by simp [Cell.move, Cell.submittedWithNotify, Cell.new])
  refine ⟨es, _, hes, rfl, rfl, (linear_iff hes 1).1 (hclear fun e he => ?_)⟩
  simp only [List.mem_append, List.mem_singleton, List.not_mem_nil, false_or] at he
  rcases he with ((((((rfl | rfl) | rfl) | rfl) | rfl) | rfl) | rfl) | rfl
  · trivial
  · trivial
  · trivial
  · exact fun f r _ hc => nomatch hc
  · -- the first caller tests the flag, and nobody has found the result
    intro f r _ _ _ c
    rcases c with _ | _ | c <;> rfl
  · exact fun f r _ hc => nomatch hc
  · exact fun f r _ hc => nomatch hc
  · exact fun f r _ hc => nomatch hc

/-- Two callers that both look the record up before one of them deletes it. -/
theorem not_forall_linear : ¬∀ (es : List (State String × (Nat × Action))) (s : State String)
    (n : Nat), Path Step .new es s → (s.cells n).Linear := by
  intro h
  have hnew : Path CellStep (.submittedWithNotify : Cell String) [] .submittedWithNotify := .nil
  have hpath := (((((((((((hnew.snoc (.call _ 0 .getAsyncResult rfl)).snoc
    (.call _ 1 .getAsyncResult rfl)).snoc (.deliver _ "ok" rfl)).snoc
    (.load _ 0 _ rfl rfl rfl)).snoc (.load _ 1 _ rfl rfl rfl)).snoc
    (.ready _ 0 _ _ rfl rfl)).snoc (.ready _ 1 _ _ rfl rfl)).snoc
    (.forget _ 0 _ _ rfl)).snoc (.delete _ 0 _ _ rfl rfl)).snoc
    (.forget _ 1 _ _ rfl)).snoc (.panic _ 1 _ _ rfl rfl))
  obtain ⟨es, hes, -⟩ := exists_path_single hpath
    (by simp [Cell.move, Cell.submittedWithNotify, Cell.new])
  have hlive := (h es _ 1 hes).live
  simp [State.single] at hlive

end AsyncResults

end CycleTLS
