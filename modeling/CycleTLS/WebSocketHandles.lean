import CycleTLS.Lib.Transition
import Mathlib.Logic.Function.Basic

/-!
# Handles of WebSockets (`ffi.go`, `websocket.py`)

Threads share a `WebSocketConnection`: the methods for coroutines run in those of an executor. No
method takes its lock. `wsConnect` registers a connection under a new handle, and `wsClose` closes
it, forgets it, and deletes the handle, which panics if it was deleted before. If no call of
`connect` or `close` overlaps another one, whatever the threads send and receive meanwhile, no
handle is deleted twice, and each connection that was opened is closed once, but for the one that
is connected (`handles_released`).
-/

namespace CycleTLS

open Transition

namespace WSHandles

/-! ## The source -/

/-- Where a thread is. -/
inductive Point
  | idle
  /-- In `connect`, before `wsConnect`. -/
  | connecting
  /-- Before `self._handle = handle`. -/
  | connected (handle : Nat)
  /-- Before `self._connected = True`. -/
  | stored
  /-- In `close`, behind `not self._connected`. -/
  | closeChecking
  /-- Before `self._handle` is read for `wsClose`. -/
  | closeCalling
  /-- In `wsClose`. -/
  | wsClosing (handle : Nat)
  /-- Before the connection is closed. -/
  | loaded (handle : Nat)
  /-- Before `wsConnections.Delete`. -/
  | closed (handle : Nat)
  /-- Before `handle.Delete`. -/
  | deleted (handle : Nat)
  /-- Before `self._handle = None`. -/
  | clearing
  /-- Before `self._connected = False`. -/
  | cleared
  /-- In `send` or `receive`, behind `not self._connected`. -/
  | useChecking
  | useCalling
  /-- In `wsSend` or `wsReceive`. -/
  | wsUsing (handle : Nat)
  /-- Behind the look at `wsConnections`. -/
  | holding (handle : Nat)
  deriving DecidableEq

/-- The connection of Python, `wsConnections`, the handles of the process, and the threads. What
    follows is a record of the handles that were opened, and of how often each was closed. -/
structure State where
  connected : Bool
  handle : Option Nat
  conns : Nat → Bool
  valid : Nat → Bool
  handleIdx : Nat
  panicked : Bool
  threads : Nat → Point
  opened : List Nat
  closes : Nat → Nat

def State.new (handleIdx : Nat) : State :=
  ⟨false, none, fun _ => false, fun _ => false, handleIdx, false, fun _ => .idle, [], fun _ => 0⟩

/-- A thread goes on. -/
def State.goto (s : State) (t : Nat) (p : Point) : State :=
  { s with threads := Function.update s.threads t p }

/-- What is done in a step. -/
inductive Action
  | connect (t : Nat)
  | close (t : Nat)
  /-- A call of `send` or `receive`. -/
  | use (t : Nat)
  | move (t : Nat)
  deriving DecidableEq

/-- The steps of the threads, until a panic. Between two handles others are made for requests. -/
inductive Step : State → Action → State → Prop
  | connect (s : State) (t : Nat) (hrun : s.panicked = false) (h : s.threads t = .idle) :
    Step s (.connect t) (s.goto t (if s.connected then .idle else .connecting))
  | wsConnect (s : State) (t others : Nat) (hrun : s.panicked = false)
      (h : s.threads t = .connecting) :
    Step s (.move t) { s.goto t (.connected (s.handleIdx + others + 1)) with
      conns := Function.update s.conns (s.handleIdx + others + 1) true
      valid := Function.update s.valid (s.handleIdx + others + 1) true
      handleIdx := s.handleIdx + others + 1
      opened := (s.handleIdx + others + 1) :: s.opened }
  | connectFails (s : State) (t : Nat) (hrun : s.panicked = false)
      (h : s.threads t = .connecting) : Step s (.move t) (s.goto t .idle)
  | store (s : State) (t handle : Nat) (hrun : s.panicked = false)
      (h : s.threads t = .connected handle) :
    Step s (.move t) { s.goto t .stored with handle := some handle }
  | setConnected (s : State) (t : Nat) (hrun : s.panicked = false) (h : s.threads t = .stored) :
    Step s (.move t) { s.goto t .idle with connected := true }
  | close (s : State) (t : Nat) (hrun : s.panicked = false) (h : s.threads t = .idle) :
    Step s (.close t) (s.goto t (if s.connected then .closeChecking else .idle))
  | closeCheck (s : State) (t : Nat) (hrun : s.panicked = false)
      (h : s.threads t = .closeChecking) :
    Step s (.move t) (s.goto t (if s.handle = none then .idle else .closeCalling))
  | closeCall (s : State) (t : Nat) (hrun : s.panicked = false) (h : s.threads t = .closeCalling) :
    -- `None` is no handle, so the call raises
    Step s (.move t) (s.goto t ((s.handle.map Point.wsClosing).getD .idle))
  | load (s : State) (t handle : Nat) (hrun : s.panicked = false)
      (h : s.threads t = .wsClosing handle) :
    Step s (.move t) (s.goto t (if s.conns handle then .loaded handle else .clearing))
  | wsClose (s : State) (t handle : Nat) (hrun : s.panicked = false)
      (h : s.threads t = .loaded handle) :
    Step s (.move t) { s.goto t (.closed handle) with
      closes := Function.update s.closes handle (s.closes handle + 1) }
  | delete (s : State) (t handle : Nat) (hrun : s.panicked = false)
      (h : s.threads t = .closed handle) :
    Step s (.move t) { s.goto t (.deleted handle) with
      conns := Function.update s.conns handle false }
  -- to delete a handle that is not valid panics
  | deleteHandle (s : State) (t handle : Nat) (hrun : s.panicked = false)
      (h : s.threads t = .deleted handle) :
    Step s (.move t) { s.goto t .clearing with
      panicked := !s.valid handle, valid := Function.update s.valid handle false }
  | clear (s : State) (t : Nat) (hrun : s.panicked = false) (h : s.threads t = .clearing) :
    Step s (.move t) { s.goto t .cleared with handle := none }
  | setClosed (s : State) (t : Nat) (hrun : s.panicked = false) (h : s.threads t = .cleared) :
    Step s (.move t) { s.goto t .idle with connected := false }
  | use (s : State) (t : Nat) (hrun : s.panicked = false) (h : s.threads t = .idle) :
    Step s (.use t) (s.goto t (if s.connected then .useChecking else .idle))
  | useCheck (s : State) (t : Nat) (hrun : s.panicked = false) (h : s.threads t = .useChecking) :
    Step s (.move t) (s.goto t (if s.handle = none then .idle else .useCalling))
  | useCall (s : State) (t : Nat) (hrun : s.panicked = false) (h : s.threads t = .useCalling) :
    Step s (.move t) (s.goto t ((s.handle.map Point.wsUsing).getD .idle))
  | lookUp (s : State) (t handle : Nat) (hrun : s.panicked = false)
      (h : s.threads t = .wsUsing handle) :
    Step s (.move t) (s.goto t (if s.conns handle then .holding handle else .idle))
  | used (s : State) (t handle : Nat) (hrun : s.panicked = false)
      (h : s.threads t = .holding handle) : Step s (.move t) (s.goto t .idle)

/-! ## Invariants -/

/-- The thread is in a call of `connect` or `close`. -/
def Point.Changing : Point → Prop
  | idle | useChecking | useCalling | wsUsing _ | holding _ => False
  | _ => True

/-- How far a handle is. -/
inductive Stage
  | fresh
  /-- Its connection was closed. -/
  | shut
  /-- `wsConnections` has it no more. -/
  | forgotten
  | gone

/-- `wsConnections` has the handle. -/
def Stage.registered : Stage → Bool
  | fresh | shut => true
  | forgotten | gone => false

/-- The handle was not deleted. -/
def Stage.valid : Stage → Bool
  | gone => false
  | _ => true

/-- How often the connection was closed. -/
def Stage.closes : Stage → Nat
  | fresh => 0
  | _ => 1

/-- A handle is at a stage. -/
def State.At (s : State) (handle : Nat) (x : Stage) : Prop :=
  s.conns handle = x.registered ∧ s.valid handle = x.valid ∧ s.closes handle = x.closes

/-- All handles are gone. -/
def State.AllGone (s : State) : Prop := ∀ handle ∈ s.opened, s.At handle .gone

/-- A handle is at a stage, and all others are gone. -/
def State.Last (s : State) (handle : Nat) (x : Stage) : Prop :=
  handle ∈ s.opened ∧ s.At handle x ∧ ∀ other ∈ s.opened, other ≠ handle → s.At other .gone

/-- Nothing is connected, or the last handle is. -/
def State.Rest (s : State) : Prop :=
  s.connected = false ∧ s.handle = none ∧ s.AllGone ∨
    s.connected = true ∧ ∃ handle, s.handle = some handle ∧ s.Last handle .fresh

/-- What holds while a thread is somewhere in `connect` or `close`, and else. -/
def State.Phase (s : State) : Point → Prop
  | .connecting => s.connected = false ∧ s.handle = none ∧ s.AllGone
  | .connected handle => s.connected = false ∧ s.Last handle .fresh
  | .stored => s.connected = false ∧ ∃ handle, s.handle = some handle ∧ s.Last handle .fresh
  | .closeChecking | .closeCalling =>
    s.connected = true ∧ ∃ handle, s.handle = some handle ∧ s.Last handle .fresh
  | .wsClosing handle | .loaded handle => s.Last handle .fresh
  | .closed handle => s.Last handle .shut
  | .deleted handle => s.Last handle .forgotten
  | .clearing => s.AllGone
  | .cleared => s.handle = none ∧ s.AllGone
  | .idle | .useChecking | .useCalling | .wsUsing _ | .holding _ => s.Rest

/-- What the steps keep, if no two calls that change the connection overlap. -/
structure Inv (s : State) : Prop where
  running : s.panicked = false
  bounded : ∀ handle ∈ s.opened, handle ≤ s.handleIdx
  unclosed : ∀ handle ∉ s.opened, s.closes handle = 0
  single : ∀ t u, (s.threads t).Changing → (s.threads u).Changing → t = u
  phase : ∀ t, (∀ u ≠ t, ¬(s.threads u).Changing) → s.Phase (s.threads t)

/-- A call of `connect` or `close` starts when no other one is under way. -/
def Serial (s : State) (a : Action) : Prop :=
  ∀ t, a = .connect t ∨ a = .close t → ∀ u, ¬(s.threads u).Changing

variable {s s' : State} {a : Action} {es : List (State × Action)} {t : Nat} {p : Point}

theorem inv_new (handleIdx : Nat) : Inv (.new handleIdx) where
  running := rfl
  bounded _ h := absurd h List.not_mem_nil
  unclosed _ _ := rfl
  single _ _ h := h.elim
  phase _ _ := .inl ⟨rfl, rfl, fun _ h => absurd h List.not_mem_nil⟩

theorem phase_iff_rest (hp : ¬p.Changing) : s.Phase p ↔ s.Rest := by
  cases p <;> first | rfl | exact absurd trivial hp

theorem threads_goto : (s.goto t p).threads = Function.update s.threads t p := rfl

theorem phase_goto (q : Point) : (s.goto t p).Phase q ↔ s.Phase q := by
  cases q <;> rfl

/-- A step of a thread while no other one is in `connect` or `close`. -/
theorem inv_of_others (hothers : ∀ u ≠ t, ¬(s.threads u).Changing)
    (hthreads : s'.threads = Function.update s.threads t p) (hrunning : s'.panicked = false)
    (hbounded : ∀ handle ∈ s'.opened, handle ≤ s'.handleIdx)
    (hunclosed : ∀ handle ∉ s'.opened, s'.closes handle = 0) (hphase : s'.Phase p) : Inv s' := by
  have hself {u : Nat} (hu : (s'.threads u).Changing) : u = t := by
    by_contra hne
    rw [hthreads, Function.update_of_ne hne] at hu
    exact hothers u hne hu
  refine ⟨hrunning, hbounded, hunclosed, fun u v hu hv => (hself hu).trans (hself hv).symm,
    fun u hrest => ?_⟩
  by_cases hu : u = t
  · subst hu
    rwa [hthreads, Function.update_self]
  · have hp : ¬p.Changing := by
      have hquiet := hrest t (Ne.symm hu)
      rwa [hthreads, Function.update_self] at hquiet
    rw [hthreads, Function.update_of_ne hu, phase_iff_rest (hothers u hu)]
    exact (phase_iff_rest hp).1 hphase

/-- A step of a thread that is in neither of them. -/
theorem Inv.of_quiet (hs : Inv s) (hold : ¬(s.threads t).Changing) (hnew : ¬p.Changing) :
    Inv (s.goto t p) := by
  have hchanging (u : Nat) : ((s.goto t p).threads u).Changing ↔ (s.threads u).Changing := by
    by_cases hu : u = t
    · subst hu
      rw [threads_goto, Function.update_self]
      exact iff_of_false hnew hold
    · rw [threads_goto, Function.update_of_ne hu]
  refine ⟨hs.running, hs.bounded, hs.unclosed,
    fun u v hu hv => hs.single u v ((hchanging u).1 hu) ((hchanging v).1 hv), fun u hrest => ?_⟩
  have hphase := hs.phase u fun v hv hquiet => hrest v hv ((hchanging v).2 hquiet)
  rw [phase_goto]
  by_cases hu : u = t
  · subst hu
    rw [threads_goto, Function.update_self, phase_iff_rest hnew]
    exact (phase_iff_rest hold).1 hphase
  · rwa [threads_goto, Function.update_of_ne hu]

/-- The handle of `wsConnect`. -/
theorem last_opened (hgone : s.AllGone) (hs : Inv s) {handle : Nat} (hnew : s.handleIdx < handle)
    (hconns : s'.conns = Function.update s.conns handle true)
    (hvalid : s'.valid = Function.update s.valid handle true)
    (hopened : s'.opened = handle :: s.opened) (hcloses : s'.closes = s.closes) :
    s'.Last handle .fresh := by
  have hmem : handle ∉ s.opened := fun h => Nat.not_le.2 hnew (hs.bounded handle h)
  refine ⟨hopened ▸ List.mem_cons_self, ⟨?_, ?_, ?_⟩, fun other hother hne => ?_⟩
  · rw [hconns, Function.update_self]
    rfl
  · rw [hvalid, Function.update_self]
    rfl
  · rw [hcloses, hs.unclosed handle hmem]
    rfl
  · have hother : other ∈ s.opened := (List.mem_cons.1 (hopened ▸ hother)).resolve_left hne
    obtain ⟨hconns', hvalid', hcloses'⟩ := hgone other hother
    refine ⟨?_, ?_, hcloses ▸ hcloses'⟩
    · rw [hconns, Function.update_of_ne hne, hconns']
    · rw [hvalid, Function.update_of_ne hne, hvalid']

/-- The last handle gets to another stage. -/
theorem State.Last.change {handle : Nat} {x y : Stage} (h : s.Last handle x)
    (hopened : s'.opened = s.opened) (hstage : s'.At handle y)
    (hothers : ∀ other ≠ handle, s.At other .gone → s'.At other .gone) : s'.Last handle y := by
  obtain ⟨hmem, -, hgone⟩ := h
  exact ⟨hopened ▸ hmem, hstage,
    fun other hother hne => hothers other hne (hgone other (hopened ▸ hother) hne)⟩

theorem State.Last.allGone {handle : Nat} (h : s.Last handle .gone) : s.AllGone := by
  intro other hother
  by_cases hne : other = handle
  · exact hne ▸ h.2.1
  · exact h.2.2 other hother hne

/-- In `connect` and `close` a thread is alone, and what holds there is known. -/
theorem Inv.alone (hs : Inv s) (ht : s.threads t = p) (hp : p.Changing) :
    (∀ u ≠ t, ¬(s.threads u).Changing) ∧ s.Phase p := by
  have hothers : ∀ u ≠ t, ¬(s.threads u).Changing :=
    fun u hne hu => hne (hs.single u t hu (ht ▸ hp))
  exact ⟨hothers, ht ▸ hs.phase t hothers⟩

theorem inv_step (hs : Inv s) (hserial : Serial s a) (h : Step s a s') : Inv s' := by
  -- nothing but the thread changes
  have hgoto {t : Nat} {p : Point} (hothers : ∀ u ≠ t, ¬(s.threads u).Changing)
      (hphase : s.Phase p) : Inv (s.goto t p) :=
    inv_of_others hothers rfl hs.running hs.bounded hs.unclosed ((phase_goto p).2 hphase)
  cases h with
  -- nothing changes the connection now, so it is at rest
  | connect t hrun ht =>
    have hquiet := hserial t (.inl rfl)
    have hrest : s.Rest := (phase_iff_rest (hquiet t)).1 (hs.phase t fun u _ => hquiet u)
    refine hgoto (fun u _ => hquiet u) ?_
    rcases hrest with hidle | hconnected
    · rw [hidle.1]
      exact hidle
    · rw [hconnected.1]
      exact .inr hconnected
  | close t hrun ht =>
    have hquiet := hserial t (.inr rfl)
    have hrest : s.Rest := (phase_iff_rest (hquiet t)).1 (hs.phase t fun u _ => hquiet u)
    refine hgoto (fun u _ => hquiet u) ?_
    rcases hrest with hidle | hconnected
    · rw [hidle.1]
      exact .inl hidle
    · rw [hconnected.1]
      exact hconnected
  | wsConnect t others hrun ht =>
    obtain ⟨hothers, hconnected, -, hgone⟩ := hs.alone ht trivial
    have hnew : s.handleIdx < s.handleIdx + others + 1 := by omega
    refine inv_of_others hothers rfl hs.running ?_ ?_
      ⟨hconnected, last_opened hgone hs hnew rfl rfl rfl rfl⟩
    · refine List.forall_mem_cons.2 ⟨Nat.le_refl _, fun handle hhandle => ?_⟩
      exact Nat.le_trans (hs.bounded handle hhandle) (Nat.le_of_lt hnew)
    · exact fun handle hhandle => hs.unclosed handle fun h => hhandle (List.mem_cons_of_mem _ h)
  | connectFails t hrun ht =>
    obtain ⟨hothers, hphase⟩ := hs.alone ht trivial
    exact hgoto hothers (.inl hphase)
  | store t handle hrun ht =>
    obtain ⟨hothers, hconnected, hlast⟩ := hs.alone ht trivial
    exact inv_of_others hothers rfl hs.running hs.bounded hs.unclosed
      ⟨hconnected, handle, rfl, hlast⟩
  | setConnected t hrun ht =>
    obtain ⟨hothers, -, handle, hhandle, hlast⟩ := hs.alone ht trivial
    exact inv_of_others hothers rfl hs.running hs.bounded hs.unclosed
      (.inr ⟨rfl, handle, hhandle, hlast⟩)
  | closeCheck t hrun ht =>
    obtain ⟨hothers, hconnected, handle, hhandle, hlast⟩ := hs.alone ht trivial
    refine hgoto hothers ?_
    rw [hhandle]
    exact ⟨hconnected, handle, hhandle, hlast⟩
  | closeCall t hrun ht =>
    obtain ⟨hothers, hconnected, handle, hhandle, hlast⟩ := hs.alone ht trivial
    refine hgoto hothers ?_
    rw [hhandle]
    exact hlast
  | load t handle hrun ht =>
    obtain ⟨hothers, hlast⟩ := hs.alone ht trivial
    refine hgoto hothers ?_
    have hregistered : s.conns handle = true := hlast.2.1.1
    rw [hregistered]
    exact hlast
  | wsClose t handle hrun ht =>
    obtain ⟨hothers, hlast⟩ : _ ∧ s.Last handle .fresh := hs.alone ht trivial
    obtain ⟨hconns, hvalid, hcloses⟩ := hlast.2.1
    refine inv_of_others hothers rfl hs.running hs.bounded (fun other hother => ?_)
      (hlast.change rfl ⟨hconns, hvalid, ?_⟩ fun other hne hgone => ?_)
    · have hne : other ≠ handle := fun heq => hother (heq ▸ hlast.1)
      exact (Function.update_of_ne hne _ _).trans (hs.unclosed other hother)
    · exact (Function.update_self _ _ _).trans (congrArg (· + 1) hcloses)
    · exact ⟨hgone.1, hgone.2.1, (Function.update_of_ne hne _ _).trans hgone.2.2⟩
  | delete t handle hrun ht =>
    obtain ⟨hothers, hlast⟩ : _ ∧ s.Last handle .shut := hs.alone ht trivial
    obtain ⟨-, hvalid, hcloses⟩ := hlast.2.1
    refine inv_of_others hothers rfl hs.running hs.bounded hs.unclosed
      (hlast.change rfl ⟨?_, hvalid, hcloses⟩ fun other hne hgone => ?_)
    · exact Function.update_self _ _ _
    · exact ⟨(Function.update_of_ne hne _ _).trans hgone.1, hgone.2⟩
  | deleteHandle t handle hrun ht =>
    obtain ⟨hothers, hlast⟩ : _ ∧ s.Last handle .forgotten := hs.alone ht trivial
    obtain ⟨hconns, hvalid, hcloses⟩ := hlast.2.1
    -- the handle is deleted for the first time
    have hrunning : (!s.valid handle) = false := by
      rw [hvalid]
      rfl
    refine inv_of_others hothers rfl hrunning hs.bounded hs.unclosed
      (State.Last.allGone (hlast.change rfl ⟨hconns, ?_, hcloses⟩ fun other hne hgone => ?_))
    · exact Function.update_self _ _ _
    · exact ⟨hgone.1, (Function.update_of_ne hne _ _).trans hgone.2.1, hgone.2.2⟩
  | clear t hrun ht =>
    obtain ⟨hothers, hgone⟩ := hs.alone ht trivial
    exact inv_of_others hothers rfl hs.running hs.bounded hs.unclosed ⟨rfl, hgone⟩
  | setClosed t hrun ht =>
    obtain ⟨hothers, hhandle, hgone⟩ := hs.alone ht trivial
    exact inv_of_others hothers rfl hs.running hs.bounded hs.unclosed (.inl ⟨rfl, hhandle, hgone⟩)
  | use t hrun ht => exact hs.of_quiet (ht ▸ id) (by split_ifs <;> exact id)
  | useCheck t hrun ht => exact hs.of_quiet (ht ▸ id) (by split_ifs <;> exact id)
  | useCall t hrun ht => exact hs.of_quiet (ht ▸ id) (by cases s.handle <;> exact id)
  | lookUp t handle hrun ht => exact hs.of_quiet (ht ▸ id) (by split_ifs <;> exact id)
  | used t handle hrun ht => exact hs.of_quiet (ht ▸ id) id

/-! ## What becomes of the handles -/

/-- Wherever a thread is, each handle is at some stage. -/
theorem exists_stage (h : s.Phase p) {handle : Nat} (hmem : handle ∈ s.opened) :
    ∃ x, s.At handle x := by
  have hgone (hgone : s.AllGone) : ∃ x, s.At handle x := ⟨_, hgone handle hmem⟩
  have hlast {last : Nat} {x : Stage} (hlast : s.Last last x) : ∃ x, s.At handle x := by
    by_cases hne : handle = last
    · exact ⟨x, hne ▸ hlast.2.1⟩
    · exact ⟨_, hlast.2.2 handle hmem hne⟩
  have hrest : s.Rest → ∃ x, s.At handle x := by
    rintro (⟨-, -, hall⟩ | ⟨-, last, -, hfresh⟩)
    · exact hgone hall
    · exact hlast hfresh
  cases p with
  | connecting => exact hgone h.2.2
  | connected => exact hlast h.2
  | stored | closeChecking | closeCalling =>
    obtain ⟨-, last, -, hfresh⟩ := h
    exact hlast hfresh
  | wsClosing | loaded | closed | deleted => exact hlast h
  | clearing => exact hgone h
  | cleared => exact hgone h.2
  | idle | useChecking | useCalling | wsUsing | holding => exact hrest h

/-- If no two calls of `connect` or `close` overlap, no handle is deleted twice, no connection is
    closed twice, and when none of them is under way, each that was opened was closed and forgotten,
    but for the one that is connected, which was not. -/
theorem handles_released {handleIdx : Nat} (h : Path Step (.new handleIdx) es s)
    (hserial : ∀ e ∈ es, Serial e.1 e.2) :
    s.panicked = false ∧ (∀ handle, s.closes handle ≤ 1) ∧
      ((∀ t, ¬(s.threads t).Changing) → ∀ handle ∈ s.opened,
        s.At handle (if s.connected ∧ s.handle = some handle then .fresh else .gone)) := by
  have hs := h.inv Inv Serial (fun _ _ _ => inv_step) hserial (inv_new handleIdx)
  have hphase : ∃ p, s.Phase p := by
    by_cases hexists : ∃ t, (s.threads t).Changing
    · obtain ⟨t, ht⟩ := hexists
      exact ⟨_, (hs.alone rfl ht).2⟩
    · exact ⟨_, hs.phase 0 fun u _ hu => hexists ⟨u, hu⟩⟩
  obtain ⟨p, hp⟩ := hphase
  refine ⟨hs.running, fun handle => ?_, fun hquiet handle hmem => ?_⟩
  · by_cases hmem : handle ∈ s.opened
    · obtain ⟨x, -, -, hcloses⟩ := exists_stage hp hmem
      rw [hcloses]
      cases x <;> decide
    · rw [hs.unclosed handle hmem]
      exact Nat.zero_le 1
  · have hrest : s.Rest := (phase_iff_rest (hquiet 0)).1 (hs.phase 0 fun u _ => hquiet u)
    rcases hrest with ⟨hconnected, -, hgone⟩ | ⟨hconnected, last, hlast, -, hstage, hgone⟩
    · rw [if_neg fun h => Bool.false_ne_true (hconnected.symm.trans h.1)]
      exact hgone handle hmem
    · by_cases hne : handle = last
      · rw [if_pos ⟨hconnected, hne ▸ hlast⟩]
        exact hne ▸ hstage
      · rw [if_neg fun h => hne (Option.some.inj (h.2.symm.trans hlast))]
        exact hgone handle hmem hne

/-- A connection that is closed while another thread sends on it, and a second one. -/
theorem handles_released_run : ∃ es s, Path Step (.new 0) es s ∧ s.opened = [2, 1] ∧
    s.connected = true ∧ s.handle = some 2 ∧ s.closes 1 = 1 ∧ s.panicked = false ∧
    (∀ handle, s.closes handle ≤ 1) ∧
    ∀ handle ∈ s.opened,
      s.At handle (if s.connected ∧ s.handle = some handle then .fresh else .gone) := by
  have hnil : Path Step (.new 0) [] (.new 0) := .nil
  have hopened := (((hnil.snoc (.connect _ 0 rfl rfl)).snoc (.wsConnect _ 0 0 rfl rfl)).snoc
    (.store _ 0 1 rfl rfl)).snoc (.setConnected _ 0 rfl rfl)
  have hused := (((hopened.snoc (.use _ 1 rfl rfl)).snoc (.useCheck _ 1 rfl rfl)).snoc
    (.useCall _ 1 rfl rfl)).snoc (.lookUp _ 1 1 rfl rfl)
  have hclosed := ((((((((hused.snoc (.close _ 0 rfl rfl)).snoc (.closeCheck _ 0 rfl rfl)).snoc
    (.closeCall _ 0 rfl rfl)).snoc (.load _ 0 1 rfl rfl)).snoc (.wsClose _ 0 1 rfl rfl)).snoc
    (.delete _ 0 1 rfl rfl)).snoc (.deleteHandle _ 0 1 rfl rfl)).snoc
    (.clear _ 0 rfl rfl)).snoc (.setClosed _ 0 rfl rfl)
  have hpath := ((((hclosed.snoc (.used _ 1 1 rfl rfl)).snoc (.connect _ 0 rfl rfl)).snoc
    (.wsConnect _ 0 0 rfl rfl)).snoc (.store _ 0 2 rfl rfl)).snoc (.setConnected _ 0 rfl rfl)
  have hreleased := handles_released hpath (by
    simp only [forall_mem_snoc Serial]
    simp only [Serial, reduceCtorEq, or_self, false_implies, implies_true, and_true]
    -- nobody is in a call of `connect` or `close` when one starts
    refine ⟨⟨⟨fun _ he => (nomatch he), ?_⟩, ?_⟩, ?_⟩
    all_goals rintro _ - (_ | _ | u) <;> exact id)
  refine ⟨_, _, hpath, rfl, rfl, rfl, rfl, hreleased.1, hreleased.2.1,
    hreleased.2.2 fun t => ?_⟩
  rcases t with _ | _ | t
  all_goals exact id

-- two calls of `close` that overlap
example : ∃ es s, Path Step (.new 0) es s ∧ s.panicked = true := by
  have hnil : Path Step (.new 0) [] (.new 0) := .nil
  have hopened := (((hnil.snoc (.connect _ 0 rfl rfl)).snoc (.wsConnect _ 0 0 rfl rfl)).snoc
    (.store _ 0 1 rfl rfl)).snoc (.setConnected _ 0 rfl rfl)
  have hcalled := (((((hopened.snoc (.close _ 0 rfl rfl)).snoc (.close _ 1 rfl rfl)).snoc
    (.closeCheck _ 0 rfl rfl)).snoc (.closeCheck _ 1 rfl rfl)).snoc
    (.closeCall _ 0 rfl rfl)).snoc (.closeCall _ 1 rfl rfl)
  have hclosed := (((hcalled.snoc (.load _ 0 1 rfl rfl)).snoc (.load _ 1 1 rfl rfl)).snoc
    (.wsClose _ 0 1 rfl rfl)).snoc (.wsClose _ 1 1 rfl rfl)
  have hdeleted := (((hclosed.snoc (.delete _ 0 1 rfl rfl)).snoc (.delete _ 1 1 rfl rfl)).snoc
    (.deleteHandle _ 0 1 rfl rfl)).snoc (.deleteHandle _ 1 1 rfl rfl)
  exact ⟨_, _, hdeleted, rfl⟩

end WSHandles

end CycleTLS
