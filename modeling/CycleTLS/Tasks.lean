import CycleTLS.Retrieval

/-!
# Asynchronous requests (`_ffi.py`)

The coroutines `send_request_async` and `send_request_async_callback`, the goroutines of
their requests, and the descriptors of the process. A coroutine of the first kind polls
for its result; one of the second kind opens a pipe, waits for a byte in it, and closes
both of its ends when it is left, in whatever way. The goroutine knows the write end by
its number only, and a number that has been closed may be given to anyone.

So a byte may go to the pipe or the file of someone else, but only if a write end is
closed while the goroutine has still to write, and its number is given away in that time
(`notifies_own_iff`).
-/

namespace CycleTLS

open Transition

namespace AsyncTasks

open AsyncResults

/-- How a request is sent; `send_request_async` has two ways. -/
inductive Mode
  | base64
  | zerocopy
  | callback
  deriving DecidableEq

def Mode.submission : Mode → Submission
  | .base64 => .submitRequestAsync
  | .zerocopy => .submitRequestAsyncZeroCopy
  | .callback => .submitRequestAsyncWithNotify

def Mode.retrieval : Mode → Retrieval
  | .base64 => .checkRequestAsync
  | .zerocopy => .getAsyncResultZeroCopy
  | .callback => .getAsyncResult

/-- What the goroutine of a request has still to do. -/
inductive Worker
  | running
  /-- At `C.write`. -/
  | notifying
  | finished
  deriving DecidableEq

/-- A request that Go has accepted. Nobody else has its handle, so that it is kept with
    the coroutine. -/
structure Request (R : Type) where
  store : Store
  stored : Bool
  result : Option R
  worker : Worker

/-- How a coroutine ends: with a result of Go, which may still be one that cannot be
    decoded, or without one. -/
inductive Outcome (R : Type)
  | result (r : R)
  | raised
  | timedOut
  | cancelled

/-- Where a coroutine is. -/
inductive Point (R : Type)
  /-- Before the payload is submitted. -/
  | submitting
  /-- At `_check_fn`. -/
  | polling
  | sleeping
  /-- At `wait_for`. -/
  | waiting
  /-- At `getAsyncResult`. -/
  | notified
  /-- In the `finally`, at each of its calls of `os.close`. -/
  | closingRead (o : Outcome R)
  | closingWrite (o : Outcome R)
  | ended (o : Outcome R)

/-- A coroutine; the descriptors are those of its pipe. -/
structure Task (R : Type) where
  mode : Mode
  readFd : Nat
  writeFd : Nat
  point : Point R
  request : Option (Request R)

/-- What a descriptor is open for. -/
inductive File
  | readEnd (k : Nat)
  | writeEnd (k : Nat)
  /-- Neither end of a pipe of a coroutine. -/
  | other
  deriving DecidableEq

/-- The coroutines, the open descriptors, and the bytes in the pipe of each coroutine. -/
structure State (R : Type) where
  tasks : Nat → Option (Task R)
  fds : Nat → Option File
  bytes : Nat → Nat

/-- What happens, as far as it matters to others. -/
inductive Action
  | openPipe (k r w : Nat)
  | openFile (n : Nat)
  /-- The goroutine writes its byte. -/
  | notify (k : Nat)
  /-- The coroutine stops waiting for its result. -/
  | leave (k : Nat)
  | step

variable {R : Type}

def State.new : State R := ⟨fun _ => none, fun _ => none, fun _ => 0⟩

/-- What `submitRequestAsync` and its two siblings store. -/
def Request.new (store : Store) : Request R := ⟨store, true, none, .running⟩

/-- The functions that retrieve a result, called by the only one who has the handle. -/
def Request.retrieve (q : Request R) (f : Retrieval) : Request R × Option R :=
  if q.store = f.store ∧ q.stored = true then
    match q.result with
    | none => (q, none)
    | some r =>
      ({ q with stored := false, result := if f.store = .asyncResults then none else some r },
        some r)
  else (q, none)

/-- The handle of a request between two calls for it. -/
def Request.cell (q : Request R) (calls : Nat → Option (AsyncResults.Call R)) : Cell R where
  submitted := some q.store
  stored := q.stored
  handle := q.stored
  running := decide (q.worker = .running)
  result := q.result
  calls := calls
  panicked := false

/-- The steps of one call for the handle, if nobody takes another one in between. -/
theorem Request.path_retrieve (q : Request R) (f : Retrieval)
    {calls : Nat → Option (AsyncResults.Call R)} {c : Nat} (hc : calls c = none) :
    ∃ xs calls', Path CellStep (q.cell calls) xs ((q.retrieve f).1.cell calls') ∧
      calls' c = some ⟨f, (q.retrieve f).2.elim .nothing .returned⟩ := by
  have hnil : Path CellStep (q.cell calls) [] (q.cell calls) := .nil
  have hcall := hnil.snoc (.call _ c f hc)
  by_cases hstored : q.store = f.store ∧ q.stored = true
  · have hload := hcall.snoc
      (.load _ c f (Function.update_self _ _ _) (congrArg some hstored.1) hstored.2)
    cases hr : q.result with
    | none =>
      have hunready := hload.snoc (.unready _ c f (Function.update_self _ _ _) hr)
      rw [retrieve, if_pos hstored, hr]
      exact ⟨_, _, hunready, Function.update_self _ _ _⟩
    | some r =>
      have hready := hload.snoc (.ready _ c f r (Function.update_self _ _ _) hr)
      have hforget := hready.snoc (.forget _ c f r (Function.update_self _ _ _))
      have hdelete := hforget.snoc (.delete _ c f r (Function.update_self _ _ _) hstored.2)
      rw [retrieve, if_pos hstored, hr]
      exact ⟨_, _, hdelete, Function.update_self _ _ _⟩
  · have habsent := hcall.snoc (.absent _ c f (Function.update_self _ _ _) fun h =>
      hstored ⟨Option.some.inj h.1, h.2⟩)
    rw [retrieve, if_neg hstored]
    exact ⟨_, _, habsent, Function.update_self _ _ _⟩

/-- The goroutine after its result is there: only some have a pipe to write to. -/
def Mode.delivered : Mode → Worker
  | .callback => .notifying
  | _ => .finished

namespace Task

/-- Where a coroutine waits first. -/
def wait (t : Task R) : Point R := if t.mode = .callback then .waiting else .polling

/-- Where it goes in order to end; only one with a pipe has a `finally`. -/
def leave (t : Task R) (o : Outcome R) : Point R :=
  if t.mode = .callback then .closingRead o else .ended o

/-- After a handle of zero; `submit_request_async_zerocopy` does not test for it. -/
def rejected (t : Task R) : Point R :=
  if t.mode = .zerocopy then .polling else t.leave .raised

/-- The result that there is for the coroutine, and its request after that. -/
def retrieve (t : Task R) : Option (Request R) × Option R :=
  match t.request with
  | none => (none, none)
  | some q => (some (q.retrieve t.mode.retrieval).1, (q.retrieve t.mode.retrieval).2)

end Task

namespace State

def setTask (s : State R) (k : Nat) (t : Task R) : State R :=
  { s with tasks := Function.update s.tasks k (some t) }

def setFd (s : State R) (n : Nat) (f : Option File) : State R :=
  { s with fds := Function.update s.fds n f }

/-- What a byte does that is written to a descriptor. -/
def write (s : State R) (n : Nat) : State R :=
  match s.fds n with
  | some (.writeEnd j) => { s with bytes := Function.update s.bytes j (s.bytes j + 1) }
  | _ => s

end State

/-- The steps. A number is given to anyone as long as it is free. Bytes that a thread takes
    out for a coroutine which has stopped waiting are left in the pipe here; nobody is
    woken by them. -/
inductive Step : State R → Action → State R → Prop
  | start (s : State R) (k : Nat) (mode : Mode) (hk : s.tasks k = none) (hm : mode ≠ .callback) :
      Step s .step (s.setTask k ⟨mode, 0, 0, .submitting, none⟩)
  | openPipe (s : State R) (k r w : Nat) (hk : s.tasks k = none) (hr : s.fds r = none)
      (hw : s.fds w = none) (hne : r ≠ w) :
      Step s (.openPipe k r w)
        (((s.setFd r (some (.readEnd k))).setFd w (some (.writeEnd k))).setTask k
          ⟨.callback, r, w, .submitting, none⟩)
  /-- The payload cannot be packed. -/
  | unpackable (s : State R) (k : Nat) (t : Task R) (hk : s.tasks k = some t)
      (hp : t.point = .submitting) :
      Step s .step (s.setTask k { t with point := t.leave .raised })
  | accept (s : State R) (k : Nat) (t : Task R) (hk : s.tasks k = some t)
      (hp : t.point = .submitting) :
      Step s .step (s.setTask k
        { t with point := t.wait, request := some (.new t.mode.submission.store) })
  | reject (s : State R) (k : Nat) (t : Task R) (hk : s.tasks k = some t)
      (hp : t.point = .submitting) :
      Step s .step (s.setTask k { t with point := t.rejected })
  | found (s : State R) (k : Nat) (t : Task R) (r : R) (hk : s.tasks k = some t)
      (hp : t.point = .polling ∨ t.point = .notified) (hr : t.retrieve.2 = some r) :
      Step s .step (s.setTask k
        { t with point := t.leave (.result r), request := t.retrieve.1 })
  | sleep (s : State R) (k : Nat) (t : Task R) (hk : s.tasks k = some t)
      (hp : t.point = .polling) (hr : t.retrieve.2 = none) :
      Step s .step (s.setTask k { t with point := .sleeping })
  | wake (s : State R) (k : Nat) (t : Task R) (hk : s.tasks k = some t)
      (hp : t.point = .sleeping) :
      Step s .step (s.setTask k { t with point := .polling })
  /-- The time is up at a test of `elapsed`, or in `wait_for`. -/
  | timeOut (s : State R) (k : Nat) (t : Task R) (hk : s.tasks k = some t)
      (hp : t.point = .polling ∧ t.retrieve.2 = none ∨ t.point = .waiting) :
      Step s (.leave k) (s.setTask k { t with point := t.leave .timedOut })
  | cancel (s : State R) (k : Nat) (t : Task R) (hk : s.tasks k = some t)
      (hp : t.point = .sleeping ∨ t.point = .waiting) :
      Step s (.leave k) (s.setTask k { t with point := t.leave .cancelled })
  /-- There is no thread to read the pipe. -/
  | fail (s : State R) (k : Nat) (t : Task R) (hk : s.tasks k = some t) (hp : t.point = .waiting) :
      Step s (.leave k) (s.setTask k { t with point := t.leave .raised })
  | read (s : State R) (k n : Nat) (t : Task R) (hk : s.tasks k = some t)
      (hp : t.point = .waiting) (hn : s.bytes k = n + 1) :
      Step s .step { s.setTask k { t with point := .notified } with
        bytes := Function.update s.bytes k n }
  /-- `getAsyncResult` returns `NULL`. -/
  | null (s : State R) (k : Nat) (t : Task R) (hk : s.tasks k = some t)
      (hp : t.point = .notified) (hr : t.retrieve.2 = none) :
      Step s .step (s.setTask k { t with point := t.leave .raised })
  | closeRead (s : State R) (k : Nat) (t : Task R) (o : Outcome R) (hk : s.tasks k = some t)
      (hm : t.mode = .callback) (hp : t.point = .closingRead o) :
      Step s .step ((s.setFd t.readFd none).setTask k { t with point := .closingWrite o })
  | closeWrite (s : State R) (k : Nat) (t : Task R) (o : Outcome R) (hk : s.tasks k = some t)
      (hm : t.mode = .callback) (hp : t.point = .closingWrite o) :
      Step s .step ((s.setFd t.writeFd none).setTask k { t with point := .ended o })
  | deliver (s : State R) (k : Nat) (t : Task R) (q : Request R) (r : R)
      (hk : s.tasks k = some t) (hq : t.request = some q) (hw : q.worker = .running) :
      Step s .step (s.setTask k
        { t with request := some { q with result := some r, worker := t.mode.delivered } })
  | notify (s : State R) (k : Nat) (t : Task R) (q : Request R) (hk : s.tasks k = some t)
      (hm : t.mode = .callback) (hq : t.request = some q) (hw : q.worker = .notifying) :
      Step s (.notify k) ((s.write t.writeFd).setTask k
        { t with request := some { q with worker := .finished } })
  | openFile (s : State R) (n : Nat) (hn : s.fds n = none) :
      Step s (.openFile n) (s.setFd n (some .other))
  | closeFile (s : State R) (n : Nat) (hn : s.fds n = some .other) :
      Step s .step (s.setFd n none)

/-! ## The descriptors that a coroutine holds -/

/-- Whether the read end is still to be closed. -/
def Point.hasRead : Point R → Bool
  | .closingWrite _ | .ended _ => false
  | _ => true

/-- Whether the write end is. -/
def Point.hasWrite : Point R → Bool
  | .ended _ => false
  | _ => true

/-- The ends of its pipe that a coroutine has not closed are open under their numbers. -/
structure Owned (s : State R) : Prop where
  read : ∀ k t, s.tasks k = some t → t.mode = .callback → t.point.hasRead = true →
    s.fds t.readFd = some (.readEnd k)
  write : ∀ k t, s.tasks k = some t → t.mode = .callback → t.point.hasWrite = true →
    s.fds t.writeFd = some (.writeEnd k)

variable {s s' : State R} {a : Action} {k : Nat} {t : Task R}

/-- Only the bytes in the pipes change. -/
theorem State.exists_write_eq (s : State R) (n : Nat) : ∃ b, s.write n = { s with bytes := b } := by
  rw [State.write]
  split
  · exact ⟨_, rfl⟩
  · exact ⟨s.bytes, rfl⟩

theorem State.tasks_setTask_eq {j : Nat} {u : Task R} (h : (s.setTask k t).tasks j = some u) :
    j = k ∧ u = t ∨ j ≠ k ∧ s.tasks j = some u := by
  by_cases hj : j = k
  · subst hj
    simp only [setTask, Function.update_self] at h
    exact .inl ⟨rfl, (Option.some.inj h).symm⟩
  · simp only [setTask, Function.update_of_ne hj] at h
    exact .inr ⟨hj, h⟩

theorem owned_new : Owned (.new : State R) :=
  ⟨fun _ _ hk => (nomatch hk), fun _ _ hk => (nomatch hk)⟩

namespace Owned

theorem setTask (h : Owned s)
    (hread : t.mode = .callback → t.point.hasRead = true → s.fds t.readFd = some (.readEnd k))
    (hwrite : t.mode = .callback → t.point.hasWrite = true → s.fds t.writeFd = some (.writeEnd k)) :
    Owned (s.setTask k t) := by
  constructor
  · intro j u hj hmode hp
    rcases State.tasks_setTask_eq hj with ⟨rfl, rfl⟩ | ⟨-, hj⟩
    · exact hread hmode hp
    · exact h.read j u hj hmode hp
  · intro j u hj hmode hp
    rcases State.tasks_setTask_eq hj with ⟨rfl, rfl⟩ | ⟨-, hj⟩
    · exact hwrite hmode hp
    · exact h.write j u hj hmode hp

/-- A coroutine that goes on, and closes nothing. -/
theorem move (h : Owned s) (hk : s.tasks k = some t) {p : Point R} {q : Option (Request R)}
    (hread : p.hasRead = true → t.point.hasRead = true)
    (hwrite : p.hasWrite = true → t.point.hasWrite = true) :
    Owned (s.setTask k { t with point := p, request := q }) :=
  h.setTask (fun hmode hp => h.read k t hk hmode (hread hp)) fun hmode hp =>
    h.write k t hk hmode (hwrite hp)

/-- A number that none of them holds. -/
theorem setFd (h : Owned s) {n : Nat} (f : Option File)
    (hread : ∀ k t, s.tasks k = some t → t.point.hasRead = true → s.fds n ≠ some (.readEnd k))
    (hwrite : ∀ k t, s.tasks k = some t → t.point.hasWrite = true → s.fds n ≠ some (.writeEnd k)) :
    Owned (s.setFd n f) := by
  constructor
  · intro k t hk hmode hp
    have hfd := h.read k t hk hmode hp
    have hne : t.readFd ≠ n := by
      rintro rfl
      exact hread k t hk hp hfd
    exact (Function.update_of_ne hne _ _).trans hfd
  · intro k t hk hmode hp
    have hfd := h.write k t hk hmode hp
    have hne : t.writeFd ≠ n := by
      rintro rfl
      exact hwrite k t hk hp hfd
    exact (Function.update_of_ne hne _ _).trans hfd

theorem setFd_of_none (h : Owned s) {n : Nat} (f : Option File) (hn : s.fds n = none) :
    Owned (s.setFd n f) :=
  h.setFd f (fun _ _ _ _ => by rw [hn]; nofun) fun _ _ _ _ => by rw [hn]; nofun

/-- Whatever happens: nobody else closes a number that a coroutine holds. -/
theorem step (h : Owned s) (hstep : Step s a s') : Owned s' := by
  -- A coroutine that is left has held both ends until now, if it has a pipe.
  have hleave {k : Nat} {t : Task R} {o : Outcome R} {q : Option (Request R)}
      (hk : s.tasks k = some t) (hread : t.point.hasRead = true)
      (hwrite : t.point.hasWrite = true) :
      Owned (s.setTask k { t with point := t.leave o, request := q }) :=
    h.move hk (fun _ => hread) fun _ => hwrite
  cases hstep with
  | start k mode hk hm =>
    exact h.setTask (fun hmode => absurd hmode hm) fun hmode => absurd hmode hm
  | openPipe k r w hk hr hw hne =>
    have hfds := (h.setFd_of_none (some (.readEnd k)) hr).setFd_of_none (some (.writeEnd k))
      ((Function.update_of_ne (Ne.symm hne) _ _).trans hw)
    refine hfds.setTask (fun _ _ => ?_) fun _ _ => Function.update_self _ _ _
    exact (Function.update_of_ne hne _ _).trans (Function.update_self _ _ _)
  | unpackable k t hk hp => exact hleave hk (hp ▸ rfl) (hp ▸ rfl)
  | accept k t hk hp => exact h.move hk (fun _ => hp ▸ rfl) fun _ => hp ▸ rfl
  | reject k t hk hp => exact h.move hk (fun _ => hp ▸ rfl) fun _ => hp ▸ rfl
  | found k t r hk hp =>
    rcases hp with hp | hp <;> exact hleave hk (hp ▸ rfl) (hp ▸ rfl)
  | sleep k t hk hp => exact h.move hk (fun _ => hp ▸ rfl) fun _ => hp ▸ rfl
  | wake k t hk hp => exact h.move hk (fun _ => hp ▸ rfl) fun _ => hp ▸ rfl
  | timeOut k t hk hp =>
    rcases hp with ⟨hp, -⟩ | hp <;> exact hleave hk (hp ▸ rfl) (hp ▸ rfl)
  | cancel k t hk hp =>
    rcases hp with hp | hp <;> exact hleave hk (hp ▸ rfl) (hp ▸ rfl)
  | fail k t hk hp => exact hleave hk (hp ▸ rfl) (hp ▸ rfl)
  | read k n t hk hp =>
    have hmove : Owned (s.setTask k { t with point := .notified }) :=
      h.move hk (fun _ => hp ▸ rfl) fun _ => hp ▸ rfl
    exact ⟨hmove.read, hmove.write⟩
  | null k t hk hp => exact hleave hk (hp ▸ rfl) (hp ▸ rfl)
  | closeRead k t o hk hm hp =>
    have hfd := h.read k t hk hm (hp ▸ rfl)
    have hmove : Owned (s.setTask k { t with point := .closingWrite o }) :=
      h.move hk (fun hread => nomatch hread) fun _ => hp ▸ rfl
    refine hmove.setFd none (fun j u hj hread hj' => ?_) fun j u _ _ hj' => ?_
    · have hjk : j = k := File.readEnd.inj (Option.some.inj (hj'.symm.trans hfd))
      rcases State.tasks_setTask_eq hj with ⟨-, rfl⟩ | ⟨hne, -⟩
      · cases hread
      · exact hne hjk
    · cases hj'.symm.trans hfd
  | closeWrite k t o hk hm hp =>
    have hfd := h.write k t hk hm (hp ▸ rfl)
    have hmove : Owned (s.setTask k { t with point := .ended o }) :=
      h.move hk (fun hread => nomatch hread) fun hwrite => nomatch hwrite
    refine hmove.setFd none (fun j u _ _ hj' => ?_) fun j u hj hwrite hj' => ?_
    · cases hj'.symm.trans hfd
    · have hjk : j = k := File.writeEnd.inj (Option.some.inj (hj'.symm.trans hfd))
      rcases State.tasks_setTask_eq hj with ⟨-, rfl⟩ | ⟨hne, -⟩
      · cases hwrite
      · exact hne hjk
  | deliver k t q r hk => exact h.move hk id id
  | notify k t q hk =>
    have hmove : Owned (s.setTask k { t with request := some { q with worker := .finished } }) :=
      h.move hk id id
    obtain ⟨b, hb⟩ := s.exists_write_eq t.writeFd
    rw [hb]
    exact ⟨hmove.read, hmove.write⟩
  | openFile n hn => exact h.setFd_of_none _ hn
  | closeFile n hn =>
    exact h.setFd none (fun _ _ _ _ => by rw [hn]; nofun) fun _ _ _ _ => by rw [hn]; nofun

end Owned

/-! ## The bytes of the goroutines -/

/-- The goroutine has still to write. -/
def Task.Aims (t : Task R) : Prop :=
  t.mode = .callback ∧ ∃ q, t.request = some q ∧ q.worker ≠ .finished

/-- The numbers that are given to someone. -/
def Action.opened : Action → List Nat
  | .openPipe _ r w => [r, w]
  | .openFile n => [n]
  | _ => []

/-- No goroutine has still to write to a number that is given to someone. -/
def Clear (s : State R) (a : Action) : Prop :=
  ∀ n ∈ a.opened, ∀ k t, s.tasks k = some t → t.Aims → t.writeFd ≠ n

/-- A byte is written to the pipe of its own request, or to nothing. -/
def NotifiesOwn (s : State R) (a : Action) : Prop :=
  ∀ k, a = .notify k → ∀ t, s.tasks k = some t →
    s.fds t.writeFd = some (.writeEnd k) ∨ s.fds t.writeFd = none

/-- What is open under the number that a goroutine has. -/
def Aimed (s : State R) : Prop :=
  ∀ k t, s.tasks k = some t → t.Aims →
    s.fds t.writeFd = some (.writeEnd k) ∨ s.fds t.writeFd = none

namespace Aimed

theorem setTask (h : Aimed s)
    (ht : t.Aims → s.fds t.writeFd = some (.writeEnd k) ∨ s.fds t.writeFd = none) :
    Aimed (s.setTask k t) := by
  intro j u hj haims
  rcases State.tasks_setTask_eq hj with ⟨rfl, rfl⟩ | ⟨-, hj⟩
  · exact ht haims
  · exact h j u hj haims

/-- A coroutine that goes on while its goroutine has as much to do. -/
theorem move (h : Aimed s) (hk : s.tasks k = some t) {p : Point R} {q : Option (Request R)}
    (hq : Task.Aims { t with point := p, request := q } → t.Aims) :
    Aimed (s.setTask k { t with point := p, request := q }) :=
  h.setTask fun haims => h k t hk (hq haims)

theorem setFd (h : Aimed s) {n : Nat} {f : Option File}
    (hn : f = none ∨ ∀ k t, s.tasks k = some t → t.Aims → t.writeFd ≠ n) :
    Aimed (s.setFd n f) := by
  intro k t hk haims
  by_cases hw : t.writeFd = n
  · rcases hn with rfl | hn
    · right
      rw [hw]
      exact Function.update_self _ _ _
    · exact absurd hw (hn k t hk haims)
  · have hfd : (s.setFd n f).fds t.writeFd = s.fds t.writeFd := Function.update_of_ne hw _ _
    rw [hfd]
    exact h k t hk haims

end Aimed

theorem Request.worker_retrieve (q : Request R) (f : Retrieval) :
    (q.retrieve f).1.worker = q.worker := by
  simp only [retrieve]
  split
  · split <;> rfl
  · rfl

theorem Task.Aims.of_retrieve {p : Point R}
    (h : Task.Aims { t with point := p, request := t.retrieve.1 }) : t.Aims := by
  obtain ⟨hmode, q', hq', hworker⟩ := h
  cases hq : t.request with
  | none => simp [retrieve, hq] at hq'
  | some q =>
    simp only [retrieve, hq, Option.some.injEq] at hq'
    subst hq'
    rw [Request.worker_retrieve] at hworker
    exact ⟨hmode, q, hq, hworker⟩

theorem Aimed.step (h : Aimed s) (howned : Owned s) (hclear : Clear s a) (hstep : Step s a s') :
    Aimed s' := by
  cases hstep with
  | start k mode hk hm => exact h.setTask fun haims => absurd haims.1 hm
  | openPipe k r w hk hr hw hne =>
    have hread := h.setFd (f := some (.readEnd k)) (.inr (hclear r (by simp [Action.opened])))
    have hwrite := hread.setFd (f := some (.writeEnd k))
      (.inr (hclear w (by simp [Action.opened])))
    refine hwrite.setTask fun haims => ?_
    obtain ⟨-, q, hq, -⟩ := haims
    cases hq
  | accept k t hk hp =>
    exact h.setTask fun haims => .inl (howned.write k t hk haims.1 (hp ▸ rfl))
  | found k t r hk => exact h.move hk Task.Aims.of_retrieve
  | read k n t hk => exact h.move hk id
  | closeRead k t o hk hm hp => exact (h.setFd (.inl rfl)).move hk id
  | closeWrite k t o hk hm hp => exact (h.setFd (.inl rfl)).move hk id
  | deliver k t q r hk hq hw =>
    exact h.move hk fun haims => ⟨haims.1, q, hq, by rw [hw]; nofun⟩
  | notify k t q hk hm hq hw =>
    obtain ⟨b, hb⟩ := s.exists_write_eq t.writeFd
    rw [hb]
    refine h.move hk fun haims => ?_
    obtain ⟨-, q', hq', hworker⟩ := haims
    cases hq'
    exact absurd rfl hworker
  | openFile n hn => exact h.setFd (.inr (hclear n (by simp [Action.opened])))
  | closeFile n hn => exact h.setFd (.inl rfl)
  | unpackable k t hk | reject k t hk | sleep k t hk | wake k t hk | timeOut k t hk
  | cancel k t hk | fail k t hk | null k t hk => exact h.move hk id

/-- The goroutine writes next, once it has its result. -/
theorem exists_notify [Inhabited R] (hk : s.tasks k = some t) (haims : t.Aims) :
    ∃ es s' s'' u, Path Step s es s' ∧ Step s' (.notify k) s'' ∧ s'.tasks k = some u ∧
      u.writeFd = t.writeFd ∧ s'.fds = s.fds := by
  obtain ⟨hm, q, hq, hworker⟩ := haims
  cases hw : q.worker with
  | finished => exact absurd hw hworker
  | notifying => exact ⟨[], s, _, t, .nil, .notify s k t q hk hm hq hw, hk, rfl, rfl⟩
  | running =>
    have hdeliver := Step.deliver s k t q default hk hq hw
    exact ⟨_, _, _, _, .snoc .nil hdeliver, .notify _ k _ _ (Function.update_self _ _ _) hm rfl
      (by rw [hm]; rfl), Function.update_self _ _ _, rfl, rfl⟩

theorem aims_of_notify (hstep : Step s (.notify k) s') (hk : s.tasks k = some t) : t.Aims := by
  cases hstep with
  | notify _ t' q hk' hm hq hw =>
    cases hk'.symm.trans hk
    exact ⟨hm, q, hq, by rw [hw]; nofun⟩

/-- What a step that is not clear opens is open for someone else. -/
theorem exists_aims_of_not_clear (hstep : Step s a s') (hnot : ¬Clear s a) :
    ∃ k t f, s'.tasks k = some t ∧ t.Aims ∧ s'.fds t.writeFd = some f ∧ f ≠ .writeEnd k := by
  simp only [Clear, not_forall, not_not] at hnot
  obtain ⟨n, hn, k, t, hk, haims, hfd⟩ := hnot
  cases hstep with
  | openPipe j r w hj hr hw hne =>
    have hkj : k ≠ j := by
      rintro rfl
      rw [hj] at hk
      cases hk
    refine ⟨k, t, if n = w then .writeEnd j else .readEnd j,
      (Function.update_of_ne hkj _ _).trans hk, haims, ?_, ?_⟩
    · rw [hfd]
      simp only [Action.opened, List.mem_cons, List.not_mem_nil, or_false] at hn
      rcases hn with rfl | rfl
      · rw [if_neg hne]
        exact (Function.update_of_ne hne _ _).trans (Function.update_self _ _ _)
      · rw [if_pos rfl]
        exact Function.update_self _ _ _
    · split_ifs
      · exact fun h => hkj (File.writeEnd.inj h).symm
      · nofun
  | openFile m hm =>
    rw [Action.opened, List.mem_singleton] at hn
    subst hn
    refine ⟨k, t, .other, hk, haims, ?_, nofun⟩
    rw [hfd]
    exact Function.update_self _ _ _
  | _ => cases hn

variable {es : List (State R × Action)}

/-- However the coroutines, goroutines and other users of descriptors take their turns: as
    long as nobody is given the number of a write end to which a goroutine has still to
    write, each byte goes to the pipe of its own request, or nowhere once that is closed.
    When such a number is given to someone, the goroutine may write to them next. -/
theorem notifies_own_iff [Inhabited R] (h : Path Step .new es s) :
    ((∀ e ∈ es, Clear e.1 e.2) → ∀ e ∈ es, NotifiesOwn e.1 e.2) ∧
      ∀ a s', Step s a s' → ¬Clear s a →
        ∃ es' t b u, Path Step s' es' t ∧ Step t b u ∧ ¬NotifiesOwn t b := by
  constructor
  · intro hclear
    refine h.forall_mem (fun s => Owned s ∧ Aimed s) Clear NotifiesOwn
      (fun s a s' hs hc hstep => ⟨⟨hs.1.step hstep, hs.2.step hs.1 hc hstep⟩, ?_⟩) hclear
      ⟨owned_new, fun _ _ hk => nomatch hk⟩
    rintro k rfl t hk
    exact hs.2 k t hk (aims_of_notify hstep hk)
  · intro a s' hstep hnot
    obtain ⟨k, t, f, hk, haims, hf, hne⟩ := exists_aims_of_not_clear hstep hnot
    obtain ⟨es', t', u, v, hpath, hnotify, hv, hfd, hfds⟩ := exists_notify hk haims
    refine ⟨es', t', _, u, hpath, hnotify, fun hown => ?_⟩
    have hfile := hown k rfl v hv
    rw [hfd, hfds, hf] at hfile
    rcases hfile with hfile | hfile
    · exact hne (Option.some.inj hfile)
    · cases hfile

/-- A goroutine has its result when another request opens its pipe, and then writes its byte. -/
theorem notifies_own_opened : ∃ es s s',
    Path Step (.new : State String) (es ++ [(s, .notify 0)]) s' ∧
      s.fds 4 = some (.writeEnd 0) ∧ s.fds 6 = some (.writeEnd 1) ∧
      ∀ e ∈ es ++ [(s, .notify 0)], NotifiesOwn e.1 e.2 := by
  have hnew : Path Step (.new : State String) [] .new := .nil
  have hpath := ((((hnew.snoc (.openPipe _ 0 3 4 rfl rfl rfl (by decide))).snoc
    (.accept _ 0 _ rfl rfl)).snoc (.deliver _ 0 _ _ "ok" rfl rfl rfl)).snoc
    (.openPipe _ 1 5 6 rfl rfl rfl (by decide))).snoc (.notify _ 0 _ _ rfl rfl rfl rfl)
  refine ⟨_, _, _, hpath, rfl, rfl, (notifies_own_iff hpath).1 fun e he => ?_⟩
  simp only [List.mem_append, List.mem_singleton, List.not_mem_nil, false_or] at he
  rcases he with (((rfl | rfl) | rfl) | rfl) | rfl
  · exact fun n _ k t hk => nomatch hk
  · exact fun n hn => nomatch hn
  · exact fun n hn => nomatch hn
  · -- the other pipe has other numbers
    intro n hn k t hk _ hfd
    by_cases hk0 : k = 0
    · subst hk0
      cases Option.some.inj hk
      rw [← hfd] at hn
      revert hn
      decide
    · simp [State.setTask, Function.update_of_ne hk0, State.setFd, State.new] at hk
  · exact fun n hn => nomatch hn

/-- A request times out, and the next one gets its descriptors. -/
theorem not_forall_notifies_own : ¬∀ (es : List (State String × Action)) (s : State String),
    Path Step .new es s → ∀ e ∈ es, NotifiesOwn e.1 e.2 := by
  intro h
  have hnew : Path Step (.new : State String) [] .new := .nil
  have hpath := (((((((hnew.snoc (.openPipe _ 0 3 4 rfl rfl rfl (by decide))).snoc
    (.accept _ 0 _ rfl rfl)).snoc (.timeOut _ 0 _ rfl (.inr rfl))).snoc
    (.closeRead _ 0 _ _ rfl rfl rfl)).snoc (.closeWrite _ 0 _ _ rfl rfl rfl)).snoc
    (.openPipe _ 1 3 4 rfl rfl rfl (by decide))).snoc (.deliver _ 0 _ _ "ok" rfl rfl rfl)).snoc
    (.notify _ 0 _ _ rfl rfl rfl rfl)
  have hown := h _ _ hpath _ (List.mem_append_right _ (List.mem_singleton_self _)) 0 rfl _ rfl
  rcases hown with hown | hown <;> cases hown

end AsyncTasks

end CycleTLS
