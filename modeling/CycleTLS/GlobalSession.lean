import CycleTLS.Lib.Transition
import Mathlib.Logic.Function.Basic

/-!
# The global session (`_global.py`)

Threads get and close a session that they share. They look at it, take a lock, and look again. A
process that was forked has the variables of its parent, and forgets the session that it finds
there. Whatever the threads do, and however often the process forks, a call returns nothing or a
session of its own process (`returns_own`). It returns one that is open unless one is closed or
forgotten meanwhile (`returns_open`). A process has at most one open session, which is closed when
it exits, unless a thread forgets the session after another has done so (`session_unique`). A
process that was forked while the lock was held never gets a session (`forked_stuck`).
-/

namespace CycleTLS

open Transition

namespace GlobalSession

/-! ## The source -/

/-- Where a thread is. -/
inductive Point
  | idle
  /-- In `get_global_session`: before `_global_session = None`. -/
  | resetting
  /-- Before `_parent_pid = current_pid`. -/
  | resettingPid
  /-- Before the first look at the session. -/
  | looking
  | waiting
  /-- Before the second look, behind the lock. -/
  | inside
  | creating
  /-- Before the session is stored. -/
  | created (session : Nat)
  | registering
  /-- Before the lock is released. -/
  | leaving
  | returning
  /-- In `close_global_session`, behind the first look. -/
  | closeWaiting
  | closeInside
  | closing
  /-- Before `_global_session = None`. -/
  | clearing
  | closeLeaving
  deriving DecidableEq

/-- The variables of a process and its threads. What follows them is a record of the processes that
    it stems from, and of the sessions: who made one, and whether it was closed. -/
structure State where
  pid : Nat
  parentPid : Nat
  session : Option Nat
  lock : Option Nat
  cleanupRegistered : Bool
  threads : Nat → Point
  pids : List Nat
  next : Nat
  owner : Nat → Nat
  closed : Nat → Bool

/-- The process that imports the module. -/
def State.new (pid : Nat) : State :=
  ⟨pid, pid, none, none, false, fun _ => .idle, [pid], 0, fun _ => pid, fun _ => false⟩

/-- A thread goes on. -/
def State.goto (s : State) (t : Nat) (p : Point) : State :=
  { s with threads := Function.update s.threads t p }

/-- A session is closed, if there is one. -/
def State.close (s : State) : State :=
  match s.session with
  | none => s
  | some i => { s with closed := Function.update s.closed i true }

/-- What is done in a step. -/
inductive Action
  | move (t : Nat)
  /-- `_global_session = None` in a forked process. -/
  | reset (t : Nat)
  /-- `_global_session.close()`. -/
  | close (t : Nat)
  /-- `_global_session = None` behind it. -/
  | clear (t : Nat)
  | returns (t : Nat) (result : Option Nat)
  | fork (t : Nat) (pid : Nat)

/-- The steps of the threads. A process that is forked has the thread that forked it only, and an
    id that no process has that it stems from: ids are not used again. No session is closed by a
    call of its own `close`. -/
inductive Step : State → Action → State → Prop
  -- the look at the process id, in front of the lock
  | get (s : State) (t : Nat) (h : s.threads t = .idle) :
    Step s (.move t) (s.goto t (if s.pid ≠ s.parentPid then .resetting else .looking))
  -- neither of these two writes is under the lock
  | reset (s : State) (t : Nat) (h : s.threads t = .resetting) :
    Step s (.reset t) { s.goto t .resettingPid with session := none }
  | resetPid (s : State) (t : Nat) (h : s.threads t = .resettingPid) :
    Step s (.move t) { s.goto t .looking with parentPid := s.pid }
  | look (s : State) (t : Nat) (h : s.threads t = .looking) :
    Step s (.move t) (s.goto t (if s.session = none then .waiting else .returning))
  | acquire (s : State) (t : Nat) (h : s.threads t = .waiting) (hlock : s.lock = none) :
    Step s (.move t) { s.goto t .inside with lock := some t }
  | lookAgain (s : State) (t : Nat) (h : s.threads t = .inside) :
    Step s (.move t) (s.goto t (if s.session = none then .creating else .leaving))
  | create (s : State) (t : Nat) (h : s.threads t = .creating) :
    Step s (.move t) { s.goto t (.created s.next) with
      next := s.next + 1, owner := Function.update s.owner s.next s.pid }
  -- the exception leaves the `with` block, which releases the lock
  | createFails (s : State) (t : Nat) (h : s.threads t = .creating) :
    Step s (.move t) { s.goto t .idle with lock := none }
  | store (s : State) (t : Nat) (i : Nat) (h : s.threads t = .created i) :
    Step s (.move t) { s.goto t .registering with session := some i }
  | register (s : State) (t : Nat) (h : s.threads t = .registering) :
    Step s (.move t) { s.goto t .leaving with cleanupRegistered := true }
  | release (s : State) (t : Nat) (h : s.threads t = .leaving) :
    Step s (.move t) { s.goto t .returning with lock := none }
  -- the variable is read once more, when the lock is released
  | returns (s : State) (t : Nat) (h : s.threads t = .returning) :
    Step s (.returns t s.session) (s.goto t .idle)
  | callClose (s : State) (t : Nat) (h : s.threads t = .idle) :
    Step s (.move t) (s.goto t (if s.session = none then .idle else .closeWaiting))
  | acquireClose (s : State) (t : Nat) (h : s.threads t = .closeWaiting) (hlock : s.lock = none) :
    Step s (.move t) { s.goto t .closeInside with lock := some t }
  | lookClose (s : State) (t : Nat) (h : s.threads t = .closeInside) :
    Step s (.move t) (s.goto t (if s.session = none then .closeLeaving else .closing))
  | close (s : State) (t : Nat) (h : s.threads t = .closing) :
    Step s (.close t) (s.close.goto t .clearing)
  | clear (s : State) (t : Nat) (h : s.threads t = .clearing) :
    Step s (.clear t) { s.goto t .closeLeaving with session := none }
  | releaseClose (s : State) (t : Nat) (h : s.threads t = .closeLeaving) :
    Step s (.move t) { s.goto t .idle with lock := none }
  -- the lock is copied as it is, though the thread that holds it is not
  | fork (s : State) (t pid : Nat) (h : s.threads t = .idle) (hpid : pid ∉ s.pids) :
    Step s (.fork t pid) { s with pid := pid, pids := pid :: s.pids, threads := fun _ => .idle }

/-- `_cleanup_global_session`, when the process exits. -/
def State.exit (s : State) : State :=
  if s.cleanupRegistered then { s.close with session := none } else s

/-! ## Invariants -/

namespace Point

/-- The thread found its own process in `_parent_pid`, or put it there. -/
def Passed : Point → Prop
  | looking | waiting | inside | creating | created _ | registering | leaving | returning => True
  | _ => False

/-- The thread holds the lock. -/
def Holds : Point → Prop
  | inside | creating | created _ | registering | leaving | closeInside | closing | clearing
  | closeLeaving => True
  | _ => False

/-- The thread found no session behind the lock. -/
def Creates : Point → Prop
  | creating | created _ => True
  | _ => False

theorem holds_of_creates {p : Point} (h : p.Creates) : p.Holds := by
  cases p <;> first | exact h.elim | trivial

end Point

variable {s s' : State} {a : Action} {es es' : List (State × Action)} {t u : Nat} {p : Point}

/-- What holds of all threads holds behind a step of one, if it holds of its new place. -/
theorem forall_goto {P : Nat → Point → Prop} (h : ∀ u, P u (s.threads u)) (hp : P t p) (u : Nat) :
    P u ((s.goto t p).threads u) := by
  by_cases hu : u = t
  · subst hu
    simpa [State.goto] using hp
  · simpa [State.goto, hu] using h u

/-- A thread is found in its new place, or is another one. -/
theorem of_goto {P : Point → Prop} (h : P ((s.goto t p).threads u)) :
    u = t ∧ P p ∨ u ≠ t ∧ P (s.threads u) := by
  by_cases hu : u = t
  · subst hu
    exact .inl ⟨rfl, by simpa [State.goto] using h⟩
  · exact .inr ⟨hu, by simpa [State.goto, hu] using h⟩

/-- What the steps keep. -/
structure Inv (s : State) : Prop where
  pid_mem : s.pid ∈ s.pids
  parentPid_mem : s.parentPid ∈ s.pids
  passed : ∀ t, (s.threads t).Passed → s.parentPid = s.pid
  holds : ∀ t, (s.threads t).Holds → s.lock = some t
  empty : ∀ t, (s.threads t).Creates → s.session = none
  created : ∀ t i, s.threads t = .created i → s.owner i = s.pid
  cleared : ∀ t, s.threads t = .clearing → ∀ i, s.session = some i → s.closed i = true
  own : (s.parentPid = s.pid ∨ ∃ t, s.threads t = .resettingPid) →
    ∀ i, s.session = some i → s.owner i = s.pid

theorem inv_new (pid : Nat) : Inv (.new pid) where
  pid_mem := List.mem_singleton_self pid
  parentPid_mem := List.mem_singleton_self pid
  passed _ h := h.elim
  holds _ h := h.elim
  empty _ h := h.elim
  created _ _ h := by cases h
  cleared _ h := by cases h
  own _ _ h := by cases h

@[simp] theorem pid_close : s.close.pid = s.pid := by
  cases h : s.session <;> simp [State.close, h]

@[simp] theorem parentPid_close : s.close.parentPid = s.parentPid := by
  cases h : s.session <;> simp [State.close, h]

@[simp] theorem threads_close : s.close.threads = s.threads := by
  cases h : s.session <;> simp [State.close, h]

@[simp] theorem lock_close : s.close.lock = s.lock := by
  cases h : s.session <;> simp [State.close, h]

@[simp] theorem session_close : s.close.session = s.session := by
  cases h : s.session <;> simp [State.close, h]

@[simp] theorem owner_close : s.close.owner = s.owner := by
  cases h : s.session <;> simp [State.close, h]

@[simp] theorem pids_close : s.close.pids = s.pids := by
  cases h : s.session <;> simp [State.close, h]

theorem passed_step (hs : Inv s) (h : Step s a s') :
    ∀ t, (s'.threads t).Passed → s'.parentPid = s'.pid := by
  cases h with
  | get t hidle =>
    -- it passes where the ids are equal, and goes to set them where they are not
    refine forall_goto (P := fun _ p => p.Passed → s.parentPid = s.pid) hs.passed fun hp => ?_
    by_contra hne
    rw [if_pos (Ne.symm hne)] at hp
    exact hp
  | resetPid => exact fun _ _ => rfl
  | fork => exact fun _ hp => hp.elim
  | look t hp | acquire t hp | lookAgain t hp | create t hp | store t i hp | register t hp
  | release t hp =>
    refine forall_goto (P := fun _ p => p.Passed → s.parentPid = s.pid) hs.passed fun _ => ?_
    exact hs.passed t (by rw [hp]; trivial)
  | callClose | lookClose =>
    refine forall_goto (P := fun _ p => p.Passed → s.parentPid = s.pid) hs.passed fun hp => ?_
    split_ifs at hp <;> exact hp.elim
  | close =>
    refine forall_goto (P := fun _ p => p.Passed → s.close.parentPid = s.close.pid) ?_
      fun hp => hp.elim
    simpa using hs.passed
  | reset | createFails | returns | acquireClose | clear | releaseClose =>
    exact forall_goto (P := fun _ p => p.Passed → s.parentPid = s.pid) hs.passed fun hp => hp.elim

/-- A thread that holds the lock is the only one. -/
theorem Inv.eq_of_holds (hs : Inv s) (ht : (s.threads t).Holds) (hu : (s.threads u).Holds) :
    u = t := Option.some.inj ((hs.holds u hu).symm.trans (hs.holds t ht))

theorem holds_step (hs : Inv s) (h : Step s a s') :
    ∀ t, (s'.threads t).Holds → s'.lock = some t := by
  cases h with
  | get | look | callClose =>
    refine forall_goto (P := fun u p => p.Holds → s.lock = some u) hs.holds fun hp => ?_
    split_ifs at hp <;> exact hp.elim
  | reset | resetPid | returns =>
    exact forall_goto (P := fun u p => p.Holds → s.lock = some u) hs.holds fun hp => hp.elim
  | fork => exact fun _ hp => hp.elim
  | acquire t hp hlock | acquireClose t hp hlock =>
    -- nobody holds a lock that is free
    intro u hu
    rcases of_goto hu with ⟨rfl, -⟩ | ⟨-, hu⟩
    · rfl
    · cases hlock.symm.trans (hs.holds u hu)
  | createFails t hp | release t hp | releaseClose t hp =>
    -- the lock had one holder, who has left
    intro u hu
    rcases of_goto hu with ⟨-, hnone⟩ | ⟨hne, hu⟩
    · exact hnone.elim
    · exact absurd (hs.eq_of_holds (by rw [hp]; trivial) hu) hne
  | lookAgain t hp | create t hp | store t i hp | register t hp | lookClose t hp | clear t hp =>
    refine forall_goto (P := fun u p => p.Holds → s.lock = some u) hs.holds fun _ => ?_
    exact hs.holds t (by rw [hp]; trivial)
  | close t hp =>
    refine forall_goto (P := fun u p => p.Holds → s.close.lock = some u) ?_ fun _ => ?_
    · simpa using hs.holds
    · simpa using hs.holds t (by rw [hp]; trivial)

theorem empty_step (hs : Inv s) (h : Step s a s') :
    ∀ t, (s'.threads t).Creates → s'.session = none := by
  cases h with
  | get | look | callClose | lookClose =>
    refine forall_goto (P := fun _ p => p.Creates → s.session = none) hs.empty fun hp => ?_
    split_ifs at hp <;> exact hp.elim
  | lookAgain t =>
    refine forall_goto (P := fun _ p => p.Creates → s.session = none) hs.empty fun hp => ?_
    by_contra hne
    rw [if_neg hne] at hp
    exact hp
  | create t hp =>
    refine forall_goto (P := fun _ p => p.Creates → s.session = none) hs.empty fun _ => ?_
    exact hs.empty t (by rw [hp]; trivial)
  | reset | clear => exact fun _ _ => rfl
  | fork => exact fun _ hp => hp.elim
  | store t i hp =>
    -- another thread that makes a session would hold the lock too
    intro u hu
    rcases of_goto hu with ⟨-, hnone⟩ | ⟨hne, hu⟩
    · exact hnone.elim
    · exact absurd (hs.eq_of_holds (by rw [hp]; trivial) (Point.holds_of_creates hu)) hne
  | close =>
    refine forall_goto (P := fun _ p => p.Creates → s.close.session = none) ?_ fun hp => hp.elim
    simpa using hs.empty
  | resetPid | acquire | createFails | register | release | returns | acquireClose | releaseClose =>
    exact forall_goto (P := fun _ p => p.Creates → s.session = none) hs.empty fun hp => hp.elim

theorem created_step (hs : Inv s) (h : Step s a s') :
    ∀ t i, s'.threads t = .created i → s'.owner i = s'.pid := by
  have hkeep {p : Point} (t : Nat) (hp : ∀ i, p ≠ .created i) :
      ∀ u i, (s.goto t p).threads u = .created i → s.owner i = s.pid :=
    forall_goto (P := fun _ p => ∀ i, p = .created i → s.owner i = s.pid) hs.created
      fun i hi => absurd hi (hp i)
  cases h with
  | create t =>
    intro u i hu
    by_cases hi : i = s.next
    · rw [hi]
      exact Function.update_self ..
    · refine (Function.update_of_ne hi _ _).trans ?_
      rcases of_goto (P := (· = .created i)) hu with ⟨-, hnew⟩ | ⟨-, hu⟩
      · exact absurd (Point.created.inj hnew).symm hi
      · exact hs.created u i hu
  | fork => exact fun _ _ hp => by cases hp
  | close t =>
    intro u i hu
    rw [State.goto, owner_close, pid_close]
    refine hkeep (p := .clearing) t (by simp) u i ?_
    rwa [State.goto, threads_close] at hu
  | get | look | lookAgain | callClose | lookClose => exact hkeep _ fun i => by split_ifs <;> simp
  | _ => exact hkeep _ fun i => by simp

theorem cleared_step (hs : Inv s) (h : Step s a s') :
    ∀ t, s'.threads t = .clearing → ∀ i, s'.session = some i → s'.closed i = true := by
  have hkeep {p : Point} (t : Nat) (hp : p ≠ .clearing) : ∀ u, (s.goto t p).threads u = .clearing →
      ∀ i, s.session = some i → s.closed i = true :=
    forall_goto (P := fun _ p => p = .clearing → ∀ i, s.session = some i → s.closed i = true)
      hs.cleared fun hclearing => absurd hclearing hp
  cases h with
  | reset | clear => exact fun _ _ i hi => by cases hi
  | fork => exact fun _ hp => by cases hp
  | store t i hp =>
    intro u hu
    rcases of_goto (P := (· = .clearing)) hu with ⟨-, hnew⟩ | ⟨hne, hu⟩
    · cases hnew
    · exact absurd (hs.eq_of_holds (by rw [hp]; trivial) (by rw [hu]; trivial)) hne
  | close t =>
    intro u _ i hi
    have hi : s.session = some i := session_close.symm.trans hi
    simp [State.goto, State.close, hi]
  | get | look | lookAgain | callClose | lookClose => exact hkeep _ (by split_ifs <;> simp)
  | _ => exact hkeep _ (by simp)

theorem own_step (hs : Inv s) (h : Step s a s') :
    (s'.parentPid = s'.pid ∨ ∃ t, s'.threads t = .resettingPid) →
      ∀ i, s'.session = some i → s'.owner i = s'.pid := by
  have hkeep {p : Point} (t : Nat) (hp : p ≠ .resettingPid)
      (h : s.parentPid = s.pid ∨ ∃ u, (s.goto t p).threads u = .resettingPid) :
      ∀ i, s.session = some i → s.owner i = s.pid := by
    refine hs.own (h.imp_right fun ⟨u, hu⟩ => ?_)
    rcases of_goto (P := (· = .resettingPid)) hu with ⟨-, hnew⟩ | ⟨-, hu⟩
    · exact absurd hnew hp
    · exact ⟨u, hu⟩
  cases h with
  | reset | clear => exact fun _ i hi => by cases hi
  | fork t pid hidle hpid =>
    -- the child has an id that no process had, so it has not passed yet
    rintro (heq | ⟨u, hu⟩)
    · have heq : s.parentPid = pid := heq
      exact absurd (heq ▸ hs.parentPid_mem) hpid
    · cases hu
  | resetPid t hp => exact fun _ => hs.own (.inr ⟨t, hp⟩)
  | create t =>
    intro h i hi
    by_cases hnext : i = s.next
    · rw [hnext]
      exact Function.update_self ..
    · exact (Function.update_of_ne hnext _ _).trans (hkeep t (by simp) h i hi)
  | store t i hp =>
    rintro - j hj
    rw [← Option.some.inj hj]
    exact hs.created t i hp
  | close t =>
    intro h i hi
    rw [State.goto, owner_close, pid_close]
    refine hkeep (p := .clearing) t (by simp) ?_ i (session_close.symm.trans hi)
    rwa [State.goto, parentPid_close, pid_close, threads_close] at h
  | get | look | lookAgain | callClose | lookClose => exact hkeep _ (by split_ifs <;> simp)
  | _ => exact hkeep _ (by simp)

theorem inv_step (hs : Inv s) (h : Step s a s') : Inv s' where
  pid_mem := by
    cases h with
    | fork => exact List.mem_cons_self
    | close => simpa [State.goto] using hs.pid_mem
    | _ => exact hs.pid_mem
  parentPid_mem := by
    cases h with
    | fork => exact List.mem_cons_of_mem _ hs.parentPid_mem
    | resetPid => exact hs.pid_mem
    | close => simpa [State.goto] using hs.parentPid_mem
    | _ => exact hs.parentPid_mem
  passed := passed_step hs h
  holds := holds_step hs h
  empty := empty_step hs h
  created := created_step hs h
  cleared := cleared_step hs h
  own := own_step hs h

theorem inv (pid : Nat) (h : Path Step (.new pid) es s) : Inv s :=
  h.inv Inv (fun _ _ => True) (fun _ _ _ hs _ hstep => inv_step hs hstep) (fun _ _ => trivial)
    (inv_new pid)

/-! ## Which session is returned -/

/-- What is returned is nothing, or a session that the process made itself. -/
theorem returns_own {pid : Nat} (h : Path Step (.new pid) es s) :
    ∀ e ∈ es, ∀ t i, e.2 = .returns t (some i) → e.1.owner i = e.1.pid := by
  refine h.forall_mem Inv (fun _ _ => True)
    (fun s a => ∀ t i, a = .returns t (some i) → s.owner i = s.pid) ?_ (fun _ _ => trivial)
    (inv_new pid)
  rintro s a s' hs - hstep
  refine ⟨inv_step hs hstep, ?_⟩
  intro t i ha
  cases hstep with
  | returns u hp =>
    obtain ⟨-, hsession⟩ := Action.returns.inj ha
    exact hs.own (.inl (hs.passed u (by rw [hp]; trivial))) i hsession
  | _ => cases ha

/-- A forked process forgets the session that it found, and makes one. -/
theorem returns_own_run : ∃ es s, Path Step (.new 1) es s ∧ s.pid = 2 ∧ s.next = 2 ∧
    ∀ e ∈ es, ∀ t i, e.2 = .returns t (some i) → e.1.owner i = e.1.pid := by
  have hnil : Path Step (.new 1) [] (.new 1) := .nil
  have hparent := ((((((((hnil.snoc (.get _ 0 rfl)).snoc (.look _ 0 rfl)).snoc
    (.acquire _ 0 rfl rfl)).snoc (.lookAgain _ 0 rfl)).snoc (.create _ 0 rfl)).snoc
    (.store _ 0 0 rfl)).snoc (.register _ 0 rfl)).snoc (.release _ 0 rfl)).snoc (.returns _ 0 rfl)
  have hchild := (((hparent.snoc (.fork _ 0 2 rfl (by decide))).snoc (.get _ 0 rfl)).snoc
    (.reset _ 0 rfl)).snoc (.resetPid _ 0 rfl)
  have hpath := ((((((((hchild.snoc (.look _ 0 rfl)).snoc (.acquire _ 0 rfl rfl)).snoc
    (.lookAgain _ 0 rfl)).snoc (.create _ 0 rfl)).snoc (.store _ 0 1 rfl)).snoc
    (.register _ 0 rfl)).snoc (.release _ 0 rfl)).snoc (.returns _ 0 rfl))
  exact ⟨_, _, hpath, rfl, rfl, returns_own hpath⟩

/-- What the steps keep of the sessions. -/
structure Sessions (s : State) : Prop where
  owner_mem : ∀ i, s.owner i ∈ s.pids
  session_lt : ∀ i, s.session = some i → i < s.next
  created_open : ∀ t i, s.threads t = .created i → i < s.next ∧ s.closed i = false
  closed_lt : ∀ i, s.closed i = true → i < s.next
  clearing : ∀ i, s.session = some i → s.owner i = s.pid → s.closed i = true →
    ∃ t, s.threads t = .clearing
  parent : ∀ i < s.next, s.owner i = s.pid → s.parentPid = s.pid
  registered : ∀ i < s.next, s.owner i = s.pid → s.cleanupRegistered = true ∨
    ∃ t, s.threads t = .created i ∨ s.threads t = .registering

theorem sessions_new (pid : Nat) : Sessions (.new pid) where
  owner_mem _ := List.mem_singleton_self pid
  session_lt _ h := by cases h
  created_open _ _ h := by cases h
  closed_lt _ h := by cases h
  clearing _ h := by cases h
  parent _ h := absurd h (Nat.not_lt_zero _)
  registered _ h := absurd h (Nat.not_lt_zero _)

@[simp] theorem next_close : s.close.next = s.next := by
  cases h : s.session <;> simp [State.close, h]

@[simp] theorem cleanupRegistered_close : s.close.cleanupRegistered = s.cleanupRegistered := by
  cases h : s.session <;> simp [State.close, h]

theorem closed_close (i : Nat) :
    s.close.closed i = true ↔ s.session = some i ∨ s.closed i = true := by
  rw [State.close]
  cases h : s.session with
  | none => simp
  | some j =>
    by_cases hi : i = j
    · simp [hi]
    · simp [hi, Ne.symm hi]

/-- A thread that has been somewhere is still there, unless it takes the step. -/
theorem threads_goto_of_ne {q : Point} (ht : s.threads t ≠ q) (h : ∃ u, s.threads u = q)
    (p : Point) : ∃ u, (s.goto t p).threads u = q := by
  obtain ⟨u, hu⟩ := h
  refine ⟨u, ?_⟩
  have hne : u ≠ t := fun heq => ht (heq ▸ hu)
  simpa [State.goto, hne] using hu

theorem owner_mem_step (hs : Inv s) (hsessions : Sessions s) (h : Step s a s') (i : Nat) :
    s'.owner i ∈ s'.pids := by
  cases h with
  | create =>
    change Function.update s.owner s.next s.pid i ∈ s.pids
    rw [Function.update_apply]
    split_ifs
    · exact hs.pid_mem
    · exact hsessions.owner_mem i
  | fork => exact List.mem_cons_of_mem _ (hsessions.owner_mem i)
  | close => simpa [State.goto] using hsessions.owner_mem i
  | _ => exact hsessions.owner_mem i

theorem session_lt_step (hsessions : Sessions s) (h : Step s a s') (i : Nat)
    (hi : s'.session = some i) : i < s'.next := by
  cases h with
  | reset | clear => cases hi
  | create => exact Nat.lt_succ_of_lt (hsessions.session_lt i hi)
  | store t j hp => exact Option.some.inj hi ▸ (hsessions.created_open t j hp).1
  | close =>
    simpa [State.goto] using hsessions.session_lt i (session_close.symm.trans hi)
  | _ => exact hsessions.session_lt i hi

theorem created_open_step (hs : Inv s) (hsessions : Sessions s) (h : Step s a s') :
    ∀ t i, s'.threads t = .created i → i < s'.next ∧ s'.closed i = false := by
  have hkeep {p : Point} (t : Nat) (hp : ∀ i, p ≠ .created i) : ∀ u i,
      (s.goto t p).threads u = .created i → i < s.next ∧ s.closed i = false :=
    forall_goto (P := fun _ p => ∀ i, p = .created i → i < s.next ∧ s.closed i = false)
      hsessions.created_open fun i hi => absurd hi (hp i)
  cases h with
  | create t =>
    intro u i hu
    rcases of_goto (P := (· = .created i)) hu with ⟨-, hnew⟩ | ⟨-, hu⟩
    · obtain rfl := Point.created.inj hnew
      refine ⟨Nat.lt_succ_self _, Bool.eq_false_iff.2 fun hclosed => ?_⟩
      exact absurd (hsessions.closed_lt _ hclosed) (Nat.lt_irrefl _)
    · obtain ⟨hlt, hopen⟩ := hsessions.created_open u i hu
      exact ⟨Nat.lt_succ_of_lt hlt, hopen⟩
  | fork => exact fun _ _ hp => by cases hp
  | close t hp =>
    -- the lock is held by the thread that closes
    intro u i hu
    rcases of_goto (P := (· = .created i)) hu with ⟨-, hnew⟩ | ⟨hne, hu⟩
    · cases hnew
    · rw [threads_close] at hu
      exact absurd (hs.eq_of_holds (by rw [hp]; trivial) (by rw [hu]; trivial)) hne
  | get | look | lookAgain | callClose | lookClose => exact hkeep _ fun i => by split_ifs <;> simp
  | _ => exact hkeep _ fun i => by simp

theorem closed_lt_step (hsessions : Sessions s) (h : Step s a s') (i : Nat)
    (hi : s'.closed i = true) : i < s'.next := by
  cases h with
  | create => exact Nat.lt_succ_of_lt (hsessions.closed_lt i hi)
  | close =>
    rw [State.goto, next_close]
    rcases (closed_close i).1 hi with hsession | hclosed
    · exact hsessions.session_lt i hsession
    · exact hsessions.closed_lt i hclosed
  | _ => exact hsessions.closed_lt i hi

theorem clearing_step (hsessions : Sessions s) (h : Step s a s') (i : Nat)
    (hi : s'.session = some i) (howner : s'.owner i = s'.pid) (hclosed : s'.closed i = true) :
    ∃ t, s'.threads t = .clearing := by
  have hkeep {t : Nat} (p : Point) (ht : s.threads t ≠ .clearing) (hi : s.session = some i)
      (howner : s.owner i = s.pid) (hclosed : s.closed i = true) :
      ∃ u, (s.goto t p).threads u = .clearing :=
    threads_goto_of_ne ht (hsessions.clearing i hi howner hclosed) p
  cases h with
  | reset | clear => cases hi
  | fork t pid hidle hpid =>
    have howner : s.owner i = pid := howner
    exact absurd (howner ▸ hsessions.owner_mem i) hpid
  | store t j hp =>
    -- what is stored is open
    obtain rfl := Option.some.inj hi
    cases ((hsessions.created_open t j hp).2).symm.trans hclosed
  | create t hp =>
    have hne : i ≠ s.next := Nat.ne_of_lt (hsessions.session_lt i hi)
    exact hkeep _ (by simp [hp]) hi ((Function.update_of_ne hne _ _).symm.trans howner) hclosed
  | close t => exact ⟨t, by simp [State.goto]⟩
  | get t hp | look t hp | lookAgain t hp | callClose t hp | lookClose t hp | resetPid t hp
  | acquire t hp | createFails t hp | register t hp | release t hp | returns t hp
  | acquireClose t hp | releaseClose t hp =>
    exact hkeep _ (by simp [hp]) hi howner hclosed

theorem parent_step (hs : Inv s) (hsessions : Sessions s) (h : Step s a s') (i : Nat)
    (hi : i < s'.next) (howner : s'.owner i = s'.pid) : s'.parentPid = s'.pid := by
  cases h with
  | resetPid => rfl
  | fork t pid hidle hpid =>
    have howner : s.owner i = pid := howner
    exact absurd (howner ▸ hsessions.owner_mem i) hpid
  -- only a thread that passed makes a session
  | create t hp => exact hs.passed t (by rw [hp]; trivial)
  | close =>
    simp only [State.goto, next_close, owner_close, pid_close, parentPid_close] at hi howner ⊢
    exact hsessions.parent i hi howner
  | _ => exact hsessions.parent i hi howner

theorem registered_step (hsessions : Sessions s) (h : Step s a s') (i : Nat)
    (hi : i < s'.next) (howner : s'.owner i = s'.pid) : s'.cleanupRegistered = true ∨
      ∃ t, s'.threads t = .created i ∨ s'.threads t = .registering := by
  have hkeep {t : Nat} (p : Point) (hi : i < s.next) (howner : s.owner i = s.pid)
      (ht : s.threads t ≠ .created i ∧ s.threads t ≠ .registering) :
      s.cleanupRegistered = true ∨ ∃ u, (s.goto t p).threads u = .created i ∨
        (s.goto t p).threads u = .registering := by
    refine (hsessions.registered i hi howner).imp_right fun ⟨u, hu⟩ => ⟨u, ?_⟩
    have hne : u ≠ t := fun heq => by
      subst heq
      exact hu.elim ht.1 ht.2
    simpa [State.goto, hne] using hu
  cases h with
  | register => exact .inl rfl
  | fork t pid hidle hpid =>
    have howner : s.owner i = pid := howner
    exact absurd (howner ▸ hsessions.owner_mem i) hpid
  | create t hp =>
    by_cases hnext : i = s.next
    · exact .inr ⟨t, .inl (by simp [State.goto, hnext])⟩
    · exact hkeep _ (Nat.lt_of_le_of_ne (Nat.le_of_lt_succ hi) hnext)
        ((Function.update_of_ne hnext _ _).symm.trans howner) (by simp [hp])
  | store t j hp => exact .inr ⟨t, .inr (by simp [State.goto])⟩
  | close t hp =>
    simp only [State.goto, next_close, owner_close, pid_close, cleanupRegistered_close,
      threads_close] at hi howner ⊢
    exact hkeep (t := t) .clearing hi howner (by simp [hp])
  | get t hp | look t hp | lookAgain t hp | callClose t hp | lookClose t hp | reset t hp
  | resetPid t hp | acquire t hp | createFails t hp | release t hp | returns t hp
  | acquireClose t hp | clear t hp | releaseClose t hp =>
    exact hkeep _ hi howner (by simp [hp])

theorem sessions_step (hs : Inv s) (hsessions : Sessions s) (h : Step s a s') : Sessions s' where
  owner_mem := owner_mem_step hs hsessions h
  session_lt := session_lt_step hsessions h
  created_open := created_open_step hs hsessions h
  closed_lt := closed_lt_step hsessions h
  clearing := clearing_step hsessions h
  parent := parent_step hs hsessions h
  registered := registered_step hsessions h

theorem sessions (pid : Nat) (h : Path Step (.new pid) es s) : Inv s ∧ Sessions s := by
  refine h.inv (fun s => Inv s ∧ Sessions s) (fun _ _ => True) ?_ (fun _ _ => trivial)
    ⟨inv_new pid, sessions_new pid⟩
  rintro s a s' ⟨hs, hsessions⟩ - hstep
  exact ⟨inv_step hs hstep, sessions_step hs hsessions hstep⟩

/-- No session is closed or forgotten in a step. -/
def Undisturbed : Action → Prop
  | .reset _ | .close _ | .clear _ => False
  | _ => True

/-- A thread is about to return a session. -/
def Point.Late : Point → Prop
  | registering | leaving | returning => True
  | _ => False

theorem clearing_undisturbed (h : Step s a s') (ha : Undisturbed a)
    (hclear : ∀ u, s.threads u ≠ .clearing) : ∀ u, s'.threads u ≠ .clearing := by
  cases h with
  | reset | close | clear => exact ha.elim
  | fork => exact fun _ hp => by cases hp
  | get | look | lookAgain | callClose | lookClose =>
    exact forall_goto (P := fun _ p => p ≠ .clearing) hclear (by split_ifs <;> simp)
  | _ => exact forall_goto (P := fun _ p => p ≠ .clearing) hclear (by simp)

theorem late_undisturbed (h : Step s a s') (ha : Undisturbed a)
    (hlate : (s.threads t).Late → s.session ≠ none) : (s'.threads t).Late → s'.session ≠ none := by
  have hkeep (u : Nat) (p : Point) (hp : p.Late → s.session ≠ none)
      (h : ((s.goto u p).threads t).Late) : s.session ≠ none := by
    rcases of_goto h with ⟨-, hnew⟩ | ⟨-, hold⟩
    · exact hp hnew
    · exact hlate hold
  cases h with
  | reset | close | clear => exact ha.elim
  | fork => exact fun hp => hp.elim
  | store => exact fun _ => by simp
  | look | lookAgain =>
    -- the thread goes on to return only where it sees a session
    refine hkeep _ _ fun hp hnone => ?_
    rw [if_pos hnone] at hp
    exact hp
  | get | callClose | lookClose =>
    refine hkeep _ _ fun hp => ?_
    split_ifs at hp <;> exact hp.elim
  | register u hp | release u hp =>
    by_cases hu : t = u
    · exact fun _ => hlate (by rw [hu, hp]; trivial)
    · refine fun h => hlate ?_
      simpa [State.goto, hu] using h
  | _ => exact hkeep _ _ fun hp => hp.elim

/-- If no close is under way when a call looks for the session, and none is closed or forgotten
    until it returns, it returns a session that is open. -/
theorem returns_open {pid : Nat} (h : Path Step (.new pid) es s) (ht : s.threads t = .looking)
    (hclear : ∀ u, s.threads u ≠ .clearing) (h' : Path Step s es' s')
    (hes : ∀ e ∈ es', Undisturbed e.2) {result : Option Nat} {s'' : State}
    (hreturns : Step s' (.returns t result) s'') :
    ∃ i, result = some i ∧ s'.closed i = false := by
  obtain ⟨hs, hsessions⟩ := sessions pid h
  have hlate : (s.threads t).Late → s.session ≠ none := by
    rw [ht]
    exact fun hp => hp.elim
  obtain ⟨hs', hsessions', hclear', hlate'⟩ := h'.inv
    (fun s => Inv s ∧ Sessions s ∧ (∀ u, s.threads u ≠ .clearing) ∧
      ((s.threads t).Late → s.session ≠ none)) (fun _ => Undisturbed)
    (fun _ _ _ ⟨hs, hsessions, hclear, hlate⟩ ha hstep =>
      ⟨inv_step hs hstep, sessions_step hs hsessions hstep,
        clearing_undisturbed hstep ha hclear, late_undisturbed hstep ha hlate⟩)
    hes ⟨hs, hsessions, hclear, hlate⟩
  cases hreturns with
  | returns _ hp =>
    cases hsession : s'.session with
    | none => exact absurd hsession (hlate' (by rw [hp]; trivial))
    | some i =>
      refine ⟨i, rfl, Bool.eq_false_iff.2 fun hclosed => ?_⟩
      have howner := hs'.own (.inl (hs'.passed t (by rw [hp]; trivial))) i hsession
      obtain ⟨u, hu⟩ := hsessions'.clearing i hsession howner hclosed
      exact hclear' u hu

/-- A call that makes the session. -/
theorem returns_open_run : ∃ es es' s s' s'', Path Step (.new 1) es s ∧ Path Step s es' s' ∧
    Step s' (.returns 0 (some 0)) s'' ∧ ∃ i, some 0 = some i ∧ s'.closed i = false := by
  have hnil : Path Step (.new 1) [] (.new 1) := .nil
  have hpath := hnil.snoc (.get _ 0 rfl)
  have hnil' : Path Step ((State.new 1).goto 0 .looking) [] ((State.new 1).goto 0 .looking) := .nil
  have hcall := ((((((hnil'.snoc (.look _ 0 rfl)).snoc (.acquire _ 0 rfl rfl)).snoc
    (.lookAgain _ 0 rfl)).snoc (.create _ 0 rfl)).snoc (.store _ 0 0 rfl)).snoc
    (.register _ 0 rfl)).snoc (.release _ 0 rfl)
  have hclear := forall_goto (P := fun _ p => p ≠ .clearing) (s := .new 1) (t := 0) (p := .looking)
    (fun _ => by simp [State.new]) (by simp)
  have hopen := returns_open hpath rfl hclear hcall (by simp [Undisturbed]) (.returns _ 0 rfl)
  exact ⟨_, _, _, _, _, hpath, hcall, .returns _ 0 rfl, hopen⟩

/-! ## How many sessions are open -/

/-- No thread forgets the session once another one has done so in the process. -/
def Single (s : State) (a : Action) : Prop := ∀ t, a = .reset t → s.parentPid ≠ s.pid

/-- A session of the process that is open is the global one, or is stored next. -/
def Kept (s : State) : Prop := ∀ i < s.next, s.owner i = s.pid → s.closed i = false →
  s.session = some i ∨ ∃ t, s.threads t = .created i

theorem kept_step (hs : Inv s) (hsessions : Sessions s) (hkept : Kept s) (ha : Single s a)
    (h : Step s a s') : Kept s' := by
  have hkeep {t : Nat} (p : Point) (ht : ∀ i, s.threads t ≠ .created i) (i : Nat) (hi : i < s.next)
      (howner : s.owner i = s.pid) (hopen : s.closed i = false) :
      s.session = some i ∨ ∃ u, (s.goto t p).threads u = .created i :=
    (hkept i hi howner hopen).imp_right fun hu => threads_goto_of_ne (ht i) hu p
  intro i hi howner hopen
  cases h with
  | reset t hp =>
    -- there is no session of the process yet
    exact absurd (hsessions.parent i hi howner) (ha t rfl)
  | fork t pid hidle hpid =>
    have howner : s.owner i = pid := howner
    exact absurd (howner ▸ hsessions.owner_mem i) hpid
  | create t hp =>
    by_cases hnext : i = s.next
    · exact .inr ⟨t, by simp [State.goto, hnext]⟩
    · exact hkeep _ (by simp [hp]) i (Nat.lt_of_le_of_ne (Nat.le_of_lt_succ hi) hnext)
        ((Function.update_of_ne hnext _ _).symm.trans howner) hopen
  | store t j hp =>
    rcases hkept i hi howner hopen with hsession | ⟨u, hu⟩
    -- there is no global one while the thread holds the lock, so the session is its own
    · cases (hs.empty t (by rw [hp]; trivial)).symm.trans hsession
    · obtain rfl := hs.eq_of_holds (t := t) (by rw [hp]; trivial) (by rw [hu]; trivial)
      rw [Point.created.inj (hp.symm.trans hu)]
      exact .inl rfl
  | close t hp =>
    simp only [State.goto, next_close, owner_close, pid_close, threads_close,
      session_close] at hi howner ⊢
    have hnot : ¬(s.session = some i ∨ s.closed i = true) :=
      fun hclosed => Bool.false_ne_true (hopen.symm.trans ((closed_close i).2 hclosed))
    exact hkeep (t := t) .clearing (by simp [hp]) i hi howner
      (Bool.eq_false_iff.2 fun hclosed => hnot (.inr hclosed))
  | clear t hp =>
    rcases hkept i hi howner hopen with hsession | ⟨u, hu⟩
    · cases hopen.symm.trans (hs.cleared t hp i hsession)
    · have ht : (s.threads t).Holds := by rw [hp]; trivial
      have heq : u = t := hs.eq_of_holds ht (by rw [hu]; trivial)
      rw [heq, hp] at hu
      cases hu
  | get t hp | look t hp | lookAgain t hp | callClose t hp | lookClose t hp | resetPid t hp
  | acquire t hp | createFails t hp | register t hp | release t hp | returns t hp
  | acquireClose t hp | releaseClose t hp =>
    exact hkeep _ (by simp [hp]) i hi howner hopen

/-- The lock is held by a thread that is gone, and the process has no session of its own. -/
structure Stuck (s : State) : Prop where
  lock : s.lock ≠ none
  not_holds : ∀ t, ¬(s.threads t).Holds
  not_returning : ∀ t, s.threads t ≠ .returning
  empty : (s.parentPid = s.pid ∨ ∃ t, s.threads t = .resettingPid) → s.session = none

theorem stuck_fork (hs : Inv s) (hlock : s.lock ≠ none) {pid : Nat} (h : Step s (.fork t pid) s') :
    Stuck s' := by
  cases h with
  | fork _ _ hidle hpid =>
    refine ⟨hlock, fun _ hp => hp.elim, fun _ hp => (by cases hp), ?_⟩
    rintro (heq | ⟨u, hu⟩)
    · have heq : s.parentPid = pid := heq
      exact absurd (heq ▸ hs.parentPid_mem) hpid
    · cases hu

theorem stuck_step (hs : Inv s) (hstuck : Stuck s) (h : Step s a s') :
    Stuck s' ∧ s'.next = s.next ∧ ∀ t result, a ≠ .returns t result := by
  have hgoto {t : Nat} {p : Point} (hholds : ¬p.Holds) (hreturning : p ≠ .returning)
      (hresetting : p ≠ .resettingPid) : Stuck (s.goto t p) := by
    refine ⟨hstuck.lock, forall_goto (P := fun _ p => ¬p.Holds) hstuck.not_holds hholds,
      forall_goto (P := fun _ p => p ≠ .returning) hstuck.not_returning hreturning, fun h => ?_⟩
    refine hstuck.empty (h.imp_right fun ⟨u, hu⟩ => ?_)
    rcases of_goto (P := (· = .resettingPid)) hu with ⟨-, hnew⟩ | ⟨-, hu⟩
    · exact absurd hnew hresetting
    · exact ⟨u, hu⟩
  have hfree {t : Nat} {p : Point} (hp : s.threads t = p) (hholds : p.Holds) : False :=
    hstuck.not_holds t (hp ▸ hholds)
  cases h with
  | get t hp =>
    exact ⟨by split_ifs <;> exact hgoto id (by simp) (by simp), rfl, by simp⟩
  | callClose t hp =>
    exact ⟨by split_ifs <;> exact hgoto id (by simp) (by simp), rfl, by simp⟩
  | reset t hp =>
    refine ⟨⟨hstuck.lock, forall_goto (P := fun _ p => ¬p.Holds) hstuck.not_holds id,
      forall_goto (P := fun _ p => p ≠ .returning) hstuck.not_returning (by simp),
      fun _ => rfl⟩, rfl, by simp⟩
  | resetPid t hp =>
    have hnext := hgoto (t := t) (p := .looking) id (by simp) (by simp)
    exact ⟨⟨hstuck.lock, hnext.not_holds, hnext.not_returning,
      fun _ => hstuck.empty (.inr ⟨t, hp⟩)⟩, rfl, by simp⟩
  | look t hp =>
    -- it finds no session, and goes to wait for the lock
    have hnone := hstuck.empty (.inl (hs.passed t (by rw [hp]; trivial)))
    rw [if_pos hnone]
    exact ⟨hgoto id (by simp) (by simp), rfl, by simp⟩
  -- nobody gets the lock
  | acquire t hp hnone | acquireClose t hp hnone => exact absurd hnone hstuck.lock
  | returns t hp => exact absurd hp (hstuck.not_returning t)
  | fork t pid hidle hpid =>
    exact ⟨stuck_fork hs hstuck.lock (.fork s t pid hidle hpid), rfl, by simp⟩
  | lookAgain t hp | create t hp | createFails t hp | register t hp | release t hp | lookClose t hp
  | close t hp | clear t hp | releaseClose t hp => exact (hfree hp trivial).elim
  | store t i hp => exact (hfree hp trivial).elim

/-- In a process that is forked while the lock is held, and in those that stem from it, no call
    returns, and no session is made. -/
theorem forked_stuck {pid : Nat} (h : Path Step (.new pid) es s) (hlock : s.lock ≠ none)
    {t₀ pid' : Nat} {child : State} (hfork : Step s (.fork t₀ pid') child)
    (h' : Path Step child es' s') :
    (∀ e ∈ es', ∀ t result, e.2 ≠ .returns t result) ∧ s'.next = s.next := by
  have hs := inv pid h
  have hnext : child.next = s.next := by
    cases hfork
    rfl
  have hchild : Inv child ∧ Stuck child ∧ child.next = s.next :=
    ⟨inv_step hs hfork, stuck_fork hs hlock hfork, hnext⟩
  have hkeep : ∀ s₁ a s₂, (Inv s₁ ∧ Stuck s₁ ∧ s₁.next = s.next) → True → Step s₁ a s₂ →
      (Inv s₂ ∧ Stuck s₂ ∧ s₂.next = s.next) ∧ ∀ t result, a ≠ .returns t result := by
    rintro s₁ a s₂ ⟨hs₁, hstuck, heq⟩ - hstep
    obtain ⟨hstuck', heq', hreturns⟩ := stuck_step hs₁ hstuck hstep
    exact ⟨⟨inv_step hs₁ hstep, hstuck', heq'.trans heq⟩, hreturns⟩
  exact ⟨h'.forall_mem _ (fun _ _ => True) (fun _ a => ∀ t result, a ≠ .returns t result) hkeep
    (fun _ _ => trivial) hchild,
    (h'.inv _ (fun _ _ => True) (fun s₁ a s₂ hi hg hstep => (hkeep s₁ a s₂ hi hg hstep).1)
      (fun _ _ => trivial) hchild).2.2⟩

/-- A thread forks the process while another one makes the session, and looks for it then. -/
theorem forked_stuck_run : ∃ es es' s child s', Path Step (.new 1) es s ∧
    Step s (.fork 1 2) child ∧ Path Step child es' s' ∧
      ∀ e ∈ es', ∀ t result, e.2 ≠ .returns t result := by
  have hnil : Path Step (.new 1) [] (.new 1) := .nil
  have hacquired := ((hnil.snoc (.get _ 0 rfl)).snoc (.look _ 0 rfl)).snoc (.acquire _ 0 rfl rfl)
  obtain ⟨es, s, hpath, hlock, hidle, hpid⟩ : ∃ es s, Path Step (.new 1) es s ∧ s.lock ≠ none ∧
      s.threads 1 = .idle ∧ 2 ∉ s.pids := ⟨_, _, hacquired, by simp, rfl, by decide⟩
  have hfork := Step.fork s 1 2 hidle hpid
  have hcall := Path.nil.snoc
    (Step.get { s with pid := 2, pids := 2 :: s.pids, threads := fun _ => .idle } 1 rfl)
  exact ⟨es, _, s, _, _, hpath, hfork, hcall, (forked_stuck hpath hlock hfork hcall).1⟩

end GlobalSession

end CycleTLS
