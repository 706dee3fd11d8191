import CycleTLS.Lib.Machine
import CycleTLS.SSE

/-!
# Handles of streams (`ffi.go`, `sse.py`)

`sseConnect` registers a response under a new handle, and `sseClose` closes it. Two things go
wrong on the way from one to the other:

* `connect` returns with the context of the request cancelled, by the deferred `cancel` of
  `sseConnect`, so no run in which a stream is opened is sound (`soundRun_iff`);
* `close` does nothing once a stream has ended, so a handle is lost then, and all handles have
  been closed exactly in the runs in which no end was found (`released_after_iff`).
-/

namespace CycleTLS

/-! ## Go -/

/-- A connection with the handles of the process: the last one that was made, those made for
    the connection, those whose response was closed, and those whose request was cancelled. -/
structure SSEHandles where
  conn : SSEConnection
  handleIdx : Nat
  opened : List Nat := []
  closed : List Nat := []
  cancelled : List Nat := []

/-- `sseConnect`, for what `Connect` returns: the new handle, or 0. -/
def SSEHandles.sseConnect (resp : Option SSEResponse) (s : SSEHandles) : Nat × SSEHandles :=
  match resp with
  | none => (0, s)
  | some r =>
    let handle := s.handleIdx + 1
    (handle, { s with
      conn := { s.conn with conns := Function.update s.conn.conns handle (some r) }
      handleIdx := handle
      opened := handle :: s.opened
      -- `defer cancel()` runs on each return
      cancelled := handle :: s.cancelled })

/-- `sseClose`. -/
def SSEHandles.sseClose (handlePtr : Nat) (s : SSEHandles) : SSEHandles :=
  if handlePtr = 0 then s
  else
    match s.conn.conns handlePtr with
    | none => s
    | some _ => { s with
        conn := { s.conn with conns := Function.update s.conn.conns handlePtr none }
        closed := handlePtr :: s.closed }

/-! ## Python -/

namespace SSEHandles

variable (s : SSEHandles)

/-- Before anything is connected. -/
def initial (handleIdx : Nat) : SSEHandles := ⟨⟨false, none, fun _ => none⟩, handleIdx, [], [], []⟩

/-- `connect`, for what `Connect` returns. -/
def connect (resp : Option SSEResponse) : SSEHandles :=
  if s.conn.connected then s
  else
    match sseConnect resp s with
    | (0, s) => s
    | (handle, s) => { s with conn := { s.conn with connected := true, handle := some handle } }

/-- `close`. -/
def close : SSEHandles :=
  match s.conn.connected, s.conn.handle with
  | true, some handle =>
    let s := sseClose handle s
    { s with conn := { s.conn with connected := false, handle := none } }
  | _, _ => s

end SSEHandles

/-- What is done with a connection. -/
inductive SSEOp
  /-- `connect`, after some more handles of the process. -/
  | connect (others : Nat) (resp : Option SSEResponse)
  | nextEvent
  | close
  | exit

namespace SSEOp

/-- A stream may be opened. -/
def Connects : SSEOp → Bool
  | connect _ (some _) => true
  | _ => false

def Closes : SSEOp → Bool
  | close => true
  | exit => true
  | _ => false

end SSEOp

namespace SSEHandles

/-- The handles after an operation, and what `next_event` does. -/
def step (s : SSEHandles) : SSEOp → SSEHandles × Option NextEvent
  | .connect others resp => ({ s with handleIdx := s.handleIdx + others }.connect resp, none)
  | .nextEvent => ({ s with conn := s.conn.nextEvent.2 }, some s.conn.nextEvent.1)
  | .close => (s.close, none)
  | .exit => (s.close, none)

/-- The handles after some operations. -/
abbrev after (handleIdx : Nat) (ops : List SSEOp) : SSEHandles :=
  Machine.final step (initial handleIdx) ops

/-- The requests of the responses that are registered have not been cancelled. -/
def Alive (s : SSEHandles) : Prop :=
  ∀ handle, (s.conn.conns handle).isSome = true → handle ∉ s.cancelled

/-- Each handle has been closed once. -/
def Released (s : SSEHandles) : Prop := ∀ handle ∈ s.opened, s.closed.count handle = 1

/-- No request of a registered response is cancelled, no response is closed twice, and each
    `close` or exit leaves none that is not closed. -/
def Sound (handleIdx : Nat) (ops : List SSEOp) : Prop :=
  ∀ pre, pre <+: ops → (after handleIdx pre).Alive ∧
    (∀ handle, (after handleIdx pre).closed.count handle ≤ 1) ∧
      ((∃ op, pre.getLast? = some op ∧ op.Closes) → (after handleIdx pre).Released)

variable {s : SSEHandles} {op : SSEOp}

/-! ## Runs in which nothing is opened -/

/-- Where nothing is connected, only a response changes that. -/
theorem step_of_not_connects (hs : s.conn.connected = false) (hop : op.Connects = false) :
    ∃ handleIdx, (step s op).1 = { s with handleIdx := handleIdx } := by
  have hclose : s.close = s := by
    rw [close, hs]
  cases op with
  | connect others resp =>
    cases resp with
    | some r => cases hop
    | none =>
      refine ⟨s.handleIdx + others, ?_⟩
      rw [step, connect, hs]
      rfl
  | nextEvent =>
    refine ⟨s.handleIdx, ?_⟩
    rw [step, SSEConnection.nextEvent, hs]
  | close => exact ⟨s.handleIdx, hclose⟩
  | exit => exact ⟨s.handleIdx, hclose⟩

theorem after_append (handleIdx : Nat) (ops : List SSEOp) (op : SSEOp) :
    after handleIdx (ops ++ [op]) = (step (after handleIdx ops) op).1 :=
  Machine.final_append step (initial handleIdx) ops [op]

theorem after_of_not_connects (handleIdx : Nat) {ops : List SSEOp}
    (hops : ∀ op ∈ ops, op.Connects = false) :
    ∃ handleIdx', after handleIdx ops = initial handleIdx' := by
  induction ops using List.reverseRecOn with
  | nil => exact ⟨handleIdx, rfl⟩
  | append_singleton ops op ih =>
    rw [List.forall_mem_append, List.forall_mem_singleton] at hops
    obtain ⟨handleIdx', hafter⟩ := ih hops.1
    obtain ⟨handleIdx'', hstep⟩ := step_of_not_connects (s := initial handleIdx') rfl hops.2
    refine ⟨handleIdx'', ?_⟩
    rw [after_append, hafter]
    exact hstep

/-- A stream that is opened has its request cancelled. -/
theorem not_alive_of_connects {handleIdx : Nat} (hop : op.Connects = true) :
    ¬(step (initial handleIdx) op).1.Alive := by
  cases op with
  | connect others resp =>
    cases resp with
    | none => cases hop
    | some r =>
      intro h
      have hself : Function.update (initial handleIdx).conn.conns (handleIdx + others + 1) (some r)
          (handleIdx + others + 1) = some r := by simp only [Function.update_self]
      exact h (handleIdx + others + 1) (congrArg Option.isSome hself) List.mem_cons_self
  | _ => cases hop

/-- Only runs that open no stream are sound. -/
theorem soundRun_iff {handleIdx : Nat} {ops : List SSEOp} :
    Sound handleIdx ops ↔ ∀ op ∈ ops, op.Connects = false := by
  constructor
  · intro h
    induction ops using List.reverseRecOn with
    | nil => exact fun _ hop => absurd hop List.not_mem_nil
    | append_singleton ops op ih =>
      have hops := ih fun pre hpre => h pre (hpre.trans (List.prefix_append _ _))
      obtain ⟨handleIdx', hafter⟩ := after_of_not_connects handleIdx hops
      have halive := (h _ (List.prefix_refl _)).1
      rw [after_append, hafter] at halive
      refine List.forall_mem_append.2 ⟨hops, List.forall_mem_singleton.2 ?_⟩
      exact Bool.eq_false_iff.2 fun hop => not_alive_of_connects hop halive
  · intro hops pre hpre
    obtain ⟨handleIdx', hafter⟩ := after_of_not_connects handleIdx fun op hop =>
      hops op (hpre.subset hop)
    rw [hafter]
    exact ⟨nofun, fun _ => Nat.zero_le _, fun _ _ hmem => absurd hmem List.not_mem_nil⟩

/-- One stream that is opened and closed. -/
theorem not_forall_soundRun : ¬∀ (handleIdx : Nat) (ops : List SSEOp), Sound handleIdx ops := by
  intro h
  have hprefix : [SSEOp.connect 0 (some ⟨[], none⟩)] <+:
      [.connect 0 (some ⟨[], none⟩), .close] := List.prefix_append _ [SSEOp.close]
  exact not_alive_of_connects rfl (h 0 _ _ hprefix).1

/-! ## Handles that are lost -/

/-- The registered handles are those that were opened and not closed; the one of a connection
    is among them. -/
structure Inv (s : SSEHandles) : Prop where
  opened : ∀ handle ∈ s.opened, handle ≠ 0 ∧ handle ≤ s.handleIdx
  closed : s.closed.Nodup ∧ s.closed ⊆ s.opened
  registered : ∀ handle, (s.conn.conns handle).isSome = true ↔
    handle ∈ s.opened ∧ handle ∉ s.closed
  current : s.conn.connected = true →
    ∃ handle, s.conn.handle = some handle ∧ (s.conn.conns handle).isSome = true

/-- A registered handle is not the one of the connection. -/
def Lost (s : SSEHandles) : Prop :=
  ∃ handle, (s.conn.conns handle).isSome = true ∧
    ¬(s.conn.connected = true ∧ s.conn.handle = some handle)

theorem inv_initial (handleIdx : Nat) : (initial handleIdx).Inv where
  opened := fun _ hmem => absurd hmem List.not_mem_nil
  closed := ⟨List.nodup_nil, List.nil_subset _⟩
  registered := fun _ => iff_of_false nofun fun h => absurd h.1 List.not_mem_nil
  current := nofun

/-- Other handles of the process do not matter. -/
theorem Inv.others (h : s.Inv) (n : Nat) : Inv { s with handleIdx := s.handleIdx + n } where
  opened := fun handle hmem =>
    ⟨(h.opened handle hmem).1, Nat.le_add_right_of_le (h.opened handle hmem).2⟩
  closed := h.closed
  registered := h.registered
  current := h.current

/-- A new handle is the one of the connection, so that none gets lost. -/
theorem Inv.connect (h : s.Inv) (resp : Option SSEResponse) :
    (s.connect resp).Inv ∧ ((s.connect resp).Lost ↔ s.Lost) := by
  rw [SSEHandles.connect]
  split_ifs with hconnected
  · exact ⟨h, Iff.rfl⟩
  cases resp with
  | none => exact ⟨h, Iff.rfl⟩
  | some r =>
    have hnew : s.handleIdx + 1 ∉ s.opened := fun hmem =>
      Nat.not_succ_le_self _ (h.opened _ hmem).2
    have hnone : ¬(s.conn.conns (s.handleIdx + 1)).isSome = true := fun hsome =>
      hnew ((h.registered _).1 hsome).1
    have hsome (handle : Nat) :
        (Function.update s.conn.conns (s.handleIdx + 1) (some r) handle).isSome = true ↔
          handle = s.handleIdx + 1 ∨ (s.conn.conns handle).isSome = true := by
      by_cases heq : handle = s.handleIdx + 1
      · rw [heq, Function.update_self]
        exact iff_of_true rfl (.inl rfl)
      · rw [Function.update_of_ne heq, or_iff_right heq]
    refine ⟨⟨?_, ⟨h.closed.1, fun _ hmem => List.mem_cons_of_mem _ (h.closed.2 hmem)⟩, ?_, ?_⟩, ?_⟩
    · refine List.forall_mem_cons.2 ⟨⟨Nat.succ_ne_zero _, Nat.le_refl _⟩, fun handle hmem => ?_⟩
      exact ⟨(h.opened handle hmem).1, Nat.le_succ_of_le (h.opened handle hmem).2⟩
    · intro handle
      refine (hsome handle).trans ?_
      change _ ↔ handle ∈ (s.handleIdx + 1) :: s.opened ∧ handle ∉ s.closed
      rw [h.registered, List.mem_cons]
      constructor
      · rintro (rfl | ⟨hopened, hclosed⟩)
        · exact ⟨.inl rfl, fun hmem => hnew (h.closed.2 hmem)⟩
        · exact ⟨.inr hopened, hclosed⟩
      · rintro ⟨rfl | hopened, hclosed⟩
        · exact .inl rfl
        · exact .inr ⟨hopened, hclosed⟩
    · exact fun _ => ⟨_, rfl, (hsome _).2 (.inl rfl)⟩
    · constructor
      · rintro ⟨handle, hregistered, hcurrent⟩
        rcases (hsome handle).1 hregistered with rfl | hregistered
        · exact absurd ⟨rfl, rfl⟩ hcurrent
        · exact ⟨handle, hregistered, fun hboth => hconnected hboth.1⟩
      · rintro ⟨handle, hregistered, -⟩
        refine ⟨handle, (hsome handle).2 (.inr hregistered), ?_⟩
        rintro ⟨-, heq⟩
        exact hnone (Option.some.inj heq ▸ hregistered)

/-- At the end of a stream, the handle of the connection gets lost. -/
theorem Inv.nextEvent (h : s.Inv) :
    (step s .nextEvent).1.Inv ∧
      ((step s .nextEvent).1.Lost ↔ s.Lost ∨ s.conn.nextEvent.1.isEnded = true) := by
  cases hconnected : s.conn.connected with
  | false =>
    have hnext : s.conn.nextEvent =
        (.sseError (packText "SSE connection is not active"), s.conn) := by
      rw [SSEConnection.nextEvent, hconnected]
    have hstep : (step s .nextEvent).1 = s := by
      rw [step, hnext]
    rw [hstep, hnext, or_iff_left nofun]
    exact ⟨h, Iff.rfl⟩
  | true =>
    obtain ⟨handle, hhandle, hsome⟩ := h.current hconnected
    obtain ⟨r, hr⟩ := Option.isSome_iff_exists.1 hsome
    have hzero := (h.opened handle ((h.registered handle).1 hsome).1).1
    have hnext := SSEConnection.nextEvent_eq hconnected hhandle hzero hr
    have hconns (k : Nat) : (Function.update s.conn.conns handle (some r.nextEvent.2) k).isSome =
        (s.conn.conns k).isSome := by
      by_cases heq : k = handle
      · rw [heq, Function.update_self, hsome]
        rfl
      · rw [Function.update_of_ne heq]
    rw [step, hnext]
    refine ⟨⟨h.opened, h.closed, fun k => ?_, fun _ => ?_⟩, ?_⟩
    · exact (hconns k ▸ h.registered k :)
    · exact ⟨handle, rfl, (hconns handle).trans hsome⟩
    · simp only [Lost, hconns, hconnected, hhandle, true_and]
      cases hended : (NextEvent.ofResult r.nextEvent.1).isEnded with
      | false => simp
      | true =>
        refine iff_of_true ⟨handle, hsome, ?_⟩ (.inr rfl)
        simp

/-- `close` closes the handle of the connection, and no other. -/
theorem Inv.close (h : s.Inv) :
    s.close.Inv ∧ (s.close.Lost ↔ s.Lost) ∧ s.close.conn.connected = false := by
  cases hconnected : s.conn.connected with
  | false =>
    have hclose : s.close = s := by rw [SSEHandles.close, hconnected]
    rw [hclose]
    exact ⟨h, Iff.rfl, hconnected⟩
  | true =>
    obtain ⟨handle, hhandle, hsome⟩ := h.current hconnected
    obtain ⟨r, hr⟩ := Option.isSome_iff_exists.1 hsome
    obtain ⟨hopened, hclosed⟩ := (h.registered handle).1 hsome
    have hclose : s.close = { s with
        conn := ⟨false, none, Function.update s.conn.conns handle none⟩
        closed := handle :: s.closed } := by
      rw [SSEHandles.close, hconnected, hhandle]
      simp only [sseClose, if_neg (h.opened handle hopened).1, hr]
    have hregistered (k : Nat) : (Function.update s.conn.conns handle none k).isSome = true ↔
        (s.conn.conns k).isSome = true ∧ k ≠ handle := by
      by_cases heq : k = handle
      · rw [heq, Function.update_self]
        exact iff_of_false nofun fun h => h.2 rfl
      · rw [Function.update_of_ne heq, and_iff_left heq]
    rw [hclose]
    refine ⟨⟨h.opened, ⟨List.nodup_cons.2 ⟨hclosed, h.closed.1⟩, ?_⟩, fun k => ?_, nofun⟩, ?_, rfl⟩
    · exact List.cons_subset.2 ⟨hopened, h.closed.2⟩
    · rw [hregistered, h.registered, List.mem_cons, not_or, and_assoc, and_comm (a := k ∉ s.closed)]
    · simp only [Lost, hregistered, hconnected, hhandle, true_and]
      constructor
      · rintro ⟨k, ⟨hk, hne⟩, -⟩
        exact ⟨k, hk, fun heq => hne (Option.some.inj heq).symm⟩
      · rintro ⟨k, hk, hne⟩
        exact ⟨k, ⟨hk, fun heq => hne (congrArg some heq.symm)⟩, nofun⟩

/-- The operation finds the end of a stream. -/
def Ends (next : Option NextEvent) : Prop := ∃ n, next = some n ∧ n.isEnded = true

/-- Only the end of a stream loses a handle. -/
theorem Inv.step (h : s.Inv) (op : SSEOp) : (SSEHandles.step s op).1.Inv ∧
    ((SSEHandles.step s op).1.Lost ↔ s.Lost ∨ Ends (SSEHandles.step s op).2) := by
  have hnone : ¬Ends none := nofun
  cases op with
  | connect others resp =>
    obtain ⟨hinv, hlost⟩ := (h.others others).connect resp
    exact ⟨hinv, hlost.trans (or_iff_left hnone).symm⟩
  | nextEvent =>
    obtain ⟨hinv, hlost⟩ := h.nextEvent
    refine ⟨hinv, hlost.trans (or_congr_right ⟨fun hended => ⟨_, rfl, hended⟩, ?_⟩)⟩
    rintro ⟨_, ⟨⟩, hended⟩
    exact hended
  | close => exact ⟨h.close.1, h.close.2.1.trans (or_iff_left hnone).symm⟩
  | exit => exact ⟨h.close.1, h.close.2.1.trans (or_iff_left hnone).symm⟩

/-- Handles are lost in the runs in which the end of a stream is found. -/
theorem Inv.final (h : s.Inv) (ops : List SSEOp) : (Machine.final SSEHandles.step s ops).Inv ∧
    ((Machine.final SSEHandles.step s ops).Lost ↔
      s.Lost ∨ ∃ t ∈ Machine.trace SSEHandles.step s ops, Ends t.output) := by
  induction ops generalizing s with
  | nil => exact ⟨h, (or_iff_left fun ⟨_, hmem, _⟩ => nomatch hmem).symm⟩
  | cons op ops ih =>
    obtain ⟨hinv, hlost⟩ := h.step op
    obtain ⟨hfinal, hlosts⟩ := ih hinv
    refine ⟨hfinal, hlosts.trans ?_⟩
    simp only [hlost, or_assoc, Machine.trace, List.mem_cons, exists_eq_or_imp]

/-- Without a connection, each handle is closed once exactly if none is lost. -/
theorem Inv.released_iff (h : s.Inv) (hconnected : s.conn.connected = false) :
    s.Released ↔ ¬s.Lost := by
  have hcount {handle : Nat} : s.closed.count handle = 1 ↔ handle ∈ s.closed :=
    ⟨fun hone => List.count_pos_iff.1 (hone ▸ Nat.one_pos), List.count_eq_one_of_mem h.closed.1⟩
  simp only [Released, hcount, Lost, hconnected, h.registered]
  constructor
  · rintro hall ⟨handle, ⟨hopened, hclosed⟩, -⟩
    exact hclosed (hall handle hopened)
  · intro hlost handle hopened
    by_contra hclosed
    exact hlost ⟨handle, ⟨hopened, hclosed⟩, nofun⟩

/-- After a close, all handles have been closed once, exactly if no end of a stream was found
    before. No handle is closed twice. -/
theorem released_after_iff {handleIdx : Nat} {ops : List SSEOp} {op : SSEOp}
    (hop : op.Closes = true) : (after handleIdx (ops ++ [op])).Released ↔
      ∀ t ∈ Machine.trace step (initial handleIdx) ops, ¬Ends t.output := by
  obtain ⟨hinv, hlost⟩ := (inv_initial handleIdx).final ops
  have hnot : ¬(initial handleIdx).Lost := fun ⟨_, hsome, _⟩ => nomatch hsome
  have hstep : (step (after handleIdx ops) op).1 = (after handleIdx ops).close := by
    cases op with
    | close => rfl
    | exit => rfl
    | _ => cases hop
  obtain ⟨hclose, hcloseLost, hconnected⟩ := hinv.close
  rw [after_append, hstep, hclose.released_iff hconnected, hcloseLost, hlost, or_iff_right hnot]
  simp only [not_exists, not_and]

theorem count_closed_le_one (handleIdx : Nat) (ops : List SSEOp) (handle : Nat) :
    (after handleIdx ops).closed.count handle ≤ 1 :=
  List.nodup_iff_count_le_one.1 ((inv_initial handleIdx).final ops).1.closed.1 handle

end SSEHandles

end CycleTLS
