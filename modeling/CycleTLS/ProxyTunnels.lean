import CycleTLS.Lib.Machine

/-!
# Tunnels over one connection to a proxy (`connect.go`)

A `connectDialer` keeps the connection of its last tunnel over HTTP/2, and opens further tunnels
over it as long as it can take new requests. Where a CONNECT request fails, `connectHTTP2` closes
the raw connection, and does so for a new one as for the one that was kept: the tunnels that are
open over it break (`keepsTunnels_iff`).
-/

namespace CycleTLS

/-- What comes of a CONNECT request. -/
inductive ConnectReply
  | failed
  | status (code : Nat)
  deriving DecidableEq

/-- The request is granted. -/
def ConnectReply.granted (reply : ConnectReply) : Bool := reply = .status 200

/-- What comes of a new connection to a proxy. -/
inductive NewConnection
  /-- The dial or the handshake fails. -/
  | dialFails
  /-- The negotiated protocol is none or `http/1.1`. -/
  | http1 (reply : ConnectReply)
  /-- It is `h2`, for which a `ClientConn` may not be made. -/
  | h2 (clientConn : Bool) (reply : ConnectReply)
  /-- It is another one. -/
  | unsupported
  deriving DecidableEq

/-- What the network does for a call of `DialContext`: whether the kept connection can take a new
    request, what comes of it there, and what comes of a new connection. -/
structure ConnectAttempt where
  canTakeNewRequest : Bool
  reused : ConnectReply
  fresh : NewConnection

/-- A tunnel, over the raw connection `conn`. -/
structure Tunnel where
  conn : Nat
  h2 : Bool
  deriving DecidableEq

/-- A dialer, with its connections and tunnels. -/
structure DialerState where
  /-- The number of the next raw connection. -/
  next : Nat
  /-- The raw connections that were closed. -/
  closed : Nat → Bool
  /-- Those that the network lost. -/
  lost : Nat → Bool
  /-- `cachedH2RawConn`, and its client connection. -/
  cached : Option Nat
  /-- The tunnels that were opened, and that their users did not close. -/
  tunnels : List Tunnel

namespace DialerState

/-- `newConnectDialer`. -/
def new : DialerState := ⟨0, fun _ => false, fun _ => false, none, []⟩

variable (s : DialerState)

/-- Closes a raw connection. -/
def close (conn : Nat) : DialerState :=
  { s with closed := Function.update s.closed conn true }

/-- Opens a tunnel. -/
def openTunnel (t : Tunnel) : DialerState := { s with tunnels := t :: s.tunnels }

/-- `connectHTTP2`, and whether it returns a tunnel. -/
def connectHTTP2 (conn : Nat) (reply : ConnectReply) : DialerState × Bool :=
  if reply.granted then (s.openTunnel ⟨conn, true⟩, true) else (s.close conn, false)

/-- `connectHTTP1`. -/
def connectHTTP1 (conn : Nat) (reply : ConnectReply) : DialerState × Bool :=
  if reply.granted then (s.openTunnel ⟨conn, false⟩, true) else (s.close conn, false)

/-- A tunnel over a new connection. -/
def dial (fresh : NewConnection) : DialerState × Bool :=
  let conn := s.next
  let s := { s with next := s.next + 1 }
  match fresh with
  | .dialFails => (s, false)
  | .http1 reply => s.connectHTTP1 conn reply
  | .h2 clientConn reply =>
    if !clientConn then (s.close conn, false)
    else
      match s.connectHTTP2 conn reply with
      | (s, true) => ({ s with cached := some conn }, true)
      | (s, false) => (s.close conn, false)
  | .unsupported => (s.close conn, false)

/-- The connection that an attempt reuses. -/
def reuses (a : ConnectAttempt) : Option Nat :=
  if a.canTakeNewRequest then s.cached else none

/-- `DialContext`. -/
def dialContext (a : ConnectAttempt) : DialerState × Bool :=
  match s.reuses a with
  | some conn =>
    match s.connectHTTP2 conn a.reused with
    | (s, true) => (s, true)
    | (s, false) => s.dial a.fresh
  | none => s.dial a.fresh

/-- The user of a tunnel closes it, and with it its connection over HTTP/1. -/
def closeTunnel (t : Tunnel) : DialerState :=
  let s := { s with tunnels := s.tunnels.erase t }
  if t.h2 then s else s.close t.conn

/-- What happens to a dialer. -/
inductive Event
  | attempt (a : ConnectAttempt)
  | closeTunnel (t : Tunnel)
  /-- The network loses a raw connection. -/
  | lose (conn : Nat)

/-- What happens, and whether a tunnel is returned. -/
def step : Event → DialerState × Bool
  | .attempt a => s.dialContext a
  | .closeTunnel t => (s.closeTunnel t, false)
  | .lose conn => ({ s with lost := Function.update s.lost conn true }, false)

/-! ## Runs -/

/-- A raw connection works. -/
def Alive (conn : Nat) : Prop := s.closed conn = false ∧ s.lost conn = false

/-- A connection that can take a new request is alive, and only open tunnels are closed. -/
def Feasible : Event → Prop
  | .attempt a => a.canTakeNewRequest = true → ∀ conn, s.cached = some conn → s.Alive conn
  | .closeTunnel t => t ∈ s.tunnels
  | .lose _ => True

/-- No open tunnel has its connection closed. -/
def Independent : Prop := ∀ t ∈ s.tunnels, s.closed t.conn = false

/-- An attempt over the connection that was kept fails, while a tunnel is open over it. -/
def Breaks : Event → Prop
  | .attempt a => a.reused.granted = false ∧ ∃ t ∈ s.tunnels, s.reuses a = some t.conn
  | _ => False

/-- The connections of a dialer are numbered in their order, a tunnel over HTTP/1 has one of its
    own, and the one that is kept is for HTTP/2. -/
structure Ordered : Prop where
  tunnels_lt : ∀ t ∈ s.tunnels, t.conn < s.next
  cached_lt : ∀ conn, s.cached = some conn → conn < s.next
  unclosed : ∀ conn, s.next ≤ conn → s.closed conn = false
  own : s.tunnels.Pairwise fun t u => t.conn = u.conn → t.h2 = true ∧ u.h2 = true
  cached_h2 : ∀ t ∈ s.tunnels, s.cached = some t.conn → t.h2 = true

variable {s}

theorem dialContext_of_none {a : ConnectAttempt} (h : s.reuses a = none) :
    s.dialContext a = s.dial a.fresh := by
  rw [dialContext, h]

theorem dialContext_of_granted {a : ConnectAttempt} {conn : Nat} (h : s.reuses a = some conn)
    (hreply : a.reused.granted = true) :
    s.dialContext a = (s.openTunnel ⟨conn, true⟩, true) := by
  rw [dialContext, h]
  dsimp only
  rw [connectHTTP2.eq_def, if_pos hreply]

/-- The connection that was kept is closed, and another one is dialed. -/
theorem dialContext_of_failed {a : ConnectAttempt} {conn : Nat} (h : s.reuses a = some conn)
    (hreply : a.reused.granted = false) : s.dialContext a = (s.close conn).dial a.fresh := by
  rw [dialContext, h]
  dsimp only
  rw [connectHTTP2.eq_def, if_neg (by rw [hreply]; exact Bool.false_ne_true)]

/-- The connection that is reused is the one that was kept, if it can take a new request. -/
theorem reuses_eq_some_iff {a : ConnectAttempt} {conn : Nat} :
    s.reuses a = some conn ↔ a.canTakeNewRequest = true ∧ s.cached = some conn := by
  rw [reuses]
  split_ifs with hcan
  · exact (and_iff_right hcan).symm
  · exact iff_of_false nofun fun h => hcan h.1

theorem ordered_new : new.Ordered := ⟨nofun, nofun, fun _ _ => rfl, .nil, nofun⟩

/-- What comes of a new connection: no tunnel, and it may be closed, or a tunnel over it. -/
inductive Dials (s s' : DialerState) : Prop
  | fails : s'.next = s.next + 1 → s'.cached = s.cached → s'.tunnels = s.tunnels →
      (∀ conn ≠ s.next, s'.closed conn = s.closed conn) → Dials s s'
  | opens (h2 : Bool) : s'.next = s.next + 1 → s'.cached = (if h2 then some s.next else s.cached) →
      s'.tunnels = ⟨s.next, h2⟩ :: s.tunnels → s'.closed = s.closed → Dials s s'

theorem dials (s : DialerState) (fresh : NewConnection) : Dials s (s.dial fresh).1 := by
  have hclosed (conn : Nat) (hne : conn ≠ s.next) :
      Function.update s.closed s.next true conn = s.closed conn := Function.update_of_ne hne _ _
  cases fresh with
  | dialFails => exact .fails rfl rfl rfl fun _ _ => rfl
  | http1 reply =>
    simp only [dial, connectHTTP1]
    split_ifs
    · exact .opens false rfl rfl rfl rfl
    · exact .fails rfl rfl rfl hclosed
  | h2 clientConn reply =>
    cases clientConn with
    | false => exact .fails rfl rfl rfl hclosed
    | true =>
      simp only [dial, connectHTTP2, Bool.not_true, Bool.false_eq_true, if_false]
      cases hgranted : reply.granted with
      | true => exact .opens true rfl rfl rfl rfl
      | false =>
        -- it is closed twice
        refine .fails rfl rfl rfl fun conn hne => ?_
        exact (Function.update_of_ne hne _ _).trans (hclosed conn hne)
  | unsupported => exact .fails rfl rfl rfl hclosed

theorem Ordered.dials {s' : DialerState} (h : s.Ordered) (hd : Dials s s') : s'.Ordered := by
  cases hd with
  | fails hnext hcached htunnels hclosed =>
    refine ⟨fun t ht => ?_, fun conn hc => ?_, fun conn hle => ?_, ?_, fun t ht hc => ?_⟩
    · rw [htunnels] at ht
      exact hnext ▸ Nat.lt_succ_of_lt (h.tunnels_lt t ht)
    · rw [hcached] at hc
      exact hnext ▸ Nat.lt_succ_of_lt (h.cached_lt conn hc)
    · rw [hclosed conn (by omega)]
      exact h.unclosed conn (by omega)
    · rw [htunnels]
      exact h.own
    · rw [htunnels] at ht
      rw [hcached] at hc
      exact h.cached_h2 t ht hc
  | opens h2 hnext hcached htunnels hclosed =>
    have hold (t : Tunnel) (ht : t ∈ s.tunnels) : t.conn ≠ s.next :=
      Nat.ne_of_lt (h.tunnels_lt t ht)
    refine ⟨fun t ht => ?_, fun conn hc => ?_, fun conn hle => ?_, ?_, fun t ht hc => ?_⟩
    · rw [htunnels] at ht
      rcases List.mem_cons.1 ht with rfl | ht
      · exact hnext ▸ Nat.lt_succ_self _
      · exact hnext ▸ Nat.lt_succ_of_lt (h.tunnels_lt t ht)
    · rw [hcached] at hc
      split_ifs at hc
      · cases hc
        exact hnext ▸ Nat.lt_succ_self _
      · exact hnext ▸ Nat.lt_succ_of_lt (h.cached_lt conn hc)
    · rw [hclosed]
      exact h.unclosed conn (by omega)
    · rw [htunnels, List.pairwise_cons]
      exact ⟨fun t ht hconn => absurd hconn.symm (hold t ht), h.own⟩
    · rw [htunnels] at ht
      rw [hcached] at hc
      cases h2 with
      | false =>
        rcases List.mem_cons.1 ht with rfl | ht
        · exact absurd (h.cached_lt _ hc) (Nat.lt_irrefl _)
        · exact h.cached_h2 t ht hc
      | true =>
        rcases List.mem_cons.1 ht with rfl | ht
        · rfl
        · exact absurd (Option.some.inj hc).symm (hold t ht)

theorem Ordered.close (h : s.Ordered) {conn : Nat} (hlt : conn < s.next) :
    (s.close conn).Ordered where
  tunnels_lt := h.tunnels_lt
  cached_lt := h.cached_lt
  unclosed c hle :=
    (Function.update_of_ne (Nat.ne_of_gt (Nat.lt_of_lt_of_le hlt hle)) _ _).trans
      (h.unclosed c hle)
  own := h.own
  cached_h2 := h.cached_h2

theorem Ordered.openTunnel (h : s.Ordered) {conn : Nat} (hcached : s.cached = some conn) :
    (s.openTunnel ⟨conn, true⟩).Ordered where
  tunnels_lt := List.forall_mem_cons.2 ⟨h.cached_lt conn hcached, h.tunnels_lt⟩
  cached_lt := h.cached_lt
  unclosed := h.unclosed
  own := by
    refine List.pairwise_cons.2 ⟨fun t ht hconn => ⟨rfl, h.cached_h2 t ht ?_⟩, h.own⟩
    exact hcached.trans (congrArg some hconn)
  cached_h2 := List.forall_mem_cons.2 ⟨fun _ => rfl, h.cached_h2⟩

theorem Ordered.erase (h : s.Ordered) (t : Tunnel) :
    ({ s with tunnels := s.tunnels.erase t } : DialerState).Ordered where
  tunnels_lt u hu := h.tunnels_lt u (List.mem_of_mem_erase hu)
  cached_lt := h.cached_lt
  unclosed := h.unclosed
  own := h.own.sublist List.erase_sublist
  cached_h2 u hu := h.cached_h2 u (List.mem_of_mem_erase hu)

theorem ordered_dialContext (h : s.Ordered) (a : ConnectAttempt) :
    (s.dialContext a).1.Ordered := by
  cases hreuses : s.reuses a with
  | none =>
    rw [dialContext_of_none hreuses]
    exact h.dials (s.dials a.fresh)
  | some conn =>
    have hcached := (reuses_eq_some_iff.1 hreuses).2
    cases hgranted : a.reused.granted with
    | true =>
      rw [dialContext_of_granted hreuses hgranted]
      exact h.openTunnel hcached
    | false =>
      rw [dialContext_of_failed hreuses hgranted]
      exact (h.close (h.cached_lt conn hcached)).dials (dials _ _)

theorem ordered_step (h : s.Ordered) (e : Event) (hfeasible : s.Feasible e) :
    (s.step e).1.Ordered := by
  cases e with
  | attempt a => exact ordered_dialContext h a
  | closeTunnel t =>
    change (s.closeTunnel t).Ordered
    rw [closeTunnel]
    split_ifs
    · exact h.erase t
    · exact (h.erase t).close (h.tunnels_lt t hfeasible)
  | lose conn => exact ⟨h.tunnels_lt, h.cached_lt, h.unclosed, h.own, h.cached_h2⟩

/-! ## What breaks a tunnel -/

theorem independent_close_iff {conn : Nat} :
    (s.close conn).Independent ↔ s.Independent ∧ ∀ t ∈ s.tunnels, t.conn ≠ conn := by
  rw [Independent, Independent, ← forall₂_and]
  refine forall₂_congr fun t _ => ?_
  by_cases hconn : t.conn = conn
  · simp [close, hconn]
  · simp [close, hconn]

theorem independent_dials_iff {s' : DialerState} (h : s.Ordered) (hd : Dials s s') :
    s'.Independent ↔ s.Independent := by
  cases hd with
  | fails _ _ htunnels hclosed =>
    rw [Independent, Independent, htunnels]
    refine forall₂_congr fun t ht => ?_
    rw [hclosed t.conn (Nat.ne_of_lt (h.tunnels_lt t ht))]
  | opens _ _ _ htunnels hclosed =>
    rw [Independent, Independent, htunnels, hclosed, List.forall_mem_cons]
    exact and_iff_right (h.unclosed s.next (Nat.le_refl _))

/-- An attempt breaks a tunnel exactly if it fails over the connection of the tunnel. -/
theorem independent_dialContext_iff (h : s.Ordered) (hs : s.Independent) {a : ConnectAttempt}
    (hfeasible : s.Feasible (.attempt a)) :
    (s.dialContext a).1.Independent ↔ ¬s.Breaks (.attempt a) := by
  rw [Breaks]
  cases hreuses : s.reuses a with
  | none =>
    rw [dialContext_of_none hreuses, independent_dials_iff h (s.dials a.fresh)]
    exact iff_of_true hs nofun
  | some conn =>
    have hcan := reuses_eq_some_iff.1 hreuses
    cases hgranted : a.reused.granted with
    | true =>
      rw [dialContext_of_granted hreuses hgranted]
      refine iff_of_true (List.forall_mem_cons.2 ⟨?_, hs⟩) fun hbreaks => nomatch hbreaks.1
      exact (hfeasible hcan.1 conn hcan.2).1
    | false =>
      have hlt := h.cached_lt conn hcan.2
      rw [dialContext_of_failed hreuses hgranted,
        independent_dials_iff (h.close hlt) (dials _ _), independent_close_iff, and_iff_right hs]
      simp [eq_comm]

theorem independent_step_iff (h : s.Ordered) (hs : s.Independent) (e : Event)
    (hfeasible : s.Feasible e) : (s.step e).1.Independent ↔ ¬s.Breaks e := by
  cases e with
  | attempt a => exact independent_dialContext_iff h hs hfeasible
  | lose conn => exact iff_of_true hs not_false
  | closeTunnel t =>
    refine iff_of_true ?_ not_false
    have hrest : ({ s with tunnels := s.tunnels.erase t } : DialerState).Independent :=
      fun u hu => hs u (List.mem_of_mem_erase hu)
    change (s.closeTunnel t).Independent
    rw [closeTunnel]
    cases h2 : t.h2 with
    | true => exact hrest
    | false =>
      refine independent_close_iff.2 ⟨hrest, fun u hu hconn => ?_⟩
      -- no other tunnel has the connection of a tunnel over HTTP/1
      have hown := (List.perm_cons_erase hfeasible).pairwise h.own
        (fun hxy hyx => (hxy hyx.symm).symm)
      have hboth := (List.pairwise_cons.1 hown).1 u hu hconn.symm
      rw [h2] at hboth
      cases hboth.1

/-- In a run, no open tunnel ever has its connection closed, and only connections that are alive are
    reused. -/
structure KeepsTunnels (events : List Event) : Prop where
  independent : ∀ pre, pre <+: events → (Machine.final step new pre).Independent
  reused : ∀ t ∈ Machine.trace step new events, ∀ a, t.event = .attempt a →
    ∀ conn, t.before.reuses a = some conn → t.before.Alive conn

/-- A run keeps its tunnels exactly if no attempt over the kept connection fails while a tunnel is
    open over it. -/
theorem keepsTunnels_iff (events : List Event)
    (h : ∀ t ∈ Machine.trace step new events, t.before.Feasible t.event) :
    KeepsTunnels events ↔ ∀ t ∈ Machine.trace step new events, ¬t.before.Breaks t.event := by
  have hstep (s : DialerState) (e : Event) (hs : s.Ordered) (hfeasible : s.Feasible e)
      (hind : s.Independent) : (s.step e).1.Independent ↔ ¬s.Breaks e :=
    independent_step_iff hs hind e hfeasible
  have hkept := Machine.forall_prefix_iff_of_guard step (fun s e hs => ordered_step hs e) hstep
    ordered_new (nofun : new.Independent) h
  refine ⟨fun hkeeps => hkept.1 hkeeps.independent, fun hnot => ⟨hkept.2 hnot, ?_⟩⟩
  intro t ht a ha conn hreuses
  have hfeasible := h t ht
  rw [ha] at hfeasible
  obtain ⟨hcan, hcached⟩ := reuses_eq_some_iff.1 hreuses
  exact hfeasible hcan conn hcached

/-- Two attempts, the first over a new connection and the second over the same. -/
def twoAttempts (reply : ConnectReply) : List Event :=
  [.attempt ⟨false, .failed, .h2 true (.status 200)⟩, .attempt ⟨true, reply, .dialFails⟩]

theorem feasible_twoAttempts (reply : ConnectReply) :
    ∀ t ∈ Machine.trace step new (twoAttempts reply), t.before.Feasible t.event := by
  refine List.forall_mem_cons.2 ⟨nofun, List.forall_mem_cons.2 ⟨fun _ conn hconn => ?_, nofun⟩⟩
  cases hconn
  exact ⟨rfl, rfl⟩

theorem keepsTunnels_granted : KeepsTunnels (twoAttempts (.status 200)) := by
  have hfirst : ¬new.Breaks (.attempt ⟨false, .failed, .h2 true (.status 200)⟩) := by
    rintro ⟨-, t, ht, -⟩
    cases ht
  have hsecond (s : DialerState) : ¬s.Breaks (.attempt ⟨true, .status 200, .dialFails⟩) :=
    fun h => nomatch h.1
  exact (keepsTunnels_iff _ (feasible_twoAttempts _)).2 (List.forall_mem_cons.2
    ⟨hfirst, List.forall_mem_cons.2 ⟨hsecond _, nofun⟩⟩)

/-- The second target is refused, and the tunnel to the first one breaks. -/
theorem not_forall_keepsTunnels : ¬∀ events : List Event,
    (∀ t ∈ Machine.trace step new events, t.before.Feasible t.event) → KeepsTunnels events := by
  intro h
  have hkeeps := h _ (feasible_twoAttempts (.status 502))
  have hopen := hkeeps.independent _ List.prefix_rfl ⟨0, true⟩ List.mem_cons_self
  cases hopen

end DialerState

end CycleTLS
