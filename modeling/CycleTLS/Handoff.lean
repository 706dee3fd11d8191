import CycleTLS.Lib.Table
import CycleTLS.RoundTripper
import Mathlib.Data.List.Induction
import Mathlib.Data.List.Nodup

/-!
# The hand-off of connections

The connection of the handshake that a transport was made after is kept for it,
until a dial hands it over. `linear` says that every connection is handed over
once at most: it is never kept and handed over, for its own address only, and
never lost to another one that is kept in its place. With a connection there is
always a transport.
-/

namespace CycleTLS

namespace RoundTripper

/-- What happens to the caches, under the lock or not. -/
inductive CacheEvent
  /-- `dialTLS`, called for a new transport or by one. -/
  | dial (addr : String) (first second : Attempt)
  /-- `getTransport` for an `http` URL. -/
  | plain (addr : String)
  | closeIdle (keep : String)

/-- The caches, and the connections that `dialTLS` has returned. -/
structure Handed where
  caches : State
  returned : List Conn

def Handed.new : Handed := ⟨.new, []⟩

/-- The connection that a dial returns. -/
def DialResult.toConn : DialResult → Option Conn
  | .conn c => some c
  | _ => none

/-- An event, with the connection that is returned. -/
def Handed.step (env : NetEnv) (rt : RoundTripper) (s : Handed) : CacheEvent → Handed × Option Conn
  | .dial addr first second =>
    let d := dialTLS env rt s.caches addr first second
    (⟨d.state, s.returned ++ d.result.toConn.toList⟩, d.result.toConn)
  | .plain addr =>
    ({ s with caches := { s.caches with
      cachedTransports := Function.update s.caches.cachedTransports addr (some .plain) } }, none)
  | .closeIdle keep => ({ s with caches := closeIdleConnections s.caches keep }, none)

/-- The connections kept and returned are all different, those kept are for their
    address, and have a transport. -/
structure Linear (s : Handed) : Prop where
  addr : ∀ a c, s.caches.cachedConnections a = some c → c.addr = a
  transport : ∀ a, (s.caches.cachedConnections a).isSome → (s.caches.cachedTransports a).isSome
  once : (s.returned.map Conn.id).Nodup
  apart : ∀ a c, s.caches.cachedConnections a = some c → ∀ r ∈ s.returned, r.id ≠ c.id
  distinct : ∀ a a' c c', s.caches.cachedConnections a = some c →
    s.caches.cachedConnections a' = some c' → c.id = c'.id → a = a'
  known : ∀ a c, s.caches.cachedConnections a = some c → c.id < s.caches.next
  past : ∀ r ∈ s.returned, r.id < s.caches.next

/-- What an event does to single connections: one that is returned was dialled for the
    address asked for, and one that is kept is not replaced by another. -/
def HandsOver (env : NetEnv) (rt : RoundTripper) (s : Handed) (e : CacheEvent)
    (returned : Option Conn) : Prop :=
  (∀ addr first second, e = .dial addr first second → ∀ c, returned = some c → c.addr = addr) ∧
    ∀ a c, s.caches.cachedConnections a = some c →
      (s.step env rt e).1.caches.cachedConnections a = some c ∨
        (s.step env rt e).1.caches.cachedConnections a = none

theorem linear_new : Linear .new :=
  ⟨fun _ _ h => (nomatch h), fun _ h => (nomatch h), .nil, fun _ _ h => (nomatch h),
    fun _ _ _ _ h => (nomatch h), fun _ _ h => (nomatch h), fun _ h => (nomatch h)⟩

variable {env : NetEnv} {rt : RoundTripper} {s : Handed}

namespace Linear

/-- Keeping some of the connections, and their transports. -/
theorem forget (h : Linear s) {caches : State}
    (hconn : ∀ a c, caches.cachedConnections a = some c → s.caches.cachedConnections a = some c ∧
      ((s.caches.cachedTransports a).isSome → (caches.cachedTransports a).isSome))
    (hnext : s.caches.next ≤ caches.next) : Linear { s with caches := caches } where
  addr a c hc := h.addr a c (hconn a c hc).1
  transport a ha := by
    obtain ⟨c, hc⟩ := Option.isSome_iff_exists.1 ha
    obtain ⟨hold, ht⟩ := hconn a c hc
    exact ht (h.transport a (hold ▸ rfl))
  once := h.once
  apart a c hc := h.apart a c (hconn a c hc).1
  distinct a a' c c' hc hc' := h.distinct a a' c c' (hconn a c hc).1 (hconn a' c' hc').1
  known a c hc := (h.known a c (hconn a c hc).1).trans_le hnext
  past r hr := (h.past r hr).trans_le hnext

/-- Handing a kept connection over. -/
theorem handOver (h : Linear s) {addr : String} {conn : Conn}
    (hc : s.caches.cachedConnections addr = some conn) :
    Linear ⟨{ s.caches with
      cachedConnections := Function.update s.caches.cachedConnections addr none },
      s.returned ++ [conn]⟩ := by
  -- What is still kept was kept before, for another address.
  have hother : ∀ a c, Function.update s.caches.cachedConnections addr none a = some c →
      a ≠ addr ∧ s.caches.cachedConnections a = some c := fun _ _ => Table.erase_eq_some_iff.1
  refine ⟨fun a c ha => h.addr a c (hother a c ha).2, fun a ha => ?_, ?_, fun a c ha r hr => ?_,
    fun a a' c c' ha ha' => h.distinct a a' c c' (hother a c ha).2 (hother a' c' ha').2,
    fun a c ha => h.known a c (hother a c ha).2, fun r hr => ?_⟩
  · obtain ⟨c, hca⟩ := Option.isSome_iff_exists.1 ha
    exact h.transport a ((hother a c hca).2 ▸ rfl)
  · rw [List.map_append, List.nodup_append]
    refine ⟨h.once, List.nodup_singleton _, fun i hi j hj => ?_⟩
    obtain ⟨r, hr, rfl⟩ := List.mem_map.1 hi
    rw [List.map_singleton, List.mem_singleton] at hj
    rw [hj]
    exact h.apart addr conn hc r hr
  · obtain ⟨hne, hca⟩ := hother a c ha
    rcases List.mem_append.1 hr with hr | hr
    · exact h.apart a c hca r hr
    · rw [List.mem_singleton.1 hr]
      exact fun hid => hne (h.distinct a addr c conn hca hc hid.symm)
  · rcases List.mem_append.1 hr with hr | hr
    · exact h.past r hr
    · rw [List.mem_singleton.1 hr]
      exact h.known addr conn hc

/-- Returning a new connection. -/
theorem returnNew (h : Linear s) {conn : Conn} {n : Nat} (hnew : s.caches.next ≤ conn.id)
    (hn : conn.id < n) : Linear ⟨{ s.caches with next := n }, s.returned ++ [conn]⟩ := by
  refine ⟨h.addr, h.transport, ?_, fun a c hc r hr => ?_, h.distinct,
    fun a c hc => (h.known a c hc).trans (hnew.trans_lt hn), fun r hr => ?_⟩
  · rw [List.map_append, List.nodup_append]
    refine ⟨h.once, List.nodup_singleton _, fun i hi j hj => ?_⟩
    obtain ⟨r, hr, rfl⟩ := List.mem_map.1 hi
    rw [List.map_singleton, List.mem_singleton] at hj
    rw [hj]
    exact ((h.past r hr).trans_le hnew).ne
  · rcases List.mem_append.1 hr with hr | hr
    · exact h.apart a c hc r hr
    · rw [List.mem_singleton.1 hr]
      exact ((h.known a c hc).trans_le hnew).ne'
  · rcases List.mem_append.1 hr with hr | hr
    · exact (h.past r hr).trans (hnew.trans_lt hn)
    · rw [List.mem_singleton.1 hr]
      exact hn

/-- Keeping a new connection. -/
theorem install (h : Linear s) {conn : Conn} {n : Nat} (hnew : s.caches.next ≤ conn.id)
    (hn : conn.id < n) :
    Linear { s with caches := RoundTripper.install { s.caches with next := n } conn } := by
  -- What is kept now is the new connection, or was kept before.
  have hkept : ∀ a c, Function.update s.caches.cachedConnections conn.addr (some conn) a = some c →
      (a = conn.addr ∧ conn = c) ∨ (a ≠ conn.addr ∧ s.caches.cachedConnections a = some c) :=
    fun _ _ => Table.set_eq_some_iff.1
  have hfresh : ∀ a c, s.caches.cachedConnections a = some c → c.id ≠ conn.id :=
    fun a c hc => ((h.known a c hc).trans_le hnew).ne
  refine ⟨fun a c ha => ?_, fun a ha => ?_, h.once, fun a c ha r hr => ?_,
    fun a a' c c' ha ha' hid => ?_, fun a c ha => ?_,
    fun r hr => (h.past r hr).trans (hnew.trans_lt hn)⟩
  · rcases hkept a c ha with ⟨rfl, rfl⟩ | ⟨-, hc⟩
    · rfl
    · exact h.addr a c hc
  · refine Table.isSome_set fun hne => ?_
    obtain ⟨c, hc⟩ := Option.isSome_iff_exists.1 ha
    rcases hkept a c hc with ⟨heq, -⟩ | ⟨-, hc⟩
    · exact absurd heq hne
    · exact h.transport a (hc ▸ rfl)
  · rcases hkept a c ha with ⟨-, rfl⟩ | ⟨-, hc⟩
    · exact ((h.past r hr).trans_le hnew).ne
    · exact h.apart a c hc r hr
  · -- Two that are kept with one number: not both are new, and the new one is not known.
    rcases hkept a c ha with ⟨rfl, rfl⟩ | ⟨-, hc⟩ <;>
      rcases hkept a' c' ha' with ⟨rfl, rfl⟩ | ⟨-, hc'⟩
    · rfl
    · exact absurd hid.symm (hfresh a' c' hc')
    · exact absurd hid (hfresh a c hc)
    · exact h.distinct a a' c c' hc hc' hid
  · rcases hkept a c ha with ⟨-, rfl⟩ | ⟨-, hc⟩
    · exact hn
    · exact (h.known a c hc).trans (hnew.trans_lt hn)

end Linear

/-- A dial, by what `dialTLS_cases` says it does. -/
theorem linear_dial (h : Linear s) (addr : String) (first second : Attempt) (d : Dialed)
    (hd : dialTLS env rt s.caches addr first second = d) :
    Linear ⟨d.state, s.returned ++ d.result.toConn.toList⟩ ∧
      (∀ c, d.result.toConn = some c → c.addr = addr) ∧
      ∀ a c, s.caches.cachedConnections a = some c →
        d.state.cachedConnections a = some c ∨ d.state.cachedConnections a = none := by
  have hreturned {c c' : Conn} (heq : DialResult.toConn (.conn c) = some c') : c' = c :=
    (Option.some.inj heq).symm
  have hcases := dialTLS_cases env rt s.caches addr first second
  rw [hd] at hcases
  clear hd
  -- A kept connection is handed over, the dial fails, or a new connection is returned or kept.
  rcases hcases with
    ⟨conn, hc, rfl⟩ | ⟨hnone, n, hn, ⟨hfail, hstate⟩ | ⟨conn, haddr, -, hge, hlt, hdel⟩⟩
  · refine ⟨h.handOver hc, fun c hr => ?_, fun a c hca => ?_⟩
    · rw [hreturned hr]
      exact h.addr addr _ hc
    · by_cases haddr : a = addr
      · subst haddr
        exact .inr (Function.update_self _ _ _)
      · exact .inl ((Function.update_of_ne haddr _ _).trans hca)
  · rw [hfail, hstate]
    simp only [DialResult.toConn, Option.toList_none, List.append_nil]
    exact ⟨h.forget (fun a c hc => ⟨hc, fun ht => ht⟩) hn.le, fun _ hr => (nomatch hr),
      fun a c hc => .inl hc⟩
  · rcases hdel with ⟨-, hresult, hstate⟩ | ⟨-, hresult, hstate⟩
    · rw [hresult, hstate]
      refine ⟨h.returnNew hge hlt, fun c hr => ?_, fun a c hc => .inl hc⟩
      rw [hreturned hr]
      exact haddr
    · rw [hresult, hstate]
      simp only [DialResult.toConn, Option.toList_none, List.append_nil]
      refine ⟨h.install hge hlt, fun _ hr => (nomatch hr), fun a c hca => ?_⟩
      have hne : a ≠ conn.addr := by
        rintro rfl
        rw [haddr, hnone] at hca
        cases hca
      exact .inl ((Function.update_of_ne hne _ _).trans hca)

theorem linear_step (h : Linear s) (e : CacheEvent) :
    Linear (s.step env rt e).1 ∧ HandsOver env rt s e (s.step env rt e).2 := by
  cases e with
  | plain addr =>
    exact ⟨h.forget (fun a c hc => ⟨hc, fun ht => Table.isSome_set fun _ => ht⟩) (Nat.le_refl _),
      fun _ _ _ he => (nomatch he), fun a c hc => .inl hc⟩
  | closeIdle keep =>
    refine ⟨h.forget (fun a c hc => ?_) (Nat.le_refl _), fun _ _ _ he => (nomatch he),
      fun a c hc => ?_⟩
    · obtain ⟨hkeep, hc⟩ := Option.ite_none_right_eq_some.1 hc
      exact ⟨hc, fun ht => (congrArg Option.isSome (if_pos hkeep)).trans ht⟩
    · by_cases hkeep : a = keep
      · exact .inl ((if_pos hkeep).trans hc)
      · exact .inr (if_neg hkeep)
  | dial addr first second =>
    obtain ⟨hlinear, haddr, hkept⟩ := linear_dial h addr first second _ rfl
    refine ⟨hlinear, fun addr' first' second' he c hr => ?_, hkept⟩
    cases he
    exact haddr c hr

/-- Whatever happens to the caches, and in whatever order: every connection is returned
    once at most, only for its own address, and never while it is kept; it is not
    replaced while it is kept; and there is a transport wherever one is kept. -/
theorem linear (env : NetEnv) (rt : RoundTripper) (es : List CacheEvent) :
    (∀ t ∈ Machine.trace (Handed.step env rt) .new es,
      Linear t.before ∧ HandsOver env rt t.before t.event t.output) ∧
    Linear (Machine.final (Handed.step env rt) .new es) := by
  refine ⟨Machine.trace_of_inv _ Linear (fun _ _ => True) _ (fun s e h _ => linear_step h e)
    linear_new fun _ _ => trivial, ?_⟩
  induction es using List.reverseRecOn with
  | nil => exact linear_new
  | append_singleton es e ih =>
    rw [Machine.final_append]
    exact (linear_step ih e).1

end RoundTripper

end CycleTLS
