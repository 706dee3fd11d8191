import CycleTLS.Lib.Table
import CycleTLS.Lib.Transition
import CycleTLS.RoundTripper

/-!
# Requests that share a round tripper

Requests through one round tripper run at the same time, and each closes the idle
connections of other addresses when it has finished. In between, a request looks
for the transport of its address, makes one if there is none, and looks it up; and
the transport that carries it dials whenever it needs a connection. `SharedStep`
has all of these steps, in any order.

* `survives_of_undisturbed`: no lookup finds nothing, and no transport is given
  `errProtocolNegotiated`, as long as connections are only closed when the other
  requests under way are for the address that is kept, and `https` URLs name the
  address that transports dial;
* `matches_of_agrees`: a connection is handed to a transport of its protocol, as
  long as every handshake negotiates that of the transport it is made for.
-/

namespace CycleTLS

open Transition

namespace RoundTripper

/-- Where a request is in `RoundTrip`, past the HTTP/2 fingerprint and HTTP/3. -/
inductive Stage
  /-- Before it looks for a transport. -/
  | checking
  /-- In `getTransport`. -/
  | creating
  /-- In `getTransport`, with the mutex of its address. -/
  | dialing
  /-- Before it looks the transport up. -/
  | looking
  | carrying (transport : Transport)
  | finished
  /-- It has closed the idle connections. -/
  | cleaned

/-- The caches, and the requests by their numbers. -/
structure Shared where
  caches : State
  requests : Nat → Option (URL × Stage)

def Shared.new : Shared := ⟨.new, fun _ => none⟩

/-- A request gets to a stage. -/
def Shared.put (s : Shared) (i : Nat) (url : URL) (stage : Stage) : Shared :=
  { s with requests := Function.update s.requests i (some (url, stage)) }

/-- `getTransport` for an `http` URL. -/
def State.plain (σ : State) (addr : String) : State :=
  { σ with cachedTransports := Function.update σ.cachedTransports addr (some .plain) }

/-- What a step does that can go wrong. -/
inductive Label
  | start (url : URL)
  | lookup (transport : Option Transport)
  /-- A transport dials, for a request. -/
  | dial (i : Nat) (first second : Attempt) (result : DialResult)
  | close (keep : String)
  | other

/-- The steps of the requests. -/
inductive SharedStep (env : NetEnv) (rt : RoundTripper) : Shared → Label → Shared → Prop
  | start (s : Shared) (i : Nat) (url : URL) (hi : s.requests i = none) :
      SharedStep env rt s (.start url) (s.put i url .checking)
  | found (s : Shared) (i : Nat) (url : URL) (hi : s.requests i = some (url, .checking))
      (ht : (s.caches.cachedTransports (getDialTLSAddr url)).isSome) :
      SharedStep env rt s .other (s.put i url .looking)
  | missing (s : Shared) (i : Nat) (url : URL) (hi : s.requests i = some (url, .checking))
      (ht : s.caches.cachedTransports (getDialTLSAddr url) = none) :
      SharedStep env rt s .other (s.put i url .creating)
  | plain (s : Shared) (i : Nat) (url : URL) (hi : s.requests i = some (url, .creating))
      (hs : url.scheme = .http) :
      SharedStep env rt s .other
        ({ s with caches := s.caches.plain (getDialTLSAddr url) }.put i url .looking)
  | invalid (s : Shared) (i : Nat) (url : URL) (name : String)
      (hi : s.requests i = some (url, .creating)) (hs : url.scheme = .other name) :
      SharedStep env rt s .other (s.put i url .finished)
  /-- Another request made the transport in the meantime. -/
  | created (s : Shared) (i : Nat) (url : URL) (hi : s.requests i = some (url, .creating))
      (hs : url.scheme = .https) (ht : (s.caches.cachedTransports (getDialTLSAddr url)).isSome) :
      SharedStep env rt s .other (s.put i url .looking)
  | lock (s : Shared) (i : Nat) (url : URL) (hi : s.requests i = some (url, .creating))
      (hs : url.scheme = .https) (ht : s.caches.cachedTransports (getDialTLSAddr url) = none)
      (hfree : ∀ j url', s.requests j = some (url', .dialing) →
        getDialTLSAddr url' ≠ getDialTLSAddr url) :
      SharedStep env rt s .other (s.put i url .dialing)
  /-- `dialTLS`, and the end of `getTransport`. -/
  | dialed (s : Shared) (i : Nat) (url : URL) (first second : Attempt) (d : Dialed)
      (hi : s.requests i = some (url, .dialing))
      (hd : dialTLS env rt s.caches (getDialTLSAddr url) first second = d)
      (hok : d.result ≠ .failed) :
      SharedStep env rt s .other ({ s with caches := d.state }.put i url .looking)
  | dialFailed (s : Shared) (i : Nat) (url : URL) (first second : Attempt) (d : Dialed)
      (hi : s.requests i = some (url, .dialing))
      (hd : dialTLS env rt s.caches (getDialTLSAddr url) first second = d)
      (hfailed : d.result = .failed) :
      SharedStep env rt s .other ({ s with caches := d.state }.put i url .finished)
  | lookup (s : Shared) (i : Nat) (url : URL) (transport : Transport)
      (hi : s.requests i = some (url, .looking))
      (ht : s.caches.cachedTransports (getDialTLSAddr url) = some transport) :
      SharedStep env rt s (.lookup (some transport)) (s.put i url (.carrying transport))
  /-- The nil transport is called, and the panic ends the request. -/
  | lookupNil (s : Shared) (i : Nat) (url : URL) (hi : s.requests i = some (url, .looking))
      (ht : s.caches.cachedTransports (getDialTLSAddr url) = none) :
      SharedStep env rt s (.lookup none) (s.put i url .finished)
  /-- A transport for TLS dials the address it finds in an `https` URL. -/
  | dial (s : Shared) (i : Nat) (url : URL) (made : Conn) (first second : Attempt) (d : Dialed)
      (hi : s.requests i = some (url, .carrying (.tls made))) (hs : url.scheme = .https)
      (hd : dialTLS env rt s.caches (env.canonicalAddr url) first second = d) :
      SharedStep env rt s (.dial i first second d.result) { s with caches := d.state }
  | finish (s : Shared) (i : Nat) (url : URL) (transport : Transport)
      (hi : s.requests i = some (url, .carrying transport)) :
      SharedStep env rt s .other (s.put i url .finished)
  | close (s : Shared) (i : Nat) (url : URL) (keep : String)
      (hi : s.requests i = some (url, .finished)) :
      SharedStep env rt s (.close keep)
        ({ s with caches := closeIdleConnections s.caches keep }.put i url .cleaned)

/-! ## The caches -/

/-- A connection is kept with the transport made after its handshake, or a plaintext
    transport that has taken the place of that. -/
def Paired (σ : State) : Prop :=
  ∀ a c, σ.cachedConnections a = some c →
    σ.cachedTransports a = some (.tls c) ∨ σ.cachedTransports a = some .plain

variable {env : NetEnv} {rt : RoundTripper} {σ : State}

theorem Paired.isSome (h : Paired σ) {a : String} {c : Conn} (hc : σ.cachedConnections a = some c) :
    (σ.cachedTransports a).isSome := by
  rcases h a c hc with ht | ht <;> rw [ht] <;> rfl

theorem Paired.closeIdleConnections (h : Paired σ) (keep : String) :
    Paired (closeIdleConnections σ keep) := by
  intro a c hc
  obtain ⟨hkeep, hc⟩ := Option.ite_none_right_eq_some.1 hc
  exact (h a c hc).imp (if_pos hkeep).trans (if_pos hkeep).trans

theorem Paired.plain (h : Paired σ) (addr : String) : Paired (σ.plain addr) := by
  intro a c hc
  by_cases ha : a = addr
  · subst ha
    exact .inr (Function.update_self _ _ _)
  · exact (h a c hc).imp (Function.update_of_ne ha _ _).trans (Function.update_of_ne ha _ _).trans

theorem cachedTransports_install (conn : Conn) : (install σ conn).cachedTransports =
    Function.update σ.cachedTransports conn.addr (some (.tls conn)) := rfl

/-- What a dial leaves: no transport is lost, the caches are still paired, and unless
    the dial has failed there is a transport for its address. -/
theorem Paired.dialTLS (h : Paired σ) (addr : String) (first second : Attempt) (d : Dialed)
    (hd : dialTLS env rt σ addr first second = d) :
    Paired d.state ∧
      (∀ a, (σ.cachedTransports a).isSome → (d.state.cachedTransports a).isSome) ∧
      (d.result ≠ .failed → (d.state.cachedTransports addr).isSome) ∧
      (d.result = .negotiated → σ.cachedTransports addr = none) := by
  have hcases := dialTLS_cases env rt σ addr first second
  rw [hd] at hcases
  clear hd
  -- A kept connection is handed over, the dial fails, or a new connection is returned or kept.
  rcases hcases with
    ⟨conn, hc, rfl⟩ | ⟨hnone, n, -, ⟨hfail, hstate⟩ | ⟨conn, haddr, -, -, -, hdel⟩⟩
  · refine ⟨fun a c hca => h a c ?_, fun a ha => ha, fun _ => h.isSome hc, fun hr => (nomatch hr)⟩
    exact (Table.erase_eq_some_iff.1 hca).2
  · rw [hfail, hstate]
    exact ⟨h, fun a ha => ha, fun hr => absurd rfl hr, fun hr => (nomatch hr)⟩
  · rcases hdel with ⟨hsome, hresult, hstate⟩ | ⟨hempty, hresult, hstate⟩
    · rw [hresult, hstate]
      exact ⟨h, fun a ha => ha, fun _ => hsome, fun hr => (nomatch hr)⟩
    · rw [hresult, hstate]
      refine ⟨fun a c hca => ?_, fun a ha => ?_, fun _ => ?_, fun _ => hempty⟩
      · rcases Table.set_eq_some_iff.1 hca with ⟨rfl, rfl⟩ | ⟨hne, hca⟩
        · exact .inl (Function.update_self _ _ _)
        · exact (h a c hca).imp (Function.update_of_ne hne _ _).trans
            (Function.update_of_ne hne _ _).trans
      · rw [cachedTransports_install]
        exact Table.isSome_set fun _ => ha
      · rw [cachedTransports_install, haddr]
        exact Table.isSome_set fun hne => absurd rfl hne

/-! ## Cleanups -/

/-- A request needs the transport of its address to stay. -/
def Needs (url : URL) : Stage → Prop
  | .looking => True
  | .carrying (.tls _) => url.scheme = .https
  | _ => False

/-- The steps that disturb no request: an `https` URL names the address that is dialled
    for it, and only transports that no request needs are dropped. -/
def Undisturbed (env : NetEnv) (s : Shared) : Label → Prop
  | .start url => url.scheme = .https → env.canonicalAddr url = getDialTLSAddr url
  | .close keep => ∀ i url stage, s.requests i = some (url, stage) → Needs url stage →
      getDialTLSAddr url = keep
  | _ => True

/-- No transport is looked up in vain, and none is given `errProtocolNegotiated`. -/
def Survives : Label → Prop
  | .lookup transport => transport ≠ none
  | .dial _ _ _ result => result ≠ .negotiated
  | _ => True

/-- Every request has the transport it needs. -/
structure Served (env : NetEnv) (s : Shared) : Prop where
  paired : Paired s.caches
  needed : ∀ i url stage, s.requests i = some (url, stage) → Needs url stage →
    (s.caches.cachedTransports (getDialTLSAddr url)).isSome
  canonical : ∀ i url stage, s.requests i = some (url, stage) → url.scheme = .https →
    env.canonicalAddr url = getDialTLSAddr url

theorem served_new : Served env .new :=
  ⟨fun _ _ h => (nomatch h), fun _ _ _ h => (nomatch h), fun _ _ _ h => (nomatch h)⟩

variable {s s' : Shared} {label : Label}

theorem Shared.requests_put {i j : Nat} {url url' : URL} {stage stage' : Stage}
    (h : (s.put i url stage).requests j = some (url', stage')) :
    (j = i ∧ url' = url ∧ stage' = stage) ∨ s.requests j = some (url', stage') := by
  rcases Table.set_eq_some_iff.1 h with ⟨rfl, heq⟩ | ⟨-, h⟩
  · cases heq
    exact .inl ⟨rfl, rfl, rfl⟩
  · exact .inr h

/-- If all requests are for one URL, so they are when one more gets to a stage. -/
theorem Shared.url_put {i : Nat} {url url' : URL} {stage : Stage}
    (h : ∀ j u st, s.requests j = some (u, st) → u = url') (hurl : url = url') :
    ∀ j u st, (s.put i url stage).requests j = some (u, st) → u = url' := by
  intro j u st hj
  rcases Shared.requests_put hj with ⟨-, rfl, -⟩ | hj
  · exact hurl
  · exact h j u st hj

namespace Served

/-- New caches that have lost no transport. -/
theorem withCaches (h : Served env s) {caches : State} (hp : Paired caches)
    (hmono : ∀ a, (s.caches.cachedTransports a).isSome → (caches.cachedTransports a).isSome) :
    Served env { s with caches := caches } :=
  ⟨hp, fun i url stage hi hn => hmono _ (h.needed i url stage hi hn), h.canonical⟩

/-- A request at another stage, with the transport it needs there. -/
theorem put (h : Served env s) {url : URL} {stage : Stage} (i : Nat)
    (hc : url.scheme = .https → env.canonicalAddr url = getDialTLSAddr url)
    (hn : Needs url stage → (s.caches.cachedTransports (getDialTLSAddr url)).isSome) :
    Served env (s.put i url stage) := by
  refine ⟨h.paired, fun j url' stage' hj hn' => ?_, fun j url' stage' hj hs => ?_⟩
  · rcases Shared.requests_put hj with ⟨-, rfl, rfl⟩ | hj
    · exact hn hn'
    · exact h.needed j url' stage' hj hn'
  · rcases Shared.requests_put hj with ⟨-, rfl, -⟩ | hj
    · exact hc hs
    · exact h.canonical j url' stage' hj hs

theorem step (h : Served env s) (hl : Undisturbed env s label)
    (hstep : SharedStep env rt s label s') : Served env s' ∧ Survives label := by
  cases hstep with
  | start i url hi => exact ⟨h.put i hl nofun, trivial⟩
  | found i url hi ht => exact ⟨h.put i (h.canonical i url _ hi) fun _ => ht, trivial⟩
  | missing i url hi ht => exact ⟨h.put i (h.canonical i url _ hi) nofun, trivial⟩
  | plain i url hi hs =>
    have hcaches := h.withCaches (h.paired.plain (getDialTLSAddr url)) fun a ha => by
      rw [State.plain]
      exact Table.isSome_set fun _ => ha
    exact ⟨hcaches.put i (h.canonical i url _ hi) fun _ =>
      Table.isSome_set fun hne => absurd rfl hne, trivial⟩
  | invalid i url name hi hs => exact ⟨h.put i (h.canonical i url _ hi) nofun, trivial⟩
  | created i url hi hs ht => exact ⟨h.put i (h.canonical i url _ hi) fun _ => ht, trivial⟩
  | lock i url hi hs ht hfree => exact ⟨h.put i (h.canonical i url _ hi) nofun, trivial⟩
  | dialed i url first second d hi hd hok =>
    obtain ⟨hp, hmono, hsome, -⟩ := h.paired.dialTLS _ first second d hd
    exact ⟨(h.withCaches hp hmono).put i (h.canonical i url _ hi) fun _ => hsome hok, trivial⟩
  | dialFailed i url first second d hi hd hfailed =>
    obtain ⟨hp, hmono, -⟩ := h.paired.dialTLS _ first second d hd
    exact ⟨(h.withCaches hp hmono).put i (h.canonical i url _ hi) nofun, trivial⟩
  | lookup i url transport hi ht =>
    exact ⟨h.put i (h.canonical i url _ hi) fun _ => ht ▸ rfl, nofun⟩
  | lookupNil i url hi ht =>
    have hsome := h.needed i url _ hi trivial
    rw [ht] at hsome
    cases hsome
  | dial i url made first second d hi hs hd =>
    obtain ⟨hp, hmono, -, hnegotiated⟩ := h.paired.dialTLS _ first second d hd
    refine ⟨h.withCaches hp hmono, fun hr => ?_⟩
    -- The transport is there, as the address is the one of the request.
    have hsome := h.needed i url _ hi hs
    rw [← h.canonical i url _ hi hs, hnegotiated hr] at hsome
    cases hsome
  | finish i url transport hi => exact ⟨h.put i (h.canonical i url _ hi) nofun, trivial⟩
  | close i url keep hi =>
    refine ⟨⟨h.paired.closeIdleConnections keep, fun j url' stage hj hn => ?_,
      fun j url' stage hj hs => ?_⟩, trivial⟩
    · rcases Shared.requests_put hj with ⟨-, -, rfl⟩ | hj
      · cases hn
      · rw [Shared.put]
        exact (congrArg Option.isSome (if_pos (hl j url' stage hj hn))).trans
          (h.needed j url' stage hj hn)
    · rcases Shared.requests_put hj with ⟨-, rfl, -⟩ | hj
      · exact h.canonical i url' _ hi hs
      · exact h.canonical j url' stage hj hs

end Served

/-- On every path that disturbs no request, every lookup finds a transport, and no
    transport is given `errProtocolNegotiated`. -/
theorem survives_of_undisturbed {es : List (Shared × Label)}
    (h : Path (SharedStep env rt) .new es s) (hl : ∀ e ∈ es, Undisturbed env e.1 e.2) :
    ∀ e ∈ es, Survives e.2 :=
  h.forall_mem (Served env) (Undisturbed env) (fun _ l => Survives l)
    (fun _ _ _ hs hl hstep => hs.step hl hstep) hl served_new

variable (env rt) in
theorem dialTLS_installs (addr : String) (σ : State) (hc : σ.cachedConnections addr = none)
    (ht : σ.cachedTransports addr = none) (hf : h2FingerprintFails env rt = false) (h2 : Bool)
    (second : Attempt) : ∃ conn effects, conn.addr = addr ∧ conn.h2 = h2 ∧
      dialTLS env rt σ addr (.connects h2) second =
        ⟨install { σ with next := σ.next + 1 } conn, .negotiated, effects⟩ := by
  simp only [dialTLS, hc, ht, hf, tryDial, Bool.and_false, Option.isSome_none, Bool.false_eq_true,
    if_false]
  refine ⟨_, _, ?_, ?_, rfl⟩ <;> rfl

variable (env rt) in
theorem dialTLS_redials {addr : String} {transport : Transport}
    (hc : σ.cachedConnections addr = none) (ht : σ.cachedTransports addr = some transport)
    (h2 : Bool) (second : Attempt) : ∃ conn, conn.h2 = h2 ∧
      (dialTLS env rt σ addr (.connects h2) second).result = .conn conn := by
  simp [dialTLS, hc, ht, tryDial]

theorem dialTLS_connects_of_none {addr : String} (hc : σ.cachedConnections addr = none)
    (ht : σ.cachedTransports addr = none) (second : Attempt) :
    (dialTLS env rt σ addr (.connects false) second).result = .negotiated := by
  simp [dialTLS, hc, ht, tryDial]

/-- Closing a transport that a request needs makes a failure possible at once. -/
theorem exists_not_survives {i : Nat} {url : URL} {stage : Stage} {keep : String}
    (hi : s.requests i = some (url, stage)) (hn : Needs url stage)
    (hc : env.canonicalAddr url = getDialTLSAddr url) (hkeep : getDialTLSAddr url ≠ keep) :
    ∃ label s', SharedStep env rt { s with caches := closeIdleConnections s.caches keep } label s' ∧
      ¬Survives label := by
  have hnone : (closeIdleConnections s.caches keep).cachedTransports (getDialTLSAddr url) = none :=
    if_neg hkeep
  have hconn : (closeIdleConnections s.caches keep).cachedConnections (getDialTLSAddr url) = none :=
    if_neg hkeep
  -- Past the lookup, the transport dials: without an entry it is taken for a new address.
  cases stage with
  | looking => exact ⟨_, _, .lookupNil _ i url hi hnone, fun h => h rfl⟩
  | carrying transport =>
    cases transport with
    | plain => cases hn
    | tls made =>
      refine ⟨_, _, .dial _ i url made (.connects false) .dialFails _ hi hn rfl, fun h => h ?_⟩
      rw [hc]
      exact dialTLS_connects_of_none hconn hnone _
  | _ => cases hn

variable (env rt) in
/-- Two requests of `http` URLs: the one that finishes first closes the transport which
    the other has made and not yet looked up. -/
theorem exists_path_lookup_none (url url' : URL) (keep : String) (hs : url.scheme = .http)
    (hs' : url'.scheme = .http) (hne : getDialTLSAddr url' ≠ getDialTLSAddr url)
    (hkeep : getDialTLSAddr url' ≠ keep) :
    ∃ es s, Path (SharedStep env rt) .new es s ∧ ∃ t, (t, .lookup none) ∈ es := by
  -- The first request gets through; the second one has made its transport when it cleans up.
  let s₁ := Shared.new.put 0 url .checking
  let s₂ := s₁.put 0 url .creating
  let s₃ := ({ s₂ with caches := s₂.caches.plain (getDialTLSAddr url) } : Shared).put 0 url .looking
  let s₄ := s₃.put 0 url (.carrying .plain)
  let s₅ := s₄.put 0 url .finished
  let s₆ := s₅.put 1 url' .checking
  let s₇ := s₆.put 1 url' .creating
  let s₈ := ({ s₇ with caches := s₇.caches.plain (getDialTLSAddr url') } : Shared).put 1 url'
    .looking
  let s₉ := ({ s₈ with caches := closeIdleConnections s₈.caches keep } : Shared).put 0 url .cleaned
  have hmade : s₃.caches.cachedTransports (getDialTLSAddr url) = some .plain :=
    Function.update_self _ _ _
  have hother : s₆.caches.cachedTransports (getDialTLSAddr url') = none :=
    Function.update_of_ne hne _ _
  have hclosed : s₉.caches.cachedTransports (getDialTLSAddr url') = none := if_neg hkeep
  have h₃ : Path (SharedStep env rt) .new _ s₃ :=
    .snoc (.snoc (.snoc .nil (.start _ 0 url rfl)) (.missing s₁ 0 url rfl rfl))
      (.plain s₂ 0 url rfl hs)
  have h₅ : Path (SharedStep env rt) .new _ s₅ :=
    (h₃.snoc (.lookup s₃ 0 url .plain rfl hmade)).snoc (.finish s₄ 0 url .plain rfl)
  have h₈ : Path (SharedStep env rt) .new _ s₈ :=
    ((h₅.snoc (.start s₅ 1 url' rfl)).snoc (.missing s₆ 1 url' rfl hother)).snoc
      (.plain s₇ 1 url' rfl hs')
  have h₉ : Path (SharedStep env rt) .new _ s₉ := h₈.snoc (.close s₈ 0 url keep rfl)
  exact ⟨_, _, h₉.snoc (.lookupNil s₉ 1 url' rfl hclosed), s₉, List.mem_append_right _ (.head _)⟩

/-- The requests of `http://a:80` and `http://b:80`. -/
theorem not_forall_survives : ¬∀ (env : NetEnv) (rt : RoundTripper) (es : List (Shared × Label))
    (s : Shared), Path (SharedStep env rt) .new es s → ∀ e ∈ es, Survives e.2 := by
  intro h
  obtain ⟨es, s, hpath, t, ht⟩ := exists_path_lookup_none ⟨fun _ => true, URL.host⟩
    (newRoundTripper {} .direct 0) ⟨.http, "a:80", "/"⟩ ⟨.http, "b:80", "/"⟩ "a:80" rfl rfl
    (by decide +kernel) (by decide +kernel)
  exact h _ _ es s hpath _ ht rfl

/-! ## Protocols -/

/-- The dial of a transport gets a connection of its protocol: the one kept for the
    address is kept for a transport of that protocol, or else the handshake that
    succeeds negotiates it. -/
def Agrees (env : NetEnv) (s : Shared) : Label → Prop
  | .dial i first second _ => ∀ url made, s.requests i = some (url, .carrying (.tls made)) →
    match s.caches.cachedConnections (env.canonicalAddr url) with
    | some _ => ∃ made', s.caches.cachedTransports (env.canonicalAddr url) = some (.tls made') ∧
        made'.h2 = made.h2
    | none => (s.caches.cachedTransports (env.canonicalAddr url)).isSome → ∀ h2,
        (first = .connects h2 ∨ (∃ b, first = .handshakeFails b) ∧ second = .connects h2) →
          h2 = made.h2
  | _ => True

/-- A connection that a transport is given has negotiated its protocol. -/
def Matches (s : Shared) : Label → Prop
  | .dial i _ _ (.conn c) => ∀ url made, s.requests i = some (url, .carrying (.tls made)) →
    c.h2 = made.h2
  | _ => True

/-- A new connection is the one of the attempt that succeeded. -/
theorem dialTLS_conn {addr : String} {first second : Attempt} {c : Conn}
    (hc : σ.cachedConnections addr = none)
    (h : (dialTLS env rt σ addr first second).result = .conn c) :
    (σ.cachedTransports addr).isSome ∧
      (first = .connects c.h2 ∨ (∃ b, first = .handshakeFails b) ∧ second = .connects c.h2) := by
  rcases dialTLS_cases env rt σ addr first second with
    ⟨conn, hsome, -⟩ | ⟨-, n, -, ⟨hfail, -⟩ | ⟨conn, -, hconnected, -, -, ⟨hs, hr, -⟩ | ⟨-, hr, -⟩⟩⟩
  · rw [hc] at hsome
    cases hsome
  · rw [hfail] at h
    cases h
  · rw [h] at hr
    cases hr
    -- The connection is of the first attempt, or of the second if the first was rejected.
    cases hconnected with
    | first hfirst => exact ⟨hs, .inl hfirst⟩
    | retried b hfirst hsecond => exact ⟨hs, .inr ⟨⟨b, hfirst⟩, hsecond⟩⟩
  · rw [hr] at h
    cases h

theorem Paired.step (h : Paired s.caches) (hstep : SharedStep env rt s label s') :
    Paired s'.caches := by
  cases hstep with
  | plain i url hi hs => exact h.plain _
  | dialed i url first second d hi hd | dialFailed i url first second d hi hd
  | dial i url made first second d hi hs hd => exact (h.dialTLS _ first second d hd).1
  | close i url keep hi => exact h.closeIdleConnections keep
  | _ => exact h

theorem matches_step (h : Paired s.caches) (hl : Agrees env s label)
    (hstep : SharedStep env rt s label s') : Matches s label := by
  cases hstep with
  | dial i url made first second d hi hs hd =>
    cases hr : d.result with
    | negotiated | failed => trivial
    | conn c =>
      intro url' made' hi'
      have hl := hl url' made' hi'
      rw [hi] at hi'
      cases hi'
      cases hkept : s.caches.cachedConnections (env.canonicalAddr url) with
      | some conn =>
        rw [hkept] at hl
        obtain ⟨cached, hcached, hprotocol⟩ := hl
        have hconn : c = conn := by
          rw [← hd, dialTLS, hkept] at hr
          cases hr
          rfl
        -- What is kept is paired with the transport of its address, whose protocol agrees.
        rcases h _ _ hkept with hpair | hpair
        · rw [hcached] at hpair
          cases hpair
          rw [hconn, hprotocol]
        · rw [hcached] at hpair
          cases hpair
      | none =>
        rw [hkept] at hl
        rw [← hd] at hr
        obtain ⟨hsome, hattempt⟩ := dialTLS_conn hkept hr
        exact hl hsome _ hattempt
  | _ => trivial

variable (env rt) in
/-- The first hand-off: one request of an `https` URL finds the transport made after its
    handshake, which negotiated `h2`, and the connection that is kept for it. -/
theorem exists_path_carrying (url : URL) (hs : url.scheme = .https)
    (hc : env.canonicalAddr url = getDialTLSAddr url) (hf : h2FingerprintFails env rt = false) :
    ∃ es s made, Path (SharedStep env rt) .new es s ∧
      (∀ e ∈ es, Undisturbed env e.1 e.2 ∧ Agrees env e.1 e.2) ∧
      s.requests 0 = some (url, .carrying (.tls made)) ∧ (∀ j ≠ 0, s.requests j = none) ∧
      made.h2 = true ∧ s.caches.cachedConnections (getDialTLSAddr url) = some made ∧
      s.caches.cachedTransports (getDialTLSAddr url) = some (.tls made) := by
  obtain ⟨made, effects, haddr, hh2, hd⟩ :=
    dialTLS_installs env rt (getDialTLSAddr url) .new rfl rfl hf
      true .dialFails
  let s₁ := Shared.new.put 0 url .checking
  let s₂ := s₁.put 0 url .creating
  let s₃ := s₂.put 0 url .dialing
  let s₄ := ({ s₃ with caches := install { State.new with next := 1 } made } : Shared).put 0 url
    .looking
  have hmade : s₄.caches.cachedTransports (getDialTLSAddr url) = some (.tls made) :=
    haddr ▸ Function.update_self _ _ _
  have h₃ : Path (SharedStep env rt) .new _ s₃ :=
    .snoc (.snoc (.snoc .nil (.start _ 0 url rfl)) (.missing s₁ 0 url rfl rfl))
      (.lock s₂ 0 url rfl hs rfl fun j url' hj => by
        rcases Shared.requests_put hj with ⟨-, -, hstage⟩ | hj
        · cases hstage
        · rcases Shared.requests_put hj with ⟨-, -, hstage⟩ | hj
          · cases hstage
          · cases hj)
  have h₅ : Path (SharedStep env rt) .new _ (s₄.put 0 url (.carrying (.tls made))) :=
    (h₃.snoc (.dialed s₃ 0 url _ _ _ rfl hd (fun h => nomatch h))).snoc
      (.lookup s₄ 0 url (.tls made) rfl hmade)
  refine ⟨_, _, made, h₅, ?_, rfl, fun j hj => ?_, hh2, haddr ▸ Function.update_self _ _ _,
    hmade⟩
  · simp only [forall_mem_snoc fun t l => Undisturbed env t l ∧ Agrees env t l]
    exact ⟨⟨⟨⟨⟨fun _ he => (nomatch he), fun _ => hc, trivial⟩, trivial, trivial⟩, trivial,
      trivial⟩, trivial, trivial⟩, trivial, trivial⟩
  · simp only [s₄, s₃, s₂, s₁, Shared.put, Function.update_of_ne hj, Shared.new]

/-- On every path on which the dials agree with the transports, every connection is
    handed to a transport of the protocol it negotiated. -/
theorem matches_of_agrees {es : List (Shared × Label)} (h : Path (SharedStep env rt) .new es s)
    (hl : ∀ e ∈ es, Agrees env e.1 e.2) : ∀ e ∈ es, Matches e.1 e.2 :=
  h.forall_mem (fun s => Paired s.caches) (Agrees env) Matches
    (fun _ _ _ hs hl hstep => ⟨hs.step hstep, matches_step hs hl hstep⟩) hl
    fun _ _ h => nomatch h

variable (env rt) in
/-- The transport's own dials: the first gets the connection that is kept. -/
theorem exists_path_handed (url : URL) (hs : url.scheme = .https)
    (hc : env.canonicalAddr url = getDialTLSAddr url) (hf : h2FingerprintFails env rt = false) :
    ∃ es s made, Path (SharedStep env rt) .new es s ∧
      (∀ e ∈ es, Undisturbed env e.1 e.2 ∧ Agrees env e.1 e.2) ∧
      s.requests 0 = some (url, .carrying (.tls made)) ∧ (∀ j ≠ 0, s.requests j = none) ∧
      made.h2 = true ∧ s.caches.cachedConnections (getDialTLSAddr url) = none ∧
      s.caches.cachedTransports (getDialTLSAddr url) = some (.tls made) ∧
      ∃ t, (t, .dial 0 .dialFails .dialFails (.conn made)) ∈ es := by
  obtain ⟨es, s, made, hpath, hl, hi, hothers, hh2, hconn, ht⟩ :=
    exists_path_carrying env rt url hs hc hf
  -- The connection that is kept is handed over, whatever an attempt would do.
  have hd : dialTLS env rt s.caches (env.canonicalAddr url) .dialFails .dialFails =
      ⟨{ s.caches with
          cachedConnections :=
            Function.update s.caches.cachedConnections (getDialTLSAddr url) none },
        .conn made, []⟩ := by
    rw [hc, dialTLS, hconn]
  refine ⟨_, _, made, hpath.snoc (.dial s 0 url made _ _ _ hi hs hd), ?_, hi, hothers,
    hh2, Function.update_self _ _ _, ht, s, List.mem_append_right _ (.head _)⟩
  rw [forall_mem_snoc fun t l => Undisturbed env t l ∧ Agrees env t l]
  refine ⟨hl, trivial, fun url' made' hi' => ?_⟩
  rw [hi] at hi'
  cases hi'
  rw [hc, hconn]
  exact ⟨made, ht, rfl⟩

variable (env rt) in
/-- A server that negotiates `h2` first and `http/1.1` when the transport dials again. -/
theorem exists_path_not_matches (url : URL) (hs : url.scheme = .https)
    (hc : env.canonicalAddr url = getDialTLSAddr url) (hf : h2FingerprintFails env rt = false) :
    ∃ es s, Path (SharedStep env rt) .new es s ∧ ∃ e ∈ es, ¬Matches e.1 e.2 := by
  obtain ⟨es, s, made, hpath, -, hi, -, hh2, hconn, ht, -⟩ :=
    exists_path_handed env rt url hs hc hf
  obtain ⟨conn, hprotocol, hresult⟩ :=
    dialTLS_redials env rt hconn ht false .dialFails
  rw [← hc] at hresult
  refine ⟨_, _, hpath.snoc (.dial s 0 url made (.connects false) .dialFails _ hi hs rfl), _,
    List.mem_append_right _ (.head _), fun hm => ?_⟩
  simp only [hresult] at hm
  have heq := hm url made hi
  rw [hprotocol, hh2] at heq
  cases heq

theorem not_forall_matches : ¬∀ (env : NetEnv) (rt : RoundTripper) (es : List (Shared × Label))
    (s : Shared), Path (SharedStep env rt) .new es s → ∀ e ∈ es, Matches e.1 e.2 := by
  intro h
  obtain ⟨es, s, hpath, e, he, hm⟩ :=
    exists_path_not_matches ⟨fun _ => true, getDialTLSAddr⟩ (newRoundTripper {} .direct 0)
      ⟨.https, "h", "/"⟩ rfl rfl rfl
  exact hm (h _ _ _ _ hpath e he)

variable (env rt) in
/-- A second request of the address: it has the transport when the first one closes the
    connections of all other addresses, and dials with it. -/
theorem exists_path_kept (url : URL) (hs : url.scheme = .https)
    (hc : env.canonicalAddr url = getDialTLSAddr url) (hf : h2FingerprintFails env rt = false) :
    ∃ es s, Path (SharedStep env rt) .new es s ∧ (∀ e ∈ es, Undisturbed env e.1 e.2) ∧
      (∃ t, (t, .close (getDialTLSAddr url)) ∈ es) ∧
      ∃ t conn, (t, .dial 1 (.connects true) .dialFails (.conn conn)) ∈ es := by
  obtain ⟨es, s, made, hpath, hl, hi, hothers, -, hconn, ht, -⟩ :=
    exists_path_handed env rt url hs hc hf
  let s₁ := s.put 1 url .checking
  let s₂ := s₁.put 1 url .looking
  let s₃ := s₂.put 1 url (.carrying (.tls made))
  let s₄ := s₃.put 0 url .finished
  let s₅ := ({ s₄ with caches := closeIdleConnections s₄.caches (getDialTLSAddr url) } :
    Shared).put 0 url .cleaned
  have hfirst : s₃.requests 0 = some (url, .carrying (.tls made)) := hi
  have hkept : s₅.caches.cachedTransports (getDialTLSAddr url) = some (.tls made) :=
    (if_pos rfl).trans ht
  have hnone : s₅.caches.cachedConnections (getDialTLSAddr url) = none := (if_pos rfl).trans hconn
  have h₃ : Path (SharedStep env rt) .new _ s₃ :=
    ((hpath.snoc (.start s 1 url (hothers 1 (by decide)))).snoc
      (.found s₁ 1 url rfl (ht ▸ rfl))).snoc (.lookup s₂ 1 url (.tls made) rfl ht)
  have h₅ : Path (SharedStep env rt) .new _ s₅ :=
    (h₃.snoc (.finish s₃ 0 url (.tls made) hfirst)).snoc (.close s₄ 0 url _ rfl)
  obtain ⟨conn, -, hresult⟩ := dialTLS_redials env rt hnone hkept true .dialFails
  -- Both requests are for the address that is kept.
  have honly : ∀ j url' stage, s.requests j = some (url', stage) → url' = url := by
    intro j url' stage hj
    by_cases h0 : j = 0
    · rw [h0, hi] at hj
      cases hj
      rfl
    · rw [hothers j h0] at hj
      cases hj
  refine ⟨_, _, h₅.snoc (.dial s₅ 1 url made (.connects true) .dialFails _ rfl hs rfl), ?_,
    ⟨s₄, by simp [s₄]⟩, s₅, conn, ?_⟩
  · simp only [forall_mem_snoc fun t l => Undisturbed env t l]
    refine ⟨⟨⟨⟨⟨⟨fun e he => (hl e he).1, fun _ => hc⟩, trivial⟩, trivial⟩, trivial⟩,
      fun j url' stage hj _ => ?_⟩, trivial⟩
    exact congrArg getDialTLSAddr (Shared.url_put (Shared.url_put (Shared.url_put (Shared.url_put
      honly rfl) rfl) rfl) rfl j url' stage hj)
  · rw [hc, hresult]
    exact List.mem_append_right _ (.head _)

/-- Two requests of one address, of which the first one to finish keeps the address. -/
theorem survives_of_undisturbed_two : ∃ es s,
    Path (SharedStep ⟨fun _ => true, getDialTLSAddr⟩ (newRoundTripper {} .direct 0)) .new es s ∧
      (∃ t, (t, .close "h:443") ∈ es) ∧
      (∃ t conn, (t, .dial 1 (.connects true) .dialFails (.conn conn)) ∈ es) ∧
      ∀ e ∈ es, Survives e.2 := by
  obtain ⟨es, s, hpath, hl, hclose, hdial⟩ :=
    exists_path_kept ⟨fun _ => true, getDialTLSAddr⟩ (newRoundTripper {} .direct 0)
      ⟨.https, "h", "/"⟩ rfl rfl rfl
  have haddr : getDialTLSAddr ⟨.https, "h", "/"⟩ = "h:443" := by decide +kernel
  exact ⟨es, s, hpath, haddr ▸ hclose, hdial, survives_of_undisturbed hpath hl⟩

theorem matches_of_agrees_one : ∃ es s,
    Path (SharedStep ⟨fun _ => true, getDialTLSAddr⟩ (newRoundTripper {} .direct 0)) .new es s ∧
      (∃ t made, (t, .dial 0 .dialFails .dialFails (.conn made)) ∈ es) ∧
      ∀ e ∈ es, Matches e.1 e.2 := by
  obtain ⟨es, s, made, hpath, hl, -, -, -, -, -, t, ht⟩ :=
    exists_path_handed ⟨fun _ => true, getDialTLSAddr⟩ (newRoundTripper {} .direct 0)
      ⟨.https, "h", "/"⟩ rfl rfl rfl
  exact ⟨es, s, hpath, ⟨t, made, ht⟩, matches_of_agrees hpath fun e he => (hl e he).2⟩

end RoundTripper

end CycleTLS
