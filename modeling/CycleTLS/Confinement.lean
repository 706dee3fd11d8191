import CycleTLS.Entry

/-!
# Connections behind a proxy

A round tripper opens its TCP connections with its dialer, the one of the proxy
if there is one. What goes past it (`Leaks`) is HTTP/3, whose datagrams are sent
directly, and an `http` request that is carried by an HTTP/1 transport for TLS,
which has no dialer of its own.

A request is hence confined to its proxy if it is given a round tripper with the
dialer of that proxy, none of its hops leaks, and it does not enter through
`wsConnect` or `sseConnect` (`confined_of_admissible`).
-/

namespace CycleTLS

/-- What an effect opens a connection with. -/
def Effect.via : Effect → Option Via
  | .dial via _ => some via
  | .datagrams _ _ => some .net
  | _ => none

/-- All connections are opened in a way with the property `P`. -/
def Through (P : Via → Prop) (effects : List Effect) : Prop :=
  ∀ e ∈ effects, ∀ via, e.via = some via → P via

variable {P : Via → Prop}

theorem through_nil : Through P [] := fun _ h => nomatch h

theorem through_append {l₁ l₂ : List Effect} :
    Through P (l₁ ++ l₂) ↔ Through P l₁ ∧ Through P l₂ := List.forall_mem_append

theorem through_map_dial {α : Type*} {l : List α} {via : Via} (addr : α → String) :
    Through P (l.map fun a => .dial via (addr a)) ↔ (l ≠ [] → P via) := by
  cases l with
  | nil => simp [Through]
  | cons a l =>
    simp only [Through, List.map_cons, List.forall_mem_cons, List.forall_mem_map, Effect.via,
      Option.some.injEq, forall_eq', ne_eq, reduceCtorEq, not_false_eq_true, true_imp_iff]
    exact ⟨And.left, fun h => ⟨h, fun _ _ => h⟩⟩

namespace RoundTripper

variable {env : NetEnv} {rt : RoundTripper}

theorem through_flatMap_plainDial {dials : List (Attempt × Attempt)} (addr serverName : String) :
    Through P (dials.flatMap (plainDial rt addr serverName)) ↔
      (dials ≠ [] → P (.dialer rt.dialer)) := by
  have hone (a : Attempt × Attempt) :
      Through P (plainDial rt addr serverName a) ↔ P (.dialer rt.dialer) := by
    rw [plainDial]
    split_ifs <;> simp [Through, Effect.via]
  induction dials with
  | nil => exact iff_of_true through_nil nofun
  | cons a dials ih =>
    rw [List.flatMap_cons, through_append, hone]
    refine ⟨fun h _ => h.1, fun h => ?_⟩
    have hp := h (List.cons_ne_nil _ _)
    exact ⟨hp, ih.2 fun _ => hp⟩

theorem through_tryDial (h : P (.dialer rt.dialer)) (id : Nat) (addr serverName : String)
    (hello : Hello) (a : Attempt) : Through P (tryDial rt id addr serverName hello a).2 := by
  cases a <;> simp [tryDial, Through, Effect.via, h]

theorem through_retry (h : P (.dialer rt.dialer)) (σ : State) (addr host : String) (hello : Hello)
    (a : Attempt) : Through P (retry env rt σ addr host hello a).effects := by
  have ht := through_tryDial h σ.next addr host hello a
  rw [retry]
  cases htried : tryDial rt σ.next addr host hello a with
  | mk tried effects =>
    rw [htried] at ht
    cases tried with
    | failed => exact ht
    | rejected b => exact ht
    | connected conn =>
      simp only []
      split_ifs <;> exact ht

variable (env) in
theorem through_dialTLS (h : P (.dialer rt.dialer)) (σ : State) (addr : String)
    (first second : Attempt) : Through P (dialTLS env rt σ addr first second).effects := by
  rw [dialTLS]
  cases hc : σ.cachedConnections addr with
  | some conn => exact through_nil
  | none =>
    simp only []
    -- the server name is never asked for again
    generalize (if rt.serverName ≠ "" then rt.serverName else
      (splitHostPort addr).elim addr Prod.fst) = serverName
    have ht := through_tryDial h σ.next addr serverName (firstHello rt serverName).1 first
    cases htried : tryDial rt σ.next addr serverName (firstHello rt serverName).1 first with
    | mk tried effects =>
      rw [htried] at ht
      cases tried with
      | failed => exact ht
      | rejected b =>
        cases b <;> simp only [] <;> split_ifs
        · exact through_append.2 ⟨ht, through_retry h _ _ _ _ _⟩
        · exact ht
        · exact through_append.2 ⟨ht, through_retry h _ _ _ _ _⟩
        · exact ht
      | connected conn =>
        simp only []
        split_ifs <;> exact ht

theorem through_dialAll (h : P (.dialer rt.dialer)) (σ : State) (addr : String)
    (dials : List (Attempt × Attempt)) : Through P (dialAll env rt σ addr dials).2 := by
  induction dials generalizing σ with
  | nil => exact through_nil
  | cons a dials ih => exact through_append.2 ⟨through_dialTLS env h _ _ _ _, ih _⟩

variable (env) in
theorem through_ensureTransport (h : P (.dialer rt.dialer)) (σ : State) (url : URL) (addr : String)
    (first second : Attempt) :
    Through P (ensureTransport env rt σ url addr first second).2.2 := by
  rw [ensureTransport]
  split_ifs with hc
  · exact through_nil
  rw [getTransport]
  cases url.scheme with
  | http => exact through_nil
  | https =>
    have hd := through_dialTLS env h σ addr first second
    simp only [hc, if_false, Bool.false_eq_true]
    split <;> exact hd
  | other name => exact through_nil

/-- Requests that open connections past the dialer: all of those over HTTP/3 that
    get as far as an address, and those of an `http` URL that are carried by an
    HTTP/1 transport for TLS, if it dials. -/
def Leaks (env : NetEnv) (rt : RoundTripper) (σ : State) (hop : Hop) : Prop :=
  h2FingerprintFails env rt = false ∧
    if rt.forceHTTP3 then hop.conditions.listens = true ∧ hop.conditions.resolves = true
    else hop.url.scheme = .http ∧ hop.conditions.dials ≠ [] ∧
      ∃ made, σ.cachedTransports (getDialTLSAddr hop.url) = some (.tls made) ∧ made.h2 = false

theorem through_roundTripHTTP3_iff (hnet : ¬P .net) (url : URL) (c : Conditions) :
    Through P (roundTripHTTP3 url c) ↔ ¬(c.listens = true ∧ c.resolves = true) := by
  rw [roundTripHTTP3]
  by_cases h : c.listens = true ∧ c.resolves = true
  · rw [if_pos (by simpa using h)]
    simp [Through, Effect.via, h, hnet]
  · rw [if_neg (by simpa using h)]
    exact iff_of_true through_nil h

/-- An `http` URL gets the transport that is cached, or a plaintext one. -/
theorem ensureTransport_http (env : NetEnv) (rt : RoundTripper) (σ : State) {url : URL}
    (hs : url.scheme = .http) (addr : String) (first second : Attempt) :
    let ensured := ensureTransport env rt σ url addr first second
    ensured.2 = (true, []) ∧
      ensured.1.cachedTransports addr = some ((σ.cachedTransports addr).getD .plain) := by
  rw [ensureTransport, getTransport, hs]
  cases hc : σ.cachedTransports addr <;> simp [hc]

/-- An `https` URL without a cached transport is dialled. -/
theorem ensureTransport_https (env : NetEnv) (rt : RoundTripper) {σ : State} {url : URL}
    (hs : url.scheme = .https) {addr : String} (hnone : σ.cachedTransports addr = none)
    (first second : Attempt) : ∃ ok, (ok = true ↔
      (dialTLS env rt σ addr first second).result ≠ .failed) ∧
        ensureTransport env rt σ url addr first second =
          ((dialTLS env rt σ addr first second).state, ok,
            (dialTLS env rt σ addr first second).effects) := by
  rw [ensureTransport, getTransport, hs, hnone]
  simp only [Option.isSome_none, Bool.false_eq_true, if_false]
  cases hresult : (dialTLS env rt σ addr first second).result with
  | conn conn => exact ⟨true, by simp, rfl⟩
  | negotiated => exact ⟨true, by simp, rfl⟩
  | failed => exact ⟨false, by simp, rfl⟩

variable (env) in
theorem through_carry_iff (h : P (.dialer rt.dialer)) (hnet : ¬P .net) (σ : State) (url : URL)
    (t : Transport) (dials : List (Attempt × Attempt)) :
    Through P (carry env rt σ url t dials).2 ↔
      ¬(url.scheme = .http ∧ dials ≠ [] ∧ ∃ made, t = .tls made ∧ made.h2 = false) := by
  cases hs : url.scheme with
  | http =>
    cases t with
    | plain => simp [carry, hs, -List.map_const', through_map_dial, h]
    | tls made =>
      cases h2 : made.h2 with
      | true => simp [carry, hs, h2, through_nil]
      | false => simp [carry, hs, h2, -List.map_const', through_map_dial, hnet]
  | https =>
    cases t with
    | plain => simp [carry, hs, through_flatMap_plainDial, h]
    | tls made => simp [carry, hs, through_dialAll h]
  | other name => simp [carry, hs, through_nil]

/-- A request opens its connections with the dialer exactly if it does not leak. -/
theorem through_roundTrip_iff (h : P (.dialer rt.dialer)) (hnet : ¬P .net) (σ : State) (hop : Hop) :
    Through P (roundTrip env rt σ hop).2.effects ↔ ¬Leaks env rt σ hop := by
  rw [roundTrip, Leaks]
  cases hfp : h2FingerprintFails env rt with
  | true => simp [through_nil]
  | false =>
    cases h3 : rt.forceHTTP3 with
    | true => simpa using through_roundTripHTTP3_iff hnet hop.url hop.conditions
    | false =>
      have he := through_ensureTransport env h σ hop.url (getDialTLSAddr hop.url)
        hop.conditions.first hop.conditions.second
      have hcarry := through_carry_iff env h hnet
        (ensureTransport env rt σ hop.url (getDialTLSAddr hop.url) hop.conditions.first
          hop.conditions.second).1 hop.url
      simp only [Bool.false_eq_true, if_false, true_and]
      -- an `http` URL dials nothing itself, so it is up to the transport it is carried by
      by_cases hs : hop.url.scheme = .http
      · obtain ⟨hok, ht⟩ := ensureTransport_http env rt σ hs
          (getDialTLSAddr hop.url) hop.conditions.first hop.conditions.second
        simp only [hok, if_true, ht, List.nil_append, hcarry]
        cases σ.cachedTransports (getDialTLSAddr hop.url) <;> simp
      · -- Only requests of `http` URLs leak.
        rw [iff_true_right fun hl => hs hl.1]
        split
        · rename_i transport _
          exact through_append.2 ⟨he, (hcarry transport _).2 fun hl => hs hl.1⟩
        · exact he

/-- No hop leaks. -/
def LeakFree (env : NetEnv) (rt : RoundTripper) : State → List Hop → Prop
  | _, [] => True
  | σ, hop :: hops => ¬Leaks env rt σ hop ∧ LeakFree env rt (roundTrip env rt σ hop).1 hops

end RoundTripper

theorem through_roundTrips_iff {env : EntryEnv} {rt : RoundTripper} (h : P (.dialer rt.dialer))
    (hnet : ¬P .net) (σ : RoundTripper.State) (hops : List RoundTripper.Hop) :
    Through P (roundTrips env rt σ hops).2 ↔ rt.LeakFree env.toNetEnv σ hops := by
  induction hops generalizing σ with
  | nil => exact iff_of_true through_nil trivial
  | cons hop hops ih =>
    exact through_append.trans (and_congr (RoundTripper.through_roundTrip_iff h hnet σ hop) (ih _))

/-! ## Clients -/

variable {env : EntryEnv}

/-- The dialer that is built from a proxy. -/
def OfProxy (proxy : String) (via : Via) : Prop :=
  ∃ userAgent localAddress, via = .dialer (.connect proxy userAgent localAddress)

theorem not_ofProxy_net (proxy : String) : ¬OfProxy proxy .net := fun ⟨_, _, h⟩ => nomatch h

/-- The client the pool holds under the key of a request. -/
def System.held (sys : System) (o : Options) : Option Client :=
  if o.enableConnectionReuse then
    (sys.pool.shards (getShard o.clientCall.key) o.clientCall.key).map ClientPoolEntry.client
  else none

theorem dialer_createNewClient {env : DialEnv} {c : ClientCall} {n : Nat} {client : Client}
    (hc : c.proxyURL.getD "" ≠ "") (h : createNewClient env c n = some client) :
    OfProxy (c.proxyURL.getD "") (.dialer client.transport.dialer) := by
  rw [createNewClient] at h
  simp only [if_pos hc] at h
  split_ifs at h
  cases h
  exact ⟨_, _, rfl⟩

/-- The call a new client is created with. -/
def Options.newCall (o : Options) : ClientCall :=
  if o.enableConnectionReuse then o.clientCall
  else { o.clientCall with browser := { o.browser with disableKeepAlives := true } }

/-- The round tripper a request is given: the one of the client the pool holds,
    or else a new one. -/
inductive System.Gives (env : DialEnv) (sys : System) (o : Options) : RoundTripper → Prop
  | held (client : Client) : sys.held o = some client → Gives env sys o client.transport
  | new (client : Client) : sys.held o = none →
      createNewClient env o.newCall sys.pool.next = some client → Gives env sys o client.transport

variable (env) in
theorem System.tripperFor_gives {sys : System} (h : sys.pool.KeysCached) (o : Options) (now : Int) :
    (sys.tripperFor env o now).1.KeysCached ∧
      ∀ rt, (sys.tripperFor env o now).2 = some rt → sys.Gives env.toDialEnv o rt := by
  rw [tripperFor]
  cases hr : o.enableConnectionReuse with
  | false =>
    refine ⟨h, fun rt hrt => ?_⟩
    obtain ⟨client, hc, rfl⟩ := Option.map_eq_some_iff.1 hrt
    refine .new client (by rw [held, hr, if_neg Bool.false_ne_true]) ?_
    rw [Options.newCall, hr, if_neg Bool.false_ne_true]
    exact hc
  | true =>
    obtain ⟨hcached, hget⟩ := Pool.getOrCreateClient_spec env.toDialEnv h o.clientCall now
    refine ⟨hcached, fun rt hrt => ?_⟩
    obtain ⟨client, hc, rfl⟩ := Option.map_eq_some_iff.1 hrt
    have hgot : (getOrCreateClient env.toDialEnv sys.pool o.clientCall true now).2 =
        (Cache.get ClientCall.key (createNewClient env.toDialEnv) sys.pool.toCache
          o.clientCall).2 := congrArg Prod.snd hget
    rw [hgot] at hc
    have hheld : sys.held o = sys.pool.toCache.entries o.clientCall.key := by
      rw [held, hr, if_pos rfl, Pool.toCache_entries]
    -- the pool is the cache of `Lib.Cache`: a hit, a new client that is kept, or none
    rcases Cache.get_cases ClientCall.key (createNewClient env.toDialEnv) sys.pool.toCache
      o.clientCall with ⟨v, hs, hg⟩ | ⟨v, hs, hm, hg⟩ | ⟨hs, hm, hg⟩
    · rw [hg] at hc
      exact .held client (hheld.trans (hs.trans hc))
    · rw [hg] at hc
      refine .new client (hheld.trans hs) ?_
      rw [Options.newCall, hr, if_pos rfl]
      exact hm.trans hc
    · rw [hg] at hc
      cases hc

/-! ## Runs -/

/-- All connections are opened through the dialer that is built from a proxy. -/
def Confined (proxy : String) (effects : List Effect) : Prop := Through (OfProxy proxy) effects

/-- What confines the connections of a call: for a request, that the pool holds no
    client of another proxy under its key, and that no hop leaks; for the other
    entry points only that they open none. -/
def Admissible (env : EntryEnv) (sys : System) (call : Call) : Prop :=
  match call.entry with
  | .request hops =>
    (∀ client, sys.held call.options = some client →
        OfProxy call.options.proxy (.dialer client.transport.dialer)) ∧
      ∀ rt, sys.Gives env.toDialEnv call.options rt →
        rt.LeakFree env.toNetEnv (sys.trippers rt.id) hops
  | .websocket url =>
    (url.bind fun url =>
      env.websocketDials { url with scheme := websocketScheme url.scheme }) = none
  | .sse urls => ∀ url ∈ urls, env.defaultClientDials url = none

/-- Connections of WebSockets pass by every dialer. -/
theorem through_wsConnect_iff (hnet : ¬P .net) (url : Option URL) :
    Through P (wsConnect env url) ↔ (url.bind fun url =>
      env.websocketDials { url with scheme := websocketScheme url.scheme }) = none := by
  rw [wsConnect]
  split
  · rename_i addr h
    rw [h]
    exact iff_of_false (fun hc => hnet (hc _ List.mem_cons_self _ rfl)) (by simp)
  · rename_i h
    exact iff_of_true through_nil h

/-- So do those of server-sent events. -/
theorem through_sseConnect_iff (hnet : ¬P .net) (urls : List URL) :
    Through P (sseConnect env urls) ↔ ∀ url ∈ urls, env.defaultClientDials url = none := by
  refine (through_map_dial id).trans ?_
  rw [imp_iff_not hnet, not_not, List.filterMap_eq_nil_iff]

theorem confined_Do {sys : System} {call : Call} {hops : List RoundTripper.Hop}
    (hk : sys.pool.KeysCached) (hproxy : call.options.proxy ≠ "")
    (hheld : ∀ client, sys.held call.options = some client →
      OfProxy call.options.proxy (.dialer client.transport.dialer))
    (hfree : ∀ rt, sys.Gives env.toDialEnv call.options rt →
      rt.LeakFree env.toNetEnv (sys.trippers rt.id) hops) :
    Confined call.options.proxy (Do env sys call.options call.now hops).2 := by
  obtain ⟨-, hgives⟩ := System.tripperFor_gives env hk call.options call.now
  rw [Do]
  cases hrt : (sys.tripperFor env call.options call.now).2 with
  | none => exact through_nil
  | some rt =>
    have hgiven := hgives rt hrt
    refine (through_roundTrips_iff ?_ (not_ofProxy_net _) _ _).2 (hfree rt hgiven)
    cases hgiven with
    | held client hc => exact hheld client hc
    | new client _ hc =>
      rw [Options.newCall] at hc
      split_ifs at hc <;> exact dialer_createNewClient (by exact hproxy) hc

/-- A call keeps the cached keys right. -/
theorem System.keysCached_step {sys : System} (h : sys.pool.KeysCached) (call : Call) :
    (sys.step env call).1.pool.KeysCached := by
  rw [step]
  cases call.entry with
  | websocket url => exact h
  | sse urls => exact h
  | request hops =>
    have hcached := (tripperFor_gives env h call.options call.now).1
    simp only [Do]
    split <;> exact hcached

/-- In every run whose calls with a proxy are admissible, all of the connections
    opened for such a call are opened through the dialer of its proxy. -/
theorem confined_of_admissible (env : EntryEnv) (calls : List Call)
    (h : ∀ t ∈ Machine.trace (System.step env) .new calls, t.event.options.proxy ≠ "" →
      Admissible env t.before t.event) :
    ∀ t ∈ Machine.trace (System.step env) .new calls, t.event.options.proxy ≠ "" →
      Confined t.event.options.proxy t.output := by
  intro t ht
  -- only the keys are carried along; the rest is asked of each call on its own
  refine (Machine.trace_of_inv (System.step env) (fun sys => sys.pool.KeysCached)
    (fun sys call => call.options.proxy ≠ "" → Admissible env sys call)
    (fun _ call effects => call.options.proxy ≠ "" → Confined call.options.proxy effects)
    (fun sys call hk hadm => ⟨System.keysCached_step hk call, fun hproxy => ?_⟩)
    Pool.keysCached_new h t ht).2
  have hadm := hadm hproxy
  rw [Admissible] at hadm
  rw [System.step]
  cases hentry : call.entry with
  | websocket url => rw [hentry] at hadm; exact (through_wsConnect_iff (not_ofProxy_net _) _).2 hadm
  | sse urls => rw [hentry] at hadm; exact (through_sseConnect_iff (not_ofProxy_net _) _).2 hadm
  | request hops => rw [hentry] at hadm; exact confined_Do hk hproxy hadm.1 hadm.2

/-- All that could be dialled is. -/
def EntryEnv.simple : EntryEnv where
  parsesHTTP2Fingerprint _ := true
  canonicalAddr url := url.host ++ ":443"
  acceptsProxy _ := true
  parseIP _ := true
  websocketDials url := some url.host
  defaultClientDials url := some url.host

/-- A request of an `https` URL, with a proxy. -/
def Call.https : Call :=
  ⟨{ proxy := "http://p:8080" }, 0, .request [⟨⟨.https, "h", "/"⟩,
    ⟨.connects false, .dialFails, [(.connects false, .dialFails)], true, true, true⟩⟩]⟩

theorem confined_https : Confined Call.https.options.proxy (System.step .simple .new .https).2 := by
  refine confined_of_admissible .simple [.https] (fun t ht _ => ?_) ⟨.new, .https, _⟩
    List.mem_cons_self (by decide)
  obtain rfl := List.mem_singleton.1 ht
  refine ⟨fun _ h => (nomatch h), fun rt hgives => ⟨fun hleak => ?_, trivial⟩⟩
  cases hgives with
  | held client h => cases h
  | new client _ h => cases h; exact absurd hleak.2.1 (by decide)

/-- A WebSocket is connected without the proxy. -/
theorem not_forall_confined : ¬∀ (env : EntryEnv) (calls : List Call),
    ∀ t ∈ Machine.trace (System.step env) .new calls,
      t.event.options.proxy ≠ "" → Confined t.event.options.proxy t.output := by
  intro h
  have hconf := h .simple
    [⟨{ proxy := "http://p:8080" }, 0, .websocket (some ⟨.https, "h", "/"⟩)⟩] _
    List.mem_cons_self (by decide)
  exact not_ofProxy_net _ (hconf _ List.mem_cons_self _ rfl)

end CycleTLS
