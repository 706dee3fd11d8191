import CycleTLS.Confinement
import CycleTLS.ProxyAddress

/-!
# Local addresses

A request can name the local address that its sockets are to be bound to. That is done in four
places: by the dialer of a client without a proxy, by the one of `newConnectDialer`, by its SOCKS4
variant, and for the socket of `http3Dial`. Only the first returns an error if it cannot read the
address; the others go on without one (`Dialer.localAddr`, `listenAddr`). The socket that
`makeHTTP3Request` sends the request by is bound by none of them, nor are those past the dialer
(`Leaks`), or of the other ways to enter.
-/

namespace CycleTLS

/-! ## What sockets are bound to -/

/-- The address that the sockets of a dialer are bound to. -/
def Dialer.localAddr (env : DialEnv) : Dialer → Option String
  | direct => none
  | bound localAddress => some localAddress
  | connect _ _ localAddress =>
    if localAddress ≠ "" ∧ env.parseIP localAddress then some localAddress else none

/-- The address that the sockets for connections are bound to. -/
def Via.localAddr (env : DialEnv) : Via → Option String
  | dialer d => d.localAddr env
  | net => none

/-- The addresses that the sockets of some connections are bound to. -/
def localAddrs (env : DialEnv) (effects : List Effect) : List (Option String) :=
  effects.filterMap fun e => e.via.map (Via.localAddr env)

/-- All of a dialer's sockets to a proxy are bound as it says. -/
theorem localAddr_dialed {env : BuilderEnv} {proxyURLStr localAddress : String} {left : URL}
    {c : ConnectDialer} (h : env.connectDialer proxyURLStr localAddress = some (c, left))
    (target userAgent : String) :
    (c.dialed target).map Socket.localAddr =
      some ((Dialer.connect proxyURLStr userAgent localAddress).localAddr env.dialEnv) := by
  cases hurl : env.parseURL proxyURLStr with
  | none =>
    rw [BuilderEnv.connectDialer, hurl] at h
    cases h
  | some url =>
    rw [dialed_of_connectDialer h hurl]
    rfl

namespace RoundTripper

/-- The address that the socket of `http3Dial` is bound to. -/
def listenAddr (env : DialEnv) (rt : RoundTripper) : Option String :=
  if rt.localAddress ≠ "" ∧ env.parseIP rt.localAddress then some rt.localAddress else none

/-- The addresses that the sockets of a round trip are bound to. Over HTTP/3 there is the one of
    `http3Dial`, and the one of the transport of `makeHTTP3Request`. -/
def sockets (env : EntryEnv) (rt : RoundTripper) (σ : State) (hop : Hop) : List (Option String) :=
  let c := hop.conditions
  if h2FingerprintFails env.toNetEnv rt then []
  else if rt.forceHTTP3 then
    if c.listens then
      listenAddr env.toDialEnv rt ::
        if c.resolves && c.connects && hop.url.scheme = .https then [none] else []
    else []
  else localAddrs env.toDialEnv (roundTrip env.toNetEnv rt σ hop).2.effects

/-- A round trip opens no connection. -/
def Quiet (env : NetEnv) (σ : State) (hop : Hop) : Prop :=
  match hop.url.scheme with
  | .http => hop.conditions.dials = [] ∨
      ∃ made, σ.cachedTransports (getDialTLSAddr hop.url) = some (.tls made) ∧ made.h2 = true
  | .https =>
    match σ.cachedTransports (getDialTLSAddr hop.url) with
    | none => (σ.cachedConnections (getDialTLSAddr hop.url)).isSome
    | some .plain => hop.conditions.dials = []
    | some (.tls _) => hop.conditions.dials.length ≤
        if (σ.cachedConnections (env.canonicalAddr hop.url)).isSome then 1 else 0
  | .other _ => True

end RoundTripper

variable {P : Via → Prop}

namespace RoundTripper

variable {env : NetEnv} {rt : RoundTripper}

theorem dial_mem_tryDial (rt : RoundTripper) (id : Nat) (addr serverName : String) (hello : Hello)
    (a : Attempt) : .dial (.dialer rt.dialer) addr ∈ (tryDial rt id addr serverName hello a).2 := by
  cases a <;> exact List.mem_cons_self

/-- Without a connection that was kept, there is a dial. -/
theorem dial_mem_dialTLS {σ : State} {addr : String} (h : σ.cachedConnections addr = none)
    (first second : Attempt) :
    .dial (.dialer rt.dialer) addr ∈ (dialTLS env rt σ addr first second).effects := by
  rw [dialTLS, h]
  simp only []
  generalize (if rt.serverName ≠ "" then rt.serverName else
    (splitHostPort addr).elim addr Prod.fst) = serverName
  have ht := dial_mem_tryDial rt σ.next addr serverName (firstHello rt serverName).1 first
  cases htried : tryDial rt σ.next addr serverName (firstHello rt serverName).1 first with
  | mk tried effects =>
    rw [htried] at ht
    cases tried with
    | failed => exact ht
    | rejected b =>
      cases b <;> simp only [] <;> split_ifs
      · exact List.mem_append_left _ ht
      · exact ht
      · exact List.mem_append_left _ ht
      · exact ht
    | connected conn =>
      simp only []
      split_ifs <;> exact ht

theorem dialTLS_of_kept {σ : State} {addr : String} {conn : Conn}
    (h : σ.cachedConnections addr = some conn) (first second : Attempt) :
    dialTLS env rt σ addr first second =
      ⟨{ σ with cachedConnections := Function.update σ.cachedConnections addr none }, .conn conn,
        []⟩ := by
  rw [dialTLS, h]

theorem not_through_dialTLS (h : ¬P (.dialer rt.dialer)) {σ : State} {addr : String}
    (hnone : σ.cachedConnections addr = none) (first second : Attempt) :
    ¬Through P (dialTLS env rt σ addr first second).effects := fun ht =>
  h (ht _ (dial_mem_dialTLS hnone first second) _ rfl)

/-- A kept connection serves for one dial. -/
theorem through_dialAll_iff (h : ¬P (.dialer rt.dialer)) (σ : State) (addr : String)
    (dials : List (Attempt × Attempt)) :
    Through P (dialAll env rt σ addr dials).2 ↔
      dials.length ≤ if (σ.cachedConnections addr).isSome then 1 else 0 := by
  have hnone {σ : State} (hc : σ.cachedConnections addr = none)
      (dials : List (Attempt × Attempt)) :
      Through P (dialAll env rt σ addr dials).2 ↔ dials = [] := by
    cases dials with
    | nil => exact iff_of_true through_nil rfl
    | cons a dials =>
      refine iff_of_false (fun ht => ?_) (List.cons_ne_nil _ _)
      exact not_through_dialTLS h hc a.1 a.2 (through_append.1 ht).1
  cases hc : σ.cachedConnections addr with
  | none => simpa using hnone hc dials
  | some conn =>
    cases dials with
    | nil => simp [dialAll, through_nil]
    | cons a dials =>
      -- the first dial gets the connection, the others get none
      have hdialed : dialTLS env rt σ addr a.1 a.2 = _ := dialTLS_of_kept hc a.1 a.2
      have hrest := hnone (σ := { σ with
        cachedConnections := Function.update σ.cachedConnections addr none })
        (Function.update_self ..) dials
      simp only [dialAll, hdialed, List.nil_append, hrest, Option.isSome_some, if_true,
        List.length_cons, Nat.succ_le_succ_iff, Nat.le_zero, List.length_eq_zero_iff]

variable (env rt) in
/-- A dialer that does not have the property is not to dial at all. -/
theorem through_roundTrip_iff_quiet (h : ¬P (.dialer rt.dialer)) (hnet : ¬P .net)
    (hfp : h2FingerprintFails env rt = false) (h3 : rt.forceHTTP3 = false) (σ : State) (hop : Hop) :
    Through P (roundTrip env rt σ hop).2.effects ↔ Quiet env σ hop := by
  have hmap (addr : String) : Through P (hop.conditions.dials.map fun _ =>
      .dial (.dialer rt.dialer) addr) ↔ hop.conditions.dials = [] := by
    rw [through_map_dial fun _ => addr, imp_iff_not h, not_not]
  have hmapNet (addr : String) : Through P (hop.conditions.dials.map fun _ =>
      .dial .net addr) ↔ hop.conditions.dials = [] := by
    rw [through_map_dial fun _ => addr, imp_iff_not hnet, not_not]
  rw [roundTrip, Quiet]
  simp only [hfp, h3, Bool.false_eq_true, if_false]
  cases hs : hop.url.scheme with
  | http =>
    obtain ⟨hok, ht⟩ := ensureTransport_http env rt σ hs (getDialTLSAddr hop.url)
      hop.conditions.first hop.conditions.second
    simp only [hok, if_true, ht, List.nil_append, carry, hs]
    cases σ.cachedTransports (getDialTLSAddr hop.url) with
    | none => simpa using hmap _
    | some t =>
      cases t with
      | plain => simpa using hmap _
      | tls made =>
        cases h2 : made.h2 with
        | true => simp [through_nil, h2]
        | false => simpa [h2] using hmapNet _
  | https =>
    cases ht : σ.cachedTransports (getDialTLSAddr hop.url) with
    | none =>
      obtain ⟨ok, hok, hensure⟩ :=
        ensureTransport_https env rt hs ht hop.conditions.first hop.conditions.second
      rw [hensure]
      cases hc : σ.cachedConnections (getDialTLSAddr hop.url) with
      | none =>
        have hnot : ¬Through P (dialTLS env rt σ (getDialTLSAddr hop.url) hop.conditions.first
            hop.conditions.second).effects := not_through_dialTLS h hc _ _
        refine iff_of_false (fun hthrough => hnot ?_) (by rintro ⟨⟩)
        split at hthrough
        · exact (through_append.1 hthrough).1
        · exact hthrough
      | some conn =>
        refine iff_of_true ?_ rfl
        simp [dialTLS_of_kept hc, ht, through_nil]
    | some t =>
      simp only [ensureTransport, ht, Option.isSome_some, if_true, List.nil_append, carry, hs]
      cases t with
      | plain => exact (through_flatMap_plainDial _ _).trans (by rw [imp_iff_not h, not_not])
      | tls made => exact through_dialAll_iff h σ _ _
  | other name =>
    refine iff_of_true ?_ trivial
    cases ht : σ.cachedTransports (getDialTLSAddr hop.url) with
    | none => simp [ensureTransport, getTransport, ht, hs, through_nil]
    | some t => simp [ensureTransport, ht, carry, hs, through_nil]

end RoundTripper

/-! ## Round trips -/

namespace RoundTripper

variable (env : EntryEnv) (rt : RoundTripper)

/-- What binds the sockets of a round trip to an address. Over HTTP/3, the one of `http3Dial` is to
    be bound, and no other to be opened. Else the dialer is to be bound and not to be passed by, or
    no connection to be opened. -/
def KeepsAddress (localAddress : String) (σ : State) (hop : Hop) : Prop :=
  let c := hop.conditions
  h2FingerprintFails env.toNetEnv rt = false →
    if rt.forceHTTP3 then
      c.listens = true → listenAddr env.toDialEnv rt = some localAddress ∧
        ¬(c.resolves = true ∧ c.connects = true ∧ hop.url.scheme = .https)
    else if rt.dialer.localAddr env.toDialEnv = some localAddress then
      ¬Leaks env.toNetEnv rt σ hop
    else Quiet env.toNetEnv σ hop

/-- All of some sockets are bound to an address. -/
def AllBound (localAddress : String) (sockets : List (Option String)) : Prop :=
  ∀ s ∈ sockets, s = some localAddress

theorem allBound_localAddrs_iff (localAddress : String) (effects : List Effect) :
    AllBound localAddress (localAddrs env.toDialEnv effects) ↔
      Through (fun via => via.localAddr env.toDialEnv = some localAddress) effects := by
  simp only [AllBound, localAddrs, List.mem_filterMap, Option.map_eq_some_iff, Through]
  constructor
  · exact fun h e he via hvia => h _ ⟨e, he, via, hvia, rfl⟩
  · rintro h _ ⟨e, he, via, hvia, rfl⟩
    exact h e he via hvia

/-- The sockets of a round trip are bound to an address exactly under these conditions. -/
theorem allBound_sockets_iff (localAddress : String) (σ : State) (hop : Hop) :
    AllBound localAddress (sockets env rt σ hop) ↔ KeepsAddress env rt localAddress σ hop := by
  rw [sockets, KeepsAddress]
  cases hfp : h2FingerprintFails env.toNetEnv rt with
  | true => simp [AllBound]
  | false =>
    cases h3 : rt.forceHTTP3 with
    | true =>
      cases hop.conditions.listens with
      | false => simp [AllBound]
      | true =>
        by_cases hsecond : hop.conditions.resolves = true ∧ hop.conditions.connects = true ∧
          hop.url.scheme = .https
        · simp [AllBound, hsecond]
        · have hnone : (hop.conditions.resolves && hop.conditions.connects &&
              decide (hop.url.scheme = .https)) = false := by simpa using hsecond
          simp [AllBound, hsecond, hnone]
    | false =>
      simp only [Bool.false_eq_true, if_false, true_imp_iff]
      rw [allBound_localAddrs_iff]
      have hnet : ¬Via.localAddr env.toDialEnv .net = some localAddress := nofun
      split_ifs with hbound
      · exact through_roundTrip_iff hbound hnet σ hop
      · exact through_roundTrip_iff_quiet env.toNetEnv rt hbound hnet hfp h3 σ hop

/-- What binds the sockets of all round trips. -/
def KeepAddress (localAddress : String) : State → List Hop → Prop
  | _, [] => True
  | σ, hop :: hops => KeepsAddress env rt localAddress σ hop ∧
      KeepAddress localAddress (roundTrip env.toNetEnv rt σ hop).1 hops

/-- The sockets of round trips, one for each hop. -/
def allSockets : State → List Hop → List (Option String)
  | _, [] => []
  | σ, hop :: hops => sockets env rt σ hop ++ allSockets (roundTrip env.toNetEnv rt σ hop).1 hops

theorem allBound_allSockets_iff (localAddress : String) (σ : State) (hops : List Hop) :
    AllBound localAddress (allSockets env rt σ hops) ↔
      KeepAddress env rt localAddress σ hops := by
  induction hops generalizing σ with
  | nil => exact iff_of_true nofun trivial
  | cons hop hops ih =>
    exact List.forall_mem_append.trans
      (and_congr (allBound_sockets_iff env rt localAddress σ hop) (ih _))

end RoundTripper

/-! ## Calls -/

variable {env : EntryEnv}

/-- The round tripper a request is given is that of `System.Gives`. -/
theorem System.tripperFor_eq_some_iff {sys : System} (h : sys.pool.KeysCached) {o : Options}
    {now : Int} {rt : RoundTripper} :
    (sys.tripperFor env o now).2 = some rt ↔ sys.Gives env.toDialEnv o rt := by
  refine ⟨(tripperFor_gives env h o now).2 rt, fun hgives => ?_⟩
  rw [tripperFor]
  cases hr : o.enableConnectionReuse with
  | false =>
    have hheld : sys.held o = none := by rw [held, hr, if_neg Bool.false_ne_true]
    cases hgives with
    | held client hc => cases hheld.symm.trans hc
    | new client _ hc =>
      rw [Options.newCall, hr, if_neg Bool.false_ne_true] at hc
      exact congrArg (Option.map Client.transport) hc
  | true =>
    have hget := (Pool.getOrCreateClient_spec env.toDialEnv h o.clientCall now).2
    have hgot : (getOrCreateClient env.toDialEnv sys.pool o.clientCall true now).2 =
        (Cache.get ClientCall.key (createNewClient env.toDialEnv) sys.pool.toCache
          o.clientCall).2 := congrArg Prod.snd hget
    have hheld : sys.held o = sys.pool.toCache.entries o.clientCall.key := by
      rw [held, hr, if_pos rfl, Pool.toCache_entries]
    dsimp only
    rw [hgot]
    cases hgives with
    | held client hc => rw [Cache.get_of_held (hheld.symm.trans hc), Option.map_some]
    | new client hnone hc =>
      rw [Options.newCall, hr, if_pos rfl] at hc
      rw [Cache.get_of_made (hheld.symm.trans hnone) hc, Option.map_some]

/-- The addresses that the sockets of a call are bound to. -/
def System.sockets (env : EntryEnv) (sys : System) (call : Call) : List (Option String) :=
  match call.entry with
  | .request hops =>
    match (sys.tripperFor env call.options call.now).2 with
    | none => []
    | some rt => rt.allSockets env (sys.trippers rt.id) hops
  | .websocket url => localAddrs env.toDialEnv (wsConnect env url)
  | .sse urls => localAddrs env.toDialEnv (sseConnect env urls)

/-- The sockets of a call that does not fail are bound to its local address. -/
def Honours (env : EntryEnv) (sys : System) (call : Call) (fails : Bool) : Prop :=
  fails = true ∨ RoundTripper.AllBound call.options.localAddress (sys.sockets env call)

/-- What binds the sockets of a call. -/
def Binds (env : EntryEnv) (sys : System) (call : Call) : Prop :=
  match call.entry with
  | .request hops => ∀ rt, sys.Gives env.toDialEnv call.options rt →
      rt.KeepAddress env call.options.localAddress (sys.trippers rt.id) hops
  | .websocket url => (url.bind fun url =>
      env.websocketDials { url with scheme := websocketScheme url.scheme }) = none
  | .sse urls => ∀ url ∈ urls, env.defaultClientDials url = none

/-- A client that is created binds its dialer exactly if it is told an address that can be read. -/
theorem localAddr_createNewClient {denv : DialEnv} {c : ClientCall} {n : Nat} {client : Client}
    (h : createNewClient denv c n = some client) :
    client.transport.dialer.localAddr denv = some c.localAddress ↔
      c.localAddress ≠ "" ∧ denv.parseIP c.localAddress = true := by
  rw [createNewClient] at h
  simp only [] at h
  split_ifs at h with hproxy haccepts hlocal hparse
  · cases h
    change (if c.localAddress ≠ "" ∧ denv.parseIP c.localAddress then _ else none) = _ ↔ _
    split_ifs with hbound <;> simp [hbound]
  · cases h
    exact iff_of_true rfl ⟨hlocal, hparse⟩
  · cases h
    exact iff_of_false (by rintro ⟨⟩) fun hbound => hlocal hbound.1

theorem allBound_sockets_call_iff {sys : System} (hk : sys.pool.KeysCached) (call : Call) :
    RoundTripper.AllBound call.options.localAddress (sys.sockets env call) ↔
      Binds env sys call := by
  rw [System.sockets, Binds]
  have hnet : ¬Via.localAddr env.toDialEnv .net = some call.options.localAddress := nofun
  cases call.entry with
  | request hops =>
    dsimp only
    cases hrt : (sys.tripperFor env call.options call.now).2 with
    | none =>
      refine iff_of_true nofun fun rt hgives => ?_
      rw [(System.tripperFor_eq_some_iff hk).2 hgives] at hrt
      cases hrt
    | some rt =>
      rw [rt.allBound_allSockets_iff]
      constructor
      · intro h rt' hgives
        rw [(System.tripperFor_eq_some_iff hk).2 hgives] at hrt
        cases hrt
        exact h
      · exact fun h => h rt ((System.tripperFor_eq_some_iff hk).1 hrt)
  | websocket url =>
    exact (RoundTripper.allBound_localAddrs_iff env _ _).trans (through_wsConnect_iff hnet url)
  | sse urls =>
    exact (RoundTripper.allBound_localAddrs_iff env _ _).trans (through_sseConnect_iff hnet urls)

/-- In every run, the sockets of a call with a local address are bound to it exactly if the call
    fails, or its sockets are such as are bound: over HTTP/3 a single one, of an address that can be
    read, and else those of a dialer that was told such an address and is not passed by. -/
theorem honours_iff (env : EntryEnv) (calls : List Call) :
    ∀ t ∈ Machine.trace (System.step env) .new calls, t.event.options.localAddress ≠ "" →
      ∀ fails, Honours env t.before t.event fails ↔ fails = true ∨ Binds env t.before t.event := by
  intro t ht _ fails
  have hk := (Machine.trace_of_inv (System.step env) (fun sys => sys.pool.KeysCached)
    (fun _ _ => True) (fun _ _ _ => True)
    (fun sys call hk _ => ⟨System.keysCached_step hk call, trivial⟩)
    Pool.keysCached_new (fun _ _ => trivial) t ht).1
  exact or_congr Iff.rfl (allBound_sockets_call_iff hk t.event)

/-- A request of an `https` URL, with a local address and a proxy. -/
def Call.fromAddress (localAddress : String) : Call :=
  { Call.https with options := { proxy := "http://p:8080", localAddress := localAddress } }

theorem honours_fromAddress : Honours .simple .new (.fromAddress "10.0.0.1") false := by
  refine (honours_iff .simple [.fromAddress "10.0.0.1"] ⟨.new, .fromAddress "10.0.0.1", _⟩
    List.mem_cons_self (by decide) false).2 (.inr fun rt hgives => ⟨fun _ => ?_, trivial⟩)
  cases hgives with
  | held client h => cases h
  | new client _ h =>
    cases h
    exact fun hleak => absurd hleak.2.1 (by decide)

/-- With a proxy, a local address that cannot be read is left out. -/
theorem not_forall_honours : ¬∀ (env : EntryEnv) (calls : List Call),
    ∀ t ∈ Machine.trace (System.step env) .new calls, t.event.options.localAddress ≠ "" →
      ∀ fails, Honours env t.before t.event fails := by
  intro h
  let env : EntryEnv := { EntryEnv.simple with parseIP := fun _ => false }
  have hhonours := h env [.fromAddress "eth0"] ⟨.new, .fromAddress "eth0", _⟩ List.mem_cons_self
    (by decide) false
  rcases hhonours with hfails | hbound
  · cases hfails
  · exact nomatch hbound none List.mem_cons_self

end CycleTLS
