import CycleTLS.LocalAddress

/-!
# Which handshakes verify the certificate

The handshakes of `dialTLS` take the flag `InsecureSkipVerify` of the options. The configurations of
HTTP/3 come from a `TLSConfig` that is never set, and always verify, as does the one of the
plaintext transport, where that carries an `https` request; the one for an `https` proxy never does.
The handshakes of a run follow the flag exactly if its options heed each hop (`followsFlag_iff`).
-/

namespace CycleTLS

/-! ## Configurations -/

/-- A TLS configuration, of uTLS or of Go. -/
structure TLSConfig where
  insecureSkipVerify : Bool := false
  serverName : String := ""
  nextProtos : List String := []
  deriving DecidableEq

/-- `ConvertUtlsConfig`. -/
def convertUtlsConfig (utlsConfig : Option TLSConfig) : Option TLSConfig :=
  utlsConfig.map fun c => ⟨c.insecureSkipVerify, c.serverName, c.nextProtos⟩

namespace RoundTripper

variable (rt : RoundTripper)

/-- The `TLSConfig` of a round tripper, which that of a `Browser` from options gives. -/
def tlsConfig (_rt : RoundTripper) : Option TLSConfig := none

/-- The configuration of `dialTLS` and its retries. -/
def dialTLSConfig (serverName : String) (insecureSkipVerify : Bool) : TLSConfig where
  serverName := serverName
  insecureSkipVerify := insecureSkipVerify

/-- The configuration of `ghttp3Dial`. -/
def ghttp3DialConfig (remoteAddr : String) : TLSConfig :=
  { (convertUtlsConfig rt.tlsConfig).getD {} with
    nextProtos := ["h3"]
    serverName := if rt.serverName ≠ "" then rt.serverName else remoteAddr }

/-- The configuration of `makeHTTP3Request`. -/
def makeHTTP3RequestConfig : TLSConfig :=
  let config := (convertUtlsConfig rt.tlsConfig).getD {}
  if rt.serverName ≠ "" then { config with serverName := rt.serverName } else config

end RoundTripper

/-- What the connections depend on besides, of the URL of a proxy. -/
structure ProxyEnv extends EntryEnv where
  proxyScheme : String → String
  proxyHostname : String → String

/-- The configuration of `DialContext` for an `https` proxy. -/
def proxyConfig (hostname : String) : TLSConfig where
  nextProtos := ["h2", "http/1.1"]
  serverName := hostname
  insecureSkipVerify := true

/-- A handshake that an effect of a round tripper may start. -/
inductive Starts (env : ProxyEnv) (rt : RoundTripper) : Effect → TLSConfig → Prop
  | target (conn : Nat) (serverName : String) (hello : Hello) (insecureSkipVerify : Bool) :
    Starts env rt (.handshake conn serverName hello insecureSkipVerify)
      (RoundTripper.dialTLSConfig serverName insecureSkipVerify)
  /-- The plaintext transport is made without a `TLSClientConfig`. -/
  | transport (serverName : String) :
    Starts env rt (.transportHandshake serverName) { serverName := serverName }
  | proxy (proxyURL userAgent localAddress addr : String) (h : env.proxyScheme proxyURL = "https") :
    Starts env rt (.dial (.dialer (.connect proxyURL userAgent localAddress)) addr)
      (proxyConfig (env.proxyHostname proxyURL))
  | ghttp3Dial (host port : String) :
    Starts env rt (.datagrams host port) (rt.ghttp3DialConfig host)
  | makeHTTP3Request (host port : String) :
    Starts env rt (.datagrams host port) rt.makeHTTP3RequestConfig

/-- In the handshakes that some effects start, certificates are not verified exactly if the flag
    says so. -/
def Follow (env : ProxyEnv) (rt : RoundTripper) (insecureSkipVerify : Bool)
    (effects : List Effect) : Prop :=
  ∀ e ∈ effects, ∀ config, Starts env rt e config → config.insecureSkipVerify = insecureSkipVerify

/-- The same, in all that a client does for some hops. -/
def FollowsFlag (env : ProxyEnv) (rt : RoundTripper) (insecureSkipVerify : Bool)
    (σ : RoundTripper.State) (hops : List RoundTripper.Hop) : Prop :=
  Follow env rt insecureSkipVerify (roundTrips env.toEntryEnv rt σ hops).2

namespace RoundTripper

/-- An `https` request is carried by the plaintext transport of an `http` one, which has to dial,
    and can. -/
def HandshakesPlain (σ : State) (hop : Hop) : Prop :=
  hop.url.scheme = .https ∧ σ.cachedTransports (getDialTLSAddr hop.url) = some .plain ∧
    ∃ a ∈ hop.conditions.dials, a.1 ≠ .dialFails

/-- Nothing is dialled with the dialer: there is a connection, or the transport for TLS of an
    `https` request carries an `http` one. -/
def Undialed (env : NetEnv) (σ : State) (hop : Hop) : Prop :=
  Quiet env σ hop ∨ hop.url.scheme = .http ∧
    ∃ made, σ.cachedTransports (getDialTLSAddr hop.url) = some (.tls made)

end RoundTripper

namespace Options

/-- The flag is followed in a hop. Over HTTP/3 it is to be off, or no socket and address are found.
    Over TCP, if it is on, no transport makes a handshake of its own, and if it is off, there is no
    `https` proxy, or nothing is dialled with it. -/
def Heeds (env : ProxyEnv) (o : Options) (σ : RoundTripper.State) (hop : RoundTripper.Hop) :
    Prop :=
  (o.http2Fingerprint ≠ "" ∧ env.parsesHTTP2Fingerprint o.http2Fingerprint = false) ∨
    if o.forceHTTP3 then
      o.insecureSkipVerify = false ∨ ¬(hop.conditions.listens ∧ hop.conditions.resolves)
    else if o.insecureSkipVerify then ¬RoundTripper.HandshakesPlain σ hop
    else o.proxy = "" ∨ env.proxyScheme o.proxy ≠ "https" ∨
      RoundTripper.Undialed env.toNetEnv σ hop

/-- The flag is followed in all hops. -/
def HeedsAll (env : ProxyEnv) (o : Options) (rt : RoundTripper) :
    RoundTripper.State → List RoundTripper.Hop → Prop
  | _, [] => True
  | σ, hop :: hops =>
    o.Heeds env σ hop ∧ o.HeedsAll env rt (rt.roundTrip env.toNetEnv σ hop).1 hops

end Options

/-! ## What a round tripper does -/

namespace RoundTripper

/-- The effects of a round tripper over TCP. -/
structure Allows (rt : RoundTripper) (P : Effect → Prop) : Prop where
  dial : ∀ addr, P (.dial (.dialer rt.dialer) addr)
  net : ∀ addr, P (.dial .net addr)
  opened : ∀ conn, P (.opened conn)
  handshake : ∀ conn serverName hello, P (.handshake conn serverName hello rt.insecureSkipVerify)
  close : ∀ conn, P (.close conn)

variable {env : NetEnv} {rt : RoundTripper} {P : Effect → Prop}

theorem Allows.tryDial (h : rt.Allows P) (id : Nat) (addr serverName : String) (hello : Hello)
    (a : Attempt) : ∀ e ∈ (tryDial rt id addr serverName hello a).2, P e := by
  cases a <;> simp [RoundTripper.tryDial, h.dial, h.opened, h.handshake, h.close]

theorem Allows.retry (h : rt.Allows P) (σ : State) (addr host : String) (hello : Hello)
    (a : Attempt) : ∀ e ∈ (retry env rt σ addr host hello a).effects, P e := by
  have htry := h.tryDial σ.next addr host hello a
  rw [RoundTripper.retry]
  cases htried : RoundTripper.tryDial rt σ.next addr host hello a with
  | mk tried effects =>
    rw [htried] at htry
    cases tried with
    | failed | rejected => exact htry
    | connected conn =>
      simp only []
      split_ifs <;> exact htry

theorem Allows.dialTLS (h : rt.Allows P) (σ : State) (addr : String) (first second : Attempt) :
    ∀ e ∈ (dialTLS env rt σ addr first second).effects, P e := by
  rw [RoundTripper.dialTLS]
  cases hc : σ.cachedConnections addr with
  | some conn => exact fun e he => absurd he List.not_mem_nil
  | none =>
    simp only []
    generalize (if rt.serverName ≠ "" then rt.serverName else
      (splitHostPort addr).elim addr Prod.fst) = serverName
    have htry := h.tryDial σ.next addr serverName (firstHello rt serverName).1 first
    cases htried : RoundTripper.tryDial rt σ.next addr serverName (firstHello rt serverName).1
      first with
    | mk tried effects =>
      rw [htried] at htry
      cases tried with
      | failed => exact htry
      | rejected b =>
        cases b <;> simp only [] <;> split_ifs
        · exact List.forall_mem_append.2 ⟨htry, h.retry _ _ _ _ _⟩
        · exact htry
        · exact List.forall_mem_append.2 ⟨htry, h.retry _ _ _ _ _⟩
        · exact htry
      | connected conn =>
        simp only []
        split_ifs <;> exact htry

theorem Allows.dialAll (h : rt.Allows P) (σ : State) (addr : String)
    (dials : List (Attempt × Attempt)) : ∀ e ∈ (dialAll env rt σ addr dials).2, P e := by
  induction dials generalizing σ with
  | nil => exact fun e he => absurd he List.not_mem_nil
  | cons a dials ih => exact List.forall_mem_append.2 ⟨h.dialTLS σ addr a.1 a.2, ih _⟩

theorem Allows.ensureTransport (h : rt.Allows P) (σ : State) (url : URL) (addr : String)
    (first second : Attempt) :
    ∀ e ∈ (ensureTransport env rt σ url addr first second).2.2, P e := by
  have hnil : ∀ e ∈ ([] : List Effect), P e := fun e he => absurd he List.not_mem_nil
  rw [RoundTripper.ensureTransport]
  split_ifs with hcached
  · exact hnil
  rw [getTransport]
  cases url.scheme with
  | http | other => exact hnil
  | https =>
    have hdial : ∀ e ∈ (RoundTripper.dialTLS env rt σ addr first second).effects, P e :=
      h.dialTLS σ addr first second
    simp only [hcached, if_false, Bool.false_eq_true]
    split <;> exact hdial

theorem Allows.carry (h : rt.Allows P)
    (htransport : ∀ serverName, P (.transportHandshake serverName)) (σ : State) (url : URL)
    (transport : Transport) (dials : List (Attempt × Attempt)) :
    ∀ e ∈ (carry env rt σ url transport dials).2, P e := by
  cases hscheme : url.scheme with
  | http =>
    cases transport with
    | plain => simp [RoundTripper.carry, hscheme, h.dial]
    | tls made => cases hh2 : made.h2 <;> simp [RoundTripper.carry, hscheme, hh2, h.net]
  | https =>
    cases transport with
    | plain =>
      simp only [RoundTripper.carry, hscheme, List.mem_flatMap]
      rintro e ⟨a, -, he⟩
      rcases List.mem_cons.1 he with rfl | he
      · exact h.dial _
      · split_ifs at he
        · cases he
        · rw [List.mem_singleton.1 he]
          exact htransport _
    | tls made =>
      simp only [RoundTripper.carry, hscheme]
      exact h.dialAll _ _ _
  | other name => simp [RoundTripper.carry, hscheme]

/-- What all effects over TCP satisfy, those of a request do that is not for HTTP/3. -/
theorem Allows.roundTrip (h : rt.Allows P)
    (htransport : ∀ serverName, P (.transportHandshake serverName)) (hhttp3 : rt.forceHTTP3 = false)
    (σ : State) (hop : Hop) : ∀ e ∈ (roundTrip env rt σ hop).2.effects, P e := by
  rw [RoundTripper.roundTrip]
  cases hfingerprint : h2FingerprintFails env rt with
  | true => exact fun e he => absurd he List.not_mem_nil
  | false =>
    have hensure : ∀ e ∈ (RoundTripper.ensureTransport env rt σ hop.url (getDialTLSAddr hop.url)
        hop.conditions.first hop.conditions.second).2.2, P e := h.ensureTransport _ _ _ _ _
    simp only [Bool.false_eq_true, if_false, hhttp3]
    split
    · exact List.forall_mem_append.2 ⟨hensure, h.carry htransport _ _ _ _⟩
    · exact hensure

/-- Over HTTP/3 there are only datagrams. -/
theorem forall_roundTrip_http3 (hdatagrams : ∀ host port, P (.datagrams host port))
    (hhttp3 : rt.forceHTTP3 = true) (σ : State) (hop : Hop) :
    ∀ e ∈ (roundTrip env rt σ hop).2.effects, P e := by
  rw [RoundTripper.roundTrip]
  cases hfingerprint : h2FingerprintFails env rt with
  | true => exact fun e he => absurd he List.not_mem_nil
  | false =>
    simp only [Bool.false_eq_true, if_false, hhttp3, if_true, roundTripHTTP3]
    split_ifs <;> simp [hdatagrams]

theorem roundTrip_of_fails (h : h2FingerprintFails env rt = true) (σ : State) (hop : Hop) :
    (roundTrip env rt σ hop).2.effects = [] := by
  rw [RoundTripper.roundTrip, if_pos h]

/-- For an `https` URL, no plaintext transport is made. -/
theorem ensureTransport_ne_plain {σ : State} {url : URL} (hs : url.scheme = .https) {addr : String}
    (hnone : σ.cachedTransports addr = none) (first second : Attempt) :
    (ensureTransport env rt σ url addr first second).1.cachedTransports addr ≠ some .plain := by
  obtain ⟨ok, -, hensure⟩ := ensureTransport_https env rt hs hnone first second
  rw [hensure]
  rcases dialTLS_cases env rt σ addr first second with
    ⟨conn, -, hdial⟩ | ⟨-, n, -, ⟨-, hkept⟩ | ⟨conn, rfl, -, -, -, ⟨-, -, hkept⟩ | ⟨-, -, hmade⟩⟩⟩
  · simp [hdial, hnone]
  · simp [hkept, hnone]
  · simp [hkept, hnone]
  · rw [hmade]
    exact ne_of_eq_of_ne (Function.update_self ..) (by simp)

/-- A dial of `dialTLS` makes no handshake of a transport. -/
theorem allows_ne_transportHandshake :
    rt.Allows fun e => ∀ serverName, e ≠ .transportHandshake serverName := by
  constructor <;> simp

theorem transportHandshake_mem_carry_iff {σ : State} {url : URL} {t : Transport}
    {dials : List (Attempt × Attempt)} :
    (∃ serverName, .transportHandshake serverName ∈ (carry env rt σ url t dials).2) ↔
      url.scheme = .https ∧ t = .plain ∧ ∃ a ∈ dials, a.1 ≠ .dialFails := by
  cases hs : url.scheme with
  | http =>
    refine iff_of_false ?_ (by simp)
    rintro ⟨serverName, hmem⟩
    cases t with
    | plain => simp [carry, hs] at hmem
    | tls made => cases hh2 : made.h2 <;> simp [carry, hs, hh2] at hmem
  | https =>
    cases t with
    | plain =>
      simp only [carry, hs, List.mem_flatMap, plainDial, List.mem_cons, reduceCtorEq, false_or,
        true_and]
      constructor
      · rintro ⟨serverName, a, ha, hmem⟩
        refine ⟨a, ha, fun hfails => ?_⟩
        rw [if_pos hfails] at hmem
        cases hmem
      · rintro ⟨a, ha, hdials⟩
        exact ⟨_, a, ha, by rw [if_neg hdials]; exact List.mem_singleton_self _⟩
    | tls made =>
      refine iff_of_false ?_ (by simp)
      rintro ⟨serverName, hmem⟩
      simp only [carry, hs] at hmem
      exact allows_ne_transportHandshake.dialAll _ _ _ _ hmem serverName rfl
  | other name =>
    refine iff_of_false ?_ (by simp)
    rintro ⟨serverName, hmem⟩
    simp [carry, hs] at hmem

variable (env) in
/-- A transport makes a handshake of its own exactly for an upgrade. -/
theorem transportHandshake_mem_iff (hfingerprint : h2FingerprintFails env rt = false)
    (hhttp3 : rt.forceHTTP3 = false) (σ : State) (hop : Hop) :
    (∃ serverName, .transportHandshake serverName ∈ (roundTrip env rt σ hop).2.effects) ↔
      HandshakesPlain σ hop := by
  have hensure (serverName : String) : .transportHandshake serverName ∉ (ensureTransport env rt σ
      hop.url (getDialTLSAddr hop.url) hop.conditions.first hop.conditions.second).2.2 :=
    fun hmem => allows_ne_transportHandshake.ensureTransport _ _ _ _ _ _ hmem serverName rfl
  have hcached (hs : hop.url.scheme = .https) : (ensureTransport env rt σ hop.url
      (getDialTLSAddr hop.url) hop.conditions.first hop.conditions.second).1.cachedTransports
        (getDialTLSAddr hop.url) = some .plain ↔
          σ.cachedTransports (getDialTLSAddr hop.url) = some .plain := by
    cases ht : σ.cachedTransports (getDialTLSAddr hop.url) with
    | none => exact iff_of_false (ensureTransport_ne_plain hs ht _ _) (by simp)
    | some t => rw [ensureTransport, ht, Option.isSome_some, if_pos rfl, ht]
  have hok {t : Transport} (h : σ.cachedTransports (getDialTLSAddr hop.url) = some t) :
      (ensureTransport env rt σ hop.url (getDialTLSAddr hop.url) hop.conditions.first
        hop.conditions.second).2.1 = true := by
    rw [ensureTransport, h]
    rfl
  rw [roundTrip, hfingerprint, hhttp3, HandshakesPlain]
  simp only [Bool.false_eq_true, if_false]
  split
  · next transport htransport =>
    simp only [List.mem_append, hensure, false_or, transportHandshake_mem_carry_iff]
    refine and_congr_right fun hs => and_congr_left fun _ => ?_
    rw [← hcached hs]
    split_ifs at htransport
    rw [htransport, Option.some.injEq]
  · next hnone =>
    refine iff_of_false (not_exists.2 hensure) fun h => ?_
    rw [hok h.2.1, if_pos rfl, (hcached h.1).2 h.2.1] at hnone
    cases hnone

variable (env) in
/-- There is a dial with the dialer unless nothing is dialled. -/
theorem dial_mem_iff (hfingerprint : h2FingerprintFails env rt = false)
    (hhttp3 : rt.forceHTTP3 = false) (σ : State) (hop : Hop) :
    (∃ addr, .dial (.dialer rt.dialer) addr ∈ (roundTrip env rt σ hop).2.effects) ↔
      ¬Undialed env σ hop := by
  have hdial : (∃ addr, .dial (.dialer rt.dialer) addr ∈ (roundTrip env rt σ hop).2.effects) ↔
      ¬Through (· ≠ .dialer rt.dialer) (roundTrip env rt σ hop).2.effects := by
    rw [iff_not_comm, not_exists]
    refine ⟨fun h addr hmem => h _ hmem _ rfl rfl, fun h e he via hvia heq => ?_⟩
    cases e with
    | dial via' addr =>
      obtain rfl := Option.some.inj hvia
      exact h addr (heq ▸ he)
    | datagrams host port => cases (Option.some.inj hvia).trans heq
    | opened | handshake | transportHandshake | close => cases hvia
  rw [hdial, not_iff_not, Undialed]
  by_cases htls : hop.url.scheme = .http ∧
      ∃ made, σ.cachedTransports (getDialTLSAddr hop.url) = some (.tls made)
  · -- the transport for TLS dials past the dialer
    refine iff_of_true ?_ (.inr htls)
    obtain ⟨hs, made, hmade⟩ := htls
    rw [roundTrip, hfingerprint, hhttp3]
    simp only [Bool.false_eq_true, if_false, ensureTransport, hmade, Option.isSome_some, if_true,
      List.nil_append, carry, hs]
    cases made.h2 with
    | true => exact through_nil
    | false => exact (through_map_dial _).2 fun _ => by simp
  · rw [or_iff_left htls, ← through_roundTrip_iff_quiet (P := fun _ => False) env rt not_false
      not_false hfingerprint hhttp3 σ hop]
    -- all connections are dialled with the dialer
    have hleak : ¬Leaks env rt σ hop := by
      rintro ⟨-, hleak⟩
      rw [hhttp3] at hleak
      obtain ⟨hs, -, made, hmade, -⟩ := hleak
      exact htls ⟨hs, made, hmade⟩
    have hown : Through (· = .dialer rt.dialer) (roundTrip env rt σ hop).2.effects :=
      (through_roundTrip_iff (P := (· = .dialer rt.dialer)) rfl (by simp) σ hop).2 hleak
    constructor
    · exact fun h e he via hvia => h e he via hvia (hown e he via hvia)
    · exact fun h e he via hvia => (h e he via hvia).elim

end RoundTripper

/-! ## The flag -/

variable {env : ProxyEnv} {rt : RoundTripper}

theorem follow_append {insecureSkipVerify : Bool} {l₁ l₂ : List Effect} :
    Follow env rt insecureSkipVerify (l₁ ++ l₂) ↔
      Follow env rt insecureSkipVerify l₁ ∧ Follow env rt insecureSkipVerify l₂ :=
  List.forall_mem_append

/-- The HTTP/3 configurations verify. -/
theorem Starts.of_datagrams {host port : String} {config : TLSConfig}
    (h : Starts env rt (.datagrams host port) config) : config.insecureSkipVerify = false := by
  cases h with
  | ghttp3Dial => rfl
  | makeHTTP3Request =>
    rw [RoundTripper.makeHTTP3RequestConfig]
    split_ifs <;> rfl

theorem follow_http3_iff (hhttp3 : rt.forceHTTP3 = true)
    (hfingerprint : RoundTripper.h2FingerprintFails env.toNetEnv rt = false)
    (insecureSkipVerify : Bool) (σ : RoundTripper.State) (hop : RoundTripper.Hop) :
    Follow env rt insecureSkipVerify (rt.roundTrip env.toNetEnv σ hop).2.effects ↔
      insecureSkipVerify = false ∨ ¬(hop.conditions.listens ∧ hop.conditions.resolves) := by
  have hnone (hnot : ¬(hop.conditions.listens ∧ hop.conditions.resolves)) :
      (rt.roundTrip env.toNetEnv σ hop).2.effects = [] := by
    rw [RoundTripper.roundTrip, hfingerprint, hhttp3]
    simp [RoundTripper.roundTripHTTP3, hnot]
  rw [or_iff_not_imp_right, not_not]
  constructor
  · intro h hfound
    have hmem : ∃ host port,
        .datagrams host port ∈ (rt.roundTrip env.toNetEnv σ hop).2.effects := by
      rw [RoundTripper.roundTrip, hfingerprint, hhttp3]
      simp only [Bool.false_eq_true, if_false, if_true, RoundTripper.roundTripHTTP3, hfound,
        Bool.and_self]
      exact ⟨_, _, List.mem_cons_self⟩
    obtain ⟨host, port, hmem⟩ := hmem
    exact (h _ hmem _ (.ghttp3Dial host port)).symm
  · intro h e he config hconfig
    obtain ⟨host, port, rfl⟩ := RoundTripper.forall_roundTrip_http3
      (P := fun e => ∃ host port, e = .datagrams host port) (fun host port => ⟨host, port, rfl⟩)
      hhttp3 σ hop e he
    have hfound : hop.conditions.listens ∧ hop.conditions.resolves := by
      by_contra hnot
      rw [hnone hnot] at he
      cases he
    rw [h hfound]
    exact hconfig.of_datagrams

/-- Over TCP the flag is followed unless a transport makes a handshake of its own that does not
    verify, or an `https` proxy is dialled though it is to verify. -/
theorem follow_tcp_iff (hhttp3 : rt.forceHTTP3 = false)
    (hfingerprint : RoundTripper.h2FingerprintFails env.toNetEnv rt = false)
    (σ : RoundTripper.State) (hop : RoundTripper.Hop) :
    Follow env rt rt.insecureSkipVerify (rt.roundTrip env.toNetEnv σ hop).2.effects ↔
      (rt.insecureSkipVerify = true → ¬RoundTripper.HandshakesPlain σ hop) ∧
      ((∃ proxyURL userAgent localAddress, rt.dialer = .connect proxyURL userAgent localAddress ∧
          env.proxyScheme proxyURL = "https") →
        rt.insecureSkipVerify = true ∨ RoundTripper.Undialed env.toNetEnv σ hop) := by
  rw [← RoundTripper.transportHandshake_mem_iff env.toNetEnv hfingerprint hhttp3]
  constructor
  · refine fun h => ⟨fun hflag ⟨serverName, hmem⟩ => ?_, ?_⟩
    · have hverifies := h _ hmem _ (.transport serverName)
      rw [hflag] at hverifies
      cases hverifies
    · rintro ⟨proxyURL, userAgent, localAddress, hdialer, hscheme⟩
      refine or_iff_not_imp_right.2 fun hdials => ?_
      obtain ⟨addr, hmem⟩ :=
        (RoundTripper.dial_mem_iff env.toNetEnv hfingerprint hhttp3 σ hop).2 hdials
      rw [hdialer] at hmem
      exact (h _ hmem _ (.proxy _ _ _ _ hscheme)).symm
  · rintro ⟨htransport, hproxy⟩ e he config hconfig
    cases hconfig with
    | target conn serverName hello insecureSkipVerify =>
      have hallows : rt.Allows fun e => ∀ conn serverName hello insecureSkipVerify,
          e = .handshake conn serverName hello insecureSkipVerify →
            insecureSkipVerify = rt.insecureSkipVerify := by
        constructor <;> simp
      exact hallows.roundTrip (by simp) hhttp3 σ hop _ he _ _ _ _ rfl
    | transport serverName =>
      exact (Bool.eq_false_iff.2 fun hflag => htransport hflag ⟨serverName, he⟩).symm
    | proxy proxyURL userAgent localAddress addr hscheme =>
      have hallows : rt.Allows fun e => ∀ dialer addr, e = .dial (.dialer dialer) addr →
          dialer = rt.dialer := by
        constructor <;> simp
      have hdialer := hallows.roundTrip (by simp) hhttp3 σ hop _ he _ _ rfl
      rw [hdialer] at he
      refine ((hproxy ⟨_, _, _, hdialer.symm, hscheme⟩).resolve_right fun hnone => ?_).symm
      exact (RoundTripper.dial_mem_iff env.toNetEnv hfingerprint hhttp3 σ hop).1 ⟨addr, he⟩ hnone
    | ghttp3Dial host port | makeHTTP3Request host port =>
      have hallows : rt.Allows fun e => ∀ host port, e ≠ .datagrams host port := by
        constructor <;> simp
      exact absurd rfl (hallows.roundTrip (by simp) hhttp3 σ hop _ he host port)

/-- The round tripper of a new client has the flags of the options, and the dialer of the
    proxy if there is one. -/
theorem transport_createNewClient {o : Options} {id : Nat} {client : Client}
    (h : createNewClient env.toDialEnv o.clientCall id = some client) :
    client.transport.http2Fingerprint = o.http2Fingerprint ∧
      client.transport.forceHTTP3 = o.forceHTTP3 ∧
      client.transport.insecureSkipVerify = o.insecureSkipVerify ∧
      ((o.proxy ≠ "" ∧ client.transport.dialer = .connect o.proxy o.userAgent o.localAddress) ∨
        (o.proxy = "" ∧ ∀ proxyURL userAgent localAddress,
          client.transport.dialer ≠ .connect proxyURL userAgent localAddress)) := by
  rw [createNewClient] at h
  change (if o.proxy ≠ "" then _ else _) = _ at h
  by_cases hproxy : o.proxy ≠ ""
  · rw [if_pos hproxy] at h
    obtain ⟨-, h⟩ := Option.ite_none_right_eq_some.1 h
    cases h
    exact ⟨rfl, rfl, rfl, .inl ⟨hproxy, rfl⟩⟩
  rw [if_neg hproxy] at h
  change (if o.localAddress ≠ "" then _ else _) = _ at h
  by_cases hlocal : o.localAddress ≠ ""
  · rw [if_pos hlocal] at h
    obtain ⟨-, h⟩ := Option.ite_none_right_eq_some.1 h
    cases h
    exact ⟨rfl, rfl, rfl, .inr ⟨not_not.1 hproxy, fun _ _ _ h => by cases h⟩⟩
  · rw [if_neg hlocal] at h
    cases h
    exact ⟨rfl, rfl, rfl, .inr ⟨not_not.1 hproxy, fun _ _ _ h => by cases h⟩⟩

/-- A hop of a new client follows the flag of its options exactly if they heed it. -/
theorem follow_iff {o : Options} {id : Nat} {client : Client}
    (h : createNewClient env.toDialEnv o.clientCall id = some client) (σ : RoundTripper.State)
    (hop : RoundTripper.Hop) :
    Follow env client.transport o.insecureSkipVerify
        (client.transport.roundTrip env.toNetEnv σ hop).2.effects ↔ o.Heeds env σ hop := by
  obtain ⟨hfp, hhttp3, hflag, hdialer⟩ := transport_createNewClient h
  have hfails : RoundTripper.h2FingerprintFails env.toNetEnv client.transport = true ↔
      o.http2Fingerprint ≠ "" ∧ env.parsesHTTP2Fingerprint o.http2Fingerprint = false := by
    rw [RoundTripper.h2FingerprintFails, hfp]
    simp
  rw [Options.Heeds, ← hfails]
  cases hfingerprint : RoundTripper.h2FingerprintFails env.toNetEnv client.transport with
  | true =>
    refine iff_of_true (fun e he => ?_) (.inl rfl)
    rw [RoundTripper.roundTrip_of_fails hfingerprint] at he
    cases he
  | false =>
    rw [or_iff_right Bool.false_ne_true]
    cases hforce : o.forceHTTP3 with
    | true => exact follow_http3_iff (hhttp3.trans hforce) hfingerprint _ σ hop
    | false =>
      rw [← hflag, follow_tcp_iff (hhttp3.trans hforce) hfingerprint, hflag]
      cases o.insecureSkipVerify with
      | true => simp
      | false =>
        simp only [Bool.false_eq_true, false_imp_iff, false_or, true_and, if_false]
        rcases hdialer with ⟨hne, hdialer⟩ | ⟨hempty, hdialer⟩
        · rw [or_iff_right hne, ← imp_iff_not_or]
          refine ⟨fun h hscheme => h ⟨_, _, _, hdialer, hscheme⟩, ?_⟩
          rintro h ⟨proxyURL, userAgent, localAddress, hdialer', hscheme⟩
          cases hdialer.symm.trans hdialer'
          exact h hscheme
        · refine iff_of_true ?_ (.inl hempty)
          rintro ⟨proxyURL, userAgent, localAddress, hdialer', -⟩
          exact absurd hdialer' (hdialer _ _ _)

/-- Addresses as the libraries take them, and the URLs of `https` proxies. -/
def someProxyEnv : ProxyEnv where
  parsesHTTP2Fingerprint _ := true
  canonicalAddr url := RoundTripper.getDialTLSAddr url
  acceptsProxy s := "https://".toList <+: s.toList
  parseIP _ := false
  websocketDials _ := none
  defaultClientDials _ := none
  proxyScheme s := if "https://".toList <+: s.toList then "https" else ""
  proxyHostname s := String.ofList ((s.toList.drop 8).takeWhile (· ≠ ':'))

/-- A hop whose first dial connects. -/
def connectingHop (scheme : Scheme) : RoundTripper.Hop where
  url := ⟨scheme, "a", ""⟩
  conditions := ⟨.connects false, .connects false, [(.connects false, .connects false)], true, true,
    true⟩

/-- Options of which no certificate is to be verified. -/
def insecure : Options := { insecureSkipVerify := true }

theorem createNewClient_insecure : createNewClient someProxyEnv.toDialEnv insecure.clientCall 0 =
    some (clientBuilder { insecure.browser with localAddress := "" } .direct 0 false 0) :=
  rfl

/-- Options of which a certificate is to be verified, with an `https` proxy. -/
def verifying : Options := { proxy := "https://proxy.example:8443" }

theorem createNewClient_verifying :
    createNewClient someProxyEnv.toDialEnv verifying.clientCall 0 = some (clientBuilder
      { verifying.browser with localAddress := "" } (.connect "https://proxy.example:8443" "" "") 0
        false 0) :=
  rfl

end CycleTLS
