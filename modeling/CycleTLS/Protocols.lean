import CycleTLS.Aborts
import CycleTLS.ForcedHTTP1
import CycleTLS.Verification

/-!
# The protocol of a request (`index.go`, `roundtripper.go`)

`Do` and `processRequest` make the flags of a round tripper of the options, each by hand: `Do` does
not look at the protocol that is asked for, and `processRequest` knows it for events, WebSockets and
HTTP/3 only. What a round tripper then speaks is a matter of its flags and of the protocols that its
hellos offer (`atMostHTTP1_iff`, `alwaysHTTP3_iff`), since a server can choose among those alone.
-/

namespace CycleTLS

open Utf8 Raising

/-! ## What servers can answer -/

/-- The hello that is built, if it can be. -/
def Hello.spec : Hello → Option ClientHelloSpec
  | .quic string userAgent forceHTTP1 =>
    (quicStringToSpec (utf8 string) (utf8 userAgent) forceHTTP1).toOption
  | .ja4r string userAgent forceHTTP1 disableGrease serverName ja3Order =>
    (ja4rStringToSpec (utf8 string) (utf8 userAgent) forceHTTP1 disableGrease (utf8 serverName)
      (utf8 ja3Order)).toOption
  | .ja3 string userAgent forceHTTP1 =>
    (stringToSpec (utf8 string) (utf8 userAgent) forceHTTP1).toOption
  | .tls13 string userAgent forceHTTP1 =>
    (stringToTLS13CompatibleSpec (utf8 string) (utf8 userAgent) forceHTTP1).toOption

/-- HTTP/2 is among the protocols of a hello. -/
def Hello.OffersH2 (hello : Hello) : Prop :=
  ∃ spec, hello.spec = some spec ∧ utf8 "h2" ∈ spec.protocols

/-- The builder of a hello panics, on a string with too few fields. -/
def Hello.Panics : Hello → Prop
  | .quic _ _ _ => False
  | .ja4r string userAgent forceHTTP1 disableGrease serverName ja3Order =>
    ja4rStringToSpec (utf8 string) (utf8 userAgent) forceHTTP1 disableGrease (utf8 serverName)
      (utf8 ja3Order) = .error .panic
  | .ja3 string userAgent forceHTTP1 =>
    stringToSpec (utf8 string) (utf8 userAgent) forceHTTP1 = .error .panic
  | .tls13 string userAgent forceHTTP1 =>
    stringToTLS13CompatibleSpec (utf8 string) (utf8 userAgent) forceHTTP1 = .error .panic

namespace Attempt

/-- How an attempt with a hello can go: a server negotiates only what is offered, and a builder
    that panics returns no error. -/
def Feasible (hello : Hello) : Attempt → Prop
  | dialFails => True
  | specFails => hello.spec = none ∧ ¬hello.Panics
  | presetFails | handshakeFails _ | connects false => hello.spec.isSome = true
  | connects true => hello.OffersH2

/-- An attempt can go so, or its builder panics, which leaves the caches as an error does. -/
def MayEnd (hello : Hello) (a : Attempt) : Prop :=
  a.Feasible hello ∨ a = .specFails ∧ hello.Panics

variable {hello : Hello} {a : Attempt}

theorem MayEnd.feasible (h : a.MayEnd hello) (ha : a ≠ .specFails) : a.Feasible hello :=
  h.resolve_right fun hpanics => ha hpanics.1

end Attempt

namespace RoundTripper

variable (env : NetEnv) (rt : RoundTripper)

/-- How the attempts at an address can go. -/
def Feasible (addr : String) (first second : Attempt) : Prop :=
  first.Feasible (firstHello rt (sni rt addr)).1 ∧
    ∀ b hello, first = .handshakeFails b → retryHello rt (sni rt addr) b = some hello →
      second.Feasible hello

/-- The same, with panics. -/
def MayEnd (addr : String) (first second : Attempt) : Prop :=
  first.MayEnd (firstHello rt (sni rt addr)).1 ∧
    ∀ b hello, first = .handshakeFails b → retryHello rt (sni rt addr) b = some hello →
      second.MayEnd hello

/-- A use whose attempts can go as they do, or panic. -/
def FeasibleUse : Use → Prop
  | .roundTrip hop =>
    rt.MayEnd (getDialTLSAddr hop.url) hop.conditions.first hop.conditions.second ∧
      ∀ a ∈ hop.conditions.dials, rt.MayEnd (env.canonicalAddr hop.url) a.1 a.2
  | .closeIdleConnections _ => True

/-- A hello that a server may be sent: at first, or in a retry. -/
def MayOffer (serverName : String) (hello : Hello) : Prop :=
  (firstHello rt serverName).1 = hello ∨ ∃ b, (firstHello rt serverName).1.spec.isSome = true ∧
    retryHello rt serverName b = some hello

/-- HTTP/2 is among the protocols of a hello that some server may be sent. -/
def OffersH2 : Prop := ∃ serverName hello, rt.MayOffer serverName hello ∧ hello.OffersH2

/-- An HTTP/2 transport carries a request, of an `https` URL. -/
def Trip.OverHTTP2 (url : URL) (trip : Trip) : Prop :=
  url.scheme = .https ∧ ∃ made, trip.carrier = some (.tls made) ∧ made.h2 = true

/-- There are datagrams of HTTP/3. -/
def Trip.OverHTTP3 (trip : Trip) : Prop := ∃ host port, .datagrams host port ∈ trip.effects

/-- What holds of all requests in all runs. -/
def AllTrips (P : Hop → Trip → Prop) : Prop :=
  ∀ uses, (∀ use ∈ uses, rt.FeasibleUse env use) →
    ∀ t ∈ Machine.trace (step env rt) .new uses, ∀ hop trip, t.event = .roundTrip hop →
      t.output = some trip → P hop trip

/-- No request is sent over HTTP/2 or HTTP/3. -/
def AtMostHTTP1 : Prop :=
  rt.AllTrips env fun hop trip => ¬trip.OverHTTP2 hop.url ∧ ¬trip.OverHTTP3

/-- All requests are sent with the HTTP/3 dialer. -/
def AlwaysHTTP3 : Prop :=
  rt.AllTrips env fun hop trip => trip = ⟨none, roundTripHTTP3 hop.url hop.conditions⟩

variable {env rt}

/-! ## The protocols of hellos -/

/-- Whether HTTP/2 is offered does not depend on the name of a server. -/
theorem map_spec_ja4r {string userAgent : String} {forceHTTP1 disableGrease : Bool}
    {serverName serverName' ja3Order : String} :
    (Hello.ja4r string userAgent forceHTTP1 disableGrease serverName ja3Order).spec.map
        (fun spec => decide (utf8 "h2" ∈ spec.protocols)) =
      (Hello.ja4r string userAgent forceHTTP1 disableGrease serverName' ja3Order).spec.map
        fun spec => decide (utf8 "h2" ∈ spec.protocols) := by
  simp only [Hello.spec, ja4rStringToSpec, bind, Except.bind]
  cases parseJA4RString (utf8 string) with
  | error e => rfl
  | ok components =>
    dsimp only
    cases ja4rVersion components.tlsVersion with
    | error e => rfl
    | ok version =>
      exact congrArg some (decide_eq_decide.2 (mem_protocols_iff.trans mem_protocols_iff.symm))

theorem offersH2_iff_map {hello : Hello} : hello.OffersH2 ↔
    hello.spec.map (fun spec => decide (utf8 "h2" ∈ spec.protocols)) = some true := by
  rw [Hello.OffersH2, Option.map_eq_some_iff]
  simp only [decide_eq_true_eq]

variable (rt) in
theorem firstHello_congr (serverName serverName' : String) :
    (firstHello rt serverName).2 = (firstHello rt serverName').2 ∧
      (firstHello rt serverName).1.spec.map (fun spec => decide (utf8 "h2" ∈ spec.protocols)) =
        (firstHello rt serverName').1.spec.map fun spec =>
          decide (utf8 "h2" ∈ spec.protocols) := by
  rw [firstHello, firstHello]
  split_ifs
  · exact ⟨rfl, rfl⟩
  · exact ⟨rfl, map_spec_ja4r⟩
  all_goals
    dsimp only
    split_ifs <;> exact ⟨rfl, rfl⟩

/-- If HTTP/2 is offered to some server, it is to any. -/
theorem OffersH2.at (h : rt.OffersH2) (serverName : String) :
    ∃ hello, rt.MayOffer serverName hello ∧ hello.OffersH2 := by
  obtain ⟨serverName', hello, hmay, hh2⟩ := h
  obtain ⟨hupgraded, hmap⟩ := firstHello_congr rt serverName' serverName
  rcases hmay with hfirst | ⟨b, hspec, hretry⟩
  · refine ⟨_, .inl rfl, ?_⟩
    rw [offersH2_iff_map, ← hmap, hfirst, ← offersH2_iff_map]
    exact hh2
  · refine ⟨hello, .inr ⟨b, ?_, ?_⟩, hh2⟩
    · rw [← Option.isSome_map, ← hmap, Option.isSome_map]
      exact hspec
    · cases b with
      | true => exact hretry
      | false => rwa [retryHello, ← hupgraded]

/-- A connection over which HTTP/2 is negotiated was offered it. -/
theorem Connected.offersH2 {addr : String} {first second : Attempt} {conn : Conn}
    (h : Connected rt addr first second conn) (hmay : rt.MayEnd addr first second)
    (hh2 : conn.h2 = true) : rt.OffersH2 := by
  obtain ⟨hfirst, hsecond⟩ := hmay
  cases h with
  | first hconnects _ =>
    rw [hconnects, hh2] at hfirst
    exact ⟨_, _, .inl rfl, hfirst.feasible nofun⟩
  | retried b hfails hconnects hretry =>
    have hoffered := hsecond b _ hfails hretry
    rw [hconnects, hh2] at hoffered
    rw [hfails] at hfirst
    exact ⟨_, _, .inr ⟨b, hfirst.feasible nofun, hretry⟩, hoffered.feasible nofun⟩

/-- Nothing else is offered under forced HTTP/1, unless by a JA4_r string that lists the extension
    for protocols, but names none. -/
theorem OffersH2.unnamed (h : rt.OffersH2) (hforced : rt.forceHTTP1 = true) :
    rt.quicFingerprint = "" ∧ ∃ c, parseJA4RString (utf8 rt.ja4r) = .ok c ∧
      0x0010 ∈ c.extensions ∧ c.alpn = [] := by
  have hja3 (string userAgent : String) : ¬(Hello.ja3 string userAgent true).OffersH2 :=
    fun ⟨_, hspec, hh2⟩ => (offersNoMore_ja3 (eq_ok_of_toOption hspec)).1 hh2
  have htls13 (string userAgent : String) : ¬(Hello.tls13 string userAgent true).OffersH2 :=
    fun ⟨_, hspec, hh2⟩ => (offersNoMore_ja3 (eq_ok_of_toOption hspec)).1 hh2
  have hquic (string userAgent : String) : ¬(Hello.quic string userAgent true).OffersH2 :=
    fun ⟨_, hspec, hh2⟩ => (offersNoMore_quic (eq_ok_of_toOption hspec)).1 hh2
  obtain ⟨serverName, hello, hmay, hh2⟩ := h
  rcases hmay with hfirst | ⟨b, -, hretry⟩
  · rw [← hfirst, firstHello, hforced] at hh2
    by_cases hq : rt.quicFingerprint = ""
    · refine ⟨hq, ?_⟩
      rw [if_neg (not_not.2 hq)] at hh2
      split_ifs at hh2
      · obtain ⟨spec, hspec, hmem⟩ := hh2
        by_contra hnamed
        refine ((offersNoMore_ja4r_iff (eq_ok_of_toOption hspec)).2
          fun c hc hlisted halpn => ?_).1 hmem
        exact hnamed ⟨c, hc, hlisted, halpn⟩
      all_goals
        dsimp only at hh2
        split_ifs at hh2
        · exact absurd hh2 (htls13 _ _)
        · exact absurd hh2 (hja3 _ _)
    · rw [if_pos hq] at hh2
      exact absurd hh2 (hquic _ _)
  · cases b with
    | true =>
      rw [retryHello] at hretry
      split_ifs at hretry
      rw [← Option.some.inj hretry, compatibleHello, hforced] at hh2
      split_ifs at hh2
      · exact absurd hh2 (hquic _ _)
      all_goals exact absurd hh2 (htls13 _ _)
    | false =>
      rw [retryHello] at hretry
      split_ifs at hretry
      rw [← Option.some.inj hretry, hforced] at hh2
      exact absurd hh2 (hja3 _ _)

/-! ## What a round tripper speaks -/

/-- What comes of every round trip holds all along the runs. -/
theorem AllTrips.of_forall {P : Hop → Trip → Prop}
    (h : ∀ σ hop, P hop (roundTrip env rt σ hop).2) : rt.AllTrips env P := by
  intro uses _ t ht hop trip hevent hout
  have hrun := Machine.trace_of_inv (step env rt) (fun _ => True) (fun _ _ => True)
    (fun _ e o => ∀ hop trip, e = .roundTrip hop → o = some trip → P hop trip)
    (fun σ e _ _ => ⟨trivial, fun hop trip hevent hout => ?_⟩) trivial (fun _ _ => trivial) t ht
  · exact hrun.2 hop trip hevent hout
  · rw [hevent] at hout
    cases hout
    exact h σ hop

/-- A first request comes of the state without caches. -/
theorem AllTrips.first {P : Hop → Trip → Prop} (h : rt.AllTrips env P) {hop : Hop}
    (hhop : rt.FeasibleUse env (.roundTrip hop)) : P hop (roundTrip env rt .new hop).2 :=
  h [.roundTrip hop] (List.forall_mem_singleton.2 hhop) _ List.mem_cons_self hop _ rfl rfl

/-- Without HTTP/3 there are no datagrams. -/
theorem not_overHTTP3 (h : rt.forceHTTP3 = false) (σ : State) (hop : Hop) :
    ¬(roundTrip env rt σ hop).2.OverHTTP3 := by
  rintro ⟨host, port, hmem⟩
  have hallows : rt.Allows fun e => ∀ host port, e ≠ .datagrams host port :=
    ⟨nofun, nofun, nofun, nofun, nofun⟩
  exact hallows.roundTrip (fun _ => nofun) h σ hop _ hmem host port rfl

/-- A request of which only its dial over HTTP/3 succeeds. -/
def http3Hop : Hop := ⟨⟨.https, "h", ""⟩, ⟨.dialFails, .dialFails, [], true, true, true⟩⟩

theorem feasibleUse_http3Hop : rt.FeasibleUse env (.roundTrip http3Hop) :=
  ⟨⟨.inl trivial, nofun⟩, nofun⟩

theorem overHTTP3_http3Hop :
    (⟨none, roundTripHTTP3 http3Hop.url http3Hop.conditions⟩ : Trip).OverHTTP3 :=
  ⟨_, _, List.mem_cons_self⟩

theorem roundTrip_http3 (hfingerprint : h2FingerprintFails env rt = false)
    (hhttp3 : rt.forceHTTP3 = true) (σ : State) (hop : Hop) :
    (roundTrip env rt σ hop).2 = ⟨none, roundTripHTTP3 hop.url hop.conditions⟩ := by
  rw [roundTrip, hfingerprint, hhttp3]
  rfl

/-- All requests use the HTTP/3 dialer exactly if it is forced and there is no fingerprint of
    HTTP/2 that does not parse. -/
theorem alwaysHTTP3_iff :
    rt.AlwaysHTTP3 env ↔ rt.forceHTTP3 = true ∧ h2FingerprintFails env rt = false := by
  constructor
  · intro h
    have htrip := h.first feasibleUse_http3Hop
    have hover := overHTTP3_http3Hop
    rw [← htrip] at hover
    refine ⟨?_, ?_⟩
    · by_contra hhttp3
      exact not_overHTTP3 (Bool.eq_false_iff.2 hhttp3) _ _ hover
    · by_contra hfails
      obtain ⟨host, port, hmem⟩ := hover
      rw [roundTrip_of_fails (Bool.of_not_eq_false hfails)] at hmem
      exact List.not_mem_nil hmem
  · rintro ⟨hhttp3, hfingerprint⟩
    exact .of_forall (roundTrip_http3 hfingerprint hhttp3)

/-- A transport for TLS with HTTP/1. -/
def NotH2 (_ : String) : Transport → Prop
  | .plain => True
  | .tls made => made.h2 = false

theorem supplies_notH2 (h : ¬rt.OffersH2) {hop : Hop}
    (hfeasible : rt.FeasibleUse env (.roundTrip hop)) : Supplies env rt NotH2 hop := by
  rw [Supplies]
  cases hop.url.scheme with
  | http => trivial
  | https =>
    refine ⟨fun conn haddr hconnected => ?_, fun a ha conn haddr hconnected => ?_⟩
    · refine Bool.eq_false_iff.2 fun hh2 => h (hconnected.offersH2 ?_ hh2)
      exact haddr ▸ hfeasible.1
    · refine Bool.eq_false_iff.2 fun hh2 => h (hconnected.offersH2 ?_ hh2)
      exact haddr ▸ hfeasible.2 a ha
  | other name => trivial

/-- The transport of a first handshake carries the request. -/
theorem carrier_of_negotiated (hfingerprint : h2FingerprintFails env rt = false)
    (hhttp3 : rt.forceHTTP3 = false) (hop : Hop) (hscheme : hop.url.scheme = .https)
    (hnegotiated : (dialTLS env rt .new (getDialTLSAddr hop.url) hop.conditions.first
      hop.conditions.second).result = .negotiated) :
    ∃ conn, (roundTrip env rt .new hop).2.carrier = some (.tls conn) ∧
      Connected rt (getDialTLSAddr hop.url) hop.conditions.first hop.conditions.second conn := by
  rcases dialTLS_cases env rt .new (getDialTLSAddr hop.url) hop.conditions.first
    hop.conditions.second with ⟨conn, hkept, -⟩ |
      ⟨-, n, -, ⟨hfailed, -⟩ | ⟨conn, haddr, hconnected, -, -, ⟨hcached, -⟩ | ⟨-, -, hstate⟩⟩⟩
  · cases hkept
  · rw [hnegotiated] at hfailed
    cases hfailed
  · cases hcached
  · refine ⟨conn, ?_, hconnected⟩
    have hnone : State.new.cachedTransports (getDialTLSAddr hop.url) = none := rfl
    obtain ⟨ok, hok, hensure⟩ :=
      ensureTransport_https env rt hscheme hnone hop.conditions.first hop.conditions.second
    obtain rfl := hok.2 (by rw [hnegotiated]; rintro ⟨⟩)
    have hcarrier : (dialTLS env rt .new (getDialTLSAddr hop.url) hop.conditions.first
        hop.conditions.second).state.cachedTransports (getDialTLSAddr hop.url) =
          some (.tls conn) := by
      rw [hstate, install, haddr]
      exact Function.update_self ..
    rw [roundTrip, hfingerprint, hhttp3]
    simp only [Bool.false_eq_true, if_false, hensure, if_true, hcarrier]

/-- Without caches, a first attempt or its retry negotiates a protocol if it connects. -/
theorem negotiated_of_first (hfingerprint : h2FingerprintFails env rt = false) (addr : String)
    (h2 : Bool) (second : Attempt) :
    (dialTLS env rt .new addr (.connects h2) second).result = .negotiated := by
  simp [dialTLS, State.new, tryDial, hfingerprint]

theorem negotiated_of_retry (hfingerprint : h2FingerprintFails env rt = false) {addr : String}
    {b : Bool} {hello : Hello} (hretry : retryHello rt (sni rt addr) b = some hello) (h2 : Bool) :
    (dialTLS env rt .new addr (.handshakeFails b) (.connects h2)).result = .negotiated := by
  have hresult (σ : State) (hσ : σ.cachedTransports addr = none) (host : String) (hello : Hello) :
      (retry env rt σ addr host hello (.connects h2)).result = .negotiated := by
    simp [retry, tryDial, hfingerprint, hσ]
  rw [dialTLS]
  cases b with
  | true =>
    rw [retryHello] at hretry
    split_ifs at hretry with htls13
    simp only [State.new, tryDial]
    rw [if_pos htls13]
    exact hresult _ rfl _ _
  | false =>
    rw [retryHello] at hretry
    split_ifs at hretry with hja3
    rw [sni] at hja3
    simp only [State.new, tryDial]
    rw [if_pos hja3]
    exact hresult _ rfl _ _

/-- If HTTP/2 is offered, a server can choose it. -/
theorem exists_overHTTP2 (hfingerprint : h2FingerprintFails env rt = false)
    (hhttp3 : rt.forceHTTP3 = false) (h : rt.OffersH2) :
    ∃ hop, rt.FeasibleUse env (.roundTrip hop) ∧
      (roundTrip env rt .new hop).2.OverHTTP2 hop.url := by
  let url : URL := ⟨.https, "h", ""⟩
  let hop (first : Attempt) : Hop := ⟨url, ⟨first, .connects true, [], true, true, true⟩⟩
  obtain ⟨hello, hmay, hh2⟩ := h.at (sni rt (getDialTLSAddr url))
  rcases hmay with hfirst | ⟨b, hspec, hretry⟩
  · refine ⟨hop (.connects true), ⟨⟨.inl (hfirst ▸ hh2), nofun⟩, nofun⟩, rfl, ?_⟩
    obtain ⟨conn, hcarrier, hconnected⟩ := carrier_of_negotiated hfingerprint hhttp3
      (hop (.connects true)) rfl (negotiated_of_first hfingerprint _ _ _)
    refine ⟨conn, hcarrier, ?_⟩
    cases hconnected with
    | first hconnects _ => exact (Attempt.connects.inj hconnects).symm
    | retried b hfails => cases hfails
  · have hmay : rt.MayEnd (getDialTLSAddr url) (.handshakeFails b) (.connects true) := by
      refine ⟨.inl hspec, fun b' hello' hfails hretry' => ?_⟩
      cases hfails
      rw [hretry] at hretry'
      cases hretry'
      exact .inl hh2
    refine ⟨hop (.handshakeFails b), ⟨hmay, nofun⟩, rfl, ?_⟩
    obtain ⟨conn, hcarrier, hconnected⟩ := carrier_of_negotiated hfingerprint hhttp3
      (hop (.handshakeFails b)) rfl (negotiated_of_retry hfingerprint hretry true)
    refine ⟨conn, hcarrier, ?_⟩
    cases hconnected with
    | first hconnects _ => cases hconnects
    | retried b' _ hconnects _ => exact (Attempt.connects.inj hconnects).symm

/-- No request is sent over HTTP/2 or HTTP/3 exactly if none is sent at all, as the fingerprint of
    HTTP/2 does not parse, or HTTP/3 is not forced and no hello offers HTTP/2. -/
theorem atMostHTTP1_iff : rt.AtMostHTTP1 env ↔
    h2FingerprintFails env rt = true ∨ rt.forceHTTP3 = false ∧ ¬rt.OffersH2 := by
  constructor
  · intro h
    cases hfingerprint : h2FingerprintFails env rt with
    | true => exact .inl rfl
    | false =>
      cases hhttp3 : rt.forceHTTP3 with
      | true =>
        have hnever := h.first feasibleUse_http3Hop
        rw [roundTrip_http3 hfingerprint hhttp3] at hnever
        exact absurd overHTTP3_http3Hop hnever.2
      | false =>
        refine .inr ⟨rfl, fun hoffers => ?_⟩
        obtain ⟨hop, hfeasible, hover⟩ := exists_overHTTP2 hfingerprint hhttp3 hoffers
        exact (h.first hfeasible).1 hover
  · rintro (hfails | ⟨hhttp3, hoffers⟩)
    · refine .of_forall fun σ hop => ?_
      rw [roundTrip, if_pos hfails]
      constructor
      · rintro ⟨_, _, ⟨⟩, _⟩
      · rintro ⟨_, _, ⟨⟩⟩
    · intro uses huses t ht hop trip hevent hout
      constructor
      · rintro ⟨_, made, hcarrier, hh2⟩
        have hcached := (caches_trace fun hop hhop => supplies_notH2 hoffers (huses _ hhop)) t ht
        rw [hcached.2 hop trip _ hevent hout hcarrier] at hh2
        cases hh2
      · exact AllTrips.of_forall (P := fun _ trip => ¬trip.OverHTTP3) (not_overHTTP3 hhttp3) uses
          huses t ht hop trip hevent hout

end RoundTripper

/-! ## What requests are sent with -/

/-- What a request is sent with: the round tripper of a client, for events or not, or the library
    for WebSockets, which has connections of its own. -/
inductive Sender
  | client (rt : RoundTripper)
  | sse (rt : RoundTripper)
  | websocket

/-- The protocol that is selected for a request. -/
inductive Selected
  | http1
  | http3
  /-- What is negotiated. -/
  | negotiated
  | sse
  | websocket
  deriving DecidableEq

namespace Sender

def selected : Sender → Selected
  | client rt => if rt.forceHTTP3 then .http3 else if rt.forceHTTP1 then .http1 else .negotiated
  | sse _ => .sse
  | websocket => .websocket

/-- No request is sent over HTTP/2 or HTTP/3. A WebSocket is opened over HTTP/1. -/
def AtMostHTTP1 (net : NetEnv) : Sender → Prop
  | client rt | sse rt => rt.AtMostHTTP1 net
  | websocket => True

/-- All requests are sent with the HTTP/3 dialer, which WebSockets do not have. -/
def AlwaysHTTP3 (net : NetEnv) : Sender → Prop
  | client rt | sse rt => rt.AlwaysHTTP3 net
  | websocket => False

end Sender

/-- What a request of `processRequest` is sent with. -/
def Processed.sender : Processed → Option Sender
  | request r =>
    if r.sseClient.isSome then r.client.map fun client => .sse client.transport
    else if r.wsClient.isSome then some .websocket
    else r.client.map fun client => .client client.transport
  | _ => none

/-- What the request of `Do` is sent with. -/
def doSender (env : BuilderEnv) (pool : Pool) (o : RequestOptions) (now : Int) : Option Sender :=
  match (newClientWithReuse env pool o now o.browser).2, env.newRequest o.method o.url with
  | some client, some _ => some (.client client.transport)
  | _, _ => none

/-- The client that is pooled for a call, if there is one, was created for such a call. -/
def Pool.HasOwn (env : BuilderEnv) (pool : Pool) (c : ClientCall) : Prop :=
  let key := (generateClientKey pool c).1
  ∀ entry, pool.shards (getShard key) key = some entry →
    ∃ id, createNewClient env.dialEnv c id = some entry.client

variable (env : BuilderEnv) (net : NetEnv) (o : RequestOptions)

namespace RequestOptions

/-- `Do` sends a request of the options with this, if no client of other options is pooled. -/
def SentByDo (s : Sender) : Prop :=
  ∃ pool now, Pool.HasOwn env pool (o.clientCallWith o.browser) ∧
    doSender env pool o now = some s

/-- The same for `processRequest`. -/
def SentByProcess (t : Sender) : Prop :=
  ∃ pool now, Pool.HasOwn env pool (o.clientCallWith o.browser) ∧
    Pool.HasOwn env pool (o.clientCallWith o.http3Browser) ∧
      (processRequest env pool o now).2.sender = some t

/-- `Do` and `processRequest` select the same protocol if both send a request, and each of them
    what the options ask for. -/
structure ProtocolHonoured : Prop where
  agree : ∀ s t, o.SentByDo env s → o.SentByProcess env t → s.selected = t.selected
  http1 : o.protocol = "http1" ∨ o.forceHTTP1 = true →
    (∀ s, o.SentByDo env s → s.AtMostHTTP1 net) ∧ ∀ t, o.SentByProcess env t → t.AtMostHTTP1 net
  http3 : o.protocol = "http3" ∨ o.forceHTTP3 = true →
    (∀ s, o.SentByDo env s → s.AlwaysHTTP3 net) ∧ ∀ t, o.SentByProcess env t → t.AlwaysHTTP3 net

/-- `Do` can make a request. -/
def Requestable : Prop := o.Dialable env ∧ (env.newRequest o.method o.url).isSome = true

/-- A round tripper for the options. -/
def tripper : RoundTripper := newRoundTripper o.browser .direct 0

/-- Where HTTP/3 is forced or not, the options ask for HTTP/1 only if no hello offers HTTP/2, and
    for HTTP/3 only if it is forced and a fingerprint of HTTP/2 parses if there is one. -/
structure Suits (forceHTTP3 : Bool) : Prop where
  http1 : o.protocol = "http1" ∨ o.forceHTTP1 = true →
    RoundTripper.h2FingerprintFails net o.tripper = true ∨
      forceHTTP3 = false ∧ ¬o.tripper.OffersH2
  http3 : o.protocol = "http3" ∨ o.forceHTTP3 = true →
    forceHTTP3 = true ∧ RoundTripper.h2FingerprintFails net o.tripper = false

/-- Where both can make a request, neither events nor WebSockets are asked for, and HTTP/3 by its
    flag. What `Do` makes suits the options, and what `processRequest` makes, which is a WebSocket
    only if HTTP/3 is not forced. -/
structure Consistent : Prop where
  agree : o.Requestable env → o.Accepted env .new →
    o.protocol ≠ "websocket" ∧ o.protocol ≠ "sse" ∧
      (o.protocol = "http3" → o.forceHTTP3 = true)
  sent : o.Requestable env → o.Suits net o.forceHTTP3
  processed : o.Accepted env .new →
    if o.protocol = "websocket" then o.forceHTTP3 = false
    else o.Suits net o.processBrowser.forceHTTP3

end RequestOptions

/-- A round tripper that is made for a browser. -/
def RoundTripper.MadeFor (rt : RoundTripper) (browser : Browser) : Prop :=
  ∃ localAddress disableKeepAlives dialer id, rt = newRoundTripper { browser with
    localAddress := localAddress, disableKeepAlives := disableKeepAlives } dialer id

variable {env net o} {pool : Pool} {now : Int}

theorem madeFor_of_createNewClient {c : ClientCall} {id : Nat} {client : Client}
    (h : createNewClient env.dialEnv c id = some client) : client.transport.MadeFor c.browser := by
  rw [createNewClient] at h
  split_ifs at h
  all_goals
    cases h
    exact ⟨_, _, _, _, rfl⟩

/-- A new client or a pooled one has a round tripper for the options. -/
theorem madeFor_of_newClientWithReuse {browser : Browser} {client : Client}
    (hown : Pool.HasOwn env pool (o.clientCallWith browser))
    (h : (newClientWithReuse env pool o now browser).2 = some client) :
    client.transport.MadeFor browser := by
  rw [newClientWithReuse, getOrCreateClient] at h
  split_ifs at h
  · obtain ⟨localAddress, disableKeepAlives, dialer, id, hrt⟩ := madeFor_of_createNewClient h
    exact ⟨localAddress, disableKeepAlives, dialer, id, hrt⟩
  · dsimp only at h
    rw [shards_generateClientKey] at h
    split at h
    · next entry hentry =>
      cases h
      obtain ⟨id, hid⟩ := hown entry hentry
      exact madeFor_of_createNewClient hid
    · split at h
      · next client' hclient =>
        cases h
        exact madeFor_of_createNewClient hclient
      · cases h

theorem dialable_of_createNewClient {browser : Browser} {id : Nat} {client : Client}
    (h : createNewClient env.dialEnv (o.clientCallWith browser) id = some client) :
    o.Dialable env := by
  rw [← creates_iff browser, ← isSome_createNewClient _ _ id, h]
  rfl

/-- A client is pooled for options only if one can be created for them. -/
theorem dialable_of_pooled {browser : Browser}
    (hown : Pool.HasOwn env pool (o.clientCallWith browser))
    (h : o.Pooled pool browser ∨ o.Dialable env) : o.Dialable env := by
  refine h.elim (fun ⟨_, hpooled⟩ => ?_) id
  obtain ⟨entry, hentry⟩ := Option.isSome_iff_exists.1 hpooled
  obtain ⟨id, hid⟩ := hown entry hentry
  exact dialable_of_createNewClient hid

theorem hasOwn_new (c : ClientCall) : Pool.HasOwn env .new c :=
  fun _ hentry => nomatch (shards_generateClientKey .new c).symm ▸ hentry

theorem isSome_sender : (processRequest env pool o now).2.sender.isSome =
    (processRequest env pool o now).2.isRequest := by
  have hbuild (browser : Browser) (header : String → GoHeader) :
      (buildRequest env pool o now browser header).2.sender.isSome =
        (buildRequest env pool o now browser header).2.isRequest := by
    rw [buildRequest]
    dsimp only
    split
    · rfl
    · split
      · rfl
      · split <;> rfl
  rw [processRequest]
  split_ifs
  · rw [dispatchWebSocketRequest]
    split <;> rfl
  · rw [dispatchSSERequest]
    dsimp only
    split
    · rfl
    · split <;> rfl
  · exact hbuild _ _
  · exact hbuild _ _

namespace RequestOptions

/-! ## What `Do` sends with -/

theorem SentByDo.madeFor {s : Sender} (h : o.SentByDo env s) :
    ∃ rt : RoundTripper, s = .client rt ∧ rt.MadeFor o.browser := by
  obtain ⟨pool, now, hown, h⟩ := h
  rw [doSender] at h
  split at h
  · next client _ hclient _ =>
    cases h
    exact ⟨_, rfl, madeFor_of_newClientWithReuse hown hclient⟩
  · cases h

theorem SentByDo.requestable {s : Sender} (h : o.SentByDo env s) : o.Requestable env := by
  obtain ⟨pool, now, hown, h⟩ := h
  rw [doSender] at h
  split at h
  · next client url hclient hnew =>
    have hsome := (isSome_newClientWithReuse_iff now).1 (Option.isSome_iff_exists.2 ⟨_, hclient⟩)
    exact ⟨dialable_of_pooled hown hsome, Option.isSome_iff_exists.2 ⟨url, hnew⟩⟩
  · cases h

theorem exists_sentByDo (h : o.Requestable env) : ∃ s, o.SentByDo env s := by
  obtain ⟨hdialable, hnew⟩ := h
  obtain ⟨url, hurl⟩ := Option.isSome_iff_exists.1 hnew
  obtain ⟨client, hclient⟩ :
    ∃ client, (newClientWithReuse env .new o 0 o.browser).2 = some client :=
      Option.isSome_iff_exists.1 ((isSome_newClientWithReuse_iff 0).2 (.inr hdialable))
  exact ⟨.client client.transport, .new, 0, hasOwn_new _, by rw [doSender, hclient, hurl]⟩

/-! ## What `processRequest` sends with -/

theorem SentByProcess.hasOwn {t : Sender} (h : o.SentByProcess env t) :
    ∃ pool now, Pool.HasOwn env pool (o.clientCallWith o.processBrowser) ∧
      (processRequest env pool o now).2.sender = some t := by
  obtain ⟨pool, now, hown, hown3, h⟩ := h
  refine ⟨pool, now, ?_, h⟩
  rw [processBrowser]
  split_ifs
  · exact hown3
  · exact hown

/-- What `buildRequest` makes is sent with the round tripper of its client. -/
theorem madeFor_of_buildRequest {browser : Browser} {header : String → GoHeader} {t : Sender}
    (hown : Pool.HasOwn env pool (o.clientCallWith browser))
    (h : (buildRequest env pool o now browser header).2.sender = some t) :
    ∃ rt : RoundTripper, rt.MadeFor browser ∧ t = .client rt := by
  rw [buildRequest] at h
  dsimp only at h
  split at h
  · cases h
  · next client hclient =>
    split at h
    · cases h
    · split at h <;> cases h
      exact ⟨_, madeFor_of_newClientWithReuse hown hclient, rfl⟩

/-- It is a WebSocket, or the round tripper of a client. -/
theorem SentByProcess.madeFor {t : Sender} (h : o.SentByProcess env t) :
    o.protocol = "websocket" ∧ t = .websocket ∨ o.protocol ≠ "websocket" ∧
      ∃ rt : RoundTripper, rt.MadeFor o.processBrowser ∧
        t = if o.protocol = "sse" then .sse rt else .client rt := by
  obtain ⟨pool, now, hown, h⟩ := h.hasOwn
  rw [processRequest] at h
  by_cases hws : o.protocol = "websocket"
  · rw [if_pos hws, dispatchWebSocketRequest] at h
    dsimp only at h
    split at h <;> cases h
    exact .inl ⟨hws, rfl⟩
  refine .inr ⟨hws, ?_⟩
  rw [if_neg hws] at h
  by_cases hsse : o.protocol = "sse"
  · have hbrowser : o.processBrowser = o.browser := if_neg fun h => h.1 hsse
    rw [hbrowser] at hown ⊢
    rw [if_pos hsse, dispatchSSERequest] at h
    simp only [if_pos hsse]
    dsimp only at h
    split at h
    · cases h
    · next client hclient =>
      split at h <;> cases h
      exact ⟨_, madeFor_of_newClientWithReuse hown hclient, rfl⟩
  rw [if_neg hsse] at h
  simp only [if_neg hsse]
  by_cases h3 : o.protocol = "http3" ∨ o.forceHTTP3 = true
  · have hbrowser : o.http3Browser = o.processBrowser := (if_pos ⟨hsse, h3⟩).symm
    rw [if_pos h3, dispatchHTTP3Request, hbrowser] at h
    exact madeFor_of_buildRequest hown h
  · have hbrowser : o.browser = o.processBrowser := (if_neg fun h => h3 h.2).symm
    rw [if_neg h3, hbrowser] at h
    exact madeFor_of_buildRequest hown h

theorem SentByProcess.accepted {t : Sender} (h : o.SentByProcess env t) : o.Accepted env .new := by
  obtain ⟨pool, now, hown, h⟩ := h.hasOwn
  have hrequest : (processRequest env pool o now).2.isRequest = true := by
    rw [← isSome_sender, h, Option.isSome_some]
  obtain ⟨hparse, hclient, hmethod⟩ := isRequest_iff.1 hrequest
  exact ⟨hparse, fun hws => .inr (dialable_of_pooled hown (hclient hws)), hmethod⟩

theorem exists_sentByProcess (h : o.Accepted env .new) : ∃ t, o.SentByProcess env t := by
  have hrequest : (processRequest env .new o 0).2.isRequest = true := isRequest_iff.2 h
  rw [← isSome_sender, Option.isSome_iff_exists] at hrequest
  obtain ⟨t, ht⟩ := hrequest
  exact ⟨t, .new, 0, hasOwn_new _, hasOwn_new _, ht⟩

/-! ## What is selected -/

theorem selected_of_madeFor {rt : RoundTripper} {browser : Browser} (h : rt.MadeFor browser) :
    (Sender.client rt).selected = if browser.forceHTTP3 then .http3
      else if browser.forceHTTP1 then .http1 else .negotiated := by
  obtain ⟨_, _, _, _, rfl⟩ := h
  rfl

/-- What suits the options is what the round trippers do that are made for them. -/
theorem suits_iff {rt : RoundTripper} {browser : Browser}
    (hbrowser : browser = o.browser ∨ browser = o.http3Browser) (h : rt.MadeFor browser) :
    o.Suits net browser.forceHTTP3 ↔
      (o.protocol = "http1" ∨ o.forceHTTP1 = true → rt.AtMostHTTP1 net) ∧
        (o.protocol = "http3" ∨ o.forceHTTP3 = true → rt.AlwaysHTTP3 net) := by
  obtain ⟨_, _, _, _, rfl⟩ := h
  rw [RoundTripper.atMostHTTP1_iff, RoundTripper.alwaysHTTP3_iff]
  rcases hbrowser with rfl | rfl
  · exact ⟨fun h => ⟨h.http1, h.http3⟩, fun h => ⟨h.1, h.2⟩⟩
  · -- with HTTP/3 forced, what the hellos offer does not matter
    have hforced {P : Prop} : o.http3Browser.forceHTTP3 = false ∧ P ↔ False :=
      iff_of_false nofun id
    constructor
    · refine fun h => ⟨fun hasked => ?_, h.http3⟩
      exact .inl ((or_iff_left (hforced.1 ·)).1 (h.http1 hasked))
    · refine fun h => ⟨fun hasked => ?_, h.2⟩
      exact .inl ((or_iff_left (hforced.1 ·)).1 (h.1 hasked))

theorem processBrowser_eq : o.processBrowser = o.browser ∨ o.processBrowser = o.http3Browser := by
  rw [processBrowser]
  split_ifs
  · exact .inr rfl
  · exact .inl rfl

theorem consistent_of_honoured (h : o.ProtocolHonoured env net) : o.Consistent env net := by
  refine ⟨fun hdo hprocess => ?_, fun hdo => ?_, fun hprocess => ?_⟩
  · obtain ⟨s, hs⟩ := exists_sentByDo hdo
    obtain ⟨t, ht⟩ := exists_sentByProcess hprocess
    have hagree := h.agree s t hs ht
    obtain ⟨rt, rfl, hrt⟩ := hs.madeFor
    rw [selected_of_madeFor hrt] at hagree
    rcases ht.madeFor with ⟨-, rfl⟩ | ⟨hws, rt', hrt', rfl⟩
    · split_ifs at hagree <;> cases hagree
    · by_cases hsse : o.protocol = "sse"
      · rw [if_pos hsse] at hagree
        split_ifs at hagree <;> cases hagree
      refine ⟨hws, hsse, fun hp => ?_⟩
      have hbrowser : o.processBrowser = o.http3Browser := if_pos ⟨hsse, .inl hp⟩
      rw [if_neg hsse, selected_of_madeFor hrt', hbrowser] at hagree
      change _ = Selected.http3 at hagree
      split_ifs at hagree with h3
      exact h3
  · obtain ⟨s, hs⟩ := exists_sentByDo hdo
    obtain ⟨rt, rfl, hrt⟩ := hs.madeFor
    exact (suits_iff (.inl rfl) hrt).2
      ⟨fun hasked => (h.http1 hasked).1 _ hs, fun hasked => (h.http3 hasked).1 _ hs⟩
  · obtain ⟨t, ht⟩ := exists_sentByProcess hprocess
    rcases ht.madeFor with ⟨hws, rfl⟩ | ⟨hws, rt, hrt, rfl⟩
    · rw [if_pos hws]
      exact Bool.eq_false_iff.2 fun h3 => (h.http3 (.inr h3)).2 _ ht
    · rw [if_neg hws, suits_iff processBrowser_eq hrt]
      constructor
      · intro hasked
        have hmost := (h.http1 hasked).2 _ ht
        split_ifs at hmost <;> exact hmost
      · intro hasked
        have halways := (h.http3 hasked).2 _ ht
        split_ifs at halways <;> exact halways

theorem honoured_of_consistent (h : o.Consistent env net) : o.ProtocolHonoured env net := by
  refine ⟨fun s t hs ht => ?_, fun hasked => ⟨fun s hs => ?_, fun t ht => ?_⟩,
    fun hasked => ⟨fun s hs => ?_, fun t ht => ?_⟩⟩
  · obtain ⟨hws, hsse, hhttp3⟩ := h.agree hs.requestable ht.accepted
    obtain ⟨rt, rfl, hrt⟩ := hs.madeFor
    obtain ⟨rt', hrt', rfl⟩ := (ht.madeFor.resolve_left fun h => hws h.1).2
    rw [if_neg hsse, selected_of_madeFor hrt, selected_of_madeFor hrt']
    by_cases h3 : o.forceHTTP3 = true
    · have hbrowser : o.processBrowser = o.http3Browser := if_pos ⟨hsse, .inr h3⟩
      rw [hbrowser]
      exact if_pos h3
    · have hbrowser : o.processBrowser = o.browser :=
        if_neg fun hasked => h3 (hasked.2.elim hhttp3 id)
      rw [hbrowser]
  · obtain ⟨rt, rfl, hrt⟩ := hs.madeFor
    exact ((suits_iff (.inl rfl) hrt).1 (h.sent hs.requestable)).1 hasked
  · have hprocessed := h.processed ht.accepted
    rcases ht.madeFor with ⟨hws, rfl⟩ | ⟨hws, rt, hrt, rfl⟩
    · trivial
    · rw [if_neg hws, suits_iff processBrowser_eq hrt] at hprocessed
      split_ifs <;> exact hprocessed.1 hasked
  · obtain ⟨rt, rfl, hrt⟩ := hs.madeFor
    exact ((suits_iff (.inl rfl) hrt).1 (h.sent hs.requestable)).2 hasked
  · have hprocessed := h.processed ht.accepted
    rcases ht.madeFor with ⟨hws, rfl⟩ | ⟨hws, rt, hrt, rfl⟩
    · rw [if_pos hws] at hprocessed
      rw [hws, hprocessed] at hasked
      exact absurd hasked (by decide)
    · rw [if_neg hws, suits_iff processBrowser_eq hrt] at hprocessed
      split_ifs <;> exact hprocessed.2 hasked

/-- `Do` and `processRequest` select the protocol that is asked for exactly if the options are
    consistent. -/
theorem protocolHonoured_iff : o.ProtocolHonoured env net ↔ o.Consistent env net :=
  ⟨consistent_of_honoured, honoured_of_consistent⟩

/-- `Do` does not look at the protocol. -/
theorem not_forall_protocolHonoured : ¬∀ (env : BuilderEnv) (net : NetEnv) (o : RequestOptions),
    o.ProtocolHonoured env net := by
  intro h
  let env : BuilderEnv := .ascii fun _ => some ⟨.https, "example.com", ""⟩
  let o : RequestOptions :=
    { url := "https://example.com", method := "GET", protocol := "http3" }
  have hrequestable : o.Requestable env := ⟨.inl rfl, by decide⟩
  have hconsistent := consistent_of_honoured (h env ⟨fun _ => true, RoundTripper.getDialTLSAddr⟩ o)
  exact absurd ((hconsistent.sent hrequestable).http3 (.inl rfl)).1 (by decide)

end RequestOptions

end CycleTLS
