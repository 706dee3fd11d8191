import CycleTLS.Lib.Machine
import CycleTLS.Lib.Table
import CycleTLS.Net
import CycleTLS.Pool

/-!
# The round tripper (`roundtripper.go`)

A round tripper keeps a transport for each address it was asked for
(`getDialTLSAddr`). For an address it does not know it makes one
(`getTransport`): a plaintext transport for an `http` URL, and for an `https`
URL the one that suits the protocol which a handshake with the configured
fingerprint negotiates (`dialTLS`, with two ways to retry). The connection of
that handshake is kept for the transport to pick up.

What the network does is given by the `Attempt`s at a connection, and by which
of its own dials a transport makes. The dials, handshakes and closings of the
round tripper are recorded as `Effect`s.
-/

namespace CycleTLS

/-- `DefaultChrome_JA3`. -/
def defaultChromeJA3 : String :=
  "771,4865-4866-4867-49195-49199-49196-49200-52393-52392-49171-49172-156-157-47-53," ++
    "65037-5-65281-16-45-10-13-0-18-23-35-43-11-27-51-17613,4588-29-23-24,0"

/-- What a `ClientHelloSpec` is built from. -/
inductive Hello
  /-- `QUICStringToSpec`. -/
  | quic (quicFingerprint userAgent : String) (forceHTTP1 : Bool)
  /-- `JA4RStringToSpec`. -/
  | ja4r (ja4r userAgent : String) (forceHTTP1 disableGrease : Bool) (serverName ja3 : String)
  /-- `StringToSpec`. -/
  | ja3 (ja3 userAgent : String) (forceHTTP1 : Bool)
  /-- `StringToTLS13CompatibleSpec`. -/
  | tls13 (ja3 userAgent : String) (forceHTTP1 : Bool)
  deriving DecidableEq

/-- A TLS connection after its handshake. -/
structure Conn where
  id : Nat
  addr : String
  serverName : String
  hello : Hello
  /-- Whether the negotiated protocol is `h2`. -/
  h2 : Bool
  deriving DecidableEq

/-- A cached transport. -/
inductive Transport
  /-- The `http.Transport` with the round tripper's own dialer. -/
  | plain
  /-- The `http.Transport` or `http2.Transport` that dials with `dialTLS`, and
      the connection after whose handshake it was made. -/
  | tls (made : Conn)
  deriving DecidableEq

/-- What a connection is opened with. -/
inductive Via
  | dialer (dialer : Dialer)
  /-- The net package's own dialing. -/
  | net
  deriving DecidableEq

/-- What a round tripper does on the network. -/
inductive Effect
  /-- A TCP connection to an address is asked for. -/
  | dial (via : Via) (addr : String)
  /-- The round tripper's own dial returned a connection. -/
  | opened (conn : Nat)
  | handshake (conn : Nat) (serverName : String) (hello : Hello) (insecureSkipVerify : Bool)
  /-- A transport makes a handshake itself, with a configuration of its own. -/
  | transportHandshake (serverName : String)
  | close (conn : Nat)
  /-- Datagrams are sent to a host and port. -/
  | datagrams (host port : String)
  deriving DecidableEq

/-- How an attempt at a TLS connection goes. -/
inductive Attempt
  | dialFails
  | specFails
  | presetFails
  /-- The handshake fails, with the error `tls: CurvePreferences includes
      unsupported curve` or another. -/
  | handshakeFails (unsupportedCurve : Bool)
  | connects (h2 : Bool)
  deriving DecidableEq

/-- What the round tripper depends on outside the code modelled here. -/
structure NetEnv where
  /-- Whether `NewHTTP2Fingerprint` returns no error. -/
  parsesHTTP2Fingerprint : String → Bool
  /-- The address a transport dials for a URL. -/
  canonicalAddr : URL → String

namespace RoundTripper

/-- The caches of a round tripper, and the number of the next connection. -/
structure State where
  cachedConnections : String → Option Conn
  cachedTransports : String → Option Transport
  next : Nat

/-- Nothing is cached. -/
def State.new : State := ⟨fun _ => none, fun _ => none, 0⟩

/-- The result of a dial: a connection, `errProtocolNegotiated`, or another
    error. -/
inductive DialResult
  | conn (conn : Conn)
  | negotiated
  | failed

/-- A dial, with the caches after it. -/
structure Dialed where
  state : State
  result : DialResult
  effects : List Effect

variable (env : NetEnv) (rt : RoundTripper)

/-! ## Handshakes -/

/-- The hello of the first handshake, and whether it is proactively upgraded to
    TLS 1.3. -/
def firstHello (serverName : String) : Hello × Bool :=
  if rt.quicFingerprint ≠ "" then (.quic rt.quicFingerprint rt.userAgent rt.forceHTTP1, false)
  else if rt.ja4r ≠ "" then
    (.ja4r rt.ja4r rt.userAgent rt.forceHTTP1 rt.disableGrease serverName rt.ja3, false)
  else
    let ja3 := if rt.ja3 = "" then defaultChromeJA3 else rt.ja3
    if rt.tls13AutoRetry ∧ "771,".toList <+: ja3.toList then
      (.tls13 ja3 rt.userAgent rt.forceHTTP1, true)
    else (.ja3 ja3 rt.userAgent rt.forceHTTP1, false)

/-- The hello of `retryWithTLS13CompatibleCurves`. -/
def compatibleHello : Hello :=
  if rt.quicFingerprint ≠ "" then .quic rt.quicFingerprint rt.userAgent rt.forceHTTP1
  else if rt.ja4r ≠ "" then .tls13 defaultChromeJA3 rt.userAgent rt.forceHTTP1
  else if rt.ja3 ≠ "" then .tls13 rt.ja3 rt.userAgent rt.forceHTTP1
  else .tls13 defaultChromeJA3 rt.userAgent rt.forceHTTP1

/-- How far an attempt gets. -/
inductive Tried
  | failed
  | rejected (unsupportedCurve : Bool)
  | connected (conn : Conn)

/-- An attempt at a connection: the dial, the hello and the handshake. -/
def tryDial (id : Nat) (addr serverName : String) (hello : Hello) :
    Attempt → Tried × List Effect
  | .dialFails => (.failed, [.dial (.dialer rt.dialer) addr])
  | .specFails => (.failed, [.dial (.dialer rt.dialer) addr, .opened id])
  | .presetFails => (.failed, [.dial (.dialer rt.dialer) addr, .opened id])
  | .handshakeFails unsupportedCurve =>
    (.rejected unsupportedCurve, [.dial (.dialer rt.dialer) addr, .opened id,
      .handshake id serverName hello rt.insecureSkipVerify, .close id])
  | .connects h2 =>
    (.connected ⟨id, addr, serverName, hello, h2⟩, [.dial (.dialer rt.dialer) addr, .opened id,
      .handshake id serverName hello rt.insecureSkipVerify])

/-- Whether `getH2Fingerprint` fails. -/
def h2FingerprintFails : Bool :=
  rt.http2Fingerprint ≠ "" && !env.parsesHTTP2Fingerprint rt.http2Fingerprint

/-- Keeps a new connection with the transport that suits it. -/
def install (σ : State) (conn : Conn) : State :=
  { σ with
    cachedTransports := Function.update σ.cachedTransports conn.addr (some (.tls conn))
    cachedConnections := Function.update σ.cachedConnections conn.addr (some conn) }

/-- The two retries, but for the hello. -/
def retry (σ : State) (addr host : String) (hello : Hello) (a : Attempt) : Dialed :=
  let σ' := { σ with next := σ.next + 1 }
  match tryDial rt σ.next addr host hello a with
  | (.connected conn, effects) =>
    if conn.h2 && h2FingerprintFails env rt then ⟨σ', .failed, effects⟩
    else if (σ.cachedTransports addr).isSome then ⟨σ', .conn conn, effects⟩
    else ⟨install σ' conn, .negotiated, effects⟩
  | (_, effects) => ⟨σ', .failed, effects⟩

/-- `retryWithTLS13CompatibleCurves`. -/
def retryWithTLS13CompatibleCurves (σ : State) (addr host : String) (a : Attempt) : Dialed :=
  retry env rt σ addr host (compatibleHello rt) a

/-- `retryWithOriginalTLS12JA3`. -/
def retryWithOriginalTLS12JA3 (σ : State) (addr host : String) (a : Attempt) : Dialed :=
  retry env rt σ addr host (.ja3 rt.ja3 rt.userAgent rt.forceHTTP1) a

/-- A dial with effects before it. -/
def Dialed.after (d : Dialed) (effects : List Effect) : Dialed :=
  { d with effects := effects ++ d.effects }

/-- `dialTLS`, with its attempt at a connection and the one of a retry. -/
def dialTLS (σ : State) (addr : String) (first second : Attempt) : Dialed :=
  match σ.cachedConnections addr with
  | some conn =>
    ⟨{ σ with cachedConnections := Function.update σ.cachedConnections addr none }, .conn conn, []⟩
  | none =>
    let host := (splitHostPort addr).elim addr Prod.fst
    let serverName := if rt.serverName ≠ "" then rt.serverName else host
    let proactivelyUpgraded := (firstHello rt serverName).2
    let σ' := { σ with next := σ.next + 1 }
    match tryDial rt σ.next addr serverName (firstHello rt serverName).1 first with
    | (.failed, effects) => ⟨σ', .failed, effects⟩
    | (.rejected true, effects) =>
      if rt.tls13AutoRetry then
        (retryWithTLS13CompatibleCurves env rt σ' addr host second).after effects
      else ⟨σ', .failed, effects⟩
    | (.rejected false, effects) =>
      if proactivelyUpgraded && rt.ja3 ≠ "" then
        (retryWithOriginalTLS12JA3 env rt σ' addr host second).after effects
      else ⟨σ', .failed, effects⟩
    | (.connected conn, effects) =>
      if (σ.cachedTransports addr).isSome then ⟨σ', .conn conn, effects⟩
      else if conn.h2 && h2FingerprintFails env rt then ⟨σ', .failed, effects⟩
      else ⟨install σ' conn, .negotiated, effects⟩

/-! ## Requests -/

/-- `getDialTLSAddr`. -/
def getDialTLSAddr (url : URL) : String :=
  match splitHostPort url.host with
  | some (host, port) => joinHostPort host port
  | none => joinHostPort url.host "443"

/-- `getTransport`: the caches after it, whether it returns no error, and its
    effects. -/
def getTransport (σ : State) (url : URL) (addr : String) (first second : Attempt) :
    State × Bool × List Effect :=
  match url.scheme with
  | .http =>
    ({ σ with cachedTransports := Function.update σ.cachedTransports addr (some .plain) }, true, [])
  | .https =>
    if (σ.cachedTransports addr).isSome then (σ, true, [])
    else
      let d := dialTLS env rt σ addr first second
      match d.result with
      | .conn _ | .negotiated => (d.state, true, d.effects)
      | .failed => (d.state, false, d.effects)
  | .other _ => (σ, false, [])

/-- The transport for an address: the cached one, or a new one. -/
def ensureTransport (σ : State) (url : URL) (addr : String) (first second : Attempt) :
    State × Bool × List Effect :=
  if (σ.cachedTransports addr).isSome then (σ, true, [])
  else getTransport env rt σ url addr first second

/-- What the network and the transports do for a request: the attempts at a first
    connection, the dials of the transport that carries it, and for HTTP/3 whether
    a socket, an address and a connection are found. -/
structure Conditions where
  first : Attempt
  second : Attempt
  dials : List (Attempt × Attempt)
  listens : Bool
  resolves : Bool
  connects : Bool

/-- A request of a URL. -/
structure Hop where
  url : URL
  conditions : Conditions

/-- `http3Dial`, `ghttp3Dial` and `makeHTTP3Request`: a connection is made, and
    the request is sent over another. -/
def roundTripHTTP3 (url : URL) (c : Conditions) : List Effect :=
  let port := if url.port = "" then "443" else url.port
  if c.listens && c.resolves then
    .datagrams url.hostname port ::
      if c.connects && url.scheme = .https then [.datagrams url.hostname port] else []
  else []

/-- The dials of a transport that uses `dialTLS`. -/
def dialAll (σ : State) (addr : String) : List (Attempt × Attempt) → State × List Effect
  | [] => (σ, [])
  | (first, second) :: as =>
    let d := dialTLS env rt σ addr first second
    let (σ', effects) := dialAll d.state addr as
    (σ', d.effects ++ effects)

/-- A dial of the plaintext transport for an `https` URL. It has no dialer for TLS, and makes the
    handshake itself. -/
def plainDial (addr serverName : String) (a : Attempt × Attempt) : List Effect :=
  .dial (.dialer rt.dialer) addr ::
    if a.1 = .dialFails then [] else [.transportHandshake serverName]

/-- The dials a transport makes while it carries a request. No transport takes
    other schemes, and an HTTP/2 transport takes `https` URLs only. An HTTP/1
    transport for TLS has no dialer of its own for plaintext connections. -/
def carry (σ : State) (url : URL) (transport : Transport) (dials : List (Attempt × Attempt)) :
    State × List Effect :=
  let addr := env.canonicalAddr url
  match url.scheme with
  | .http =>
    match transport with
    | .plain => (σ, dials.map fun _ => .dial (.dialer rt.dialer) addr)
    | .tls made => (σ, if made.h2 then [] else dials.map fun _ => .dial .net addr)
  | .https =>
    match transport with
    | .plain => (σ, dials.flatMap (plainDial rt addr url.hostname))
    | .tls _ => dialAll env rt σ addr dials
  | .other _ => (σ, [])

/-- What comes of a request. -/
structure Trip where
  /-- The cached transport that carried it. -/
  carrier : Option Transport
  effects : List Effect

/-- `RoundTrip`, without the headers. -/
def roundTrip (σ : State) (hop : Hop) : State × Trip :=
  let c := hop.conditions
  if h2FingerprintFails env rt then (σ, ⟨none, []⟩)
  else if rt.forceHTTP3 then (σ, ⟨none, roundTripHTTP3 hop.url c⟩)
  else
    let addr := getDialTLSAddr hop.url
    let ensured := ensureTransport env rt σ hop.url addr c.first c.second
    -- Without an error there may still be no transport; the source then panics.
    match if ensured.2.1 then ensured.1.cachedTransports addr else none with
    | some transport =>
      let carried := carry env rt ensured.1 hop.url transport c.dials
      (carried.1, ⟨some transport, ensured.2.2 ++ carried.2⟩)
    | none => (ensured.1, ⟨none, ensured.2.2⟩)

/-- `CloseIdleConnections`, keeping the address `keep`. -/
def closeIdleConnections (σ : State) (keep : String) : State :=
  { σ with
    cachedTransports := fun addr => if addr = keep then σ.cachedTransports addr else none
    cachedConnections := fun addr => if addr = keep then σ.cachedConnections addr else none }

/-- A use of a round tripper. -/
inductive Use
  | roundTrip (hop : Hop)
  | closeIdleConnections (keep : String)

/-- A use, with what comes of a request. -/
def step (σ : State) : Use → State × Option Trip
  | .roundTrip hop => ((roundTrip env rt σ hop).1, some (roundTrip env rt σ hop).2)
  | .closeIdleConnections keep => (closeIdleConnections σ keep, none)

/-! ## What a dial does -/

/-- The hello of a connection of `dialTLS`, by how its first attempt went. -/
inductive Offered (first : Attempt) : Hello → Prop
  | first (serverName : String) : Offered first (firstHello rt serverName).1
  | compatible : first = .handshakeFails true → rt.tls13AutoRetry = true →
      Offered first (compatibleHello rt)
  | original (serverName : String) : first = .handshakeFails false → rt.ja3 ≠ "" →
      (firstHello rt serverName).2 = true → Offered first (.ja3 rt.ja3 rt.userAgent rt.forceHTTP1)

/-- The name of the server in a first handshake. -/
def sni (addr : String) : String :=
  if rt.serverName ≠ "" then rt.serverName else (splitHostPort addr).elim addr Prod.fst

/-- The hello of the retry after a handshake failed, if there is a retry. -/
def retryHello (serverName : String) : (unsupportedCurve : Bool) → Option Hello
  | true => if rt.tls13AutoRetry then some (compatibleHello rt) else none
  | false =>
    if (firstHello rt serverName).2 && rt.ja3 ≠ "" then
      some (.ja3 rt.ja3 rt.userAgent rt.forceHTTP1)
    else none

/-- A connection comes of the attempts at an address: of the first, or of a retry. -/
inductive Connected (addr : String) (first second : Attempt) (conn : Conn) : Prop
  | first : first = .connects conn.h2 → conn.hello = (firstHello rt (sni rt addr)).1 →
      Connected addr first second conn
  | retried (b : Bool) : first = .handshakeFails b → second = .connects conn.h2 →
      retryHello rt (sni rt addr) b = some conn.hello → Connected addr first second conn

/-- What a new connection leads to: with no transport for its address, it is kept
    together with one, else it is returned. -/
def Delivered (σ : State) (addr : String) (n : Nat) (conn : Conn) (d : Dialed) : Prop :=
  ((σ.cachedTransports addr).isSome ∧ d.result = .conn conn ∧ d.state = { σ with next := n }) ∨
    (σ.cachedTransports addr = none ∧ d.result = .negotiated ∧
      d.state = install { σ with next := n } conn)

variable {env rt}

theorem tryDial_connected {id : Nat} {addr serverName : String} {hello : Hello} {a : Attempt}
    {conn : Conn} (h : (tryDial rt id addr serverName hello a).1 = .connected conn) :
    ∃ h2, a = .connects h2 ∧ conn = ⟨id, addr, serverName, hello, h2⟩ := by
  cases a with
  | connects h2 => cases h; exact ⟨h2, rfl, rfl⟩
  | _ => nomatch h

theorem tryDial_rejected {id : Nat} {addr serverName : String} {hello : Hello} {a : Attempt}
    {b : Bool} (h : (tryDial rt id addr serverName hello a).1 = .rejected b) :
    a = .handshakeFails b := by
  cases a with
  | handshakeFails b => cases h; rfl
  | _ => nomatch h

/-- The hello of a connection is one that was offered. -/
theorem Connected.offered {addr : String} {first second : Attempt} {conn : Conn}
    (h : Connected rt addr first second conn) : Offered rt first conn.hello := by
  cases h with
  | first _ hhello => exact hhello ▸ .first _
  | retried b hfirst _ hhello =>
    cases b with
    | true =>
      rw [retryHello] at hhello
      split_ifs at hhello with hretry
      rw [← Option.some.inj hhello]
      exact .compatible hfirst hretry
    | false =>
      rw [retryHello] at hhello
      split_ifs at hhello with hretry
      rw [Bool.and_eq_true, decide_eq_true_eq] at hretry
      rw [← Option.some.inj hhello]
      exact .original _ hfirst hretry.2 hretry.1

/-- A retry fails, or delivers a connection with its hello. -/
theorem retry_cases (σ : State) (addr host : String) (hello : Hello) (a : Attempt) :
    ((retry env rt σ addr host hello a).result = .failed ∧
        (retry env rt σ addr host hello a).state = { σ with next := σ.next + 1 }) ∨
      ∃ h2, a = .connects h2 ∧ Delivered σ addr (σ.next + 1) ⟨σ.next, addr, host, hello, h2⟩
        (retry env rt σ addr host hello a) := by
  rw [retry]
  cases ht : tryDial rt σ.next addr host hello a with
  | mk tried effects =>
    cases tried with
    | failed => exact .inl ⟨rfl, rfl⟩
    | rejected b => exact .inl ⟨rfl, rfl⟩
    | connected conn =>
      obtain ⟨h2, ha, rfl⟩ := tryDial_connected (congrArg Prod.fst ht)
      simp only []
      -- delivered either to the transport that waits, or along with a new one
      split_ifs with hfp hs
      · exact .inl ⟨rfl, rfl⟩
      · exact .inr ⟨h2, ha, .inl ⟨hs, rfl, rfl⟩⟩
      · exact .inr ⟨h2, ha, .inr ⟨Option.not_isSome_iff_eq_none.1 hs, rfl, rfl⟩⟩

variable (env rt) in
/-- What `dialTLS` does: it hands a kept connection over, fails, or delivers a new
    connection. -/
theorem dialTLS_cases (σ : State) (addr : String) (first second : Attempt) :
    (∃ conn, σ.cachedConnections addr = some conn ∧ dialTLS env rt σ addr first second =
        ⟨{ σ with cachedConnections := Function.update σ.cachedConnections addr none },
          .conn conn, []⟩) ∨
      (σ.cachedConnections addr = none ∧ ∃ n, σ.next < n ∧
        (((dialTLS env rt σ addr first second).result = .failed ∧
            (dialTLS env rt σ addr first second).state = { σ with next := n }) ∨
          ∃ conn, conn.addr = addr ∧ Connected rt addr first second conn ∧ σ.next ≤ conn.id ∧
            conn.id < n ∧ Delivered σ addr n conn (dialTLS env rt σ addr first second))) := by
  rw [dialTLS]
  cases hc : σ.cachedConnections addr with
  | some conn => exact .inl ⟨conn, rfl, rfl⟩
  | none =>
    refine .inr ⟨rfl, ?_⟩
    have hsni : (if rt.serverName ≠ "" then rt.serverName else
      (splitHostPort addr).elim addr Prod.fst) = sni rt addr := rfl
    simp only [hsni]
    cases ht : tryDial rt σ.next addr (sni rt addr) (firstHello rt (sni rt addr)).1 first with
    | mk tried effects =>
      cases tried with
      | failed => exact ⟨σ.next + 1, Nat.lt_succ_self _, .inl ⟨rfl, rfl⟩⟩
      | rejected b =>
        have hfirst := tryDial_rejected (congrArg Prod.fst ht)
        -- an unsupported curve is retried with the compatible hello, another failure with the JA3
        cases b with
        | true =>
          simp only []
          split_ifs with hretry
          · rcases retry_cases { σ with next := σ.next + 1 } addr
              ((splitHostPort addr).elim addr Prod.fst) (compatibleHello rt) second with
              h | ⟨h2, hsecond, h⟩
            · exact ⟨σ.next + 2, by omega, .inl h⟩
            · have hhello : retryHello rt (sni rt addr) true = _ := if_pos hretry
              exact ⟨σ.next + 2, by omega, .inr ⟨_, rfl, .retried true hfirst hsecond hhello,
                Nat.le_succ _, Nat.lt_succ_self _, h⟩⟩
          · exact ⟨σ.next + 1, Nat.lt_succ_self _, .inl ⟨rfl, rfl⟩⟩
        | false =>
          simp only []
          split_ifs with hretry
          · rcases retry_cases { σ with next := σ.next + 1 } addr
              ((splitHostPort addr).elim addr Prod.fst) (.ja3 rt.ja3 rt.userAgent rt.forceHTTP1)
              second with h | ⟨h2, hsecond, h⟩
            · exact ⟨σ.next + 2, by omega, .inl h⟩
            · have hhello : retryHello rt (sni rt addr) false = _ := if_pos hretry
              exact ⟨σ.next + 2, by omega, .inr ⟨_, rfl, .retried false hfirst hsecond hhello,
                Nat.le_succ _, Nat.lt_succ_self _, h⟩⟩
          · exact ⟨σ.next + 1, Nat.lt_succ_self _, .inl ⟨rfl, rfl⟩⟩
      | connected conn =>
        obtain ⟨h2, hfirst, rfl⟩ := tryDial_connected (congrArg Prod.fst ht)
        simp only []
        -- no retry: the transport may be known, fail its fingerprint, or be new
        split_ifs with hs hfp
        · exact ⟨σ.next + 1, Nat.lt_succ_self _, .inr ⟨_, rfl, .first hfirst rfl, Nat.le_refl _,
            Nat.lt_succ_self _, .inl ⟨hs, rfl, rfl⟩⟩⟩
        · exact ⟨σ.next + 1, Nat.lt_succ_self _, .inl ⟨rfl, rfl⟩⟩
        · exact ⟨σ.next + 1, Nat.lt_succ_self _, .inr ⟨_, rfl, .first hfirst rfl, Nat.le_refl _,
            Nat.lt_succ_self _, .inr ⟨Option.not_isSome_iff_eq_none.1 hs, rfl, rfl⟩⟩⟩

/-! ## What is cached -/

/-- What holds of the cached transports and their addresses. -/
def Caches (Q : String → Transport → Prop) (σ : State) : Prop :=
  ∀ addr t, σ.cachedTransports addr = some t → Q addr t

/-- What holds of the transports that a request may be given or may cache. -/
def Supplies (env : NetEnv) (rt : RoundTripper) (Q : String → Transport → Prop) (hop : Hop) :
    Prop :=
  match hop.url.scheme with
  | .http => Q (getDialTLSAddr hop.url) .plain
  | .https =>
    (∀ conn, conn.addr = getDialTLSAddr hop.url →
      Connected rt conn.addr hop.conditions.first hop.conditions.second conn →
        Q conn.addr (.tls conn)) ∧
      ∀ a ∈ hop.conditions.dials, ∀ conn, conn.addr = env.canonicalAddr hop.url →
        Connected rt conn.addr a.1 a.2 conn → Q conn.addr (.tls conn)
  | .other _ => True

variable {Q : String → Transport → Prop} {σ : State}

theorem caches_new : Caches Q .new := fun _ _ h => nomatch h

theorem Caches.update (h : Caches Q σ) {addr : String} {t : Transport} (ht : Q addr t) {σ' : State}
    (hσ : σ'.cachedTransports = Function.update σ.cachedTransports addr (some t)) :
    Caches Q σ' := by
  intro a t' ha
  rw [hσ] at ha
  rcases Table.set_eq_some_iff.1 ha with ⟨rfl, rfl⟩ | ⟨-, ha⟩
  · exact ht
  · exact h a t' ha

variable (env) in
theorem Caches.dialTLS (h : Caches Q σ) {addr : String} {first second : Attempt}
    (hconn : ∀ conn, conn.addr = addr → Connected rt conn.addr first second conn →
      Q conn.addr (.tls conn)) :
    Caches Q (dialTLS env rt σ addr first second).state := by
  rcases dialTLS_cases env rt σ addr first second with
    ⟨conn, -, hd⟩ | ⟨-, n, -, ⟨-, hd⟩ | ⟨conn, rfl, hconnected, -, -, hdel⟩⟩
  · rw [hd]
    exact h
  · rw [hd]
    exact h
  · rcases hdel with ⟨-, -, hd⟩ | ⟨-, -, hd⟩
    · rw [hd]
      exact h
    · refine h.update (hconn conn rfl hconnected) ?_
      rw [hd, install]

theorem Caches.dialAll (h : Caches Q σ) {addr : String} {dials : List (Attempt × Attempt)}
    (hconn : ∀ a ∈ dials, ∀ conn, conn.addr = addr → Connected rt conn.addr a.1 a.2 conn →
      Q conn.addr (.tls conn)) :
    Caches Q (dialAll env rt σ addr dials).1 := by
  induction dials generalizing σ with
  | nil => exact h
  | cons a dials ih =>
    rw [List.forall_mem_cons] at hconn
    exact ih (h.dialTLS env hconn.1) hconn.2

theorem Caches.ensureTransport (h : Caches Q σ) {hop : Hop} (hsup : Supplies env rt Q hop) :
    Caches Q (ensureTransport env rt σ hop.url (getDialTLSAddr hop.url)
      hop.conditions.first hop.conditions.second).1 := by
  rw [Supplies] at hsup
  rw [RoundTripper.ensureTransport]
  split_ifs with hc
  · exact h
  rw [getTransport]
  cases hs : hop.url.scheme with
  | http =>
    rw [hs] at hsup
    exact h.update hsup rfl
  | https =>
    rw [hs] at hsup
    have hd := h.dialTLS env hsup.1
    simp only [hc, if_false, Bool.false_eq_true]
    split <;> exact hd
  | other name => exact h

theorem Caches.carry (h : Caches Q σ) {hop : Hop} (hsup : Supplies env rt Q hop) (t : Transport) :
    Caches Q (carry env rt σ hop.url t hop.conditions.dials).1 := by
  rw [Supplies] at hsup
  cases hs : hop.url.scheme with
  | http => cases t <;> simpa only [RoundTripper.carry, hs] using h
  | https =>
    rw [hs] at hsup
    cases t with
    | plain => simpa only [RoundTripper.carry, hs] using h
    | tls made =>
      simp only [RoundTripper.carry, hs]
      exact h.dialAll hsup.2
  | other name => simpa only [RoundTripper.carry, hs] using h

/-- A request is carried by a cached transport, and keeps what holds of them. -/
theorem Caches.roundTrip (h : Caches Q σ) {hop : Hop} (hsup : Supplies env rt Q hop) :
    Caches Q (roundTrip env rt σ hop).1 ∧
      ∀ t, (roundTrip env rt σ hop).2.carrier = some t → Q (getDialTLSAddr hop.url) t := by
  rw [RoundTripper.roundTrip]
  have he := h.ensureTransport hsup
  simp only []
  split_ifs with hfp h3 hok
  · exact ⟨h, fun _ ht => nomatch ht⟩
  · exact ⟨h, fun _ ht => nomatch ht⟩
  · split
    · rename_i transport ht
      refine ⟨he.carry hsup transport, fun t htt => ?_⟩
      cases htt
      exact he _ _ ht
    · exact ⟨he, fun _ ht => nomatch ht⟩
  · exact ⟨he, fun _ ht => nomatch ht⟩

theorem Caches.closeIdleConnections (h : Caches Q σ) (keep : String) :
    Caches Q (closeIdleConnections σ keep) := by
  intro addr t ha
  by_cases hk : addr = keep
  · exact h addr t (by simpa [RoundTripper.closeIdleConnections, hk] using ha)
  · simp [RoundTripper.closeIdleConnections, hk] at ha

/-- In a run, each request is carried by a transport of which holds what holds of all those that
    the requests supply, and so are the transports it finds. -/
theorem caches_trace {uses : List Use} (hsup : ∀ hop, .roundTrip hop ∈ uses →
    Supplies env rt Q hop) : ∀ t ∈ Machine.trace (step env rt) .new uses, Caches Q t.before ∧
      ∀ hop trip transport, t.event = .roundTrip hop → t.output = some trip →
        trip.carrier = some transport → Q (getDialTLSAddr hop.url) transport := by
  refine Machine.trace_of_inv (step env rt) (Caches Q) (fun _ e => e ∈ uses)
    (fun _ e o => ∀ hop trip transport, e = .roundTrip hop → o = some trip →
      trip.carrier = some transport → Q (getDialTLSAddr hop.url) transport)
    (fun σ e hσ he => ?_) caches_new (fun (t : Machine.Step State Use (Option Trip)) ht => ?_)
  · -- both uses keep what is cached, and only a round trip has a transport to show
    cases e with
    | closeIdleConnections keep => exact ⟨hσ.closeIdleConnections keep, fun _ _ _ h => nomatch h⟩
    | roundTrip hop =>
      obtain ⟨hnext, hcarry⟩ := hσ.roundTrip (hsup hop he)
      refine ⟨hnext, fun hop' trip transport hh ht hc => ?_⟩
      cases hh
      cases ht
      exact hcarry transport hc
  · rw [← Machine.map_event_trace (step env rt) .new uses]
    exact List.mem_map_of_mem ht

end RoundTripper

end CycleTLS
