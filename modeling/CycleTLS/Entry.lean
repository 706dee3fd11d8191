import CycleTLS.RoundTripper

/-!
# Entry points (`index.go`, `ffi.go`)

What the entry points do on the network: `Do` sends the hops of a request through
the client of its configuration, `wsConnect` and `sseConnect` leave the
connections to the libraries they use, with nothing of the options but the URL
and the headers.
-/

namespace CycleTLS

/-- The `Options` of a request that its connections depend on. -/
structure Options where
  ja3 : String := ""
  ja4r : String := ""
  http2Fingerprint : String := ""
  quicFingerprint : String := ""
  disableGrease : Bool := false
  userAgent : String := ""
  proxy : String := ""
  localAddress : String := ""
  serverName : String := ""
  cookies : List GoCookie := []
  timeout : Int := 0
  disableRedirect : Bool := false
  headerOrder : List String := []
  insecureSkipVerify : Bool := false
  forceHTTP1 : Bool := false
  forceHTTP3 : Bool := false
  tls13AutoRetry : Bool := false
  enableConnectionReuse : Bool := false

/-- The `Browser` that `Do` creates from the options. -/
def Options.browser (o : Options) : Browser where
  ja3 := o.ja3
  ja4r := o.ja4r
  http2Fingerprint := o.http2Fingerprint
  quicFingerprint := o.quicFingerprint
  userAgent := o.userAgent
  cookies := o.cookies
  insecureSkipVerify := o.insecureSkipVerify
  serverName := o.serverName
  tls13AutoRetry := o.tls13AutoRetry
  disableGrease := o.disableGrease
  forceHTTP1 := o.forceHTTP1
  forceHTTP3 := o.forceHTTP3
  headerOrder := o.headerOrder

/-- The call of `getOrCreateClient` in `Do`. -/
def Options.clientCall (o : Options) : ClientCall where
  browser := o.browser
  timeout := o.timeout
  disableRedirect := o.disableRedirect
  userAgent := o.userAgent
  localAddress := o.localAddress
  proxyURL := some o.proxy

/-- What the entry points depend on outside the code modelled here. -/
structure EntryEnv extends NetEnv, DialEnv where
  /-- The address the WebSocket library dials for a URL, if it takes the URL. -/
  websocketDials : URL → Option String
  /-- The address `fhttp.DefaultClient` dials for a URL, if it takes the URL. -/
  defaultClientDials : URL → Option String

/-- The pool, and the caches of each round tripper. -/
structure System where
  pool : Pool
  trippers : Nat → RoundTripper.State

/-- Nothing is pooled or cached. -/
def System.new : System := ⟨.new, fun _ => .new⟩

variable (env : EntryEnv)

/-- The round trips of a client, one for each hop. -/
def roundTrips (rt : RoundTripper) (σ : RoundTripper.State) :
    List RoundTripper.Hop → RoundTripper.State × List Effect
  | [] => (σ, [])
  | hop :: hops =>
    let trip := rt.roundTrip env.toNetEnv σ hop
    let rest := roundTrips rt trip.1 hops
    (rest.1, trip.2.effects ++ rest.2)

/-- The round tripper of the client a request is given. -/
def System.tripperFor (sys : System) (o : Options) (now : Int) : Pool × Option RoundTripper :=
  let got := getOrCreateClient env.toDialEnv sys.pool o.clientCall o.enableConnectionReuse now
  (got.1, got.2.map Client.transport)

/-- The network side of `Do`, whose hops are those of the redirects and, for a
    response without a location, of another try. -/
def Do (sys : System) (o : Options) (now : Int) (hops : List RoundTripper.Hop) :
    System × List Effect :=
  let got := sys.tripperFor env o now
  match got.2 with
  | none => ({ sys with pool := got.1 }, [])
  | some rt =>
    let trips := roundTrips env rt (sys.trippers rt.id) hops
    let σ :=
      if o.enableConnectionReuse then trips.1 else RoundTripper.closeIdleConnections trips.1 ""
    (⟨got.1, Function.update sys.trippers rt.id σ⟩, trips.2)

/-- The scheme `Connect` of a WebSocket client makes of the scheme of a URL. -/
def websocketScheme : Scheme → Scheme
  | .http => .other "ws"
  | .https => .other "wss"
  | .other name => if name = "ws" ∨ name = "wss" then .other name else .other "ws"

/-- `wsConnect`, for the URL as it is parsed. -/
def wsConnect (url : Option URL) : List Effect :=
  match url.bind fun url =>
    env.websocketDials { url with scheme := websocketScheme url.scheme } with
  | some addr => [.dial .net addr]
  | none => []

/-- `sseConnect`, for the URLs its client requests one after another. -/
def sseConnect (urls : List URL) : List Effect :=
  (urls.filterMap env.defaultClientDials).map (.dial .net)

/-- The way a request enters. -/
inductive Entry
  | request (hops : List RoundTripper.Hop)
  | websocket (url : Option URL)
  | sse (urls : List URL)

/-- The use of an entry point, at a time. -/
structure Call where
  options : Options
  now : Int
  entry : Entry

/-- A use of an entry point, and what it does on the network. -/
def System.step (sys : System) (call : Call) : System × List Effect :=
  match call.entry with
  | .request hops => Do env sys call.options call.now hops
  | .websocket url => (sys, wsConnect env url)
  | .sse urls => (sys, sseConnect env urls)

end CycleTLS
