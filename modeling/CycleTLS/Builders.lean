import CycleTLS.Entry
import CycleTLS.Hello
import CycleTLS.Lib.Dict

/-!
# The requests of the entry points (`index.go`, `connect.go`)

`Do` and `processRequest` make a client and a request of the same options, each by hand.
`Do` makes an HTTP request of any options, and returns an error where it cannot; `processRequest`
chooses by the protocol, and where it cannot make a request it ends the process.
-/

namespace CycleTLS

/-- A `Header`, in the order in which it is ranged over. -/
abbrev GoHeader := Dict String (List String)

/-- `HeaderOrderKey`. -/
def headerOrderKey : String := "Header-Order:"

/-- `PHeaderOrderKey`. -/
def pHeaderOrderKey : String := "PHeader-Order:"

/-- The `Options` of a request, with what is sent. -/
structure RequestOptions extends Options where
  url : String := ""
  method : String := ""
  headers : Dict String String := .empty
  headerValues : GoHeader := .empty
  body : Bytes := []
  bodyBytes : Bytes := []
  protocol : String := ""

/-- The characters of a token. -/
def isTokenChar (c : Char) : Bool := c.isAlphanum || "!#$%&'*+-.^_\u0060|~".toList.contains c

/-- A method that a request can have. -/
def validMethod (method : String) : Bool :=
  !method.toList.isEmpty && method.toList.all isTokenChar

/-- What the requests depend on outside the repository's own code. -/
structure BuilderEnv where
  /-- `unicode.ToLower`. -/
  lower : Char → Char
  /-- `unicode.ToUpper`. -/
  upper : Char → Char
  /-- One of the characters that `strings.EqualFold` takes for the same. -/
  fold : Char → Char
  /-- `url.Parse`. -/
  parseURL : String → Option URL
  /-- Whether `net.ParseIP` takes a text. -/
  parseIP : String → Bool
  /-- Whether `proxy.SOCKS5` returns no error for a host. -/
  socks5 : String → Bool
  /-- The URL of a request of `NewRequestWithContext`, if it returns no error. It is the one that
      is parsed, but for an empty port. -/
  newRequest : String → String → Option URL
  isSome_newRequest : ∀ method url, (newRequest method url).isSome =
    (validMethod (if method = "" then "GET" else method) && (parseURL url).isSome)

namespace BuilderEnv

variable (env : BuilderEnv)

/-- `strings.ToLower`. -/
def toLower (s : String) : String := String.ofList (s.toList.map env.lower)

/-- `strings.ToUpper`. -/
def toUpper (s : String) : String := String.ofList (s.toList.map env.upper)

/-- `strings.EqualFold`. -/
def equalFold (s t : String) : Bool := s.toList.map env.fold = t.toList.map env.fold

/-- `newConnectDialer`. -/
def newConnectDialer (proxyURLStr userAgent localAddress : String) : Option Dialer :=
  match env.parseURL proxyURLStr with
  | none => none
  | some proxyURL =>
    if proxyURL.host = "" ∨ proxyURL.host = "undefined" then none
    else
      let client := Dialer.connect proxyURLStr userAgent localAddress
      match proxyURL.scheme with
      | .http => some client
      | .https => some client
      | .other scheme =>
        if scheme = "socks5" ∨ scheme = "socks5h" then
          if env.socks5 proxyURL.host then some client else none
        else if scheme = "socks4" then some client
        else none

/-- What a client is created with. -/
def dialEnv : DialEnv where
  acceptsProxy proxyURL := (env.newConnectDialer proxyURL "" "").isSome
  parseIP := env.parseIP

end BuilderEnv

/-- Texts in ASCII, and what URLs parse to. -/
def BuilderEnv.ascii (parseURL : String → Option URL) : BuilderEnv where
  lower := Char.toLower
  upper := Char.toUpper
  fold := Char.toLower
  parseURL := parseURL
  parseIP _ := false
  socks5 _ := true
  newRequest method url :=
    if validMethod (if method = "" then "GET" else method) then parseURL url else none
  isSome_newRequest method url := by
    cases validMethod (if method = "" then "GET" else method) <;> rfl

variable (env : BuilderEnv)

/-! ## Headers -/

namespace RequestOptions

variable (o : RequestOptions)

/-- `requestHeaders`. -/
def requestHeaders : GoHeader :=
  if o.headerValues.entries.length > 0 then
    o.headers.entries.foldl (fun headers e => headers.setDefault e.1 [e.2]) o.headerValues
  else Dict.empty.setAll Prod.fst (fun e => [e.2]) o.headers.entries

/-- `hasRequestHeader`. -/
def hasRequestHeader (name : String) : Bool :=
  o.requestHeaders.entries.any fun e => env.equalFold e.1 name

/-- `setRequestHeaders`. -/
def setRequestHeaders (headers : GoHeader) (skipContentLength : Bool) : GoHeader :=
  headers.setAll Prod.fst Prod.snd (o.requestHeaders.entries.filter fun e =>
    !(skipContentLength && env.equalFold e.1 "Content-Length"))

/-- The order of the pseudo headers, as `parseUserAgent` gives it. -/
def pseudoHeaderOrder : List String :=
  match parseUserAgent (Utf8.utf8 o.userAgent) with
  | .chrome => [":method", ":authority", ":scheme", ":path"]
  | .firefox => [":method", ":path", ":authority", ":scheme"]

/-- The order of headers where the options have none. -/
def masterHeaderOrder : List String :=
  ["host", "connection", "cache-control", "device-memory", "viewport-width", "rtt", "downlink",
    "ect", "sec-ch-ua", "sec-ch-ua-mobile", "sec-ch-ua-full-version", "sec-ch-ua-arch",
    "sec-ch-ua-platform", "sec-ch-ua-platform-version", "sec-ch-ua-model",
    "upgrade-insecure-requests", "user-agent", "accept", "sec-fetch-site", "sec-fetch-mode",
    "sec-fetch-user", "sec-fetch-dest", "referer", "accept-encoding", "accept-language", "cookie"]

/-- `headerorderkey`: a key for each header that has it. -/
def orderedKeys : List String :=
  let headerorder :=
    if o.headerOrder.length > 0 then o.headerOrder.map env.toLower else masterHeaderOrder
  headerorder.flatMap fun key =>
    (o.requestHeaders.entries.filter fun e => key = env.toLower e.1).map fun _ => key

/-- The headers that `processRequest` gives an HTTP request, for the host of its URL. -/
def processHeader (host : String) : GoHeader :=
  let header : GoHeader := Dict.empty.set headerOrderKey (o.orderedKeys env)
  let header := if !o.forceHTTP3 && o.protocol ≠ "http3" then
    header.set pHeaderOrderKey o.pseudoHeaderOrder else header
  let header := o.setRequestHeaders env header true
  let header := if o.hasRequestHeader env "Host" then header else header.set "Host" [host]
  header.set "user-agent" [o.userAgent]

/-- The headers that `dispatchHTTP3Request` gives a request. -/
def http3Header (host : String) : GoHeader :=
  let header := o.setRequestHeaders env .empty true
  let header := if o.hasRequestHeader env "Host" then header else header.set "Host" [host]
  header.set "user-agent" [o.userAgent]

/-- The headers of the clients for events and for WebSockets. -/
def streamHeader : GoHeader := o.setRequestHeaders env .empty false

/-- The headers that `Do` gives a request. -/
def doHeader : GoHeader :=
  let header : GoHeader :=
    if !o.forceHTTP3 then Dict.empty.set pHeaderOrderKey o.pseudoHeaderOrder else .empty
  o.setRequestHeaders env header false

/-- The bytes of the body. -/
def bodyReader : Bytes := if o.bodyBytes.length > 0 then o.bodyBytes else o.body

/-- The call of `newClientWithReuse` with a browser. -/
def clientCallWith (browser : Browser) : ClientCall := { o.clientCall with browser := browser }

/-- The browser of `dispatchHTTP3Request`. -/
def http3Browser : Browser := { o.browser with forceHTTP1 := false, forceHTTP3 := true }

end RequestOptions

/-! ## Requests -/

/-- A `Request`. -/
structure GoRequest where
  method : String
  url : URL
  header : GoHeader := .empty
  body : Bytes := []

/-- A `fullRequest`; a client without a transport of its own is left out, and of the clients for
    events and WebSockets their headers are kept. -/
structure FullRequest where
  req : GoRequest
  client : Option Client
  options : RequestOptions
  sseClient : Option GoHeader := none
  wsClient : Option GoHeader := none

/-- What comes of `processRequest`. -/
inductive Processed
  | request (r : FullRequest)
  /-- `log.Fatal` ends the process. -/
  | fatal
  | panicked

variable (pool : Pool) (o : RequestOptions) (now : Int)

/-- `newClientWithReuse`. -/
def newClientWithReuse (browser : Browser) : Pool × Option Client :=
  getOrCreateClient env.dialEnv pool (o.clientCallWith browser) o.enableConnectionReuse now

/-- `dispatchWebSocketRequest`. -/
def dispatchWebSocketRequest : Processed :=
  match env.newRequest "GET" o.url with
  | none => .fatal
  | some url => .request ⟨⟨"GET", url, .empty, []⟩, none, o, none, some (o.streamHeader env)⟩

/-- `dispatchSSERequest`. -/
def dispatchSSERequest : Pool × Processed :=
  let got := newClientWithReuse env pool o now o.browser
  (got.1,
    match got.2 with
    | none => .fatal
    | some client =>
      match env.newRequest "GET" o.url with
      | none => .fatal
      | some url =>
        .request ⟨⟨"GET", url, .empty, []⟩, some client, o, some (o.streamHeader env), none⟩)

/-- What is common to the two ways to make an HTTP request: the client, the request, and its
    headers for the host of the URL, which is parsed again. -/
def buildRequest (browser : Browser) (header : String → GoHeader) : Pool × Processed :=
  let got := newClientWithReuse env pool o now browser
  (got.1,
    match got.2 with
    | none => .fatal
    | some client =>
      let method := env.toUpper o.method
      match env.newRequest method o.url with
      | none => .fatal
      | some url =>
        match env.parseURL o.url with
        | none => .panicked
        | some u => .request
            ⟨⟨if method = "" then "GET" else method, url, header u.host, o.bodyReader⟩, some client,
              o, none, none⟩)

/-- `dispatchHTTP3Request`. -/
def dispatchHTTP3Request : Pool × Processed :=
  buildRequest env pool o now o.http3Browser (o.http3Header env)

/-- `processRequest`. -/
def processRequest : Pool × Processed :=
  if o.protocol = "websocket" then (pool, dispatchWebSocketRequest env o)
  else if o.protocol = "sse" then dispatchSSERequest env pool o now
  else if o.protocol = "http3" ∨ o.forceHTTP3 then dispatchHTTP3Request env pool o now
  else buildRequest env pool o now o.browser (o.processHeader env)

end CycleTLS
