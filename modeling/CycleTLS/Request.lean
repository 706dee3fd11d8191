import CycleTLS.Lib.Raising
import CycleTLS.Python

/-!
# The request model (`Request` in `schema.py`)

A `Request` is made of the keyword arguments that a request comes down to, with a
default for each that is missing; any other name is refused. `to_dict` gives the
options that Go decodes: those that are always sent, and those that are set.
-/

namespace CycleTLS

open Raising

variable (env : PyEnv)

/-! ## Cookies -/

/-- `_convert_same_site`. -/
def convertSameSite : Value → Value
  | .none => .int 0
  | .bool b => .bool b
  | .int n => .int n
  | v =>
    let name := String.ofList (lower (env.format v).toList)
    .int (if name = "default" then 1 else if name = "lax" then 2 else if name = "strict" then 3
      else if name = "none" then 4 else 0)

/-- A key with its value, if that is not `None`. -/
def entry (key : String) (v : Value) : List (String × Value) :=
  if v.isNone then [] else [(key, v)]

theorem lookup_entry_of_ne {key key' : String} (h : key' ≠ key) (v : Value) :
    (entry key v).lookup key' = none := by
  rw [entry]
  split_ifs
  · rfl
  · rw [List.lookup_cons, beq_eq_false_iff_ne.2 h]
    rfl

theorem getD_lookup_entry (key : String) (v : Value) :
    ((entry key v).lookup key).getD .none = v := by
  rw [entry]
  cases v <;> simp [Value.isNone]

/-- The expiry as Go reads it. -/
def rawExpires : Value → Value
  | .none => .none
  | .datetime t => .str (env.strftime t)
  | v => .str (env.format v)

/-- The dict of a cookie with these fields. -/
def cookieDict (name value path domain expires maxAge secure httpOnly sameSite : Value) : Value :=
  .dict ([("name", name), ("value", value), ("secure", secure), ("httpOnly", httpOnly)] ++
    entry "path" path ++ entry "domain" domain ++ entry "rawExpires" (rawExpires env expires) ++
    entry "maxAge" maxAge ++
    if sameSite.isNone then [] else [("sameSite", convertSameSite env sameSite)])

/-- `_cookie_to_dict`. -/
def cookieToDict : Value → Except Raised Value
  | .dict c =>
    .ok (cookieDict env ((c.lookup "name").getD (.str "")) ((c.lookup "value").getD (.str ""))
      (Value.get c "path") (Value.get c "domain") (Value.get c "expires")
      ((Value.get c "maxAge").or (Value.get c "max_age"))
      ((c.lookup "secure").getD (.bool false))
      ((c.lookup "httpOnly").getD ((c.lookup "http_only").getD (.bool false)))
      ((Value.get c "sameSite").or (Value.get c "same_site")))
  | .cookie name value path domain expires maxAge secure httpOnly sameSite =>
    .ok (cookieDict env name value path domain expires maxAge secure httpOnly sameSite)
  | _ => .error .attributeError

/-- What iterating over a value gives. -/
def iterItems : Value → Except Raised (List Value)
  | .list items | .tuple items => .ok items
  | .dict items => .ok (items.map fun e => .str e.1)
  | .str s => .ok (s.toList.map fun c => .str (String.singleton c))
  | .bytes b => .ok (b.map fun n => .int n.toNat)
  | _ => .error .typeError

/-! ## Requests -/

/-- `Request`, with the contents of its headers. -/
structure Request where
  url : String
  method : String
  body : Value
  bodyBytes : Value
  headers : Value
  ja3 : Value
  ja4r : Value
  http2Fingerprint : Value
  quicFingerprint : Value
  disableGrease : Value
  serverName : Value
  insecureSkipVerify : Value
  tls13AutoRetry : Value
  forceHTTP1 : Value
  forceHTTP3 : Value
  protocol : Value
  userAgent : Value
  proxy : Value
  localAddress : Value
  cookies : Value
  timeout : Value
  disableRedirect : Value
  enableConnectionReuse : Value
  headerOrder : Value
  orderHeadersAsProvided : Value
  headerValues : Value

/-- The user agent of a request that is given none. -/
def defaultUserAgent : String :=
  "Mozilla/5.0 (X11; Linux x86_64) AppleWebKit/537.36 (KHTML, like Gecko) " ++
    "Chrome/149.0.0.0 Safari/537.36"

/-- `Request(method=.., url=.., **kwargs)`. -/
def Request.new {R : Type} (method url : String) (headers : Value) (kwargs : Kwargs R) :
    Except Raised Request :=
  if kwargs.unknown ≠ [] ∨ (kwargs.options .pollInterval).isSome ∨
      (kwargs.options .useCallback).isSome then .error .typeError
  else .ok {
    url := url
    method := method
    body := (kwargs.options .body).getD (.str "")
    bodyBytes := kwargs.arg .bodyBytes
    headers := headers
    ja3 := kwargs.arg .ja3
    ja4r := kwargs.arg .ja4r
    http2Fingerprint := kwargs.arg .http2Fingerprint
    quicFingerprint := kwargs.arg .quicFingerprint
    disableGrease := (kwargs.options .disableGrease).getD (.bool false)
    serverName := kwargs.arg .serverName
    insecureSkipVerify := (kwargs.options .insecureSkipVerify).getD (.bool false)
    tls13AutoRetry := (kwargs.options .tls13AutoRetry).getD (.bool true)
    forceHTTP1 := (kwargs.options .forceHTTP1).getD (.bool false)
    forceHTTP3 := (kwargs.options .forceHTTP3).getD (.bool false)
    protocol := kwargs.arg .protocol
    userAgent := (kwargs.options .userAgent).getD (.str defaultUserAgent)
    proxy := (kwargs.options .proxy).getD (.str "")
    localAddress := kwargs.arg .localAddress
    cookies := kwargs.arg .cookies
    timeout := (kwargs.options .timeout).getD (.int 6)
    disableRedirect := (kwargs.options .disableRedirect).getD (.bool false)
    enableConnectionReuse := (kwargs.options .enableConnectionReuse).getD (.bool true)
    headerOrder := kwargs.arg .headerOrder
    orderHeadersAsProvided := kwargs.arg .orderHeadersAsProvided
    headerValues := kwargs.arg .headerValues }

/-- The options of a request as Go decodes them. -/
abbrev OptionsDict := List (String × Value)

/-- The seconds of `to_dict`: rounded up, and at least one unless there is no timeout. -/
def timeoutInt : Value → Except Raised Int
  | .bool b => .ok (if b then 1 else 0)
  | .int n => .ok (if 0 < n then max 1 n else 0)
  | .float (.finite x) => .ok (if 0 < x then max 1 ⌈x⌉ else 0)
  | .float .inf => .error .overflowError
  | .float .negInf | .float .nan => .ok 0
  | _ => .error .typeError

/-- The name of a protocol, if one is set. -/
def protocolName : Value → Except Raised Value
  | .none => .ok .none
  | .protocol p => .ok (.str p.value)
  | _ => .error .attributeError

/-- The cookies of a request, if they are set. -/
def cookieDicts : Value → Except Raised Value
  | .none => .ok .none
  | cookies => do
    let items ← iterItems cookies
    return .list (← items.mapM (cookieToDict env))

/-- The values of a header, as a list. -/
def valueList : Value → Value
  | .list items | .tuple items => .list items
  | v => .list [v]

/-- The header values of a request, each as a list, if they are set. -/
def headerValueLists : Value → Except Raised Value
  | .none => .ok .none
  | .dict items => .ok (.dict (items.map fun e => (e.1, valueList e.2)))
  | _ => .error .attributeError

/-- The dict of `to_dict`, from what it converts. -/
def Request.options (r : Request) (timeoutInt : Int) (protocol cookies headerValues : Value) :
    OptionsDict :=
  [
    ("url", .str r.url),
    ("method", .str r.method),
    ("body", r.body),
    ("headers", r.headers),
    ("disableGrease", r.disableGrease),
    ("insecureSkipVerify", r.insecureSkipVerify),
    ("tls13AutoRetry", r.tls13AutoRetry),
    ("forceHTTP1", r.forceHTTP1),
    ("forceHTTP3", r.forceHTTP3),
    ("userAgent", r.userAgent),
    ("proxy", r.proxy),
    ("timeout", .int timeoutInt),
    ("disableRedirect", r.disableRedirect),
    ("enableConnectionReuse", r.enableConnectionReuse)] ++
    entry "ja3" r.ja3 ++ entry "bodyBytes" r.bodyBytes ++ entry "ja4r" r.ja4r ++
    entry "http2Fingerprint" r.http2Fingerprint ++ entry "quicFingerprint" r.quicFingerprint ++
    entry "serverName" r.serverName ++ entry "localAddress" r.localAddress ++
    entry "protocol" protocol ++ entry "cookies" cookies ++ entry "headerOrder" r.headerOrder ++
    entry "orderHeadersAsProvided" r.orderHeadersAsProvided ++ entry "headerValues" headerValues

/-- `to_dict`. -/
def Request.toDict (r : Request) : Except Raised OptionsDict := do
  let timeoutInt ← timeoutInt r.timeout
  let protocol ← protocolName r.protocol
  let cookies ← cookieDicts env r.cookies
  let headerValues ← headerValueLists r.headerValues
  return r.options timeoutInt protocol cookies headerValues

variable {env}

theorem Request.toDict_eq_ok {r : Request} {p : OptionsDict} (h : r.toDict env = .ok p) :
    ∃ n protocol cookies headerValues, timeoutInt r.timeout = .ok n ∧
      p = r.options n protocol cookies headerValues := by
  obtain ⟨n, hn, h⟩ := bind_eq_ok_iff.1 h
  obtain ⟨protocol, -, h⟩ := bind_eq_ok_iff.1 h
  obtain ⟨cookies, -, h⟩ := bind_eq_ok_iff.1 h
  obtain ⟨headerValues, -, h⟩ := bind_eq_ok_iff.1 h
  exact ⟨n, protocol, cookies, headerValues, hn, (Except.ok.inj h).symm⟩

/-- The options that are always sent. -/
theorem Request.lookup_options {r : Request} {n : Int} {protocol cookies headerValues : Value} :
    (r.options n protocol cookies headerValues).lookup "timeout" = some (.int n) ∧
    (r.options n protocol cookies headerValues).lookup "enableConnectionReuse" =
      some r.enableConnectionReuse := by
  constructor <;> simp [options, List.lookup_cons]

end CycleTLS
