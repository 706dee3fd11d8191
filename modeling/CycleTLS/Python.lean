import CycleTLS.Lib.Dict
import CycleTLS.Schema
import Mathlib.Data.Rat.Floor

/-!
# Keyword arguments

The options of a request are Python values of any type, given by keyword. Which of
them a call takes is told from their names (`Keyword`), and a name that is none of
these is kept as it is.

Headers are apart from the other options: the dict that is given for them is one
that the code writes to. The type of what stands for it is a parameter of `Kwargs`.

What the code takes from the standard library and from the JSON encoder is given by
a `PyEnv`.
-/

namespace CycleTLS

/-! ## Values -/

/-- A Python float. -/
inductive PyFloat
  | finite (x : Rat)
  | inf
  | negInf
  | nan

/-- `Protocol`. -/
inductive Protocol
  | http1
  | http2
  | http3
  | websocket
  | sse

def Protocol.value : Protocol → String
  | .http1 => "http1"
  | .http2 => "http2"
  | .http3 => "http3"
  | .websocket => "websocket"
  | .sse => "sse"

/-- `TLSFingerprint`. -/
structure TLSFingerprint where
  name : String
  ja3 : String
  ja4r : Option String := none
  http2Fingerprint : Option String := none
  quicFingerprint : Option String := none
  userAgent : Option String := none
  headerOrder : Option (List String) := none
  headers : Option (List (String × String)) := none
  disableGrease : Bool := false
  forceHTTP1 : Bool := false
  forceHTTP3 : Bool := false

/-- What reading a file gives. -/
inductive FileData
  | bytes (b : Bytes)
  | text (s : String)

/-- A Python value. -/
inductive Value
  | none
  | bool (b : Bool)
  | int (n : Int)
  | float (x : PyFloat)
  | str (s : String)
  | bytes (b : Bytes)
  | list (items : List Value)
  | tuple (items : List Value)
  | dict (items : List (String × Value))
  | datetime (t : DateTime)
  | protocol (p : Protocol)
  | cookie (name value path domain expires maxAge secure httpOnly sameSite : Value)
  /-- A `CookieJar`, with the values of its `_cookies`. -/
  | jar (cookies : List Value)
  | fingerprint (profile : TLSFingerprint)
  /-- A file object, with its `name` if it has one. -/
  | file (name : Option String) (data : FileData)

namespace Value

/-- `v is None`. -/
def isNone : Value → Bool
  | none => true
  | _ => false

/-- Whether a value counts as true. -/
def truthy : Value → Bool
  | none => false
  | bool b => b
  | int n => n ≠ 0
  | float (.finite x) => x ≠ 0
  | str s => s ≠ ""
  | bytes b => !b.isEmpty
  | list items | tuple items | jar items => !items.isEmpty
  | dict items => !items.isEmpty
  | _ => true

/-- `v or w`. -/
def or (v w : Value) : Value := if v.truthy then v else w

/-- The key of a dict, `None` if it is missing. -/
def get (items : List (String × Value)) (key : String) : Value := (items.lookup key).getD none

end Value

/-- An exception: the ones of the code with their texts, and those of Python. -/
inductive Raised
  | cycleTLSError (message : String)
  | valueError (message : String)
  | keyError (message : String)
  | typeError
  | attributeError
  | indexError
  | overflowError
  /-- Another one, of Python or a library. -/
  | library
  /-- One of `_parse_response`. -/
  | response (e : PyException)

/-! ## Keywords -/

/-- The keywords of `_prepare_request`, `Request` and `arequest`, but for the method,
    the URL and the headers. -/
inductive Keyword
  | params
  | data
  | jsonData
  | json
  | files
  | fingerprint
  | auth
  | body
  | bodyBytes
  | ja3
  | ja4r
  | http2Fingerprint
  | quicFingerprint
  | disableGrease
  | serverName
  | insecureSkipVerify
  | tls13AutoRetry
  | forceHTTP1
  | forceHTTP3
  | protocol
  | userAgent
  | proxy
  | localAddress
  | cookies
  | timeout
  | disableRedirect
  | enableConnectionReuse
  | headerOrder
  | orderHeadersAsProvided
  | headerValues
  | pollInterval
  | useCallback
  deriving DecidableEq

namespace Keyword

/-- The keyword as it is written. -/
def name : Keyword → String
  | params => "params"
  | data => "data"
  | jsonData => "json_data"
  | json => "json"
  | files => "files"
  | fingerprint => "fingerprint"
  | auth => "auth"
  | body => "body"
  | bodyBytes => "body_bytes"
  | ja3 => "ja3"
  | ja4r => "ja4r"
  | http2Fingerprint => "http2_fingerprint"
  | quicFingerprint => "quic_fingerprint"
  | disableGrease => "disable_grease"
  | serverName => "server_name"
  | insecureSkipVerify => "insecure_skip_verify"
  | tls13AutoRetry => "tls13_auto_retry"
  | forceHTTP1 => "force_http1"
  | forceHTTP3 => "force_http3"
  | protocol => "protocol"
  | userAgent => "user_agent"
  | proxy => "proxy"
  | localAddress => "local_address"
  | cookies => "cookies"
  | timeout => "timeout"
  | disableRedirect => "disable_redirect"
  | enableConnectionReuse => "enable_connection_reuse"
  | headerOrder => "header_order"
  | orderHeadersAsProvided => "order_headers_as_provided"
  | headerValues => "header_values"
  | pollInterval => "poll_interval"
  | useCallback => "use_callback"

def all : List Keyword :=
  [params, data, jsonData, json, files, fingerprint, auth, body, bodyBytes, ja3, ja4r,
    http2Fingerprint, quicFingerprint, disableGrease, serverName, insecureSkipVerify,
    tls13AutoRetry, forceHTTP1, forceHTTP3, protocol, userAgent, proxy, localAddress, cookies,
    timeout, disableRedirect, enableConnectionReuse, headerOrder, orderHeadersAsProvided,
    headerValues, pollInterval, useCallback]

theorem mem_all (k : Keyword) : k ∈ all := by cases k <;> decide

end Keyword

/-- Keyword arguments: the headers, `None` or a dict that `R` stands for, the values of
    the other keywords that are given, and the names given that are no keywords. -/
structure Kwargs (R : Type) where
  headers : Option (Option R) := none
  options : Keyword → Option Value := fun _ => none
  unknown : List String := []

namespace Kwargs

variable {R : Type} (kwargs : Kwargs R)

/-- The value of a parameter that is `None` by default. -/
def arg (k : Keyword) : Value := (kwargs.options k).getD .none

/-- Whether no argument is given. -/
def isEmpty : Bool :=
  kwargs.headers.isNone && kwargs.unknown.isEmpty &&
    Keyword.all.all fun k => (kwargs.options k).isNone

def set (k : Keyword) (v : Value) : Kwargs R :=
  { kwargs with options := Function.update kwargs.options k (some v) }

/-- Gives `k` the value `v` unless it has one. -/
def setDefault (k : Keyword) (v : Value) : Kwargs R :=
  if (kwargs.options k).isSome then kwargs else kwargs.set k v

def erase (k : Keyword) : Kwargs R :=
  { kwargs with options := Function.update kwargs.options k none }

def setHeaders (headers : R) : Kwargs R := { kwargs with headers := some (some headers) }

end Kwargs

/-! ## Libraries -/

/-- The functions of libraries that requests are prepared with. -/
structure PyEnv where
  /-- `str`, on what is no `str`. -/
  str : Value → String
  /-- `orjson.dumps`, or `json.dumps`, as a text. -/
  dumps : Value → Except Raised String
  /-- `urllib.parse.urlencode`. -/
  urlencode : List (String × Value) → String
  /-- `urllib.parse.urlsplit`: the query, and `urlunsplit` with another one. -/
  urlsplit : String → Except Raised (String × (String → String))
  /-- `urllib.parse.parse_qsl`, with blank values kept. -/
  parseQsl : String → List (String × String)
  b64encode : Bytes → String
  /-- `mimetypes.guess_type`. -/
  guessType : String → Option String
  strftime : DateTime → String
  /-- Whether a character is one that `\d` is. -/
  isDigit : Char → Bool
  /-- The profiles that are registered. -/
  profiles : List TLSFingerprint

/-- `str(v)`. -/
def PyEnv.format (env : PyEnv) : Value → String
  | .str s => s
  | v => env.str v

/-! ## Headers -/

/-- The contents of a dict of headers. -/
abbrev Headers := Dict String Value

/-- A dict of headers: the object the caller gave, or one that nobody else holds. -/
inductive HeaderDict
  | given
  | own (d : Headers)

/-- What prepares a request: it writes to the dict the caller gave, and may raise. -/
abbrev PyM := ExceptT Raised (StateM Headers)

namespace HeaderDict

def read : HeaderDict → PyM Headers
  | given => get
  | own d => pure d

/-- Changes a dict in place. -/
def update (f : Headers → Headers) : HeaderDict → PyM HeaderDict
  | given => do
    modify f
    return given
  | own d => return own (f d)

end HeaderDict

/-- `kwargs.get("headers") or {}`, and whether it is the dict of the arguments. -/
def Kwargs.headersOr (kwargs : Kwargs HeaderDict) : PyM (HeaderDict × Bool) :=
  match kwargs.headers with
  | some (some dict) => do
    let d ← dict.read
    return if d.isEmpty then (.own .empty, false) else (dict, true)
  | _ => return (.own .empty, false)

end CycleTLS
