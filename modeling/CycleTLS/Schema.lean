import CycleTLS.Response

/-!
# Responses on the Python side (`schema.py`)

The payload Go packed is unpacked into a dictionary (`unpack`: a text that is
not UTF-8 does not unpack), and `_dict_to_response` makes a `Response` of it
or raises. Whether a response is a failure of the transport is told from its
status and its body alone (`isErrorResponse`), and the exception is chosen by
keywords in the body (`classify`).
-/

namespace CycleTLS

open Text Utf8 Decimal

/-! ## Exceptions -/

/-- The exceptions of `exceptions.py`, and the ones of Python and its unpacker
    that reach the caller as they are. -/
inductive ExceptionClass
  | cycleTLSError
  | requestException
  | httpError
  | connectionError
  | timeout
  | tooManyRedirects
  | invalidURL
  | tlsError
  | proxyError
  | invalidHeader
  | valueError
  | decodeError
  deriving DecidableEq

/-- The classes an exception class inherits from, itself included. -/
def ExceptionClass.mro : ExceptionClass → List ExceptionClass
  | .cycleTLSError => [.cycleTLSError]
  | .requestException => [.requestException, .cycleTLSError]
  | .valueError => [.valueError]
  | .decodeError => [.decodeError, .valueError]
  | c => [c, .requestException, .cycleTLSError]

/-- `issubclass(c, CycleTLSError)`. -/
def ExceptionClass.IsCycleTLSError (c : ExceptionClass) : Prop := .cycleTLSError ∈ c.mro

instance (c : ExceptionClass) : Decidable c.IsCycleTLSError :=
  inferInstanceAs (Decidable (_ ∈ c.mro))

/-- An exception that was raised. -/
structure PyException where
  cls : ExceptionClass
  message : String
  deriving DecidableEq

/-! ## Text -/

/-- `str.lower` on a character, as far as ASCII goes: outside ASCII, only two
    characters have ASCII in their lower case. The others are kept, since the
    text is searched for ASCII keywords only. -/
def lowerChar (c : Char) : List Char :=
  if c = '\u0130' then ['i', '\u0307']
  else if c = '\u212a' then ['k']
  else [c.toLower]

/-- `str.lower`, for the search of keywords. -/
def lower (s : List Char) : List Char := s.flatMap lowerChar

theorem lower_append (s t : List Char) : lower (s ++ t) = lower s ++ lower t :=
  List.flatMap_append

theorem lower_cons (c : Char) (s : List Char) : lower (c :: s) = lowerChar c ++ lower s := rfl

/-- `_matches_any`. -/
def matchesAny (text : List Char) (patterns : List String) : Bool :=
  hits (patterns.map String.toList) text

/-! ## Failures -/

/-- A payload in Python. -/
structure ResponseDict where
  requestID : String
  status : Int
  body : String
  headers : List (String × String)
  finalUrl : String
  proto : Option String
  bodyBytes : Option Bytes
  cookies : List CookieDict
  deriving DecidableEq

/-- The text of a header, when both parts are UTF-8. -/
def unpackHeader (h : Bytes × Bytes) : Option (String × String) := do
  let name ← decode h.1
  let value ← decode h.2
  return (name, value)

/-- Unpacking a payload: its texts have to be UTF-8. -/
def unpack (p : Payload) : Option ResponseDict := do
  let body ← decode p.body
  let headers ← p.headers.mapM unpackHeader
  let finalUrl ← decode p.finalUrl
  return {
    requestID := p.requestID
    status := p.status
    body := body
    headers := headers
    finalUrl := finalUrl
    proto := p.proto
    bodyBytes := p.bodyBytes
    cookies := p.cookies }

/-- The statuses Go gives to failures. -/
def errorStatuses : List Int := [401, 405, 408, 421, 495, 502]

def dnsPatterns : List String :=
  ["no such host", "lookup", "dnserror", "getaddrinfo", "could not resolve", "dns"]

def timeoutPatterns : List String :=
  ["timeout", "deadline exceeded", "request canceled", "context canceled", "context done",
    "i/o timeout"]

def connectionPatterns : List String :=
  ["connection reset", "connection closed", "closed network connection", "eof", "broken pipe",
    "network is unreachable"]

/-- The keywords of a TLS error with status 495. -/
def tlsStatusPatterns : List String :=
  ["certificate", "x509:", "tls: failed to verify", "handshake"]

def tlsPatterns : List String := ["certificate", "x509:", "tls: failed to verify", "ssl"]

def refusedPatterns : List String :=
  ["connection refused", "refused", "no connection could be made"]

def urlPatterns : List String :=
  ["invalid url", "unsupported protocol", "missing protocol scheme", "invalid character", "parse",
    "first path segment in url cannot contain colon", "unsupported scheme"]

/-- `is_error_response`: whether the response stands for a failure. -/
def isErrorResponse (status : Int) (errorMsg : List Char) : Bool :=
  status = 0 || matchesAny (lower errorMsg) ["syscall error:"] ||
    errorStatuses.contains status && matchesAny errorMsg ["->"]

/-- The exception for a failure, and what its message starts with. -/
def classify (status : Int) (errorLower : List Char) : Option (ExceptionClass × String) :=
  if status = 421 || matchesAny errorLower dnsPatterns then
    some (.connectionError, "DNS lookup failed: ")
  else if status = 408 || matchesAny errorLower timeoutPatterns then
    some (.timeout, "Request timed out: ")
  else if matchesAny errorLower connectionPatterns then
    some (.connectionError, "Connection error: ")
  else if status = 495 && matchesAny errorLower tlsStatusPatterns then
    some (.tlsError, "TLS error: ")
  else if matchesAny errorLower tlsPatterns then
    some (.tlsError, "TLS error: ")
  else if status = 502 || matchesAny errorLower refusedPatterns then
    some (.connectionError, "Connection refused: ")
  else if status = 405 && matchesAny errorLower ["addr"] then
    some (.connectionError, "Address error: ")
  else if matchesAny errorLower urlPatterns then
    some (.invalidURL, "Invalid URL: ")
  else if status = 401 && matchesAny errorLower ["syscall"] then
    some (.connectionError, "Syscall error: ")
  else if status = 0 then
    some (.cycleTLSError, "Request failed: ")
  else none

/-- `_raise_for_error_response`. -/
def raiseForErrorResponse (data : ResponseDict) : Except PyException Unit :=
  if 200 ≤ data.status ∧ data.status < 400 then .ok ()
  else if !isErrorResponse data.status data.body.toList then .ok ()
  else
    match classify data.status (lower data.body.toList) with
    | some (cls, about) => .error ⟨cls, about ++ data.body⟩
    | none => .ok ()

/-! ## Dates -/

/-- A `datetime` in UTC. -/
structure DateTime where
  year : Nat
  month : Nat
  day : Nat
  hour : Nat
  minute : Nat
  second : Nat
  microsecond : Nat
  deriving DecidableEq

/-- The symbol `c`, and what follows it. -/
def expect (c : Char) : List Char → Option (List Char)
  | [] => none
  | d :: s => if d = c then some s else none

/-- The microseconds of a fraction: its first six digits. -/
def microseconds (digits : List Char) : Nat :=
  ((digits ++ List.replicate 6 '0').take 6).foldl (fun n c => 10 * n + value c) 0

/-- A fraction of a second, if there is one; Python takes those whose number of
    digits `fracOk` allows (until 3.10 three or six, later any). -/
def readFraction (fracOk : Nat → Bool) : List Char → Option (Nat × List Char)
  | '.' :: s =>
    let digits := s.takeWhile Char.isDigit
    if fracOk digits.length then some (microseconds digits, s.dropWhile Char.isDigit) else none
  | s => some (0, s)

/-- The ranges a `datetime` checks. -/
def DateTime.InRange (t : DateTime) : Prop :=
  1 ≤ t.year ∧ t.year ≤ 9999 ∧ 1 ≤ t.month ∧ t.month ≤ 12 ∧ 1 ≤ t.day ∧
    t.day ≤ daysIn t.month t.year ∧ t.hour < 24 ∧ t.minute < 60 ∧ t.second < 60

instance (t : DateTime) : Decidable t.InRange := by
  unfold DateTime.InRange
  infer_instance

/-- A year, a month and a day, with dashes. -/
def readDate (s : List Char) : Option ((Nat × Nat × Nat) × List Char) := do
  let (year, s) ← readDigits 4 s
  let s ← expect '-' s
  let (month, s) ← readDigits 2 s
  let s ← expect '-' s
  let (day, s) ← readDigits 2 s
  return ((year, month, day), s)

/-- An hour, a minute and a second, with colons. -/
def readClock (s : List Char) : Option ((Nat × Nat × Nat) × List Char) := do
  let (hour, s) ← readDigits 2 s
  let s ← expect ':' s
  let (minute, s) ← readDigits 2 s
  let s ← expect ':' s
  let (second, s) ← readDigits 2 s
  return ((hour, minute, second), s)

/-- `datetime.fromisoformat`, on the form Go writes: a date, `T`, a time with
    seconds, and the offset of UTC. -/
def fromisoformat (fracOk : Nat → Bool) (s : List Char) : Option DateTime := do
  let ((year, month, day), s) ← readDate s
  let s ← expect 'T' s
  let ((hour, minute, second), s) ← readClock s
  let (microsecond, s) ← readFraction fracOk s
  let t : DateTime := ⟨year, month, day, hour, minute, second, microsecond⟩
  if s = "+00:00".toList ∧ t.InRange then some t else none

/-! ## Responses -/

/-- A `Cookie`. -/
structure Cookie where
  name : String
  value : String
  path : Option String := none
  domain : Option String := none
  expires : Option DateTime := none
  maxAge : Option Int := none
  secure : Bool := false
  httpOnly : Bool := false
  sameSite : Option String := none
  deriving DecidableEq

/-- A text without the `Z` at its end, which Python's parser may not know. -/
def withOffset (expires : List Char) : List Char :=
  if ['Z'] <:+ expires then expires.dropLast ++ "+00:00".toList else expires

/-- The expiry in `_dict_to_cookie`. -/
def readExpires (fracOk : Nat → Bool) : Option String → Except PyException (Option DateTime)
  | none => .ok none
  | some s =>
    if s = "" then .ok none
    else
      match fromisoformat fracOk (withOffset s.toList) with
      | some t => .ok (some t)
      | none => .error ⟨.valueError, s⟩

/-- `_dict_to_cookie`. -/
def dictToCookie (fracOk : Nat → Bool) (data : CookieDict) : Except PyException Cookie := do
  let expires ← readExpires fracOk data.expires
  return {
    name := data.name
    value := data.value
    path := data.path
    domain := data.domain
    expires := expires
    maxAge := data.maxAge
    secure := data.secure.getD false
    httpOnly := data.httpOnly.getD false
    sameSite := data.sameSite }

/-- A `Response`. -/
structure Response where
  requestID : String
  statusCode : Int
  rawHeaders : List (String × String)
  body : String
  bodyBytes : Option Bytes
  rawCookies : Option (List Cookie)
  finalUrl : Option String
  proto : Option String
  deriving DecidableEq

/-- `Response.content`. -/
def Response.content (r : Response) : Bytes := r.bodyBytes.getD (utf8 r.body)

/-- The cookies in `_dict_to_response`. -/
def readCookies (fracOk : Nat → Bool) (cookies : List CookieDict) :
    Except PyException (Option (List Cookie)) :=
  if cookies.length > 0 then some <$> cookies.mapM (dictToCookie fracOk) else .ok none

/-- `_dict_to_response`. -/
def dictToResponse (fracOk : Nat → Bool) (data : ResponseDict) (raiseOnError : Bool := true) :
    Except PyException Response := do
  if raiseOnError then raiseForErrorResponse data else .ok ()
  let rawCookies ← readCookies fracOk data.cookies
  return {
    requestID := data.requestID
    statusCode := data.status
    rawHeaders := data.headers
    body := data.body
    bodyBytes := data.bodyBytes.filter fun b => b.length > 0
    rawCookies := rawCookies
    finalUrl := some data.finalUrl
    proto := data.proto }

/-- What the caller gets for a payload. -/
def receive (fracOk : Nat → Bool) (p : Payload) : Except PyException Response :=
  match unpack p with
  | some data => dictToResponse fracOk data
  | none => .error ⟨.decodeError, "invalid utf-8 sequence"⟩

end CycleTLS
