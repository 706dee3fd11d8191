import CycleTLS.CookieTrip

/-!
# The options of a request in Go

A `Request` with the types its fields are declared with is made a dict by `to_dict`, and
Go decodes that as `Options`. Every field that is set arrives (`arrives_iff`), but for
one: `orderHeadersAsProvided` is no name of a field. What is no number of 64 bits, no
text or no mode that Go has is beyond what `Options` can hold, and the date of a cookie
is written as one in GMT, in whatever zone it is.
-/

namespace CycleTLS

open Utf8 Wire Raising

/-- A number of seconds. -/
inductive Seconds
  | int (n : Int)
  | float (x : PyFloat)

/-- The values of a header. -/
inductive HeaderValue
  | one (s : String)
  | list (items : List String)
  | tuple (items : List String)

/-- `Cookie`, with what `utcoffset` gives for its date, in microseconds: a date without a
    zone is one in UTC. -/
structure TypedCookie extends Cookie where
  utcoffset : Int := 0

/-- `Request`, with the types of its fields. -/
structure TypedRequest where
  url : String
  method : String
  body : String := ""
  bodyBytes : Option Bytes := none
  headers : Dict String Value := .empty
  ja3 : Option String := none
  ja4r : Option String := none
  http2Fingerprint : Option String := none
  quicFingerprint : Option String := none
  disableGrease : Bool := false
  serverName : Option String := none
  insecureSkipVerify : Bool := false
  tls13AutoRetry : Bool := true
  forceHTTP1 : Bool := false
  forceHTTP3 : Bool := false
  protocol : Option Protocol := none
  userAgent : String := defaultUserAgent
  proxy : String := ""
  localAddress : Option String := none
  cookies : Option (List TypedCookie) := none
  timeout : Seconds := .int 6
  disableRedirect : Bool := false
  enableConnectionReuse : Bool := true
  headerOrder : Option (List String) := none
  orderHeadersAsProvided : Option Bool := none
  headerValues : Option (Dict String HeaderValue) := none

def Seconds.toValue : Seconds → Value
  | int n => .int n
  | float x => .float x

def HeaderValue.items : HeaderValue → List String
  | one s => [s]
  | list items | tuple items => items

def HeaderValue.toValue : HeaderValue → Value
  | one s => .str s
  | list items => .list (items.map .str)
  | tuple items => .tuple (items.map .str)

/-- Its values. -/
def TypedRequest.toRequest (r : TypedRequest) : Request where
  url := r.url
  method := r.method
  body := .str r.body
  bodyBytes := .opt .bytes r.bodyBytes
  headers := .dict r.headers.entries
  ja3 := .opt .str r.ja3
  ja4r := .opt .str r.ja4r
  http2Fingerprint := .opt .str r.http2Fingerprint
  quicFingerprint := .opt .str r.quicFingerprint
  disableGrease := .bool r.disableGrease
  serverName := .opt .str r.serverName
  insecureSkipVerify := .bool r.insecureSkipVerify
  tls13AutoRetry := .bool r.tls13AutoRetry
  forceHTTP1 := .bool r.forceHTTP1
  forceHTTP3 := .bool r.forceHTTP3
  protocol := .opt .protocol r.protocol
  userAgent := .str r.userAgent
  proxy := .str r.proxy
  localAddress := .opt .str r.localAddress
  cookies := .opt (fun cookies => .list (cookies.map fun c => c.toCookie.toValue)) r.cookies
  timeout := r.timeout.toValue
  disableRedirect := .bool r.disableRedirect
  enableConnectionReuse := .bool r.enableConnectionReuse
  headerOrder := .opt (fun items => .list (items.map .str)) r.headerOrder
  orderHeadersAsProvided := .opt .bool r.orderHeadersAsProvided
  headerValues := .opt (fun d => .dict (d.entries.map fun e => (e.1, e.2.toValue))) r.headerValues

/-! ## What is to arrive -/

/-- The text that a value is, in Go. -/
def Value.HasText : Value → Bytes → Prop
  | .str s, text => text = utf8 s
  | .bytes b, text => text = b
  | _, _ => False

/-- A whole number of seconds is not less than the seconds asked for. -/
def Seconds.AtMost : Seconds → Int → Prop
  | int n, m => n ≤ m
  | float (.finite x), m => x ≤ m
  | float .negInf, _ => True
  | float .inf, _ => False
  | float .nan, _ => False

/-- The number of a mode that is set, by its name in any case. -/
def HasMode : Option String → Int → Prop
  | none, m => m = 0
  | some name, m => (String.ofList (lower name.toList), m) ∈
      [("default", (1 : Int)), ("lax", 2), ("strict", 3), ("none", 4)]

namespace DateTime

/-- `toordinal`. -/
def toordinal (t : DateTime) : Int :=
  let y : Int := t.year - 1
  365 * y + y / 4 - y / 100 + y / 400 +
    ((List.range (t.month - 1)).map fun m => (daysIn (m + 1) t.year : Int)).sum + t.day

def seconds (t : DateTime) : Int := ((t.toordinal * 24 + t.hour) * 60 + t.minute) * 60 + t.second

/-- `t'` is the same date in UTC, to the second. -/
def InUtc (t : DateTime) (utcoffset : Int) (t' : DateTime) : Prop :=
  t'.InRange ∧ t'.seconds = (t.seconds * 10 ^ 6 + t.microsecond - utcoffset) / 10 ^ 6

/-- A date in UTC is itself. -/
theorem inUtc_self {t : DateTime} (h : t.InRange) (hmicro : t.microsecond < 10 ^ 6) :
    t.InUtc 0 t := by
  refine ⟨h, ?_⟩
  omega

end DateTime

/-- The text of a date is that of the date in UTC. -/
def HasDate (env : PyEnv) (c : TypedCookie) (text : Bytes) : Prop :=
  match c.expires with
  | none => text = []
  | some t => ∃ t', t.InUtc c.utcoffset t' ∧ text = utf8 (env.strftime t')

/-- The attributes of a cookie. -/
structure CookieArrives (env : PyEnv) (c : TypedCookie) (w : Wire.Cookie) : Prop where
  name : w.name = utf8 c.name
  value : w.value = utf8 c.value
  path : w.path = utf8 (c.path.getD "")
  domain : w.domain = utf8 (c.domain.getD "")
  expires : HasDate env c w.rawExpires
  maxAge : w.maxAge = c.maxAge.getD 0
  secure : w.secure = c.secure
  httpOnly : w.httpOnly = c.httpOnly
  sameSite : HasMode c.sameSite w.sameSite

/-- Every option that is set has its value, and the others are zero. -/
structure Arrives (env : PyEnv) (r : TypedRequest) (o : Wire.Options) : Prop where
  url : o.url = utf8 r.url
  method : o.method = utf8 r.method
  body : o.body = utf8 r.body
  bodyBytes : o.bodyBytes = r.bodyBytes.getD []
  headers : r.headers.entries.Forall₂ (fun e h => h.1 = utf8 e.1 ∧ e.2.HasText h.2) o.headers
  headerValues : o.headerValues = ((r.headerValues.map Dict.entries).getD []).map fun e =>
    (utf8 e.1, e.2.items.map utf8)
  ja3 : o.ja3 = utf8 (r.ja3.getD "")
  ja4r : o.ja4r = utf8 (r.ja4r.getD "")
  http2Fingerprint : o.http2Fingerprint = utf8 (r.http2Fingerprint.getD "")
  quicFingerprint : o.quicFingerprint = utf8 (r.quicFingerprint.getD "")
  disableGrease : o.disableGrease = r.disableGrease
  userAgent : o.userAgent = utf8 r.userAgent
  proxy : o.proxy = utf8 r.proxy
  localAddress : o.localAddress = utf8 (r.localAddress.getD "")
  serverName : o.serverName = utf8 (r.serverName.getD "")
  cookies : (r.cookies.getD []).Forall₂ (CookieArrives env) o.cookies
  timeout : r.timeout.AtMost o.timeout
  disableRedirect : o.disableRedirect = r.disableRedirect
  headerOrder : o.headerOrder = (r.headerOrder.getD []).map utf8
  orderHeadersAsProvided : o.orderAsProvided = r.orderHeadersAsProvided.getD false
  insecureSkipVerify : o.insecureSkipVerify = r.insecureSkipVerify
  forceHTTP1 : o.forceHTTP1 = r.forceHTTP1
  forceHTTP3 : o.forceHTTP3 = r.forceHTTP3
  protocol : o.protocol = utf8 ((r.protocol.map Protocol.value).getD "")
  tls13AutoRetry : o.tls13AutoRetry = r.tls13AutoRetry
  enableConnectionReuse : o.enableConnectionReuse = r.enableConnectionReuse

/-! ## What can be carried -/

/-- A text, as `str` or `bytes`. -/
def Value.IsText : Value → Prop
  | .str _ | .bytes _ => True
  | _ => False

/-- A number of seconds that Go has a number for. -/
def Seconds.Carried : Seconds → Prop
  | int n => n < 2 ^ 63
  | float (.finite x) => ⌈x⌉ < 2 ^ 63
  | float .negInf => True
  | float .inf => False
  | float .nan => False

/-- A cookie with a `Max-Age` and a mode that Go has, and a date whose clock shows what it
    shows in UTC. -/
structure TypedCookie.Carried (env : PyEnv) (c : TypedCookie) : Prop where
  maxAge : Fits (c.maxAge.getD 0)
  sameSite : ∀ name, c.sameSite = some name → Cookie.mode name ≠ 0
  expires : ∀ t, c.expires = some t →
    ∃ t', t.InUtc c.utcoffset t' ∧ env.strftime t' = env.strftime t

/-- What `Options` can hold, and has a name for. -/
structure Carried (env : PyEnv) (r : TypedRequest) : Prop where
  headers : ∀ e ∈ r.headers.entries, e.2.IsText
  cookies : ∀ c ∈ r.cookies.getD [], c.Carried env
  timeout : r.timeout.Carried
  orderHeadersAsProvided : r.orderHeadersAsProvided ≠ some true

/-! ## What is sent -/

/-- What Go reads of the options, with these headers, cookies and seconds. -/
def TypedRequest.sent (r : TypedRequest) (headers : List (Bytes × Bytes))
    (cookies : List Wire.Cookie) (timeout : Int) : Wire.Options where
  url := utf8 r.url
  method := utf8 r.method
  headers := headers
  headerValues := ((r.headerValues.map Dict.entries).getD []).map fun e =>
    (utf8 e.1, e.2.items.map utf8)
  body := utf8 r.body
  bodyBytes := r.bodyBytes.getD []
  ja3 := utf8 (r.ja3.getD "")
  ja4r := utf8 (r.ja4r.getD "")
  http2Fingerprint := utf8 (r.http2Fingerprint.getD "")
  quicFingerprint := utf8 (r.quicFingerprint.getD "")
  disableGrease := r.disableGrease
  userAgent := utf8 r.userAgent
  proxy := utf8 r.proxy
  localAddress := utf8 (r.localAddress.getD "")
  serverName := utf8 (r.serverName.getD "")
  cookies := cookies
  timeout := timeout
  disableRedirect := r.disableRedirect
  headerOrder := (r.headerOrder.getD []).map utf8
  orderAsProvided := false
  insecureSkipVerify := r.insecureSkipVerify
  forceHTTP1 := r.forceHTTP1
  forceHTTP3 := r.forceHTTP3
  protocol := utf8 ((r.protocol.map Protocol.value).getD "")
  tls13AutoRetry := r.tls13AutoRetry
  enableConnectionReuse := r.enableConnectionReuse

variable {env : PyEnv} {r : TypedRequest}

/-- Everything arrives but what is decoded item by item, the seconds and the option
    that Go has under another name. -/
theorem arrives_sent_iff {headers : List (Bytes × Bytes)} {cookies : List Wire.Cookie}
    {timeout : Int} :
    Arrives env r (r.sent headers cookies timeout) ↔
      r.headers.entries.Forall₂ (fun e h => h.1 = utf8 e.1 ∧ e.2.HasText h.2) headers ∧
        (r.cookies.getD []).Forall₂ (CookieArrives env) cookies ∧ r.timeout.AtMost timeout ∧
          r.orderHeadersAsProvided ≠ some true := by
  have horder : false = r.orderHeadersAsProvided.getD false ↔
      r.orderHeadersAsProvided ≠ some true := by
    rcases r.orderHeadersAsProvided with - | - | - <;> simp
  constructor
  · exact fun h => ⟨h.headers, h.cookies, h.timeout, horder.1 h.orderHeadersAsProvided⟩
  · rintro ⟨hheaders, hcookies, htimeout, hprovided⟩
    constructor <;> first | assumption | exact horder.2 hprovided | rfl

/-- The values of the options under the names that Go has for them. -/
theorem get_options (r : Request) (timeout : Int) (protocol cookies headerValues : Value) :
    let p := r.options timeout protocol cookies headerValues
    Value.get p "url" = .str r.url ∧ Value.get p "method" = .str r.method ∧
      Value.get p "headers" = r.headers ∧ Value.get p "headerValues" = headerValues ∧
      Value.get p "body" = r.body ∧ Value.get p "bodyBytes" = r.bodyBytes ∧
      Value.get p "ja3" = r.ja3 ∧ Value.get p "ja4r" = r.ja4r ∧
      Value.get p "http2Fingerprint" = r.http2Fingerprint ∧
      Value.get p "quicFingerprint" = r.quicFingerprint ∧
      Value.get p "disableGrease" = r.disableGrease ∧ Value.get p "userAgent" = r.userAgent ∧
      Value.get p "proxy" = r.proxy ∧ Value.get p "localAddress" = r.localAddress ∧
      Value.get p "serverName" = r.serverName ∧ Value.get p "cookies" = cookies ∧
      Value.get p "timeout" = .int timeout ∧ Value.get p "disableRedirect" = r.disableRedirect ∧
      Value.get p "headerOrder" = r.headerOrder ∧ Value.get p "orderAsProvided" = .none ∧
      Value.get p "insecureSkipVerify" = r.insecureSkipVerify ∧
      Value.get p "forceHTTP1" = r.forceHTTP1 ∧ Value.get p "forceHTTP3" = r.forceHTTP3 ∧
      Value.get p "protocol" = protocol ∧ Value.get p "tls13AutoRetry" = r.tls13AutoRetry ∧
      Value.get p "enableConnectionReuse" = r.enableConnectionReuse := by
  refine ⟨?_, ?_, ?_, ?_, ?_, ?_, ?_, ?_, ?_, ?_, ?_, ?_, ?_, ?_, ?_, ?_, ?_, ?_, ?_, ?_, ?_, ?_,
    ?_, ?_, ?_, ?_⟩ <;>
    simp [Value.get, Request.options, List.lookup_append, List.lookup_cons, lookup_entry_of_ne,
      getD_lookup_entry]

/-! ## Items -/

/-- A slice of texts. -/
theorem goSlice_texts (items : List String) :
    (items.map Value.str).mapM goString = some (items.map utf8) := by
  rw [List.mapM_map]
  exact List.mapM_pure

theorem goSlice_headerOrder (x : Option (List String)) :
    goSlice goString (.opt (fun items => .list (items.map .str)) x) =
      some ((x.getD []).map utf8) := by
  cases x with
  | none => rfl
  | some items => exact goSlice_texts items

theorem goSlice_valueList (v : HeaderValue) :
    goSlice goString (valueList v.toValue) = some (v.items.map utf8) := by
  cases v with
  | one s => rfl
  | list items => exact goSlice_texts items
  | tuple items => exact goSlice_texts items

/-- The header values that are sent. -/
theorem headerValueLists_toRequest (x : Option (Dict String HeaderValue)) : ∃ v,
    headerValueLists (.opt (fun d => .dict (d.entries.map fun e => (e.1, e.2.toValue))) x) =
      .ok v ∧
    goMap (goSlice goString) v =
      some (((x.map Dict.entries).getD []).map fun e => (utf8 e.1, e.2.items.map utf8)) := by
  cases x with
  | none => exact ⟨_, rfl, rfl⟩
  | some d =>
    refine ⟨_, rfl, ?_⟩
    simp only [goMap, List.mapM_map, Function.comp_def, goSlice_valueList, Option.map_some]
    exact List.mapM_pure

/-- The cookies that are sent. -/
theorem cookieDicts_toRequest (env : PyEnv) (x : Option (List TypedCookie)) : ∃ v,
    cookieDicts env (.opt (fun cs => .list (cs.map fun c => c.toCookie.toValue)) x) = .ok v ∧
      goSlice cookie v =
        (x.getD []).mapM fun c => (goInt (.opt .int c.maxAge)).map (c.sent env) := by
  cases x with
  | none => exact ⟨_, rfl, rfl⟩
  | some cookies =>
    choose d hd hcookie using cookie_cookieToDict env
    have hdicts : (cookies.map fun c => c.toCookie.toValue).mapM (cookieToDict env) =
        .ok (cookies.map fun c => d c.toCookie) := by
      rw [mapM_eq_ok_iff, List.map_map, List.map_map]
      exact List.map_congr_left fun c _ => hd c.toCookie
    refine ⟨_, bind_eq_ok_iff.2 ⟨_, rfl, bind_eq_ok_iff.2 ⟨_, hdicts, rfl⟩⟩, ?_⟩
    simp only [goSlice, List.mapM_map, Function.comp_def, hcookie, Option.getD_some]

theorem goString_str (s : String) : goString (.str s) = some (utf8 s) := rfl

theorem goBytes_opt (x : Option Bytes) : goBytes (.opt .bytes x) = some (x.getD []) := by
  cases x with
  | none => rfl
  | some b => rfl

/-- The name of a protocol that is sent. -/
theorem protocolName_toRequest (x : Option Protocol) : ∃ v,
    protocolName (.opt .protocol x) = .ok v ∧
      goString v = some (utf8 ((x.map Protocol.value).getD "")) := by
  cases x with
  | none => exact ⟨_, rfl, rfl⟩
  | some p => exact ⟨_, rfl, rfl⟩

/-- What Go reads of the dict of a request. -/
theorem options_toDict (env : PyEnv) (r : TypedRequest) {n : Int}
    (hn : timeoutInt r.timeout.toValue = .ok n) :
    ∃ p, r.toRequest.toDict env = .ok p ∧ options p = do
      let headers ← goMap goString (.dict r.headers.entries)
      let cookies ← (r.cookies.getD []).mapM fun c => (goInt (.opt .int c.maxAge)).map (c.sent env)
      let timeout ← goInt (.int n)
      return r.sent headers cookies timeout := by
  obtain ⟨protocol, hprotocol, hprotocol'⟩ := protocolName_toRequest r.protocol
  obtain ⟨cookies, hcookies, hcookies'⟩ := cookieDicts_toRequest env r.cookies
  obtain ⟨headerValues, hheaderValues, hheaderValues'⟩ := headerValueLists_toRequest r.headerValues
  refine ⟨r.toRequest.options n protocol cookies headerValues,
    bind_eq_ok_iff.2 ⟨n, hn, bind_eq_ok_iff.2 ⟨protocol, hprotocol, bind_eq_ok_iff.2
      ⟨cookies, hcookies, bind_eq_ok_iff.2 ⟨headerValues, hheaderValues, rfl⟩⟩⟩⟩, ?_⟩
  obtain ⟨h₁, h₂, h₃, h₄, h₅, h₆, h₇, h₈, h₉, h₁₀, h₁₁, h₁₂, h₁₃, h₁₄, h₁₅, h₁₆, h₁₇, h₁₈, h₁₉,
    h₂₀, h₂₁, h₂₂, h₂₃, h₂₄, h₂₅, h₂₆⟩ :=
    get_options r.toRequest n protocol cookies headerValues
  generalize r.toRequest.options n protocol cookies headerValues = p at *
  simp only [options, field_eq_get goString rfl, field_eq_get goBytes rfl, field_eq_get goBool rfl,
    field_eq_get goInt rfl, field_eq_get (goMap goString) rfl,
    field_eq_get (goMap (goSlice goString)) rfl, field_eq_get (goSlice cookie) rfl,
    field_eq_get (goSlice goString) rfl, h₁, h₂, h₃, h₄, h₅, h₆, h₇, h₈, h₉, h₁₀, h₁₁, h₁₂, h₁₃,
    h₁₄, h₁₅, h₁₆, h₁₇, h₁₈, h₁₉, h₂₀, h₂₁, h₂₂, h₂₃, h₂₄, h₂₅, h₂₆, hprotocol', hcookies',
    hheaderValues', TypedRequest.toRequest, goString_opt, goBytes_opt, goSlice_headerOrder,
    goString_str, goBool, Option.bind_eq_bind, Option.bind_some, Option.pure_def]
  rfl

/-! ## Arrival -/

/-- A text is read as it is. -/
theorem exists_goString_iff {v : Value} : (∃ b, goString v = some b ∧ v.HasText b) ↔ v.IsText := by
  constructor
  · rintro ⟨b, -, h⟩
    cases v <;> first | exact trivial | exact h.elim
  · intro h
    cases v with
    | str s => exact ⟨_, rfl, rfl⟩
    | bytes b => exact ⟨_, rfl, rfl⟩
    | _ => exact h.elim

theorem hasMode_iff (x : Option String) :
    HasMode x (x.elim 0 Cookie.mode) ↔ ∀ name, x = some name → Cookie.mode name ≠ 0 := by
  cases x with
  | none => exact iff_of_true rfl fun _ h => nomatch h
  | some name =>
    simp only [Option.elim_some, HasMode, Option.some.injEq, forall_eq', Cookie.mode]
    split_ifs <;> simp_all

/-- The text that is sent for a date is the one in UTC. -/
theorem hasDate_iff {c : TypedCookie} :
    HasDate env c (c.expires.elim [] fun t => utf8 (env.strftime t)) ↔
      ∀ t, c.expires = some t →
        ∃ t', t.InUtc c.utcoffset t' ∧ env.strftime t' = env.strftime t := by
  rw [HasDate]
  cases c.expires with
  | none => exact iff_of_true rfl fun _ h => nomatch h
  | some t =>
    simp only [Option.elim_some, Option.some.injEq, forall_eq', utf8_injective.eq_iff, eq_comm]

/-- A cookie arrives when Go has its numbers and its date is in UTC. -/
theorem exists_sent_iff {c : TypedCookie} :
    (∃ w, (goInt (.opt .int c.maxAge)).map (c.sent env) = some w ∧ CookieArrives env c w) ↔
      c.Carried env := by
  have hmaxAge : goInt (.opt .int c.maxAge) = some (c.maxAge.getD 0) ↔ Fits (c.maxAge.getD 0) := by
    cases c.maxAge with
    | none => exact iff_of_true rfl (by unfold Fits; decide)
    | some n => exact goInt_eq_self_iff
  constructor
  · rintro ⟨w, hw, h⟩
    obtain ⟨m, hm, rfl⟩ := Option.map_eq_some_iff.1 hw
    exact ⟨hmaxAge.1 (hm.trans (congrArg some h.maxAge)), (hasMode_iff _).1 h.sameSite,
      hasDate_iff.1 h.expires⟩
  · rintro ⟨hfits, hmode, hdate⟩
    refine ⟨_, Option.map_eq_some_iff.2 ⟨_, hmaxAge.2 hfits, rfl⟩, ?_⟩
    exact ⟨rfl, rfl, rfl, rfl, hasDate_iff.2 hdate, rfl, rfl, rfl, (hasMode_iff _).2 hmode⟩

/-- A number of seconds that is not positive is sent as zero. -/
theorem exists_goInt_iff (b : Int) :
    (∃ t, goInt (.int (if 0 < b then max 1 b else 0)) = some t ∧ b ≤ t) ↔ b < 2 ^ 63 := by
  by_cases hb : 0 < b
  · rw [if_pos hb, max_eq_right (by omega)]
    constructor
    · rintro ⟨t, ht, hle⟩
      rw [goInt] at ht
      split_ifs at ht with h₁ h₂
      · exact h₁.2
      · have := Option.some.inj ht
        omega
    · exact fun h => ⟨b, goInt_of_fits ⟨by omega, h⟩, Int.le_refl b⟩
  · rw [if_neg hb]
    exact iff_of_true ⟨0, rfl, by omega⟩ (by omega)

/-- Go has a number that is not less than the seconds asked for. -/
theorem exists_timeoutInt_iff {s : Seconds} :
    (∃ n, timeoutInt s.toValue = .ok n ∧ ∃ t, goInt (.int n) = some t ∧ s.AtMost t) ↔
      s.Carried := by
  cases s with
  | int b =>
    simp only [Seconds.toValue, timeoutInt, Except.ok.injEq, exists_eq_left']
    exact exists_goInt_iff b
  | float x =>
    cases x with
    | finite x =>
      have hpos : 0 < x ↔ 0 < ⌈x⌉ := Int.ceil_pos.symm
      simp only [Seconds.toValue, timeoutInt, Except.ok.injEq, exists_eq_left', hpos,
        Seconds.AtMost, ← Int.ceil_le]
      exact exists_goInt_iff ⌈x⌉
    | negInf => exact iff_of_true ⟨0, rfl, 0, rfl, trivial⟩ trivial
    | inf => exact iff_of_false (fun ⟨_, h, _⟩ => nomatch h) id
    | nan => exact iff_of_false (fun ⟨_, _, _, _, h⟩ => h) id

/-- The options that are set arrive when Go has a value for each, and a name: only
    `orderHeadersAsProvided` has none. -/
theorem arrives_iff (env : PyEnv) (r : TypedRequest) :
    (∃ p o, r.toRequest.toDict env = .ok p ∧ options p = some o ∧ Arrives env r o) ↔
      Carried env r := by
  have hheaders := exists_mapM_forall₂_iff (l := r.headers.entries)
    (f := fun e : String × Value => (goString e.2).map fun a => (utf8 e.1, a))
    (P := fun e h => h.1 = utf8 e.1 ∧ e.2.HasText h.2)
  have hcookies := exists_mapM_forall₂_iff (l := r.cookies.getD [])
    (f := fun c : TypedCookie => (goInt (.opt .int c.maxAge)).map (c.sent env))
    (P := CookieArrives env)
  constructor
  · rintro ⟨p, o, hp, ho, harrives⟩
    obtain ⟨n, hn, -⟩ := bind_eq_ok_iff.1 hp
    obtain ⟨p', hp', hoptions⟩ := options_toDict env r hn
    cases Except.ok.inj (hp.symm.trans hp')
    rw [hoptions] at ho
    obtain ⟨headers, hhs, ho⟩ := Option.bind_eq_some_iff.1 ho
    obtain ⟨cookies, hcs, ho⟩ := Option.bind_eq_some_iff.1 ho
    obtain ⟨timeout, ht, ho⟩ := Option.bind_eq_some_iff.1 ho
    cases ho
    obtain ⟨h₁, h₂, h₃, h₄⟩ := arrives_sent_iff.1 harrives
    refine ⟨fun e he => ?_, fun c hc => ?_, exists_timeoutInt_iff.1 ⟨n, hn, timeout, ht, h₃⟩, h₄⟩
    · obtain ⟨h, hmap, -, htext⟩ := hheaders.1 ⟨headers, hhs, h₁⟩ e he
      obtain ⟨b, hb, rfl⟩ := Option.map_eq_some_iff.1 hmap
      exact exists_goString_iff.1 ⟨b, hb, htext⟩
    · exact exists_sent_iff.1 (hcookies.1 ⟨cookies, hcs, h₂⟩ c hc)
  · rintro ⟨htexts, hcarried, hseconds, horder⟩
    obtain ⟨n, hn, timeout, ht, hle⟩ := exists_timeoutInt_iff.2 hseconds
    obtain ⟨p, hp, hoptions⟩ := options_toDict env r hn
    obtain ⟨headers, hhs, h₁⟩ := hheaders.2 fun e he => by
      obtain ⟨b, hb, htext⟩ := exists_goString_iff.2 (htexts e he)
      exact ⟨_, Option.map_eq_some_iff.2 ⟨b, hb, rfl⟩, rfl, htext⟩
    obtain ⟨cookies, hcs, h₂⟩ := hcookies.2 fun c hc => exists_sent_iff.2 (hcarried c hc)
    refine ⟨p, r.sent headers cookies timeout, hp, ?_, arrives_sent_iff.2 ⟨h₁, h₂, hle, horder⟩⟩
    rw [hoptions, goMap, hhs, hcs, ht]
    rfl

/-- `Request(.., order_headers_as_provided=True)`. -/
def TypedRequest.provided : TypedRequest where
  url := "https://example.com"
  method := "get"
  orderHeadersAsProvided := some true

/-- The order of the headers. -/
theorem not_forall_arrives : ¬∀ (env : PyEnv) (r : TypedRequest),
    (∀ e ∈ r.headers.entries, e.2.IsText) → (∀ c ∈ r.cookies.getD [], c.Carried env) →
      r.timeout.Carried →
        ∃ p o, r.toRequest.toDict env = .ok p ∧ options p = some o ∧ Arrives env r o := by
  intro h
  obtain ⟨p, o, hp, ho, harrives⟩ := h .plain .provided (fun e he => absurd he List.not_mem_nil)
    (fun c hc => absurd hc List.not_mem_nil) (show (6 : Int) < 2 ^ 63 by decide)
  obtain ⟨p', hp', hoptions⟩ := options_toDict .plain .provided rfl
  cases Except.ok.inj (hp.symm.trans hp')
  have hsent : options p = some (TypedRequest.provided.sent [] [] 6) := hoptions
  cases Option.some.inj (ho.symm.trans hsent)
  exact (arrives_sent_iff.1 harrives).2.2.2 rfl

end CycleTLS
