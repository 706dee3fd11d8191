import CycleTLS.Request

/-!
# Options on the wire (`Options` and `Cookie` in `index.go`)

The dict of options is packed by `ormsgpack.packb`, and `msgpack.Unmarshal` fills the
fields of `Options` from it by their `msgpack` names: a key that is missing leaves its
field at zero, as `nil` does, and a key that is no field's name is skipped. What both of
them make of a value depends on the type of the field; the texts of Go hold any bytes.
-/

namespace CycleTLS

open Utf8

namespace Wire

/-- A `string`. -/
def goString : Value → Option Bytes
  | .none => some []
  | .str s => some (utf8 s)
  | .bytes b => some b
  | _ => none

/-- A `[]byte`; `nil` is empty. -/
def goBytes : Value → Option Bytes := goString

/-- A `bool`. -/
def goBool : Value → Option Bool
  | .none => some false
  | .bool b => some b
  | _ => none

/-- An `int`. What does not fit into 64 bits is not packed, and what only fits without a
    sign comes out negative. -/
def goInt : Value → Option Int
  | .none => some 0
  | .int n =>
    if -2 ^ 63 ≤ n ∧ n < 2 ^ 63 then some n
    else if 2 ^ 63 ≤ n ∧ n < 2 ^ 64 then some (n - 2 ^ 64)
    else none
  | _ => none

/-- A slice. -/
def goSlice {α : Type} (item : Value → Option α) : Value → Option (List α)
  | .none => some []
  | .list items | .tuple items => items.mapM item
  | _ => none

/-- A map from `string`. -/
def goMap {α : Type} (item : Value → Option α) : Value → Option (List (Bytes × α))
  | .none => some []
  | .dict items => items.mapM fun e => (item e.2).map fun a => (utf8 e.1, a)
  | _ => none

/-- The field with this name. -/
def field {α : Type} (p : List (String × Value)) (name : String) (zero : α)
    (item : Value → Option α) : Option α :=
  match p.lookup name with
  | none => some zero
  | some v => item v

/-- A `Cookie`, but for the fields that no key of `_cookie_to_dict` names. -/
structure Cookie where
  name : Bytes
  value : Bytes
  path : Bytes
  domain : Bytes
  rawExpires : Bytes
  maxAge : Int
  secure : Bool
  httpOnly : Bool
  sameSite : Int
  deriving DecidableEq

/-- A dict, as a `Cookie`. -/
def cookie : Value → Option Cookie
  | .none => some ⟨[], [], [], [], [], 0, false, false, 0⟩
  | .dict p => do
    let name ← field p "name" [] goString
    let value ← field p "value" [] goString
    let path ← field p "path" [] goString
    let domain ← field p "domain" [] goString
    let rawExpires ← field p "rawExpires" [] goString
    let maxAge ← field p "maxAge" 0 goInt
    let secure ← field p "secure" false goBool
    let httpOnly ← field p "httpOnly" false goBool
    let sameSite ← field p "sameSite" 0 goInt
    return ⟨name, value, path, domain, rawExpires, maxAge, secure, httpOnly, sameSite⟩
  | _ => none

/-- `Options`. -/
structure Options where
  url : Bytes
  method : Bytes
  headers : List (Bytes × Bytes)
  headerValues : List (Bytes × List Bytes)
  body : Bytes
  bodyBytes : Bytes
  ja3 : Bytes
  ja4r : Bytes
  http2Fingerprint : Bytes
  quicFingerprint : Bytes
  disableGrease : Bool
  userAgent : Bytes
  proxy : Bytes
  localAddress : Bytes
  serverName : Bytes
  cookies : List Cookie
  timeout : Int
  disableRedirect : Bool
  headerOrder : List Bytes
  orderAsProvided : Bool
  insecureSkipVerify : Bool
  forceHTTP1 : Bool
  forceHTTP3 : Bool
  protocol : Bytes
  tls13AutoRetry : Bool
  enableConnectionReuse : Bool

/-- The dict of the options, as `Options`. -/
def options (p : OptionsDict) : Option Options := do
  let url ← field p "url" [] goString
  let method ← field p "method" [] goString
  let headers ← field p "headers" [] (goMap goString)
  let headerValues ← field p "headerValues" [] (goMap (goSlice goString))
  let body ← field p "body" [] goString
  let bodyBytes ← field p "bodyBytes" [] goBytes
  let ja3 ← field p "ja3" [] goString
  let ja4r ← field p "ja4r" [] goString
  let http2Fingerprint ← field p "http2Fingerprint" [] goString
  let quicFingerprint ← field p "quicFingerprint" [] goString
  let disableGrease ← field p "disableGrease" false goBool
  let userAgent ← field p "userAgent" [] goString
  let proxy ← field p "proxy" [] goString
  let localAddress ← field p "localAddress" [] goString
  let serverName ← field p "serverName" [] goString
  let cookies ← field p "cookies" [] (goSlice cookie)
  let timeout ← field p "timeout" 0 goInt
  let disableRedirect ← field p "disableRedirect" false goBool
  let headerOrder ← field p "headerOrder" [] (goSlice goString)
  let orderAsProvided ← field p "orderAsProvided" false goBool
  let insecureSkipVerify ← field p "insecureSkipVerify" false goBool
  let forceHTTP1 ← field p "forceHTTP1" false goBool
  let forceHTTP3 ← field p "forceHTTP3" false goBool
  let protocol ← field p "protocol" [] goString
  let tls13AutoRetry ← field p "tls13AutoRetry" false goBool
  let enableConnectionReuse ← field p "enableConnectionReuse" false goBool
  return {
    url := url
    method := method
    headers := headers
    headerValues := headerValues
    body := body
    bodyBytes := bodyBytes
    ja3 := ja3
    ja4r := ja4r
    http2Fingerprint := http2Fingerprint
    quicFingerprint := quicFingerprint
    disableGrease := disableGrease
    userAgent := userAgent
    proxy := proxy
    localAddress := localAddress
    serverName := serverName
    cookies := cookies
    timeout := timeout
    disableRedirect := disableRedirect
    headerOrder := headerOrder
    orderAsProvided := orderAsProvided
    insecureSkipVerify := insecureSkipVerify
    forceHTTP1 := forceHTTP1
    forceHTTP3 := forceHTTP3
    protocol := protocol
    tls13AutoRetry := tls13AutoRetry
    enableConnectionReuse := enableConnectionReuse }

/-! ## Fields -/

/-- A number that Go reads as it is. -/
def Fits (n : Int) : Prop := -2 ^ 63 ≤ n ∧ n < 2 ^ 63

theorem goInt_of_fits {n : Int} (h : Fits n) : goInt (.int n) = some n := if_pos h

/-- A number that does not fit is not read as itself. -/
theorem goInt_eq_self_iff {n : Int} : goInt (.int n) = some n ↔ Fits n := by
  refine ⟨fun h => ?_, goInt_of_fits⟩
  by_contra hfits
  rw [Fits] at hfits
  rw [goInt, if_neg hfits] at h
  split_ifs at h
  have hn := Option.some.inj h
  omega

/-- A key that is missing is decoded like `None`. -/
theorem field_eq_get {α : Type} {zero : α} (item : Value → Option α)
    (hzero : item .none = some zero) (p : List (String × Value)) (name : String) :
    field p name zero item = item (Value.get p name) := by
  rw [field, Value.get]
  cases p.lookup name with
  | none => exact hzero.symm
  | some v => rfl

end Wire

end CycleTLS
