import CycleTLS.Errors
import CycleTLS.Lib.Decimal

/-!
# Responses and their payloads (`ffi.go`)

What `Do` returns, and the payload the FFI layer makes of it: a map whose
texts are Go strings, i.e., any bytes, except that a body which is not UTF-8
is left out (`buildResponsePayload`). A failed exchange is a response too
(`Do.failed`): the status `parseError` found, and the error text as its body.
-/

namespace CycleTLS

open Text Utf8 Decimal

/-! ## Times -/

/-- The days of a month (Gregorian calendar). -/
def daysIn (month : Nat) (year : Int) : Nat :=
  if month = 2 then
    if year % 4 = 0 ∧ (year % 100 ≠ 0 ∨ year % 400 = 0) then 29 else 28
  else if month ∈ [4, 6, 9, 11] then 30 else 31

/-- A `time.Time`, in UTC. -/
structure Time where
  year : Int
  month : Nat
  day : Nat
  hour : Nat
  minute : Nat
  second : Nat
  nanosecond : Nat
  month_pos : 0 < month
  month_le : month ≤ 12
  day_pos : 0 < day
  day_le : day ≤ daysIn month year
  hour_lt : hour < 24
  minute_lt : minute < 60
  second_lt : second < 60
  nanosecond_lt : nanosecond < 10 ^ 9
  deriving DecidableEq

namespace Time

/-- The zero time. -/
def zero : Time where
  year := 1
  month := 1
  day := 1
  hour := 0
  minute := 0
  second := 0
  nanosecond := 0
  month_pos := by decide
  month_le := by decide
  day_pos := by decide
  day_le := by decide
  hour_lt := by decide
  minute_lt := by decide
  second_lt := by decide
  nanosecond_lt := by decide

/-- `IsZero`. -/
def isZero (t : Time) : Bool := decide (t = zero)

/-- A year, as `Format` writes it. -/
def formatYear (year : Int) : List Char :=
  if year < 0 then '-' :: padded 4 year.natAbs else padded 4 year.natAbs

/-- The digits of the fraction of a second, without the zeros that end them. -/
def fraction (nanosecond : Nat) : List Char :=
  ((numeral 9 nanosecond).reverse.dropWhile (· = '0')).reverse

/-- The fraction with its point, if there is one. -/
def formatFraction (nanosecond : Nat) : List Char :=
  if fraction nanosecond = [] then [] else '.' :: fraction nanosecond

/-- `Format(time.RFC3339Nano)`, up to the zone. -/
def formatUTC (t : Time) : List Char :=
  formatYear t.year ++ '-' :: (numeral 2 t.month ++ '-' :: (numeral 2 t.day ++ 'T' ::
    (numeral 2 t.hour ++ ':' :: (numeral 2 t.minute ++ ':' :: (numeral 2 t.second ++
      formatFraction t.nanosecond)))))

/-- `Format(time.RFC3339Nano)`. -/
def format (t : Time) : String := String.ofList (t.formatUTC ++ ['Z'])

end Time

/-! ## Cookies -/

/-- A `nhttp.Cookie`. Go's parser only lets ASCII through, so its texts are
    strings here. -/
structure NetCookie where
  name : String
  value : String
  path : String
  domain : String
  expires : Time
  maxAge : Int
  secure : Bool
  httpOnly : Bool
  /-- `0` for none, then `SameSiteDefaultMode` and so on. -/
  sameSite : Int
  deriving DecidableEq

/-- A cookie in the payload; the keys that may be missing are optional. -/
structure CookieDict where
  name : String
  value : String
  path : Option String
  domain : Option String
  expires : Option String
  maxAge : Option Int
  secure : Option Bool
  httpOnly : Option Bool
  sameSite : Option String
  deriving DecidableEq

/-- The name `convertCookies` gives a `SameSite` mode. -/
def sameSiteName (mode : Int) : Option String :=
  if mode = 1 then some "Default"
  else if mode = 2 then some "Lax"
  else if mode = 3 then some "Strict"
  else if mode = 4 then some "None"
  else none

/-- `convertCookies`, on one cookie. -/
def convertCookie (c : NetCookie) : CookieDict where
  name := c.name
  value := c.value
  path := if c.path ≠ "" then some c.path else none
  domain := if c.domain ≠ "" then some c.domain else none
  expires := if c.expires.isZero then none else some c.expires.format
  maxAge := if c.maxAge ≠ 0 then some c.maxAge else none
  secure := if c.secure then some true else none
  httpOnly := if c.httpOnly then some true else none
  sameSite := sameSiteName c.sameSite

/-- `convertCookies`. -/
def convertCookies (cookies : List NetCookie) : List CookieDict := cookies.map convertCookie

/-! ## Responses -/

/-- A `Response` of the Go side. -/
structure GoResponse where
  status : Int
  body : Bytes
  bodyBytes : Bytes
  headers : List (Bytes × Bytes)
  cookies : List NetCookie
  finalUrl : Bytes
  proto : String
  deriving DecidableEq

/-- What `Do` returns for a response that was received and read to its end. -/
def Do.received (status : Int) (bodyBytes : Bytes) (headers : List (Bytes × Bytes))
    (cookies : List NetCookie) (finalUrl : Bytes) (proto : String) : GoResponse where
  status := status
  body := bodyBytes
  bodyBytes := bodyBytes
  headers := headers
  cookies := cookies
  finalUrl := finalUrl
  proto := proto

/-- What `Do` returns for an exchange that failed with `err`. -/
def Do.failed (err : GoError) : GoResponse where
  status := (parseError err).statusCode.toNat
  body := (parseError err).errorMsg ++ utf8 " -> " ++ err.text
  bodyBytes := []
  headers := []
  cookies := []
  finalUrl := []
  proto := ""

/-- The payload handed to Python, before it is packed; a missing key is `none`. -/
structure Payload where
  requestID : String
  status : Int
  body : Bytes
  headers : List (Bytes × Bytes)
  finalUrl : Bytes
  proto : Option String
  bodyBytes : Option Bytes
  cookies : List CookieDict
  deriving DecidableEq

/-- `buildResponsePayload`. -/
def buildResponsePayload (requestID : String) (resp : GoResponse) : Payload where
  requestID := requestID
  status := resp.status
  body := if (decode resp.body).isSome then resp.body else []
  headers := resp.headers
  finalUrl := resp.finalUrl
  proto := some resp.proto
  bodyBytes := if resp.bodyBytes.length > 0 then some resp.bodyBytes else none
  cookies := convertCookies resp.cookies

/-- `buildErrorPayload`. -/
def buildErrorPayload (requestID : String) (message : Bytes) : Payload where
  requestID := requestID
  status := 0
  body := message
  headers := []
  finalUrl := []
  proto := none
  bodyBytes := none
  cookies := []

end CycleTLS
