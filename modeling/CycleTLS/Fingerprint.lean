import CycleTLS.Python

/-!
# Fingerprint profiles (`fingerprints.py`)

A profile gives the options of a request that the caller has not given
(`applyToKwargs`). Its headers are merged with the caller's into a new dict, while
the `sec-ch-ua` headers, which are computed from its user agent
(`dynamicSecChUa`), are added to the dict that is there.
-/

namespace CycleTLS

open Text

variable (env : PyEnv)

/-- The digits after the first of the words that has digits after it. -/
def searchVersion (words : List String) : List Char → Option String
  | [] => none
  | c :: text =>
    let found := words.findSome? fun word =>
      let digits := ((c :: text).drop word.toList.length).takeWhile env.isDigit
      if word.toList <+: c :: text ∧ digits ≠ [] then some (String.ofList digits) else none
    found.or (searchVersion words text)

namespace TLSFingerprint

/-- The platform of a user agent, empty if it is not known. -/
def platform (ua : List Char) : String :=
  if matchesAny ua ["Linux"] then "Linux"
  else if matchesAny ua ["Macintosh", "Mac OS X"] then "macOS"
  else if matchesAny ua ["Windows"] then "Windows"
  else if matchesAny ua ["Android"] then "Android"
  else ""

/-- The brand of a browser. -/
def brand (name ua : List Char) : Option String :=
  if "brave".toList <+: name then some "Brave"
  else if "opera".toList <+: name ∨ matchesAny (lower ua) ["opr/"] then some "Opera"
  else if "edge".toList <+: name ∨ "msedge".toList <+: name then some "Microsoft Edge"
  else if "chrome".toList <+: name then some "Google Chrome"
  else if "chromium".toList <+: name then none
  else if matchesAny ua ["Chrome/"] ∧ !matchesAny ua ["Chromium/"] then some "Google Chrome"
  else none

/-- The text of `sec-ch-ua`. -/
def secChUa (major : String) : Option (String × String) → String
  | some (brand, version) =>
    "\"Chromium\";v=\"" ++ major ++ "\", \"" ++ brand ++ "\";v=\"" ++ version ++
      "\", \"Not/A)Brand\";v=\"99\""
  | none => "\"Chromium\";v=\"" ++ major ++ "\", \"Not/A)Brand\";v=\"99\""

/-- `_dynamic_sec_ch_ua`; no headers if it returns `None`. -/
def dynamicSecChUa (profile : TLSFingerprint) : List (String × String) :=
  let ua := (profile.userAgent.getD "").toList
  let order := profile.headerOrder.getD []
  if ua.isEmpty || order.isEmpty then []
  else
    match searchVersion env ["Chrome/", "Chromium/", "HeadlessChrome/"] ua with
    | none => []
    | some major =>
      let platform := platform ua
      let mobile := if matchesAny ua ["Android", "Mobile"] then "?1" else "?0"
      let branded := (brand (lower profile.name.toList) ua).map fun brand =>
        -- Opera has a version of its own, the others that of Chromium.
        if brand = "Opera" then
          (brand, (searchVersion env ["opr/"] (ua.map Char.toLower)).getD major)
        else (brand, major)
      (if "sec-ch-ua" ∈ order then [("sec-ch-ua", secChUa major branded)] else []) ++
        (if "sec-ch-ua-mobile" ∈ order then [("sec-ch-ua-mobile", mobile)] else []) ++
        if "sec-ch-ua-platform" ∈ order then
          [("sec-ch-ua-platform", if platform ≠ "" then "\"" ++ platform ++ "\"" else "")]
        else []

/-- Gives an option the value of a profile, if the profile has one. -/
def fill (k : Keyword) (v : Option Value) (kwargs : Kwargs HeaderDict) : Kwargs HeaderDict :=
  match v with
  | some v => kwargs.setDefault k v
  | none => kwargs

/-- Merges the headers of a profile with those of the request. -/
def mergeHeaders (profile : TLSFingerprint) (kwargs : Kwargs HeaderDict) :
    PyM (Kwargs HeaderDict) :=
  match profile.headers with
  | none => return kwargs
  | some headers => do
    let (requestHeaders, _) ← kwargs.headersOr
    let d ← requestHeaders.read
    let profileHeaders := (Dict.empty : Headers).setAll Prod.fst (.str ·.2) headers
    return kwargs.setHeaders (.own (profileHeaders.setAll Prod.fst Prod.snd d.entries))

/-- Adds headers that are not there. -/
def addHeaders (headers : List (String × String)) (d : Headers) : Headers :=
  headers.foldl (fun d e => d.setDefault e.1 (.str e.2)) d

/-- Adds the `sec-ch-ua` headers to those of the request. -/
def injectHeaders (profile : TLSFingerprint) (kwargs : Kwargs HeaderDict) :
    PyM (Kwargs HeaderDict) :=
  if (profile.dynamicSecChUa env).isEmpty then return kwargs
  else do
    let (requestHeaders, _) ← kwargs.headersOr
    let requestHeaders ← requestHeaders.update (addHeaders (profile.dynamicSecChUa env))
    return kwargs.setHeaders requestHeaders

/-- `apply_to_kwargs`. -/
def applyToKwargs (profile : TLSFingerprint) (kwargs : Kwargs HeaderDict) :
    PyM (Kwargs HeaderDict) := do
  let kwargs := kwargs.setDefault .ja3 (.str profile.ja3)
  let kwargs := fill .ja4r (profile.ja4r.map .str) kwargs
  let kwargs := fill .http2Fingerprint (profile.http2Fingerprint.map .str) kwargs
  let kwargs := fill .quicFingerprint (profile.quicFingerprint.map .str) kwargs
  let kwargs := fill .userAgent (profile.userAgent.map .str) kwargs
  let kwargs := fill .headerOrder (profile.headerOrder.map fun o => .list (o.map .str)) kwargs
  let kwargs ← profile.mergeHeaders kwargs
  let kwargs ← profile.injectHeaders env kwargs
  let kwargs :=
    fill .disableGrease (if profile.disableGrease then some (.bool true) else none) kwargs
  let kwargs := fill .forceHTTP1 (if profile.forceHTTP1 then some (.bool true) else none) kwargs
  return fill .forceHTTP3 (if profile.forceHTTP3 then some (.bool true) else none) kwargs

end TLSFingerprint

end CycleTLS
