import CycleTLS.Builders

/-!
# The order of headers (`index.go`, `roundtripper.go`, `utils.go`)

A transport writes the headers in the order that is under `Header-Order:`. `processRequest` puts
the order of the options there for requests over HTTP/1 and HTTP/2 (`get?_processHeader`); `Do` and
the other protocols put none, and what a `RoundTrip` does with an order is to copy a map
(`get?_marshal`). So both requests carry the order only where the caller gives it as a header of
that name (`ordersAlike_iff`).
-/

namespace CycleTLS

/-! ## Headers -/

/-- `CanonicalMIMEHeaderKey`. -/
def canonicalMIMEHeaderKey (key : String) : String :=
  if key.toList.all isTokenChar then String.ofList (go true key.toList) else key
where
  go (upper : Bool) : List Char → List Char
    | [] => []
    | c :: s => (if upper then c.toUpper else c.toLower) :: go (c = '-') s

namespace GoHeader

variable (h : GoHeader)

/-- `Get`. -/
def getFirst (key : String) : String :=
  ((h.get? (canonicalMIMEHeaderKey key)).bind List.head?).getD ""

/-- `Set`. -/
def setOnly (key value : String) : GoHeader := h.set (canonicalMIMEHeaderKey key) [value]

/-- `Add`. -/
def add (key value : String) : GoHeader :=
  h.set (canonicalMIMEHeaderKey key) ((h.get? (canonicalMIMEHeaderKey key)).getD [] ++ [value])

/-- `AddCookie`, for the text of a cookie. -/
def addCookie (text : String) : GoHeader :=
  if getFirst h "Cookie" ≠ "" then setOnly h "Cookie" (getFirst h "Cookie" ++ "; " ++ text)
  else setOnly h "Cookie" text

/-- `MarshalHeader`, and `ConvertHttpHeader` after it. -/
def marshal (order : List String) : GoHeader :=
  let result := order.foldl (fun result key =>
    match h.get? key with
    | some values => result.set key values
    | none => result) Dict.empty
  h.entries.foldl (fun result e => result.setDefault e.1 e.2) result

end GoHeader

/-! ## Round trips -/

/-- What a round trip depends on outside its own code. -/
structure HeaderEnv where
  /-- The text of a cookie. -/
  cookieText : GoCookie → String
  /-- The `PseudoHeaderOrder` of an HTTP/2 fingerprint that parses. -/
  pseudoHeaderOrder : String → Option (List String)

namespace RoundTripper

variable (headerEnv : HeaderEnv) (rt : RoundTripper)

/-- The header with the cookies and the user agent, in the order of headers. -/
def applyHeader (h : GoHeader) : GoHeader :=
  let h := rt.cookies.foldl (fun h cookie => GoHeader.addCookie h (headerEnv.cookieText cookie)) h
  let h := GoHeader.setOnly h "User-Agent" rt.userAgent
  if rt.headerOrder.length > 0 then GoHeader.marshal h rt.headerOrder else h

/-- The header that `RoundTrip` hands to a transport, of HTTP/2 or not, unless the HTTP/2
    fingerprint does not parse. -/
def handedHeader (h2 : Bool) (h : GoHeader) : Option GoHeader :=
  let h := rt.applyHeader headerEnv h
  let ordered :=
    if rt.http2Fingerprint ≠ "" then
      (headerEnv.pseudoHeaderOrder rt.http2Fingerprint).map fun order =>
        if order.length > 0 then h.set pHeaderOrderKey order else h
    else some h
  ordered.map fun h => if !rt.forceHTTP3 && !h2 then h.erase pHeaderOrderKey else h

end RoundTripper

variable (env : BuilderEnv) (headerEnv : HeaderEnv)

namespace RequestOptions

variable (o : RequestOptions)

/-- The header of the request for events, with what `NewSSEClient` adds. -/
def sseHeader : GoHeader :=
  let h := o.streamHeader env
  let h := if GoHeader.getFirst h "Accept" = "" then
    GoHeader.setOnly h "Accept" "text/event-stream" else h
  h.entries.foldl (fun req e => e.2.foldl (fun req value => GoHeader.add req e.1 value) req) .empty

/-- The header that `processRequest` has for the host of the URL, of a request or of a client. -/
def dispatchedHeader (host : String) : GoHeader :=
  if o.protocol = "websocket" then o.streamHeader env
  else if o.protocol = "sse" then o.sseHeader env
  else if o.protocol = "http3" ∨ o.forceHTTP3 then o.http3Header env host
  else o.processHeader env host

/-- The order of the options, in lower case, of the headers that are present. -/
def presentOrder : List String :=
  (o.headerOrder.map env.toLower).filter fun key =>
    o.requestHeaders.entries.any fun e => env.toLower e.1 = key

/-- What is under the key of the order is the order of the options. -/
def Ordered (h : GoHeader) : Prop := h.get? headerOrderKey = some (o.presentOrder env)

instance (h : GoHeader) : Decidable (o.Ordered env h) := inferInstanceAs (Decidable (_ = _))

/-- The requests of `Do` and of `processRequest` get to the wire with the order of the options, and
    the order of a round tripper leaves what is there. A WebSocket has no round tripper. -/
def OrdersAlike (host : String) : Prop :=
  ∀ rt : RoundTripper, rt.http2Fingerprint = o.http2Fingerprint →
    (∀ h2, ∀ h ∈ rt.handedHeader headerEnv h2 (o.doHeader env), o.Ordered env h) ∧
      (if o.protocol = "websocket" then o.Ordered env (o.dispatchedHeader env host)
        else ∀ h2, ∀ h ∈ rt.handedHeader headerEnv h2 (o.dispatchedHeader env host),
          o.Ordered env h) ∧
      ∀ h, (GoHeader.marshal h rt.headerOrder).get? headerOrderKey = h.get? headerOrderKey

/-- The HTTP/2 fingerprint does not parse. -/
def FingerprintFails : Prop :=
  o.http2Fingerprint ≠ "" ∧ headerEnv.pseudoHeaderOrder o.http2Fingerprint = none

end RequestOptions

variable {env headerEnv}

/-! ## Names -/

theorem toUpper_eq_colon_iff {c : Char} : c.toUpper = ':' ↔ c = ':' := by
  rw [Char.ext_iff, Char.ext_iff, ← UInt32.toNat_inj, ← UInt32.toNat_inj]
  delta Char.toUpper
  split_ifs with h
  · -- of a letter comes another letter
    have hlow : 97 ≤ c.val.toNat := UInt32.le_iff_toNat_le.1 h.1
    have hhigh : c.val.toNat ≤ 122 := UInt32.le_iff_toNat_le.1 h.2
    have hadd : (c.val + ('A'.val - 'a'.val)).toNat = (c.val.toNat + 4294967264) % 4294967296 :=
      UInt32.toNat_add ..
    have hcolon : ':'.val.toNat = 58 := rfl
    dsimp only
    omega
  · rfl

theorem toLower_eq_colon_iff {c : Char} : c.toLower = ':' ↔ c = ':' := by
  rw [Char.ext_iff, Char.ext_iff, ← UInt32.toNat_inj, ← UInt32.toNat_inj]
  delta Char.toLower
  split_ifs with h
  · have hlow : 65 ≤ c.val.toNat := UInt32.le_iff_toNat_le.1 h.1
    have hhigh : c.val.toNat ≤ 90 := UInt32.le_iff_toNat_le.1 h.2
    have hadd : (c.val + ('a'.val - 'A'.val)).toNat = (c.val.toNat + 32) % 4294967296 :=
      UInt32.toNat_add ..
    have hcolon : ':'.val.toNat = 58 := rfl
    dsimp only
    omega
  · rfl

theorem colon_not_mem_go {upper : Bool} {s : List Char} (hs : s.all isTokenChar = true) :
    ':' ∉ canonicalMIMEHeaderKey.go upper s := by
  induction s generalizing upper with
  | nil => exact List.not_mem_nil
  | cons c s ih =>
    rw [List.all_cons, Bool.and_eq_true] at hs
    have hcolon : c ≠ ':' := by
      rintro rfl
      exact absurd hs.1 (by decide)
    rw [canonicalMIMEHeaderKey.go, List.mem_cons, not_or]
    refine ⟨fun h => hcolon ?_, ih hs.2⟩
    cases upper with
    | true => exact toUpper_eq_colon_iff.1 h.symm
    | false => exact toLower_eq_colon_iff.1 h.symm

/-- No other name has the canonical form of the name of an order. -/
theorem canonicalMIMEHeaderKey_eq_iff {key : String} :
    canonicalMIMEHeaderKey key = headerOrderKey ↔ key = headerOrderKey := by
  constructor
  · intro h
    rw [canonicalMIMEHeaderKey] at h
    split_ifs at h with htoken
    · have hcolon : ':' ∈ headerOrderKey.toList := by decide
      rw [← h, String.toList_ofList] at hcolon
      exact absurd hcolon (colon_not_mem_go htoken)
    · exact h
  · rintro rfl
    decide

/-! ## What is under the key of the order -/

namespace GoHeader

variable {h : GoHeader} {key : String}

theorem get?_set_of_ne {k : String} {values : List String} (hkey : key ≠ k) :
    (h.set key values).get? k = h.get? k := by
  rw [Dict.get?_set, Function.update_of_ne hkey.symm]

theorem get?_setOnly_of_ne {value : String} (hkey : key ≠ headerOrderKey) :
    (setOnly h key value).get? headerOrderKey = h.get? headerOrderKey :=
  get?_set_of_ne (mt canonicalMIMEHeaderKey_eq_iff.1 hkey)

/-- A cookie is added to the header of cookies. -/
theorem get?_addCookie_of_ne {k : String} (hk : k ≠ "Cookie") (text : String) :
    (addCookie h text).get? k = h.get? k := by
  have hcookie : canonicalMIMEHeaderKey "Cookie" ≠ k := hk.symm
  rw [addCookie]
  split_ifs <;> exact get?_set_of_ne hcookie

/-- It depends on the cookies that are there. -/
theorem get?_addCookie_congr {h' : GoHeader} (hget : h.get? "Cookie" = h'.get? "Cookie")
    (text : String) : (addCookie h text).get? "Cookie" = (addCookie h' text).get? "Cookie" := by
  have hcookie : canonicalMIMEHeaderKey "Cookie" = "Cookie" := rfl
  have hset (h : GoHeader) (value : String) :
      (setOnly h "Cookie" value).get? "Cookie" = some [value] := by
    rw [setOnly, hcookie, Dict.get?_set, Function.update_self]
  have hfirst : getFirst h "Cookie" = getFirst h' "Cookie" := by
    rw [getFirst, getFirst, hcookie, hget]
  rw [addCookie, addCookie, hfirst]
  split_ifs
  · rw [hset, hset]
  · rw [hset, hset]

/-- What `MarshalHeader` returns is the same map. -/
theorem get?_marshal (order : List String) : (marshal h order).get? = h.get? := by
  have hordered : ∀ (order : List String) (result : GoHeader) (k : String),
      (order.foldl (fun result key =>
        match h.get? key with
        | some values => result.set key values
        | none => result) result).get? k =
          if k ∈ order ∧ (h.get? k).isSome then h.get? k else result.get? k := by
    intro order result k
    induction order generalizing result with
    | nil => rw [if_neg fun hmem => List.not_mem_nil hmem.1, List.foldl_nil]
    | cons key order ih =>
      rw [List.foldl_cons, ih]
      by_cases hmem : k ∈ order ∧ (h.get? k).isSome
      · rw [if_pos hmem, if_pos ⟨List.mem_cons_of_mem _ hmem.1, hmem.2⟩]
      · rw [if_neg hmem]
        by_cases hk : k = key
        · subst hk
          cases hget : h.get? k with
          | none => rw [if_neg fun hsome => Bool.false_ne_true hsome.2]
          | some values =>
            rw [if_pos ⟨List.mem_cons_self, rfl⟩, Dict.get?_set]
            simp only [Function.update_self]
        · have hcons : ¬(k ∈ key :: order ∧ (h.get? k).isSome) := fun hcons =>
            hmem ⟨(List.mem_cons.1 hcons.1).resolve_left hk, hcons.2⟩
          rw [if_neg hcons]
          cases h.get? key with
          | none => rfl
          | some values => exact congrFun (Dict.get?_set ..) k ▸ Function.update_of_ne hk _ _
  funext k
  refine (Dict.get?_foldl_setDefault ..).trans ?_
  rw [hordered]
  split_ifs with hmem
  · rw [Option.or_of_isSome hmem.2]
  · rw [Dict.get?_empty, Option.none_or, Dict.get?]

theorem get?_add_of_ne {value : String} (hkey : key ≠ headerOrderKey) :
    (add h key value).get? headerOrderKey = h.get? headerOrderKey :=
  get?_set_of_ne (mt canonicalMIMEHeaderKey_eq_iff.1 hkey)

theorem get?_addAll_of_ne {values : List String} (hkey : key ≠ headerOrderKey) :
    (values.foldl (fun req value => add req key value) h).get? headerOrderKey =
      h.get? headerOrderKey := by
  induction values generalizing h with
  | nil => rfl
  | cons value values ih => exact (ih (h := add h key value)).trans (get?_add_of_ne hkey)

theorem get?_addAll {values : List String} :
    (values.foldl (fun req value => add req headerOrderKey value) h).get? headerOrderKey =
      if values = [] then h.get? headerOrderKey
      else some ((h.get? headerOrderKey).getD [] ++ values) := by
  induction values generalizing h with
  | nil => rfl
  | cons value values ih =>
    have hadd : (add h headerOrderKey value).get? headerOrderKey =
        some ((h.get? headerOrderKey).getD [] ++ [value]) := by
      rw [add, canonicalMIMEHeaderKey_eq_iff.2 rfl, Dict.get?_set, Function.update_self]
    rw [List.foldl_cons, ih, hadd, if_neg (List.cons_ne_nil value values)]
    split_ifs with hvalues
    · rw [hvalues]
    · rw [Option.getD_some, List.append_assoc, List.singleton_append]

theorem get?_addEntries_of_ne {es : List (String × List String)}
    (hes : ∀ e ∈ es, e.1 ≠ headerOrderKey) :
    (es.foldl (fun req e => e.2.foldl (fun req value => add req e.1 value) req) h).get?
      headerOrderKey = h.get? headerOrderKey := by
  induction es generalizing h with
  | nil => rfl
  | cons e es ih =>
    obtain ⟨he, hes⟩ := List.forall_mem_cons.1 hes
    exact (ih hes).trans (get?_addAll_of_ne he)

/-- Values that are added to a new header in turn are there, if there are any. -/
theorem get?_addEntries (d : GoHeader) :
    (d.entries.foldl (fun req e => e.2.foldl (fun req value => add req e.1 value) req)
      Dict.empty).get? headerOrderKey = (d.get? headerOrderKey).filter (· ≠ []) := by
  cases hget : d.get? headerOrderKey with
  | none =>
    refine (get?_addEntries_of_ne fun e he hkey => ?_).trans (Option.filter_none _).symm
    have hmem : (headerOrderKey, e.2) ∈ d.entries := hkey ▸ he
    exact absurd (hget.symm.trans (Dict.mem_entries_iff.1 hmem)) nofun
  | some values =>
    obtain ⟨pre, post, hentries⟩ := List.append_of_mem (Dict.mem_entries_iff.2 hget)
    have hnodup := d.nodup
    rw [hentries, List.map_append, List.map_cons, List.nodup_append, List.nodup_cons] at hnodup
    have hpre : ∀ e ∈ pre, e.1 ≠ headerOrderKey := fun e he =>
      hnodup.2.2 _ (List.mem_map_of_mem he) _ List.mem_cons_self
    have hpost : ∀ e ∈ post, e.1 ≠ headerOrderKey := fun e he hkey =>
      hnodup.2.1.1 (List.mem_map.2 ⟨e, he, hkey⟩)
    rw [hentries, List.foldl_append, List.foldl_cons, get?_addEntries_of_ne hpost, get?_addAll,
      get?_addEntries_of_ne hpre, Dict.get?_empty, Option.getD_none, List.nil_append]
    split_ifs with hvalues
    · obtain rfl : values = [] := hvalues
      rfl
    · exact (Option.filter_some_pos (by simpa using hvalues)).symm

end GoHeader

namespace RoundTripper

variable {rt : RoundTripper} {h : GoHeader}

/-- The header with the cookies and the user agent. -/
def agentHeader (headerEnv : HeaderEnv) (rt : RoundTripper) (h : GoHeader) : GoHeader :=
  GoHeader.setOnly
    (rt.cookies.foldl (fun h cookie => GoHeader.addCookie h (headerEnv.cookieText cookie)) h)
    "User-Agent" rt.userAgent

/-- The order of headers changes no value. -/
theorem get?_applyHeader_eq (k : String) :
    (rt.applyHeader headerEnv h).get? k = (rt.agentHeader headerEnv h).get? k := by
  rw [applyHeader]
  split_ifs
  · exact congrFun (GoHeader.get?_marshal _) k
  · rfl

theorem get?_agentHeader_of_ne {k : String} (hcookie : k ≠ "Cookie") (hagent : k ≠ "User-Agent") :
    (rt.agentHeader headerEnv h).get? k = h.get? k := by
  have hcookies (cookies : List GoCookie) (h : GoHeader) :
      (cookies.foldl (fun h cookie => GoHeader.addCookie h (headerEnv.cookieText cookie)) h).get?
        k = h.get? k := by
    induction cookies generalizing h with
    | nil => rfl
    | cons cookie cookies ih => exact (ih _).trans (GoHeader.get?_addCookie_of_ne hcookie _)
  have hset : canonicalMIMEHeaderKey "User-Agent" ≠ k := hagent.symm
  rw [agentHeader, GoHeader.setOnly, GoHeader.get?_set_of_ne hset, hcookies]

theorem get?_applyHeader_of_ne {k : String} (hcookie : k ≠ "Cookie") (hagent : k ≠ "User-Agent") :
    (rt.applyHeader headerEnv h).get? k = h.get? k :=
  (get?_applyHeader_eq k).trans (get?_agentHeader_of_ne hcookie hagent)

/-- A round trip hands a header over with the order that it has, if it hands it over. -/
theorem get?_handedHeader {h2 : Bool} {h' : GoHeader} (hh : h' ∈ rt.handedHeader headerEnv h2 h) :
    h'.get? headerOrderKey = h.get? headerOrderKey := by
  have hpseudo : pHeaderOrderKey ≠ headerOrderKey := by decide
  rw [handedHeader] at hh
  obtain ⟨g, hg, rfl⟩ := Option.map_eq_some_iff.1 hh
  have herase : (if (!rt.forceHTTP3 && !h2) = true then g.erase pHeaderOrderKey else g).get?
      headerOrderKey = g.get? headerOrderKey := by
    split_ifs
    · exact Dict.get?_erase_of_ne g hpseudo.symm
    · rfl
  have happly : (rt.applyHeader headerEnv h).get? headerOrderKey = _ :=
    get?_applyHeader_of_ne (by decide) (by decide)
  rw [herase, ← happly]
  split_ifs at hg with hfingerprint
  · obtain ⟨order, -, rfl⟩ := Option.map_eq_some_iff.1 hg
    split_ifs
    · exact GoHeader.get?_set_of_ne hpseudo
    · rfl
  · exact congrArg (Dict.get? · headerOrderKey) (Option.some.inj hg).symm

theorem isSome_handedHeader {h2 : Bool} (hrt : rt.http2Fingerprint = "" ∨
    (headerEnv.pseudoHeaderOrder rt.http2Fingerprint).isSome = true) :
    (rt.handedHeader headerEnv h2 h).isSome = true := by
  rw [handedHeader, Option.isSome_map]
  split_ifs with hfingerprint
  · rw [Option.isSome_map]
    exact hrt.resolve_left hfingerprint
  · rfl

end RoundTripper

namespace RequestOptions

variable {o : RequestOptions} {host : String}

/-- A header of the options with the name of the order goes into every request. -/
theorem get?_setRequestHeaders (header : GoHeader) (skipContentLength : Bool) :
    (o.setRequestHeaders env header skipContentLength).get? headerOrderKey =
      (o.requestHeaders.get? headerOrderKey).or (header.get? headerOrderKey) := by
  -- the names are of different lengths
  have hfold : env.equalFold headerOrderKey "Content-Length" = false := by
    refine decide_eq_false fun h => ?_
    have hlength := congrArg List.length h
    rw [List.length_map, List.length_map] at hlength
    exact absurd hlength (by decide)
  have hlatest : Log.latest Prod.fst headerOrderKey (o.requestHeaders.entries.filter fun e =>
      !(skipContentLength && env.equalFold e.1 "Content-Length")) =
        Log.latest Prod.fst headerOrderKey o.requestHeaders.entries := by
    rw [Option.ext_iff]
    intro e
    have hnodup := o.requestHeaders.nodup.sublist (List.filter_sublist (p := fun e =>
      !(skipContentLength && env.equalFold e.1 "Content-Length")).map Prod.fst)
    rw [Log.latest_eq_some_iff_of_nodup o.requestHeaders.nodup,
      Log.latest_eq_some_iff_of_nodup hnodup, List.mem_filter]
    refine and_congr_left fun hkey => and_iff_left ?_
    rw [hkey, hfold, Bool.and_false, Bool.not_false]
  rw [setRequestHeaders, Dict.get?_setAll, hlatest, Dict.latest_entries, Option.map_map]
  exact congrArg (Option.or · _) (congrFun Option.map_id _)

theorem get?_streamHeader :
    (o.streamHeader env).get? headerOrderKey = o.requestHeaders.get? headerOrderKey := by
  rw [streamHeader, get?_setRequestHeaders, Dict.get?_empty, Option.or_none]

theorem get?_doHeader :
    (o.doHeader env).get? headerOrderKey = o.requestHeaders.get? headerOrderKey := by
  have hpseudo : (if (!o.forceHTTP3) = true then
      (Dict.empty.set pHeaderOrderKey o.pseudoHeaderOrder : GoHeader) else .empty).get?
        headerOrderKey = none := by
    split_ifs
    · exact GoHeader.get?_set_of_ne (by decide)
    · rfl
  refine (get?_setRequestHeaders _ false).trans ?_
  rw [hpseudo, Option.or_none]

theorem get?_sseHeader : (o.sseHeader env).get? headerOrderKey =
    (o.requestHeaders.get? headerOrderKey).filter (· ≠ []) := by
  have hstream : (o.streamHeader env).get? headerOrderKey = _ := get?_streamHeader
  rw [sseHeader, GoHeader.get?_addEntries, ← hstream]
  split_ifs
  · rw [GoHeader.get?_setOnly_of_ne (by decide)]
  · rfl

/-- What is added after the headers of the options is not the order. -/
theorem get?_hostHeader (header : GoHeader) :
    ((if o.hasRequestHeader env "Host" = true then header else header.set "Host" [host]).set
      "user-agent" [o.userAgent]).get? headerOrderKey = header.get? headerOrderKey := by
  rw [GoHeader.get?_set_of_ne (by decide)]
  split_ifs
  · rfl
  · exact GoHeader.get?_set_of_ne (by decide)

theorem get?_http3Header :
    (o.http3Header env host).get? headerOrderKey = o.requestHeaders.get? headerOrderKey := by
  rw [http3Header, get?_hostHeader, get?_setRequestHeaders, Dict.get?_empty, Option.or_none]

/-- A request over HTTP/1 or HTTP/2 of `processRequest` has the order of the options, unless the
    caller gives another. -/
theorem get?_processHeader : (o.processHeader env host).get? headerOrderKey =
    (o.requestHeaders.get? headerOrderKey).or (some (o.orderedKeys env)) := by
  have hset : (Dict.empty.set headerOrderKey (o.orderedKeys env) : GoHeader).get? headerOrderKey =
      some (o.orderedKeys env) := by
    rw [Dict.get?_set, Function.update_self]
  rw [processHeader, get?_hostHeader, get?_setRequestHeaders]
  split_ifs
  · rw [GoHeader.get?_set_of_ne (by decide), hset]
  · rw [hset]

theorem get?_dispatchedHeader {order : List String}
    (hget : o.requestHeaders.get? headerOrderKey = some order)
    (hsse : o.protocol = "sse" → order ≠ []) :
    (o.dispatchedHeader env host).get? headerOrderKey = some order := by
  rw [dispatchedHeader]
  split_ifs with _ hprotocol
  · rw [get?_streamHeader, hget]
  · rw [get?_sseHeader, hget]
    exact Option.filter_some_pos (by simpa using hsse hprotocol)
  · rw [get?_http3Header, hget]
  · rw [get?_processHeader, hget, Option.some_or]

theorem handedHeader_eq_none (hfails : o.FingerprintFails headerEnv) {rt : RoundTripper}
    (hrt : rt.http2Fingerprint = o.http2Fingerprint) {h2 : Bool} {h : GoHeader} :
    rt.handedHeader headerEnv h2 h = none := by
  rw [RoundTripper.handedHeader, hrt, if_pos hfails.1, hfails.2]
  rfl

theorem parses_of_not_fails (hfails : ¬o.FingerprintFails headerEnv) {rt : RoundTripper}
    (hrt : rt.http2Fingerprint = o.http2Fingerprint) : rt.http2Fingerprint = "" ∨
      (headerEnv.pseudoHeaderOrder rt.http2Fingerprint).isSome = true := by
  rw [hrt, or_iff_not_imp_left, Option.isSome_iff_ne_none]
  exact not_and.1 hfails

/-- A header whose fingerprint parses is handed over, with the order that it has. -/
theorem ordered_of_handed (hfails : ¬o.FingerprintFails headerEnv) {rt : RoundTripper}
    (hrt : rt.http2Fingerprint = o.http2Fingerprint) {h : GoHeader}
    (hordered : ∀ h2, ∀ h' ∈ rt.handedHeader headerEnv h2 h, o.Ordered env h') :
    o.Ordered env h := by
  obtain ⟨h', hh'⟩ : ∃ h', rt.handedHeader headerEnv true h = some h' :=
    Option.isSome_iff_exists.1
      (RoundTripper.isSome_handedHeader (parses_of_not_fails hfails hrt))
  exact (RoundTripper.get?_handedHeader hh').symm.trans (hordered true h' hh')

/-- Both requests get to the wire with the order of the options exactly if the caller gives that
    order as a header, or nothing gets there. -/
theorem ordersAlike_iff : o.OrdersAlike env headerEnv host ↔
    (o.requestHeaders.get? headerOrderKey = some (o.presentOrder env) ∧
        (o.protocol = "sse" → o.presentOrder env ≠ [])) ∨
      (o.FingerprintFails headerEnv ∧ o.protocol ≠ "websocket") := by
  constructor
  · intro hall
    obtain ⟨hdo, hdispatched, -⟩ := hall (newRoundTripper o.browser .direct 0) rfl
    by_cases hfails : o.FingerprintFails headerEnv
    · refine or_iff_not_imp_right.2 fun hprotocol => ?_
      obtain hprotocol := not_not.1 fun h => hprotocol ⟨hfails, h⟩
      rw [if_pos hprotocol, Ordered, dispatchedHeader, if_pos hprotocol, get?_streamHeader]
        at hdispatched
      exact ⟨hdispatched, fun hsse => absurd (hprotocol.symm.trans hsse) (by decide)⟩
    · have hget : o.requestHeaders.get? headerOrderKey = some (o.presentOrder env) :=
        get?_doHeader.symm.trans (ordered_of_handed hfails rfl hdo)
      refine .inl ⟨hget, fun hsse => ?_⟩
      have hws : o.protocol ≠ "websocket" := fun h => absurd (h.symm.trans hsse) (by decide)
      rw [if_neg hws] at hdispatched
      have hfilter := ordered_of_handed hfails rfl hdispatched
      rw [Ordered, dispatchedHeader, if_neg hws, if_pos hsse, get?_sseHeader] at hfilter
      simpa using (Option.filter_eq_some_iff.1 hfilter).2
  · rintro (⟨hget, hsse⟩ | ⟨hfails, hws⟩) rt hrt
    · have hdispatched : (o.dispatchedHeader env host).get? headerOrderKey = _ :=
        get?_dispatchedHeader hget hsse
      refine ⟨fun h2 h hh => ?_, ?_, fun h => congrFun (GoHeader.get?_marshal _) _⟩
      · exact (RoundTripper.get?_handedHeader hh).trans (get?_doHeader.trans hget)
      · split_ifs
        · exact hdispatched
        · exact fun h2 h hh => (RoundTripper.get?_handedHeader hh).trans hdispatched
    · refine ⟨fun h2 h hh => ?_, ?_, fun h => congrFun (GoHeader.get?_marshal _) _⟩
      · exact absurd hh (by rw [handedHeader_eq_none hfails hrt]; exact nofun)
      · rw [if_neg hws]
        exact fun h2 h hh => absurd hh (by rw [handedHeader_eq_none hfails hrt]; exact nofun)

/-- One header, which the order names. -/
theorem not_forall_ordersAlike :
    ¬∀ (env : BuilderEnv) (headerEnv : HeaderEnv) (o : RequestOptions) (host : String),
      o.headerOrder ≠ [] → o.OrdersAlike env headerEnv host := by
  intro h
  obtain ⟨hdo, -⟩ := h (.ascii fun _ => some ⟨.https, "example.com", ""⟩)
    ⟨fun _ => "", fun _ => none⟩
    { headers := Dict.empty.set "Accept" "*/*", headerOrder := ["accept"] } "example.com"
    (List.cons_ne_nil _ _) (newRoundTripper {} .direct 0) rfl
  have hordered := ordered_of_handed (by exact fun h => h.1 rfl) rfl hdo
  exact absurd hordered (by decide)

/-- Where no two names are the same but for their case, the order of `processRequest` has each name
    once. -/
theorem orderedKeys_eq_presentOrder (horder : o.headerOrder ≠ [])
    (hnames : (o.requestHeaders.entries.map fun e => env.toLower e.1).Nodup) :
    o.orderedKeys env = o.presentOrder env := by
  have hkey (key : String) (es : List (String × List String))
      (hnames : (es.map fun e => env.toLower e.1).Nodup) :
      ((es.filter fun e => key = env.toLower e.1).map fun _ => key) =
        if (es.any fun e => env.toLower e.1 = key) = true then [key] else [] := by
    induction es with
    | nil => rfl
    | cons e es ih =>
      rw [List.map_cons, List.nodup_cons] at hnames
      rw [List.filter_cons, List.any_cons]
      by_cases he : env.toLower e.1 = key
      · have hrest : (es.filter fun e => key = env.toLower e.1) = [] := by
          refine List.filter_eq_nil_iff.2 fun e' he' hkey => hnames.1 ?_
          exact List.mem_map.2 ⟨e', he', (of_decide_eq_true hkey).symm.trans he.symm⟩
        rw [if_pos (decide_eq_true he.symm), hrest, decide_eq_true he, Bool.true_or, if_pos rfl]
        rfl
      · rw [if_neg (by simpa using Ne.symm he), decide_eq_false he, Bool.false_or, ih hnames.2]
  rw [orderedKeys, presentOrder, if_pos (List.length_pos_of_ne_nil horder)]
  induction o.headerOrder.map env.toLower with
  | nil => rfl
  | cons key keys ih =>
    rw [List.flatMap_cons, ih, hkey key _ hnames, List.filter_cons]
    split_ifs <;> rfl

end RequestOptions

end CycleTLS
