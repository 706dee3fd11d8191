import CycleTLS.Prepared

/-!
# What is in a payload

The options in the payload of a request, from the arguments of the session's method: each
is that of the prepared arguments, as it is sent, and so is each header
(`exists_prepares`).
-/

namespace CycleTLS

open Raising

variable (env : PyEnv)

/-! ## Options -/

/-- The keywords that are options of a `Request`, but for those of its body. -/
def requestOptions : List Keyword :=
  [.ja3, .ja4r, .http2Fingerprint, .quicFingerprint, .disableGrease, .serverName,
    .insecureSkipVerify, .tls13AutoRetry, .forceHTTP1, .forceHTTP3, .protocol, .userAgent, .proxy,
    .localAddress, .cookies, .timeout, .disableRedirect, .enableConnectionReuse, .headerOrder,
    .orderHeadersAsProvided, .headerValues]

namespace Keyword

/-- The name of an option in the payload. -/
def key : Keyword → String
  | ja3 => "ja3"
  | ja4r => "ja4r"
  | http2Fingerprint => "http2Fingerprint"
  | quicFingerprint => "quicFingerprint"
  | disableGrease => "disableGrease"
  | serverName => "serverName"
  | insecureSkipVerify => "insecureSkipVerify"
  | tls13AutoRetry => "tls13AutoRetry"
  | forceHTTP1 => "forceHTTP1"
  | forceHTTP3 => "forceHTTP3"
  | protocol => "protocol"
  | userAgent => "userAgent"
  | proxy => "proxy"
  | localAddress => "localAddress"
  | cookies => "cookies"
  | timeout => "timeout"
  | disableRedirect => "disableRedirect"
  | enableConnectionReuse => "enableConnectionReuse"
  | headerOrder => "headerOrder"
  | orderHeadersAsProvided => "orderHeadersAsProvided"
  | headerValues => "headerValues"
  | _ => ""

/-- The default of a `Request` for an option. -/
def requestDefault : Keyword → Value
  | disableGrease | insecureSkipVerify | forceHTTP1 | forceHTTP3 | disableRedirect => .bool false
  | tls13AutoRetry | enableConnectionReuse => .bool true
  | userAgent => .str defaultUserAgent
  | proxy => .str ""
  | timeout => .int 6
  | _ => .none

/-- The value of an option in the payload, for that in the arguments. -/
def sent (k : Keyword) (v : Option Value) : Except Raised Value :=
  let v := v.getD k.requestDefault
  match k with
  | timeout => (timeoutInt v).map .int
  | protocol => protocolName v
  | cookies => cookieDicts env v
  | headerValues => headerValueLists v
  | _ => .ok v

end Keyword

variable {env}

/-- The options of a `Request` are those of its arguments. -/
theorem Request.get_key {R : Type} {method url : String} {headers : Value} {kwargs : Kwargs R}
    {r : Request} {p : OptionsDict} (hr : Request.new method url headers kwargs = .ok r)
    (hp : r.toDict env = .ok p) :
    Value.get p "headers" = headers ∧
      Value.get p "body" = (kwargs.options .body).getD (.str "") ∧
      ∀ k ∈ requestOptions, k.sent env (kwargs.options k) = .ok (Value.get p k.key) := by
  rw [Request.new] at hr
  split_ifs at hr
  cases hr
  obtain ⟨n, hn, hp⟩ := bind_eq_ok_iff.1 hp
  obtain ⟨protocol, hprotocol, hp⟩ := bind_eq_ok_iff.1 hp
  obtain ⟨cookies, hcookies, hp⟩ := bind_eq_ok_iff.1 hp
  obtain ⟨headerValues, hheaderValues, hp⟩ := bind_eq_ok_iff.1 hp
  cases hp
  change timeoutInt ((kwargs.options .timeout).getD (.int 6)) = _ at hn
  change protocolName ((kwargs.options .protocol).getD .none) = _ at hprotocol
  change cookieDicts env ((kwargs.options .cookies).getD .none) = _ at hcookies
  change headerValueLists ((kwargs.options .headerValues).getD .none) = _ at hheaderValues
  refine ⟨by simp [Value.get, Request.options, List.lookup_cons],
    by simp [Value.get, Request.options, List.lookup_cons], fun k hk => ?_⟩
  cases k <;> first
    | exact absurd hk (by decide)
    | simp [Keyword.sent, Keyword.requestDefault, Keyword.key, Kwargs.arg, Value.get,
        Request.options, List.lookup_append, List.lookup_cons, lookup_entry_of_ne,
        getD_lookup_entry, hn, hprotocol, hcookies, hheaderValues, Except.map]

/-! ## Payloads -/

/-- The value of a header in a payload. -/
def headerOf (p : OptionsDict) (name : String) : Option Value :=
  match Value.get p "headers" with
  | .dict items => items.lookup name
  | _ => none

theorem ensures_headersValue {kwargs : Kwargs HeaderDict} {d : Headers} :
    Ensures d (headersValue kwargs) fun v d' => d' = d ∧ ∀ name,
      (match v with | .dict items => items.lookup name | _ => none) =
        (kwargs.contents d).get? name := by
  rw [headersValue, Kwargs.contents]
  rcases kwargs.headers with _ | _ | dict
  · exact .pure ⟨rfl, fun _ => rfl⟩
  · exact .pure ⟨rfl, fun _ => rfl⟩
  · refine ensures_read.bind fun e d' h => .pure ?_
    obtain ⟨rfl, rfl⟩ := h
    exact ⟨rfl, fun name => Dict.lookup_entries _ _⟩

/-- The payload of a request that is accepted, from what its arguments come to. -/
theorem exists_prepares {closed : Bool} {boundary method url : String}
    {kwargs : Kwargs HeaderDict} {d d' : Headers} {p : OptionsDict}
    (h : exec (prepareRequest env closed boundary method url kwargs) d = (.ok p, d')) :
    ∃ json kwargs' t, takeJson kwargs = .ok json ∧ AuthPasses env kwargs ∧
      Prepares env json (requestData kwargs)
        (withProfile env (kwargs.profile env) (withAuth env (kwargs.arg .auth) (kwargs.contents d)))
        (fun k => (kwargs.options k).or ((kwargs.profile env).bind (·.sets k))) kwargs' t ∧
      (∀ k ∈ requestOptions, k.sent env (kwargs'.options k) = .ok (Value.get p k.key)) ∧
      (Value.get p "body" = (kwargs'.options .body).getD (.str "")) ∧
      ∀ name, headerOf p name = (kwargs'.contents t).get? name := by
  obtain ⟨u, kwargs', t, headers, r, hnormalize, hheaders, hr, hp⟩ := exists_request_of_ok h
  obtain ⟨json, hjson, hauth, -, hprepares⟩ := ensures_normalize _ _ hnormalize
  obtain ⟨hget, hbody, hsent⟩ := Request.get_key hr hp
  refine ⟨json, kwargs', t, hjson, hauth, hprepares, hsent, hbody, fun name => ?_⟩
  rw [headerOf, hget]
  exact (ensures_headersValue _ _ hheaders).2 name

/-- The URL of a request that is accepted. -/
theorem exists_mergeURLParams {closed : Bool} {boundary method url : String}
    {kwargs : Kwargs HeaderDict} {d d' : Headers} {p : OptionsDict}
    (h : exec (prepareRequest env closed boundary method url kwargs) d = (.ok p, d')) :
    ∃ u, mergeURLParams env url (kwargs.arg .params) = .ok u ∧ Value.get p "url" = .str u := by
  obtain ⟨u, kwargs', t, headers, r, hnormalize, hheaders, hr, hp⟩ := exists_request_of_ok h
  obtain ⟨json, -, -, hu, -⟩ := ensures_normalize _ _ hnormalize
  obtain ⟨n, protocol, cookies, headerValues, -, rfl⟩ := Request.toDict_eq_ok hp
  rw [Request.new] at hr
  split_ifs at hr
  cases hr
  exact ⟨u, hu, rfl⟩

end CycleTLS
