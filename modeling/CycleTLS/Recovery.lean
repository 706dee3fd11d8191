import CycleTLS.PseudoHeaders

/-!
# Redirects without a location (`index.go`)

At a redirect without a location a client fails, and the response is lost. `Do` then sends the
request it has once more. That is the first one of the chain, so what comes of it is the response
that was lost only if there was no other (`recovered_iff`). And it is not always the same request:
the cookies of the caller are in its header by then and are added again, and the credentials in its
URL are sent by the client alone (`resent_eq_first_iff`).
-/

namespace CycleTLS

/-! ## Requests and responses -/

/-- A request as a transport is handed it. -/
structure WireRequest where
  method : String
  url : URL
  header : String → Option (List String)
  body : Bytes

/-- A response of a server. -/
structure WireResponse where
  status : Nat
  header : GoHeader
  body : Bytes

namespace WireResponse

/-- The status is that of a redirect. -/
def IsRedirect (r : WireResponse) : Prop := r.status ∈ [301, 302, 303, 307, 308]

instance (r : WireResponse) : Decidable r.IsRedirect := inferInstanceAs (Decidable (_ ∈ _))

/-- Where a redirect goes. -/
def location (r : WireResponse) : String := GoHeader.getFirst r.header "Location"

end WireResponse

/-- What the text of a cookie is, which has a `=` at least. -/
structure CookieEnv extends HeaderEnv where
  cookieText_ne : ∀ cookie, cookieText cookie ≠ ""

/-- A request as `Do` makes it, and what its client does with it. -/
structure Issued where
  env : CookieEnv
  rt : RoundTripper
  method : String
  url : URL
  header : GoHeader
  body : Bytes
  /-- The credentials in the URL, as they go into a header. -/
  credentials : Option String
  /-- The transport is of HTTP/2. -/
  h2 : Bool
  /-- The client has a deadline, and makes a copy of the request for it. -/
  forked : Bool

namespace Issued

variable (q : Issued)

/-- The client puts the credentials into a copy of the header, which it makes unless the request has
    others. -/
def clones : Bool := q.credentials.isSome && GoHeader.getFirst q.header "Authorization" = ""

/-- The header of the first hop. A new jar has no cookies for it. -/
def firstHeader : GoHeader :=
  match q.credentials with
  | some credentials =>
    if q.clones then GoHeader.setOnly q.header "Authorization" ("Basic " ++ credentials)
    else q.header
  | none => q.header

/-- A request with a header. -/
def wire (header : GoHeader) : WireRequest := ⟨q.method, q.url, header.get?, q.body⟩

/-- The first hop. -/
def firstHop : Option HandedHop := q.rt.hand q.env.toHeaderEnv q.h2 q.forked q.firstHeader

/-- The first request, unless the HTTP/2 fingerprint does not parse. -/
def first : Option WireRequest := q.firstHop.map fun hop => q.wire hop.handed

/-- The header that the request has after the client was done with it. -/
def leftHeader : Option GoHeader :=
  q.firstHop.map fun hop => if q.clones then q.header else hop.caller

/-- The request that is sent once more. -/
def resent : Option WireRequest :=
  (q.leftHeader.bind fun h => q.rt.handedHeader q.env.toHeaderEnv q.h2 h).map q.wire

/-- What `Do` returns after a redirect without a location: a response, and its URL. -/
def recover (server : WireRequest → WireResponse) : Option (WireResponse × URL) :=
  q.resent.map fun r => (server r, r.url)

end Issued

/-- A chain of requests and their responses, where the last response is a redirect without a
    location. -/
structure LostChain (q : Issued) where
  init : List (WireRequest × WireResponse)
  last : WireRequest × WireResponse
  starts : q.first = some ((init ++ [last]).head (by simp)).1
  follows : ∀ e ∈ init, e.2.IsRedirect ∧ e.2.location ≠ ""
  misses : last.2.IsRedirect ∧ last.2.location = ""
  /-- Identical requests are answered identically. -/
  answered : ∃ server : WireRequest → WireResponse, ∀ e ∈ init ++ [last], server e.1 = e.2

/-- Whatever else a server does that answers as in a chain, the last response is returned, with its
    URL. -/
def LostChain.Recovered {q : Issued} (chain : LostChain q) : Prop :=
  ∀ server : WireRequest → WireResponse,
    (∀ e ∈ chain.init ++ [chain.last], server e.1 = e.2) →
      q.recover server = some (chain.last.2, chain.last.1.url)

/-! ## What is recovered -/

section

variable {q : Issued}

open Classical in
/-- The last response is recovered exactly if the last request is sent again. -/
theorem recovered_iff_resent (chain : LostChain q) :
    chain.Recovered ↔ q.resent = some chain.last.1 := by
  have hlast : chain.last ∈ chain.init ++ [chain.last] :=
    List.mem_append_right _ List.mem_cons_self
  constructor
  · intro hrecovered
    obtain ⟨server, hserver⟩ := chain.answered
    have hresult := hrecovered server hserver
    obtain ⟨r, hr, hresponse⟩ := Option.map_eq_some_iff.1 hresult
    rw [hr]
    by_contra hne
    by_cases hmem : ∃ e ∈ chain.init, e.1 = r
    · -- its response was another redirect
      obtain ⟨e, he, rfl⟩ := hmem
      have hsame : e.2 = chain.last.2 :=
        (hserver e (List.mem_append_left _ he)).symm.trans (congrArg Prod.fst hresponse)
      exact (chain.follows e he).2 (hsame ▸ chain.misses.2)
    · -- the server may answer it in any way
      have hother (e : WireRequest × WireResponse) (he : e ∈ chain.init ++ [chain.last]) :
          e.1 ≠ r := by
        rcases List.mem_append.1 he with he | he
        · exact fun h => hmem ⟨e, he, h⟩
        · rw [List.mem_singleton.1 he]
          exact fun h => hne (congrArg some h.symm)
      have hupdated := hrecovered (Function.update server r ⟨0, .empty, []⟩) fun e he => by
        rw [Function.update_of_ne (hother e he), hserver e he]
      rw [Issued.recover, hr, Option.map_some, Function.update_self] at hupdated
      have hlastResponse : (⟨0, .empty, []⟩ : WireResponse) = chain.last.2 :=
        congrArg Prod.fst (Option.some.inj hupdated)
      have hredirect := chain.misses.1
      rw [← hlastResponse, WireResponse.IsRedirect] at hredirect
      exact absurd hredirect (by decide)
  · intro hr server hserver
    rw [Issued.recover, hr, Option.map_some, hserver _ hlast]

end

/-! ## Headers that are handed over twice -/

namespace RoundTripper

variable {headerEnv : HeaderEnv} {rt : RoundTripper} {h ordered : GoHeader}

/-- The order that `RoundTrip` puts into headers. -/
def pseudoOrder (headerEnv : HeaderEnv) (rt : RoundTripper) : Option (List String) :=
  if rt.http2Fingerprint ≠ "" then
    (headerEnv.pseudoHeaderOrder rt.http2Fingerprint).filter fun order => order.length > 0
  else none

/-- What a header is with an order for pseudo headers. -/
def withOrder (order : Option (List String)) (values : String → Option (List String)) :
    String → Option (List String) :=
  if order.isSome then Function.update values pHeaderOrderKey order else values

theorem get?_orderedHeader (hordered : rt.orderedHeader headerEnv h = some ordered) :
    ordered.get? = withOrder (rt.pseudoOrder headerEnv) (rt.agentHeader headerEnv h).get? := by
  have happly : (rt.applyHeader headerEnv h).get? = (rt.agentHeader headerEnv h).get? :=
    funext get?_applyHeader_eq
  rw [orderedHeader] at hordered
  rw [pseudoOrder]
  by_cases hfingerprint : rt.http2Fingerprint ≠ ""
  · rw [if_pos hfingerprint] at hordered
    rw [if_pos hfingerprint]
    obtain ⟨order, horder, rfl⟩ := Option.map_eq_some_iff.1 hordered
    rw [horder]
    split_ifs with hlength
    · rw [Option.filter_some_pos (by simpa using hlength), Dict.get?_set, happly]
      rfl
    · rw [Option.filter_some_neg (by simpa using hlength), happly]
      rfl
  · rw [if_neg hfingerprint] at hordered
    rw [if_neg hfingerprint, ← Option.some.inj hordered, happly]
    rfl

theorem withOrder_withOrder (order : Option (List String))
    (values : String → Option (List String)) :
    withOrder order (withOrder order values) = withOrder order values := by
  rw [withOrder]
  split_ifs with horder
  · rw [withOrder, if_pos horder, Function.update_idem]
  · rfl

theorem withOrder_of_ne {k : String} (hk : k ≠ pHeaderOrderKey) (order : Option (List String))
    (values : String → Option (List String)) : withOrder order values k = values k := by
  rw [withOrder]
  split_ifs
  · rw [Function.update_of_ne hk]
  · rfl

theorem withOrder_congr {k : String} {order : Option (List String)}
    {values values' : String → Option (List String)} (hk : values k = values' k) :
    withOrder order values k = withOrder order values' k := by
  rw [withOrder, withOrder]
  split_ifs
  · rw [Function.update_apply, Function.update_apply, hk]
  · exact hk

/-- What of some values gets to a transport. -/
def transportValues (headerEnv : HeaderEnv) (rt : RoundTripper) (h2 : Bool)
    (values : String → Option (List String)) : String → Option (List String) :=
  if !rt.forceHTTP3 && !h2 then
    Function.update (withOrder (rt.pseudoOrder headerEnv) values) pHeaderOrderKey none
  else withOrder (rt.pseudoOrder headerEnv) values

theorem transportValues_withOrder (h2 : Bool) (values : String → Option (List String)) :
    rt.transportValues headerEnv h2 (withOrder (rt.pseudoOrder headerEnv) values) =
      rt.transportValues headerEnv h2 values := by
  rw [transportValues, transportValues, withOrder_withOrder]

theorem transportValues_of_ne {k : String} (hk : k ≠ pHeaderOrderKey) (h2 : Bool)
    (values : String → Option (List String)) :
    rt.transportValues headerEnv h2 values k = values k := by
  rw [transportValues]
  split_ifs
  · rw [Function.update_of_ne hk, withOrder_of_ne hk]
  · rw [withOrder_of_ne hk]

theorem get?_handed {h2 forked : Bool} {hop : HandedHop}
    (hhop : rt.hand headerEnv h2 forked h = some hop) :
    hop.handed.get? = rt.transportValues headerEnv h2 (rt.agentHeader headerEnv h).get? := by
  obtain ⟨ordered, hordered, rfl⟩ := Option.map_eq_some_iff.1 hhop
  rw [transportValues, ← get?_orderedHeader hordered]
  dsimp only
  split_ifs
  · exact Dict.get?_erase ordered pHeaderOrderKey
  · rfl

theorem get?_caller {h2 forked : Bool} {hop : HandedHop}
    (hhop : rt.hand headerEnv h2 forked h = some hop) :
    hop.caller.get? = (rt.agentHeader headerEnv h).get? ∨
      hop.caller.get? =
        withOrder (rt.pseudoOrder headerEnv) (rt.agentHeader headerEnv h).get? := by
  obtain ⟨ordered, hordered, rfl⟩ := Option.map_eq_some_iff.1 hhop
  rw [← get?_orderedHeader hordered]
  dsimp only
  rw [callerHeader]
  split_ifs
  · exact .inl rfl
  · exact .inr rfl

/-- A value of a header comes of the one that it had. -/
theorem get?_agentHeader_congr {h' : GoHeader} {k : String} (hk : h.get? k = h'.get? k) :
    (rt.agentHeader headerEnv h).get? k = (rt.agentHeader headerEnv h').get? k := by
  by_cases hagent : k = "User-Agent"
  · subst hagent
    have hkey : canonicalMIMEHeaderKey "User-Agent" = "User-Agent" := rfl
    rw [agentHeader, agentHeader, GoHeader.setOnly, GoHeader.setOnly, hkey, Dict.get?_set,
      Dict.get?_set, Function.update_self, Function.update_self]
  by_cases hcookie : k = "Cookie"
  · subst hcookie
    have hcookies (cookies : List GoCookie) (h h' : GoHeader)
        (hget : h.get? "Cookie" = h'.get? "Cookie") :
        (cookies.foldl (fun h cookie => GoHeader.addCookie h (headerEnv.cookieText cookie)) h).get?
          "Cookie" =
        (cookies.foldl (fun h cookie => GoHeader.addCookie h (headerEnv.cookieText cookie)) h').get?
          "Cookie" := by
      induction cookies generalizing h h' with
      | nil => exact hget
      | cons cookie cookies ih => exact ih _ _ (GoHeader.get?_addCookie_congr hget _)
    have hset : canonicalMIMEHeaderKey "User-Agent" ≠ "Cookie" := by decide
    rw [agentHeader, agentHeader, GoHeader.setOnly, GoHeader.setOnly, GoHeader.get?_set_of_ne hset,
      GoHeader.get?_set_of_ne hset]
    exact hcookies rt.cookies h h' hk
  rw [get?_agentHeader_of_ne hcookie hagent, get?_agentHeader_of_ne hcookie hagent, hk]

/-- Without cookies, a header gets the user agent. -/
theorem get?_agentHeader_of_nil (hcookies : rt.cookies = []) :
    (rt.agentHeader headerEnv h).get? =
      Function.update h.get? "User-Agent" (some [rt.userAgent]) := by
  rw [agentHeader, hcookies, List.foldl_nil, GoHeader.setOnly, Dict.get?_set]
  rfl

/-- The header that is left to the caller is handed over as if it had no order yet. -/
theorem transportValues_caller {h2 forked : Bool} {hop : HandedHop}
    (hhop : rt.hand headerEnv h2 forked h = some hop) :
    rt.transportValues headerEnv h2 (rt.agentHeader headerEnv hop.caller).get? =
      rt.transportValues headerEnv h2
        (rt.agentHeader headerEnv (rt.agentHeader headerEnv h)).get? := by
  rcases get?_caller hhop with hcaller | hcaller
  · have hagent : (rt.agentHeader headerEnv hop.caller).get? =
        (rt.agentHeader headerEnv (rt.agentHeader headerEnv h)).get? :=
      funext fun k => get?_agentHeader_congr (congrFun hcaller k)
    rw [hagent]
  · have hagent : (rt.agentHeader headerEnv hop.caller).get? =
        withOrder (rt.pseudoOrder headerEnv)
          (rt.agentHeader headerEnv (rt.agentHeader headerEnv h)).get? := by
      funext k
      by_cases hk : k = pHeaderOrderKey
      · subst hk
        rw [get?_agentHeader_of_ne (by decide) (by decide), hcaller]
        exact withOrder_congr (get?_agentHeader_of_ne (by decide) (by decide)).symm
      · rw [withOrder_of_ne hk]
        refine get?_agentHeader_congr ?_
        rw [hcaller, withOrder_of_ne hk]
    rw [hagent, transportValues_withOrder]

/-- The length of the cookies in a header. -/
def cookieLength (h : GoHeader) : Nat := (GoHeader.getFirst h "Cookie").length

theorem cookieLength_congr {h' : GoHeader} (hget : h.get? "Cookie" = h'.get? "Cookie") :
    cookieLength h = cookieLength h' := by
  have hcookie : canonicalMIMEHeaderKey "Cookie" = "Cookie" := rfl
  rw [cookieLength, cookieLength, GoHeader.getFirst, GoHeader.getFirst, hcookie, hget]

/-- A cookie makes the cookies longer. -/
theorem cookieLength_addCookie {text : String} (htext : text ≠ "") :
    cookieLength h < cookieLength (GoHeader.addCookie h text) := by
  have hlength : 0 < text.length := by
    rw [Nat.pos_iff_ne_zero]
    exact fun h => htext (String.length_eq_zero_iff.1 h)
  have hset (value : String) : cookieLength (GoHeader.setOnly h "Cookie" value) = value.length := by
    rw [cookieLength, GoHeader.getFirst, GoHeader.setOnly, Dict.get?_set, Function.update_self]
    rfl
  rw [GoHeader.addCookie]
  split_ifs with hnone
  · rw [hset, String.length_append, String.length_append, cookieLength]
    omega
  · rw [hset, cookieLength, not_not.1 hnone]
    exact hlength

/-- So do those of a round tripper, if it has any. -/
theorem cookieLength_agentHeader {env : CookieEnv} (hcookies : rt.cookies ≠ []) (h : GoHeader) :
    cookieLength h < cookieLength (rt.agentHeader env.toHeaderEnv h) := by
  have hle (cookies : List GoCookie) (h : GoHeader) : cookieLength h ≤ cookieLength
      (cookies.foldl (fun h cookie => GoHeader.addCookie h (env.cookieText cookie)) h) := by
    induction cookies generalizing h with
    | nil => exact le_rfl
    | cons cookie cookies ih =>
      exact (cookieLength_addCookie (env.cookieText_ne cookie)).le.trans (ih _)
  have hagent : cookieLength (rt.agentHeader env.toHeaderEnv h) = cookieLength
      (rt.cookies.foldl (fun h cookie => GoHeader.addCookie h (env.cookieText cookie)) h) := by
    refine cookieLength_congr ?_
    rw [agentHeader, GoHeader.setOnly, GoHeader.get?_set_of_ne (by decide)]
  rw [hagent]
  obtain ⟨cookie, cookies, hcons⟩ := List.exists_cons_of_ne_nil hcookies
  rw [hcons, List.foldl_cons]
  exact (cookieLength_addCookie (env.cookieText_ne cookie)).trans_le (hle cookies _)

/-- Whether a header can be handed over depends on the fingerprint alone. -/
theorem exists_hand {h2 forked : Bool} {hop : HandedHop}
    (hhop : rt.hand headerEnv h2 forked h = some hop) (forked' : Bool) (h' : GoHeader) :
    ∃ again, rt.hand headerEnv h2 forked' h' = some again := by
  rw [← Option.isSome_iff_exists, hand, Option.isSome_map]
  have hsome : (rt.orderedHeader headerEnv h).isSome = true := by
    rw [← Option.isSome_map, ← hand, hhop]
    rfl
  rw [orderedHeader] at hsome ⊢
  split_ifs at hsome ⊢ with hfingerprint
  · simpa using hsome
  · rfl

/-- A header gets the same values once more exactly if there are no cookies. -/
theorem transportValues_again_eq_iff {env : CookieEnv} {h2 : Bool} :
    rt.transportValues env.toHeaderEnv h2
        (rt.agentHeader env.toHeaderEnv (rt.agentHeader env.toHeaderEnv h)).get? =
      rt.transportValues env.toHeaderEnv h2 (rt.agentHeader env.toHeaderEnv h).get? ↔
    rt.cookies = [] := by
  constructor
  · intro heq
    by_contra hcookies
    have hcookie : "Cookie" ≠ pHeaderOrderKey := by decide
    have hvalue := congrFun heq "Cookie"
    rw [transportValues_of_ne hcookie, transportValues_of_ne hcookie] at hvalue
    exact absurd (cookieLength_congr hvalue) (cookieLength_agentHeader hcookies _).ne'
  · intro hcookies
    have hagain : (rt.agentHeader env.toHeaderEnv (rt.agentHeader env.toHeaderEnv h)).get? =
        (rt.agentHeader env.toHeaderEnv h).get? := by
      rw [get?_agentHeader_of_nil hcookies, get?_agentHeader_of_nil hcookies, Function.update_idem]
    rw [hagain]

end RoundTripper

/-! ## Requests that are sent again -/

namespace Issued

variable {q : Issued}

/-- The header of the request that is sent once more, before it gets to a transport. The client is
    done with it, unless it made a copy. -/
def againHeader (q : Issued) : GoHeader :=
  if q.clones then q.rt.agentHeader q.env.toHeaderEnv q.header
  else q.rt.agentHeader q.env.toHeaderEnv (q.rt.agentHeader q.env.toHeaderEnv q.header)

/-- A request as a transport is handed it with the values of a header. -/
def request (q : Issued) (h : GoHeader) : WireRequest :=
  ⟨q.method, q.url, q.rt.transportValues q.env.toHeaderEnv q.h2 h.get?, q.body⟩

theorem request_inj {h h' : GoHeader} : q.request h = q.request h' ↔
    q.rt.transportValues q.env.toHeaderEnv q.h2 h.get? =
      q.rt.transportValues q.env.toHeaderEnv q.h2 h'.get? := by
  simp [request]

theorem firstHeader_of_not_clones (hclones : q.clones = false) : q.firstHeader = q.header := by
  rw [firstHeader]
  split
  · rw [if_neg (by simp [hclones])]
  · rfl

theorem exists_firstHop (hfirst : q.first.isSome = true) : ∃ hop, q.firstHop = some hop := by
  rw [← Option.isSome_iff_exists]
  rwa [first, Option.isSome_map] at hfirst

theorem first_eq_once (hfirst : q.first.isSome = true) :
    q.first = some (q.request (q.rt.agentHeader q.env.toHeaderEnv q.firstHeader)) := by
  obtain ⟨hop, hhop⟩ := exists_firstHop hfirst
  rw [first, hhop, Option.map_some, wire, RoundTripper.get?_handed hhop, request]

theorem resent_eq_again (hfirst : q.first.isSome = true) :
    q.resent = some (q.request q.againHeader) := by
  obtain ⟨hop, hhop⟩ := exists_firstHop hfirst
  obtain ⟨h, hleft, hvalues⟩ : ∃ h, q.leftHeader = some h ∧
      q.rt.transportValues q.env.toHeaderEnv q.h2 (q.rt.agentHeader q.env.toHeaderEnv h).get? =
        q.rt.transportValues q.env.toHeaderEnv q.h2 q.againHeader.get? := by
    rw [leftHeader, hhop, Option.map_some, againHeader]
    cases hclones : q.clones with
    | true => exact ⟨q.header, rfl, rfl⟩
    | false =>
      rw [firstHop, firstHeader_of_not_clones hclones] at hhop
      exact ⟨hop.caller, rfl, RoundTripper.transportValues_caller hhop⟩
  obtain ⟨again, hagain⟩ := RoundTripper.exists_hand hhop q.forked h
  rw [resent, hleft, Option.bind_some, ← RoundTripper.handed_hand _ q.rt q.h2 q.forked h, hagain,
    Option.map_some, Option.map_some, wire, RoundTripper.get?_handed hagain, hvalues, request]

/-- The credentials are in the header that the client makes, where the request has none. -/
theorem getFirst_of_clones (hclones : q.clones = true) :
    GoHeader.getFirst q.firstHeader "Authorization" ≠
      GoHeader.getFirst q.header "Authorization" := by
  obtain ⟨hsome, hnone⟩ := (Bool.and_eq_true _ _).mp hclones
  obtain ⟨credentials, hcredentials⟩ := Option.isSome_iff_exists.1 hsome
  have hheader : q.firstHeader =
      GoHeader.setOnly q.header "Authorization" ("Basic " ++ credentials) := by
    rw [firstHeader, hcredentials]
    exact if_pos hclones
  have hvalue : GoHeader.getFirst q.firstHeader "Authorization" = "Basic " ++ credentials := by
    rw [hheader, GoHeader.getFirst, GoHeader.setOnly, Dict.get?_set, Function.update_self]
    rfl
  rw [hvalue, of_decide_eq_true hnone]
  simp

end Issued

section

variable {q : Issued}

/-- The request that is sent again is the first one exactly if the caller gives no cookies, and the
    URL no credentials that the client puts into its header. -/
theorem resent_eq_first_iff (hfirst : q.first.isSome = true) :
    q.resent = q.first ↔ q.rt.cookies = [] ∧ q.clones = false := by
  rw [Issued.resent_eq_again hfirst, Issued.first_eq_once hfirst, Option.some_inj,
    Issued.request_inj, Issued.againHeader]
  cases hclones : q.clones with
  | true =>
    -- the first header alone has the credentials
    simp only [Bool.true_eq_false, and_false, iff_false, if_true]
    intro heq
    have hvalue := congrFun heq "Authorization"
    rw [RoundTripper.transportValues_of_ne (by decide),
      RoundTripper.transportValues_of_ne (by decide),
      RoundTripper.get?_agentHeader_of_ne (by decide) (by decide),
      RoundTripper.get?_agentHeader_of_ne (by decide) (by decide)] at hvalue
    refine Issued.getFirst_of_clones hclones ?_
    have hkey : canonicalMIMEHeaderKey "Authorization" = "Authorization" := rfl
    rw [GoHeader.getFirst, GoHeader.getFirst, hkey, hvalue]
  | false =>
    rw [Issued.firstHeader_of_not_clones hclones]
    simpa using RoundTripper.transportValues_again_eq_iff

/-- A response that was lost is recovered exactly if it is the first of its chain, and the request
    is not changed by being sent; or, further down a chain, if the last request is the first one
    with the cookies once more, or without credentials. -/
theorem recovered_iff (chain : LostChain q) :
    chain.Recovered ↔ (chain.init = [] ∧ q.rt.cookies = [] ∧ q.clones = false) ∨
      (chain.init ≠ [] ∧ chain.last.1 = q.request q.againHeader) := by
  rw [recovered_iff_resent]
  have hfirst : q.first.isSome = true := by rw [chain.starts, Option.isSome_some]
  by_cases hinit : chain.init = []
  · have hlast : q.first = some chain.last.1 := by
      rw [chain.starts]
      simp only [hinit, List.nil_append, List.head_cons]
    rw [← hlast, resent_eq_first_iff hfirst]
    simp [hinit]
  · rw [Issued.resent_eq_again hfirst, Option.some_inj]
    exact ⟨fun h => .inr ⟨hinit, h.symm⟩, fun h => (h.resolve_left fun h => hinit h.1).2.symm⟩

end

/-- A redirect to a place that redirects without a location. -/
theorem not_forall_recovered : ¬∀ (q : Issued) (chain : LostChain q), chain.Recovered := by
  intro h
  let q : Issued :=
    { env := ⟨⟨fun _ => "a=1", fun _ => none⟩, fun _ => by simp⟩
      rt := newRoundTripper {} .direct 0
      method := "GET"
      url := ⟨.https, "example.com", "/old"⟩
      header := .empty
      body := []
      credentials := none
      h2 := false
      forked := false }
  obtain ⟨first, hfirst⟩ : ∃ r, q.first = some r := ⟨_, rfl⟩
  let last : WireRequest := ⟨"GET", ⟨.https, "example.com", "/new"⟩, fun _ => none, []⟩
  let redirect : WireResponse := ⟨302, GoHeader.setOnly .empty "Location" "/new", []⟩
  let lost : WireResponse := ⟨302, .empty, []⟩
  have hredirect : redirect.IsRedirect ∧ redirect.location ≠ "" := by decide
  have hlost : lost.IsRedirect ∧ lost.location = "" := by decide
  have hurl : first.url = q.url := by
    obtain ⟨hop, -, rfl⟩ := Option.map_eq_some_iff.1 hfirst
    rfl
  have hanswered : ∀ e ∈ [(first, redirect), (last, lost)],
      (if e.1.url = q.url then redirect else lost) = e.2 := by
    rw [List.forall_mem_cons, List.forall_mem_singleton]
    exact ⟨if_pos hurl, if_neg (by decide)⟩
  let chain : LostChain q :=
    { init := [(first, redirect)]
      last := (last, lost)
      starts := hfirst
      follows := by
        rw [List.forall_mem_singleton]
        exact hredirect
      misses := hlost
      answered := ⟨fun r => if r.url = q.url then redirect else lost, hanswered⟩ }
  have hresent := (recovered_iff_resent chain).1 (h q chain)
  obtain ⟨header, -, hlast⟩ := Option.map_eq_some_iff.1 hresent
  have hpath : q.url = last.url := congrArg WireRequest.url hlast
  exact absurd hpath (by decide)

end CycleTLS
