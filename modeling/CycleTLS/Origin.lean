import CycleTLS.Redirect
import CycleTLS.Session
import Mathlib.Data.List.Induction

/-!
# Where the cookies of a session go

A session keeps the name and value of a cookie, and neither the host that set it
nor its domain, and supplies all of its cookies with every request. They go to
hosts they may be sent to exactly as long as every request, and every redirect
it follows, is to such a host for each cookie that the session holds
(`hostsKept_iff`).
-/

namespace CycleTLS

/-- The cookie that the round tripper makes of one in the options. -/
def Cookie.toGo (c : Cookie) : GoCookie where
  name := c.name
  value := c.value
  path := c.path.getD ""
  domain := c.domain.getD ""
  maxAge := c.maxAge.getD 0
  secure := c.secure
  httpOnly := c.httpOnly

/-! ## Visits -/

/-- How the redirect chain of a request ends. -/
inductive Outcome
  /-- Its last response is the final one. -/
  | received (rest : Received)
  /-- The last response lacks its location, and the first request is repeated. -/
  | resent (cookies : List CookieEvent) (rest : Received)
  | failed (err : GoError)
  | unread (message : Bytes)

/-- A request of a session, with the cookies of its own, the requests of its
    redirect chain and their responses. -/
structure Visit where
  cookies : List Cookie
  first : ChainHop
  rest : List ChainHop
  namesUser : Bool
  outcome : Outcome

namespace Visit

variable (v : Visit)

def chain : Chain where
  first := v.first
  rest := v.rest
  resent :=
    match v.outcome with
    | .resent .. => true
    | _ => false
  namesUser := v.namesUser

/-- The last request of the redirect loop. -/
def lastHop : ChainHop := (v.first :: v.rest).getLast (List.cons_ne_nil _ _)

/-- The cookies of the responses before the final one. -/
def followed : List ChainHop :=
  match v.outcome with
  | .received _ => (v.first :: v.rest).dropLast
  | _ => v.first :: v.rest

/-- The cookies of the final response. -/
def final : List Arrival :=
  match v.outcome with
  | .received _ => v.lastHop.arrivals
  | .resent cookies _ => cookies.map (⟨v.first.url, ·⟩)
  | _ => []

/-- What the session sees of it. -/
def exchange : Exchange where
  followed := v.followed.map ChainHop.response
  ended :=
    match v.outcome with
    | .received rest => .final v.lastHop.response rest
    | .resent cookies rest => .resent cookies rest
    | .failed err => .failed err
    | .unread message => .unread message

theorem finalCookies_exchange : v.exchange.finalCookies = v.final.map Arrival.event := by
  rw [Exchange.finalCookies, exchange, final]
  cases v.outcome with
  | received rest => simp [ChainHop.arrivals, Function.comp_def]
  | resent cookies rest => simp [Function.comp_def]
  | failed err => rfl
  | unread message => rfl

theorem flatten_followed_exchange :
    v.exchange.followed.flatten = (v.followed.flatMap ChainHop.arrivals).map Arrival.event := by
  rw [exchange, List.map_flatMap, List.flatMap_def]
  simp [ChainHop.arrivals, Function.comp_def]

end Visit

/-! ## Sources -/

section Sources

variable (fracOk : Nat → Bool)

/-- A request reports a cookie for a name: the last one of the final response, or else
    of those before it, unless that deletes it. -/
def Visit.Reports (v : Visit) (n : String) (a : Arrival) : Prop :=
  v.exchange.Delivered fracOk ∧ (Log.latest Arrival.name n v.final = some a ∨
    Log.latest Arrival.name n v.final = none ∧
      Log.latest Arrival.name n (v.followed.flatMap ChainHop.arrivals) = some a ∧
      a.event.deletes = false)

/-- The cookie that was reported last for a name. -/
def Source (past : List Visit) (n : String) (a : Arrival) : Prop :=
  ∃ pre v post, past = pre ++ v :: post ∧ v.Reports fracOk n a ∧
    ∀ v' ∈ post, ∀ a', ¬v'.Reports fracOk n a'

/-- The cookies of a session after some requests. -/
def sessionJar (id : String) (past : List Visit) : PyCookieJar :=
  past.foldl (fun jar v => sessionRequest fracOk id jar v.exchange) .empty

/-- The cookies that are supplied with a request. -/
def Visit.supplied (id : String) (past : List Visit) (v : Visit) : List GoCookie :=
  (mergeSessionState (sessionJar fracOk id past) v.cookies).map Cookie.toGo

/-- The session sends a cookie it received, and which the request does not replace,
    only where it may be sent. -/
def HostsKept {J : Type} (jar : InnerJar J) (id : String) (visits : List Visit) : Prop :=
  ∀ past v later, visits = past ++ v :: later →
    ∀ r ∈ v.chain.sent jar (v.supplied fracOk id past), ∀ c, .supplied c ∈ r.header →
      ∀ a, Source fracOk past c.name a → c.value = a.event.cookie.value →
        (∀ own ∈ v.cookies, own.name ≠ c.name) →
        Allowed a.url.hostname a.event.cookie.domain r.url.hostname

end Sources

variable {fracOk : Nat → Bool} {id : String}

theorem source_concat_iff {past : List Visit} {v : Visit} {n : String} {a : Arrival} :
    Source fracOk (past ++ [v]) n a ↔ v.Reports fracOk n a ∨
      (∀ a', ¬v.Reports fracOk n a') ∧ Source fracOk past n a := by
  constructor
  · rintro ⟨pre, w, post, heq, hw, hpost⟩
    -- The source is the visit that is added if nothing is after it.
    rcases List.eq_nil_or_concat post with rfl | ⟨post, u, rfl⟩
    · obtain ⟨-, hv⟩ := List.append_inj' heq rfl
      obtain rfl := List.singleton_inj.1 hv
      exact .inl hw
    · rw [List.concat_eq_append, ← List.cons_append, ← List.append_assoc] at heq
      obtain ⟨rfl, hv⟩ := List.append_inj' heq rfl
      obtain rfl := List.singleton_inj.1 hv
      rw [List.concat_eq_append] at hpost
      exact .inr ⟨hpost v (by simp), pre, w, post, rfl, hw,
        fun v' hv' => hpost v' (List.mem_append_left _ hv')⟩
  · rintro (hv | ⟨hv, pre, w, post, rfl, hw, hpost⟩)
    · exact ⟨past, v, [], rfl, hv, fun _ h => nomatch h⟩
    · refine ⟨pre, w, post ++ [v], by rw [List.append_assoc, List.cons_append], hw,
        fun v' hv' => ?_⟩
      rcases List.mem_append.1 hv' with hv' | hv'
      · exact hpost v' hv'
      · rw [List.mem_singleton.1 hv']
        exact hv

/-- A request leaves the value it reports of a name, or the one before it. -/
theorem value?_visit {jar : PyCookieJar} {v : Visit} {n x : String} :
    (sessionRequest fracOk id jar v.exchange).value? n = some x ↔
      (∃ a, v.Reports fracOk n a ∧ a.event.cookie.value = x) ∨
        (∀ a, ¬v.Reports fracOk n a) ∧ jar.value? n = some x := by
  by_cases hd : v.exchange.Delivered fracOk
  · have hfinal : Log.latest CookieEvent.name n v.exchange.finalCookies =
        (Log.latest Arrival.name n v.final).map Arrival.event := by
      rw [v.finalCookies_exchange, Log.latest_map]
      rfl
    have hfollowed : Log.latest CookieEvent.name n v.exchange.followed.flatten =
        (Log.latest Arrival.name n (v.followed.flatMap ChainHop.arrivals)).map Arrival.event := by
      rw [v.flatten_followed_exchange, Log.latest_map]
      rfl
    rw [value?_sessionRequest hd, Exchange.latest_merged, hfinal, hfollowed]
    simp only [Visit.Reports, hd, true_and]
    -- The final response decides, and without it the last one that was followed.
    cases Log.latest Arrival.name n v.final with
    | some a => simp
    | none =>
      cases Log.latest Arrival.name n (v.followed.flatMap ChainHop.arrivals) with
      | none => simp
      | some a => cases hdel : a.event.deletes <;> simp [CookieEvent.kept, hdel]
  · rw [sessionRequest_of_not_delivered hd]
    simp [Visit.Reports, hd]

/-- A session holds, for each name, the value of the cookie reported last. -/
theorem value?_sessionJar (id : String) {past : List Visit} {n x : String} :
    (sessionJar fracOk id past).value? n = some x ↔
      ∃ a, Source fracOk past n a ∧ a.event.cookie.value = x := by
  -- The last visit either reports the name or leaves what the visits before it left.
  induction past using List.reverseRecOn generalizing x with
  | nil =>
    refine iff_of_false (fun h => nomatch h) ?_
    rintro ⟨a, ⟨pre, v, post, heq, -⟩, -⟩
    simp at heq
  | append_singleton past v ih =>
    have hstep : sessionJar fracOk id (past ++ [v]) =
        sessionRequest fracOk id (sessionJar fracOk id past) v.exchange := List.foldl_concat ..
    rw [hstep, value?_visit, ih]
    simp only [source_concat_iff]
    constructor
    · rintro (⟨a, ha, hx⟩ | ⟨hv, a, ha, hx⟩)
      · exact ⟨a, .inl ha, hx⟩
      · exact ⟨a, .inr ⟨hv, ha⟩, hx⟩
    · rintro ⟨a, ha | ⟨hv, ha⟩, hx⟩
      · exact .inl ⟨a, ha, hx⟩
      · exact .inr ⟨hv, a, ha, hx⟩

theorem keyed_sessionJar (past : List Visit) :
    (sessionJar fracOk id past).Keyed Cookie.name := by
  induction past using List.reverseRecOn with
  | nil => exact Dict.keyed_empty
  | append_singleton past v ih =>
    have hstep : sessionJar fracOk id (past ++ [v]) =
        sessionRequest fracOk id (sessionJar fracOk id past) v.exchange := List.foldl_concat ..
    rw [hstep]
    exact keyed_sessionRequest ih _

/-! ## Merging -/

theorem mem_mergeCookie_of_ne {cs : List Cookie} {new c : Cookie} (h : new.name ≠ c.name) :
    c ∈ mergeCookie cs new ↔ c ∈ cs := by
  have hne : c ≠ new := fun hc => h (congrArg Cookie.name hc.symm)
  induction cs with
  | nil => simpa [mergeCookie] using hne
  | cons b cs ih =>
    rw [mergeCookie]
    split_ifs with hb
    · have hbc : c ≠ b := fun hc => h (hc ▸ hb.symm)
      simp [hne, hbc]
    · rw [List.mem_cons, List.mem_cons]
      exact or_congr_right ih

/-- The cookies of the session are supplied, unless the request has one of the same
    name. -/
theorem mem_mergeSessionState_of_ne {jar : PyCookieJar} {own : List Cookie} {c : Cookie}
    (h : ∀ o ∈ own, o.name ≠ c.name) : c ∈ mergeSessionState jar own ↔ c ∈ jar.values := by
  rw [mergeSessionState]
  generalize jar.values = cs
  induction own generalizing cs with
  | nil => rfl
  | cons o own ih =>
    rw [List.foldl_cons, ih fun o' ho' => h o' (List.mem_cons_of_mem _ ho'),
      mem_mergeCookie_of_ne (h o List.mem_cons_self)]

/-- A cookie that is held is sent with each request that does not replace it. -/
theorem allowed_of_hostsKept {J : Type} {jar : InnerJar J} {visits past later : List Visit}
    {v : Visit} (h : HostsKept fracOk jar id visits) (hvisits : visits = past ++ v :: later)
    {n : String} {a : Arrival} (ha : Source fracOk past n a)
    (hown : ∀ own ∈ v.cookies, own.name ≠ n) {hop : ChainHop} (hhop : hop ∈ v.first :: v.rest) :
    Allowed a.url.hostname a.event.cookie.domain hop.url.hostname := by
  obtain ⟨c, hc, hvalue⟩ := Option.map_eq_some_iff.1
    ((value?_sessionJar id).2 ⟨a, ha, rfl⟩)
  -- what the jar has for a name is kept under it, so it is sent with the request
  have hname : c.name = n := keyed_sessionJar past _ (Dict.mem_entries_iff.2 hc)
  subst hname
  have hmem : c.toGo ∈ v.supplied fracOk id past :=
    List.mem_map_of_mem ((mem_mergeSessionState_of_ne hown).2
      ((keyed_sessionJar past).mem_values_iff.2 hc))
  have hsent := (forall_sent_iff (fun url c => ∀ a, Source fracOk past c.name a →
    c.value = a.event.cookie.value → (∀ own ∈ v.cookies, own.name ≠ c.name) →
    Allowed a.url.hostname a.event.cookie.domain url.hostname) v.chain).1 (h past v later hvisits)
  exact hsent hop hhop c.toGo hmem a ha hvalue hown

/-- The cookies a session sends stay with their hosts exactly if every request, and
    every redirect it follows, is to a host that each cookie held and not replaced
    may be sent to. -/
theorem hostsKept_iff {J : Type} (jar : InnerJar J) (fracOk : Nat → Bool) (id : String)
    (visits : List Visit) :
    HostsKept fracOk jar id visits ↔ ∀ past v later, visits = past ++ v :: later →
      ∀ n a, Source fracOk past n a → (∀ own ∈ v.cookies, own.name ≠ n) →
        ∀ hop ∈ v.first :: v.rest,
          Allowed a.url.hostname a.event.cookie.domain hop.url.hostname := by
  constructor
  · intro h past v later hvisits n a ha hown hop hhop
    exact allowed_of_hostsKept h hvisits ha hown hhop
  · intro h past v later hvisits
    rw [forall_sent_iff fun url c => ∀ a, Source fracOk past c.name a →
      c.value = a.event.cookie.value → (∀ own ∈ v.cookies, own.name ≠ c.name) →
      Allowed a.url.hostname a.event.cookie.domain url.hostname]
    exact fun hop hhop c _ a ha _ hown => h past v later hvisits c.name a ha hown hop hhop

/-- A request that sets a cookie, as a session makes it. -/
def Visit.login : Visit where
  cookies := []
  first := ⟨⟨.https, "a.example", "/"⟩, .zero,
    [⟨⟨"sid", "1", "/", "", .zero, 0, false, false, 0⟩, .zero⟩]⟩
  rest := []
  namesUser := false
  outcome := .received ⟨200, [], [], [], "HTTP/1.1"⟩

theorem Visit.delivered_login : Visit.login.exchange.Delivered fracOk := by
  refine ⟨fun _ h => (nomatch h), Utf8.isSome_decode_iff.2 ⟨"", rfl⟩, fun c hc => .inl ?_,
    fun h => ?_⟩
  · have hzero : ∀ c ∈ Visit.login.exchange.merged, c.expires.isZero = true := by decide +kernel
    exact hzero c hc
  · exact h.1 (by decide)

/-- After a login at one host, the session takes the cookie to another. -/
theorem not_forall_hostsKept : ¬∀ (J : Type) (jar : InnerJar J) (fracOk : Nat → Bool)
    (id : String) (visits : List Visit), HostsKept fracOk jar id visits := by
  intro h
  let v : Visit := { Visit.login with first := ⟨⟨.https, "b.example", "/"⟩, .zero, []⟩ }
  have hvisits : [.login, v] = [.login] ++ v :: [] := rfl
  have hkept := allowed_of_hostsKept (n := "sid") (h Unit ⟨(), fun _ _ _ => (), fun _ _ _ => []⟩
    (fun _ => true) "" [.login, v]) hvisits
    ⟨[], .login, [], rfl, ⟨Visit.delivered_login, .inl rfl⟩, fun _ h => nomatch h⟩
    (fun _ h => nomatch h) List.mem_cons_self
  rcases hkept with hhost | hdomain
  · revert hhost
    decide +kernel
  · revert hdomain
    decide +kernel

end CycleTLS
