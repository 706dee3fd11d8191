import CycleTLS.SessionRequest

/-!
# Cookies of a session and of a request

A session takes the cookies of a request in all the forms that the client takes them in, but
asks each for its name before they are converted: a dict in a list has none, unless it is the
only cookie. Otherwise the cookies of the request take the places of those of the session with
their names (`sendsCookies_iff`).
-/

namespace CycleTLS

open Raising

/-! ## The argument -/

/-- A cookie in a list. -/
inductive ListedCookie
  | object (c : CookieObject)
  | dict (items : List (String × Value))

def ListedCookie.value : ListedCookie → Value
  | object c => c.toValue
  | dict items => .dict items

/-- The forms of the cookies of a request. -/
inductive CookiesForm
  | none
  | dict (items : Dict String Value)
  | list (cookies : List ListedCookie)
  | jar (cookies : Dict String CookieObject) (keyed : cookies.Keyed CookieObject.name)

namespace CookiesForm

def value : CookiesForm → Value
  | none => .none
  | dict items => .dict items.entries
  | list cookies => .list (cookies.map ListedCookie.value)
  | jar cookies _ => .jar (cookies.values.map CookieObject.toValue)

/-- The cookies that the client makes of them. -/
def cookies (env : PyEnv) : CookiesForm → List Value
  | none => []
  | dict items => items.entries.map fun e =>
    CookieObject.toValue { name := e.1, value := .str (env.format e.2) }
  | list cookies => cookies.map fun c => toCookie c.value
  | jar cookies _ => cookies.values.map CookieObject.toValue

end CookiesForm

/-- The name of a `Cookie`. -/
def nameValue : Value → Value
  | .cookie name _ _ _ _ _ _ _ _ => name
  | _ => .none

/-! ## The payload -/

/-- The dict of a cookie in a payload. -/
def CookieObject.sent (env : PyEnv) (c : CookieObject) : Value :=
  cookieDict env (.str c.name) c.value c.path c.domain c.expires c.maxAge c.secure c.httpOnly
    c.sameSite

/-- The cookies in a payload. -/
def cookiesOf (p : OptionsDict) : List Value :=
  match Value.get p "cookies" with
  | .list cookies => cookies
  | _ => []

/-- The name in the dict of a cookie. -/
def nameOfSent : Value → Value
  | .dict items => Value.get items "name"
  | _ => .none

namespace Session

variable (env : SessionEnv) (s : Session env.lower) (kwargs : Kwargs HeaderDict) (d : Headers)

/-- Of the cookies that are sent, each has a name of its own; each cookie of the request is
    among them as the client would send it, and each of the session that the request has no
    cookie of the name of as it is. -/
structure SendsCookies (form : CookiesForm) (sent : List Value) : Prop where
  nodup : (sent.map nameOfSent).Nodup
  request : ∀ c ∈ form.cookies env.toPyEnv, ∀ v, cookieToDict env.toPyEnv c = .ok v → v ∈ sent
  session : ∀ c ∈ s.cookies.values,
    (∀ c' ∈ form.cookies env.toPyEnv, nameValue c' ≠ .str c.name) → c.sent env.toPyEnv ∈ sent

/-- The arguments with the headers and the credentials of the session. -/
def withState : Kwargs HeaderDict :=
  (kwargs.setHeaders (.own ((CaseInsensitiveDict.ofItems s.headers.items).update
    (kwargs.contents d).entries : CaseInsensitiveDict env.lower).toDict)).set .auth
      (s.effectiveAuth kwargs)

/-- A form that is merged as it is meant: no names of dicts are asked for, values are texts,
    and of one name there is one cookie. -/
def Merges : CookiesForm → Prop
  | .none | .jar _ _ => True
  | .dict items => ∀ e ∈ items.entries, ∃ t, e.2 = .str t
  | .list cookies =>
    ((∀ c ∈ cookies, ∃ o, c = .object o) ∧ ∀ o o', .object o ∈ cookies → .object o' ∈ cookies →
      o.name = o'.name → o.sent env.toPyEnv = o'.sent env.toPyEnv) ∨
    s.cookies.entries = [] ∧ ∃ items, cookies = [.dict items]

end Session

/-! ## Merging -/

namespace CookieObject

/-- `_merge_cookie`, on cookies with names. -/
def merge (new : CookieObject) : List CookieObject → List CookieObject
  | [] => [new]
  | existing :: merged =>
    if existing.name = new.name then new :: merged else existing :: merge new merged

theorem mergeCookie_toValue (new : CookieObject) (cookies : List CookieObject) :
    Session.mergeCookie new.toValue (cookies.map toValue) =
      .ok ((new.merge cookies).map toValue) := by
  induction cookies with
  | nil => rfl
  | cons existing cookies ih =>
    rw [List.map_cons, Session.mergeCookie, merge]
    change (if existing.name = new.name then _ else _) = _
    split_ifs
    · rfl
    · rw [ih]
      rfl

theorem foldlM_mergeCookie (news cookies : List CookieObject) :
    (news.map toValue).foldlM (fun merged new => Session.mergeCookie new merged)
      (cookies.map toValue) = .ok ((news.foldl (fun merged new => new.merge merged) cookies).map
        toValue) := by
  induction news generalizing cookies with
  | nil => rfl
  | cons new news ih =>
    rw [List.map_cons, List.foldlM_cons, mergeCookie_toValue]
    exact ih _

theorem map_cookieName (l : List CookieObject) :
    (l.map toValue).map cookieName = (l.map name).map some := by
  rw [List.map_map, List.map_map]
  rfl

theorem toValue_injective : Function.Injective toValue := by
  intro c c' h
  cases c
  cases c'
  cases h
  rfl

theorem latest_cookieName (n : String) (l : List CookieObject) :
    Log.latest cookieName (some n) (l.map toValue) = (Log.latest name n l).map toValue := by
  rw [Log.latest_map]
  exact congrArg _ (Log.latest_congr fun c _ => Option.some_inj)

/-- What is merged has each name once, with the last cookie of the name. -/
theorem merged_spec {cookies : List CookieObject} (hnodup : (cookies.map name).Nodup)
    (news : List CookieObject) :
    ((news.foldl (fun merged new => new.merge merged) cookies).map name).Nodup ∧ ∀ n,
      Log.latest name n (news.foldl (fun merged new => new.merge merged) cookies) =
        Log.latest name n (cookies ++ news) := by
  obtain ⟨hmerged, hlatest⟩ := Session.mergesCookies_foldlM (foldlM_mergeCookie news cookies)
    (by rw [map_cookieName]; exact hnodup.map (Option.some_injective _))
  rw [map_cookieName] at hmerged
  refine ⟨hmerged.of_map _, fun n => Option.map_injective toValue_injective ?_⟩
  have h := hlatest (some n)
  rwa [← List.map_append, latest_cookieName, latest_cookieName] at h

theorem cookieDicts_toValue (env : PyEnv) (l : List CookieObject) :
    cookieDicts env (.list (l.map toValue)) = .ok (.list (l.map (sent env))) := by
  refine Raising.bind_eq_ok_iff.2 ⟨_, rfl, Raising.bind_eq_ok_iff.2 ⟨_, ?_, rfl⟩⟩
  rw [Raising.mapM_eq_ok_iff, List.map_map, List.map_map]
  rfl

/-- Cookies that are sent alike have one value. -/
theorem value_of_sent_eq {env : PyEnv} {c c' : CookieObject} (h : c.sent env = c'.sent env) :
    c.value = c'.value := by
  have hitems := Value.dict.inj h
  exact (Prod.mk.inj (List.cons.inj (List.cons.inj hitems).2).1).2

end CookieObject

/-! ## The payload -/

section

variable {env : PyEnv} {closed : Bool} {boundary method url : String} {kwargs : Kwargs HeaderDict}
  {d d' : Headers} {p : OptionsDict}

/-- A request that is accepted is also accepted with other cookies, if these are. -/
theorem exists_request_set_cookies {v cookies : Value}
    (h : exec (request env closed boundary method url kwargs) d = (.ok p, d'))
    (hcookies : cookieDicts env (convertRequestCookies env v) = .ok cookies) :
    ∃ p', exec (request env closed boundary method url (kwargs.set .cookies v)) d = (.ok p', d') ∧
      Value.get p' "cookies" = cookies := by
  obtain ⟨u, kwargs', t, headers, r, hnormalize, hheaders, hr, hp⟩ := exists_request_of_ok h
  obtain ⟨n, hn, hp⟩ := bind_eq_ok_iff.1 hp
  obtain ⟨protocol, hprotocol, hp⟩ := bind_eq_ok_iff.1 hp
  obtain ⟨_, -, hp⟩ := bind_eq_ok_iff.1 hp
  obtain ⟨headerValues, hheaderValues, -⟩ := bind_eq_ok_iff.1 hp
  have hnormalize' : exec (normalize env boundary url (kwargs.set .cookies v)) d =
      (.ok (u, kwargs'.set .cookies (convertRequestCookies env v)), t) := by
    rw [normalize_set_cookies, exec_map, hnormalize]
    rfl
  rw [Request.new] at hr
  split_ifs at hr with hknown
  have hr' : Request.new method u headers (kwargs'.set .cookies (convertRequestCookies env v)) =
      .ok { r with cookies := convertRequestCookies env v } := by
    cases hr
    exact if_neg hknown
  have hp' : { r with cookies := convertRequestCookies env v }.toDict env = .ok
      ({ r with cookies := convertRequestCookies env v }.options n protocol cookies
        headerValues) := by
    refine bind_eq_ok_iff.2 ⟨n, hn, bind_eq_ok_iff.2 ⟨protocol, hprotocol, ?_⟩⟩
    exact bind_eq_ok_iff.2 ⟨cookies, hcookies, bind_eq_ok_iff.2 ⟨headerValues, hheaderValues, rfl⟩⟩
  refine ⟨{ r with cookies := convertRequestCookies env v }.options n protocol cookies
    headerValues, ?_, ?_⟩
  · cases closed with
    | true => cases h
    | false =>
      refine exec_bind_eq_ok_iff.2 ⟨_, _, hnormalize', exec_bind_eq_ok_iff.2 ⟨_, _, hheaders, ?_⟩⟩
      exact exec_bind_eq_ok_iff.2 ⟨_, _, Prod.ext hr' rfl, Prod.ext hp' rfl⟩
  · have hsent := (Request.get_key hr' hp').2.2 .cookies (by decide)
    exact Except.ok.inj (hsent.symm.trans hcookies)

end

/-! ## Requests of the session -/

/-- What is merged has a name of its own, once there is another cookie. -/
theorem exists_object_of_mergeCookie {c : ListedCookie} {cookies merged : List Value}
    (h : Session.mergeCookie c.value cookies = .ok merged) (hne : cookies ≠ []) :
    merged ≠ [] ∧ ∃ o, c = .object o := by
  cases cookies with
  | nil => exact absurd rfl hne
  | cons existing cookies =>
    obtain ⟨a, -, h⟩ := bind_eq_ok_iff.1 h
    obtain ⟨b, hb, h⟩ := bind_eq_ok_iff.1 h
    refine ⟨?_, ?_⟩
    · split_ifs at h
      · cases h
        exact List.cons_ne_nil _ _
      · obtain ⟨rest, -, h⟩ := bind_eq_ok_iff.1 h
        cases h
        exact List.cons_ne_nil _ _
    · cases c with
      | object o => exact ⟨o, rfl⟩
      | dict items => cases hb

theorem exists_objects_of_foldlM {news : List ListedCookie} {cookies merged : List Value}
    (h : (news.map ListedCookie.value).foldlM
      (fun merged new => Session.mergeCookie new merged) cookies = .ok merged)
    (hne : cookies ≠ []) : ∀ c ∈ news, ∃ o, c = .object o := by
  induction news generalizing cookies with
  | nil => exact fun c hc => absurd hc List.not_mem_nil
  | cons new news ih =>
    obtain ⟨rest, hrest, h⟩ := bind_eq_ok_iff.1 h
    obtain ⟨hrestNe, hnew⟩ := exists_object_of_mergeCookie hrest hne
    exact List.forall_mem_cons.2 ⟨hnew, ih h hrestNe⟩

/-- A list can be merged if it has no dict, or is a dict alone that there is nothing to merge
    with. -/
theorem forall_object_or_of_foldlM {news : List ListedCookie} {cookies merged : List Value}
    (h : (news.map ListedCookie.value).foldlM
      (fun merged new => Session.mergeCookie new merged) cookies = .ok merged) :
    (∀ c ∈ news, ∃ o, c = .object o) ∨ cookies = [] ∧ ∃ items, news = [.dict items] := by
  by_cases hne : cookies = []
  · subst hne
    cases news with
    | nil => exact .inl fun c hc => absurd hc List.not_mem_nil
    | cons new news =>
      obtain ⟨rest, hrest, h⟩ := bind_eq_ok_iff.1 h
      cases hrest
      have hnews := exists_objects_of_foldlM h (List.cons_ne_nil _ _)
      cases new with
      | object o => exact .inl (List.forall_mem_cons.2 ⟨⟨o, rfl⟩, hnews⟩)
      | dict items =>
        cases news with
        | nil => exact .inr ⟨rfl, items, rfl⟩
        | cons new news =>
          obtain ⟨rest, hrest, -⟩ := bind_eq_ok_iff.1 h
          cases hrest
  · exact .inl (exists_objects_of_foldlM h hne)

namespace Session

variable {env : SessionEnv} {s : Session env.lower} {closed : Bool} {boundary method url : String}
  {kwargs : Kwargs HeaderDict} {d d' : Headers} {p : OptionsDict} {form : CookiesForm}

/-- A request of a session is that of the client, with the cookies that are merged. -/
theorem request_eq_ok_iff :
    exec (Session.request env closed boundary method url kwargs d) s = (.ok p, s) ↔
      ∃ merged d', (requestCookies (kwargs.arg .cookies)).foldlM
          (fun merged new => mergeCookie new merged) s.getCookies = .ok merged ∧
        exec (CycleTLS.request env.toPyEnv closed boundary method (s.prepareURL url)
          ((s.withState env kwargs d).set .cookies
            (if merged = [] then .none else .list merged))) d = (.ok p, d') := by
  have hset (kwargs : Kwargs HeaderDict) (v w : Value) :
      (kwargs.set .cookies v).set .auth w = (kwargs.set .auth w).set .cookies v :=
    congrArg (Kwargs.mk _ · _) (Function.update_comm (by decide) _ _ _)
  constructor
  · intro h
    obtain ⟨self, t, hself, h⟩ := exec_bind_eq_ok_iff.1 h
    cases hself
    obtain ⟨kwargs', t, hmerge, h⟩ := exec_bind_eq_ok_iff.1 h
    obtain ⟨self, t', hself, hmerge⟩ := exec_bind_eq_ok_iff.1 hmerge
    cases hself
    obtain ⟨merged, t', hfold, hmerge⟩ := exec_bind_eq_ok_iff.1 hmerge
    obtain ⟨hmerged, rfl⟩ := Prod.mk.inj hfold
    cases hmerge
    obtain ⟨hp, -⟩ := Prod.mk.inj h
    rw [hset] at hp
    exact ⟨merged, _, hmerged, Prod.ext hp rfl⟩
  · rintro ⟨merged, d', hmerged, hp⟩
    have hmerge : exec (mergeSessionState kwargs d) s = (.ok ((s.withState env kwargs d).set
        .cookies (if merged = [] then .none else .list merged)), s) := by
      refine exec_bind_eq_ok_iff.2 ⟨s, s, rfl, ?_⟩
      refine exec_bind_eq_ok_iff.2 ⟨merged, s, Prod.ext hmerged rfl, ?_⟩
      exact congrArg (fun kwargs => (Except.ok kwargs, s)) (hset _ _ _)
    refine exec_bind_eq_ok_iff.2 ⟨s, s, rfl, exec_bind_eq_ok_iff.2 ⟨_, s, hmerge, ?_⟩⟩
    rw [exec_lift, hp]

/-- The client accepts what the session adds. -/
theorem exists_request_objects
    (haccepts : ∃ p d', exec (CycleTLS.request env.toPyEnv closed boundary method
      (s.prepareURL url) (s.withState env kwargs d)) d = (.ok p, d'))
    (cookies : List CookieObject) :
    ∃ p d', exec (CycleTLS.request env.toPyEnv closed boundary method (s.prepareURL url)
      ((s.withState env kwargs d).set .cookies (if cookies.map CookieObject.toValue = [] then .none
        else .list (cookies.map CookieObject.toValue)))) d = (.ok p, d') ∧
      cookiesOf p = cookies.map (CookieObject.sent env.toPyEnv) := by
  obtain ⟨p, d', hp⟩ := haccepts
  cases cookies with
  | nil =>
    obtain ⟨p', hp', hget⟩ := exists_request_set_cookies (v := .none) hp rfl
    exact ⟨p', d', hp', by rw [cookiesOf, hget]; rfl⟩
  | cons c cookies =>
    have hconvert : convertRequestCookies env.toPyEnv
        (.list ((c :: cookies).map CookieObject.toValue)) =
          .list ((c :: cookies).map CookieObject.toValue) := by
      rw [convertRequestCookies, List.map_map]
      rfl
    have hdicts := CookieObject.cookieDicts_toValue env.toPyEnv (c :: cookies)
    rw [← hconvert] at hdicts
    obtain ⟨p', hp', hget⟩ := exists_request_set_cookies hp hdicts
    exact ⟨p', d', hp', by rw [cookiesOf, hget]⟩

/-- What is sent of cookies that are merged. -/
theorem sendsCookies_merged_iff {objects : List CookieObject} {g : CookieObject → CookieObject}
    (hname : ∀ o, (g o).name = o.name)
    (hcookies : form.cookies env.toPyEnv = objects.map fun o => (g o).toValue) :
    s.SendsCookies env form ((objects.foldl (fun merged new => new.merge merged)
        s.cookies.values).map (CookieObject.sent env.toPyEnv)) ↔
      ∀ o ∈ objects, ∀ o', Log.latest CookieObject.name o.name objects = some o' →
        o'.sent env.toPyEnv = (g o).sent env.toPyEnv := by
  have hsession : (s.cookies.values.map CookieObject.name).Nodup :=
    s.cookiesKeyed.map_values ▸ s.cookies.nodup
  obtain ⟨hnodup, hlatest⟩ := CookieObject.merged_spec hsession objects
  set merged := objects.foldl (fun merged new => new.merge merged) s.cookies.values
  have hmem {n : String} {c : CookieObject}
      (h : Log.latest CookieObject.name n (s.cookies.values ++ objects) = some c) : c ∈ merged :=
    Log.mem_of_latest ((hlatest n).trans h)
  constructor
  · intro h o ho o' ho'
    have hcookie : (g o).toValue ∈ form.cookies env.toPyEnv := hcookies ▸ List.mem_map_of_mem ho
    obtain ⟨c, hc, hsent⟩ := List.mem_map.1 (h.request _ hcookie _ rfl)
    have hcname : c.name = o.name := (Value.str.inj (congrArg nameOfSent hsent)).trans (hname o)
    have hlast := (Log.latest_eq_some_iff_of_nodup hnodup).2 ⟨hc, hcname⟩
    rw [hlatest, Log.latest_append, ho', Option.some_or] at hlast
    rw [Option.some.inj hlast]
    exact hsent
  · intro h
    refine ⟨?_, fun c hc v hv => ?_, fun c hc hno => ?_⟩
    · have hnames : (merged.map (CookieObject.sent env.toPyEnv)).map nameOfSent =
          (merged.map CookieObject.name).map Value.str := by
        rw [List.map_map, List.map_map]
        rfl
      rw [hnames]
      exact hnodup.map fun a b hab => Value.str.inj hab
    · obtain ⟨o, ho, rfl⟩ := List.mem_map.1 (hcookies ▸ hc)
      cases hv
      have hsome : Log.latest CookieObject.name o.name objects ≠ none := fun hnone =>
        Log.latest_eq_none_iff.1 hnone o ho rfl
      obtain ⟨o', ho'⟩ := Option.ne_none_iff_exists'.1 hsome
      change (g o).sent env.toPyEnv ∈ _
      rw [← h o ho o' ho']
      refine List.mem_map_of_mem (hmem (n := o.name) ?_)
      rw [Log.latest_append, ho', Option.some_or]
    · have hnone : Log.latest CookieObject.name c.name objects = none := by
        refine Log.latest_eq_none_iff.2 fun o ho heq => ?_
        refine hno (g o).toValue (hcookies ▸ List.mem_map_of_mem ho) ?_
        exact congrArg Value.str ((hname o).trans heq)
      refine List.mem_map_of_mem (hmem (n := c.name) ?_)
      rw [Log.latest_append, hnone, Option.none_or]
      exact (Log.latest_eq_some_iff_of_nodup hsession).2 ⟨hc, rfl⟩

/-- The same of a request of the session. -/
theorem sendsCookies_objects_iff (form : CookiesForm)
    (haccepts : ∃ p d', exec (CycleTLS.request env.toPyEnv closed boundary method
      (s.prepareURL url) (s.withState env kwargs d)) d = (.ok p, d'))
    (objects : List CookieObject) (g : CookieObject → CookieObject)
    (hname : ∀ o, (g o).name = o.name)
    (hcookies : form.cookies env.toPyEnv = objects.map fun o => (g o).toValue)
    (hobjects : requestCookies (kwargs.arg .cookies) = objects.map CookieObject.toValue) :
    (∃ p, exec (Session.request env closed boundary method url kwargs d) s = (.ok p, s) ∧
        s.SendsCookies env form (cookiesOf p)) ↔
      ∀ o ∈ objects, ∀ o', Log.latest CookieObject.name o.name objects = some o' →
        o'.sent env.toPyEnv = (g o).sent env.toPyEnv := by
  have hfold := CookieObject.foldlM_mergeCookie objects s.cookies.values
  obtain ⟨p, d', hp, hsent⟩ := exists_request_objects haccepts
    (objects.foldl (fun merged new => new.merge merged) s.cookies.values)
  have hrequest := request_eq_ok_iff.2 ⟨_, d', hobjects ▸ hfold, hp⟩
  rw [← sendsCookies_merged_iff hname hcookies, ← hsent]
  constructor
  · rintro ⟨p', hp', hsends⟩
    cases hp'.symm.trans hrequest
    exact hsends
  · exact fun hsends => ⟨p, hrequest, hsends⟩

theorem exists_map_object {cookies : List ListedCookie} (h : ∀ c ∈ cookies, ∃ o, c = .object o) :
    ∃ objects : List CookieObject, cookies = objects.map .object := by
  induction cookies with
  | nil => exact ⟨[], rfl⟩
  | cons c cookies ih =>
    obtain ⟨⟨o, rfl⟩, hcookies⟩ := List.forall_mem_cons.1 h
    obtain ⟨objects, rfl⟩ := ih hcookies
    exact ⟨o :: objects, rfl⟩

theorem latest_eq_sent_iff {env : PyEnv} {objects : List CookieObject} :
    (∀ o ∈ objects, ∀ o', Log.latest CookieObject.name o.name objects = some o' →
        o'.sent env = o.sent env) ↔
      ∀ o o', ListedCookie.object o ∈ objects.map ListedCookie.object →
        ListedCookie.object o' ∈ objects.map ListedCookie.object →
        o.name = o'.name → o.sent env = o'.sent env := by
  have hmem (o : CookieObject) :
      ListedCookie.object o ∈ objects.map ListedCookie.object ↔ o ∈ objects :=
    List.mem_map_of_injective fun a b hab => ListedCookie.object.inj hab
  simp only [hmem]
  constructor
  · intro h o o' ho ho' hname
    have hsome : Log.latest CookieObject.name o.name objects ≠ none := fun hnone =>
      Log.latest_eq_none_iff.1 hnone o ho rfl
    obtain ⟨last, hlast⟩ := Option.ne_none_iff_exists'.1 hsome
    rw [← h o ho last hlast, h o' ho' last (hname ▸ hlast)]
  · intro h o ho o' ho'
    exact h o' o (Log.mem_of_latest ho') ho (Log.key_of_latest ho')

/-- A dict alone is sent as the client sends it. -/
theorem sendsCookies_dict
    (haccepts : ∃ p d', exec (CycleTLS.request env.toPyEnv closed boundary method
      (s.prepareURL url) (s.withState env kwargs d)) d = (.ok p, d'))
    {items : List (String × Value)}
    (hcookies : requestCookies (kwargs.arg .cookies) = [.dict items])
    (hempty : s.cookies.entries = []) :
    ∃ p, exec (Session.request env closed boundary method url kwargs d) s = (.ok p, s) ∧
      s.SendsCookies env (.list [.dict items]) (cookiesOf p) := by
  obtain ⟨p, d', hp⟩ := haccepts
  have hvalues : s.cookies.values = [] := by rw [Dict.values, hempty, List.map_nil]
  have hget : s.getCookies = [] := by rw [getCookies, hvalues, List.map_nil]
  obtain ⟨p', hp', hget'⟩ := exists_request_set_cookies (v := .list [.dict items]) hp rfl
  have hrequest := request_eq_ok_iff.2
    ⟨[.dict items], d', by rw [hcookies, hget]; rfl, hp'⟩
  refine ⟨p', hrequest, ?_⟩
  rw [cookiesOf, hget']
  refine ⟨List.nodup_singleton _, fun c hc v hv => ?_, fun c hc => ?_⟩
  · cases List.mem_singleton.1 hc
    cases hv
    exact List.mem_singleton_self _
  · rw [hvalues] at hc
    cases hc

/-- A request of a session succeeds and sends all cookies exactly if they are merged as they are
    meant. -/
theorem sendsCookies_iff
    (haccepts : ∃ p d', exec (CycleTLS.request env.toPyEnv closed boundary method
      (s.prepareURL url) (s.withState env kwargs d)) d = (.ok p, d'))
    (hform : kwargs.arg .cookies = form.value) :
    (∃ p, exec (Session.request env closed boundary method url kwargs d) s = (.ok p, s) ∧
      s.SendsCookies env form (cookiesOf p)) ↔ s.Merges env form := by
  cases form with
  | none =>
    rw [sendsCookies_objects_iff _ haccepts [] id (fun _ => rfl) rfl (by rw [hform]; rfl)]
    exact iff_of_true (fun o ho => absurd ho List.not_mem_nil) trivial
  | dict items =>
    rw [sendsCookies_objects_iff _ haccepts
      (items.entries.map fun e => { name := e.1, value := e.2 })
      (fun o => { o with value := .str (env.format o.value) }) (fun _ => rfl)
      (by rw [List.map_map]; rfl)
      (by rw [hform, CookiesForm.value, requestCookies, List.map_map]; rfl)]
    have hnodup : ((items.entries.map fun e => ({ name := e.1, value := e.2 } : CookieObject)).map
        CookieObject.name).Nodup := by
      rw [List.map_map]
      exact items.nodup
    constructor
    · intro h e he
      have hmem := List.mem_map_of_mem
        (f := fun e => ({ name := e.1, value := e.2 } : CookieObject)) he
      have hlast := (Log.latest_eq_some_iff_of_nodup hnodup).2 ⟨hmem, rfl⟩
      exact ⟨_, CookieObject.value_of_sent_eq (h _ hmem _ hlast)⟩
    · intro h o ho o' ho'
      rw [(Log.latest_eq_some_iff_of_nodup hnodup).2 ⟨ho, rfl⟩] at ho'
      cases ho'
      obtain ⟨e, he, rfl⟩ := List.mem_map.1 ho
      obtain ⟨t, ht⟩ := h e he
      rw [ht]
      rfl
  | list cookies =>
    have hobjects {objects : List CookieObject} (heq : cookies = objects.map .object) :=
      sendsCookies_objects_iff (.list cookies) haccepts objects id
        (fun _ => rfl) (by rw [heq, CookiesForm.cookies, List.map_map]; rfl)
        (by rw [hform, CookiesForm.value, requestCookies, heq, List.map_map]; rfl)
    constructor
    · rintro ⟨p, hp, hsends⟩
      obtain ⟨merged, d', hmerged, -⟩ := request_eq_ok_iff.1 hp
      rw [hform] at hmerged
      rcases forall_object_or_of_foldlM hmerged with hall | ⟨hempty, hdict⟩
      · obtain ⟨objects, heq⟩ := exists_map_object hall
        refine .inl ⟨hall, ?_⟩
        have hlatest := (hobjects heq).1 ⟨p, hp, hsends⟩
        rw [heq]
        exact latest_eq_sent_iff.1 hlatest
      · refine .inr ⟨?_, hdict⟩
        rw [getCookies, List.map_eq_nil_iff, Dict.values, List.map_eq_nil_iff] at hempty
        exact hempty
    · rintro (⟨hall, hsame⟩ | ⟨hempty, items, rfl⟩)
      · obtain ⟨objects, heq⟩ := exists_map_object hall
        rw [heq] at hsame
        exact (hobjects heq).2 (latest_eq_sent_iff.2 hsame)
      · exact sendsCookies_dict haccepts (by rw [hform]; rfl) hempty
  | jar cookies keyed =>
    have hnodup : (cookies.values.map CookieObject.name).Nodup :=
      keyed.map_values ▸ cookies.nodup
    rw [sendsCookies_objects_iff _ haccepts cookies.values id (fun _ => rfl) rfl
      (by rw [hform]; rfl)]
    refine iff_of_true (fun o ho o' ho' => ?_) trivial
    rw [(Log.latest_eq_some_iff_of_nodup hnodup).2 ⟨ho, rfl⟩] at ho'
    cases ho'
    rfl

end Session

/-! ## A cookie of the session -/

/-- A session whose only state is a cookie. -/
def Session.withCookie {lower : String → String} (c : CookieObject) : Session lower where
  headers := .empty
  cookies := Dict.empty.set c.name c
  cookiesKeyed := Dict.keyed_empty.set rfl
  auth := .none
  baseURL := none

/-- A `Cookie` in a list is sent with that of the session. -/
theorem sendsCookies_object : ∃ p,
    exec (Session.request .plain false "" "GET" "https://h/"
      (Kwargs.set {} .cookies (.list [CookieObject.toValue ⟨"b", .str "2", .none, .none, .none,
        .none, .bool false, .bool false, .none⟩])) .empty)
      (.withCookie { name := "a", value := .str "1" }) =
        (.ok p, .withCookie { name := "a", value := .str "1" }) ∧
    (Session.withCookie { name := "a", value := .str "1" }).SendsCookies .plain
      (.list [.object { name := "b", value := .str "2" }]) (cookiesOf p) := by
  refine (Session.sendsCookies_iff ⟨_, _, rfl⟩ rfl).2 (.inl ⟨?_, ?_⟩)
  · intro c hc
    exact ⟨_, List.mem_singleton.1 hc⟩
  · intro o o' ho ho' _
    cases List.mem_singleton.1 ho
    cases List.mem_singleton.1 ho'
    rfl

/-- A dict in a list has no name to ask for. -/
theorem not_forall_sendsCookies : ¬∀ (env : SessionEnv) (s : Session env.lower) (closed : Bool)
    (boundary method url : String) (kwargs : Kwargs HeaderDict) (d : Headers)
    (form : CookiesForm), (∃ p d', exec (request env.toPyEnv closed boundary method
      (s.prepareURL url) (s.withState env kwargs d)) d = (.ok p, d')) →
    kwargs.arg .cookies = form.value →
    ∃ p, exec (Session.request env closed boundary method url kwargs d) s = (.ok p, s) ∧
      s.SendsCookies env form (cookiesOf p) := by
  intro h
  obtain ⟨p, hp, -⟩ := h .plain (.withCookie { name := "a", value := .str "1" }) false "" "GET"
    "https://h/" (Kwargs.set {} .cookies (.list [.dict [("name", .str "b")]])) .empty
    (.list [.dict [("name", .str "b")]]) ⟨_, _, rfl⟩ rfl
  cases hp

end CycleTLS
