import CycleTLS.BatchPayload
import CycleTLS.Payload

/-!
# Requests of a session (`sessions.py`)

`request` and `arequest` of a session merge its headers, cookies and credentials with those
of the request and put its base URL before a relative URL. The functions for batches are
those of the client, that have no session.

The payload of a request alone always has what the session and the request come to, but for
a URL with another scheme than `http` and `https`; that of a request in a batch only if the
session has nothing to add to it (`carries_iff`).
-/

namespace CycleTLS

open Raising

/-- The libraries, with `str.lower`. -/
structure SessionEnv extends PyEnv where
  lower : String → String
  lower_eq : ∀ name, isUserAgent name → lower name = "user-agent"

/-! ## Headers (`structures.py`) -/

/-- A `CaseInsensitiveDict`: names and values, by the names in lower case. -/
structure CaseInsensitiveDict (lower : String → String) where
  store : Dict String (String × Value)
  keyed : store.Keyed fun e => lower e.1

namespace CaseInsensitiveDict

variable {lower : String → String}

def empty : CaseInsensitiveDict lower := ⟨.empty, Dict.keyed_empty⟩

/-- The items, with the names as they were set last. -/
def items (c : CaseInsensitiveDict lower) : List (String × Value) := c.store.values

/-- `update`: `__setitem__` for each item. -/
def update (c : CaseInsensitiveDict lower) (data : List (String × Value)) :
    CaseInsensitiveDict lower where
  store := c.store.setAll (fun e => lower e.1) id data
  keyed := c.keyed.setAll (fun _ => rfl) data

/-- `CaseInsensitiveDict(data)`. -/
def ofItems (data : List (String × Value)) : CaseInsensitiveDict lower := empty.update data

/-- `dict(c)`. -/
def toDict (c : CaseInsensitiveDict lower) : Headers :=
  Dict.empty.setAll Prod.fst Prod.snd c.items

end CaseInsensitiveDict

/-! ## Sessions -/

/-- A `Cookie`. -/
structure CookieObject where
  name : String
  value : Value
  path : Value := .none
  domain : Value := .none
  expires : Value := .none
  maxAge : Value := .none
  secure : Value := .bool false
  httpOnly : Value := .bool false
  sameSite : Value := .none

def CookieObject.toValue (c : CookieObject) : Value :=
  .cookie (.str c.name) c.value c.path c.domain c.expires c.maxAge c.secure c.httpOnly c.sameSite

/-- The state of a `Session`, its cookies by name. -/
structure Session (lower : String → String) where
  headers : CaseInsensitiveDict lower
  cookies : Dict String CookieObject
  cookiesKeyed : cookies.Keyed CookieObject.name
  /-- `None`, or the credentials. -/
  auth : Value
  baseURL : Option String

/-- Programs on a session. -/
abbrev SessionM (lower : String → String) := ExceptT Raised (StateM (Session lower))

/-- `cookie.name`, which is a text; nothing else that is given for a cookie has one. -/
def nameOf : Value → Except Raised String
  | .cookie (.str name) _ _ _ _ _ _ _ _ => .ok name
  | _ => .error .attributeError

/-- The cookies of a request, of a dict, a jar or a list. -/
def requestCookies : Value → List Value
  | .dict items => items.map fun e => CookieObject.toValue { name := e.1, value := e.2 }
  | .jar cookies => cookies
  | .list items => items
  | _ => []

namespace Session

/-- `_merge_cookie`. -/
def mergeCookie (new : Value) : List Value → Except Raised (List Value)
  | [] => return [new]
  | existing :: merged => do
    if (← nameOf existing) = (← nameOf new) then
      return new :: merged
    else
      return existing :: (← mergeCookie new merged)

variable {lower : String → String} (s : Session lower)

/-- `get_cookies`. -/
def getCookies : List Value := s.cookies.values.map CookieObject.toValue

/-- Whether a URL starts with `http://` or `https://`. -/
def startsHTTP (url : String) : Bool :=
  "http://".toList.isPrefixOf url.toList || "https://".toList.isPrefixOf url.toList

/-- A base URL and a relative one. -/
def joinURL (base url : String) : String :=
  base ++ "/" ++ String.ofList (url.toList.dropWhile (· = '/'))

/-- `_prepare_url`. -/
def prepareURL (url : String) : String :=
  match s.baseURL with
  | some base => if base ≠ "" ∧ startsHTTP url = false then joinURL base url else url
  | none => url

/-- The credentials of a request. -/
def effectiveAuth (kwargs : Kwargs HeaderDict) : Value :=
  if (kwargs.arg .auth).isNone then s.auth else kwargs.arg .auth

/-- `_merge_session_state`, to the arguments with the headers, cookies and credentials. The
    dict for the headers, where it is the caller's, has the contents `d`. -/
def mergeSessionState (kwargs : Kwargs HeaderDict) (d : Headers) :
    SessionM lower (Kwargs HeaderDict) := do
  let self ← get
  let mergedHeaders : CaseInsensitiveDict lower := .ofItems self.headers.items
  let mergedHeaders := mergedHeaders.update (kwargs.contents d).entries
  let kwargs := kwargs.setHeaders (.own mergedHeaders.toDict)
  let mergedCookies ← liftM ((requestCookies (kwargs.arg .cookies)).foldlM
    (fun merged new => mergeCookie new merged) self.getCookies)
  let auth := self.effectiveAuth kwargs
  let kwargs := kwargs.set .cookies (if mergedCookies = [] then .none else .list mergedCookies)
  return kwargs.set .auth auth

end Session

/-! ## Entry points -/

/-- The functions that take requests. -/
inductive SessionEntry
  | request
  | arequest
  | batch
  | abatch

section Entry

variable (env : SessionEnv) (closed : Bool) (boundary method url : String)
  (kwargs : Kwargs HeaderDict) (d : Headers)

namespace Session

/-- The options in the payload of `Session.request`. -/
def request : SessionM env.lower OptionsDict := do
  let url := (← get).prepareURL url
  let kwargs ← mergeSessionState kwargs d
  liftM (exec (CycleTLS.request env.toPyEnv closed boundary method url kwargs) d).1

/-- The options in the payload of `Session.arequest`. -/
def arequest : SessionM env.lower OptionsDict := do
  let url := (← get).prepareURL url
  let kwargs ← mergeSessionState kwargs d
  liftM (exec (CycleTLS.arequest env.toPyEnv closed boundary method url kwargs) d).1

/-- The options in the payload for a request of `batch`, which is that of the client. A
    request without a URL has an empty one. -/
def batch : SessionM env.lower OptionsDict :=
  if closed then throw (.cycleTLSError "CycleTLS client is closed")
  else liftM (exec (buildBatchPayload env.toPyEnv (some url) (some method) kwargs) d).1

/-- The same for `abatch`. -/
def abatch : SessionM env.lower OptionsDict :=
  if closed then throw (.cycleTLSError "CycleTLS client is closed")
  else liftM (exec (buildBatchPayload env.toPyEnv (some url) (some method) kwargs) d).1

end Session

def SessionEntry.options : SessionEntry → SessionM env.lower OptionsDict
  | .request => Session.request env closed boundary method url kwargs d
  | .arequest => Session.arequest env closed boundary method url kwargs d
  | .batch => Session.batch env closed method url kwargs d
  | .abatch => Session.abatch env closed method url kwargs d

end Entry

/-! ## What a payload should have -/

/-- Whether a URL has a scheme before `://`. -/
def isAbsolute (url : String) : Bool :=
  url.toList.head?.any Char.isAlpha &&
    "://".toList.isPrefixOf (url.toList.dropWhile fun c => c.isAlphanum || c ∈ ['+', '-', '.'])

/-- The name of a cookie as the client takes it, from a dict too, if it is a text. -/
def cookieName (c : Value) : Option String :=
  match toCookie c with
  | .cookie (.str name) _ _ _ _ _ _ _ _ => some name
  | _ => none

namespace Session

variable (env : SessionEnv) (s : Session env.lower) (url : String) (kwargs : Kwargs HeaderDict)
  (d : Headers)

/-- The base URL before a relative URL. -/
def joinedURL : String :=
  match s.baseURL with
  | some base => if base ≠ "" ∧ isAbsolute url = false then joinURL base url else url
  | none => url

/-- The headers of the session and of a request, in order. -/
def givenHeaders : List (String × Value) := s.headers.items ++ (kwargs.contents d).entries

/-- The last header of a name in any case. -/
def Wants (name : String) (v : Value) : Prop :=
  Log.latest (fun e : String × Value => env.lower e.1) (env.lower name)
    (s.givenHeaders env kwargs d) = some (name, v)

/-- No other argument writes the header. -/
structure Kept (name : String) : Prop where
  contentType : name = "Content-Type" →
    (kwargs.arg .json).isNone ∧ (kwargs.arg .jsonData).isNone ∧ (kwargs.arg .files).isNone
  auth : name = "Authorization" → (s.effectiveAuth kwargs).isNone
  userAgent : isUserAgent name → ∀ profile, kwargs.profile env.toPyEnv = some profile →
    profile.ownHeaders.firstKey isUserAgent = none

/-- The header is that of no other argument. -/
structure Merged (name : String) : Prop where
  contentType : name ≠ "Content-Type"
  auth : name = "Authorization" → (s.effectiveAuth kwargs).isNone
  userAgent : isUserAgent name = false
  profile : (kwargs.profile env.toPyEnv).bind (·.header env.toPyEnv name) = none

/-- Each name once, with the last cookie of the name. -/
structure MergesCookies (cookies : List Value) : Prop where
  nodup : (cookies.map cookieName).Nodup
  latest : ∀ n, Log.latest cookieName n cookies =
    Log.latest cookieName n (s.getCookies ++ requestCookies (kwargs.arg .cookies))

/-- The payload has what the session and the request come to. -/
structure Carries (p : OptionsDict) : Prop where
  header : ∀ name v, s.Wants env kwargs d name v → s.Kept env kwargs name →
    headerOf p name = some v ∨ isUserAgent name ∧ Value.get p "userAgent" = v
  unique : ∀ name v, s.Merged env kwargs name → headerOf p name = some v →
    s.Wants env kwargs d name v
  cookies : ∃ cookies, s.MergesCookies env kwargs cookies ∧
    Keyword.cookies.sent env.toPyEnv (some (convertRequestCookies env.toPyEnv
      (if cookies = [] then .none else .list cookies))) = .ok (Value.get p "cookies")
  auth : (s.effectiveAuth kwargs).isNone = false → ∃ credentials,
    authorization env.toPyEnv (s.effectiveAuth kwargs) = .ok credentials ∧
      headerOf p "Authorization" = some (.str credentials)
  url : ∃ u, mergeURLParams env.toPyEnv (s.joinedURL env url) (kwargs.arg .params) = .ok u ∧
    Value.get p "url" = .str u

/-- No base URL is put before an absolute one, as far as it matters. -/
def KeepsAbsolute : Prop :=
  ∀ base, s.baseURL = some base → base ≠ "" → isAbsolute url → startsHTTP url = false →
    mergeURLParams env.toPyEnv url (kwargs.arg .params) =
      mergeURLParams env.toPyEnv (joinURL base url) (kwargs.arg .params)

/-- The header of a request in a batch. -/
def batchHeader (name : String) : Option Value :=
  ((kwargs.contents d).get? name).or
    (match kwargs.arg .data with
      | .dict _ =>
        if name = "Content-Type" then some (.str "application/x-www-form-urlencoded") else none
      | _ => none)

/-- Neither the session nor the request has anything that a batch leaves out. -/
structure Idle : Prop where
  header : ∀ name v, s.Wants env kwargs d name v → s.Kept env kwargs name →
    batchHeader kwargs d name = some v ∨
      isUserAgent name ∧ (kwargs.options .userAgent).getD (.str defaultUserAgent) = v
  unique : ∀ name v, s.Merged env kwargs name → (kwargs.contents d).get? name = some v →
    s.Wants env kwargs d name v
  cookies : s.getCookies ++ requestCookies (kwargs.arg .cookies) = []
  auth : (s.effectiveAuth kwargs).isNone = false → ∃ credentials,
    authorization env.toPyEnv (s.effectiveAuth kwargs) = .ok credentials ∧
      (kwargs.contents d).get? "Authorization" = some (.str credentials)
  url : mergeURLParams env.toPyEnv (s.joinedURL env url) (kwargs.arg .params) =
    mergeURLParams env.toPyEnv url (kwargs.arg .params)

end Session

/-! ## What is merged -/

namespace CaseInsensitiveDict

variable {lower : String → String} (c : CaseInsensitiveDict lower)

theorem latest_items (n : String) :
    Log.latest (fun e : String × Value => lower e.1) n c.items = c.store.get? n :=
  c.keyed.latest_values n

theorem latest_update (data : List (String × Value)) (n : String) :
    Log.latest (fun e : String × Value => lower e.1) n (c.update data).items =
      Log.latest (fun e : String × Value => lower e.1) n (c.items ++ data) := by
  rw [latest_items, Log.latest_append, latest_items]
  refine (Dict.get?_setAll _ _ _ _ _).trans ?_
  rw [Option.map_id_fun, id]

theorem latest_ofItems (data : List (String × Value)) (n : String) :
    Log.latest (fun e : String × Value => lower e.1) n
        (ofItems data : CaseInsensitiveDict lower).items =
      Log.latest (fun e : String × Value => lower e.1) n data := latest_update empty data n

/-- Names are equal only if they are the same in lower case. -/
theorem get?_toDict {name : String} {v : Value} : c.toDict.get? name = some v ↔
    Log.latest (fun e : String × Value => lower e.1) (lower name) c.items = some (name, v) := by
  have hlower : (c.items.map fun e => lower e.1).Nodup := by
    have hnodup := c.store.nodup
    rw [← c.keyed.map_values] at hnodup
    exact hnodup
  have hfst : (c.items.map Prod.fst).Nodup := by
    refine List.Nodup.of_map lower ?_
    rwa [List.map_map]
  rw [toDict, Dict.get?_setAll, Dict.get?_empty, Option.or_none, Option.map_eq_some_iff,
    Log.latest_eq_some_iff_of_nodup hlower]
  constructor
  · rintro ⟨e, he, rfl⟩
    obtain ⟨hmem, rfl⟩ := (Log.latest_eq_some_iff_of_nodup hfst).1 he
    exact ⟨hmem, rfl⟩
  · rintro ⟨hmem, -⟩
    exact ⟨_, (Log.latest_eq_some_iff_of_nodup hfst).2 ⟨hmem, rfl⟩, rfl⟩

end CaseInsensitiveDict

namespace Session

theorem cookieName_of_nameOf {c : Value} {n : String} (h : nameOf c = .ok n) :
    cookieName c = some n := by
  cases c with
  | cookie name =>
    cases name with
    | str t =>
      cases h
      rfl
    | _ => cases h
  | _ => cases h

/-- A merged cookie takes the place of the one of its name. -/
theorem mergeCookie_spec {new : Value} {cookies merged : List Value}
    (h : mergeCookie new cookies = .ok merged) (hnodup : (cookies.map cookieName).Nodup) :
    (merged.map cookieName).Nodup ∧
      (∀ c ∈ merged, c ∈ cookies ∨ c = new) ∧
      ∀ n, Log.latest cookieName n merged = Log.latest cookieName n (cookies ++ [new]) := by
  induction cookies generalizing merged with
  | nil =>
    cases h
    exact ⟨List.nodup_singleton _, fun c hc => .inr (List.mem_singleton.1 hc), fun n => rfl⟩
  | cons existing cookies ih =>
    rw [mergeCookie] at h
    obtain ⟨a, ha, h⟩ := bind_eq_ok_iff.1 h
    obtain ⟨b, hb, h⟩ := bind_eq_ok_iff.1 h
    have hexisting := cookieName_of_nameOf ha
    have hnew := cookieName_of_nameOf hb
    rw [List.map_cons, List.nodup_cons] at hnodup
    split_ifs at h with hab
    · cases h
      subst hab
      refine ⟨?_, fun c hc => ?_, fun n => ?_⟩
      · rw [List.map_cons, List.nodup_cons, hnew, ← hexisting]
        exact hnodup
      · rw [List.mem_cons] at hc ⊢
        exact hc.symm.imp .inr id
      · simp only [Log.latest_append, Log.latest, hnew, hexisting]
        by_cases hn : some a = n
        · subst hn
          have hnone : Log.latest cookieName (some a) cookies = none :=
            Log.latest_eq_none_iff.2 fun c hc hname =>
              hnodup.1 (List.mem_map.2 ⟨c, hc, hname.trans hexisting.symm⟩)
          rw [hnone]
          simp
        · simp [hn]
    · obtain ⟨rest, hrest, h⟩ := bind_eq_ok_iff.1 h
      cases h
      obtain ⟨hrestNodup, hrestMem, hrestLatest⟩ := ih hrest hnodup.2
      refine ⟨?_, fun c hc => ?_, fun n => ?_⟩
      · rw [List.map_cons, List.nodup_cons]
        refine ⟨fun hmem => ?_, hrestNodup⟩
        obtain ⟨c, hc, hname⟩ := List.mem_map.1 hmem
        rcases hrestMem c hc with hc | rfl
        · exact hnodup.1 (List.mem_map.2 ⟨c, hc, hname⟩)
        · rw [hnew, hexisting] at hname
          exact hab (Option.some.inj hname).symm
      · rw [List.mem_cons] at hc ⊢
        rcases hc with rfl | hc
        · exact .inl (.inl rfl)
        · exact (hrestMem c hc).imp .inr id
      · rw [Log.latest, hrestLatest, List.cons_append, Log.latest]

variable {env : SessionEnv} {s : Session env.lower} {url : String} {kwargs : Kwargs HeaderDict}
  {d : Headers} {p : OptionsDict}

theorem mergesCookies_foldlM {news cookies merged : List Value}
    (h : news.foldlM (fun merged new => mergeCookie new merged) cookies = .ok merged)
    (hnodup : (cookies.map cookieName).Nodup) :
    (merged.map cookieName).Nodup ∧ ∀ n,
      Log.latest cookieName n merged = Log.latest cookieName n (cookies ++ news) := by
  induction news generalizing cookies with
  | nil =>
    cases h
    exact ⟨hnodup, fun n => by rw [List.append_nil]⟩
  | cons new news ih =>
    obtain ⟨rest, hrest, h⟩ := bind_eq_ok_iff.1 h
    obtain ⟨hrestNodup, -, hlatest⟩ := mergeCookie_spec hrest hnodup
    obtain ⟨hmerged, hlatest'⟩ := ih h hrestNodup
    refine ⟨hmerged, fun n => ?_⟩
    rw [hlatest', Log.latest_append, hlatest, ← Log.latest_append, List.append_assoc,
      List.singleton_append]

theorem nodup_getCookies : (s.getCookies.map cookieName).Nodup := by
  have hname : cookieName ∘ CookieObject.toValue = some ∘ CookieObject.name := rfl
  have hnodup := s.cookies.nodup
  rw [← s.cookiesKeyed.map_values] at hnodup
  rw [getCookies, List.map_map, hname, ← List.map_map]
  exact hnodup.map (Option.some_injective _)

/-- What the merge makes of the arguments of a request, with the session as it was. -/
theorem exec_mergeSessionState {kwargs' : Kwargs HeaderDict} {s' : Session env.lower}
    (h : exec (mergeSessionState kwargs d) s = (.ok kwargs', s')) :
    s' = s ∧ ∃ cookies, s.MergesCookies env kwargs cookies ∧ ∃ headers,
      (∀ name v, headers.get? name = some v ↔ s.Wants env kwargs d name v) ∧
      kwargs' = ((kwargs.setHeaders (.own headers)).set .cookies
        (if cookies = [] then .none else .list cookies)).set .auth (s.effectiveAuth kwargs) := by
  rw [mergeSessionState] at h
  obtain ⟨self, t, hself, h⟩ := exec_bind_eq_ok_iff.1 h
  cases hself
  obtain ⟨cookies, t, hcookies, h⟩ := exec_bind_eq_ok_iff.1 h
  obtain ⟨hmerge, rfl⟩ := Prod.mk.inj hcookies
  cases h
  refine ⟨rfl, cookies, ?_, _, fun name v => ?_, rfl⟩
  · obtain ⟨hnodup, hlatest⟩ := mergesCookies_foldlM hmerge nodup_getCookies
    exact ⟨hnodup, hlatest⟩
  · rw [CaseInsensitiveDict.get?_toDict, CaseInsensitiveDict.latest_update, Wants, givenHeaders,
      Log.latest_append, Log.latest_append, CaseInsensitiveDict.latest_ofItems]

/-! ## A request alone -/

/-- The headers have one user agent at most. -/
theorem firstKey_of_wants {headers : Headers} {name : String} {v : Value}
    (hheaders : ∀ name v, headers.get? name = some v ↔ s.Wants env kwargs d name v)
    (hname : isUserAgent name) (hv : s.Wants env kwargs d name v) :
    headers.firstKey isUserAgent = some name := by
  have hget := (hheaders name v).2 hv
  cases hfirst : headers.firstKey isUserAgent with
  | none =>
    have hmem : name ∈ headers.entries.map Prod.fst :=
      List.mem_map_of_mem (Dict.mem_entries_iff.2 hget)
    exact absurd hname (List.find?_eq_none.1 hfirst name hmem)
  | some k =>
    have hk : isUserAgent k := List.find?_some hfirst
    obtain ⟨⟨k', w⟩, hmem, rfl⟩ := List.mem_map.1 (List.mem_of_find?_eq_some hfirst)
    have hw := (hheaders k' w).1 (Dict.mem_entries_iff.1 hmem)
    rw [Wants, env.lower_eq _ hk, ← env.lower_eq _ hname] at hw
    rw [(Prod.mk.inj (Option.some.inj (hw.symm.trans hv))).1]

/-- What the payload of a request alone has, but for its URL. -/
theorem carries_of_prepareRequest {closed : Bool} {boundary method url' : String} {d' : Headers}
    {merged : Kwargs HeaderDict} {cookies : List Value}
    (hheaders : ∀ name v, (merged.contents d).get? name = some v ↔ s.Wants env kwargs d name v)
    (hoptions : ∀ k ∈ [Keyword.params, .json, .jsonData, .files, .fingerprint],
      merged.options k = kwargs.options k)
    (hmerges : s.MergesCookies env kwargs cookies)
    (hcookies : merged.options .cookies =
      some (if cookies = [] then .none else .list cookies))
    (hauth : merged.arg .auth = s.effectiveAuth kwargs)
    (h : exec (prepareRequest env.toPyEnv closed boundary method url' merged) d = (.ok p, d')) :
    s.Carries env url kwargs d p ↔
      mergeURLParams env.toPyEnv (s.joinedURL env url) (kwargs.arg .params) =
        mergeURLParams env.toPyEnv url' (kwargs.arg .params) := by
  have harg (k : Keyword) (hk : k ∈ [Keyword.params, .json, .jsonData, .files, .fingerprint]) :
      merged.arg k = kwargs.arg k := congrArg (Option.getD · Value.none) (hoptions k hk)
  have hprofile : merged.profile env.toPyEnv = kwargs.profile env.toPyEnv := by
    rw [Kwargs.profile, harg .fingerprint (by decide), Kwargs.profile]
  obtain ⟨json, kwargs', t, hjson, hpasses, hprepares, hsent, -, hheaderOf⟩ := exists_prepares h
  obtain ⟨u, hu, hurl⟩ := exists_mergeURLParams h
  rw [harg .params (by decide)] at hu
  rw [hprofile, hauth] at hprepares
  set e := withProfile env.toPyEnv (kwargs.profile env.toPyEnv)
    (withAuth env.toPyEnv (s.effectiveAuth kwargs) (merged.contents d)) with he
  -- a header that no other argument writes is there before it is prepared
  have hget {name : String} (hname : name = "Authorization" → (s.effectiveAuth kwargs).isNone) :
      e.get? name = ((merged.contents d).get? name).or
        ((kwargs.profile env.toPyEnv).bind (·.header env.toPyEnv name)) := by
    rw [he, get?_withProfile, get?_withAuth]
    by_cases hauthorization : name = "Authorization"
    · exact .inl (hname hauthorization)
    · exact .inr hauthorization
  constructor
  · intro hcarries
    obtain ⟨u', hu', hurl'⟩ := hcarries.url
    rw [hu', hu, Value.str.inj (hurl'.symm.trans hurl)]
  intro hsame
  refine ⟨fun name v hv hkept => ?_, fun name v hmerged hv => ?_, ⟨cookies, hmerges, ?_⟩,
    fun hsome => ?_, u, hsame.trans hu, hurl⟩
  · have hev : e.get? name = some v := by
      rw [hget hkept.auth, (hheaders name v).2 hv, Option.some_or]
    cases hagent : isUserAgent name with
    | true =>
      refine .inr ⟨rfl, ?_⟩
      have hfirst : e.firstKey isUserAgent = some name := by
        have hmergedFirst := firstKey_of_wants hheaders hagent hv
        rw [he]
        cases hp : kwargs.profile env.toPyEnv with
        | none => rw [withProfile, firstKey_withAuth, hmergedFirst]
        | some profile =>
          rw [withProfile, TLSFingerprint.firstKey_mergedHeaders, firstKey_withAuth, hmergedFirst,
            hkept.userAgent hagent profile hp, Option.none_or]
      have hsentAgent := hsent .userAgent (by decide)
      rw [hprepares.userAgent, hfirst, Option.bind_some, hev, Option.some_or] at hsentAgent
      exact (Except.ok.inj hsentAgent).symm
    | false =>
      refine .inl ?_
      rw [hheaderOf]
      by_cases htype : name = "Content-Type"
      · subst htype
        obtain ⟨hjsonNone, hjsonData, hfiles⟩ := hkept.contentType rfl
        refine hprepares.contentType ?_ ?_ v hev
        · rw [takeJson, harg .json (by decide), if_pos hjsonNone,
            harg .jsonData (by decide)] at hjson
          rw [← Except.ok.inj hjson]
          exact hjsonData
        · have hnone : (kwargs.profile env.toPyEnv).bind (·.sets .files) = none :=
            Option.bind_eq_none_iff.2 fun _ _ => rfl
          rw [hoptions .files (by decide), ← hprofile, hprofile, hnone, Option.or_none]
          exact hfiles
      · rw [hprepares.header name hagent htype, hev]
  · rw [hheaderOf, hprepares.header name hmerged.userAgent hmerged.contentType, hget hmerged.auth,
      hmerged.profile, Option.or_none] at hv
    exact (hheaders name v).1 hv
  · have hsentCookies := hsent .cookies (by decide)
    rw [hprepares.cookies, hcookies, Option.some_or, Option.map_some] at hsentCookies
    exact hsentCookies
  · obtain ⟨credentials, hcredentials⟩ := hpasses (hauth ▸ hsome)
    rw [hauth] at hcredentials
    refine ⟨credentials, hcredentials, ?_⟩
    rw [hheaderOf, hprepares.header _ (by decide) (by decide), he, get?_withProfile, withAuth,
      hcredentials, Dict.get?_set, Function.update_self, Option.some_or]

/-! ## A request in a batch -/

theorem get?_batchBody {headers headers' : Headers} {body : Option String} {bytes : Option Bytes}
    (h : batchBody env.toPyEnv (kwargs.arg .jsonData) (kwargs.arg .data) headers =
      .ok (body, bytes, headers')) {name : String}
    (hname : name = "Content-Type" → (kwargs.arg .jsonData).isNone) :
    headers'.get? name = (headers.get? name).or
      (match kwargs.arg .data with
        | .dict _ =>
          if name = "Content-Type" then some (.str "application/x-www-form-urlencoded") else none
        | _ => none) := by
  unfold batchBody at h
  split_ifs at h with hjson hdata
  · -- JSON has a content type of its own
    obtain ⟨text, -, h⟩ := bind_eq_ok_iff.1 h
    cases h
    have hne : name ≠ "Content-Type" := by
      rintro rfl
      rw [hname rfl] at hjson
      cases hjson
    have hdataNone : kwargs.arg .data = .none := by
      revert hdata
      cases kwargs.arg .data <;> simp [Value.isNone]
    rw [hdataNone, Dict.get?_set, Function.update_of_ne hne, Option.or_none]
  · generalize kwargs.arg .data = data at h
    cases data with
    | dict items =>
      cases h
      rw [Dict.get?_setDefault]
      by_cases hne : name = "Content-Type"
      · rw [hne, Function.update_self, if_pos rfl]
      · rw [Function.update_of_ne hne, if_neg hne, Option.or_none]
    | _ =>
      cases h
      exact Option.or_none.symm

/-- What the payload of a request in a batch has. -/
theorem exists_buildBatchPayload {method : String} {d' : Headers}
    (h : exec (buildBatchPayload env.toPyEnv (some url) (some method) kwargs) d = (.ok p, d')) :
    ∃ u, mergeURLParams env.toPyEnv url (kwargs.arg .params) = .ok u ∧
      Value.get p "url" = .str u ∧ Value.get p "cookies" = .none ∧
      Value.get p "userAgent" = (kwargs.options .userAgent).getD (.str defaultUserAgent) ∧
      ∀ name, (name = "Content-Type" → (kwargs.arg .jsonData).isNone) →
        headerOf p name = batchHeader kwargs d name := by
  rw [buildBatchPayload] at h
  obtain ⟨⟨dict, shared⟩, t, hdict, h⟩ := exec_bind_eq_ok_iff.1 h
  obtain ⟨headers, t', hheaders, h⟩ := exec_bind_eq_ok_iff.1 h
  obtain ⟨u, t'', hu, h⟩ := exec_bind_eq_ok_iff.1 h
  obtain ⟨⟨body, bodyBytes, headers'⟩, t₃, hbody, h⟩ := exec_bind_eq_ok_iff.1 h
  obtain ⟨headerValues, t₄, -, h⟩ := exec_bind_eq_ok_iff.1 h
  cases h
  obtain ⟨rfl, hcontents, -⟩ := ensures_headersOr _ _ hdict
  obtain ⟨rfl, rfl⟩ := ensures_read _ _ hheaders
  obtain ⟨hurl, rfl⟩ := Prod.mk.inj hu
  obtain ⟨hheader, rfl⟩ := Prod.mk.inj hbody
  refine ⟨u, hurl, rfl, ?_, ?_, fun name hname => ?_⟩
  · simp [Value.get, List.lookup_append, List.lookup_cons, lookup_entry_of_ne]
  · simp [Value.get, List.lookup_cons]
  · rw [headerOf, batchHeader, ← hcontents, ← get?_batchBody hheader hname]
    exact Dict.lookup_entries headers' name

theorem mergesCookies_nil_iff : s.MergesCookies env kwargs [] ↔
    s.getCookies ++ requestCookies (kwargs.arg .cookies) = [] := by
  constructor
  · intro h
    refine List.eq_nil_iff_forall_not_mem.2 fun c hc => ?_
    exact Log.latest_eq_none_iff.1 (h.latest (cookieName c)).symm c hc rfl
  · intro h
    exact ⟨List.nodup_nil, fun n => by rw [h]⟩

/-- The payload of a request in a batch has no cookies. -/
theorem carries_of_buildBatchPayload {method : String} {d' : Headers}
    (h : exec (buildBatchPayload env.toPyEnv (some url) (some method) kwargs) d = (.ok p, d')) :
    s.Carries env url kwargs d p ↔ s.Idle env url kwargs d := by
  obtain ⟨u, hu, hurl, hcookies, hagent, hheader⟩ := exists_buildBatchPayload h
  have hown {name : String} (hname : name ≠ "Content-Type") :
      headerOf p name = (kwargs.contents d).get? name := by
    rw [hheader name fun heq => absurd heq hname, batchHeader]
    split
    · rw [if_neg hname, Option.or_none]
    · exact Option.or_none
  constructor
  · intro hcarries
    refine ⟨fun name v hv hkept => ?_, fun name v hmerged hv => ?_, ?_, fun hsome => ?_, ?_⟩
    · rw [← hheader name fun heq => (hkept.contentType heq).2.1, ← hagent]
      exact hcarries.header name v hv hkept
    · exact hcarries.unique name v hmerged ((hown hmerged.contentType).trans hv)
    · obtain ⟨cookies, hmerges, hsent⟩ := hcarries.cookies
      rw [hcookies] at hsent
      cases cookies with
      | nil => exact mergesCookies_nil_iff.1 hmerges
      | cons c cookies =>
        obtain ⟨items, -, hsent⟩ := bind_eq_ok_iff.1 hsent
        obtain ⟨dicts, -, hsent⟩ := bind_eq_ok_iff.1 hsent
        cases hsent
    · obtain ⟨credentials, hcredentials, hv⟩ := hcarries.auth hsome
      exact ⟨credentials, hcredentials, (hown (by decide)).symm.trans hv⟩
    · obtain ⟨u', hu', hurl'⟩ := hcarries.url
      rw [hu', hu, Value.str.inj (hurl'.symm.trans hurl)]
  · intro hidle
    refine ⟨fun name v hv hkept => ?_, fun name v hmerged hv => ?_,
      ⟨[], mergesCookies_nil_iff.2 hidle.cookies, ?_⟩, fun hsome => ?_, u, hidle.url.trans hu, hurl⟩
    · rw [hheader name fun heq => (hkept.contentType heq).2.1, hagent]
      exact hidle.header name v hv hkept
    · exact hidle.unique name v hmerged ((hown hmerged.contentType).symm.trans hv)
    · rw [hcookies]
      rfl
    · obtain ⟨credentials, hcredentials, hv⟩ := hidle.auth hsome
      exact ⟨credentials, hcredentials, (hown (by decide)).trans hv⟩

/-! ## Every entry point -/

theorem isAbsolute_of_startsHTTP {url : String} (h : startsHTTP url) : isAbsolute url := by
  rw [startsHTTP, Bool.or_eq_true, List.isPrefixOf_iff_prefix, List.isPrefixOf_iff_prefix] at h
  rcases h with ⟨rest, hrest⟩ | ⟨rest, hrest⟩ <;> rw [isAbsolute, ← hrest] <;> rfl

/-- A session tells `http` and `https` from a relative URL, but no other scheme. -/
theorem keepsAbsolute_iff : s.KeepsAbsolute env url kwargs ↔
    mergeURLParams env.toPyEnv (s.joinedURL env url) (kwargs.arg .params) =
      mergeURLParams env.toPyEnv (s.prepareURL url) (kwargs.arg .params) := by
  rw [KeepsAbsolute, joinedURL, prepareURL]
  cases s.baseURL with
  | none => exact iff_of_true nofun rfl
  | some base =>
    by_cases hbase : base = ""
    · exact iff_of_true (by rintro _ ⟨⟩ h; exact absurd hbase h) (by simp [hbase])
    · cases hstarts : startsHTTP url with
      | true => simp [hbase, isAbsolute_of_startsHTTP hstarts]
      | false => cases habsolute : isAbsolute url <;> simp [hbase]

/-- What the entry points of a session do but for the client's function they call. -/
theorem exists_merged {send : String → Kwargs HeaderDict → PyM OptionsDict}
    {s' : Session env.lower}
    (h : exec (do
      let url := (← get).prepareURL url
      let kwargs ← mergeSessionState kwargs d
      liftM (exec (send url kwargs) d).1 : SessionM env.lower OptionsDict) s = (.ok p, s')) :
    s' = s ∧ ∃ cookies headers d', s.MergesCookies env kwargs cookies ∧
      (∀ name v, headers.get? name = some v ↔ s.Wants env kwargs d name v) ∧
      exec (send (s.prepareURL url) (((kwargs.setHeaders (.own headers)).set .cookies
        (if cookies = [] then .none else .list cookies)).set .auth (s.effectiveAuth kwargs))) d =
          (.ok p, d') := by
  obtain ⟨self, t, hself, h⟩ := exec_bind_eq_ok_iff.1 h
  cases hself
  obtain ⟨merged, t, hmerge, h⟩ := exec_bind_eq_ok_iff.1 h
  obtain ⟨rfl, cookies, hmerges, headers, hheaders, rfl⟩ := exec_mergeSessionState hmerge
  obtain ⟨hp, rfl⟩ := Prod.mk.inj h
  exact ⟨rfl, cookies, headers, _, hmerges, hheaders, Prod.ext hp rfl⟩

/-- What a payload has for a request with what is merged, whatever the parameters that
    `arequest` keeps for itself. -/
theorem carries_of_merged {closed : Bool} {boundary method : String} {d' : Headers}
    {merged : Kwargs HeaderDict} {cookies : List Value} {headers : Headers}
    (hmerges : s.MergesCookies env kwargs cookies)
    (hheaders : ∀ name v, headers.get? name = some v ↔ s.Wants env kwargs d name v)
    (hmerged : merged.headers = some (some (.own headers)))
    (hoptions : ∀ k ∉ swallowed, merged.options k = (((kwargs.setHeaders (.own headers)).set
      .cookies (if cookies = [] then .none else .list cookies)).set .auth
        (s.effectiveAuth kwargs)).options k)
    (h : exec (prepareRequest env.toPyEnv closed boundary method (s.prepareURL url) merged) d =
      (.ok p, d')) :
    s.Carries env url kwargs d p ↔ s.KeepsAbsolute env url kwargs := by
  rw [keepsAbsolute_iff]
  refine carries_of_prepareRequest ?_ ?_ hmerges ?_ ?_ h
  · rwa [Kwargs.contents, hmerged]
  · intro k hk
    rw [hoptions k (by revert hk; cases k <;> decide),
      options_set_of_ne (by rintro rfl; exact absurd hk (by decide)),
      options_set_of_ne (by rintro rfl; exact absurd hk (by decide))]
    rfl
  · rw [hoptions _ (by decide), options_set_of_ne (by decide)]
    rfl
  · rw [Kwargs.arg, hoptions _ (by decide)]
    rfl

/-- A request alone has what the session and the request come to, but for an absolute URL that
    gets the base URL; one in a batch has only what it is given. -/
theorem carries_iff {entry : SessionEntry} {closed : Bool} {boundary method : String}
    {s' : Session env.lower}
    (h : exec (entry.options env closed boundary method url kwargs d) s = (.ok p, s')) :
    (s.Carries env url kwargs d p ∧ s' = s) ↔
      match entry with
      | .request | .arequest => s.KeepsAbsolute env url kwargs
      | .batch | .abatch => s.Idle env url kwargs d := by
  cases entry with
  | request =>
    obtain ⟨rfl, cookies, headers, d', hmerges, hheaders, hp⟩ := exists_merged h
    exact (and_iff_left rfl).trans (carries_of_merged hmerges hheaders rfl (fun _ _ => rfl) hp)
  | arequest =>
    obtain ⟨rfl, cookies, headers, d', hmerges, hheaders, hp⟩ := exists_merged h
    exact (and_iff_left rfl).trans (carries_of_merged hmerges hheaders rfl
      (fun _ hk => Kwargs.options_replace _ hk) hp)
  | batch =>
    change exec (Session.batch env closed method url kwargs d) s = _ at h
    rw [Session.batch] at h
    split_ifs at h
    · cases h
    · obtain ⟨hp, rfl⟩ := Prod.mk.inj h
      exact (and_iff_left rfl).trans (carries_of_buildBatchPayload (Prod.ext hp rfl))
  | abatch =>
    change exec (Session.abatch env closed method url kwargs d) s = _ at h
    rw [Session.abatch] at h
    split_ifs at h
    · cases h
    · obtain ⟨hp, rfl⟩ := Prod.mk.inj h
      exact (and_iff_left rfl).trans (carries_of_buildBatchPayload (Prod.ext hp rfl))

end Session

/-! ## A header of the session -/

/-- `str.lower`, for ASCII. -/
def SessionEnv.plain : SessionEnv where
  toPyEnv := .plain
  lower name := String.ofList (CycleTLS.lower name.toList)
  lower_eq name h := by
    rw [of_decide_eq_true h]
    rfl

/-- A session whose only state is a header. -/
def Session.withHeader {lower : String → String} (name : String) (v : Value) : Session lower where
  headers := .ofItems [(name, v)]
  cookies := .empty
  cookiesKeyed := Dict.keyed_empty
  auth := .none
  baseURL := none

/-- `"https://h/"`, with a header of the session. -/
theorem carries_request : ∃ p,
    exec (SessionEntry.request.options .plain false "" "GET" "https://h/" {} .empty)
      (.withHeader "X-Key" (.str "k")) = (.ok p, .withHeader "X-Key" (.str "k")) ∧
    (Session.withHeader "X-Key" (.str "k")).Carries .plain "https://h/" {} .empty p := by
  obtain ⟨p, hp⟩ : ∃ p, exec (SessionEntry.request.options .plain false "" "GET" "https://h/"
      {} .empty) (.withHeader "X-Key" (.str "k")) = (.ok p, .withHeader "X-Key" (.str "k")) :=
    ⟨_, rfl⟩
  exact ⟨p, hp, ((Session.carries_iff hp).2 nofun).1⟩

/-- A batch does not have the header. -/
theorem not_forall_carries : ¬∀ (env : SessionEnv) (s s' : Session env.lower)
    (entry : SessionEntry) (closed : Bool) (boundary method url : String)
    (kwargs : Kwargs HeaderDict) (d : Headers) (p : OptionsDict),
    exec (entry.options env closed boundary method url kwargs d) s = (.ok p, s') →
      s.Carries env url kwargs d p ∧ s' = s := by
  intro h
  obtain ⟨p, hp⟩ : ∃ p, exec (SessionEntry.batch.options .plain false "" "GET" "https://h/"
      {} .empty) (.withHeader "X-Key" (.str "k")) = (.ok p, .withHeader "X-Key" (.str "k")) :=
    ⟨_, rfl⟩
  have hcarries := (h .plain _ _ .batch false "" "GET" "https://h/" {} .empty p hp).1
  have hidle := (Session.carries_of_buildBatchPayload (Prod.ext (Prod.mk.inj hp).1 rfl)).1 hcarries
  rcases hidle.header "X-Key" (.str "k") rfl ⟨nofun, nofun, nofun⟩ with hheader | ⟨hagent, -⟩
  · cases hheader
  · exact absurd hagent (by decide)

end CycleTLS
