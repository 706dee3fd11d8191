import CycleTLS.CookieJar
import CycleTLS.Delivery
import CycleTLS.Lib.Machine

/-!
# Sessions (`sessions.py`)

A session keeps the cookies that its responses report and sends them with each
request. It learns of a deletion only by the cookie not being reported, and then
keeps what it has; and the cookies of a request that raises are lost.

The cookies it sends are hence those that the servers last set (`Sends`) exactly
as long as no response deletes a cookie which the session has or the final
response mentions, and no request that raises changes one
(`sends_iff_keeps`).
-/

namespace CycleTLS

open Raising

/-! ## Cookies in Python (`structures.py`) -/

/-- A `CookieJar`: the cookies by name. -/
abbrev PyCookieJar := Dict String Cookie

/-- `CookieJar(cookies)`. -/
def PyCookieJar.ofList (cookies : List Cookie) : PyCookieJar :=
  Dict.empty.setAll Cookie.name id cookies

/-- The cookie that `CookieJar.set` makes of a name and the value of another
    cookie. -/
def resetCookie (e : String × Cookie) : Cookie := { name := e.1, value := e.2.value }

/-- `Response.cookies`. -/
def Response.cookies (r : Response) : PyCookieJar := .ofList (r.rawCookies.getD [])

/-- `_merge_cookie`. -/
def mergeCookie : List Cookie → Cookie → List Cookie
  | [], new => [new]
  | c :: cs, new => if c.name = new.name then new :: cs else c :: mergeCookie cs new

/-- The cookies in `_merge_session_state`. -/
def mergeSessionState (jar : PyCookieJar) (requestCookies : List Cookie) : List Cookie :=
  requestCookies.foldl mergeCookie jar.values

/-- `_update_cookies_from_response`. -/
def updateCookiesFromResponse (jar : PyCookieJar) (r : Response) : PyCookieJar :=
  jar.setAll Prod.fst resetCookie r.cookies.entries

/-! ## Requests -/

/-- What of a response does not concern cookies. -/
structure Received where
  status : Int
  body : Bytes
  headers : List (Bytes × Bytes)
  finalUrl : Bytes
  proto : String

/-- How an exchange ends. -/
inductive Ended
  /-- With a final response. -/
  | final (cookies : List CookieEvent) (rest : Received)
  /-- With the response of another try, for one that lacks its location. -/
  | resent (cookies : List CookieEvent) (rest : Received)
  | failed (err : GoError)
  /-- With a body that is not read to its end, for the reason given. -/
  | unread (message : Bytes)

/-- A request, with the cookies of each response that is followed or followed by
    a failure, and its end. -/
structure Exchange where
  followed : List (List CookieEvent)
  ended : Ended

namespace Exchange

variable (x : Exchange)

/-- The cookies of the final response. -/
def finalCookies : List CookieEvent :=
  match x.ended with
  | .final cookies _ | .resent cookies _ => cookies
  | _ => []

/-- The cookie events of all responses. -/
def events : List CookieEvent := x.followed.flatten ++ x.finalCookies

/-- The jar of the request: it is passed by when a response is asked for again. -/
def jar : RecordingJar :=
  let jar := x.followed.foldl RecordingJar.setCookies .new
  match x.ended with
  | .final cookies _ => jar.setCookies cookies
  | _ => jar

/-- The cookies that are reported. -/
def merged : List NetCookie :=
  mergedResponseCookies x.jar.cookies (x.finalCookies.map CookieEvent.cookie)

/-- What the FFI hands to Python. -/
def payload (id : String) : Payload :=
  match x.ended with
  | .final _ r | .resent _ r =>
    buildResponsePayload id (Do.received r.status r.body r.headers x.merged r.finalUrl r.proto)
  | .failed err => buildResponsePayload id (Do.failed err)
  | .unread message => buildErrorPayload id message

end Exchange

/-- `Session.request`, on the cookies of the session. -/
def sessionRequest (fracOk : Nat → Bool) (id : String) (jar : PyCookieJar) (x : Exchange) :
    PyCookieJar :=
  match receive fracOk (x.payload id) with
  | .ok r => updateCookiesFromResponse jar r
  | .error _ => jar

/-! ## What a request leaves -/

theorem keyed_updateCookiesFromResponse {jar : PyCookieJar} (h : jar.Keyed Cookie.name)
    (r : Response) : (updateCookiesFromResponse jar r).Keyed Cookie.name := by
  have hreset : ∀ e, (resetCookie e).name = e.1 := fun _ => rfl
  exact h.setAll hreset _

/-- The value of a cookie in a jar. -/
def PyCookieJar.value? (jar : PyCookieJar) (name : String) : Option String :=
  (jar.get? name).map Cookie.value

/-- A name that a response reports gets the value it reports last. -/
theorem value?_updateCookiesFromResponse (jar : PyCookieJar) (r : Response) (n : String) :
    (updateCookiesFromResponse jar r).value? n =
      ((Log.latest Cookie.name n (r.rawCookies.getD [])).map Cookie.value).or (jar.value? n) := by
  rw [PyCookieJar.value?, updateCookiesFromResponse, Dict.get?_setAll, Dict.latest_entries,
    Response.cookies, PyCookieJar.ofList, Dict.get?_setAll, PyCookieJar.value?]
  cases Log.latest Cookie.name n (r.rawCookies.getD []) <;> rfl

theorem map_of_mapM_eq_ok {α β γ : Type} {f : α → Except PyException β} {g : β → γ} {g' : α → γ}
    (hf : ∀ a b, f a = .ok b → g b = g' a) {l : List α} {l' : List β} (h : l.mapM f = .ok l') :
    l'.map g = l.map g' := by
  induction l generalizing l' with
  | nil =>
    cases h
    rfl
  | cons a l ih =>
    rw [List.mapM_cons] at h
    obtain ⟨b, hb, h⟩ := bind_eq_ok_iff.1 h
    obtain ⟨bs, hbs, h⟩ := bind_eq_ok_iff.1 h
    cases h
    rw [List.map_cons, List.map_cons, hf a b hb, ih hbs]

theorem pair_dictToCookie {fracOk : Nat → Bool} {data : CookieDict} {c : Cookie}
    (h : dictToCookie fracOk data = .ok c) : (c.name, c.value) = (data.name, data.value) := by
  obtain ⟨expires, -, h⟩ := bind_eq_ok_iff.1 h
  cases h
  rfl

/-- Cookies are read with their names and values. -/
theorem map_pair_readCookies {fracOk : Nat → Bool} {cookies : List NetCookie}
    {cs : Option (List Cookie)} (h : readCookies fracOk (convertCookies cookies) = .ok cs) :
    (cs.getD []).map (fun c => (c.name, c.value)) = cookies.map fun c => (c.name, c.value) := by
  rw [readCookies] at h
  split_ifs at h with hlen
  · cases hm : (convertCookies cookies).mapM (dictToCookie fracOk) with
    | error e => rw [hm] at h; cases h
    | ok l =>
      rw [hm] at h
      cases h
      rw [Option.getD_some, map_of_mapM_eq_ok (fun _ _ => pair_dictToCookie) hm, convertCookies,
        List.map_map]
      rfl
  · cases h
    have hnil : cookies = [] := by
      rw [convertCookies, List.length_map] at hlen
      exact List.length_eq_zero_iff.1 (by omega)
    rw [hnil]
    rfl

/-- The last value of a name. -/
theorem latest_value {α : Type*} (name value : α → String) (l : List α) (n : String) :
    (Log.latest name n l).map value =
      (Log.latest Prod.fst n (l.map fun a => (name a, value a))).map Prod.snd := by
  rw [Log.latest_map]
  cases Log.latest name n l <;> rfl

theorem latest_readCookies {fracOk : Nat → Bool} {cookies : List NetCookie}
    {cs : Option (List Cookie)} (h : readCookies fracOk (convertCookies cookies) = .ok cs)
    (n : String) :
    (Log.latest Cookie.name n (cs.getD [])).map Cookie.value =
      (Log.latest NetCookie.name n cookies).map NetCookie.value := by
  rw [latest_value, map_pair_readCookies h, ← latest_value]

variable {fracOk : Nat → Bool}

/-- A response reaches Python with its cookies. -/
def Exchange.Delivered (fracOk : Nat → Bool) (x : Exchange) : Prop :=
  match x.ended with
  | .final _ r | .resent _ r =>
    Deliverable fracOk (Do.received r.status r.body r.headers x.merged r.finalUrl r.proto)
  | _ => False

/-- What a received response is turned into, if it is delivered. -/
theorem value?_received (id : String) (jar : PyCookieJar) (resp : GoResponse)
    (hbytes : resp.bodyBytes = resp.body) (n : String) :
    (Deliverable fracOk resp → (match receive fracOk (buildResponsePayload id resp) with
        | .ok r => updateCookiesFromResponse jar r
        | .error _ => jar).value? n =
      ((Log.latest NetCookie.name n resp.cookies).map NetCookie.value).or (jar.value? n)) ∧
    (¬Deliverable fracOk resp → (match receive fracOk (buildResponsePayload id resp) with
        | .ok r => updateCookiesFromResponse jar r
        | .error _ => jar) = jar) := by
  -- the jar is updated exactly when a response is returned, which is when it is deliverable
  cases hr : receive fracOk (buildResponsePayload id resp) with
  | ok r =>
    refine ⟨fun _ => ?_, fun h => absurd (deliverable_of_receive hr) h⟩
    simp only [value?_updateCookiesFromResponse]
    rw [latest_readCookies (readCookies_of_receive hr)]
  | error e =>
    refine ⟨fun h => ?_, fun _ => rfl⟩
    obtain ⟨r, hok, -⟩ := (delivers_iff id resp hbytes).2 h
    rw [hr] at hok
    cases hok

namespace Exchange

variable (x : Exchange)

theorem jar_eq : x.jar = RecordingJar.new.setCookies
    (match x.ended with
      | .final _ _ => x.events
      | _ => x.followed.flatten) := by
  have hfold : x.followed.foldl RecordingJar.setCookies .new =
      RecordingJar.new.setCookies x.followed.flatten := by
    rw [RecordingJar.setCookies, List.foldl_flatten]
    rfl
  rw [jar, hfold, events, finalCookies]
  cases x.ended with
  | final cookies rest => exact List.foldl_append.symm
  | _ => rfl

/-- The last reported cookie of a name: the last one of the final response, or what
    the responses before it left. -/
theorem latest_merged (n : String) :
    Log.latest NetCookie.name n x.merged =
      ((Log.latest CookieEvent.name n x.finalCookies).map CookieEvent.cookie).or
        ((Log.latest CookieEvent.name n x.followed.flatten).bind CookieEvent.kept) := by
  have hcons : x.jar.Consistent := x.jar_eq ▸ RecordingJar.consistent_new.setCookies _
  have hfinal : Log.latest NetCookie.name n (x.finalCookies.map CookieEvent.cookie) =
      (Log.latest CookieEvent.name n x.finalCookies).map CookieEvent.cookie := Log.latest_map ..
  rw [merged, latest_mergedResponseCookies, Log.latest_append, hfinal, hcons.latest_cookies, jar_eq,
    RecordingJar.seen_setCookies]
  cases hf : Log.latest CookieEvent.name n x.finalCookies with
  | some e => rfl
  | none =>
    -- Then it does not matter whether the jar has seen the final response.
    have hevents : Log.latest CookieEvent.name n x.events =
        Log.latest CookieEvent.name n x.followed.flatten := by
      rw [events, Log.latest_append, hf, Option.none_or]
    rw [Option.map_none, Option.none_or, Option.none_or]
    cases x.ended with
    | final cookies rest =>
      simp only [hevents]
      cases Log.latest CookieEvent.name n x.followed.flatten <;> rfl
    | _ =>
      simp only []
      cases Log.latest CookieEvent.name n x.followed.flatten <;> rfl

end Exchange

theorem value?_sessionRequest {id : String} {jar : PyCookieJar} {x : Exchange}
    (h : x.Delivered fracOk) (n : String) :
    (sessionRequest fracOk id jar x).value? n =
      ((Log.latest NetCookie.name n x.merged).map NetCookie.value).or (jar.value? n) := by
  rw [Exchange.Delivered] at h
  rw [sessionRequest, Exchange.payload]
  -- only a final or repeated request delivers anything
  cases hx : x.ended with
  | final cookies r =>
    rw [hx] at h
    exact (value?_received id jar _ rfl n).1 h
  | resent cookies r =>
    rw [hx] at h
    exact (value?_received id jar _ rfl n).1 h
  | failed err =>
    rw [hx] at h
    exact h.elim
  | unread message =>
    rw [hx] at h
    exact h.elim

/-- A response without cookies changes nothing. -/
theorem sessionRequest_of_cookies_eq_nil {id : String} {jar : PyCookieJar} {x : Exchange}
    (h : (x.payload id).cookies = []) : sessionRequest fracOk id jar x = jar := by
  rw [sessionRequest]
  cases hr : receive fracOk (x.payload id) with
  | error e => rfl
  | ok r =>
    have hcookies := readCookies_of_receive hr
    rw [h] at hcookies
    cases hcs : r.rawCookies with
    | none => simp only [updateCookiesFromResponse, Response.cookies, hcs]; rfl
    | some cs => rw [hcs] at hcookies; cases hcookies

theorem sessionRequest_of_not_delivered {id : String} {jar : PyCookieJar} {x : Exchange}
    (h : ¬x.Delivered fracOk) : sessionRequest fracOk id jar x = jar := by
  rw [Exchange.Delivered] at h
  cases hx : x.ended with
  | final cookies r =>
    rw [hx] at h
    rw [sessionRequest, Exchange.payload, hx]
    exact (value?_received id jar _ rfl "").2 h
  | resent cookies r =>
    rw [hx] at h
    rw [sessionRequest, Exchange.payload, hx]
    exact (value?_received id jar _ rfl "").2 h
  | failed err => exact sessionRequest_of_cookies_eq_nil (by rw [Exchange.payload, hx]; rfl)
  | unread message => exact sessionRequest_of_cookies_eq_nil (by rw [Exchange.payload, hx]; rfl)

/-! ## Runs -/

/-- The cookies a session has, and all the cookie events it saw. -/
structure SessionState where
  jar : PyCookieJar
  log : List CookieEvent

/-- A new session. -/
def SessionState.new : SessionState := ⟨.empty, []⟩

/-- A request of a session. -/
def SessionState.step (fracOk : Nat → Bool) (id : String) (s : SessionState) (x : Exchange) :
    SessionState × Unit :=
  (⟨sessionRequest fracOk id s.jar x, s.log ++ x.events⟩, ())

/-- The names and values of the cookies sent with a request that adds none. -/
def sentCookies (jar : PyCookieJar) : List (String × String) :=
  (mergeSessionState jar []).map fun c => (c.name, c.value)

/-- The value that the last event of a name leaves. -/
def lastValue (log : List CookieEvent) (n : String) : Option String :=
  ((Log.latest CookieEvent.name n log).bind CookieEvent.kept).map NetCookie.value

/-- The session sends, for each name once, the value that its last event leaves. -/
structure SessionState.Sends (s : SessionState) : Prop where
  once : ((sentCookies s.jar).map Prod.fst).Nodup
  value : ∀ n v, (n, v) ∈ sentCookies s.jar ↔ ∃ e, Log.latest CookieEvent.name n s.log = some e ∧
    e.deletes = false ∧ e.cookie.value = v

/-- What leaves a session right: that a request which is delivered deletes no
    cookie that the session has or the final response mentions, and that any
    other request changes no cookie. -/
def Keeps (fracOk : Nat → Bool) (jar : PyCookieJar) (x : Exchange) : Prop :=
  ∀ n e, Log.latest CookieEvent.name n x.events = some e →
    (x.Delivered fracOk → e.deletes = true →
      (∀ e' ∈ x.finalCookies, e'.name ≠ n) ∧ jar.value? n = none) ∧
    (¬x.Delivered fracOk → jar.value? n = e.kept.map NetCookie.value)

theorem mem_sentCookies_iff {jar : PyCookieJar} (h : jar.Keyed Cookie.name) {n v : String} :
    (n, v) ∈ sentCookies jar ↔ jar.value? n = some v := by
  rw [sentCookies, mergeSessionState, List.foldl_nil, List.mem_map, PyCookieJar.value?,
    Option.map_eq_some_iff]
  constructor
  · rintro ⟨c, hc, hcv⟩
    cases hcv
    exact ⟨c, h.mem_values_iff.1 hc, rfl⟩
  · rintro ⟨c, hc, rfl⟩
    have hname := h _ (Dict.mem_entries_iff.2 hc)
    exact ⟨c, h.mem_values_iff.2 (hname ▸ hc), Prod.ext hname rfl⟩

theorem nodup_sentCookies {jar : PyCookieJar} (h : jar.Keyed Cookie.name) :
    ((sentCookies jar).map Prod.fst).Nodup := by
  have hnames : (sentCookies jar).map Prod.fst = jar.values.map Cookie.name := by
    rw [sentCookies, List.map_map]
    rfl
  rw [hnames, h.map_values]
  exact jar.nodup

theorem lastValue_eq_some_iff {log : List CookieEvent} {n v : String} :
    lastValue log n = some v ↔ ∃ e, Log.latest CookieEvent.name n log = some e ∧
      e.deletes = false ∧ e.cookie.value = v := by
  rw [lastValue]
  cases Log.latest CookieEvent.name n log with
  | none => simp
  | some e =>
    cases hd : e.deletes <;> simp [CookieEvent.kept, hd]

theorem SessionState.sends_iff {s : SessionState} (h : s.jar.Keyed Cookie.name) :
    s.Sends ↔ ∀ n, s.jar.value? n = lastValue s.log n := by
  constructor
  · intro hs n
    rw [Option.ext_iff]
    intro v
    rw [← mem_sentCookies_iff h, hs.value, lastValue_eq_some_iff]
  · intro hv
    refine ⟨nodup_sentCookies h, fun n v => ?_⟩
    rw [mem_sentCookies_iff h, hv, lastValue_eq_some_iff]

theorem keyed_sessionRequest {id : String} {jar : PyCookieJar} (h : jar.Keyed Cookie.name)
    (x : Exchange) : (sessionRequest fracOk id jar x).Keyed Cookie.name := by
  rw [sessionRequest]
  split
  · exact keyed_updateCookiesFromResponse h _
  · exact h

/-- What a request that is delivered makes of a name. -/
theorem value?_delivered_iff {id : String} {jar : PyCookieJar} {log : List CookieEvent}
    {x : Exchange} (h : x.Delivered fracOk) {n : String} (hn : jar.value? n = lastValue log n) :
    (sessionRequest fracOk id jar x).value? n = lastValue (log ++ x.events) n ↔
      ∀ e, Log.latest CookieEvent.name n x.events = some e → e.deletes = true →
        (∀ e' ∈ x.finalCookies, e'.name ≠ n) ∧ jar.value? n = none := by
  rw [value?_sessionRequest h, x.latest_merged, lastValue, Log.latest_append, Exchange.events,
    Log.latest_append, ← Log.latest_eq_none_iff]
  cases hf : Log.latest CookieEvent.name n x.finalCookies with
  | some e =>
    cases hd : e.deletes <;> simp [CookieEvent.kept, hd]
  | none =>
    cases hb : Log.latest CookieEvent.name n x.followed.flatten with
    | none => simpa [lastValue] using hn
    | some e => cases hd : e.deletes <;> simp [CookieEvent.kept, hd]

/-- A request leaves a session right exactly if it keeps it. -/
theorem sends_step_iff {id : String} {s : SessionState} (hk : s.jar.Keyed Cookie.name)
    (hs : s.Sends) (x : Exchange) : (s.step fracOk id x).1.Sends ↔ Keeps fracOk s.jar x := by
  have hs := (s.sends_iff hk).1 hs
  rw [SessionState.sends_iff (keyed_sessionRequest hk x)]
  refine forall_congr' fun n => ?_
  by_cases hd : x.Delivered fracOk
  · simp only [SessionState.step, value?_delivered_iff hd (hs n), hd, not_true_eq_false,
      true_imp_iff, false_imp_iff, and_true]
  · simp only [SessionState.step, sessionRequest_of_not_delivered hd, hd, not_false_eq_true,
      true_imp_iff, false_imp_iff, true_and, hs n, lastValue, Log.latest_append]
    cases Log.latest CookieEvent.name n x.events <;> simp

/-- A session sends what the last cookie events left, at every point of a run,
    exactly if all of its requests keep it right. -/
theorem sends_iff_keeps (fracOk : Nat → Bool) (id : String) (xs : List Exchange) :
    (∀ pre, pre <+: xs → (Machine.final (SessionState.step fracOk id) .new pre).Sends) ↔
      ∀ t ∈ Machine.trace (SessionState.step fracOk id) .new xs,
        Keeps fracOk t.before.jar t.event := by
  refine Machine.forall_prefix_iff (SessionState.step fracOk id)
    (fun s x (hk : s.jar.Keyed Cookie.name) => keyed_sessionRequest hk x)
    (fun s x hk hs => sends_step_iff hk hs x) Dict.keyed_empty ?_ xs
  exact (SessionState.sends_iff Dict.keyed_empty).2 fun _ => rfl

/-- A response that deletes a cookie: the session then sends it, with no value. -/
def Exchange.deletion : Exchange where
  followed := []
  ended := .final [⟨⟨"a", "", "", "", .zero, -1, false, false, 0⟩, .zero⟩]
    ⟨200, [], [], [], "HTTP/1.1"⟩

theorem Exchange.delivered_deletion : Exchange.deletion.Delivered fracOk := by
  refine ⟨fun _ h => (nomatch h), Utf8.isSome_decode_iff.2 ⟨"", rfl⟩, fun c hc => .inl ?_,
    fun h => ?_⟩
  · have hzero : ∀ c ∈ Exchange.deletion.merged, c.expires.isZero = true := by decide +kernel
    exact hzero c hc
  · exact h.1 (by decide)

theorem not_forall_sends : ¬∀ (fracOk : Nat → Bool) (id : String) (xs pre : List Exchange),
    pre <+: xs → (Machine.final (SessionState.step fracOk id) .new pre).Sends := by
  intro h
  have hnew : SessionState.new.Sends := h (fun _ => true) "" [] [] List.prefix_rfl
  have hstep := h (fun _ => true) "" [.deletion] [.deletion] List.prefix_rfl
  have hkeeps := (sends_step_iff Dict.keyed_empty hnew .deletion).1 hstep
  obtain ⟨hdel, -⟩ := hkeeps "a" _ rfl
  exact (hdel Exchange.delivered_deletion (by decide +kernel)).1 _ List.mem_cons_self rfl

end CycleTLS
