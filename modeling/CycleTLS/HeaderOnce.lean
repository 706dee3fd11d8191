import CycleTLS.PreparedHeaders
import CycleTLS.Recovery
import CycleTLS.Wire

/-!
# Headers that are sent once (`api.py`, `index.go`, `roundtripper.go`)

A header should reach the transport under one name, in whatever case the caller writes it, and
with the value of the caller where he gives one. But `_prepare_request` looks only for the user
agent in any case, and writes the others under one spelling; `requestHeaders` keeps the spellings
that it gets, and the cookies and the user agent are under theirs.

So a request has each header once exactly if no two spellings of a name come together, and what is
written over a header of the caller is what the caller gave (`sendsOnce_iff`).
-/

namespace CycleTLS

open Raising Utf8

/-! ## Headers that are sent once -/

/-- Names of headers that are the same but for their case. -/
def SameName (name name' : String) : Prop := lower name.toList = lower name'.toList

instance (name name' : String) : Decidable (SameName name name') :=
  inferInstanceAs (Decidable (_ = _))

/-- The value under a key, where there is a dict. -/
def entryOf (v : Value) (name : String) : Option Value :=
  match v with
  | .dict items => items.lookup name
  | _ => none

section Caller

variable (kwargs : Kwargs HeaderDict) (d : Headers)

/-- The caller names a header, in the headers or in `header_values`. -/
def CallerNames (name : String) : Prop :=
  ((kwargs.contents d).get? name).isSome = true ∨
    (entryOf (kwargs.arg .headerValues) name).isSome = true

/-- The caller gives a header these values. -/
def CallerGives (name : String) (values : List Bytes) : Prop :=
  (∃ v text, (kwargs.contents d).get? name = some v ∧ Wire.goString v = some text ∧
    values = [text]) ∨
  ∃ v, entryOf (kwargs.arg .headerValues) name = some v ∧
    Wire.goSlice Wire.goString (valueList v) = some values

variable (o : RequestOptions)

/-- No two names in a header are the same but for their case, and what is there under the name of
    a header of the caller is what he gives under it, in this case or another. The order of the
    pseudo headers is no header, and the cookies of the options are added to those of the caller. -/
structure SentOnce (m : GoHeader) : Prop where
  once : ∀ k k', (m.get? k).isSome = true → (m.get? k').isSome = true → SameName k k' → k = k'
  given : ∀ name, CallerNames kwargs d name → name ≠ pHeaderOrderKey →
    (SameName name "Cookie" → o.cookies = []) →
      ∃ k values name', m.get? k = some values ∧ SameName k name ∧ SameName name' name ∧
        CallerGives kwargs d name' (values.map utf8)

/-- Whatever connection `Do` sends a request on, the header that reaches the transport has each
    header once. -/
def SendsOnce (goEnv : BuilderEnv) (headerEnv : HeaderEnv) : Prop :=
  ∀ dialer id h2, ∀ m ∈ (newRoundTripper o.browser dialer id).handedHeader headerEnv h2
    (o.doHeader goEnv), SentOnce kwargs d o m

variable (env : PyEnv) (boundary : String) (headerEnv : HeaderEnv)

/-- The names under which headers are sent. -/
inductive SentName : String → Prop
  /-- A header of the caller, unless it is taken for the user agent. -/
  | given {name : String} (hagent : agentName env kwargs d ≠ some name)
      (h : ((kwargs.contents d).get? name).isSome = true) : SentName name
  /-- The credentials, or the content type of JSON or files. -/
  | set {name : String} (hagent : agentName env kwargs d ≠ some name)
      (h : (setHeader env boundary kwargs name).isSome = true) : SentName name
  /-- A header of the profile, or the content type of a form. -/
  | filled {name : String} (hagent : agentName env kwargs d ≠ some name)
      (h : (filledHeader env kwargs name).isSome = true) : SentName name
  | values {name : String} (h : (entryOf (kwargs.arg .headerValues) name).isSome = true) :
      SentName name
  | userAgent : SentName "User-Agent"
  | cookie (h : o.cookies ≠ []) : SentName "Cookie"
  | order (h : o.forceHTTP3 = false ∨ headerEnv.Orders o.http2Fingerprint) :
      SentName pHeaderOrderKey

/-- Each header has one spelling, and what is written over a header of the caller is what he
    gave. -/
structure OneSpelling : Prop where
  names : ∀ name name', SentName kwargs d o env boundary headerEnv name →
    SentName kwargs d o env boundary headerEnv name' → SameName name name' → name = name'
  set : ∀ name v text, entryOf (kwargs.arg .headerValues) name = none →
    (kwargs.contents d).get? name = some v → setHeader env boundary kwargs name = some text →
      Wire.goString v = some (utf8 text)
  agent : ∀ name, isUserAgent name = true → CallerNames kwargs d name →
    ∃ name' text, isUserAgent name' = true ∧
      Wire.goString (preparedAgent env kwargs d) = some text ∧ CallerGives kwargs d name' [text]

end Caller

/-! ## What is handed over -/

namespace GoHeader

/-- There is a header of cookies once one is added. -/
theorem isSome_get?_addCookies (text : GoCookie → String) (cookies : List GoCookie)
    (h : GoHeader) :
    ((cookies.foldl (fun h cookie => addCookie h (text cookie)) h).get? "Cookie").isSome = true ↔
      cookies ≠ [] ∨ (h.get? "Cookie").isSome = true := by
  have hadd (h : GoHeader) (text : String) : ((addCookie h text).get? "Cookie").isSome = true := by
    have hset (value : String) : ((setOnly h "Cookie" value).get? "Cookie").isSome = true := by
      rw [setOnly, Dict.get?_set]
      rfl
    rw [addCookie]
    split_ifs <;> exact hset _
  have hkept (cookies : List GoCookie) (h : GoHeader) (hsome : (h.get? "Cookie").isSome = true) :
      ((cookies.foldl (fun h cookie => addCookie h (text cookie)) h).get? "Cookie").isSome =
        true := by
    induction cookies generalizing h with
    | nil => exact hsome
    | cons cookie cookies ih => exact ih _ (hadd h _)
  cases cookies with
  | nil => simp
  | cons cookie cookies =>
    exact iff_of_true (hkept cookies _ (hadd h _)) (.inl (List.cons_ne_nil _ _))

end GoHeader

namespace RoundTripper

variable {headerEnv : HeaderEnv} {rt : RoundTripper} {h m : GoHeader} {h2 : Bool}

theorem get?_of_handed (hm : m ∈ rt.handedHeader headerEnv h2 h) :
    m.get? = rt.transportValues headerEnv h2 (rt.agentHeader headerEnv h).get? := by
  rw [← rt.handed_hand headerEnv h2 false h] at hm
  obtain ⟨hop, hhop, rfl⟩ := Option.map_eq_some_iff.1 hm
  exact get?_handed hhop

theorem get?_agentHeader_userAgent :
    (rt.agentHeader headerEnv h).get? "User-Agent" = some [rt.userAgent] := by
  rw [agentHeader, GoHeader.setOnly, Dict.get?_set]
  rfl

/-- The names in a header with the cookies and the user agent. -/
theorem isSome_get?_agentHeader (k : String) :
    ((rt.agentHeader headerEnv h).get? k).isSome = true ↔
      (h.get? k).isSome = true ∨ k = "User-Agent" ∨ k = "Cookie" ∧ rt.cookies ≠ [] := by
  by_cases hagent : k = "User-Agent"
  · subst hagent
    rw [get?_agentHeader_userAgent]
    exact iff_of_true rfl (.inr (.inl rfl))
  by_cases hcookie : k = "Cookie"
  · subst hcookie
    rw [agentHeader, GoHeader.setOnly, GoHeader.get?_set_of_ne (by decide),
      GoHeader.isSome_get?_addCookies headerEnv.cookieText, or_comm]
    simp
  · rw [get?_agentHeader_of_ne hcookie hagent]
    simp [hagent, hcookie]

theorem isSome_pseudoOrder :
    (rt.pseudoOrder headerEnv).isSome = true ↔ headerEnv.Orders rt.http2Fingerprint := by
  rw [pseudoOrder, HeaderEnv.Orders]
  split_ifs with hfingerprint
  · rw [Option.isSome_iff_exists, and_iff_right hfingerprint]
    refine exists_congr fun order => ?_
    rw [Option.filter_eq_some_iff, decide_eq_true_iff, gt_iff_lt, List.length_pos_iff]
  · exact iff_of_false Bool.false_ne_true fun h => hfingerprint h.1

theorem isSome_withOrder (order : Option (List String)) (values : String → Option (List String))
    (k : String) : (withOrder order values k).isSome = true ↔
      (values k).isSome = true ∨ k = pHeaderOrderKey ∧ order.isSome = true := by
  rw [withOrder]
  split_ifs with horder
  · rw [Function.update_apply]
    split_ifs with hk
    · exact iff_of_true horder (.inr ⟨hk, horder⟩)
    · rw [or_iff_left fun h => hk h.1]
  · rw [or_iff_left fun h => horder h.2]

/-- A name of a header that is handed over. -/
def HandsName (headerEnv : HeaderEnv) (rt : RoundTripper) (h : GoHeader) (k : String) : Prop :=
  (h.get? k).isSome = true ∨ k = "User-Agent" ∨ (k = "Cookie" ∧ rt.cookies ≠ []) ∨
    k = pHeaderOrderKey ∧ headerEnv.Orders rt.http2Fingerprint

theorem isSome_withOrder_agentHeader (k : String) :
    (withOrder (rt.pseudoOrder headerEnv) (rt.agentHeader headerEnv h).get? k).isSome = true ↔
      rt.HandsName headerEnv h k := by
  rw [isSome_withOrder, isSome_get?_agentHeader, isSome_pseudoOrder, HandsName, or_assoc, or_assoc]

/-- The names that reach a transport of HTTP/2, and no others reach another one. -/
theorem isSome_get?_of_handed (hm : m ∈ rt.handedHeader headerEnv true h) (k : String) :
    (m.get? k).isSome = true ↔ rt.HandsName headerEnv h k := by
  rw [get?_of_handed hm, transportValues, Bool.not_true, Bool.and_false, if_neg Bool.false_ne_true,
    isSome_withOrder_agentHeader]

theorem handed_of_isSome_get? (hm : m ∈ rt.handedHeader headerEnv h2 h) {k : String}
    (hk : (m.get? k).isSome = true) : rt.HandsName headerEnv h k := by
  rw [get?_of_handed hm, transportValues] at hk
  split_ifs at hk
  · rw [Function.update_apply] at hk
    split_ifs at hk
    · cases hk
    · exact (isSome_withOrder_agentHeader k).1 hk
  · exact (isSome_withOrder_agentHeader k).1 hk

end RoundTripper

namespace RequestOptions

variable {env : BuilderEnv} {headerEnv : HeaderEnv} {o : RequestOptions} {m : GoHeader} {h2 : Bool}
  {k : String}

theorem get?_requestHeaders (k : String) : o.requestHeaders.get? k =
    (o.headerValues.get? k).or ((o.headers.get? k).map ([·])) := by
  have hmap (es : List (String × String)) (d : GoHeader) :
      es.foldl (fun headers e => headers.setDefault e.1 [e.2]) d =
        (es.map fun e => (e.1, [e.2])).foldl (fun headers e => headers.setDefault e.1 e.2) d := by
    rw [List.foldl_map]
  rw [requestHeaders]
  split_ifs with hlength
  · rw [hmap, Dict.get?_foldl_setDefault, List.find?_map, Option.map_map, Dict.get?, Dict.get?,
      Option.map_map]
    rfl
  · have hnone : o.headerValues.get? k = none := by
      rw [Dict.get?, List.length_eq_zero_iff.1 (Nat.eq_zero_of_not_pos hlength)]
      rfl
    rw [Dict.get?_setAll, Dict.latest_entries, Option.map_map, Dict.get?_empty, Option.or_none,
      hnone, Option.none_or]
    rfl

theorem get?_setRequestHeaders_all (header : GoHeader) (k : String) :
    (o.setRequestHeaders env header false).get? k =
      (o.requestHeaders.get? k).or (header.get? k) := by
  have hall : (o.requestHeaders.entries.filter fun e =>
      !(false && env.equalFold e.1 "Content-Length")) = o.requestHeaders.entries :=
    List.filter_eq_self.2 fun _ _ => rfl
  rw [setRequestHeaders, hall, Dict.get?_setAll, Dict.latest_entries, Option.map_map]
  exact congrArg (Option.or · _) (congrFun Option.map_id _)

theorem get?_doHeader_of_ne (hk : k ≠ pHeaderOrderKey) :
    (o.doHeader env).get? k = o.requestHeaders.get? k := by
  refine (get?_setRequestHeaders_all _ k).trans ?_
  split_ifs
  · rw [GoHeader.get?_set_of_ne hk.symm, Dict.get?_empty, Option.or_none]
  · rw [Dict.get?_empty, Option.or_none]

theorem isSome_get?_doHeader (k : String) : ((o.doHeader env).get? k).isSome = true ↔
    (o.headerValues.get? k).isSome = true ∨ (o.headers.get? k).isSome = true ∨
      k = pHeaderOrderKey ∧ o.forceHTTP3 = false := by
  have hpseudo : ((if (!o.forceHTTP3) = true then
      (Dict.empty.set pHeaderOrderKey o.pseudoHeaderOrder : GoHeader) else .empty).get? k).isSome =
        true ↔ k = pHeaderOrderKey ∧ o.forceHTTP3 = false := by
    split_ifs with hforce
    · have hfalse : o.forceHTTP3 = false := by simpa using hforce
      rw [Dict.get?_set, Function.update_apply, and_iff_left hfalse]
      split_ifs with hk
      · exact iff_of_true rfl hk
      · exact iff_of_false Bool.false_ne_true hk
    · exact iff_of_false Bool.false_ne_true fun h => hforce (by rw [h.2]; rfl)
  have hget : (o.doHeader env).get? k = _ := get?_setRequestHeaders_all _ k
  rw [hget, Option.isSome_or, Bool.or_eq_true, hpseudo, get?_requestHeaders, Option.isSome_or,
    Bool.or_eq_true, Option.isSome_map, or_assoc]

end RequestOptions

/-! ## What arrives in Go -/

/-- The headers and the user agent of a payload, as the options have them. -/
structure HeadersArrive (p : OptionsDict) (o : RequestOptions) : Prop where
  headers : ∃ items, Wire.field p "headers" [] (Wire.goMap Wire.goString) = some items ∧
    ∀ name, items.lookup (utf8 name) = (o.headers.get? name).map utf8
  headerValues : ∃ items,
    Wire.field p "headerValues" [] (Wire.goMap (Wire.goSlice Wire.goString)) = some items ∧
      ∀ name, items.lookup (utf8 name) = (o.headerValues.get? name).map (List.map utf8)
  userAgent : Wire.field p "userAgent" [] Wire.goString = some (utf8 o.userAgent)

/-- A map that is decoded has an item for each value of the dict. -/
theorem lookup_goMap {α : Type} {item : Value → Option α} {v : Value} {items : List (Bytes × α)}
    (h : Wire.goMap item v = some items) (name : String) :
    items.lookup (utf8 name) = (entryOf v name).bind item ∧
      ((items.lookup (utf8 name)).isSome = true ↔ (entryOf v name).isSome = true) := by
  cases v with
  | none =>
    cases h
    exact ⟨rfl, Iff.rfl⟩
  | dict entries =>
    rw [Wire.goMap] at h
    rw [entryOf]
    induction entries generalizing items with
    | nil =>
      cases h
      exact ⟨rfl, Iff.rfl⟩
    | cons e entries ih =>
      rw [List.mapM_cons] at h
      obtain ⟨w, hw, h⟩ := Option.bind_eq_some_iff.1 h
      obtain ⟨ws, hws, h⟩ := Option.bind_eq_some_iff.1 h
      obtain ⟨a, ha, rfl⟩ := Option.map_eq_some_iff.1 hw
      cases h
      rw [List.lookup_cons, List.lookup_cons]
      by_cases hname : name = e.1
      · rw [hname, beq_self_eq_true, beq_self_eq_true]
        exact ⟨ha.symm, Iff.rfl⟩
      · have hne : utf8 name ≠ utf8 e.1 := fun heq => hname (utf8_injective heq)
        rw [beq_eq_false_iff_ne.2 hname, beq_eq_false_iff_ne.2 hne]
        exact ih hws
  | _ => cases h

theorem lookup_map_value {α β : Type} (f : α → β) (items : List (String × α)) (name : String) :
    (items.map fun e => (e.1, f e.2)).lookup name = (items.lookup name).map f := by
  induction items with
  | nil => rfl
  | cons e items ih =>
    rw [List.map_cons, List.lookup_cons, List.lookup_cons]
    by_cases hname : name = e.1
    · rw [hname, beq_self_eq_true]
      rfl
    · rw [beq_eq_false_iff_ne.2 hname]
      exact ih

/-- The header values of a request are listed under the same names. -/
theorem entryOf_headerValueLists {v w : Value} (h : headerValueLists v = .ok w) (name : String) :
    entryOf w name = (entryOf v name).map valueList := by
  cases v with
  | none =>
    cases h
    rfl
  | dict items =>
    cases h
    exact lookup_map_value valueList items name
  | _ => cases h

section Arrived

variable {env : PyEnv} {closed : Bool} {boundary method url : String} {kwargs : Kwargs HeaderDict}
  {d t : Headers} {p : OptionsDict} {o : RequestOptions}

theorem get?_headers_of_arrive
    (hrun : exec (prepareRequest env closed boundary method url kwargs) d = (.ok p, t))
    (harrive : HeadersArrive p o) (name : String) :
    (o.headers.get? name).map utf8 =
        (preparedHeader env boundary kwargs d name).bind Wire.goString ∧
      ((o.headers.get? name).isSome = true ↔
        (preparedHeader env boundary kwargs d name).isSome = true) := by
  obtain ⟨items, hitems, hlookup⟩ := harrive.headers
  rw [Wire.field_eq_get (Wire.goMap Wire.goString) rfl] at hitems
  have hentry : entryOf (Value.get p "headers") name = preparedHeader env boundary kwargs d name :=
    congrFun (headerOf_eq hrun) name
  rw [← hentry, ← Option.isSome_map (f := utf8), ← hlookup]
  exact lookup_goMap hitems name

theorem get?_headerValues_of_arrive
    (hrun : exec (prepareRequest env closed boundary method url kwargs) d = (.ok p, t))
    (harrive : HeadersArrive p o) (name : String) :
    (o.headerValues.get? name).map (List.map utf8) =
        (entryOf (kwargs.arg .headerValues) name).bind
          (fun v => Wire.goSlice Wire.goString (valueList v)) ∧
      ((o.headerValues.get? name).isSome = true ↔
        (entryOf (kwargs.arg .headerValues) name).isSome = true) := by
  obtain ⟨items, hitems, hlookup⟩ := harrive.headerValues
  rw [Wire.field_eq_get (Wire.goMap (Wire.goSlice Wire.goString)) rfl] at hitems
  have hentry := entryOf_headerValueLists (get_headerValues hrun) name
  obtain ⟨hvalue, hsome⟩ := lookup_goMap hitems name
  rw [hentry, Option.bind_map] at hvalue
  rw [hentry, Option.isSome_map] at hsome
  rw [← Option.isSome_map (f := List.map utf8), ← hlookup]
  exact ⟨hvalue, hsome⟩

theorem goString_preparedAgent
    (hrun : exec (prepareRequest env closed boundary method url kwargs) d = (.ok p, t))
    (harrive : HeadersArrive p o) :
    Wire.goString (preparedAgent env kwargs d) = some (utf8 o.userAgent) := by
  rw [← get_userAgent hrun, ← harrive.userAgent, Wire.field_eq_get Wire.goString rfl]

theorem isSome_preparedHeader (name : String) :
    (preparedHeader env boundary kwargs d name).isSome = true ↔ agentName env kwargs d ≠ some name ∧
      ((setHeader env boundary kwargs name).isSome = true ∨
        ((kwargs.contents d).get? name).isSome = true ∨
          (filledHeader env kwargs name).isSome = true) := by
  rw [preparedHeader]
  split_ifs with hagent
  · exact iff_of_false Bool.false_ne_true fun h => h.1 hagent
  · rw [and_iff_right hagent, Option.isSome_or, Bool.or_eq_true, Option.isSome_map,
      Option.isSome_or, Bool.or_eq_true]

/-- The names that reach a transport of HTTP/2 are those that are sent. -/
theorem handed_iff_sentName {goEnv : BuilderEnv} {headerEnv : HeaderEnv} {dialer : Dialer}
    {id : Nat}
    (hrun : exec (prepareRequest env closed boundary method url kwargs) d = (.ok p, t))
    (harrive : HeadersArrive p o) (k : String) :
    (newRoundTripper o.browser dialer id).HandsName headerEnv (o.doHeader goEnv) k ↔
      SentName kwargs d o env boundary headerEnv k := by
  have hget : ((o.doHeader goEnv).get? k).isSome = true ↔ _ :=
    RequestOptions.isSome_get?_doHeader k
  rw [RoundTripper.HandsName, hget, (get?_headers_of_arrive hrun harrive k).2,
    (get?_headerValues_of_arrive hrun harrive k).2, isSome_preparedHeader]
  constructor
  · rintro ((h | ⟨hagent, h | h | h⟩ | ⟨rfl, h⟩) | rfl | ⟨rfl, h⟩ | ⟨rfl, h⟩)
    · exact .values h
    · exact .set hagent h
    · exact .given hagent h
    · exact .filled hagent h
    · exact .order (.inl h)
    · exact .userAgent
    · exact .cookie h
    · exact .order (.inr h)
  · intro h
    cases h with
    | given hagent h => exact .inl (.inr (.inl ⟨hagent, .inr (.inl h)⟩))
    | set hagent h => exact .inl (.inr (.inl ⟨hagent, .inl h⟩))
    | filled hagent h => exact .inl (.inr (.inl ⟨hagent, .inr (.inr h)⟩))
    | values h => exact .inl (.inl h)
    | userAgent => exact .inr (.inl rfl)
    | cookie h => exact .inr (.inr (.inl ⟨rfl, h⟩))
    | order h =>
      rcases h with h | h
      · exact .inl (.inr (.inr ⟨rfl, h⟩))
      · exact .inr (.inr (.inr ⟨rfl, h⟩))

end Arrived

/-! ## Names and values -/

theorem isUserAgent_iff {name : String} : isUserAgent name = true ↔ SameName "User-Agent" name := by
  rw [isUserAgent, decide_eq_true_iff, SameName, eq_comm]
  exact Iff.of_eq (congrArg (· = lower name.toList) (by decide))

section Handed

variable {goEnv : BuilderEnv} {headerEnv : HeaderEnv} {o : RequestOptions} {dialer : Dialer}
  {id : Nat} {h2 : Bool} {m : GoHeader}

theorem get?_handed_userAgent
    (hm : m ∈ (newRoundTripper o.browser dialer id).handedHeader headerEnv h2 (o.doHeader goEnv)) :
    m.get? "User-Agent" = some [o.userAgent] := by
  rw [RoundTripper.get?_of_handed hm, RoundTripper.transportValues_of_ne (by decide),
    RoundTripper.get?_agentHeader_userAgent]
  rfl

/-- The other headers are handed over as `requestHeaders` has them. -/
theorem get?_handed_of_ne {k : String}
    (hm : m ∈ (newRoundTripper o.browser dialer id).handedHeader headerEnv h2 (o.doHeader goEnv))
    (hagent : k ≠ "User-Agent") (horder : k ≠ pHeaderOrderKey)
    (hcookie : k = "Cookie" → o.cookies = []) :
    m.get? k = (o.headerValues.get? k).or ((o.headers.get? k).map ([·])) := by
  have hget : (o.doHeader goEnv).get? k = _ := RequestOptions.get?_doHeader_of_ne horder
  rw [RoundTripper.get?_of_handed hm, RoundTripper.transportValues_of_ne horder,
    ← RequestOptions.get?_requestHeaders, ← hget]
  by_cases hk : k = "Cookie"
  · rw [RoundTripper.get?_agentHeader_of_nil (hcookie hk), Function.update_of_ne hagent]
  · exact RoundTripper.get?_agentHeader_of_ne hk hagent

end Handed

section Sent

variable {env : PyEnv} {closed : Bool} {boundary method url : String} {kwargs : Kwargs HeaderDict}
  {d t : Headers} {p : OptionsDict} {o : RequestOptions} {goEnv : BuilderEnv}
  {headerEnv : HeaderEnv}

theorem CallerGives.names {name : String} {values : List Bytes}
    (h : CallerGives kwargs d name values) : CallerNames kwargs d name := by
  rcases h with ⟨v, text, hv, -⟩ | ⟨v, hv, -⟩
  · exact .inl (Option.isSome_of_eq_some hv)
  · exact .inr (Option.isSome_of_eq_some hv)

/-- A header of the caller is sent under its name, but for the user agent. -/
theorem CallerNames.sentName {name : String} (h : CallerNames kwargs d name)
    (hagent : isUserAgent name = false) : SentName kwargs d o env boundary headerEnv name := by
  rcases h with h | h
  · exact .given (agentName_ne hagent) h
  · exact .values h

theorem name_of_setHeader {name text : String}
    (h : setHeader env boundary kwargs name = some text) :
    name = "Authorization" ∨ name = "Content-Type" := by
  rw [setHeader] at h
  split_ifs at h with hauth htype
  · exact .inl hauth
  · exact .inr htype

/-- A header of the caller that `header_values` does not give is handed over with what is set, or
    else with what he gives. -/
theorem get?_handed_of_caller
    (hrun : exec (prepareRequest env closed boundary method url kwargs) d = (.ok p, t))
    (harrive : HeadersArrive p o) {name : String} {v : Value}
    (hagent : isUserAgent name = false) (hv : (kwargs.contents d).get? name = some v) :
    ∃ s, o.headers.get? name = some s ∧
      Wire.goString (((setHeader env boundary kwargs name).map .str).getD v) = some (utf8 s) := by
  have hprepared : preparedHeader env boundary kwargs d name =
      some (((setHeader env boundary kwargs name).map .str).getD v) := by
    rw [preparedHeader, if_neg (agentName_ne hagent), hv]
    cases setHeader env boundary kwargs name <;> rfl
  obtain ⟨hvalue, hsome⟩ := get?_headers_of_arrive hrun harrive name
  rw [hprepared] at hvalue hsome
  obtain ⟨s, hs⟩ := Option.isSome_iff_exists.1 (hsome.2 rfl)
  rw [hs] at hvalue
  exact ⟨s, hs, hvalue.symm⟩

/-- A header that has one spelling, and is what the caller gave where it is written over, reaches
    the transport once. -/
theorem OneSpelling.sentOnce (h : OneSpelling kwargs d o env boundary headerEnv)
    (hrun : exec (prepareRequest env closed boundary method url kwargs) d = (.ok p, t))
    (harrive : HeadersArrive p o) {dialer : Dialer} {id : Nat} {h2 : Bool} {m : GoHeader}
    (hm : m ∈ (newRoundTripper o.browser dialer id).handedHeader headerEnv h2 (o.doHeader goEnv)) :
    SentOnce kwargs d o m := by
  have hsent {k : String} (hk : (m.get? k).isSome = true) :
      SentName kwargs d o env boundary headerEnv k :=
    (handed_iff_sentName hrun harrive k).1 (RoundTripper.handed_of_isSome_get? hm hk)
  refine ⟨fun k k' hk hk' => h.names k k' (hsent hk) (hsent hk'),
    fun name hname horder hcookie => ?_⟩
  cases hagent : isUserAgent name with
  | true =>
    obtain ⟨name', text, hname', htext, hgives⟩ := h.agent name hagent hname
    have htext' := goString_preparedAgent hrun harrive
    rw [htext] at htext'
    cases htext'
    exact ⟨"User-Agent", [o.userAgent], name', get?_handed_userAgent hm, isUserAgent_iff.1 hagent,
      (isUserAgent_iff.1 hname').symm.trans (isUserAgent_iff.1 hagent), hgives⟩
  | false =>
    have hne : name ≠ "User-Agent" := by
      rintro rfl
      exact absurd hagent (by decide)
    have hget := get?_handed_of_ne hm hne horder fun hk => hcookie (by rw [SameName, hk])
    obtain ⟨hvalue, hsome⟩ := get?_headerValues_of_arrive hrun harrive name
    cases hvalues : entryOf (kwargs.arg .headerValues) name with
    | some v =>
      obtain ⟨values, hv⟩ := Option.isSome_iff_exists.1 (hsome.2 (by rw [hvalues]; rfl))
      rw [hvalues, hv] at hvalue
      rw [hv, Option.some_or] at hget
      exact ⟨name, values, name, hget, rfl, rfl, .inr ⟨v, hvalues, hvalue.symm⟩⟩
    | none =>
      have hnone : o.headerValues.get? name = none := by
        rw [← Option.not_isSome_iff_eq_none, hsome, hvalues]
        exact Bool.false_ne_true
      have hgiven : ((kwargs.contents d).get? name).isSome = true := by
        refine hname.resolve_right ?_
        rw [hvalues]
        exact Bool.false_ne_true
      obtain ⟨v, hv⟩ := Option.isSome_iff_exists.1 hgiven
      obtain ⟨s, hs, hstring⟩ := get?_handed_of_caller hrun harrive hagent hv
      rw [hnone, hs, Option.none_or, Option.map_some] at hget
      refine ⟨name, [s], name, hget, rfl, rfl, .inl ⟨v, utf8 s, hv, ?_, rfl⟩⟩
      cases hset : setHeader env boundary kwargs name with
      | none =>
        rw [hset] at hstring
        exact hstring
      | some text =>
        rw [hset] at hstring
        exact (h.set name v text hvalues hv hset).trans hstring

/-- Where the headers that reach a transport of HTTP/2 are sent once, each has one spelling. -/
theorem SentOnce.oneSpelling {dialer : Dialer} {id : Nat} {m : GoHeader}
    (h : SentOnce kwargs d o m)
    (hrun : exec (prepareRequest env closed boundary method url kwargs) d = (.ok p, t))
    (harrive : HeadersArrive p o)
    (hm : m ∈ (newRoundTripper o.browser dialer id).handedHeader headerEnv true
      (o.doHeader goEnv)) : OneSpelling kwargs d o env boundary headerEnv := by
  have hsent {k : String} (hk : SentName kwargs d o env boundary headerEnv k) :
      (m.get? k).isSome = true :=
    (RoundTripper.isSome_get?_of_handed hm k).2 ((handed_iff_sentName hrun harrive k).2 hk)
  refine ⟨fun k k' hk hk' => h.once k k' (hsent hk) (hsent hk'), ?_, ?_⟩
  · intro name v text hvalues hv hset
    obtain ⟨hagent, horder, hcookie⟩ : isUserAgent name = false ∧ name ≠ pHeaderOrderKey ∧
        ¬SameName name "Cookie" := by
      rcases name_of_setHeader hset with rfl | rfl <;> exact ⟨by decide, by decide, by decide⟩
    have hname : CallerNames kwargs d name := .inl (Option.isSome_of_eq_some hv)
    have hin := hsent (hname.sentName hagent)
    obtain ⟨k, values, name', hk, hsame, hsame', hgives⟩ :=
      h.given name hname horder fun hsame => absurd hsame hcookie
    -- what is handed over under the name is what the caller gives under it
    obtain rfl := h.once k name (Option.isSome_of_eq_some hk) hin hsame
    have hagent' : isUserAgent name' = false := by
      rw [isUserAgent, hsame']
      exact hagent
    obtain rfl := h.once name' k (hsent (hgives.names.sentName hagent')) hin hsame'
    have hne : name' ≠ "User-Agent" := by
      rintro rfl
      exact absurd hagent (by decide)
    obtain ⟨-, hsome⟩ := get?_headerValues_of_arrive hrun harrive name'
    have hnone : o.headerValues.get? name' = none := by
      rw [← Option.not_isSome_iff_eq_none, hsome, hvalues]
      exact Bool.false_ne_true
    obtain ⟨s, hs, hstring⟩ := get?_handed_of_caller hrun harrive hagent hv
    rw [get?_handed_of_ne hm hne horder fun hk => absurd (by rw [SameName, hk]) hcookie, hnone, hs]
      at hk
    cases hk
    rw [hset] at hstring
    rcases hgives with ⟨v', text', hv', htext', hgiven⟩ | ⟨v', hv', -⟩
    · rw [hv] at hv'
      cases hv'
      cases hgiven
      exact htext'.trans hstring.symm
    · rw [hvalues] at hv'
      cases hv'
  · intro name hagent hname
    have horder : name ≠ pHeaderOrderKey := by
      rintro rfl
      exact absurd hagent (by decide)
    have hcookie : ¬SameName name "Cookie" := fun hsame =>
      absurd ((isUserAgent_iff.1 hagent).trans hsame) (by decide)
    obtain ⟨k, values, name', hk, hsame, hsame', hgives⟩ :=
      h.given name hname horder fun hsame => absurd hsame hcookie
    obtain rfl := h.once "User-Agent" k (hsent .userAgent) (Option.isSome_of_eq_some hk)
      ((isUserAgent_iff.1 hagent).trans hsame.symm)
    rw [get?_handed_userAgent hm] at hk
    cases hk
    exact ⟨name', utf8 o.userAgent,
      isUserAgent_iff.2 ((isUserAgent_iff.1 hagent).trans hsame'.symm),
      goString_preparedAgent hrun harrive, hgives⟩

/-- Each header of a request is sent once, and is the caller's where he gives it, exactly if each
    has one spelling and what is written over the headers of the caller is what he gave, or nothing
    is sent at all. -/
theorem sendsOnce_iff
    (hrun : exec (prepareRequest env closed boundary method url kwargs) d = (.ok p, t))
    (harrive : HeadersArrive p o) : SendsOnce kwargs d o goEnv headerEnv ↔
      OneSpelling kwargs d o env boundary headerEnv ∨ o.FingerprintFails headerEnv := by
  constructor
  · intro h
    rw [or_iff_not_imp_right]
    intro hfails
    let rt : RoundTripper := newRoundTripper o.browser .direct 0
    obtain ⟨m, hm⟩ : ∃ m, rt.handedHeader headerEnv true (o.doHeader goEnv) = some m :=
      Option.isSome_iff_exists.1
        (RoundTripper.isSome_handedHeader (RequestOptions.parses_of_not_fails hfails rfl))
    exact (h .direct 0 true m hm).oneSpelling hrun harrive hm
  · rintro (h | hfails) dialer id h2 m hm
    · exact h.sentOnce hrun harrive hm
    · rw [RequestOptions.handedHeader_eq_none hfails rfl] at hm
      cases hm

end Sent

/-! ## Requests with JSON -/

/-- Headers that are texts arrive as they are. -/
theorem headersArrive_of_texts {p : OptionsDict} {o : RequestOptions}
    (hheaders : Value.get p "headers" = .dict (o.headers.entries.map fun e => (e.1, .str e.2)))
    (hvalues : Value.get p "headerValues" = .none) (hnone : o.headerValues = .empty)
    (hagent : Value.get p "userAgent" = .str o.userAgent) : HeadersArrive p o := by
  have hitems : Wire.field p "headers" [] (Wire.goMap Wire.goString) =
      some (o.headers.entries.map fun e => (utf8 e.1, utf8 e.2)) := by
    rw [Wire.field_eq_get (Wire.goMap Wire.goString) rfl, hheaders, Wire.goMap, mapM_eq_some_iff,
      List.map_map, List.map_map]
    rfl
  refine ⟨⟨_, hitems, fun name => ?_⟩, ⟨[], ?_, fun name => ?_⟩, ?_⟩
  · rw [Wire.field_eq_get (Wire.goMap Wire.goString) rfl, hheaders] at hitems
    rw [(lookup_goMap hitems name).1, entryOf, lookup_map_value Value.str, Dict.lookup_entries,
      Option.bind_map]
    exact (Option.map_eq_bind ..).symm
  · rw [Wire.field_eq_get (Wire.goMap (Wire.goSlice Wire.goString)) rfl, hvalues]
    rfl
  · rw [hnone]
    rfl
  · rw [Wire.field_eq_get Wire.goString rfl, hagent]
    rfl

/-- The arguments of a request with JSON and the headers of the caller. -/
def jsonKwargs : Kwargs HeaderDict := (Kwargs.set {} .json (.dict [])).setHeaders .given

/-- The options of such a request, with one header. -/
def RequestOptions.ofJson (name value : String) : RequestOptions where
  userAgent := defaultUserAgent
  headers := (Dict.empty.set name value).set "Content-Type" "application/json"

theorem get?_contents_jsonKwargs {name k : String} {v : Value}
    (h : ((jsonKwargs.contents (Dict.empty.set name v)).get? k).isSome = true) : k = name := by
  have hget : (jsonKwargs.contents (Dict.empty.set name v)).get? k =
      Function.update Dict.empty.get? name (some v) k := congrFun (Dict.get?_set ..) k
  rw [hget, Function.update_apply] at h
  split_ifs at h with hk
  · exact hk
  · cases h

/-- Nothing but the content type and the user agent is added to a header. -/
theorem mem_of_sentName {name : String} {v : Value} {o : RequestOptions} {headerEnv : HeaderEnv}
    {k : String} (hcookies : o.cookies = [])
    (h : SentName jsonKwargs (Dict.empty.set name v) o .plain "" headerEnv k) :
    k ∈ [name, "Content-Type", "User-Agent", pHeaderOrderKey] := by
  cases h with
  | given _ h => exact List.mem_cons.2 (.inl (get?_contents_jsonKwargs h))
  | set _ h =>
    obtain ⟨text, htext⟩ := Option.isSome_iff_exists.1 h
    rcases name_of_setHeader htext with rfl | rfl
    · cases htext
    · simp
  | filled _ h =>
    rw [filledHeader] at h
    split_ifs at h <;> cases h
  | values h => cases h
  | userAgent => simp
  | cookie h => exact absurd hcookies h
  | order => simp

theorem sendsOnce_accept : ∃ p t,
    exec (prepareRequest .plain false "" "post" "https://h/" jsonKwargs)
      (Dict.empty.set "Accept" (.str "*/*")) = (.ok p, t) ∧
    HeadersArrive p (.ofJson "Accept" "*/*") ∧
    SendsOnce jsonKwargs (Dict.empty.set "Accept" (.str "*/*")) (.ofJson "Accept" "*/*")
      (.ascii fun _ => none) ⟨fun _ => "", fun _ => none⟩ := by
  obtain ⟨p, t, hexec, harrive⟩ : ∃ p t,
      exec (prepareRequest .plain false "" "post" "https://h/" jsonKwargs)
        (Dict.empty.set "Accept" (.str "*/*")) = (.ok p, t) ∧
      HeadersArrive p (.ofJson "Accept" "*/*") :=
    ⟨_, _, rfl, headersArrive_of_texts rfl rfl rfl rfl⟩
  refine ⟨p, t, hexec, harrive, (sendsOnce_iff hexec harrive).2 (.inl ⟨?_, ?_, ?_⟩)⟩
  · intro name name' h h'
    have hdistinct : ∀ k ∈ ["Accept", "Content-Type", "User-Agent", pHeaderOrderKey],
        ∀ k' ∈ ["Accept", "Content-Type", "User-Agent", pHeaderOrderKey],
          SameName k k' → k = k' := by decide
    exact hdistinct name (mem_of_sentName rfl h) name' (mem_of_sentName rfl h')
  · intro name v text _ hv hset
    obtain rfl := get?_contents_jsonKwargs (Option.isSome_of_eq_some hv)
    cases hset
  · rintro name hagent (h | h)
    · obtain rfl := get?_contents_jsonKwargs h
      exact absurd hagent (by decide)
    · cases h

/-- The names of the headers of the caller are distinct, whatever their case, and so are those of
    `header_values`. -/
def DistinctNames (kwargs : Kwargs HeaderDict) (d : Headers) : Prop :=
  (∀ name name', ((kwargs.contents d).get? name).isSome = true →
    ((kwargs.contents d).get? name').isSome = true → SameName name name' → name = name') ∧
  ∀ name name', (entryOf (kwargs.arg .headerValues) name).isSome = true →
    (entryOf (kwargs.arg .headerValues) name').isSome = true → SameName name name' → name = name'

/-- The content type of the caller is sent beside that of JSON. -/
theorem not_forall_sendsOnce : ¬∀ (env : PyEnv) (closed : Bool) (boundary method url : String)
    (kwargs : Kwargs HeaderDict) (d t : Headers) (p : OptionsDict) (o : RequestOptions)
    (goEnv : BuilderEnv) (headerEnv : HeaderEnv), DistinctNames kwargs d →
    exec (prepareRequest env closed boundary method url kwargs) d = (.ok p, t) →
    HeadersArrive p o → SendsOnce kwargs d o goEnv headerEnv := by
  intro h
  have hdistinct :
      DistinctNames jsonKwargs (Dict.empty.set "content-type" (.str "text/plain")) := by
    refine ⟨fun name name' hname hname' _ => ?_, fun name name' hname => ?_⟩
    · rw [get?_contents_jsonKwargs hname, get?_contents_jsonKwargs hname']
    · cases hname
  obtain ⟨p, t, hexec, harrive⟩ : ∃ p t,
      exec (prepareRequest .plain false "" "post" "https://h/" jsonKwargs)
        (Dict.empty.set "content-type" (.str "text/plain")) = (.ok p, t) ∧
      HeadersArrive p (.ofJson "content-type" "text/plain") :=
    ⟨_, _, rfl, headersArrive_of_texts rfl rfl rfl rfl⟩
  have honce := h .plain false "" "post" "https://h/" jsonKwargs _ _ _ _ (.ascii fun _ => none)
    ⟨fun _ => "", fun _ => none⟩ hdistinct hexec harrive .direct 0 true _ rfl
  exact absurd (honce.once "content-type" "Content-Type" (by decide) (by decide) (by decide))
    (by decide)

end CycleTLS
