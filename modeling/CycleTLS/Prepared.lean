import CycleTLS.HeaderWrites

/-!
# What a preparation gives

The arguments that come out of the preparation of a request, from those that went in:
their options are the given ones, then those of the profile, but for the user agent, the
body and the cookies; and a header has the value that the credentials, the headers or
the profile give, in this order (`ensures_normalize`).
-/

namespace CycleTLS

open Raising

variable (env : PyEnv)

/-! ## Headers -/

/-- The contents of a dict, when that of the caller has the contents `d`. -/
def HeaderDict.contents (d : Headers) : HeaderDict → Headers
  | given => d
  | own e => e

/-- The contents of the headers. -/
def Kwargs.contents (d : Headers) (kwargs : Kwargs HeaderDict) : Headers :=
  match kwargs.headers with
  | some (some dict) => dict.contents d
  | _ => .empty

/-- The name of a header that gives the user agent. -/
def isUserAgent (name : String) : Bool := lower name.toList = "user-agent".toList

/-- The headers with credentials. -/
def withAuth (auth : Value) (d : Headers) : Headers :=
  match authorization env auth with
  | .ok credentials => d.set "Authorization" (.str credentials)
  | .error _ => d

namespace TLSFingerprint

variable (profile : TLSFingerprint)

/-- The options that a profile sets. -/
def sets : Keyword → Option Value
  | .ja3 => some (.str profile.ja3)
  | .ja4r => profile.ja4r.map .str
  | .http2Fingerprint => profile.http2Fingerprint.map .str
  | .quicFingerprint => profile.quicFingerprint.map .str
  | .userAgent => profile.userAgent.map .str
  | .headerOrder => profile.headerOrder.map fun o => .list (o.map .str)
  | .disableGrease => if profile.disableGrease then some (.bool true) else none
  | .forceHTTP1 => if profile.forceHTTP1 then some (.bool true) else none
  | .forceHTTP3 => if profile.forceHTTP3 then some (.bool true) else none
  | _ => none

theorem sets_of_mem_bodyKeywords {k : Keyword} (hk : k ∈ bodyKeywords) : profile.sets k = none := by
  rw [bodyKeywords] at hk
  simp only [List.mem_cons, List.not_mem_nil, or_false] at hk
  rcases hk with rfl | rfl | rfl | rfl | rfl <;> rfl

/-- The headers of a profile, as a dict. -/
def ownHeaders : Headers := Dict.empty.setAll Prod.fst (.str ·.2) (profile.headers.getD [])

/-- The headers with those of a profile. -/
def mergedHeaders (d : Headers) : Headers :=
  addHeaders (profile.dynamicSecChUa env) (profile.ownHeaders.setAll Prod.fst Prod.snd d.entries)

/-- The value that a profile gives a header. -/
def header (name : String) : Option Value :=
  (profile.ownHeaders.get? name).or (((profile.dynamicSecChUa env).lookup name).map .str)

end TLSFingerprint

/-- The profile that is given. -/
def Kwargs.profile {R : Type} (kwargs : Kwargs R) : Option TLSFingerprint :=
  (findProfile env (kwargs.arg .fingerprint)).toOption

/-- The headers with those of the profile, if there is one. -/
def withProfile (profile : Option TLSFingerprint) (d : Headers) : Headers :=
  match profile with
  | some profile => profile.mergedHeaders env d
  | none => d

variable {env} {d : Headers} {kwargs : Kwargs HeaderDict} {dict : HeaderDict}

namespace TLSFingerprint

theorem get?_addHeaders (headers : List (String × String)) (d : Headers) (name : String) :
    (addHeaders headers d).get? name =
      (d.get? name).or ((headers.lookup name).map .str) := by
  induction headers generalizing d with
  | nil => exact Option.or_none.symm
  | cons e headers ih =>
    refine (ih _).trans ?_
    rw [Dict.get?_setDefault, List.lookup_cons]
    by_cases hname : name = e.1
    · subst hname
      rw [Function.update_self, beq_self_eq_true, Option.or_assoc]
      rfl
    · rw [Function.update_of_ne hname, beq_eq_false_iff_ne.2 hname]

theorem get?_mergedHeaders (profile : TLSFingerprint) (d : Headers) (name : String) :
    (profile.mergedHeaders env d).get? name = (d.get? name).or (profile.header env name) := by
  rw [mergedHeaders, get?_addHeaders, Dict.get?_setAll, Dict.latest_entries, Option.map_map,
    header, ← Option.or_assoc]
  congr 2
  exact congrFun Option.map_id _

/-- The `sec-ch-ua` headers give no user agent. -/
theorem firstKey_addHeaders {headers : List (String × String)}
    (h : ∀ e ∈ headers, isUserAgent e.1 = false) (d : Headers) :
    (addHeaders headers d).firstKey isUserAgent = d.firstKey isUserAgent := by
  induction headers generalizing d with
  | nil => rfl
  | cons e headers ih =>
    obtain ⟨he, hheaders⟩ := List.forall_mem_cons.1 h
    refine (ih hheaders _).trans ?_
    change (if (d.get? e.1).isSome then d else d.set e.1 (.str e.2)).firstKey isUserAgent = _
    split_ifs
    · rfl
    · rw [Dict.firstKey_set, he, if_neg Bool.false_ne_true, Option.or_none]

/-- The names of the headers that a profile gives by its user agent. -/
theorem mem_dynamicSecChUa {profile : TLSFingerprint} {e : String × String}
    (he : e ∈ profile.dynamicSecChUa env) :
    e.1 ∈ ["sec-ch-ua", "sec-ch-ua-mobile", "sec-ch-ua-platform"] := by
  unfold dynamicSecChUa at he
  by_cases hempty :
      (profile.userAgent.getD "").toList.isEmpty || (profile.headerOrder.getD []).isEmpty
  · rw [if_pos hempty] at he
    cases he
  · rw [if_neg hempty] at he
    split at he
    · cases he
    · simp only [List.mem_append, List.mem_ite_nil_right, List.mem_singleton] at he
      rcases he with (⟨-, rfl⟩ | ⟨-, rfl⟩) | ⟨-, rfl⟩ <;> simp

theorem isUserAgent_of_mem_dynamicSecChUa {profile : TLSFingerprint} :
    ∀ e ∈ profile.dynamicSecChUa env, isUserAgent e.1 = false := fun _ he =>
  (by decide : ∀ name ∈ _, isUserAgent name = false) _ (mem_dynamicSecChUa he)

theorem firstKey_mergedHeaders (profile : TLSFingerprint) (d : Headers) :
    (profile.mergedHeaders env d).firstKey isUserAgent =
      (profile.ownHeaders.firstKey isUserAgent).or (d.firstKey isUserAgent) := by
  rw [mergedHeaders, firstKey_addHeaders isUserAgent_of_mem_dynamicSecChUa, Dict.firstKey_setAll]
  rfl

end TLSFingerprint

theorem get?_withProfile (profile : Option TLSFingerprint) (d : Headers) (name : String) :
    (withProfile env profile d).get? name =
      (d.get? name).or (profile.bind (·.header env name)) := by
  cases profile with
  | none => exact Option.or_none.symm
  | some profile => exact profile.get?_mergedHeaders d name

/-- Credentials that are set go before those in the headers. -/
theorem get?_withAuth_eq (auth : Value) (name : String) : (withAuth env auth d).get? name =
    ((if name = "Authorization" then (authorization env auth).toOption else none).map .str).or
      (d.get? name) := by
  rw [withAuth]
  cases authorization env auth with
  | error e =>
    split_ifs <;> rfl
  | ok credentials =>
    dsimp only
    rw [Dict.get?_set]
    split_ifs with hname
    · rw [hname, Function.update_self]
      rfl
    · rw [Function.update_of_ne hname]
      rfl

/-- Credentials are written to one header only. -/
theorem get?_withAuth {auth : Value} {name : String} (h : auth.isNone ∨ name ≠ "Authorization")
    (d : Headers) : (withAuth env auth d).get? name = d.get? name := by
  rw [get?_withAuth_eq]
  rcases h with hnone | hname
  · cases auth with
    | none => split_ifs <;> rfl
    | _ => cases hnone
  · rw [if_neg hname]
    rfl

theorem firstKey_withAuth (auth : Value) (d : Headers) :
    (withAuth env auth d).firstKey isUserAgent = d.firstKey isUserAgent := by
  rw [withAuth]
  split
  · rw [Dict.firstKey_set, if_neg (by decide), Option.or_none]
  · rfl

/-- The user agent that the headers give, with those of a profile: its own name for it goes
    first. -/
def agentAmong (own d : Headers) : Option Value :=
  ((own.firstKey isUserAgent).or (d.firstKey isUserAgent)).bind fun name =>
    (d.get? name).or (own.get? name)

theorem agentAmong_eq (profile : Option TLSFingerprint) (auth : Value) (d : Headers) :
    let e := withProfile env profile (withAuth env auth d)
    (e.firstKey isUserAgent).bind e.get? =
      agentAmong ((profile.map (·.ownHeaders)).getD .empty) d := by
  intro e
  have hget (d : Headers) {name : String} (hname : isUserAgent name) :
      (withAuth env auth d).get? name = d.get? name := by
    refine get?_withAuth (.inr ?_) d
    rintro rfl
    exact absurd hname (by decide)
  have hagent (d d' : Headers) :
      ∀ name ∈ (d.firstKey isUserAgent).or (d'.firstKey isUserAgent), isUserAgent name = true := by
    intro name hname
    rcases Option.or_eq_some_iff.1 hname with h | ⟨-, h⟩ <;> exact List.find?_some h
  rw [agentAmong]
  cases profile with
  | none =>
    simp only [e, withProfile, firstKey_withAuth, Option.map_none, Option.getD_none]
    refine Option.bind_congr fun name hname => ?_
    rw [hget _ (hagent d .empty name (Option.or_none.trans hname)), Dict.get?_empty,
      Option.or_none]
  | some profile =>
    simp only [e, withProfile, TLSFingerprint.firstKey_mergedHeaders, firstKey_withAuth,
      Option.map_some, Option.getD_some]
    refine Option.bind_congr fun name hname => ?_
    have hlookup : (profile.dynamicSecChUa env).lookup name = none := by
      rw [List.lookup_eq_none_iff]
      intro entry hentry
      rw [bne_iff_ne]
      rintro rfl
      have hnot := TLSFingerprint.isUserAgent_of_mem_dynamicSecChUa entry hentry
      rw [hagent _ _ _ hname] at hnot
      cases hnot
    rw [TLSFingerprint.get?_mergedHeaders, hget _ (hagent _ _ name hname), TLSFingerprint.header,
      hlookup, Option.map_none, Option.or_none]

/-! ## The user agent and the content type -/

/-- The headers without the first user agent. -/
def withoutAgent (e : Headers) : Headers :=
  match e.firstKey isUserAgent with
  | some key => e.erase key
  | none => e

/-- The content type that is set for JSON. -/
def jsonType (json : Value) : Option String :=
  if json.isNone then none else some "application/json"

/-- The content type that is set for files. -/
def filesType (boundary : String) (files : Value) : Option String :=
  if files.isNone then none else some ("multipart/form-data; boundary=" ++ boundary)

/-- The content type that is filled in for a form. -/
def formType : Value → Option String
  | .dict _ => some "application/x-www-form-urlencoded"
  | _ => none

/-- The values of headers with the content type that is set, or filled in. -/
def withType (set filled : Option String) (values : String → Option Value) :
    String → Option Value :=
  Function.update values "Content-Type"
    ((set.map .str).or ((values "Content-Type").or (filled.map .str)))

theorem get?_withoutAgent (e : Headers) (name : String) : (withoutAgent e).get? name =
    if e.firstKey isUserAgent = some name then none else e.get? name := by
  rw [withoutAgent]
  cases hkey : e.firstKey isUserAgent with
  | none => rfl
  | some key =>
    split_ifs with hname
    · rw [← Option.some.inj hname, Dict.get?_erase_self]
    · exact Dict.get?_erase_of_ne e fun heq => hname (congrArg some heq.symm)

theorem get?_withoutAgent_of_ne {name : String} (h : isUserAgent name = false) (e : Headers) :
    (withoutAgent e).get? name = e.get? name := by
  rw [get?_withoutAgent, if_neg]
  intro hkey
  have hfound : isUserAgent name = true := List.find?_some hkey
  rw [h] at hfound
  cases hfound

theorem withType_none (values : String → Option Value) : withType none none values = values := by
  rw [withType, Option.map_none, Option.none_or, Option.or_none, Function.update_eq_self]

/-- The content type of the files goes before that of the body. -/
theorem withType_withType (set set' filled : Option String) (values : String → Option Value) :
    withType set none (withType set' filled values) = withType (set.or set') filled values := by
  rw [withType, withType, withType, Function.update_idem, Function.update_self, Option.map_none,
    Option.or_none, Option.map_or, Option.or_assoc]

/-- The content type is the only header that is written. -/
theorem withType_of_ne {name : String} (h : name ≠ "Content-Type") (set filled : Option String)
    (values : String → Option Value) : withType set filled values name = values name :=
  Function.update_of_ne h _ _

/-- A content type that is there goes before the one that is filled in. -/
theorem withType_of_eq_some {values : String → Option Value} {v : Value}
    (h : values "Content-Type" = some v) (filled : Option String) :
    withType none filled values "Content-Type" = some v := by
  rw [withType, Function.update_self, Option.map_none, Option.none_or, h, Option.some_or]

/-! ## The steps -/

/-- A dict that was not the caller's is not changed in place, nor exchanged for it. -/
def OwnStays (dict : HeaderDict) (d : Headers) (dict' : HeaderDict) (d' : Headers) : Prop :=
  dict ≠ .given → dict' ≠ .given ∧ d' = d

theorem OwnStays.trans {dict₁ dict₂ dict₃ : HeaderDict} {d₁ d₂ d₃ : Headers}
    (h : OwnStays dict₁ d₁ dict₂ d₂) (h' : OwnStays dict₂ d₂ dict₃ d₃) :
    OwnStays dict₁ d₁ dict₃ d₃ := by
  intro hne
  obtain ⟨hne, rfl⟩ := h hne
  exact h' hne

theorem ensures_read : Ensures d dict.read fun e d' => e = dict.contents d ∧ d' = d := by
  cases dict with
  | given => exact .get ⟨rfl, rfl⟩
  | own e => exact .pure ⟨rfl, rfl⟩

theorem ensures_update (f : Headers → Headers) : Ensures d (dict.update f) fun dict' d' =>
    dict'.contents d' = f (dict.contents d) ∧ OwnStays dict d dict' d' := by
  cases dict with
  | given =>
    refine Ensures.bind (P := fun _ d' => d' = f d) (.modify rfl) fun _ d' hd' => .pure ?_
    exact ⟨hd', fun hne => absurd rfl hne⟩
  | own e => exact .pure ⟨rfl, fun _ => ⟨nofun, rfl⟩⟩

theorem eq_empty_of_isEmpty {e : Headers} (h : e.isEmpty) : e = .empty :=
  Dict.ext (List.isEmpty_iff.1 h)

theorem ensures_headersOr : Ensures d kwargs.headersOr fun r d' =>
    d' = d ∧ r.1.contents d = kwargs.contents d ∧ (r.2 = false → r.1 = .own .empty) := by
  rw [Kwargs.headersOr]
  split
  · next dict hheaders =>
    refine ensures_read.bind fun e d' h => .pure ?_
    obtain ⟨rfl, rfl⟩ := h
    have hcontents : kwargs.contents d' = dict.contents d' := by rw [Kwargs.contents, hheaders]
    split_ifs with hempty
    · exact ⟨rfl, hcontents ▸ (eq_empty_of_isEmpty hempty).symm, fun _ => rfl⟩
    · exact ⟨rfl, hcontents.symm, by rintro ⟨⟩⟩
  · next hheaders =>
    refine .pure ⟨rfl, ?_, fun _ => rfl⟩
    rw [Kwargs.contents]
    split
    · next dict hdict => exact absurd hdict (hheaders dict)
    · rfl

theorem contents_setHeaders : (kwargs.setHeaders dict).contents d = dict.contents d := rfl

theorem ensures_applyAuth : Ensures d (applyAuth env kwargs) fun kwargs' d' =>
    AuthPasses env kwargs ∧ kwargs'.options = kwargs.options ∧
      kwargs'.contents d' = withAuth env (kwargs.arg .auth) (kwargs.contents d) := by
  rw [applyAuth]
  split_ifs with hnone
  · refine .pure ⟨fun h => absurd hnone (by simp [h]), rfl, ?_⟩
    have hauth : kwargs.arg .auth = .none := by
      revert hnone
      cases kwargs.arg .auth <;> simp [Value.isNone]
    rw [hauth]
    rfl
  · refine (Ensures.lift (P := fun c d' => authorization env (kwargs.arg .auth) = .ok c ∧ d' = d)
      fun c hc => ⟨hc, rfl⟩).bind fun c d' h => ?_
    obtain ⟨hc, rfl⟩ := h
    refine ensures_headersOr.bind fun r d₁ h => ?_
    obtain ⟨rfl, hcontents, -⟩ := h
    refine (ensures_update _).bind fun dict' d₂ h => .pure ⟨fun _ => ⟨c, hc⟩, rfl, ?_⟩
    rw [contents_setHeaders, h.1, hcontents, withAuth, hc]

namespace TLSFingerprint

variable (profile : TLSFingerprint)

theorem options_fill (k : Keyword) (v : Option Value) (kwargs : Kwargs HeaderDict) :
    (fill k v kwargs).options = Function.update kwargs.options k ((kwargs.options k).or v) := by
  cases v with
  | none => rw [Option.or_none, Function.update_eq_self, fill]
  | some v =>
    rw [fill, Kwargs.setDefault]
    cases h : kwargs.options k with
    | none => rfl
    | some w =>
      rw [Option.isSome_some, if_pos rfl, Option.some_or, ← h, Function.update_eq_self]

theorem headers_fill (k : Keyword) (v : Option Value) (kwargs : Kwargs HeaderDict) :
    (fill k v kwargs).headers = kwargs.headers := by
  cases v with
  | none => rfl
  | some v => exact headers_setDefault v

theorem ensures_mergeHeaders : Ensures d (profile.mergeHeaders kwargs) fun kwargs' d' =>
    kwargs'.options = kwargs.options ∧ kwargs'.contents d' =
      profile.ownHeaders.setAll Prod.fst Prod.snd (kwargs.contents d).entries := by
  rw [mergeHeaders, ownHeaders]
  cases profile.headers with
  | none => exact .pure ⟨rfl, (Dict.setAll_entries _).symm⟩
  | some headers =>
    refine ensures_headersOr.bind fun r d₁ h => ?_
    obtain ⟨rfl, hcontents, -⟩ := h
    refine ensures_read.bind fun e d₂ h => .pure ⟨rfl, ?_⟩
    rw [h.1, hcontents]
    rfl

theorem ensures_injectHeaders : Ensures d (profile.injectHeaders env kwargs) fun kwargs' d' =>
    kwargs'.options = kwargs.options ∧
      kwargs'.contents d' = addHeaders (profile.dynamicSecChUa env) (kwargs.contents d) := by
  rw [injectHeaders]
  split_ifs with hempty
  · refine .pure ⟨rfl, ?_⟩
    rw [List.isEmpty_iff.1 hempty]
    rfl
  · refine ensures_headersOr.bind fun r d₁ h => ?_
    obtain ⟨rfl, hcontents, -⟩ := h
    refine (ensures_update _).bind fun dict' d₂ h => .pure ⟨rfl, ?_⟩
    rw [contents_setHeaders, h.1, hcontents]

theorem ensures_applyToKwargs : Ensures d (profile.applyToKwargs env kwargs) fun kwargs' d' =>
    (kwargs'.options = fun k => (kwargs.options k).or (profile.sets k)) ∧
      kwargs'.contents d' = profile.mergedHeaders env (kwargs.contents d) := by
  rw [applyToKwargs]
  refine (ensures_mergeHeaders profile).bind fun merged d₁ hmerged => ?_
  refine (ensures_injectHeaders profile).bind fun injected d₂ hinjected => .pure ?_
  have hja3 : (kwargs.setDefault .ja3 (.str profile.ja3)).options =
      Function.update kwargs.options .ja3 ((kwargs.options .ja3).or (profile.sets .ja3)) :=
    options_fill .ja3 (some (.str profile.ja3)) kwargs
  constructor
  · funext k
    simp only [options_fill, hinjected.1, hmerged.1, hja3]
    cases k <;> simp [sets]
  · have hcontents :
        (kwargs.setDefault .ja3 (.str profile.ja3)).contents d = kwargs.contents d := by
      rw [Kwargs.contents, headers_setDefault, Kwargs.contents]
    rw [mergedHeaders, ← hcontents]
    simp only [Kwargs.contents, headers_fill] at hinjected hmerged ⊢
    rw [hinjected.2, hmerged.2]

end TLSFingerprint

theorem ensures_applyFingerprint : Ensures d (applyFingerprint env kwargs) fun kwargs' d' =>
    (kwargs'.options = fun k => (kwargs.options k).or ((kwargs.profile env).bind (·.sets k))) ∧
      kwargs'.contents d' = withProfile env (kwargs.profile env) (kwargs.contents d) := by
  rw [applyFingerprint]
  split_ifs with hnone
  · have hprofile : kwargs.profile env = none := by
      rw [Kwargs.profile]
      revert hnone
      cases kwargs.arg .fingerprint <;> simp [Value.isNone, findProfile, Except.toOption]
    rw [hprofile]
    exact .pure ⟨funext fun k => Option.or_none.symm, rfl⟩
  · refine (Ensures.lift (P := fun profile d' =>
      findProfile env (kwargs.arg .fingerprint) = .ok profile ∧ d' = d)
        fun profile h => ⟨h, rfl⟩).bind fun profile d' h => ?_
    obtain ⟨hfind, rfl⟩ := h
    have hprofile : kwargs.profile env = some profile := by rw [Kwargs.profile, hfind]; rfl
    rw [hprofile]
    exact TLSFingerprint.ensures_applyToKwargs profile

/-- The user agent is taken out of the headers. -/
theorem ensures_takeUserAgent : Ensures d (takeUserAgent kwargs dict) fun r d' =>
    r.1.headers = kwargs.headers ∧ (r.1.options = Function.update kwargs.options .userAgent
      ((((dict.contents d).firstKey isUserAgent).bind (dict.contents d).get?).or
        (kwargs.options .userAgent))) ∧
      r.2.contents d' = withoutAgent (dict.contents d) ∧ OwnStays dict d r.2 d' := by
  rw [takeUserAgent]
  refine ensures_read.bind fun e d₁ h => ?_
  obtain ⟨rfl, rfl⟩ := h
  have hfind : findUserAgent (dict.contents d₁) = ((dict.contents d₁).firstKey isUserAgent).bind
      fun k => ((dict.contents d₁).get? k).map (Prod.mk k) := Dict.find?_entries isUserAgent _
  rw [withoutAgent]
  cases hkey : (dict.contents d₁).firstKey isUserAgent with
  | none =>
    rw [hkey, Option.bind_none] at hfind
    rw [hfind, Option.bind_none, Option.none_or, Function.update_eq_self]
    exact .pure ⟨rfl, rfl, rfl, fun hne => ⟨hne, rfl⟩⟩
  | some key =>
    have hmem : ((dict.contents d₁).get? key).isSome :=
      Dict.mem_keys_iff.1 (List.mem_of_find?_eq_some hkey)
    obtain ⟨value, hvalue⟩ := Option.isSome_iff_exists.1 hmem
    rw [hkey, Option.bind_some, hvalue, Option.map_some] at hfind
    rw [hfind, Option.bind_some, hvalue, Option.some_or]
    exact (ensures_update _).bind fun dict' d₂ h => .pure ⟨rfl, rfl, h.1, h.2⟩

/-- A content type that is there stays. -/
def KeepsType (e e' : Headers) : Prop :=
  ∀ v, e.get? "Content-Type" = some v → e'.get? "Content-Type" = some v

/-- The options that the body does not change are kept. -/
theorem options_set_of_ne {k k' : Keyword} (h : k' ≠ k) (v : Value) :
    (kwargs.set k v).options k' = kwargs.options k' := Function.update_of_ne h _ _

theorem ensures_encodeBody {json data : Value} :
    Ensures d (encodeBody env json data kwargs dict) fun r d' =>
      r.1.headers = kwargs.headers ∧
      (∀ k, k ≠ .body → k ≠ .bodyBytes → r.1.options k = kwargs.options k) ∧
      (json.isNone = false → data.isNone ∧ ∃ text, env.dumps json = .ok text ∧
        r.1.options .body = some (.str text)) ∧
      (json.isNone → data.isNone → r.1.options = kwargs.options) ∧
      (r.2.contents d').get? =
        withType (jsonType json) (formType data) (dict.contents d).get? ∧
      OwnStays dict d r.2 d' := by
  unfold encodeBody
  split_ifs with hjson hdata
  · exact .throw _
  · have hset : jsonType json = some "application/json" := if_neg (by simpa using hjson)
    refine (Ensures.lift (P := fun text d' => env.dumps json = .ok text ∧ d' = d)
      fun text h => ⟨h, rfl⟩).bind fun text d' h => ?_
    obtain ⟨htext, rfl⟩ := h
    refine (ensures_update _).bind fun dict' d₁ h => .pure ?_
    have hbody : (kwargs.set .body (.str text)).options .body = some (.str text) := by
      change Function.update kwargs.options Keyword.body (some (.str text)) .body = _
      rw [Function.update_self]
    refine ⟨rfl, fun k hk _ => options_set_of_ne hk _,
      fun _ => ⟨by simpa using hdata, text, htext, hbody⟩, fun hnone => ?_, ?_, h.2⟩
    · rw [hnone] at hjson
      cases hjson
    · rw [h.1, Dict.get?_set, withType, hset]
      rfl
  · have hjson : json.isNone = true := by simpa using hjson
    have hset : jsonType json = none := if_pos hjson
    have hbody {P : Prop} (hnone : json.isNone = false) : P := by
      rw [hjson] at hnone
      cases hnone
    rw [hset]
    cases hdata : data with
    | none =>
      exact .pure ⟨rfl, fun _ _ _ => rfl, hbody, fun _ _ => rfl, (withType_none _).symm,
        fun hne => ⟨hne, rfl⟩⟩
    | dict items =>
      refine (ensures_update _).bind fun dict' d₁ h => .pure ?_
      refine ⟨rfl, fun k hk _ => options_set_of_ne hk _, hbody, (fun _ hnone => by cases hnone),
        ?_, h.2⟩
      rw [h.1, Dict.get?_setDefault]
      rfl
    | bytes b =>
      exact .pure ⟨rfl, fun k _ hk => options_set_of_ne hk _, hbody,
        (fun _ hnone => by cases hnone), (withType_none _).symm, fun hne => ⟨hne, rfl⟩⟩
    | _ =>
      exact .pure ⟨rfl, fun k hk _ => options_set_of_ne hk _, hbody,
        (fun _ hnone => by cases hnone), (withType_none _).symm, fun hne => ⟨hne, rfl⟩⟩

theorem snd_encodeMultipartFormdata {boundary : String} {fields : List (String × Value)}
    {files : Value} {r : Bytes × String}
    (h : encodeMultipartFormdata env boundary fields files = .ok r) :
    r.2 = "multipart/form-data; boundary=" ++ boundary := by
  unfold encodeMultipartFormdata at h
  dsimp only at h
  split at h
  · obtain ⟨parts, -, h⟩ := bind_eq_ok_iff.1 h
    cases h
    rfl
  · split_ifs at h <;> cases h
    rfl

theorem ensures_encodeFiles {boundary : String} {data : Value} :
    Ensures d (encodeFiles env boundary data kwargs dict) fun r d' =>
      r.1.headers = kwargs.headers ∧ (∀ k, k ≠ .bodyBytes → r.1.options k = kwargs.options k) ∧
      (r.2.contents d').get? =
        withType (filesType boundary (kwargs.arg .files)) none (dict.contents d).get? ∧
      OwnStays dict d r.2 d' := by
  rw [encodeFiles, filesType]
  split_ifs
  · exact .pure ⟨rfl, fun _ _ => rfl, (withType_none _).symm, fun hne => ⟨hne, rfl⟩⟩
  · refine (Ensures.lift (P := fun r d' => r.2 = "multipart/form-data; boundary=" ++ boundary ∧
      d' = d) fun r h => ⟨snd_encodeMultipartFormdata h, rfl⟩).bind fun r d' h => ?_
    obtain ⟨body, contentType⟩ := r
    obtain ⟨rfl, rfl⟩ := h
    refine (ensures_update _).bind fun dict' d₁ h => .pure ?_
    refine ⟨rfl, fun k hk => options_set_of_ne hk _, ?_, h.2⟩
    rw [h.1, Dict.get?_set]
    rfl

/-- The headers are put in the arguments, which have them already where they are not. -/
theorem ensures_storeHeaders {shared : Bool} (h : shared = false → kwargs.contents d = .empty) :
    Ensures d (storeHeaders kwargs dict shared) fun kwargs' d' =>
      kwargs'.options = kwargs.options ∧ kwargs'.contents d' = dict.contents d := by
  rw [storeHeaders]
  refine ensures_read.bind fun e d' hread => .pure ?_
  obtain ⟨rfl, rfl⟩ := hread
  split_ifs with hstored
  · exact ⟨rfl, rfl⟩
  · rw [Bool.or_eq_true, not_or, Bool.not_eq_true, Bool.not_eq_true, Bool.not_eq_false'] at hstored
    exact ⟨rfl, (h hstored.1).trans (eq_empty_of_isEmpty hstored.2).symm⟩

theorem options_convertKwargsCookies : (convertKwargsCookies env kwargs).options =
    Function.update kwargs.options .cookies
      ((kwargs.options .cookies).map (convertRequestCookies env)) := by
  rw [convertKwargsCookies]
  split
  · next v h => rw [h]; rfl
  · next h => rw [h, Option.map_none, ← h, Function.update_eq_self]

theorem contents_convertKwargsCookies :
    (convertKwargsCookies env kwargs).contents d = kwargs.contents d := by
  rw [convertKwargsCookies]
  cases kwargs.options .cookies <;> rfl

/-- The other arguments, when the data is taken: no body is left there if it is `None`. -/
theorem exists_options_takeData (kwargs : Kwargs HeaderDict) : ∃ data₁ kwargs₁ kwargs₂,
    takeData .body (kwargs.arg .data) kwargs = (data₁, kwargs₁) ∧
      takeData .bodyBytes data₁ kwargs₁ = (requestData kwargs, kwargs₂) ∧
      kwargs₂.headers = kwargs.headers ∧
      (∀ k, k ≠ .body → k ≠ .bodyBytes → kwargs₂.options k = kwargs.options k) ∧
      ((requestData kwargs).isNone → kwargs₂.options .body = none) := by
  rcases htaken : takeData .body (kwargs.arg .data) kwargs with ⟨data₁, kwargs₁⟩
  rcases htaken' : takeData .bodyBytes data₁ kwargs₁ with ⟨data₂, kwargs₂⟩
  have hdata : requestData kwargs = data₂ := by rw [requestData, htaken, htaken']
  have hoptions₁ (k : Keyword) (hk : k ≠ .body) : kwargs₁.options k = kwargs.options k := by
    have h : (takeData .body (kwargs.arg .data) kwargs).2.options k = kwargs.options k :=
      options_takeData hk
    rwa [htaken] at h
  have hoptions₂ (k : Keyword) (hk : k ≠ .bodyBytes) : kwargs₂.options k = kwargs₁.options k := by
    have h : (takeData .bodyBytes data₁ kwargs₁).2.options k = kwargs₁.options k :=
      options_takeData hk
    rwa [htaken'] at h
  have hheaders₁ : (takeData .body (kwargs.arg .data) kwargs).2.headers = kwargs.headers :=
    headers_takeData
  have hheaders₂ : (takeData .bodyBytes data₁ kwargs₁).2.headers = kwargs₁.headers :=
    headers_takeData
  rw [htaken] at hheaders₁
  rw [htaken'] at hheaders₂
  refine ⟨data₁, kwargs₁, kwargs₂, rfl, by rw [htaken', hdata], hheaders₂.trans hheaders₁,
    fun k hbody hbytes => (hoptions₂ k hbytes).trans (hoptions₁ k hbody), fun hnone => ?_⟩
  rw [hdata] at hnone
  rw [hoptions₂ .body (by decide)]
  rw [takeData] at htaken
  split_ifs at htaken with harg
  · split at htaken
    · cases htaken
      change Function.update kwargs.options Keyword.body none .body = none
      rw [Function.update_self]
    · next hbody =>
      cases htaken
      exact hbody
  · -- the data that is given is the data of the request
    cases htaken
    rw [takeData, if_neg harg] at htaken'
    cases htaken'
    exact absurd hnone harg

/-- The keywords that are not passed on as they are. -/
def composed : List Keyword := [.userAgent, .body, .bodyBytes, .cookies]

/-- What the arguments come to: `e` are the headers from the credentials and the profile,
    and `options` the values from the profile. -/
structure Prepares (env : PyEnv) (json data : Value) (e : Headers)
    (options : Keyword → Option Value) (kwargs' : Kwargs HeaderDict) (d' : Headers) : Prop where
  passed : ∀ k, k ∉ composed → kwargs'.options k = options k
  cookies : kwargs'.options .cookies = (options .cookies).map (convertRequestCookies env)
  userAgent : kwargs'.options .userAgent =
    ((e.firstKey isUserAgent).bind e.get?).or (options .userAgent)
  header : ∀ name, isUserAgent name = false → name ≠ "Content-Type" →
    (kwargs'.contents d').get? name = e.get? name
  contentType : json.isNone → ((options .files).getD .none).isNone →
    KeepsType e (kwargs'.contents d')
  body : json.isNone = false → data.isNone ∧ ∃ text, env.dumps json = .ok text ∧
    kwargs'.options .body = some (.str text)
  noBody : json.isNone → data.isNone → kwargs'.options .body = none

theorem ensures_normalizeRest {boundary url : String} {json : Value} :
    Ensures d (normalizeRest env boundary url json kwargs) fun r d' =>
      mergeURLParams env url (kwargs.arg .params) = .ok r.1 ∧
      Prepares env json (requestData kwargs) (kwargs.contents d) kwargs.options r.2 d' ∧
      (r.2.contents d').get? =
        withType ((filesType boundary (kwargs.arg .files)).or (jsonType json))
          (formType (requestData kwargs)) (withoutAgent (kwargs.contents d)).get? := by
  obtain ⟨data₁, kwargs₁, taken, htaken, htaken', hheaders, hoptions, hnoBody⟩ :=
    exists_options_takeData kwargs
  have hcontents : taken.contents d = kwargs.contents d := by
    rw [Kwargs.contents, hheaders, Kwargs.contents]
  simp only [normalizeRest, htaken, htaken']
  refine ensures_headersOr.bind fun r₁ d₁ h => ?_
  obtain ⟨dict, shared⟩ := r₁
  obtain ⟨rfl, hdict, hshared⟩ := h
  refine ensures_takeUserAgent.bind fun r₂ d₂ h => ?_
  obtain ⟨hheaders₂, hoptions₂, hget₂, hown₂⟩ := h
  refine (Ensures.lift (P := fun u d' =>
    mergeURLParams env url (r₂.1.arg .params) = .ok u ∧ d' = d₂)
      fun u h => ⟨h, rfl⟩).bind fun u d₃ h => ?_
  obtain ⟨hu, rfl⟩ := h
  refine ensures_encodeBody.bind fun r₄ d₄ h => ?_
  obtain ⟨hheaders₄, hoptions₄, hbody₄, hnoBody₄, hget₄, hown₄⟩ := h
  refine ensures_encodeFiles.bind fun r₅ d₅ h => ?_
  obtain ⟨hheaders₅, hoptions₅, hget₅, hown₅⟩ := h
  -- where the headers are not stored, the arguments had none and no dict was written to
  have hstored : shared = false → r₅.1.contents d₅ = .empty := by
    intro hnot
    have hne : dict ≠ .given := fun heq => by cases heq ▸ hshared hnot
    rw [Kwargs.contents, hheaders₅, hheaders₄, hheaders₂, ((hown₂.trans hown₄).trans hown₅ hne).2]
    have hempty := hdict
    rw [hshared hnot] at hempty
    exact hempty.symm
  refine (ensures_storeHeaders hstored).bind fun kwargs₆ d₆ h => .pure ?_
  obtain ⟨hoptions₆, hcontents₆⟩ := h
  have hkeep (k : Keyword) (hk : k ≠ .cookies) :
      (convertKwargsCookies env kwargs₆).options k = r₅.1.options k := by
    rw [options_convertKwargsCookies, Function.update_of_ne hk, hoptions₆]
  have hpass (k : Keyword) (hagent : k ≠ .userAgent) (hbody : k ≠ .body) (hbytes : k ≠ .bodyBytes) :
      r₅.1.options k = kwargs.options k := by
    rw [hoptions₅ k hbytes, hoptions₄ k hbody hbytes, hoptions₂, Function.update_of_ne hagent,
      hoptions k hbody hbytes]
  rw [Kwargs.arg, hoptions₂, Function.update_of_ne (by decide),
    hoptions .params (by decide) (by decide)] at hu
  have hfiles : r₄.1.options .files = kwargs.options .files := by
    rw [hoptions₄ .files (by decide) (by decide), hoptions₂, Function.update_of_ne (by decide),
      hoptions .files (by decide) (by decide)]
  have hget : ((convertKwargsCookies env kwargs₆).contents d₆).get? =
      withType ((filesType boundary (kwargs.arg .files)).or (jsonType json))
        (formType (requestData kwargs)) (withoutAgent (kwargs.contents d₁)).get? := by
    rw [contents_convertKwargsCookies, hcontents₆, hget₅, hget₄, withType_withType, hget₂, hdict,
      hcontents, Kwargs.arg, hfiles, Kwargs.arg]
  refine ⟨hu, ?_, hget⟩
  constructor
  · intro k hk
    simp only [composed, List.mem_cons, List.not_mem_nil, or_false, not_or] at hk
    rw [hkeep k hk.2.2.2, hpass k hk.1 hk.2.1 hk.2.2.1]
  · rw [options_convertKwargsCookies, Function.update_self, hoptions₆,
      hpass .cookies (by decide) (by decide) (by decide)]
  · rw [hkeep .userAgent (by decide), hoptions₅ .userAgent (by decide),
      hoptions₄ .userAgent (by decide) (by decide), hoptions₂, Function.update_self, hdict,
      hcontents, hoptions .userAgent (by decide) (by decide)]
  · intro name hagent hname
    rw [hget, withType_of_ne hname, get?_withoutAgent_of_ne hagent]
  · intro hjson hfiles v hv
    have hset : (filesType boundary (kwargs.arg .files)).or (jsonType json) = none := by
      rw [filesType, Kwargs.arg, if_pos hfiles, jsonType, if_pos hjson]
      rfl
    rw [hget, hset]
    refine withType_of_eq_some ?_ _
    rwa [get?_withoutAgent_of_ne (by decide)]
  · intro hjson
    rw [hkeep .body (by decide), hoptions₅ .body (by decide)]
    exact hbody₄ hjson
  · intro hjson hdata
    rw [hkeep .body (by decide), hoptions₅ .body (by decide), hnoBody₄ hjson hdata, hoptions₂,
      Function.update_of_ne (by decide)]
    exact hnoBody hdata

/-- What the preparation ensures is what its rest does, for the arguments with the credentials and
    the profile. -/
theorem ensures_normalize_of {boundary url : String}
    {Q : String × Kwargs HeaderDict → Headers → Prop}
    (h : ∀ json kwargs' d', takeJson kwargs = .ok json → AuthPasses env kwargs →
      (kwargs'.options = fun k => (kwargs.options k).or ((kwargs.profile env).bind (·.sets k))) →
      SameBody kwargs kwargs' → kwargs'.contents d' = withProfile env (kwargs.profile env)
        (withAuth env (kwargs.arg .auth) (kwargs.contents d)) →
      Ensures d' (normalizeRest env boundary url json kwargs') Q) :
    Ensures d (normalize env boundary url kwargs) Q := by
  rw [normalize]
  refine (Ensures.lift (P := fun json d' => takeJson kwargs = .ok json ∧ d' = d)
    fun json h => ⟨h, rfl⟩).bind fun json d₁ hjson => ?_
  obtain ⟨hjson, rfl⟩ := hjson
  refine ensures_applyAuth.bind fun kwargs₂ d₂ h₂ => ?_
  obtain ⟨hauth, hoptions₂, hcontents₂⟩ := h₂
  refine ensures_applyFingerprint.bind fun kwargs₃ d₃ h₃ => ?_
  obtain ⟨hoptions₃, hcontents₃⟩ := h₃
  have hprofile : kwargs₂.profile env = kwargs.profile env := by
    rw [Kwargs.profile, Kwargs.arg, hoptions₂, Kwargs.profile, Kwargs.arg]
  rw [hprofile, hoptions₂] at hoptions₃
  rw [hprofile, hcontents₂] at hcontents₃
  refine h json kwargs₃ d₃ hjson hauth hoptions₃ (fun k hk => ?_) hcontents₃
  have hsets : (kwargs.profile env).bind (·.sets k) = none :=
    Option.bind_eq_none_iff.2 fun profile _ => profile.sets_of_mem_bodyKeywords hk
  rw [hoptions₃]
  simp only [hsets, Option.or_none]

/-- What the preparation makes of the arguments. -/
theorem ensures_normalize {boundary url : String} :
    Ensures d (normalize env boundary url kwargs) fun r d' => ∃ json, takeJson kwargs = .ok json ∧
      AuthPasses env kwargs ∧ mergeURLParams env url (kwargs.arg .params) = .ok r.1 ∧
      Prepares env json (requestData kwargs)
        (withProfile env (kwargs.profile env) (withAuth env (kwargs.arg .auth) (kwargs.contents d)))
        (fun k => (kwargs.options k).or ((kwargs.profile env).bind (·.sets k))) r.2 d' := by
  refine ensures_normalize_of fun json kwargs' d' hjson hauth hoptions hbody hcontents => ?_
  refine ensures_normalizeRest.imp fun r d₄ h => ⟨json, hjson, hauth, ?_⟩
  rw [requestData_congr hbody, hcontents, Kwargs.arg, hbody .params (by decide), hoptions] at h
  exact ⟨h.1, h.2.1⟩

end CycleTLS
