import CycleTLS.AsyncClient
import CycleTLS.ClientHints

/-!
# The headers of the caller (`_prepare_request`)

A request writes to the dict that the caller gives for the headers, and only a profile with
headers of its own makes it write to another one: the credentials, the `sec-ch-ua` headers and
the content type are set in the dict, and the user agent is deleted from it. The next request
with the same dict is sent with these headers.

A call leaves the dict as it is, so that it makes no difference whether the next one is given
the dict or a copy, exactly if all that the call would write is there already
(`keepsHeaders_iff`).
-/

namespace CycleTLS

open Raising

variable (env : PyEnv)

/-- A call of `request` or `arequest`. The other methods call one of these, with their name
    and with what they hand on. -/
structure RequestCall where
  async : Bool
  closed : Bool
  boundary : String
  method : String
  url : String
  kwargs : Kwargs HeaderDict

/-- The options in the payload of a call. -/
def RequestCall.prepare (call : RequestCall) : PyM OptionsDict :=
  if call.async then arequest env call.closed call.boundary call.method call.url call.kwargs
  else request env call.closed call.boundary call.method call.url call.kwargs

/-- A call leaves the headers that it is given as they are, and the next one with them has the
    same payload as one with a copy of them. -/
structure RequestCall.KeepsHeaders (call : RequestCall) (d : Headers) : Prop where
  unchanged : (exec (call.prepare env) d).2 = d
  reuse : ∀ next : RequestCall,
    (exec (next.prepare env) (exec (call.prepare env) d).2).1 = (exec (next.prepare env) d).1

/-! ## What is there already -/

/-- The headers have the credentials. -/
def AuthThere (auth : Value) (d : Headers) : Prop :=
  ∀ user password, authParts auth = .ok (user, password) →
    d.get? "Authorization" = some (.str ("Basic " ++
      env.b64encode (Utf8.utf8 (env.format user ++ ":" ++ env.format password))))

/-- The headers have each hint that is computed for a profile. -/
def HintsThere (profile : Option TLSFingerprint) (d : Headers) : Prop :=
  ∀ p, profile = some p → (majorOf env p.agent).isSome →
    ∀ hint : Hint, hint.name ∈ p.headerOrder.getD [] → (d.get? hint.name).isSome

/-- There are files, and they are encoded without an exception. -/
def FilesPass (boundary : String) (data files : Value) : Prop :=
  files.isNone = false ∧
    ∃ r, encodeMultipartFormdata env boundary (formFields data) files = .ok r

/-- The headers have the content type that is set last. -/
def TypeThere (boundary : String) (json data files : Value) (d : Headers) : Prop :=
  BodyPasses env json data →
    (FilesPass env boundary data files →
      d.get? "Content-Type" = some (.str ("multipart/form-data; boundary=" ++ boundary))) ∧
    (¬FilesPass env boundary data files →
      (json.isNone = false → d.get? "Content-Type" = some (.str "application/json")) ∧
      (json.isNone → ∀ items, data = .dict items → (d.get? "Content-Type").isSome))

/-- The headers have no user agent, and have the content type. -/
def RestThere (boundary url : String) (json : Value) (kwargs : Kwargs HeaderDict) (d : Headers) :
    Prop :=
  d.firstKey isUserAgent = none ∧ ∀ u, mergeURLParams env url (kwargs.arg .params) = .ok u →
    TypeThere env boundary json (requestData kwargs) (kwargs.arg .files) d

/-- The credentials can be unpacked, if there are any. -/
def AuthGiven (auth : Value) : Prop := auth.isNone ∨ ∃ parts, authParts auth = .ok parts

/-- All that a request would write to the headers is there, as far as it gets and as long as
    it does not copy them. -/
def AllThere (boundary url : String) (kwargs : Kwargs HeaderDict) (d : Headers) : Prop :=
  ∀ json, takeJson kwargs = .ok json → AuthThere env (kwargs.arg .auth) d ∧
    (AuthGiven (kwargs.arg .auth) → ∀ profile, AppliesProfile env kwargs profile →
      ¬Copies profile → HintsThere env profile d ∧ RestThere env boundary url json kwargs d)

variable {env} {d : Headers} {kwargs : Kwargs HeaderDict} {dict : HeaderDict}

/-! ## What each step does not see -/

/-- The values of some headers. -/
def seen (p : String → Prop) (d : Headers) : {name // p name} → Option Value :=
  fun name => d.get? name

section Seen

variable {p : String → Prop} {k : String}

theorem seen_set (hk : ¬p k) (d : Headers) (v : Value) : seen p (d.set k v) = seen p d := by
  funext name
  have hne : name.1 ≠ k := by
    rintro rfl
    exact hk name.2
  rw [seen, Dict.get?_set, Function.update_of_ne hne, seen]

theorem seen_setDefault (hk : ¬p k) (d : Headers) (v : Value) :
    seen p (d.setDefault k v) = seen p d := by
  rw [Dict.setDefault]
  split_ifs
  · rfl
  · exact seen_set hk d v

theorem seen_erase (hk : ¬p k) (d : Headers) : seen p (d.erase k) = seen p d := by
  funext name
  have hne : name.1 ≠ k := by
    rintro rfl
    exact hk name.2
  rw [seen, Dict.get?_erase_of_ne _ hne, seen]

theorem preserves_read {γ : Type} {view : Headers → γ} (dict : HeaderDict) :
    Preserves view dict.read := by
  cases dict with
  | given => exact .get
  | own e => exact .pure e

theorem preserves_update {γ : Type} {view : Headers → γ} {f : Headers → Headers}
    (h : ∀ d, view (f d) = view d) (dict : HeaderDict) : Preserves view (dict.update f) := by
  cases dict with
  | given => exact (Preserves.modify h).bind fun _ => .pure _
  | own e => exact .pure _

theorem preserves_headersOr {γ : Type} {view : Headers → γ} (kwargs : Kwargs HeaderDict) :
    Preserves view kwargs.headersOr := by
  rw [Kwargs.headersOr]
  split
  · exact (preserves_read _).bind fun _ => .pure _
  · exact .pure _

theorem seen_addHeaders {headers : List (String × String)} (h : ∀ e ∈ headers, ¬p e.1)
    (d : Headers) : seen p (TLSFingerprint.addHeaders headers d) = seen p d := by
  induction headers generalizing d with
  | nil => rfl
  | cons e headers ih =>
    obtain ⟨he, hheaders⟩ := List.forall_mem_cons.1 h
    exact (ih hheaders _).trans (seen_setDefault he d _)

theorem preserves_applyFingerprint (h : ∀ hint : Hint, ¬p hint.name) (kwargs : Kwargs HeaderDict) :
    Preserves (seen p) (applyFingerprint env kwargs) := by
  have hmem (profile : TLSFingerprint) : ∀ e ∈ profile.dynamicSecChUa env, ¬p e.1 := by
    intro e he
    have hname := TLSFingerprint.mem_dynamicSecChUa he
    simp only [List.mem_cons, List.not_mem_nil, or_false] at hname
    rcases hname with heq | heq | heq <;> rw [heq]
    · exact h .brands
    · exact h .mobile
    · exact h .platform
  rw [applyFingerprint]
  split_ifs
  · exact .pure _
  · refine (Preserves.lift _).bind fun profile => ?_
    rw [TLSFingerprint.applyToKwargs_eq]
    refine Preserves.bind ?_ fun merged => ?_
    · rw [TLSFingerprint.mergeHeaders]
      cases profile.headers with
      | none => exact .pure _
      | some headers =>
        exact (preserves_headersOr _).bind fun r => (preserves_read r.1).bind fun _ => .pure _
    · rw [TLSFingerprint.afterMerge]
      refine Preserves.bind ?_ fun _ => .pure _
      rw [TLSFingerprint.injectHeaders]
      split_ifs
      · exact .pure _
      · exact (preserves_headersOr _).bind fun r =>
          (preserves_update (seen_addHeaders (hmem profile)) r.1).bind fun _ => .pure _

theorem preserves_encodeBody (h : ¬p "Content-Type") {json data : Value} :
    Preserves (seen p) (encodeBody env json data kwargs dict) := by
  unfold encodeBody
  split_ifs
  · exact .throw _
  · exact (Preserves.lift _).bind fun _ =>
      (preserves_update (fun d => seen_set h d _) dict).bind fun _ => .pure _
  · cases data with
    | none => exact .pure _
    | dict items =>
      exact (preserves_update (fun d => seen_setDefault h d _) dict).bind fun _ => .pure _
    | bytes b => exact .pure _
    | _ => exact .pure _

theorem preserves_encodeFiles (h : ¬p "Content-Type") {boundary : String} {data : Value} :
    Preserves (seen p) (encodeFiles env boundary data kwargs dict) := by
  rw [encodeFiles]
  split_ifs
  · exact .pure _
  · exact (Preserves.lift _).bind fun _ =>
      (preserves_update (fun d => seen_set h d _) dict).bind fun _ => .pure _

theorem preserves_storeHeaders {γ : Type} {view : Headers → γ} {shared : Bool} :
    Preserves view (storeHeaders kwargs dict shared) :=
  (preserves_read dict).bind fun _ => .pure _

end Seen

/-! ## The steps -/

/-- The dict that is given is taken for the headers. -/
theorem exec_headersOr_given (hheaders : kwargs.headers = some (some .given))
    (hd : d.isEmpty = false) : exec kwargs.headersOr d = (.ok (.given, true), d) := by
  rw [Kwargs.headersOr, hheaders]
  simp only [exec_bind, exec_read]
  change exec (pure (if d.isEmpty then _ else _) : PyM (HeaderDict × Bool)) d = _
  rw [hd, if_neg Bool.false_ne_true]
  rfl

theorem setHeaders_eq_self (hheaders : kwargs.headers = some (some dict)) :
    kwargs.setHeaders dict = kwargs := by
  rw [Kwargs.setHeaders, ← hheaders]

theorem authorization_eq (auth : Value) : authorization env auth = (authParts auth).map fun e =>
    "Basic " ++ env.b64encode (Utf8.utf8 (env.format e.1 ++ ":" ++ env.format e.2)) := by
  rw [authorization]
  cases authParts auth <;> rfl

/-- The credentials of a request are set in the dict, or it raises an exception. -/
theorem exec_applyAuth_cases (env : PyEnv) (hheaders : kwargs.headers = some (some .given))
    (hd : d.isEmpty = false) :
    (∃ e, exec (applyAuth env kwargs) d = (.error e, d) ∧ ¬AuthGiven (kwargs.arg .auth) ∧
      AuthThere env (kwargs.arg .auth) d) ∨
    ∃ d', exec (applyAuth env kwargs) d = (.ok kwargs, d') ∧ AuthGiven (kwargs.arg .auth) ∧
      (d' = d ↔ AuthThere env (kwargs.arg .auth) d) ∧
      (seen (· = "Authorization") d' = seen (· = "Authorization") d → d' = d) := by
  rw [applyAuth, AuthGiven]
  by_cases hnone : (kwargs.arg .auth).isNone = true
  · have hauth : kwargs.arg .auth = .none := by
      revert hnone
      cases kwargs.arg .auth <;> simp [Value.isNone]
    rw [if_pos hnone, hauth]
    exact .inr ⟨d, rfl, .inl rfl, iff_of_true rfl (by rintro user password ⟨⟩), fun _ => rfl⟩
  · rw [if_neg hnone, authorization_eq]
    cases hparts : authParts (kwargs.arg .auth) with
    | error e =>
      refine .inl ⟨e, rfl, ?_, by rintro user password h; rw [hparts] at h; cases h⟩
      rintro (h | ⟨parts, h⟩)
      · exact hnone h
      · cases h
    | ok parts =>
      refine .inr ⟨d.set "Authorization" (.str ("Basic " ++ env.b64encode
        (Utf8.utf8 (env.format parts.1 ++ ":" ++ env.format parts.2)))), ?_, .inr ⟨parts, rfl⟩,
        ?_, fun hseen => ?_⟩
      · simp only [exec_bind, Except.map, exec_lift, exec_headersOr_given hheaders hd,
          HeaderDict.update, exec_modify, exec_pure, setHeaders_eq_self hheaders]
      · rw [Dict.set_eq_self_iff]
        refine ⟨fun h user password heq => ?_, fun h => h parts.1 parts.2 hparts⟩
        cases Except.ok.inj (hparts.symm.trans heq)
        exact h
      · have hget := congrFun hseen ⟨"Authorization", rfl⟩
        rw [seen, Dict.get?_set, Function.update_self] at hget
        exact Dict.set_of_get? hget.symm

namespace TLSFingerprint

variable (profile : TLSFingerprint)

/-- The hints of a profile are added to the dict. -/
theorem exec_injectHeaders_given (hheaders : kwargs.headers = some (some .given))
    (hd : d.isEmpty = false) : exec (profile.injectHeaders env kwargs) d =
      (.ok kwargs, addHeaders (profile.dynamicSecChUa env) d) := by
  rw [injectHeaders]
  split_ifs with hempty
  · rw [List.isEmpty_iff.1 hempty]
    rfl
  · simp only [exec_bind, exec_headersOr_given hheaders hd, HeaderDict.update, exec_modify,
      exec_pure, setHeaders_eq_self hheaders]

/-- Headers that nobody else holds are changed without a trace. -/
theorem exists_exec_injectHeaders (env : PyEnv) (d : Headers) (h : Owned kwargs) : ∃ kwargs',
    exec (profile.injectHeaders env kwargs) d = (.ok kwargs', d) ∧ Owned kwargs' ∧
      kwargs'.options = kwargs.options := by
  have hdetached : Detached (profile.injectHeaders env kwargs) Owned := detached_injectHeaders h
  obtain ⟨r, hr, howned⟩ := hdetached
  rw [injectHeaders] at hr ⊢
  split_ifs at hr ⊢
  · exact ⟨kwargs, rfl, h, rfl⟩
  · obtain ⟨dict, shared, hdict, -, -⟩ := exists_exec_headersOr kwargs d
    obtain ⟨dict', d', hdict', -, -⟩ :=
      exists_exec_update (addHeaders (profile.dynamicSecChUa env)) dict d
    have hrun := hr d
    simp only [exec_bind, hdict, hdict', exec_pure] at hrun ⊢
    obtain ⟨hok, rfl⟩ := Prod.mk.inj hrun
    exact ⟨_, rfl, howned _ hok.symm, rfl⟩

theorem sameBody_filled : SameBody kwargs (profile.filled kwargs) :=
  (KeepsBody.fill (by decide) _ <| .fill (by decide) _ <| .fill (by decide) _ <|
    .fill (by decide) _ <| .fill (by decide) _ <| .setDefault (by decide) _ .refl).1

/-- A profile is applied without an exception: to a dict of its own if it has headers, else to
    the one that is given. -/
theorem exists_exec_applyToKwargs (hheaders : kwargs.headers = some (some .given))
    (hd : d.isEmpty = false) : ∃ kwargs' d', SameBody kwargs kwargs' ∧
      exec (profile.applyToKwargs env kwargs) d = (.ok kwargs', d') ∧
      (profile.headers ≠ none → Owned kwargs' ∧ d' = d) ∧
      (profile.headers = none → kwargs'.headers = some (some .given) ∧
        d' = addHeaders (profile.dynamicSecChUa env) d) := by
  have hlast (injected : Kwargs HeaderDict) : KeepsBody injected
      (fill .forceHTTP3 (if profile.forceHTTP3 then some (.bool true) else none)
        (fill .forceHTTP1 (if profile.forceHTTP1 then some (.bool true) else none)
          (fill .disableGrease (if profile.disableGrease then some (.bool true) else none)
            injected))) :=
    .fill (by decide) _ <| .fill (by decide) _ <| .fill (by decide) _ .refl
  rw [applyToKwargs_eq]
  by_cases hown : profile.headers = none
  · have hmerge : profile.mergeHeaders (profile.filled kwargs) = pure (profile.filled kwargs) := by
      rw [mergeHeaders, hown]
    have hfilled : (profile.filled kwargs).headers = some (some .given) := by
      rw [headers_filled, hheaders]
    rw [hmerge, pure_bind, afterMerge, exec_bind, exec_injectHeaders_given profile hfilled hd]
    refine ⟨_, _, (sameBody_filled profile).trans (hlast _).1, rfl, fun h => absurd hown h,
      fun _ => ⟨?_, rfl⟩⟩
    simp only [headers_fill, hfilled]
  · rw [exec_bind, exec_mergeHeaders hown]
    have hmerged : Owned ((profile.filled kwargs).setHeaders (.own (profile.ownHeaders.setAll
        Prod.fst Prod.snd ((profile.filled kwargs).contents d).entries))) :=
      owned_setHeaders (own_ne_given _)
    obtain ⟨injected, hexec, howned, hoptions⟩ :=
      exists_exec_injectHeaders profile env d hmerged
    simp only [afterMerge, exec_bind, hexec]
    refine ⟨_, d, ?_, rfl, fun _ => ⟨owned_fill (owned_fill (owned_fill howned)), rfl⟩,
      fun h => absurd h hown⟩
    refine ((sameBody_filled profile).trans fun k _ => ?_).trans (hlast injected).1
    rw [hoptions]
    rfl

end TLSFingerprint

theorem isSome_get?_addHeaders {headers : List (String × String)} {e : String × String}
    (he : e ∈ headers) : ((TLSFingerprint.addHeaders headers d).get? e.1).isSome := by
  have hlookup : (headers.lookup e.1).isSome := by
    rw [← Option.ne_none_iff_isSome]
    exact fun hnone => by simpa using List.lookup_eq_none_iff.1 hnone e he
  rw [TLSFingerprint.get?_addHeaders, Option.isSome_or, Option.isSome_map, hlookup, Bool.or_true]

theorem addHeaders_eq_self_iff {headers : List (String × String)} :
    TLSFingerprint.addHeaders headers d = d ↔ ∀ e ∈ headers, (d.get? e.1).isSome := by
  refine ⟨fun h e he => ?_, addHeaders_of_isSome⟩
  rw [← h]
  exact isSome_get?_addHeaders he

/-- The name of a hint. -/
def isHint (name : String) : Prop := ∃ hint : Hint, name = hint.name

theorem isHint_of_mem {profile : TLSFingerprint} {e : String × String}
    (he : e ∈ profile.dynamicSecChUa env) : isHint e.1 := by
  have hname := TLSFingerprint.mem_dynamicSecChUa he
  simp only [List.mem_cons, List.not_mem_nil, or_false] at hname
  rcases hname with h | h | h
  · exact ⟨.brands, h⟩
  · exact ⟨.mobile, h⟩
  · exact ⟨.platform, h⟩

/-- The hints of a profile are there if they make no difference. -/
theorem hintsThere_iff {profile : TLSFingerprint} : HintsThere env (some profile) d ↔
    TLSFingerprint.addHeaders (profile.dynamicSecChUa env) d = d := by
  have hcomputed (hint : Hint) : (∃ e ∈ profile.dynamicSecChUa env, e.1 = hint.name) ↔
      (majorOf env profile.agent).isSome ∧ hint.name ∈ profile.headerOrder.getD [] := by
    have hlookup : (∃ e ∈ profile.dynamicSecChUa env, e.1 = hint.name) ↔
        (profile.dynamicSecChUa env).lookup hint.name ≠ none := by
      rw [Ne, List.lookup_eq_none_iff, not_forall]
      refine exists_congr fun e => ?_
      rw [Classical.not_imp, bne_iff_ne, not_not, eq_comm]
    rw [hlookup, TLSFingerprint.lookup_dynamicSecChUa]
    split_ifs with horder <;> simp [horder, Option.isSome_iff_ne_none]
  rw [addHeaders_eq_self_iff]
  constructor
  · intro h e he
    obtain ⟨hint, hname⟩ := isHint_of_mem he
    obtain ⟨hmajor, horder⟩ := (hcomputed hint).1 ⟨e, he, hname⟩
    rw [hname]
    exact h profile rfl hmajor hint horder
  · rintro h p hp hmajor hint horder
    cases hp
    obtain ⟨e, he, hname⟩ := (hcomputed hint).2 ⟨hmajor, horder⟩
    rw [← hname]
    exact h e he

theorem AppliesProfile.unique {profile profile' : Option TLSFingerprint}
    (h : AppliesProfile env kwargs profile) (h' : AppliesProfile env kwargs profile') :
    profile = profile' := by
  have habsurd {p : Prop} (hsome : (kwargs.arg .fingerprint).isNone = false)
      (hnone : (kwargs.arg .fingerprint).isNone) : p := by
    rw [hsome] at hnone
    cases hnone
  cases profile with
  | none =>
    cases profile' with
    | none => rfl
    | some q => exact habsurd h'.1 h
  | some p =>
    cases profile' with
    | none => exact habsurd h.1 h'
    | some q => rw [Except.ok.inj (h.2.symm.trans h'.2)]

/-- A profile is found and applied, to the dict if it does not copy it, or an exception is
    raised. -/
theorem exec_applyFingerprint_cases (env : PyEnv) (hheaders : kwargs.headers = some (some .given))
    (hd : d.isEmpty = false) :
    (∃ e, exec (applyFingerprint env kwargs) d = (.error e, d) ∧
      ∀ profile, ¬AppliesProfile env kwargs profile) ∨
    ∃ profile kwargs' d', exec (applyFingerprint env kwargs) d = (.ok kwargs', d') ∧
      AppliesProfile env kwargs profile ∧ SameBody kwargs kwargs' ∧
      (Copies profile → Owned kwargs' ∧ d' = d) ∧
      (¬Copies profile → kwargs'.headers = some (some .given) ∧
        (d' = d ↔ HintsThere env profile d)) ∧
      (seen isHint d' = seen isHint d → d' = d) := by
  rw [applyFingerprint]
  by_cases hnone : (kwargs.arg .fingerprint).isNone = true
  · rw [if_pos hnone]
    exact .inr ⟨none, kwargs, d, rfl, hnone, fun _ _ => rfl, False.elim,
      fun _ => ⟨hheaders, iff_of_true rfl (by rintro p ⟨⟩)⟩, fun _ => rfl⟩
  · rw [if_neg hnone]
    have hsome : (kwargs.arg .fingerprint).isNone = false := Bool.eq_false_iff.2 hnone
    cases hfind : findProfile env (kwargs.arg .fingerprint) with
    | error e =>
      refine .inl ⟨e, rfl, fun profile h => ?_⟩
      cases profile with
      | none => exact hnone h
      | some profile => cases hfind.symm.trans h.2
    | ok profile =>
      obtain ⟨kwargs', d', hbody, hexec, hcopies, hgiven⟩ :=
        profile.exists_exec_applyToKwargs hheaders hd
      refine .inr ⟨some profile, kwargs', d', ?_, ⟨hsome, hfind⟩, hbody, hcopies, fun h => ?_,
        fun hseen => ?_⟩
      · rw [exec_bind, exec_lift]
        exact hexec
      · obtain ⟨hheaders', rfl⟩ := hgiven (not_not.1 h)
        exact ⟨hheaders', hintsThere_iff.symm⟩
      · by_cases hown : profile.headers = none
        · obtain ⟨-, rfl⟩ := hgiven hown
          refine addHeaders_of_isSome fun e he => ?_
          have hget := congrFun hseen ⟨e.1, isHint_of_mem he⟩
          rw [seen, seen] at hget
          rw [← hget]
          exact isSome_get?_addHeaders he
        · exact (hcopies hown).2

/-! ## The content type -/

/-- The content type of the body is set in the dict, or an exception is raised. -/
theorem exec_encodeBody_cases (env : PyEnv) (json data : Value) (kwargs : Kwargs HeaderDict)
    (d : Headers) :
    (∃ e, exec (encodeBody env json data kwargs .given) d = (.error e, d) ∧
      ¬BodyPasses env json data) ∨
    ∃ kwargs' d', exec (encodeBody env json data kwargs .given) d = (.ok (kwargs', .given), d') ∧
      BodyPasses env json data ∧ kwargs'.arg .files = kwargs.arg .files ∧
      (∀ v, d'.set "Content-Type" v = d.set "Content-Type" v) ∧
      (d' = d ↔ (json.isNone = false → d.get? "Content-Type" = some (.str "application/json")) ∧
        (json.isNone → ∀ items, data = .dict items → (d.get? "Content-Type").isSome)) := by
  have hfiles {k : Keyword} (hk : Keyword.files ≠ k) (v : Value) :
      (kwargs.set k v).arg .files = kwargs.arg .files := arg_set_of_ne hk v
  unfold encodeBody
  cases hjson : json.isNone with
  | false =>
    rw [Bool.not_false, if_pos rfl]
    cases hdata : data.isNone with
    | false =>
      refine .inl ⟨_, rfl, fun h => ?_⟩
      have hnone := (h hjson).1
      rw [hdata] at hnone
      cases hnone
    | true =>
      cases hdumps : env.dumps json with
      | error e =>
        refine .inl ⟨e, rfl, fun h => ?_⟩
        obtain ⟨-, text, htext⟩ := h hjson
        cases hdumps.symm.trans htext
      | ok text =>
        refine .inr ⟨_, _, rfl, fun _ => ⟨hdata, text, hdumps⟩, hfiles (by decide) _,
          fun v => Dict.set_set d _ _ v, ?_⟩
        rw [Dict.set_eq_self_iff]
        exact ⟨fun h => ⟨fun _ => h, by rintro ⟨⟩⟩, fun h => h.1 rfl⟩
  | true =>
    rw [Bool.not_true, if_neg Bool.false_ne_true]
    have hpasses : BodyPasses env json data := fun h => by rw [hjson] at h; cases h
    cases data with
    | none => exact .inr ⟨_, _, rfl, hpasses, rfl, fun _ => rfl, by simp⟩
    | dict items =>
      refine .inr ⟨_, _, rfl, hpasses, hfiles (by decide) _,
        fun v => Dict.setDefault_set d _ _ v, ?_⟩
      rw [Dict.setDefault_eq_self_iff]
      simp
    | bytes b => exact .inr ⟨_, _, rfl, hpasses, hfiles (by decide) _, fun _ => rfl, by simp⟩
    | _ => exact .inr ⟨_, _, rfl, hpasses, hfiles (by decide) _, fun _ => rfl, by simp⟩

/-- The content type of the files is set in the dict if they are encoded. -/
theorem snd_exec_encodeFiles (env : PyEnv) (boundary : String) (data : Value)
    (kwargs : Kwargs HeaderDict) (d : Headers) :
    (FilesPass env boundary data (kwargs.arg .files) →
      (exec (encodeFiles env boundary data kwargs .given) d).2 =
        d.set "Content-Type" (.str ("multipart/form-data; boundary=" ++ boundary))) ∧
    (¬FilesPass env boundary data (kwargs.arg .files) →
      (exec (encodeFiles env boundary data kwargs .given) d).2 = d) := by
  rw [encodeFiles, FilesPass]
  cases hfiles : (kwargs.arg .files).isNone with
  | true =>
    refine ⟨?_, fun _ => rfl⟩
    rintro ⟨⟨⟩, -⟩
  | false =>
    rw [if_neg Bool.false_ne_true]
    cases hencode : encodeMultipartFormdata env boundary (formFields data) (kwargs.arg .files) with
    | error e =>
      refine ⟨?_, fun _ => rfl⟩
      rintro ⟨-, r, ⟨⟩⟩
    | ok r =>
      refine ⟨fun _ => ?_, fun h => absurd ⟨rfl, r, rfl⟩ h⟩
      rw [← snd_encodeMultipartFormdata hencode]
      rfl

/-- What is done after the user agent is taken out of the headers. -/
def encodeRest (env : PyEnv) (boundary url : String) (json data : Value) (shared : Bool)
    (r : Kwargs HeaderDict × HeaderDict) : PyM (String × Kwargs HeaderDict) := do
  let u ← mergeURLParams env url (r.1.arg .params)
  let r ← encodeBody env json data r.1 r.2
  let r ← encodeFiles env boundary data r.1 r.2
  let kwargs ← storeHeaders r.1 r.2 shared
  return (u, convertKwargsCookies env kwargs)

/-- The content type is left as it is exactly if it is the one that is set last. -/
theorem snd_exec_encodeRest_iff {boundary url : String} {json data : Value} (shared : Bool) :
    (exec (encodeRest env boundary url json data shared (kwargs, .given)) d).2 = d ↔
      ∀ u, mergeURLParams env url (kwargs.arg .params) = .ok u →
        TypeThere env boundary json data (kwargs.arg .files) d := by
  have hstore (u : String) (r : Kwargs HeaderDict × HeaderDict) : Preserves id (do
      let kwargs ← storeHeaders r.1 r.2 shared
      return (u, convertKwargsCookies env kwargs) : PyM (String × Kwargs HeaderDict)) :=
    preserves_storeHeaders.bind fun _ => .pure _
  rw [encodeRest, exec_bind, exec_lift]
  cases hu : mergeURLParams env url (kwargs.arg .params) with
  | error e => exact iff_of_true rfl (by rintro u ⟨⟩)
  | ok u =>
    simp only [Except.ok.injEq, forall_eq']
    rw [TypeThere, exec_bind]
    obtain ⟨e, hexec, hpasses⟩ | ⟨kwargs', d', hexec, hpasses, hfiles, hset, hsame⟩ :=
      exec_encodeBody_cases env json data kwargs d
    · rw [hexec]
      exact iff_of_true rfl fun h => absurd h hpasses
    · obtain ⟨hpass, hnot⟩ := snd_exec_encodeFiles env boundary data kwargs' d'
      rw [hfiles] at hpass hnot
      rw [hexec]
      change (exec (encodeFiles env boundary data kwargs' .given >>= _) d').2 = d ↔ _
      rw [snd_exec_bind_of_preserves (hstore u), forall_prop_of_true hpasses]
      by_cases hencode : FilesPass env boundary data (kwargs.arg .files)
      · rw [hpass hencode, hset, Dict.set_eq_self_iff]
        exact ⟨fun h => ⟨fun _ => h, fun hnot => absurd hencode hnot⟩, fun h => h.1 hencode⟩
      · rw [hnot hencode, hsame]
        exact ⟨fun h => ⟨fun hfalse => absurd hfalse hencode, fun _ => h⟩, fun h => h.2 hencode⟩

/-! ## The whole preparation -/

theorem preserves_encodeRest {p : String → Prop} (h : ¬p "Content-Type") {boundary url : String}
    {json data : Value} {shared : Bool} (r : Kwargs HeaderDict × HeaderDict) :
    Preserves (seen p) (encodeRest env boundary url json data shared r) :=
  (Preserves.lift _).bind fun _ => (preserves_encodeBody h).bind fun _ =>
    (preserves_encodeFiles h).bind fun _ => preserves_storeHeaders.bind fun _ => .pure _

theorem preserves_takeUserAgent {p : String → Prop} (h : ∀ name, isUserAgent name → ¬p name)
    (r : HeaderDict × Bool) : Preserves (seen p) (takeUserAgent kwargs r.1) := by
  rw [takeUserAgent]
  refine (preserves_read r.1).bind fun e => ?_
  cases hfind : findUserAgent e with
  | none => exact .pure _
  | some entry =>
    have hentry : isUserAgent entry.1 := by
      rw [findUserAgent] at hfind
      have hfound := List.find?_some hfind
      exact hfound
    exact (preserves_update (seen_erase (h entry.1 hentry)) r.1).bind fun _ => .pure _

theorem preserves_normalizeRest {p : String → Prop} (htype : ¬p "Content-Type")
    (hagent : ∀ name, isUserAgent name → ¬p name) {boundary url : String} {json : Value}
    (kwargs : Kwargs HeaderDict) :
    Preserves (seen p) (normalizeRest env boundary url json kwargs) :=
  (preserves_headersOr _).bind fun r => (preserves_takeUserAgent hagent r).bind fun r' =>
    preserves_encodeRest htype r'

/-- The user agent is deleted from the dict. -/
theorem exec_takeUserAgent_given (kwargs : Kwargs HeaderDict) (d : Headers) :
    (d.firstKey isUserAgent = none →
      exec (takeUserAgent kwargs .given) d = (.ok (kwargs, .given), d)) ∧
    (seen (isUserAgent ·) (exec (takeUserAgent kwargs .given) d).2 = seen (isUserAgent ·) d →
      d.firstKey isUserAgent = none) := by
  have hfind : findUserAgent d = (d.firstKey isUserAgent).bind fun k =>
      (d.get? k).map (Prod.mk k) := Dict.find?_entries isUserAgent d
  rw [takeUserAgent, exec_bind, exec_read]
  cases hkey : d.firstKey isUserAgent with
  | none =>
    rw [hkey] at hfind
    simp only [HeaderDict.contents, hfind, Option.bind_none]
    exact ⟨fun _ => rfl, fun _ => trivial⟩
  | some key =>
    refine ⟨by rintro ⟨⟩, fun hseen => ?_⟩
    have hagent : isUserAgent key := List.find?_some hkey
    have hmem : (d.get? key).isSome := Dict.mem_keys_iff.1 (List.mem_of_find?_eq_some hkey)
    obtain ⟨v, hv⟩ := Option.isSome_iff_exists.1 hmem
    rw [hkey, Option.bind_some, hv, Option.map_some] at hfind
    simp only [HeaderDict.contents, hfind, exec_bind, HeaderDict.update, exec_modify,
      exec_pure] at hseen
    have hget : (d.erase key).get? key = d.get? key := congrFun hseen ⟨key, hagent⟩
    rw [Dict.get?_erase_self, hv] at hget
    cases hget

/-- The rest leaves the dict as it is exactly if it has no user agent and has the content
    type. -/
theorem snd_exec_normalizeRest_iff {boundary url : String} {json : Value}
    (hheaders : kwargs.headers = some (some .given)) (hd : d.isEmpty = false) :
    (exec (normalizeRest env boundary url json kwargs) d).2 = d ↔
      RestThere env boundary url json kwargs d := by
  obtain ⟨data₁, kwargs₁, kwargs₂, hbody, hbytes, hheaders₂, hparams, hfiles⟩ :=
    exists_takeData kwargs
  have heq : normalizeRest env boundary url json kwargs =
      kwargs₂.headersOr >>= fun r => takeUserAgent kwargs₂ r.1 >>=
        encodeRest env boundary url json (requestData kwargs) r.2 := by
    simp only [normalizeRest, hbody, hbytes]
    rfl
  have hrest (r : Kwargs HeaderDict × HeaderDict) : Preserves (seen (isUserAgent ·))
      (encodeRest env boundary url json (requestData kwargs) true r) :=
    preserves_encodeRest (by decide) r
  obtain ⟨hnone, hseen⟩ := exec_takeUserAgent_given kwargs₂ d
  rw [heq, exec_bind, exec_headersOr_given (hheaders₂.trans hheaders) hd]
  change (exec (takeUserAgent kwargs₂ .given >>= _) d).2 = d ↔ _
  rw [snd_exec_bind_eq_iff hrest fun h => by rw [hnone (hseen h)], RestThere, ← hparams, ← hfiles,
    ← snd_exec_encodeRest_iff true]
  constructor
  · rintro ⟨hstays, hencode⟩
    have hagent := hseen (congrArg _ hstays)
    exact ⟨hagent, hencode _ (by rw [hnone hagent])⟩
  · rintro ⟨hagent, hencode⟩
    rw [hnone hagent]
    refine ⟨rfl, fun r hr => ?_⟩
    cases hr
    exact hencode

theorem RestThere.congr {boundary url : String} {json : Value} {kwargs' : Kwargs HeaderDict}
    (h : SameBody kwargs kwargs') :
    RestThere env boundary url json kwargs' d ↔ RestThere env boundary url json kwargs d := by
  rw [RestThere, requestData_congr h, h.arg (by decide), h.arg (by decide), RestThere]

section Finish

variable {closed : Bool} {boundary method url : String} {json : Value}

/-- What is done with the arguments that come out of the preparation. -/
def makePayload (env : PyEnv) (method : String) (r : String × Kwargs HeaderDict) :
    PyM OptionsDict := do
  let headers ← headersValue r.2
  let request ← Request.new method r.1 headers r.2
  request.toDict env

theorem preserves_makePayload {γ : Type} {view : Headers → γ} (r : String × Kwargs HeaderDict) :
    Preserves view (makePayload env method r) := by
  refine Preserves.bind ?_ fun _ => (Preserves.lift _).bind fun _ => .lift _
  rw [headersValue]
  split
  · exact .pure _
  · exact .pure _
  · exact (preserves_read _).bind fun _ => .pure _

theorem preserves_finish {p : String → Prop} (hhint : ∀ hint : Hint, ¬p hint.name)
    (htype : ¬p "Content-Type") (hagent : ∀ name, isUserAgent name → ¬p name)
    (kwargs : Kwargs HeaderDict) :
    Preserves (seen p) (finish env boundary method url json kwargs) :=
  (preserves_applyFingerprint hhint kwargs).bind fun kwargs =>
    (preserves_normalizeRest htype hagent kwargs).bind fun r => preserves_makePayload r

theorem snd_exec_finish_iff (hheaders : kwargs.headers = some (some .given))
    (hd : d.isEmpty = false) :
    (exec (finish env boundary method url json kwargs) d).2 = d ↔
      ∀ profile, AppliesProfile env kwargs profile → ¬Copies profile →
        HintsThere env profile d ∧ RestThere env boundary url json kwargs d := by
  have hhint (name : String) (hagent : isUserAgent name) : ¬isHint name := by
    rintro ⟨hint, rfl⟩
    cases hint <;> revert hagent <;> decide
  have htype : ¬isHint "Content-Type" := by
    rintro ⟨hint, h⟩
    cases hint <;> revert h <;> decide
  have hpreserves (kwargs : Kwargs HeaderDict) : Preserves (seen isHint)
      (normalizeRest env boundary url json kwargs >>= makePayload env method) :=
    (preserves_normalizeRest htype hhint kwargs).bind fun r => preserves_makePayload r
  change (exec (applyFingerprint env kwargs >>= fun kwargs =>
    normalizeRest env boundary url json kwargs >>= makePayload env method) d).2 = d ↔ _
  obtain ⟨e, hexec, hnot⟩ | ⟨profile, kwargs', d', hexec, happlies, hbody, hcopies, hgiven,
    hseen⟩ := exec_applyFingerprint_cases env hheaders hd
  · rw [exec_bind, hexec]
    exact iff_of_true rfl fun profile happlies => absurd happlies (hnot profile)
  · have hrest :
        (exec (normalizeRest env boundary url json kwargs' >>= makePayload env method) d).2 =
          (exec (normalizeRest env boundary url json kwargs') d).2 :=
      snd_exec_bind_of_preserves fun r => preserves_makePayload r
    rw [snd_exec_bind_eq_iff hpreserves (by rw [hexec]; exact hseen), hexec]
    simp only [Except.ok.injEq, forall_eq', hrest]
    by_cases hcopy : Copies profile
    · obtain ⟨howned, rfl⟩ := hcopies hcopy
      refine iff_of_true ⟨rfl, ?_⟩ fun profile' happlies' hnot => ?_
      · have hdetached : Detached (normalizeRest env boundary url json kwargs') (Owned ·.2) :=
          detached_normalizeRest howned
        obtain ⟨r, hr, -⟩ := hdetached
        rw [hr]
      · exact absurd (happlies.unique happlies' ▸ hcopy) hnot
    · obtain ⟨hheaders', hhints⟩ := hgiven hcopy
      rw [hhints, snd_exec_normalizeRest_iff hheaders' hd, RestThere.congr hbody]
      refine ⟨fun h profile' happlies' _ => ?_, fun h => h profile happlies hcopy⟩
      rw [← happlies.unique happlies']
      exact h

/-- A request leaves the dict as it is exactly if all that it would write is there. -/
theorem snd_exec_prepareRequest_iff :
    (exec (prepareRequest env closed boundary method url kwargs) d).2 = d ↔
      (closed = false → kwargs.headers = some (some .given) → d.isEmpty = false →
        AllThere env boundary url kwargs d) := by
  by_cases hshares : closed = false ∧ kwargs.headers = some (some .given) ∧ d.isEmpty = false
  · obtain ⟨rfl, hheaders, hd⟩ := hshares
    simp only [hheaders, hd, forall_true_left]
    rw [prepareRequest_eq, if_neg Bool.false_ne_true, AllThere, exec_bind, exec_lift]
    cases takeJson kwargs with
    | error e => exact iff_of_true rfl (by rintro json ⟨⟩)
    | ok json =>
      simp only [Except.ok.injEq, forall_eq']
      have hpreserves (kwargs : Kwargs HeaderDict) : Preserves (seen (· = "Authorization"))
          (finish env boundary method url json kwargs) := by
        refine preserves_finish (fun hint => ?_) (by decide) (fun name hagent hname => ?_) kwargs
        · cases hint <;> decide
        · subst hname
          revert hagent
          decide
      obtain ⟨e, hexec, hnot, hthere⟩ | ⟨d', hexec, hgiven, hthere, hseen⟩ :=
        exec_applyAuth_cases env hheaders hd
      · rw [exec_bind, hexec]
        exact iff_of_true rfl ⟨hthere, fun h => absurd h hnot⟩
      · rw [snd_exec_bind_eq_iff hpreserves (by rw [hexec]; exact hseen), hexec]
        simp only [Except.ok.injEq, forall_eq', hthere, hgiven, forall_true_left,
          snd_exec_finish_iff hheaders hd]
  · refine iff_of_true (leaves_prepareRequest fun hclosed hheaders hd => ?_).1
      fun hclosed hheaders hd => ?_
    · exact absurd ⟨hclosed, hheaders, hd⟩ hshares
    · exact absurd ⟨hclosed, hheaders, hd⟩ hshares

end Finish

/-! ## Calls -/

/-- What is written does not depend on the arguments that `arequest` takes for itself. -/
theorem allThere_replace {boundary url : String} :
    AllThere env boundary url (kwargs.replace fun _ => none) d ↔
      AllThere env boundary url kwargs d := by
  have harg {k : Keyword} (hk : k ∉ swallowed) :
      (kwargs.replace fun _ => none).arg k = kwargs.arg k :=
    arg_congr (Kwargs.options_replace kwargs hk)
  have hbody : SameBody kwargs (kwargs.replace fun _ => none) := fun k hk =>
    Kwargs.options_replace kwargs (by revert hk; cases k <;> decide)
  have hprofile (profile : Option TLSFingerprint) :
      AppliesProfile env (kwargs.replace fun _ => none) profile ↔
        AppliesProfile env kwargs profile := by
    unfold AppliesProfile
    rw [harg (k := .fingerprint) (by decide)]
  simp only [AllThere, takeJson, harg (k := .json) (by decide), harg (k := .jsonData) (by decide),
    harg (k := .auth) (by decide), hprofile, RestThere.congr hbody]

theorem snd_exec_prepare_iff (call : RequestCall) (d : Headers) :
    (exec (call.prepare env) d).2 = d ↔
      (call.closed = false → call.kwargs.headers = some (some .given) → d.isEmpty = false →
        AllThere env call.boundary call.url call.kwargs d) := by
  rw [RequestCall.prepare]
  split_ifs
  · rw [← allThere_replace]
    exact snd_exec_prepareRequest_iff
  · exact snd_exec_prepareRequest_iff

/-- A call leaves the headers of the caller as they are, so that they can be used again, exactly
    if the client is closed, no headers are given, or all that it would write is there
    already. -/
theorem keepsHeaders_iff (call : RequestCall) (d : Headers) :
    call.KeepsHeaders env d ↔
      (call.closed = false → call.kwargs.headers = some (some .given) → d.isEmpty = false →
        AllThere env call.boundary call.url call.kwargs d) := by
  rw [← snd_exec_prepare_iff]
  refine ⟨fun h => h.unchanged, fun h => ⟨h, fun next => ?_⟩⟩
  rw [h]

/-- A call with given headers. -/
def RequestCall.plain (kwargs : Kwargs HeaderDict) : RequestCall where
  async := false
  closed := false
  boundary := ""
  method := "get"
  url := "https://h/"
  kwargs := kwargs.setHeaders .given

/-- The credentials of one call are sent with the next one. -/
theorem not_forall_keepsHeaders :
    ¬∀ (env : PyEnv) (call : RequestCall) (d : Headers), call.KeepsHeaders env d := by
  intro h
  have hreuse := (h .plain (.plain (Kwargs.set {} .auth (.tuple [.str "user", .str "secret"])))
    (Dict.empty.set "Accept" (.str "*/*"))).reuse (.plain {})
  have hsent := congrArg (fun r : Except Raised OptionsDict =>
    (r.toOption.bind fun p => headerOf p "Authorization").isSome) hreuse
  revert hsent
  decide

end CycleTLS
