import CycleTLS.AsyncRequest

/-!
# What a request writes to the headers it is given

The dict that the caller gives for the headers is changed by `_prepare_request` itself:
by the credentials, the `sec-ch-ua` headers of a profile, the user agent and the
content type of the body. A request is `Quiet` on a dict if all that it would write is
there already; then it leaves the dict as it is (`leaves_prepareRequest`).
-/

namespace CycleTLS

open Raising

variable (env : PyEnv)

/-- The data of a request, with the parameters that are deprecated. -/
def requestData (kwargs : Kwargs HeaderDict) : Value :=
  let taken := takeData .body (kwargs.arg .data) kwargs
  (takeData .bodyBytes taken.1 taken.2).1

/-- The body is encoded without an exception. -/
def BodyPasses (json data : Value) : Prop :=
  json.isNone = false → data.isNone ∧ ∃ text, env.dumps json = .ok text

/-- The content type that the body would set is there. -/
def BodyQuiet (json data : Value) (d : Headers) : Prop :=
  if json.isNone then ∀ items, data = .dict items → (d.get? "Content-Type").isSome
  else BodyPasses env json data → d.get? "Content-Type" = some (.str "application/json")

/-- The content type that the files would set is there. -/
def FilesQuiet (boundary : String) (data files : Value) (d : Headers) : Prop :=
  files.isNone = false → ∀ body contentType,
    encodeMultipartFormdata env boundary (formFields data) files = .ok (body, contentType) →
      d.get? "Content-Type" = some (.str contentType)

/-- No user agent is taken out of the headers, and the content type is there. -/
def RestQuiet (boundary url : String) (json : Value) (kwargs : Kwargs HeaderDict) (d : Headers) :
    Prop :=
  findUserAgent d = none ∧ ∀ u, mergeURLParams env url (kwargs.arg .params) = .ok u →
    BodyQuiet env json (requestData kwargs) d ∧ (BodyPasses env json (requestData kwargs) →
      FilesQuiet env boundary (requestData kwargs) (kwargs.arg .files) d)

/-- The credentials are there. -/
def AuthQuiet (kwargs : Kwargs HeaderDict) (d : Headers) : Prop :=
  (kwargs.arg .auth).isNone = false → ∀ credentials,
    authorization env (kwargs.arg .auth) = .ok credentials →
      d.get? "Authorization" = some (.str credentials)

/-- The credentials are encoded without an exception. -/
def AuthPasses (kwargs : Kwargs HeaderDict) : Prop :=
  (kwargs.arg .auth).isNone = false →
    ∃ credentials, authorization env (kwargs.arg .auth) = .ok credentials

/-- A profile that is applied without an exception; `none` if there is none. -/
def AppliesProfile (kwargs : Kwargs HeaderDict) (profile : Option TLSFingerprint) : Prop :=
  match profile with
  | none => (kwargs.arg .fingerprint).isNone
  | some profile => (kwargs.arg .fingerprint).isNone = false ∧
      findProfile env (kwargs.arg .fingerprint) = .ok profile

/-- A profile copies the headers: it has some of its own. -/
def Copies : Option TLSFingerprint → Prop
  | none => False
  | some profile => profile.headers ≠ none

/-- The `sec-ch-ua` headers that a profile would add are there. -/
def ProfileQuiet (profile : Option TLSFingerprint) (d : Headers) : Prop :=
  ∀ p, profile = some p → ∀ e ∈ p.dynamicSecChUa env, (d.get? e.1).isSome

/-- A request writes nothing new to the dict that it is given for its headers, as far as
    it gets; if that is empty, it takes another one. -/
def Quiet (boundary url : String) (kwargs : Kwargs HeaderDict) (d : Headers) : Prop :=
  d.isEmpty = false → ∀ json, takeJson kwargs = .ok json → AuthQuiet env kwargs d ∧
    (AuthPasses env kwargs → ∀ profile, AppliesProfile env kwargs profile → ¬Copies profile →
      ProfileQuiet env profile d ∧ RestQuiet env boundary url json kwargs d)

/-! ## What is kept -/

section Kept

variable {R : Type} {kwargs kwargs' kwargs'' : Kwargs R} {k k' : Keyword}

/-- The keywords that the body, the files and the query are read from. -/
def bodyKeywords : List Keyword := [.params, .data, .body, .bodyBytes, .files]

/-- The second arguments have the same body, files and query. -/
def SameBody (kwargs kwargs' : Kwargs R) : Prop :=
  ∀ k ∈ bodyKeywords, kwargs'.options k = kwargs.options k

theorem SameBody.trans (h : SameBody kwargs kwargs') (h' : SameBody kwargs' kwargs'') :
    SameBody kwargs kwargs'' := fun k hk => (h' k hk).trans (h k hk)

theorem arg_congr (h : kwargs'.options k = kwargs.options k) : kwargs'.arg k = kwargs.arg k := by
  rw [Kwargs.arg, h, Kwargs.arg]

theorem SameBody.arg (h : SameBody kwargs kwargs') (hk : k ∈ bodyKeywords) :
    kwargs'.arg k = kwargs.arg k := arg_congr (h k hk)

theorem arg_set_of_ne (hk : k' ≠ k) (v : Value) : (kwargs.set k v).arg k' = kwargs.arg k' :=
  arg_congr (Function.update_of_ne hk _ _)

theorem sameBody_set (hk : k ∉ bodyKeywords) (v : Value) : SameBody kwargs (kwargs.set k v) :=
  fun _ hk' => Function.update_of_ne (ne_of_mem_of_not_mem hk' hk) _ _

theorem sameBody_setDefault (hk : k ∉ bodyKeywords) (v : Value) :
    SameBody kwargs (kwargs.setDefault k v) := by
  rw [Kwargs.setDefault]
  split_ifs
  · exact fun _ _ => rfl
  · exact sameBody_set hk v

theorem headers_setDefault (v : Value) : (kwargs.setDefault k v).headers = kwargs.headers := by
  rw [Kwargs.setDefault]
  split_ifs <;> rfl

end Kept

section TakeData

variable {kwargs kwargs' : Kwargs HeaderDict} {k k' : Keyword} {data : Value}

theorem headers_takeData : (takeData k data kwargs).2.headers = kwargs.headers := by
  rw [takeData]
  split_ifs
  · cases kwargs.options k <;> rfl
  · rfl

theorem options_takeData (hk : k' ≠ k) :
    (takeData k data kwargs).2.options k' = kwargs.options k' := by
  rw [takeData]
  split_ifs
  · cases kwargs.options k with
    | none => rfl
    | some v => exact Function.update_of_ne hk _ _
  · rfl

theorem arg_takeData (hk : k' ≠ k) : (takeData k data kwargs).2.arg k' = kwargs.arg k' :=
  arg_congr (options_takeData hk)

theorem takeData_congr (h : kwargs'.options k = kwargs.options k) :
    (takeData k data kwargs').1 = (takeData k data kwargs).1 := by
  rw [takeData, takeData, h]
  split_ifs
  · cases kwargs.options k <;> rfl
  · rfl

theorem requestData_congr (h : SameBody kwargs kwargs') :
    requestData kwargs' = requestData kwargs := by
  have hbody : (takeData .body (kwargs'.arg .data) kwargs').1 =
      (takeData .body (kwargs.arg .data) kwargs).1 := by
    rw [h.arg (by decide)]
    exact takeData_congr (h _ (by decide))
  rw [requestData, requestData, hbody]
  refine takeData_congr ?_
  rw [options_takeData (by decide), options_takeData (by decide)]
  exact h _ (by decide)

end TakeData

/-! ## The steps -/

variable {env} {d : Headers} {kwargs : Kwargs HeaderDict} {dict : HeaderDict}

theorem RestQuiet.congr {boundary url : String} {json : Value} {kwargs' : Kwargs HeaderDict}
    (hq : RestQuiet env boundary url json kwargs d) (h : SameBody kwargs kwargs') :
    RestQuiet env boundary url json kwargs' d := by
  rw [RestQuiet, requestData_congr h, h.arg (by decide), h.arg (by decide)]
  exact hq

/-- Writing to a dict stays in the contents of the one that was given, unless it is that
    one and is changed. -/
theorem stays_update {f : Headers → Headers} (h : dict = .given → f d = d) :
    Stays d (dict.update f) fun dict' => dict' = .given → dict = .given := by
  cases dict with
  | given => exact ⟨h rfl, fun _ _ _ => rfl⟩
  | own x => exact ⟨rfl, fun a ha hgiven => by cases ha; cases hgiven⟩

theorem stays_read (dict : HeaderDict) :
    Stays d dict.read fun x => dict = .given → x = d := by
  cases dict with
  | given => exact ⟨rfl, fun _ ha _ => (Except.ok.inj ha).symm⟩
  | own x => exact ⟨rfl, by rintro _ _ ⟨⟩⟩

/-- The dict that was given is taken if it is not empty. -/
theorem stays_headersOr : Stays d kwargs.headersOr fun r =>
    r.1 = .given → kwargs.headers = some (some .given) ∧ d.isEmpty = false := by
  rw [Kwargs.headersOr]
  split
  · next dict hheaders =>
    refine (stays_read dict).bind fun x hx => .pure fun h => ?_
    split_ifs at h with hempty
    have hdict : dict = .given := h
    refine ⟨by rw [hheaders, hdict], ?_⟩
    rw [← hx hdict]
    simpa using hempty
  · exact .pure (by rintro ⟨⟩)

/-- The dict of the headers after a step is the one given only if it was before. -/
theorem setHeaders_given {dict' : HeaderDict}
    (h : (kwargs.setHeaders dict).headers = some (some dict')) : dict = dict' :=
  Option.some.inj (Option.some.inj h)

theorem stays_applyAuth
    (hquiet : kwargs.headers = some (some .given) → d.isEmpty = false → AuthQuiet env kwargs d) :
    Stays d (applyAuth env kwargs) fun kwargs' => AuthPasses env kwargs ∧
      kwargs'.options = kwargs.options ∧
      (kwargs'.headers = some (some .given) → kwargs.headers = some (some .given)) := by
  rw [applyAuth]
  split_ifs with hnone
  · exact .pure ⟨fun h => absurd hnone (by simp [h]), rfl, id⟩
  · refine (Stays.lift fun _ h => h).bind fun credentials hcredentials => ?_
    refine stays_headersOr.bind fun r hdict => ?_
    obtain ⟨dict, shared⟩ := r
    refine (stays_update fun hgiven => ?_).bind fun dict' hdict' => .pure ?_
    · obtain ⟨hheaders, hempty⟩ := hdict hgiven
      exact Dict.set_of_get? (hquiet hheaders hempty (by simpa using hnone) _ hcredentials)
    · exact ⟨fun _ => ⟨_, hcredentials⟩, rfl, fun h => (hdict (hdict' (setHeaders_given h))).1⟩

/-! ### The profile -/

theorem addHeaders_of_isSome {headers : List (String × String)}
    (h : ∀ e ∈ headers, (d.get? e.1).isSome) : TLSFingerprint.addHeaders headers d = d := by
  rw [TLSFingerprint.addHeaders]
  induction headers with
  | nil => rfl
  | cons e headers ih =>
    rw [List.foldl_cons, Dict.setDefault_of_isSome (h e List.mem_cons_self)]
    exact ih fun e he => h e (List.mem_cons_of_mem _ he)

/-- The body is left alone, and the headers are not those given if they were not before. -/
def KeepsBody (kwargs kwargs' : Kwargs HeaderDict) : Prop :=
  SameBody kwargs kwargs' ∧
    (kwargs'.headers = some (some .given) → kwargs.headers = some (some .given))

namespace KeepsBody

variable {kwargs' kwargs'' : Kwargs HeaderDict} {k : Keyword}

theorem refl : KeepsBody kwargs kwargs := ⟨fun _ _ => rfl, id⟩

theorem trans (h : KeepsBody kwargs kwargs') (h' : KeepsBody kwargs' kwargs'') :
    KeepsBody kwargs kwargs'' :=
  ⟨h.1.trans h'.1, h.2 ∘ h'.2⟩

theorem setDefault (hk : k ∉ bodyKeywords) (v : Value) (h : KeepsBody kwargs kwargs') :
    KeepsBody kwargs (kwargs'.setDefault k v) :=
  h.trans ⟨sameBody_setDefault hk v, fun hgiven => headers_setDefault v ▸ hgiven⟩

theorem fill (hk : k ∉ bodyKeywords) (v : Option Value) (h : KeepsBody kwargs kwargs') :
    KeepsBody kwargs (TLSFingerprint.fill k v kwargs') := by
  cases v with
  | none => exact h
  | some v => exact h.setDefault hk v

end KeepsBody

theorem stays_mergeHeaders (profile : TLSFingerprint) :
    Stays d (profile.mergeHeaders kwargs) fun kwargs' => KeepsBody kwargs kwargs' ∧
      (kwargs'.headers = some (some .given) → profile.headers = none) := by
  rw [TLSFingerprint.mergeHeaders]
  cases profile.headers with
  | none => exact .pure ⟨.refl, fun _ => rfl⟩
  | some headers =>
    refine stays_headersOr.bind fun r _ => ?_
    obtain ⟨dict, shared⟩ := r
    refine (stays_read dict).bind fun x _ => .pure ?_
    refine ⟨⟨fun _ _ => rfl, fun h => ?_⟩, fun h => ?_⟩ <;> cases setHeaders_given h

theorem stays_injectHeaders {profile : TLSFingerprint}
    (hquiet : kwargs.headers = some (some .given) → d.isEmpty = false →
      ProfileQuiet env (some profile) d) :
    Stays d (profile.injectHeaders env kwargs) (KeepsBody kwargs) := by
  rw [TLSFingerprint.injectHeaders]
  split_ifs with hnone
  · exact .pure .refl
  · refine stays_headersOr.bind fun r hdict => ?_
    obtain ⟨dict, shared⟩ := r
    refine (stays_update fun hgiven => ?_).bind fun dict' hdict' => .pure ?_
    · obtain ⟨hheaders, hempty⟩ := hdict hgiven
      exact addHeaders_of_isSome (hquiet hheaders hempty profile rfl)
    · exact ⟨fun _ _ => rfl, fun h => (hdict (hdict' (setHeaders_given h))).1⟩

theorem stays_applyToKwargs {profile : TLSFingerprint}
    (hquiet : kwargs.headers = some (some .given) → d.isEmpty = false →
      profile.headers = none → ProfileQuiet env (some profile) d) :
    Stays d (profile.applyToKwargs env kwargs) fun kwargs' => KeepsBody kwargs kwargs' ∧
      (kwargs'.headers = some (some .given) → profile.headers = none) := by
  rw [TLSFingerprint.applyToKwargs]
  refine (stays_mergeHeaders profile).bind fun merged h => ?_
  obtain ⟨hmerged, hnone⟩ := h
  -- Only what is filled in before and after the headers is left to see through.
  have hfilled : KeepsBody kwargs merged :=
    .trans (.fill (by decide) _ <| .fill (by decide) _ <| .fill (by decide) _ <|
      .fill (by decide) _ <| .fill (by decide) _ <| .setDefault (by decide) _ .refl) hmerged
  refine (stays_injectHeaders fun hgiven hempty => ?_).bind fun injected hinjected => .pure ?_
  · exact hquiet (hfilled.2 hgiven) hempty (hnone hgiven)
  · have hkeeps := KeepsBody.fill (k := .forceHTTP3) (by decide)
      (if profile.forceHTTP3 then some (.bool true) else none) <|
      .fill (k := .forceHTTP1) (by decide)
        (if profile.forceHTTP1 then some (.bool true) else none) <|
      .fill (k := .disableGrease) (by decide)
        (if profile.disableGrease then some (.bool true) else none) <|
      (KeepsBody.refl : KeepsBody injected injected)
    exact ⟨hfilled.trans (hinjected.trans hkeeps), fun h => hnone (hinjected.2 (hkeeps.2 h))⟩

theorem stays_applyFingerprint
    (hquiet : kwargs.headers = some (some .given) → d.isEmpty = false → ∀ profile,
      AppliesProfile env kwargs profile → ¬Copies profile → ProfileQuiet env profile d) :
    Stays d (applyFingerprint env kwargs) fun kwargs' => KeepsBody kwargs kwargs' ∧
      ∃ profile, AppliesProfile env kwargs profile ∧
        (kwargs'.headers = some (some .given) → ¬Copies profile) := by
  rw [applyFingerprint]
  split_ifs with hnone
  · exact .pure ⟨.refl, none, hnone, fun _ => id⟩
  · refine (Stays.lift fun _ h => h).bind fun profile hprofile => ?_
    have happlies : AppliesProfile env kwargs (some profile) := ⟨by simpa using hnone, hprofile⟩
    refine (stays_applyToKwargs fun hgiven hempty hheaders => ?_).imp fun kwargs' h => ?_
    · exact hquiet hgiven hempty _ happlies (not_not.2 hheaders)
    · exact ⟨h.1, some profile, happlies, fun hgiven => not_not.2 (h.2 hgiven)⟩

/-! ### The rest -/

theorem stays_takeUserAgent (hquiet : dict = .given → findUserAgent d = none) :
    Stays d (takeUserAgent kwargs dict) fun r =>
      SameBody kwargs r.1 ∧ (r.2 = .given → dict = .given) := by
  rw [takeUserAgent]
  refine (stays_read dict).bind fun x hx => ?_
  cases hfind : findUserAgent x with
  | none => exact .pure ⟨fun _ _ => rfl, id⟩
  | some e =>
    refine (stays_update fun hgiven => ?_).bind fun dict' hdict' => .pure ?_
    · rw [hx hgiven, hquiet hgiven] at hfind
      cases hfind
    · exact ⟨sameBody_set (by decide) _, hdict'⟩

theorem stays_encodeBody {json data : Value} (hquiet : dict = .given → BodyQuiet env json data d) :
    Stays d (encodeBody env json data kwargs dict) fun r => BodyPasses env json data ∧
      r.1.arg .files = kwargs.arg .files ∧ (r.2 = .given → dict = .given) := by
  unfold encodeBody
  split_ifs with hjson hdata
  · exact .throw _
  · refine (Stays.lift fun _ h => h).bind fun body hbody => ?_
    have hpasses : BodyPasses env json data := fun _ => ⟨by simpa using hdata, body, hbody⟩
    refine (stays_update fun hgiven => ?_).bind fun dict' hdict' => .pure ?_
    · have hq := hquiet hgiven
      rw [BodyQuiet, if_neg (by simpa using hjson)] at hq
      exact Dict.set_of_get? (hq hpasses)
    · exact ⟨hpasses, arg_set_of_ne (by decide) _, hdict'⟩
  · have hnone : json.isNone = true := by simpa using hjson
    have hpasses : BodyPasses env json data := fun h => absurd hnone (by simp [h])
    -- A form keeps the content type that is there; bytes and texts set none.
    cases data with
    | none => exact .pure ⟨hpasses, rfl, id⟩
    | dict items =>
      refine (stays_update fun hgiven => ?_).bind fun dict' hdict' => .pure ?_
      · have hq := hquiet hgiven
        rw [BodyQuiet, if_pos hnone] at hq
        exact Dict.setDefault_of_isSome (hq items rfl)
      · exact ⟨hpasses, arg_set_of_ne (by decide) _, hdict'⟩
    | bytes b => exact .pure ⟨hpasses, arg_set_of_ne (by decide) _, id⟩
    | _ => exact .pure ⟨hpasses, arg_set_of_ne (by decide) _, id⟩

theorem stays_encodeFiles {boundary : String} {data : Value}
    (hquiet : dict = .given → FilesQuiet env boundary data (kwargs.arg .files) d) :
    Stays d (encodeFiles env boundary data kwargs dict) fun _ => True := by
  rw [encodeFiles]
  split_ifs with hnone
  · exact .pure trivial
  · refine (Stays.lift fun _ h => h).bind fun r hbody => ?_
    obtain ⟨body, contentType⟩ := r
    refine (stays_update fun hgiven => ?_).bind fun _ _ => .pure trivial
    exact Dict.set_of_get? (hquiet hgiven (by simpa using hnone) body contentType hbody)

theorem stays_storeHeaders (shared : Bool) :
    Stays d (storeHeaders kwargs dict shared) fun _ => True :=
  (stays_read dict).bind fun _ _ => .pure trivial

/-- The data and the other arguments, when the data is taken. -/
theorem exists_takeData (kwargs : Kwargs HeaderDict) : ∃ data₁ kwargs₁ kwargs₂,
    takeData .body (kwargs.arg .data) kwargs = (data₁, kwargs₁) ∧
      takeData .bodyBytes data₁ kwargs₁ = (requestData kwargs, kwargs₂) ∧
      kwargs₂.headers = kwargs.headers ∧ kwargs₂.arg .params = kwargs.arg .params ∧
      kwargs₂.arg .files = kwargs.arg .files := by
  let taken := takeData .body (kwargs.arg .data) kwargs
  refine ⟨taken.1, taken.2, (takeData .bodyBytes taken.1 taken.2).2, rfl, rfl, ?_, ?_, ?_⟩
  · exact headers_takeData.trans headers_takeData
  · exact (arg_takeData (by decide)).trans (arg_takeData (by decide))
  · exact (arg_takeData (by decide)).trans (arg_takeData (by decide))

theorem stays_normalizeRest {boundary url : String} {json : Value}
    (hquiet : kwargs.headers = some (some .given) → d.isEmpty = false →
      RestQuiet env boundary url json kwargs d) :
    Stays d (normalizeRest env boundary url json kwargs) fun _ => True := by
  obtain ⟨data₁, kwargs₁, kwargs₂, hbody, hbytes, hheaders, hparams, hfiles⟩ :=
    exists_takeData kwargs
  simp only [normalizeRest, hbody, hbytes]
  refine stays_headersOr.bind fun r hdict => ?_
  obtain ⟨dict, shared⟩ := r
  -- Each step is reached only past the ones before, and has the dict that was given only
  -- if they had it.
  have hrest (hgiven : dict = .given) : RestQuiet env boundary url json kwargs d :=
    hquiet (hheaders ▸ (hdict hgiven).1) (hdict hgiven).2
  refine (stays_takeUserAgent fun h => (hrest h).1).bind fun r hr => ?_
  obtain ⟨kwargs₃, dict₁⟩ := r
  obtain ⟨hbody₁, hdict₁⟩ := hr
  refine (Stays.lift fun _ h => h).bind fun u hu => ?_
  rw [hbody₁.arg (by decide), hparams] at hu
  refine (stays_encodeBody fun h => ((hrest (hdict₁ h)).2 u hu).1).bind fun r hr => ?_
  obtain ⟨kwargs₄, dict₂⟩ := r
  obtain ⟨hpasses, hfiles₁, hdict₂⟩ := hr
  refine (stays_encodeFiles fun h => ?_).bind fun r _ => ?_
  · rw [hfiles₁, hbody₁.arg (by decide), hfiles]
    exact ((hrest (hdict₁ (hdict₂ h))).2 u hu).2 hpasses
  · obtain ⟨kwargs₅, dict₃⟩ := r
    exact (stays_storeHeaders shared).bind fun _ _ => .pure trivial

theorem stays_normalize {boundary url : String}
    (hquiet : kwargs.headers = some (some .given) → Quiet env boundary url kwargs d) :
    Stays d (normalize env boundary url kwargs) fun _ => True := by
  rw [normalize]
  refine (Stays.lift fun _ h => h).bind fun json hjson => ?_
  refine (stays_applyAuth fun h hempty => (hquiet h hempty json hjson).1).bind
    fun kwargs₁ h => ?_
  obtain ⟨hpasses, hoptions, hgiven₁⟩ := h
  -- The credentials do not change which profile is applied.
  have hfingerprint (profile : Option TLSFingerprint) :
      AppliesProfile env kwargs₁ profile ↔ AppliesProfile env kwargs profile := by
    unfold AppliesProfile Kwargs.arg
    rw [hoptions]
  refine (stays_applyFingerprint fun h hempty profile happlies hcopies => ?_).bind
    fun kwargs₂ h => ?_
  · have hquiet := (hquiet (hgiven₁ h) hempty json hjson).2 hpasses profile
    exact (hquiet ((hfingerprint profile).1 happlies) hcopies).1
  · obtain ⟨hkeeps, profile, happlies, hcopies⟩ := h
    refine stays_normalizeRest fun h hempty => ?_
    have hquiet := (hquiet (hgiven₁ (hkeeps.2 h)) hempty json hjson).2 hpasses profile
    refine (hquiet ((hfingerprint profile).1 happlies) (hcopies h)).2.congr fun k hk => ?_
    rw [hkeeps.1 k hk, hoptions]

theorem stays_headersValue : Stays d (headersValue kwargs) fun _ => True := by
  rw [headersValue]
  split
  · exact .pure trivial
  · exact .pure trivial
  · next dict _ => exact (stays_read dict).bind fun _ _ => .pure trivial

/-- The keywords that decide what is written. -/
def writeKeywords : List Keyword := [.json, .jsonData, .auth, .fingerprint] ++ bodyKeywords

theorem Quiet.congr {boundary url : String} {kwargs' : Kwargs HeaderDict}
    (hq : Quiet env boundary url kwargs d)
    (h : ∀ k ∈ writeKeywords, kwargs'.options k = kwargs.options k) :
    Quiet env boundary url kwargs' d := by
  have harg {k : Keyword} (hk : k ∈ writeKeywords) : kwargs'.arg k = kwargs.arg k :=
    arg_congr (h k hk)
  intro hempty json hjson
  rw [takeJson, harg (by decide), harg (by decide)] at hjson
  obtain ⟨hauth, hrest⟩ := hq hempty json hjson
  unfold AuthQuiet AuthPasses AppliesProfile
  rw [harg (k := .auth) (by decide), harg (k := .fingerprint) (by decide)]
  refine ⟨hauth, fun hpasses profile happlies hcopies => ?_⟩
  obtain ⟨hprofile, hquiet⟩ := hrest hpasses profile happlies hcopies
  exact ⟨hprofile, hquiet.congr fun k hk => h k (List.mem_append_right _ hk)⟩

/-- A request without credentials, a profile and a body is quiet on headers without a
    user agent. -/
theorem quiet_of_options_eq_none {boundary url : String}
    (h : ∀ k ∈ writeKeywords, kwargs.options k = none) (hfind : findUserAgent d = none) :
    Quiet env boundary url kwargs d := by
  have harg {k : Keyword} (hk : k ∈ writeKeywords) : kwargs.arg k = .none := by
    rw [Kwargs.arg, h k hk, Option.getD_none]
  have hdata : requestData kwargs = .none := by
    simp only [requestData, takeData, harg (k := .data) (by decide), h .body (by decide),
      h .bodyBytes (by decide), ite_self]
  have hnone {p : Prop} (h : Value.isNone .none = false) : p := by cases h
  -- There is nothing to encode: every condition speaks of an argument that is missing.
  intro _ json hjson
  rw [takeJson, harg (by decide), harg (by decide), if_pos (by rfl)] at hjson
  obtain rfl : Value.none = json := Except.ok.inj hjson
  unfold AuthQuiet AppliesProfile RestQuiet FilesQuiet
  rw [harg (k := .auth) (by decide), harg (k := .fingerprint) (by decide),
    harg (k := .files) (by decide), hdata]
  refine ⟨hnone, fun _ profile happlies _ => ⟨?_, hfind, fun _ _ => ⟨?_, fun _ => hnone⟩⟩⟩
  · cases profile with
    | none => rintro _ ⟨⟩
    | some profile => exact hnone happlies.1
  · rw [BodyQuiet, if_pos (by rfl)]
    rintro _ ⟨⟩

/-- The dict that is given for the headers is left as it is by a request that is quiet
    on it. -/
theorem leaves_prepareRequest {closed : Bool} {boundary method url : String}
    (hquiet : closed = false → kwargs.headers = some (some .given) →
      Quiet env boundary url kwargs d) :
    Stays d (prepareRequest env closed boundary method url kwargs) fun _ => True := by
  rw [prepareRequest]
  cases closed with
  | true => exact .throw _
  | false =>
    refine (stays_normalize (hquiet rfl)).bind fun _ _ => stays_headersValue.bind fun _ _ => ?_
    exact (Stays.lift fun _ _ => trivial).bind fun _ _ => .lift fun _ _ => trivial

end CycleTLS
