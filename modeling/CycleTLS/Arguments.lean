import CycleTLS.Lib.Raising
import CycleTLS.Prepare

/-!
# Arguments that are prepared alike

The preparation of a request reads some of its keywords as parameters, for which not to
be given is to be `None`, reads or changes others, and passes the rest on. Arguments that
are `adjust`ed in ways it does not see are hence prepared alike (`normalize_adjust`).
-/

namespace CycleTLS

variable {env : PyEnv}

/-- The parameters of `_prepare_request`. -/
def parameters : List Keyword := [.params, .data, .jsonData, .json, .files, .fingerprint, .auth]

/-- The other keywords that the preparation reads or changes. -/
def prepared : List Keyword :=
  [.body, .bodyBytes, .ja3, .ja4r, .http2Fingerprint, .quicFingerprint, .userAgent, .headerOrder,
    .disableGrease, .forceHTTP1, .forceHTTP3, .cookies]

/-- Arguments with other values for some keywords. -/
def Kwargs.adjust {R : Type} (f : Keyword → Option Value → Option Value) (kwargs : Kwargs R) :
    Kwargs R :=
  { kwargs with options := fun k => f k (kwargs.options k) }

/-- The other values are not seen by a step with the parameters `ks`. -/
structure Unseen (ks : List Keyword) (f : Keyword → Option Value → Option Value) : Prop where
  parameters : ∀ k ∈ ks, ∀ v, (f k v).getD .none = v.getD .none
  prepared : ∀ k ∈ prepared, ∀ v, f k v = v

/-- The other values are not seen before the cookies are converted. -/
structure Unread (ks : List Keyword) (f : Keyword → Option Value → Option Value) : Prop where
  parameters : ∀ k ∈ ks, ∀ v, (f k v).getD .none = v.getD .none
  prepared : ∀ k ∈ prepared, k ≠ .cookies → ∀ v, f k v = v

variable {ks ks' : List Keyword} {f : Keyword → Option Value → Option Value}

section

variable {R : Type} {kwargs : Kwargs R} {k : Keyword}

theorem update_adjust (h : ∀ v, f k v = v) (v : Option Value) :
    Function.update (kwargs.adjust f).options k v =
      fun k' => f k' (Function.update kwargs.options k v k') := by
  funext k'
  by_cases hne : k' = k
  · subst hne
    rw [Function.update_self, Function.update_self, h]
  · rw [Function.update_of_ne hne, Function.update_of_ne hne]
    rfl

theorem set_adjust (h : ∀ v, f k v = v) (v : Value) :
    (kwargs.adjust f).set k v = (kwargs.set k v).adjust f := by
  rw [Kwargs.set, update_adjust h]
  rfl

namespace Unread

theorem mono (h : Unread ks f) (hsub : ks' ⊆ ks) : Unread ks' f :=
  ⟨fun k hk => h.parameters k (hsub hk), h.prepared⟩

theorem arg_adjust (h : Unread ks f) (hk : k ∈ ks) :
    (kwargs.adjust f).arg k = kwargs.arg k :=
  h.parameters k hk _

theorem options_adjust (h : Unread ks f) (hk : k ∈ CycleTLS.prepared) (hne : k ≠ .cookies) :
    (kwargs.adjust f).options k = kwargs.options k :=
  h.prepared k hk hne _

theorem set_adjust (h : Unread ks f) (hk : k ∈ CycleTLS.prepared) (hne : k ≠ .cookies)
    (v : Value) : (kwargs.adjust f).set k v = (kwargs.set k v).adjust f :=
  CycleTLS.set_adjust (h.prepared k hk hne) v

theorem erase_adjust (h : Unread ks f) (hk : k ∈ CycleTLS.prepared) (hne : k ≠ .cookies) :
    (kwargs.adjust f).erase k = (kwargs.erase k).adjust f := by
  rw [Kwargs.erase, update_adjust (h.prepared k hk hne)]
  rfl

theorem setDefault_adjust (h : Unread ks f) (hk : k ∈ CycleTLS.prepared) (hne : k ≠ .cookies)
    (v : Value) : (kwargs.adjust f).setDefault k v = (kwargs.setDefault k v).adjust f := by
  rw [Kwargs.setDefault, h.options_adjust hk hne, h.set_adjust hk hne, Kwargs.setDefault]
  split_ifs <;> rfl

end Unread

theorem Unseen.unread (h : Unseen ks f) : Unread ks f :=
  ⟨h.parameters, fun k hk _ => h.prepared k hk⟩

end

theorem Kwargs.setHeaders_adjust {R : Type} (kwargs : Kwargs R) (headers : R) :
    (kwargs.adjust f).setHeaders headers = (kwargs.setHeaders headers).adjust f := rfl

theorem headersOr_adjust (kwargs : Kwargs HeaderDict) :
    (kwargs.adjust f).headersOr = kwargs.headersOr := rfl

namespace TLSFingerprint

variable {profile : TLSFingerprint} {kwargs : Kwargs HeaderDict}

theorem fill_adjust (h : Unread ks f) {k : Keyword} (hk : k ∈ prepared) (hne : k ≠ .cookies)
    (v : Option Value) : fill k v (kwargs.adjust f) = (fill k v kwargs).adjust f := by
  cases v with
  | none => rfl
  | some v => exact h.setDefault_adjust hk hne v

theorem mergeHeaders_adjust :
    profile.mergeHeaders (kwargs.adjust f) =
      Kwargs.adjust f <$> profile.mergeHeaders kwargs := by
  rw [mergeHeaders, mergeHeaders]
  cases profile.headers with
  | none => simp only [map_pure]
  | some headers => simp only [headersOr_adjust, map_bind, map_pure, Kwargs.setHeaders_adjust]

theorem injectHeaders_adjust :
    profile.injectHeaders env (kwargs.adjust f) =
      Kwargs.adjust f <$> profile.injectHeaders env kwargs := by
  rw [injectHeaders, injectHeaders]
  split_ifs
  · rw [map_pure]
  · simp only [headersOr_adjust, map_bind, map_pure, Kwargs.setHeaders_adjust]

theorem applyToKwargs_adjust (h : Unread ks f) :
    profile.applyToKwargs env (kwargs.adjust f) =
      Kwargs.adjust f <$> profile.applyToKwargs env kwargs := by
  simp (disch := decide) only [applyToKwargs, h.setDefault_adjust, fill_adjust h,
    mergeHeaders_adjust, injectHeaders_adjust, bind_map_left, map_bind, map_pure]

end TLSFingerprint

section Steps

variable {kwargs : Kwargs HeaderDict} {headers : HeaderDict}

theorem applyAuth_adjust (h : Unread [.auth] f) :
    applyAuth env (kwargs.adjust f) = Kwargs.adjust f <$> applyAuth env kwargs := by
  rw [applyAuth, applyAuth, h.arg_adjust (by decide)]
  split_ifs
  · rw [map_pure]
  · simp only [headersOr_adjust, map_bind, map_pure, Kwargs.setHeaders_adjust]

theorem applyFingerprint_adjust (h : Unread [.fingerprint] f) :
    applyFingerprint env (kwargs.adjust f) =
      Kwargs.adjust f <$> applyFingerprint env kwargs := by
  rw [applyFingerprint, applyFingerprint, h.arg_adjust (by decide)]
  split_ifs
  · rw [map_pure]
  · simp only [TLSFingerprint.applyToKwargs_adjust h, map_bind]

theorem takeUserAgent_adjust (h : Unread ks f) :
    takeUserAgent (kwargs.adjust f) headers =
      Prod.map (Kwargs.adjust f) id <$> takeUserAgent kwargs headers := by
  rw [takeUserAgent, takeUserAgent, map_bind]
  refine bind_congr fun d => ?_
  cases findUserAgent d with
  | none => simp only [map_pure, Prod.map, id]
  | some e =>
    simp (disch := decide) only [map_bind, map_pure, Prod.map, id, h.set_adjust]

theorem takeData_adjust (h : Unread ks f) {k : Keyword} (hk : k ∈ prepared) (hne : k ≠ .cookies)
    (data : Value) : takeData k data (kwargs.adjust f) = ((takeData k data kwargs).1,
      (takeData k data kwargs).2.adjust f) := by
  rw [takeData, takeData, h.options_adjust hk hne]
  split_ifs
  · cases kwargs.options k with
    | none => rfl
    | some v => rw [h.erase_adjust hk hne]
  · rfl

theorem encodeBody_adjust (h : Unread ks f) (json data : Value) :
    encodeBody env json data (kwargs.adjust f) headers =
      Prod.map (Kwargs.adjust f) id <$> encodeBody env json data kwargs headers := by
  unfold encodeBody
  split_ifs
  · rfl
  · simp (disch := decide) only [map_bind, map_pure, Prod.map, id, h.set_adjust]
  · cases data <;>
      simp (disch := decide) only [map_bind, map_pure, Prod.map, id, h.set_adjust]

theorem encodeFiles_adjust (h : Unread [.files] f) (boundary : String) (data : Value) :
    encodeFiles env boundary data (kwargs.adjust f) headers =
      Prod.map (Kwargs.adjust f) id <$> encodeFiles env boundary data kwargs headers := by
  rw [encodeFiles, encodeFiles, h.arg_adjust (by decide)]
  split_ifs
  · simp only [map_pure, Prod.map, id]
  · simp (disch := decide) only [map_bind, map_pure, Prod.map, id, h.set_adjust]

theorem storeHeaders_adjust (shared : Bool) :
    storeHeaders (kwargs.adjust f) headers shared =
      Kwargs.adjust f <$> storeHeaders kwargs headers shared := by
  simp only [storeHeaders, map_bind, map_pure, Kwargs.setHeaders_adjust, apply_ite]

theorem convertKwargsCookies_adjust (h : Unseen ks f) (kwargs : Kwargs HeaderDict) :
    convertKwargsCookies env (kwargs.adjust f) =
      (convertKwargsCookies env kwargs).adjust f := by
  have hcookies := h.prepared .cookies (by decide)
  have hoptions : (kwargs.adjust f).options .cookies = kwargs.options .cookies := hcookies _
  rw [convertKwargsCookies, convertKwargsCookies, hoptions]
  cases kwargs.options .cookies with
  | none => rfl
  | some v => exact set_adjust hcookies _

theorem takeJson_adjust (h : Unread [.json, .jsonData] f) :
    takeJson (kwargs.adjust f) = takeJson kwargs := by
  simp (disch := decide) only [takeJson, h.arg_adjust]

theorem normalizeRest_adjust_of {f' : Keyword → Option Value → Option Value}
    (h : Unread [.params, .data, .files] f)
    (hcookies : ∀ kwargs, convertKwargsCookies env (kwargs.adjust f) =
      (convertKwargsCookies env kwargs).adjust f') (boundary url : String) (json : Value) :
    normalizeRest env boundary url json (kwargs.adjust f) =
      Prod.map id (Kwargs.adjust f') <$> normalizeRest env boundary url json kwargs := by
  simp (disch := decide) only [normalizeRest, takeUserAgent_adjust h,
    takeData_adjust h, encodeBody_adjust h, encodeFiles_adjust (h.mono (by decide)),
    storeHeaders_adjust, hcookies, headersOr_adjust, h.arg_adjust,
    bind_map_left, map_bind, map_pure, Prod.map, id]

theorem normalizeRest_adjust (h : Unseen [.params, .data, .files] f) (boundary url : String)
    (json : Value) :
    normalizeRest env boundary url json (kwargs.adjust f) =
      Prod.map id (Kwargs.adjust f) <$> normalizeRest env boundary url json kwargs :=
  normalizeRest_adjust_of h.unread (convertKwargsCookies_adjust h) boundary url json

theorem normalize_adjust_of {f' : Keyword → Option Value → Option Value}
    (h : Unread parameters f)
    (hcookies : ∀ kwargs, convertKwargsCookies env (kwargs.adjust f) =
      (convertKwargsCookies env kwargs).adjust f') (boundary url : String) :
    normalize env boundary url (kwargs.adjust f) =
      Prod.map id (Kwargs.adjust f') <$> normalize env boundary url kwargs := by
  simp only [normalize, takeJson_adjust (h.mono (by decide)), applyAuth_adjust (h.mono (by decide)),
    applyFingerprint_adjust (h.mono (by decide)),
    normalizeRest_adjust_of (h.mono (by decide)) hcookies, bind_map_left, map_bind]

/-- What the preparation does not see is passed on. -/
theorem normalize_adjust (h : Unseen parameters f) (boundary url : String) :
    normalize env boundary url (kwargs.adjust f) =
      Prod.map id (Kwargs.adjust f) <$> normalize env boundary url kwargs :=
  normalize_adjust_of h.unread (convertKwargsCookies_adjust h) boundary url

/-- Arguments with these cookies. -/
def withCookies (v : Value) (k : Keyword) (w : Option Value) : Option Value :=
  if k = .cookies then some v else w

theorem set_cookies_eq_adjust {R : Type} (kwargs : Kwargs R) (v : Value) :
    kwargs.set .cookies v = kwargs.adjust (withCookies v) := by
  have hoptions : Function.update kwargs.options .cookies (some v) =
      fun k => withCookies v k (kwargs.options k) := by
    funext k
    rw [Function.update_apply, withCookies]
  rw [Kwargs.set, hoptions]
  rfl

theorem unread_withCookies (v : Value) : Unread parameters (withCookies v) where
  parameters k hk w := by
    rw [withCookies, if_neg]
    rintro rfl
    exact absurd hk (by decide)
  prepared k _ hne w := if_neg hne

/-- Cookies do not matter until they are converted. -/
theorem normalize_set_cookies (v : Value) (boundary url : String) :
    normalize env boundary url (kwargs.set .cookies v) =
      Prod.map id (·.set .cookies (convertRequestCookies env v)) <$>
        normalize env boundary url kwargs := by
  have hcookies (kwargs : Kwargs HeaderDict) :
      convertKwargsCookies env (kwargs.adjust (withCookies v)) =
        (convertKwargsCookies env kwargs).adjust
          (withCookies (convertRequestCookies env v)) := by
    rw [← set_cookies_eq_adjust, ← set_cookies_eq_adjust, convertKwargsCookies,
      convertKwargsCookies]
    have hset : (kwargs.set .cookies v).options .cookies = some v := rfl
    rw [hset]
    cases kwargs.options .cookies with
    | none => exact congrArg (Kwargs.mk _ · _) (Function.update_idem _ _ _)
    | some w =>
      refine congrArg (Kwargs.mk _ · _) ?_
      change Function.update (Function.update _ _ _) _ _ =
        Function.update (Function.update _ _ _) _ _
      rw [Function.update_idem, Function.update_idem]
  have hset : (fun kwargs' : Kwargs HeaderDict =>
      kwargs'.set .cookies (convertRequestCookies env v)) =
        Kwargs.adjust (withCookies (convertRequestCookies env v)) :=
    funext fun kwargs' => set_cookies_eq_adjust kwargs' _
  rw [set_cookies_eq_adjust, normalize_adjust_of (unread_withCookies v) hcookies, hset]

end Steps

end CycleTLS
