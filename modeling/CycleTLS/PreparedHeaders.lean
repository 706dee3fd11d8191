import CycleTLS.Payload

/-!
# The headers of a payload (`_prepare_request`)

What a request sets goes before the headers that are given, and these before what it only fills
in: the headers of the profile and the content type of a form. The first user agent is taken out
(`headerOf_eq`), and is the one that is sent, if there is any (`get_userAgent`).
-/

namespace CycleTLS

open Raising

/-! ## What is written -/

section Request

variable (env : PyEnv) (boundary : String) (kwargs : Kwargs HeaderDict) (d : Headers)

/-- The value that a request sets a header to. -/
def setHeader (name : String) : Option String :=
  if name = "Authorization" then (authorization env (kwargs.arg .auth)).toOption
  else if name = "Content-Type" then
    (filesType boundary (kwargs.arg .files)).or
      ((jsonType (kwargs.arg .json)).or (jsonType (kwargs.arg .jsonData)))
  else none

/-- The value that a request fills in for a header. -/
def filledHeader (name : String) : Option Value :=
  ((kwargs.profile env).bind (·.header env name)).or
    (if name = "Content-Type" then (formType (requestData kwargs)).map .str else none)

/-- The headers of the profile that is given. -/
def profileHeaders : Headers := ((kwargs.profile env).map (·.ownHeaders)).getD .empty

/-- The name of the header that is taken for the user agent. -/
def agentName : Option String :=
  ((profileHeaders env kwargs).firstKey isUserAgent).or ((kwargs.contents d).firstKey isUserAgent)

/-- The value of a header in the payload. -/
def preparedHeader (name : String) : Option Value :=
  if agentName env kwargs d = some name then none
  else ((setHeader env boundary kwargs name).map .str).or
    (((kwargs.contents d).get? name).or (filledHeader env kwargs name))

/-- The user agent in the payload. -/
def preparedAgent : Value :=
  ((agentAmong (profileHeaders env kwargs) (kwargs.contents d)).or
    ((kwargs.options .userAgent).or ((kwargs.profile env).bind (·.sets .userAgent)))).getD
      (.str defaultUserAgent)

end Request

/-! ## The whole preparation -/

variable {env : PyEnv} {d : Headers} {kwargs : Kwargs HeaderDict} {boundary : String}

/-- The name of the user agent among the headers of the caller and the profile. -/
theorem agentName_eq : (withProfile env (kwargs.profile env)
    (withAuth env (kwargs.arg .auth) (kwargs.contents d))).firstKey isUserAgent =
      agentName env kwargs d := by
  rw [agentName, profileHeaders]
  cases kwargs.profile env with
  | none => exact firstKey_withAuth _ _
  | some profile =>
    rw [withProfile, TLSFingerprint.firstKey_mergedHeaders, firstKey_withAuth]
    rfl

theorem agentName_ne {name : String} (h : isUserAgent name = false) :
    agentName env kwargs d ≠ some name := by
  intro heq
  rw [← agentName_eq] at heq
  have hfound : isUserAgent name = true := List.find?_some heq
  rw [h] at hfound
  cases hfound

theorem jsonType_of_takeJson {json : Value} (h : takeJson kwargs = .ok json) :
    (jsonType (kwargs.arg .json)).or (jsonType (kwargs.arg .jsonData)) = jsonType json := by
  rw [takeJson] at h
  split_ifs at h with hjson hdata
  · cases h
    rw [jsonType, if_pos hjson, Option.none_or]
  · cases h
    rw [jsonType, if_neg hjson, Option.some_or]

/-- The steps together give what is set, what is given and what is filled in. -/
theorem withType_eq_preparedHeader {json : Value} (hjson : takeJson kwargs = .ok json) :
    withType ((filesType boundary (kwargs.arg .files)).or (jsonType json))
        (formType (requestData kwargs))
        (withoutAgent (withProfile env (kwargs.profile env)
          (withAuth env (kwargs.arg .auth) (kwargs.contents d)))).get? =
      preparedHeader env boundary kwargs d := by
  funext name
  have hprofile : (withProfile env (kwargs.profile env)
      (withAuth env (kwargs.arg .auth) (kwargs.contents d))).get? name = _ :=
    get?_withProfile _ _ name
  rw [get?_withAuth_eq] at hprofile
  rw [preparedHeader, setHeader, filledHeader, withType]
  by_cases htype : name = "Content-Type"
  · subst htype
    have hagent : agentName env kwargs d ≠ some "Content-Type" := agentName_ne (by decide)
    rw [Function.update_self, get?_withoutAgent, agentName_eq, if_neg hagent, if_neg hagent,
      hprofile, if_neg (by decide), if_neg (by decide), if_pos rfl, if_pos rfl,
      jsonType_of_takeJson hjson, Option.map_none, Option.none_or, Option.or_assoc]
  · rw [Function.update_of_ne htype, get?_withoutAgent, agentName_eq, hprofile, if_neg htype,
      if_neg htype, Option.or_none, Option.or_assoc]

theorem ensures_get?_normalize {url : String} :
    Ensures d (normalize env boundary url kwargs) fun r d' =>
      (r.2.contents d').get? = preparedHeader env boundary kwargs d := by
  refine ensures_normalize_of fun json kwargs' d' hjson _ _ hbody hcontents => ?_
  refine ensures_normalizeRest.imp fun r d₄ h => ?_
  rw [h.2.2, hbody.arg (by decide), requestData_congr hbody, hcontents,
    withType_eq_preparedHeader hjson]

section Payload

variable {closed : Bool} {method url : String} {t : Headers} {p : OptionsDict}

/-- The headers of a request that is accepted. -/
theorem headerOf_eq
    (hrun : exec (prepareRequest env closed boundary method url kwargs) d = (.ok p, t)) :
    headerOf p = preparedHeader env boundary kwargs d := by
  obtain ⟨u, kwargs', t', headers, r, hnormalize, hheaders, hr, hp⟩ := exists_request_of_ok hrun
  obtain ⟨hget, -, -⟩ := Request.get_key hr hp
  rw [← ensures_get?_normalize _ _ hnormalize]
  funext name
  rw [headerOf, hget]
  exact (ensures_headersValue _ _ hheaders).2 name

/-- The user agent of a request that is accepted. -/
theorem get_userAgent
    (hrun : exec (prepareRequest env closed boundary method url kwargs) d = (.ok p, t)) :
    Value.get p "userAgent" = preparedAgent env kwargs d := by
  obtain ⟨json, kwargs', t', -, -, hprepares, hsent, -⟩ := exists_prepares hrun
  have hagent := hsent .userAgent (by decide)
  rw [hprepares.userAgent, agentAmong_eq] at hagent
  exact (Except.ok.inj hagent).symm

/-- The header values of a request that is accepted are those that are given, as lists. -/
theorem get_headerValues
    (hrun : exec (prepareRequest env closed boundary method url kwargs) d = (.ok p, t)) :
    headerValueLists (kwargs.arg .headerValues) = .ok (Value.get p "headerValues") := by
  obtain ⟨json, kwargs', t', -, -, hprepares, hsent, -⟩ := exists_prepares hrun
  have hvalues := hsent .headerValues (by decide)
  rw [hprepares.passed .headerValues (by decide)] at hvalues
  have hsets : (kwargs.profile env).bind (·.sets .headerValues) = none :=
    Option.bind_eq_none_iff.2 fun profile _ => rfl
  simp only [hsets, Option.or_none] at hvalues
  exact hvalues

end Payload

end CycleTLS
