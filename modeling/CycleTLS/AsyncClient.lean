import CycleTLS.Payload

/-!
# The client with async methods under sync names (`async_api.py`)

`AsyncCycleTLS` has the async methods of `CycleTLS` under the names of the sync ones. Each
names the parameters that the method of `CycleTLS` has and hands them on one by one, but
for the credentials, and `json` where there is a body, which are dropped.

A call hands Go the same options as the method of `CycleTLS` exactly if it is
`Undropped` (`sendsSame_iff`).
-/

namespace CycleTLS

open Raising

/-! ## Methods -/

/-- The parameters of the methods that have no body. -/
def queryParameters : List Keyword := [.params, .fingerprint, .auth]

/-- The parameters of the methods that have a body. -/
def bodyParameters : List Keyword := [.params, .data, .jsonData, .json, .fingerprint, .auth]

/-- The arguments that a method hands on, which names some parameters and the others as they
    are given. -/
def Kwargs.forward {R : Type} (named forwarded : List Keyword) (kwargs : Kwargs R) : Kwargs R :=
  kwargs.adjust fun k v =>
    if k ∈ forwarded then some (v.getD .none) else if k ∈ named then none else v

section Methods

variable (env : PyEnv) (closed : Bool) (boundary url : String) (kwargs : Kwargs HeaderDict)

/-- An async method of `CycleTLS`. -/
def amethod (parameters : List Keyword) (method : String) : PyM OptionsDict :=
  arequest env closed boundary method url (kwargs.forward parameters parameters)

def aget : PyM OptionsDict := amethod env closed boundary url kwargs queryParameters "get"

def aoptions : PyM OptionsDict := amethod env closed boundary url kwargs queryParameters "options"

def ahead : PyM OptionsDict := amethod env closed boundary url kwargs queryParameters "head"

def apost : PyM OptionsDict := amethod env closed boundary url kwargs bodyParameters "post"

def aput : PyM OptionsDict := amethod env closed boundary url kwargs bodyParameters "put"

def apatch : PyM OptionsDict := amethod env closed boundary url kwargs bodyParameters "patch"

def adelete : PyM OptionsDict := amethod env closed boundary url kwargs queryParameters "delete"

namespace AsyncCycleTLS

/-- What the methods without a body hand on. -/
def queryForwarded : List Keyword := [.params, .fingerprint]

/-- What the methods with a body hand on. -/
def bodyForwarded : List Keyword := [.params, .data, .jsonData, .fingerprint]

def request (method : String) : PyM OptionsDict :=
  arequest env closed boundary method url
    (kwargs.forward parameters [.params, .data, .jsonData, .files, .fingerprint])

def get : PyM OptionsDict :=
  aget env closed boundary url (kwargs.forward queryParameters queryForwarded)

def options : PyM OptionsDict :=
  aoptions env closed boundary url (kwargs.forward queryParameters queryForwarded)

def head : PyM OptionsDict :=
  ahead env closed boundary url (kwargs.forward queryParameters queryForwarded)

def post : PyM OptionsDict :=
  apost env closed boundary url (kwargs.forward bodyParameters bodyForwarded)

def put : PyM OptionsDict :=
  aput env closed boundary url (kwargs.forward bodyParameters bodyForwarded)

def patch : PyM OptionsDict :=
  apatch env closed boundary url (kwargs.forward bodyParameters bodyForwarded)

def delete : PyM OptionsDict :=
  adelete env closed boundary url (kwargs.forward queryParameters queryForwarded)

end AsyncCycleTLS

end Methods

/-- The methods of an async client. -/
inductive AsyncMethod
  | request (method : String)
  | get
  | options
  | head
  | post
  | put
  | patch
  | delete

namespace AsyncMethod

variable (env : PyEnv) (closed : Bool) (boundary url : String) (kwargs : Kwargs HeaderDict)

/-- The method of `CycleTLS`, with the `a` before its name. -/
def ofCycleTLS : AsyncMethod → PyM OptionsDict
  | request method => arequest env closed boundary method url kwargs
  | get => aget env closed boundary url kwargs
  | options => aoptions env closed boundary url kwargs
  | head => ahead env closed boundary url kwargs
  | post => apost env closed boundary url kwargs
  | put => aput env closed boundary url kwargs
  | patch => apatch env closed boundary url kwargs
  | delete => adelete env closed boundary url kwargs

/-- The method of `AsyncCycleTLS`. -/
def ofAsyncCycleTLS : AsyncMethod → PyM OptionsDict
  | request method => AsyncCycleTLS.request env closed boundary url kwargs method
  | get => AsyncCycleTLS.get env closed boundary url kwargs
  | options => AsyncCycleTLS.options env closed boundary url kwargs
  | head => AsyncCycleTLS.head env closed boundary url kwargs
  | post => AsyncCycleTLS.post env closed boundary url kwargs
  | put => AsyncCycleTLS.put env closed boundary url kwargs
  | patch => AsyncCycleTLS.patch env closed boundary url kwargs
  | delete => AsyncCycleTLS.delete env closed boundary url kwargs

/-- Whether `json` is one of the parameters. -/
def takesJson : AsyncMethod → Bool
  | request _ | post | put | patch => true
  | _ => false

/-- The method in the payload. -/
def verb : AsyncMethod → String
  | request method => method
  | get => "get"
  | options => "options"
  | head => "head"
  | post => "post"
  | put => "put"
  | patch => "patch"
  | delete => "delete"

/-- The parameters that `AsyncCycleTLS` does not hand on. -/
def dropped (m : AsyncMethod) : List Keyword := if m.takesJson then [.json, .auth] else [.auth]

end AsyncMethod

/-- Arguments without some of them. -/
def Kwargs.without {R : Type} (ks : List Keyword) (kwargs : Kwargs R) : Kwargs R :=
  kwargs.adjust fun k v => if k ∈ ks then none else v

variable {env : PyEnv} {closed : Bool} {boundary method url : String}
  {kwargs kwargs' : Kwargs HeaderDict} {m : AsyncMethod} {d d' : Headers} {p : OptionsDict}

/-! ## Arguments that are handed on -/

/-- The `Request` is made of the keywords that are not parameters. -/
theorem Request.new_congr {headers : Value} (hunknown : kwargs'.unknown = kwargs.unknown)
    (hoptions : ∀ k, k ∉ parameters → kwargs'.options k = kwargs.options k) :
    Request.new method url headers kwargs' = Request.new method url headers kwargs := by
  simp (disch := decide) only [Request.new, Kwargs.arg, hunknown, hoptions]

theorem prepareRequest_adjust {f : Keyword → Option Value → Option Value}
    (h : Unseen parameters f) (hrest : ∀ k, k ∉ parameters → ∀ v, f k v = v) :
    prepareRequest env closed boundary method url (kwargs.adjust f) =
      prepareRequest env closed boundary method url kwargs := by
  have hnew (headers : Value) (u : String) (kwargs : Kwargs HeaderDict) :
      Request.new method u headers (kwargs.adjust f) = Request.new method u headers kwargs :=
    Request.new_congr rfl fun k hk => hrest k hk _
  have hheaders (kwargs : Kwargs HeaderDict) :
      headersValue (kwargs.adjust f) = headersValue kwargs := rfl
  simp only [prepareRequest, normalize_adjust h, bind_map_left, Prod.map, id, hnew, hheaders]

/-- Arguments with the same parameters and the same other keywords are prepared alike. -/
theorem prepareRequest_congr (hheaders : kwargs'.headers = kwargs.headers)
    (hunknown : kwargs'.unknown = kwargs.unknown)
    (harg : ∀ k ∈ parameters, kwargs'.arg k = kwargs.arg k)
    (hoptions : ∀ k, k ∉ parameters → kwargs'.options k = kwargs.options k) :
    prepareRequest env closed boundary method url kwargs' =
      prepareRequest env closed boundary method url kwargs := by
  let f (k : Keyword) (v : Option Value) := if k ∈ parameters then some (v.getD .none) else v
  have hunseen : Unseen parameters f := by
    refine ⟨fun k hk v => ?_, fun k hk v => if_neg (by revert hk; cases k <;> decide)⟩
    simp only [f, if_pos hk, Option.getD_some]
  have hsame : kwargs'.adjust f = kwargs.adjust f := by
    rw [Kwargs.adjust, Kwargs.adjust, Kwargs.mk.injEq]
    refine ⟨hheaders, funext fun k => ?_, hunknown⟩
    by_cases hk : k ∈ parameters
    · simp only [f, if_pos hk]
      exact congrArg some (harg k hk)
    · simp only [f, if_neg hk, hoptions k hk]
  have hrest (k : Keyword) (hk : k ∉ parameters) (v : Option Value) : f k v = v := if_neg hk
  rw [← prepareRequest_adjust hunseen hrest, hsame, prepareRequest_adjust hunseen hrest]

/-- Handing on the parameters changes nothing. -/
theorem arequest_forward {named forwarded : List Keyword} (hnamed : named ⊆ parameters)
    (hforwarded : forwarded ⊆ parameters) :
    arequest env closed boundary method url (kwargs.forward named forwarded) =
      arequest env closed boundary method url
        (kwargs.without (named.filter (· ∉ forwarded))) := by
  have hparameter (k : Keyword) (hk : k ∈ parameters) : k ∉ swallowed := by
    revert hk
    cases k <;> decide
  refine prepareRequest_congr rfl rfl (fun k hk => ?_) fun k hk => ?_
  · simp only [Kwargs.arg, Kwargs.replace, if_neg (hparameter k hk), Kwargs.forward, Kwargs.without,
      Kwargs.adjust, List.mem_filter, decide_eq_true_eq]
    by_cases hf : k ∈ forwarded
    · rw [if_pos hf, if_neg fun h => h.2 hf]
      rfl
    · by_cases hn : k ∈ named
      · rw [if_neg hf, if_pos hn, if_pos ⟨hn, hf⟩]
      · rw [if_neg hf, if_neg hn, if_neg fun h => hn h.1]
  · have hf : k ∉ forwarded := fun h => hk (hforwarded h)
    have hn : k ∉ named := fun h => hk (hnamed h)
    simp only [Kwargs.replace, Kwargs.forward, Kwargs.without, Kwargs.adjust, if_neg hf,
      List.mem_filter, hn, false_and, if_false]

theorem Kwargs.without_nil : kwargs.without [] = kwargs := by
  simp [Kwargs.without, Kwargs.adjust]

theorem ofCycleTLS_eq : m.ofCycleTLS env closed boundary url kwargs =
    arequest env closed boundary m.verb url kwargs := by
  have hall {ks : List Keyword} (hks : ks ⊆ parameters) {method : String} :
      amethod env closed boundary url kwargs ks method =
        arequest env closed boundary method url kwargs := by
    have hnil : ks.filter (· ∉ ks) = [] := List.filter_eq_nil_iff.2 fun k hk => by simp [hk]
    rw [amethod, arequest_forward hks hks, hnil, Kwargs.without_nil]
  cases m with
  | request method => rfl
  | _ => exact hall (by decide)

/-- The methods of `AsyncCycleTLS` are those of `CycleTLS` without what is dropped. -/
theorem ofAsyncCycleTLS_eq : m.ofAsyncCycleTLS env closed boundary url kwargs =
    arequest env closed boundary m.verb url (kwargs.without m.dropped) := by
  cases m with
  | request method => exact arequest_forward (by decide) (by decide)
  | get => exact (ofCycleTLS_eq (m := .get)).trans (arequest_forward (by decide) (by decide))
  | options =>
    exact (ofCycleTLS_eq (m := .options)).trans (arequest_forward (by decide) (by decide))
  | head => exact (ofCycleTLS_eq (m := .head)).trans (arequest_forward (by decide) (by decide))
  | post => exact (ofCycleTLS_eq (m := .post)).trans (arequest_forward (by decide) (by decide))
  | put => exact (ofCycleTLS_eq (m := .put)).trans (arequest_forward (by decide) (by decide))
  | patch => exact (ofCycleTLS_eq (m := .patch)).trans (arequest_forward (by decide) (by decide))
  | delete => exact (ofCycleTLS_eq (m := .delete)).trans (arequest_forward (by decide) (by decide))

/-! ## Headers that nobody else holds -/

/-- The headers are not those of the caller. -/
def Owned (kwargs : Kwargs HeaderDict) : Prop := kwargs.headers ≠ some (some .given)

section Owned

variable {dict : HeaderDict}

theorem own_ne_given (e : Headers) : HeaderDict.own e ≠ .given := nofun

theorem detached_read (h : dict ≠ .given) : Detached dict.read fun _ => True := by
  cases dict with
  | given => exact absurd rfl h
  | own e => exact .pure trivial

theorem detached_update {f : Headers → Headers} (h : dict ≠ .given) :
    Detached (dict.update f) (· ≠ .given) := by
  cases dict with
  | given => exact absurd rfl h
  | own e => exact .pure nofun

theorem detached_headersOr (h : Owned kwargs) : Detached kwargs.headersOr (·.1 ≠ .given) := by
  rw [Kwargs.headersOr]
  split
  · next dict hdict =>
    have hne : dict ≠ .given := fun heq => h (by rw [hdict, heq])
    refine (detached_read hne).bind fun e _ => .pure ?_
    split_ifs
    · rintro ⟨⟩
    · exact hne
  · exact .pure (by rintro ⟨⟩)

theorem owned_setHeaders (h : dict ≠ .given) : Owned (kwargs.setHeaders dict) :=
  fun heq => h (setHeaders_given heq)

theorem detached_injectHeaders {profile : TLSFingerprint} (h : Owned kwargs) :
    Detached (profile.injectHeaders env kwargs) Owned := by
  rw [TLSFingerprint.injectHeaders]
  split_ifs
  · exact .pure h
  · refine (detached_headersOr h).bind fun r hr => ?_
    exact (detached_update hr).bind fun dict hdict => .pure (owned_setHeaders hdict)

theorem detached_takeUserAgent (h : Owned kwargs) (hdict : dict ≠ .given) :
    Detached (takeUserAgent kwargs dict) fun r => Owned r.1 ∧ r.2 ≠ .given := by
  rw [takeUserAgent]
  refine (detached_read hdict).bind fun e _ => ?_
  cases findUserAgent e with
  | none => exact .pure ⟨h, hdict⟩
  | some entry => exact (detached_update hdict).bind fun dict' hdict' => .pure ⟨h, hdict'⟩

theorem detached_encodeBody {json data : Value} (h : Owned kwargs) (hdict : dict ≠ .given) :
    Detached (encodeBody env json data kwargs dict) fun r => Owned r.1 ∧ r.2 ≠ .given := by
  unfold encodeBody
  split_ifs
  · exact .throw _
  · refine (Detached.lift fun _ _ => trivial).bind fun text _ => ?_
    exact (detached_update hdict).bind fun dict' hdict' => .pure ⟨h, hdict'⟩
  · cases data with
    | none => exact .pure ⟨h, hdict⟩
    | dict items => exact (detached_update hdict).bind fun dict' hdict' => .pure ⟨h, hdict'⟩
    | _ => exact .pure ⟨h, hdict⟩

theorem detached_encodeFiles {data : Value} (h : Owned kwargs) (hdict : dict ≠ .given) :
    Detached (encodeFiles env boundary data kwargs dict) fun r => Owned r.1 ∧ r.2 ≠ .given := by
  rw [encodeFiles]
  split_ifs
  · exact .pure ⟨h, hdict⟩
  · refine (Detached.lift fun _ _ => trivial).bind fun r _ => ?_
    exact (detached_update hdict).bind fun dict' hdict' => .pure ⟨h, hdict'⟩

theorem detached_storeHeaders {shared : Bool} (h : Owned kwargs) (hdict : dict ≠ .given) :
    Detached (storeHeaders kwargs dict shared) Owned := by
  rw [storeHeaders]
  refine (detached_read hdict).bind fun e _ => .pure ?_
  split_ifs
  · exact owned_setHeaders hdict
  · exact h

theorem detached_normalizeRest {json : Value} (h : Owned kwargs) :
    Detached (normalizeRest env boundary url json kwargs) fun r => Owned r.2 := by
  obtain ⟨data₁, kwargs₁, kwargs₂, hbody, hbytes, hheaders, -⟩ := exists_takeData kwargs
  simp only [normalizeRest, hbody, hbytes]
  have h₂ : Owned kwargs₂ := by rwa [Owned, hheaders]
  refine (detached_headersOr h₂).bind fun r hr => ?_
  obtain ⟨dict, shared⟩ := r
  refine (detached_takeUserAgent h₂ hr).bind fun r h₃ => ?_
  refine (Detached.lift fun _ _ => trivial).bind fun u _ => ?_
  refine (detached_encodeBody h₃.1 h₃.2).bind fun r h₄ => ?_
  refine (detached_encodeFiles h₄.1 h₄.2).bind fun r h₅ => ?_
  refine (detached_storeHeaders h₅.1 h₅.2).bind fun kwargs₆ h₆ => .pure ?_
  rw [Owned, convertKwargsCookies]
  cases kwargs₆.options .cookies <;> exact h₆

theorem detached_headersValue (h : Owned kwargs) :
    Detached (headersValue kwargs) fun _ => True := by
  rw [headersValue]
  split
  · exact .pure trivial
  · exact .pure trivial
  · next dict hdict =>
    have hne : dict ≠ .given := fun heq => h (by rw [hdict, heq])
    exact (detached_read hne).bind fun _ _ => .pure trivial

end Owned

/-! ## Credentials that make no difference -/

/-- What is done after the credentials are applied. -/
def finish (env : PyEnv) (boundary method url : String) (json : Value)
    (kwargs : Kwargs HeaderDict) : PyM OptionsDict := do
  let kwargs ← applyFingerprint env kwargs
  let (url, kwargs) ← normalizeRest env boundary url json kwargs
  let request ← Request.new method url (← headersValue kwargs) kwargs
  request.toDict env

/-- The arguments without credentials. -/
def Kwargs.withoutAuth (kwargs : Kwargs HeaderDict) : Kwargs HeaderDict := kwargs.without [.auth]

theorem unseen_withoutAuth {ks : List Keyword} (h : .auth ∉ ks) :
    Unseen ks fun k v => if k ∈ [Keyword.auth] then none else v where
  parameters k hk v := by
    have hne : k ∉ [Keyword.auth] := by
      rintro hmem
      rw [List.mem_singleton.1 hmem] at hk
      exact h hk
    rw [if_neg hne]
  prepared k hk v := if_neg (by revert hk; cases k <;> decide)

theorem prepareRequest_eq : prepareRequest env closed boundary method url kwargs =
    if closed then throw (.cycleTLSError "CycleTLS client is closed")
    else (do
      let json ← takeJson kwargs
      let kwargs ← applyAuth env kwargs
      finish env boundary method url json kwargs) := by
  cases closed <;>
    simp [prepareRequest, normalize, finish, bind_assoc]

theorem finish_withoutAuth {json : Value} : finish env boundary method url json kwargs.withoutAuth =
    finish env boundary method url json kwargs := by
  have hnew (headers : Value) (u : String) (kwargs : Kwargs HeaderDict) :
      Request.new method u headers (kwargs.without [.auth]) = Request.new method u headers kwargs :=
    Request.new_congr rfl fun k hk =>
      if_neg fun hmem => hk (by rw [List.mem_singleton.1 hmem]; decide)
  have hheaders (kwargs : Kwargs HeaderDict) :
      headersValue (kwargs.without [.auth]) = headersValue kwargs := rfl
  simp only [Kwargs.without] at hnew hheaders
  simp only [finish, Kwargs.withoutAuth, Kwargs.without,
    applyFingerprint_adjust (unseen_withoutAuth (by decide)).unread,
    normalizeRest_adjust (unseen_withoutAuth (by decide)), bind_map_left, Prod.map, id, hnew,
    hheaders]

theorem exec_read (dict : HeaderDict) (d : Headers) :
    exec dict.read d = (.ok (dict.contents d), d) := by
  cases dict <;> rfl

theorem exists_exec_headersOr (kwargs : Kwargs HeaderDict) (d : Headers) : ∃ dict shared,
    exec kwargs.headersOr d = (.ok (dict, shared), d) ∧ dict.contents d = kwargs.contents d ∧
      ((kwargs.contents d).isEmpty = false → kwargs.headers = some (some dict)) := by
  rw [Kwargs.headersOr, Kwargs.contents]
  rcases kwargs.headers with _ | _ | dict
  · exact ⟨_, _, rfl, rfl, by rintro ⟨⟩⟩
  · exact ⟨_, _, rfl, rfl, by rintro ⟨⟩⟩
  · simp only [exec_bind, exec_read]
    cases hempty : (dict.contents d).isEmpty with
    | true => exact ⟨_, _, rfl, (eq_empty_of_isEmpty hempty).symm, by rintro ⟨⟩⟩
    | false => exact ⟨_, _, rfl, rfl, fun _ => rfl⟩

/-- Writing to a dict what is there already leaves it and the state. -/
theorem exists_exec_update (f : Headers → Headers) (dict : HeaderDict) (d : Headers) : ∃ dict' d',
    exec (dict.update f) d = (.ok dict', d') ∧ dict'.contents d' = f (dict.contents d) ∧
      (f (dict.contents d) = dict.contents d → dict' = dict ∧ d' = d) := by
  cases dict with
  | given => exact ⟨.given, f d, rfl, rfl, fun h => ⟨rfl, h⟩⟩
  | own e => exact ⟨.own (f e), d, rfl, rfl, fun h => ⟨congrArg _ h, rfl⟩⟩

namespace TLSFingerprint

variable (profile : TLSFingerprint)

/-- What is filled in before the headers. -/
def filled (kwargs : Kwargs HeaderDict) : Kwargs HeaderDict :=
  fill .headerOrder (profile.headerOrder.map fun o => .list (o.map .str)) <|
    fill .userAgent (profile.userAgent.map .str) <|
    fill .quicFingerprint (profile.quicFingerprint.map .str) <|
    fill .http2Fingerprint (profile.http2Fingerprint.map .str) <|
    fill .ja4r (profile.ja4r.map .str) <| kwargs.setDefault .ja3 (.str profile.ja3)

/-- What is done after the headers are merged. -/
def afterMerge (env : PyEnv) (kwargs : Kwargs HeaderDict) : PyM (Kwargs HeaderDict) := do
  let kwargs ← profile.injectHeaders env kwargs
  let kwargs :=
    fill .disableGrease (if profile.disableGrease then some (.bool true) else none) kwargs
  let kwargs := fill .forceHTTP1 (if profile.forceHTTP1 then some (.bool true) else none) kwargs
  return fill .forceHTTP3 (if profile.forceHTTP3 then some (.bool true) else none) kwargs

theorem applyToKwargs_eq : profile.applyToKwargs env kwargs =
    profile.mergeHeaders (profile.filled kwargs) >>= profile.afterMerge env := rfl

variable {profile}

theorem setDefault_setHeaders {k : Keyword} {v : Value} (dict : HeaderDict) :
    (kwargs.setHeaders dict).setDefault k v = (kwargs.setDefault k v).setHeaders dict := by
  rw [Kwargs.setDefault, Kwargs.setDefault]
  change (if (kwargs.options k).isSome then _ else _) = _
  split_ifs <;> rfl

theorem fill_setHeaders {k : Keyword} {v : Option Value} (dict : HeaderDict) :
    fill k v (kwargs.setHeaders dict) = (fill k v kwargs).setHeaders dict := by
  cases v with
  | none => rfl
  | some v => exact setDefault_setHeaders dict

theorem filled_setHeaders (dict : HeaderDict) :
    profile.filled (kwargs.setHeaders dict) = (profile.filled kwargs).setHeaders dict := by
  simp only [filled, setDefault_setHeaders, fill_setHeaders]

theorem headers_filled : (profile.filled kwargs).headers = kwargs.headers := by
  simp only [filled, headers_fill, headers_setDefault]

theorem owned_fill {k : Keyword} {v : Option Value} (h : Owned kwargs) :
    Owned (fill k v kwargs) := by
  rwa [Owned, headers_fill]

theorem detached_afterMerge (h : Owned kwargs) :
    Detached (profile.afterMerge env kwargs) Owned := by
  rw [afterMerge]
  exact (detached_injectHeaders h).bind fun _ hinjected =>
    .pure (owned_fill (owned_fill (owned_fill hinjected)))

/-- A profile with headers gives the request a dict of its own. -/
theorem exec_mergeHeaders (h : profile.headers ≠ none) :
    exec (profile.mergeHeaders kwargs) d = (.ok (kwargs.setHeaders
      (.own (profile.ownHeaders.setAll Prod.fst Prod.snd (kwargs.contents d).entries))), d) := by
  rw [mergeHeaders, ownHeaders]
  cases hheaders : profile.headers with
  | none => exact absurd hheaders h
  | some headers =>
    obtain ⟨dict, shared, hexec, hcontents, -⟩ := exists_exec_headersOr kwargs d
    rw [exec_bind, hexec]
    simp only [exec_bind, exec_read, hcontents]
    rfl

end TLSFingerprint

/-- Credentials are written to the headers, and where they are there already, nothing is
    changed. -/
theorem exists_exec_applyAuth {c : String} (hc : authorization env (kwargs.arg .auth) = .ok c)
    (d : Headers) : ∃ dict d₁, exec (applyAuth env kwargs) d = (.ok (kwargs.setHeaders dict), d₁) ∧
      dict.contents d₁ = (kwargs.contents d).set "Authorization" (.str c) ∧
      ((kwargs.contents d).get? "Authorization" = some (.str c) →
        kwargs.setHeaders dict = kwargs ∧ d₁ = d) := by
  have hnone : ¬(kwargs.arg .auth).isNone = true := by
    revert hc
    cases kwargs.arg .auth <;> simp [Value.isNone, authorization, authParts]
  obtain ⟨dict, shared, hexec, hcontents, hgiven⟩ := exists_exec_headersOr kwargs d
  obtain ⟨dict', d₁, hexec', hcontents', hsame⟩ :=
    exists_exec_update (·.set "Authorization" (.str c)) dict d
  refine ⟨dict', d₁, ?_, by rw [hcontents', hcontents], fun hget => ?_⟩
  · rw [applyAuth, if_neg hnone, hc]
    simp only [exec_bind, exec_lift, hexec, hexec']
    rfl
  · have hempty : (kwargs.contents d).isEmpty = false := by
      rw [← Bool.not_eq_true]
      intro hempty
      rw [eq_empty_of_isEmpty hempty] at hget
      cases hget
    obtain ⟨rfl, rfl⟩ := hsame (by rw [hcontents]; exact Dict.set_of_get? hget)
    refine ⟨?_, rfl⟩
    rw [Kwargs.setHeaders, ← hgiven hempty]

/-- Merging a dict that has a header as the profile has it. -/
theorem setAll_set {P e : Headers} {name : String} {v : Value} (he : e.get? name = none)
    (hP : P.get? name = some v) : P.setAll Prod.fst Prod.snd (e.set name v).entries =
      P.setAll Prod.fst Prod.snd e.entries := by
  have hentries : (e.set name v).entries = e.entries ++ [(name, v)] := by
    refine if_neg fun hmem => ?_
    obtain ⟨entry, hentry, rfl⟩ := List.mem_map.1 hmem
    rw [Dict.mem_entries_iff.1 (show (entry.1, entry.2) ∈ e.entries from hentry)] at he
    cases he
  have hget : (P.setAll Prod.fst Prod.snd e.entries).get? name = some v := by
    rw [Dict.get?_setAll, Dict.latest_entries, he]
    exact hP
  rw [hentries, Dict.setAll, List.foldl_append]
  exact Dict.set_of_get? hget

section Profile

variable {profile : TLSFingerprint}

/-- What is done after the headers of the profile are merged. -/
def settle (env : PyEnv) (boundary method url : String) (json : Value) (profile : TLSFingerprint)
    (kwargs : Kwargs HeaderDict) : PyM OptionsDict := do
  let kwargs ← profile.afterMerge env kwargs
  let (url, kwargs) ← normalizeRest env boundary url json kwargs
  let request ← Request.new method url (← headersValue kwargs) kwargs
  request.toDict env

theorem finish_of_profile {json : Value} (h : kwargs.profile env = some profile) :
    finish env boundary method url json kwargs =
      profile.mergeHeaders (profile.filled kwargs) >>=
        settle env boundary method url json profile := by
  have hfind : findProfile env (kwargs.arg .fingerprint) = .ok profile := by
    rw [Kwargs.profile] at h
    cases hfind : findProfile env (kwargs.arg .fingerprint) with
    | error e => rw [hfind] at h; cases h
    | ok found => rw [hfind] at h; exact congrArg _ (Option.some.inj h)
  have hnone : ¬(kwargs.arg .fingerprint).isNone = true := by
    revert hfind
    cases kwargs.arg .fingerprint <;> simp [Value.isNone, findProfile]
  have happly : applyFingerprint env kwargs = profile.applyToKwargs env kwargs := by
    rw [applyFingerprint, if_neg hnone, hfind]
    rfl
  rw [finish, happly, TLSFingerprint.applyToKwargs_eq, bind_assoc]
  rfl

/-- The rest goes on with a dict of its own. -/
theorem exec_finish_of_profile {json : Value} (h : kwargs.profile env = some profile)
    (hheaders : profile.headers ≠ none) :
    exec (finish env boundary method url json kwargs) d =
      exec (settle env boundary method url json profile ((profile.filled kwargs).setHeaders
        (.own (profile.ownHeaders.setAll Prod.fst Prod.snd (kwargs.contents d).entries)))) d := by
  have hfilled : (profile.filled kwargs).contents d = kwargs.contents d := by
    rw [Kwargs.contents, TLSFingerprint.headers_filled, Kwargs.contents]
  rw [finish_of_profile h, exec_bind, TLSFingerprint.exec_mergeHeaders hheaders, hfilled]

theorem detached_settle {json : Value} (h : Owned kwargs) :
    Detached (settle env boundary method url json profile kwargs) fun _ => True := by
  rw [settle]
  refine (TLSFingerprint.detached_afterMerge h).bind fun kwargs₁ h₁ => ?_
  refine (detached_normalizeRest h₁).bind fun r h₂ => ?_
  refine (detached_headersValue h₂).bind fun headers _ => ?_
  refine (Detached.lift fun _ _ => trivial).bind fun request _ => ?_
  exact Detached.lift fun _ _ => trivial

theorem get?_ownHeaders {v : Value} (h : profile.header env "Authorization" = some v) :
    profile.ownHeaders.get? "Authorization" = some v ∧ profile.headers ≠ none := by
  have hlookup : (profile.dynamicSecChUa env).lookup "Authorization" = none := by
    refine List.lookup_eq_none_iff.2 fun e he => bne_iff_ne.2 fun heq => ?_
    exact absurd (TLSFingerprint.mem_dynamicSecChUa he) (heq ▸ by decide)
  rw [TLSFingerprint.header, hlookup, Option.map_none, Option.or_none] at h
  refine ⟨h, fun hnone => ?_⟩
  rw [TLSFingerprint.ownHeaders, hnone] at h
  cases h

end Profile

/-- The credentials make no difference where the headers have them without. -/
theorem exec_finish {json : Value} {c : String}
    (hc : authorization env (kwargs.arg .auth) = .ok c)
    (hsame : ((kwargs.contents d).get? "Authorization").or
      ((kwargs.profile env).bind (·.header env "Authorization")) = some (.str c)) :
    (exec (applyAuth env kwargs >>= finish env boundary method url json) d).1 =
      (exec (finish env boundary method url json kwargs) d).1 := by
  obtain ⟨dict, d₁, hexec, hcontents, hkept⟩ := exists_exec_applyAuth hc d
  rw [exec_bind, hexec]
  change (exec (finish env boundary method url json (kwargs.setHeaders dict)) d₁).1 = _
  cases hget : (kwargs.contents d).get? "Authorization" with
  | some v =>
    rw [hget, Option.some_or] at hsame
    obtain ⟨hkwargs, rfl⟩ := hkept (hget.trans hsame)
    rw [hkwargs]
  | none =>
    -- the profile merges the same headers to a dict of its own either way
    rw [hget, Option.none_or] at hsame
    obtain ⟨profile, hprofile, hheader⟩ := Option.bind_eq_some_iff.1 hsame
    obtain ⟨hown, hheaders⟩ := get?_ownHeaders hheader
    have hprofile₁ : (kwargs.setHeaders dict).profile env = some profile := hprofile
    rw [exec_finish_of_profile hprofile hheaders, exec_finish_of_profile hprofile₁ hheaders,
      TLSFingerprint.filled_setHeaders, contents_setHeaders, hcontents, setAll_set hget hown]
    exact (detached_settle (owned_setHeaders (own_ne_given _))).fst_exec _ _

/-! ## Which calls send the same -/

/-- What is dropped makes no difference: there is no `json`, and the credentials, if there
    are any, are those that the headers or the profile have. -/
structure AsyncMethod.Undropped (env : PyEnv) (kwargs : Kwargs HeaderDict) (d : Headers)
    (m : AsyncMethod) : Prop where
  json : m.takesJson → (kwargs.arg .json).isNone
  auth : (kwargs.arg .auth).isNone ∨ ∃ c, authorization env (kwargs.arg .auth) = .ok c ∧
    ((kwargs.contents d).get? "Authorization").or
      ((kwargs.profile env).bind (·.header env "Authorization")) = some (.str c)

section Dropped

variable {ds : List Keyword}

theorem arg_without {k : Keyword} (h : k ∉ ds) : (kwargs.without ds).arg k = kwargs.arg k :=
  congrArg (Option.getD · Value.none) (if_neg h)

theorem arg_without_of_mem {k : Keyword} (h : k ∈ ds) : (kwargs.without ds).arg k = .none :=
  congrArg (Option.getD · Value.none) (if_pos h)

theorem replace_without : (kwargs.without ds).replace (fun _ => none) =
    (kwargs.replace fun _ => none).without ds := by
  rw [Kwargs.replace, Kwargs.without, Kwargs.adjust, Kwargs.mk.injEq]
  refine ⟨rfl, funext fun k => ?_, rfl⟩
  change (if k ∈ swallowed then none else if k ∈ ds then none else kwargs.options k) =
    if k ∈ ds then none else if k ∈ swallowed then none else kwargs.options k
  split_ifs <;> rfl

theorem isNone_json {d'' : Headers} (hdumps : ∀ v text, env.dumps v = .ok text → text ≠ "")
    (hds : ds ⊆ [.json, .auth]) (hjson : .json ∈ ds)
    (hp : exec (prepareRequest env closed boundary method url kwargs) d = (.ok p, d'))
    (hq : exec (prepareRequest env closed boundary method url (kwargs.without ds)) d =
      (.ok p, d'')) : (kwargs.arg .json).isNone := by
  obtain ⟨json, kwargs', t, htake, -, hprepares, -, hbody, -⟩ := exists_prepares hp
  obtain ⟨json', kwargs'', t', htake', -, hprepares', -, hbody', -⟩ := exists_prepares hq
  have hkept {k : Keyword} (hk : k ∉ [Keyword.json, .auth]) : k ∉ ds := fun h => hk (hds h)
  rw [← Bool.not_eq_false]
  intro hsome
  rw [takeJson, if_neg (by simp [hsome])] at htake
  rw [takeJson, arg_without_of_mem hjson, Value.isNone, if_pos rfl,
    arg_without (hkept (by decide))] at htake'
  split_ifs at htake with hnone
  cases htake
  cases htake'
  obtain ⟨hdata, text, htext, hsent⟩ := hprepares.body hsome
  have hsame : requestData (kwargs.without ds) = requestData kwargs :=
    requestData_congr fun k hk => if_neg (hkept (by revert hk; cases k <;> decide))
  have hsent' := hprepares'.noBody hnone (hsame ▸ hdata)
  rw [hbody, hsent, hsent'] at hbody'
  exact hdumps _ _ htext (Value.str.inj hbody')

theorem auth_of_same {d'' : Headers} (hds : ds ⊆ [.json, .auth]) (hauth : .auth ∈ ds)
    (hp : exec (prepareRequest env closed boundary method url kwargs) d = (.ok p, d'))
    (hq : exec (prepareRequest env closed boundary method url (kwargs.without ds)) d =
      (.ok p, d'')) :
    (kwargs.arg .auth).isNone ∨ ∃ c, authorization env (kwargs.arg .auth) = .ok c ∧
      ((kwargs.contents d).get? "Authorization").or
        ((kwargs.profile env).bind (·.header env "Authorization")) = some (.str c) := by
  obtain ⟨json, kwargs', t, -, hpasses, hprepares, -, -, hheader⟩ := exists_prepares hp
  obtain ⟨json', kwargs'', t', -, -, hprepares', -, -, hheader'⟩ := exists_prepares hq
  rw [or_iff_not_imp_left, Bool.not_eq_true]
  intro hsome
  obtain ⟨c, hc⟩ := hpasses hsome
  have hprofile : (kwargs.without ds).profile env = kwargs.profile env :=
    congrArg (fun v => (findProfile env v).toOption)
      (arg_without fun h => absurd (hds h) (by decide))
  have hsent : headerOf p "Authorization" = some (.str c) := by
    rw [hheader, hprepares.header _ (by decide) (by decide), get?_withProfile, withAuth, hc]
    change (((kwargs.contents d).set _ _).get? _).or _ = _
    rw [Dict.get?_set, Function.update_self, Option.some_or]
  rw [hheader', hprepares'.header _ (by decide) (by decide), get?_withProfile, hprofile,
    arg_without_of_mem hauth, get?_withAuth (.inl rfl)] at hsent
  exact ⟨c, hc, hsent⟩

/-- Without the credentials the same is sent where the headers have them anyway. -/
theorem exec_withoutAuth {c : String} (hc : authorization env (kwargs.arg .auth) = .ok c)
    (hsame : ((kwargs.contents d).get? "Authorization").or
      ((kwargs.profile env).bind (·.header env "Authorization")) = some (.str c)) :
    (exec (prepareRequest env closed boundary method url kwargs.withoutAuth) d).1 =
      (exec (prepareRequest env closed boundary method url kwargs) d).1 := by
  have htake : takeJson kwargs.withoutAuth = takeJson kwargs :=
    takeJson_adjust (unseen_withoutAuth (by decide)).unread
  have happly : applyAuth env kwargs.withoutAuth = pure kwargs.withoutAuth :=
    if_pos (congrArg Value.isNone (arg_without_of_mem (by decide)))
  rw [prepareRequest_eq, prepareRequest_eq, htake]
  cases closed with
  | true => rfl
  | false =>
    simp only [Bool.false_eq_true, if_false, happly, pure_bind, finish_withoutAuth]
    rw [exec_bind, exec_bind, exec_lift]
    cases takeJson kwargs with
    | error e => rfl
    | ok json => exact (exec_finish hc hsame).symm

end Dropped

/-- What is dropped is not missed if it is not given. -/
theorem prepareRequest_without {ds : List Keyword} (hds : ds ⊆ parameters)
    (h : ∀ k ∈ ds, (kwargs.arg k).isNone) :
    prepareRequest env closed boundary method url (kwargs.without ds) =
      prepareRequest env closed boundary method url kwargs := by
  refine prepareRequest_congr rfl rfl (fun k _ => ?_) fun k hk => if_neg fun hmem => hk (hds hmem)
  by_cases hmem : k ∈ ds
  · have hnone := h k hmem
    rw [arg_without_of_mem hmem]
    revert hnone
    cases kwargs.arg k <;> simp [Value.isNone]
  · exact arg_without hmem

theorem prepareRequest_dropped (h : m.takesJson → (kwargs.arg .json).isNone) :
    prepareRequest env closed boundary method url (kwargs.without m.dropped) =
      prepareRequest env closed boundary method url kwargs.withoutAuth := by
  rw [AsyncMethod.dropped]
  split_ifs with htakes
  · have hwithout : kwargs.without [.json, .auth] = kwargs.withoutAuth.without [.json] := by
      rw [Kwargs.withoutAuth, Kwargs.without, Kwargs.without, Kwargs.without, Kwargs.adjust,
        Kwargs.adjust, Kwargs.adjust, Kwargs.mk.injEq]
      refine ⟨rfl, funext fun k => ?_, rfl⟩
      cases k <;> rfl
    rw [hwithout]
    refine prepareRequest_without (by decide) fun k hk => ?_
    rw [List.mem_singleton.1 hk, Kwargs.withoutAuth, arg_without (by decide)]
    exact h htakes
  · rfl

theorem undropped_replace :
    m.Undropped env (kwargs.replace fun _ => none) d ↔ m.Undropped env kwargs d := by
  have harg {k : Keyword} (hk : k ∉ swallowed) :
      (kwargs.replace fun _ => none).arg k = kwargs.arg k :=
    congrArg (Option.getD · Value.none) (Kwargs.options_replace kwargs hk)
  have hcontents : (kwargs.replace fun _ => none).contents d = kwargs.contents d := rfl
  have hprofile : (kwargs.replace fun _ => none).profile env = kwargs.profile env :=
    congrArg (fun v => (findProfile env v).toOption) (harg (by decide))
  constructor
  · rintro ⟨hjson, hauth⟩
    rw [harg (by decide)] at hjson
    rw [harg (by decide), hcontents, hprofile] at hauth
    exact ⟨hjson, hauth⟩
  · rintro ⟨hjson, hauth⟩
    rw [← harg (k := .json) (by decide)] at hjson
    rw [← harg (k := .auth) (by decide), ← hcontents, ← hprofile] at hauth
    exact ⟨hjson, hauth⟩

theorem sendsSame_iff (hdumps : ∀ v text, env.dumps v = .ok text → text ≠ "")
    (hp : exec (m.ofCycleTLS env closed boundary url kwargs) d = (.ok p, d')) :
    (exec (m.ofAsyncCycleTLS env closed boundary url kwargs) d).1 = .ok p ↔
      m.Undropped env kwargs d := by
  rw [ofCycleTLS_eq, arequest] at hp
  rw [ofAsyncCycleTLS_eq, arequest, replace_without, ← undropped_replace]
  generalize kwargs.replace (fun _ => none) = kwargs at hp ⊢
  constructor
  · intro hq
    obtain ⟨d'', hq⟩ := exists_exec_of_fst hq
    have hds : m.dropped ⊆ [.json, .auth] := by
      rw [AsyncMethod.dropped]
      split_ifs <;> decide
    have hauth : .auth ∈ m.dropped := by
      rw [AsyncMethod.dropped]
      split_ifs <;> decide
    refine ⟨fun htakes => ?_, auth_of_same hds hauth hp hq⟩
    have hjson : .json ∈ m.dropped := by
      rw [AsyncMethod.dropped, if_pos htakes]
      decide
    exact isNone_json hdumps hds hjson hp hq
  · rintro ⟨hjson, hauth⟩
    rw [prepareRequest_dropped hjson]
    rcases hauth with hnone | ⟨c, hc, hsame⟩
    · have hkept : ∀ k ∈ [Keyword.auth], (kwargs.arg k).isNone := fun k hk => by
        rw [List.mem_singleton.1 hk]
        exact hnone
      rw [Kwargs.withoutAuth, prepareRequest_without (by decide) hkept, hp]
    · exact (exec_withoutAuth hc hsame).trans (congrArg Prod.fst hp)

/-- Encodings of `{}` and of `u:p`. -/
def PyEnv.encoding : PyEnv :=
  { PyEnv.plain with dumps := fun _ => .ok "{}", b64encode := fun _ => "dTpw" }

/-- Credentials that the headers have as well. -/
def doubledAuth : Kwargs HeaderDict :=
  Kwargs.set { headers := some (some (.own (Dict.empty.set "Authorization" (.str "Basic dTpw")))) }
    .auth (.tuple [.str "u", .str "p"])

theorem sendsSame_doubledAuth : ∃ p,
    (exec (AsyncMethod.get.ofCycleTLS .encoding false "" "https://h/" doubledAuth) .empty).1 =
      .ok p ∧
    (exec (AsyncMethod.get.ofAsyncCycleTLS .encoding false "" "https://h/" doubledAuth) .empty).1 =
      .ok p := by
  obtain ⟨p, d', hp⟩ : ∃ p d', exec (AsyncMethod.get.ofCycleTLS .encoding false "" "https://h/"
      doubledAuth) .empty = (.ok p, d') := ⟨_, _, rfl⟩
  have hdumps (v : Value) (text : String) (htext : PyEnv.encoding.dumps v = .ok text) :
      text ≠ "" := by
    cases htext
    decide
  exact ⟨p, congrArg Prod.fst hp, (sendsSame_iff hdumps hp).2 ⟨nofun, .inr ⟨_, rfl, rfl⟩⟩⟩

/-- Credentials are given. -/
theorem not_forall_sendsSame : ¬∀ (env : PyEnv) (closed : Bool) (boundary url : String)
    (kwargs : Kwargs HeaderDict) (m : AsyncMethod) (d d' : Headers) (p : OptionsDict),
    exec (m.ofCycleTLS env closed boundary url kwargs) d = (.ok p, d') →
      (exec (m.ofAsyncCycleTLS env closed boundary url kwargs) d).1 = .ok p := by
  intro h
  let kwargs : Kwargs HeaderDict := Kwargs.set {} .auth (.tuple [.str "u", .str "p"])
  have hsame := h .encoding false "" "https://h/" kwargs .get .empty _ _ rfl
  have hheader : (none : Option Value) = some (.str "Basic dTpw") :=
    congrArg (fun r => r.toOption.bind (headerOf · "Authorization")) hsame
  cases hheader

end CycleTLS
