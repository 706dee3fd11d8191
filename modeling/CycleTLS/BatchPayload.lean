import CycleTLS.AsyncRequest

/-!
# Requests in a batch (`_build_batch_payload`)

A batch has an option builder of its own, which takes some of the keywords of a
request (`batchKeywords`) and passes over all others (`buildBatchPayload_set`). The
options that it leaves out, the ones for a single request always have, so the two are
never the same (`not_sameOptions`).
-/

namespace CycleTLS

open Raising

variable (env : PyEnv)

/-- The JA3 of a batched request that is given none. -/
def batchJA3 : String :=
  "771,4865-4866-4867-49195-49199-49196-49200-52393-52392-49171-49172-" ++
    "156-157-47-53,65037-5-65281-16-45-10-13-0-18-23-35-43-11-27-51-17613," ++
    "4588-29-23-24,0"

/-- The body of a batched request: the text, the bytes and the headers with its content
    type. -/
def batchBody (json data : Value) (headers : Headers) :
    Except Raised (Option String × Option Bytes × Headers) :=
  if !json.isNone then
    if !data.isNone then
      .error (.valueError "Cannot specify both 'data' and 'json_data' in batch request")
    else do
      let body ← env.dumps json
      return (some body, none, headers.set "Content-Type" (.str "application/json"))
  else
    match data with
    | .none => .ok (none, none, headers)
    | .dict items =>
      .ok (some (env.urlencode items), none,
        headers.setDefault "Content-Type" (.str "application/x-www-form-urlencoded"))
    | .bytes b => .ok (none, some b, headers)
    | v => .ok (some (env.format v), none, headers)

/-- `_build_batch_payload`, to the options; the headers are a copy. -/
def buildBatchPayload (url method : Option String) (kwargs : Kwargs HeaderDict) :
    PyM OptionsDict := do
  let (headers, _) ← kwargs.headersOr
  let headers ← headers.read
  let url ← mergeURLParams env (url.getD "") (kwargs.arg .params)
  let (body, bodyBytes, headers) ←
    batchBody env (kwargs.arg .jsonData) (kwargs.arg .data) headers
  let headerValues ← headerValueLists (kwargs.arg .headerValues)
  return [
    ("url", .str url),
    ("method", .str (method.getD "GET")),
    ("headers", .dict headers.entries),
    ("body", .str (body.getD "")),
    ("ja3", (kwargs.options .ja3).getD (.str batchJA3)),
    ("userAgent", (kwargs.options .userAgent).getD (.str defaultUserAgent)),
    ("timeout", (kwargs.options .timeout).getD (.int 30)),
    ("proxy", (kwargs.options .proxy).getD (.str "")),
    ("disableRedirect", (kwargs.options .disableRedirect).getD (.bool false)),
    ("insecureSkipVerify", (kwargs.options .insecureSkipVerify).getD (.bool false))] ++
    entry "bodyBytes" ((bodyBytes.map .bytes).getD .none) ++ entry "headerValues" headerValues

/-- The options of a request dict that is sent alone, `request(**req)`: the URL and the
    method are required. -/
def prepareDict (closed : Bool) (boundary : String) (url method : Option String)
    (kwargs : Kwargs HeaderDict) : PyM OptionsDict :=
  match url, method with
  | some url, some method => prepareRequest env closed boundary method url kwargs
  | _, _ => throw .typeError

/-! ## What is dropped -/

/-- The keywords that the builder reads, besides the headers. -/
def batchKeywords : List Keyword :=
  [.params, .data, .jsonData, .ja3, .userAgent, .timeout, .proxy, .disableRedirect,
    .insecureSkipVerify, .headerValues]

/-- Any other option is dropped: it is neither in the payload nor refused. -/
theorem buildBatchPayload_set (url method : Option String) (kwargs : Kwargs HeaderDict)
    {k : Keyword} (hk : k ∉ batchKeywords) (v : Value) :
    buildBatchPayload env url method (kwargs.set k v) =
      buildBatchPayload env url method kwargs := by
  have hoptions : ∀ k' ∈ batchKeywords, (kwargs.set k v).options k' = kwargs.options k' :=
    fun k' hk' => Function.update_of_ne (fun h : k' = k => hk (h ▸ hk')) _ _
  have harg : ∀ k' ∈ batchKeywords, (kwargs.set k v).arg k' = kwargs.arg k' := fun k' hk' =>
    congrArg (Option.getD · Value.none) (hoptions k' hk')
  have hheaders : (kwargs.set k v).headersOr = kwargs.headersOr := rfl
  rw [buildBatchPayload, buildBatchPayload, hheaders, harg .params (by decide),
    harg .jsonData (by decide), harg .data (by decide), harg .headerValues (by decide),
    hoptions .ja3 (by decide), hoptions .userAgent (by decide), hoptions .timeout (by decide),
    hoptions .proxy (by decide), hoptions .disableRedirect (by decide),
    hoptions .insecureSkipVerify (by decide)]

/-- So is any name that is no option at all. -/
theorem buildBatchPayload_unknown (url method : Option String) (kwargs : Kwargs HeaderDict)
    (names : List String) : buildBatchPayload env url method { kwargs with unknown := names } =
      buildBatchPayload env url method kwargs := rfl

/-! ## The payloads -/

variable {env} {closed : Bool} {boundary : String} {url method : Option String}
  {kwargs : Kwargs HeaderDict} {p q : OptionsDict} {d d' d'' : Headers}

theorem lookup_buildBatchPayload
    (h : exec (buildBatchPayload env url method kwargs) d = (.ok p, d')) :
    p.lookup "enableConnectionReuse" = none := by
  rw [buildBatchPayload] at h
  obtain ⟨⟨headers, shared⟩, t, -, h⟩ := exec_bind_eq_ok_iff.1 h
  obtain ⟨copy, t', -, h⟩ := exec_bind_eq_ok_iff.1 h
  obtain ⟨u, t'', -, h⟩ := exec_bind_eq_ok_iff.1 h
  obtain ⟨⟨body, bodyBytes, headers'⟩, t₃, -, h⟩ := exec_bind_eq_ok_iff.1 h
  obtain ⟨headerValues, t₄, -, h⟩ := exec_bind_eq_ok_iff.1 h
  cases h
  simp [List.lookup_cons, List.lookup_append, lookup_entry_of_ne]

theorem lookup_prepareDict
    (h : exec (prepareDict env closed boundary url method kwargs) d = (.ok p, d')) :
    (p.lookup "enableConnectionReuse").isSome := by
  cases url with
  | none => cases h
  | some url =>
    cases method with
    | none => cases h
    | some method =>
      obtain ⟨u, kwargs', t, headers, r, -, -, -, hr⟩ := exists_request_of_ok h
      obtain ⟨n, protocol, cookies, headerValues, -, rfl⟩ := Request.toDict_eq_ok hr
      rw [Request.lookup_options.2]
      rfl

/-- The options of a request in a batch are never those of the same request alone. -/
theorem not_sameOptions
    (hp : exec (prepareDict env closed boundary url method kwargs) d = (.ok p, d'))
    (hq : exec (buildBatchPayload env url method kwargs) d = (.ok q, d'')) : ¬SameOptions p q := by
  intro hsame
  have hsome := lookup_prepareDict hp
  rw [hsame, lookup_buildBatchPayload hq] at hsome
  cases hsome

/-- `{"url": "https://h/", "method": "GET"}`. -/
theorem not_sameOptions_plain : ∃ p q,
    exec (prepareDict .plain false "" (some "https://h/") (some "GET") {}) .empty =
      (.ok p, .empty) ∧
    exec (buildBatchPayload .plain (some "https://h/") (some "GET") {}) .empty =
      (.ok q, .empty) ∧ ¬SameOptions p q := by
  obtain ⟨p, hp⟩ : ∃ p, exec (prepareDict .plain false "" (some "https://h/") (some "GET") {})
      .empty = (.ok p, .empty) := ⟨_, rfl⟩
  obtain ⟨q, hq⟩ : ∃ q, exec (buildBatchPayload .plain (some "https://h/") (some "GET") {})
      .empty = (.ok q, .empty) := ⟨_, rfl⟩
  exact ⟨p, q, hp, hq, not_sameOptions hp hq⟩

theorem not_forall_batch_sameOptions : ¬∀ (env : PyEnv) (closed : Bool) (boundary : String)
    (url method : Option String) (kwargs : Kwargs HeaderDict) (d d' d'' : Headers)
    (p q : OptionsDict),
    exec (prepareDict env closed boundary url method kwargs) d = (.ok p, d') →
    exec (buildBatchPayload env url method kwargs) d = (.ok q, d'') → SameOptions p q := by
  intro h
  obtain ⟨p, hp⟩ : ∃ p, exec (prepareDict .plain false "" (some "https://h/") (some "GET") {})
      .empty = (.ok p, .empty) := ⟨_, rfl⟩
  obtain ⟨q, hq⟩ : ∃ q, exec (buildBatchPayload .plain (some "https://h/") (some "GET") {})
      .empty = (.ok q, .empty) := ⟨_, rfl⟩
  have hsome := lookup_prepareDict hp
  rw [h _ _ _ _ _ _ _ _ _ p q hp hq, lookup_buildBatchPayload hq] at hsome
  cases hsome

end CycleTLS
