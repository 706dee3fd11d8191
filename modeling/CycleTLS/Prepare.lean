import CycleTLS.Fingerprint
import CycleTLS.Request

/-!
# The preparation of a request (`_prepare_request`)

The keyword arguments of a request are brought to those of a `Request`, step by
step: the credentials and the profile are applied, the user agent is taken out of
the headers, the query is attached to the URL, the body is encoded, and the cookies
are converted. The options for Go are those of the `Request`.

The dict that is given for the headers is changed on the way (`HeaderDict.given`),
also when an exception is raised afterwards.
-/

namespace CycleTLS

variable (env : PyEnv)

/-! ## The URL -/

/-- Unpacks a value into two. -/
def unpackPair (v : Value) : Except Raised (Value × Value) := do
  match ← iterItems v with
  | [key, value] => return (key, value)
  | _ => throw .library

/-- The pairs of a mapping or a sequence of pairs. -/
def paramPairs : Value → Except Raised (List (Value × Value))
  | .dict items => .ok (items.map fun e => (.str e.1, e.2))
  | v => do (← iterItems v).mapM unpackPair

/-- `iter_params`, on one parameter: a sequence gives a pair for each of its items, and
    `None` gives nothing. -/
def iterParams (e : Value × Value) : List (String × String) :=
  let items := match e.2 with
    | .list items | .tuple items => items
    | v => [v]
  (items.filter fun v => !v.isNone).map fun v => (env.format e.1, env.format v)

/-- `_merge_url_params`. -/
def mergeURLParams (url : String) (params : Value) : Except Raised String := do
  if !params.truthy then return url
  let (query, unsplit) ← env.urlsplit url
  let pairs ← paramPairs params
  let combined := env.parseQsl query ++ pairs.flatMap (iterParams env)
  return unsplit (env.urlencode (combined.map fun e => (e.1, .str e.2)))

/-! ## Multipart bodies -/

/-- The file name, the file and the content type of a file that is uploaded. -/
def fileInfo (fieldName : String) : Value → Except Raised (Value × Value × Value)
  | .tuple [filename, file] => .ok (filename, file, .none)
  | .tuple [filename, file, contentType] => .ok (filename, file, contentType)
  | .tuple _ =>
    .error (.valueError ("Invalid file info format for field '" ++ fieldName ++ "'"))
  | .file name data => .ok (.str (name.getD fieldName), .file name data, .none)
  | v => .ok (.str fieldName, v, .none)

/-- The content type of a file, guessed from its name if none is given. -/
def fileType (filename contentType : Value) : Except Raised Value :=
  match contentType, filename with
  | .none, .str name => .ok (.str ((env.guessType name).getD "application/octet-stream"))
  | .none, _ => .error .typeError
  | v, _ => .ok v

/-- The contents of a file. -/
def fileData : Value → Except Raised Bytes
  | .file _ (.bytes b) | .bytes b => .ok b
  | .file _ (.text s) | .str s => .ok (Utf8.utf8 s)
  | _ => .error .typeError

/-- A part of a multipart body that is a form field. -/
def fieldPart (boundary : String) (e : String × Value) : Bytes :=
  Utf8.utf8 ("--" ++ boundary ++ "\r\nContent-Disposition: form-data; name=\"" ++ e.1 ++
    "\"\r\n\r\n" ++ env.format e.2 ++ "\r\n")

/-- A part of a multipart body that is a file. -/
def filePart (boundary : String) (e : String × Value) : Except Raised Bytes := do
  let (filename, file, contentType) ← fileInfo e.1 e.2
  let contentType ← fileType env filename contentType
  let data ← fileData file
  return Utf8.utf8 ("--" ++ boundary ++ "\r\nContent-Disposition: form-data; name=\"" ++ e.1 ++
    "\"; filename=\"" ++ env.format filename ++ "\"\r\nContent-Type: " ++
    env.format contentType ++ "\r\n\r\n") ++ data ++ Utf8.utf8 "\r\n"

/-- `_encode_multipart_formdata`: the body and its content type. -/
def encodeMultipartFormdata (boundary : String) (fields : List (String × Value))
    (files : Value) : Except Raised (Bytes × String) := do
  let parts ← match files with
    | .dict items => items.mapM (filePart env boundary)
    | v => if v.truthy then .error .attributeError else .ok []
  return (fields.flatMap (fieldPart env boundary) ++ parts.flatten ++
    Utf8.utf8 ("--" ++ boundary ++ "--\r\n"), "multipart/form-data; boundary=" ++ boundary)

/-! ## Headers -/

/-- The two items of the credentials. -/
def authParts : Value → Except Raised (Value × Value)
  | .tuple (user :: password :: _) | .list (user :: password :: _) => .ok (user, password)
  | .tuple _ | .list _ => .error .indexError
  | .str s =>
    match s.toList with
    | user :: password :: _ => .ok (.str (String.singleton user), .str (String.singleton password))
    | _ => .error .indexError
  | _ => .error .typeError

/-- The `Authorization` header for credentials. -/
def authorization (auth : Value) : Except Raised String := do
  let (user, password) ← authParts auth
  return "Basic " ++
    env.b64encode (Utf8.utf8 (env.format user ++ ":" ++ env.format password))

/-- Sets the `Authorization` header in the headers of the request. -/
def applyAuth (kwargs : Kwargs HeaderDict) : PyM (Kwargs HeaderDict) :=
  if (kwargs.arg .auth).isNone then return kwargs
  else do
    let credentials ← authorization env (kwargs.arg .auth)
    let (headers, _) ← kwargs.headersOr
    let headers ← headers.update (·.set "Authorization" (.str credentials))
    return kwargs.setHeaders headers

/-- `FingerprintRegistry.get`, for a name. -/
def findProfile : Value → Except Raised TLSFingerprint
  | .fingerprint profile => .ok profile
  | .str name =>
    match env.profiles.find? fun p => p.name = name with
    | some profile => .ok profile
    | none =>
      .error (.keyError ("Fingerprint profile '" ++ name ++ "' not found. Available: " ++
        env.format (.list (env.profiles.map fun p => .str p.name))))
  | _ => .error .attributeError

/-- Applies the profile, if one is given. -/
def applyFingerprint (kwargs : Kwargs HeaderDict) : PyM (Kwargs HeaderDict) :=
  if (kwargs.arg .fingerprint).isNone then return kwargs
  else do
    let profile ← findProfile env (kwargs.arg .fingerprint)
    profile.applyToKwargs env kwargs

/-- The first header that is named `user-agent` in any case. -/
def findUserAgent (d : Headers) : Option (String × Value) :=
  d.entries.find? fun e => lower e.1.toList = "user-agent".toList

/-- Takes the user agent out of the headers. -/
def takeUserAgent (kwargs : Kwargs HeaderDict) (headers : HeaderDict) :
    PyM (Kwargs HeaderDict × HeaderDict) := do
  match findUserAgent (← headers.read) with
  | none => return (kwargs, headers)
  | some (key, value) =>
    let headers ← headers.update (·.erase key)
    return (kwargs.set .userAgent value, headers)

/-- Puts the headers in the arguments, if there are any. -/
def storeHeaders (kwargs : Kwargs HeaderDict) (headers : HeaderDict) (shared : Bool) :
    PyM (Kwargs HeaderDict) := do
  let d ← headers.read
  -- The dict of the arguments stays there when nothing is left in it.
  return if shared || !d.isEmpty then kwargs.setHeaders headers else kwargs

/-! ## The body -/

/-- Takes the data from a parameter that is deprecated. -/
def takeData (k : Keyword) (data : Value) (kwargs : Kwargs HeaderDict) :
    Value × Kwargs HeaderDict :=
  if data.isNone then
    match kwargs.options k with
    | some v => (v, kwargs.erase k)
    | none => (data, kwargs)
  else (data, kwargs)

/-- The JSON data, which has two names. -/
def takeJson (kwargs : Kwargs HeaderDict) : Except Raised Value :=
  if (kwargs.arg .json).isNone then .ok (kwargs.arg .jsonData)
  else if (kwargs.arg .jsonData).isNone then .ok (kwargs.arg .json)
  else .error (.valueError "Cannot specify both 'json' and 'json_data' parameters")

/-- Encodes JSON or form data: the arguments with the body, and the headers with its
    content type. -/
def encodeBody (json data : Value) (kwargs : Kwargs HeaderDict) (headers : HeaderDict) :
    PyM (Kwargs HeaderDict × HeaderDict) :=
  if !json.isNone then
    if !data.isNone then
      throw (.valueError "Cannot specify both 'data' and 'json_data' parameters")
    else do
      let body ← env.dumps json
      let headers ← headers.update (·.set "Content-Type" (.str "application/json"))
      return (kwargs.set .body (.str body), headers)
  else
    match data with
    | .none => return (kwargs, headers)
    | .dict items => do
      let headers ← headers.update
        (·.setDefault "Content-Type" (.str "application/x-www-form-urlencoded"))
      return (kwargs.set .body (.str (env.urlencode items)), headers)
    | .bytes b => return (kwargs.set .bodyBytes (.bytes b), headers)
    | v => return (kwargs.set .body (.str (env.format v)), headers)

/-- The fields of a form. -/
def formFields : Value → List (String × Value)
  | .dict items => items
  | _ => []

/-- Encodes the files that are uploaded. -/
def encodeFiles (boundary : String) (data : Value) (kwargs : Kwargs HeaderDict)
    (headers : HeaderDict) : PyM (Kwargs HeaderDict × HeaderDict) :=
  if (kwargs.arg .files).isNone then return (kwargs, headers)
  else do
    let (body, contentType) ←
      encodeMultipartFormdata env boundary (formFields data) (kwargs.arg .files)
    let headers ← headers.update (·.set "Content-Type" (.str contentType))
    return (kwargs.set .bodyBytes (.bytes body), headers)

/-! ## Cookies -/

/-- A `Cookie` of a dict in a list of cookies; other items are kept. -/
def toCookie : Value → Value
  | .dict c =>
    .cookie ((c.lookup "name").getD (.str "")) ((c.lookup "value").getD (.str ""))
      (Value.get c "path") (Value.get c "domain") .none
      ((Value.get c "max_age").or (Value.get c "maxAge"))
      ((c.lookup "secure").getD (.bool false))
      ((Value.get c "http_only").or ((c.lookup "httpOnly").getD (.bool false)))
      ((Value.get c "same_site").or (Value.get c "sameSite"))
  | v => v

/-- Cookies as a list: of the items of a dict, of those of a list, or of a jar. -/
def convertRequestCookies : Value → Value
  | .dict items =>
    .list (items.map fun e => .cookie (.str e.1) (.str (env.format e.2)) .none .none .none .none
      (.bool false) (.bool false) .none)
  | .list items => .list (items.map toCookie)
  | .jar cookies => .list cookies
  | v => v

/-- The arguments with their cookies converted. -/
def convertKwargsCookies (kwargs : Kwargs HeaderDict) : Kwargs HeaderDict :=
  match kwargs.options .cookies with
  | some v => kwargs.set .cookies (convertRequestCookies env v)
  | none => kwargs

/-! ## The request -/

/-- The value of the headers: `Request` makes an empty dict if they are missing. -/
def headersValue (kwargs : Kwargs HeaderDict) : PyM Value :=
  match kwargs.headers with
  | none => return .dict []
  | some none => return .none
  | some (some dict) => return .dict (← dict.read).entries

/-- What `_prepare_request` does between the profile and the `Request`. -/
def normalizeRest (boundary url : String) (json : Value) (kwargs : Kwargs HeaderDict) :
    PyM (String × Kwargs HeaderDict) := do
  let (data, kwargs) := takeData .body (kwargs.arg .data) kwargs
  let (data, kwargs) := takeData .bodyBytes data kwargs
  let (headers, shared) ← kwargs.headersOr
  let (kwargs, headers) ← takeUserAgent kwargs headers
  let url ← mergeURLParams env url (kwargs.arg .params)
  let (kwargs, headers) ← encodeBody env json data kwargs headers
  let (kwargs, headers) ← encodeFiles env boundary data kwargs headers
  let kwargs ← storeHeaders kwargs headers shared
  return (url, convertKwargsCookies env kwargs)

/-- What `_prepare_request` does before it makes the `Request`: its URL and arguments. -/
def normalize (boundary url : String) (kwargs : Kwargs HeaderDict) :
    PyM (String × Kwargs HeaderDict) := do
  let json ← takeJson kwargs
  let kwargs ← applyAuth env kwargs
  let kwargs ← applyFingerprint env kwargs
  normalizeRest env boundary url json kwargs

/-- `_prepare_request`, for the boundary that it draws: the options in the payload. -/
def prepareRequest (closed : Bool) (boundary method url : String) (kwargs : Kwargs HeaderDict) :
    PyM OptionsDict := do
  if closed then throw (.cycleTLSError "CycleTLS client is closed")
  let (url, kwargs) ← normalize env boundary url kwargs
  let request ← Request.new method url (← headersValue kwargs) kwargs
  request.toDict env

end CycleTLS
