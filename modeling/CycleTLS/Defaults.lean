import CycleTLS.HeaderWrites

/-!
# Defaults (`_config.py`)

The functions of the package merge the keyword arguments of a request with defaults,
which `set_default` and `reset_defaults` set. The merge copies no values: a request
that has no headers of its own is given the dict of the defaults, and what
`_prepare_request` writes to that is found there by every later request.

Requests leave the defaults as they are in the runs in which each of them is `Quiet`
on a dict that is one of the defaults, then or later, and in which `set_default` raises
no exception after it has changed a default that is in the cache
(`undisturbed_of_quietRun`).
-/

namespace CycleTLS

open Raising

/-- A dict of headers, as an object. -/
abbrev Ref := Nat

/-- The keywords that have defaults (`_CONFIG_TO_PARAM_MAPPING`), but for the headers. -/
def configurable : List Keyword :=
  [.ja3, .ja4r, .http2Fingerprint, .quicFingerprint, .disableGrease, .userAgent, .proxy,
    .localAddress, .timeout, .enableConnectionReuse, .insecureSkipVerify, .serverName,
    .forceHTTP1, .forceHTTP3, .protocol, .disableRedirect, .headerOrder,
    .orderHeadersAsProvided]

namespace Value

def isBool : Value → Bool
  | bool _ => true
  | _ => false

def isStr : Value → Bool
  | str _ => true
  | _ => false

def isList : Value → Bool
  | list _ => true
  | _ => false

/-- Whether a value is a number above zero. -/
def isPositive : Value → Bool
  | bool b => b
  | int n => 0 < n
  | float (.finite x) => 0 < x
  | float .inf => true
  | _ => false

end Value

/-- The check of `_validate_config` for a default; there is none for the protocol. -/
def isValid : Keyword → Value → Bool
  | .timeout, v => v.isPositive
  | .enableConnectionReuse, v | .insecureSkipVerify, v | .forceHTTP1, v | .forceHTTP3, v
  | .disableRedirect, v | .disableGrease, v | .orderHeadersAsProvided, v => v.isBool
  | .proxy, v | .localAddress, v | .ja3, v | .ja4r, v | .userAgent, v | .serverName, v
  | .http2Fingerprint, v | .quicFingerprint, v => v.isNone || v.isStr
  | .headerOrder, v => v.isNone || v.isList
  | _, _ => true

/-- A keyword argument of `set_default`. -/
inductive Setting
  | headers (dict : Option Ref)
  /-- Headers that are neither `None` nor a dict. -/
  | otherHeaders (v : Value)
  | option (k : Keyword) (v : Value)
  | unknown (name : String)

namespace Setting

/-- The exception that a setting raises. -/
def refusal (env : PyEnv) : Setting → Option Raised
  | headers _ => none
  | otherHeaders v =>
    some (.valueError ("Invalid value for default_headers: " ++ env.format v))
  | option k v =>
    if k ∉ configurable then some (.valueError ("Unknown configuration option: " ++ k.name))
    else if isValid k v then none
    else some (.valueError ("Invalid value for default_" ++ k.name ++ ": " ++ env.format v))
  | unknown name => some (.valueError ("Unknown configuration option: " ++ name))

/-- The configuration with a setting. -/
def apply (config : Kwargs Ref) : Setting → Kwargs Ref
  | headers dict => { config with headers := some dict }
  | option k v => config.set k v
  | _ => config

end Setting

variable (env : PyEnv)

/-- The loop of `set_default`: the configuration that it leaves, and how it ends. -/
def applySettings (config : Kwargs Ref) : List Setting → Kwargs Ref × Except Raised Unit
  | [] => (config, .ok ())
  | x :: xs =>
    match x.refusal env with
    | some e => (config, .error e)
    | none => applySettings (x.apply config) xs

/-- The state of the package: `_config`, `_merged_cache`, and the contents of the dicts. -/
structure Package where
  config : Kwargs Ref
  cache : Option (Kwargs Ref)
  heap : Ref → Headers

namespace Package

variable (s : Package)

/-- `set_default`. -/
def setDefault (settings : List Setting) : Package × Except Raised Unit :=
  match applySettings env s.config settings with
  | (config, .ok ()) => ({ s with config := config, cache := none }, .ok ())
  | (config, .error e) => ({ s with config := config }, .error e)

/-- `reset_defaults`. -/
def resetDefaults : Package := { s with config := {}, cache := none }

/-- The package when it has been imported. -/
def new (heap : Ref → Headers) : Package :=
  (setDefault env ⟨{}, none, heap⟩ [.option .enableConnectionReuse (.bool true)]).1

end Package

/-- Keyword arguments with the defaults for those that are not given. -/
def Kwargs.withDefaults (config kwargs : Kwargs Ref) : Kwargs Ref where
  headers := kwargs.headers.or config.headers
  options k := (kwargs.options k).or (if k ∈ configurable then config.options k else none)
  unknown := kwargs.unknown

/-- `_merge_defaults`. -/
def Package.mergeDefaults (s : Package) (kwargs : Kwargs Ref) : Package × Kwargs Ref :=
  if s.config.isEmpty then (s, kwargs)
  else if kwargs.isEmpty then
    match s.cache with
    | some merged => (s, merged)
    | none =>
      let merged := Kwargs.withDefaults s.config {}
      ({ s with cache := some merged }, merged)
  else (s, .withDefaults s.config kwargs)

/-- A call of a function of the package that sends a request. -/
structure PackageCall where
  /-- Whether it is one of the async functions. -/
  async : Bool
  /-- Whether the session is closed. -/
  closed : Bool
  /-- The boundary that is drawn for the files. -/
  boundary : String
  method : String
  url : String
  /-- The `data` and `json_data` of `post`, `put` and `patch`. -/
  body : Option (Value × Value)
  kwargs : Kwargs Ref

namespace PackageCall

variable (call : PackageCall)

/-- The arguments of the session's method. -/
def arguments (kwargs : Kwargs Ref) : Kwargs HeaderDict :=
  let kwargs := match call.body with
    | none => kwargs
    | some (data, jsonData) => (kwargs.set .data data).set .jsonData jsonData
  { headers := kwargs.headers.map (Option.map fun _ => .given)
    options := kwargs.options
    unknown := kwargs.unknown }

/-- The options in the payload of the session's method. -/
def send (kwargs : Kwargs Ref) : PyM OptionsDict :=
  if call.async then arequest env call.closed call.boundary call.method call.url
    (call.arguments kwargs)
  else request env call.closed call.boundary call.method call.url (call.arguments kwargs)

end PackageCall

namespace Package

variable (s : Package)

/-- The contents of the headers that are given. -/
def headersOf (kwargs : Kwargs Ref) : Headers :=
  match kwargs.headers with
  | some (some r) => s.heap r
  | _ => .empty

/-- The state with other contents of these. -/
def putHeaders (kwargs : Kwargs Ref) (d : Headers) : Package :=
  match kwargs.headers with
  | some (some r) => { s with heap := Function.update s.heap r d }
  | _ => s

/-- A function of the package that sends a request: the options in its payload. -/
def issue (call : PackageCall) : Package × Except Raised OptionsDict :=
  let (s, kwargs) := s.mergeDefaults call.kwargs
  let (result, d) := exec (call.send env kwargs) (s.headersOf kwargs)
  (s.putHeaders kwargs d, result)

end Package

/-- What is done with the package. -/
inductive PackageOp
  | setDefault (settings : List Setting)
  | resetDefaults
  | request (call : PackageCall)

namespace PackageOp

/-- The other operations than requests. -/
def isSetting : PackageOp → Bool
  | request _ => false
  | _ => true

end PackageOp

namespace Package

/-- The state after an operation. -/
def step (s : Package) : PackageOp → Package
  | .setDefault settings => (s.setDefault env settings).1
  | .resetDefaults => s.resetDefaults
  | .request call => (s.issue env call).1

/-- The state after a run. -/
def run (s : Package) (ops : List PackageOp) : Package := ops.foldl (step env) s

end Package

/-- The defaults in the state `s` are those in `s'`, so that a request with the same
    arguments has the same payload. -/
structure SameDefaults (s s' : Package) : Prop where
  config : s.config = s'.config
  cache : ∀ merged, s.cache = some merged → merged = .withDefaults s'.config {}
  headers : ∀ r, s'.config.headers = some (some r) → s.heap r = s'.heap r
  payload : ∀ call : PackageCall,
    (∀ r, call.kwargs.headers = some (some r) → s.heap r = s'.heap r) →
      (s.issue env call).2 = (s'.issue env call).2

/-! ## Quiet runs -/

/-- The settings of a call of `set_default` before the first that is refused. -/
def accepted (settings : List Setting) : List Setting :=
  settings.takeWhile fun x => (x.refusal env).isNone

/-- The default has the value already. -/
def Setting.IsSet (config : Kwargs Ref) : Setting → Prop
  | headers dict => config.headers = some dict
  | option k v => config.options k = some v
  | _ => True

/-- A dict is that of the defaults, or becomes it later. -/
def Shares (config : Kwargs Ref) (rest : List PackageOp) (r : Ref) : Prop :=
  config.headers = some (some r) ∨
    ∃ settings, .setDefault settings ∈ rest ∧ .headers (some r) ∈ accepted env settings

/-- An operation that keeps the defaults: a request is quiet on their dict, and a call of
    `set_default` is not refused after it has changed one that is in the cache. -/
def QuietStep (s : Package) (rest : List PackageOp) : PackageOp → Prop
  | .setDefault settings => s.cache = none ∨ (∀ x ∈ settings, x.refusal env = none) ∨
      ∀ x ∈ accepted env settings, x.IsSet s.config
  | .resetDefaults => True
  | .request call => call.closed = false → ∀ r,
      call.kwargs.headers.or s.config.headers = some (some r) → Shares env s.config rest r →
        Quiet env call.boundary call.url (call.arguments call.kwargs) (s.heap r)

/-- All operations of a run keep the defaults. -/
def QuietRun (s : Package) : List PackageOp → Prop
  | [] => True
  | op :: ops => QuietStep env s ops op ∧ QuietRun (s.step env op) ops

variable {env}

/-! ## The merge -/

theorem Kwargs.eq_of_isEmpty {kwargs : Kwargs Ref} (h : kwargs.isEmpty) : kwargs = {} := by
  rw [Kwargs.isEmpty, Bool.and_eq_true, Bool.and_eq_true, List.all_eq_true] at h
  obtain ⟨⟨hheaders, hunknown⟩, hoptions⟩ := h
  obtain ⟨headers, options, unknown⟩ := kwargs
  rw [Kwargs.mk.injEq]
  refine ⟨Option.isNone_iff_eq_none.1 hheaders, funext fun k => ?_, List.isEmpty_iff.1 hunknown⟩
  exact Option.isNone_iff_eq_none.1 (hoptions k k.mem_all)

theorem Kwargs.withDefaults_empty (kwargs : Kwargs Ref) : withDefaults {} kwargs = kwargs := by
  simp [withDefaults]

namespace Package

variable {s : Package}

/-- What is in the cache are the defaults. -/
def CacheMerged (s : Package) : Prop :=
  ∀ merged, s.cache = some merged → merged = .withDefaults s.config {}

/-- The merge gives the defaults for what is not given, and may fill the cache. -/
theorem mergeDefaults_eq (h : s.CacheMerged) (kwargs : Kwargs Ref) :
    ∃ cache, s.mergeDefaults kwargs =
        ({ s with cache := cache }, .withDefaults s.config kwargs) ∧
      CacheMerged { s with cache := cache } := by
  rw [mergeDefaults]
  split_ifs with hconfig hkwargs
  · have hmerged : Kwargs.withDefaults s.config kwargs = kwargs := by
      rw [Kwargs.eq_of_isEmpty hconfig, Kwargs.withDefaults_empty]
    exact ⟨s.cache, by rw [hmerged], h⟩
  · rw [Kwargs.eq_of_isEmpty hkwargs]
    cases hcache : s.cache with
    | some merged => exact ⟨s.cache, by rw [h merged hcache], h⟩
    | none => exact ⟨_, rfl, fun _ hmerged => (Option.some.inj hmerged).symm⟩
  · exact ⟨s.cache, rfl, h⟩

theorem config_putHeaders (kwargs : Kwargs Ref) (d : Headers) :
    (s.putHeaders kwargs d).config = s.config := by
  unfold putHeaders
  split <;> rfl

theorem cache_putHeaders (kwargs : Kwargs Ref) (d : Headers) :
    (s.putHeaders kwargs d).cache = s.cache := by
  unfold putHeaders
  split <;> rfl

/-- Only the contents of the dict that is given are changed. -/
theorem heap_putHeaders {kwargs : Kwargs Ref} {d : Headers} {r : Ref}
    (h : kwargs.headers = some (some r) → d = s.headersOf kwargs) :
    (s.putHeaders kwargs d).heap r = s.heap r := by
  rw [putHeaders]
  split
  · next r' hheaders =>
    by_cases hr : r = r'
    · subst hr
      refine (Function.update_self r d s.heap).trans ?_
      rw [h hheaders, headersOf, hheaders]
    · exact Function.update_of_ne hr _ _
  · rfl

/-! ## The steps -/

/-- A request changes at most the cache and the contents of its headers. -/
theorem issue_eq (env : PyEnv) (h : s.CacheMerged) (call : PackageCall) : ∃ cache,
    CacheMerged { s with cache := cache } ∧
      let kwargs := Kwargs.withDefaults s.config call.kwargs
      let sent := exec (call.send env kwargs) (s.headersOf kwargs)
      s.issue env call = (putHeaders { s with cache := cache } kwargs sent.2, sent.1) := by
  obtain ⟨cache, hmerge, hcache⟩ := mergeDefaults_eq h call.kwargs
  refine ⟨cache, hcache, ?_⟩
  rw [issue, hmerge]
  rfl

end Package

namespace PackageCall

variable {call : PackageCall}

theorem options_arguments {config kwargs : Kwargs Ref} {k : Keyword} (hk : k ∈ writeKeywords) :
    (call.arguments (.withDefaults config kwargs)).options k =
      (call.arguments kwargs).options k := by
  have hnot : k ∉ configurable := by revert hk; cases k <;> decide
  have hoptions : (Kwargs.withDefaults config kwargs).options k = kwargs.options k := by
    simp only [Kwargs.withDefaults, if_neg hnot, Option.or_none]
  unfold arguments
  split
  · exact hoptions
  · simp only [Kwargs.set, Function.update_apply, hoptions]

/-- A request that is quiet leaves the contents of the headers as they are. -/
theorem leaves_send {config : Kwargs Ref} {d : Headers} (h : call.closed = false →
      Quiet env call.boundary call.url (call.arguments call.kwargs) d) :
    (exec (call.send env (.withDefaults config call.kwargs)) d).2 = d := by
  have hquiet (hclosed : call.closed = false) : Quiet env call.boundary call.url
      (call.arguments (.withDefaults config call.kwargs)) d :=
    (h hclosed).congr fun _ hk => options_arguments hk
  rw [send]
  split_ifs
  · refine (leaves_prepareRequest fun hclosed _ => (hquiet hclosed).congr fun k hk => ?_).1
    exact Kwargs.options_replace _ (by revert hk; cases k <;> decide)
  · exact (leaves_prepareRequest fun hclosed _ => hquiet hclosed).1

end PackageCall

/-! ### Settings -/

section Settings

variable {config : Kwargs Ref} {settings : List Setting}

theorem fst_applySettings : (applySettings env config settings).1 =
    (accepted env settings).foldl Setting.apply config := by
  induction settings generalizing config with
  | nil => rfl
  | cons x xs ih =>
    rw [applySettings, accepted, List.takeWhile_cons]
    cases x.refusal env with
    | some e => rfl
    | none => exact ih

theorem snd_applySettings (h : ∀ x ∈ settings, x.refusal env = none) :
    (applySettings env config settings).2 = .ok () := by
  induction settings generalizing config with
  | nil => rfl
  | cons x xs ih =>
    rw [applySettings, h x List.mem_cons_self]
    exact ih fun x hx => h x (List.mem_cons_of_mem _ hx)

theorem Setting.apply_of_isSet {x : Setting} (h : x.IsSet config) : x.apply config = config := by
  cases x with
  | headers dict => rw [apply, ← h]
  | option k v =>
    rw [apply, Kwargs.set, ← show config.options k = some v from h, Function.update_eq_self]
  | otherHeaders v => rfl
  | unknown name => rfl

theorem foldl_apply_of_isSet (h : ∀ x ∈ settings, x.IsSet config) :
    settings.foldl Setting.apply config = config := by
  induction settings with
  | nil => rfl
  | cons x xs ih =>
    rw [List.foldl_cons, Setting.apply_of_isSet (h x List.mem_cons_self)]
    exact ih fun x hx => h x (List.mem_cons_of_mem _ hx)

/-- The settings before the first that is refused are made, and the cache stays if there
    is one. -/
theorem setDefault_eq (env : PyEnv) (s : Package) (settings : List Setting) : ∃ cache,
    (s.setDefault env settings).1 =
        { s with config := (accepted env settings).foldl Setting.apply s.config, cache := cache } ∧
      (cache = none ∨ cache = s.cache ∧ ¬∀ x ∈ settings, x.refusal env = none) := by
  rw [Package.setDefault, ← fst_applySettings]
  rcases happly : applySettings env s.config settings with ⟨config, _ | _⟩
  · refine ⟨s.cache, rfl, .inr ⟨rfl, fun h => ?_⟩⟩
    have hok : (applySettings env s.config settings).2 = .ok () := snd_applySettings h
    rw [happly] at hok
    cases hok
  · exact ⟨none, rfl, .inl rfl⟩

/-- The headers of the defaults are the old ones or have been set. -/
theorem headers_foldl_apply {r : Ref}
    (h : (settings.foldl Setting.apply config).headers = some (some r)) :
    config.headers = some (some r) ∨ .headers (some r) ∈ settings := by
  induction settings generalizing config with
  | nil => exact .inl h
  | cons x xs ih =>
    rw [List.foldl_cons] at h
    rcases ih h with hx | hmem
    · cases x with
      | headers dict =>
        rw [← Option.some.inj hx]
        exact .inr List.mem_cons_self
      | option k v => exact .inl hx
      | otherHeaders v => exact .inl hx
      | unknown name => exact .inl hx
    · exact .inr (List.mem_cons_of_mem _ hmem)

end Settings

/-! ### Runs -/

/-- States that agree on the defaults, and on the dicts that become theirs; the second
    one is that after settings alone. -/
structure Agree (env : PyEnv) (rest : List PackageOp) (s s' : Package) : Prop where
  config : s.config = s'.config
  cache : s.CacheMerged
  noCache : s'.cache = none
  heap : ∀ r, Shares env s.config rest r → s.heap r = s'.heap r

theorem Shares.cons {config : Kwargs Ref} {rest : List PackageOp} {r : Ref}
    (h : Shares env config rest r) (op : PackageOp) : Shares env config (op :: rest) r :=
  h.imp id fun ⟨settings, hmem, haccepted⟩ =>
    ⟨settings, List.mem_cons_of_mem _ hmem, haccepted⟩

namespace Agree

variable {s s' : Package} {rest : List PackageOp}

theorem setDefault {settings : List Setting} (h : Agree env (.setDefault settings :: rest) s s')
    (hq : QuietStep env s rest (.setDefault settings)) :
    Agree env rest (s.setDefault env settings).1 (s'.setDefault env settings).1 := by
  obtain ⟨cache, hs, hcache⟩ := setDefault_eq env s settings
  obtain ⟨cache', hs', hcache'⟩ := setDefault_eq env s' settings
  rw [hs, hs']
  refine ⟨by rw [h.config], ?_, ?_, fun r hr => h.heap r ?_⟩
  · -- The cache stays only where a setting is refused; then the defaults are the old ones.
    rcases hcache with rfl | ⟨rfl, hrefused⟩
    · exact fun _ hmerged => nomatch hmerged
    · rcases hq with hnone | haccepted | hset
      · exact fun _ hmerged => nomatch hnone.symm.trans hmerged
      · exact absurd haccepted hrefused
      · rw [foldl_apply_of_isSet hset]
        exact h.cache
  · rcases hcache' with rfl | ⟨rfl, -⟩
    · rfl
    · exact h.noCache
  · rcases hr with hr | ⟨settings', hmem, haccepted⟩
    · refine (headers_foldl_apply hr).imp id fun hmem => ⟨settings, List.mem_cons_self, hmem⟩
    · exact .inr ⟨settings', List.mem_cons_of_mem _ hmem, haccepted⟩

theorem resetDefaults (h : Agree env (.resetDefaults :: rest) s s') :
    Agree env rest s.resetDefaults s'.resetDefaults where
  config := rfl
  cache _ hmerged := nomatch hmerged
  noCache := rfl
  heap r hr := by
    refine h.heap r ?_
    rcases hr with hr | ⟨settings, hmem, haccepted⟩
    · cases hr
    · exact .inr ⟨settings, List.mem_cons_of_mem _ hmem, haccepted⟩

theorem request {call : PackageCall} (h : Agree env (.request call :: rest) s s')
    (hq : QuietStep env s rest (.request call)) : Agree env rest (s.issue env call).1 s' := by
  obtain ⟨cache, hcache, hissue⟩ := Package.issue_eq env h.cache call
  rw [hissue]
  refine ⟨?_, ?_, h.noCache, fun r hr => ?_⟩
  · rw [Package.config_putHeaders, h.config]
  · intro merged hmerged
    rw [Package.cache_putHeaders] at hmerged
    rw [Package.config_putHeaders]
    exact hcache merged hmerged
  · -- The contents of a dict that is shared change only if the request was given it.
    rw [Package.config_putHeaders] at hr
    refine (Package.heap_putHeaders fun hgiven => ?_).trans (h.heap r (hr.cons _))
    refine PackageCall.leaves_send fun hclosed => ?_
    have hheaders : (s.headersOf (.withDefaults s.config call.kwargs)) = s.heap r := by
      rw [Package.headersOf, hgiven]
    rw [hheaders]
    exact hq hclosed r hgiven hr

/-- States that agree have the same payloads for requests with the same headers. -/
theorem snd_issue (h : Agree env rest s s') {call : PackageCall}
    (hown : ∀ r, call.kwargs.headers = some (some r) → s.heap r = s'.heap r) :
    (s.issue env call).2 = (s'.issue env call).2 := by
  have hcache' : s'.CacheMerged := fun _ hmerged => nomatch h.noCache.symm.trans hmerged
  obtain ⟨cache, -, hissue⟩ := Package.issue_eq env h.cache call
  obtain ⟨cache', -, hissue'⟩ := Package.issue_eq env hcache' call
  rw [hissue, hissue', h.config]
  have hheaders : s.headersOf (.withDefaults s'.config call.kwargs) =
      s'.headersOf (.withDefaults s'.config call.kwargs) := by
    unfold Package.headersOf
    split
    · next r hr =>
      rcases Option.or_eq_some_iff.1 hr with hgiven | ⟨-, hdefault⟩
      · exact hown r hgiven
      · exact h.heap r (.inl (h.config ▸ hdefault))
    · rfl
  rw [hheaders]

theorem sameDefaults (h : Agree env rest s s') : SameDefaults env s s' where
  config := h.config
  cache := h.config ▸ h.cache
  headers r hr := h.heap r (.inl (h.config ▸ hr))
  payload _ hown := h.snd_issue hown

/-- Along a run that is quiet the states agree with those after the settings alone. -/
theorem run {pre rest : List PackageOp} (h : Agree env (pre ++ rest) s s')
    (hq : QuietRun env s (pre ++ rest)) :
    Agree env rest (s.run env pre) (s'.run env (pre.filter PackageOp.isSetting)) := by
  induction pre generalizing s s' with
  | nil => exact h
  | cons op pre ih =>
    obtain ⟨hstep, hrest⟩ := hq
    cases op with
    | setDefault settings => exact ih (h.setDefault hstep) hrest
    | resetDefaults => exact ih h.resetDefaults hrest
    | request call => exact ih (h.request hstep) hrest

end Agree

theorem agree_new (heap : Ref → Headers) (ops : List PackageOp) :
    Agree env ops (.new env heap) (.new env heap) :=
  ⟨rfl, fun _ h => (nomatch h), rfl, fun _ _ => rfl⟩

/-- In every state of a run that is quiet, the defaults are those that the settings alone
    would have produced. -/
theorem sameDefaults_of_quietRun {heap : Ref → Headers} {ops : List PackageOp}
    (h : QuietRun env (.new env heap) ops) {pre : List PackageOp} (hpre : pre <+: ops) :
    SameDefaults env ((Package.new env heap).run env pre)
      ((Package.new env heap).run env (pre.filter PackageOp.isSetting)) := by
  obtain ⟨rest, rfl⟩ := hpre
  exact ((agree_new heap _).run h).sameDefaults

/-- Libraries that encode the credentials `u:p`. -/
def PyEnv.basic : PyEnv := { PyEnv.plain with b64encode := fun _ => "dTpw" }

/-- `get`, on a session that is open. -/
def PackageCall.get (url : String) (kwargs : Kwargs Ref) : PackageCall where
  async := false
  closed := false
  boundary := ""
  method := "get"
  url := url
  body := none
  kwargs := kwargs

/-- Headers of defaults. -/
def someHeaders : Headers := Dict.empty.set "X" (.str "1")

theorem sameDefaults_of_quietRun_get :
    let ops := [.setDefault [.headers (some 0)], .request (.get "https://h/" {})]
    SameDefaults .basic ((Package.new .basic fun _ => someHeaders).run .basic ops)
      ((Package.new .basic fun _ => someHeaders).run .basic (ops.filter PackageOp.isSetting)) := by
  intro ops
  have hquiet : QuietRun .basic (.new .basic fun _ => someHeaders) ops := by
    refine ⟨.inl rfl, fun _ _ _ _ => quiet_of_options_eq_none (fun _ _ => rfl) ?_, trivial⟩
    change findUserAgent someHeaders = none
    decide
  exact sameDefaults_of_quietRun hquiet List.prefix_rfl

/-- A request with credentials, when there are default headers. -/
theorem not_forall_sameDefaults :
    ¬∀ (env : PyEnv) (heap : Ref → Headers) (ops pre : List PackageOp),
    pre <+: ops → SameDefaults env ((Package.new env heap).run env pre)
      ((Package.new env heap).run env (pre.filter PackageOp.isSetting)) := by
  intro h
  let auth : Kwargs Ref := Kwargs.set {} .auth (.tuple [.str "u", .str "p"])
  let ops : List PackageOp :=
    [.setDefault [.headers (some 0)], .request (.get "https://h/" auth)]
  have hsame := (h .basic (fun _ => someHeaders) ops ops List.prefix_rfl).headers 0 rfl
  have hget := congrArg (fun d : Headers => (d.get? "Authorization").isSome) hsame
  revert hget
  decide

end CycleTLS
