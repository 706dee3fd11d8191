import CycleTLS.Defaults
import CycleTLS.Payload

/-!
# Which value an option has

The value of an option in the payload of a request of the package should be the one that
is given, else that of the profile, else the default, else that of a `Request`. But the
defaults are merged before the profile is applied, which cannot tell them from what is
given, and the user agent of the headers comes after both.

The payload has the right values exactly for the requests that are `Ordered`
(`follows_iff`).
-/

namespace CycleTLS

open Raising

variable (env : PyEnv)

/-! ## Precedence -/

/-- Cookies are converted before they are an option. -/
def Keyword.converted (k : Keyword) (v : Option Value) : Option Value :=
  if k = .cookies then v.map (convertRequestCookies env) else v

namespace PackageCall

variable (call : PackageCall)

/-- The value that the profile of a call gives an option. -/
def profileOption (k : Keyword) : Option Value := (call.kwargs.profile env).bind (·.sets k)

/-- The value that the profile of a call gives a header. -/
def profileHeader (name : String) : Option Value :=
  (call.kwargs.profile env).bind (·.header env name)

/-- The name of a header that comes from no other argument. -/
def Plain (name : String) : Prop :=
  isUserAgent name = false ∧ name ≠ "Content-Type" ∧
    ((call.kwargs.arg .auth).isNone ∨ name ≠ "Authorization")

end PackageCall

namespace Package

variable (s : Package) (call : PackageCall)

/-- The default for an option. -/
def default (k : Keyword) : Option Value := if k ∈ configurable then s.config.options k else none

/-- The value of an option by precedence. -/
def preferred (k : Keyword) : Option Value :=
  (k.converted env (call.kwargs.options k)).or ((call.profileOption env k).or (s.default k))

/-- The value of a header by precedence; headers that are given leave out the default ones. -/
def preferredHeader (name : String) : Option Value :=
  match call.kwargs.headers with
  | some _ => ((s.headersOf call.kwargs).get? name).or (call.profileHeader env name)
  | none => (call.profileHeader env name).or ((s.headersOf s.config).get? name)

/-- The payload has the values by precedence. -/
structure Follows (p : OptionsDict) : Prop where
  options : ∀ k ∈ requestOptions,
    k.sent env (s.preferred env call k) = .ok (Value.get p k.key)
  headers : ∀ name, call.Plain name → headerOf p name = s.preferredHeader env call name

/-- The defaults that a call is merged with: for one without arguments, those in the cache. -/
def mergedDefaults : Kwargs Ref :=
  match if call.kwargs.isEmpty && !s.config.isEmpty then s.cache else none with
  | some merged => merged
  | none => .withDefaults s.config {}

/-- The headers that a call is prepared with. -/
def givenHeaders : Headers :=
  match call.kwargs.headers with
  | some _ => s.headersOf call.kwargs
  | none => s.headersOf (s.mergedDefaults call)

/-- The user agent in the headers of a call or its profile. -/
def headerAgent : Option Value :=
  let own := ((call.kwargs.profile env).map (·.ownHeaders)).getD .empty
  ((own.firstKey isUserAgent).or ((s.givenHeaders call).firstKey isUserAgent)).bind fun name =>
    ((s.givenHeaders call).get? name).or (own.get? name)

/-- A call for which it makes no difference in which order the values are merged. -/
structure Ordered : Prop where
  /-- The async functions do not pass the timeout on. -/
  timeout : call.async → Keyword.timeout.sent env (s.preferred env call .timeout) = .ok (.int 6)
  /-- The user agent of the headers is the one that should be sent. -/
  userAgent : ∀ v, s.headerAgent env call = some v →
    (s.preferred env call .userAgent).getD (.str defaultUserAgent) = v
  /-- Where nothing is given, the profile and the default do not differ. -/
  profile : ∀ k, (k = .userAgent → s.headerAgent env call = none) → call.kwargs.options k = none →
    ∀ v w, call.profileOption env k = some v → s.default k = some w → w = v
  profileHeader : call.kwargs.headers = none → ∀ name, call.Plain name →
    ∀ v w, call.profileHeader env name = some v → (s.headersOf s.config).get? name = some w → w = v
  /-- Where there are no arguments, the defaults in the cache are those there are. -/
  cached : call.kwargs.isEmpty → ∀ k ∈ requestOptions, (k = .timeout → call.async = false) →
    (k = .userAgent → s.headerAgent env call = none) →
      k.sent env ((s.mergedDefaults call).options k) = k.sent env (s.default k)
  cachedHeader : call.kwargs.isEmpty → ∀ name, call.Plain name →
    (s.headersOf (s.mergedDefaults call)).get? name = (s.headersOf s.config).get? name

end Package

/-! ## The merge and the preparation -/

variable {env}

namespace Package

variable {s : Package} {call : PackageCall}

/-- The merge takes what is not given from the defaults. -/
theorem snd_mergeDefaults (s : Package) (call : PackageCall) :
    let merged := (s.mergeDefaults call.kwargs).2
    merged.headers = call.kwargs.headers.or (s.mergedDefaults call).headers ∧
      ∀ k, merged.options k = (call.kwargs.options k).or ((s.mergedDefaults call).options k) := by
  rw [mergeDefaults, mergedDefaults]
  by_cases hconfig : s.config.isEmpty
  · rw [if_pos hconfig, hconfig, Bool.not_true, Bool.and_false, if_neg Bool.false_ne_true,
      Kwargs.eq_of_isEmpty hconfig, Kwargs.withDefaults_empty]
    exact ⟨Option.or_none.symm, fun _ => Option.or_none.symm⟩
  · have hconfig' : (!s.config.isEmpty) = true := by simpa using hconfig
    rw [if_neg hconfig, hconfig', Bool.and_true]
    by_cases hkwargs : call.kwargs.isEmpty
    · rw [if_pos hkwargs, if_pos hkwargs, Kwargs.eq_of_isEmpty hkwargs]
      cases s.cache <;> exact ⟨Option.none_or.symm, fun _ => Option.none_or.symm⟩
    · rw [if_neg hkwargs, if_neg hkwargs]
      simp [Kwargs.withDefaults]

/-- Without a cache that is used, the defaults are those there are. -/
theorem mergedDefaults_of_not_isEmpty (h : call.kwargs.isEmpty = false) :
    s.mergedDefaults call = .withDefaults s.config {} := by
  rw [mergedDefaults, h, Bool.false_and, if_neg Bool.false_ne_true]

theorem options_withDefaults (s : Package) (k : Keyword) :
    (Kwargs.withDefaults s.config {}).options k = s.default k := Option.none_or

/-- Only defaults are in the cache. -/
def CachesDefaults (s : Package) : Prop :=
  ∀ merged, s.cache = some merged → ∀ k, k ∉ configurable → merged.options k = none

theorem options_mergedDefaults (h : s.CachesDefaults) {k : Keyword} (hk : k ∉ configurable) :
    (s.mergedDefaults call).options k = none := by
  have hnone : (Kwargs.withDefaults s.config {}).options k = none := by
    rw [options_withDefaults, default, if_neg hk]
  rw [mergedDefaults]
  split
  · next merged hcache =>
    split_ifs at hcache
    exact h merged hcache k hk
  · exact hnone

theorem cachesDefaults_step (h : s.CachesDefaults) (op : PackageOp) :
    (s.step env op).CachesDefaults := by
  cases op with
  | setDefault settings =>
    obtain ⟨cache, hset, hcache⟩ := setDefault_eq env s settings
    rw [step, hset]
    rcases hcache with rfl | ⟨rfl, -⟩
    · exact fun _ hmerged => nomatch hmerged
    · exact h
  | resetDefaults => exact fun _ hmerged => nomatch hmerged
  | request call =>
    intro merged hmerged
    rw [step, issue, cache_putHeaders] at hmerged
    unfold mergeDefaults at hmerged
    split_ifs at hmerged
    · exact h merged hmerged
    · split at hmerged
      · exact h merged hmerged
      · cases hmerged
        exact fun k hk => if_neg hk
    · exact h merged hmerged

theorem cachesDefaults_run (heap : Ref → Headers) (ops : List PackageOp) :
    ((new env heap).run env ops).CachesDefaults := by
  have hrun (s : Package) (h : s.CachesDefaults) : (s.run env ops).CachesDefaults := by
    induction ops generalizing s with
    | nil => exact h
    | cons op ops ih => exact ih _ (cachesDefaults_step h op)
  exact hrun _ fun _ hmerged => nomatch hmerged

end Package

/-- The user agent among the headers that are prepared. -/
theorem Package.headerAgent_eq (s : Package) (call : PackageCall) (auth : Value) :
    let e := withProfile env (call.kwargs.profile env) (withAuth env auth (s.givenHeaders call))
    (e.firstKey isUserAgent).bind e.get? = s.headerAgent env call :=
  agentAmong_eq (call.kwargs.profile env) auth (s.givenHeaders call)

namespace PackageCall

variable {call : PackageCall} {kwargs : Kwargs Ref}

/-- The arguments that are prepared for a call. -/
def prepared (call : PackageCall) (kwargs : Kwargs Ref) : Kwargs HeaderDict :=
  if call.async then (call.arguments kwargs).replace fun _ => none else call.arguments kwargs

theorem send_eq : call.send env kwargs =
    prepareRequest env call.closed call.boundary call.method call.url (call.prepared kwargs) := by
  rw [send, prepared]
  split_ifs <;> rfl

theorem options_arguments_of_ne {k : Keyword} (hdata : k ≠ .data) (hjson : k ≠ .jsonData) :
    (call.arguments kwargs).options k = kwargs.options k := by
  rw [arguments]
  cases call.body with
  | none => rfl
  | some body =>
    exact (Function.update_of_ne hjson _ _).trans (Function.update_of_ne hdata _ _)

theorem options_prepared {k : Keyword} (hdata : k ≠ .data) (hjson : k ≠ .jsonData)
    (hswallowed : k ∉ swallowed) : (call.prepared kwargs).options k = kwargs.options k := by
  rw [prepared]
  split_ifs
  · rw [Kwargs.options_replace _ hswallowed, options_arguments_of_ne hdata hjson]
  · exact options_arguments_of_ne hdata hjson

theorem timeout_prepared : (call.prepared kwargs).options .timeout =
    if call.async then none else kwargs.options .timeout := by
  rw [prepared]
  split_ifs
  · rfl
  · exact options_arguments_of_ne (by decide) (by decide)

theorem contents_prepared (s : Package) :
    (call.prepared kwargs).contents (s.headersOf kwargs) = s.headersOf kwargs := by
  have hheaders : (call.prepared kwargs).headers =
      kwargs.headers.map (Option.map fun _ => .given) := by
    rw [prepared]
    split_ifs <;> · rw [arguments]; cases call.body <;> rfl
  rw [Kwargs.contents, hheaders, Package.headersOf]
  rcases kwargs.headers with _ | _ | r <;> rfl

end PackageCall

namespace Package

variable {s : Package} {call : PackageCall}

/-- The value of an option before the profile: the given one, then that of the defaults. -/
def mergedOption (env : PyEnv) (s : Package) (call : PackageCall) (k : Keyword) : Option Value :=
  (k.converted env (call.kwargs.options k)).or ((s.mergedDefaults call).options k)

theorem heap_mergeDefaults (s : Package) (kwargs : Kwargs Ref) :
    (s.mergeDefaults kwargs).1.heap = s.heap := by
  unfold mergeDefaults
  split_ifs
  · rfl
  · split <;> rfl
  · rfl

theorem headersOf_mergeDefaults (s : Package) (call : PackageCall) :
    (s.mergeDefaults call.kwargs).1.headersOf (s.mergeDefaults call.kwargs).2 =
      s.givenHeaders call := by
  have hof (s' : Package) (kwargs kwargs' : Kwargs Ref) (hheap : s'.heap = s.heap)
      (hheaders : kwargs.headers = kwargs'.headers) :
      s'.headersOf kwargs = s.headersOf kwargs' := by
    rw [headersOf, hheaders, hheap, headersOf]
  obtain ⟨hheaders, -⟩ := snd_mergeDefaults s call
  rw [givenHeaders]
  split
  · next hgiven =>
    rw [hgiven] at hheaders
    exact hof _ _ _ (heap_mergeDefaults s _) (hheaders.trans hgiven.symm)
  · next hgiven =>
    rw [hgiven, Option.none_or] at hheaders
    exact hof _ _ _ (heap_mergeDefaults s _) hheaders

theorem profileOption_eq_none {k : Keyword} (hk : k = .cookies ∨ k = .timeout) :
    call.profileOption env k = none :=
  Option.bind_eq_none_iff.2 fun _ _ => by rcases hk with rfl | rfl <;> rfl

/-- What the payload of a call has. -/
theorem issue_eq_ok {p : OptionsDict} (hs : s.CachesDefaults) (h : (s.issue env call).2 = .ok p) :
    (∀ k ∈ requestOptions, k ≠ .userAgent → k ≠ .timeout →
      k.sent env ((s.mergedOption env call k).or (call.profileOption env k)) =
        .ok (Value.get p k.key)) ∧
    (Keyword.userAgent.sent env ((s.headerAgent env call).or
      ((s.mergedOption env call .userAgent).or (call.profileOption env .userAgent))) =
        .ok (Value.get p "userAgent")) ∧
    (Keyword.timeout.sent env (if call.async then none else s.mergedOption env call .timeout) =
      .ok (Value.get p "timeout")) ∧
    ∀ name, call.Plain name →
      headerOf p name = ((s.givenHeaders call).get? name).or (call.profileHeader env name) := by
  have hheaders := headersOf_mergeDefaults s call
  obtain ⟨-, hoptions⟩ := snd_mergeDefaults s call
  change (exec (call.send env (s.mergeDefaults call.kwargs).2) ((s.mergeDefaults
    call.kwargs).1.headersOf (s.mergeDefaults call.kwargs).2)).1 = .ok p at h
  generalize (s.mergeDefaults call.kwargs).1 = s' at h hheaders
  generalize (s.mergeDefaults call.kwargs).2 = merged at h hheaders hoptions
  have hrun : exec (call.send env merged) (s'.headersOf merged) =
      (.ok p, (exec (call.send env merged) (s'.headersOf merged)).2) := Prod.ext h rfl
  rw [PackageCall.send_eq] at hrun
  obtain ⟨json, kwargs', t, -, -, hprepares, hsent, -, hheader⟩ := exists_prepares hrun
  -- the profile and the credentials are no defaults
  have harg (k : Keyword) (hk : k = .fingerprint ∨ k = .auth) :
      (call.prepared merged).arg k = call.kwargs.arg k := by
    have hnot : k ∉ configurable := by rcases hk with rfl | rfl <;> decide
    have hprepared : (call.prepared merged).options k = merged.options k :=
      PackageCall.options_prepared (by rcases hk with rfl | rfl <;> decide)
        (by rcases hk with rfl | rfl <;> decide) (by rcases hk with rfl | rfl <;> decide)
    rw [Kwargs.arg, hprepared, hoptions, options_mergedDefaults hs hnot, Option.or_none, Kwargs.arg]
  have hprofile : (call.prepared merged).profile env = call.kwargs.profile env := by
    rw [Kwargs.profile, harg _ (.inl rfl), Kwargs.profile]
  rw [PackageCall.contents_prepared, hheaders, hprofile, harg _ (.inr rfl)] at hprepares
  have hmerged (k : Keyword) (hk : k ≠ .cookies) :
      merged.options k = s.mergedOption env call k := by
    rw [hoptions, mergedOption, Keyword.converted, if_neg hk]
  have hcookiesNone : (call.kwargs.profile env).bind (·.sets .cookies) = none :=
    profileOption_eq_none (.inl rfl)
  have htimeoutNone : (call.kwargs.profile env).bind (·.sets .timeout) = none :=
    profileOption_eq_none (.inr rfl)
  refine ⟨fun k hk hagent htimeout => ?_, ?_, ?_, fun name hname => ?_⟩
  · rw [← hsent k hk]
    have hkept : (call.prepared merged).options k = merged.options k := by
      refine PackageCall.options_prepared ?_ ?_ ?_ <;>
        (revert hk htimeout; cases k <;> decide)
    by_cases hcookies : k = .cookies
    · subst hcookies
      rw [hprepares.cookies, hkept, hoptions, options_mergedDefaults hs (by decide), mergedOption,
        options_mergedDefaults hs (by decide), profileOption_eq_none (.inl rfl), hcookiesNone,
        Option.or_none, Option.or_none, Option.or_none, Option.or_none, Keyword.converted,
        if_pos rfl]
    · rw [hprepares.passed k (by revert hk hagent hcookies; cases k <;> decide), hkept,
        hmerged k hcookies]
      rfl
  · rw [← Keyword.key, ← hsent .userAgent (by decide), hprepares.userAgent, headerAgent_eq,
      PackageCall.options_prepared (by decide) (by decide) (by decide), hmerged _ (by decide)]
    rfl
  · rw [← Keyword.key, ← hsent .timeout (by decide), hprepares.passed .timeout (by decide),
      PackageCall.timeout_prepared, hmerged _ (by decide), htimeoutNone, Option.or_none]
  · rw [hheader, hprepares.header name hname.1 hname.2.1, PackageCall.profileHeader]
    cases call.kwargs.profile env with
    | none => exact (get?_withAuth hname.2.2 _).trans Option.or_none.symm
    | some profile =>
      rw [withProfile, TLSFingerprint.get?_mergedHeaders, get?_withAuth hname.2.2]
      rfl

/-- An option that a profile sets is sent as it is. -/
theorem sent_of_profileOption {k : Keyword} {v : Value} (h : call.profileOption env k = some v)
    (w : Value) :
    k ∈ requestOptions ∧ k ≠ .timeout ∧ k ≠ .cookies ∧ k.sent env (some w) = .ok w := by
  obtain ⟨profile, -, hsets⟩ := Option.bind_eq_some_iff.1 h
  cases k <;> first
    | exact ⟨by decide, by decide, by decide, rfl⟩
    | cases hsets

/-- A call with a profile has an argument. -/
theorem isEmpty_of_profile {profile : TLSFingerprint} (h : call.kwargs.profile env = some profile) :
    call.kwargs.isEmpty = false := by
  rw [← Bool.not_eq_true]
  intro hempty
  rw [Kwargs.eq_of_isEmpty hempty] at h
  cases h

theorem profile_of_isEmpty (h : call.kwargs.isEmpty) : call.kwargs.profile env = none := by
  rw [Kwargs.eq_of_isEmpty h]
  rfl

theorem converted_eq_none_iff {k : Keyword} {v : Option Value} :
    k.converted env v = none ↔ v = none := by
  rw [Keyword.converted]
  split_ifs
  · exact Option.map_eq_none_iff
  · rfl

theorem mergedOption_of_not_isEmpty (h : call.kwargs.isEmpty = false) (k : Keyword) :
    s.mergedOption env call k = (k.converted env (call.kwargs.options k)).or (s.default k) := by
  rw [mergedOption, mergedDefaults_of_not_isEmpty h, options_withDefaults]

variable (env) in
/-- For a call without arguments only the defaults count. -/
theorem options_of_isEmpty (h : call.kwargs.isEmpty) (k : Keyword) :
    call.kwargs.options k = none ∧ call.profileOption env k = none := by
  rw [PackageCall.profileOption, profile_of_isEmpty h, Kwargs.eq_of_isEmpty h]
  exact ⟨rfl, rfl⟩

theorem options_of_ordered (h : s.Ordered env call) {k : Keyword} (hk : k ∈ requestOptions)
    (htimeout : k = .timeout → call.async = false)
    (hagent : k = .userAgent → s.headerAgent env call = none) :
    k.sent env ((s.mergedOption env call k).or (call.profileOption env k)) =
      k.sent env (s.preferred env call k) := by
  rw [preferred]
  cases hempty : call.kwargs.isEmpty with
  | true =>
    obtain ⟨hnone, hprofile⟩ := options_of_isEmpty env hempty k
    rw [mergedOption, hnone, hprofile, converted_eq_none_iff.2 rfl, Option.none_or, Option.or_none,
      Option.none_or, Option.none_or]
    exact h.cached hempty k hk htimeout hagent
  | false =>
    rw [mergedOption_of_not_isEmpty hempty, Option.or_assoc]
    cases hexplicit : k.converted env (call.kwargs.options k) with
    | some v => rfl
    | none =>
      have hnone := converted_eq_none_iff.1 hexplicit
      rw [Option.none_or, Option.none_or]
      cases hprofile : call.profileOption env k with
      | none => rw [Option.or_none, Option.none_or]
      | some v =>
        cases hdefault : s.default k with
        | none => rfl
        | some w =>
          rw [h.profile k hagent hnone v w hprofile hdefault]

theorem follows_iff_of_cachesDefaults {p : OptionsDict} (hs : s.CachesDefaults)
    (hp : (s.issue env call).2 = .ok p) : s.Follows env call p ↔ s.Ordered env call := by
  obtain ⟨hoptions, hagent, htimeout, hheader⟩ := issue_eq_ok hs hp
  constructor
  · intro h
    -- the payload has both the value by precedence and the one that was merged
    have hboth (k : Keyword) (hk : k ∈ requestOptions)
        (hktimeout : k = .timeout → call.async = false)
        (hkagent : k = .userAgent → s.headerAgent env call = none) :
        k.sent env ((s.mergedOption env call k).or (call.profileOption env k)) =
          k.sent env (s.preferred env call k) := by
      rw [h.options k hk]
      by_cases hne : k = .userAgent
      · subst hne
        rw [hkagent rfl, Option.none_or] at hagent
        exact hagent
      · by_cases hne' : k = .timeout
        · subst hne'
          rw [hktimeout rfl, if_neg Bool.false_ne_true] at htimeout
          rw [profileOption_eq_none (.inr rfl), Option.or_none]
          exact htimeout
        · exact hoptions k hk hne hne'
    refine ⟨fun hasync => ?_, fun v hv => ?_, ?_, ?_, ?_, ?_⟩
    · rw [hasync, if_pos rfl] at htimeout
      exact (h.options .timeout (by decide)).trans htimeout.symm
    · rw [hv, Option.some_or] at hagent
      exact Except.ok.inj ((h.options .userAgent (by decide)).trans hagent.symm)
    · intro k hkagent hnone v w hv hw
      obtain ⟨hk, hktimeout, hkcookies, hsent⟩ := sent_of_profileOption hv w
      obtain ⟨-, -, -, hsent'⟩ := sent_of_profileOption hv v
      have hkboth := hboth k hk (fun heq => absurd heq hktimeout) hkagent
      obtain ⟨profile, hprofile, -⟩ := Option.bind_eq_some_iff.1 hv
      rw [mergedOption_of_not_isEmpty (isEmpty_of_profile hprofile), preferred, hnone,
        converted_eq_none_iff.2 rfl, hv, hw] at hkboth
      exact Except.ok.inj (hsent.symm.trans (hkboth.trans hsent'))
    · intro hnone name hname v w hv hw
      obtain ⟨profile, hprofile, -⟩ := Option.bind_eq_some_iff.1 hv
      have hgiven : s.givenHeaders call = s.headersOf s.config := by
        rw [givenHeaders, hnone, mergedDefaults_of_not_isEmpty (isEmpty_of_profile hprofile)]
        rfl
      have hsame := (hheader name hname).symm.trans (h.headers name hname)
      rw [hgiven, hw, preferredHeader, hnone, hv] at hsame
      exact Option.some.inj hsame
    · intro hempty k hk hktimeout hkagent
      obtain ⟨hnone, hprofile⟩ := options_of_isEmpty env hempty k
      have hkboth := hboth k hk hktimeout hkagent
      rwa [mergedOption, preferred, hnone, hprofile, converted_eq_none_iff.2 rfl, Option.none_or,
        Option.or_none, Option.none_or, Option.none_or] at hkboth
    · intro hempty name hname
      have hnone : call.kwargs.headers = none := by rw [Kwargs.eq_of_isEmpty hempty]
      have hprofile : call.profileHeader env name = none := by
        rw [PackageCall.profileHeader, profile_of_isEmpty hempty, Option.bind_none]
      have hsame := (hheader name hname).symm.trans (h.headers name hname)
      rwa [givenHeaders, hnone, preferredHeader, hnone, hprofile, Option.or_none,
        Option.none_or] at hsame
  · intro h
    refine ⟨fun k hk => ?_, fun name hname => ?_⟩
    · by_cases hktimeout : k = .timeout
      · subst hktimeout
        cases hasync : call.async with
        | true =>
          rw [hasync, if_pos rfl] at htimeout
          exact (h.timeout hasync).trans htimeout
        | false =>
          rw [hasync, if_neg Bool.false_ne_true] at htimeout
          rw [← options_of_ordered h hk (fun _ => hasync) nofun, profileOption_eq_none (.inr rfl),
            Option.or_none]
          exact htimeout
      · by_cases hkagent : k = .userAgent
        · subst hkagent
          cases hv : s.headerAgent env call with
          | none =>
            rw [hv, Option.none_or] at hagent
            rw [← options_of_ordered h hk nofun fun _ => hv]
            exact hagent
          | some v =>
            rw [hv, Option.some_or] at hagent
            refine Eq.trans ?_ hagent
            exact congrArg Except.ok (h.userAgent v hv)
        · rw [← options_of_ordered h hk (fun heq => absurd heq hktimeout)
            fun heq => absurd heq hkagent]
          exact hoptions k hk hkagent hktimeout
    · rw [hheader name hname, preferredHeader, givenHeaders]
      cases hgiven : call.kwargs.headers with
      | some headers => rfl
      | none =>
        simp only []
        cases hempty : call.kwargs.isEmpty with
        | true =>
          rw [h.cachedHeader hempty name hname, PackageCall.profileHeader,
            profile_of_isEmpty hempty, Option.bind_none, Option.none_or, Option.or_none]
        | false =>
          have hdefaults : s.headersOf (s.mergedDefaults call) = s.headersOf s.config := by
            rw [mergedDefaults_of_not_isEmpty hempty]
            rfl
          rw [hdefaults]
          cases hv : call.profileHeader env name with
          | none => rw [Option.or_none, Option.none_or]
          | some v =>
            cases hw : (s.headersOf s.config).get? name with
            | none => rfl
            | some w => rw [h.profileHeader hgiven name hname v w hv hw]

end Package

/-- The payload of a call has the values by precedence exactly if the call is ordered. -/
theorem follows_iff {env : PyEnv} {heap : Ref → Headers} {ops : List PackageOp}
    {call : PackageCall} {p : OptionsDict}
    (hp : (((Package.new env heap).run env ops).issue env call).2 = .ok p) :
    ((Package.new env heap).run env ops).Follows env call p ↔
      ((Package.new env heap).run env ops).Ordered env call :=
  Package.follows_iff_of_cachesDefaults (Package.cachesDefaults_run heap ops) hp

/-- A profile with nothing but a fingerprint. -/
def TLSFingerprint.bare (ja3 : String) : TLSFingerprint where
  name := "p"
  ja3 := ja3

/-- The fingerprint is of the profile, the timeout is given and the proxy is a default, as
    would be the timeout. -/
theorem follows_get : ∃ p,
    (((Package.new .plain fun _ => .empty).run .plain [.setDefault
      [.option .timeout (.int 9), .option .proxy (.str "http://p:8080")]]).issue .plain
        (.get "https://h/" (Kwargs.set (.set {} .fingerprint (.fingerprint
          (.bare "771,4865,0,29,0"))) .timeout (.int 5)))).2 = .ok p ∧
    Value.get p "ja3" = .str "771,4865,0,29,0" ∧ Value.get p "timeout" = .int 5 ∧
    Value.get p "proxy" = .str "http://p:8080" ∧
    ((Package.new .plain fun _ => .empty).run .plain [.setDefault
      [.option .timeout (.int 9), .option .proxy (.str "http://p:8080")]]).Follows .plain
        (.get "https://h/" (Kwargs.set (.set {} .fingerprint (.fingerprint
          (.bare "771,4865,0,29,0"))) .timeout (.int 5))) p := by
  let s := (Package.new .plain fun _ => .empty).run .plain [.setDefault
    [.option .timeout (.int 9), .option .proxy (.str "http://p:8080")]]
  let call : PackageCall := .get "https://h/" (Kwargs.set (.set {} .fingerprint (.fingerprint
    (.bare "771,4865,0,29,0"))) .timeout (.int 5))
  obtain ⟨p, hp⟩ : ∃ p, (s.issue .plain call).2 = .ok p := ⟨_, rfl⟩
  have hfollows : s.Follows .plain call p := by
    refine (follows_iff hp).2 ⟨nofun, nofun, fun k _ hnone v w hv hw => ?_, ?_, nofun, nofun⟩
    · -- the profile has no value where a default is used
      cases k with
      | timeout => cases hnone
      | proxy | enableConnectionReuse => cases hv
      | _ => cases hw
    · exact fun _ _ _ _ _ hv _ => nomatch hv
  have hsent (k : Keyword) (hk : k ∈ requestOptions) := hfollows.options k hk
  exact ⟨p, hp, Except.ok.inj (hsent .ja3 (by decide)).symm, Except.ok.inj
    (hsent .timeout (by decide)).symm, Except.ok.inj (hsent .proxy (by decide)).symm, hfollows⟩

/-- A profile is given, and there is a default fingerprint. -/
theorem not_forall_follows : ¬∀ (env : PyEnv) (heap : Ref → Headers) (ops : List PackageOp)
    (call : PackageCall) (p : OptionsDict),
    (((Package.new env heap).run env ops).issue env call).2 = .ok p →
      ((Package.new env heap).run env ops).Follows env call p := by
  intro h
  let ops : List PackageOp := [.setDefault [.option .ja3 (.str "771,4866,0,29,0")]]
  let call : PackageCall :=
    .get "https://h/" (Kwargs.set {} .fingerprint (.fingerprint (.bare "771,4865,0,29,0")))
  let s := (Package.new .plain fun _ => .empty).run .plain ops
  obtain ⟨p, hp⟩ : ∃ p, (s.issue .plain call).2 = .ok p := ⟨_, rfl⟩
  have hfollows := (h .plain _ ops call p hp).options .ja3 (by decide)
  have hmerged := (Package.issue_eq_ok (Package.cachesDefaults_run _ ops) hp).1 .ja3 (by decide)
    (by decide) (by decide)
  have heq : Value.str "771,4866,0,29,0" = .str "771,4865,0,29,0" :=
    Except.ok.inj (hmerged.trans hfollows.symm)
  exact absurd (Value.str.inj heq) (by decide)

end CycleTLS
