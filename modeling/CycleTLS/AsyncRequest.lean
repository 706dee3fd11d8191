import CycleTLS.Arguments

/-!
# Requests, sync and async

`request` and `arequest` hand Go the options that `_prepare_request` gives for their
keyword arguments. But `arequest` takes three of them for itself, the timeout among
these, so that Go is told the default (`sameOptions_iff`).
-/

namespace CycleTLS

open Raising

variable (env : PyEnv)

/-- The parameters of `arequest` that it does not pass on. -/
def swallowed : List Keyword := [.pollInterval, .timeout, .useCallback]

/-- Arguments with other values for these parameters. -/
def Kwargs.replace {R : Type} (given : Keyword → Option Value) (kwargs : Kwargs R) : Kwargs R :=
  { kwargs with options := fun k => if k ∈ swallowed then given k else kwargs.options k }

/-- The options in the payload of `CycleTLS.request`. -/
def request (closed : Bool) (boundary method url : String) (kwargs : Kwargs HeaderDict) :
    PyM OptionsDict :=
  prepareRequest env closed boundary method url kwargs

/-- The options in the payload of `CycleTLS.arequest`. -/
def arequest (closed : Bool) (boundary method url : String) (kwargs : Kwargs HeaderDict) :
    PyM OptionsDict :=
  prepareRequest env closed boundary method url (kwargs.replace fun _ => none)

/-! ## What is passed on -/

variable {given : Keyword → Option Value}

namespace Kwargs

variable {R : Type} (kwargs : Kwargs R) {k : Keyword}

theorem options_replace (hk : k ∉ swallowed) :
    (kwargs.replace given).options k = kwargs.options k :=
  if_neg hk

end Kwargs

theorem unseen_replace :
    Unseen parameters fun k v => if k ∈ swallowed then given k else v where
  parameters k hk v := by rw [if_neg (by revert hk; cases k <;> decide)]
  prepared k hk v := if_neg (by revert hk; cases k <;> decide)

/-- The arguments that are not passed on do not matter until the `Request` is made. -/
theorem normalize_replace (env : PyEnv) (kwargs : Kwargs HeaderDict) (boundary url : String) :
    normalize env boundary url (kwargs.replace given) =
      Prod.map id (Kwargs.replace given) <$> normalize env boundary url kwargs :=
  normalize_adjust unseen_replace boundary url

/-! ## The options -/

/-- The same dict, whatever the order of its keys. -/
def SameOptions (p q : OptionsDict) : Prop := ∀ key, p.lookup key = q.lookup key

/-- A timeout that is given is the one of the payload, in whole seconds. -/
def ReachesTimeout (kwargs : Kwargs HeaderDict) (p : OptionsDict) : Prop :=
  ∀ t, kwargs.options .timeout = some t →
    ∃ n, timeoutInt t = .ok n ∧ p.lookup "timeout" = some (.int n)

variable {env}

theorem lookup_toDict_timeout {r : Request} {p : OptionsDict} (h : r.toDict env = .ok p) :
    ∃ n, timeoutInt r.timeout = .ok n ∧ p.lookup "timeout" = some (.int n) := by
  obtain ⟨n, protocol, cookies, headerValues, hn, rfl⟩ := Request.toDict_eq_ok h
  exact ⟨n, hn, Request.lookup_options.1⟩

/-- Requests that only differ in their timeouts have the same options if these are the
    same in whole seconds. -/
theorem toDict_timeout {r : Request} {t : Value} {n : Int} (hr : timeoutInt r.timeout = .ok n)
    (ht : timeoutInt t = .ok n) : { r with timeout := t }.toDict env = r.toDict env := by
  rw [Request.toDict, Request.toDict, hr, ht]
  rfl

variable {closed : Bool} {boundary method url : String} {kwargs : Kwargs HeaderDict}
  {p q : OptionsDict} {d d' d'' : Headers}

/-- What `arequest` leaves out is kept to the end by `request`. -/
theorem options_normalize {u : String} {kwargs' : Kwargs HeaderDict} {k : Keyword}
    (h : exec (normalize env boundary url kwargs) d = (.ok (u, kwargs'), d')) (hk : k ∈ swallowed) :
    kwargs'.options k = kwargs.options k := by
  have hself : kwargs.replace kwargs.options = kwargs := by simp [Kwargs.replace]
  have hrun : exec (normalize env boundary url (kwargs.replace kwargs.options)) d =
      exec (normalize env boundary url kwargs) d := by rw [hself]
  rw [normalize_replace, exec_map, h] at hrun
  have heq : kwargs'.replace kwargs.options = kwargs' :=
    (Prod.mk.inj (Except.ok.inj (Prod.mk.inj hrun).1)).2
  rw [← heq]
  exact if_pos hk

/-- The steps of a request that is accepted. -/
theorem exists_request_of_ok
    (h : exec (prepareRequest env closed boundary method url kwargs) d = (.ok p, d')) :
    ∃ u kwargs' t headers r, exec (normalize env boundary url kwargs) d = (.ok (u, kwargs'), t) ∧
      exec (headersValue kwargs') t = (.ok headers, d') ∧
      Request.new method u headers kwargs' = .ok r ∧ r.toDict env = .ok p := by
  rw [prepareRequest] at h
  cases closed with
  | true => cases h
  | false =>
    obtain ⟨⟨u, kwargs'⟩, t, hn, h⟩ := exec_bind_eq_ok_iff.1 h
    obtain ⟨headers, t', hheaders, h⟩ := exec_bind_eq_ok_iff.1 h
    obtain ⟨r, t'', hr, hp⟩ := exec_bind_eq_ok_iff.1 h
    rw [exec_lift, Prod.mk.injEq] at hr hp
    rw [← hp.2, ← hr.2]
    exact ⟨u, kwargs', t, headers, r, hn, hheaders, hr.1, hp.1⟩

/-- The `Request`s that the two functions make. -/
theorem exists_requests (hp : exec (request env closed boundary method url kwargs) d = (.ok p, d'))
    (hq : exec (arequest env closed boundary method url kwargs) d = (.ok q, d'')) :
    ∃ r : Request, r.toDict env = .ok p ∧ { r with timeout := .int 6 }.toDict env = .ok q ∧
      r.timeout = (kwargs.options .timeout).getD (.int 6) := by
  obtain ⟨u, kwargs', t, headers, r, hn, hheaders, hr, hp⟩ := exists_request_of_ok hp
  obtain ⟨u', passed, t', headers', r', hn', hheaders', hr', hq⟩ := exists_request_of_ok hq
  -- The timeout comes through the preparation, and the rest is prepared alike.
  have hkept := options_normalize hn (k := .timeout) (by decide)
  rw [normalize_replace, exec_map, hn] at hn'
  cases hn'
  have hsame : headers' = headers := by
    have hread : headersValue (kwargs'.replace fun _ => none) = headersValue kwargs' := rfl
    rw [hread, hheaders] at hheaders'
    cases hheaders'
    rfl
  subst hsame
  rw [Request.new] at hr hr'
  split_ifs at hr hr'
  cases hr
  cases hr'
  refine ⟨_, hp, hq, ?_⟩
  rw [hkept]

/-- The timeouts in the two payloads. -/
theorem lookup_timeout
    (hp : exec (request env closed boundary method url kwargs) d = (.ok p, d'))
    (hq : exec (arequest env closed boundary method url kwargs) d = (.ok q, d'')) :
    ∃ n, timeoutInt ((kwargs.options .timeout).getD (.int 6)) = .ok n ∧
      p.lookup "timeout" = some (.int n) ∧ q.lookup "timeout" = some (.int 6) := by
  obtain ⟨r, hr, hr', htimeout⟩ := exists_requests hp hq
  obtain ⟨n, hn, hpn⟩ := lookup_toDict_timeout hr
  obtain ⟨m, hm, hqm⟩ := lookup_toDict_timeout hr'
  cases hm
  exact ⟨n, htimeout ▸ hn, hpn, hqm⟩

/-- The payloads of the two functions are the same exactly when no timeout is given, or
    the one given comes to the default. -/
theorem sameOptions_iff
    (hp : exec (request env closed boundary method url kwargs) d = (.ok p, d'))
    (hq : exec (arequest env closed boundary method url kwargs) d = (.ok q, d'')) :
    (SameOptions p q ∧ ReachesTimeout kwargs p ∧ ReachesTimeout kwargs q) ↔
      ∀ t, kwargs.options .timeout = some t → timeoutInt t = .ok 6 := by
  obtain ⟨n, hn, hpn, hqn⟩ := lookup_timeout hp hq
  constructor
  · rintro ⟨hsame, -, -⟩ t ht
    rw [hsame, hqn] at hpn
    cases hpn
    rwa [ht] at hn
  · intro h
    -- No timeout at all is the default of six seconds.
    have hn6 : n = 6 := by
      cases ht : kwargs.options .timeout with
      | none =>
        rw [ht] at hn
        exact (Except.ok.inj hn).symm
      | some t =>
        rw [ht, Option.getD_some, h t ht] at hn
        exact (Except.ok.inj hn).symm
    subst hn6
    have hpq : p = q := by
      obtain ⟨r, hr, hr', htimeout⟩ := exists_requests hp hq
      rw [toDict_timeout (htimeout ▸ hn) rfl, hr] at hr'
      exact Except.ok.inj hr'
    subst hpq
    refine ⟨fun _ => rfl, ?_, ?_⟩ <;> exact fun t ht => ⟨6, h t ht, hpn⟩

/-- Libraries, as far as a request without a body or query needs them. -/
def PyEnv.plain : PyEnv where
  str _ := ""
  dumps _ := .ok ""
  urlencode _ := ""
  urlsplit url := .ok ("", fun _ => url)
  parseQsl _ := []
  b64encode _ := ""
  guessType _ := none
  strftime _ := ""
  isDigit := Char.isDigit
  profiles := []

/-- The arguments of a request with a timeout. -/
def Kwargs.ofTimeout (t : Value) : Kwargs HeaderDict := Kwargs.set {} .timeout t

theorem sameOptions_iff_six : ∃ p q,
    exec (request .plain false "" "GET" "https://h/" (.ofTimeout (.int 6))) .empty =
      (.ok p, .empty) ∧
    exec (arequest .plain false "" "GET" "https://h/" (.ofTimeout (.int 6))) .empty =
      (.ok q, .empty) ∧ SameOptions p q := by
  obtain ⟨p, hp⟩ : ∃ p, exec (request .plain false "" "GET" "https://h/" (.ofTimeout (.int 6)))
      .empty = (.ok p, .empty) := ⟨_, rfl⟩
  obtain ⟨q, hq⟩ : ∃ q, exec (arequest .plain false "" "GET" "https://h/" (.ofTimeout (.int 6)))
      .empty = (.ok q, .empty) := ⟨_, rfl⟩
  refine ⟨p, q, hp, hq, ((sameOptions_iff hp hq).2 fun t ht => ?_).1⟩
  cases ht
  rfl

/-- A timeout of ten seconds. -/
theorem not_forall_sameOptions : ¬∀ (env : PyEnv) (closed : Bool) (boundary method url : String)
    (kwargs : Kwargs HeaderDict) (d d' d'' : Headers) (p q : OptionsDict),
    exec (request env closed boundary method url kwargs) d = (.ok p, d') →
    exec (arequest env closed boundary method url kwargs) d = (.ok q, d'') →
      SameOptions p q ∧ ReachesTimeout kwargs p ∧ ReachesTimeout kwargs q := by
  intro h
  obtain ⟨p, hp⟩ : ∃ p, exec (request .plain false "" "GET" "https://h/" (.ofTimeout (.int 10)))
      .empty = (.ok p, .empty) := ⟨_, rfl⟩
  obtain ⟨q, hq⟩ : ∃ q, exec (arequest .plain false "" "GET" "https://h/" (.ofTimeout (.int 10)))
      .empty = (.ok q, .empty) := ⟨_, rfl⟩
  obtain ⟨n, hn, hpn, hqn⟩ := lookup_timeout hp hq
  have hsame := (h _ _ _ _ _ _ _ _ _ p q hp hq).1 "timeout"
  rw [hpn, hqn] at hsame
  cases hsame
  cases hn

end CycleTLS
