import CycleTLS.AsyncRequest
import CycleTLS.Delivery
import CycleTLS.Wire

/-!
# The round trip of a cookie

A cookie that Go reports is made a dict (`convertCookies`), then a `Cookie` of Python
(`_dict_to_cookie`), then a dict again (`_cookie_to_dict`), that Go decodes when it is
sent with a later request. On this way its attributes are renamed, left out at zero and
filled in again, and `SameSite` is a number, a word and a number. All of them come back
(`cookie_trip_iff`); but a date that Python cannot read raises, whatever becomes of it
later.
-/

namespace CycleTLS

open Utf8 Wire

/-- A value, or `None`. -/
def Value.opt {α : Type} (f : α → Value) (x : Option α) : Value := x.elim .none f

namespace Cookie

/-- The cookie as a value. -/
def toValue (c : Cookie) : Value :=
  .cookie (.str c.name) (.str c.value) (.opt .str c.path) (.opt .str c.domain)
    (.opt .datetime c.expires) (.opt .int c.maxAge) (.bool c.secure) (.bool c.httpOnly)
    (.opt .str c.sameSite)

/-- The number for a name of a `SameSite` mode, in any case. -/
def mode (name : String) : Int :=
  let name := String.ofList (lower name.toList)
  if name = "default" then 1 else if name = "lax" then 2 else if name = "strict" then 3
    else if name = "none" then 4 else 0

/-- What Go reads of a cookie, with this for its `MaxAge`. -/
def sent (env : PyEnv) (c : Cookie) (maxAge : Int) : Wire.Cookie where
  name := utf8 c.name
  value := utf8 c.value
  path := utf8 (c.path.getD "")
  domain := utf8 (c.domain.getD "")
  rawExpires := c.expires.elim [] fun t => utf8 (env.strftime t)
  maxAge := maxAge
  secure := c.secure
  httpOnly := c.httpOnly
  sameSite := c.sameSite.elim 0 mode

end Cookie

variable {env : PyEnv} {fracOk : Nat → Bool}

theorem goString_opt (x : Option String) : goString (.opt .str x) = some (utf8 (x.getD "")) := by
  cases x with
  | none => rfl
  | some s => rfl

theorem goString_rawExpires (x : Option DateTime) :
    goString (rawExpires env (.opt .datetime x)) =
      some (x.elim [] fun t => utf8 (env.strftime t)) := by
  cases x with
  | none => rfl
  | some t => rfl

namespace Cookie

theorem mode_mem (name : String) : mode name ∈ ([0, 1, 2, 3, 4] : List Int) := by
  unfold mode
  dsimp only
  split_ifs <;> decide

theorem goInt_mode (name : String) : goInt (.int (mode name)) = some (mode name) := by
  refine goInt_of_fits ?_
  have hmem := mode_mem name
  simp only [List.mem_cons, List.not_mem_nil, or_false] at hmem
  unfold Fits
  omega

/-- The mode in the dict of a cookie is an entry like the others. -/
theorem entry_sameSite (x : Option String) :
    (if (Value.opt .str x).isNone then []
      else [("sameSite", convertSameSite env (.opt .str x))]) =
      CycleTLS.entry "sameSite" (.opt (fun s => .int (mode s)) x) := by
  cases x with
  | none => rfl
  | some s => rfl

end Cookie

theorem goInt_sameSite (x : Option String) :
    goInt (.opt (fun s => .int (Cookie.mode s)) x) = some (x.elim 0 Cookie.mode) := by
  cases x with
  | none => rfl
  | some s => exact Cookie.goInt_mode s

/-- The dict of a cookie has the values of its attributes under their names. -/
theorem get_cookieDict (name value secure httpOnly path domain expires maxAge sameSite : Value) :
    let d := [("name", name), ("value", value), ("secure", secure), ("httpOnly", httpOnly)] ++
      CycleTLS.entry "path" path ++ CycleTLS.entry "domain" domain ++
      CycleTLS.entry "rawExpires" expires ++ CycleTLS.entry "maxAge" maxAge ++
      CycleTLS.entry "sameSite" sameSite
    Value.get d "name" = name ∧ Value.get d "value" = value ∧ Value.get d "path" = path ∧
      Value.get d "domain" = domain ∧ Value.get d "rawExpires" = expires ∧
      Value.get d "maxAge" = maxAge ∧ Value.get d "secure" = secure ∧
      Value.get d "httpOnly" = httpOnly ∧ Value.get d "sameSite" = sameSite := by
  refine ⟨?_, ?_, ?_, ?_, ?_, ?_, ?_, ?_, ?_⟩ <;>
    simp [Value.get, List.lookup_append, List.lookup_cons, lookup_entry_of_ne, getD_lookup_entry]

/-- Go reads the dict of a cookie as it is, but for numbers that do not fit. -/
theorem cookie_cookieToDict (env : PyEnv) (c : Cookie) : ∃ d, cookieToDict env c.toValue = .ok d ∧
    cookie d = (goInt (.opt .int c.maxAge)).map (c.sent env) := by
  refine ⟨_, rfl, ?_⟩
  obtain ⟨hname, hvalue, hpath, hdomain, hexpires, hmaxAge, hsecure, hhttpOnly, hsameSite⟩ :=
    get_cookieDict (.str c.name) (.str c.value) (.bool c.secure) (.bool c.httpOnly)
      (.opt .str c.path) (.opt .str c.domain) (rawExpires env (.opt .datetime c.expires))
      (.opt .int c.maxAge) (.opt (fun s => .int (Cookie.mode s)) c.sameSite)
  simp only [cookieDict, cookie, Cookie.entry_sameSite, field_eq_get goString rfl,
    field_eq_get goInt rfl, field_eq_get goBool rfl, hname, hvalue, hpath,
    hdomain, hexpires, hmaxAge, hsecure, hhttpOnly, hsameSite, goString_opt, goString_rawExpires,
    goInt_sameSite]
  cases goInt (.opt .int c.maxAge) <;> rfl

/-! ## There and back -/

/-- What Go reads of a cookie that it has reported. -/
def cookieTrip (env : PyEnv) (fracOk : Nat → Bool) (c : NetCookie) : Option Wire.Cookie :=
  match dictToCookie fracOk (convertCookie c) with
  | .error _ => none
  | .ok k =>
    match cookieToDict env k.toValue with
    | .error _ => none
    | .ok d => cookie d

/-- The attributes are those that were reported. -/
structure SameCookie (c : NetCookie) (w : Wire.Cookie) : Prop where
  name : w.name = utf8 c.name
  value : w.value = utf8 c.value
  path : w.path = utf8 c.path
  domain : w.domain = utf8 c.domain
  maxAge : w.maxAge = c.maxAge
  secure : w.secure = c.secure
  httpOnly : w.httpOnly = c.httpOnly
  sameSite : w.sameSite = c.sameSite

variable {c : NetCookie}

/-- What is left out when empty comes back empty. -/
theorem getD_ite_ne (s : String) : (if s ≠ "" then some s else none).getD "" = s := by
  by_cases h : s = ""
  · rw [if_neg (not_not.2 h), h]
    rfl
  · rw [if_pos h]
    rfl

theorem getD_ite_true (b : Bool) : (if b then some true else none).getD false = b := by
  cases b <;> rfl

/-- The number of a mode comes back by its name. -/
theorem mode_sameSiteName (m : Int) :
    (sameSiteName m).elim 0 Cookie.mode = m ↔ 0 ≤ m ∧ m ≤ 4 := by
  rw [sameSiteName]
  split_ifs with h₁ h₂ h₃ h₄
  · subst h₁
    exact iff_of_true (by decide) (by decide)
  · subst h₂
    exact iff_of_true (by decide) (by decide)
  · subst h₃
    exact iff_of_true (by decide) (by decide)
  · subst h₄
    exact iff_of_true (by decide) (by decide)
  · simp only [Option.elim_none]
    omega

theorem goInt_maxAge (n : Int) :
    goInt (.opt .int (if n ≠ 0 then some n else none)) = some n ↔ Fits n := by
  by_cases h : n = 0
  · subst h
    exact iff_of_true rfl (by unfold Fits; decide)
  · rw [if_pos h]
    exact goInt_eq_self_iff

/-- The cookie that Python makes has the attributes as they are reported. -/
theorem sameCookie_sent_iff {k : Cookie} (hk : dictToCookie fracOk (convertCookie c) = .ok k)
    (m : Int) : SameCookie c (k.sent env m) ↔ m = c.maxAge ∧ 0 ≤ c.sameSite ∧ c.sameSite ≤ 4 := by
  obtain ⟨expires, -, hk⟩ := Raising.bind_eq_ok_iff.1 hk
  cases hk
  rw [← mode_sameSiteName]
  constructor
  · exact fun h => ⟨h.maxAge, h.sameSite⟩
  · rintro ⟨hm, hsame⟩
    exact ⟨rfl, rfl, congrArg utf8 (getD_ite_ne _), congrArg utf8 (getD_ite_ne _), hm,
      getD_ite_true _, getD_ite_true _, hsame⟩

/-- A cookie comes back as it was reported, unless it has a date that Python cannot read:
    its numbers are such that Go has for them. -/
theorem cookie_trip_iff (env : PyEnv) (fracOk : Nat → Bool) (c : NetCookie) :
    (∃ w, cookieTrip env fracOk c = some w ∧ SameCookie c w) ↔
      (c.expires.isZero = true ∨ c.expires.Readable fracOk) ∧ Fits c.maxAge ∧
        0 ≤ c.sameSite ∧ c.sameSite ≤ 4 := by
  rw [← returns_dictToCookie_iff]
  cases hk : dictToCookie fracOk (convertCookie c) with
  | error e =>
    rw [cookieTrip, hk]
    exact iff_of_false (fun ⟨_, h, _⟩ => nomatch h) fun h => not_returns_error e h.1
  | ok k =>
    obtain ⟨d, hd, hcookie⟩ := cookie_cookieToDict env k
    have htrip : cookieTrip env fracOk c = (goInt (.opt .int k.maxAge)).map (k.sent env) := by
      rw [cookieTrip, hk]
      simp only [hd]
      exact hcookie
    have hmaxAge : k.maxAge = if c.maxAge ≠ 0 then some c.maxAge else none := by
      obtain ⟨expires, -, hk⟩ := Raising.bind_eq_ok_iff.1 hk
      cases hk
      rfl
    rw [htrip, hmaxAge, and_iff_right (returns_ok k), ← goInt_maxAge]
    constructor
    · rintro ⟨w, hw, hsame⟩
      obtain ⟨m, hm, rfl⟩ := Option.map_eq_some_iff.1 hw
      obtain ⟨rfl, hmode⟩ := (sameCookie_sent_iff hk m).1 hsame
      exact ⟨hm, hmode⟩
    · rintro ⟨hm, hmode⟩
      rw [hm]
      exact ⟨_, rfl, (sameCookie_sent_iff hk _).2 ⟨rfl, hmode⟩⟩

/-- `a=b; Expires=Sat, 01 Jan 0000 00:00:00 GMT`. -/
def NetCookie.yearZero : NetCookie where
  name := "a"
  value := "b"
  path := ""
  domain := ""
  expires := { Time.zero with year := 0, day_le := by decide }
  maxAge := 0
  secure := false
  httpOnly := false
  sameSite := 0

/-- A date in the year 0. -/
theorem not_forall_cookie_trip : ¬∀ (env : PyEnv) (fracOk : Nat → Bool) (c : NetCookie),
    c.name ≠ "" → Fits c.maxAge → 0 ≤ c.sameSite → c.sameSite ≤ 4 →
      ∃ w, cookieTrip env fracOk c = some w ∧ SameCookie c w := by
  intro h
  obtain ⟨w, hw, -⟩ := h .plain (fun _ => true) .yearZero (by decide) (by unfold Fits; decide)
    (by decide) (by decide)
  have hreturns : Returns (dictToCookie (fun _ => true) (convertCookie .yearZero)) := by
    rw [cookieTrip] at hw
    cases hk : dictToCookie (fun _ => true) (convertCookie .yearZero) with
    | error e =>
      rw [hk] at hw
      cases hw
    | ok k => exact returns_ok k
  rcases (returns_dictToCookie_iff _).1 hreturns with hzero | hreadable
  · exact absurd hzero (by decide)
  · exact absurd hreadable (by decide)

end CycleTLS
