import CycleTLS.Lib.Dict
import CycleTLS.Response

/-!
# The recording jar (`cookiejar.go`)

A request has a jar of its own, which records the cookies of each response until
they are deleted (`RecordingJar`). What is reported in the end are the recorded
cookies and those of the final response together (`mergedResponseCookies`).
-/

namespace CycleTLS

/-- The fields of a time, the most significant first. -/
def Time.fields (t : Time) : List Int :=
  [t.year, t.month, t.day, t.hour, t.minute, t.second, t.nanosecond]

/-- `After`. -/
def Time.after (t u : Time) : Bool := decide (u.fields < t.fields)

/-- A cookie of a `Set-Cookie` header, and the time it is received at. -/
structure CookieEvent where
  cookie : NetCookie
  now : Time
  deriving DecidableEq

namespace CookieEvent

/-- The name of the cookie. -/
def name (e : CookieEvent) : String := e.cookie.name

/-- Whether the cookie is deleted: by a negative `Max-Age`, or a past expiry. -/
def deletes (e : CookieEvent) : Bool :=
  e.cookie.maxAge < 0 || !e.cookie.expires.isZero && e.now.after e.cookie.expires

/-- The cookie, unless it is deleted. -/
def kept (e : CookieEvent) : Option NetCookie := if e.deletes then none else some e.cookie

end CookieEvent

/-! ## Recording -/

/-- What a `recordingJar` records. -/
structure RecordingJar where
  seen : String → Option NetCookie
  keys : List String

namespace RecordingJar

/-- `newRecordingJar`. -/
def new : RecordingJar := ⟨fun _ => none, []⟩

/-- The body of the loop in `SetCookies`. -/
def record (j : RecordingJar) (e : CookieEvent) : RecordingJar :=
  if e.deletes then { j with seen := Function.update j.seen e.name none }
  else
    { seen := Function.update j.seen e.name (some e.cookie)
      keys := if (j.seen e.name).isSome then j.keys else j.keys ++ [e.name] }

/-- `SetCookies`, without the inner jar. -/
def setCookies (j : RecordingJar) (events : List CookieEvent) : RecordingJar :=
  events.foldl record j

/-- `cookies`. -/
def cookies (j : RecordingJar) : List NetCookie := j.keys.filterMap j.seen

theorem seen_record (j : RecordingJar) (e : CookieEvent) :
    (j.record e).seen = Function.update j.seen e.name e.kept := by
  rw [record, CookieEvent.kept]
  split_ifs <;> rfl

/-- What is recorded of a name is what its last cookie left. -/
theorem seen_setCookies (j : RecordingJar) (events : List CookieEvent) (n : String) :
    (j.setCookies events).seen n =
      (Log.latest CookieEvent.name n events).elim (j.seen n) CookieEvent.kept := by
  rw [← Log.foldl_update, setCookies]
  induction events generalizing j with
  | nil => rfl
  | cons e events ih => rw [List.foldl_cons, List.foldl_cons, ih, seen_record]

/-- Recorded cookies are recorded under their names, which are all listed. -/
def Consistent (j : RecordingJar) : Prop := ∀ n c, j.seen n = some c → c.name = n ∧ n ∈ j.keys

theorem consistent_new : new.Consistent := fun _ _ h => nomatch h

theorem Consistent.record {j : RecordingJar} (h : j.Consistent) (e : CookieEvent) :
    (j.record e).Consistent := by
  intro n c hn
  rw [seen_record] at hn
  by_cases hne : n = e.name
  · subst hne
    rw [Function.update_self, CookieEvent.kept] at hn
    -- the name just recorded is listed, now or before; the other names stay
    obtain ⟨hd, hc⟩ := Option.ite_none_left_eq_some.1 hn
    obtain rfl := Option.some.inj hc
    refine ⟨rfl, ?_⟩
    rw [RecordingJar.record, if_neg hd]
    cases hs : j.seen e.name with
    | some c => simpa using (h _ _ hs).2
    | none => simp
  · rw [Function.update_of_ne hne] at hn
    refine ⟨(h n c hn).1, ?_⟩
    have hmem := (h n c hn).2
    rw [RecordingJar.record]
    split_ifs
    · exact hmem
    · exact hmem
    · exact List.mem_append_left _ hmem

theorem Consistent.setCookies {j : RecordingJar} (h : j.Consistent) (events : List CookieEvent) :
    (j.setCookies events).Consistent := by
  induction events generalizing j with
  | nil => exact h
  | cons e events ih => exact ih (h.record e)

theorem Consistent.mem_cookies_iff {j : RecordingJar} (h : j.Consistent) {c : NetCookie} :
    c ∈ j.cookies ↔ j.seen c.name = some c := by
  rw [cookies, List.mem_filterMap]
  constructor
  · rintro ⟨n, -, hn⟩
    rwa [(h n c hn).1]
  · intro hc
    exact ⟨c.name, (h _ c hc).2, hc⟩

/-- A name is listed twice where it was deleted in between, but with one
    cookie. -/
theorem Consistent.latest_cookies {j : RecordingJar} (h : j.Consistent) (n : String) :
    Log.latest NetCookie.name n j.cookies = j.seen n := by
  cases hl : Log.latest NetCookie.name n j.cookies with
  | some c =>
    have hc := h.mem_cookies_iff.1 (Log.mem_of_latest hl)
    rw [← hc, Log.key_of_latest hl]
  | none =>
    cases hs : j.seen n with
    | none => rfl
    | some c =>
      have hname := (h n c hs).1
      refine absurd hname (Log.latest_eq_none_iff.1 hl c (h.mem_cookies_iff.2 ?_))
      rw [hname, hs]

end RecordingJar

/-! ## Merging -/

/-- `mergedResponseCookies`, on the cookies of a jar and those of the final
    response; `seen` and `order` make a dictionary. -/
def mergedResponseCookies (recorded final : List NetCookie) : List NetCookie :=
  let seen := Dict.empty.setAll NetCookie.name id recorded
  (seen.setAll NetCookie.name id final).values

/-- The last cookie of a name is reported, those of the final response last. -/
theorem latest_mergedResponseCookies (recorded final : List NetCookie) (n : String) :
    Log.latest NetCookie.name n (mergedResponseCookies recorded final) =
      Log.latest NetCookie.name n (recorded ++ final) := by
  have hkeyed : ((Dict.empty.setAll NetCookie.name id recorded).setAll NetCookie.name id
      final).Keyed NetCookie.name :=
    (Dict.keyed_empty.setAll (fun _ => rfl) _).setAll (fun _ => rfl) _
  rw [mergedResponseCookies, hkeyed.latest_values, Dict.get?_setAll, Dict.get?_setAll,
    Dict.get?_empty, Option.or_none, Option.map_id, id, id, Log.latest_append]

end CycleTLS
