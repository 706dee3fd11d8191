import CycleTLS.Lib.Raising
import CycleTLS.Schema
import Mathlib.Algebra.Group.Int.Defs
import Mathlib.Data.Set.List

/-!
# Delivery of responses

Which responses reach the caller of the Python client as they were received:
status, headers and body. Three things get in the way of a response that
`Do` received without an error:

* a text of its headers or of its URL that is not UTF-8 does not unpack;
* a cookie may report a date `datetime.fromisoformat` does not read;
* a status and a body may look like those of a failure (`LooksLikeFailure`).
-/

namespace CycleTLS

open Raising Text Utf8 Decimal

/-! ## Dates -/

variable {fracOk : Nat → Bool}

@[simp] theorem expect_cons (c : Char) (s : List Char) : expect c (c :: s) = some s := if_pos rfl

theorem expect_cons_of_ne {c d : Char} (h : d ≠ c) (s : List Char) : expect c (d :: s) = none :=
  if_neg h

namespace Time

theorem isDigit_of_mem_fraction {n : Nat} {c : Char} (hc : c ∈ fraction n) : c.isDigit := by
  rw [fraction, List.mem_reverse] at hc
  have := (List.dropWhile_suffix _).subset hc
  exact isDigit_of_mem_numeral (List.mem_reverse.1 this)

theorem formatYear_of_lt {y : Int} (h₀ : 0 ≤ y) (h : y < 10 ^ 4) :
    formatYear y = numeral 4 y.natAbs := by
  rw [formatYear, if_neg (by omega), padded_eq_numeral (by omega)]

variable (t : Time)

/-- The dates Python reads back, by its year and the digits of its fraction. -/
def Readable (fracOk : Nat → Bool) : Prop :=
  1 ≤ t.year ∧ t.year ≤ 9999 ∧
    (fraction t.nanosecond = [] ∨ fracOk (fraction t.nanosecond).length = true)

instance : Decidable (t.Readable fracOk) := by
  unfold Readable
  infer_instance

theorem daysIn_le (month : Nat) (year : Int) : daysIn month year ≤ 31 := by
  rw [daysIn]
  split_ifs <;> omega

/-- The fraction and the offset, after the seconds. -/
theorem readFraction_formatFraction (n : Nat) :
    readFraction fracOk (formatFraction n ++ "+00:00".toList) =
      if fraction n = [] then some (0, "+00:00".toList)
      else if fracOk (fraction n).length then some (microseconds (fraction n), "+00:00".toList)
      else none := by
  rw [formatFraction]
  by_cases h : fraction n = []
  · rw [if_pos h, if_pos h]
    rfl
  · have hall : ∀ c ∈ fraction n, c.isDigit = true := fun c hc => isDigit_of_mem_fraction hc
    have htake : (fraction n ++ "+00:00".toList).takeWhile Char.isDigit = fraction n := by
      rw [List.takeWhile_append_of_pos hall]
      exact List.append_nil _
    have hdrop : (fraction n ++ "+00:00".toList).dropWhile Char.isDigit = "+00:00".toList := by
      rw [List.dropWhile_append_of_pos hall]
      rfl
    rw [if_neg h, if_neg h, List.cons_append, readFraction, htake, hdrop]

/-- A date with a year of four digits is read back. -/
theorem readDate_append (h₀ : 0 ≤ t.year) (h : t.year < 10 ^ 4) (s : List Char) :
    readDate (formatYear t.year ++ '-' :: (numeral 2 t.month ++ '-' :: (numeral 2 t.day ++ s))) =
      some ((t.year.natAbs, t.month, t.day), s) := by
  have hyear : t.year.natAbs % 10 ^ 4 = t.year.natAbs := Nat.mod_eq_of_lt (by omega)
  have hmonth : t.month % 10 ^ 2 = t.month := Nat.mod_eq_of_lt (by have := t.month_le; omega)
  have hday : t.day % 10 ^ 2 = t.day :=
    Nat.mod_eq_of_lt (by have := Nat.le_trans t.day_le (daysIn_le _ _); omega)
  simp only [readDate, formatYear_of_lt h₀ h, readDigits_numeral_append, Option.bind_eq_bind,
    Option.bind_some, expect_cons, Option.pure_def, hyear, hmonth, hday]

/-- Other years are not read. -/
theorem readDate_eq_none (h : t.year < 0 ∨ 10 ^ 4 ≤ t.year) (s : List Char) :
    readDate (formatYear t.year ++ '-' :: s) = none := by
  rw [readDate]
  cases hr : readDigits 4 (formatYear t.year ++ '-' :: s) with
  | none => rfl
  | some r =>
    obtain ⟨n, s'⟩ := r
    obtain ⟨hs, hd⟩ := readDigits_eq_some hr
    rcases h with h | h
    · -- The first symbol is a sign.
      rw [formatYear, if_pos h] at hd
      exact absurd (hd '-' (by simp)) (by decide)
    · -- A fifth digit stands where a dash should be.
      rw [formatYear, if_neg (by omega)] at hs
      have hlen : 4 < (padded 4 t.year.natAbs).length := lt_length_padded (by decide) (by omega)
      rw [List.drop_append_of_le_length (Nat.le_of_lt hlen)] at hs
      cases hp : (padded 4 t.year.natAbs).drop 4 with
      | nil => exact absurd (List.drop_eq_nil_iff.1 hp) (by omega)
      | cons c cs =>
        have hc : c.isDigit :=
          isDigit_of_mem_padded (List.drop_subset 4 _ (hp ▸ List.mem_cons_self))
        have hne : c ≠ '-' := by
          rintro rfl
          exact absurd hc (by decide)
        rw [hs, hp, List.cons_append]
        simp only [Option.bind_eq_bind, Option.bind_some, expect_cons_of_ne hne, Option.bind_none]

theorem readClock_append (s : List Char) :
    readClock (numeral 2 t.hour ++ ':' ::
      (numeral 2 t.minute ++ ':' :: (numeral 2 t.second ++ s))) =
      some ((t.hour, t.minute, t.second), s) := by
  have hhour : t.hour % 10 ^ 2 = t.hour := Nat.mod_eq_of_lt (by have := t.hour_lt; omega)
  have hminute : t.minute % 10 ^ 2 = t.minute := Nat.mod_eq_of_lt (by have := t.minute_lt; omega)
  have hsecond : t.second % 10 ^ 2 = t.second := Nat.mod_eq_of_lt (by have := t.second_lt; omega)
  simp only [readClock, readDigits_numeral_append, Option.bind_eq_bind, Option.bind_some,
    expect_cons, Option.pure_def, hhour, hminute, hsecond]

/-- A date of Go is in the range of Python from the year 1 on. -/
theorem inRange_iff (h₀ : 0 ≤ t.year) (h : t.year < 10 ^ 4) (us : Nat) :
    DateTime.InRange ⟨t.year.natAbs, t.month, t.day, t.hour, t.minute, t.second, us⟩ ↔
      1 ≤ t.year := by
  have hcast : (t.year.natAbs : Int) = t.year := Int.natAbs_of_nonneg h₀
  refine ⟨fun hr => by have : 1 ≤ t.year.natAbs := hr.1; omega, fun h₁ => ?_⟩
  have h₂ : 1 ≤ t.year.natAbs := by omega
  have h₃ : t.year.natAbs ≤ 9999 := by omega
  exact ⟨h₂, h₃, t.month_pos, t.month_le, t.day_pos, hcast.symm ▸ t.day_le, t.hour_lt,
    t.minute_lt, t.second_lt⟩

/-- What is left to check once the digits of a date are read. -/
theorem fromisoformat_of_lt (h₀ : 0 ≤ t.year) (h : t.year < 10 ^ 4) :
    fromisoformat fracOk (t.formatUTC ++ "+00:00".toList) =
      (readFraction fracOk (formatFraction t.nanosecond ++ "+00:00".toList)).bind fun r =>
        if r.2 = "+00:00".toList ∧ 1 ≤ t.year then
          some ⟨t.year.natAbs, t.month, t.day, t.hour, t.minute, t.second, r.1⟩
        else none := by
  rw [fromisoformat, formatUTC]
  simp only [List.append_assoc, List.cons_append, t.readDate_append h₀ h, t.readClock_append,
    Option.bind_eq_bind, Option.bind_some, expect_cons, t.inRange_iff h₀ h]

/-- Python reads a date that Go wrote exactly when it is `Readable`. -/
theorem isSome_fromisoformat_iff :
    (fromisoformat fracOk (t.formatUTC ++ "+00:00".toList)).isSome ↔ t.Readable fracOk := by
  -- four digits are written for the years up to 9999; year 0 is read, but out of range
  by_cases h : 0 ≤ t.year ∧ t.year < 10 ^ 4
  · have hle : t.year ≤ 9999 := by omega
    rw [t.fromisoformat_of_lt h.1 h.2, readFraction_formatFraction, Readable, and_iff_right hle]
    by_cases hf : fraction t.nanosecond = []
    · rw [if_pos hf, Option.bind_some]
      simp [hf]
    · rw [if_neg hf, or_iff_right hf]
      by_cases hok : fracOk (fraction t.nanosecond).length = true
      · rw [if_pos hok, Option.bind_some]
        simp [hok]
      · rw [if_neg hok, Option.bind_none]
        simp [hok]
  · have hnone : fromisoformat fracOk (t.formatUTC ++ "+00:00".toList) = none := by
      rw [fromisoformat, formatUTC, List.append_assoc, List.cons_append,
        t.readDate_eq_none (by omega)]
      rfl
    rw [hnone]
    refine ⟨fun h => by simp at h, fun hr => absurd ?_ h⟩
    obtain ⟨h₁, h₂, _⟩ := hr
    omega

theorem withOffset_format : withOffset t.format.toList = t.formatUTC ++ "+00:00".toList := by
  rw [withOffset, format, String.toList_ofList, if_pos (List.suffix_append _ _),
    List.dropLast_concat]

end Time

/-! ## Cookies -/

/-- A computation that does not raise. -/
def Returns {α : Type*} (x : Except PyException α) : Prop := ∃ a, x = .ok a

theorem returns_ok {α : Type*} (a : α) : Returns (.ok a) := ⟨a, rfl⟩

theorem not_returns_error {α : Type*} (e : PyException) : ¬Returns (.error e : Except _ α) := by
  rintro ⟨_, h⟩
  cases h

theorem returns_bind_iff {α β : Type} {x : Except PyException α} {f : α → Except PyException β}
    (hf : ∀ a, Returns (f a)) : Returns (x >>= f) ↔ Returns x := by
  cases x with
  | ok a => exact iff_of_true (hf a) (returns_ok a)
  | error e => exact iff_of_false (not_returns_error e) (not_returns_error e)

/-- A cookie that Go reports is read unless its date is not. -/
theorem returns_dictToCookie_iff (c : NetCookie) :
    Returns (dictToCookie fracOk (convertCookie c)) ↔
      c.expires.isZero = true ∨ c.expires.Readable fracOk := by
  refine (returns_bind_iff fun _ => returns_ok _).trans ?_
  by_cases hz : c.expires.isZero = true
  · simp only [convertCookie, if_pos hz, readExpires]
    exact iff_of_true (returns_ok _) (.inl hz)
  · have hne : c.expires.format ≠ "" := fun h => by
      have := congrArg String.toList h
      simp [Time.format] at this
    simp only [convertCookie, if_neg hz, readExpires, if_neg hne, Time.withOffset_format]
    rw [or_iff_right hz, ← c.expires.isSome_fromisoformat_iff]
    cases fromisoformat fracOk (c.expires.formatUTC ++ "+00:00".toList) with
    | none => exact iff_of_false (not_returns_error _) (by simp)
    | some t => exact iff_of_true (returns_ok _) rfl

/-! ## Texts -/

/-- The bytes of a header. -/
def encodeHeader (h : String × String) : Bytes × Bytes := (utf8 h.1, utf8 h.2)

theorem unpackHeader_eq_some_iff {h : Bytes × Bytes} {t : String × String} :
    unpackHeader h = some t ↔ encodeHeader t = h := by
  obtain ⟨a, b⟩ := h
  obtain ⟨s, u⟩ := t
  constructor
  · intro h
    rw [unpackHeader] at h
    simp only [Option.bind_eq_bind, Option.bind_eq_some_iff, Option.pure_def,
      Option.some.injEq, Prod.mk.injEq, decode_eq_some_iff] at h
    obtain ⟨_, rfl, _, rfl, rfl, rfl⟩ := h
    rfl
  · intro h
    obtain ⟨rfl, rfl⟩ := Prod.mk.inj h
    simp [unpackHeader]

theorem mapM_unpackHeader_eq_some_iff {hs : List (Bytes × Bytes)} {ts : List (String × String)} :
    hs.mapM unpackHeader = some ts ↔ ts.map encodeHeader = hs := by
  induction hs generalizing ts with
  | nil => cases ts <;> simp
  | cons h hs ih =>
    rw [List.mapM_cons]
    cases ts with
    | nil =>
      cases unpackHeader h <;> cases hs.mapM unpackHeader <;> simp
    | cons t ts =>
      simp only [Option.bind_eq_bind, Option.bind_eq_some_iff, Option.pure_def, Option.some.injEq,
        List.cons.injEq, List.map_cons, unpackHeader_eq_some_iff, ih]
      constructor
      · rintro ⟨_, h₁, _, h₂, rfl, rfl⟩
        exact ⟨h₁, h₂⟩
      · rintro ⟨h₁, h₂⟩
        exact ⟨t, h₁, ts, h₂, rfl, rfl⟩

/-- What unpacks is the payload with its texts read. -/
theorem unpack_eq_some_iff {p : Payload} {d : ResponseDict} :
    unpack p = some d ↔
      p = ⟨d.requestID, d.status, utf8 d.body, d.headers.map encodeHeader, utf8 d.finalUrl, d.proto,
        d.bodyBytes, d.cookies⟩ := by
  obtain ⟨id, status, body, headers, url, proto, bytes, cookies⟩ := p
  simp only [unpack, Option.bind_eq_bind, Option.bind_eq_some_iff, Option.pure_def,
    Option.some.injEq, decode_eq_some_iff, mapM_unpackHeader_eq_some_iff, Payload.mk.injEq]
  constructor
  · rintro ⟨_, rfl, _, rfl, _, rfl, rfl⟩
    simp
  · rintro ⟨rfl, rfl, rfl, rfl, rfl, rfl, rfl, rfl⟩
    exact ⟨_, rfl, _, rfl, _, rfl, rfl⟩

theorem exists_map_encodeHeader_iff {hs : List (Bytes × Bytes)} :
    (∃ ts, List.map encodeHeader ts = hs) ↔
      ∀ h ∈ hs, (decode h.1).isSome = true ∧ (decode h.2).isSome = true := by
  refine (Set.ext_iff.1 (Set.range_list_map encodeHeader) hs).trans ?_
  refine forall₂_congr fun h _ => ?_
  rw [isSome_decode_iff, isSome_decode_iff]
  constructor
  · rintro ⟨t, rfl⟩
    exact ⟨⟨_, rfl⟩, ⟨_, rfl⟩⟩
  · rintro ⟨⟨s, hs⟩, ⟨t, ht⟩⟩
    exact ⟨(s, t), Prod.ext hs.symm ht.symm⟩

/-! ## Failures -/

/-- The marks by which a response is taken for a failure. -/
def Marked (status : Int) (body : List Char) : Prop :=
  status = 0 ∨ matchesAny (lower body) ["syscall error:"] = true ∨
    (status ∈ errorStatuses ∧ matchesAny body ["->"] = true)

/-- A failure is given a class by its status alone, by a keyword, or by both. -/
def Classified (status : Int) (text : List Char) : Prop :=
  status ∈ [0, 408, 421, 502] ∨
    matchesAny text (dnsPatterns ++ timeoutPatterns ++ connectionPatterns ++ tlsPatterns ++
      refusedPatterns ++ urlPatterns) = true ∨
    (status = 495 ∧ matchesAny text tlsStatusPatterns = true) ∨
    (status = 405 ∧ matchesAny text ["addr"] = true) ∨
    (status = 401 ∧ matchesAny text ["syscall"] = true)

/-- The responses that are turned into exceptions. -/
def LooksLikeFailure (status : Int) (body : List Char) : Prop :=
  ¬(200 ≤ status ∧ status < 400) ∧ Marked status body ∧ Classified status (lower body)

theorem matchesAny_append (text : List Char) (ps qs : List String) :
    matchesAny text (ps ++ qs) = (matchesAny text ps || matchesAny text qs) := by
  simp [matchesAny, hits]

theorem isErrorResponse_iff {status : Int} {body : List Char} :
    isErrorResponse status body = true ↔ Marked status body := by
  simp [isErrorResponse, Marked, or_assoc]

theorem isSome_ite_some_iff {α : Type*} {c : Prop} [Decidable c] {a : α} {o : Option α} :
    (if c then some a else o).isSome = true ↔ c ∨ o.isSome = true := by
  by_cases h : c <;> simp [h]

theorem classify_isSome_iff {status : Int} {text : List Char} :
    (classify status text).isSome ↔ Classified status text := by
  rw [classify, Classified]
  simp only [isSome_ite_some_iff, matchesAny_append, Bool.or_eq_true, Bool.and_eq_true,
    decide_eq_true_eq, Option.isSome_none, Bool.false_eq_true, or_false, List.mem_cons,
    List.not_mem_nil]
  -- The same conditions, in another order.
  refine iff_of_eq ?_
  ac_rfl

/-- A payload raises when it looks like a failure. -/
theorem returns_raiseForErrorResponse_iff (d : ResponseDict) :
    Returns (raiseForErrorResponse d) ↔ ¬LooksLikeFailure d.status d.body.toList := by
  rw [raiseForErrorResponse, LooksLikeFailure, ← classify_isSome_iff, ← isErrorResponse_iff]
  by_cases hok : 200 ≤ d.status ∧ d.status < 400
  · rw [if_pos hok]
    exact iff_of_true (returns_ok _) fun h => h.1 hok
  rw [if_neg hok]
  by_cases herr : isErrorResponse d.status d.body.toList = true
  · rw [if_neg (by simp [herr])]
    cases hc : classify d.status (lower d.body.toList) with
    | none => exact iff_of_true (returns_ok _) fun h => by simp at h
    | some c => exact iff_of_false (not_returns_error _) fun h => h ⟨hok, herr, rfl⟩
  · rw [if_pos (by simp [herr])]
    exact iff_of_true (returns_ok _) fun h => herr h.2.1

/-! ## Responses -/

/-- The body as Python sees it: nothing when it is not text. -/
def bodyText (body : Bytes) : String := (decode body).getD ""

@[simp] theorem bodyText_utf8 (s : String) : bodyText (utf8 s) = s := by
  rw [bodyText, decode_utf8, Option.getD_some]

theorem utf8_bodyText (body : Bytes) :
    utf8 (bodyText body) = if (decode body).isSome then body else [] := by
  rw [bodyText]
  cases h : decode body with
  | none => rfl
  | some s => exact (decode_eq_some_iff.1 h).symm

/-- A payload of a response unpacks when the texts of its headers and its URL do. -/
theorem unpack_buildResponsePayload_eq_some_iff (id : String) (resp : GoResponse)
    (d : ResponseDict) :
    unpack (buildResponsePayload id resp) = some d ↔
      d.headers.map encodeHeader = resp.headers ∧ utf8 d.finalUrl = resp.finalUrl ∧
        d = ⟨id, resp.status, bodyText resp.body, d.headers, d.finalUrl, some resp.proto,
          if resp.bodyBytes.length > 0 then some resp.bodyBytes else none,
          convertCookies resp.cookies⟩ := by
  obtain ⟨rid, status, body, headers, url, proto, bytes, cookies⟩ := d
  rw [unpack_eq_some_iff]
  simp only [buildResponsePayload, ← utf8_bodyText, Payload.mk.injEq, ResponseDict.mk.injEq]
  constructor
  · rintro ⟨h₁, h₂, hb, h₄, h₅, h₆, h₇, h₈⟩
    have hbody : bodyText resp.body = body := by
      have := congrArg decode hb
      rwa [decode_utf8, decode_utf8, Option.some.injEq] at this
    exact ⟨h₄.symm, h₅.symm, h₁.symm, h₂.symm, hbody.symm, trivial, trivial, h₆.symm, h₇.symm,
      h₈.symm⟩
  · rintro ⟨h₁, h₂, h₃, h₄, h₅, -, -, h₆, h₇, h₈⟩
    exact ⟨h₃.symm, h₄.symm, by rw [h₅], h₁.symm, h₂.symm, h₆.symm, h₇.symm, h₈.symm⟩

/-- Whether the caller has the response that `Do` returned: its status, its
    headers and its body. -/
def Delivers (resp : GoResponse) (x : Except PyException Response) : Prop :=
  ∃ r, x = .ok r ∧ r.statusCode = resp.status ∧ r.rawHeaders.map encodeHeader = resp.headers ∧
    r.content = resp.body

/-- The responses that can be delivered. -/
structure Deliverable (fracOk : Nat → Bool) (resp : GoResponse) : Prop where
  headers : ∀ h ∈ resp.headers, (decode h.1).isSome = true ∧ (decode h.2).isSome = true
  finalUrl : (decode resp.finalUrl).isSome = true
  cookies : ∀ c ∈ resp.cookies, c.expires.isZero = true ∨ c.expires.Readable fracOk
  body : ¬LooksLikeFailure resp.status (bodyText resp.body).toList

theorem returns_readCookies_iff {cookies : List CookieDict} :
    Returns (readCookies fracOk cookies) ↔ ∀ c ∈ cookies, Returns (dictToCookie fracOk c) := by
  refine Iff.trans ?_ exists_mapM_eq_ok_iff
  rw [readCookies]
  split_ifs with hc
  · exact returns_bind_iff fun _ => returns_ok _
  · rw [List.length_eq_zero_iff.1 (by omega : cookies.length = 0)]
    exact iff_of_true (returns_ok _) (returns_ok _)

/-- What a dictionary becomes. -/
theorem dictToResponse_eq_ok_iff {d : ResponseDict} {r : Response} :
    dictToResponse fracOk d = .ok r ↔
      Returns (raiseForErrorResponse d) ∧ ∃ cs, readCookies fracOk d.cookies = .ok cs ∧
        r = ⟨d.requestID, d.status, d.headers, d.body, d.bodyBytes.filter fun b => b.length > 0, cs,
          some d.finalUrl, d.proto⟩ := by
  rw [dictToResponse, if_pos rfl, bind_eq_ok_iff]
  constructor
  · rintro ⟨u, hu, h⟩
    obtain ⟨cs, hcs, h⟩ := bind_eq_ok_iff.1 h
    exact ⟨⟨u, hu⟩, cs, hcs, (Except.ok.inj h).symm⟩
  · rintro ⟨⟨u, hu⟩, cs, hcs, rfl⟩
    exact ⟨u, hu, bind_eq_ok_iff.2 ⟨cs, hcs, rfl⟩⟩

/-- A body is delivered in its bytes, or as the empty text. -/
theorem content_eq (body : Bytes) :
    ((if body.length > 0 then some body else none : Option Bytes).filter
      fun b => b.length > 0).getD (utf8 (bodyText body)) = body := by
  by_cases h : body.length > 0
  · rw [if_pos h, Option.filter_some, if_pos (decide_eq_true h)]
    rfl
  · rw [List.length_eq_zero_iff.1 (by omega : body.length = 0)]
    exact utf8_bodyText []

theorem returns_readCookies_convertCookies_iff {cookies : List NetCookie} :
    Returns (readCookies fracOk (convertCookies cookies)) ↔
      ∀ c ∈ cookies, c.expires.isZero = true ∨ c.expires.Readable fracOk := by
  rw [returns_readCookies_iff, convertCookies]
  simp only [List.forall_mem_map, returns_dictToCookie_iff]

/-- A response the caller has holds the cookies of the payload. -/
theorem readCookies_of_receive {p : Payload} {r : Response} (h : receive fracOk p = .ok r) :
    readCookies fracOk p.cookies = .ok r.rawCookies := by
  rw [receive] at h
  cases hu : unpack p with
  | none => rw [hu] at h; cases h
  | some d =>
    rw [hu] at h
    obtain ⟨-, cs, hcs, rfl⟩ := dictToResponse_eq_ok_iff.1 h
    rw [unpack_eq_some_iff.1 hu]
    exact hcs

/-- What the caller has was deliverable. -/
theorem deliverable_of_receive {id : String} {resp : GoResponse} {r : Response}
    (h : receive fracOk (buildResponsePayload id resp) = .ok r) : Deliverable fracOk resp := by
  have hcookies := readCookies_of_receive h
  rw [receive] at h
  cases hu : unpack (buildResponsePayload id resp) with
  | none => rw [hu] at h; cases h
  | some d =>
    rw [hu] at h
    obtain ⟨h₁, h₂, h₃⟩ := (unpack_buildResponsePayload_eq_some_iff _ _ _).1 hu
    obtain ⟨hraise, -⟩ := dictToResponse_eq_ok_iff.1 h
    rw [returns_raiseForErrorResponse_iff, h₃] at hraise
    exact ⟨exists_map_encodeHeader_iff.1 ⟨_, h₁⟩, isSome_decode_iff.2 ⟨_, h₂.symm⟩,
      returns_readCookies_convertCookies_iff.1 ⟨_, hcookies⟩, hraise⟩

/-- A response whose body is in its bytes is delivered when it is deliverable. -/
theorem delivers_iff (id : String) (resp : GoResponse) (hbytes : resp.bodyBytes = resp.body) :
    Delivers resp (receive fracOk (buildResponsePayload id resp)) ↔ Deliverable fracOk resp := by
  constructor
  · rintro ⟨r, hr, -⟩
    exact deliverable_of_receive hr
  · rintro ⟨hheaders, hurl, hdates, hbody⟩
    obtain ⟨hs, hhs⟩ := exists_map_encodeHeader_iff.2 hheaders
    obtain ⟨u, hu⟩ := isSome_decode_iff.1 hurl
    obtain ⟨cs, hcs⟩ := returns_readCookies_convertCookies_iff.2 hdates
    have hunpack := (unpack_buildResponsePayload_eq_some_iff id resp
      ⟨id, resp.status, bodyText resp.body, hs, u, some resp.proto,
        if resp.bodyBytes.length > 0 then some resp.bodyBytes else none,
        convertCookies resp.cookies⟩).2 ⟨hhs, hu.symm, rfl⟩
    -- the response that is received, so that its content is the one left to compare
    have hreceive : ∃ r, receive fracOk (buildResponsePayload id resp) = .ok r ∧ r =
        (⟨id, resp.status, hs, bodyText resp.body, (if resp.bodyBytes.length > 0 then
          some resp.bodyBytes else none : Option Bytes).filter fun b => b.length > 0, cs, some u,
          some resp.proto⟩ : Response) := by
      rw [receive, hunpack]
      exact ⟨_, dictToResponse_eq_ok_iff.2
        ⟨(returns_raiseForErrorResponse_iff _).2 hbody, cs, hcs, rfl⟩, rfl⟩
    obtain ⟨r, hr, rfl⟩ := hreceive
    refine ⟨_, hr, rfl, hhs, ?_⟩
    rw [Response.content, hbytes]
    exact content_eq resp.body

/-- A response that was received without an error reaches the caller as it is
    exactly when its texts are UTF-8, the dates of its cookies can be read, and
    its status and body do not look like a failure. -/
theorem delivers_received_iff (fracOk : Nat → Bool) (id : String) (status : Int) (body : Bytes)
    (headers : List (Bytes × Bytes)) (cookies : List NetCookie) (finalUrl : Bytes)
    (proto : String) :
    Delivers (Do.received status body headers cookies finalUrl proto)
        (receive fracOk (buildResponsePayload id
          (Do.received status body headers cookies finalUrl proto))) ↔
      Deliverable fracOk (Do.received status body headers cookies finalUrl proto) :=
  delivers_iff id _ rfl

/-- The page of a gateway with an HTML comment: it is taken for a failure. -/
theorem not_forall_delivers_received :
    ¬∀ (status : Int) (body : Bytes) (headers : List (Bytes × Bytes)) (cookies : List NetCookie)
        (finalUrl : Bytes) (proto : String),
      Delivers (Do.received status body headers cookies finalUrl proto)
        (receive (fun _ => true) (buildResponsePayload "cycleTLSRequest"
          (Do.received status body headers cookies finalUrl proto))) := by
  intro h
  have hlooks : LooksLikeFailure 502 "<!-- down -->".toList :=
    ⟨by decide, .inr (.inr ⟨by decide, by decide +kernel⟩), .inl (by decide)⟩
  have hpage := h 502 (utf8 "<!-- down -->") [] [] [] "HTTP/1.1"
  have hbody := ((delivers_iff _ _ rfl).1 hpage).body
  simp only [Do.received, bodyText_utf8] at hbody
  exact hbody hlooks

end CycleTLS
