import CycleTLS.Delivery

/-!
# Failures of the transport

What becomes of an error on its way to the caller: `parseError` turns it into
a status and a message, `Do` into a response, and the Python side back into an
exception, if it recognises it (`raises_failed_iff`). The error text is
searched twice for keywords, once on each side, and it contains the URL: so
the URL of a request has a say in how its failure is classified
(`outcome_eq_forall_iff`).
-/

namespace CycleTLS

open Text Utf8

/-! ## Keywords in composed texts -/

/-- Keywords that do not reach across quotes and arrows. -/
def Plain (patterns : List String) : Prop :=
  ∀ p ∈ patterns, '"' ∉ p.toList ∧ '-' ∉ p.toList ∧ p.toList.head? ≠ some '>' ∧
    p.toList.head? ≠ some ' ' ∧ p.toList.head? ≠ some ':' ∧ p.toList.getLast? ≠ some ' '

instance (patterns : List String) : Decidable (Plain patterns) :=
  inferInstanceAs (Decidable (∀ p ∈ patterns, _))

variable {patterns : List String}

/-- An arrow separates what stands on its sides. -/
theorem matchesAny_arrow (h : Plain patterns) (s t : List Char) :
    matchesAny (s ++ " -> ".toList ++ t) patterns =
      (matchesAny s patterns || matchesAny t patterns) := by
  have hl : ∀ P : List Char → Prop, (∀ p ∈ patterns, P p.toList) →
      ∀ p ∈ patterns.map String.toList, P p := fun P hP => List.forall_mem_map.2 hP
  have hs : s ++ " -> ".toList ++ t = (s ++ [' ']) ++ '-' :: '>' :: ' ' :: t := by simp
  rw [matchesAny, hs, hits_append_cons (hl _ fun p hp => (h p hp).2.1),
    hits_concat (hl _ fun p hp => (h p hp).2.2.2.2.2), hits_cons (hl _ fun p hp => (h p hp).2.2.1),
    hits_cons (hl _ fun p hp => (h p hp).2.2.2.1)]
  rfl

/-- Quotes separate what stands between them from what stands around them. -/
theorem matchesAny_quotes (h : Plain patterns) (a q b : List Char) :
    matchesAny (a ++ '"' :: (q ++ '"' :: b)) patterns =
      (matchesAny a patterns || (matchesAny q patterns || matchesAny b patterns)) := by
  have hl : ∀ p ∈ patterns.map String.toList, '"' ∉ p :=
    List.forall_mem_map.2 fun p hp => (h p hp).1
  rw [matchesAny, hits_append_cons hl, hits_append_cons hl]
  rfl

/-- What `createErrorString` writes before the error. -/
def syscallError : String := "Request returned a Syscall Error: "

/-- The keywords that give a failure its class whatever its status. -/
def failurePatterns : List String :=
  dnsPatterns ++ timeoutPatterns ++ connectionPatterns ++ tlsPatterns ++ refusedPatterns ++
    urlPatterns

theorem createErrorString_utf8 (s : String) :
    createErrorString (utf8 s) = utf8 (syscallError ++ s) := by
  rw [createErrorString, utf8_append]
  rfl

/-- Plain keywords that are not in the first words of `createErrorString`, and
    do not start there. -/
def Apart (patterns : List String) : Prop :=
  Plain patterns ∧ Seamless (patterns.map String.toList) (lower syscallError.toList) ∧
    matchesAny (lower syscallError.toList) patterns = false

instance (patterns : List String) : Decidable (Apart patterns) :=
  inferInstanceAs (Decidable (_ ∧ _ ∧ _))

theorem apart_of_mem :
    ∀ ps ∈ [failurePatterns, tlsStatusPatterns, ["addr"]], Apart ps := by
  simp only [Apart, Plain, matchesAny, toList_eq_chars]
  decide +kernel

theorem infix_lower {s t : List Char} (h : s <:+: t) : lower s <:+: lower t := by
  obtain ⟨a, b, rfl⟩ := h
  exact ⟨lower a, lower b, by rw [lower_append, lower_append]⟩

theorem lower_arrow : lower " -> ".toList = " -> ".toList := by decide

/-- In the lower case of a message that repeats a part of the error, a keyword
    is one of the error. -/
theorem matchesAny_message (h : Apart patterns) {c t : String} (hct : c.toList <:+: t.toList) :
    matchesAny (lower (syscallError ++ c ++ " -> " ++ t).toList) patterns =
      matchesAny (lower t.toList) patterns := by
  have hsub : matchesAny (lower c.toList) patterns = true →
      matchesAny (lower t.toList) patterns = true := hits_mono (infix_lower hct)
  rw [String.toList_append, String.toList_append, String.toList_append, lower_append, lower_append,
    lower_append, lower_arrow, matchesAny_arrow h.1, matchesAny, hits_append h.2.1]
  change (matchesAny (lower syscallError.toList) patterns || matchesAny (lower c.toList) patterns ||
    matchesAny (lower t.toList) patterns) = _
  rw [h.2.2, Bool.false_or]
  cases hc : matchesAny (lower c.toList) patterns
  · rfl
  · rw [hsub hc]
    rfl

/-- A message of `createErrorString` contains its first words. -/
theorem matchesAny_message_syscall (c t : String)
    (hn : patterns = ["syscall"] ∨ patterns = ["syscall error:"]) :
    matchesAny (lower (syscallError ++ c ++ " -> " ++ t).toList) patterns = true := by
  have hpre : syscallError.toList <:+: (syscallError ++ c ++ " -> " ++ t).toList := by
    rw [String.append_assoc, String.append_assoc, String.toList_append]
    exact (List.prefix_append _ _).isInfix
  refine hits_mono (infix_lower hpre) ?_
  rcases hn with rfl | rfl <;>
  · simp only [toList_eq_chars]
    decide +kernel

/-! ## What the caller gets -/

/-- The caller gets a `CycleTLSError`. -/
def Raises (x : Except PyException Response) : Prop :=
  ∃ e, x = .error e ∧ e.cls.IsCycleTLSError

theorem forall_ite_some {α : Type*} {P : α → Prop} {c : Prop} [Decidable c] {a : α}
    {o : Option α} (ha : P a) (ho : ∀ x, o = some x → P x) :
    ∀ x, (if c then some a else o) = some x → P x := by
  intro x hx
  by_cases hc : c
  · rw [if_pos hc] at hx
    exact Option.some.inj hx ▸ ha
  · rw [if_neg hc] at hx
    exact ho x hx

/-- Every class a failure is given is one of the library. -/
theorem isCycleTLSError_of_classify (status : Int) (text : List Char) :
    ∀ c, classify status text = some c → c.1.IsCycleTLSError := by
  rw [classify]
  repeat refine forall_ite_some (by decide) ?_
  rintro c ⟨⟩

variable {fracOk : Nat → Bool}

/-- The dictionary of a failed exchange. -/
def failedDict (id : String) (err : GoError) : ResponseDict where
  requestID := id
  status := (Do.failed err).status
  body := bodyText (Do.failed err).body
  headers := []
  finalUrl := ""
  proto := some ""
  bodyBytes := none
  cookies := []

theorem receive_failed (id : String) (err : GoError) :
    receive fracOk (buildResponsePayload id (Do.failed err)) =
      dictToResponse fracOk (failedDict id err) := by
  have h := (unpack_buildResponsePayload_eq_some_iff id (Do.failed err) (failedDict id err)).2
    ⟨rfl, rfl, rfl⟩
  rw [receive, h]

/-- The class of exception the caller gets, if any. -/
def exceptionClass : Except PyException Response → Option ExceptionClass
  | .ok _ => none
  | .error e => some e.cls

/-- The class of exception a status and a body raise, if any. -/
def raisedClass (status : Int) (body : List Char) : Option ExceptionClass :=
  if ¬(200 ≤ status ∧ status < 400) ∧ isErrorResponse status body then
    (classify status (lower body)).map Prod.fst
  else none

theorem raiseForErrorResponse_cases (d : ResponseDict) :
    (raiseForErrorResponse d = .ok () ∧ raisedClass d.status d.body.toList = none) ∨
      ∃ e, raiseForErrorResponse d = .error e ∧
        raisedClass d.status d.body.toList = some e.cls ∧ e.cls.IsCycleTLSError := by
  rw [raiseForErrorResponse, raisedClass]
  by_cases h₁ : 200 ≤ d.status ∧ d.status < 400
  · rw [if_pos h₁, if_neg fun h => h.1 h₁]
    exact .inl ⟨rfl, rfl⟩
  by_cases h₂ : isErrorResponse d.status d.body.toList = true
  · rw [if_neg h₁, if_neg (by simp [h₂]), if_pos ⟨h₁, h₂⟩]
    cases hc : classify d.status (lower d.body.toList) with
    | none => exact .inl ⟨rfl, rfl⟩
    | some c => exact .inr ⟨_, rfl, rfl, isCycleTLSError_of_classify _ _ c hc⟩
  · rw [if_neg h₁, if_pos (by simp [h₂]), if_neg fun h => h₂ h.2]
    exact .inl ⟨rfl, rfl⟩

/-- A failed exchange raises by its status and its text. -/
theorem exceptionClass_failed (id : String) (err : GoError) :
    exceptionClass (receive fracOk (buildResponsePayload id (Do.failed err))) =
      raisedClass (Do.failed err).status (bodyText (Do.failed err).body).toList := by
  rw [receive_failed, dictToResponse, if_pos rfl]
  rcases raiseForErrorResponse_cases (failedDict id err) with ⟨h, hc⟩ | ⟨e, h, hc, _⟩
  · rw [h]
    exact hc.symm
  · rw [h]
    exact hc.symm

theorem raises_failed_iff_looksLikeFailure (id : String) (err : GoError) :
    Raises (receive fracOk (buildResponsePayload id (Do.failed err))) ↔
      LooksLikeFailure (Do.failed err).status (bodyText (Do.failed err).body).toList := by
  have hret := returns_raiseForErrorResponse_iff (failedDict id err)
  rw [receive_failed, dictToResponse, if_pos rfl]
  rcases raiseForErrorResponse_cases (failedDict id err) with ⟨h, _⟩ | ⟨e, h, _, he⟩
  · rw [h] at hret ⊢
    refine iff_of_false ?_ (hret.1 (returns_ok _))
    rintro ⟨e, he, _⟩
    cases he
  · rw [h] at hret ⊢
    exact iff_of_true ⟨e, rfl, he⟩ (not_not.1 fun hn => not_returns_error _ (hret.2 hn))

/-! ## Which failures raise -/

/-- A text without a class of its own only fails with the status 0. -/
theorem looksLikeFailure_nil_iff {status : Int} : LooksLikeFailure status [] ↔ status = 0 := by
  constructor
  · rintro ⟨_, h | h | ⟨_, h⟩, _⟩
    · exact h
    · exact absurd h (by decide)
    · exact absurd h (by decide)
  · rintro rfl
    exact ⟨by decide, .inl rfl, .inl (by decide)⟩

theorem looksLikeFailure_zero (body : List Char) : LooksLikeFailure 0 body :=
  ⟨by decide, .inl rfl, .inl (by decide)⟩

/-- The class of a message that repeats a part of the error comes from the error. -/
theorem classified_message_iff {status : Int} {c t : String} (hct : c.toList <:+: t.toList) :
    Classified status (lower (syscallError ++ c ++ " -> " ++ t).toList) ↔
      status ∈ [0, 401, 408, 421, 502] ∨ matchesAny (lower t.toList) failurePatterns = true ∨
        (status = 495 ∧ matchesAny (lower t.toList) tlsStatusPatterns = true) ∨
        (status = 405 ∧ matchesAny (lower t.toList) ["addr"] = true) := by
  have hfail := matchesAny_message (apart_of_mem failurePatterns (by simp)) hct
  have htls := matchesAny_message (apart_of_mem tlsStatusPatterns (by simp)) hct
  have haddr := matchesAny_message (apart_of_mem ["addr"] (by simp)) hct
  have hsys := matchesAny_message_syscall c t (.inl rfl)
  rw [Classified]
  change _ ∨ matchesAny _ failurePatterns = true ∨ _ ↔ _
  rw [hfail, htls, haddr, hsys]
  simp only [List.mem_cons, List.not_mem_nil, or_false, and_true]
  refine iff_of_eq ?_
  ac_rfl

section Failed

variable {err : GoError}

/-- A failure whose error is text. -/
theorem looksLikeFailure_failed_iff {m s : String} {n : UInt16}
    (hn : (parseError err).statusCode = n) (hm : (parseError err).errorMsg = utf8 m)
    (hs : err.text = utf8 s) :
    LooksLikeFailure (Do.failed err).status (bodyText (Do.failed err).body).toList ↔
      LooksLikeFailure n.toNat (m ++ " -> " ++ s).toList := by
  have hbody : (Do.failed err).body = utf8 (m ++ " -> " ++ s) := by
    rw [Do.failed, hm, hs, utf8_append, utf8_append]
  rw [hbody, bodyText_utf8, Do.failed, hn]

/-- A failure whose error is not text is lost unless it has no status. -/
theorem looksLikeFailure_failed_of_decode_eq_none (h : decode err.text = none) :
    LooksLikeFailure (Do.failed err).status (bodyText (Do.failed err).body).toList ↔
      (parseError err).statusCode = 0 := by
  have hbody : decode (Do.failed err).body = none := by
    rw [← Option.not_isSome_iff_eq_none, Do.failed,
      isSome_decode_join (p := " -> ") (by decide) (by decide), h]
    simp
  rw [bodyText, hbody]
  refine looksLikeFailure_nil_iff.trans ?_
  rw [Do.failed, ← UInt16.toNat_inj]
  exact Int.natCast_eq_zero

/-- The status number of a reply is one the Python side takes for a failure. -/
def ReplyRecognised (status : Int) (text : List Char) : Prop :=
  ¬(200 ≤ status ∧ status < 400) ∧
    (status ∈ [401, 408, 421, 502] ∨ matchesAny (lower text) failurePatterns = true ∨
      (status = 495 ∧ matchesAny (lower text) tlsStatusPatterns = true) ∨
      (status = 405 ∧ matchesAny (lower text) ["addr"] = true))

/-- `parseError` finds nothing in the error, so its status is `0`. -/
def Anonymous (err : GoError) : Prop :=
  err ≠ .deadlineExceeded ∧ isCertificateError err.text = false ∧
    isConnectionRefused err.text = false ∧ isTimeout err.text = false ∧
    statusNumber err.text = 0 ∧ err.typed = false

/-- The text of an error whose status comes from its type: an address error has
    to be recognised by a keyword. -/
def TypeRecognised (err : GoError) (text : List Char) : Prop :=
  match err with
  | .urlError _ _ (.opError noerr) =>
    match noerr.err with
    | .addrError _ => matchesAny (lower text) ("addr" :: failurePatterns) = true
    | _ => True
  | _ => True

/-- The errors the caller gets as exceptions. -/
def Recognised (err : GoError) : Prop :=
  Anonymous err ∨ ∃ s, decode err.text = some s ∧
    (err = .deadlineExceeded ∨ isCertificateError err.text = true ∨
      isConnectionRefused err.text = true ∨ isTimeout err.text = true ∨
      (statusNumber err.text ≠ 0 ∧ ReplyRecognised (statusNumber err.text).toNat s.toList) ∨
      (statusNumber err.text = 0 ∧ TypeRecognised err s.toList))

theorem ascii_certificatePhrases : ∀ p ∈ certificatePhrases, IsAscii p.toList := by
  simp only [toList_eq_chars]
  decide +kernel

/-- A certificate phrase is a TLS keyword for the Python side. -/
theorem matchesAny_tlsStatusPatterns_of_isCertificateError {s : String}
    (h : isCertificateError (utf8 s) = true) :
    matchesAny (lower s.toList) tlsStatusPatterns = true := by
  have hall : ∀ p ∈ certificatePhrases, matchesAny (lower p.toList) tlsStatusPatterns = true := by
    simp only [matchesAny, toList_eq_chars]
    decide +kernel
  rw [isCertificateError, hits_utf8 ascii_certificatePhrases] at h
  obtain ⟨_, hmem, hs⟩ := hits_iff.1 h
  obtain ⟨p, hp, rfl⟩ := List.mem_map.1 hmem
  exact hits_mono (infix_lower hs) (hall p hp)

/-! ### The ways through `parseError` -/

theorem parseError_of_certificate (hd : err ≠ .deadlineExceeded)
    (hc : isCertificateError err.text = true) :
    parseError err = ⟨495, createErrorString err.text, utf8 "certificate"⟩ := by
  rw [parseError, if_neg hd, if_pos hc, createErrorMessage, if_neg nofun]

theorem parseError_of_refused (hd : err ≠ .deadlineExceeded)
    (hc : isCertificateError err.text = false) (hr : isConnectionRefused err.text = true) :
    parseError err = ⟨502, createErrorString err.text, utf8 "connection"⟩ := by
  rw [parseError, if_neg hd, hc, if_neg Bool.false_ne_true, if_pos hr, createErrorMessage,
    if_neg nofun]

theorem parseError_of_timeout (hd : err ≠ .deadlineExceeded)
    (hc : isCertificateError err.text = false) (hr : isConnectionRefused err.text = false)
    (ht : isTimeout err.text = true) :
    parseError err = ⟨408, utf8 "Request timeout: deadline exceeded", utf8 "timeout"⟩ := by
  rw [parseError, if_neg hd, hc, hr, if_neg Bool.false_ne_true, if_neg Bool.false_ne_true,
    if_pos ht, createErrorMessage, if_pos rfl]

/-- No phrase of `parseError` is in the error. -/
structure Phraseless (err : GoError) : Prop where
  ne : err ≠ .deadlineExceeded
  certificate : isCertificateError err.text = false
  refused : isConnectionRefused err.text = false
  timeout : isTimeout err.text = false

theorem Phraseless.parseError_eq (h : Phraseless err) :
    parseError err =
      if statusNumber err.text ≠ 0 then ⟨statusNumber err.text, createErrorString err.text, []⟩
      else parseErrorType err := by
  rw [parseError, if_neg h.ne, h.certificate, h.refused, h.timeout, if_neg Bool.false_ne_true,
    if_neg Bool.false_ne_true, if_neg Bool.false_ne_true]

/-- A phrase gives a status, and so do a number and a type. -/
theorem statusCode_eq_zero_iff : (parseError err).statusCode = 0 ↔ Anonymous err := by
  -- one case for each status `ParseError` returns, in its order; each but the last is not zero
  by_cases hd : err = .deadlineExceeded
  · rw [parseError, if_pos hd]
    exact iff_of_false (show (408 : UInt16) ≠ 0 by decide) fun h => h.1 hd
  by_cases hc : isCertificateError err.text = true
  · rw [parseError_of_certificate hd hc]
    exact iff_of_false (show (495 : UInt16) ≠ 0 by decide)
      fun h => Bool.false_ne_true (h.2.1.symm.trans hc)
  rw [Bool.not_eq_true] at hc
  by_cases hr : isConnectionRefused err.text = true
  · rw [parseError_of_refused hd hc hr]
    exact iff_of_false (show (502 : UInt16) ≠ 0 by decide)
      fun h => Bool.false_ne_true (h.2.2.1.symm.trans hr)
  rw [Bool.not_eq_true] at hr
  by_cases ht : isTimeout err.text = true
  · rw [parseError_of_timeout hd hc hr ht]
    exact iff_of_false (show (408 : UInt16) ≠ 0 by decide)
      fun h => Bool.false_ne_true (h.2.2.2.1.symm.trans ht)
  rw [Bool.not_eq_true] at ht
  rw [Phraseless.parseError_eq ⟨hd, hc, hr, ht⟩]
  by_cases hn : statusNumber err.text = 0
  · rw [if_neg (not_not.2 hn)]
    simp only [Anonymous, hd, hc, hr, ht, hn, ne_eq, not_false_eq_true, true_and]
    exact statusCode_parseErrorType_eq_zero_iff err
  · rw [if_pos hn]
    exact iff_of_false hn fun h => hn h.2.2.2.2.1

/-- The operation of a `*net.OpError` is in the error, so it is not `timeout`. -/
theorem Phraseless.op_ne {op url : String} {noerr : OpError}
    (hl : Phraseless (.urlError op url (.opError noerr))) : noerr.op ≠ utf8 "timeout" := by
  intro hop
  have hsub : utf8 "timeout" <:+: (GoError.urlError op url (.opError noerr)).text := by
    rw [GoError.text, WrappedError.text, OpError.text, OpError.head, hop]
    simp only [List.append_assoc]
    exact List.infix_append_of_infix_right (List.prefix_append _ _).isInfix
  have ht : isTimeout (GoError.urlError op url (.opError noerr)).text = true :=
    hits_iff.2 ⟨_, List.mem_map_of_mem (by decide), hsub⟩
  exact Bool.false_ne_true (hl.timeout.symm.trans ht)

/-! ### Failures with a text -/

variable {s : String}

/-- A timeout is marked by the arrow of `Do`. -/
theorem looksLikeFailure_of_timeout (hs : err.text = utf8 s) {m : String}
    (hn : (parseError err).statusCode = 408) (hm : (parseError err).errorMsg = utf8 m) :
    LooksLikeFailure (Do.failed err).status (bodyText (Do.failed err).body).toList := by
  have harrow : "->".toList <:+: (m ++ " -> " ++ s).toList :=
    ⟨(m ++ " ").toList, (" " ++ s).toList, by simp⟩
  rw [looksLikeFailure_failed_iff hn hm hs]
  refine ⟨by decide, .inr (.inr ⟨by decide, ?_⟩), .inl (by decide)⟩
  exact hits_iff.2 ⟨_, List.mem_singleton.2 rfl, harrow⟩

/-- A message of `createErrorString` is marked by its first words. -/
theorem looksLikeFailure_of_part (hs : err.text = utf8 s) {n : UInt16} {b op : Bytes}
    (hp : parseError err = ⟨n, createErrorString b, op⟩)
    (hb : ∃ c : String, b = utf8 c ∧ c.toList <:+: s.toList) :
    LooksLikeFailure (Do.failed err).status (bodyText (Do.failed err).body).toList ↔
      ¬(200 ≤ (n.toNat : Int) ∧ (n.toNat : Int) < 400) ∧
        ((n.toNat : Int) ∈ [0, 401, 408, 421, 502] ∨
          matchesAny (lower s.toList) failurePatterns = true ∨
          ((n.toNat : Int) = 495 ∧ matchesAny (lower s.toList) tlsStatusPatterns = true) ∨
          ((n.toNat : Int) = 405 ∧ matchesAny (lower s.toList) ["addr"] = true)) := by
  obtain ⟨c, rfl, hc⟩ := hb
  have hmarked : Marked n.toNat (syscallError ++ c ++ " -> " ++ s).toList :=
    .inr (.inl (matchesAny_message_syscall c s (.inr rfl)))
  rw [looksLikeFailure_failed_iff (n := n) (by rw [hp]) (by rw [hp, createErrorString_utf8]) hs,
    LooksLikeFailure, and_iff_right hmarked, classified_message_iff hc]

/-- A part of the error that ends it is text when the error is. -/
theorem exists_text_of_suffix (hs : err.text = utf8 s) {a b : Bytes}
    (h : err.text = a ++ utf8 ": " ++ b) : ∃ c : String, b = utf8 c ∧ c.toList <:+: s.toList := by
  have hd : (decode (a ++ utf8 ": " ++ b)).isSome := by
    rw [← h, hs, decode_utf8]
    rfl
  rw [isSome_decode_join (by decide) (by decide)] at hd
  obtain ⟨x, rfl⟩ := isSome_decode_iff.1 hd.1
  obtain ⟨c, rfl⟩ := isSome_decode_iff.1 hd.2
  have hsx : s = x ++ ": " ++ c := by
    rw [hs, ← utf8_append, ← utf8_append] at h
    have := congrArg decode h
    rwa [decode_utf8, decode_utf8, Option.some.injEq] at this
  refine ⟨c, rfl, ?_⟩
  rw [hsx, String.toList_append]
  exact (List.suffix_append _ _).isInfix

/-- A `*net.OpError` is a failure, except for an address error in which no
    keyword is recognised. -/
theorem looksLikeFailure_of_opError {op url : String} {noerr : OpError}
    (hs : (GoError.urlError op url (.opError noerr)).text = utf8 s)
    (hl : Phraseless (.urlError op url (.opError noerr)))
    (hn : statusNumber (GoError.urlError op url (.opError noerr)).text = 0) :
    LooksLikeFailure (Do.failed (.urlError op url (.opError noerr))).status
        (bodyText (Do.failed (.urlError op url (.opError noerr))).body).toList ↔
      TypeRecognised (.urlError op url (.opError noerr)) s.toList := by
  have hop := hl.op_ne
  have hp : parseError (.urlError op url (.opError noerr)) = parseOpError noerr := by
    rw [hl.parseError_eq, if_neg (not_not.2 hn), parseErrorType]
  have hpart : ∃ c : String, noerr.text = utf8 c ∧ c.toList <:+: s.toList := by
    refine exists_text_of_suffix hs (a := utf8 (op ++ " " ++ url)) ?_
    rw [GoError.text, WrappedError.text, utf8_append (op ++ " " ++ url)]
  have hcause : ∃ c : String, noerr.err.text = utf8 c ∧ c.toList <:+: s.toList := by
    refine exists_text_of_suffix hs (a := utf8 (op ++ " " ++ url ++ ": ") ++ noerr.head) ?_
    rw [GoError.text, WrappedError.text, OpError.text]
    simp only [List.append_assoc]
  rw [parseOpError] at hp
  rw [TypeRecognised]
  -- the cause decides the status: 408, 401 and 421 always count as failures, 405 does not
  cases he : noerr.err with
  | syscallError text timeout =>
    rw [he] at hp hcause
    cases timeout with
    | true =>
      simp only [if_true, createErrorMessage, if_neg hop] at hp
      rw [looksLikeFailure_of_part hs hp hcause]
      exact iff_of_true ⟨by decide, .inl (by decide)⟩ trivial
    | false =>
      simp only [Bool.false_eq_true, if_false, createErrorMessage, if_neg hop] at hp
      rw [looksLikeFailure_of_part hs hp hcause]
      exact iff_of_true ⟨by decide, .inl (by decide)⟩ trivial
  | addrError text =>
    rw [he] at hp hcause
    simp only [createErrorMessage, if_neg hop] at hp
    have hcons := matchesAny_append (lower s.toList) ["addr"] failurePatterns
    rw [looksLikeFailure_of_part hs hp hcause]
    change _ ↔ matchesAny (lower s.toList) (["addr"] ++ failurePatterns) = true
    rw [hcons, Bool.or_eq_true]
    simp [or_comm]
  | dnsError text timeout =>
    rw [he] at hp hcause
    simp only [createErrorMessage, if_neg hop] at hp
    rw [looksLikeFailure_of_part hs hp hcause]
    exact iff_of_true ⟨by decide, .inl (by decide)⟩ trivial
  | other text timeout =>
    rw [he] at hp
    simp only [createErrorMessage, if_neg hop] at hp
    rw [looksLikeFailure_of_part hs hp hpart]
    exact iff_of_true ⟨by decide, .inl (by decide)⟩ trivial

/-- The other errors whose status comes from their type are timeouts. -/
theorem looksLikeFailure_of_urlTimeout {op url : String} {text : Bytes}
    (hs : (GoError.urlError op url (.other text true)).text = utf8 s)
    (hl : Phraseless (.urlError op url (.other text true)))
    (hn : statusNumber (GoError.urlError op url (.other text true)).text = 0) :
    LooksLikeFailure (Do.failed (.urlError op url (.other text true))).status
        (bodyText (Do.failed (.urlError op url (.other text true))).body).toList := by
  have hp := hl.parseError_eq
  rw [if_neg (not_not.2 hn), parseErrorType, createErrorMessage, if_neg (by rintro ⟨⟩)] at hp
  rw [looksLikeFailure_of_part hs hp ⟨s, hs, List.infix_rfl⟩]
  exact ⟨by decide, .inl (by decide)⟩

theorem looksLikeFailure_of_typed (hs : err.text = utf8 s)
    (hl : Phraseless err) (hn : statusNumber err.text = 0) (ht : err.typed = true) :
    LooksLikeFailure (Do.failed err).status (bodyText (Do.failed err).body).toList ↔
      TypeRecognised err s.toList := by
  cases err with
  | deadlineExceeded => cases ht
  | other text => cases ht
  | urlError op url e =>
    cases e with
    | opError noerr => exact looksLikeFailure_of_opError hs hl hn
    | other text timeout =>
      cases timeout with
      | false => cases ht
      | true => exact iff_of_true (looksLikeFailure_of_urlTimeout hs hl hn) trivial

end Failed

/-- A failed exchange raises exactly when its error is recognised. -/
theorem raises_failed_iff (fracOk : Nat → Bool) (id : String) (err : GoError) :
    Raises (receive fracOk (buildResponsePayload id (Do.failed err))) ↔ Recognised err := by
  rw [raises_failed_iff_looksLikeFailure, Recognised]
  by_cases hz : (parseError err).statusCode = 0
  · refine iff_of_true ?_ (.inl (statusCode_eq_zero_iff.1 hz))
    rw [Do.failed, hz]
    exact looksLikeFailure_zero _
  have hna : ¬Anonymous err := fun h => hz (statusCode_eq_zero_iff.2 h)
  rw [or_iff_right hna]
  -- an error that is not UTF-8 is not read, and has a status of its own
  cases hdec : decode err.text with
  | none =>
    rw [looksLikeFailure_failed_of_decode_eq_none hdec]
    exact iff_of_false hz fun ⟨_, h, _⟩ => by cases h
  | some s =>
    have hs := decode_eq_some_iff.1 hdec
    have hwhole : ∃ c : String, err.text = utf8 c ∧ c.toList <:+: s.toList :=
      ⟨s, hs, List.infix_rfl⟩
    simp only [Option.some.injEq, exists_eq_left']
    -- each status of `ParseError` in its order, with the text that marks it
    by_cases hd : err = .deadlineExceeded
    · have hp : parseError err = createErrorMessage 408 err.text (utf8 "timeout") := by
        rw [parseError, if_pos hd]
      rw [createErrorMessage, if_pos rfl] at hp
      exact iff_of_true (looksLikeFailure_of_timeout hs (by rw [hp]) (by rw [hp])) (.inl hd)
    by_cases hc : isCertificateError err.text = true
    · have hkey := matchesAny_tlsStatusPatterns_of_isCertificateError (hs ▸ hc)
      rw [looksLikeFailure_of_part hs (parseError_of_certificate hd hc) hwhole]
      exact iff_of_true ⟨by decide, .inr (.inr (.inl ⟨by decide, hkey⟩))⟩ (.inr (.inl hc))
    have hc' : isCertificateError err.text = false := Bool.not_eq_true _ ▸ hc
    by_cases hr : isConnectionRefused err.text = true
    · rw [looksLikeFailure_of_part hs (parseError_of_refused hd hc' hr) hwhole]
      exact iff_of_true ⟨by decide, .inl (by decide)⟩ (.inr (.inr (.inl hr)))
    have hr' : isConnectionRefused err.text = false := Bool.not_eq_true _ ▸ hr
    by_cases ht : isTimeout err.text = true
    · have hp := parseError_of_timeout hd hc' hr' ht
      exact iff_of_true (looksLikeFailure_of_timeout hs (by rw [hp]) (by rw [hp]))
        (.inr (.inr (.inr (.inl ht))))
    have hl : Phraseless err := ⟨hd, hc', hr', Bool.not_eq_true _ ▸ ht⟩
    simp only [hd, hc', hr', hl.timeout, Bool.false_eq_true, false_or]
    by_cases hn : statusNumber err.text = 0
    · have htyped : err.typed = true := by
        by_contra h
        exact hna ⟨hd, hc', hr', hl.timeout, hn, Bool.not_eq_true _ ▸ h⟩
      simp only [hn, ne_eq, not_true_eq_false, false_and, true_and, false_or]
      exact looksLikeFailure_of_typed hs hl hn htyped
    · have hn0 : ((statusNumber err.text).toNat : Int) ≠ 0 := fun h0 =>
        hn (UInt16.toNat_inj.1 (Int.natCast_eq_zero.1 h0))
      have hp := hl.parseError_eq
      rw [if_pos hn] at hp
      rw [looksLikeFailure_of_part hs hp hwhole, List.mem_cons, or_iff_right hn0]
      simp only [hn, ne_eq, not_false_eq_true, true_and, false_and, or_false, ReplyRecognised]

/-- The error of a proxy that answers a CONNECT with a redirect. -/
def proxyRedirect : GoError :=
  .urlError "Get" "\"https://h/\""
    (.other (utf8 "Proxy responded with non 200 code: 302 Found StatusCode:302") false)

/-- The redirect of a proxy reaches the caller as a response. -/
theorem not_forall_raises_failed :
    ¬∀ err, Raises (receive (fun _ => true)
      (buildResponsePayload "cycleTLSRequest" (Do.failed err))) := by
  intro h
  have hstatus : (Do.failed proxyRedirect).status = 302 := by decide +kernel
  have hlooks := (raises_failed_iff_looksLikeFailure _ _).1 (h proxyRedirect)
  exact hlooks.1 (by rw [hstatus]; decide)

end CycleTLS
