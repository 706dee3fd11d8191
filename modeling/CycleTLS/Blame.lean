import CycleTLS.Failures

/-!
# Failures and the URL of the request

The HTTP client reports a failure as a `*url.Error`, whose text is the method,
the quoted URL and the text of the failure. Both sides classify the whole of
it. A URL without any of their keywords (`Neutral`) changes nothing
(`outcome_eq_of_neutral`); but for a URL with a keyword to change nothing
either, the failure has to have a certificate phrase of its own, and a DNS
keyword unless its text is lost (`forall_outcome_eq_iff`).
-/

namespace CycleTLS

open Text Utf8

/-- The methods `normalizeMethod` lets through. -/
inductive Method
  | get
  | post
  | put
  | delete
  | head
  | options
  | patch
  | connect
  | trace
  deriving DecidableEq

/-- All the methods. -/
def Method.all : List Method :=
  [.get, .post, .put, .delete, .head, .options, .patch, .connect, .trace]

theorem Method.mem_all (m : Method) : m ∈ Method.all := by cases m <;> decide

/-- The name of a method. -/
def Method.name : Method → String
  | .get => "GET"
  | .post => "POST"
  | .put => "PUT"
  | .delete => "DELETE"
  | .head => "HEAD"
  | .options => "OPTIONS"
  | .patch => "PATCH"
  | .connect => "CONNECT"
  | .trace => "TRACE"

/-- `urlErrorOp`: the method, in lower case from its second letter on. -/
def urlErrorOp (method : String) : String :=
  if method = "" then "Get"
  else String.ofList (method.toList.take 1 ++ (method.toList.drop 1).map Char.toLower)

variable (isPrint : Char → Bool)

/-- The failure `e` of a request, as the HTTP client reports it. -/
def wrap (m : Method) (url : String) (e : WrappedError) : GoError :=
  .urlError (urlErrorOp m.name) ("\"" ++ quoteBody isPrint url ++ "\"") e

/-- What stands before the quoted URL. -/
def before (m : Method) : String := urlErrorOp m.name ++ " "

theorem wrap_text (m : Method) (url : String) (e : WrappedError) :
    (wrap isPrint m url e).text =
      utf8 (before m) ++
        0x22 :: (utf8 (quoteBody isPrint url) ++ 0x22 :: (utf8 ": " ++ e.text)) := by
  have hq : utf8 "\"" = [0x22] := rfl
  rw [wrap, GoError.text, before]
  simp only [utf8_append, hq, List.append_assoc, List.cons_append, List.nil_append]

/-- The status a failure is given, and the class of exception the caller gets. -/
def outcome (fracOk : Nat → Bool) (id : String) (err : GoError) :
    UInt16 × Option ExceptionClass :=
  ((parseError err).statusCode,
    exceptionClass (receive fracOk (buildResponsePayload id (Do.failed err))))

/-! ## The phrases of Go -/

/-- All the phrases `parseError` searches for, but the separator of a number. -/
def goPhrases : List String := "connection refused" :: (certificatePhrases ++ timeoutPhrases)

theorem hits_wrap_text {phrases : List String} (hsub : phrases ⊆ goPhrases) (m : Method)
    (url : String) (e : WrappedError) :
    hits (phrases.map utf8) (wrap isPrint m url e).text =
      (hits (phrases.map String.toList) (before m).toList ||
        (hits (phrases.map String.toList) (quoteBody isPrint url).toList ||
          hits (phrases.map utf8) (utf8 ": " ++ e.text))) := by
  have hascii : ∀ p ∈ goPhrases, IsAscii p.toList := by
    simp only [toList_eq_chars]
    decide +kernel
  have hquote : ∀ p ∈ goPhrases, (0x22 : UInt8) ∉ utf8 p := by
    simp only [utf8_eq_data]
    decide +kernel
  have hquote' : ∀ p ∈ phrases.map utf8, (0x22 : UInt8) ∉ p :=
    List.forall_mem_map.2 fun p hp => hquote p (hsub hp)
  have hascii' : ∀ p ∈ phrases, IsAscii p.toList := fun p hp => hascii p (hsub hp)
  rw [wrap_text, hits_append_cons hquote', hits_append_cons hquote', hits_utf8 hascii',
    hits_utf8 hascii']

/-- No phrase is in the method, and none starts before the failure. -/
theorem hits_wrap_text_eq {phrases : List String} (hsub : phrases ⊆ goPhrases) (m : Method)
    (url : String) (e : WrappedError) :
    hits (phrases.map utf8) (wrap isPrint m url e).text =
      (hits (phrases.map String.toList) (quoteBody isPrint url).toList ||
        hits (phrases.map utf8) e.text) := by
  have hmethod : ∀ m ∈ Method.all,
      hits (goPhrases.map String.toList) (before m).toList = false := by
    simp only [toList_eq_chars]
    decide +kernel
  have hheads : ∀ p ∈ goPhrases.map utf8, ∀ c ∈ p.head?, c ∉ utf8 ": " := by
    simp only [utf8_eq_data]
    decide +kernel
  have hseam : Seamless (goPhrases.map utf8) (utf8 ": ") ∧
      hits (goPhrases.map utf8) (utf8 ": ") = false := by
    refine ⟨seamless_of_heads hheads, ?_⟩
    simp only [utf8_eq_data]
    decide +kernel
  rw [hits_wrap_text isPrint hsub, hits_append (hseam.1.mono (List.map_subset _ hsub)),
    hits_eq_false_of_subset (List.map_subset _ hsub) (hmethod m m.mem_all),
    hits_eq_false_of_subset (List.map_subset _ hsub) hseam.2, Bool.false_or, Bool.false_or]

/-- Where the number of a failure is looked for, when the URL does not say. -/
theorem statusNumber_wrap_text {m : Method} {url : String} {e : WrappedError}
    (h : ¬"StatusCode:".toList <:+: (quoteBody isPrint url).toList) :
    statusNumber (wrap isPrint m url e).text =
      if utf8 "StatusCode:" <:+: utf8 ": " ++ e.text then
        parseUint16 (trimSpace (afterLast (utf8 "StatusCode:") (utf8 ": " ++ e.text)))
      else 0 := by
  have hquote : (0x22 : UInt8) ∉ utf8 "StatusCode:" := by
    rw [utf8_eq_data]
    decide +kernel
  have hmethod : ∀ m ∈ Method.all, ¬"StatusCode:".toList <:+: (before m).toList := by
    simp only [toList_eq_chars]
    decide +kernel
  rw [statusNumber]
  -- a quote ends the method and the URL, so the last number starts after it
  by_cases he : utf8 "StatusCode:" <:+: utf8 ": " ++ e.text
  · have he' : utf8 "StatusCode:" <:+:
        utf8 (quoteBody isPrint url) ++ 0x22 :: (utf8 ": " ++ e.text) :=
      (infix_append_cons_iff hquote).2 (.inr he)
    rw [if_pos he, wrap_text, afterLast_append_cons hquote, if_pos he',
      afterLast_append_cons hquote, if_pos he]
  · have hnone : ¬utf8 "StatusCode:" <:+: (wrap isPrint m url e).text := by
      rw [wrap_text, infix_append_cons_iff hquote, infix_append_cons_iff hquote,
        infix_utf8_iff (by decide), infix_utf8_iff (by decide)]
      rintro (hb | hq | hb)
      · exact hmethod m m.mem_all hb
      · exact h hq
      · exact he hb
    have hletter : ∀ m ∈ Method.all,
        ((utf8 (before m)).head?.any fun b => decide (0x41 ≤ b ∧ b ≤ 0x5a)) = true := by
      simp only [utf8_eq_data]
      decide +kernel
    rw [if_neg he, afterLast_of_not_infix hnone, wrap_text]
    -- without a number the whole text is parsed, and it starts with a capital letter
    cases hb : utf8 (before m) with
    | nil =>
      have := hletter m m.mem_all
      rw [hb] at this
      cases this
    | cons b t =>
      have := hletter m m.mem_all
      rw [hb, List.head?_cons, Option.any_some, decide_eq_true_eq] at this
      exact parseUint16_trimSpace_eq_zero this _

/-! ## URLs without keywords -/

/-- The keywords of the Python side. -/
def pythonKeywords : List String :=
  failurePatterns ++ tlsStatusPatterns ++ ["addr", "syscall", "syscall error:"]

/-- No keyword of either side is in the URL, as it is quoted. -/
structure Neutral (url : String) : Prop where
  phrases : hits (goPhrases.map String.toList) (quoteBody isPrint url).toList = false
  number : ¬"StatusCode:".toList <:+: (quoteBody isPrint url).toList
  keywords : matchesAny (lower (quoteBody isPrint url).toList) pythonKeywords = false

variable {isPrint} {m : Method} {url u₁ u₂ : String} {e : WrappedError}

theorem Neutral.hits_wrap_text (h : Neutral isPrint url) {phrases : List String}
    (hsub : phrases ⊆ goPhrases) :
    hits (phrases.map utf8) (wrap isPrint m url e).text = hits (phrases.map utf8) e.text := by
  rw [hits_wrap_text_eq isPrint hsub, hits_eq_false_of_subset (List.map_subset _ hsub) h.phrases,
    Bool.false_or]

theorem certificatePhrases_subset : certificatePhrases ⊆ goPhrases := fun _ h =>
  List.mem_cons_of_mem _ (List.mem_append_left _ h)

theorem timeoutPhrases_subset : timeoutPhrases ⊆ goPhrases := fun _ h =>
  List.mem_cons_of_mem _ (List.mem_append_right _ h)

theorem refusedPhrase_subset : ["connection refused"] ⊆ goPhrases := fun _ h =>
  List.mem_singleton.1 h ▸ List.mem_cons_self

/-- Without keywords in the URL, the status comes from the failure, and the
    message is the same or repeats the whole error. -/
theorem Neutral.parseError_wrap (h₁ : Neutral isPrint u₁) (h₂ : Neutral isPrint u₂) :
    (parseError (wrap isPrint m u₁ e)).statusCode = (parseError (wrap isPrint m u₂ e)).statusCode ∧
      ((parseError (wrap isPrint m u₁ e)).errorMsg = (parseError (wrap isPrint m u₂ e)).errorMsg ∨
        ((parseError (wrap isPrint m u₁ e)).errorMsg =
            createErrorString (wrap isPrint m u₁ e).text ∧
          (parseError (wrap isPrint m u₂ e)).errorMsg =
            createErrorString (wrap isPrint m u₂ e).text)) := by
  -- the phrases and the number are those of the failure, whichever the URL
  have hcert : isCertificateError (wrap isPrint m u₁ e).text =
      isCertificateError (wrap isPrint m u₂ e).text :=
    (h₁.hits_wrap_text certificatePhrases_subset).trans
      (h₂.hits_wrap_text certificatePhrases_subset).symm
  have hrefused : isConnectionRefused (wrap isPrint m u₁ e).text =
      isConnectionRefused (wrap isPrint m u₂ e).text := by
    rw [isConnectionRefused_eq, isConnectionRefused_eq]
    exact (h₁.hits_wrap_text refusedPhrase_subset).trans
      (h₂.hits_wrap_text refusedPhrase_subset).symm
  have htimeout : isTimeout (wrap isPrint m u₁ e).text = isTimeout (wrap isPrint m u₂ e).text :=
    (h₁.hits_wrap_text timeoutPhrases_subset).trans (h₂.hits_wrap_text timeoutPhrases_subset).symm
  have hnumber : statusNumber (wrap isPrint m u₁ e).text =
      statusNumber (wrap isPrint m u₂ e).text := by
    rw [statusNumber_wrap_text isPrint h₁.number, statusNumber_wrap_text isPrint h₂.number]
  have hne : ∀ u, wrap isPrint m u e ≠ .deadlineExceeded := fun u h => by cases h
  rw [parseError, parseError, if_neg (hne u₁), if_neg (hne u₂), hcert, hrefused, htimeout, hnumber]
  -- so both errors take the same branch, in the order `parseError` asks
  by_cases hc : isCertificateError (wrap isPrint m u₂ e).text = true
  · rw [if_pos hc, if_pos hc, createErrorMessage, createErrorMessage, if_neg (by rintro ⟨⟩)]
    exact ⟨rfl, .inr ⟨rfl, rfl⟩⟩
  by_cases hr : isConnectionRefused (wrap isPrint m u₂ e).text = true
  · rw [if_neg hc, if_neg hc, if_pos hr, if_pos hr, createErrorMessage, createErrorMessage,
      if_neg (by rintro ⟨⟩)]
    exact ⟨rfl, .inr ⟨rfl, rfl⟩⟩
  by_cases ht : isTimeout (wrap isPrint m u₂ e).text = true
  · rw [if_neg hc, if_neg hc, if_neg hr, if_neg hr, if_pos ht, if_pos ht, createErrorMessage,
      createErrorMessage, if_pos rfl]
    exact ⟨rfl, .inl rfl⟩
  rw [if_neg hc, if_neg hc, if_neg hr, if_neg hr, if_neg ht, if_neg ht]
  by_cases hn : statusNumber (wrap isPrint m u₂ e).text ≠ 0
  · rw [if_pos hn, if_pos hn]
    exact ⟨rfl, .inr ⟨rfl, rfl⟩⟩
  · rw [if_neg hn, if_neg hn]
    cases e with
    | opError noerr => simp only [wrap, parseErrorType, true_or, and_self]
    | other text timeout =>
      cases timeout with
      | false => simp only [wrap, parseErrorType, true_or, and_self]
      | true =>
        have hnil : ([] : Bytes) ≠ utf8 "timeout" := by rintro ⟨⟩
        simp only [wrap, parseErrorType, createErrorMessage, if_neg hnil]
        exact ⟨trivial, .inr ⟨trivial, trivial⟩⟩

/-! ### The class of exception -/

theorem hits_congr {α : Type*} [DecidableEq α] {pats : List (List α)} {s t : List α}
    (h : ∀ p ∈ pats, p <:+: s ↔ p <:+: t) : hits pats s = hits pats t := by
  rw [Bool.eq_iff_iff, hits_iff, hits_iff]
  exact exists_congr fun p => and_congr_right fun hp => h p hp

/-- Bodies with the same keywords raise the same class. -/
theorem raisedClass_congr {status : Int} {b₁ b₂ : List Char}
    (harrow : matchesAny b₁ ["->"] = matchesAny b₂ ["->"])
    (h : ∀ p ∈ pythonKeywords, p.toList <:+: lower b₁ ↔ p.toList <:+: lower b₂) :
    raisedClass status b₁ = raisedClass status b₂ := by
  have hps : ∀ ps ⊆ pythonKeywords, matchesAny (lower b₁) ps = matchesAny (lower b₂) ps :=
    fun ps hps => hits_congr (List.forall_mem_map.2 fun p hp => h p (hps hp))
  rw [raisedClass, raisedClass, isErrorResponse, isErrorResponse, classify, classify, harrow,
    hps ["syscall error:"] (by decide), hps dnsPatterns (by decide),
    hps timeoutPatterns (by decide), hps connectionPatterns (by decide),
    hps tlsStatusPatterns (by decide), hps tlsPatterns (by decide),
    hps refusedPatterns (by decide), hps ["addr"] (by decide), hps urlPatterns (by decide),
    hps ["syscall"] (by decide)]

/-- A keyword that is not in the quoted URL is on one side of it. -/
theorem infix_lower_quotes_iff {p : String} (hp : '"' ∉ p.toList) {x q y : List Char}
    (hq : ¬p.toList <:+: lower q) :
    p.toList <:+: lower (x ++ '"' :: (q ++ '"' :: y)) ↔
      p.toList <:+: lower x ∨ p.toList <:+: lower y := by
  have hlower : lower (x ++ '"' :: (q ++ '"' :: y)) =
      lower x ++ '"' :: (lower q ++ '"' :: lower y) := by
    rw [lower_append, lower_cons, lower_append, lower_cons]
    rfl
  rw [hlower, infix_append_cons_iff hp, infix_append_cons_iff hp, or_iff_right hq]

/-- The text of a failure that is text. -/
def wrapText (m : Method) (quoted s : String) : String :=
  before m ++ "\"" ++ quoted ++ "\": " ++ s

theorem wrap_text_eq_utf8 {s : String} (hs : e.text = utf8 s) :
    (wrap isPrint m url e).text = utf8 (wrapText m (quoteBody isPrint url) s) := by
  have hq : utf8 "\"" = [0x22] := rfl
  have hq' : utf8 "\": " = 0x22 :: utf8 ": " := rfl
  rw [wrap_text, hs, wrapText]
  simp only [utf8_append, hq, hq', List.append_assoc, List.cons_append, List.nil_append]

theorem decode_wrap_text_eq_none_iff :
    decode (wrap isPrint m url e).text = none ↔ decode e.text = none := by
  rw [wrap, GoError.text, ← Option.not_isSome_iff_eq_none, ← Option.not_isSome_iff_eq_none,
    isSome_decode_utf8_append]

/-- The body of a failed exchange whose texts are read. -/
theorem bodyText_failed {err : GoError} {msg t : String} (hm : (parseError err).errorMsg = utf8 msg)
    (ht : err.text = utf8 t) : bodyText (Do.failed err).body = msg ++ " -> " ++ t := by
  rw [Do.failed, hm, ht, ← utf8_append, ← utf8_append, bodyText_utf8]

/-- It is empty when one of them is not text. -/
theorem bodyText_failed_eq_empty {err : GoError}
    (h : decode (parseError err).errorMsg = none ∨ decode err.text = none) :
    bodyText (Do.failed err).body = "" := by
  have hnone : decode (Do.failed err).body = none := by
    rw [← Option.not_isSome_iff_eq_none, Do.failed,
      isSome_decode_join (p := " -> ") (by decide) (by decide)]
    rintro ⟨h₁, h₂⟩
    rcases h with h | h
    · simp [h] at h₁
    · simp [h] at h₂
  rw [bodyText, hnone]
  rfl

theorem matchesAny_arrow_message (msg t : String) :
    matchesAny (msg ++ " -> " ++ t).toList ["->"] = true := by
  have harrow : "->".toList <:+: (msg ++ " -> " ++ t).toList :=
    ⟨(msg ++ " ").toList, (" " ++ t).toList, by simp⟩
  exact hits_iff.2 ⟨_, List.mem_singleton.2 rfl, harrow⟩

/-- The keywords of a message that stands before the error. -/
theorem infix_lower_message_iff {p : String} (hp : '"' ∉ p.toList) {msg q s : String}
    (hq : ¬p.toList <:+: lower q.toList) :
    p.toList <:+: lower (msg ++ " -> " ++ wrapText m q s).toList ↔
      p.toList <:+: lower (msg ++ " -> " ++ before m).toList ∨
        p.toList <:+: lower (": " ++ s).toList := by
  have h : (msg ++ " -> " ++ wrapText m q s).toList =
      (msg ++ " -> " ++ before m).toList ++ '"' :: (q.toList ++ '"' :: (": " ++ s).toList) := by
    simp [wrapText]
  rw [h, infix_lower_quotes_iff hp hq]

/-- The keywords of a message that repeats the error. -/
theorem infix_lower_repeated_iff {p : String} (hp : '"' ∉ p.toList) {q s : String}
    (hq : ¬p.toList <:+: lower q.toList) :
    p.toList <:+: lower (syscallError ++ wrapText m q s ++ " -> " ++ wrapText m q s).toList ↔
      p.toList <:+: lower (syscallError ++ before m).toList ∨
        p.toList <:+: lower (": " ++ s ++ " -> " ++ before m).toList ∨
          p.toList <:+: lower (": " ++ s).toList := by
  have h : (syscallError ++ wrapText m q s ++ " -> " ++ wrapText m q s).toList =
      (syscallError ++ before m).toList ++ '"' :: (q.toList ++ '"' ::
        ((": " ++ s ++ " -> " ++ before m).toList ++ '"' :: (q.toList ++ '"' ::
          (": " ++ s).toList))) := by
    simp [wrapText]
  rw [h, infix_lower_quotes_iff hp hq, infix_lower_quotes_iff hp hq]

/-- The keywords contain no quotes. -/
theorem quote_not_mem : ∀ p ∈ pythonKeywords, '"' ∉ p.toList := by
  simp only [toList_eq_chars]
  decide +kernel

/-- Between URLs without keywords, the classification does not change. -/
theorem Neutral.outcome_eq (fracOk : Nat → Bool) (id : String) (h₁ : Neutral isPrint u₁)
    (h₂ : Neutral isPrint u₂) :
    outcome fracOk id (wrap isPrint m u₁ e) = outcome fracOk id (wrap isPrint m u₂ e) := by
  obtain ⟨hstatus, hmsg⟩ := h₁.parseError_wrap (m := m) (e := e) h₂
  have hint : (Do.failed (wrap isPrint m u₁ e)).status =
      (Do.failed (wrap isPrint m u₂ e)).status := by
    rw [Do.failed, Do.failed, hstatus]
  have hq : ∀ {u}, Neutral isPrint u → ∀ p ∈ pythonKeywords,
      ¬p.toList <:+: lower (quoteBody isPrint u).toList := fun h p hp =>
    hits_eq_false_iff.1 h.keywords _ (List.mem_map_of_mem hp)
  rw [outcome, outcome, hstatus, exceptionClass_failed, exceptionClass_failed, hint]
  refine congrArg (Prod.mk _) ?_
  -- text that is no UTF-8 leaves no body on the Python side
  cases hdec : decode e.text with
  | none =>
    rw [bodyText_failed_eq_empty (.inr (decode_wrap_text_eq_none_iff.2 hdec)),
      bodyText_failed_eq_empty (.inr (decode_wrap_text_eq_none_iff.2 hdec))]
  | some s =>
    have hs := decode_eq_some_iff.1 hdec
    -- otherwise the message is one for both, or each repeats its whole error
    rcases hmsg with hmsg | ⟨hm₁, hm₂⟩
    · cases hm : decode (parseError (wrap isPrint m u₂ e)).errorMsg with
      | none =>
        have hm₁ : decode (parseError (wrap isPrint m u₁ e)).errorMsg = none := by rw [hmsg, hm]
        rw [bodyText_failed_eq_empty (.inl hm₁), bodyText_failed_eq_empty (.inl hm)]
      | some msg =>
        have hm := decode_eq_some_iff.1 hm
        rw [bodyText_failed (hmsg.trans hm) (wrap_text_eq_utf8 hs),
          bodyText_failed hm (wrap_text_eq_utf8 hs)]
        refine raisedClass_congr ?_ fun p hp => ?_
        · rw [matchesAny_arrow_message, matchesAny_arrow_message]
        · rw [infix_lower_message_iff (quote_not_mem p hp) (hq h₁ p hp),
            infix_lower_message_iff (quote_not_mem p hp) (hq h₂ p hp)]
    · rw [wrap_text_eq_utf8 hs, createErrorString_utf8] at hm₁ hm₂
      rw [bodyText_failed hm₁ (wrap_text_eq_utf8 hs), bodyText_failed hm₂ (wrap_text_eq_utf8 hs)]
      refine raisedClass_congr ?_ fun p hp => ?_
      · rw [matchesAny_arrow_message, matchesAny_arrow_message]
      · rw [infix_lower_repeated_iff (quote_not_mem p hp) (hq h₁ p hp),
          infix_lower_repeated_iff (quote_not_mem p hp) (hq h₂ p hp)]

/-! ## URLs with keywords -/

/-- The phrases of the URL and of the failure are those of the error. -/
theorem isCertificateError_wrap (url : String) :
    isCertificateError (wrap isPrint m url e).text =
      (hits (certificatePhrases.map String.toList) (quoteBody isPrint url).toList ||
        isCertificateError e.text) :=
  hits_wrap_text_eq isPrint certificatePhrases_subset m url e

theorem isConnectionRefused_wrap (url : String) :
    isConnectionRefused (wrap isPrint m url e).text =
      (hits ["connection refused".toList] (quoteBody isPrint url).toList ||
        isConnectionRefused e.text) := by
  rw [isConnectionRefused_eq, isConnectionRefused_eq]
  exact hits_wrap_text_eq isPrint refusedPhrase_subset m url e

theorem wrap_ne : wrap isPrint m url e ≠ .deadlineExceeded := fun h => by cases h

/-- A certificate error is given the status 495 and its class by its text. -/
theorem outcome_of_certificate (fracOk : Nat → Bool) (id : String) {err : GoError}
    (hd : err ≠ .deadlineExceeded) (hc : isCertificateError err.text = true) {s : String}
    (hs : err.text = utf8 s) :
    outcome fracOk id err =
      (495, (classify 495 (lower (syscallError ++ s ++ " -> " ++ s).toList)).map Prod.fst) := by
  have hp := parseError_of_certificate hd hc
  have hmsg : (parseError err).errorMsg = utf8 (syscallError ++ s) := by
    rw [hp, hs, createErrorString_utf8]
  have hbody := bodyText_failed hmsg hs
  have hstatus : (Do.failed err).status = 495 := by
    rw [Do.failed, hp]
    rfl
  have hmark : isErrorResponse 495 (syscallError ++ s ++ " -> " ++ s).toList = true :=
    isErrorResponse_iff.2 (.inr (.inl (matchesAny_message_syscall s s (.inr rfl))))
  rw [outcome, exceptionClass_failed, hbody, hstatus, hp, raisedClass, if_pos ⟨by decide, hmark⟩]

/-- The URL of a request whose failures are taken for certificate errors. -/
def certificateURL : String := "http://h/?certificate has expired"

/-- The URL of a request whose failures are taken for refused connections. -/
def refusedURL : String := "http://h/?connection refused"

/-- The URL of a request whose failures are taken for DNS failures. -/
def dnsURL : String := "http://h/?dns"

/-- The URL of a request whose failures are taken for timeouts. -/
def timeoutURL : String := "http://h/?timeout"

theorem quoteBody_examples :
    ∀ url ∈ [certificateURL, refusedURL, dnsURL, timeoutURL], quoteBody isPrint url = url := by
  have h : ([certificateURL, refusedURL, dnsURL, timeoutURL].all fun url => url.toList.all fun c =>
      c ≠ '"' ∧ c ≠ '\\' ∧ 0x20 ≤ c.toNat ∧ c.toNat < 0x7f) = true := by
    simp only [toList_eq_chars]
    decide +kernel
  exact fun url hurl => quoteBody_of_printable isPrint fun c hc =>
    of_decide_eq_true (List.all_eq_true.1 (List.all_eq_true.1 h url hurl) c hc)

/-- A failure that no URL can reclassify has a certificate phrase. -/
theorem isCertificateError_of_forall_outcome_eq {fracOk : Nat → Bool} {id : String}
    (h : ∀ u₁ u₂, outcome fracOk id (wrap isPrint m u₁ e) =
      outcome fracOk id (wrap isPrint m u₂ e)) :
    isCertificateError e.text = true := by
  by_contra he
  rw [Bool.not_eq_true] at he
  -- two URLs tell apart a failure without the phrase: 495 for one, 502 for the other
  have hurls : hits (certificatePhrases.map String.toList) certificateURL.toList = true ∧
      hits (certificatePhrases.map String.toList) refusedURL.toList = false ∧
        hits ["connection refused".toList] refusedURL.toList = true := by
    simp only [toList_eq_chars]
    decide +kernel
  have hcert : isCertificateError (wrap isPrint m certificateURL e).text = true := by
    rw [isCertificateError_wrap, quoteBody_examples _ (by simp), hurls.1, Bool.true_or]
  have hnot : isCertificateError (wrap isPrint m refusedURL e).text = false := by
    rw [isCertificateError_wrap, quoteBody_examples _ (by simp), hurls.2.1, he, Bool.false_or]
  have hrefused : isConnectionRefused (wrap isPrint m refusedURL e).text = true := by
    rw [isConnectionRefused_wrap, quoteBody_examples _ (by simp), hurls.2.2, Bool.true_or]
  have hstatus := congrArg Prod.fst (h certificateURL refusedURL)
  rw [outcome, outcome, parseError_of_certificate wrap_ne hcert,
    parseError_of_refused wrap_ne hnot hrefused] at hstatus
  exact absurd (show (495 : UInt16) = 502 from hstatus) (by decide)

/-- The keywords of a failure that is text, by where they are. -/
theorem matchesAny_wrapText {ps : List String} (hplain : Plain ps)
    (hmethod : ∀ m ∈ Method.all, matchesAny (lower (before m).toList) ps = false)
    (quoted s : String) :
    matchesAny (lower (wrapText m quoted s).toList) ps =
      (matchesAny (lower quoted.toList) ps || matchesAny (lower s.toList) ps) := by
  have htext : lower (wrapText m quoted s).toList = lower (before m).toList ++ '"' ::
      (lower quoted.toList ++ '"' :: (':' :: ' ' :: lower s.toList)) := by
    have h : (wrapText m quoted s).toList =
        (before m).toList ++ '"' :: (quoted.toList ++ '"' :: (':' :: ' ' :: s.toList)) := by
      simp [wrapText]
    rw [h, lower_append, lower_cons, lower_append, lower_cons, lower_cons, lower_cons]
    rfl
  -- no keyword starts with the separator, so none reaches over it
  have hl : ∀ c, (∀ p ∈ ps, p.toList.head? ≠ some c) →
      ∀ p ∈ ps.map String.toList, p.head? ≠ some c := fun c h => List.forall_mem_map.2 h
  rw [htext, matchesAny_quotes hplain, hmethod m m.mem_all, Bool.false_or, matchesAny, matchesAny,
    hits_cons (hl _ fun p hp => (hplain p hp).2.2.2.2.1),
    hits_cons (hl _ fun p hp => (hplain p hp).2.2.2.1)]
  rfl

/-- A DNS keyword settles the class. -/
theorem classify_of_dns {status : Int} {text : List Char} (h : matchesAny text dnsPatterns = true) :
    classify status text = some (.connectionError, "DNS lookup failed: ") := by
  rw [classify, h, Bool.or_true, if_pos rfl]

/-- Without one, a keyword of a timeout does. -/
theorem classify_of_timeout {text : List Char} (hdns : matchesAny text dnsPatterns = false)
    (h : matchesAny text timeoutPatterns = true) :
    classify 495 text = some (.timeout, "Request timed out: ") := by
  rw [classify, hdns, h, if_neg (by decide), Bool.or_true, if_pos rfl]

/-- The DNS keywords of a certificate error are those of the URL and of the failure. -/
theorem matchesAny_dns_message (quoted s : String) :
    matchesAny (lower (syscallError ++ wrapText m quoted s ++ " -> " ++ wrapText m quoted s).toList)
        dnsPatterns =
      (matchesAny (lower quoted.toList) dnsPatterns ||
        matchesAny (lower s.toList) dnsPatterns) := by
  have hapart : Apart dnsPatterns := by
    simp only [Apart, Plain, matchesAny, toList_eq_chars]
    decide +kernel
  have hmethod : ∀ m ∈ Method.all, matchesAny (lower (before m).toList) dnsPatterns = false := by
    simp only [matchesAny, toList_eq_chars]
    decide +kernel
  rw [matchesAny_message hapart List.infix_rfl, matchesAny_wrapText hapart.1 hmethod]

/-- A certificate error that no URL can reclassify has a DNS keyword. -/
theorem matchesAny_dns_of_forall_outcome_eq {fracOk : Nat → Bool} {id : String}
    (h : ∀ u₁ u₂, outcome fracOk id (wrap isPrint m u₁ e) = outcome fracOk id (wrap isPrint m u₂ e))
    {s : String} (hs : e.text = utf8 s) : matchesAny (lower s.toList) dnsPatterns = true := by
  by_contra hdns
  rw [Bool.not_eq_true] at hdns
  have hc := isCertificateError_of_forall_outcome_eq h
  have hcert : ∀ url, isCertificateError (wrap isPrint m url e).text = true := fun url => by
    rw [isCertificateError_wrap, hc, Bool.or_true]
  -- both URLs give a certificate error, and only the class of the exception differs
  have hurls : matchesAny (lower dnsURL.toList) dnsPatterns = true ∧
      matchesAny (lower timeoutURL.toList) dnsPatterns = false ∧
        matchesAny (lower timeoutURL.toList) timeoutPatterns = true := by
    simp only [matchesAny, toList_eq_chars]
    decide +kernel
  have hclass := congrArg Prod.snd (h dnsURL timeoutURL)
  rw [outcome_of_certificate fracOk id wrap_ne (hcert _) (wrap_text_eq_utf8 hs),
    outcome_of_certificate fracOk id wrap_ne (hcert _) (wrap_text_eq_utf8 hs),
    quoteBody_examples dnsURL (by simp), quoteBody_examples timeoutURL (by simp)] at hclass
  have htimeout : matchesAny (lower (syscallError ++ wrapText m timeoutURL s ++ " -> " ++
      wrapText m timeoutURL s).toList) timeoutPatterns = true := by
    refine hits_mono (infix_lower ?_) hurls.2.2
    exact ⟨(syscallError ++ wrapText m timeoutURL s ++ " -> " ++ before m ++ "\"").toList,
      ("\": " ++ s).toList, by simp [wrapText]⟩
  rw [classify_of_dns (by rw [matchesAny_dns_message, hurls.1, Bool.true_or]),
    classify_of_timeout (by rw [matchesAny_dns_message, hurls.2.1, hdns]; rfl) htimeout] at hclass
  exact absurd hclass (by decide)

/-- The exact condition under which no URL has a say in how a failure is
    classified: it has a certificate phrase, and a DNS keyword if it is text. -/
def Unblamable (e : WrappedError) : Prop :=
  isCertificateError e.text = true ∧
    ∀ s, decode e.text = some s → matchesAny (lower s.toList) dnsPatterns = true

theorem outcome_eq_of_unblamable (fracOk : Nat → Bool) (id : String) (he : Unblamable e)
    (u₁ u₂ : String) :
    outcome fracOk id (wrap isPrint m u₁ e) = outcome fracOk id (wrap isPrint m u₂ e) := by
  have hcert : ∀ url, isCertificateError (wrap isPrint m url e).text = true := fun url => by
    rw [isCertificateError_wrap, he.1, Bool.or_true]
  cases hdec : decode e.text with
  | none =>
    have hp : ∀ url, (parseError (wrap isPrint m url e)).statusCode = 495 := fun url => by
      rw [parseError_of_certificate wrap_ne (hcert url)]
    have hstatus : ∀ url, (Do.failed (wrap isPrint m url e)).status = 495 := fun url => by
      rw [Do.failed, hp]
      rfl
    rw [outcome, outcome, exceptionClass_failed, exceptionClass_failed, hp, hp, hstatus, hstatus,
      bodyText_failed_eq_empty (.inr (decode_wrap_text_eq_none_iff.2 hdec)),
      bodyText_failed_eq_empty (.inr (decode_wrap_text_eq_none_iff.2 hdec))]
  | some s =>
    have hs := decode_eq_some_iff.1 hdec
    rw [outcome_of_certificate fracOk id wrap_ne (hcert _) (wrap_text_eq_utf8 hs),
      outcome_of_certificate fracOk id wrap_ne (hcert _) (wrap_text_eq_utf8 hs),
      classify_of_dns (by rw [matchesAny_dns_message, he.2 s hdec, Bool.or_true]),
      classify_of_dns (by rw [matchesAny_dns_message, he.2 s hdec, Bool.or_true])]

/-- Between URLs without keywords a failure is classified the same, and between
    any URLs exactly when it is `Unblamable`. -/
theorem outcome_eq_iff (isPrint : Char → Bool) (fracOk : Nat → Bool) (id : String) (m : Method)
    (e : WrappedError) :
    (∀ u₁ u₂, Neutral isPrint u₁ → Neutral isPrint u₂ →
        outcome fracOk id (wrap isPrint m u₁ e) = outcome fracOk id (wrap isPrint m u₂ e)) ∧
      ((∀ u₁ u₂, outcome fracOk id (wrap isPrint m u₁ e) =
        outcome fracOk id (wrap isPrint m u₂ e)) ↔ Unblamable e) := by
  refine ⟨fun _ _ h₁ h₂ => h₁.outcome_eq fracOk id h₂, fun h => ?_, fun he u₁ u₂ =>
    outcome_eq_of_unblamable fracOk id he u₁ u₂⟩
  exact ⟨isCertificateError_of_forall_outcome_eq h, fun s hs =>
    matchesAny_dns_of_forall_outcome_eq h (decode_eq_some_iff.1 hs)⟩

/-- The end of a connection, reported for two paths. -/
theorem not_forall_outcome_eq :
    ¬∀ (m : Method) (e : WrappedError) (u₁ u₂ : String),
      outcome (fun _ => true) "cycleTLSRequest" (wrap (fun _ => true) m u₁ e) =
        outcome (fun _ => true) "cycleTLSRequest" (wrap (fun _ => true) m u₂ e) := by
  intro h
  have hcert := isCertificateError_of_forall_outcome_eq (h .get (.other (utf8 "EOF") false))
  exact absurd hcert (by decide +kernel)

end CycleTLS
