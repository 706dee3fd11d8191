import CycleTLS.Lib.Raising

/-!
# How often a request is submitted (`api.py`, `_ffi.py`)

`arequest` sends its payload by polling or by a callback, and by polling once more if the
way by callback raises a `RuntimeError`. Each way submits the payload once at most. So a
payload is submitted twice exactly if the first exception after its submission by callback is
such an error (`atMostOnce_iff`).
-/

namespace CycleTLS

open Raising

namespace Submissions

/-- An exception, as far as the handlers tell it apart. -/
inductive Exc
  | cycleTLSError
  | runtimeError
  | timeoutError
  /-- Another `Exception`. -/
  | other
  /-- A `BaseException` that is no `Exception`, as `CancelledError`. -/
  | base
  deriving DecidableEq

/-- Where a payload is handed over. -/
inductive Submission
  | submitRequestAsync
  | submitRequestAsyncZeroCopy
  | submitRequestAsyncWithNotify
  /-- The queue of the batcher. -/
  | queue
  deriving DecidableEq

/-- Programs that submit payloads, with the submissions they have made. -/
abbrev Submits (P : Type) := ExceptT Exc (StateM (List (Submission × P)))

variable {P R : Type}

/-- A call of which it is given what it raises. -/
def attempt (raises : Option Exc) : Submits P PUnit :=
  match raises with
  | some e => throw e
  | none => pure ⟨⟩

def submit (s : Submission) (payload : P) : Submits P PUnit := modify (· ++ [(s, payload)])

/-! ## By callback -/

/-- How the calls of `send_request_async_callback` fare. -/
structure CallbackRun (R : Type) where
  loadLibrary : Option Exc
  pipe : Option Exc
  packb : Option Exc
  fromBuffer : Option Exc
  /-- Whether the handle is not zero. -/
  accepted : Bool
  getRunningLoop : Option Exc
  /-- Of `run_in_executor` and `wait_for`. -/
  waitFor : Option Exc
  newLength : Option Exc
  getAsyncResult : Option Exc
  /-- Whether the pointer to the result is null. -/
  null : Bool
  buffer : Option Exc
  freeString : Option Exc
  unpackb : Except Exc R
  closeRead : Option Exc
  closeWrite : Option Exc

/-- `send_request_async_callback`. -/
def sendRequestAsyncCallback (w : CallbackRun R) (payload : P) : Submits P R := do
  attempt w.loadLibrary
  attempt w.pipe
  ensuring
    (do
      attempt w.packb
      attempt w.fromBuffer
      submit .submitRequestAsyncWithNotify payload
      if w.accepted = false then
        throw .cycleTLSError
      attempt w.getRunningLoop
      -- a `TimeoutError` is raised again as one
      attempt w.waitFor
      attempt w.newLength
      attempt w.getAsyncResult
      if w.null then
        throw .cycleTLSError
      ensuring (attempt w.buffer) (attempt w.freeString)
      tryCatch (liftM w.unpackb) fun e => throw (if e = .base then .base else .cycleTLSError))
    (do
      attempt w.closeRead
      attempt w.closeWrite)

/-! ## By polling -/

/-- A round of the loop: the check, whether it is too late after it, and the sleep. -/
structure Round (R : Type) where
  check : Except Exc (Option R)
  late : Bool
  sleep : Option Exc

/-- How the calls of `send_request_async` fare. -/
structure PollingRun (R : Type) where
  hasZerocopySupport : Except Exc Bool
  loadLibrary : Option Exc
  packb : Option Exc
  /-- Of `from_buffer`, or of `b64encode` and `new`. -/
  buffer : Option Exc
  accepted : Bool
  getRunningLoop : Option Exc
  rounds : List (Round R)

/-- The loop. While it goes on it can only be left by a cancellation. -/
def poll : List (Round R) → Submits P R
  | [] => throw .base
  | round :: rounds => do
    match ← liftM round.check with
    | some result => return result
    | none =>
      if round.late then
        throw .timeoutError
      attempt round.sleep
      poll rounds

/-- `submit_request_async`. -/
def submitRequestAsync (w : PollingRun R) (payload : P) : Submits P PUnit := do
  attempt w.loadLibrary
  attempt w.packb
  attempt w.buffer
  submit .submitRequestAsync payload
  if w.accepted = false then
    throw .cycleTLSError

/-- `submit_request_async_zerocopy`. -/
def submitRequestAsyncZerocopy (w : PollingRun R) (payload : P) : Submits P PUnit := do
  attempt w.loadLibrary
  attempt w.packb
  attempt w.buffer
  submit .submitRequestAsyncZeroCopy payload

/-- `send_request_async`. -/
def sendRequestAsync (w : PollingRun R) (payload : P) : Submits P R := do
  if ← liftM w.hasZerocopySupport then
    submitRequestAsyncZerocopy w payload
  else
    submitRequestAsync w payload
  attempt w.getRunningLoop
  poll w.rounds

/-! ## `arequest` -/

/-- How `submit_async` of a batcher fares: before it has queued the payload, and after. -/
structure BatcherRun (R : Type) where
  put : Option Exc
  result : Except Exc R

/-- A use of `arequest`, and how the calls of it fare. -/
structure Run (P R : Type) where
  prepareRequest : Except Exc P
  batcher : Option (BatcherRun R)
  useCallback : Bool
  hasCallbackSupport : Except Exc Bool
  callback : CallbackRun R
  polling : PollingRun R
  parseResponse : Option Exc

/-- The batcher's part of `arequest`. -/
def submitAsync (w : BatcherRun R) (payload : P) : Submits P R := do
  attempt w.put
  submit .queue payload
  liftM w.result

/-- The way by callback, with its fallback. -/
def sendOrFallBack (w : Run P R) (payload : P) : Submits P R :=
  tryCatch (sendRequestAsyncCallback w.callback payload) fun e =>
    if e = .runtimeError then sendRequestAsync w.polling payload else throw e

/-- The body of the outer `try` of `arequest`. -/
def send (w : Run P R) (payload : P) : Submits P R := do
  let byCallback ← if w.useCallback then liftM w.hasCallbackSupport else pure false
  if byCallback then
    sendOrFallBack w payload
  else
    sendRequestAsync w.polling payload

/-- `CycleTLS.arequest`. -/
def arequest (w : Run P R) : Submits P R := do
  let payload ← liftM w.prepareRequest
  match w.batcher with
  | some batcher =>
    let result ← submitAsync batcher payload
    attempt w.parseResponse
    return result
  | none =>
    let responseData ← tryCatch (send w payload) fun e =>
      throw (if e = .base then .base else .cycleTLSError)
    attempt w.parseResponse
    return responseData

/-- The submissions of a run. -/
def Run.submissions (w : Run P R) : List (Submission × P) := (exec (arequest w) []).2

/-- A payload is submitted once at most. -/
def Run.AtMostOnce (w : Run P R) : Prop := w.submissions.length ≤ 1

/-! ## What is submitted -/

/-- Nothing goes wrong before the submission. -/
def CallbackRun.Reaches (w : CallbackRun R) : Prop :=
  w.loadLibrary = none ∧ w.pipe = none ∧ w.packb = none ∧ w.fromBuffer = none

def PollingRun.Reaches (w : PollingRun R) : Prop :=
  (∃ b, w.hasZerocopySupport = .ok b) ∧ w.loadLibrary = none ∧ w.packb = none ∧ w.buffer = none

/-- What is raised after the submission, but by `unpackb`: by the `finally`, or else before it. -/
def CallbackRun.raised (w : CallbackRun R) : Option Exc :=
  w.closeRead <|> w.closeWrite <|>
    if w.accepted = false then some .cycleTLSError
    else w.getRunningLoop <|> w.waitFor <|> w.newLength <|> w.getAsyncResult <|>
      if w.null then some .cycleTLSError else w.freeString <|> w.buffer

/-- The way by callback submits the payload, and is left with a `RuntimeError`. -/
def Run.LosesTrack (w : Run P R) : Prop :=
  (∃ payload, w.prepareRequest = .ok payload) ∧ w.batcher.isNone ∧ w.useCallback ∧
    w.hasCallbackSupport = .ok true ∧ w.callback.Reaches ∧ w.callback.raised = some .runtimeError

variable {w : Run P R} {payload : P} {s : List (Submission × P)}

theorem exec_attempt (raises : Option Exc) : exec (attempt raises) s =
    match raises with
    | some e => (.error e, s)
    | none => (.ok ⟨⟩, s) := by
  cases raises <;> rfl

@[simp] theorem exec_submit (k : Submission) :
    exec (submit k payload) s = (.ok ⟨⟩, s ++ [(k, payload)]) := rfl

theorem stays_attempt (raises : Option Exc) : Stays s (attempt raises) fun _ => True := by
  cases raises with
  | none => exact .pure trivial
  | some e => exact .throw e

theorem stays_poll (rounds : List (Round R)) : Stays s (poll rounds) fun _ => True := by
  induction rounds with
  | nil => exact .throw _
  | cons round rounds ih =>
    refine .bind (.lift fun _ _ => trivial) fun found _ => ?_
    cases found with
    | some result => exact .pure trivial
    | none =>
      cases round.late with
      | true => exact .throw _
      | false => exact .bind (stays_attempt round.sleep) fun _ _ => ih

/-- A submission that is made. -/
theorem submits_sendRequestAsync {v : PollingRun R} (h : v.Reaches) :
    ∃ k, (exec (sendRequestAsync v payload) s).2 = s ++ [(k, payload)] := by
  obtain ⟨⟨b, hb⟩, hload, hpack, hbuffer⟩ := h
  have hrest (s : List (Submission × P)) :
      (exec (do attempt v.getRunningLoop; poll v.rounds : Submits P R) s).2 = s :=
    (Stays.bind (stays_attempt _) fun _ _ => stays_poll v.rounds).1
  cases b with
  | true =>
    refine ⟨.submitRequestAsyncZeroCopy, Eq.trans ?_ (hrest _)⟩
    simp [sendRequestAsync, submitRequestAsyncZerocopy, exec_bind, exec_attempt, hb, hload, hpack,
      hbuffer]
  | false =>
    cases haccepted : v.accepted with
    | true =>
      refine ⟨.submitRequestAsync, Eq.trans ?_ (hrest _)⟩
      simp [sendRequestAsync, submitRequestAsync, exec_bind, exec_attempt, hb, hload, hpack,
        hbuffer, haccepted]
    | false =>
      refine ⟨.submitRequestAsync, ?_⟩
      simp [sendRequestAsync, submitRequestAsync, exec_bind, exec_attempt, hb, hload, hpack,
        hbuffer, haccepted]

theorem not_submits_sendRequestAsync {v : PollingRun R} (h : ¬v.Reaches) :
    (exec (sendRequestAsync v payload) s).2 = s := by
  cases hb : v.hasZerocopySupport with
  | error e => simp [sendRequestAsync, exec_bind, hb]
  | ok b =>
    cases hload : v.loadLibrary with
    | some e => cases b <;> simp [sendRequestAsync, submitRequestAsync, submitRequestAsyncZerocopy,
        exec_bind, exec_attempt, hb, hload]
    | none =>
      cases hpack : v.packb with
      | some e => cases b <;> simp [sendRequestAsync, submitRequestAsync,
          submitRequestAsyncZerocopy, exec_bind, exec_attempt, hb, hload, hpack]
      | none =>
        cases hbuffer : v.buffer with
        | some e => cases b <;> simp [sendRequestAsync, submitRequestAsync,
            submitRequestAsyncZerocopy, exec_bind, exec_attempt, hb, hload, hpack, hbuffer]
        | none => exact absurd ⟨⟨b, hb⟩, hload, hpack, hbuffer⟩ h

/-- The body of the `try` of `send_request_async_callback`, after the submission. -/
def CallbackRun.receive (v : CallbackRun R) : Submits P R := do
  if v.accepted = false then
    throw .cycleTLSError
  attempt v.getRunningLoop
  attempt v.waitFor
  attempt v.newLength
  attempt v.getAsyncResult
  if v.null then
    throw .cycleTLSError
  ensuring (attempt v.buffer) (attempt v.freeString)
  tryCatch (liftM v.unpackb) fun e => throw (if e = .base then .base else .cycleTLSError)

theorem exec_receive (v : CallbackRun R) (s : List (Submission × P)) :
    (exec v.receive s).2 = s ∧ ((exec v.receive s).1 = .error .runtimeError ↔
      (if v.accepted = false then some .cycleTLSError
        else v.getRunningLoop <|> v.waitFor <|> v.newLength <|> v.getAsyncResult <|>
          if v.null then some .cycleTLSError else v.freeString <|> v.buffer) =
        some Exc.runtimeError) := by
  rw [CallbackRun.receive]
  cases v.accepted with
  | false => simp
  | true =>
    cases v.getRunningLoop with
    | some e => simp [exec_bind, exec_attempt]
    | none =>
      cases v.waitFor with
      | some e => simp [exec_bind, exec_attempt]
      | none =>
        cases v.newLength with
        | some e => simp [exec_bind, exec_attempt]
        | none =>
          cases v.getAsyncResult with
          | some e => simp [exec_bind, exec_attempt]
          | none =>
            cases v.null with
            | true => simp [exec_bind, exec_attempt]
            | false =>
              cases v.freeString with
              | some e => cases v.buffer <;> simp [exec_bind, exec_attempt, exec_ensuring]
              | none =>
                cases v.buffer with
                | some e => simp [exec_bind, exec_attempt, exec_ensuring]
                | none =>
                  cases v.unpackb with
                  | ok r => simp [exec_bind, exec_attempt, exec_ensuring, exec_tryCatch]
                  | error e =>
                    by_cases he : e = .base <;>
                      simp [exec_bind, exec_attempt, exec_ensuring, exec_tryCatch, he]

/-- The way by callback, from its submission on. -/
theorem exec_sendRequestAsyncCallback {v : CallbackRun R} (h : v.Reaches) :
    exec (sendRequestAsyncCallback v payload) s =
      exec (ensuring v.receive do attempt v.closeRead; attempt v.closeWrite)
        (s ++ [(.submitRequestAsyncWithNotify, payload)]) := by
  obtain ⟨hload, hpipe, hpack, hbuffer⟩ := h
  simp [sendRequestAsyncCallback, CallbackRun.receive, exec_bind, exec_attempt, exec_ensuring,
    hload, hpipe, hpack, hbuffer]

theorem submits_sendRequestAsyncCallback {v : CallbackRun R} (h : v.Reaches) :
    (exec (sendRequestAsyncCallback v payload) s).2 =
        s ++ [(.submitRequestAsyncWithNotify, payload)] ∧
      ((exec (sendRequestAsyncCallback v payload) s).1 = .error .runtimeError ↔
        v.raised = some .runtimeError) := by
  obtain ⟨hs, hr⟩ := exec_receive v (s ++ [(.submitRequestAsyncWithNotify, payload)])
  rw [exec_sendRequestAsyncCallback h, exec_ensuring, hs, CallbackRun.raised]
  cases v.closeRead with
  | some e => simp [exec_bind, exec_attempt]
  | none =>
    cases v.closeWrite with
    | some e => simp [exec_bind, exec_attempt]
    | none => simpa [exec_bind, exec_attempt] using hr

/-- After nothing has been submitted, the descriptors are closed all the same. -/
theorem snd_ensuring_throw {v : CallbackRun R} {m : Submits P R} (h : (exec m s).2 = s) :
    (exec (ensuring m do attempt v.closeRead; attempt v.closeWrite) s).2 = s := by
  rw [exec_ensuring, h]
  cases v.closeRead with
  | some e => simp [exec_bind, exec_attempt]
  | none => cases v.closeWrite <;> simp [exec_bind, exec_attempt]

theorem not_submits_sendRequestAsyncCallback {v : CallbackRun R} (h : ¬v.Reaches) :
    (exec (sendRequestAsyncCallback v payload) s).2 = s := by
  rw [sendRequestAsyncCallback]
  cases hload : v.loadLibrary with
  | some e => simp [exec_bind, exec_attempt]
  | none =>
    cases hpipe : v.pipe with
    | some e => simp [exec_bind, exec_attempt]
    | none =>
      simp only [exec_bind, exec_attempt]
      refine snd_ensuring_throw ?_
      cases hpack : v.packb with
      | some e => simp [exec_bind, exec_attempt]
      | none =>
        cases hbuffer : v.fromBuffer with
        | some e => simp [exec_bind, exec_attempt]
        | none => exact absurd ⟨hload, hpipe, hpack, hbuffer⟩ h

/-! ## Once at most -/

theorem length_sendRequestAsync (v : PollingRun R) :
    (exec (sendRequestAsync v payload) s).2.length ≤ s.length + 1 := by
  by_cases h : v.Reaches
  · obtain ⟨k, hk⟩ : ∃ k, (exec (sendRequestAsync v payload) s).2 = s ++ [(k, payload)] :=
      submits_sendRequestAsync h
    have hlength := congrArg List.length hk
    rw [List.length_append, List.length_singleton] at hlength
    exact Nat.le_of_eq hlength
  · have hnone : (exec (sendRequestAsync v payload) s).2 = s := not_submits_sendRequestAsync h
    exact Nat.le_succ_of_le (Nat.le_of_eq (congrArg List.length hnone))

/-- The way by callback and its fallback submit twice exactly if each of them submits and the
    first is left with a `RuntimeError`. -/
theorem length_sendOrFallBack : (exec (sendOrFallBack w payload) []).2.length ≤ 1 ↔
    ¬((w.callback.Reaches ∧ w.callback.raised = some .runtimeError) ∧ w.polling.Reaches) := by
  rw [sendOrFallBack, exec_tryCatch]
  cases hrun : exec (sendRequestAsyncCallback w.callback payload) [] with
  | mk r t =>
    by_cases hreach : w.callback.Reaches
    · have ht := @submits_sendRequestAsyncCallback P R payload [] w.callback hreach
      rw [hrun] at ht
      obtain ⟨rfl, hr⟩ := ht
      cases r with
      | ok result => exact iff_of_true (Nat.le_refl _) fun h => nomatch hr.2 h.1.2
      | error e =>
        by_cases he : e = .runtimeError
        · subst he
          simp only [if_true]
          by_cases hpolls : w.polling.Reaches
          · obtain ⟨k, hk⟩ : ∃ k, (exec (sendRequestAsync w.polling payload)
                [(.submitRequestAsyncWithNotify, payload)]).2 = _ := submits_sendRequestAsync hpolls
            rw [List.nil_append, hk]
            exact iff_of_false (by simp) (not_not.2 ⟨⟨hreach, hr.1 rfl⟩, hpolls⟩)
          · rw [List.nil_append, not_submits_sendRequestAsync hpolls]
            exact iff_of_true (Nat.le_refl _) fun h => hpolls h.2
        · simp only [if_neg he]
          exact iff_of_true (Nat.le_refl _) fun h => he (Except.error.inj (hr.2 h.1.2))
    · have ht := @not_submits_sendRequestAsyncCallback P R payload [] w.callback hreach
      rw [hrun] at ht
      obtain rfl : t = [] := ht
      refine iff_of_true ?_ fun h => hreach h.1.1
      cases r with
      | ok result => exact Nat.zero_le _
      | error e =>
        by_cases he : e = .runtimeError
        · simpa [he] using length_sendRequestAsync (s := []) w.polling
        · simp [he]

/-- What comes after the sending submits nothing. -/
theorem submissions_of_prepared (hprepared : w.prepareRequest = .ok payload)
    (hbatcher : w.batcher = none) : w.submissions = (exec (send w payload) []).2 := by
  rw [Run.submissions, arequest, hprepared, hbatcher, exec_bind, exec_lift]
  simp only [exec_bind, exec_tryCatch]
  rcases exec (send w payload) [] with ⟨e | r, t⟩
  · rfl
  · cases w.parseResponse <;> simp [exec_attempt]

theorem submissions_batcher {batcher : BatcherRun R} (hprepared : w.prepareRequest = .ok payload)
    (hbatcher : w.batcher = some batcher) : w.submissions.length ≤ 1 := by
  rw [Run.submissions, arequest, hprepared, hbatcher, exec_bind, exec_lift]
  cases hput : batcher.put with
  | some e => simp [submitAsync, exec_bind, exec_attempt, hput]
  | none =>
    cases hresult : batcher.result with
    | error e => simp [submitAsync, exec_bind, exec_attempt, hput, hresult]
    | ok result =>
      cases w.parseResponse <;>
        simp [submitAsync, exec_bind, exec_map, exec_attempt, hput, hresult]

/-- The payload is submitted once at most exactly unless the way by callback loses track of
    it and that by polling submits it too. -/
theorem atMostOnce_iff : w.AtMostOnce ↔ ¬(w.LosesTrack ∧ w.polling.Reaches) := by
  rw [Run.AtMostOnce, Run.LosesTrack]
  cases hprepared : w.prepareRequest with
  | error e =>
    refine iff_of_true ?_ ?_
    · rw [Run.submissions, arequest, hprepared, exec_bind, exec_lift]
      exact Nat.zero_le _
    · rintro ⟨⟨⟨_, h⟩, -⟩, -⟩
      cases h
  | ok payload =>
    cases hbatcher : w.batcher with
    | some batcher =>
      refine iff_of_true (submissions_batcher hprepared hbatcher) ?_
      rintro ⟨⟨-, h, -⟩, -⟩
      cases h
    | none =>
      have hpolls : (exec (sendRequestAsync w.polling payload) []).2.length ≤ 1 :=
        length_sendRequestAsync w.polling
      rw [submissions_of_prepared hprepared hbatcher, send]
      cases hcallback : w.useCallback with
      | false => exact iff_of_true (by simpa [exec_bind] using hpolls) (by simp)
      | true =>
        cases hsupport : w.hasCallbackSupport with
        | error e => simp [exec_bind]
        | ok b =>
          cases b with
          | false => exact iff_of_true (by simpa [exec_bind] using hpolls) (by simp)
          | true => simpa [exec_bind] using length_sendOrFallBack

/-- A request for which no thread can be started to read its pipe. -/
def threadless : Run String String where
  prepareRequest := .ok "payload"
  batcher := none
  useCallback := true
  hasCallbackSupport := .ok true
  callback := {
    loadLibrary := none
    pipe := none
    packb := none
    fromBuffer := none
    accepted := true
    getRunningLoop := none
    waitFor := some .runtimeError
    newLength := none
    getAsyncResult := none
    null := false
    buffer := none
    freeString := none
    unpackb := .ok "response"
    closeRead := none
    closeWrite := none }
  polling := {
    hasZerocopySupport := .ok true
    loadLibrary := none
    packb := none
    buffer := none
    accepted := true
    getRunningLoop := none
    rounds := [⟨.ok none, false, none⟩, ⟨.ok (some "response"), false, none⟩] }
  parseResponse := none

theorem submissions_threadless : threadless.submissions =
    [(.submitRequestAsyncWithNotify, "payload"), (.submitRequestAsyncZeroCopy, "payload")] :=
  rfl

theorem not_forall_atMostOnce : ¬∀ w : Run String String, w.AtMostOnce := by
  intro h
  have hlength := h threadless
  rw [Run.AtMostOnce, submissions_threadless] at hlength
  exact absurd hlength (by decide)

end Submissions

end CycleTLS
