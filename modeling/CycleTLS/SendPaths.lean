import CycleTLS.Batch
import CycleTLS.FFI
import CycleTLS.Failures
import CycleTLS.Lib.Polling

/-!
# The ways of a request (`ffi.go`, `_ffi.py`)

A payload goes to Go on one of five paths: two that wait for Go, two that submit it and poll
for the result, and one that submits it and waits for a byte in a pipe. The symbols of the
library that is loaded decide which. Go accepts a payload that `msgpack.Unmarshal` can read.

What is accepted has the same response on all paths, if it is there in time and gets through,
and what is rejected has an error at once; but `submit_request_async_zerocopy` takes a handle
of zero for one, so that its path polls for what will never be there (`treats_iff`).
-/

namespace CycleTLS

open MsgPack Utf8 Raising Polling

namespace SendPaths

/-- The libraries on both sides. -/
structure FFIEnv (P Q : Type) where
  /-- `ormsgpack.packb`; no message is empty. -/
  packb : P → Except Raised {b : Bytes // b ≠ []}
  /-- The text of an exception of `ormsgpack.unpackb`. -/
  unpackError : Bytes → String
  /-- `msgpack.Unmarshal`, to the id and the options of a request. -/
  unmarshal : Bytes → Except {e : Bytes // e.length < 2 ^ 31} (String × Q)
  /-- The text of a `base64.CorruptInputError`. -/
  corruptInput : Bytes → Bytes
  /-- The error of `msgpack.Marshal`, if it has one. -/
  marshalError : Payload → Option String

/-- The five paths. -/
inductive SendPath
  | syncZerocopy
  | syncBase64
  | asyncZerocopy
  | asyncBase64
  | callback
  deriving DecidableEq

/-- How bytes go on a path. -/
def SendPath.mode : SendPath → FFIMode
  | .syncZerocopy | .asyncZerocopy | .callback => .zeroCopy
  | .syncBase64 | .asyncBase64 => .base64

variable {P Q : Type} (env : FFIEnv P Q) (answer : Q → Except Bytes GoResponse)

/-! ## Go -/

/-- A request as it is handed to `Do`, but for `normalizeMethod`, which all paths share. -/
def FFIEnv.request (b : Bytes) : Except {e : Bytes // e.length < 2 ^ 31} (String × Q) :=
  (env.unmarshal b).map fun r => (if r.1 = "" then "cycleTLSRequest" else r.1, r.2)

/-- The payload for what `Do` returns. -/
def respond (r : String × Q) : Payload :=
  match answer r.2 with
  | .ok resp => buildResponsePayload r.1 resp
  | .error err => buildErrorPayload r.1 err

/-- What is written of a payload, with a text that stands for one that cannot be; if that
    one cannot be either, nothing is. -/
def FFIEnv.encode (fallback : String) (p : Payload) : Bytes :=
  match env.marshalError p with
  | none => p.marshal
  | some _ =>
    match env.marshalError (buildErrorPayload p.requestID (utf8 fallback)) with
    | none => (buildErrorPayload p.requestID (utf8 fallback)).marshal
    | some _ => []

namespace Go

/-- `marshalPayload` and `marshalPayloadZeroCopy`, but for how their bytes are handed over. -/
def marshalPayload (p : Payload) : Bytes := env.encode "failed to encode response" p

/-- The common part of `getRequest` and `getRequestZeroCopy`. -/
def get (msgpackData : Bytes) : Bytes :=
  match env.request msgpackData with
  | .error e => marshalPayload env (buildErrorPayload "" (utf8 "invalid payload: " ++ e.1))
  | .ok r => marshalPayload env (respond answer r)

def getRequest (data : Bytes) : Bytes :=
  match Base64.decode (ffiString data) with
  | none =>
    marshalPayload env (buildErrorPayload ""
      (utf8 "invalid base64: " ++ env.corruptInput (ffiString data)))
  | some msgpackData => get env answer msgpackData

def getRequestZeroCopy (data : Bytes) (dataLen : Int) : Bytes :=
  if dataLen ≤ 0 then marshalPayload env (buildErrorPayload "" (utf8 "empty payload"))
  else get env answer (data.take dataLen.toNat)

/-- What the goroutine of a new handle will deliver; there is none for a handle of zero. -/
def submit (fallback : String) (msgpackData : Bytes) : Option Bytes :=
  match env.request msgpackData with
  | .error _ => none
  | .ok r => some (env.encode fallback (respond answer r))

def submitRequestAsync (data : Bytes) : Option Bytes :=
  match Base64.decode (ffiString data) with
  | none => none
  | some msgpackData => submit env answer "failed to encode response" msgpackData

def submitRequestAsyncZeroCopy (data : Bytes) (dataLen : Int) : Option Bytes :=
  if dataLen ≤ 0 then none
  else submit env answer "failed to marshal response" (data.take dataLen.toNat)

def submitRequestAsyncWithNotify (data : Bytes) (dataLen : Int) : Option Bytes :=
  if dataLen ≤ 0 then none
  else submit env answer "failed to marshal response" (data.take dataLen.toNat)

end Go

/-! ## Python -/

/-- A length as an argument for Go. -/
def cIntArg (b : Bytes) : Except Raised Int :=
  if b.length < 2 ^ 31 then .ok b.length else .error .overflowError

/-- A response as it is unpacked on all paths but one. -/
def FFIEnv.unpackResponse (mode : FFIMode) (b : Bytes) : Except Raised Message :=
  match mode.toPython b with
  | none => .error .library
  | some raw =>
    match unpackb raw with
    | some m => .ok m
    | none => .error (.cycleTLSError ("Failed to decode response data: " ++ env.unpackError raw))

/-- `_send_request_zerocopy`. -/
def sendRequestZerocopy (payload : P) : Except Raised Message := do
  let b ← env.packb payload
  let n ← cIntArg b.1
  env.unpackResponse .zeroCopy (Go.getRequestZeroCopy env answer b.1 n)

/-- `_send_request_base64`. -/
def sendRequestBase64 (payload : P) : Except Raised Message := do
  let b ← env.packb payload
  env.unpackResponse .base64 (Go.getRequest env answer (cString (Base64.encode b.1)))

def submitRequestAsync (payload : P) : Except Raised (Option Bytes) := do
  let b ← env.packb payload
  match Go.submitRequestAsync env answer (cString (Base64.encode b.1)) with
  | none => .error (.cycleTLSError "Failed to submit async request (invalid payload)")
  | some result => .ok (some result)

/-- Whatever the handle is. -/
def submitRequestAsyncZerocopy (payload : P) : Except Raised (Option Bytes) := do
  let b ← env.packb payload
  let n ← cIntArg b.1
  return Go.submitRequestAsyncZeroCopy env answer b.1 n

/-- `check_request_async`, of a handle and whether its result is there. -/
def checkRequestAsync (handle : Option Bytes) (ready : Bool) : Except Raised (Option Message) :=
  match handle, ready with
  | some result, true => some <$> env.unpackResponse .base64 result
  | _, _ => .ok none

/-- A response as it is unpacked by `check_request_async_zerocopy`, that lets the exceptions
    of `unpackb` through. -/
def unpackUnchecked (mode : FFIMode) (b : Bytes) : Except Raised Message :=
  match (mode.toPython b).bind unpackb with
  | some m => .ok m
  | none => .error .library

def checkRequestAsyncZerocopy (handle : Option Bytes) (ready : Bool) :
    Except Raised (Option Message) :=
  match handle, ready with
  | some result, true => some <$> unpackUnchecked .zeroCopy result
  | _, _ => .ok none

/-- How a path ends. -/
inductive Outcome
  | returned (m : Message)
  | raised (e : Raised)
  /-- With `asyncio.TimeoutError`. -/
  | timedOut

def Outcome.ofExcept : Except Raised Message → Outcome
  | .ok m => .returned m
  | .error e => .raised e

/-- How a check ends the loop, if it does: not with `None`. -/
def Outcome.ofCheck : Except Raised (Option Message) → Option Outcome
  | .ok none | .ok (some .nil) => none
  | .ok (some m) => some (.returned m)
  | .error e => some (.raised e)

/-- When things happen to a request. -/
structure Timing where
  /-- Whether its result is there, at each check. -/
  ready : Nat → Bool
  /-- Whether more time than `timeout` has passed, after each check. -/
  late : Nat → Bool
  /-- Whether its byte is in the pipe before the timeout. -/
  notified : Bool

/-- `send_request_async`, to its outcome and the number of its checks. -/
inductive SendRequestAsync (submit : P → Except Raised (Option Bytes))
    (check : Option Bytes → Bool → Except Raised (Option Message)) (timing : Timing) (payload : P) :
    Outcome → Nat → Prop
  | unsubmitted (e : Raised) (h : submit payload = .error e) :
      SendRequestAsync submit check timing payload (.raised e) 0
  | polled (handle : Option Bytes) (o : Option Outcome) (n : Nat) (h : submit payload = .ok handle)
      (hpolls : Polls (fun k => Outcome.ofCheck (check handle (timing.ready k))) timing.late
        0 o n) :
      SendRequestAsync submit check timing payload (o.getD .timedOut) n

/-- `send_request_async_callback`, up to where it waits. -/
def submitRequestAsyncCallback (payload : P) : Except Raised Bytes := do
  let b ← env.packb payload
  let n ← cIntArg b.1
  match Go.submitRequestAsyncWithNotify env answer b.1 n with
  | none =>
    .error (.cycleTLSError "Failed to submit async request (invalid payload or null handle)")
  | some result => .ok result

/-- `send_request_async_callback`. -/
def sendRequestAsyncCallback (timing : Timing) (payload : P) : Outcome :=
  match submitRequestAsyncCallback env answer payload with
  | .error e => .raised e
  | .ok result =>
    if timing.notified then .ofExcept (env.unpackResponse .zeroCopy result) else .timedOut

/-- How a payload fares on a path: the outcome, after a number of checks for it. -/
def Sends (timing : Timing) : SendPath → P → Outcome → Nat → Prop
  | .syncZerocopy, payload, o, n => o = .ofExcept (sendRequestZerocopy env answer payload) ∧ n = 0
  | .syncBase64, payload, o, n => o = .ofExcept (sendRequestBase64 env answer payload) ∧ n = 0
  | .asyncZerocopy, payload, o, n =>
    SendRequestAsync (submitRequestAsyncZerocopy env answer) checkRequestAsyncZerocopy timing
      payload o n
  | .asyncBase64, payload, o, n =>
    SendRequestAsync (submitRequestAsync env answer) (checkRequestAsync env) timing payload o n
  | .callback, payload, o, n => o = sendRequestAsyncCallback env answer timing payload ∧ n = 0

/-! ## Bytes to Go -/

variable {env} {answer} {payload : P} {path : SendPath} {timing : Timing} {m : Message}
  {b : Bytes} {r : String × Q} {o : Outcome} {n : Nat}

/-- The bytes of a payload that reach Go in a mode. -/
def FFIEnv.pack (env : FFIEnv P Q) (mode : FFIMode) (payload : P) : Except Raised Bytes :=
  match env.packb payload with
  | .error e => .error e
  | .ok b => if mode = .zeroCopy ∧ 2 ^ 31 ≤ b.1.length then .error .overflowError else .ok b.1

/-- A function of a message and its length is one of the message, if the length can be told. -/
theorem bind_cIntArg {α : Type} (f : Bytes → Except Raised α) (g : Bytes → Int → Except Raised α)
    (hfg : ∀ b : Bytes, b ≠ [] → g b b.length = f b) :
    (env.packb payload >>= fun b => cIntArg b.1 >>= g b.1) = env.pack .zeroCopy payload >>= f := by
  rw [FFIEnv.pack]
  cases env.packb payload with
  | error e => rfl
  | ok b =>
    show cIntArg b.1 >>= g b.1 = (if _ then _ else _) >>= f
    rw [cIntArg]
    by_cases hlen : b.1.length < 2 ^ 31
    · rw [if_pos hlen, if_neg fun h => absurd hlen (Nat.not_lt.2 h.2)]
      exact hfg b.1 b.2
    · rw [if_neg hlen, if_pos ⟨rfl, Nat.not_lt.1 hlen⟩]
      rfl

theorem bind_packb {α : Type} (f : Bytes → Except Raised α) :
    (env.packb payload >>= fun b => f b.1) = env.pack .base64 payload >>= f := by
  rw [FFIEnv.pack]
  cases env.packb payload with
  | error e => rfl
  | ok b =>
    show f b.1 = (if _ then _ else _) >>= f
    rw [if_neg fun h => FFIMode.noConfusion h.1]
    rfl

theorem not_length_le_zero {b : Bytes} (hb : b ≠ []) : ¬(b.length : Int) ≤ 0 := by
  have hpos := List.length_pos_iff.2 hb
  omega

/-- Go has the bytes of Python. -/
theorem decode_cString (b : Bytes) :
    Base64.decode (ffiString (cString (Base64.encode b))) = some b := by
  rw [ffiString_cString (Base64.zero_notMem_encode b), Base64.decode_encode]

variable {x : Except Raised Bytes}

theorem sendRequestZerocopy_eq (hx : env.pack .zeroCopy payload = x) :
    sendRequestZerocopy env answer payload =
      x >>= fun b => env.unpackResponse .zeroCopy (Go.get env answer b) := by
  rw [← hx]
  refine bind_cIntArg _ (fun b n => env.unpackResponse .zeroCopy
    (Go.getRequestZeroCopy env answer b n)) fun b hb => ?_
  rw [Go.getRequestZeroCopy, if_neg (not_length_le_zero hb), Int.toNat_natCast, List.take_length]

theorem sendRequestBase64_eq (hx : env.pack .base64 payload = x) :
    sendRequestBase64 env answer payload =
      x >>= fun b => env.unpackResponse .base64 (Go.get env answer b) := by
  rw [← hx, ← bind_packb, sendRequestBase64]
  simp only [Go.getRequest, decode_cString]

theorem submitRequestAsync_eq (hx : env.pack .base64 payload = x) :
    submitRequestAsync env answer payload = x >>= fun b =>
      match Go.submit env answer "failed to encode response" b with
      | none => .error (.cycleTLSError "Failed to submit async request (invalid payload)")
      | some result => .ok (some result) := by
  rw [← hx, ← bind_packb, submitRequestAsync]
  simp only [Go.submitRequestAsync, decode_cString]

theorem submitRequestAsyncZerocopy_eq (hx : env.pack .zeroCopy payload = x) :
    submitRequestAsyncZerocopy env answer payload =
      x >>= fun b => .ok (Go.submit env answer "failed to marshal response" b) := by
  rw [← hx]
  refine bind_cIntArg _ (fun b n => .ok (Go.submitRequestAsyncZeroCopy env answer b n))
    fun b hb => ?_
  rw [Go.submitRequestAsyncZeroCopy, if_neg (not_length_le_zero hb), Int.toNat_natCast,
    List.take_length]

theorem submitRequestAsyncCallback_eq (hx : env.pack .zeroCopy payload = x) :
    submitRequestAsyncCallback env answer payload = x >>= fun b =>
      match Go.submit env answer "failed to marshal response" b with
      | none => .error (.cycleTLSError
          "Failed to submit async request (invalid payload or null handle)")
      | some result => .ok result := by
  rw [← hx]
  refine bind_cIntArg _ (fun b n => match Go.submitRequestAsyncWithNotify env answer b n with
    | none => .error (.cycleTLSError
        "Failed to submit async request (invalid payload or null handle)")
    | some result => .ok result) fun b hb => ?_
  rw [Go.submitRequestAsyncWithNotify, if_neg (not_length_le_zero hb), Int.toNat_natCast,
    List.take_length]

/-! ## How a path ends -/

theorem unpackResponse_eq_ok_iff {mode : FFIMode} :
    env.unpackResponse mode b = .ok m ↔ (mode.toPython b).bind unpackb = some m := by
  rw [FFIEnv.unpackResponse]
  cases mode.toPython b with
  | none => simp
  | some raw =>
    rw [Option.bind_some]
    dsimp only
    cases unpackb raw with
    | none => simp
    | some m' => simp

theorem unpackUnchecked_eq_ok_iff {mode : FFIMode} :
    unpackUnchecked mode b = .ok m ↔ (mode.toPython b).bind unpackb = some m := by
  rw [unpackUnchecked]
  cases (mode.toPython b).bind unpackb with
  | none => simp
  | some m' => simp

theorem ofExcept_eq_returned_iff {x : Except Raised Message} :
    Outcome.ofExcept x = .returned m ↔ x = .ok m := by
  cases x <;> simp [Outcome.ofExcept]

section Polled

variable {submit : P → Except Raised (Option Bytes)}
  {check : Option Bytes → Bool → Except Raised (Option Message)} {handle : Option Bytes}

theorem sendRequestAsync_of_error {e : Raised} (hsubmit : submit payload = .error e) :
    SendRequestAsync submit check timing payload o n ↔ o = .raised e ∧ n = 0 := by
  constructor
  · rintro (⟨e', he⟩ | ⟨handle, o, n, hhandle, -⟩)
    · rw [hsubmit] at he
      cases he
      exact ⟨rfl, rfl⟩
    · rw [hsubmit] at hhandle
      cases hhandle
  · rintro ⟨rfl, rfl⟩
    exact .unsubmitted e hsubmit

theorem sendRequestAsync_of_ok (hsubmit : submit payload = .ok handle) :
    SendRequestAsync submit check timing payload o n ↔ ∃ o', o = o'.getD .timedOut ∧
      Polls (fun k => Outcome.ofCheck (check handle (timing.ready k))) timing.late 0 o' n := by
  constructor
  · rintro (⟨e, he⟩ | ⟨handle', o, n, hhandle, hpolls⟩)
    · rw [hsubmit] at he
      cases he
    · rw [hsubmit] at hhandle
      cases hhandle
      exact ⟨o, rfl, hpolls⟩
  · rintro ⟨o', rfl, hpolls⟩
    exact .polled handle o' n hsubmit hpolls

end Polled

/-- A payload that does not reach Go raises the same on all paths of a mode. -/
theorem sends_of_pack_eq_error {e : Raised} (h : env.pack path.mode payload = .error e) :
    Sends env answer timing path payload o n ↔ o = .raised e ∧ n = 0 := by
  cases path with
  | syncZerocopy => rw [Sends, sendRequestZerocopy_eq h, error_bind, Outcome.ofExcept]
  | syncBase64 => rw [Sends, sendRequestBase64_eq h, error_bind, Outcome.ofExcept]
  | asyncZerocopy => exact sendRequestAsync_of_error (submitRequestAsyncZerocopy_eq h)
  | asyncBase64 => exact sendRequestAsync_of_error (submitRequestAsync_eq h)
  | callback =>
    rw [Sends, sendRequestAsyncCallback, submitRequestAsyncCallback_eq h, error_bind]

/-- Whether the result of an accepted request is there in time. -/
def SendPath.InTime (timing : Timing) : SendPath → Prop
  | .syncZerocopy | .syncBase64 => True
  | .asyncZerocopy | .asyncBase64 =>
    ∃ k, timing.ready k = true ∧ ∀ i < k, timing.ready i = false ∧ timing.late i = false
  | .callback => timing.notified = true

/-- The text that stands on a path for a response that Go cannot pack. -/
def SendPath.fallback : SendPath → String
  | .syncZerocopy | .syncBase64 | .asyncBase64 => "failed to encode response"
  | .asyncZerocopy | .callback => "failed to marshal response"

/-- Polling returns a response if it is there in time. -/
theorem exists_sendRequestAsync_returned_iff {submit : P → Except Raised (Option Bytes)}
    {check : Option Bytes → Bool → Except Raised (Option Message)} {handle : Option Bytes}
    {x : Except Raised Message} (hsubmit : submit payload = .ok handle)
    (hready : check handle true = some <$> x) (hnot : check handle false = .ok none)
    (hm : m ≠ .nil) :
    (∃ n, SendRequestAsync submit check timing payload (.returned m) n) ↔
      SendPath.InTime timing .asyncZerocopy ∧ x = .ok m := by
  have hpolls : (∃ n, SendRequestAsync submit check timing payload (.returned m) n) ↔
      ∃ n, Polls (fun k => Outcome.ofCheck (check handle (timing.ready k))) timing.late 0
        (some (.returned m)) n := by
    refine exists_congr fun n => (sendRequestAsync_of_ok hsubmit).trans ⟨?_, ?_⟩
    · rintro ⟨_ | o', ho, hpolls⟩
      · cases ho
      · cases ho
        exact hpolls
    · exact fun hpolls => ⟨_, rfl, hpolls⟩
  have hcheck : ∀ k, Outcome.ofCheck (check handle (timing.ready k)) = some (.returned m) ↔
      timing.ready k = true ∧ x = .ok m := by
    intro k
    cases timing.ready k with
    | false =>
      rw [hnot]
      exact iff_of_false nofun nofun
    | true =>
      rw [hready, and_iff_right rfl]
      cases x with
      | error e => exact iff_of_false nofun nofun
      | ok m' => cases m' <;> simp [Outcome.ofCheck, hm.symm]
  rw [hpolls, exists_polls_some_iff]
  constructor
  · rintro ⟨j, hwaits, hj⟩
    obtain ⟨hj, hx⟩ := (hcheck j).1 hj
    refine ⟨⟨j, hj, fun i hi => ⟨?_, (hwaits i hi).2⟩⟩, hx⟩
    -- Else the loop would have ended before.
    rw [← Bool.not_eq_true]
    intro hready
    have hnone := (hwaits i hi).1
    dsimp only at hnone
    rw [(hcheck i).2 ⟨hready, hx⟩] at hnone
    cases hnone
  · rintro ⟨⟨k, hk, hwaits⟩, hx⟩
    refine ⟨k, fun i hi => ⟨?_, (hwaits i hi).2⟩, (hcheck k).2 ⟨hk, hx⟩⟩
    dsimp only
    rw [(hwaits i hi).1, hnot]
    rfl

/-- What an accepted payload has for a response. -/
theorem exists_sends_returned_iff (hpack : env.pack path.mode payload = .ok b)
    (hr : env.request b = .ok r) (hm : m ≠ .nil) :
    (∃ n, Sends env answer timing path payload (.returned m) n) ↔ path.InTime timing ∧
      (path.mode.toPython (env.encode path.fallback (respond answer r))).bind unpackb = some m := by
  have hget : Go.get env answer b =
      env.encode "failed to encode response" (respond answer r) := by
    rw [Go.get, hr]
    rfl
  have hsubmit (fallback : String) : Go.submit env answer fallback b =
      some (env.encode fallback (respond answer r)) := by rw [Go.submit, hr]
  cases path with
  | syncZerocopy =>
    have hsend : sendRequestZerocopy env answer payload = env.unpackResponse .zeroCopy
        (env.encode "failed to encode response" (respond answer r)) := by
      rw [sendRequestZerocopy_eq hpack, ok_bind, hget]
    simp only [Sends, hsend, exists_and_left, exists_eq, and_true]
    rw [eq_comm, ofExcept_eq_returned_iff, SendPath.InTime, true_and]
    exact unpackResponse_eq_ok_iff
  | syncBase64 =>
    have hsend : sendRequestBase64 env answer payload = env.unpackResponse .base64
        (env.encode "failed to encode response" (respond answer r)) := by
      rw [sendRequestBase64_eq hpack, ok_bind, hget]
    simp only [Sends, hsend, exists_and_left, exists_eq, and_true]
    rw [eq_comm, ofExcept_eq_returned_iff, SendPath.InTime, true_and]
    exact unpackResponse_eq_ok_iff
  | asyncZerocopy =>
    have hhandle : submitRequestAsyncZerocopy env answer payload =
        .ok (some (env.encode "failed to marshal response" (respond answer r))) := by
      rw [submitRequestAsyncZerocopy_eq hpack, ok_bind, hsubmit]
    refine (exists_sendRequestAsync_returned_iff hhandle rfl rfl hm).trans ?_
    exact and_congr Iff.rfl unpackUnchecked_eq_ok_iff
  | asyncBase64 =>
    have hhandle : submitRequestAsync env answer payload =
        .ok (some (env.encode "failed to encode response" (respond answer r))) := by
      rw [submitRequestAsync_eq hpack, ok_bind, hsubmit]
    refine (exists_sendRequestAsync_returned_iff hhandle rfl rfl hm).trans ?_
    exact and_congr Iff.rfl unpackResponse_eq_ok_iff
  | callback =>
    have hhandle : submitRequestAsyncCallback env answer payload =
        .ok (env.encode "failed to marshal response" (respond answer r)) := by
      rw [submitRequestAsyncCallback_eq hpack, ok_bind, hsubmit]
    simp only [Sends, sendRequestAsyncCallback, hhandle, exists_and_left, exists_eq, and_true]
    rw [SendPath.InTime, eq_comm]
    cases timing.notified with
    | false => exact iff_of_false nofun nofun
    | true =>
      rw [if_pos rfl, and_iff_right rfl, ofExcept_eq_returned_iff]
      exact unpackResponse_eq_ok_iff

/-! ## Payloads that come through -/

variable {mode : FFIMode} {p : Payload} {fracOk : Nat → Bool}

/-- Python has the payload of a response if Go can pack it, and not another one. -/
theorem bind_toPython_encode_iff {fallback : String} (hfallback : (utf8 fallback).length < 2 ^ 32) :
    (mode.toPython (env.encode fallback p)).bind unpackb = some p.toMessage ↔
      env.marshalError p = none ∧ (unpack p).isSome = true ∧ p.Writable ∧
        (mode = .zeroCopy → p.marshal.length < 2 ^ 31) := by
  rw [FFIEnv.encode]
  cases hp : env.marshalError p with
  | none =>
    rw [and_iff_right rfl]
    exact fetch_eq_toMessage_iff
  | some e =>
    refine iff_of_false (fun h => ?_) fun h => nomatch h.1
    dsimp only at h
    cases hq : env.marshalError (buildErrorPayload p.requestID (utf8 fallback)) with
    | some e' =>
      rw [hq] at h
      dsimp only at h
      rw [bind_toPython_nil] at h
      cases h
    | none =>
      rw [hq] at h
      -- The text that stands for the payload would be the payload.
      obtain ⟨raw, hraw, hm⟩ := Option.bind_eq_some_iff.1 h
      obtain ⟨hunpack, hwritable⟩ :=
        fits_toMessage_iff.1 (Message.read_eq_some (Message.ofBytes_eq_some_iff.1 hm)).1
      obtain ⟨hid, -⟩ := writable_iff.1 hwritable
      have heq := eq_of_fetch (writable_buildErrorPayload_iff.2 ⟨hid, hfallback⟩) h
      obtain ⟨d, hd⟩ := Option.isSome_iff_exists.1 hunpack
      have hd' : unpack (buildErrorPayload p.requestID (utf8 fallback)) = some d := by
        rw [← ofMessage_toMessage, ← heq, ofMessage_toMessage, hd]
      rw [(unpack_eq_some_iff.1 hd).trans (unpack_eq_some_iff.1 hd').symm, hq] at hp
      cases hp

/-- The texts of an answer are UTF-8; a body is checked by Go. -/
def Textual : Except Bytes GoResponse → Prop
  | .ok resp => (∀ h ∈ resp.headers, (decode h.1).isSome = true ∧ (decode h.2).isSome = true) ∧
      (decode resp.finalUrl).isSome = true
  | .error err => (decode err).isSome = true

theorem isSome_unpack_respond_iff :
    (unpack (respond answer r)).isSome = true ↔ Textual (answer r.2) := by
  rw [isSome_unpack_iff, respond]
  cases answer r.2 with
  | error err => simp [buildErrorPayload, Textual, show (decode []).isSome = true by decide]
  | ok resp =>
    refine and_iff_right ?_
    show (decode (if (decode resp.body).isSome then resp.body else [])).isSome = true
    split_ifs with h
    · exact h
    · decide

/-! ## Errors -/

def IsCycleTLSError : Raised → Prop
  | .cycleTLSError _ => True
  | .response e => e.cls.IsCycleTLSError
  | _ => False

/-- The path raises a `CycleTLSError`, or `_parse_response` does so for what it returns. -/
inductive Outcome.Fails (fracOk : Nat → Bool) : Outcome → Prop
  | raised (e : Raised) (he : IsCycleTLSError e) : Fails fracOk (.raised e)
  | parsed (m : Message) (d : ResponseDict) (e : Raised) (hd : ResponseDict.ofMessage m = some d)
      (hparse : parseResponse fracOk d = .error e) (he : IsCycleTLSError e) :
      Fails fracOk (.returned m)

/-- A status of zero is that of an error. -/
theorem parseResponse_of_status (fracOk : Nat → Bool) {d : ResponseDict} (hd : d.status = 0) :
    ∃ e, parseResponse fracOk d = .error e ∧ IsCycleTLSError e := by
  have hnot : ¬Returns (raiseForErrorResponse d) := by
    rw [returns_raiseForErrorResponse_iff, not_not, hd]
    exact looksLikeFailure_zero _
  rcases raiseForErrorResponse_cases d with ⟨hok, -⟩ | ⟨e, herror, -, he⟩
  · exact absurd ⟨_, hok⟩ hnot
  · have hdict : dictToResponse fracOk d = .error e := by
      rw [dictToResponse, if_pos rfl, herror, error_bind]
    refine ⟨.response e, ?_, he⟩
    rw [parseResponse, hdict]
    exact if_pos he

/-- What cannot be unpacked is an error of the path, and what has no status is one of
    `_parse_response`. -/
theorem fails_unpackResponse (h : ∀ m, (mode.toPython b).bind unpackb = some m →
      ∃ d, ResponseDict.ofMessage m = some d ∧ d.status = 0) :
    (Outcome.ofExcept (env.unpackResponse mode b)).Fails fracOk := by
  have htotal : ∃ raw, mode.toPython b = some raw := by
    cases mode with
    | zeroCopy => exact ⟨_, rfl⟩
    | base64 => exact ⟨_, toPython_base64 _⟩
  obtain ⟨raw, hraw⟩ := htotal
  rw [FFIEnv.unpackResponse, hraw]
  dsimp only
  cases hm : unpackb raw with
  | none => exact .raised _ trivial
  | some m =>
    obtain ⟨d, hd, hzero⟩ := h m (Option.bind_eq_some_iff.2 ⟨raw, hraw, hm⟩)
    obtain ⟨e, he, hcls⟩ := parseResponse_of_status fracOk hzero
    exact .parsed m d e hd he hcls

theorem exists_status_eq_zero {id : String} {message : Bytes}
    (hp : (buildErrorPayload id message).Writable)
    (h : mode.fetch (buildErrorPayload id message) = some m) :
    ∃ d, ResponseDict.ofMessage m = some d ∧ d.status = 0 := by
  obtain rfl := eq_of_fetch hp h
  obtain ⟨d, hd⟩ := Option.isSome_iff_exists.1 (fetch_eq_toMessage_iff.1 h).1
  have hstatus : d.status = 0 := by
    have heq := congrArg Payload.status (unpack_eq_some_iff.1 hd)
    exact heq.symm
  exact ⟨d, (ofMessage_toMessage _).trans hd, hstatus⟩

/-- An error payload stays one, whatever Go can write of it. -/
theorem fails_encode {fallback : String} (hfallback : (utf8 fallback).length < 2 ^ 32)
    {id : String} {message : Bytes} (hid : (utf8 id).length < 2 ^ 32)
    (hmessage : message.length < 2 ^ 32) : (Outcome.ofExcept (env.unpackResponse mode
      (env.encode fallback (buildErrorPayload id message)))).Fails fracOk := by
  refine fails_unpackResponse fun m hm => ?_
  rw [FFIEnv.encode] at hm
  split at hm
  · exact exists_status_eq_zero (writable_buildErrorPayload_iff.2 ⟨hid, hmessage⟩) hm
  · split at hm
    · exact exists_status_eq_zero (writable_buildErrorPayload_iff.2 ⟨hid, hfallback⟩) hm
    · rw [bind_toPython_nil] at hm
      cases hm

/-- A handle of zero is polled for until it is too late. -/
theorem timedOut_of_rejected {e : {e : Bytes // e.length < 2 ^ 31}}
    (hpack : env.pack .zeroCopy payload = .ok b) (hr : env.request b = .error e)
    (h : Sends env answer timing .asyncZerocopy payload o n) : o = .timedOut ∧ 0 < n := by
  have hhandle : submitRequestAsyncZerocopy env answer payload = .ok none := by
    rw [submitRequestAsyncZerocopy_eq hpack, ok_bind, Go.submit, hr]
  obtain ⟨o', rfl, hpolls⟩ := (sendRequestAsync_of_ok hhandle).1 h
  obtain rfl := hpolls.eq_none fun k => rfl
  exact ⟨rfl, hpolls.pos⟩

/-- What a rejected payload has: an error at once, but for one path. -/
theorem exists_sends_fails_iff {e : {e : Bytes // e.length < 2 ^ 31}}
    (hpack : env.pack path.mode payload = .ok b) (hr : env.request b = .error e) :
    (∃ o, Sends env answer timing path payload o 0 ∧ o.Fails fracOk) ↔ path ≠ .asyncZerocopy := by
  have hget : Go.get env answer b = env.encode "failed to encode response"
      (buildErrorPayload "" (utf8 "invalid payload: " ++ e.1)) := by
    rw [Go.get, hr]
    rfl
  have hsubmit (fallback : String) : Go.submit env answer fallback b = none := by
    rw [Go.submit, hr]
  have hfails (mode : FFIMode) :
      (Outcome.ofExcept (env.unpackResponse mode (Go.get env answer b))).Fails fracOk := by
    rw [hget]
    refine fails_encode (by decide) (by decide) ?_
    have he := e.2
    have hlength : (utf8 "invalid payload: ").length = 17 := by decide
    rw [List.length_append]
    omega
  cases path with
  | syncZerocopy =>
    refine iff_of_true ⟨_, ⟨rfl, rfl⟩, ?_⟩ nofun
    rw [sendRequestZerocopy_eq hpack, ok_bind]
    exact hfails .zeroCopy
  | syncBase64 =>
    refine iff_of_true ⟨_, ⟨rfl, rfl⟩, ?_⟩ nofun
    rw [sendRequestBase64_eq hpack, ok_bind]
    exact hfails .base64
  | asyncZerocopy =>
    refine iff_of_false ?_ fun h => h rfl
    rintro ⟨o, hsends, -⟩
    exact Nat.lt_irrefl 0 (timedOut_of_rejected hpack hr hsends).2
  | asyncBase64 =>
    have hraise : submitRequestAsync env answer payload =
        .error (.cycleTLSError "Failed to submit async request (invalid payload)") := by
      rw [submitRequestAsync_eq hpack, ok_bind, hsubmit]
    exact iff_of_true ⟨_, .unsubmitted _ hraise, .raised _ trivial⟩ nofun
  | callback =>
    refine iff_of_true ⟨_, ⟨rfl, rfl⟩, ?_⟩ nofun
    rw [sendRequestAsyncCallback, submitRequestAsyncCallback_eq hpack, ok_bind, hsubmit]
    exact .raised _ trivial

/-! ## All paths -/

theorem SendRequestAsync.unique {submit : P → Except Raised (Option Bytes)}
    {check : Option Bytes → Bool → Except Raised (Option Message)} {o' : Outcome} {n' : Nat}
    (h : SendRequestAsync submit check timing payload o n)
    (h' : SendRequestAsync submit check timing payload o' n') : o = o' ∧ n = n' := by
  cases hsubmit : submit payload with
  | error e =>
    obtain ⟨rfl, rfl⟩ := (sendRequestAsync_of_error hsubmit).1 h
    obtain ⟨rfl, rfl⟩ := (sendRequestAsync_of_error hsubmit).1 h'
    exact ⟨rfl, rfl⟩
  | ok handle =>
    obtain ⟨p, rfl, hp⟩ := (sendRequestAsync_of_ok hsubmit).1 h
    obtain ⟨p', rfl, hp'⟩ := (sendRequestAsync_of_ok hsubmit).1 h'
    obtain ⟨rfl, rfl⟩ := hp.unique hp'
    exact ⟨rfl, rfl⟩

/-- A payload fares in one way only. -/
theorem Sends.unique {o' : Outcome} {n' : Nat} (h : Sends env answer timing path payload o n)
    (h' : Sends env answer timing path payload o' n') : o = o' ∧ n = n' := by
  cases path with
  | syncZerocopy | syncBase64 | callback =>
    exact ⟨h.1.trans h'.1.symm, h.2.trans h'.2.symm⟩
  | asyncZerocopy | asyncBase64 => exact SendRequestAsync.unique h h'

variable (env answer)

/-- What all paths have to do: raise for what cannot be packed, return the response to what Go
    accepts, as Go has made it, and have an error for what Go rejects, without a check. -/
structure Treats (fracOk : Nat → Bool) (timing : Timing) (path : SendPath) (payload : P) :
    Prop where
  unpacked : ∀ e, env.packb payload = .error e →
    Sends env answer timing path payload (.raised e) 0
  accepted : ∀ b r, env.packb payload = .ok b → env.request b.1 = .ok r →
    ∃ n, Sends env answer timing path payload (.returned (respond answer r).toMessage) n
  rejected : ∀ b e, env.packb payload = .ok b → env.request b.1 = .error e →
    ∃ o, Sends env answer timing path payload o 0 ∧ o.Fails fracOk

/-- The response to a request can be packed, is UTF-8, and is not too long. -/
structure Carries (mode : FFIMode) (r : String × Q) : Prop where
  marshalled : env.marshalError (respond answer r) = none
  textual : Textual (answer r.2)
  writable : (respond answer r).Writable
  short : mode = .zeroCopy → (respond answer r).marshal.length < 2 ^ 31

variable {env answer}

theorem pack_eq {b : {b : Bytes // b ≠ []}} (hb : env.packb payload = .ok b) :
    env.pack mode payload =
      if mode = .zeroCopy ∧ 2 ^ 31 ≤ b.1.length then .error .overflowError else .ok b.1 := by
  rw [FFIEnv.pack, hb]

theorem exists_sends_response_iff (hpack : env.pack path.mode payload = .ok b)
    (hr : env.request b = .ok r) :
    (∃ n, Sends env answer timing path payload (.returned (respond answer r).toMessage) n) ↔
      path.InTime timing ∧ Carries env answer path.mode r := by
  have hfallback : (utf8 path.fallback).length < 2 ^ 32 := by cases path <;> decide
  have hmap : (respond answer r).toMessage ≠ .nil := by
    rw [Payload.toMessage]
    exact Message.noConfusion
  rw [exists_sends_returned_iff hpack hr hmap, bind_toPython_encode_iff hfallback,
    isSome_unpack_respond_iff]
  refine and_congr Iff.rfl ⟨?_, ?_⟩
  · rintro ⟨hmarshal, htexts, hwritable, hshort⟩
    exact ⟨hmarshal, htexts, hwritable, hshort⟩
  · rintro ⟨hmarshal, htexts, hwritable, hshort⟩
    exact ⟨hmarshal, htexts, hwritable, hshort⟩

variable (env answer fracOk timing path payload)

/-- A path treats a payload as it should if the payload is short enough for its mode, and Go
    does not reject it on the path that takes any handle, and for an accepted one, the response
    comes in time and through. -/
theorem treats_iff : Treats env answer fracOk timing path payload ↔
    ∀ b, env.packb payload = .ok b → (path.mode = .zeroCopy → b.1.length < 2 ^ 31) ∧
      (∀ e, env.request b.1 = .error e → path ≠ .asyncZerocopy) ∧
        ∀ r, env.request b.1 = .ok r → path.InTime timing ∧ Carries env answer path.mode r := by
  constructor
  · intro h b hb
    have hshort : path.mode = .zeroCopy → b.1.length < 2 ^ 31 := by
      intro hmode
      by_contra hlen
      -- The path raises an `OverflowError`, which is neither.
      have hpack : env.pack path.mode payload = .error .overflowError := by
        rw [pack_eq hb, if_pos ⟨hmode, not_lt.1 hlen⟩]
      cases hr : env.request b.1 with
      | ok r =>
        obtain ⟨n, hn⟩ := h.accepted b r hb hr
        exact nomatch ((sends_of_pack_eq_error hpack).1 hn).1
      | error e =>
        obtain ⟨o, ho, hfails⟩ := h.rejected b e hb hr
        obtain ⟨rfl, -⟩ := (sends_of_pack_eq_error hpack).1 ho
        cases hfails with
        | raised _ he => exact he
    have hpack : env.pack path.mode payload = .ok b.1 := by
      rw [pack_eq hb, if_neg fun hn => absurd (hshort hn.1) (not_lt.2 hn.2)]
    refine ⟨hshort, fun e he => ?_, fun r hr => ?_⟩
    · exact (exists_sends_fails_iff hpack he).1 (h.rejected b e hb he)
    · exact (exists_sends_response_iff hpack hr).1 (h.accepted b r hb hr)
  · intro h
    have hpack {b : {b : Bytes // b ≠ []}} (hb : env.packb payload = .ok b) :
        env.pack path.mode payload = .ok b.1 := by
      rw [pack_eq hb, if_neg fun hn => absurd ((h b hb).1 hn.1) (not_lt.2 hn.2)]
    refine ⟨fun e he => ?_, fun b r hb hr => ?_, fun b e hb he => ?_⟩
    · refine (sends_of_pack_eq_error ?_).2 ⟨rfl, rfl⟩
      rw [FFIEnv.pack, he]
    · exact (exists_sends_response_iff (hpack hb) hr).2 ((h b hb).2.2 r hr)
    · exact (exists_sends_fails_iff (hpack hb) he).2 ((h b hb).2.1 e he)

/-! ## A payload that Go rejects -/

theorem toBytes_map_ne_nil (items : List (Bytes × Message)) : (Message.map items).toBytes ≠ [] := by
  rw [Message.toBytes, Head.toBytes]
  split_ifs <;> exact List.cons_ne_nil _ _

/-- A dict whose URL is a number. -/
def mistyped : List (Bytes × Message) :=
  [packEntry "requestId" (packText "1"), packEntry "options" (.map [packEntry "url" (.int 5)])]

/-- The libraries, as far as that dict goes. -/
def mistypedEnv : FFIEnv (List (Bytes × Message)) Unit where
  packb payload := .ok ⟨(Message.map payload).toBytes, toBytes_map_ne_nil payload⟩
  unpackError _ := ""
  unmarshal _ := .error ⟨utf8 "msgpack: invalid code=5 decoding string/bytes length", by decide⟩
  corruptInput _ := []
  marshalError _ := none

theorem not_forall_treats : ¬∀ (timing : Timing) (path : SendPath)
    (payload : List (Bytes × Message)),
    Treats mistypedEnv (fun _ => .error []) (fun _ => true) timing path payload := by
  intro h
  have hlen : ¬2 ^ 31 ≤ (Message.map mistyped).toBytes.length := by decide
  have hpack : mistypedEnv.pack SendPath.asyncZerocopy.mode mistyped =
      .ok (Message.map mistyped).toBytes := (pack_eq rfl).trans (if_neg fun hn => hlen hn.2)
  have hfails := (h ⟨fun _ => false, fun _ => false, false⟩ .asyncZerocopy mistyped).rejected _ _
    rfl rfl
  exact (exists_sends_fails_iff hpack rfl).1 hfails rfl

end SendPaths

end CycleTLS
