import CycleTLS.BatchPayload
import CycleTLS.Lib.Table
import CycleTLS.Lib.Transition

/-!
# Batches (`batch`, `sendBatchRequest`)

The payloads of a batch go to Go in one call. There a goroutine for each request
writes the response to its own place (`Finishes`), in any order; when all of them have
finished the responses are handed back (`SendBatch`). If the batch cannot be decoded,
or the responses cannot be encoded, what is handed back is an error payload, in which
Python finds no responses.

So the list that `batch` returns answers the requests one by one, unless Go hands back
such an error (`corresponds_iff`).
-/

namespace CycleTLS

open Raising Transition Utf8

/-- A request dict of a batch, with the contents of the dict that is given for its
    headers. -/
structure BatchItem where
  url : Option String
  method : Option String
  kwargs : Kwargs HeaderDict
  given : Headers

/-- The libraries of a batch: MessagePack on both sides, besides those of `PyEnv`. -/
structure BatchEnv (Q : Type) extends PyEnv where
  /-- The error of `ormsgpack.packb`, if it has one. -/
  packError : List (String × OptionsDict) → Option String
  /-- `msgpack.Unmarshal`, on the options of a request. -/
  unmarshal : OptionsDict → Except String Q
  /-- The error of `msgpack.Marshal`, if it has one. -/
  marshalError : List Payload → Option String

variable {Q : Type} (env : BatchEnv Q)

/-! ## Go -/

/-- What the batch entry point hands back. -/
inductive Reply
  | null
  | error (payload : Payload)
  | responses (payloads : List Payload)

/-- The payload of the goroutine of a request, by what `Do` returns to it. -/
def workerPayload (idx : Nat) (requestID : String) (answer : Except Bytes GoResponse) : Payload :=
  let requestID := if requestID = "" then "batch_" ++ toString idx else requestID
  match answer with
  | .ok resp => buildResponsePayload requestID resp
  | .error err => buildErrorPayload requestID err

/-- The payloads of all goroutines. -/
def workerPayloads (answer : Nat → Except Bytes GoResponse)
    (requests : List (String × OptionsDict)) : List Payload :=
  requests.mapIdx fun i r => workerPayload i r.1 (answer i)

/-- A goroutine that has not finished does, and writes its payload to its place in the
    responses. -/
inductive Finishes (payloads : List Payload) :
    (Nat → Option Payload) → Nat → (Nat → Option Payload) → Prop
  | finish (responses : Nat → Option Payload) (i : Nat) (p : Payload)
      (hp : payloads[i]? = some p) (hi : responses i = none) :
      Finishes payloads responses i (Function.update responses i (some p))

/-- The order in which the goroutines finish, to the responses when all of them have. -/
def Finished (payloads responses : List Payload) : Prop :=
  ∃ es slots, Path (Finishes payloads) (fun _ => none) es slots ∧
    responses.map some = (List.range payloads.length).map slots

/-- `sendBatchRequest` and `sendBatchRequestZeroCopy`. -/
inductive SendBatch (answer : Nat → Except Bytes GoResponse)
    (requests : List (String × OptionsDict)) : Reply → Prop
  | invalid (e : String) (h : requests.mapM (fun r => env.unmarshal r.2) = .error e) :
      SendBatch answer requests
        (.error (buildErrorPayload "" (utf8 ("invalid batch payload: " ++ e))))
  | answered (qs : List Q) (responses : List Payload)
      (h : requests.mapM (fun r => env.unmarshal r.2) = .ok qs)
      (hfinished : Finished (workerPayloads answer requests) responses)
      (hm : env.marshalError responses = none) :
      SendBatch answer requests (.responses responses)
  | failed (qs : List Q) (responses : List Payload) (e : String)
      (h : requests.mapM (fun r => env.unmarshal r.2) = .ok qs)
      (hfinished : Finished (workerPayloads answer requests) responses)
      (hm : env.marshalError responses = some e) :
      SendBatch answer requests
        (.error (buildErrorPayload "" (utf8 ("failed to marshal batch response: " ++ e))))

/-! ## Python -/

/-- A payload that is unpacked. -/
def unpackData (payload : Payload) : Except String ResponseDict :=
  match unpack payload with
  | some data => .ok data
  | none => .error "Failed to decode response data: invalid utf-8 sequence"

/-- The responses in a reply, `result.get("responses", [])`; the error payload has none. -/
def readReply : Reply → Except String (List ResponseDict)
  | .null => .error "CycleTLS batch request returned NULL response"
  | .error payload => do
    let _ ← unpackData payload
    return []
  | .responses payloads => payloads.mapM unpackData

/-- `_parse_response`. -/
def parseResponse (fracOk : Nat → Bool) (data : ResponseDict) : Except Raised Response :=
  match dictToResponse fracOk data with
  | .ok r => .ok r
  | .error e =>
    if e.cls.IsCycleTLSError then .error (.response e)
    else .error (.cycleTLSError ("Failed to parse CycleTLS response: " ++ e.message))

/-- The payload of a request, by its place in the batch. -/
def batchPayload (e : BatchItem × Nat) : Except Raised (String × OptionsDict) := do
  let options ← (exec (buildBatchPayload env.toPyEnv e.1.url e.1.method e.1.kwargs) e.1.given).1
  return ("batch_" ++ toString e.2, options)

/-- The payloads of the requests. -/
def batchPayloads (items : List BatchItem) : Except Raised (List (String × OptionsDict)) :=
  items.zipIdx.mapM (batchPayload env)

/-- `send_batch_request`, for the reply of Go. -/
def sendBatchRequest (payloads : List (String × OptionsDict)) (reply : Reply) :
    Except String (List ResponseDict) :=
  match env.packError payloads with
  | some e => .error e
  | none => readReply reply

/-- `CycleTLS.batch`, for the reply of Go. -/
def batch (fracOk : Nat → Bool) (closed : Bool) (items : List BatchItem) (reply : Reply) :
    Except Raised (List Response) :=
  if closed then .error (.cycleTLSError "CycleTLS client is closed")
  else if items.isEmpty then .ok []
  else do
    let payloads ← batchPayloads env items
    match sendBatchRequest env payloads reply with
    | .error e => .error (.cycleTLSError ("Failed to execute batch request: " ++ e))
    | .ok data => data.mapM (parseResponse fracOk)

/-! ## Correspondence -/

/-- A response is the one to the request at a place. -/
def Answers (fracOk : Nat → Bool) (answer : Nat → Except Bytes GoResponse) (i : Nat)
    (r : Response) : Prop :=
  ∃ data, unpackData (workerPayload i ("batch_" ++ toString i) (answer i)) = .ok data ∧
    parseResponse fracOk data = .ok r

/-- A batch raises, or returns a response to each request at its place. -/
def Corresponds (fracOk : Nat → Bool) (answer : Nat → Except Bytes GoResponse)
    (items : List BatchItem) (outcome : Except Raised (List Response)) : Prop :=
  ∀ rs, outcome = .ok rs → rs.length = items.length ∧
    ∀ i r, rs[i]? = some r → Answers fracOk answer i r

/-- Go decodes the requests and encodes the responses. -/
def Accepts (answer : Nat → Except Bytes GoResponse) (payloads : List (String × OptionsDict)) :
    Prop :=
  (∀ p ∈ payloads, ∃ q, env.unmarshal p.2 = .ok q) ∧
    env.marshalError (workerPayloads answer payloads) = none

variable {env} {fracOk : Nat → Bool} {answer : Nat → Except Bytes GoResponse}
  {items : List BatchItem} {payloads : List (String × OptionsDict)} {closed : Bool} {reply : Reply}

/-- A goroutine writes its own payload, and only to its own place. -/
theorem Finishes.getElem? {payloads : List Payload} {slots slots' : Nat → Option Payload} {j : Nat}
    (h : Finishes payloads slots j slots')
    (hslots : ∀ i p, slots i = some p → payloads[i]? = some p) :
    ∀ i p, slots' i = some p → payloads[i]? = some p := by
  intro i p hi
  cases h with
  | finish q hq hj =>
    rcases Table.set_eq_some_iff.1 hi with ⟨rfl, rfl⟩ | ⟨-, hi⟩
    · exact hq
    · exact hslots i p hi

/-- In whatever order the goroutines finish, every response is at its place. -/
theorem Finished.eq {payloads responses : List Payload} (h : Finished payloads responses) :
    responses = payloads := by
  obtain ⟨es, slots, hpath, hresponses⟩ := h
  have hslots := hpath.inv (fun slots => ∀ i p, slots i = some p → payloads[i]? = some p)
    (fun _ _ => True) (fun _ _ _ hinv _ hstep => hstep.getElem? hinv) (fun _ _ => trivial)
    (fun _ _ hi => nomatch hi)
  have hlength : responses.length = payloads.length := by
    simpa using congrArg List.length hresponses
  refine List.ext_getElem? fun i => ?_
  by_cases hi : i < payloads.length
  · have hget : some responses[i]? = some (slots i) := by
      simpa [hi, hlength] using congrArg (fun l : List (Option Payload) => l[i]?) hresponses
    have hi' : i < responses.length := by omega
    have hslot : slots i = some responses[i] := by
      rw [← Option.some.inj hget, List.getElem?_eq_getElem]
    rw [Option.some.inj hget, hslot, hslots i _ hslot]
  · rw [List.getElem?_eq_none (by omega), List.getElem?_eq_none (by omega)]

/-- The goroutines can finish in the order of the requests. -/
theorem finished_self (payloads : List Payload) : Finished payloads payloads := by
  -- After `k` steps the first `k` places are written.
  have hpath : ∀ k ≤ payloads.length, ∃ es, Path (Finishes payloads) (fun _ => none) es
      fun i => if i < k then payloads[i]? else none := by
    intro k
    induction k with
    | zero => exact fun _ => ⟨[], .nil⟩
    | succ k ih =>
      intro hk
      obtain ⟨es, h⟩ := ih (by omega)
      have hslots : Function.update (fun i => if i < k then payloads[i]? else none) k
          (some payloads[k]) = fun i => if i < k + 1 then payloads[i]? else none := by
        funext i
        by_cases hi : i = k
        · subst hi
          simp
        · have hlt : i < k + 1 ↔ i < k := by omega
          simp [Function.update_of_ne hi, hlt]
      rw [← hslots]
      exact ⟨_, h.snoc (.finish _ k payloads[k] (List.getElem?_eq_getElem hk) (by simp))⟩
  obtain ⟨es, h⟩ := hpath payloads.length le_rfl
  refine ⟨es, _, h, List.ext_getElem? fun i => ?_⟩
  by_cases hi : i < payloads.length
  · simp [hi]
  · simp [hi]

theorem fst_batchPayload {e : BatchItem × Nat} {p : String × OptionsDict}
    (h : batchPayload env e = .ok p) : p.1 = "batch_" ++ toString e.2 := by
  obtain ⟨options, -, h⟩ := bind_eq_ok_iff.1 h
  cases h
  rfl

theorem length_batchPayloads (h : batchPayloads env items = .ok payloads) :
    payloads.length = items.length := by
  rw [length_of_mapM h, List.length_zipIdx]

/-- The payload of a goroutine is the one for the request at its place. -/
theorem getElem?_workerPayloads (h : batchPayloads env items = .ok payloads) {i : Nat}
    {p : Payload} (hi : (workerPayloads answer payloads)[i]? = some p) :
    p = workerPayload i ("batch_" ++ toString i) (answer i) := by
  rw [workerPayloads, List.getElem?_mapIdx] at hi
  obtain ⟨r, hr, rfl⟩ := Option.map_eq_some_iff.1 hi
  obtain ⟨e, he, hpayload⟩ := getElem?_of_mapM h hr
  rw [List.getElem?_zipIdx] at he
  obtain ⟨item, -, rfl⟩ := Option.map_eq_some_iff.1 he
  rw [fst_batchPayload hpayload, Nat.zero_add]

/-- An error payload of the entry point is unpacked, and has no responses. -/
theorem readReply_error (message : String) :
    readReply (.error (buildErrorPayload "" (utf8 message))) = .ok [] := by
  have hunpack : ∃ data, unpack (buildErrorPayload "" (utf8 message)) = some data := by
    have hempty : decode [] = some "" := decode_utf8 ""
    simp [unpack, buildErrorPayload, hempty]
  obtain ⟨data, hdata⟩ := hunpack
  rw [readReply, unpackData, hdata]
  rfl

/-- What Go hands back, by whether it accepts the batch. -/
theorem SendBatch.cases (h : SendBatch env answer payloads reply) :
    (Accepts env answer payloads ∧ reply = .responses (workerPayloads answer payloads)) ∨
      (¬Accepts env answer payloads ∧ readReply reply = .ok []) := by
  cases h with
  | invalid e h =>
    refine .inr ⟨fun ha => ?_, readReply_error _⟩
    obtain ⟨qs, hqs⟩ := exists_mapM_eq_ok_iff.2 ha.1
    rw [hqs] at h
    cases h
  | answered qs responses h hfinished hm =>
    rw [hfinished.eq] at hm ⊢
    exact .inl ⟨⟨exists_mapM_eq_ok_iff.1 ⟨qs, h⟩, hm⟩, rfl⟩
  | failed qs responses e h hfinished hm =>
    rw [hfinished.eq] at hm
    refine .inr ⟨fun ha => ?_, readReply_error _⟩
    rw [ha.2] at hm
    cases hm

/-- The responses that are read are those of the goroutines, in order. -/
theorem corresponds_of_responses (h : batchPayloads env items = .ok payloads)
    {data : List ResponseDict}
    (hdata : (workerPayloads answer payloads).mapM unpackData = .ok data) :
    Corresponds fracOk answer items (data.mapM (parseResponse fracOk)) := by
  intro rs hrs
  refine ⟨?_, fun i r hi => ?_⟩
  · rw [length_of_mapM hrs, length_of_mapM hdata, workerPayloads, List.length_mapIdx,
      length_batchPayloads h]
  · obtain ⟨d, hd, hparse⟩ := getElem?_of_mapM hrs hi
    obtain ⟨p, hp, hunpack⟩ := getElem?_of_mapM hdata hd
    rw [getElem?_workerPayloads h hp] at hunpack
    exact ⟨d, hunpack, hparse⟩

theorem sendBatchRequest_eq_ok_iff {data : List ResponseDict} :
    sendBatchRequest env payloads reply = .ok data ↔
      env.packError payloads = none ∧ readReply reply = .ok data := by
  rw [sendBatchRequest]
  cases env.packError payloads <;> simp

/-- The end of a batch, once its payloads are built. -/
theorem batch_of_payloads (hclosed : closed = false) (hitems : items ≠ [])
    (hp : batchPayloads env items = .ok payloads) : batch env fracOk closed items reply =
      match sendBatchRequest env payloads reply with
      | .error e => .error (.cycleTLSError ("Failed to execute batch request: " ++ e))
      | .ok data => data.mapM (parseResponse fracOk) := by
  rw [batch, hclosed, if_neg Bool.false_ne_true, if_neg (by simpa using hitems), hp]
  rfl

/-- A batch answers its requests one by one, unless Go rejects it. -/
theorem corresponds_iff
    (hreply : ∀ payloads, batchPayloads env items = .ok payloads →
      SendBatch env answer payloads reply) :
    Corresponds fracOk answer items (batch env fracOk closed items reply) ↔
      (closed = false → items ≠ [] → ∀ payloads, batchPayloads env items = .ok payloads →
        env.packError payloads = none → Accepts env answer payloads) := by
  constructor
  · intro h hclosed hitems payloads hp hpack
    rcases (hreply payloads hp).cases with ⟨ha, -⟩ | ⟨-, hread⟩
    · exact ha
    · -- A batch that is rejected returns no responses at all.
      have hnil : batch env fracOk closed items reply = .ok [] := by
        rw [batch_of_payloads hclosed hitems hp, sendBatchRequest_eq_ok_iff.2 ⟨hpack, hread⟩]
        rfl
      have hlength := (h [] hnil).1
      exact absurd (List.length_eq_zero_iff.1 hlength.symm) hitems
  · intro h rs hrs
    by_cases hclosed : closed = false
    · by_cases hitems : items = []
      · rw [hitems, batch, hclosed] at hrs
        cases hrs
        rw [hitems]
        exact ⟨rfl, fun i r hi => nomatch hi⟩
      · cases hp : batchPayloads env items with
        | error e =>
          rw [batch, hclosed, if_neg Bool.false_ne_true, if_neg (by simpa using hitems), hp] at hrs
          cases hrs
        | ok payloads =>
          rw [batch_of_payloads hclosed hitems hp] at hrs
          -- The exceptions before and after the call return nothing.
          cases hsend : sendBatchRequest env payloads reply with
          | error e =>
            rw [hsend] at hrs
            cases hrs
          | ok data =>
            rw [hsend] at hrs
            obtain ⟨hpack, hread⟩ := sendBatchRequest_eq_ok_iff.1 hsend
            rcases (hreply payloads hp).cases with ⟨-, hresponses⟩ | ⟨hna, -⟩
            · rw [hresponses, readReply] at hread
              exact corresponds_of_responses hp hread rs hrs
            · exact absurd (h hclosed hitems payloads hp hpack) hna
    · rw [batch, if_pos (by simpa using hclosed)] at hrs
      cases hrs

/-- MessagePack that decodes a timeout only if it is an integer. -/
def BatchEnv.plain : BatchEnv Unit where
  toPyEnv := .plain
  packError _ := none
  unmarshal options :=
    match options.lookup "timeout" with
    | some (.int _) => .ok ()
    | _ => .error "msgpack: invalid code=cb decoding int64"
  marshalError _ := none

/-- `{"url": "https://h/", "method": "GET", "timeout": t}`. -/
def BatchItem.ofTimeout (t : Value) : BatchItem :=
  ⟨some "https://h/", some "GET", .ofTimeout t, .empty⟩

/-- What `Do` returns for an empty response. -/
def emptyAnswer (_ : Nat) : Except Bytes GoResponse :=
  .ok (Do.received 200 [] [] [] (utf8 "https://h/") "HTTP/2.0")

/-- The status of the response tells the requests apart. -/
def statusAnswer (i : Nat) : Except Bytes GoResponse :=
  .ok (Do.received (200 + i) [] [] [] (utf8 "https://h/") "HTTP/2.0")

/-- The responses of two goroutines, of which the second finishes first. -/
theorem finished_pair (p q : Payload) : Finished [p, q] [p, q] := by
  have hnew : Path (Finishes [p, q]) (fun _ => none) [] fun _ => none := .nil
  exact ⟨_, _, (hnew.snoc (.finish _ 1 q rfl rfl)).snoc (.finish _ 0 p rfl rfl), rfl⟩

/-- Two requests with different responses, of which the second is answered first. -/
theorem corresponds_iff_two : ∃ payloads,
    batchPayloads .plain [.ofTimeout (.int 5), .ofTimeout (.int 7)] = .ok payloads ∧
    Corresponds (fun _ => true) statusAnswer [.ofTimeout (.int 5), .ofTimeout (.int 7)]
      (batch .plain (fun _ => true) false [.ofTimeout (.int 5), .ofTimeout (.int 7)]
        (.responses (workerPayloads statusAnswer payloads))) := by
  obtain ⟨payloads, hp⟩ : ∃ payloads,
    batchPayloads .plain [.ofTimeout (.int 5), .ofTimeout (.int 7)] = .ok payloads := ⟨_, rfl⟩
  have haccepts : Accepts .plain statusAnswer payloads := by
    cases hp
    refine ⟨fun p h => ?_, rfl⟩
    rcases List.mem_cons.1 h with rfl | h
    · exact ⟨(), rfl⟩
    · rw [List.mem_singleton.1 h]
      exact ⟨(), rfl⟩
  have hfinished : Finished (workerPayloads statusAnswer payloads)
      (workerPayloads statusAnswer payloads) := by
    cases hp
    exact finished_pair _ _
  refine ⟨payloads, hp, (corresponds_iff fun payloads' hp' => ?_).2 fun _ _ payloads' hp' _ => ?_⟩
  · rw [hp] at hp'
    cases hp'
    obtain ⟨qs, hqs⟩ := exists_mapM_eq_ok_iff.2 haccepts.1
    exact .answered qs _ hqs hfinished rfl
  · rw [hp] at hp'
    cases hp'
    exact haccepts

/-- A timeout of two and a half seconds, which a batch does not round. -/
theorem not_forall_corresponds : ¬∀ (Q : Type) (env : BatchEnv Q) (fracOk : Nat → Bool)
    (answer : Nat → Except Bytes GoResponse) (closed : Bool) (items : List BatchItem)
    (reply : Reply),
    (∀ payloads, batchPayloads env items = .ok payloads → SendBatch env answer payloads reply) →
      Corresponds fracOk answer items (batch env fracOk closed items reply) := by
  intro h
  obtain ⟨payloads, hp⟩ : ∃ payloads,
    batchPayloads .plain [.ofTimeout (.float (.finite (5 / 2)))] = .ok payloads := ⟨_, rfl⟩
  -- Go rejects the batch, and the error it hands back has no responses.
  have hinvalid : payloads.mapM (fun r => BatchEnv.plain.unmarshal r.2) =
      .error "msgpack: invalid code=cb decoding int64" := by
    cases hp
    rfl
  have hnil : batch .plain (fun _ => true) false [.ofTimeout (.float (.finite (5 / 2)))]
      (.error (buildErrorPayload "" (utf8 ("invalid batch payload: " ++
        "msgpack: invalid code=cb decoding int64")))) = .ok [] := by
    rw [batch_of_payloads rfl (List.cons_ne_nil _ _) hp,
      sendBatchRequest_eq_ok_iff.2 ⟨rfl, readReply_error _⟩]
    rfl
  have hlength := (h Unit .plain (fun _ => true) emptyAnswer false _ _ (fun payloads' hp' => by
    rw [hp] at hp'
    cases hp'
    exact .invalid _ hinvalid) [] hnil).1
  cases hlength

end CycleTLS
