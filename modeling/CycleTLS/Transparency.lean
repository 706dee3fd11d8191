import CycleTLS.Batch
import CycleTLS.Cancellation

/-!
# Batching and single requests

A request of a client with `use_batching=True` goes to Go in whatever batch `_flush`
takes it in, and the batch is encoded, decoded and answered as one message. Its caller
gets what it would have got from `send_request` if the requests of the batch are alike
(`Uniform`): all of them pass, or all of them fail, before or after Go, with one and the
same error. Otherwise those that would pass fail with the others, and a payload that Go
cannot decode, for which `send_request` has a response, is an exception for everyone
(`transparent_iff`).

Messages are taken to be shorter than the 2 GiB that a `C.int` can tell.
-/

namespace CycleTLS

open Raising Transition Utf8

/-- MessagePack on both sides, for one request or response. -/
structure WireEnv (Q : Type) extends PyEnv where
  /-- The error of `ormsgpack.packb`, if it has one. -/
  packError : OptionsDict → Option String
  /-- `msgpack.Unmarshal`, on the options of a request. -/
  unmarshal : OptionsDict → Except String Q
  /-- The error of `msgpack.Marshal`, if it has one. -/
  marshalError : Payload → Option String

/-- On a list, the error is that of the first element that has one. -/
def WireEnv.batch {Q : Type} (env : WireEnv Q) : BatchEnv Q where
  toPyEnv := env.toPyEnv
  packError payloads := payloads.findSome? fun p => env.packError p.2
  unmarshal := env.unmarshal
  marshalError responses := responses.findSome? env.marshalError

/-- A request of a client, with what `Do` returns to it, whichever way it is sent. The
    id is of `_next_request_id`. -/
structure Job where
  requestID : String
  options : OptionsDict
  answer : Except Bytes GoResponse
  requestID_ne : requestID ≠ ""

namespace Job

def payload (j : Job) : String × OptionsDict := (j.requestID, j.options)

/-- The payload of the response. -/
def response (j : Job) : Payload :=
  match j.answer with
  | .ok resp => buildResponsePayload j.requestID resp
  | .error err => buildErrorPayload j.requestID err

end Job

variable {Q : Type} (env : WireEnv Q)

/-! ## One request -/

/-- `marshalPayload` and `marshalPayloadZeroCopy`, with their fallback. -/
def marshalPayload (p : Payload) : Payload :=
  match env.marshalError p with
  | none => p
  | some _ => buildErrorPayload p.requestID (utf8 "failed to encode response")

/-- `getRequest` and `getRequestZeroCopy`. -/
def getRequest (requestID : String) (options : OptionsDict) (answer : Except Bytes GoResponse) :
    Payload :=
  match env.unmarshal options with
  | .error e => marshalPayload env (buildErrorPayload "" (utf8 ("invalid payload: " ++ e)))
  | .ok _ =>
    let requestID := if requestID = "" then "cycleTLSRequest" else requestID
    match answer with
    | .ok resp => marshalPayload env (buildResponsePayload requestID resp)
    | .error err => marshalPayload env (buildErrorPayload requestID err)

/-- `send_request`. -/
def sendRequest (j : Job) : Except String ResponseDict :=
  match env.packError j.options with
  | some e => .error e
  | none => unpackData (getRequest env j.requestID j.options j.answer)

/-! ## Alike requests -/

/-- The request can be packed, Go can decode it, and can encode its response. -/
structure Accepted (j : Job) : Prop where
  packed : env.packError j.options = none
  decoded : ∃ q, env.unmarshal j.options = .ok q
  encoded : env.marshalError j.response = none

/-- It cannot be packed, or Python cannot decode its response. -/
def FailsWith (j : Job) (e : String) : Prop :=
  env.packError j.options = some e ∨ Accepted env j ∧ unpackData j.response = .error e

/-- The response gets through. -/
def Passes (j : Job) : Prop :=
  Accepted env j ∧ ∃ data, unpackData j.response = .ok data

/-- All requests of a batch fail with one error, or all of them pass. -/
def Uniform (batch : List Job) : Prop :=
  (∃ e, ∀ j ∈ batch, FailsWith env j e) ∨ ∀ j ∈ batch, Passes env j

/-! ## Batches -/

/-- What `batch_fn` does for a batch: `send_batch_request`, with the answers of its own
    requests. -/
def Flushed (batch : List Job) (outcome : Except String (List ResponseDict)) : Prop :=
  ∃ answer reply, (∀ i j, batch[i]? = some j → answer i = j.answer) ∧
    SendBatch env.batch answer (batch.map Job.payload) reply ∧
    outcome = sendBatchRequest env.batch (batch.map Job.payload) reply

/-- What the caller would get from `send_request`. -/
def alone (j : Job) : Batcher.Resolution ResponseDict String :=
  match sendRequest env j with
  | .ok data => .result data
  | .error e => .exception (.byBatchFn e)

variable {env} {j : Job}

theorem exists_unpackData_error (requestID message : String) :
    ∃ data, unpackData (buildErrorPayload requestID (utf8 message)) = .ok data := by
  have hmessage : decode (utf8 message) = some message := decode_utf8 message
  have hempty : decode [] = some "" := decode_utf8 ""
  simp [unpackData, unpack, buildErrorPayload, hmessage, hempty]

theorem marshalPayload_of_error {p : Payload} (h : env.marshalError p ≠ none) :
    ∃ data, unpackData (marshalPayload env p) = .ok data := by
  obtain ⟨e, he⟩ := Option.ne_none_iff_exists'.1 h
  rw [marshalPayload, he]
  exact exists_unpackData_error _ _

theorem marshalPayload_of_none {p : Payload} (h : env.marshalError p = none) :
    marshalPayload env p = p := by
  rw [marshalPayload, h]

/-- The answer of Go to a request that it can decode. -/
theorem getRequest_of_decoded (h : ∃ q, env.unmarshal j.options = .ok q) :
    getRequest env j.requestID j.options j.answer = marshalPayload env j.response := by
  obtain ⟨q, hq⟩ := h
  rw [getRequest, hq, Job.response]
  simp only [if_neg j.requestID_ne]
  cases j.answer <;> rfl

/-- The error payload for a request that Go cannot decode can itself be decoded. -/
theorem exists_unpackData_getRequest {e : String} (h : env.unmarshal j.options = .error e) :
    ∃ data, unpackData (getRequest env j.requestID j.options j.answer) = .ok data := by
  rw [getRequest, h]
  by_cases hm : env.marshalError (buildErrorPayload "" (utf8 ("invalid payload: " ++ e))) = none
  · simp only [marshalPayload_of_none hm]
    exact exists_unpackData_error _ _
  · exact marshalPayload_of_error hm

theorem sendRequest_of_accepted (h : Accepted env j) :
    sendRequest env j = unpackData j.response := by
  rw [sendRequest, h.packed]
  simp only [getRequest_of_decoded h.decoded, marshalPayload_of_none h.encoded]

/-- When a single request raises. -/
theorem sendRequest_eq_error_iff {e : String} :
    sendRequest env j = .error e ↔ FailsWith env j e := by
  constructor
  · intro h
    cases hp : env.packError j.options with
    | some e' =>
      rw [sendRequest, hp] at h
      cases h
      exact .inl hp
    | none =>
      have hsend : unpackData (getRequest env j.requestID j.options j.answer) = .error e := by
        rwa [sendRequest, hp] at h
      -- An error payload would have been decoded.
      have hdecoded : ∃ q, env.unmarshal j.options = .ok q := by
        cases hq : env.unmarshal j.options with
        | ok q => exact ⟨q, rfl⟩
        | error e' =>
          obtain ⟨data, hdata⟩ := exists_unpackData_getRequest hq
          rw [hdata] at hsend
          cases hsend
      rw [getRequest_of_decoded hdecoded] at hsend
      by_cases hm : env.marshalError j.response = none
      · rw [marshalPayload_of_none hm] at hsend
        exact .inr ⟨⟨hp, hdecoded, hm⟩, hsend⟩
      · obtain ⟨data, hdata⟩ := marshalPayload_of_error hm
        rw [hdata] at hsend
        cases hsend
  · rintro (h | ⟨h, hunpack⟩)
    · rw [sendRequest, h]
    · rw [sendRequest_of_accepted h, hunpack]

theorem alone_eq_exception_iff {e : String} :
    alone env j = .exception (.byBatchFn e) ↔ FailsWith env j e := by
  rw [← sendRequest_eq_error_iff, alone]
  cases sendRequest env j with
  | ok data => exact ⟨fun h => (nomatch h), fun h => (nomatch h)⟩
  | error e' =>
    constructor
    · intro h
      cases h
      rfl
    · intro h
      cases h
      rfl

theorem alone_ne_runtimeError (message : String) :
    alone env j ≠ .exception (.runtimeError message) := by
  rw [alone]
  cases sendRequest env j <;> nofun

variable {batch : List Job} {outcome : Except String (List ResponseDict)}

/-- An id that is given is not replaced by the place in the batch. -/
theorem workerPayload_job (i : Nat) (j : Job) :
    workerPayload i j.requestID j.answer = j.response := by
  unfold workerPayload Job.response
  cases j.answer <;> simp [j.requestID_ne]

theorem workerPayloads_map {answer : Nat → Except Bytes GoResponse}
    (h : ∀ i j, batch[i]? = some j → answer i = j.answer) :
    workerPayloads answer (batch.map Job.payload) = batch.map Job.response := by
  refine List.ext_getElem? fun i => ?_
  rw [workerPayloads, List.getElem?_mapIdx, List.getElem?_map, List.getElem?_map, Option.map_map]
  cases hj : batch[i]? with
  | none => rfl
  | some j =>
    simp only [Option.map_some, Function.comp_apply, Job.payload, h i j hj, workerPayload_job]

/-- What a batch comes to: the error of its first request that cannot be packed, what the
    responses are decoded to, or nothing at all. -/
theorem Flushed.cases (h : Flushed env batch outcome) :
    (∃ j ∈ batch, ∃ e, env.packError j.options = some e ∧ outcome = .error e) ∨
      (∀ j ∈ batch, env.packError j.options = none) ∧
        ((∀ j ∈ batch, Accepted env j) ∧ outcome = (batch.map Job.response).mapM unpackData ∨
          (¬∀ j ∈ batch, Accepted env j) ∧ outcome = .ok []) := by
  obtain ⟨answer, reply, hanswer, hsend, rfl⟩ := h
  have hpack : env.batch.packError (batch.map Job.payload) =
      batch.findSome? fun j => env.packError j.options := by
    simp [WireEnv.batch, List.findSome?_map, Function.comp_def, Job.payload]
  cases hfirst : env.batch.packError (batch.map Job.payload) with
  | some e =>
    rw [hpack] at hfirst
    obtain ⟨j, hj, he⟩ := List.exists_of_findSome?_eq_some hfirst
    rw [hpack.symm] at hfirst
    refine .inl ⟨j, hj, e, he, ?_⟩
    rw [sendBatchRequest, hfirst]
  | none =>
    have hpacked : ∀ j ∈ batch, env.packError j.options = none := by
      rwa [hpack, List.findSome?_eq_none_iff] at hfirst
    have hread : sendBatchRequest env.batch (batch.map Job.payload) reply = readReply reply := by
      rw [sendBatchRequest, hfirst]
    -- Go accepts a batch as it accepts its requests.
    have haccepts : Accepts env.batch answer (batch.map Job.payload) ↔
        ∀ j ∈ batch, Accepted env j := by
      rw [Accepts, workerPayloads_map hanswer]
      constructor
      · rintro ⟨hdecoded, hencoded⟩ j hj
        refine ⟨hpacked j hj, hdecoded _ (List.mem_map_of_mem hj), ?_⟩
        exact List.findSome?_eq_none_iff.1 hencoded _ (List.mem_map_of_mem hj)
      · intro hall
        refine ⟨fun p hp => ?_, List.findSome?_eq_none_iff.2 fun p hp => ?_⟩
        · obtain ⟨j, hj, rfl⟩ := List.mem_map.1 hp
          exact (hall j hj).decoded
        · obtain ⟨j, hj, rfl⟩ := List.mem_map.1 hp
          exact (hall j hj).encoded
    refine .inr ⟨hpacked, ?_⟩
    rw [hread]
    rcases hsend.cases with ⟨ha, rfl⟩ | ⟨hna, hnil⟩
    · rw [workerPayloads_map hanswer]
      exact .inl ⟨haccepts.1 ha, rfl⟩
    · exact .inr ⟨fun hall => hna (haccepts.2 hall), hnil⟩

open Batcher (Pending IsAnswer Resolution)

/-- There is one answer to each request of a batch. -/
theorem exists_isAnswer {P R E : Type} (b : List (Pending P)) (outcome : Except E (List R))
    {i : Nat} {p : Pending P} (hp : b[i]? = some p) : ∃ r, IsAnswer b outcome i r := by
  cases outcome with
  | error e => exact ⟨_, rfl⟩
  | ok results =>
    simp only [IsAnswer]
    by_cases hlen : results.length = b.length
    · have hi : i < results.length := hlen ▸ (List.getElem?_eq_some_iff.1 hp).1
      simp only [if_pos hlen]
      exact ⟨_, results[i], List.getElem?_eq_getElem hi, rfl⟩
    · simp only [if_neg hlen]
      exact ⟨_, rfl⟩

theorem isAnswer_unique {P R E : Type} {b : List (Pending P)} {outcome : Except E (List R)}
    {i : Nat} {r r' : Resolution R E} (hr : IsAnswer b outcome i r)
    (hr' : IsAnswer b outcome i r') : r = r' := by
  cases outcome with
  | error e => exact Eq.trans hr (Eq.symm hr')
  | ok results =>
    simp only [IsAnswer] at hr hr'
    split_ifs at hr hr' with hlen
    · obtain ⟨x, hx, rfl⟩ := hr
      obtain ⟨x', hx', rfl⟩ := hr'
      cases hx.symm.trans hx'
      rfl
    · exact hr.trans hr'.symm

/-- A batch whose requests get what they would get alone. -/
def AsAlone (env : WireEnv Q) (b : List (Pending Job))
    (outcome : Except String (List ResponseDict)) : Prop :=
  ∀ i p r, b[i]? = some p → IsAnswer b outcome i r → r = alone env p.payload

variable {b : List (Pending Job)}

/-- All of them get an error together. -/
theorem asAlone_error_iff {e : String} :
    AsAlone env b (.error e) ↔ ∀ j ∈ b.map Pending.payload, FailsWith env j e := by
  constructor
  · intro h j hj
    obtain ⟨p, hp, rfl⟩ := List.mem_map.1 hj
    obtain ⟨i, hi⟩ := List.mem_iff_getElem?.1 hp
    exact alone_eq_exception_iff.1 (h i p _ hi rfl).symm
  · rintro h i p r hp rfl
    exact (alone_eq_exception_iff.2 (h _ (List.mem_map_of_mem (List.mem_of_getElem? hp)))).symm

theorem asAlone_of_passes (h : ∀ j ∈ b.map Pending.payload, Passes env j) :
    ∃ data, ((b.map Pending.payload).map Job.response).mapM unpackData = .ok data ∧
      AsAlone env b (.ok data) := by
  have hdata : ∃ data, ((b.map Pending.payload).map Job.response).mapM unpackData = .ok data := by
    refine exists_mapM_eq_ok_iff.2 fun p hp => ?_
    obtain ⟨j, hj, rfl⟩ := List.mem_map.1 hp
    exact (h j hj).2
  obtain ⟨data, hdata⟩ := hdata
  refine ⟨data, hdata, fun i p r hp hr => ?_⟩
  have hlen : data.length = b.length := by
    rw [length_of_mapM hdata, List.length_map, List.length_map]
  simp only [IsAnswer, if_pos hlen] at hr
  obtain ⟨d, hd, rfl⟩ := hr
  obtain ⟨q, hq, hunpack⟩ := getElem?_of_mapM hdata hd
  rw [List.getElem?_map, List.getElem?_map, hp] at hq
  cases hq
  have haccepted := (h _ (List.mem_map_of_mem (List.mem_of_getElem? hp))).1
  rw [alone, sendRequest_of_accepted haccepted, hunpack]

/-- A batch treats its requests as if they were alone if they are alike. -/
theorem asAlone_iff (h : Flushed env (b.map Pending.payload) outcome) :
    AsAlone env b outcome ↔ Uniform env (b.map Pending.payload) := by
  by_cases hb : b = []
  · subst hb
    exact ⟨fun _ => .inr fun j hj => (nomatch hj), fun _ i p r hp => (nomatch hp)⟩
  obtain ⟨p₀, hp₀⟩ := List.exists_mem_of_ne_nil b hb
  have hj₀ : p₀.payload ∈ b.map Pending.payload := List.mem_map_of_mem hp₀
  rcases h.cases with ⟨j, hj, e, he, rfl⟩ | ⟨hpacked, ⟨haccepted, hdata⟩ | ⟨hnot, rfl⟩⟩
  · -- One of them cannot be packed.
    rw [asAlone_error_iff]
    constructor
    · exact fun hall => .inl ⟨e, hall⟩
    · rintro (⟨e', hall⟩ | hpass)
      · rcases hall j hj with he' | ⟨ha, -⟩
        · rw [he] at he'
          cases he'
          exact hall
        · rw [ha.packed] at he
          cases he
      · rw [(hpass j hj).1.packed] at he
        cases he
  · -- All of them get to Go and back.
    cases outcome with
    | error e =>
      rw [asAlone_error_iff]
      constructor
      · exact fun hall => .inl ⟨e, hall⟩
      · rintro (⟨e', hall⟩ | hpass)
        · obtain ⟨p, hp, he⟩ := exists_of_mapM_eq_error hdata.symm
          obtain ⟨j, hj, rfl⟩ := List.mem_map.1 hp
          rcases hall j hj with he' | ⟨-, he'⟩
          · rw [hpacked j hj] at he'
            cases he'
          · rw [he] at he'
            cases he'
            exact hall
        · obtain ⟨data, hok, -⟩ := asAlone_of_passes hpass
          rw [hok] at hdata
          cases hdata
    | ok data =>
      have hpass : ∀ j ∈ b.map Pending.payload, Passes env j := fun j hj =>
        ⟨haccepted j hj, exists_mapM_eq_ok_iff.1 ⟨data, hdata.symm⟩ _ (List.mem_map_of_mem hj)⟩
      refine ⟨fun _ => .inr hpass, fun _ => ?_⟩
      obtain ⟨data', hok, hasAlone⟩ := asAlone_of_passes hpass
      rw [hok] at hdata
      cases hdata
      exact hasAlone
  · -- Go rejects the batch, for one of them.
    constructor
    · intro hall
      obtain ⟨i, hi⟩ := List.mem_iff_getElem?.1 hp₀
      have hlen : ([] : List ResponseDict).length ≠ b.length := fun h =>
        hb (List.length_eq_zero_iff.1 h.symm)
      obtain ⟨r, hr⟩ := exists_isAnswer b (.ok ([] : List ResponseDict) : Except String _) hi
      have halone := hall i p₀ r hi hr
      simp only [IsAnswer, if_neg hlen] at hr
      rw [hr] at halone
      exact absurd halone.symm (alone_ne_runtimeError _)
    · rintro (⟨e, hall⟩ | hpass)
      · refine absurd (fun j hj => ?_) hnot
        rcases hall j hj with he | ⟨ha, -⟩
        · rw [hpacked j hj] at he
          cases he
        · exact ha
      · exact absurd (fun j hj => (hpass j hj).1) hnot

/-! ## Runs of the batcher -/

namespace Batcher

variable {P R E : Type} {size : Int} {s s' t : State P R E} {a : Actor}

/-- A thread that has crashed has left its batches and results as they were in a state
    that is accounted for. -/
structure Traced (s t : State P R E) : Prop where
  tracked : Tracked t
  batches : t.batches = s.batches
  finished : ∀ f r, s.futures f = .finished r → t.futures f = .finished r
  submitted : t.submitted <+: s.submitted
  numbered : s.submitted.map Pending.future = List.range s.submitted.length
  running : s.phase ≠ .crashed → t = s

theorem Tracked.traced (h : Tracked s) : Traced s s :=
  ⟨h, rfl, fun _ _ hr => hr, List.prefix_refl _, h.numbered, fun _ => rfl⟩

/-- Only requests and cancellations come after the crash. -/
theorem crashed_step (hstep : Step size s a s') (hcrashed : s'.phase = .crashed) :
    s'.batches = s.batches ∧ (∀ f r, s'.futures f = .finished r → s.futures f = .finished r) ∧
      (s'.submitted = s.submitted ∨
        ∃ payload, s'.submitted = s.submitted ++ [s.request payload]) := by
  cases hstep with
  | submit payload => exact ⟨rfl, fun _ _ hr => hr, .inr ⟨payload, rfl⟩⟩
  | cancel f hf =>
    refine ⟨rfl, fun f' r hr => ?_, .inl rfl⟩
    by_cases hff : f' = f
    · subst hff
      cases (Function.update_self ..).symm.trans hr
    · exact (Function.update_of_ne hff _ _).symm.trans hr
  | setEvent | putSentinel | invalid | drainSentinel => exact ⟨rfl, fun _ _ hr => hr, .inl rfl⟩
  | drained items =>
    simp only at hcrashed
    split_ifs at hcrashed
  | _ => cases hcrashed

theorem Traced.step (h : Traced s t) (hstep : Step size s a s') : ∃ t', Traced s' t' := by
  by_cases hcrashed : s'.phase = .crashed
  · obtain ⟨hbatches, hfinished, hsubmitted⟩ := crashed_step hstep hcrashed
    refine ⟨t, h.tracked, h.batches.trans hbatches.symm,
      fun f r hr => h.finished f r (hfinished f r hr), ?_, ?_, fun hne => absurd hcrashed hne⟩
    · rcases hsubmitted with hsame | ⟨payload, hmore⟩
      · rw [hsame]
        exact h.submitted
      · rw [hmore]
        exact h.submitted.trans (List.prefix_append _ _)
    · rcases hsubmitted with hsame | ⟨payload, hmore⟩
      · rw [hsame]
        exact h.numbered
      · rw [hmore, List.map_append, h.numbered, List.length_append, List.length_singleton,
          List.range_succ]
        rfl
  · have hrunning : s.phase ≠ .crashed := by
      intro hs
      by_cases ha : a = .thread
      · exact not_step_of_crashed hs (ha ▸ hstep)
      · exact hcrashed ((step_of_ne_thread ha hstep).1.trans hs)
    rw [h.running hrunning] at h
    exact ⟨s', (h.tracked.step hstep hcrashed).traced⟩

/-- On every path, whatever is cancelled, shut down or crashed. -/
theorem exists_traced {es : List (State P R E × Actor)} (h : Path (Step size) .new es s) :
    ∃ t, Traced s t :=
  h.inv (fun s => ∃ t, Traced s t) (fun _ _ => True) (fun _ _ _ ⟨_, ht⟩ _ hstep => ht.step hstep)
    (fun _ _ => trivial) ⟨.new, accounted_new.tracked.traced⟩

/-- A request that is answered is in a batch. -/
theorem Traced.exists_batch (h : Traced s t) {p : Pending P} (hp : p ∈ s.submitted)
    {r : Resolution R E} (hr : s.futures p.future = .finished r) :
    ∃ b ∈ s.batches, ∃ i, b.1[i]? = some p ∧ IsAnswer b.1 b.2 i r := by
  have hlog := (h.tracked.finished _ _).1 (h.finished _ _ hr)
  have hall := h.tracked.delivered.subset (List.mem_append_left _ hlog)
  obtain ⟨b, hb, he⟩ := List.mem_flatMap.1 hall
  obtain ⟨⟨q, r'⟩, hq, he⟩ := List.mem_map.1 he
  obtain ⟨hfuture, hr'⟩ := Prod.mk.inj he
  simp only at hfuture hr'
  subst hr'
  obtain ⟨i, hi⟩ := List.mem_iff_getElem?.1 hq
  have hqb : b.1[i]? = some q := by
    rw [← map_fst_resolutions b.1 b.2, List.getElem?_map, hi]
    rfl
  -- The future is the one of a single request.
  have hqs : q ∈ s.submitted := by
    refine h.submitted.subset (h.tracked.order ▸ List.mem_append_left _ ?_)
    exact List.mem_flatMap.2 ⟨b, hb, List.mem_of_getElem? hqb⟩
  have hnodup : (s.submitted.map Pending.future).Nodup := h.numbered ▸ List.nodup_range
  have hqp : q = p := List.inj_on_of_nodup_map hnodup hqs hp hfuture
  rw [hqp] at hqb
  exact ⟨b, h.batches ▸ hb, i, hqb, isAnswer_of_resolutions hi⟩

end Batcher

variable {size : Int} {s : Batcher.State Job ResponseDict String}
  {es : List (Batcher.State Job ResponseDict String × Batcher.Actor)}

/-- Each caller that has an outcome has the one it would have alone. -/
def Transparent (env : WireEnv Q) (s : Batcher.State Job ResponseDict String) : Prop :=
  ∀ p ∈ s.submitted, ∀ r, s.futures p.future = .finished r → r = alone env p.payload

/-- Whatever is submitted, and however it is cut into batches: if the requests of each
    batch are alike, each caller gets what it would get alone; and only then, as is seen
    when the callers of all batches have their outcome. -/
theorem transparent_iff (h : Path (Batcher.Step size) .new es s)
    (hffi : ∀ b ∈ s.batches, Flushed env (b.1.map Pending.payload) b.2) :
    ((∀ b ∈ s.batches, Uniform env (b.1.map Pending.payload)) → Transparent env s) ∧
      ((∀ b ∈ s.batches, ∀ p ∈ b.1, Batcher.Resolved p.future s) → Transparent env s →
        ∀ b ∈ s.batches, Uniform env (b.1.map Pending.payload)) := by
  obtain ⟨t, ht⟩ := Batcher.exists_traced h
  constructor
  · intro huniform p hp r hr
    obtain ⟨b, hb, i, hi, hanswer⟩ := ht.exists_batch hp hr
    exact (asAlone_iff (hffi b hb)).2 (huniform b hb) i p r hi hanswer
  · intro hresolved htransparent b hb
    refine (asAlone_iff (hffi b hb)).1 fun i p r hi hanswer => ?_
    have hp := List.mem_of_getElem? hi
    obtain ⟨r', hr'⟩ := hresolved b hb p hp
    have hsubmitted : p ∈ s.submitted := by
      refine ht.submitted.subset (ht.tracked.order ▸ List.mem_append_left _ ?_)
      exact List.mem_flatMap.2 ⟨b, ht.batches ▸ hb, hp⟩
    have hown : IsAnswer b.1 b.2 i r' :=
      ht.tracked.answered (ht.batches ▸ hb) hi (ht.finished _ _ hr')
    rw [isAnswer_unique hanswer hown]
    exact htransparent p hsubmitted r' hr'

/-- MessagePack to which nothing is wrong. -/
def WireEnv.plain : WireEnv Unit where
  toPyEnv := .plain
  packError _ := none
  unmarshal _ := .ok ()
  marshalError _ := none

/-- A request that is answered with a header. -/
def Job.ofHeader (value : Bytes) : Job where
  requestID := "req_1_1"
  options := []
  answer := .ok (Do.received 200 [] [(utf8 "X", value)] [] (utf8 "https://h/") "HTTP/2.0")
  requestID_ne := by decide

theorem flushed_pair (v w : Bytes) : Flushed .plain [.ofHeader v, .ofHeader w]
    ([(Job.ofHeader v).response, (Job.ofHeader w).response].mapM unpackData) := by
  refine ⟨fun i => if i = 0 then (Job.ofHeader v).answer else (Job.ofHeader w).answer, _,
    fun i j hj => ?_, .answered [(), ()] _ rfl (finished_self _) rfl, rfl⟩
  match i with
  | 0 => exact congrArg Job.answer (Option.some.inj hj)
  | 1 => exact congrArg Job.answer (Option.some.inj hj)
  | i + 2 => cases hj

theorem unpackData_ofHeader (v : Bytes) : unpackData (Job.ofHeader v).response =
    match decode v with
    | some text => .ok ⟨"req_1_1", 200, "", [("X", text)], "https://h/", some "HTTP/2.0", none, []⟩
    | none => .error "Failed to decode response data: invalid utf-8 sequence" := by
  have hempty : decode [] = some "" := decode_utf8 ""
  have hresponse : (Job.ofHeader v).response = { buildErrorPayload "req_1_1" [] with
      status := 200, headers := [(utf8 "X", v)], finalUrl := utf8 "https://h/",
      proto := some "HTTP/2.0" } := by
    simp [Job.response, Job.ofHeader, buildResponsePayload, Do.received, buildErrorPayload,
      convertCookies, hempty]
  rw [hresponse, unpackData]
  cases hv : decode v <;>
    simp [unpack, unpackHeader, buildErrorPayload, hempty, hv, decode_utf8]

/-- The error for a response that is not UTF-8. -/
def undecodable : String := "Failed to decode response data: invalid utf-8 sequence"

/-- Two requests are submitted, and get this error together. -/
theorem exists_path_pair (v w : Bytes) : ∃ es s,
    Path (Batcher.Step 2) (.new : Batcher.State Job ResponseDict String) es s ∧
      s.batches = [([⟨.ofHeader v, 0⟩, ⟨.ofHeader w, 1⟩], .error undecodable)] ∧
      s.submitted = [⟨.ofHeader v, 0⟩, ⟨.ofHeader w, 1⟩] ∧
      s.futures 1 = .finished (.exception (.byBatchFn undecodable)) := by
  have hnew : Path (Batcher.Step 2) (.new : Batcher.State Job ResponseDict String) [] .new := .nil
  have hpath := ((((((((((hnew.snoc (.submit _ (.ofHeader v))).snoc (.submit _ (.ofHeader w))).snoc
    (.enter _ rfl rfl)).snoc (.first _ _ _ rfl rfl)).snoc (.more _ _ _ _ rfl (by simp) rfl)).snoc
    (.cut _ _ rfl)).snoc (.call _ _ _ (.error undecodable) rfl)).snoc
    (.check _ _ _ _ _ rfl rfl)).snoc (.set _ _ _ _ _ rfl rfl)).snoc
    (.check _ _ _ _ _ rfl rfl)).snoc (.set _ _ _ _ _ rfl rfl)
  exact ⟨_, _, hpath, rfl, rfl, rfl⟩

theorem flushed_undecodable {v : Bytes} (hv : decode v = none) (w : Bytes) :
    Flushed .plain [.ofHeader v, .ofHeader w] (.error undecodable) := by
  have hflushed := flushed_pair v w
  rwa [List.mapM_cons, unpackData_ofHeader, hv] at hflushed

/-- Two requests whose responses are not UTF-8. -/
theorem transparent_iff_pair : ∃ s : Batcher.State Job ResponseDict String,
    s.futures 1 = .finished (.exception (.byBatchFn undecodable)) ∧ Transparent .plain s := by
  obtain ⟨es, s, hpath, hbatches, -, hfuture⟩ := exists_path_pair [255] [255]
  have hnone : decode [255] = none := by decide
  refine ⟨s, hfuture, (transparent_iff hpath fun b hb => ?_).1 fun b hb => .inl ⟨undecodable, ?_⟩⟩
  · rw [hbatches] at hb
    rw [List.mem_singleton.1 hb]
    exact flushed_undecodable hnone _
  · rw [hbatches] at hb
    rw [List.mem_singleton.1 hb]
    have hfails : FailsWith .plain (.ofHeader [255]) undecodable := by
      refine .inr ⟨⟨rfl, ⟨(), rfl⟩, rfl⟩, ?_⟩
      rw [unpackData_ofHeader, hnone]
      rfl
    intro j hj
    simp only [List.map_cons, List.map_nil, List.mem_cons, List.not_mem_nil, or_false,
      or_self] at hj
    exact hj ▸ hfails

/-- Of two requests in a batch, the first has a response that is not UTF-8. -/
theorem not_forall_transparent : ¬∀ (Q : Type) (env : WireEnv Q) (size : Int)
    (es : List (Batcher.State Job ResponseDict String × Batcher.Actor))
    (s : Batcher.State Job ResponseDict String), Path (Batcher.Step size) .new es s →
      (∀ b ∈ s.batches, Flushed env (b.1.map Pending.payload) b.2) → Transparent env s := by
  intro h
  obtain ⟨es, s, hpath, hbatches, hsubmitted, hfuture⟩ := exists_path_pair [255] (utf8 "a")
  have halone := h Unit .plain 2 es s hpath (fun b hb => ?_) ⟨.ofHeader (utf8 "a"), 1⟩
    (by simp [hsubmitted]) _ hfuture
  · -- Alone, the second one has a response.
    rcases alone_eq_exception_iff.1 halone.symm with hpack | ⟨-, hunpack⟩
    · cases hpack
    · rw [unpackData_ofHeader, decode_utf8] at hunpack
      cases hunpack
  · rw [hbatches] at hb
    rw [List.mem_singleton.1 hb]
    exact flushed_undecodable (by decide) _

end CycleTLS
