import CycleTLS.BodyStream
import CycleTLS.SSEDispatch

/-!
# Requests of the server, step by step (`dispatcherAsync`, `dispatchSSEAsync` in `index.go`)

The goroutine of a request looks at the context of the request at some of its steps only, and
between them the context may be done. What it writes is what the functions write as a whole, for
some course of their loops (`HTTPHandler.Inv`, `SSEHandler.Inv`). Once the context is done, it
writes at most two more frames and takes at most three more steps (`HTTPHandler.remaining_step`,
`SSEHandler.remaining_step`). If the client panics, which is recovered from, nothing is written.
-/

namespace CycleTLS

open Utf8

/-! ## The source -/

/-- Where `dispatcherAsync` is. -/
inductive DispatchStage
  /-- In `Do`. -/
  | doing
  /-- At the `select` of the loop over the body. -/
  | selecting
  /-- Behind a read of the body. -/
  | hasRead (r : BodyRead)
  /-- Behind the look at the context that follows a read. -/
  | checked (r : BodyRead)
  /-- Behind the loop. -/
  | ending
  /-- All frames are written. -/
  | left
  /-- `Do` panicked, and the goroutine has recovered. -/
  | recovered

/-- A request over HTTP, with a record of what `Do` returned, of the iterations, and of the
    frames. -/
structure HTTPHandler where
  url : Bytes
  stage : DispatchStage := .doing
  result : Option (Except GoError DoResponse) := none
  turns : List BodyTurn := []
  frames : List ChannelFrame := []

/-- The frame for an error of `Do`. -/
def doError (err : GoError) : ChannelFrame :=
  .error (parseError err).statusCode.toNat ((parseError err).errorMsg ++ utf8 "-> \n" ++ err.text)

/-- The frame for a read, if one is written. -/
def BodyRead.sent (r : BodyRead) : List ChannelFrame :=
  match r.err with
  | some (.other err) => [readError err]
  | _ => if r.bytes.length = 0 then [] else [.data r.bytes]

/-- Where a read leaves the loop. -/
def BodyRead.next (r : BodyRead) : DispatchStage := if r.err.isSome then .ending else .selecting

namespace HTTPHandler

/-- Before `Do`. -/
def new (url : Bytes) : HTTPHandler where
  url := url

/-- The steps of a request, whose context is done or not, and the frames of a step. -/
inductive Step (done : Bool) : HTTPHandler → List ChannelFrame → HTTPHandler → Prop
  | fails (x : HTTPHandler) (err : GoError) (h : x.stage = .doing) :
    Step done x [doError err] { x with
      stage := .left, result := some (.error err), frames := x.frames ++ [doError err] }
  -- as for a JA3 with too few fields
  | panics (x : HTTPHandler) (h : x.stage = .doing) :
    Step done x [] { x with stage := .recovered }
  | responds (x : HTTPHandler) (resp : DoResponse) (h : x.stage = .doing) :
    Step done x [resp.frame x.url] { x with
      stage := .selecting, result := some (.ok resp), frames := x.frames ++ [resp.frame x.url] }
  | stops (x : HTTPHandler) (r : BodyRead) (h : x.stage = .selecting) (hdone : done = true) :
    Step done x [] { x with stage := .ending, turns := x.turns ++ [⟨true, r, false, true⟩] }
  | reads (x : HTTPHandler) (r : BodyRead) (h : x.stage = .selecting) (hdone : done = false) :
    Step done x [] { x with stage := .hasRead r }
  -- what was read is dropped
  | canceled (x : HTTPHandler) (r : BodyRead) (h : x.stage = .hasRead r) (hdone : done = true) :
    Step done x [] { x with stage := .ending, turns := x.turns ++ [⟨false, r, true, true⟩] }
  | checks (x : HTTPHandler) (r : BodyRead) (h : x.stage = .hasRead r) (hdone : done = false) :
    Step done x [] { x with stage := .checked r }
  -- behind the look the frame is written, whether the context is done meanwhile or not
  | sends (x : HTTPHandler) (r : BodyRead) (h : x.stage = .checked r) :
    Step done x r.sent { x with
      stage := r.next, turns := x.turns ++ [r.turn], frames := x.frames ++ r.sent }
  | ends (x : HTTPHandler) (h : x.stage = .ending) :
    Step done x [.endMessage] { x with stage := .left, frames := x.frames ++ [.endMessage] }

end HTTPHandler

/-- `json.Marshal` of what is sent of an event. -/
abbrev MarshalEvent := SSEEvent → Bytes

/-- The frame of a stream. -/
def SSEFrame.channelFrame (m : MarshalEvent) : SSEFrame → ChannelFrame
  | .data event => .data (m event)
  | .endMessage => .endMessage

/-- The frame for an error of `Connect`. -/
def connectError (err : Bytes) : ChannelFrame := .error 0 (utf8 "SSE connection failed: " ++ err)

/-- Where `dispatchSSEAsync` is. -/
inductive SSEStage
  /-- In `Connect`. -/
  | connecting
  /-- At the `select` of the loop over the events. -/
  | selecting
  /-- In `NextEvent`. -/
  | inNext
  | ending
  | left
  /-- `Connect` panicked, and the goroutine has recovered. -/
  | recovered

/-- A request for events, with the stream that is left, and a record of what it was at first, of the
    looks at the context, and of the frames. -/
structure SSEHandler where
  url : Bytes
  stage : SSEStage := .connecting
  resp : SSEResponse := ⟨[], none⟩
  first : Option (HeaderEntries × SSEResponse) := none
  turns : List Bool := []
  frames : List ChannelFrame := []

namespace SSEHandler

/-- Before `Connect`. -/
def new (url : Bytes) : SSEHandler where
  url := url

/-- The stage and the frames behind a call of `NextEvent`. -/
def behind (m : MarshalEvent) : Except Bytes (Option SSEEvent) → SSEStage × List ChannelFrame
  | .error _ => (.ending, [])
  | .ok none => (.selecting, [])
  | .ok (some event) => (.selecting, [.data (m event)])

/-- The steps of a request. `Connect` returns a response only if its status is 200. -/
inductive Step (m : MarshalEvent) (done : Bool) : SSEHandler → List ChannelFrame →
    SSEHandler → Prop
  | fails (x : SSEHandler) (err : Bytes) (h : x.stage = .connecting) :
    Step m done x [connectError err] { x with
      stage := .left, frames := x.frames ++ [connectError err] }
  | panics (x : SSEHandler) (h : x.stage = .connecting) :
    Step m done x [] { x with stage := .recovered }
  | responds (x : SSEHandler) (header : HeaderEntries) (r : SSEResponse)
      (h : x.stage = .connecting) :
    Step m done x [.response 200 x.url header] { x with
      stage := .selecting, resp := r, first := some (header, r)
      frames := x.frames ++ [.response 200 x.url header] }
  | stops (x : SSEHandler) (h : x.stage = .selecting) (hdone : done = true) :
    Step m done x [] { x with stage := .ending, turns := x.turns ++ [true] }
  | asks (x : SSEHandler) (h : x.stage = .selecting) (hdone : done = false) :
    Step m done x [] { x with stage := .inNext }
  | next (x : SSEHandler) (h : x.stage = .inNext) :
    Step m done x (behind m x.resp.nextEvent.1).2 { x with
      stage := (behind m x.resp.nextEvent.1).1, resp := x.resp.nextEvent.2
      turns := x.turns ++ [false], frames := x.frames ++ (behind m x.resp.nextEvent.1).2 }
  | interrupted (x : SSEHandler) (h : x.stage = .inNext) (hdone : done = true) :
    -- the read fails, as the context ends it
    Step m done x [] { x with stage := .ending, turns := x.turns ++ [true] }
  | ends (x : SSEHandler) (h : x.stage = .ending) :
    Step m done x [.endMessage] { x with stage := .left, frames := x.frames ++ [.endMessage] }

end SSEHandler

/-! ## Requests over HTTP -/

/-- The frames that are still written from a stage on once the context is done, at most. -/
def DispatchStage.remaining : DispatchStage → Nat
  | .doing | .checked _ => 2
  | .selecting | .hasRead _ | .ending => 1
  | .left | .recovered => 0

/-- The steps that are still taken from a stage on once the context is done, at most. -/
def DispatchStage.distance : DispatchStage → Nat
  | .doing | .checked _ => 3
  | .selecting | .hasRead _ => 2
  | .ending => 1
  | .left | .recovered => 0

namespace HTTPHandler

variable {done : Bool} {x x' : HTTPHandler} {fs : List ChannelFrame}

/-- A step writes its frames behind those that are written. -/
theorem frames_step (h : Step done x fs x') : x'.frames = x.frames ++ fs := by
  cases h with
  | fails | responds | sends | ends => rfl
  | panics | stops | reads | canceled | checks => exact (List.append_nil _).symm

theorem url_step (h : Step done x fs x') : x'.url = x.url := by
  cases h <;> rfl

/-- The frames of the body so far, for the iterations so far. -/
def Sent (x : HTTPHandler) (body : List ChannelFrame) : Prop :=
  ∃ resp, x.result = some (.ok resp) ∧ x.frames = resp.frame x.url :: body

/-- What was written is what `dispatcherAsync` writes, for the iterations so far and any more. -/
def Inv (x : HTTPHandler) : Prop :=
  match x.stage with
  | .doing => x.frames = [] ∧ x.turns = []
  | .selecting | .hasRead _ | .checked _ => ∃ body, x.Sent body ∧ ∀ more,
      bodyLoop (x.turns ++ more) = (bodyLoop more).map fun r => (body ++ r.1, r.2)
  | .ending => ∃ body, x.Sent body ∧ ∀ more, bodyLoop (x.turns ++ more) = some (body, true)
  | .left => ∃ result, x.result = some result ∧ ∀ more,
      dispatcherAsync x.url result true (x.turns ++ more) true = some x.frames
  | .recovered => x.frames = []

theorem inv_new (url : Bytes) : Inv (new url) := ⟨rfl, rfl⟩

/-- An iteration behind others. -/
theorem bodyLoop_turns {turns : List BodyTurn} {body : List ChannelFrame}
    (h : ∀ more, bodyLoop (turns ++ more) = (bodyLoop more).map fun r => (body ++ r.1, r.2))
    (t : BodyTurn) (more : List BodyTurn) : bodyLoop (turns ++ [t] ++ more) =
      (bodyLoop (t :: more)).map fun r => (body ++ r.1, r.2) := by
  rw [List.append_assoc, h]
  rfl

/-- The iteration of a read in which nothing intervenes. -/
theorem bodyLoop_turn (r : BodyRead) (more : List BodyTurn) : bodyLoop (r.turn :: more) =
    if r.err.isSome then some (r.sent, true)
    else (bodyLoop more).map fun p => (r.sent ++ p.1, p.2) := by
  rcases herr : r.err with - | - | err
  · rw [bodyLoop_of_none herr, chunksOf_singleton, BodyRead.sent, herr]
    by_cases hbytes : r.bytes = [] <;> simp [hbytes]
  · rw [bodyLoop_of_eof herr, chunksOf_singleton, BodyRead.sent, herr]
    by_cases hbytes : r.bytes = [] <;> simp [hbytes]
  · rw [bodyLoop_of_other herr, BodyRead.sent, herr]
    rfl

theorem inv_step (hx : x.Inv) (h : Step done x fs x') : x'.Inv := by
  cases h with
  | fails err hstage =>
    rw [Inv, hstage] at hx
    refine ⟨_, rfl, fun more => ?_⟩
    rw [dispatcherAsync, hx.1]
    rfl
  | panics hstage =>
    rw [Inv, hstage] at hx
    exact hx.1
  | responds resp hstage =>
    rw [Inv, hstage] at hx
    obtain ⟨hframes, hturns⟩ := hx
    refine ⟨[], ⟨resp, rfl, congrArg (· ++ [_]) hframes⟩, fun more => ?_⟩
    rw [hturns]
    exact Option.map_id'.symm
  | stops r hstage =>
    rw [Inv, hstage] at hx
    obtain ⟨body, hsent, hturns⟩ := hx
    refine ⟨body, hsent, fun more => ?_⟩
    rw [bodyLoop_turns hturns]
    simp [bodyLoop]
  | reads r hstage =>
    rw [Inv, hstage] at hx
    exact hx
  | canceled r hstage =>
    rw [Inv, hstage] at hx
    obtain ⟨body, hsent, hturns⟩ := hx
    refine ⟨body, hsent, fun more => ?_⟩
    rw [bodyLoop_turns hturns]
    simp [bodyLoop]
  | checks r hstage =>
    rw [Inv, hstage] at hx
    exact hx
  | sends r hstage =>
    rw [Inv, hstage] at hx
    obtain ⟨body, ⟨resp, hresult, hframes⟩, hturns⟩ := hx
    -- an error of the read leaves the loop behind the frame, and else it goes on
    have hsent : x.frames ++ r.sent = resp.frame x.url :: (body ++ r.sent) := by
      rw [hframes]
      rfl
    cases herr : r.err.isSome with
    | true =>
      rw [Inv, BodyRead.next, if_pos herr]
      refine ⟨body ++ r.sent, ⟨resp, hresult, hsent⟩, fun more => ?_⟩
      rw [bodyLoop_turns hturns, bodyLoop_turn, if_pos herr]
      rfl
    | false =>
      rw [Inv, BodyRead.next, herr, if_neg Bool.false_ne_true]
      refine ⟨body ++ r.sent, ⟨resp, hresult, hsent⟩, fun more => ?_⟩
      rw [bodyLoop_turns hturns, bodyLoop_turn, herr, if_neg Bool.false_ne_true, Option.map_map]
      simp only [Function.comp_def, List.append_assoc]
  | ends hstage =>
    rw [Inv, hstage] at hx
    obtain ⟨body, ⟨resp, hresult, hframes⟩, hturns⟩ := hx
    refine ⟨_, hresult, fun more => ?_⟩
    rw [dispatcherAsync, hturns, hframes]
    rfl

/-! ### After the context is done -/

theorem next_eq (r : BodyRead) : r.next.remaining = 1 ∧ r.next.distance ≤ 2 := by
  rw [BodyRead.next]
  split_ifs
  · exact ⟨rfl, by decide⟩
  · exact ⟨rfl, Nat.le_refl _⟩

theorem length_sent_le (r : BodyRead) : r.sent.length ≤ 1 := by
  rw [BodyRead.sent]
  split
  · exact Nat.le_refl _
  · split_ifs
    · exact Nat.zero_le _
    · exact Nat.le_refl _

theorem remaining_step (h : Step true x fs x') :
    fs.length + x'.stage.remaining ≤ x.stage.remaining ∧
      x'.stage.distance < x.stage.distance := by
  cases h with
  | fails err hstage | panics hstage | responds resp hstage | stops r hstage | canceled r hstage
  | ends hstage =>
    simp [hstage, DispatchStage.remaining, DispatchStage.distance]
  | reads _ _ hdone | checks _ _ hdone => cases hdone
  | sends r hstage =>
    have hlength := length_sent_le r
    obtain ⟨hremaining, hdistance⟩ := next_eq r
    rw [hstage]
    exact ⟨hremaining ▸ Nat.add_le_add_right hlength 1, Nat.lt_succ_of_le hdistance⟩

end HTTPHandler

/-! ## Requests for events -/

/-- The frames that are still written from a stage on once the context is done, at most. -/
def SSEStage.remaining : SSEStage → Nat
  | .connecting | .inNext => 2
  | .selecting | .ending => 1
  | .left | .recovered => 0

/-- The steps that are still taken from a stage on once the context is done, at most. -/
def SSEStage.distance : SSEStage → Nat
  | .connecting | .inNext => 3
  | .selecting => 2
  | .ending => 1
  | .left | .recovered => 0

namespace SSEHandler

variable {m : MarshalEvent} {done : Bool} {x x' : SSEHandler} {fs : List ChannelFrame}

theorem frames_step (h : Step m done x fs x') : x'.frames = x.frames ++ fs := by
  cases h with
  | fails | responds | next | ends => rfl
  | panics | stops | asks | interrupted => exact (List.append_nil _).symm

theorem url_step (h : Step m done x fs x') : x'.url = x.url := by
  cases h <;> rfl

/-- What is written for a stream, given what the loop writes. -/
def written (m : MarshalEvent) (url : Bytes) (header : HeaderEntries) (sent : List SSEFrame) :
    List ChannelFrame :=
  .response 200 url header :: sent.map (SSEFrame.channelFrame m)

/-- The frames of some events, for the iterations so far. -/
def Sent (m : MarshalEvent) (x : SSEHandler) (events : List SSEEvent) : Prop :=
  ∃ header r, x.first = some (header, r) ∧
    x.frames = written m x.url header (events.map .data) ∧
    ∀ more, eventLoop (x.turns ++ more) r =
      (eventLoop more x.resp).map (events.map SSEFrame.data ++ ·)

/-- What was written is what `dispatchSSEAsync` writes, for the iterations so far and any more. -/
def Inv (m : MarshalEvent) (x : SSEHandler) : Prop :=
  match x.stage with
  | .connecting => x.frames = [] ∧ x.turns = [] ∧ x.first = none
  | .selecting | .inNext => ∃ events, x.Sent m events
  | .ending => ∃ header r, ∃ events : List SSEEvent,
      x.first = some (header, r) ∧ x.frames = written m x.url header (events.map .data) ∧
      ∀ more, eventLoop (x.turns ++ more) r = some (events.map .data ++ [.endMessage])
  | .left => (∃ err, x.first = none ∧ x.frames = [connectError err]) ∨
      ∃ header r sent, x.first = some (header, r) ∧ x.frames = written m x.url header sent ∧
        ∀ more, eventLoop (x.turns ++ more) r = some sent
  | .recovered => x.frames = []

theorem inv_new (url : Bytes) : (new url).Inv m := ⟨rfl, rfl, rfl⟩

/-! An iteration of the loop, by what `NextEvent` returns. -/

section

variable {r : SSEResponse}

theorem eventLoop_of_error {e : Bytes} (h : r.nextEvent.1 = .error e) (more : List Bool) :
    eventLoop (false :: more) r = some [.endMessage] := by
  rw [eventLoop]
  split <;> simp_all

theorem eventLoop_of_none (h : r.nextEvent.1 = .ok none) (more : List Bool) :
    eventLoop (false :: more) r = eventLoop more r.nextEvent.2 := by
  rw [eventLoop]
  split <;> simp_all

theorem eventLoop_of_some {event : SSEEvent} (h : r.nextEvent.1 = .ok (some event))
    (more : List Bool) :
    eventLoop (false :: more) r = (eventLoop more r.nextEvent.2).map (.data event :: ·) := by
  rw [eventLoop]
  split <;> simp_all

end

/-- The loop is left at an iteration that finds the context done, or fails to read. -/
theorem Sent.ends {events : List SSEEvent} (h : x.Sent m events) {t : Bool}
    (ht : ∀ more, eventLoop (t :: more) x.resp = some [.endMessage]) :
    ∃ header r, x.first = some (header, r) ∧
      x.frames = written m x.url header (events.map .data) ∧
      ∀ more, eventLoop (x.turns ++ [t] ++ more) r =
        some (events.map .data ++ [.endMessage]) := by
  obtain ⟨header, r, hfirst, hframes, hturns⟩ := h
  refine ⟨header, r, hfirst, hframes, fun more => ?_⟩
  rw [List.append_assoc, hturns, List.singleton_append, ht]
  rfl

theorem inv_step (hx : x.Inv m) (h : Step m done x fs x') : x'.Inv m := by
  cases h with
  | fails err hstage =>
    rw [Inv, hstage] at hx
    exact .inl ⟨err, hx.2.2, congrArg (· ++ [_]) hx.1⟩
  | panics hstage =>
    rw [Inv, hstage] at hx
    exact hx.1
  | responds header r hstage =>
    rw [Inv, hstage] at hx
    obtain ⟨hframes, hturns, -⟩ := hx
    refine ⟨[], header, r, rfl, congrArg (· ++ [_]) hframes, fun more => ?_⟩
    rw [hturns]
    exact Option.map_id'.symm
  | stops hstage =>
    rw [Inv, hstage] at hx
    obtain ⟨events, hsent⟩ := hx
    obtain ⟨header, r, hends⟩ := hsent.ends (t := true) fun more => rfl
    exact ⟨header, r, events, hends⟩
  | asks hstage =>
    rw [Inv, hstage] at hx
    exact hx
  | next hstage =>
    rw [Inv, hstage] at hx
    obtain ⟨events, hsent⟩ := hx
    -- an error ends the loop, and only an event has a frame
    rcases hnext : x.resp.nextEvent.1 with e | - | event
    · obtain ⟨header, r, hends⟩ := hsent.ends (t := false) (eventLoop_of_error hnext)
      exact ⟨header, r, events, hends.1, (List.append_nil _).trans hends.2.1, hends.2.2⟩
    · obtain ⟨header, r, hfirst, hframes, hturns⟩ := hsent
      refine ⟨events, header, r, hfirst, (List.append_nil _).trans hframes, fun more => ?_⟩
      rw [List.append_assoc, hturns, List.singleton_append, eventLoop_of_none hnext]
    · obtain ⟨header, r, hfirst, hframes, hturns⟩ := hsent
      refine ⟨events ++ [event], header, r, hfirst, ?_, fun more => ?_⟩
      · rw [hframes, behind, written, written]
        simp [SSEFrame.channelFrame]
      · rw [List.append_assoc, hturns, List.singleton_append, eventLoop_of_some hnext,
          Option.map_map]
        simp [Function.comp_def]
  | interrupted hstage =>
    rw [Inv, hstage] at hx
    obtain ⟨events, hsent⟩ := hx
    obtain ⟨header, r, hends⟩ := hsent.ends (t := true) fun more => rfl
    exact ⟨header, r, events, hends⟩
  | ends hstage =>
    rw [Inv, hstage] at hx
    obtain ⟨header, r, events, hfirst, hframes, hturns⟩ := hx
    refine .inr ⟨header, r, _, hfirst, ?_, hturns⟩
    rw [hframes, written, written, List.map_append]
    rfl

theorem remaining_step (h : Step m true x fs x') :
    fs.length + x'.stage.remaining ≤ x.stage.remaining ∧
      x'.stage.distance < x.stage.distance := by
  cases h with
  | fails err hstage | panics hstage | responds header r hstage | stops hstage
  | interrupted hstage | ends hstage =>
    simp [hstage, SSEStage.remaining, SSEStage.distance]
  | asks _ hdone => cases hdone
  | next hstage =>
    rcases hnext : x.resp.nextEvent.1 with e | - | event <;>
      simp [hstage, behind, SSEStage.remaining, SSEStage.distance]

end SSEHandler

end CycleTLS
