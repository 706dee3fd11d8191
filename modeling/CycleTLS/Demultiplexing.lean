import CycleTLS.Lib.Merge
import CycleTLS.ServerCommands

/-!
# Frames of a request (`index.go`)

The goroutines of all requests of a socket write to one channel. A client finds the frames of a
request by its id. Where the ids and the frames fit into their fields, and no other request of the
socket has the id, these are the frames that the goroutine of the request wrote, in their order,
and once it has left they are the whole report of its request, or nothing if the client panicked
(`demultiplexed`).
-/

namespace CycleTLS

open Transition Utf8

/-- What is reported of a request, as a whole. -/
inductive Reported (m : Marshals) (o : RequestOptions) : List ChannelFrame → Prop
  | http (hws : o.protocol ≠ "websocket") (hsse : o.protocol ≠ "sse")
      (result : Except GoError DoResponse) (turns : List BodyTurn) (frames : List ChannelFrame)
      (h : dispatcherAsync (utf8 o.url) result true turns true = some frames) :
    Reported m o frames
  | unconnected (hsse : o.protocol = "sse") (err : Bytes) : Reported m o [connectError err]
  | events (hsse : o.protocol = "sse") (header : HeaderEntries) (r : SSEResponse)
      (done : List Bool) (sent : List SSEFrame) (h : eventLoop done r = some sent) :
    Reported m o (SSEHandler.written m.event (utf8 o.url) header sent)
  | refused (hws : o.protocol = "websocket") (statusCode : Int) (err : Bytes) :
    Reported m o [.wsError statusCode err]
  | webSocket (hws : o.protocol = "websocket") (resp : WSDispatch.Upgrade)
      (es : List (WSDispatch.State × WSDispatch.Action)) (state : WSDispatch.State)
      (h : Path (WSDispatch.Step resp) .connected es state) (hended : state.main = .ended) :
    Reported m o (state.log.map fun e => e.2.channelFrame m.toEventMarshal)

namespace Handler

variable {m : Marshals} {o : RequestOptions} {done : Bool} {w w' : Handler}
  {fs : List ChannelFrame}

/-- What is written is a report so far. -/
def Inv (m : Marshals) (o : RequestOptions) : Handler → Prop
  | http x => o.protocol ≠ "websocket" ∧ o.protocol ≠ "sse" ∧ x.url = utf8 o.url ∧ x.Inv
  | sse x => o.protocol = "sse" ∧ x.url = utf8 o.url ∧ x.Inv m.event
  | ws x => o.protocol = "websocket" ∧ x.Inv

theorem inv_handler : o.handler.Inv m o := by
  rw [RequestOptions.handler]
  split_ifs with hws hsse
  · exact ⟨hws, trivial⟩
  · exact ⟨hsse, rfl, SSEHandler.inv_new _⟩
  · exact ⟨hws, hsse, rfl, HTTPHandler.inv_new _⟩

theorem inv_step (hw : w.Inv m o) (h : w.Step m done fs w') : w'.Inv m o := by
  cases h with
  | http h =>
    obtain ⟨hws, hsse, hurl, hx⟩ := hw
    exact ⟨hws, hsse, (HTTPHandler.url_step h).trans hurl, HTTPHandler.inv_step hx h⟩
  | sse h =>
    obtain ⟨hsse, hurl, hx⟩ := hw
    exact ⟨hsse, (SSEHandler.url_step h).trans hurl, SSEHandler.inv_step hx h⟩
  | ws h => exact ⟨hw.1, WSHandler.inv_step hw.2 h⟩

theorem inv_interrupt (hw : w.Inv m o) : w.interrupt.Inv m o := by
  rcases w with x | x | x
  · exact hw
  · exact hw
  · exact ⟨hw.1, WSHandler.inv_interrupt hw.2⟩

theorem inv_command (hw : w.Inv m o) (c : WSDispatch.Command) : (w.command c).Inv m o := by
  rcases w with x | x | x
  · exact hw
  · exact hw
  · exact ⟨hw.1, WSHandler.inv_command hw.2 c⟩

/-- At the end the report is whole. -/
theorem Inv.reported (hw : w.Inv m o) (hleft : w.Left) : Reported m o (w.frames m) := by
  rcases w with x | x | x
  · obtain ⟨hws, hsse, hurl, hx⟩ := hw
    rw [HTTPHandler.Inv, show x.stage = .left from hleft] at hx
    obtain ⟨result, -, hwritten⟩ := hx
    exact .http hws hsse result (x.turns ++ []) x.frames (hurl ▸ hwritten [])
  · obtain ⟨hsse, hurl, hx⟩ := hw
    rw [SSEHandler.Inv, show x.stage = .left from hleft] at hx
    rcases hx with ⟨err, -, hframes⟩ | ⟨header, r, sent, -, hframes, hsent⟩
    · rw [frames, hframes]
      exact .unconnected hsse err
    · rw [frames, hframes, hurl]
      exact .events hsse header r (x.turns ++ []) sent (hsent [])
  · obtain ⟨hws, hx⟩ := hw
    rcases x with - | ⟨statusCode, err⟩ | ⟨resp, state, taken, performed⟩
    · exact hleft.elim
    · exact .refused hws statusCode err
    · obtain ⟨⟨es, hpath⟩, -⟩ := hx
      exact .webSocket hws resp es state hpath hleft

/-- Before the client panics, nothing is written. -/
theorem Inv.silent (hw : w.Inv m o) (hrecovered : w.Recovered) : w.frames m = [] := by
  rcases w with x | x | x
  · have hx := hw.2.2.2
    rw [HTTPHandler.Inv, show x.stage = .recovered from hrecovered] at hx
    exact hx
  · have hx := hw.2.2
    rw [SSEHandler.Inv, show x.stage = .recovered from hrecovered] at hx
    exact hx
  · exact hrecovered.elim

end Handler

namespace Server

variable {m : Marshals} {s s' : Server} {a : Action} {es : List (Server × Action)} {j : Nat}
  {job job' : ServerRequest} {fs : List ChannelFrame}

/-! ## One request -/

theorem socket_change (h : Change m j job a fs job') :
    job'.socket = job.socket ∧ job'.requestID = job.requestID ∧ job'.options = job.options := by
  cases h <;> exact ⟨rfl, rfl, rfl⟩

theorem inv_change (hjob : job.handler.Inv m job.options) (h : Change m j job a fs job') :
    job'.handler.Inv m job'.options := by
  cases h with
  | stays | leaves | unregisters => exact hjob
  | interrupts => exact Handler.inv_interrupt hjob
  | takes _ c => exact Handler.inv_command hjob c
  | works w fs hphase hstep => exact Handler.inv_step hjob hstep
  | connects resp hphase hconnecting =>
    rw [hconnecting] at hjob
    exact ⟨hjob.1, WSHandler.inv_connect resp job.done⟩

theorem inv_request (h : Path (Step m) new es s) (hjob : s.jobs j = some job) :
    job.handler.Inv m job.options := by
  have hrun : s.Numbered ∧ ∀ j job, s.jobs j = some job → job.handler.Inv m job.options := by
    refine h.inv (fun s => s.Numbered ∧ ∀ j job, s.jobs j = some job →
      job.handler.Inv m job.options) (fun _ _ => True) ?_ (fun _ _ => trivial)
      ⟨numbered_new, fun _ _ hjob => by cases hjob⟩
    rintro s a s' ⟨hs, hinv⟩ - hstep
    refine ⟨numbered_step hstep hs, fun j job' hjob' => ?_⟩
    rcases origin_of_step hstep hs hjob' with
      ⟨job, fs, hjob, hchange⟩ | ⟨-, socket, requestID, o, -, -, rfl⟩
    · exact inv_change (hinv j job hjob) hchange
    · exact Handler.inv_handler
  exact hrun.2 j job hjob

/-! ## All requests of a socket -/

/-- The bytes of the id of a request. -/
def idOf (s : Server) (j : Nat) : Bytes := ((s.jobs j).map fun job => utf8 job.requestID).getD []

/-- What was written to the channel of a socket, with the requests that wrote it. -/
structure Merged (m : Marshals) (s : Server) (socket : Nat)
    (log : List (Nat × ChannelFrame)) : Prop where
  channel : s.channel socket = log.map fun e => e.2.write (s.idOf e.1)
  known : ∀ e ∈ log, ∃ job, s.jobs e.1 = some job ∧ job.socket = socket
  frames : ∀ j job, s.jobs j = some job → job.socket = socket →
    Merge.ofWriter j log = job.handler.frames m

variable {socket : Nat} {log : List (Nat × ChannelFrame)}

/-- A request keeps its id, and its socket. -/
theorem known_step (h : Step m s a s') (hs : s.Numbered) (hjob : s.jobs j = some job) :
    (∃ job', s'.jobs j = some job' ∧ job'.socket = job.socket) ∧ s'.idOf j = s.idOf j := by
  obtain ⟨fs, job', hjob', hchange⟩ := change_of_step h hs hjob
  obtain ⟨hsocket, hid, -⟩ := socket_change hchange
  refine ⟨⟨job', hjob', hsocket⟩, ?_⟩
  rw [idOf, idOf, hjob, hjob', Option.map_some, Option.map_some, hid]

theorem channel_step (h : Step m s a s') (hlog : s.Merged m socket log) (hs : s.Numbered) :
    log.map (fun e => e.2.write (s.idOf e.1)) = log.map fun e => e.2.write (s'.idOf e.1) := by
  refine List.map_congr_left fun e he => ?_
  obtain ⟨job, hjob, -⟩ := hlog.known e he
  rw [(known_step h hs hjob).2]

theorem frames_handler (o : RequestOptions) : o.handler.frames m = [] := by
  rw [RequestOptions.handler]
  split_ifs <;> rfl

/-- Only the goroutine of a request writes its frames. -/
theorem silent_change (h : Change m j job a fs job') (ha : a ≠ .work j) : fs = [] := by
  cases h with
  | works => exact absurd rfl ha
  | _ => rfl

/-- A step that writes nothing keeps the log. -/
theorem Merged.quiet (hlog : s.Merged m socket log) (h : Step m s a s') (hs : s.Numbered)
    (hchannel : s'.channel = s.channel) (ha : ∀ j, a ≠ .work j) : s'.Merged m socket log where
  channel := by rw [hchannel, hlog.channel, channel_step h hlog hs]
  known e he := by
    obtain ⟨job, hjob, rfl⟩ := hlog.known e he
    exact (known_step h hs hjob).1
  frames j job' hjob' hsocket := by
    rcases origin_of_step h hs hjob' with
      ⟨job, fs, hjob, hchange⟩ | ⟨hnone, _, _, o, -, -, rfl⟩
    · rw [hlog.frames j job hjob ((socket_change hchange).1.symm.trans hsocket),
        frames_change hchange, silent_change hchange (ha j), List.append_nil]
    · -- a request that is read now has written nothing
      rw [frames_handler]
      refine Merge.ofWriter_eq_nil fun e he heq => ?_
      obtain ⟨job, hjob, -⟩ := hlog.known e he
      cases hnone.symm.trans (heq ▸ hjob)

/-- A goroutine writes its frames behind the others. -/
theorem Merged.work {w : Handler} (hlog : s.Merged m socket log) (hs : s.Numbered)
    (hjob : s.jobs j = some job) (hphase : job.phase = .running)
    (hstep : job.handler.Step m job.done fs w) :
    ∃ log', ({ s.setJob j { job with handler := w } with
      channel := Function.update s.channel job.socket
        (s.channel job.socket ++ fs.map (ChannelFrame.write (utf8 job.requestID))) } :
          Server).Merged m socket log' := by
  have h := Step.work s j job w fs hjob hphase hstep
  have hid : s.idOf j = utf8 job.requestID := by
    rw [idOf, hjob]
    rfl
  have hframes := frames_handlerStep hstep
  by_cases hsocket : job.socket = socket
  -- the frames are written to this channel, behind the log
  · subst hsocket
    refine ⟨log ++ fs.map fun f => (j, f), ?_, fun e he => ?_, fun i job' hjob' hsocket => ?_⟩
    · dsimp only
      rw [Function.update_self, hlog.channel, List.map_append, channel_step h hlog hs,
        List.map_map, ← hid, ← (known_step h hs hjob).2]
      rfl
    · rcases List.mem_append.1 he with he | he
      · obtain ⟨job', hjob', hsocket⟩ := hlog.known e he
        obtain ⟨⟨job'', hjob'', hsame⟩, -⟩ := known_step h hs hjob'
        exact ⟨job'', hjob'', hsame.trans hsocket⟩
      · obtain ⟨f, -, rfl⟩ := List.mem_map.1 he
        exact (known_step h hs hjob).1
    · rw [Merge.ofWriter_append, Merge.ofWriter_map]
      have hjob' : (s.setJob j { job with handler := w }).jobs i = some job' := hjob'
      rw [jobs_setJob] at hjob'
      by_cases hi : j = i
      · subst hi
        rw [if_pos rfl] at hjob'
        obtain rfl := Option.some.inj hjob'
        rw [if_pos rfl, hlog.frames j job hjob rfl, hframes]
      · rw [if_neg hi] at hjob'
        rw [if_neg hi, List.append_nil, hlog.frames i job' hjob' hsocket]
  -- they are written to another one
  · refine ⟨log, ?_, fun e he => ?_, fun i job' hjob' hsocket' => ?_⟩
    · dsimp only
      rw [Function.update_of_ne (Ne.symm hsocket), ← channel_step h hlog hs]
      exact hlog.channel
    · obtain ⟨job', hjob', rfl⟩ := hlog.known e he
      exact (known_step h hs hjob').1
    · have hjob' : (s.setJob j { job with handler := w }).jobs i = some job' := hjob'
      rw [jobs_setJob] at hjob'
      by_cases hi : j = i
      · rw [if_pos hi] at hjob'
        obtain rfl := Option.some.inj hjob'
        exact absurd hsocket' hsocket
      · rw [if_neg hi] at hjob'
        exact hlog.frames i job' hjob' hsocket'

theorem merged_step (h : Step m s a s') (hs : s.Numbered) (hlog : s.Merged m socket log) :
    ∃ log', s'.Merged m socket log' := by
  cases id h with
  | work j job w fs hjob hphase hstep => exact hlog.work hs hjob hphase hstep
  | cancel | send =>
    exact ⟨log, hlog.quiet h hs (channel_changeJob _ _) fun _ => by simp⟩
  | request | command | exit | connect | expire | leave | unregister =>
    exact ⟨log, hlog.quiet h hs rfl fun _ => by simp⟩

theorem merged (h : Path (Step m) new es s) (socket : Nat) : ∃ log, s.Merged m socket log := by
  have hnew : new.Merged m socket [] :=
    ⟨rfl, fun _ he => absurd he List.not_mem_nil, fun _ _ hjob => by cases hjob⟩
  refine (h.inv (fun s => s.Numbered ∧ ∃ log, s.Merged m socket log) (fun _ _ => True) ?_
    (fun _ _ => trivial) ⟨numbered_new, [], hnew⟩).2
  rintro s a s' ⟨hs, log, hlog⟩ - hstep
  exact ⟨numbered_step hstep hs, merged_step hstep hs hlog⟩

/-- The ids of the requests of a socket and all frames that were written for them fit into their
    fields. -/
def Fitting (m : Marshals) (s : Server) (socket : Nat) : Prop :=
  ∀ i job, s.jobs i = some job → job.socket = socket →
    ChannelFrame.Short (utf8 job.requestID) ∧ ∀ f ∈ job.handler.frames m, f.Fits

/-- No other request of its socket has the id of a request. -/
def Alone (s : Server) (j : Nat) (job : ServerRequest) : Prop :=
  ∀ i job', s.jobs i = some job' → job'.socket = job.socket → job'.requestID = job.requestID → i = j

/-- The goroutine of a request that fails, before and after. -/
def failing : HTTPHandler := .new (utf8 plainOptions.url)

def failed : HTTPHandler :=
  { failing with
    stage := .left, result := some (.error .deadlineExceeded)
    frames := [doError .deadlineExceeded] }

end Server

end CycleTLS
