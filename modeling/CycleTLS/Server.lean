import CycleTLS.Builders
import CycleTLS.Handlers
import CycleTLS.Lib.Ledger

/-!
# The server (`index.go`)

Clients send requests over sockets, each with an id that they choose. `readSocket` reads what a
client sends, and each request gets a goroutine, whose frames go to the channel of its socket. The
goroutines of all sockets share two maps: `activeRequests` has what cancels the request of an id,
`activeWebSockets` has its WebSocket. Both forget an id when any request with it ends. So what a map
has for an id was left there by the last step that was about the id (`activeRequests_eq`,
`activeWebSockets_eq`). Each step changes a request in one of a few ways (`Change`).
-/

namespace CycleTLS

open Transition Utf8

/-! ## The source -/

/-- `json.Marshal` of what is reported as an object. -/
structure Marshals extends EventMarshal where
  event : MarshalEvent

/-- A request for a WebSocket. What follows the state of a connection is a record of the commands
    that were taken, and of those that have left the channel. -/
inductive WSHandler
  | connecting
  /-- `Connect` failed. -/
  | refused (statusCode : Int) (err : Bytes)
  | upgraded (resp : WSDispatch.Upgrade) (state : WSDispatch.State)
      (taken performed : List WSDispatch.Command)

/-- The goroutine of a request. -/
inductive Handler
  | http (x : HTTPHandler)
  | sse (x : SSEHandler)
  | ws (x : WSHandler)

namespace WSHandler

/-- The frames that were written. -/
def frames (m : Marshals) : WSHandler → List ChannelFrame
  | connecting => []
  | refused statusCode err => [.wsError statusCode err]
  | upgraded _ state _ _ => state.log.map fun e => e.2.channelFrame m.toEventMarshal

/-- All frames are written. -/
def Left : WSHandler → Prop
  | connecting => False
  | refused _ _ => True
  | upgraded _ state _ _ => state.main = .ended

/-- The steps of the goroutines of a WebSocket, once it is connected or refused. -/
inductive Step (m : Marshals) : WSHandler → List ChannelFrame → WSHandler → Prop
  | refuse (statusCode : Int) (err : Bytes) :
    Step m connecting [.wsError statusCode err] (refused statusCode err)
  -- commands and cancellations come from the sockets, as steps of the server
  | work (resp : WSDispatch.Upgrade) (state state' : WSDispatch.State) (a : WSDispatch.Action)
      (fs : List (WSDispatch.Party × WSDispatch.Frame))
      (taken performed left : List WSDispatch.Command)
      (hstep : WSDispatch.Step resp state a state') (hcommand : a ≠ .command)
      (hcancel : a ≠ .cancel) (hlog : state'.log = state.log ++ fs)
      (hleft : state.commandChan = left ++ state'.commandChan) :
    Step m (upgraded resp state taken performed)
      (fs.map fun e => e.2.channelFrame m.toEventMarshal)
      (upgraded resp state' taken (performed ++ left))

/-- The context of the request is done. -/
def interrupt : WSHandler → WSHandler
  | upgraded resp state taken performed =>
    upgraded resp { state with cancelled := true } taken performed
  | x => x

/-- A command is put into the channel if there is room. Behind the end, nobody reads there. -/
def command (c : WSDispatch.Command) : WSHandler → WSHandler
  | upgraded resp state taken performed =>
    if state.commandChan.length < 100 then
      upgraded resp { state with commandChan := state.commandChan ++ [c] } (taken ++ [c]) performed
    else upgraded resp state taken performed
  | x => x

end WSHandler

namespace Handler

def frames (m : Marshals) : Handler → List ChannelFrame
  | http x => x.frames
  | sse x => x.frames
  | ws x => x.frames m

/-- All frames are written. -/
def Left : Handler → Prop
  | http x => x.stage = .left
  | sse x => x.stage = .left
  | ws x => x.Left

/-- The client panicked, and the goroutine has recovered. -/
def Recovered : Handler → Prop
  | http x => x.stage = .recovered
  | sse x => x.stage = .recovered
  | ws _ => False

inductive Step (m : Marshals) (done : Bool) : Handler → List ChannelFrame → Handler → Prop
  | http {x x' : HTTPHandler} {fs : List ChannelFrame} (h : x.Step done fs x') :
    Step m done (http x) fs (http x')
  | sse {x x' : SSEHandler} {fs : List ChannelFrame} (h : x.Step m.event done fs x') :
    Step m done (sse x) fs (sse x')
  | ws {x x' : WSHandler} {fs : List ChannelFrame} (h : x.Step m fs x') :
    Step m done (ws x) fs (ws x')

def interrupt : Handler → Handler
  | ws x => ws x.interrupt
  | w => w

def command (c : WSDispatch.Command) : Handler → Handler
  | ws x => ws (x.command c)
  | w => w

/-- Whether the request is for a WebSocket. -/
def isWS : Handler → Bool
  | ws _ => true
  | _ => false

end Handler

/-- The goroutine that `processRequest` makes a request for. -/
def RequestOptions.handler (o : RequestOptions) : Handler :=
  if o.protocol = "websocket" then .ws .connecting
  else if o.protocol = "sse" then .sse (.new (utf8 o.url))
  else .http (.new (utf8 o.url))

/-- The context of the request has a timeout. -/
def RequestOptions.HasTimeout (o : RequestOptions) : Prop :=
  o.protocol ≠ "websocket" ∧ o.protocol ≠ "sse" ∧ o.protocol ≠ "http3" ∧ o.forceHTTP3 = false

/-- How far a goroutine is. -/
inductive RequestPhase
  | running
  /-- Between the two deferred deletions of a WebSocket. -/
  | leaving
  | ended
  deriving DecidableEq

/-- A request that was read from a socket. -/
structure ServerRequest where
  socket : Nat
  requestID : String
  options : RequestOptions
  handler : Handler
  /-- Its context is done. -/
  done : Bool := false
  phase : RequestPhase := .running

namespace ServerRequest

def interrupt (job : ServerRequest) : ServerRequest :=
  { job with done := true, handler := job.handler.interrupt }

def command (c : WSDispatch.Command) (job : ServerRequest) : ServerRequest :=
  { job with handler := job.handler.command c }

end ServerRequest

/-- The server: the requests that were read, by their numbers, the two maps, the sockets from which
    nothing more is read, the WebSockets that they have found for the commands they have read and
    not put there yet, and the messages that were written to the channel of a socket. Nobody closes
    a channel, so `writeSocket` never returns and each write succeeds. -/
structure Server where
  jobs : Nat → Option ServerRequest
  next : Nat
  activeRequests : String → Option Nat
  activeWebSockets : String → Option Nat
  closed : Nat → Bool
  found : Nat → Option (Nat × WSDispatch.Command)
  channel : Nat → List Bytes

namespace Server

/-- Before anything is read. -/
def new : Server :=
  ⟨fun _ => none, 0, fun _ => none, fun _ => none, fun _ => false, fun _ => none, fun _ => []⟩

/-- What happens: a client sends a message, or a goroutine takes a step. -/
inductive Action
  | request (socket : Nat) (requestID : String) (o : RequestOptions)
  | cancel (socket : Nat) (requestID : String)
  /-- A command is read, and its WebSocket looked up. -/
  | command (socket : Nat) (requestID : String) (c : WSDispatch.Command)
  /-- The command is put into the channel of the WebSocket. -/
  | send (socket : Nat)
  /-- The client exits, the socket is closed, or a message is not JSON. -/
  | exit (socket : Nat)
  | work (job : Nat)
  /-- `Connect` returns a WebSocket, which is registered. -/
  | connect (job : Nat)
  /-- A timeout. -/
  | expire (job : Nat)
  /-- The deferred deletion from `activeRequests`. -/
  | leave (job : Nat)
  /-- The deferred deletion from `activeWebSockets`. -/
  | unregister (job : Nat)

/-- A job is put in the place of another. -/
def setJob (s : Server) (j : Nat) (job : ServerRequest) : Server :=
  { s with jobs := Function.update s.jobs j (some job) }

/-- The job that a map has for an id is changed, if there is one. -/
def changeJob (s : Server) (entry : Option Nat) (f : ServerRequest → ServerRequest) : Server :=
  match entry with
  | none => s
  | some j => { s with jobs := Function.update s.jobs j ((s.jobs j).map f) }

/-- The next message of a socket is read. -/
def Listens (s : Server) (socket : Nat) : Prop :=
  s.closed socket = false ∧ s.found socket = none

/-- The steps of the server. Requests are those for which `processRequest` returns. -/
inductive Step (m : Marshals) : Server → Action → Server → Prop
  -- an entry of an earlier request with the id is overwritten
  | request (s : Server) (socket : Nat) (requestID : String) (o : RequestOptions)
      (h : s.Listens socket) :
    Step m s (.request socket requestID o) {
      s.setJob s.next ⟨socket, requestID, o, o.handler, false, .running⟩ with
      next := s.next + 1
      activeRequests := Function.update s.activeRequests requestID (some s.next) }
  -- whose socket the entry is of is not asked
  | cancel (s : Server) (socket : Nat) (requestID : String) (h : s.Listens socket) :
    Step m s (.cancel socket requestID)
      { s.changeJob (s.activeRequests requestID) ServerRequest.interrupt with
        activeRequests := Function.update s.activeRequests requestID none }
  -- a command for an id that the map does not have is dropped
  | command (s : Server) (socket : Nat) (requestID : String) (c : WSDispatch.Command)
      (h : s.Listens socket) :
    Step m s (.command socket requestID c) { s with
      found := Function.update s.found socket ((s.activeWebSockets requestID).map (·, c)) }
  -- without the lock: the WebSocket may have ended, and may be gone from the map
  | send (s : Server) (socket j : Nat) (c : WSDispatch.Command)
      (h : s.found socket = some (j, c)) :
    Step m s (.send socket) { s.changeJob (some j) (ServerRequest.command c) with
      found := Function.update s.found socket none }
  | exit (s : Server) (socket : Nat) (h : s.Listens socket) :
    Step m s (.exit socket) { s with closed := Function.update s.closed socket true }
  | work (s : Server) (j : Nat) (job : ServerRequest) (w : Handler) (fs : List ChannelFrame)
      (hjob : s.jobs j = some job) (hphase : job.phase = .running)
      (hstep : job.handler.Step m job.done fs w) :
    Step m s (.work j) { s.setJob j { job with handler := w } with
      channel := Function.update s.channel job.socket
        (s.channel job.socket ++ fs.map (ChannelFrame.write (utf8 job.requestID))) }
  | connect (s : Server) (j : Nat) (job : ServerRequest) (resp : WSDispatch.Upgrade)
      (hjob : s.jobs j = some job) (hphase : job.phase = .running)
      (hconnecting : job.handler = .ws .connecting) :
    Step m s (.connect j) { s.setJob j { job with
        handler := .ws (.upgraded resp { WSDispatch.State.connected with cancelled := job.done }
          [] []) } with
      activeWebSockets := Function.update s.activeWebSockets job.requestID (some j) }
  | expire (s : Server) (j : Nat) (job : ServerRequest) (hjob : s.jobs j = some job)
      (htimeout : job.options.HasTimeout) :
    Step m s (.expire j) (s.setJob j job.interrupt)
  -- the entry is deleted, though it may be one of a later request with the id
  | leave (s : Server) (j : Nat) (job : ServerRequest) (hjob : s.jobs j = some job)
      (hphase : job.phase = .running) (hleft : job.handler.Left ∨ job.handler.Recovered) :
    Step m s (.leave j) { s.setJob j { job with
        phase := if job.handler.isWS then .leaving else .ended } with
      activeRequests := Function.update s.activeRequests job.requestID none }
  | unregister (s : Server) (j : Nat) (job : ServerRequest) (hjob : s.jobs j = some job)
      (hphase : job.phase = .leaving) :
    Step m s (.unregister j) { s.setJob j { job with phase := .ended } with
      activeWebSockets := Function.update s.activeWebSockets job.requestID none }

/-! ## The maps -/

/-- What a step writes to `activeRequests`. -/
def requestEntry (s : Server) : Action → Option (String × Option Nat)
  | .request _ requestID _ => some (requestID, some s.next)
  | .cancel _ requestID => some (requestID, none)
  | .leave j => (s.jobs j).map fun job => (job.requestID, none)
  | _ => none

/-- What a step writes to `activeWebSockets`. -/
def webSocketEntry (s : Server) : Action → Option (String × Option Nat)
  | .connect j => (s.jobs j).map fun job => (job.requestID, some j)
  | .unregister j => (s.jobs j).map fun job => (job.requestID, none)
  | _ => none

variable {m : Marshals} {s s' : Server} {a : Action} {es : List (Server × Action)} {j : Nat}

section

variable (entry : Option Nat) (f : ServerRequest → ServerRequest)

@[simp] theorem activeRequests_changeJob :
    (s.changeJob entry f).activeRequests = s.activeRequests := by
  cases entry <;> rfl

@[simp] theorem activeWebSockets_changeJob :
    (s.changeJob entry f).activeWebSockets = s.activeWebSockets := by
  cases entry <;> rfl

@[simp] theorem found_changeJob : (s.changeJob entry f).found = s.found := by
  cases entry <;> rfl

@[simp] theorem channel_changeJob : (s.changeJob entry f).channel = s.channel := by
  cases entry <;> rfl

@[simp] theorem next_changeJob : (s.changeJob entry f).next = s.next := by
  cases entry <;> rfl

theorem jobs_changeJob (j : Nat) :
    (s.changeJob entry f).jobs j = if entry = some j then (s.jobs j).map f else s.jobs j := by
  cases entry with
  | none => rfl
  | some i =>
    by_cases hi : i = j
    · subst hi
      simp [changeJob]
    · simp [changeJob, hi, Function.update_of_ne (Ne.symm hi)]

end

theorem activeRequests_step (h : Step m s a s') :
    s'.activeRequests = Ledger.write s.activeRequests (s.requestEntry a) := by
  cases h with
  | request | cancel => rfl
  | leave j job hjob =>
    rw [requestEntry, hjob]
    rfl
  | send => exact activeRequests_changeJob _ _
  | command | exit | work | connect | expire | unregister => rfl

theorem activeWebSockets_step (h : Step m s a s') :
    s'.activeWebSockets = Ledger.write s.activeWebSockets (s.webSocketEntry a) := by
  cases h with
  | connect j job resp hjob =>
    rw [webSocketEntry, hjob]
    rfl
  | unregister j job hjob =>
    rw [webSocketEntry, hjob]
    rfl
  | cancel | send => exact activeWebSockets_changeJob _ _
  | request | command | exit | work | expire | leave => rfl

/-- `activeRequests` has the request that was read last under an id, if none of that id was
    cancelled or has ended since. -/
theorem activeRequests_eq (h : Path (Step m) new es s) (requestID : String) :
    s.activeRequests requestID = (Ledger.last requestEntry requestID es).getD none :=
  Ledger.table_eq activeRequests (fun _ _ _ hstep => activeRequests_step hstep) h requestID

/-- `activeWebSockets` has the WebSocket that was opened last under an id, if none of that id has
    ended since. -/
theorem activeWebSockets_eq (h : Path (Step m) new es s) (requestID : String) :
    s.activeWebSockets requestID = (Ledger.last webSocketEntry requestID es).getD none :=
  Ledger.table_eq activeWebSockets (fun _ _ _ hstep => activeWebSockets_step hstep) h requestID

/-! ## What a step does to a request -/

/-- What a step does to a request that was read before, with the frames that it writes. -/
inductive Change (m : Marshals) (j : Nat) (job : ServerRequest) :
    Action → List ChannelFrame → ServerRequest → Prop
  | stays {a : Action} (h : a ≠ .work j) : Change m j job a [] job
  | interrupts {a : Action} (h : a ≠ .work j) : Change m j job a [] job.interrupt
  | takes (socket : Nat) (c : WSDispatch.Command) :
    Change m j job (.send socket) [] (job.command c)
  | works (w : Handler) (fs : List ChannelFrame) (hphase : job.phase = .running)
      (hstep : job.handler.Step m job.done fs w) :
    Change m j job (.work j) fs { job with handler := w }
  | connects (resp : WSDispatch.Upgrade) (hphase : job.phase = .running)
      (hconnecting : job.handler = .ws .connecting) :
    Change m j job (.connect j) [] { job with
      handler := .ws (.upgraded resp { WSDispatch.State.connected with cancelled := job.done }
        [] []) }
  | leaves (hphase : job.phase = .running) (hleft : job.handler.Left ∨ job.handler.Recovered) :
    Change m j job (.leave j) [] { job with
      phase := if job.handler.isWS then .leaving else .ended }
  | unregisters (hphase : job.phase = .leaving) :
    Change m j job (.unregister j) [] { job with phase := .ended }

variable {job job' : ServerRequest} {fs : List ChannelFrame}

/-- The numbers from the next one on are free. -/
def Numbered (s : Server) : Prop := ∀ j, s.next ≤ j → s.jobs j = none

theorem jobs_setJob (i : Nat) (j : Nat) :
    (s.setJob i job).jobs j = if i = j then some job else s.jobs j := by
  by_cases hi : i = j
  · subst hi
    simp [setJob]
  · simp [setJob, hi, Function.update_of_ne (Ne.symm hi)]

/-- A step that puts a request in its place changes that one only. -/
theorem exists_change_of_setJob {i : Nat} {job₁ new : ServerRequest} {t : Server}
    (ht : t.jobs = (s.setJob i new).jobs) (hjob₁ : s.jobs i = some job₁)
    (hchange : Change m i job₁ a fs new) (ha : i ≠ j → a ≠ .work j) (hjob : s.jobs j = some job) :
    ∃ fs job', t.jobs j = some job' ∧ Change m j job a fs job' := by
  rw [ht, jobs_setJob]
  by_cases hi : i = j
  · subst hi
    obtain rfl := Option.some.inj (hjob₁.symm.trans hjob)
    exact ⟨fs, new, if_pos rfl, hchange⟩
  · exact ⟨[], job, (if_neg hi).trans hjob, .stays (ha hi)⟩

/-- So does one that changes the request that a map has. -/
theorem exists_change_of_changeJob {entry : Option Nat} {f : ServerRequest → ServerRequest}
    {t : Server} (ht : t.jobs = (s.changeJob entry f).jobs) (hchange : Change m j job a fs (f job))
    (ha : a ≠ .work j) (hjob : s.jobs j = some job) :
    ∃ fs job', t.jobs j = some job' ∧ Change m j job a fs job' := by
  rw [ht, jobs_changeJob, hjob]
  by_cases hentry : entry = some j
  · exact ⟨fs, f job, if_pos hentry, hchange⟩
  · exact ⟨[], job, if_neg hentry, .stays ha⟩

/-- A request that was read before changes in one of these ways. -/
theorem change_of_step (h : Step m s a s') (hs : s.Numbered) (hjob : s.jobs j = some job) :
    ∃ fs job', s'.jobs j = some job' ∧ Change m j job a fs job' := by
  cases h with
  | request socket requestID o =>
    -- the number of what is read is new
    have hne : s.next ≠ j := fun heq => by
      rw [hs j heq.le] at hjob
      cases hjob
    exact ⟨[], job, ((jobs_setJob _ _).trans (if_neg hne)).trans hjob, .stays (by simp)⟩
  | cancel => exact exists_change_of_changeJob rfl (.interrupts (by simp)) (by simp) hjob
  | send socket i c => exact exists_change_of_changeJob rfl (.takes socket c) (by simp) hjob
  | command | exit => exact ⟨[], job, hjob, .stays (by simp)⟩
  | work i job₁ w fs hjob₁ hphase hstep =>
    exact exists_change_of_setJob rfl hjob₁ (.works w fs hphase hstep) (by simp) hjob
  | connect i job₁ resp hjob₁ hphase hconnecting =>
    exact exists_change_of_setJob rfl hjob₁ (.connects resp hphase hconnecting) (by simp) hjob
  | expire i job₁ hjob₁ =>
    exact exists_change_of_setJob rfl hjob₁ (.interrupts (by simp)) (by simp) hjob
  | leave i job₁ hjob₁ hphase hleft =>
    exact exists_change_of_setJob rfl hjob₁ (.leaves hphase hleft) (by simp) hjob
  | unregister i job₁ hjob₁ hphase =>
    exact exists_change_of_setJob rfl hjob₁ (.unregisters hphase) (by simp) hjob

/-- A request that has just been read. -/
def Reads (s : Server) (a : Action) (j : Nat) (job : ServerRequest) : Prop :=
  ∃ socket requestID o, a = .request socket requestID o ∧ j = s.next ∧
    job = ⟨socket, requestID, o, o.handler, false, .running⟩

/-- A request was there before a step, or is read in it. -/
theorem origin_of_step (h : Step m s a s') (hs : s.Numbered) (hjob' : s'.jobs j = some job') :
    (∃ job fs, s.jobs j = some job ∧ Change m j job a fs job') ∨
      s.jobs j = none ∧ s.Reads a j job' := by
  cases hjob : s.jobs j with
  | some job =>
    obtain ⟨fs, job'', hjob'', hchange⟩ := change_of_step h hs hjob
    obtain rfl := Option.some.inj (hjob''.symm.trans hjob')
    exact .inl ⟨job, fs, rfl, hchange⟩
  | none =>
    -- only what is read gets a number that was free
    right
    refine ⟨rfl, ?_⟩
    have hset {i : Nat} {job₁ new : ServerRequest} (hjob₁ : s.jobs i = some job₁)
        (h : (s.setJob i new).jobs j = some job') : s.Reads a j job' := by
      rw [jobs_setJob] at h
      by_cases hi : i = j
      · rw [hi, hjob] at hjob₁
        cases hjob₁
      · rw [if_neg hi, hjob] at h
        cases h
    have hchange {entry : Option Nat} {f : ServerRequest → ServerRequest}
        (h : (s.changeJob entry f).jobs j = some job') : s.Reads a j job' := by
      rw [jobs_changeJob, hjob, Option.map_none, ite_self] at h
      cases h
    cases h with
    | request socket requestID o =>
      have hjob' := (jobs_setJob _ _).symm.trans hjob'
      by_cases hnext : s.next = j
      · rw [if_pos hnext] at hjob'
        exact ⟨socket, requestID, o, rfl, hnext.symm, (Option.some.inj hjob').symm⟩
      · rw [if_neg hnext, hjob] at hjob'
        cases hjob'
    | cancel => exact hchange hjob'
    | send socket i c =>
      have hsent : (s.changeJob (some i) (ServerRequest.command c)).jobs j = some job' := hjob'
      exact hchange hsent
    | command | exit => cases hjob.symm.trans hjob'
    | work i job₁ w fs hjob₁ => exact hset hjob₁ hjob'
    | connect i job₁ resp hjob₁ => exact hset hjob₁ hjob'
    | expire i job₁ hjob₁ => exact hset hjob₁ hjob'
    | leave i job₁ hjob₁ => exact hset hjob₁ hjob'
    | unregister i job₁ hjob₁ => exact hset hjob₁ hjob'

theorem next_step (h : Step m s a s') :
    s.next ≤ s'.next ∧ ∀ job, s.Reads a j job → j < s'.next := by
  cases h with
  | request => exact ⟨Nat.le_succ _, fun _ ⟨_, _, _, _, hj, _⟩ => hj ▸ Nat.lt_succ_self _⟩
  | cancel | send =>
    exact ⟨(next_changeJob _ _).ge, fun _ ⟨_, _, _, ha, _⟩ => by cases ha⟩
  | command | exit | work | connect | expire | leave | unregister =>
    exact ⟨Nat.le_refl _, fun _ ⟨_, _, _, ha, _⟩ => by cases ha⟩

theorem numbered_step (h : Step m s a s') (hs : s.Numbered) : s'.Numbered := by
  intro j hj
  refine Option.eq_none_iff_forall_not_mem.2 fun job' hjob' => ?_
  rcases origin_of_step h hs hjob' with ⟨job, fs, hjob, -⟩ | ⟨-, hreads⟩
  · rw [hs j ((next_step (j := j) h).1.trans hj)] at hjob
    cases hjob
  · exact absurd hj ((next_step h).2 _ hreads).not_ge

theorem numbered_new : new.Numbered := fun _ _ => rfl

theorem numbered (h : Path (Step m) new es s) : s.Numbered :=
  h.inv Numbered (fun _ _ => True) (fun _ _ _ hs _ hstep => numbered_step hstep hs)
    (fun _ _ => trivial) numbered_new

/-! ## The frames of a request -/

theorem frames_interrupt (w : Handler) : w.interrupt.frames m = w.frames m := by
  rcases w with x | x | x
  · rfl
  · rfl
  · cases x <;> rfl

theorem frames_command (c : WSDispatch.Command) (w : Handler) :
    (w.command c).frames m = w.frames m := by
  rcases w with x | x | x
  · rfl
  · rfl
  · rcases x with - | ⟨statusCode, err⟩ | ⟨resp, state, taken, performed⟩
    · rfl
    · rfl
    · rw [Handler.command, WSHandler.command]
      split_ifs <;> rfl

theorem frames_handlerStep {done : Bool} {w w' : Handler} (h : w.Step m done fs w') :
    w'.frames m = w.frames m ++ fs := by
  cases h with
  | http h => exact HTTPHandler.frames_step h
  | sse h => exact SSEHandler.frames_step h
  | ws h =>
    cases h with
    | refuse => rfl
    | work resp state state' a fs taken performed left hstep hcommand hcancel hlog =>
      rw [Handler.frames, WSHandler.frames, hlog, List.map_append]
      rfl

/-- A change writes its frames behind those that are written. -/
theorem frames_change (h : Change m j job a fs job') :
    job'.handler.frames m = job.handler.frames m ++ fs := by
  cases h with
  | works w fs hphase hstep => exact frames_handlerStep hstep
  | interrupts => exact (frames_interrupt _).trans (List.append_nil _).symm
  | takes _ c => exact (frames_command c _).trans (List.append_nil _).symm
  | connects resp hphase hconnecting =>
    rw [hconnecting]
    rfl
  | stays | leaves | unregisters => exact (List.append_nil _).symm

/-- Reports of events and WebSockets that are empty. -/
def plainMarshals : Marshals := ⟨⟨fun _ _ => [], fun _ _ => []⟩, fun _ => []⟩

def plainOptions : RequestOptions := { url := "http://localhost/" }

end Server

end CycleTLS
