import CycleTLS.Server

/-!
# Commands for WebSockets (`readSocket` in `index.go`)

A socket that reads a command finds the WebSocket that was opened last under its id, if no request
with the id has ended since, and puts the command into its channel next, which may be after the end
of the WebSocket; if the channel is full, the command is dropped. What has left the channel and
what is still in it are the commands that were put there, in their order, and nothing is carried
out behind a command to close (`commands_inOrder`).
-/

namespace CycleTLS

open Transition

/-- A command to close. -/
def WSDispatch.Command.isClose : WSDispatch.Command → Bool
  | .close _ _ => true
  | _ => false

namespace WSDispatch

variable {resp : Upgrade} {s s' : State} {a : Action} {performed left : List Command}

/-- A writer that is at work has not carried out a command to close, and one that has ended may
    have done so last. -/
structure Serves (s : State) (performed : List Command) : Prop where
  idle : s.main = .connected ∨ s.main = .responded → s.writer = .idle
  open_of_writer : s.writer ≠ .ended → ∀ c ∈ performed, c.isClose = false
  open_before : ∀ c ∈ performed.dropLast, c.isClose = false

/-- The channel is left as it is. -/
theorem Serves.of_eq (h : Serves s performed) (hchan : s'.commandChan = s.commandChan)
    (hleft : s.commandChan = left ++ s'.commandChan)
    (hidle : s'.main = .connected ∨ s'.main = .responded → s'.writer = .idle)
    (hwriter : s'.writer ≠ .ended → s.writer ≠ .ended) : Serves s' (performed ++ left) := by
  obtain rfl : left = [] := List.self_eq_append_left.1 (hchan ▸ hleft)
  rw [List.append_nil]
  exact ⟨hidle, fun hne => h.open_of_writer (hwriter hne), h.open_before⟩

/-- The writer carries out the first command of the channel. -/
theorem Serves.performs (h : Serves s performed) (hrunning : s.writer = .running) {c : Command}
    {rest : List Command} (hcommand : s.commandChan = c :: rest)
    (hleft : s.commandChan = left ++ s'.commandChan) (hrest : s'.commandChan = rest)
    (hmain : s'.main = s.main) (hopen : s'.writer ≠ .ended → c.isClose = false) :
    Serves s' (performed ++ left) := by
  obtain rfl : left = [c] := by
    rw [hcommand, hrest] at hleft
    exact (List.append_cancel_right hleft).symm
  have hperformed := h.open_of_writer (by rw [hrunning]; decide)
  refine ⟨fun hstart => ?_, fun hne => ?_, ?_⟩
  · cases hrunning.symm.trans (h.idle (hmain ▸ hstart))
  · exact List.forall_mem_append.2 ⟨hperformed, List.forall_mem_singleton.2 (hopen hne)⟩
  · rw [List.dropLast_concat]
    exact hperformed

theorem serves_step (h : Serves s performed) (hstep : Step resp s a s') (hcommand : a ≠ .command)
    (hleft : s.commandChan = left ++ s'.commandChan) : Serves s' (performed ++ left) := by
  cases hstep with
  | sendResponse hmain =>
    have hidle := h.idle (.inl hmain)
    exact h.of_eq rfl hleft (fun _ => hidle) id
  | sendOpen hmain =>
    have hidle := h.idle (.inr hmain)
    refine h.of_eq rfl hleft (fun hstart => ?_) fun _ => by rw [hidle]; decide
    rcases hstart with hstart | hstart
    · cases hstart
    · cases hstart
  | wake | sendEnd =>
    refine h.of_eq rfl hleft (fun hstart => ?_) id
    rcases hstart with hstart | hstart
    · cases hstart
    · cases hstart
  | message | readEnds | cancel => exact h.of_eq rfl hleft h.idle id
  | send data isBinary rest hrunning hchan | sendFails data isBinary rest err hrunning hchan =>
    exact h.performs hrunning hchan hleft rfl rfl fun _ => rfl
  -- the writer ends behind it, and carries out nothing more
  | close closeCode closeReason rest hrunning hchan =>
    exact h.performs hrunning hchan hleft rfl rfl fun hne => absurd rfl hne
  | control c rest hrunning hchan hc =>
    refine h.performs hrunning hchan hleft rfl rfl fun _ => ?_
    obtain ⟨data, rfl | rfl⟩ := hc
    · rfl
    · rfl
  | writerStops hrunning =>
    refine h.of_eq rfl hleft (fun hstart => ?_) fun hne => absurd rfl hne
    cases hrunning.symm.trans (h.idle hstart)
  | command => exact absurd rfl hcommand

end WSDispatch

/-! ## One connection -/

namespace WSHandler

variable {m : Marshals} {x x' : WSHandler} {fs : List ChannelFrame}

/-- A connection is a run of `dispatchWebSocketAsync`, and its commands leave the channel in the
    order in which they were put there. -/
def Inv : WSHandler → Prop
  | upgraded resp state taken performed =>
    (∃ es, Path (WSDispatch.Step resp) .connected es state) ∧
      performed ++ state.commandChan = taken ∧ WSDispatch.Serves state performed
  | _ => True

theorem inv_step (hx : x.Inv) (h : Step m x fs x') : x'.Inv := by
  cases h with
  | refuse => trivial
  | work resp state state' a fs taken performed left hstep hcommand hcancel hlog hleft =>
    obtain ⟨⟨es, hpath⟩, htaken, hserves⟩ := hx
    refine ⟨⟨_, hpath.snoc hstep⟩, ?_, WSDispatch.serves_step hserves hstep hcommand hleft⟩
    rw [List.append_assoc, ← hleft, htaken]

theorem inv_interrupt (hx : x.Inv) : x.interrupt.Inv := by
  rcases x with - | ⟨statusCode, err⟩ | ⟨resp, state, taken, performed⟩
  · trivial
  · trivial
  · obtain ⟨⟨es, hpath⟩, htaken, hserves⟩ := hx
    exact ⟨⟨_, hpath.snoc (.cancel state)⟩, htaken,
      hserves.idle, hserves.open_of_writer, hserves.open_before⟩

theorem inv_command (hx : x.Inv) (c : WSDispatch.Command) : (x.command c).Inv := by
  rcases x with - | ⟨statusCode, err⟩ | ⟨resp, state, taken, performed⟩
  · trivial
  · trivial
  · rw [command]
    split_ifs with hroom
    · obtain ⟨⟨es, hpath⟩, htaken, hserves⟩ := hx
      refine ⟨⟨_, hpath.snoc (.command state c hroom)⟩, ?_,
        hserves.idle, hserves.open_of_writer, hserves.open_before⟩
      rw [← htaken, List.append_assoc]
    · exact hx

/-- A connection that was just opened, for a request whose context is done or not. -/
theorem inv_connect (resp : WSDispatch.Upgrade) (done : Bool) :
    Inv (upgraded resp { WSDispatch.State.connected with cancelled := done } [] []) := by
  have hserves : WSDispatch.Serves { WSDispatch.State.connected with cancelled := done } [] :=
    ⟨fun _ => rfl, fun _ _ h => absurd h List.not_mem_nil, fun _ h => absurd h List.not_mem_nil⟩
  have hnil : Path (WSDispatch.Step resp) .connected [] .connected := .nil
  cases done with
  | false => exact ⟨⟨[], hnil⟩, rfl, hserves⟩
  | true => exact ⟨⟨_, hnil.snoc (.cancel _)⟩, rfl, hserves⟩

end WSHandler

/-! ## Commands of the clients -/

namespace Handler

/-- The commands that were put into the channel. -/
def taken : Handler → List WSDispatch.Command
  | ws (.upgraded _ _ taken _) => taken
  | _ => []

/-- There is room in the channel of a WebSocket. -/
def accepts : Handler → Bool
  | ws (.upgraded _ state _ _) => state.commandChan.length < 100
  | _ => false

theorem taken_command (c : WSDispatch.Command) (w : Handler) :
    (w.command c).taken = w.taken ++ if w.accepts then [c] else [] := by
  rcases w with x | x | x
  · rfl
  · rfl
  · rcases x with - | ⟨statusCode, err⟩ | ⟨resp, state, taken, performed⟩
    · rfl
    · rfl
    · rw [command, WSHandler.command]
      by_cases hroom : state.commandChan.length < 100
      · rw [if_pos hroom, accepts, decide_eq_true hroom]
        rfl
      · rw [if_neg hroom, accepts, decide_eq_false hroom]
        exact (List.append_nil _).symm

theorem taken_interrupt (w : Handler) : w.interrupt.taken = w.taken := by
  rcases w with x | x | x
  · rfl
  · rfl
  · cases x <;> rfl

theorem taken_step {m : Marshals} {done : Bool} {w w' : Handler} {fs : List ChannelFrame}
    (h : w.Step m done fs w') : w'.taken = w.taken := by
  cases h with
  | http | sse => rfl
  | ws h => cases h <;> rfl

end Handler

namespace Server

variable {m : Marshals} {s s' : Server} {a : Action} {es : List (Server × Action)} {j : Nat}
  {job job' : ServerRequest} {fs : List ChannelFrame}

/-- The connection that a request is for is a run. -/
def Runs (job : ServerRequest) : Prop := ∀ x, job.handler = .ws x → x.Inv

theorem runs_handler (o : RequestOptions) (x : WSHandler) (h : o.handler = .ws x) : x.Inv := by
  rw [RequestOptions.handler] at h
  split_ifs at h
  cases h
  trivial

theorem runs_change (hjob : Runs job) (h : Change m j job a fs job') : Runs job' := by
  cases h with
  | stays | leaves | unregisters => exact hjob
  | interrupts =>
    intro x' hx'
    cases hx : job.handler with
    | ws x =>
      obtain rfl := Handler.ws.inj ((congrArg Handler.interrupt hx).symm.trans hx')
      exact WSHandler.inv_interrupt (hjob x hx)
    | _ => cases (congrArg Handler.interrupt hx).symm.trans hx'
  | takes _ c =>
    intro x' hx'
    cases hx : job.handler with
    | ws x =>
      obtain rfl := Handler.ws.inj ((congrArg (Handler.command c) hx).symm.trans hx')
      exact WSHandler.inv_command (hjob x hx) c
    | _ => cases (congrArg (Handler.command c) hx).symm.trans hx'
  | works w fs hphase hstep =>
    intro x' hx'
    cases hx : job.handler with
    | ws x =>
      rw [hx] at hstep
      cases hstep with
      | ws hstep =>
        obtain rfl := Handler.ws.inj hx'
        exact WSHandler.inv_step (hjob x hx) hstep
    | _ =>
      rw [hx] at hstep
      cases hstep
      cases hx'
  | connects resp hphase hconnecting =>
    rintro x' hx'
    obtain rfl := Handler.ws.inj hx'
    exact WSHandler.inv_connect resp job.done

/-- What a socket finds for the command that it reads in a step. -/
def finds (socket : Nat) (s : Server) : Action → Option (Nat × WSDispatch.Command)
  | .command socket' requestID c =>
    if socket' = socket then (s.activeWebSockets requestID).map (·, c) else none
  | _ => none

/-- What a socket has found and hands over in a step. -/
def hands (socket : Nat) (s : Server) : Action → Option (Nat × WSDispatch.Command)
  | .send socket' => if socket' = socket then s.found socket else none
  | _ => none

/-- The command that a request takes in a step: one that is handed over to it, if it accepts the
    command. -/
def takes (j : Nat) (s : Server) : Action → Option WSDispatch.Command
  | .send socket => (s.found socket).bind fun e =>
    if e.1 = j ∧ (s.jobs j).any (·.handler.accepts) then some e.2 else none
  | _ => none

/-- The commands that were put into the channel of a request. -/
def taken (s : Server) (j : Nat) : List WSDispatch.Command :=
  ((s.jobs j).map fun job => job.handler.taken).getD []

/-- All connections are runs. -/
def AllRun (s : Server) : Prop := ∀ j job, s.jobs j = some job → Runs job

theorem allRun (h : Path (Step m) new es s) : s.AllRun := by
  refine (h.inv (fun s => s.Numbered ∧ s.AllRun) (fun _ _ => True) ?_ (fun _ _ => trivial)
    ⟨numbered_new, fun _ _ hjob => by cases hjob⟩).2
  rintro s a s' ⟨hs, hruns⟩ - hstep
  refine ⟨numbered_step hstep hs, fun j job' hjob' => ?_⟩
  rcases origin_of_step hstep hs hjob' with
    ⟨job, fs, hjob, hchange⟩ | ⟨-, socket, requestID, o, -, -, rfl⟩
  · exact runs_change (hruns j job hjob) hchange
  · exact runs_handler o

/-- Nothing is taken but what is handed over. -/
theorem taken_change (h : Change m j job a fs job') (ha : ∀ socket, a ≠ .send socket) :
    job'.handler.taken = job.handler.taken := by
  cases h with
  | stays | leaves | unregisters => rfl
  | interrupts => exact Handler.taken_interrupt _
  | takes socket c => exact absurd rfl (ha socket)
  | works w fs hphase hstep => exact Handler.taken_step hstep
  | connects resp hphase hconnecting =>
    rw [hconnecting]
    rfl

theorem taken_handler (o : RequestOptions) : o.handler.taken = [] := by
  rw [RequestOptions.handler]
  split_ifs <;> rfl

/-- Before it is read, a request takes nothing. -/
theorem takes_eq_none (hjob : s.jobs j = none) : takes j s a = none := by
  cases a with
  | send socket =>
    rw [takes, hjob]
    exact Option.bind_eq_none_iff.2 fun e _ => if_neg fun h => Bool.false_ne_true h.2
  | _ => rfl

theorem taken_of_step (h : Step m s a s') (hs : s.Numbered) (j : Nat) :
    s'.taken j = s.taken j ++ (takes j s a).toList := by
  cases hjob : s.jobs j with
  | none =>
    -- what is read now has taken nothing
    rw [takes_eq_none hjob, taken, taken, hjob, Option.toList_none, List.append_nil]
    cases hjob' : s'.jobs j with
    | none => rfl
    | some job' =>
      rcases origin_of_step h hs hjob' with ⟨job, fs, hsome, -⟩ | ⟨-, _, _, o, -, -, rfl⟩
      · cases hjob.symm.trans hsome
      · exact taken_handler o
  | some job =>
    obtain ⟨fs, job', hjob', hchange⟩ := change_of_step h hs hjob
    -- a command is taken if it is handed over to the request, and there is room
    rw [taken, taken, hjob, hjob', Option.map_some, Option.map_some, Option.getD_some,
      Option.getD_some]
    by_cases ha : ∃ socket, a = .send socket
    · obtain ⟨socket, rfl⟩ := ha
      cases h with
      | send _ i c hfound =>
        have hsent : (s.changeJob (some i) (ServerRequest.command c)).jobs j = some job' := hjob'
        rw [jobs_changeJob, hjob] at hsent
        by_cases hi : i = j
        · subst hi
          rw [if_pos rfl] at hsent
          obtain rfl := Option.some.inj hsent
          rw [ServerRequest.command, Handler.taken_command]
          by_cases haccepts : job.handler.accepts = true
          · simp [takes, hfound, hjob, haccepts]
          · simp [takes, hfound, hjob, haccepts]
        · rw [if_neg fun heq => hi (Option.some.inj heq)] at hsent
          obtain rfl := Option.some.inj hsent
          simp [takes, hfound, hi]
    · have hnone : takes j s a = none := by
        cases a with
        | send socket => exact absurd ⟨_, rfl⟩ ha
        | _ => rfl
      rw [taken_change hchange fun socket heq => ha ⟨_, heq⟩, hnone]
      exact (List.append_nil _).symm

theorem taken_eq (h : Path (Step m) new es s) (j : Nat) :
    s.taken j = es.filterMap fun e => takes j e.1 e.2 := by
  induction h with
  | nil => rfl
  | @snoc es t t' a hpath hstep ih =>
    rw [taken_of_step hstep (numbered hpath), ih, List.filterMap_append]
    cases htakes : takes j t a with
    | none => simp [htakes]
    | some c => simp [htakes]

/-- A socket hands over what it has found before it reads more. -/
theorem found_step (h : Step m s a s') (socket : Nat) :
    (hands socket s a).toList ++ (s'.found socket).toList =
      (s.found socket).toList ++ (finds socket s a).toList := by
  have hkeep (hfound : s'.found = s.found) :
      ([] : List (Nat × WSDispatch.Command)) ++ (s'.found socket).toList =
        (s.found socket).toList ++ [] := by
    rw [hfound, List.nil_append, List.append_nil]
  cases h with
  | command socket' requestID c hlistens =>
    by_cases hsocket : socket' = socket
    · subst hsocket
      simp [hands, finds, hlistens.2]
    · simp [hands, finds, hsocket, Function.update_of_ne (Ne.symm hsocket)]
  | send socket' i c hfound =>
    by_cases hsocket : socket' = socket
    · subst hsocket
      simp [hands, finds]
    · simp [hands, finds, hsocket, Function.update_of_ne (Ne.symm hsocket)]
  | cancel => exact hkeep (found_changeJob _ _)
  | request | exit | work | connect | expire | leave | unregister => exact hkeep rfl

theorem found_eq (h : Path (Step m) new es s) (socket : Nat) :
    es.filterMap (fun e => hands socket e.1 e.2) ++ (s.found socket).toList =
      es.filterMap fun e => finds socket e.1 e.2 := by
  have hsingle (f : Server → Action → Option (Nat × WSDispatch.Command)) (s : Server)
      (a : Action) : [(s, a)].filterMap (fun e => f e.1 e.2) = (f s a).toList := by
    cases hf : f s a <;> simp [hf]
  induction h with
  | nil => rfl
  | @snoc es t t' a hpath hstep ih =>
    rw [List.filterMap_append, List.filterMap_append, hsingle (hands socket),
      hsingle (finds socket), List.append_assoc, found_step hstep, ← List.append_assoc, ih]

/-- The commands that a connection has carried out and those that wait for it are the commands that
    it has taken, in their order, and nothing is carried out behind a command to close. A socket
    hands over what it finds in the order in which it reads. It finds a connection just if this was
    opened last under the id and no request with the id has ended since, and the connection takes
    what is handed over just if fewer than a hundred wait. -/
theorem commands_inOrder (h : Path (Step m) new es s) {resp : WSDispatch.Upgrade}
    {state : WSDispatch.State} {taken performed : List WSDispatch.Command}
    (hjob : s.jobs j = some job)
    (hws : job.handler = .ws (.upgraded resp state taken performed)) :
    performed ++ state.commandChan = es.filterMap (fun e => takes j e.1 e.2) ∧
      (∀ c ∈ performed.dropLast, c.isClose = false) ∧
      (∀ socket, es.filterMap (fun e => hands socket e.1 e.2) ++ (s.found socket).toList =
        es.filterMap fun e => finds socket e.1 e.2) ∧
      (∀ socket requestID c, finds socket s (.command socket requestID c) = some (j, c) ↔
        Ledger.last webSocketEntry requestID es = some (some j)) ∧
      ∀ socket c, hands socket s (.send socket) = some (j, c) →
        (takes j s (.send socket) = some c ↔ state.commandChan.length < 100) := by
  obtain ⟨-, htaken, hserves⟩ := allRun h j job hjob _ hws
  refine ⟨?_, hserves.open_before, found_eq h, fun socket requestID c => ?_,
    fun socket c hfound => ?_⟩
  · rw [htaken, ← taken_eq h j, Server.taken, hjob, Option.map_some, Option.getD_some, hws]
    rfl
  · rw [finds, if_pos rfl, activeWebSockets_eq h]
    cases Ledger.last webSocketEntry requestID es with
    | none => simp
    | some entry => simp
  · rw [hands, if_pos rfl] at hfound
    rw [takes, hfound, Option.bind_some, Option.ite_none_right_eq_some, and_iff_left rfl,
      and_iff_right rfl, hjob, Option.any_some, hws, Handler.accepts, decide_eq_true_iff]

/-- Two clients have found the WebSocket of one of them. The other one is the first to put its
    command there. -/
theorem commands_inOrder_run : ∃ es s job resp state, Path (Step plainMarshals) new es s ∧
    s.jobs 0 = some job ∧
    job.handler = .ws (.upgraded resp state [.ping [], .close 1000 ""] []) ∧
      [] ++ state.commandChan = es.filterMap (fun e => takes 0 e.1 e.2) := by
  have hnil : Path (Step plainMarshals) new [] new := .nil
  have hopened := (hnil.snoc
    (.request _ 0 "1" { plainOptions with protocol := "websocket" } ⟨rfl, rfl⟩)).snoc
    (.connect _ 0 _ ⟨"", 101, .empty⟩ rfl rfl rfl)
  have hpath := (((hopened.snoc (.command _ 0 "1" (.close 1000 "") ⟨rfl, rfl⟩)).snoc
    (.command _ 1 "1" (.ping []) ⟨rfl, rfl⟩)).snoc (.send _ 1 0 _ rfl)).snoc (.send _ 0 0 _ rfl)
  exact ⟨_, _, _, _, _, hpath, rfl, rfl, (commands_inOrder hpath rfl rfl).1⟩

end Server

end CycleTLS
