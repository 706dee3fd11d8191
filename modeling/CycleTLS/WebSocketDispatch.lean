import CycleTLS.Lib.Dict
import CycleTLS.Lib.Transition

/-!
# Frames of a WebSocket (`dispatchWebSocketAsync` in `index.go`)

Of a connection, one goroutine reads the messages and another one carries out the commands of the
client, while the main one waits for both and sends the end. All of them write frames.

The reader always ends with a frame that ends the messages. So a second one is written if the
writer carries out a command to close, and a failed send is reported behind it if the writer is
still at work then. Without such steps, the frames are those of the protocol at any time, and of
a run that is complete they are so only without such steps (`conforms_of_orderly`).
-/

namespace CycleTLS

open Transition

namespace WSDispatch

/-! ## The source -/

/-- The response to the handshake. -/
structure Upgrade where
  url : String
  statusCode : Nat
  header : Dict String (List String)

/-- `Header.Get`, for a canonical name. -/
def Upgrade.get (resp : Upgrade) (name : String) : String :=
  ((resp.header.get? name).bind List.head?).getD ""

/-- A message as `ReadMessage` returns it. -/
structure Incoming where
  messageType : Int
  message : List UInt8
  deriving DecidableEq

/-- An error of `ReadMessage`, with the code of a `CloseError`. -/
structure ReadError where
  code : Option Nat
  text : String

/-- A `WebSocketCommand`, as the client sends them. -/
inductive Command
  | send (data : List UInt8) (isBinary : Bool)
  | close (closeCode : Int) (closeReason : String)
  | ping (data : List UInt8)
  | pong (data : List UInt8)

/-- A frame for the client. -/
inductive Frame
  | response (resp : Upgrade)
  | wsOpen (protocol extensions : String)
  | wsMessage (m : Incoming)
  | wsError (statusCode : Nat) (message : String)
  | wsClose (code : Int) (reason : String)
  | endMessage

/-- The goroutines. -/
inductive Party
  | main
  | reader
  | writer
  deriving DecidableEq

/-- Where the main goroutine is. -/
inductive Phase
  /-- Before the response is sent. -/
  | connected
  /-- Before the connection is reported open and the other goroutines are started. -/
  | responded
  /-- At the `select`. -/
  | waiting
  /-- Behind it, waiting for both goroutines. -/
  | closing
  | ended
  deriving DecidableEq

inductive Goroutine
  | idle
  | running
  | ended
  deriving DecidableEq

/-- The state of a connection. What follows `cancelled` is a record of what happened. -/
structure State where
  main : Phase
  reader : Goroutine
  writer : Goroutine
  commandChan : List Command
  /-- `closeChan` is closed. -/
  closeChan : Bool
  /-- The context of the request is done. -/
  cancelled : Bool
  received : List Incoming
  /-- The frames that were written, and by whom. -/
  log : List (Party × Frame)

/-- The state after a successful `Connect`. -/
def State.connected : State where
  main := .connected
  reader := .idle
  writer := .idle
  commandChan := []
  closeChan := false
  cancelled := false
  received := []
  log := []

/-- The frame for an error of `ReadMessage`. -/
def ReadError.frame (err : ReadError) : Frame :=
  if err.code = some 1000 ∨ err.code = some 1001 then .wsClose 1000 "Connection closed normally"
  else .wsError 0 err.text

/-- The code that a command to close reports. -/
def closeCodeOf (closeCode : Int) : Int := if closeCode = 0 then 1000 else closeCode

/-- What is done in a step. -/
inductive Action
  /-- The main goroutine goes on. -/
  | goOn
  | message
  | readEnds
  | send
  | sendFails
  | close
  /-- The writer sends a ping or a pong. -/
  | control
  | writerStops
  | command
  | cancel
  deriving DecidableEq

/-- A frame is written. -/
def State.write (s : State) (party : Party) (frame : Frame) : State :=
  { s with log := s.log ++ [(party, frame)] }

/-- The steps of the goroutines, of the client and of the context. A command finds no place if
    there are a hundred already, and a place even behind the end, where nobody reads it. -/
inductive Step (resp : Upgrade) : State → Action → State → Prop
  | sendResponse (s : State) (h : s.main = .connected) :
    Step resp s .goOn ({ s with main := .responded }.write .main (.response resp))
  | sendOpen (s : State) (h : s.main = .responded) :
    Step resp s .goOn ({ s with main := .waiting, reader := .running, writer := .running }.write
      .main (.wsOpen (resp.get "Sec-Websocket-Protocol") (resp.get "Sec-Websocket-Extensions")))
  | wake (s : State) (h : s.main = .waiting)
      (hwake : s.reader = .ended ∨ s.writer = .ended ∨ s.cancelled = true) :
    Step resp s .goOn { s with main := .closing, closeChan := true }
  | sendEnd (s : State) (h : s.main = .closing) (hreader : s.reader = .ended)
      (hwriter : s.writer = .ended) :
    Step resp s .goOn ({ s with main := .ended }.write .main .endMessage)
  | message (s : State) (m : Incoming) (h : s.reader = .running) :
    Step resp s .message ({ s with received := s.received ++ [m] }.write .reader (.wsMessage m))
  | readEnds (s : State) (err : ReadError) (h : s.reader = .running) :
    Step resp s .readEnds ({ s with reader := .ended }.write .reader err.frame)
  | send (s : State) (data : List UInt8) (isBinary : Bool) (rest : List Command)
      (h : s.writer = .running) (hcommand : s.commandChan = .send data isBinary :: rest) :
    Step resp s .send { s with commandChan := rest }
  | sendFails (s : State) (data : List UInt8) (isBinary : Bool) (rest : List Command) (err : String)
      (h : s.writer = .running) (hcommand : s.commandChan = .send data isBinary :: rest) :
    Step resp s .sendFails ({ s with commandChan := rest }.write .writer (.wsError 0 err))
  | close (s : State) (closeCode : Int) (closeReason : String) (rest : List Command)
      (h : s.writer = .running)
      (hcommand : s.commandChan = .close closeCode closeReason :: rest) :
    Step resp s .close ({ s with commandChan := rest, writer := .ended }.write .writer
      (.wsClose (closeCodeOf closeCode) closeReason))
  | control (s : State) (c : Command) (rest : List Command) (h : s.writer = .running)
      (hcommand : s.commandChan = c :: rest) (hc : ∃ data, c = .ping data ∨ c = .pong data) :
    Step resp s .control { s with commandChan := rest }
  | writerStops (s : State) (h : s.writer = .running)
      (hstop : s.closeChan = true ∨ s.cancelled = true) :
    Step resp s .writerStops { s with writer := .ended }
  | command (s : State) (c : Command) (hroom : s.commandChan.length < 100) :
    Step resp s .command { s with commandChan := s.commandChan ++ [c] }
  | cancel (s : State) : Step resp s .cancel { s with cancelled := true }

/-! ## The protocol -/

/-- The frames before the messages. -/
def opening (resp : Upgrade) : List (Party × Frame) :=
  [(.main, .response resp),
    (.main, .wsOpen (resp.get "Sec-Websocket-Protocol") (resp.get "Sec-Websocket-Extensions"))]

/-- A message, or a failed send. -/
def IsBetween : Party × Frame → Prop
  | (.reader, .wsMessage _) => True
  | (.writer, .wsError _ _) => True
  | _ => False

/-- A close, or an error that is no failed send. -/
def IsTerminal : Party × Frame → Prop
  | (_, .wsClose _ _) => True
  | (.reader, .wsError _ _) => True
  | _ => False

/-- The messages among some frames. -/
def messages (log : List (Party × Frame)) : List Incoming :=
  log.filterMap fun e =>
    match e.2 with
    | .wsMessage m => some m
    | _ => none

/-- The frames are those of the protocol so far, and all of them once the end is sent: one
    terminal frame, or at most one of a request that is cancelled. -/
structure State.Conforms (resp : Upgrade) (s : State) : Prop where
  messages : messages s.log = s.received
  frames : ∃ between terminal, (∀ e ∈ between, IsBetween e) ∧ (∀ e ∈ terminal, IsTerminal e) ∧
    terminal.length ≤ 1 ∧
    s.log <+: opening resp ++ between ++ terminal ++ [(.main, .endMessage)] ∧
    (s.main = .ended → s.log = opening resp ++ between ++ terminal ++ [(.main, .endMessage)] ∧
      (terminal = [] → s.cancelled = true))

/-- A step that carries out no command to close, and has no send fail after the reader ended. -/
def Orderly (s : State) (a : Action) : Prop :=
  a ≠ .close ∧ (a = .sendFails → s.reader ≠ .ended)

variable {resp : Upgrade} {s s' : State} {a : Action} {es : List (State × Action)}

/-! ## Orderly runs -/

/-- The frames that were written since the start, with a terminal one if the reader has ended. -/
def Body (resp : Upgrade) (s : State) (log : List (Party × Frame)) : Prop :=
  ∃ between terminal, log = opening resp ++ between ++ terminal ∧ (∀ e ∈ between, IsBetween e) ∧
    messages between = s.received ∧
    (s.reader = .running ∧ terminal = [] ∨
      s.reader = .ended ∧ ∃ e, terminal = [e] ∧ IsTerminal e)

/-- What orderly steps keep. -/
def Inv (resp : Upgrade) (s : State) : Prop :=
  match s.main with
  | .connected => s.log = [] ∧ s.received = [] ∧ s.reader = .idle ∧ s.writer = .idle
  | .responded => s.log = [(.main, .response resp)] ∧ s.received = [] ∧ s.reader = .idle ∧
      s.writer = .idle
  | .waiting | .closing => Body resp s s.log
  | .ended => (∃ log, s.log = log ++ [(.main, .endMessage)] ∧ Body resp s log) ∧
      s.reader = .ended ∧ s.writer = .ended

theorem messages_append (log log' : List (Party × Frame)) :
    messages (log ++ log') = messages log ++ messages log' := List.filterMap_append

theorem isTerminal_frame (err : ReadError) : IsTerminal (.reader, err.frame) := by
  rw [ReadError.frame]
  split_ifs <;> trivial

/-- A goroutine runs only after the start and before the end. -/
theorem Inv.started (h : Inv resp s) (hrunning : s.reader = .running ∨ s.writer = .running) :
    (s.main = .waiting ∨ s.main = .closing) ∧ Body resp s s.log := by
  have hidle : ¬(s.reader = .idle ∧ s.writer = .idle) := by
    rintro ⟨hreader, hwriter⟩
    rcases hrunning with hr | hw
    · cases hreader.symm.trans hr
    · cases hwriter.symm.trans hw
  rw [Inv] at h
  split at h
  · exact absurd h.2.2 hidle
  · exact absurd h.2.2 hidle
  · next hmain => exact ⟨.inl hmain, h⟩
  · next hmain => exact ⟨.inr hmain, h⟩
  · rcases hrunning with hr | hw
    · cases h.2.1.symm.trans hr
    · cases h.2.2.symm.trans hw

theorem inv_of_body (hmain : s.main = .waiting ∨ s.main = .closing) (h : Body resp s s.log) :
    Inv resp s := by
  rcases hmain with hmain | hmain
  · rwa [Inv, hmain]
  · rwa [Inv, hmain]

theorem forall_mem_concat {P : Party × Frame → Prop} {log : List (Party × Frame)}
    {last : Party × Frame} (h : ∀ e ∈ log, P e) (he : P last) : ∀ e ∈ log ++ [last], P e :=
  List.forall_mem_append.2 ⟨h, fun _ hmem => List.mem_singleton.1 hmem ▸ he⟩

namespace Body

variable {log : List (Party × Frame)}

theorem message (h : Body resp s log) (hreader : s.reader = .running) (m : Incoming) :
    Body resp { s with received := s.received ++ [m] } (log ++ [(.reader, .wsMessage m)]) := by
  obtain ⟨between, terminal, rfl, hbetween, hmessages, ⟨-, rfl⟩ | ⟨hended, -⟩⟩ := h
  · have hlast : IsBetween (.reader, .wsMessage m) := trivial
    refine ⟨between ++ [(.reader, .wsMessage m)], [], by simp, forall_mem_concat hbetween hlast,
      ?_, .inl ⟨hreader, rfl⟩⟩
    rw [messages_append, hmessages]
    rfl
  · cases hended.symm.trans hreader

theorem readEnds (h : Body resp s log) (hreader : s.reader = .running) (err : ReadError) :
    Body resp { s with reader := .ended } (log ++ [(.reader, err.frame)]) := by
  obtain ⟨between, terminal, rfl, hbetween, hmessages, ⟨-, rfl⟩ | ⟨hended, -⟩⟩ := h
  · exact ⟨between, [(.reader, err.frame)], by simp, hbetween, hmessages,
      .inr ⟨rfl, _, rfl, isTerminal_frame err⟩⟩
  · cases hended.symm.trans hreader

theorem sendFails (h : Body resp s log) (hreader : s.reader ≠ .ended) (err : String) :
    Body resp s (log ++ [(.writer, .wsError 0 err)]) := by
  obtain ⟨between, terminal, rfl, hbetween, hmessages, ⟨hrunning, rfl⟩ | ⟨hended, -⟩⟩ := h
  · have hlast : IsBetween (.writer, .wsError 0 err) := trivial
    refine ⟨between ++ [(.writer, .wsError 0 err)], [], by simp, forall_mem_concat hbetween hlast,
      ?_, .inl ⟨hrunning, rfl⟩⟩
    rw [messages_append, hmessages]
    exact List.append_nil _
  · exact absurd hended hreader

end Body

theorem inv_step (h : Inv resp s) (ha : Orderly s a) (hstep : Step resp s a s') :
    Inv resp s' := by
  cases hstep with
  | sendResponse hmain =>
    rw [Inv, hmain] at h
    obtain ⟨hlog, hreceived, hreader, hwriter⟩ := h
    exact ⟨congrArg (· ++ [_]) hlog, hreceived, hreader, hwriter⟩
  | sendOpen hmain =>
    rw [Inv, hmain] at h
    obtain ⟨hlog, hreceived, -⟩ := h
    exact ⟨[], [], congrArg (· ++ [_]) hlog, fun _ hmem => absurd hmem List.not_mem_nil,
      hreceived.symm, .inl ⟨rfl, rfl⟩⟩
  | wake hmain =>
    rw [Inv, hmain] at h
    exact h
  | sendEnd hmain hreader hwriter =>
    rw [Inv, hmain] at h
    exact ⟨⟨s.log, rfl, h⟩, hreader, hwriter⟩
  | message m hreader =>
    obtain ⟨hmain, hbody⟩ := h.started (.inl hreader)
    exact inv_of_body hmain (hbody.message hreader m)
  | readEnds err hreader =>
    obtain ⟨hmain, hbody⟩ := h.started (.inl hreader)
    exact inv_of_body hmain (hbody.readEnds hreader err)
  | sendFails data isBinary rest err hwriter =>
    obtain ⟨hmain, hbody⟩ := h.started (.inr hwriter)
    exact inv_of_body hmain (hbody.sendFails (ha.2 rfl) err)
  | close => exact absurd rfl ha.1
  | writerStops hwriter =>
    obtain ⟨hmain, hbody⟩ := h.started (.inr hwriter)
    exact inv_of_body hmain hbody
  | send => exact h
  | control => exact h
  | command => exact h
  | cancel => exact h

theorem messages_eq_nil {log : List (Party × Frame)} (h : ∀ e ∈ log, IsTerminal e) :
    messages log = [] := by
  refine List.filterMap_eq_nil_iff.2 fun e he => ?_
  have hterminal := h e he
  obtain ⟨party, frame⟩ := e
  cases frame with
  | wsMessage m => cases party <;> exact hterminal.elim
  | _ => rfl

/-- A body is a part of the protocol, and has its messages. -/
theorem Body.grammar {log : List (Party × Frame)} (h : Body resp s log) :
    messages log = s.received ∧ ∃ between terminal, log = opening resp ++ between ++ terminal ∧
      (∀ e ∈ between, IsBetween e) ∧ (∀ e ∈ terminal, IsTerminal e) ∧ terminal.length ≤ 1 ∧
      (s.reader = .ended → terminal ≠ []) := by
  obtain ⟨between, terminal, rfl, hbetween, hmessages, hreader⟩ := h
  have hterminal : (∀ e ∈ terminal, IsTerminal e) ∧ terminal.length ≤ 1 ∧
      (s.reader = .ended → terminal ≠ []) := by
    rcases hreader with ⟨hrunning, rfl⟩ | ⟨-, e, rfl, he⟩
    · refine ⟨fun _ hmem => absurd hmem List.not_mem_nil, Nat.zero_le _, fun hended => ?_⟩
      cases hrunning.symm.trans hended
    · exact ⟨fun e' hmem => List.mem_singleton.1 hmem ▸ he, Nat.le_refl _,
        fun _ => List.cons_ne_nil _ _⟩
  refine ⟨?_, between, terminal, rfl, hbetween, hterminal⟩
  rw [messages_append, messages_append, messages_eq_nil hterminal.1, hmessages]
  exact List.append_nil _

/-- The frames of a state with the invariant are those of the protocol. -/
theorem Inv.conforms (h : Inv resp s) : s.Conforms resp := by
  have hnil : ∀ (P : Party × Frame → Prop), ∀ e ∈ ([] : List (Party × Frame)), P e :=
    fun _ _ hmem => absurd hmem List.not_mem_nil
  have hstart (hlog : s.log <+: opening resp) (hmessages : messages s.log = s.received)
      (hmain : s.main ≠ .ended) : s.Conforms resp := by
    refine ⟨hmessages, [], [], hnil _, hnil _, Nat.zero_le _, ?_, fun hended => absurd hended hmain⟩
    rw [List.append_nil, List.append_nil]
    exact hlog.trans (List.prefix_append _ _)
  have hbody (hbody : Body resp s s.log) (hmain : s.main ≠ .ended) : s.Conforms resp := by
    obtain ⟨hmessages, between, terminal, hlog, hbetween, hterminal, hlength, -⟩ := hbody.grammar
    refine ⟨hmessages, between, terminal, hbetween, hterminal, hlength, ?_,
      fun hended => absurd hended hmain⟩
    rw [hlog]
    exact List.prefix_append _ _
  rw [Inv] at h
  split at h
  · next hmain => exact hstart (h.1 ▸ List.nil_prefix) (by rw [h.1, h.2.1]; rfl) (by simp [hmain])
  · next hmain =>
      refine hstart ?_ (by rw [h.1, h.2.1]; rfl) (by simp [hmain])
      rw [h.1]
      exact List.prefix_append [_] [_]
  · next hmain => exact hbody h (by simp [hmain])
  · next hmain => exact hbody h (by simp [hmain])
  · obtain ⟨⟨log, hlog, hlogBody⟩, hreader, -⟩ := h
    obtain ⟨hmessages, between, terminal, rfl, hbetween, hterminal, hlength, hne⟩ :=
      hlogBody.grammar
    refine ⟨?_, between, terminal, hbetween, hterminal, hlength, ?_,
      fun _ => ⟨hlog, fun hnone => ?_⟩⟩
    · rw [hlog, messages_append, hmessages]
      exact List.append_nil _
    · exact hlog ▸ List.prefix_rfl
    · exact absurd hnone (hne hreader)

/-! ## Runs that are not orderly -/

/-- A close of the writer, or a failed send behind the terminal frame of the reader. -/
def Broken (log : List (Party × Frame)) : Prop :=
  (∃ code reason, (.writer, .wsClose code reason) ∈ log) ∨
    ∃ frame statusCode err, IsTerminal (.reader, frame) ∧
      [(.reader, frame), (.writer, .wsError statusCode err)].Sublist log

/-- A reader that has ended has written a terminal frame, and so it has at the end. -/
structure Finished (s : State) : Prop where
  reader : s.reader = .ended → ∃ frame, IsTerminal (.reader, frame) ∧ (.reader, frame) ∈ s.log
  main : s.main = .ended → s.reader = .ended

theorem log_step (hstep : Step resp s a s') : s.log <+: s'.log := by
  cases hstep <;> first | exact List.prefix_rfl | exact List.prefix_append _ _

theorem Finished.of_eq (h : Finished s) (hstep : Step resp s a s') (hreader : s'.reader = s.reader)
    (hmain : s'.main = .ended → s.main = .ended) : Finished s' where
  reader hended := by
    obtain ⟨frame, hterminal, hmem⟩ := h.reader (hreader ▸ hended)
    exact ⟨frame, hterminal, (log_step hstep).subset hmem⟩
  main hended := hreader.trans (h.main (hmain hended))

theorem finished_step (h : Finished s) (hstep : Step resp s a s') : Finished s' := by
  cases id hstep with
  | sendOpen => exact ⟨nofun, nofun⟩
  | sendEnd _ hreader =>
    obtain ⟨frame, hterminal, hmem⟩ := h.reader hreader
    exact ⟨fun _ => ⟨frame, hterminal, List.mem_append_left _ hmem⟩, fun _ => hreader⟩
  | readEnds err =>
    exact ⟨fun _ => ⟨_, isTerminal_frame err, List.mem_append_right _ (List.mem_singleton_self _)⟩,
      fun _ => rfl⟩
  | sendResponse => exact h.of_eq hstep rfl nofun
  | wake => exact h.of_eq hstep rfl nofun
  | _ => exact h.of_eq hstep rfl id

theorem Broken.step (h : Broken s.log) (hstep : Step resp s a s') : Broken s'.log := by
  obtain ⟨log, hlog⟩ := log_step hstep
  rw [← hlog]
  rcases h with ⟨code, reason, hmem⟩ | ⟨frame, statusCode, err, hterminal, hsub⟩
  · exact .inl ⟨code, reason, List.mem_append_left _ hmem⟩
  · exact .inr ⟨frame, statusCode, err, hterminal, hsub.trans (List.sublist_append_left _ _)⟩

theorem broken_step (h : Finished s) (ha : ¬Orderly s a) (hstep : Step resp s a s') :
    Broken s'.log := by
  by_cases hclose : a = .close
  · cases hclose
    cases hstep with
    | close => exact .inl ⟨_, _, List.mem_append_right _ (List.mem_singleton_self _)⟩
  · obtain ⟨rfl, hreader⟩ : a = .sendFails ∧ s.reader = .ended := by
      simpa [Orderly, hclose] using ha
    obtain ⟨frame, hterminal, hmem⟩ := h.reader hreader
    cases hstep with
    | sendFails => exact .inr ⟨frame, _, _, hterminal,
        (List.singleton_sublist.2 hmem).append (List.Sublist.refl _)⟩

theorem not_isTerminal_of_isBetween {e : Party × Frame} (h : IsBetween e) : ¬IsTerminal e := by
  obtain ⟨party, frame⟩ := e
  cases party <;> cases frame <;> first | exact h.elim | exact id

/-- Nothing that is terminal stands before the place for it. -/
theorem not_mem_of_isTerminal {between : List (Party × Frame)} {e : Party × Frame}
    (hbetween : ∀ e ∈ between, IsBetween e) (he : IsTerminal e) : e ∉ opening resp ++ between := by
  intro hmem
  rcases List.mem_append.1 hmem with hmem | hmem
  · simp only [opening, List.mem_cons, List.not_mem_nil, or_false] at hmem
    rcases hmem with rfl | rfl
    · exact he
    · exact he
  · exact not_isTerminal_of_isBetween (hbetween e hmem) he

/-- A broken log is none of the protocol, once it is complete. -/
theorem Broken.not_conforms (h : Broken s.log) (hs : Finished s) (hmain : s.main = .ended) :
    ¬s.Conforms resp := by
  rintro ⟨-, between, terminal, hbetween, hterminal, hlength, -, hcomplete⟩
  obtain ⟨hlog, -⟩ := hcomplete hmain
  have hplace {e : Party × Frame} (he : IsTerminal e) (hne : e ≠ (.main, .endMessage))
      (hmem : e ∈ s.log) : e ∈ terminal := by
    rw [hlog, List.mem_append, List.mem_append, List.mem_singleton] at hmem
    exact (hmem.resolve_right hne).resolve_left (not_mem_of_isTerminal hbetween he)
  rcases h with ⟨code, reason, hmem⟩ | ⟨frame, statusCode, err, hframe, hsub⟩
  · -- the frames of the reader and of the writer have one place
    obtain ⟨frame, hframe, hmem'⟩ := hs.reader (hs.main hmain)
    have hreader := hplace hframe (by simp) hmem'
    have hwriter := hplace (e := (.writer, .wsClose code reason)) trivial (by simp) hmem
    cases terminal with
    | nil => exact absurd hreader List.not_mem_nil
    | cons e rest =>
      obtain rfl : rest = [] := List.length_eq_zero_iff.1 (by simpa using hlength)
      cases (List.mem_singleton.1 hreader).trans (List.mem_singleton.1 hwriter).symm
  · rw [hlog, List.append_assoc] at hsub
    obtain ⟨l₁, l₂, heq, hsub₁, hsub₂⟩ := List.sublist_append_iff.1 hsub
    have hnil : l₁ = [] := by
      cases l₁ with
      | nil => rfl
      | cons e l₁ =>
        obtain ⟨rfl, -⟩ := List.cons.inj heq
        exact absurd (hsub₁.subset List.mem_cons_self) (not_mem_of_isTerminal hbetween hframe)
    rw [hnil, List.nil_append] at heq
    rw [← heq] at hsub₂
    -- so the failed send stands where the end does
    have hlast : terminal.length = 1 := by
      have hle := hsub₂.length_le
      simp only [List.length_cons, List.length_nil, List.length_append] at hle
      omega
    obtain ⟨e, rfl⟩ := List.length_eq_one_iff.1 hlast
    cases hsub₂.eq_of_length rfl

/-- Without a command to close and a send that fails after the reader ended, the frames are those
    of the protocol at any time. Those of a complete run are so only then. -/
theorem conforms_of_orderly (h : Path (Step resp) .connected es s) :
    ((∀ e ∈ es, Orderly e.1 e.2) → s.Conforms resp) ∧
      (s.main = .ended → (s.Conforms resp ↔ ∀ e ∈ es, Orderly e.1 e.2)) := by
  have hinv : Inv resp .connected := ⟨rfl, rfl, rfl, rfl⟩
  have hfinished : Finished .connected := ⟨nofun, nofun⟩
  have horderly (hguard : ∀ e ∈ es, Orderly e.1 e.2) : s.Conforms resp :=
    (h.inv (Inv resp) Orderly (fun _ _ _ hs ha hstep => inv_step hs ha hstep) hguard hinv).conforms
  refine ⟨horderly, fun hmain => ⟨fun hconforms => ?_, horderly⟩⟩
  have hrun : Finished s ∧ ((∀ e ∈ es, Orderly e.1 e.2) ∨ Broken s.log) := by
    clear hmain hconforms horderly
    induction h with
    | nil => exact ⟨hfinished, .inl fun _ hmem => absurd hmem List.not_mem_nil⟩
    | @snoc es t t' a _ hstep ih =>
      obtain ⟨ht, horderly | hbroken⟩ := ih
      · refine ⟨finished_step ht hstep, ?_⟩
        by_cases ha : Orderly t a
        · exact .inl ((forall_mem_snoc Orderly).2 ⟨horderly, ha⟩)
        · exact .inr (broken_step ht ha hstep)
      · exact ⟨finished_step ht hstep, .inr (hbroken.step hstep)⟩
  exact hrun.2.resolve_right fun hbroken => hbroken.not_conforms hrun.1 hmain hconforms

/-- A response without headers. -/
def Upgrade.plain : Upgrade := ⟨"ws://localhost", 101, .empty⟩

/-- A message, after which the server closes the connection. -/
theorem conforms_of_orderly_run : ∃ s : State, s.main = .ended ∧
    s.received = [⟨1, [0x68, 0x69]⟩] ∧ s.Conforms .plain := by
  have hnil : Path (Step .plain) .connected [] .connected := .nil
  have hpath := ((((((hnil.snoc (.sendResponse _ rfl)).snoc (.sendOpen _ rfl)).snoc
    (.message _ ⟨1, [0x68, 0x69]⟩ rfl)).snoc (.readEnds _ ⟨some 1000, "close 1000"⟩ rfl)).snoc
    (.wake _ rfl (.inl rfl))).snoc (.writerStops _ rfl (.inl rfl))).snoc (.sendEnd _ rfl rfl rfl)
  exact ⟨_, rfl, rfl, (conforms_of_orderly hpath).1 (by simp [Orderly])⟩

/-- The client closes the connection, and the server answers: both are reported. -/
theorem not_forall_conforms : ¬∀ (resp : Upgrade) (es : List (State × Action)) (s : State),
    Path (Step resp) .connected es s → s.Conforms resp := by
  intro h
  have hnil : Path (Step .plain) .connected [] .connected := .nil
  have hpath := ((((((hnil.snoc (.sendResponse _ rfl)).snoc (.sendOpen _ rfl)).snoc
    (.command _ (.close 1000 "bye") (by decide))).snoc
    (.close _ 1000 "bye" [] rfl rfl)).snoc (.wake _ rfl (.inr (.inl rfl)))).snoc
    (.readEnds _ ⟨some 1000, "close 1000"⟩ rfl)).snoc (.sendEnd _ rfl rfl rfl)
  refine Broken.not_conforms (.inl ⟨1000, "bye", ?_⟩) ⟨fun _ => ?_, fun _ => rfl⟩ rfl
    (h _ _ _ hpath)
  · simp [State.write, closeCodeOf]
  · exact ⟨_, isTerminal_frame ⟨some 1000, "close 1000"⟩, by simp [State.write]⟩

end WSDispatch

end CycleTLS
