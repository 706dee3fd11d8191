import CycleTLS.FFI
import CycleTLS.Lib.Iteration

/-!
# Messages of a WebSocket (`ffi.go`, `websocket.py`)

`wsReceive` gives Python a message, or the error of a read that failed; it gives nothing
only for a handle it does not know. But `receive` looks for no error: of the map that has
nothing else, it makes an empty text message. So a loop over a connection gets all its
messages, and then goes on (`results_stream`), and never ends (`not_delivers`).
-/

namespace CycleTLS

open MsgPack Utf8

/-! ## Go -/

/-- What `ReadMessage` returns: the type and the data of a message, or an error. -/
inductive WSRead
  | message (msgType : Int) (msgData : Bytes)
  | failed (err : Bytes)
  | panicked

/-- What Go hands to Python. -/
inductive WSResponse
  | null
  | payload (m : Message)
  | panicked

/-- `wsConnections`: what the next reads of each connection return. -/
abbrev WSConnections := Nat → Option (Nat → WSRead)

/-- The payload for what is read. -/
def WSRead.response : WSRead → WSResponse
  | message msgType msgData =>
    .payload (.map [packEntry "type" (.int msgType),
      packEntry "data" (.str (if msgType = 2 then Base64.encode msgData else msgData))])
  | failed err => .payload (.map [packEntry "error" (.str err)])
  | panicked => .panicked

/-- `wsReceive`. -/
def wsReceive (handlePtr : Nat) (conns : WSConnections) : WSResponse × WSConnections :=
  if handlePtr = 0 then (.null, conns)
  else
    match conns handlePtr with
    | none => (.null, conns)
    | some reads => ((reads 0).response,
        Function.update conns handlePtr (some fun k => reads (k + 1)))

/-! ## Python -/

/-- `MessageType`. -/
inductive MessageType
  | text
  | binary
  | close
  | ping
  | pong
  deriving DecidableEq

/-- `MessageType(n)`. -/
def MessageType.ofInt : Int → Option MessageType
  | 1 => some text
  | 2 => some binary
  | 8 => some close
  | 9 => some ping
  | 10 => some pong
  | _ => none

/-- A `WebSocketMessage`, with its data as they were unpacked. -/
structure WebSocketMessage where
  type : MessageType
  data : Message

/-- What `receive` does: it returns a message, or raises an exception, unless the whole
    process panics. -/
inductive WSReceived
  | message (m : WebSocketMessage)
  | webSocketError
  | otherError
  | panicked

/-- `result.get("type", MessageType.TEXT)`, as a `MessageType`. -/
def readMessageType (result : Message) : Option MessageType :=
  match getKey result "type" with
  | none => some .text
  | some (.int n) => MessageType.ofInt n
  | some _ => none

/-- What `receive` makes of a map. -/
def WebSocketMessage.ofMessage (result : Message) : WSReceived :=
  match readMessageType result with
  | none => .otherError
  | some msgType =>
    match msgType, (getKey result "data").getD (packText "") with
    | .binary, .str s =>
      match Base64.decode s with
      | some data => .message ⟨.binary, .bin data⟩
      | none => .otherError
    | msgType, data => .message ⟨msgType, data⟩

/-- What `receive` makes of a payload. -/
def receivedOf (m : Message) : WSReceived :=
  match (FFIMode.base64.toPython m.toBytes).bind unpackb with
  | some result => WebSocketMessage.ofMessage result
  | none => .otherError

/-- What `receive` makes of what `wsReceive` returns. -/
def WSResponse.received : WSResponse → WSReceived
  | null => .webSocketError
  | payload m => receivedOf m
  | panicked => .panicked

/-- What is received for a read. -/
def WSRead.received (read : WSRead) : WSReceived := read.response.received

/-- A `WebSocketConnection`, and the connections of Go. -/
structure WebSocketConnection where
  connected : Bool
  handle : Option Nat
  conns : WSConnections

namespace WebSocketConnection

/-- `connect`, where `wsConnect` returns a handle, for which `reads` are the reads to come. -/
def connect (handle : Nat) (reads : Nat → WSRead) : Option WebSocketConnection :=
  if handle = 0 then none
  else some ⟨true, some handle, Function.update (fun _ => none) handle (some reads)⟩

variable (ws : WebSocketConnection)

/-- `receive`. -/
def receive : WSReceived × WebSocketConnection :=
  match ws.connected, ws.handle with
  | true, some handle =>
    let (response, conns) := wsReceive handle ws.conns
    (response.received, { ws with conns := conns })
  | _, _ => (.webSocketError, ws)

/-- `receive_async`, in a thread. -/
def receiveAsync : WSReceived × WebSocketConnection := ws.receive

end WebSocketConnection

/-- What a loop gets from `__next__`. -/
inductive NextMessage
  | item (m : WebSocketMessage)
  | stopIteration
  | raised
  | panicked

namespace NextMessage

def isItem : NextMessage → Bool
  | item _ => true
  | _ => false

def ofReceived : WSReceived → NextMessage
  | .message m => item m
  | .webSocketError => stopIteration
  | .otherError => raised
  | .panicked => panicked

end NextMessage

/-- `__iter__` and `__aiter__`, for what they receive with. -/
def WebSocketConnection.next (receive : WebSocketConnection → WSReceived × WebSocketConnection)
    (ws : WebSocketConnection) : NextMessage × WebSocketConnection :=
  if ws.connected then (.ofReceived (receive ws).1, (receive ws).2) else (.stopIteration, ws)

/-- The answers to a loop, followed for `n` of them. -/
def WebSocketConnection.iter (n : Nat) (ws : WebSocketConnection) : List NextMessage :=
  Iteration.results (WebSocketConnection.next receive) NextMessage.isItem n ws

/-- The same for an asynchronous loop. -/
def WebSocketConnection.aiter (n : Nat) (ws : WebSocketConnection) : List NextMessage :=
  Iteration.results (WebSocketConnection.next receiveAsync) NextMessage.isItem n ws

/-! ## Streams -/

/-- A message that is sent. -/
inductive Frame
  | text (s : String)
  | binary (b : Bytes)

namespace Frame

/-- What `ReadMessage` returns for it. -/
def read : Frame → WSRead
  | text s => .message 1 (utf8 s)
  | binary b => .message 2 b

/-- What should be received for it. -/
def message : Frame → WebSocketMessage
  | text s => ⟨.text, packText s⟩
  | binary b => ⟨.binary, .bin b⟩

/-- It can be packed. -/
def Short : Frame → Prop
  | text s => (utf8 s).length < 2 ^ 32
  | binary b => (Base64.encode b).length < 2 ^ 32

end Frame

/-- The reads of a connection that has messages and fails after them, or is closed; from then on
    they may be any. -/
def streamReads (err : Bytes) (later : Nat → WSRead) : List Frame → Nat → WSRead
  | [], 0 => .failed err
  | [], k + 1 => later k
  | f :: _, 0 => f.read
  | _ :: frames, k + 1 => streamReads err later frames k

/-- A loop over a connection gets the messages, and ends. -/
def WebSocketConnection.Delivers (ws : WebSocketConnection) (frames : List Frame) : Prop :=
  (∃ n, ws.iter n = frames.map (.item ·.message) ++ [.stopIteration]) ∧
    ∃ n, ws.aiter n = frames.map (.item ·.message) ++ [.stopIteration]

/-! ## What is received -/

/-- What comes through as it is. -/
theorem bind_toPython {m : Message} (h : m.Fits (fun s => (decode s).isSome) 1024) :
    (FFIMode.base64.toPython m.toBytes).bind unpackb = some m := by
  rw [toPython_base64, Option.bind_some, unpackb]
  exact Message.ofBytes_toBytes_iff.2 h

namespace WebSocketConnection

/-- Python has the handle of a connection. -/
def Open (ws : WebSocketConnection) : Prop :=
  ws.connected = true ∧ ∃ handle reads, ws.handle = some handle ∧ handle ≠ 0 ∧
    ws.conns handle = some reads

variable {ws : WebSocketConnection}

theorem open_of_connect {handle : Nat} {reads : Nat → WSRead}
    (h : connect handle reads = some ws) : ws.Open := by
  rw [connect] at h
  split_ifs at h with hzero
  cases h
  exact ⟨rfl, handle, reads, rfl, hzero, by simp only [Function.update_self]⟩

/-- What is received is what is read. -/
theorem receive_of_open {handle : Nat} {reads : Nat → WSRead} (hconnected : ws.connected = true)
    (hhandle : ws.handle = some handle) (hzero : handle ≠ 0)
    (hreads : ws.conns handle = some reads) :
    ws.receive = ((reads 0).received,
      { ws with conns := Function.update ws.conns handle (some fun k => reads (k + 1)) }) := by
  rw [receive, hconnected, hhandle]
  simp only [wsReceive, if_neg hzero, hreads]
  cases reads 0 <;> rfl

/-- No error is taken for one. -/
theorem received_ne (read : WSRead) : read.received ≠ .webSocketError := by
  have hofMessage (result : Message) :
      WebSocketMessage.ofMessage result ≠ .webSocketError := by
    rw [WebSocketMessage.ofMessage]
    split
    · exact nofun
    · split
      · split <;> exact nofun
      · exact nofun
  have hpayload (m : Message) : receivedOf m ≠ .webSocketError := by
    rw [receivedOf]
    split
    · exact hofMessage _
    · exact nofun
  cases read with
  | message msgType msgData => exact hpayload _
  | failed err => exact hpayload _
  | panicked => exact nofun

/-- A loop does not end. -/
theorem stopIteration_notMem (h : ws.Open) (n : Nat) : .stopIteration ∉ ws.iter n := by
  have hnext (ws : WebSocketConnection) (h : ws.Open) :
      (ws.next receive).1 ≠ .stopIteration ∧
        (((ws.next receive).1).isItem → (ws.next receive).2.Open) := by
    obtain ⟨hconnected, handle, reads, hhandle, hzero, hreads⟩ := h
    rw [next, if_pos hconnected, receive_of_open hconnected hhandle hzero hreads]
    constructor
    · have hne := received_ne (reads 0)
      cases hreceived : (reads 0).received with
      | webSocketError => exact absurd hreceived hne
      | _ => exact nofun
    · intro _
      refine ⟨hconnected, handle, fun k => reads (k + 1), hhandle, hzero, ?_⟩
      simp only [Function.update_self]
  intro hmem
  exact Iteration.forall_mem_results (P := (· ≠ .stopIteration)) hnext h _ hmem rfl

/-- A loop over a connection never gets its messages and ends. -/
theorem not_delivers {handle : Nat} {frames : List Frame} {err : Bytes} {later : Nat → WSRead}
    (h : connect handle (streamReads err later frames) = some ws) : ¬ws.Delivers frames := by
  rintro ⟨⟨n, hn⟩, -⟩
  refine stopIteration_notMem (open_of_connect h) n ?_
  rw [hn]
  exact List.mem_append_right _ (List.mem_singleton_self _)

theorem not_delivers_closed : ∃ ws,
    connect 1 (streamReads (utf8 "websocket: close 1000 (normal)") (fun _ => .panicked) []) =
      some ws ∧ ¬ws.Delivers [] := by
  obtain ⟨ws, hws⟩ : ∃ ws, connect 1 (streamReads (utf8 "websocket: close 1000 (normal)")
      (fun _ => .panicked) []) = some ws := ⟨_, rfl⟩
  exact ⟨ws, hws, not_delivers hws⟩

/-- A connection that is closed before a message. -/
theorem not_forall_delivers : ¬∀ (handle : Nat) (frames : List Frame) (err : Bytes)
    (later : Nat → WSRead) (ws : WebSocketConnection),
    connect handle (streamReads err later frames) = some ws → ws.Delivers frames := by
  intro h
  obtain ⟨ws, hws⟩ : ∃ ws, connect 1 (streamReads (utf8 "websocket: close 1000 (normal)")
      (fun _ => .panicked) []) = some ws := ⟨_, rfl⟩
  obtain ⟨⟨n, hn⟩, -⟩ := h 1 [] _ _ ws hws
  exact stopIteration_notMem (open_of_connect hws) n (hn ▸ List.mem_singleton_self _)

/-! ## What a loop gets -/

/-- A text that is short enough comes through. -/
theorem fits_message {msgType : Int} {data : Bytes} (hType : msgType = 1 ∨ msgType = 2)
    (hdata : data.length < 2 ^ 32) (htext : (decode data).isSome = true) :
    (Message.map [packEntry "type" (.int msgType), packEntry "data" (.str data)]).Fits
      (fun s => (decode s).isSome) 1024 := by
  have hkeys : (utf8 "type").length < 2 ^ 32 ∧ (utf8 "data").length < 2 ^ 32 := by decide
  have hint : -2 ^ 63 ≤ msgType ∧ msgType < 2 ^ 64 := by omega
  simp only [packEntry, Message.fits_map_iff, List.forall_mem_cons, Message.fits_int_iff,
    Message.fits_str_iff, isSome_decode_utf8, htext]
  simpa using ⟨hkeys, hint, hdata⟩

/-- What is read of a message is the message. -/
theorem received_read {f : Frame} (h : f.Short) : f.read.received = .message f.message := by
  cases f with
  | text s =>
    change receivedOf (.map [packEntry "type" (.int 1), packEntry "data" (.str (utf8 s))]) = _
    rw [receivedOf, bind_toPython (fits_message (.inl rfl) h (isSome_decode_utf8 s))]
    rfl
  | binary b =>
    have htext := isSome_decode_of_isAscii (Base64.toNat_lt_of_mem_encode b)
    change receivedOf (.map [packEntry "type" (.int 2),
      packEntry "data" (.str (Base64.encode b))]) = _
    rw [receivedOf, bind_toPython (fits_message (.inr rfl) h htext)]
    have hType : readMessageType (.map [packEntry "type" (.int 2),
      packEntry "data" (.str (Base64.encode b))]) = some .binary := rfl
    have hdata : getKey (.map [packEntry "type" (.int 2), packEntry "data"
      (.str (Base64.encode b))]) "data" = some (.str (Base64.encode b)) := rfl
    simp only [WebSocketMessage.ofMessage, hType, hdata, Option.getD_some, Base64.decode_encode]
    rfl

/-- An error that comes through is an empty text message. -/
theorem received_failed {err : Bytes} (herr : err.length < 2 ^ 32)
    (htext : (decode err).isSome = true) :
    (WSRead.failed err).received = .message ⟨.text, packText ""⟩ := by
  have hfits : (Message.map [packEntry "error" (.str err)]).Fits
      (fun s => (decode s).isSome) 1024 := by
    have hkey : (utf8 "error").length < 2 ^ 32 := by decide
    simp only [packEntry, Message.fits_map_iff, List.forall_mem_cons, Message.fits_str_iff,
      isSome_decode_utf8, htext]
    simpa using ⟨hkey, herr⟩
  change receivedOf (.map [packEntry "error" (.str err)]) = _
  rw [receivedOf, bind_toPython hfits]
  rfl

/-- A loop gets all messages in order, and then one that nobody has sent. -/
theorem iter_streamReads {handle : Nat} {frames : List { f : Frame // f.Short }} {err : Bytes}
    {later : Nat → WSRead} (herr : err.length < 2 ^ 32) (htext : (decode err).isSome = true)
    (h : connect handle (streamReads err later (frames.map Subtype.val)) = some ws) :
    ws.iter (frames.length + 1) =
      frames.map (fun f => .item f.1.message) ++ [.item ⟨.text, packText ""⟩] := by
  rw [connect] at h
  split_ifs at h with hzero
  obtain rfl := Option.some.inj h
  let source (frames : List { f : Frame // f.Short }) : WebSocketConnection :=
    ⟨true, some handle, Function.update (fun _ => none) handle
      (some (streamReads err later (frames.map Subtype.val)))⟩
  have hconns (frames : List { f : Frame // f.Short }) : (source frames).conns handle =
      some (streamReads err later (frames.map Subtype.val)) := by
    simp only [source, Function.update_self]
  have hreceive (frames : List { f : Frame // f.Short }) :=
    @receive_of_open (source frames) _ _ rfl rfl hzero (hconns frames)
  have hnext (f : { f : Frame // f.Short }) (frames : List { f : Frame // f.Short }) :
      (source (f :: frames)).next receive = (.item f.1.message, source frames) := by
    rw [next, if_pos rfl, hreceive]
    refine Prod.ext ?_ ?_
    · exact congrArg NextMessage.ofReceived (received_read f.2)
    · exact congrArg (WebSocketConnection.mk true (some handle)) (Function.update_idem ..)
  have hlast : ((source []).next receive).1 = .item ⟨.text, packText ""⟩ := by
    rw [next, if_pos rfl, hreceive]
    exact congrArg NextMessage.ofReceived (received_failed herr htext)
  have hresults : Iteration.results (next receive) NextMessage.isItem _ (source frames) = _ :=
    Iteration.results_of_items (fun _ => rfl) hnext frames 1
  rw [iter]
  refine hresults.trans (congrArg _ ?_)
  rw [Iteration.results, hlast]
  rfl

end WebSocketConnection

end CycleTLS
