import CycleTLS.Errors
import CycleTLS.Lib.Format
import CycleTLS.WebSocketDispatch

/-!
# The bytes of a frame (`index.go`)

A frame has the id of its request, its kind, and what belongs to the kind: texts after their
lengths, and lists after theirs, in two or in four bytes. The lengths are not bounded where they
are written, so only the last bytes of a longer one are (`uint16`, `uint32`). Where they fit,
and only there, a frame is read back as it was meant (`frameReadsBack_iff`).
-/

namespace CycleTLS

open MsgPack Utf8

/-! ## The source -/

/-- The conversion to `byte`. -/
def byte (n : Int) : UInt8 := UInt8.ofInt n

/-- The two calls of `WriteByte` for a number of 16 bits. -/
def uint16 (n : Int) : Bytes := byte (n >>> (8 : Nat)) :: [byte n]

/-- The four calls of `WriteByte` for a number of 32 bits. -/
def uint32 (n : Int) : Bytes :=
  byte (n >>> (24 : Nat)) :: byte (n >>> (16 : Nat)) :: byte (n >>> (8 : Nat)) :: [byte n]

/-- A text after its length in two bytes. -/
def text16 (b : Bytes) : Bytes := uint16 b.length ++ b

/-- A text after its length in four bytes. -/
def text32 (b : Bytes) : Bytes := uint32 b.length ++ b

/-- The headers, in the order of an iteration over the map. -/
abbrev HeaderEntries := List (Bytes × List Bytes)

/-- The loop over the headers, after their number. -/
def writeHeaders (header : HeaderEntries) : Bytes :=
  uint16 header.length ++ header.flatMap fun h =>
    text16 h.1 ++ (uint16 h.2.length ++ h.2.flatMap text16)

/-- The kinds of frames. -/
inductive FrameKind
  | error
  | response
  | data
  | wsError
  | wsOpen
  | wsMessage
  | wsClose
  | endMessage

namespace FrameKind

/-- The name of a kind. -/
def name : FrameKind → String
  | error => "error"
  | response => "response"
  | data => "data"
  | wsError => "ws_error"
  | wsOpen => "ws_open"
  | wsMessage => "ws_message"
  | wsClose => "ws_close"
  | endMessage => "end"

/-- The byte that is written for the length of the name. -/
def size : FrameKind → UInt8
  | error => 5
  | response => 8
  | data => 4
  | wsError => 8
  | wsOpen => 7
  | wsMessage => 10
  | wsClose => 8
  | endMessage => 3

/-- The kind with a name. -/
def ofName (b : Bytes) : Option FrameKind :=
  [error, response, data, wsError, wsOpen, wsMessage, wsClose, endMessage].find? fun k =>
    utf8 k.name == b

theorem ofName_name (k : FrameKind) : ofName (utf8 k.name) = some k := by
  cases k <;> rfl

/-- The byte is right. -/
theorem length_name (k : FrameKind) : (utf8 k.name).length = k.size.toNat := by
  cases k <;> rfl

theorem length_name_lt (k : FrameKind) : (utf8 k.name).length < 256 ^ 2 := by
  rw [length_name]
  exact k.size.toNat_lt.trans (by decide)

end FrameKind

/-- A frame of a request. -/
inductive ChannelFrame
  | error (statusCode : Int) (message : Bytes)
  | response (statusCode : Int) (finalUrl : Bytes) (header : HeaderEntries)
  | data (chunk : Bytes)
  | wsError (statusCode : Int) (message : Bytes)
  | wsOpen (msgBytes : Bytes)
  | wsMessage (messageType : Int) (message : Bytes)
  | wsClose (msgBytes : Bytes)
  | endMessage
  deriving DecidableEq

namespace ChannelFrame

/-- The kind of a frame. -/
def kind : ChannelFrame → FrameKind
  | error .. => .error
  | response .. => .response
  | data _ => .data
  | wsError .. => .wsError
  | wsOpen _ => .wsOpen
  | wsMessage .. => .wsMessage
  | wsClose _ => .wsClose
  | endMessage => .endMessage

/-- What is written after the kind. -/
def payload : ChannelFrame → Bytes
  | error statusCode message | wsError statusCode message => uint16 statusCode ++ text16 message
  | response statusCode finalUrl header =>
    uint16 statusCode ++ (text16 finalUrl ++ writeHeaders header)
  | data b | wsOpen b | wsClose b => text32 b
  | wsMessage messageType message => byte messageType :: text32 message
  | endMessage => []

/-- The bytes of a frame. -/
def write (requestID : Bytes) (f : ChannelFrame) : Bytes :=
  text16 requestID ++ (0 :: f.kind.size :: utf8 f.kind.name ++ f.payload)

/-- The prefixes that are written, each with the length it stands for. -/
def prefixes (requestID : Bytes) (f : ChannelFrame) : List (Bytes × Nat) :=
  (uint16 requestID.length, requestID.length) ::
    ([0, f.kind.size], (utf8 f.kind.name).length) ::
      match f with
      | error _ b | wsError _ b => [(uint16 b.length, b.length)]
      | response _ finalUrl header =>
        (uint16 finalUrl.length, finalUrl.length) :: (uint16 header.length, header.length) ::
          header.flatMap fun h =>
            (uint16 h.1.length, h.1.length) :: (uint16 h.2.length, h.2.length) ::
              h.2.map fun value => (uint16 value.length, value.length)
      | data b | wsOpen b | wsMessage _ b | wsClose b => [(uint32 b.length, b.length)]
      | endMessage => []

end ChannelFrame

/-- `json.Marshal`, for the events that are reported as an object. -/
structure EventMarshal where
  openMsg (protocol extensions : String) : Bytes
  closeMsg (code : Int) (reason : String) : Bytes

/-- The frame of an event of a WebSocket, as `sendWebSocketResponse`, `sendWebSocketOpen`,
    `sendWebSocketMessage`, `sendWebSocketError`, `sendWebSocketClose` and `sendWebSocketEnd`
    write it. -/
def WSDispatch.Frame.channelFrame (m : EventMarshal) : WSDispatch.Frame → ChannelFrame
  | .response resp => .response resp.statusCode (utf8 resp.url)
      (resp.header.entries.map fun h => (utf8 h.1, h.2.map utf8))
  | .wsOpen protocol extensions => .wsOpen (m.openMsg protocol extensions)
  | .wsMessage msg => .wsMessage msg.messageType msg.message
  | .wsError statusCode message => .wsError statusCode (utf8 message)
  | .wsClose code reason => .wsClose (m.closeMsg code reason)
  | .endMessage => .endMessage

namespace ChannelFrame

/-! ## The decoder -/

/-- A status code or a type, and a text. -/
def messageFormat (k l : Nat) : Format (Int × Bytes) := (Format.number k).pair (.text l)

/-- The headers. -/
def headersFormat : Format HeaderEntries := .list 2 ((Format.text 2).pair (.list 2 (.text 2)))

/-- A response. -/
def responseFormat : Format (Int × Bytes × HeaderEntries) :=
  (Format.number 2).pair ((Format.text 2).pair headersFormat)

/-! The frames of a kind are made of their fields. -/

def errorCase : Format.Case (Int × Bytes) ChannelFrame where
  make p := error p.1 p.2
  get
    | error statusCode message => some (statusCode, message)
    | _ => none
  get_eq_some_iff := by
    rintro ⟨statusCode, message⟩ f
    cases f <;> simp

def responseCase : Format.Case (Int × Bytes × HeaderEntries) ChannelFrame where
  make p := response p.1 p.2.1 p.2.2
  get
    | response statusCode finalUrl header => some (statusCode, finalUrl, header)
    | _ => none
  get_eq_some_iff := by
    rintro ⟨statusCode, finalUrl, header⟩ f
    cases f <;> simp

def dataCase : Format.Case Bytes ChannelFrame where
  make := data
  get
    | data chunk => some chunk
    | _ => none
  get_eq_some_iff := by
    intro chunk f
    cases f <;> simp

def wsErrorCase : Format.Case (Int × Bytes) ChannelFrame where
  make p := wsError p.1 p.2
  get
    | wsError statusCode message => some (statusCode, message)
    | _ => none
  get_eq_some_iff := by
    rintro ⟨statusCode, message⟩ f
    cases f <;> simp

def wsOpenCase : Format.Case Bytes ChannelFrame where
  make := wsOpen
  get
    | wsOpen msgBytes => some msgBytes
    | _ => none
  get_eq_some_iff := by
    intro msgBytes f
    cases f <;> simp

def wsMessageCase : Format.Case (Int × Bytes) ChannelFrame where
  make p := wsMessage p.1 p.2
  get
    | wsMessage messageType message => some (messageType, message)
    | _ => none
  get_eq_some_iff := by
    rintro ⟨messageType, message⟩ f
    cases f <;> simp

def wsCloseCase : Format.Case Bytes ChannelFrame where
  make := wsClose
  get
    | wsClose msgBytes => some msgBytes
    | _ => none
  get_eq_some_iff := by
    intro msgBytes f
    cases f <;> simp

def endCase : Format.Case Unit ChannelFrame where
  make _ := endMessage
  get
    | endMessage => some ()
    | _ => none
  get_eq_some_iff := by
    rintro ⟨⟩ f
    cases f <;> simp

/-- How what follows a kind is read and written. -/
def formatOf : FrameKind → Format ChannelFrame
  | .error => (messageFormat 2 2).embed errorCase
  | .response => responseFormat.embed responseCase
  | .data => (Format.text 4).embed dataCase
  | .wsError => (messageFormat 2 2).embed wsErrorCase
  | .wsOpen => (Format.text 4).embed wsOpenCase
  | .wsMessage => (messageFormat 1 4).embed wsMessageCase
  | .wsClose => (Format.text 4).embed wsCloseCase
  | .endMessage => Format.nothing.embed endCase

/-- How what follows the name of a kind is read and written. -/
def layout (name : Bytes) : Format ChannelFrame := (FrameKind.ofName name).elim .never formatOf

/-- A frame after the id of its request. -/
def format : Format (Bytes × ChannelFrame) :=
  (Format.text 2).pair (.tagged 2 (fun f => utf8 f.kind.name) layout fun f => f.kind.length_name_lt)

/-- The decoder: it reads one field after the other, and has to read all. -/
def decode (b : Bytes) : Option (Bytes × ChannelFrame) := format.ofBytes b

/-! ## What the writer writes is of the format -/

theorem uint16_eq (n : Int) : uint16 n = signedBytes 2 n := by
  rw [Format.signedBytes_succ, Format.signedBytes_succ, uint16, Int.shiftRight_eq_div_pow]
  rfl

theorem uint32_eq (n : Int) : uint32 n = signedBytes 4 n := by
  have hshift (k : Nat) : n >>> (k + 8) = n >>> k / 256 := by
    rw [Int.shiftRight_add, Int.shiftRight_eq_div_pow _ 8]
    rfl
  rw [Format.signedBytes_succ, Format.signedBytes_succ, Format.signedBytes_succ,
    Format.signedBytes_succ, uint32, hshift 16, hshift 8, hshift 0, Int.shiftRight_zero]
  rfl

theorem uint16_natCast (n : Nat) : uint16 n = bytes 2 n := by
  rw [uint16_eq, Format.signedBytes_natCast]

theorem uint32_natCast (n : Nat) : uint32 n = bytes 4 n := by
  rw [uint32_eq, Format.signedBytes_natCast]

theorem text16_eq (b : Bytes) : text16 b = (Format.text 2).write b := by
  rw [text16, uint16_natCast]
  rfl

theorem text32_eq (b : Bytes) : text32 b = (Format.text 4).write b := by
  rw [text32, uint32_natCast]
  rfl

theorem writeHeaders_eq (header : HeaderEntries) :
    writeHeaders header = headersFormat.write header := by
  have htext : text16 = (Format.text 2).write := funext text16_eq
  rw [writeHeaders, uint16_natCast, htext]
  simp only [uint16_natCast]
  rfl

theorem layout_name (k : FrameKind) : layout (utf8 k.name) = formatOf k := by
  rw [layout, FrameKind.ofName_name]
  rfl

theorem payload_eq (f : ChannelFrame) : f.payload = (formatOf f.kind).write f := by
  cases f with
  | error statusCode message =>
    rw [payload, uint16_eq, text16_eq]
    rfl
  | response statusCode finalUrl header =>
    rw [payload, uint16_eq, text16_eq, writeHeaders_eq]
    rfl
  | data chunk =>
    rw [payload, text32_eq]
    rfl
  | wsError statusCode message =>
    rw [payload, uint16_eq, text16_eq]
    rfl
  | wsOpen msgBytes =>
    rw [payload, text32_eq]
    rfl
  | wsMessage messageType message =>
    have hbyte : [byte messageType] = signedBytes 1 messageType := by
      rw [Format.signedBytes_succ]
      rfl
    rw [payload, text32_eq, ← List.singleton_append, hbyte]
    rfl
  | wsClose msgBytes =>
    rw [payload, text32_eq]
    rfl
  | endMessage => rfl

theorem kind_eq (k : FrameKind) :
    0 :: k.size :: utf8 k.name = (Format.text 2).write (utf8 k.name) := by
  cases k <;> rfl

theorem write_eq (requestID : Bytes) (f : ChannelFrame) :
    f.write requestID = format.write (requestID, f) := by
  rw [write, kind_eq, text16_eq, payload_eq, ← layout_name]
  rfl

/-! ## What is read back -/

/-- A number that fits in two bytes. -/
def Code (n : Int) : Prop := 0 ≤ n ∧ n < 2 ^ 16

/-- A length that fits in two bytes. -/
def Short {α : Type} (l : List α) : Prop := l.length < 2 ^ 16

/-- A length that fits in four bytes. -/
def Medium (b : Bytes) : Prop := b.length < 2 ^ 32

/-- The fields of a frame fit in the bytes for them. -/
def Fits : ChannelFrame → Prop
  | error statusCode message | wsError statusCode message => Code statusCode ∧ Short message
  | response statusCode finalUrl header =>
    Code statusCode ∧ Short finalUrl ∧ Short header ∧
      ∀ h ∈ header, Short h.1 ∧ Short h.2 ∧ ∀ value ∈ h.2, Short value
  | data b | wsOpen b | wsClose b => Medium b
  | wsMessage messageType message => (0 ≤ messageType ∧ messageType < 2 ^ 8) ∧ Medium message
  | endMessage => True

/-- Every prefix of a frame is the length it stands for, and what is decoded is the frame. -/
structure ReadsBack (requestID : Bytes) (f : ChannelFrame) : Prop where
  prefixes : ∀ p ∈ f.prefixes requestID, number p.1 = p.2
  decode_write : decode (f.write requestID) = some (requestID, f)

theorem exact_number_iff {n : Int} : (Format.number 2).Exact n ↔ Code n := Format.exact_number_iff

theorem exact_text_iff {b : Bytes} : (Format.text 2).Exact b ↔ Short b := Format.exact_text_iff

theorem exact_message_iff {n : Int} {b : Bytes} :
    (messageFormat 2 2).Exact (n, b) ↔ Code n ∧ Short b :=
  Format.exact_pair_iff.trans (and_congr exact_number_iff exact_text_iff)

theorem exact_medium_iff {b : Bytes} : (Format.text 4).Exact b ↔ Medium b := Format.exact_text_iff

theorem exact_headers_iff {header : HeaderEntries} : headersFormat.Exact header ↔
    Short header ∧ ∀ h ∈ header, Short h.1 ∧ Short h.2 ∧ ∀ value ∈ h.2, Short value := by
  rw [headersFormat, Format.exact_list_iff]
  refine and_congr Iff.rfl (forall₂_congr fun h _ => ?_)
  rw [Format.exact_pair_iff, exact_text_iff, Format.exact_list_iff]
  exact and_congr_right' (and_congr Iff.rfl (forall₂_congr fun value _ => exact_text_iff))

theorem exact_formatOf_iff (f : ChannelFrame) : (formatOf f.kind).Exact f ↔ f.Fits := by
  cases f with
  | error statusCode message =>
    exact (Format.exact_embed_iff (c := errorCase)).trans exact_message_iff
  | response statusCode finalUrl header =>
    refine (Format.exact_embed_iff (c := responseCase)
      (a := (statusCode, finalUrl, header))).trans ?_
    rw [responseFormat, Format.exact_pair_iff, Format.exact_pair_iff, exact_number_iff,
      exact_text_iff, exact_headers_iff, Fits]
  | data chunk => exact (Format.exact_embed_iff (c := dataCase)).trans exact_medium_iff
  | wsError statusCode message =>
    exact (Format.exact_embed_iff (c := wsErrorCase)).trans exact_message_iff
  | wsOpen msgBytes => exact (Format.exact_embed_iff (c := wsOpenCase)).trans exact_medium_iff
  | wsMessage messageType message =>
    refine (Format.exact_embed_iff (c := wsMessageCase) (a := (messageType, message))).trans ?_
    exact Format.exact_pair_iff.trans (and_congr Format.exact_number_iff exact_medium_iff)
  | wsClose msgBytes => exact (Format.exact_embed_iff (c := wsCloseCase)).trans exact_medium_iff
  | endMessage => exact Format.exact_embed_iff (c := endCase) (a := ())

theorem decode_write_iff {requestID : Bytes} {f : ChannelFrame} :
    decode (f.write requestID) = some (requestID, f) ↔ Short requestID ∧ f.Fits := by
  rw [decode, write_eq, Format.ofBytes_write_iff, format, Format.exact_pair_iff,
    Format.exact_text_iff]
  refine and_congr Iff.rfl ?_
  rw [← exact_formatOf_iff, ← layout_name]
  rfl

theorem number_uint16 {α : Type} {l : List α} (h : Short l) :
    number (uint16 l.length) = l.length := by
  rw [uint16_natCast]
  exact Format.number_bytes_eq_iff.2 h

theorem number_uint32 {b : Bytes} (h : Medium b) : number (uint32 b.length) = b.length := by
  rw [uint32_natCast]
  exact Format.number_bytes_eq_iff.2 h

/-- The prefixes of fields that fit are right. -/
theorem prefixes_of_fits {requestID : Bytes} {f : ChannelFrame} (hid : Short requestID)
    (hf : f.Fits) : ∀ p ∈ f.prefixes requestID, number p.1 = p.2 := by
  have hkind : number [0, f.kind.size] = (utf8 f.kind.name).length := by
    cases f.kind <;> rfl
  refine List.forall_mem_cons.2 ⟨number_uint16 hid, List.forall_mem_cons.2 ⟨hkind, ?_⟩⟩
  cases f with
  | error statusCode message => exact List.forall_mem_singleton.2 (number_uint16 hf.2)
  | response statusCode finalUrl header =>
    obtain ⟨-, hurl, hheader, hall⟩ := hf
    refine List.forall_mem_cons.2 ⟨number_uint16 hurl,
      List.forall_mem_cons.2 ⟨number_uint16 hheader, List.forall_mem_flatMap.2 fun h hmem => ?_⟩⟩
    obtain ⟨hname, hvalues, hvalue⟩ := hall h hmem
    refine List.forall_mem_cons.2 ⟨number_uint16 hname,
      List.forall_mem_cons.2 ⟨number_uint16 hvalues, List.forall_mem_map.2 fun value hv => ?_⟩⟩
    exact number_uint16 (hvalue value hv)
  | data chunk => exact List.forall_mem_singleton.2 (number_uint32 hf)
  | wsError statusCode message => exact List.forall_mem_singleton.2 (number_uint16 hf.2)
  | wsOpen msgBytes => exact List.forall_mem_singleton.2 (number_uint32 hf)
  | wsMessage messageType message => exact List.forall_mem_singleton.2 (number_uint32 hf.2)
  | wsClose msgBytes => exact List.forall_mem_singleton.2 (number_uint32 hf)
  | endMessage => exact List.forall_mem_nil _

/-- Two frames of the same bytes are the same, where their fields fit. -/
theorem write_inj {requestID requestID' : Bytes} {f f' : ChannelFrame} (hid : Short requestID)
    (hid' : Short requestID') (hf : f.Fits) (hf' : f'.Fits)
    (h : f.write requestID = f'.write requestID') : requestID = requestID' ∧ f = f' := by
  have hdecode := decode_write_iff.2 ⟨hid, hf⟩
  rw [h, decode_write_iff.2 ⟨hid', hf'⟩] at hdecode
  obtain ⟨rfl, rfl⟩ := Prod.mk.inj (Option.some.inj hdecode)
  exact ⟨rfl, rfl⟩

/-- A frame is read back as it was meant just where its fields fit: the id of the request, the
    URL, the names and the values of headers, their numbers and the texts of errors in two
    bytes, and other texts in four. -/
theorem frameReadsBack_iff (requestID : Bytes) (f : ChannelFrame) :
    ReadsBack requestID f ↔ Short requestID ∧ f.Fits :=
  ⟨fun h => decode_write_iff.1 h.decode_write,
    fun h => ⟨prefixes_of_fits h.1 h.2, decode_write_iff.2 h⟩⟩

/-- What is decoded of the frames of a WebSocket is what was reported, if it fits. -/
theorem decode_log {m : EventMarshal} {requestID : Bytes} {s : WSDispatch.State}
    (hid : Short requestID) (hfits : ∀ e ∈ s.log, (e.2.channelFrame m).Fits) :
    s.log.map (fun e => decode ((e.2.channelFrame m).write requestID)) =
      s.log.map fun e => some (requestID, e.2.channelFrame m) :=
  List.map_congr_left fun e he => decode_write_iff.2 ⟨hid, hfits e he⟩

/-- A URL of 65536 bytes. -/
def longUrl : Bytes := utf8 "https://h/" ++ List.replicate 65526 0x61

/-- A URL of 65536 bytes gets the length 0. -/
theorem not_forall_frameReadsBack : ¬∀ requestID f, ReadsBack requestID f := by
  intro h
  have hurl : Short longUrl :=
    (decode_write_iff.1 (h (utf8 "1") (response 200 longUrl [])).decode_write).2.2.1
  have hlen : (utf8 "https://h/").length = 10 := by decide
  rw [Short, longUrl, List.length_append, List.length_replicate, hlen] at hurl
  exact absurd hurl (by decide)

end ChannelFrame

end CycleTLS
