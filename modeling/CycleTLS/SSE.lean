import CycleTLS.JA4R
import CycleTLS.Lib.EventStream
import CycleTLS.Lib.Iteration
import CycleTLS.WebSocket

/-!
# Server-sent events (`sse.go`, `ffi.go`, `sse.py`)

`NextEvent` reads the lines of a body up to the end of an event, and `sseNextEvent` gives
Python the event, the end of the stream, or an error, for which it gives the end as well.

The events that Python has are those of the stream only if each of these sets its type: no
type is sent as an empty one, and the type of an event without data is not forgotten
(`delivers_iff_typesSet`).
-/

namespace CycleTLS

open MsgPack Utf8

/-! ## Go -/

/-- `bufio.MaxScanTokenSize`. -/
def maxScanTokenSize : Nat := 65536

/-- What a `bufio.Scanner` has of a body, for what it has of a line: the lines before one that
    does not fit into its buffer with its line feed, and whether there is such a line. Carriage
    returns at the end of lines are left out. -/
def scanLines : Bytes → Bytes → List Bytes × Bool
  | line, [] => (if line = [] then [] else [dropCR line], false)
  | line, c :: body =>
    if c = 0x0a then ((dropCR line) :: (scanLines [] body).1, (scanLines [] body).2)
    else if line.length + 1 = maxScanTokenSize then ([], true)
    else scanLines (line ++ [c]) body
where
  /-- The line without a carriage return at its end. -/
  dropCR (line : Bytes) : Bytes := if line.getLast? = some 0x0d then line.dropLast else line

/-- An `SSEEvent`. -/
structure SSEEvent where
  id : Bytes := []
  event : Bytes := []
  data : Bytes := []
  retry : Int := 0

/-- An `SSEResponse`: the lines that are still to come, and what `Scanner.Err` is then. -/
structure SSEResponse where
  lines : List Bytes
  err : Option Bytes

/-- The response with a body, after which reading ends or fails. -/
def SSEResponse.ofBody (body : Bytes) (err : Option Bytes) : SSEResponse where
  lines := (scanLines [] body).1
  err := if (scanLines [] body).2 then some (utf8 "bufio.Scanner: token too long") else err

/-- A value without a space before it. -/
def fieldValue : Bytes → Bytes
  | 0x20 :: value => value
  | value => value

/-- The name and the value of the field in a line. -/
def parseField (line : Bytes) : Bytes × Bytes :=
  (line.takeWhile (· ≠ 0x3a), fieldValue (line.dropWhile (· ≠ 0x3a)).tail)

/-- An event that is read, its data so far, and whether it has some. -/
structure Pending where
  event : SSEEvent := {}
  data : Bytes := []
  inData : Bool := false

namespace Pending

variable (p : Pending)

/-- The event so far, after a line that is not empty. -/
def process (line : Bytes) : Pending :=
  if utf8 ":" <+: line then p
  else
    let (field, value) := parseField line
    if field = utf8 "event" then { p with event := { p.event with event := value } }
    else if field = utf8 "data" then { p with data := p.data ++ value ++ [0x0a], inData := true }
    else if field = utf8 "id" then
      if 0 ∈ value then p else { p with event := { p.event with id := value } }
    else if field = utf8 "retry" then
      match atoi value with
      | some retry => { p with event := { p.event with retry := retry } }
      | none => p
    else p

/-- The event with its data. -/
def complete : SSEEvent :=
  { p.event with data := if p.data.getLast? = some 0x0a then p.data.dropLast else p.data }

end Pending

/-- `NextEvent`, from an event that is read: the event or the end, and the lines after it. -/
def readEvent (err : Option Bytes) (p : Pending) :
    List Bytes → Except Bytes (Option SSEEvent) × List Bytes
  | [] =>
    match err with
    | some e => (.error e, [])
    | none => (.ok (if p.inData then some p.complete else none), [])
  | line :: lines =>
    if line = [] then
      if p.data.length > 0 then (.ok (some p.complete), lines) else readEvent err p lines
    else readEvent err (p.process line) lines

/-- `NextEvent`. -/
def SSEResponse.nextEvent (r : SSEResponse) : Except Bytes (Option SSEEvent) × SSEResponse :=
  ((readEvent r.err {} r.lines).1, { r with lines := (readEvent r.err {} r.lines).2 })

/-- The map for what `NextEvent` returns. -/
def eventMessage : Except Bytes (Option SSEEvent) → Message
  | .error err => .map [packEntry "error" (.str err), packEntry "eof" (.bool true)]
  | .ok none => .map [packEntry "eof" (.bool true)]
  | .ok (some event) => .map ([
      packEntry "data" (.str event.data),
      packEntry "event" (.str event.event)] ++
    packOptional "id" (if event.id = [] then none else some (.str event.id)) ++
    packOptional "retry" (if event.retry = 0 then none else some (.int event.retry)))

/-- `sseConnections`. -/
abbrev SSEConnections := Nat → Option SSEResponse

/-- `sseNextEvent`. -/
def sseNextEvent (handlePtr : Nat) (conns : SSEConnections) : Option Message × SSEConnections :=
  if handlePtr = 0 then (none, conns)
  else
    match conns handlePtr with
    | none => (none, conns)
    | some r => (some (eventMessage r.nextEvent.1),
        Function.update conns handlePtr (some r.nextEvent.2))

/-! ## Python -/

/-- The parts of a Python `SSEEvent`, as they were unpacked. -/
structure PyEvent where
  data : Message
  event : Message
  id : Option Message
  retry : Option Message

/-- What `next_event` does. -/
inductive NextEvent
  | event (e : PyEvent)
  /-- It returns `None`. -/
  | ended
  | sseError (message : Message)
  | otherError

def NextEvent.isEvent : NextEvent → Bool
  | event _ => true
  | _ => false

def NextEvent.isEnded : NextEvent → Bool
  | ended => true
  | _ => false

/-- Whether a value is true. -/
def truthy : Message → Bool
  | .nil => false
  | .bool b => b
  | .int n => n ≠ 0
  | .str s => s ≠ []
  | .bin b => b ≠ []
  | .array items => items.length ≠ 0
  | .map items => items.length ≠ 0

/-- What `next_event` makes of a map. -/
def NextEvent.ofMessage (result : Message) : NextEvent :=
  if ((getKey result "eof").map truthy).getD false then ended
  else
    match getKey result "error" with
    | some message => sseError message
    | none => event {
        data := (getKey result "data").getD (packText "")
        event := (getKey result "event").getD (packText "message")
        id := getKey result "id"
        retry := getKey result "retry" }

/-- What `next_event` makes of what `NextEvent` returns. -/
def NextEvent.ofResult (r : Except Bytes (Option SSEEvent)) : NextEvent :=
  match (FFIMode.base64.toPython (eventMessage r).toBytes).bind unpackb with
  | some result => ofMessage result
  | none => otherError

/-- An `SSEConnection`, and the connections of Go. -/
structure SSEConnection where
  connected : Bool
  handle : Option Nat
  conns : SSEConnections

namespace SSEConnection

/-- The connection after `connect`, for the handle of a response. -/
def connect (handle : Nat) (r : SSEResponse) : Option SSEConnection :=
  if handle = 0 then none
  else some ⟨true, some handle, Function.update (fun _ => none) handle (some r)⟩

variable (c : SSEConnection)

/-- `next_event`. -/
def nextEvent : NextEvent × SSEConnection :=
  match c.connected, c.handle with
  | true, some handle =>
    match sseNextEvent handle c.conns with
    | (none, conns) => (.ended, { c with connected := false, conns := conns })
    | (some m, conns) =>
      match (FFIMode.base64.toPython m.toBytes).bind unpackb with
      | none => (.otherError, { c with conns := conns })
      | some result =>
        match NextEvent.ofMessage result with
        | .ended => (.ended, { c with connected := false, conns := conns })
        | next => (next, { c with conns := conns })
  | _, _ => (.sseError (packText "SSE connection is not active"), c)

/-- What a caller gets that asks for events while it gets some, followed for `n` of its calls. -/
def events (n : Nat) : List NextEvent :=
  Iteration.results SSEConnection.nextEvent NextEvent.isEvent n c

end SSEConnection

/-! ## Streams -/

/-- A line of a stream. -/
structure Line where
  text : String
  /-- A carriage return stands before its line feed. -/
  cr : Bool
  noBreak : ∀ c ∈ text.toList, c ≠ '\n' ∧ c ≠ '\r'

-- Lists of characters are checked one by one, not all the characters there are.
instance decidableNoBreak (s : List Char) : Decidable (∀ c ∈ s, c ≠ '\n' ∧ c ≠ '\r') :=
  List.decidableBAll _ _

namespace Line

variable (l : Line)

/-- The line, up to its line feed. -/
def bytes : Bytes := utf8 l.text ++ if l.cr then [0x0d] else []

/-- It does not fit into the buffer of the scanner. -/
def Long : Prop := maxScanTokenSize ≤ l.bytes.length

instance : Decidable l.Long := inferInstanceAs (Decidable (_ ≤ _))

end Line

/-- The body with some lines. -/
def bodyOf (lines : List Line) : Bytes := lines.flatMap fun l => l.bytes ++ [0x0a]

/-- What Python has of an event. -/
def NextEvent.view : NextEvent → Option (Message × Message)
  | event e => some (e.data, e.event)
  | _ => none

/-- The data and the type of an event, in Python. -/
def packEvent (e : EventStream.Event) : Message × Message := (packText e.data, packText e.type)

/-- These events, and no others, are what Python gets. -/
def SSEConnection.Delivers (c : SSEConnection) (events : List EventStream.Event) : Prop :=
  ∃ n, (c.events n).map NextEvent.view = events.map (fun e => some (packEvent e)) ++ [none]

/-- The type that was set last, after a line. -/
def lastType (last line : String) : String :=
  if (EventStream.field line).1 = "event" then (EventStream.field line).2 else last

/-- If there is an event in the buffers, its type is the one that was set last, and its data are
    shorter than 4 GiB. -/
def Agrees (b : EventStream.Buffers) (last : String) : Prop :=
  b.data ≠ "" → last = b.eventType ∧ (utf8 b.data).length ≤ 2 ^ 32

/-- Every event of some lines has the type that was set last since the event before it, in
    the lines of the event or not, and no event comes after the start of a line that is too long. -/
def TypesSet : EventStream.Buffers → String → List Line → Prop
  | b, last, [] => Agrees b last
  | b, last, l :: lines =>
    if l.Long then EventStream.events b ((l :: lines).map Line.text) = []
    else if l.text = "" then
      Agrees b last ∧ TypesSet {} (if b.data = "" then last else "") lines
    else TypesSet (b.process l.text) (lastType last l.text) lines

/-! ## Lines -/

/-- What a scanner has of some lines. -/
def scanned : List Line → List Bytes × Bool
  | [] => ([], false)
  | l :: lines =>
    if l.Long then ([], true) else (utf8 l.text :: (scanned lines).1, (scanned lines).2)

theorem ofNat_notMem_utf8 {c : Char} (hc : c.toNat < 0x80) {s : String} (h : c ∉ s.toList) :
    UInt8.ofNat c.toNat ∉ utf8 s := by
  intro hmem
  obtain ⟨d, hd, hb⟩ := List.mem_flatMap.1 hmem
  exact ne_of_mem_encodeChar hc (fun heq => h (heq ▸ hd)) _ hb rfl

theorem dropCR_bytes (l : Line) : scanLines.dropCR l.bytes = utf8 l.text := by
  have hcr : (0x0d : UInt8) ∉ utf8 l.text :=
    ofNat_notMem_utf8 (c := '\r') (by decide) fun h => (l.noBreak _ h).2 rfl
  rw [scanLines.dropCR, Line.bytes]
  cases l.cr with
  | true => rw [if_pos rfl, List.getLast?_concat, if_pos rfl, List.dropLast_concat]
  | false =>
    rw [if_neg Bool.false_ne_true, List.append_nil, if_neg]
    exact fun hlast => hcr (List.mem_of_getLast? hlast)

theorem lf_notMem_bytes (l : Line) : (0x0a : UInt8) ∉ l.bytes := by
  have hlf : (0x0a : UInt8) ∉ utf8 l.text :=
    ofNat_notMem_utf8 (c := '\n') (by decide) fun h => (l.noBreak _ h).1 rfl
  rw [Line.bytes, List.mem_append, not_or]
  refine ⟨hlf, ?_⟩
  cases l.cr <;> decide

/-- A line is read up to its line feed, if the buffer is not full before. -/
theorem scanLines_append {line cs body : Bytes} (hline : line.length < maxScanTokenSize)
    (hcs : 0x0a ∉ cs) : scanLines line (cs ++ 0x0a :: body) =
      if line.length + cs.length < maxScanTokenSize then
        (scanLines.dropCR (line ++ cs) :: (scanLines [] body).1, (scanLines [] body).2)
      else ([], true) := by
  induction cs generalizing line with
  | nil =>
    rw [List.nil_append, scanLines, if_pos rfl, List.length_nil, Nat.add_zero, if_pos hline,
      List.append_nil]
  | cons c cs ih =>
    obtain ⟨hc, hcs⟩ := not_or.1 (mt List.mem_cons.2 hcs)
    rw [List.cons_append, scanLines, if_neg (Ne.symm hc), List.length_cons]
    split_ifs with hfull hlt hlt
    · omega
    · rfl
    · have hlength : (line ++ [c]).length < maxScanTokenSize := by
        rw [List.length_append, List.length_singleton]
        omega
      rw [ih hlength hcs, List.length_append, List.length_singleton, if_pos (by omega),
        List.append_assoc, List.singleton_append]
    · have hlength : (line ++ [c]).length < maxScanTokenSize := by
        rw [List.length_append, List.length_singleton]
        omega
      rw [ih hlength hcs, List.length_append, List.length_singleton, if_neg (by omega)]

theorem scanLines_bodyOf (lines : List Line) : scanLines [] (bodyOf lines) = scanned lines := by
  induction lines with
  | nil => rfl
  | cons l lines ih =>
    rw [bodyOf, List.flatMap_cons, List.append_assoc, List.singleton_append, ← bodyOf,
      scanLines_append (by decide) (lf_notMem_bytes l), List.nil_append, dropCR_bytes, ih,
      List.length_nil, Nat.zero_add, scanned]
    by_cases hlong : l.Long
    · rw [if_pos hlong, if_neg (Nat.not_lt.2 hlong)]
    · rw [if_neg hlong, if_pos (Nat.not_le.1 hlong)]

/-! ## Fields -/

theorem fieldValue_flatMap (cs : List Char) :
    fieldValue (cs.flatMap String.utf8EncodeChar) =
      (EventStream.dropSpace cs).flatMap String.utf8EncodeChar := by
  cases cs with
  | nil => rfl
  | cons d cs =>
    by_cases hd : d = ' '
    · subst hd
      rfl
    · have hspace : EventStream.dropSpace (d :: cs) = d :: cs := by
        rw [EventStream.dropSpace]
        rintro _ ⟨⟩
        exact hd rfl
      have hbytes (b : UInt8) (bs : Bytes) (hb : b ≠ 0x20) : fieldValue (b :: bs) = b :: bs := by
        rw [fieldValue]
        rintro _ ⟨⟩
        exact hb rfl
      rw [hspace, List.flatMap_cons]
      cases henc : String.utf8EncodeChar d with
      | nil => exact absurd henc (List.ne_nil_of_length_pos (String.length_utf8EncodeChar d ▸
          Char.utf8Size_pos d))
      | cons b bs =>
        refine hbytes b _ (ne_of_mem_encodeChar (c := ' ') (by decide) hd b ?_)
        rw [henc]
        exact List.mem_cons_self

/-- Go finds the fields of a line in its bytes. -/
theorem parseField_utf8 (line : String) : parseField (utf8 line) =
    (utf8 (EventStream.field line).1, utf8 (EventStream.field line).2) := by
  obtain ⟨htake, hdrop⟩ := span_utf8 (c := ':') (by decide) line
  rw [parseField, EventStream.field]
  dsimp only
  refine congrArg₂ Prod.mk htake ?_
  change fieldValue ((utf8 line).dropWhile (· ≠ UInt8.ofNat (':').toNat)).tail = _
  have htail : (utf8 (String.ofList (line.toList.dropWhile (· ≠ ':')))).tail =
      ((line.toList.dropWhile (· ≠ ':')).tail).flatMap String.utf8EncodeChar := by
    rw [utf8, String.toList_ofList]
    cases hrest : line.toList.dropWhile (· ≠ ':') with
    | nil => rfl
    | cons d cs =>
      have hd : d = ':' := by
        have hhead := List.head?_dropWhile_not (· ≠ ':') line.toList
        rw [hrest] at hhead
        simpa using hhead
      rw [hd]
      rfl
  rw [hdrop, htail, fieldValue_flatMap]
  simp only [utf8, String.toList_ofList]

theorem length_parseField_le (line : Bytes) : (parseField line).2.length ≤ line.length := by
  have hvalue (value : Bytes) : (fieldValue value).length ≤ value.length := by
    unfold fieldValue
    split
    · exact Nat.le_succ _
    · exact Nat.le_refl _
  refine (hvalue _).trans ?_
  rw [List.length_tail]
  exact (Nat.sub_le _ _).trans (List.dropWhile_suffix _).length_le

theorem atoi_bounds {value : Bytes} {n : Int} (h : atoi value = some n) :
    -2 ^ 63 ≤ n ∧ n < 2 ^ 63 := by
  unfold atoi at h
  split at h
  all_goals
    obtain ⟨m, hm, rfl⟩ := Option.map_eq_some_iff.1 h
    have hlt := of_decide_eq_true (Option.filter_eq_some_iff.1 hm).2
    simp only [Int.ofNat_eq_natCast]
    omega

/-! ## An event that is read -/

/-- The fields of an event but its data are short. -/
structure SSEEvent.Small (e : SSEEvent) : Prop where
  id : e.id.length < 2 ^ 32
  event : e.event.length < 2 ^ 32
  retry : -2 ^ 63 ≤ e.retry ∧ e.retry < 2 ^ 63

theorem SSEEvent.Small.setID {e : SSEEvent} (h : e.Small) {id : Bytes} (hid : id.length < 2 ^ 32) :
    Small { e with id := id } := ⟨hid, h.event, h.retry⟩

/-- Go has the data in the buffers, and the type that was set last. Its ID is a text. -/
structure Reads (b : EventStream.Buffers) (last : String) (p : Pending) : Prop where
  data : p.data = utf8 b.data
  inData : p.inData = decide (b.data ≠ "")
  event : p.event.event = utf8 last
  closed : b.Closed
  idText : (decode p.event.id).isSome = true
  small : p.event.Small

theorem reads_empty : Reads {} "" {} where
  data := rfl
  inData := rfl
  event := rfl
  closed := EventStream.Buffers.closed_empty
  idText := rfl
  small := ⟨by decide, by decide, by decide⟩

namespace Reads

variable {b : EventStream.Buffers} {last : String} {p : Pending}

/-- An empty line that dispatches nothing leaves the type as it is. -/
theorem discard (h : Reads b last p) (hdata : b.data = "") : Reads {} last p where
  data := h.data.trans (congrArg utf8 hdata)
  inData := h.inData.trans (by rw [hdata])
  event := h.event
  closed := EventStream.Buffers.closed_empty
  idText := h.idText
  small := h.small

/-- Fields that are no data and no type leave the buffers alone. -/
theorem setEvent (h : Reads b last p) {line : String} {e : SSEEvent} (he : e.Small)
    (hid : (decode e.id).isSome = true) (hlast : e.event = p.event.event)
    (hevent : (EventStream.field line).1 ≠ "event")
    (hdata : (EventStream.field line).1 ≠ "data") :
    Reads (b.process line) (lastType last line) { p with event := e } := by
  rw [EventStream.Buffers.process_of_ne hevent hdata, lastType, if_neg hevent]
  exact ⟨h.data, h.inData, hlast.trans h.event, h.closed, hid, he⟩

/-- A type that is set is set in both. -/
theorem setType (h : Reads b last p) {value : String} (hvalue : (utf8 value).length < 2 ^ 32) :
    Reads { b with type := value } value
      { p with event := { p.event with event := utf8 value } } :=
  ⟨h.data, h.inData, rfl, h.closed, h.idText, h.small.id, hvalue, h.small.retry⟩

/-- Data are added to both. -/
theorem addData (h : Reads b last p) (value : String) :
    Reads { b with data := b.data ++ value ++ "\n" } last
      { p with data := p.data ++ utf8 value ++ [0x0a], inData := true } := by
  have hne := EventStream.Buffers.append_lf_ne_empty (b.data ++ value)
  refine ⟨?_, (decide_eq_true hne).symm, h.event, .inr ⟨_, rfl⟩, h.idText, h.small⟩
  rw [utf8_append, utf8_append, ← h.data]
  rfl

/-- A line that is not empty does the same to both. -/
theorem process (h : Reads b last p) {line : String} (hline : (utf8 line).length < 2 ^ 32) :
    Reads (b.process line) (lastType last line) (p.process (utf8 line)) := by
  have hvalue : (utf8 (EventStream.field line).2).length < 2 ^ 32 := by
    have hle := length_parseField_le (utf8 line)
    rw [parseField_utf8] at hle
    dsimp only at hle
    omega
  have hname (s : String) : utf8 (EventStream.field line).1 = utf8 s ↔
      (EventStream.field line).1 = s := utf8_injective.eq_iff
  rw [Pending.process, parseField_utf8]
  simp only [hname]
  by_cases hcomment : utf8 ":" <+: utf8 line
  · have hnone : (EventStream.field line).1 = "" := by
      obtain ⟨rest, hrest⟩ := hcomment
      have hparse := congrArg Prod.fst (parseField_utf8 line)
      rw [← hrest] at hparse
      dsimp only at hparse
      exact utf8_injective hparse.symm
    rw [if_pos hcomment]
    exact h.setEvent h.small h.idText rfl (by rw [hnone]; decide) (by rw [hnone]; decide)
  rw [if_neg hcomment]
  split_ifs with hevent hdata hid hzero hretry
  · rw [EventStream.Buffers.process_event hevent, lastType, if_pos hevent]
    exact h.setType hvalue
  · rw [EventStream.Buffers.process_data hdata, lastType, if_neg hevent]
    exact h.addData _
  · exact h.setEvent h.small h.idText rfl hevent hdata
  · exact h.setEvent (h.small.setID hvalue) (isSome_decode_utf8 _) rfl hevent hdata
  · split
    · next retry hn =>
      exact h.setEvent ⟨h.small.id, h.small.event, atoi_bounds hn⟩ h.idText rfl hevent hdata
    · exact h.setEvent h.small h.idText rfl hevent hdata
  · exact h.setEvent h.small h.idText rfl hevent hdata

/-- The event that is read is the one in the buffers. -/
theorem complete (h : Reads b last p) {d : String} (hd : b.data = d ++ "\n") :
    p.complete = { p.event with data := utf8 d } := by
  have hdata : p.data = utf8 d ++ [0x0a] := by rw [h.data, hd, utf8_append]; rfl
  rw [Pending.complete, hdata, List.getLast?_concat, if_pos rfl, List.dropLast_concat]

end Reads

/-! ## What Python makes of it -/

/-- What is under the keys of the map of an event. -/
theorem getKey_eventMessage (e : SSEEvent) :
    getKey (eventMessage (.ok (some e))) "eof" = none ∧
      getKey (eventMessage (.ok (some e))) "error" = none ∧
      getKey (eventMessage (.ok (some e))) "data" = some (.str e.data) ∧
      getKey (eventMessage (.ok (some e))) "event" = some (.str e.event) := by
  refine ⟨?_, ?_, ?_, ?_⟩ <;>
    simp [getKey, eventMessage, lookup_packEntry, lookup_packOptional, lookup_packOptional_last]

theorem fits_eventMessage {e : SSEEvent} (h : e.Small) {isText : Bytes → Bool}
    (hkeys : ∀ s, isText (utf8 s) = true) (hid : isText e.id = true)
    (hdata : isText e.data = true) (hevent : isText e.event = true)
    (hlength : e.data.length < 2 ^ 32) : (eventMessage (.ok (some e))).Fits isText 1024 := by
  have hshort : ∀ name ∈ ["data", "event", "id", "retry"], (utf8 name).length < 4294967296 := by
    decide
  have hlengths : e.data.length < 4294967296 ∧ e.event.length < 4294967296 ∧
      e.id.length < 4294967296 := ⟨hlength, h.event, h.id⟩
  have hretry : -9223372036854775808 ≤ e.retry ∧ e.retry < 18446744073709551616 := by
    have hbounds := h.retry
    omega
  simp only [List.forall_mem_cons] at hshort
  rw [eventMessage, Message.fits_map_iff]
  split_ifs <;> simp [packOptional, packEntry, hkeys, hshort, hid, hdata, hevent, hlengths, hretry]

section View

variable {e : SSEEvent} {d t : String}

/-- An event that is not too long comes through. -/
theorem ofResult_of_lt (h : e.Small) (hid : (decode e.id).isSome = true)
    (hdata : (decode e.data).isSome = true) (hevent : (decode e.event).isSome = true)
    (hlength : e.data.length < 2 ^ 32) :
    (NextEvent.ofResult (.ok (some e))).view = some (.str e.data, .str e.event) := by
  obtain ⟨heof, herror, hkeyData, hkeyEvent⟩ := getKey_eventMessage e
  have hfits : (eventMessage (.ok (some e))).Fits (fun s => (decode s).isSome) 1024 :=
    fits_eventMessage h isSome_decode_utf8 hid hdata hevent hlength
  rw [NextEvent.ofResult, bind_toPython hfits]
  simp only [NextEvent.ofMessage, heof, herror, hkeyData, hkeyEvent]
  rfl

/-- What a map that is unpacked has under a key is not too long. -/
theorem length_lt_of_unpackb {b s : Bytes} {m : Message} (h : unpackb b = some m) {name : String}
    (hs : getKey m name = some (.str s)) : s.length < 2 ^ 32 := by
  obtain ⟨hfits, -⟩ := Message.read_eq_some (Message.ofBytes_eq_some_iff.1 h)
  cases m with
  | map items =>
    obtain ⟨before, after, heq, -⟩ := List.lookup_eq_some_iff.1 hs
    have hmem : (utf8 name, Message.str s) ∈ items :=
      heq ▸ List.mem_append_right _ List.mem_cons_self
    exact (Message.fits_str_iff.1 ((Message.fits_map_iff.1 hfits).2.2 _ hmem)).1
  | _ => cases hs

/-- Python has an event as it is, if it can be packed. -/
theorem view_ofResult_iff (h : e.Small) (hid : (decode e.id).isSome = true)
    (hd : e.data = utf8 d) (hevent : (decode e.event).isSome = true) :
    (NextEvent.ofResult (.ok (some e))).view = some (packText d, packText t) ↔
      e.data.length < 2 ^ 32 ∧ e.event = utf8 t := by
  have hdata : (decode e.data).isSome = true := hd ▸ isSome_decode_utf8 d
  by_cases hlength : e.data.length < 2 ^ 32
  · rw [ofResult_of_lt h hid hdata hevent hlength, hd, and_iff_right (hd ▸ hlength)]
    simp [packText]
  · refine iff_of_false (fun hview => hlength ?_) fun hp => hlength hp.1
    rw [NextEvent.ofResult] at hview
    split at hview
    · next m hm =>
      obtain ⟨b, -, hm⟩ := Option.bind_eq_some_iff.1 hm
      rw [NextEvent.ofMessage] at hview
      split_ifs at hview with heof
      · cases hview
      · split at hview
        · cases hview
        · have hdata := (Prod.ext_iff.1 (Option.some.inj hview)).1
          cases hkey : getKey m "data" with
          | some value =>
            rw [hkey] at hdata
            obtain rfl : value = packText d := hdata
            exact hd ▸ length_lt_of_unpackb hm hkey
          | none =>
            rw [hkey] at hdata
            obtain rfl : "" = d := utf8_injective (Message.str.inj hdata)
            rw [hd]
            decide
    · cases hview

end View

theorem isEvent_of_view {next : NextEvent} {v : Message × Message} (h : next.view = some v) :
    next.isEvent = true := by
  cases next with
  | event e => rfl
  | _ => cases h

theorem isEvent_of_isSome {next : NextEvent} (h : next.isEvent = true) :
    next.view.isSome = true := by
  cases next with
  | event e => rfl
  | _ => cases h

/-- The end of a stream comes through. -/
theorem ofResult_none : NextEvent.ofResult (.ok none) = .ended := by
  have hfits : (eventMessage (.ok none)).Fits (fun s => (decode s).isSome) 1024 := by
    have hkey : (utf8 "eof").length < 4294967296 := by decide
    rw [eventMessage, Message.fits_map_iff]
    simp [packEntry, hkey]
  rw [NextEvent.ofResult, bind_toPython hfits]
  rfl

/-- An error is an end as well. -/
theorem ofMessage_error (err : Bytes) :
    NextEvent.ofMessage (eventMessage (.error err)) = .ended := rfl

/-- An error that can be packed is taken for the end. -/
theorem ofResult_error {err : Bytes} (htext : (decode err).isSome = true)
    (hlength : err.length < 2 ^ 32) : NextEvent.ofResult (.error err) = .ended := by
  have hfits : (eventMessage (.error err)).Fits (fun s => (decode s).isSome) 1024 := by
    have hkeys : (utf8 "eof").length < 4294967296 ∧ (utf8 "error").length < 4294967296 := by
      decide
    have hlength : err.length < 4294967296 := hlength
    rw [eventMessage, Message.fits_map_iff]
    simp [packEntry, hkeys, htext, hlength]
  rw [NextEvent.ofResult, bind_toPython hfits]
  rfl

/-! ## Events in order -/

namespace SSEConnection

variable {handle : Nat} {r : SSEResponse}

/-- A connection that has not ended. -/
def reading (handle : Nat) (r : SSEResponse) : SSEConnection :=
  ⟨true, some handle, Function.update (fun _ => none) handle (some r)⟩

theorem connect_eq_some_iff {c : SSEConnection} :
    connect handle r = some c ↔ handle ≠ 0 ∧ c = reading handle r := by
  rw [connect]
  split_ifs with hzero
  · exact iff_of_false nofun fun h => h.1 hzero
  · rw [Option.some.injEq, eq_comm, and_iff_right hzero]
    rfl

/-- The response of the handle is read, and at its end the connection is taken for closed. -/
theorem nextEvent_eq {c : SSEConnection} (hconnected : c.connected = true)
    (hhandle : c.handle = some handle) (hzero : handle ≠ 0) (hr : c.conns handle = some r) :
    c.nextEvent = (.ofResult r.nextEvent.1,
      { connected := !(NextEvent.ofResult r.nextEvent.1).isEnded
        handle := some handle
        conns := Function.update c.conns handle (some r.nextEvent.2) }) := by
  obtain ⟨connected, handle', conns⟩ := c
  obtain rfl : connected = true := hconnected
  obtain rfl : handle' = some handle := hhandle
  have hsse : sseNextEvent handle conns =
      (some (eventMessage r.nextEvent.1), Function.update conns handle (some r.nextEvent.2)) := by
    rw [sseNextEvent, if_neg hzero, show conns handle = some r from hr]
  change (match sseNextEvent handle conns with
    | (none, conns) => _
    | (some m, conns) => _) = _
  rw [hsse, NextEvent.ofResult]
  dsimp only
  cases (FFIMode.base64.toPython (eventMessage r.nextEvent.1).toBytes).bind unpackb with
  | none => rfl
  | some result => cases hresult : NextEvent.ofMessage result <;> simp [hresult, NextEvent.isEnded]

theorem nextEvent_reading (hzero : handle ≠ 0) :
    (reading handle r).nextEvent.1 = .ofResult r.nextEvent.1 ∧
      ((reading handle r).nextEvent.1.isEvent →
        (reading handle r).nextEvent.2 = reading handle r.nextEvent.2) := by
  have hr : (reading handle r).conns handle = some r := by
    simp only [reading, Function.update_self]
  rw [nextEvent_eq rfl rfl hzero hr]
  refine ⟨rfl, fun hevent => ?_⟩
  have hended : (NextEvent.ofResult r.nextEvent.1).isEnded = false := by
    cases hnext : NextEvent.ofResult r.nextEvent.1 with
    | ended =>
      rw [hnext] at hevent
      cases hevent
    | _ => rfl
  simp only [hended, reading, Function.update_idem, Bool.not_false]

/-- What a caller gets while an event is read, and after it. -/
def answers (handle : Nat) (err : Option Bytes) (n : Nat) (p : Pending) (lines : List Bytes) :
    List NextEvent :=
  let next := NextEvent.ofResult (readEvent err p lines).1
  next :: if next.isEvent then
    (reading handle ⟨(readEvent err p lines).2, err⟩).events n else []

theorem events_reading (hzero : handle ≠ 0) (n : Nat) :
    (reading handle r).events (n + 1) = answers handle r.err n {} r.lines := by
  obtain ⟨hnext, hrest⟩ := nextEvent_reading (r := r) hzero
  rw [events, Iteration.results, answers]
  split_ifs with hevent hevent' hevent'
  · rw [hrest hevent, hnext]
    rfl
  · exact absurd (hnext ▸ hevent) hevent'
  · exact absurd (hnext ▸ hevent') hevent
  · rw [hnext]
    rfl

/-- The views of the answers are those of some events, and then the end. -/
def Gives (handle : Nat) (err : Option Bytes) (p : Pending) (lines : List Bytes)
    (events : List EventStream.Event) : Prop :=
  ∃ n, (answers handle err n p lines).map NextEvent.view =
    events.map (fun e => some (packEvent e)) ++ [none]

theorem gives_congr {err : Option Bytes} {p p' : Pending} {lines lines' : List Bytes}
    {events : List EventStream.Event} (h : readEvent err p lines = readEvent err p' lines') :
    Gives handle err p lines events ↔ Gives handle err p' lines' events := by
  simp only [Gives, answers, h]

/-- If nothing is read any more, there are to be no events. -/
theorem gives_iff_of_view_eq_none {err : Option Bytes} {p : Pending} {lines : List Bytes}
    {events : List EventStream.Event}
    (h : (NextEvent.ofResult (readEvent err p lines).1).view = none) :
    Gives handle err p lines events ↔ events = [] := by
  have hevent : (NextEvent.ofResult (readEvent err p lines).1).isEvent = false :=
    Bool.eq_false_iff.2 fun hevent => by
      have hsome := isEvent_of_isSome hevent
      rw [h] at hsome
      cases hsome
  have hanswers (n : Nat) : (answers handle err n p lines).map NextEvent.view = [none] := by
    rw [answers, hevent, List.map_cons, h]
    rfl
  simp only [Gives, hanswers, exists_const]
  cases events with
  | nil => exact iff_of_true rfl rfl
  | cons e events => exact iff_of_false nofun nofun

/-- If an event is read, it is to be the first one. -/
theorem gives_cons_iff (hzero : handle ≠ 0) {err : Option Bytes} {p : Pending}
    {lines : List Bytes} {e : EventStream.Event} {events : List EventStream.Event} :
    Gives handle err p lines (e :: events) ↔
      (NextEvent.ofResult (readEvent err p lines).1).view = some (packEvent e) ∧
        Gives handle err {} (readEvent err p lines).2 events := by
  constructor
  · rintro ⟨n, hn⟩
    rw [answers, List.map_cons, List.map_cons, List.cons_append] at hn
    obtain ⟨hview, hrest⟩ := List.cons.inj hn
    rw [if_pos (isEvent_of_view hview)] at hrest
    cases n with
    | zero =>
      have hnil : ([] : List (Option (Message × Message))) = _ := hrest
      exact absurd hnil.symm (List.append_ne_nil_of_right_ne_nil _ (List.cons_ne_nil _ _))
    | succ n =>
      rw [events_reading hzero] at hrest
      exact ⟨hview, n, hrest⟩
  · rintro ⟨hview, n, hn⟩
    refine ⟨n + 1, ?_⟩
    rw [answers, if_pos (isEvent_of_view hview), events_reading hzero, List.map_cons, hview, hn]
    rfl

/-- The error of the scanner for some lines. -/
def scanError (lines : List Line) : Option Bytes :=
  if (scanned lines).2 then some (utf8 "bufio.Scanner: token too long") else none

/-- The event that is read is the one of the standard if their types agree. -/
theorem view_complete_iff {b : EventStream.Buffers} {last : String} {p : Pending}
    (h : Reads b last p) (hdata : b.data ≠ "") {e : EventStream.Event} (he : b.event = some e) :
    (NextEvent.ofResult (.ok (some p.complete))).view = some (packEvent e) ↔ Agrees b last := by
  obtain ⟨d, hd⟩ := h.closed.resolve_left hdata
  obtain rfl := Option.some.inj ((EventStream.Buffers.event_eq_some hd).symm.trans he)
  have hlength : (utf8 b.data).length = (utf8 d).length + 1 := by
    rw [hd, utf8_append, List.length_append]
    rfl
  have hsmall : SSEEvent.Small { p.event with data := utf8 d } :=
    ⟨h.small.id, h.small.event, h.small.retry⟩
  rw [h.complete hd, packEvent]
  refine (view_ofResult_iff hsmall h.idText rfl (h.event ▸ isSome_decode_utf8 last)).trans ?_
  rw [Agrees, forall_prop_of_true hdata, hlength, and_comm]
  refine and_congr ?_ Nat.lt_iff_add_one_le
  change p.event.event = _ ↔ _
  rw [h.event]
  exact utf8_injective.eq_iff

/-- An event that is dispatched is to be the next one. -/
theorem gives_event_iff (hzero : handle ≠ 0) {b : EventStream.Buffers} {last : String}
    {p : Pending} {err : Option Bytes} {lines rest : List Bytes}
    {events : List EventStream.Event} (h : Reads b last p) (hdata : b.data ≠ "")
    (hread : readEvent err p lines = (.ok (some p.complete), rest)) :
    Gives handle err p lines (b.event.toList ++ events) ↔
      Agrees b last ∧ Gives handle err {} rest events := by
  obtain ⟨d, hd⟩ := h.closed.resolve_left hdata
  have hevent := EventStream.Buffers.event_eq_some hd
  rw [hevent, Option.toList_some, List.singleton_append]
  refine (gives_cons_iff hzero).trans ?_
  rw [hread]
  exact and_congr_left fun _ => view_complete_iff h hdata hevent

/-- At the end, what is in the buffers is dispatched. -/
theorem gives_end_iff (hzero : handle ≠ 0) {b : EventStream.Buffers} {last : String} {p : Pending}
    (h : Reads b last p) : Gives handle none p [] b.event.toList ↔ Agrees b last := by
  by_cases hdata : b.data = ""
  · have hread : readEvent none p [] = (.ok none, []) := by
      rw [readEvent, h.inData, hdata]
      rfl
    rw [EventStream.Buffers.event_eq_none hdata]
    refine (gives_iff_of_view_eq_none ?_).trans (iff_of_true rfl fun hne => absurd hdata hne)
    rw [hread, ofResult_none]
    rfl
  · have hread : readEvent none p [] = (.ok (some p.complete), []) := by
      rw [readEvent, h.inData, if_pos (decide_eq_true hdata)]
    have hend : Gives handle none {} [] [] := by
      refine (gives_iff_of_view_eq_none ?_).2 rfl
      exact congrArg NextEvent.view ofResult_none
    have hiff : Gives handle none p [] (b.event.toList ++ []) ↔ _ :=
      gives_event_iff hzero h hdata hread
    rwa [List.append_nil, and_iff_left hend] at hiff

/-- After a line that is too long nothing is read. -/
theorem gives_long_iff {p : Pending} {events : List EventStream.Event} :
    Gives handle (some (utf8 "bufio.Scanner: token too long")) p [] events ↔ events = [] := by
  refine gives_iff_of_view_eq_none ?_
  have hended : NextEvent.ofResult (.error (utf8 "bufio.Scanner: token too long")) = .ended :=
    ofResult_error (isSome_decode_utf8 _) (by decide)
  exact congrArg NextEvent.view hended

/-- An empty line dispatches what is in the buffers. -/
theorem gives_empty_iff (hzero : handle ≠ 0) {b : EventStream.Buffers} {last : String}
    {p : Pending} {err : Option Bytes} {lines : List Bytes} {events : List EventStream.Event}
    (h : Reads b last p) : Gives handle err p ([] :: lines) (b.event.toList ++ events) ↔
      Agrees b last ∧ Gives handle err (if b.data = "" then p else {}) lines events := by
  by_cases hdata : b.data = ""
  · have hread : readEvent err p ([] :: lines) = readEvent err p lines := by
      rw [readEvent, if_pos rfl, h.data, hdata]
      rfl
    have hagrees : Agrees b last := fun hne => absurd hdata hne
    rw [EventStream.Buffers.event_eq_none hdata, if_pos hdata, and_iff_right hagrees]
    exact gives_congr hread
  · have hlength : p.data.length > 0 := by
      rw [h.data]
      exact List.length_pos_iff.2 fun hnil => hdata (utf8_injective hnil)
    rw [if_neg hdata]
    refine gives_event_iff hzero h hdata ?_
    rw [readEvent, if_pos rfl, if_pos hlength]

/-- A caller gets the events of some lines if they set their types. -/
theorem gives_iff (hzero : handle ≠ 0) {b : EventStream.Buffers} {last : String} {p : Pending}
    {lines : List Line} (h : Reads b last p) :
    Gives handle (scanError lines) p (scanned lines).1
      (EventStream.events b (lines.map Line.text)) ↔ TypesSet b last lines := by
  induction lines generalizing b last p with
  | nil => exact gives_end_iff hzero h
  | cons l lines ih =>
    rw [TypesSet, scanError, scanned]
    by_cases hlong : l.Long
    · rw [if_pos hlong, if_pos hlong]
      exact gives_long_iff
    · rw [if_neg hlong, if_neg hlong, ← scanError, List.map_cons]
      by_cases htext : l.text = ""
      · rw [if_pos htext, htext, EventStream.events, if_pos rfl]
        refine (gives_empty_iff hzero h).trans (and_congr_right fun _ => ih ?_)
        split_ifs with hdata
        · exact h.discard hdata
        · exact reads_empty
      · have hne : utf8 l.text ≠ [] := fun hnil => htext (utf8_injective hnil)
        have hread : readEvent (scanError lines) p (utf8 l.text :: (scanned lines).1) =
            readEvent (scanError lines) (p.process (utf8 l.text)) (scanned lines).1 := by
          rw [readEvent, if_neg hne]
        have hshort : (utf8 l.text).length < 2 ^ 32 := by
          have hlt := Nat.not_le.1 hlong
          rw [Line.bytes, List.length_append, maxScanTokenSize] at hlt
          omega
        rw [if_neg htext, EventStream.events_of_ne htext]
        exact (gives_congr hread).trans (ih (h.process hshort))

theorem delivers_reading_iff (hzero : handle ≠ 0) {events : List EventStream.Event} :
    (reading handle r).Delivers events ↔ Gives handle r.err {} r.lines events := by
  constructor
  · rintro ⟨n, hn⟩
    cases n with
    | zero => exact absurd hn.symm (List.append_ne_nil_of_right_ne_nil _ (List.cons_ne_nil _ _))
    | succ n =>
      rw [events_reading hzero] at hn
      exact ⟨n, hn⟩
  · rintro ⟨n, hn⟩
    refine ⟨n + 1, ?_⟩
    rw [events_reading hzero]
    exact hn

theorem ofBody_bodyOf (lines : List Line) :
    SSEResponse.ofBody (bodyOf lines) none = ⟨(scanned lines).1, scanError lines⟩ := by
  rw [SSEResponse.ofBody, scanLines_bodyOf]
  rfl

/-- A caller has the events of a stream exactly if each of them sets its type. -/
theorem delivers_iff_typesSet {lines : List Line} {c : SSEConnection}
    (h : connect handle (.ofBody (bodyOf lines) none) = some c) :
    c.Delivers (EventStream.events {} (lines.map Line.text)) ↔ TypesSet {} "" lines := by
  obtain ⟨hzero, rfl⟩ := connect_eq_some_iff.1 h
  rw [ofBody_bodyOf, ← gives_iff hzero reads_empty]
  exact delivers_reading_iff hzero

theorem delivers_typed : ∃ c, connect 1 (.ofBody (bodyOf [⟨"event: a", false, by decide⟩,
    ⟨"data: x", false, by decide⟩, ⟨"", false, by decide⟩]) none) = some c ∧
      c.Delivers (EventStream.events {} ["event: a", "data: x", ""]) := by
  obtain ⟨c, hc⟩ : ∃ c, connect 1 (.ofBody (bodyOf [⟨"event: a", false, by decide⟩,
    ⟨"data: x", false, by decide⟩, ⟨"", false, by decide⟩]) none) = some c := ⟨_, rfl⟩
  refine ⟨c, hc, (delivers_iff_typesSet hc).2 ?_⟩
  exact ⟨fun _ => ⟨by decide, by decide⟩, fun h => absurd rfl h⟩

/-- An event that sets no type has none. -/
theorem not_forall_events : ¬∀ (handle : Nat) (lines : List Line) (c : SSEConnection),
    connect handle (.ofBody (bodyOf lines) none) = some c →
      c.Delivers (EventStream.events {} (lines.map Line.text)) := by
  intro h
  have hdelivers := h 1 [⟨"data: x", false, by decide⟩, ⟨"", false, by decide⟩] _ rfl
  have hgives := (delivers_reading_iff (r := .ofBody _ none) Nat.one_ne_zero).1 hdelivers
  rw [ofBody_bodyOf] at hgives
  dsimp only at hgives
  obtain ⟨hagrees, -⟩ := (gives_iff Nat.one_ne_zero reads_empty).1 hgives
  exact absurd (hagrees (by decide)).1 (by decide)

end SSEConnection

end CycleTLS
