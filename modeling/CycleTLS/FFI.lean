import CycleTLS.Delivery
import CycleTLS.Lib.Base64
import CycleTLS.Lib.MsgPack

/-!
# Payloads on their way to Python (`ffi.go`, `_ffi.py`)

A payload is packed by `msgpack.Marshal`, copied to the memory of C, read from there by
Python and unpacked by `ormsgpack.unpackb`. In the mode called zero-copy, its length goes
with it as a `C.int`; in the other one it is written in Base64, up to a byte that is zero.
Whole payloads come through in both (`toPython_base64`, `toPython_zeroCopy`), those of
2 GiB and more in the second only.

Python has a dict of what it unpacks, and finds under its keys what `unpack` says
(`ofMessage_toMessage`).
-/

namespace CycleTLS

open MsgPack Utf8

/-! ## Messages -/

def packText (s : String) : Message := .str (utf8 s)

/-- A key with what it stands for. -/
def packEntry (name : String) (m : Message) : Bytes × Message := (utf8 name, m)

/-- A key that may be missing. -/
def packOptional (name : String) (m : Option Message) : List (Bytes × Message) :=
  m.elim [] fun m => [packEntry name m]

/-- The map of `convertCookies`. -/
def CookieDict.toMessage (c : CookieDict) : Message :=
  .map ([packEntry "name" (packText c.name), packEntry "value" (packText c.value)] ++
    packOptional "path" (c.path.map packText) ++
    packOptional "domain" (c.domain.map packText) ++
    packOptional "expires" (c.expires.map packText) ++
    packOptional "maxAge" (c.maxAge.map .int) ++
    packOptional "secure" (c.secure.map .bool) ++
    packOptional "httpOnly" (c.httpOnly.map .bool) ++
    packOptional "sameSite" (c.sameSite.map packText))

/-- The map of `buildResponsePayload` and `buildErrorPayload`. Go packs its keys in any order;
    it is this one here. -/
def Payload.toMessage (p : Payload) : Message :=
  .map ([
      packEntry "RequestID" (packText p.requestID),
      packEntry "Status" (.int p.status),
      packEntry "Body" (.str p.body),
      packEntry "Headers" (.map (p.headers.map fun h => (h.1, .str h.2))),
      packEntry "FinalUrl" (.str p.finalUrl),
      packEntry "Cookies" (.array (p.cookies.map CookieDict.toMessage))] ++
    packOptional "Proto" (p.proto.map packText) ++
    packOptional "BodyBytes" (p.bodyBytes.map .bin))

/-- `msgpack.Marshal`. -/
def Payload.marshal (p : Payload) : Bytes := p.toMessage.toBytes

/-- `ormsgpack.unpackb`: texts have to be UTF-8, and maps and lists may be nested 1024 times. -/
def unpackb (b : Bytes) : Option Message := Message.ofBytes (fun s => (decode s).isSome) 1024 b

/-! ## Memory -/

/-- How the bytes of a message get from one side to the other. -/
inductive FFIMode
  | zeroCopy
  | base64
  deriving DecidableEq

/-- `C.CString`, and `_ffi.new("char[]", ..)`. -/
def cString (b : Bytes) : Bytes := b ++ [0]

/-- `_ffi.string`, and `C.GoString`. -/
def ffiString (memory : Bytes) : Bytes := memory.takeWhile fun c => c ≠ 0

/-- `C.int`. -/
def cInt (n : Nat) : Int := (n : Int).bmod (2 ^ 32)

/-- `_ffi.buffer(ptr, size)[:]`. A size below zero is that of a `char`. -/
def ffiBuffer (memory : Bytes) (size : Int) : Bytes :=
  memory.take (if size < 0 then 1 else size.toNat)

/-- What Python reads of the bytes that Go hands over. -/
def FFIMode.toPython : FFIMode → Bytes → Option Bytes
  | zeroCopy, b => some (ffiBuffer (cString b) (cInt b.length))
  | base64, b => Base64.decode (ffiString (cString (Base64.encode b)))

/-- What Python has of a payload. -/
def FFIMode.fetch (mode : FFIMode) (p : Payload) : Option Message :=
  (mode.toPython p.marshal).bind unpackb

theorem ffiString_cString {b : Bytes} (h : 0 ∉ b) : ffiString (cString b) = b := by
  have hall : ∀ c ∈ b, decide (c ≠ 0) = true := fun c hc =>
    decide_eq_true fun h0 => h (h0 ▸ hc)
  rw [ffiString, cString, List.takeWhile_append_of_pos hall]
  exact List.append_nil b

theorem toPython_base64 (b : Bytes) : FFIMode.base64.toPython b = some b := by
  rw [FFIMode.toPython, ffiString_cString (Base64.zero_notMem_encode b), Base64.decode_encode]

theorem cInt_lt (n : Nat) : cInt n < 2 ^ 31 := by
  have hlt := Int.bmod_lt (x := (n : Int)) (Nat.two_pow_pos 32)
  exact Int.lt_of_lt_of_le hlt (by decide)

theorem cInt_of_lt {n : Nat} (h : n < 2 ^ 31) : cInt n = n :=
  Int.bmod_eq_of_le_mul_two (by omega) (by omega)

theorem toPython_zeroCopy {b : Bytes} (h : b.length < 2 ^ 31) :
    FFIMode.zeroCopy.toPython b = some b := by
  rw [FFIMode.toPython, cInt_of_lt h, ffiBuffer, if_neg (by omega), Int.toNat_natCast, cString,
    List.take_left]

/-- Of a longer message, only a part is read. -/
theorem toPython_zeroCopy_of_le {b : Bytes} (h : 2 ^ 31 ≤ b.length) :
    ∃ n < b.length, FFIMode.zeroCopy.toPython b = some (b.take n) := by
  have hlt : (if cInt b.length < 0 then 1 else (cInt b.length).toNat) < b.length := by
    have hint := cInt_lt b.length
    split_ifs <;> omega
  refine ⟨_, hlt, ?_⟩
  rw [FFIMode.toPython, ffiBuffer, cString, List.take_append_of_le_length (Nat.le_of_lt hlt)]

/-! ## What is unpacked -/

/-- The numbers and lengths of a payload are such that MessagePack can write. -/
def Payload.Writable (p : Payload) : Prop := Message.Fits (fun _ => true) 1024 p.toMessage

variable {mode : FFIMode} {p : Payload}

/-- All texts of a message are UTF-8. -/
def Texts (m : Message) : Prop := ∀ s ∈ m.texts, (decode s).isSome = true

theorem texts_map_iff {items : List (Bytes × Message)} :
    Texts (.map items) ↔ ∀ e ∈ items, (decode e.1).isSome = true ∧ Texts e.2 := by
  rw [Texts, Message.texts, Message.entriesTexts_eq, List.forall_mem_flatMap]
  simp only [List.forall_mem_cons, Texts]

theorem texts_array_iff {items : List Message} : Texts (.array items) ↔ ∀ m ∈ items, Texts m := by
  rw [Texts, Message.texts, Message.itemsTexts_eq, List.forall_mem_flatMap]
  rfl

theorem texts_str_iff {s : Bytes} : Texts (.str s) ↔ (decode s).isSome = true := by
  rw [Texts, Message.texts, List.forall_mem_singleton]

theorem texts_packText (s : String) : Texts (packText s) := by
  rw [packText, texts_str_iff, decode_utf8]
  rfl

theorem texts_int (n : Int) : Texts (.int n) := fun s hs => by simp [Message.texts] at hs

theorem texts_bool (b : Bool) : Texts (.bool b) := fun s hs => by simp [Message.texts] at hs

theorem texts_bin (b : Bytes) : Texts (.bin b) := fun s hs => by simp [Message.texts] at hs

theorem forall_mem_packOptional {α : Type} {f : α → Message} (hf : ∀ a, Texts (f a))
    (name : String) (x : Option α) :
    ∀ e ∈ packOptional name (x.map f), (decode e.1).isSome = true ∧ Texts e.2 := by
  intro e he
  cases x with
  | none => exact absurd he List.not_mem_nil
  | some a =>
    obtain rfl := List.mem_singleton.1 he
    exact ⟨by rw [packEntry, decode_utf8]; rfl, hf a⟩

theorem isSome_decode_utf8 (s : String) : (decode (utf8 s)).isSome = true := by
  rw [decode_utf8]
  rfl

/-- The texts of a cookie are. -/
theorem texts_cookie (c : CookieDict) : Texts c.toMessage := by
  rw [CookieDict.toMessage, texts_map_iff]
  simp only [List.forall_mem_append, List.forall_mem_cons, packEntry, isSome_decode_utf8,
    texts_packText]
  simp only [List.not_mem_nil, false_implies, implies_true, and_self, true_and]
  have htext := fun name => forall_mem_packOptional texts_packText name
  have hbool := fun name => forall_mem_packOptional texts_bool name
  exact ⟨⟨⟨⟨⟨⟨htext _ _, htext _ _⟩, htext _ _⟩, forall_mem_packOptional texts_int _ _⟩,
    hbool _ _⟩, hbool _ _⟩, htext _ _⟩

theorem isSome_unpack_iff : (unpack p).isSome = true ↔ (decode p.body).isSome = true ∧
    (∀ h ∈ p.headers, (decode h.1).isSome = true ∧ (decode h.2).isSome = true) ∧
      (decode p.finalUrl).isSome = true := by
  rw [← exists_map_encodeHeader_iff, isSome_decode_iff, isSome_decode_iff,
    Option.isSome_iff_exists]
  simp only [unpack_eq_some_iff]
  constructor
  · rintro ⟨d, rfl⟩
    exact ⟨⟨_, rfl⟩, ⟨_, rfl⟩, ⟨_, rfl⟩⟩
  · rintro ⟨⟨body, hbody⟩, ⟨headers, hheaders⟩, ⟨finalUrl, hurl⟩⟩
    refine ⟨⟨p.requestID, p.status, body, headers, finalUrl, p.proto, p.bodyBytes, p.cookies⟩, ?_⟩
    dsimp only
    rw [hheaders, ← hbody, ← hurl]

/-- The texts of a payload are UTF-8 if it unpacks. -/
theorem texts_toMessage_iff : Texts p.toMessage ↔ (unpack p).isSome = true := by
  have hcookies : ∀ c ∈ p.cookies, Texts c.toMessage := fun c _ => texts_cookie c
  have hproto := forall_mem_packOptional texts_packText "Proto" p.proto
  have hbytes := forall_mem_packOptional texts_bin "BodyBytes" p.bodyBytes
  rw [isSome_unpack_iff, Payload.toMessage, texts_map_iff, List.forall_mem_append,
    List.forall_mem_append, and_iff_left hbytes, and_iff_left hproto]
  simp only [List.forall_mem_cons, packEntry, isSome_decode_utf8, texts_packText, texts_int,
    texts_map_iff, texts_array_iff, texts_str_iff, List.forall_mem_map, true_and,
    eq_true hcookies, List.not_mem_nil, false_implies, implies_true, and_true]

/-- Texts and bytes of less than 4 GiB, numbers of 64 bits, and not too many of them. -/
theorem writable_iff : p.Writable ↔
    (utf8 p.requestID).length < 2 ^ 32 ∧ (-2 ^ 63 ≤ p.status ∧ p.status < 2 ^ 64) ∧
      p.body.length < 2 ^ 32 ∧
      (p.headers.length < 2 ^ 32 ∧ ∀ h ∈ p.headers, h.1.length < 2 ^ 32 ∧ h.2.length < 2 ^ 32) ∧
      p.finalUrl.length < 2 ^ 32 ∧
      (p.cookies.length < 2 ^ 32 ∧
        ∀ c ∈ p.cookies, Message.Fits (fun _ => true) 1022 c.toMessage) ∧
      (∀ s ∈ p.proto, (utf8 s).length < 2 ^ 32) ∧ ∀ b ∈ p.bodyBytes, b.length < 2 ^ 32 := by
  have hkeys : ∀ name ∈ ["RequestID", "Status", "Body", "Headers", "FinalUrl", "Cookies", "Proto",
      "BodyBytes"], (utf8 name).length < 4294967296 := by decide
  simp only [List.forall_mem_cons] at hkeys
  obtain ⟨requestID, status, body, headers, finalUrl, proto, bodyBytes, cookies⟩ := p
  have hheaders : Message.Fits (fun _ => true) 1023 (.map (headers.map fun h => (h.1, .str h.2))) ↔
      headers.length < 2 ^ 32 ∧ ∀ h ∈ headers, h.1.length < 2 ^ 32 ∧ h.2.length < 2 ^ 32 := by
    rw [Message.fits_map_iff]
    simp only [List.length_map, List.forall_mem_map, Message.fits_str_iff, and_true, forall_and]
  rw [Payload.Writable, Payload.toMessage, Message.fits_map_iff]
  cases proto <;> cases bodyBytes <;>
    simp [packOptional, packEntry, packText, hkeys, hheaders, -Message.fits_map_iff]

/-- A payload that unpacks and can be written can be read. -/
theorem fits_toMessage_iff : Message.Fits (fun s => (decode s).isSome) 1024 p.toMessage ↔
    (unpack p).isSome = true ∧ p.Writable := by
  rw [Message.fits_iff, ← texts_toMessage_iff, and_comm]
  rfl

/-- Python has the payload itself, if it is UTF-8 and MessagePack can write it, and if its
    length can be told. -/
theorem fetch_eq_toMessage_iff : mode.fetch p = some p.toMessage ↔
    (unpack p).isSome = true ∧ p.Writable ∧ (mode = .zeroCopy → p.marshal.length < 2 ^ 31) := by
  rw [← and_assoc, ← fits_toMessage_iff, FFIMode.fetch]
  cases mode with
  | base64 =>
    rw [toPython_base64, Option.bind_some, unpackb, Payload.marshal, Message.ofBytes_toBytes_iff,
      and_iff_left nofun]
  | zeroCopy =>
    rw [forall_prop_of_true rfl]
    by_cases hlen : p.marshal.length < 2 ^ 31
    · rw [toPython_zeroCopy hlen, Option.bind_some, unpackb, and_iff_left hlen]
      exact Message.ofBytes_toBytes_iff
    · obtain ⟨n, hn, hpart⟩ := toPython_zeroCopy_of_le (not_lt.1 hlen)
      refine iff_of_false (fun h => ?_) fun h => hlen h.2
      rw [hpart, Option.bind_some] at h
      have hle := Message.length_toBytes_le h
      rw [List.length_take, ← Payload.marshal] at hle
      omega

/-- Python has nothing but the payload of what MessagePack can write. -/
theorem eq_of_fetch (hp : p.Writable) {m : Message} (h : mode.fetch p = some m) :
    m = p.toMessage := by
  obtain ⟨b, hb, hm⟩ := Option.bind_eq_some_iff.1 h
  have htake : ∃ n, b = p.marshal.take n := by
    cases mode with
    | base64 =>
      rw [toPython_base64] at hb
      exact ⟨_, (Option.some.inj hb).symm.trans (List.take_length).symm⟩
    | zeroCopy =>
      by_cases hlen : p.marshal.length < 2 ^ 31
      · rw [toPython_zeroCopy hlen] at hb
        exact ⟨_, (Option.some.inj hb).symm.trans (List.take_length).symm⟩
      · obtain ⟨n, -, hpart⟩ := toPython_zeroCopy_of_le (not_lt.1 hlen)
        exact ⟨n, Option.some.inj (hb.symm.trans hpart)⟩
  obtain ⟨n, rfl⟩ := htake
  exact (Message.eq_of_ofBytes_take hp hm).1

theorem writable_buildErrorPayload_iff {id : String} {message : Bytes} :
    (buildErrorPayload id message).Writable ↔
      (utf8 id).length < 2 ^ 32 ∧ message.length < 2 ^ 32 := by
  rw [writable_iff]
  simp [buildErrorPayload]

/-- Nothing is read of a message that is not there. -/
theorem bind_toPython_nil : (mode.toPython []).bind unpackb = none := by
  cases mode with
  | zeroCopy => rfl
  | base64 => rfl

/-! ## Dictionaries -/

/-- What a dict has under a key. -/
def getKey (m : Message) (name : String) : Option Message :=
  match m with
  | .map items => items.lookup (utf8 name)
  | _ => none

/-- What a dict has under a key, if it can be read. -/
def readKey {α : Type} (m : Message) (name : String) (read : Message → Option α) : Option α :=
  (getKey m name).bind read

/-- The same for a key that may be missing. -/
def readOptional {α : Type} (m : Message) (name : String) (read : Message → Option α) :
    Option (Option α) :=
  match getKey m name with
  | none => some none
  | some v => (read v).map some

def readText : Message → Option String
  | .str s => decode s
  | _ => none

def readInt : Message → Option Int
  | .int n => some n
  | _ => none

def readBool : Message → Option Bool
  | .bool b => some b
  | _ => none

def readBytes : Message → Option Bytes
  | .bin b => some b
  | _ => none

/-- The dict of a cookie. -/
def CookieDict.ofMessage (m : Message) : Option CookieDict := do
  return {
    name := ← readKey m "name" readText
    value := ← readKey m "value" readText
    path := ← readOptional m "path" readText
    domain := ← readOptional m "domain" readText
    expires := ← readOptional m "expires" readText
    maxAge := ← readOptional m "maxAge" readInt
    secure := ← readOptional m "secure" readBool
    httpOnly := ← readOptional m "httpOnly" readBool
    sameSite := ← readOptional m "sameSite" readText }

def readCookieDicts : Message → Option (List CookieDict)
  | .array items => items.mapM CookieDict.ofMessage
  | _ => none

def readHeaders : Message → Option (List (String × String))
  | .map items => items.mapM fun e => do
    let name ← decode e.1
    let value ← readText e.2
    return (name, value)
  | _ => none

/-- What `_dict_to_response` finds in the dict of a payload. -/
def ResponseDict.ofMessage (m : Message) : Option ResponseDict := do
  let requestID ← readKey m "RequestID" readText
  let status ← readKey m "Status" readInt
  let body ← readKey m "Body" readText
  let headers ← readKey m "Headers" readHeaders
  let finalUrl ← readKey m "FinalUrl" readText
  let proto ← readOptional m "Proto" readText
  let bodyBytes ← readOptional m "BodyBytes" readBytes
  let cookies ← readKey m "Cookies" readCookieDicts
  return {
    requestID := requestID
    status := status
    body := body
    headers := headers
    finalUrl := finalUrl
    proto := proto
    bodyBytes := bodyBytes
    cookies := cookies }

theorem lookup_packEntry (name name' : String) (m : Message) (items : List (Bytes × Message)) :
    (packEntry name m :: items).lookup (utf8 name') =
      if name' = name then some m else items.lookup (utf8 name') := by
  rw [packEntry, List.lookup_cons]
  by_cases h : name' = name
  · rw [if_pos h, h, beq_self_eq_true]
  · have hne : (utf8 name' == utf8 name) = false :=
      beq_eq_false_iff_ne.2 fun he => h (utf8_injective he)
    rw [if_neg h, hne]

theorem lookup_packOptional (name name' : String) (m : Option Message)
    (items : List (Bytes × Message)) :
    (packOptional name m ++ items).lookup (utf8 name') =
      if name' = name then m.or (items.lookup (utf8 name')) else items.lookup (utf8 name') := by
  cases m with
  | none => simp [packOptional]
  | some m => simp [packOptional, lookup_packEntry]

theorem lookup_packOptional_last (name name' : String) (m : Option Message) :
    (packOptional name m).lookup (utf8 name') = if name' = name then m else none := by
  have h := lookup_packOptional name name' m []
  rw [List.append_nil] at h
  rw [h, List.lookup_nil, Option.or_none]

/-- What is under the keys of the map of a cookie. -/
theorem getKey_cookie (c : CookieDict) :
    getKey c.toMessage "name" = some (packText c.name) ∧
      getKey c.toMessage "value" = some (packText c.value) ∧
      getKey c.toMessage "path" = c.path.map packText ∧
      getKey c.toMessage "domain" = c.domain.map packText ∧
      getKey c.toMessage "expires" = c.expires.map packText ∧
      getKey c.toMessage "maxAge" = c.maxAge.map .int ∧
      getKey c.toMessage "secure" = c.secure.map .bool ∧
      getKey c.toMessage "httpOnly" = c.httpOnly.map .bool ∧
      getKey c.toMessage "sameSite" = c.sameSite.map packText := by
  refine ⟨?_, ?_, ?_, ?_, ?_, ?_, ?_, ?_, ?_⟩ <;>
    simp [getKey, CookieDict.toMessage, lookup_packEntry, lookup_packOptional,
      lookup_packOptional_last]

/-- What is under the keys of the map of a payload. -/
theorem getKey_payload (p : Payload) :
    getKey p.toMessage "RequestID" = some (packText p.requestID) ∧
      getKey p.toMessage "Status" = some (.int p.status) ∧
      getKey p.toMessage "Body" = some (.str p.body) ∧
      getKey p.toMessage "Headers" = some (.map (p.headers.map fun h => (h.1, .str h.2))) ∧
      getKey p.toMessage "FinalUrl" = some (.str p.finalUrl) ∧
      getKey p.toMessage "Cookies" = some (.array (p.cookies.map CookieDict.toMessage)) ∧
      getKey p.toMessage "Proto" = p.proto.map packText ∧
      getKey p.toMessage "BodyBytes" = p.bodyBytes.map .bin := by
  refine ⟨?_, ?_, ?_, ?_, ?_, ?_, ?_, ?_⟩ <;>
    simp [getKey, Payload.toMessage, lookup_packEntry, lookup_packOptional,
      lookup_packOptional_last]

theorem readText_packText (s : String) : readText (packText s) = some s := decode_utf8 s

theorem readOptional_eq {α : Type} {m : Message} {name : String} (read : Message → Option α)
    {f : α → Message} (hread : ∀ a, read (f a) = some a) {x : Option α}
    (h : getKey m name = x.map f) : readOptional m name read = some x := by
  rw [readOptional, h]
  cases x with
  | none => rfl
  | some a => simp [hread]

/-- A cookie is read back. -/
theorem ofMessage_cookie (c : CookieDict) : CookieDict.ofMessage c.toMessage = some c := by
  obtain ⟨hname, hvalue, hpath, hdomain, hexpires, hmaxAge, hsecure, hhttpOnly, hsameSite⟩ :=
    getKey_cookie c
  simp only [CookieDict.ofMessage, readKey, hname, hvalue, Option.bind_some, readText_packText,
    readOptional_eq readText readText_packText hpath,
    readOptional_eq readText readText_packText hdomain,
    readOptional_eq readText readText_packText hexpires,
    readOptional_eq readInt (fun _ => rfl) hmaxAge,
    readOptional_eq readBool (fun _ => rfl) hsecure,
    readOptional_eq readBool (fun _ => rfl) hhttpOnly,
    readOptional_eq readText readText_packText hsameSite, Option.bind_eq_bind, Option.pure_def]

theorem readCookieDicts_map (cookies : List CookieDict) :
    readCookieDicts (.array (cookies.map CookieDict.toMessage)) = some cookies := by
  rw [readCookieDicts, List.mapM_map]
  simp only [Function.comp_def, ofMessage_cookie]
  exact (List.mapM_pure (m := Option) (f := id)).trans (congrArg some (List.map_id _))

theorem readHeaders_map (headers : List (Bytes × Bytes)) :
    readHeaders (.map (headers.map fun h => (h.1, .str h.2))) = headers.mapM unpackHeader := by
  rw [readHeaders, List.mapM_map]
  rfl

/-- What Python finds in the dict of a payload is what it unpacks to. -/
theorem ofMessage_toMessage (p : Payload) : ResponseDict.ofMessage p.toMessage = unpack p := by
  obtain ⟨hid, hstatus, hbody, hheaders, hurl, hcookies, hproto, hbytes⟩ := getKey_payload p
  simp only [ResponseDict.ofMessage, unpack, readKey, hid, hstatus, hbody, hheaders, hurl, hcookies,
    Option.bind_some, readText_packText, readOptional_eq readText readText_packText hproto,
    readOptional_eq readBytes (fun _ => rfl) hbytes, readCookieDicts_map, readHeaders_map,
    Option.bind_eq_bind, Option.pure_def]
  rfl

end CycleTLS
