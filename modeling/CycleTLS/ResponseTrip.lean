import CycleTLS.FFI
import CycleTLS.Failures

/-!
# The trip of a response

A response that `Do` returns is made a payload (`buildResponsePayload`), packed, unpacked in
Python and made a `Response` of. It survives the first part of this, up to the dict of it,
if its texts are UTF-8, it is short enough for its mode, and MessagePack can write it
(`survives_iff`): a header is not checked as the body is, so that a server chooses whether
it does.

The body of a dict that is read goes twice, as a text and as bytes. Of a failed exchange
there is the text only, that is blank if it is not UTF-8 (`content_eq_body_iff`).
-/

namespace CycleTLS

open MsgPack Utf8 Raising

variable {fracOk : Nat → Bool} {mode : FFIMode} {id : String} {resp : GoResponse}

/-! ## The dict -/

/-- Python's dict is the payload, and has the status, the headers and the cookies of the
    response. -/
def Survives (mode : FFIMode) (id : String) (resp : GoResponse) : Prop :=
  ∃ m d, mode.fetch (buildResponsePayload id resp) = some m ∧
    m = (buildResponsePayload id resp).toMessage ∧ ResponseDict.ofMessage m = some d ∧
    d.status = resp.status ∧ d.headers.map encodeHeader = resp.headers ∧
    d.cookies = convertCookies resp.cookies

/-- A response survives if the names and values of its headers and its URL are UTF-8, and its
    payload can be written and handed over. -/
theorem survives_iff (mode : FFIMode) (id : String) (resp : GoResponse) :
    Survives mode id resp ↔
      (∀ h ∈ resp.headers, (decode h.1).isSome = true ∧ (decode h.2).isSome = true) ∧
        (decode resp.finalUrl).isSome = true ∧ (buildResponsePayload id resp).Writable ∧
          (mode = .zeroCopy → (buildResponsePayload id resp).marshal.length < 2 ^ 31) := by
  have hbody : (decode (buildResponsePayload id resp).body).isSome = true := by
    show (decode (if (decode resp.body).isSome then resp.body else [])).isSome = true
    split_ifs with h
    · exact h
    · decide
  constructor
  · rintro ⟨m, d, hfetch, rfl, -⟩
    obtain ⟨hunpack, hwritable, hlen⟩ := fetch_eq_toMessage_iff.1 hfetch
    obtain ⟨-, hheaders, hurl⟩ := isSome_unpack_iff.1 hunpack
    exact ⟨hheaders, hurl, hwritable, hlen⟩
  · rintro ⟨hheaders, hurl, hwritable, hlen⟩
    have hunpack := isSome_unpack_iff.2 ⟨hbody, hheaders, hurl⟩
    obtain ⟨d, hd⟩ := Option.isSome_iff_exists.1 hunpack
    obtain ⟨h₁, -, h₃⟩ := (unpack_buildResponsePayload_eq_some_iff id resp d).1 hd
    refine ⟨_, d, fetch_eq_toMessage_iff.2 ⟨hunpack, hwritable, hlen⟩, rfl,
      (ofMessage_toMessage _).trans hd, ?_, h₁, ?_⟩
    · rw [h₃]
    · rw [h₃]

/-- A header with the byte `0xff`. -/
theorem not_forall_response_survives : ¬∀ (status : Int) (body : Bytes)
    (headers : List (Bytes × Bytes)) (cookies : List NetCookie) (finalUrl : Bytes) (proto : String),
    Survives .zeroCopy "cycleTLSRequest"
      (Do.received status body headers cookies finalUrl proto) := by
  intro h
  obtain ⟨m, d, hfetch, rfl, -⟩ := h 200 [] [(utf8 "X", [0xff])] [] [] "HTTP/1.1"
  obtain ⟨-, hheaders, -⟩ := isSome_unpack_iff.1 (fetch_eq_toMessage_iff.1 hfetch).1
  exact absurd (hheaders _ List.mem_cons_self).2 (by decide)

/-! ## The body -/

/-- What `Do` returns without an error. -/
inductive Do.Returns : GoResponse → Prop
  | received (status : Int) (bodyBytes : Bytes) (headers : List (Bytes × Bytes))
      (cookies : List NetCookie) (finalUrl : Bytes) (proto : String) :
      Returns (Do.received status bodyBytes headers cookies finalUrl proto)
  | failed (err : GoError) : Returns (Do.failed err)

/-- What the caller gets for a payload. -/
def FFIMode.receive (mode : FFIMode) (fracOk : Nat → Bool) (p : Payload) :
    Except PyException Response :=
  match (mode.fetch p).bind ResponseDict.ofMessage with
  | some data => dictToResponse fracOk data
  | none => .error ⟨.decodeError, "invalid utf-8 sequence"⟩

/-- In a mode that can hand it over, a payload is received as it is without one. -/
theorem FFIMode.receive_eq {p : Payload} (hp : p.Writable)
    (hlen : mode = .zeroCopy → p.marshal.length < 2 ^ 31) :
    mode.receive fracOk p = CycleTLS.receive fracOk p := by
  rw [FFIMode.receive, CycleTLS.receive]
  cases hfetch : mode.fetch p with
  | none =>
    have hunpack : unpack p = none := by
      by_contra hne
      have hsome := Option.isSome_iff_ne_none.2 hne
      rw [fetch_eq_toMessage_iff.2 ⟨hsome, hp, hlen⟩] at hfetch
      cases hfetch
    rw [Option.bind_none, hunpack]
  | some m =>
    obtain rfl := eq_of_fetch hp hfetch
    rw [Option.bind_some]
    cases hunpack : unpack p with
    | none => rw [ofMessage_toMessage, hunpack]
    | some d => rw [ofMessage_toMessage, hunpack]

/-- In any mode, nothing else is received. -/
theorem FFIMode.receive_of_receive {p : Payload} (hp : p.Writable) {r : Response}
    (h : mode.receive fracOk p = .ok r) : CycleTLS.receive fracOk p = .ok r := by
  rw [FFIMode.receive] at h
  cases hfetch : mode.fetch p with
  | none =>
    rw [hfetch] at h
    cases h
  | some m =>
    obtain rfl := eq_of_fetch hp hfetch
    rw [hfetch, Option.bind_some, ofMessage_toMessage] at h
    exact h

/-- The bytes of a body, or its text where there are none. -/
theorem content_of_receive {r : Response}
    (h : receive fracOk (buildResponsePayload id resp) = .ok r) :
    r.content =
      if resp.bodyBytes.length > 0 then resp.bodyBytes else utf8 (bodyText resp.body) := by
  rw [receive] at h
  cases hu : unpack (buildResponsePayload id resp) with
  | none =>
    rw [hu] at h
    cases h
  | some d =>
    rw [hu] at h
    obtain ⟨-, cs, -, rfl⟩ := dictToResponse_eq_ok_iff.1 h
    obtain ⟨-, -, hd⟩ := (unpack_buildResponsePayload_eq_some_iff id resp d).1 hu
    rw [hd, Response.content]
    dsimp only
    split_ifs with hlen
    · rw [Option.filter_some, if_pos (decide_eq_true hlen)]
      rfl
    · rfl

theorem body_failed_ne_nil (err : GoError) : (Do.failed err).body ≠ [] := by
  have hsep : utf8 " -> " ≠ [] := by decide
  simp [Do.failed, hsep]

/-- The content of a response is the body that `Do` has returned, but for the text of a
    failure that is not UTF-8. MessagePack has to be able to write the payload. -/
theorem content_eq_body_iff (mode : FFIMode) (fracOk : Nat → Bool) (id : String)
    {resp : GoResponse} (hdo : Do.Returns resp) (hp : (buildResponsePayload id resp).Writable)
    {r : Response} (hr : mode.receive fracOk (buildResponsePayload id resp) = .ok r) :
    r.content = resp.body ↔
      ∀ err, resp = Do.failed err → (decode (Do.failed err).body).isSome = true := by
  rw [content_of_receive (FFIMode.receive_of_receive hp hr)]
  cases hdo with
  | received status bodyBytes headers cookies finalUrl proto =>
    refine iff_of_true ?_ fun err heq => ?_
    · show (if bodyBytes.length > 0 then bodyBytes else utf8 (bodyText bodyBytes)) = bodyBytes
      split_ifs with hlen
      · rfl
      · rw [List.length_eq_zero_iff.1 (by omega : bodyBytes.length = 0)]
        exact utf8_bodyText []
    · -- A failed exchange has a text and no bytes.
      have hbytes : bodyBytes = [] := congrArg GoResponse.bodyBytes heq
      have hbody : bodyBytes = (Do.failed err).body := congrArg GoResponse.body heq
      exact absurd (hbody.symm.trans hbytes) (body_failed_ne_nil err)
  | failed err =>
    have hbytes : (Do.failed err).bodyBytes = [] := rfl
    rw [hbytes, List.length_nil, if_neg (Nat.lt_irrefl 0), utf8_bodyText]
    constructor
    · intro h err' heq
      rw [← heq]
      by_contra hnone
      rw [if_neg hnone] at h
      exact body_failed_ne_nil err h.symm
    · intro h
      rw [if_pos (h err rfl)]

theorem content_eq_body_ok : ∃ r, FFIMode.base64.receive (fun _ => true)
      (buildResponsePayload "1" (Do.received 200 [0x00, 0xff] [] [] [] "HTTP/1.1")) = .ok r ∧
    (r.content = [0x00, 0xff] ↔ ∀ err, Do.received 200 [0x00, 0xff] [] [] [] "HTTP/1.1" =
      Do.failed err → (decode (Do.failed err).body).isSome = true) := by
  have hwritable : (buildResponsePayload "1"
      (Do.received 200 [0x00, 0xff] [] [] [] "HTTP/1.1")).Writable := by
    rw [writable_iff]
    refine ⟨by decide, by decide, by decide, ⟨by decide, fun h hh => absurd hh List.not_mem_nil⟩,
      by decide, ⟨by decide, fun c hc => absurd hc List.not_mem_nil⟩, ?_, ?_⟩
    · rintro s ⟨⟩
      decide
    · rintro b ⟨⟩
      decide
  have hdeliverable : Deliverable (fun _ => true)
      (Do.received 200 [0x00, 0xff] [] [] [] "HTTP/1.1") := by
    refine ⟨fun h hh => absurd hh List.not_mem_nil, by decide,
      fun c hc => absurd hc List.not_mem_nil, fun h => h.1 (by decide)⟩
  obtain ⟨r, hr, -⟩ := (delivers_iff "1" _ rfl).2 hdeliverable
  have hlen : FFIMode.base64 = .zeroCopy → (buildResponsePayload "1"
      (Do.received 200 [0x00, 0xff] [] [] [] "HTTP/1.1")).marshal.length < 2 ^ 31 := nofun
  have hreceive := (FFIMode.receive_eq hwritable hlen).trans hr
  exact ⟨r, hreceive, content_eq_body_iff .base64 _ _ (.received ..) hwritable hreceive⟩

/-- `Proxy responded with non 200 code: 302 \xff StatusCode:302`. -/
def proxyReply : GoError :=
  .urlError "Get" "\"https://h/\"" (.other (utf8 "Proxy responded with non 200 code: 302 " ++
    [0xff] ++ utf8 " StatusCode:302") false)

theorem status_proxyReply : (Do.failed proxyReply).status = 302 := by decide +kernel

theorem decode_proxyReply : decode (Do.failed proxyReply).body = none := by
  have htext : ¬(decode proxyReply.text).isSome = true := by
    rw [proxyReply, GoError.text, WrappedError.text, isSome_decode_utf8_append, List.append_assoc,
      isSome_decode_utf8_append]
    decide
  rw [← Option.not_isSome_iff_eq_none, Do.failed,
    isSome_decode_join (p := " -> ") (by decide) (by decide)]
  exact fun h => htext h.2

theorem payload_proxyReply : buildResponsePayload "1" (Do.failed proxyReply) =
    ⟨"1", 302, [], [], [], some "", none, []⟩ := by
  rw [buildResponsePayload, status_proxyReply, decode_proxyReply]
  rfl

/-- In neither mode does the text of such an error arrive. -/
theorem not_forall_content_eq_body : ¬∃ mode : FFIMode, ∀ (resp : GoResponse) (r : Response),
    Do.Returns resp → mode.receive (fun _ => true) (buildResponsePayload "1" resp) = .ok r →
      r.content = resp.body := by
  rintro ⟨mode, h⟩
  have hwritable : (buildResponsePayload "1" (Do.failed proxyReply)).Writable := by
    rw [payload_proxyReply, writable_iff]
    refine ⟨by decide, by decide, by decide, ⟨by decide, fun h hh => absurd hh List.not_mem_nil⟩,
      by decide, ⟨by decide, fun c hc => absurd hc List.not_mem_nil⟩, ?_, fun b hb => nomatch hb⟩
    rintro s ⟨⟩
    decide
  have hlen : (buildResponsePayload "1" (Do.failed proxyReply)).marshal.length < 2 ^ 31 := by
    rw [payload_proxyReply]
    decide
  obtain ⟨r, hr⟩ : ∃ r, receive (fun _ => true) (buildResponsePayload "1" (Do.failed proxyReply)) =
      .ok r := by
    rw [receive_failed]
    have hraise : raiseForErrorResponse (failedDict "1" proxyReply) = .ok () :=
      if_pos (by rw [failedDict, status_proxyReply]; decide)
    exact ⟨_, dictToResponse_eq_ok_iff.2 ⟨⟨(), hraise⟩, none, rfl, rfl⟩⟩
  have hcontent := h _ r (.failed proxyReply)
    ((FFIMode.receive_eq hwritable fun _ => hlen).trans hr)
  rw [content_of_receive hr, bodyText, decode_proxyReply] at hcontent
  exact body_failed_ne_nil proxyReply hcontent.symm

end CycleTLS
