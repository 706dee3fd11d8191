import CycleTLS.SSE

/-!
# Streams that fail (`sse.go`, `ffi.go`, `sse.py`)

With the error of a read that fails, `sseNextEvent` says that the stream has ended, and
`next_event` looks for the end before it looks for an error. So a call in which reading fails
returns `None`, whatever was read before, and an `SSEError` is never raised for it: the answers
to a caller are honest exactly as long as nothing fails (`honest_iff`).
-/

namespace CycleTLS

open MsgPack Utf8

/-- A call of `next_event`, on a connection as it is before the call. -/
structure NextCall where
  before : SSEConnection
  next : NextEvent

/-- The calls of a caller that asks for events while it gets some, followed for `n` of them. -/
def SSEConnection.calls (n : Nat) (c : SSEConnection) : List NextCall :=
  Iteration.results (fun c => (⟨c, c.nextEvent.1⟩, c.nextEvent.2)) (·.next.isEvent) n c

namespace NextCall

variable (call : NextCall)

/-- The response that is read in the call. -/
def response : Option SSEResponse := call.before.handle.bind call.before.conns

/-- A failure is raised, the end is `None`, and nothing else is taken for the end. Of an event
    that MessagePack has no length for nothing is said. -/
def Honest : Prop :=
  ∀ r, call.response = some r →
    match r.nextEvent.1 with
    | .error err => call.next = .sseError (.str err)
    | .ok none => call.next = .ended
    | .ok (some event) => event.data.length < 2 ^ 32 → call.next ≠ .ended

end NextCall

/-- Reading fails before the end of an event: no empty line follows one of data. -/
def SSEResponse.Broken (r : SSEResponse) : Prop :=
  r.err.isSome = true ∧ ∀ before after, r.lines = before ++ [] :: after →
    ∀ line ∈ before, (parseField line).1 ≠ utf8 "data"

/-! ## Where reading fails -/

theorem data_process_eq_nil_iff {p : Pending} {line : Bytes} :
    (p.process line).data = [] ↔ p.data = [] ∧ (parseField line).1 ≠ utf8 "data" := by
  rw [Pending.process]
  by_cases hcomment : utf8 ":" <+: line
  · obtain ⟨rest, rfl⟩ := hcomment
    have hname : (parseField (utf8 ":" ++ rest)).1 ≠ utf8 "data" := by
      change [] ≠ utf8 "data"
      decide
    rw [if_pos (List.prefix_append _ _), and_iff_left hname]
  · rw [if_neg hcomment]
    dsimp only
    by_cases hevent : (parseField line).1 = utf8 "event"
    · have hname : (parseField line).1 ≠ utf8 "data" := by
        rw [hevent]
        decide
      rw [if_pos hevent, and_iff_left hname]
    · rw [if_neg hevent]
      by_cases hdata : (parseField line).1 = utf8 "data"
      · rw [if_pos hdata]
        exact iff_of_false (List.append_ne_nil_of_right_ne_nil _ (List.cons_ne_nil _ _))
          fun h => h.2 hdata
      · rw [if_neg hdata, and_iff_left hdata]
        split_ifs
        · rfl
        · rfl
        · split <;> rfl
        · rfl

/-- Reading fails with the error of the stream, if nothing that is read closes an event. -/
theorem readEvent_eq_error_iff {err : Option Bytes} {p : Pending} {lines : List Bytes}
    {e : Bytes} : (readEvent err p lines).1 = .error e ↔ err = some e ∧
      ∀ before after, lines = before ++ [] :: after →
        p.data = [] ∧ ∀ line ∈ before, (parseField line).1 ≠ utf8 "data" := by
  induction lines generalizing p with
  | nil =>
    have hnil (before after : List Bytes) : [] ≠ before ++ [] :: after :=
      (List.append_ne_nil_of_right_ne_nil _ (List.cons_ne_nil _ _)).symm
    cases err with
    | none => exact iff_of_false (by rintro ⟨⟩) fun h => by cases h.1
    | some e' =>
      rw [readEvent, and_iff_left fun before after h => absurd h (hnil before after)]
      simp
  | cons line lines ih =>
    by_cases hline : line = []
    · subst hline
      by_cases hdata : p.data = []
      · have hread : readEvent err p ([] :: lines) = readEvent err p lines := by
          rw [readEvent, if_pos rfl, hdata]
          rfl
        rw [hread, ih]
        refine and_congr_right fun _ => ⟨fun h before after heq => ?_, fun h before after heq => ?_⟩
        · cases before with
          | nil => exact ⟨hdata, fun _ hmem => absurd hmem List.not_mem_nil⟩
          | cons first before =>
            obtain ⟨rfl, hrest⟩ := List.cons.inj heq
            exact ⟨hdata, List.forall_mem_cons.2 ⟨by decide, (h before after hrest).2⟩⟩
        · obtain ⟨-, hall⟩ := h ([] :: before) after (congrArg _ heq)
          exact ⟨hdata, (List.forall_mem_cons.1 hall).2⟩
      · have hread : readEvent err p ([] :: lines) = (.ok (some p.complete), lines) := by
          rw [readEvent, if_pos rfl, if_pos (List.length_pos_iff.2 hdata)]
        rw [hread]
        exact iff_of_false (by rintro ⟨⟩) fun h => hdata (h.2 [] lines rfl).1
    · have hread : readEvent err p (line :: lines) = readEvent err (p.process line) lines := by
        rw [readEvent, if_neg hline]
      rw [hread, ih]
      simp only [data_process_eq_nil_iff]
      refine and_congr_right fun _ => ⟨fun h before after heq => ?_, fun h before after heq => ?_⟩
      · cases before with
        | nil => exact absurd (List.cons.inj heq).1 hline
        | cons first before =>
          obtain ⟨rfl, hrest⟩ := List.cons.inj heq
          obtain ⟨⟨hdata, hname⟩, hall⟩ := h before after hrest
          exact ⟨hdata, List.forall_mem_cons.2 ⟨hname, hall⟩⟩
      · obtain ⟨hdata, hall⟩ := h (line :: before) after (congrArg _ heq)
        obtain ⟨hname, hall⟩ := List.forall_mem_cons.1 hall
        exact ⟨⟨hdata, hname⟩, hall⟩

theorem broken_iff {r : SSEResponse} : r.Broken ↔ ∃ e, r.nextEvent.1 = .error e := by
  simp only [SSEResponse.nextEvent, readEvent_eq_error_iff, exists_and_right, SSEResponse.Broken,
    Option.isSome_iff_exists]
  refine and_congr_right fun _ => forall_congr' fun before => forall_congr' fun after => ?_
  exact imp_congr_right fun _ => (and_iff_right trivial).symm

/-! ## What is read is short -/

theorem length_lt_of_mem_scanLines {line body : Bytes} (hline : line.length < maxScanTokenSize) :
    ∀ l ∈ (scanLines line body).1, l.length < maxScanTokenSize := by
  have hdropCR (line : Bytes) : (scanLines.dropCR line).length ≤ line.length := by
    rw [scanLines.dropCR]
    split_ifs
    · rw [List.length_dropLast]
      exact Nat.sub_le _ _
    · exact Nat.le_refl _
  induction body generalizing line with
  | nil =>
    rw [scanLines]
    split_ifs
    · exact fun _ hl => absurd hl List.not_mem_nil
    · exact List.forall_mem_singleton.2 ((hdropCR line).trans_lt hline)
  | cons c body ih =>
    rw [scanLines]
    split_ifs with hc hfull
    · exact List.forall_mem_cons.2 ⟨(hdropCR line).trans_lt hline, ih (by decide)⟩
    · exact fun _ hl => absurd hl List.not_mem_nil
    · refine ih ?_
      rw [List.length_append, List.length_singleton]
      omega

theorem SSEEvent.Small.process {p : Pending} (h : p.event.Small) {line : Bytes}
    (hline : line.length < 2 ^ 32) : (p.process line).event.Small := by
  have hvalue := (length_parseField_le line).trans_lt hline
  rw [Pending.process]
  dsimp only
  split_ifs
  · exact h
  · exact ⟨h.id, hvalue, h.retry⟩
  · exact h
  · exact h
  · exact ⟨hvalue, h.event, h.retry⟩
  · split
    · next retry hn => exact ⟨h.id, h.event, atoi_bounds hn⟩
    · exact h
  · exact h

/-- Of short lines, events are short, and what is left are some of the lines. -/
theorem small_readEvent {err : Option Bytes} {p : Pending} {lines : List Bytes}
    (hp : p.event.Small) (hlines : ∀ line ∈ lines, line.length < 2 ^ 32) :
    (∀ e, (readEvent err p lines).1 = .ok (some e) → e.Small) ∧
      ∀ line ∈ (readEvent err p lines).2, line.length < 2 ^ 32 := by
  have hcomplete : p.complete.Small := ⟨hp.id, hp.event, hp.retry⟩
  induction lines generalizing p with
  | nil =>
    cases err with
    | some e => exact ⟨nofun, fun _ hl => absurd hl List.not_mem_nil⟩
    | none =>
      refine ⟨fun e he => ?_, fun _ hl => absurd hl List.not_mem_nil⟩
      rw [readEvent] at he
      cases hdata : p.inData with
      | true =>
        rw [hdata] at he
        cases he
        exact hcomplete
      | false =>
        rw [hdata] at he
        cases he
  | cons line lines ih =>
    obtain ⟨hline, hlines⟩ := List.forall_mem_cons.1 hlines
    rw [readEvent]
    split_ifs
    · refine ⟨fun e he => ?_, hlines⟩
      cases he
      exact hcomplete
    · exact ih hp hlines hcomplete
    · have hprocess := hp.process hline
      exact ih hprocess hlines ⟨hprocess.id, hprocess.event, hprocess.retry⟩

/-! ## What a call makes of it -/

/-- A message that comes through in 4 GiB is the one that was sent. -/
theorem eq_of_bind_toPython {m result : Message} (h : m.Fits (fun _ => true) 1024)
    (hresult : (FFIMode.base64.toPython m.toBytes).bind unpackb = some result) : result = m := by
  rw [toPython_base64, Option.bind_some, unpackb, ← List.take_length (l := m.toBytes)] at hresult
  exact (Message.eq_of_ofBytes_take h hresult).1

/-- An error is never raised. -/
theorem ofResult_error_ne (err : Bytes) :
    NextEvent.ofResult (.error err) ≠ .sseError (.str err) := by
  intro h
  rw [NextEvent.ofResult] at h
  split at h
  · next result hresult =>
    have hlength : err.length < 2 ^ 32 := by
      obtain ⟨b, -, hunpack⟩ := Option.bind_eq_some_iff.1 hresult
      rw [NextEvent.ofMessage] at h
      split_ifs at h
      split at h
      · next message hkey =>
        cases h
        exact length_lt_of_unpackb hunpack hkey
      · cases h
    have hfits : (eventMessage (.error err)).Fits (fun _ => true) 1024 := by
      have hkeys : (utf8 "eof").length < 4294967296 ∧ (utf8 "error").length < 4294967296 := by
        decide
      have hlength' : err.length < 4294967296 := hlength
      rw [eventMessage, Message.fits_map_iff]
      simp [packEntry, hkeys, hlength']
    rw [eq_of_bind_toPython hfits hresult, ofMessage_error] at h
    cases h
  · cases h

/-- An event that is short enough is not taken for the end. -/
theorem ofResult_ne_ended {e : SSEEvent} (h : e.Small) (hdata : e.data.length < 2 ^ 32) :
    NextEvent.ofResult (.ok (some e)) ≠ .ended := by
  obtain ⟨heof, herror, -, -⟩ := getKey_eventMessage e
  rw [NextEvent.ofResult]
  split
  · next result hresult =>
    have hfits : (eventMessage (.ok (some e))).Fits (fun _ => true) 1024 :=
      fits_eventMessage h (fun _ => rfl) rfl rfl rfl hdata
    rw [eq_of_bind_toPython hfits hresult, NextEvent.ofMessage, heof, herror]
    rintro ⟨⟩
  · rintro ⟨⟩

namespace SSEConnection

variable {handle : Nat} {r : SSEResponse} {c : SSEConnection}

/-- Python reads from a response with some error, of which short lines are left. -/
def Open (handle : Nat) (err : Option Bytes) (c : SSEConnection) : Prop :=
  ∃ lines, c = reading handle ⟨lines, err⟩ ∧ ∀ line ∈ lines, line.length < 2 ^ 32

theorem response_reading (next : NextEvent) :
    NextCall.response ⟨reading handle r, next⟩ = some r := by
  rw [NextCall.response, reading]
  simp only [Option.bind_some, Function.update_self]

/-- A call is honest exactly if nothing fails. -/
theorem honest_reading_iff (hzero : handle ≠ 0)
    (hlines : ∀ line ∈ r.lines, line.length < 2 ^ 32) :
    NextCall.Honest ⟨reading handle r, (reading handle r).nextEvent.1⟩ ↔ ¬r.Broken := by
  rw [NextCall.Honest, response_reading, broken_iff, (nextEvent_reading hzero).1]
  simp only [Option.some.injEq, forall_eq']
  have hsmall : ∀ e, r.nextEvent.1 = .ok (some e) → e.Small :=
    (small_readEvent (p := {}) ⟨by decide, by decide, by decide⟩ hlines).1
  cases hnext : r.nextEvent.1 with
  | error err => exact iff_of_false (ofResult_error_ne err) fun h => h ⟨err, rfl⟩
  | ok event =>
    refine iff_of_true ?_ nofun
    cases event with
    | none => exact ofResult_none
    | some event => exact fun hdata => ofResult_ne_ended (hsmall event hnext) hdata

theorem open_of_connect {body : Bytes} {err : Option Bytes}
    (h : connect handle (.ofBody body err) = some c) :
    handle ≠ 0 ∧ c.Open handle (SSEResponse.ofBody body err).err := by
  obtain ⟨hzero, rfl⟩ := connect_eq_some_iff.1 h
  refine ⟨hzero, (scanLines [] body).1, rfl, fun line hmem => ?_⟩
  exact (length_lt_of_mem_scanLines (by decide) line hmem).trans (by decide)

/-- What holds of each call on an open connection holds of the calls of a caller. -/
theorem forall_mem_calls {err : Option Bytes} {P : NextCall → Prop} (hzero : handle ≠ 0)
    (hc : c.Open handle err) (hP : ∀ c : SSEConnection, c.Open handle err →
      P ⟨c, c.nextEvent.1⟩) (n : Nat) : ∀ call ∈ c.calls n, P call := by
  refine Iteration.forall_mem_results (fun c hopen => ⟨hP c hopen, fun hevent => ?_⟩) hc
  obtain ⟨lines, rfl, hlines⟩ := hopen
  refine ⟨_, (nextEvent_reading hzero).2 hevent, ?_⟩
  exact (small_readEvent (p := {}) ⟨by decide, by decide, by decide⟩ hlines).2

/-- The calls of a caller are honest exactly if reading fails in none of them. -/
theorem honest_iff {body : Bytes} {err : Option Bytes} {n : Nat}
    (h : connect handle (.ofBody body err) = some c) : (∀ call ∈ c.calls n, call.Honest) ↔
      ∀ call ∈ c.calls n, ∀ r, call.response = some r → ¬r.Broken := by
  obtain ⟨hzero, hopen⟩ := open_of_connect h
  refine forall₂_congr (forall_mem_calls hzero hopen (fun c hc => ?_) n)
  obtain ⟨lines, rfl, hlines⟩ := hc
  simp only [response_reading, Option.some.injEq, forall_eq']
  exact honest_reading_iff hzero hlines

/-- A stream with an event that does not fail. -/
theorem honest_event : ∃ c, connect 1 (.ofBody (utf8 "data: x\n\n") none) = some c ∧
    ∀ call ∈ c.calls 2, call.Honest := by
  obtain ⟨c, hc⟩ : ∃ c, connect 1 (.ofBody (utf8 "data: x\n\n") none) = some c := ⟨_, rfl⟩
  obtain ⟨hzero, hopen⟩ := open_of_connect hc
  refine ⟨c, hc, (honest_iff hc).2 (forall_mem_calls hzero hopen (fun c hc r hr => ?_) 2)⟩
  obtain ⟨lines, rfl, -⟩ := hc
  rw [response_reading] at hr
  cases hr
  exact fun hbroken => nomatch hbroken.1

/-- A connection that is reset before an event. -/
theorem not_forall_honest : ¬∀ (handle : Nat) (body : Bytes) (err : Option Bytes) (n : Nat)
    (c : SSEConnection), connect handle (.ofBody body err) = some c →
      ∀ call ∈ c.calls n, call.Honest := by
  intro h
  have hcall := h 1 [] (some (utf8 "read: connection reset by peer")) 1 _ rfl _
    (List.mem_cons_self ..)
  refine (honest_reading_iff Nat.one_ne_zero ?_).1 hcall ⟨rfl, ?_⟩
  · exact fun _ hl => absurd hl List.not_mem_nil
  · exact fun before after heq => absurd heq.symm
      (List.append_ne_nil_of_right_ne_nil _ (List.cons_ne_nil _ _))

end SSEConnection

end CycleTLS
