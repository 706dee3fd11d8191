import CycleTLS.SSE

/-!
# Event loops of streams (`dispatchSSEAsync` in `index.go`)

The loop asks for the next event until there is an error. The end of a stream is none: there,
`NextEvent` returns no event and no error, and the loop asks again (`eventLoop_eq_none`). So it
is left only where the scanner gives up at a line that is too long, and all events are sent only
if none is lost there (`loopEnds_iff`). What is sent if the loop is left are events of the
stream, in order, and one end (`eventLoop_eq_some`).
-/

namespace CycleTLS

/-! ## The source -/

/-- The frames that are written for a request, but for its response. -/
inductive SSEFrame
  | data (event : SSEEvent)
  | endMessage

/-- The event loop of `dispatchSSEAsync`, and the end that is sent behind it: for each iteration
    whether the context is done. There is no result if the loop goes on after these. -/
def eventLoop : List Bool → SSEResponse → Option (List SSEFrame)
  | [], _ => none
  | true :: _, _ => some [.endMessage]
  | false :: done, r =>
    match r.nextEvent with
    | (.error _, _) => some [.endMessage]
    | (.ok none, r) => eventLoop done r
    | (.ok (some event), r) => (eventLoop done r).map (.data event :: ·)

/-! ## Streams -/

/-- The events that lines close, after an event that is read, and the one that they leave. -/
def feed : Pending → List Bytes → List SSEEvent × Pending
  | p, [] => ([], p)
  | p, line :: lines =>
    if line = [] then
      if p.data.length > 0 then (p.complete :: (feed {} lines).1, (feed {} lines).2)
      else feed p lines
    else feed (p.process line) lines

/-- The events of some lines, also of one that is left incomplete. -/
def eventsOf (lines : List Bytes) : List SSEEvent :=
  (feed {} lines).1 ++ if (feed {} lines).2.inData then [(feed {} lines).2.complete] else []

/-- The lines of a body of which one is begun, of any length. -/
def bodyLines : Bytes → Bytes → List Bytes
  | line, [] => if line = [] then [] else [scanLines.dropCR line]
  | line, c :: body =>
    if c = 0x0a then scanLines.dropCR line :: bodyLines [] body else bodyLines (line ++ [c]) body

/-- The loop ends for a body that the server closes: a frame for each event is sent in order, and
    one end. -/
def LoopEnds (body : Bytes) : Prop :=
  ∃ n, eventLoop (List.replicate n false) (.ofBody body none) =
    some ((eventsOf (bodyLines [] body)).map .data ++ [.endMessage])

/-! ## One call -/

/-- What a call of `NextEvent` gives: the next event that is closed, or all that is left. -/
inductive Reading (err : Option Bytes) (p : Pending) (lines : List Bytes) : Prop
  | event (event : SSEEvent) (rest : List Bytes)
      (read : readEvent err p lines = (.ok (some event), rest))
      (shorter : rest.length < lines.length)
      (closed : feed p lines = (event :: (feed {} rest).1, (feed {} rest).2))
  | ended (none : err = none)
      (read : readEvent err p lines =
        (.ok (if (feed p lines).2.inData then some (feed p lines).2.complete else Option.none), []))
      (closed : (feed p lines).1 = [])
  | failed (e : Bytes) (some : err = some e) (read : readEvent err p lines = (.error e, []))
      (closed : (feed p lines).1 = [])

theorem reading (err : Option Bytes) (p : Pending) (lines : List Bytes) : Reading err p lines := by
  induction lines generalizing p with
  | nil =>
    cases err with
    | none => exact .ended rfl rfl rfl
    | some e => exact .failed e rfl rfl rfl
  | cons line lines ih =>
    -- a line that closes no event leaves the call to the lines behind it
    have hskip {q : Pending} (hread : readEvent err p (line :: lines) = readEvent err q lines)
        (hfeed : feed p (line :: lines) = feed q lines) : Reading err p (line :: lines) := by
      cases ih q with
      | event event rest read shorter closed =>
        exact .event event rest (hread.trans read) (Nat.lt_succ_of_lt shorter) (hfeed.trans closed)
      | ended none read closed => exact .ended none (hread.trans (hfeed ▸ read)) (hfeed ▸ closed)
      | failed e some read closed => exact .failed e some (hread.trans read) (hfeed ▸ closed)
    by_cases hline : line = []
    · by_cases hdata : p.data.length > 0
      · refine .event p.complete lines ?_ (Nat.lt_succ_self _) ?_
        · rw [readEvent, if_pos hline, if_pos hdata]
        · rw [feed, if_pos hline, if_pos hdata]
      · refine hskip (q := p) ?_ ?_
        · rw [readEvent, if_pos hline, if_neg hdata]
        · rw [feed, if_pos hline, if_neg hdata]
    · refine hskip (q := p.process line) ?_ ?_
      · rw [readEvent, if_neg hline]
      · rw [feed, if_neg hline]

/-! ## The loop -/

section

variable {r : SSEResponse} {done : List Bool}

theorem eventLoop_of_event {event : SSEEvent} {rest : List Bytes}
    (h : readEvent r.err {} r.lines = (.ok (some event), rest)) :
    eventLoop (false :: done) r =
      (eventLoop done { r with lines := rest }).map (.data event :: ·) := by
  rw [eventLoop, SSEResponse.nextEvent, h]

theorem eventLoop_of_none {rest : List Bytes} (h : readEvent r.err {} r.lines = (.ok none, rest)) :
    eventLoop (false :: done) r = eventLoop done { r with lines := rest } := by
  rw [eventLoop, SSEResponse.nextEvent, h]

theorem eventLoop_of_error {e : Bytes} {rest : List Bytes}
    (h : readEvent r.err {} r.lines = (.error e, rest)) :
    eventLoop (false :: done) r = some [.endMessage] := by
  rw [eventLoop, SSEResponse.nextEvent, h]

end

/-- A loop over a stream that ends without an error is not left. -/
theorem eventLoop_eq_none {r : SSEResponse} (h : r.err = none) (n : Nat) :
    eventLoop (List.replicate n false) r = none := by
  induction n generalizing r with
  | zero => rfl
  | succ n ih =>
    have hrest (lines : List Bytes) :
        eventLoop (List.replicate n false) { r with lines := lines } = none := ih h
    rw [List.replicate_succ]
    cases reading r.err {} r.lines with
    | event event rest read => rw [eventLoop_of_event read, hrest, Option.map_none]
    | ended _ read =>
      split_ifs at read
      · rw [eventLoop_of_event read, hrest, Option.map_none]
      · rw [eventLoop_of_none read, hrest]
    | failed e some => cases h.symm.trans some

theorem eventsOf_of_closed {lines rest : List Bytes} {event : SSEEvent}
    (h : feed {} lines = (event :: (feed {} rest).1, (feed {} rest).2)) :
    eventsOf lines = event :: eventsOf rest := by
  rw [eventsOf, h, List.cons_append, eventsOf]

/-- What is sent if the loop is left, for whatever reason: events of the stream, in order, and
    one end. -/
theorem eventLoop_eq_some {done : List Bool} {r : SSEResponse} {frames : List SSEFrame}
    (h : eventLoop done r = some frames) :
    ∃ events, events <+: eventsOf r.lines ∧ frames = events.map .data ++ [.endMessage] := by
  have hend {lines : List Bytes} {frames : List SSEFrame}
      (hframes : some [.endMessage] = some frames) :
      ∃ events, events <+: eventsOf lines ∧ frames = events.map .data ++ [.endMessage] :=
    ⟨[], List.nil_prefix, (Option.some.inj hframes).symm⟩
  induction done generalizing r frames with
  | nil => cases h
  | cons d done ih =>
    cases d with
    | true => exact hend h
    | false =>
      cases reading r.err {} r.lines with
      | event event rest read _ closed =>
        rw [eventLoop_of_event read] at h
        obtain ⟨frames', hframes', rfl⟩ := Option.map_eq_some_iff.1 h
        obtain ⟨events, hprefix, rfl⟩ := ih hframes'
        refine ⟨event :: events, ?_, rfl⟩
        rw [eventsOf_of_closed closed]
        exact List.cons_prefix_cons.2 ⟨rfl, hprefix⟩
      | ended _ read closed =>
        split_ifs at read with hdata
        · rw [eventLoop_of_event read] at h
          obtain ⟨frames', hframes', rfl⟩ := Option.map_eq_some_iff.1 h
          obtain ⟨events, hprefix, rfl⟩ := ih hframes'
          refine ⟨_ :: events, ?_, rfl⟩
          rw [eventsOf, closed, if_pos hdata]
          exact List.cons_prefix_cons.2 ⟨rfl, hprefix⟩
        · rw [eventLoop_of_none read] at h
          obtain ⟨events, hprefix, rfl⟩ := ih h
          exact ⟨events, hprefix.trans List.nil_prefix, rfl⟩
      | failed e _ read => exact hend ((eventLoop_of_error read).symm.trans h)

/-- With an error at the end of the stream, the loop sends the events that are closed before. -/
theorem eventLoop_of_err {r : SSEResponse} {e : Bytes} (h : r.err = some e) {n : Nat}
    {frames : List SSEFrame} : eventLoop (List.replicate n false) r = some frames ↔
      (feed {} r.lines).1.length < n ∧
        frames = (feed {} r.lines).1.map .data ++ [.endMessage] := by
  induction n generalizing r frames with
  | zero => exact iff_of_false nofun fun h => absurd h.1 (Nat.not_lt_zero _)
  | succ n ih =>
    have hrest (lines : List Bytes) (frames : List SSEFrame) :=
      @ih { r with lines := lines } h frames
    rw [List.replicate_succ]
    cases reading r.err {} r.lines with
    | event event rest read _ closed =>
      rw [eventLoop_of_event read, closed, Option.map_eq_some_iff]
      simp only [hrest, List.length_cons, List.map_cons, List.cons_append, Nat.succ_lt_succ_iff]
      constructor
      · rintro ⟨frames', ⟨hlt, rfl⟩, rfl⟩
        exact ⟨hlt, rfl⟩
      · rintro ⟨hlt, rfl⟩
        exact ⟨_, ⟨hlt, rfl⟩, rfl⟩
    | ended none => cases none.symm.trans h
    | failed _ _ read closed =>
      rw [eventLoop_of_error read, closed]
      exact ⟨fun h => ⟨Nat.succ_pos n, (Option.some.inj h).symm⟩, fun h => congrArg some h.2.symm⟩

/-! ## Bodies -/

/-- The loop ends and sends all events if and only if there is a line that is too long, and the
    lines before it close all events of the stream. -/
theorem loopEnds_iff (body : Bytes) : LoopEnds body ↔ (scanLines [] body).2 = true ∧
    (feed {} (scanLines [] body).1).1 = eventsOf (bodyLines [] body) := by
  have hlines : (SSEResponse.ofBody body none).lines = (scanLines [] body).1 := rfl
  cases hlong : (scanLines [] body).2 with
  | false =>
    have herr : (SSEResponse.ofBody body none).err = none := by
      rw [SSEResponse.ofBody, hlong, if_neg Bool.false_ne_true]
    refine iff_of_false ?_ fun h => by cases h.1
    rintro ⟨n, hn⟩
    cases (eventLoop_eq_none herr n).symm.trans hn
  | true =>
    have herr : (SSEResponse.ofBody body none).err =
        some (Utf8.utf8 "bufio.Scanner: token too long") := by
      rw [SSEResponse.ofBody, hlong, if_pos rfl]
    have hinjective : Function.Injective (List.map SSEFrame.data) :=
      List.map_injective_iff.2 fun _ _ h => SSEFrame.data.inj h
    rw [LoopEnds, and_iff_right rfl]
    simp only [eventLoop_of_err herr, hlines, exists_and_right]
    rw [and_iff_right ⟨_, Nat.lt_succ_self _⟩, List.append_left_inj, hinjective.eq_iff, eq_comm]

/-- A stream with one event is enough. -/
theorem not_forall_loopEnds : ¬∀ body, LoopEnds body := by
  intro h
  obtain ⟨n, hn⟩ := h (Utf8.utf8 "data: a\n\n")
  have herr : (SSEResponse.ofBody (Utf8.utf8 "data: a\n\n") none).err = none := by decide +kernel
  cases (eventLoop_eq_none herr n).symm.trans hn

end CycleTLS
