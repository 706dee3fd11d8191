import CycleTLS.Frames

/-!
# The body of a response as frames (`dispatcherAsync` in `index.go`)

After the response, the body is read and sent as frames until it ends or fails, the request is
canceled, or the channel is closed (`bodyLoop`). A read without bytes is tried again, and the
bytes of a read are sent also if the body ends there, but not if it fails there. So if nothing
else intervenes, what is sent are the bytes that were read, in order, then an error if there was
one, and one end (`dispatcherAsync_of_reads`).
-/

namespace CycleTLS

open Utf8

/-! ## The source -/

/-- How a `Read` of the body ends it. -/
inductive BodyError
  /-- `io.EOF`. -/
  | eof
  | other (err : GoError)

/-- What a `Read` of the body returns: the bytes in the buffer, which is of 8192 bytes, and an
    error. -/
structure BodyRead where
  bytes : Bytes
  err : Option BodyError
  length_le : bytes.length ≤ 8192

/-- An iteration of the loop. -/
structure BodyTurn where
  /-- The context is done before the read. -/
  done : Bool
  read : BodyRead
  /-- The context is done after the read. -/
  canceled : Bool
  /-- A write to the channel succeeds. -/
  written : Bool

/-- An iteration in which nothing intervenes. -/
def BodyRead.turn (r : BodyRead) : BodyTurn := ⟨false, r, false, true⟩

/-- The frame for a failed read. -/
def readError (err : GoError) : ChannelFrame :=
  .error (parseError err).statusCode.toNat (parseError err).errorMsg

/-- The loop over the body: the frames that are written, and whether it is left to the end
    message. There is no result if the loop goes on after these iterations. -/
def bodyLoop : List BodyTurn → Option (List ChannelFrame × Bool)
  | [] => none
  | t :: turns =>
    if t.done then some ([], true)
    else if t.canceled then some ([], true)
    else
      match t.read.err with
      | some (.other err) => if t.written then some ([readError err], true) else some ([], false)
      | some .eof =>
        if t.read.bytes.length > 0 then
          if t.written then some ([.data t.read.bytes], true) else some ([], false)
        else some ([], true)
      | none =>
        if t.read.bytes.length = 0 then bodyLoop turns
        else if t.written then
          (bodyLoop turns).map fun r => (.data t.read.bytes :: r.1, r.2)
        else some ([], false)

/-- What `Do` returns. -/
structure DoResponse where
  statusCode : Int
  /-- `Request.URL`, where there is one. -/
  url : Option Bytes
  header : HeaderEntries

/-- The frame for a response to a request for `url`. -/
def DoResponse.frame (resp : DoResponse) (url : Bytes) : ChannelFrame :=
  .response resp.statusCode (resp.url.getD url) resp.header

/-- The frames that `dispatcherAsync` writes for a request to `url` that is neither for events nor
    for a WebSocket, given the result of `Do` and whether the first write and the one of the end
    succeed. There is no result if the body goes on. -/
def dispatcherAsync (url : Bytes) (result : Except GoError DoResponse) (first : Bool)
    (turns : List BodyTurn) (last : Bool) : Option (List ChannelFrame) :=
  match result with
  | .error err =>
    some (if first then [.error (parseError err).statusCode.toNat
      ((parseError err).errorMsg ++ utf8 "-> \n" ++ err.text)] else [])
  | .ok resp =>
    if first then
      (bodyLoop turns).map fun r =>
        resp.frame url :: (r.1 ++ if r.2 && last then [.endMessage] else [])
    else some []

/-! ## What is sent -/

/-- The bytes of some reads. -/
def bodyBytes (reads : List BodyRead) : Bytes := (reads.map BodyRead.bytes).flatten

/-- What is sent of some reads: the bytes of those that have any. -/
def chunksOf (reads : List BodyRead) : List Bytes := (reads.map BodyRead.bytes).filter (· ≠ [])

theorem flatten_chunksOf (reads : List BodyRead) : (chunksOf reads).flatten = bodyBytes reads :=
  List.flatten_filter_ne_nil

theorem chunksOf_append (reads reads' : List BodyRead) :
    chunksOf (reads ++ reads') = chunksOf reads ++ chunksOf reads' := by
  rw [chunksOf, List.map_append, List.filter_append]
  rfl

theorem chunksOf_singleton (r : BodyRead) :
    chunksOf [r] = if r.bytes = [] then [] else [r.bytes] := by
  rw [chunksOf, List.map_singleton, List.filter_singleton]
  by_cases hr : r.bytes = [] <;> simp [hr]

section

variable {r : BodyRead} {turns : List BodyTurn}

theorem bodyLoop_of_none (h : r.err = none) : bodyLoop (r.turn :: turns) =
    (bodyLoop turns).map fun p => ((chunksOf [r]).map .data ++ p.1, p.2) := by
  rw [chunksOf_singleton]
  by_cases hr : r.bytes = []
  · -- nothing was read, so the loop goes on
    rw [if_pos hr]
    simp [bodyLoop, BodyRead.turn, h, hr]
  · rw [if_neg hr]
    simp [bodyLoop, BodyRead.turn, h, hr]

theorem bodyLoop_of_eof (h : r.err = some .eof) :
    bodyLoop (r.turn :: turns) = some ((chunksOf [r]).map .data, true) := by
  rw [chunksOf_singleton]
  by_cases hr : r.bytes = []
  · rw [if_pos hr]
    simp [bodyLoop, BodyRead.turn, h, hr]
  · -- the last bytes are sent before the loop is left
    have hlen : 0 < r.bytes.length := List.length_pos_iff.2 hr
    rw [if_neg hr]
    simp [bodyLoop, BodyRead.turn, h, hlen]

theorem bodyLoop_of_other {err : GoError} (h : r.err = some (.other err)) :
    bodyLoop (r.turn :: turns) = some ([readError err], true) := by
  simp [bodyLoop, BodyRead.turn, h]

end

/-- The reads that end nothing are sent first. -/
theorem bodyLoop_append {reads : List BodyRead} (h : ∀ r ∈ reads, r.err = none)
    (turns : List BodyTurn) : bodyLoop (reads.map BodyRead.turn ++ turns) =
      (bodyLoop turns).map fun p => ((chunksOf reads).map .data ++ p.1, p.2) := by
  induction reads with
  | nil => exact Option.map_id'.symm
  | cons r reads ih =>
    obtain ⟨hr, hreads⟩ := List.forall_mem_cons.1 h
    have hsplit : chunksOf (r :: reads) = chunksOf [r] ++ chunksOf reads :=
      chunksOf_append [r] reads
    rw [List.map_cons, List.cons_append, bodyLoop_of_none hr, ih hreads, Option.map_map, hsplit]
    refine congrArg (fun f => Option.map f (bodyLoop turns)) (funext fun p => ?_)
    rw [Function.comp_apply, List.map_append, List.append_assoc]

/-- What an iteration makes of the result of those behind it. -/
inductive TurnResult (t : BodyTurn) (rest : Option (List ChannelFrame × Bool))
    (result : List ChannelFrame × Bool) : Prop
  | stopped (h : result.1 = [])
  | failed (err : GoError) (h : result = ([readError err], true))
  | ended (h : result = ([.data t.read.bytes], true))
  | nothing (empty : t.read.bytes = []) (h : rest = some result)
  | sent (later : List ChannelFrame × Bool) (h : rest = some later)
    (first : result = (.data t.read.bytes :: later.1, later.2))

theorem turnResult {t : BodyTurn} {turns : List BodyTurn} {result : List ChannelFrame × Bool}
    (h : bodyLoop (t :: turns) = some result) : TurnResult t (bodyLoop turns) result := by
  have hstop {b : Bool} (h : some ([], b) = some result) : TurnResult t (bodyLoop turns) result :=
    .stopped (congrArg Prod.fst (Option.some.inj h)).symm
  rw [bodyLoop] at h
  cases hdone : t.done with
  | true => exact hstop (by simpa [hdone] using h)
  | false =>
    cases hcanceled : t.canceled with
    | true => exact hstop (by simpa [hdone, hcanceled] using h)
    | false =>
      rw [hdone, hcanceled, if_neg Bool.false_ne_true, if_neg Bool.false_ne_true] at h
      -- the other exits differ by the error of the read, and by whether the write succeeds
      rcases herr : t.read.err with - | - | err
      · rw [herr] at h
        dsimp only at h
        by_cases hlen : t.read.bytes.length = 0
        · rw [if_pos hlen] at h
          exact .nothing (List.length_eq_zero_iff.1 hlen) h
        · rw [if_neg hlen] at h
          by_cases hwritten : t.written = true
          · rw [if_pos hwritten] at h
            obtain ⟨later, hlater, hresult⟩ := Option.map_eq_some_iff.1 h
            exact .sent later hlater hresult.symm
          · rw [if_neg hwritten] at h
            exact hstop h
      · rw [herr] at h
        dsimp only at h
        by_cases hlen : t.read.bytes.length > 0
        · rw [if_pos hlen] at h
          by_cases hwritten : t.written = true
          · rw [if_pos hwritten] at h
            exact .ended (Option.some.inj h).symm
          · rw [if_neg hwritten] at h
            exact hstop h
        · rw [if_neg hlen] at h
          exact hstop h
      · rw [herr] at h
        dsimp only at h
        by_cases hwritten : t.written = true
        · rw [if_pos hwritten] at h
          exact .failed err (Option.some.inj h).symm
        · rw [if_neg hwritten] at h
          exact hstop h

/-- Whatever intervenes: what is sent are bytes that were read, from the first one on, and then
    at most one error, which the end message follows. -/
theorem bodyLoop_sent {turns : List BodyTurn} {result : List ChannelFrame × Bool}
    (h : bodyLoop turns = some result) :
    ∃ (chunks : List Bytes) (tail : List ChannelFrame),
      result.1 = chunks.map .data ++ tail ∧
      chunks.flatten <+: (turns.map fun t => t.read.bytes).flatten ∧
      (tail = [] ∨ result.2 = true ∧ ∃ err, tail = [readError err]) := by
  induction turns generalizing result with
  | nil => exact absurd h (Option.some_ne_none _).symm
  | cons t turns ih =>
    rw [List.map_cons, List.flatten_cons]
    cases turnResult h with
    | stopped hresult => exact ⟨[], [], hresult, List.nil_prefix, .inl rfl⟩
    | failed err hresult =>
      subst hresult
      exact ⟨[], [readError err], rfl, List.nil_prefix, .inr ⟨rfl, err, rfl⟩⟩
    | ended hresult =>
      subst hresult
      refine ⟨[t.read.bytes], [], rfl, ?_, .inl rfl⟩
      rw [List.flatten_singleton]
      exact List.prefix_append _ _
    | nothing hempty hrest =>
      rw [hempty, List.nil_append]
      exact ih hrest
    | sent later hrest hresult =>
      obtain ⟨chunks, tail, hframes, hprefix, htail⟩ := ih hrest
      subst hresult
      refine ⟨t.read.bytes :: chunks, tail, congrArg (_ :: ·) hframes, ?_, htail⟩
      rw [List.flatten_cons]
      exact (List.prefix_append_right_inj _).2 hprefix

/-- The length of the bytes in a frame fits, as they were in the buffer. -/
theorem fits_of_data_mem {turns : List BodyTurn} {result : List ChannelFrame × Bool}
    (h : bodyLoop turns = some result) {b : Bytes} (hb : .data b ∈ result.1) :
    (ChannelFrame.data b).Fits := by
  have hturn (t : BodyTurn) : (ChannelFrame.data t.read.bytes).Fits :=
    t.read.length_le.trans_lt (by decide)
  induction turns generalizing result with
  | nil => exact absurd h (Option.some_ne_none _).symm
  | cons t turns ih =>
    cases turnResult h with
    | stopped hresult =>
      rw [hresult] at hb
      exact absurd hb List.not_mem_nil
    | failed err hresult =>
      subst hresult
      cases List.mem_singleton.1 hb
    | ended hresult =>
      subst hresult
      cases List.mem_singleton.1 hb
      exact hturn t
    | nothing _ hrest => exact ih hrest hb
    | sent later hrest hresult =>
      subst hresult
      rcases List.mem_cons.1 hb with heq | hb
      · cases heq
        exact hturn t
      · exact ih hrest hb

/-- If neither a cancellation nor a failed write intervenes, the frames after the response have
    the bytes that were read and end with one end message; before it, there is one error if a
    read failed. -/
theorem dispatcherAsync_of_reads (url : Bytes) (resp : DoResponse) {reads : List BodyRead}
    (h : ∀ r ∈ reads, r.err = none) (last : BodyRead) (more : List BodyTurn) :
    (last.err = some .eof → ∃ chunks : List Bytes, chunks.flatten = bodyBytes (reads ++ [last]) ∧
      dispatcherAsync url (.ok resp) true ((reads ++ [last]).map BodyRead.turn ++ more) true =
        some (resp.frame url :: (chunks.map .data ++ [.endMessage]))) ∧
    ∀ err, last.err = some (.other err) → ∃ chunks : List Bytes,
      chunks.flatten = bodyBytes reads ∧
      dispatcherAsync url (.ok resp) true ((reads ++ [last]).map BodyRead.turn ++ more) true =
        some (resp.frame url :: (chunks.map .data ++ [readError err, .endMessage])) := by
  have hturns : (reads ++ [last]).map BodyRead.turn ++ more =
      reads.map BodyRead.turn ++ (last.turn :: more) := by
    rw [List.map_append, List.append_assoc]
    rfl
  rw [hturns, dispatcherAsync, bodyLoop_append h]
  constructor
  · intro hlast
    refine ⟨chunksOf (reads ++ [last]), flatten_chunksOf _, ?_⟩
    rw [bodyLoop_of_eof hlast, chunksOf_append, List.map_append]
    rfl
  · intro err hlast
    refine ⟨chunksOf reads, flatten_chunksOf _, ?_⟩
    rw [bodyLoop_of_other hlast]
    simp

/-- Two reads, one of them without bytes. -/
def someReads : List BodyRead := [⟨[0x61, 0x62], none, by decide⟩, ⟨[], none, by decide⟩]

/-- A read that ends the body with a byte. -/
def finalRead : BodyRead := ⟨[0x63], some .eof, by decide⟩

/-- A read that fails. -/
def failedRead : BodyRead := ⟨[], some (.other .deadlineExceeded), by decide⟩

/-- A body that ends, and one that fails. -/
theorem dispatcherAsync_of_reads_some :
    (∃ chunks : List Bytes, chunks.flatten = bodyBytes (someReads ++ [finalRead]) ∧
      dispatcherAsync [] (.ok ⟨200, none, []⟩) true
        ((someReads ++ [finalRead]).map BodyRead.turn ++ []) true =
          some (.response 200 [] [] :: (chunks.map .data ++ [.endMessage]))) ∧
    ∃ chunks : List Bytes, chunks.flatten = bodyBytes someReads ∧
      dispatcherAsync [] (.ok ⟨200, none, []⟩) true
        ((someReads ++ [failedRead]).map BodyRead.turn ++ []) true =
          some (.response 200 [] [] ::
            (chunks.map .data ++ [readError .deadlineExceeded, .endMessage])) :=
  ⟨(dispatcherAsync_of_reads [] ⟨200, none, []⟩ (by simp [someReads]) finalRead []).1 rfl,
    (dispatcherAsync_of_reads [] ⟨200, none, []⟩ (by simp [someReads]) failedRead []).2 _ rfl⟩

end CycleTLS
