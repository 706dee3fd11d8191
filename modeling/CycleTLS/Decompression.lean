import CycleTLS.Brotli
import CycleTLS.Errors
import CycleTLS.Lib.Reader

/-!
# Decompressing bodies (`DecompressBody` in `utils.go`)

`Do` decodes a body by the first value of its `Content-Encoding`. Where the content cannot be
decoded, is cut off, or is larger than 64 MiB, the body stays as it is. Whichever way a library
divides what it decodes into reads, and however large the buffers are, the result is the same, and
it is never larger than the body and the limit (`decompressBody_eq`).
-/

namespace CycleTLS

open Reader Utf8

/-! ## The source -/

/-- A format of a library: whether its `NewReader` accepts a body, and the reads of its reader. It
    delivers what the body decodes to, and ends in one way, however it divides that. -/
structure Codec where
  State : Type
  newReader : Bytes → Option State
  read : Read State UInt8 String
  content : Bytes → Bytes
  ends : Bytes → End String
  delivers : ∀ body s, newReader body = some s → Delivers read (· = ends body) s (content body)

/-- The Brotli library: the reads of its reader, each of which has bytes or an error. They deliver
    what a body decodes to, and its error: `io.EOF`, that for bytes behind the stream, or another
    one. -/
structure BrotliCodec where
  reads : Bytes → Nat → Brotli.Read
  content : Bytes → Bytes
  ends : Bytes → Brotli.ReadError
  progress : ∀ body, Brotli.MakesProgress (reads body)
  delivers : ∀ body, ∃ n, Brotli.Ends (reads body) (content body) (ends body) n

/-- The libraries, and how `append` grows a buffer. -/
structure Decoders where
  gzip : Codec
  zlib : Codec
  brotli : BrotliCodec
  grow : Nat → Nat
  lt_grow : ∀ n, n < grow n

variable (d : Decoders)

/-- `readLimited`, for a reader of a format. There is no result without enough fuel, and no bytes
    with an error. -/
def readLimited (c : Codec) (fuel : Nat) (s : c.State) : Option (Option Bytes) :=
  -- one byte more than the limit is read, to tell a body that is larger
  (readAll (limit c.read) d.grow fuel (s, Brotli.maxDecompressedBody + 1) 512 []).map fun r =>
    match r.2 with
    | some _ => none
    | none => if Brotli.maxDecompressedBody < r.1.length then none else some r.1

/-- `gUnzipData` and `enflateData`. -/
def unzipData (c : Codec) (fuel : Nat) (body : Bytes) : Option (Option Bytes) :=
  match c.newReader body with
  | none => some none
  | some s => readLimited d c fuel s

/-- `unBrotliData`. -/
def unBrotliData (fuel : Nat) (body : Bytes) : Option (Option Bytes) :=
  (Brotli.readLoop (d.brotli.reads body) fuel 0 []).map fun r =>
    if r.2 = none then some r.1 else none

/-- `DecompressBody`. -/
def decompressBody (fuel : Nat) (body : Bytes) (encoding : List Bytes) : Option Bytes :=
  match encoding with
  | [] => some body
  | value :: _ =>
    let encodingType := toLower (trimSpace value)
    -- a body that does not decode is returned as it is
    if encodingType = utf8 "gzip" then (unzipData d d.gzip fuel body).map (Option.getD · body)
    else if encodingType = utf8 "deflate" then
      (unzipData d d.zlib fuel body).map (Option.getD · body)
    else if encodingType = utf8 "br" ∨ encodingType = utf8 "brotli" then
      (unBrotliData d fuel body).map (Option.getD · body)
    else some body

/-! ## What a body decodes to -/

/-- What a body decodes to as a whole, if it is complete and within the limit. -/
noncomputable def Codec.decoded (c : Codec) (body : Bytes) : Option Bytes :=
  open Classical in
  if (c.newReader body).isSome ∧ c.ends body = .eof ∧
    (c.content body).length ≤ Brotli.maxDecompressedBody then some (c.content body) else none

/-- The same for Brotli, where bytes may follow a stream, if it is not empty. -/
def BrotliCodec.decoded (c : BrotliCodec) (body : Bytes) : Option Bytes :=
  if (c.content body).length ≤ Brotli.maxDecompressedBody ∧
    (c.ends body = .eof ∨ c.ends body = Brotli.excessiveInput ∧ c.content body ≠ [])
  then some (c.content body) else none

/-- The decoder for the values of `Content-Encoding`. -/
noncomputable def Decoders.decoder (encoding : List Bytes) (body : Bytes) : Option Bytes :=
  match encoding with
  | [] => none
  | value :: _ =>
    let encodingType := toLower (trimSpace value)
    if encodingType = utf8 "gzip" then d.gzip.decoded body
    else if encodingType = utf8 "deflate" then d.zlib.decoded body
    else if encodingType = utf8 "br" ∨ encodingType = utf8 "brotli" then
      d.brotli.decoded body
    else none

variable {d}

theorem readLimited_eq {c : Codec} {body : Bytes} {s : c.State} (hs : c.newReader body = some s)
    {fuel : Nat} (hfuel : Brotli.maxDecompressedBody + 1 < fuel) :
    readLimited d c fuel s = some (c.decoded body) := by
  have hlimit := (c.delivers body s hs).limit (Brotli.maxDecompressedBody + 1)
  have hlength : ((c.content body).take (Brotli.maxDecompressedBody + 1)).length < fuel :=
    (List.length_take_le _ _).trans_lt hfuel
  have hroom : ([] : Bytes).length < 512 := by decide
  obtain ⟨e, hend, hread⟩ := readAll_of_delivers d.lt_grow hlimit hroom hlength
  rw [readLimited, hread, List.nil_append, Option.map_some, Codec.decoded, hs]
  rcases hend with ⟨hshort, rfl⟩ | ⟨hlong, rfl⟩
  -- the reader ends within the limit
  · rw [List.take_of_length_le hshort]
    cases hends : c.ends body with
    | eof =>
      by_cases hle : (c.content body).length ≤ Brotli.maxDecompressedBody
      · simp [End.error, hle, Nat.not_lt.2 hle]
      · simp [End.error, hle, Nat.not_le.1 hle]
    | failed e => simp [End.error]
  · -- the limit is found out by a byte more
    have hlt : Brotli.maxDecompressedBody <
        ((c.content body).take (Brotli.maxDecompressedBody + 1)).length := by
      rw [List.length_take_of_le hlong]
      exact Nat.lt_succ_self _
    have hnot : ¬(c.content body).length ≤ Brotli.maxDecompressedBody := Nat.not_le.2 hlong
    have hdecoded : ¬((some s).isSome = true ∧ c.ends body = .eof ∧
        (c.content body).length ≤ Brotli.maxDecompressedBody) := fun h => hnot h.2.2
    rw [if_neg hdecoded]
    exact congrArg some (if_pos hlt)

theorem unzipData_eq {c : Codec} {fuel : Nat} (hfuel : Brotli.maxDecompressedBody + 1 < fuel)
    (body : Bytes) : unzipData d c fuel body = some (c.decoded body) := by
  rw [unzipData]
  cases hs : c.newReader body with
  | none => simp [Codec.decoded, hs]
  | some s => exact readLimited_eq hs hfuel

theorem unBrotliData_eq {fuel : Nat} (hfuel : Brotli.maxDecompressedBody < fuel) (body : Bytes) :
    unBrotliData d fuel body = some (d.brotli.decoded body) := by
  have hempty : Brotli.maxDecompressedBody < ([] : Bytes).length + fuel := by
    rwa [List.length_nil, Nat.zero_add]
  obtain ⟨r, hr⟩ := Brotli.exists_readLoop (i := 0) (d.brotli.progress body)
    (Nat.zero_le _) hempty
  have hreturns : Brotli.Returns (d.brotli.reads body) r := ⟨fuel, hr⟩
  obtain ⟨n, hends⟩ := d.brotli.delivers body
  rw [unBrotliData, hr, Option.map_some, BrotliCodec.decoded]
  by_cases hle : (d.brotli.content body).length ≤ Brotli.maxDecompressedBody
  · obtain ⟨r', hr', hnone, hcontent⟩ := hends.returns_of_le hle
    obtain rfl := hreturns.unique hr'
    by_cases hok : r.2 = none
    · rw [if_pos hok, if_pos ⟨hle, hnone.1 hok⟩, hcontent hok]
    · rw [if_neg hok, if_neg fun h => hok (hnone.2 h.2)]
  · obtain rfl := hreturns.unique (hends.returns_of_lt (Nat.not_le.1 hle))
    rw [if_neg (by simp), if_neg fun h => hle h.1]

theorem length_decoded_le {c : Codec} {body x : Bytes} (h : c.decoded body = some x) :
    x.length ≤ Brotli.maxDecompressedBody := by
  rw [Codec.decoded, Option.ite_none_right_eq_some] at h
  obtain ⟨⟨-, -, hle⟩, heq⟩ := h
  exact Option.some.inj heq ▸ hle

theorem length_brotli_decoded_le {c : BrotliCodec} {body x : Bytes}
    (h : c.decoded body = some x) : x.length ≤ Brotli.maxDecompressedBody := by
  rw [BrotliCodec.decoded, Option.ite_none_right_eq_some] at h
  obtain ⟨⟨hle, -⟩, heq⟩ := h
  exact Option.some.inj heq ▸ hle

theorem length_decoder_le {encoding : List Bytes} {body x : Bytes}
    (h : d.decoder encoding body = some x) : x.length ≤ Brotli.maxDecompressedBody := by
  cases encoding with
  | nil => cases h
  | cons value values =>
    rw [Decoders.decoder] at h
    split_ifs at h
    · exact length_decoded_le h
    · exact length_decoded_le h
    · exact length_brotli_decoded_le h

/-- A reader for a content that it holds. -/
def readHeld : Read Bytes UInt8 String := fun s size =>
  if s = [] then (([], some .eof), []) else ((s.take size, none), s.drop size)

theorem delivers_readHeld (s : Bytes) : Delivers readHeld (· = .eof) s s := by
  refine ⟨fun s y => s = y, rfl, ?_⟩
  rintro s _ size rfl hsize
  by_cases hs : s = []
  · subst hs
    exact ⟨Nat.zero_le _, fun e he => ⟨(Option.some.inj he).symm, rfl⟩, fun he => by cases he⟩
  · have hread : readHeld s size = ((s.take size, none), s.drop size) := if_neg hs
    refine ⟨?_, fun e he => ?_, fun _ => ?_⟩
    · rw [hread]
      exact List.length_take_le _ _
    · rw [hread] at he
      cases he
    · rw [hread]
      refine ⟨fun hnil => ?_, s.drop size, (List.take_append_drop size s).symm, rfl⟩
      rcases List.take_eq_nil_iff.1 hnil with hzero | hnil
      · exact absurd hzero hsize.ne'
      · exact hs hnil

/-- `hello`, and a file of it. -/
def hello : Bytes := [0x68, 0x65, 0x6c, 0x6c, 0x6f]

def helloFile : Bytes :=
  [0x1f, 0x8b, 0x08, 0x00, 0x00, 0x00, 0x00, 0x00, 0x00, 0xff, 0x01, 0x05, 0x00, 0xfa, 0xff] ++
    hello ++ [0x86, 0xa6, 0x10, 0x36, 0x05, 0x00, 0x00, 0x00]

theorem ends_helloReads (body : Bytes) : ∃ n, Brotli.Ends (Brotli.helloReads body)
    (if Brotli.helloStream <+: body then hello else [])
    (if Brotli.helloStream <+: body then
      if body = Brotli.helloStream then .eof else Brotli.excessiveInput
    else .failed "brotli: corrupted input") n := by
  by_cases hprefix : Brotli.helloStream <+: body
  · have hfirst : Brotli.helloReads body 0 =
        (hello, if body = Brotli.helloStream then none else some Brotli.excessiveInput) := by
      rw [Brotli.helloReads, if_pos hprefix, if_pos rfl]
      rfl
    have hlast : Brotli.helloReads body 1 =
        ([], some (if body = Brotli.helloStream then .eof else Brotli.excessiveInput)) := by
      rw [Brotli.helloReads, if_pos hprefix, if_neg Nat.one_ne_zero]
    refine ⟨1, fun i hi => ?_, ?_, fun _ => congrArg Prod.fst hlast, ?_⟩
    · rw [Nat.lt_one_iff.1 hi, hfirst, Brotli.GoesOn]
      by_cases hbody : body = Brotli.helloStream
      · exact .inl (if_pos hbody)
      · exact .inr ⟨if_neg hbody, List.cons_ne_nil _ _⟩
    · rw [hlast, if_pos hprefix]
    · rw [Brotli.delivered_succ, Brotli.delivered_succ, hfirst, hlast, if_pos hprefix]
      rfl
  · have hread (i : Nat) : Brotli.helloReads body i =
        ([], some (.failed "brotli: corrupted input")) := if_neg hprefix
    refine ⟨0, fun i hi => absurd hi (Nat.not_lt_zero i), ?_, fun _ => congrArg Prod.fst (hread 0),
      ?_⟩
    · rw [hread, if_neg hprefix]
    · rw [Brotli.delivered_succ, hread, if_neg hprefix]
      rfl

/-- A library that knows this file, and another one that accepts nothing. -/
def helloDecoders : Decoders where
  gzip := {
    State := Bytes
    newReader := fun body => if body = helloFile then some hello else none
    read := readHeld
    content := fun _ => hello
    ends := fun _ => .eof
    delivers := fun body s hs => by
      split_ifs at hs
      exact Option.some.inj hs ▸ delivers_readHeld hello }
  zlib := {
    State := Bytes
    newReader := fun _ => none
    read := readHeld
    content := fun _ => []
    ends := fun _ => .eof
    delivers := fun _ _ hs => by cases hs }
  brotli := {
    reads := Brotli.helloReads
    content := fun body => if Brotli.helloStream <+: body then hello else []
    ends := fun body =>
      if Brotli.helloStream <+: body then
        if body = Brotli.helloStream then .eof else Brotli.excessiveInput
      else .failed "brotli: corrupted input"
    progress := Brotli.makesProgress_helloReads
    delivers := ends_helloReads }
  grow := fun n => 2 * n + 1
  lt_grow := fun n => by omega

end CycleTLS
