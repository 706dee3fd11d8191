import CycleTLS.Hello
import Mathlib.Data.Nat.Find

/-!
# Decompressing Brotli (`unBrotliData` in `utils.go`)

The reader of a library delivers what a stream decodes to in chunks of its own. Where bytes
follow the stream, it fails once the stream has ended, and `unBrotliData` reads on until a
read has no bytes: then it returns what it has, but the error if that is nothing.

The loop ends and keeps within its limit for every reader that makes progress. It gives the
content of a stream, with other bytes behind it or none, exactly if the content is not empty
or there are none (`returns_iff`).
-/

namespace CycleTLS.Brotli

/-- `maxDecompressedBody`. -/
def maxDecompressedBody : Nat := 64 * 2 ^ 20

/-- An error of a reader. -/
inductive ReadError
  /-- `io.EOF`. -/
  | eof
  /-- Another one, with its text. -/
  | failed (text : String)
  deriving DecidableEq

/-- What a read gives: the bytes in the buffer, and the error. -/
abbrev Read := Bytes × Option ReadError

/-- The error of the library for bytes that follow a stream. -/
def excessiveInput : ReadError := .failed "brotli: excessive input"

/-- What the loop of `unBrotliData` returns after a read, unless it goes on. -/
def afterRead (out : Bytes) (read : Read) : Option (Bytes × Option ReadError) :=
  if maxDecompressedBody < out.length then
    some ([], some (.failed "decompressed body exceeds size limit"))
  else
    match read.2 with
    | none => none
    | some .eof => some (out, none)
    | some (.failed text) =>
      if text = "brotli: excessive input" then
        if read.1.length = 0 then
          if 0 < out.length then some (out, none) else some ([], some (.failed text))
        else none
      else some (out, some (.failed text))

/-- The loop of `unBrotliData`, from a read on. -/
def readLoop (reads : Nat → Read) : Nat → Nat → Bytes → Option (Bytes × Option ReadError)
  | 0, _, _ => none
  | fuel + 1, i, out =>
    match afterRead (out ++ (reads i).1) (reads i) with
    | some r => some r
    | none => readLoop reads fuel (i + 1) (out ++ (reads i).1)

/-- What `unBrotliData` returns for the reads of its reader. -/
def Returns (reads : Nat → Read) (r : Bytes × Option ReadError) : Prop :=
  ∃ fuel, readLoop reads fuel 0 [] = some r

/-! ## Readers -/

/-- A read after which the loop goes on. -/
def GoesOn (read : Read) : Prop := read.2 = none ∨ read.2 = some excessiveInput ∧ read.1 ≠ []

/-- What the first reads have delivered. -/
def delivered (reads : Nat → Read) (n : Nat) : Bytes := (List.range n).flatMap fun i => (reads i).1

/-- The reads of a stream of `x` that `t` follows: in some number of them the bytes are
    delivered. Then come, where nothing follows, the end, maybe with the last bytes, and else
    only errors. -/
structure Delivers (reads : Nat → Read) (x t : Bytes) (n : Nat) : Prop where
  goesOn : ∀ i < n, GoesOn (reads i)
  ends : t = [] → (reads n).2 = some .eof ∧ delivered reads (n + 1) = x
  fails : t ≠ [] → (∀ i, n ≤ i → reads i = ([], some excessiveInput)) ∧ delivered reads n = x

/-- The reads of a body with a content: in some number of them it is delivered, and the last one
    has the error that it ends with. The error for bytes behind the stream is that of the end only
    if nothing is left. -/
structure Ends (reads : Nat → Read) (content : Bytes) (e : ReadError) (n : Nat) : Prop where
  goesOn : ∀ i < n, GoesOn (reads i)
  last : (reads n).2 = some e
  drained : e = excessiveInput → (reads n).1 = []
  delivers : delivered reads (n + 1) = content

/-- Every read without an error has bytes. -/
def MakesProgress (reads : Nat → Read) : Prop := ∀ i, (reads i).2 = none → (reads i).1 ≠ []

variable {reads : Nat → Read}

theorem delivered_succ (reads : Nat → Read) (n : Nat) :
    delivered reads (n + 1) = delivered reads n ++ (reads n).1 := by
  rw [delivered, List.range_succ, List.flatMap_append, List.flatMap_singleton, delivered]

theorem length_delivered_mono (reads : Nat → Read) {m n : Nat} (h : m ≤ n) :
    (delivered reads m).length ≤ (delivered reads n).length := by
  induction h with
  | refl => exact le_rfl
  | step _ ih =>
    rw [delivered_succ, List.length_append]
    omega

/-! ## The loop -/

theorem afterRead_eq_none_iff {out : Bytes} {read : Read} :
    afterRead out read = none ↔ out.length ≤ maxDecompressedBody ∧ GoesOn read := by
  rw [afterRead, GoesOn, excessiveInput]
  by_cases hlong : maxDecompressedBody < out.length
  · rw [if_pos hlong]
    exact iff_of_false (by rintro ⟨⟩) fun h => absurd h.1 (Nat.not_le.2 hlong)
  rw [if_neg hlong, and_iff_right (Nat.not_lt.1 hlong)]
  obtain ⟨chunk, _ | _ | text⟩ := read
  · exact iff_of_true rfl (.inl rfl)
  · simp
  · by_cases htext : text = "brotli: excessive input"
    · cases chunk with
      | nil => by_cases hout : 0 < out.length <;> simp [htext, hout]
      | cons b chunk => simp [htext]
    · simp [htext]

/-- What is returned keeps within the limit. -/
theorem length_le_of_afterRead {out : Bytes} {read : Read} {r : Bytes × Option ReadError}
    (h : afterRead out read = some r) : r.1.length ≤ maxDecompressedBody := by
  rw [afterRead] at h
  by_cases hlong : maxDecompressedBody < out.length
  · rw [if_pos hlong] at h
    cases h
    exact Nat.zero_le _
  rw [if_neg hlong] at h
  have hout : out.length ≤ maxDecompressedBody := Nat.not_lt.1 hlong
  obtain ⟨chunk, _ | _ | text⟩ := read
  · cases h
  · cases h
    exact hout
  · dsimp only at h
    split_ifs at h
    · cases h
      exact hout
    · cases h
      exact Nat.zero_le _
    · cases h
      exact hout

section Loop

variable {fuel i : Nat} {out : Bytes} {r : Bytes × Option ReadError}

theorem readLoop_of_some (h : afterRead (out ++ (reads i).1) (reads i) = some r) :
    readLoop reads (fuel + 1) i out = some r := by
  rw [readLoop, h]

theorem readLoop_of_none (h : afterRead (out ++ (reads i).1) (reads i) = none) :
    readLoop reads (fuel + 1) i out = readLoop reads fuel (i + 1) (out ++ (reads i).1) := by
  rw [readLoop, h]

theorem readLoop_mono (h : readLoop reads fuel i out = some r) {fuel' : Nat}
    (hle : fuel ≤ fuel') : readLoop reads fuel' i out = some r := by
  induction fuel generalizing i out fuel' with
  | zero => cases h
  | succ fuel ih =>
    obtain ⟨fuel', rfl⟩ :=
      Nat.exists_eq_add_of_le' (Nat.one_le_iff_ne_zero.2 (by omega) : 1 ≤ fuel')
    cases hafter : afterRead (out ++ (reads i).1) (reads i) with
    | some r' => rwa [readLoop_of_some hafter] at h ⊢
    | none =>
      rw [readLoop_of_none hafter] at h ⊢
      exact ih h (by omega)

theorem length_le_of_readLoop (h : readLoop reads fuel i out = some r) :
    r.1.length ≤ maxDecompressedBody := by
  induction fuel generalizing i out with
  | zero => cases h
  | succ fuel ih =>
    cases hafter : afterRead (out ++ (reads i).1) (reads i) with
    | some r' =>
      rw [readLoop_of_some hafter] at h
      cases h
      exact length_le_of_afterRead hafter
    | none =>
      rw [readLoop_of_none hafter] at h
      exact ih h

/-- Every read after which the loop goes on has bytes, so that it ends at the limit. -/
theorem exists_readLoop (h : MakesProgress reads) (hout : out.length ≤ maxDecompressedBody)
    (hfuel : maxDecompressedBody < out.length + fuel) :
    ∃ r, readLoop reads fuel i out = some r := by
  induction fuel generalizing i out with
  | zero => omega
  | succ fuel ih =>
    cases hafter : afterRead (out ++ (reads i).1) (reads i) with
    | some r => exact ⟨r, readLoop_of_some hafter⟩
    | none =>
      rw [readLoop_of_none hafter]
      obtain ⟨hlength, hgoes⟩ := afterRead_eq_none_iff.1 hafter
      have hne : (reads i).1 ≠ [] := hgoes.elim (h i) And.right
      have hpos := List.length_pos_of_ne_nil hne
      refine ih hlength ?_
      rw [List.length_append]
      omega

end Loop

/-- The loop goes through the reads that it goes on after. -/
theorem readLoop_delivered {n : Nat} (h : ∀ i < n, GoesOn (reads i))
    (hlength : (delivered reads n).length ≤ maxDecompressedBody) (fuel : Nat) :
    readLoop reads (n + fuel) 0 [] = readLoop reads fuel n (delivered reads n) := by
  induction n generalizing fuel with
  | zero =>
    rw [Nat.zero_add]
    rfl
  | succ n ih =>
    have hshorter := (length_delivered_mono reads (Nat.le_succ n)).trans hlength
    have hfuel : n + 1 + fuel = n + (fuel + 1) := by omega
    rw [hfuel, ih (fun i hi => h i (hi.trans (Nat.lt_succ_self n))) hshorter]
    rw [delivered_succ] at hlength ⊢
    exact readLoop_of_none (afterRead_eq_none_iff.2 ⟨hlength, h n (Nat.lt_succ_self n)⟩)

/-! ## What is returned -/

theorem Returns.unique {r r' : Bytes × Option ReadError} (h : Returns reads r)
    (h' : Returns reads r') : r = r' := by
  obtain ⟨fuel, h⟩ := h
  obtain ⟨fuel', h'⟩ := h'
  have hmax := readLoop_mono h (Nat.le_max_left fuel fuel')
  rw [readLoop_mono h' (Nat.le_max_right fuel fuel')] at hmax
  exact (Option.some.inj hmax).symm

/-- The loop ends with any reader, and what it returns keeps within the limit. -/
theorem exists_returns (h : MakesProgress reads) :
    ∃ r, Returns reads r ∧ r.1.length ≤ maxDecompressedBody := by
  have hempty : ([] : Bytes).length ≤ maxDecompressedBody := Nat.zero_le _
  have hfuel : maxDecompressedBody < ([] : Bytes).length + (maxDecompressedBody + 1) := by
    rw [List.length_nil]
    omega
  obtain ⟨r, hr⟩ := exists_readLoop (i := 0) h hempty hfuel
  exact ⟨r, ⟨_, hr⟩, length_le_of_readLoop hr⟩

theorem returns_of_delivers {x t : Bytes} {n : Nat} (h : Delivers reads x t n)
    (hx : x.length ≤ maxDecompressedBody) :
    Returns reads (if x ≠ [] ∨ t = [] then (x, none) else ([], some excessiveInput)) := by
  refine ⟨n + 1, ?_⟩
  by_cases ht : t = []
  · obtain ⟨heof, hdelivered⟩ := h.ends ht
    have hlength := (length_delivered_mono reads (Nat.le_succ n)).trans
      (hdelivered ▸ hx : (delivered reads (n + 1)).length ≤ _)
    rw [readLoop_delivered h.goesOn hlength, if_pos (.inr ht)]
    refine readLoop_of_some ?_
    rw [← delivered_succ, hdelivered, afterRead, if_neg (Nat.not_lt.2 hx), heof]
  · obtain ⟨hfails, hdelivered⟩ := h.fails ht
    rw [readLoop_delivered h.goesOn (hdelivered ▸ hx)]
    refine readLoop_of_some ?_
    rw [hfails n le_rfl, List.append_nil, hdelivered, afterRead, if_neg (Nat.not_lt.2 hx),
      excessiveInput]
    by_cases hne : x = [] <;> simp [hne, ht]

/-- A body that decodes to more than the limit is an error, at the read that exceeds it. -/
theorem Ends.returns_of_lt {content : Bytes} {e : ReadError} {n : Nat} (h : Ends reads content e n)
    (hlong : maxDecompressedBody < content.length) :
    Returns reads ([], some (.failed "decompressed body exceeds size limit")) := by
  have hexceeds : ∃ k, maxDecompressedBody < (delivered reads (k + 1)).length :=
    ⟨n, h.delivers ▸ hlong⟩
  have hfirst := Nat.find_spec hexceeds
  have hle : Nat.find hexceeds ≤ n := Nat.find_min' hexceeds (h.delivers ▸ hlong)
  have hbefore : (delivered reads (Nat.find hexceeds)).length ≤ maxDecompressedBody := by
    cases hk : Nat.find hexceeds with
    | zero => exact Nat.zero_le _
    | succ k => exact Nat.not_lt.1 (Nat.find_min hexceeds (hk ▸ Nat.lt_succ_self k))
  refine ⟨Nat.find hexceeds + 1, ?_⟩
  rw [readLoop_delivered (fun i hi => h.goesOn i (hi.trans_le hle)) hbefore]
  refine readLoop_of_some ?_
  rw [← delivered_succ]
  exact if_pos hfirst

/-- Within the limit, the content is returned without an error exactly if it ends with the body,
    or is not empty and ends with the stream. -/
theorem Ends.returns_of_le {content : Bytes} {e : ReadError} {n : Nat} (h : Ends reads content e n)
    (hle : content.length ≤ maxDecompressedBody) :
    ∃ r, Returns reads r ∧ (r.2 = none ↔ e = .eof ∨ e = excessiveInput ∧ content ≠ []) ∧
      (r.2 = none → r.1 = content) := by
  have hlength := (length_delivered_mono reads (Nat.le_succ n)).trans
    (h.delivers ▸ hle : (delivered reads (n + 1)).length ≤ _)
  have hloop : ∀ r, afterRead content (reads n) = some r → Returns reads r := by
    intro r hr
    refine ⟨n + 1, ?_⟩
    rw [readLoop_delivered h.goesOn hlength]
    refine readLoop_of_some ?_
    rw [← delivered_succ, h.delivers, hr]
  have hafter (text : String) (htext : text ≠ "brotli: excessive input")
      (he : e = .failed text) : afterRead content (reads n) = some (content, some e) := by
    rw [afterRead, if_neg (Nat.not_lt.2 hle), h.last, he]
    exact if_neg htext
  cases e with
  | eof =>
    refine ⟨(content, none), hloop _ ?_, by simp, fun _ => rfl⟩
    rw [afterRead, if_neg (Nat.not_lt.2 hle), h.last]
  | failed text =>
    by_cases htext : text = "brotli: excessive input"
    · subst htext
      have hempty := h.drained rfl
      by_cases hcontent : content = []
      · refine ⟨([], some excessiveInput), hloop _ ?_, by simp [hcontent], nofun⟩
        rw [afterRead, if_neg (Nat.not_lt.2 hle), h.last]
        simp [hempty, hcontent, excessiveInput]
      · refine ⟨(content, none), hloop _ ?_, by simp [hcontent, excessiveInput], fun _ => rfl⟩
        rw [afterRead, if_neg (Nat.not_lt.2 hle), h.last]
        simp [hempty, List.length_pos_iff.2 hcontent]
    · exact ⟨_, hloop _ (hafter text htext rfl), by simp [htext, excessiveInput], nofun⟩

/-- What a stream with other bytes behind it, or none, decodes to is returned without an error
    exactly if it is not empty or nothing follows the stream. On any data the loop ends in
    one way, with no more bytes than the limit. -/
theorem returns_iff {brotli : Bytes → Nat → Read} {s x t : Bytes}
    (hprogress : ∀ data, MakesProgress (brotli data)) (hx : x.length ≤ maxDecompressedBody)
    (hreads : ∃ n, Delivers (brotli (s ++ t)) x t n) :
    (Returns (brotli (s ++ t)) (x, none) ↔ x ≠ [] ∨ t = []) ∧
      ∀ data, ∃ r, Returns (brotli data) r ∧ r.1.length ≤ maxDecompressedBody ∧
        ∀ r', Returns (brotli data) r' → r' = r := by
  constructor
  · obtain ⟨n, hn⟩ := hreads
    have hreturns := returns_of_delivers hn hx
    by_cases h : x ≠ [] ∨ t = []
    · rw [if_pos h] at hreturns
      exact iff_of_true hreturns h
    · rw [if_neg h] at hreturns
      refine iff_of_false (fun hx => ?_) h
      cases hreturns.unique hx
  · intro data
    obtain ⟨r, hr, hlength⟩ := exists_returns (hprogress data)
    exact ⟨r, hr, hlength, fun r' hr' => hr'.unique hr⟩

/-- A stream of the bytes of `hello`, uncompressed. -/
def helloStream : Bytes := [0x40, 0x00, 0x10, 0x68, 0x65, 0x6c, 0x6c, 0x6f, 0x03]

/-- The reads of this stream: with other bytes behind it the error comes along with the
    content, and stays. -/
def helloReads (data : Bytes) (i : Nat) : Read :=
  if helloStream <+: data then
    if i = 0 then
      ([0x68, 0x65, 0x6c, 0x6c, 0x6f], if data = helloStream then none else some excessiveInput)
    else ([], some (if data = helloStream then .eof else excessiveInput))
  else ([], some (.failed "brotli: corrupted input"))

theorem makesProgress_helloReads (data : Bytes) : MakesProgress (helloReads data) := by
  intro i h
  rw [helloReads] at h ⊢
  split_ifs at h ⊢
  exact List.cons_ne_nil _ _

theorem returns_hello :
    Returns (helloReads (helloStream ++ [0x0a])) ([0x68, 0x65, 0x6c, 0x6c, 0x6f], none) := by
  have hfirst : helloReads (helloStream ++ [0x0a]) 0 =
      ([0x68, 0x65, 0x6c, 0x6c, 0x6f], some excessiveInput) := by decide
  have hlater (i : Nat) (hi : 1 ≤ i) : helloReads (helloStream ++ [0x0a]) i =
      ([], some excessiveInput) := by
    rw [helloReads, if_pos (List.prefix_append _ _), if_neg (by omega), if_neg (by decide)]
  refine ((returns_iff makesProgress_helloReads (by decide) ⟨1, ?_, ?_, ?_⟩).1).2
    (.inl (List.cons_ne_nil _ _))
  · intro i hi
    rw [Nat.lt_one_iff.1 hi, hfirst]
    exact .inr ⟨rfl, List.cons_ne_nil _ _⟩
  · intro h
    cases h
  · intro _
    exact ⟨hlater, by decide⟩

/-- A stream of no bytes, with a line feed behind it. -/
theorem not_forall_returns : ¬∀ (brotli : Bytes → Nat → Read) (s x t : Bytes),
    (∀ data, MakesProgress (brotli data)) → x.length ≤ maxDecompressedBody →
      (∃ n, Delivers (brotli (s ++ t)) x t n) → Returns (brotli (s ++ t)) (x, none) := by
  intro h
  let reads : Bytes → Nat → Read := fun _ _ => ([], some excessiveInput)
  have hdelivers : Delivers (reads ([0x06] ++ [0x0a])) [] [0x0a] 0 :=
    ⟨fun i hi => absurd hi (Nat.not_lt_zero i), fun hnil => absurd hnil (List.cons_ne_nil _ _),
      fun _ => ⟨fun _ _ => rfl, rfl⟩⟩
  have hreturns := h reads [0x06] [] [0x0a] (fun _ _ hnone => by cases hnone) (by decide)
    ⟨0, hdelivers⟩
  have herror : Returns (reads ([0x06] ++ [0x0a])) ([], some excessiveInput) := ⟨1, rfl⟩
  cases herror.unique hreturns

end CycleTLS.Brotli
