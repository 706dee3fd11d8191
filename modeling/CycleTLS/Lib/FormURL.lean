import CycleTLS.Lib.Radix
import CycleTLS.Lib.Text

/-!
# Form-urlencoded texts

Pairs of a name and a value as one text of bytes: pairs are separated by `&`, a name ends at
the first `=`, a space is a `+`, and a byte may be escaped by `%` and two hexadecimal digits.

Any bytes can be written so that they are read back (`decode_encode`). The bytes of an encoded
text are ASCII, and none of the characters that end a query (`isSafe_of_mem_encode`).
-/

namespace FormURL

/-- The separator of pairs. -/
def amp : UInt8 := 0x26

/-- The separator of a name and its value. -/
def equals : UInt8 := 0x3d

def plus : UInt8 := 0x2b

def percent : UInt8 := 0x25

def space : UInt8 := 0x20

/-! ## Reading -/

/-- The byte of an escape. -/
def escaped (a b : UInt8) : Option UInt8 :=
  match Radix.digit a, Radix.digit b with
  | some x, some y => if x < 16 ∧ y < 16 then some (UInt8.ofNat (16 * x + y)) else none
  | _, _ => none

/-- The bytes with their escapes resolved; a `%` that begins none stays. -/
def percentDecode : List UInt8 → List UInt8
  | c :: a :: b :: rest =>
    if c = percent then
      match escaped a b with
      | some n => n :: percentDecode rest
      | none => c :: percentDecode (a :: b :: rest)
    else c :: percentDecode (a :: b :: rest)
  | short => short

/-- The bytes of a name or a value. -/
def decodeComponent (s : List UInt8) : List UInt8 :=
  percentDecode (s.map fun c => if c = plus then space else c)

/-- The name and the value of a piece; without an `=` the value is empty. -/
def decodePair (piece : List UInt8) : List UInt8 × List UInt8 :=
  (decodeComponent (piece.takeWhile (· ≠ equals)),
    decodeComponent (piece.dropWhile (· ≠ equals)).tail)

/-- The pairs of a text; empty pieces are none. -/
def decode (s : List UInt8) : List (List UInt8 × List UInt8) :=
  ((s.splitOn amp).filter (· ≠ [])).map decodePair

/-! ## Writing -/

/-- The letters and digits, `_`, `.`, `-` and `~`. -/
def unreserved (c : UInt8) : Bool :=
  (0x30 ≤ c ∧ c ≤ 0x39) ∨ (0x41 ≤ c ∧ c ≤ 0x5a) ∨ (0x61 ≤ c ∧ c ≤ 0x7a) ∨ c = 0x5f ∨ c = 0x2e ∨
    c = 0x2d ∨ c = 0x7e

/-- A hexadecimal digit. -/
def hexDigit (n : Nat) : UInt8 := UInt8.ofNat (if n < 10 then 0x30 + n else 0x37 + n)

/-- A byte of a name or a value, as it is written. -/
def encodeByte (c : UInt8) : List UInt8 :=
  if unreserved c then [c]
  else if c = space then [plus]
  else [percent, hexDigit (c.toNat / 16), hexDigit (c.toNat % 16)]

def encodePair (e : List UInt8 × List UInt8) : List UInt8 :=
  e.1.flatMap encodeByte ++ equals :: e.2.flatMap encodeByte

/-- The text of some pairs. -/
def encode (pairs : List (List UInt8 × List UInt8)) : List UInt8 :=
  [amp].intercalate (pairs.map encodePair)

/-- A character that an encoded text may have. -/
def IsSafe (c : UInt8) : Prop := unreserved c ∨ c = plus ∨ c = percent ∨ c = equals ∨ c = amp

instance (c : UInt8) : Decidable (IsSafe c) := inferInstanceAs (Decidable (_ ∨ _))

/-! ## What is written is read back -/

theorem percentDecode_cons_of_ne {c : UInt8} (h : c ≠ percent) (s : List UInt8) :
    percentDecode (c :: s) = c :: percentDecode s := by
  rcases s with _ | ⟨a, _ | ⟨b, rest⟩⟩
  · rfl
  · rfl
  · rw [percentDecode, if_neg h]

theorem percentDecode_escape {a b n : UInt8} (h : escaped a b = some n) (s : List UInt8) :
    percentDecode (percent :: a :: b :: s) = n :: percentDecode s := by
  rw [percentDecode, if_pos rfl, h]

theorem digit_hexDigit : ∀ n < 16, Radix.digit (hexDigit n) = some n := by decide

theorem escaped_hexDigit (c : UInt8) :
    escaped (hexDigit (c.toNat / 16)) (hexDigit (c.toNat % 16)) = some c := by
  have hlt : c.toNat < 256 := c.toNat_lt
  have hhigh : c.toNat / 16 < 16 := by omega
  have hlow : c.toNat % 16 < 16 := by omega
  rw [escaped, digit_hexDigit _ hhigh, digit_hexDigit _ hlow]
  dsimp only
  rw [if_pos ⟨hhigh, hlow⟩, Nat.div_add_mod, UInt8.ofNat_toNat]

theorem ne_of_unreserved {c : UInt8} (h : unreserved c = true) :
    c ≠ percent ∧ c ≠ plus ∧ c ≠ equals ∧ c ≠ amp := by
  refine ⟨?_, ?_, ?_, ?_⟩
  all_goals
    rintro rfl
    revert h
    decide

theorem toNat_lt_of_isSafe {c : UInt8} (h : IsSafe c) : c.toNat < 0x80 := by
  rcases h with h | rfl | rfl | rfl | rfl
  · simp only [unreserved, decide_eq_true_eq, UInt8.le_iff_toNat_le, ← UInt8.toNat_inj] at h
    change (0x30 ≤ _ ∧ _ ≤ 0x39) ∨ (0x41 ≤ _ ∧ _ ≤ 0x5a) ∨ (0x61 ≤ _ ∧ _ ≤ 0x7a) ∨ _ = 0x5f ∨
      _ = 0x2e ∨ _ = 0x2d ∨ _ = 0x7e at h
    omega
  all_goals decide

theorem unreserved_hexDigit : ∀ n < 16, unreserved (hexDigit n) = true := by decide

/-- A byte that is written is made of unreserved characters, or is a `+` or an escape. -/
theorem encodeByte_cases (c : UInt8) : (unreserved c = true ∧ encodeByte c = [c]) ∨
    (c = space ∧ encodeByte c = [plus]) ∨ ∃ a b, escaped a b = some c ∧ unreserved a = true ∧
      unreserved b = true ∧ encodeByte c = [percent, a, b] := by
  have hlt : c.toNat < 256 := c.toNat_lt
  rw [encodeByte]
  split_ifs with hc hspace
  · exact .inl ⟨hc, rfl⟩
  · exact .inr (.inl ⟨hspace, rfl⟩)
  · exact .inr (.inr ⟨_, _, escaped_hexDigit c, unreserved_hexDigit _ (by omega),
      unreserved_hexDigit _ (by omega), rfl⟩)

theorem decodeComponent_encodeByte (c : UInt8) (s : List UInt8) :
    decodeComponent (encodeByte c ++ s) = c :: decodeComponent s := by
  rw [decodeComponent, List.map_append]
  rcases encodeByte_cases c with ⟨hc, henc⟩ | ⟨rfl, henc⟩ | ⟨a, b, hesc, ha, hb, henc⟩
  · obtain ⟨hpercent, hplus, -⟩ := ne_of_unreserved hc
    rw [henc, List.map_singleton, if_neg hplus, List.singleton_append,
      percentDecode_cons_of_ne hpercent, decodeComponent]
  · rw [henc, List.map_singleton, if_pos rfl, List.singleton_append,
      percentDecode_cons_of_ne (by decide), decodeComponent]
  · obtain ⟨-, haplus, -⟩ := ne_of_unreserved ha
    obtain ⟨-, hbplus, -⟩ := ne_of_unreserved hb
    rw [henc, List.map_cons, List.map_cons, List.map_singleton, if_neg (by decide), if_neg haplus,
      if_neg hbplus]
    exact percentDecode_escape hesc _

theorem decodeComponent_flatMap (s : List UInt8) : decodeComponent (s.flatMap encodeByte) = s := by
  induction s with
  | nil => rfl
  | cons c s ih => rw [List.flatMap_cons, decodeComponent_encodeByte, ih]

theorem isSafe_of_mem_encodeByte {c d : UInt8} (h : d ∈ encodeByte c) :
    IsSafe d ∧ d ≠ equals ∧ d ≠ amp := by
  have hunreserved {d : UInt8} (hd : unreserved d = true) : IsSafe d ∧ d ≠ equals ∧ d ≠ amp :=
    ⟨.inl hd, (ne_of_unreserved hd).2.2⟩
  rcases encodeByte_cases c with ⟨hc, henc⟩ | ⟨-, henc⟩ | ⟨a, b, -, ha, hb, henc⟩
  · rw [henc, List.mem_singleton] at h
    exact h ▸ hunreserved hc
  · rw [henc, List.mem_singleton] at h
    exact h ▸ by decide
  · rw [henc] at h
    simp only [List.mem_cons, List.not_mem_nil, or_false] at h
    rcases h with rfl | rfl | rfl
    · decide
    · exact hunreserved ha
    · exact hunreserved hb

theorem isSafe_of_mem_encodePair {e : List UInt8 × List UInt8} {d : UInt8}
    (h : d ∈ encodePair e) : IsSafe d ∧ d ≠ amp := by
  rw [encodePair, List.mem_append, List.mem_cons] at h
  rcases h with h | rfl | h
  · obtain ⟨c, -, hd⟩ := List.mem_flatMap.1 h
    exact ⟨(isSafe_of_mem_encodeByte hd).1, (isSafe_of_mem_encodeByte hd).2.2⟩
  · decide
  · obtain ⟨c, -, hd⟩ := List.mem_flatMap.1 h
    exact ⟨(isSafe_of_mem_encodeByte hd).1, (isSafe_of_mem_encodeByte hd).2.2⟩

theorem isSafe_of_mem_encode {pairs : List (List UInt8 × List UInt8)} {d : UInt8}
    (h : d ∈ encode pairs) : IsSafe d := by
  rcases Radix.eq_or_mem_of_mem_intercalate h with rfl | ⟨p, hp, hd⟩
  · decide
  · obtain ⟨e, -, rfl⟩ := List.mem_map.1 hp
    exact (isSafe_of_mem_encodePair hd).1

theorem decodePair_encodePair (e : List UInt8 × List UInt8) : decodePair (encodePair e) = e := by
  have hname : ∀ c ∈ e.1.flatMap encodeByte, decide (c ≠ equals) = true := by
    intro c hc
    obtain ⟨d, -, hd⟩ := List.mem_flatMap.1 hc
    exact decide_eq_true (isSafe_of_mem_encodeByte hd).2.1
  rw [decodePair, encodePair, Text.takeWhile_append_cons hname (decide_eq_false (by decide)),
    Text.dropWhile_append_cons hname (decide_eq_false (by decide)), List.tail_cons,
    decodeComponent_flatMap, decodeComponent_flatMap]

/-- Pairs of any bytes are read back from what is written of them. -/
theorem decode_encode (pairs : List (List UInt8 × List UInt8)) : decode (encode pairs) = pairs := by
  rw [decode, encode]
  by_cases hnil : pairs = []
  · subst hnil
    rfl
  · have hsplit :
        ([amp].intercalate (pairs.map encodePair)).splitOn amp = pairs.map encodePair := by
      refine List.splitOn_intercalate amp (fun p hp hmem => ?_) (List.map_eq_nil_iff.not.2 hnil)
      obtain ⟨e, -, rfl⟩ := List.mem_map.1 hp
      exact (isSafe_of_mem_encodePair hmem).2 rfl
    have hfilter : (pairs.map encodePair).filter (· ≠ []) = pairs.map encodePair := by
      refine List.filter_eq_self.2 fun p hp => ?_
      obtain ⟨e, -, rfl⟩ := List.mem_map.1 hp
      exact decide_eq_true (List.append_ne_nil_of_right_ne_nil _ (List.cons_ne_nil _ _))
    rw [hsplit, hfilter, List.map_map]
    refine (List.map_congr_left fun e _ => ?_).trans (List.map_id pairs)
    exact decodePair_encodePair e

end FormURL
