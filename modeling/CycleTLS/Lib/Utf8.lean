import CycleTLS.Lib.Text

/-!
# UTF-8

Strings as the bytes of their UTF-8 encoding, and back (`decode`, defined on
the byte strings that encode a string). ASCII bytes are never part of the
encoding of another character, so that

* ASCII text occurs in an encoding where it occurs in the string
  (`infix_utf8_iff`, `hits_utf8`);
* a byte string can be cut at an ASCII byte: what stands before it is an
  encoding if the whole is (`isSome_decode_of_append_cons`);
* what follows an encoding is one if the whole is (`isSome_decode_utf8_append`).
-/

namespace Utf8

open Text

/-- The bytes of a string. -/
def utf8 (s : String) : List UInt8 := s.toList.flatMap String.utf8EncodeChar

/-- The string encoded by the bytes, if they encode one. -/
def decode (b : List UInt8) : Option String := String.fromUTF8? b.toByteArray

@[simp] theorem utf8_append (s t : String) : utf8 (s ++ t) = utf8 s ++ utf8 t := by
  simp [utf8]

theorem toByteArray_utf8 (s : String) : (utf8 s).toByteArray = s.toByteArray := by
  conv_rhs => rw [← String.ofList_toList (s := s), String.toByteArray_ofList]
  rfl

/-- The bytes of a string as it stores them. This form is evaluated without
    going through the characters. -/
theorem utf8_eq_data (s : String) : utf8 s = s.toByteArray.data.toList := by
  have h := congrArg (fun b => b.data.toList) (toByteArray_utf8 s)
  rwa [List.data_toByteArray, List.toList_toArray] at h

@[simp] theorem decode_utf8 (s : String) : decode (utf8 s) = some s := by
  rw [decode, toByteArray_utf8, String.fromUTF8?, dif_pos s.isValidUTF8]
  rfl

theorem utf8_injective : Function.Injective utf8 := fun s t h =>
  Option.some.inj (by rw [← decode_utf8 s, h, decode_utf8])

theorem decode_eq_some_iff {b : List UInt8} {s : String} : decode b = some s ↔ b = utf8 s := by
  constructor
  · intro h
    rw [decode, String.fromUTF8?] at h
    split_ifs at h with hv
    have hs : s.toByteArray = b.toByteArray := by rw [← Option.some.inj h]; rfl
    rw [← toByteArray_utf8] at hs
    simpa using congrArg (fun a => a.data.toList) hs.symm
  · rintro rfl
    exact decode_utf8 s

theorem isSome_decode_iff {b : List UInt8} : (decode b).isSome ↔ ∃ s, b = utf8 s := by
  rw [Option.isSome_iff_exists]
  exact exists_congr fun _ => decode_eq_some_iff

/-! ## ASCII -/

/-- The encoding of a character: an ASCII byte alone, or bytes outside ASCII. -/
theorem encodeChar_cases (c : Char) :
    (c.toNat < 0x80 ∧ String.utf8EncodeChar c = [UInt8.ofNat c.toNat]) ∨
      (0x80 ≤ c.toNat ∧ ∀ b ∈ String.utf8EncodeChar c, 0x80 ≤ b.toNat) := by
  by_cases h : c.toNat < 0x80
  · refine .inl ⟨h, ?_⟩
    rw [String.utf8EncodeChar]
    exact if_pos (by change c.toNat ≤ 0x7f; omega)
  · refine .inr ⟨by omega, ?_⟩
    rw [String.utf8EncodeChar]
    split_ifs with h₁ h₂ h₃
    · exact absurd h₁ (by change ¬c.toNat ≤ 0x7f; omega)
    all_goals
      intro b hb
      simp only [List.mem_cons, List.not_mem_nil, or_false] at hb
      rcases hb with rfl | rfl | rfl | rfl <;> (rw [UInt8.toNat_ofNat']; omega)

/-- The text is ASCII. -/
def IsAscii (p : List Char) : Prop := ∀ c ∈ p, c.toNat < 0x80

instance (p : List Char) : Decidable (IsAscii p) :=
  List.decidableBAll (fun c : Char => c.toNat < 0x80) p

/-- The bytes of an ASCII text are its character codes. -/
theorem flatMap_encodeChar_of_isAscii {p : List Char} (hp : IsAscii p) :
    p.flatMap String.utf8EncodeChar = p.map fun c => UInt8.ofNat c.toNat := by
  induction p with
  | nil => rfl
  | cons c p ih =>
    rcases encodeChar_cases c with ⟨_, hc⟩ | ⟨hc, _⟩
    · rw [List.flatMap_cons, hc, ih fun d hd => hp d (List.mem_cons_of_mem _ hd)]
      rfl
    · exact absurd (hp c List.mem_cons_self) (by omega)

/-- ASCII bytes are a text, of the characters with these codes. -/
theorem eq_utf8_of_isAscii {b : List UInt8} (h : ∀ c ∈ b, c.toNat < 0x80) :
    b = utf8 (String.ofList (b.map fun c => Char.ofNat c.toNat)) := by
  have htoNat {c : UInt8} (hc : c.toNat < 0x80) : (Char.ofNat c.toNat).toNat = c.toNat := by
    rw [Char.ofNat, dif_pos (by left; omega)]
    rfl
  have hp : IsAscii (b.map fun c => Char.ofNat c.toNat) := by
    intro d hd
    obtain ⟨c, hc, rfl⟩ := List.mem_map.1 hd
    rw [htoNat (h c hc)]
    exact h c hc
  rw [utf8, String.toList_ofList, flatMap_encodeChar_of_isAscii hp, List.map_map]
  refine (List.map_id b).symm.trans (List.map_congr_left fun c hc => ?_)
  rw [Function.comp_apply, htoNat (h c hc), UInt8.ofNat_toNat, id]

theorem isSome_decode_of_isAscii {b : List UInt8} (h : ∀ c ∈ b, c.toNat < 0x80) :
    (decode b).isSome :=
  isSome_decode_iff.2 ⟨_, eq_utf8_of_isAscii h⟩

/-- The characters of a string, read off its bytes where these are ASCII. -/
def chars (s : String) : List Char :=
  if s.toByteArray.data.toList.all fun b => b.toNat < 0x80 then
    s.toByteArray.data.toList.map fun b => Char.ofNat b.toNat
  else s.toList

/-- As for `utf8_eq_data`: this form is evaluated without decoding. -/
theorem toList_eq_chars : String.toList = chars := by
  funext s
  rw [chars]
  split_ifs with h
  · simp only [List.all_eq_true, decide_eq_true_eq] at h
    rw [← utf8_eq_data] at h ⊢
    have hs := utf8_injective (eq_utf8_of_isAscii h)
    rw [← String.toList_ofList (l := (utf8 s).map fun b => Char.ofNat b.toNat), ← hs]
  · rfl

/-- The bytes of a character are not those of an ASCII character, if it is another one. -/
theorem ne_of_mem_encodeChar {c d : Char} (hc : c.toNat < 0x80) (hne : d ≠ c) :
    ∀ b ∈ String.utf8EncodeChar d, b ≠ UInt8.ofNat c.toNat := by
  intro b hb heq
  rcases encodeChar_cases d with ⟨hd, henc⟩ | ⟨-, hnon⟩
  · rw [henc, List.mem_singleton] at hb
    have hval := congrArg UInt8.toNat (hb.symm.trans heq)
    rw [UInt8.toNat_ofNat', UInt8.toNat_ofNat'] at hval
    exact hne (Char.toNat_inj.1 (by omega))
  · have hval := congrArg UInt8.toNat heq
    rw [UInt8.toNat_ofNat'] at hval
    have hle := hnon b hb
    omega

theorem encodeChar_of_lt {c : Char} (hc : c.toNat < 0x80) :
    String.utf8EncodeChar c = [UInt8.ofNat c.toNat] := by
  rcases encodeChar_cases c with ⟨-, henc⟩ | ⟨hle, -⟩
  · exact henc
  · omega

/-- A text is split at an ASCII character where its bytes are. -/
theorem span_utf8 {c : Char} (hc : c.toNat < 0x80) (s : String) :
    (utf8 s).takeWhile (· ≠ UInt8.ofNat c.toNat) =
        utf8 (String.ofList (s.toList.takeWhile (· ≠ c))) ∧
      (utf8 s).dropWhile (· ≠ UInt8.ofNat c.toNat) =
        utf8 (String.ofList (s.toList.dropWhile (· ≠ c))) := by
  simp only [utf8, String.toList_ofList]
  induction s.toList with
  | nil => exact ⟨rfl, rfl⟩
  | cons d cs ih =>
    rw [List.flatMap_cons]
    by_cases hd : d = c
    · subst hd
      rw [encodeChar_of_lt hc, List.singleton_append, List.takeWhile_cons_of_neg (by simp),
        List.dropWhile_cons_of_neg (by simp), List.takeWhile_cons_of_neg (by simp),
        List.dropWhile_cons_of_neg (by simp), List.flatMap_cons, encodeChar_of_lt hc]
      exact ⟨rfl, rfl⟩
    · have hpos : ∀ b ∈ String.utf8EncodeChar d, decide (b ≠ UInt8.ofNat c.toNat) = true :=
        fun b hb => decide_eq_true (ne_of_mem_encodeChar hc hd b hb)
      rw [List.takeWhile_append_of_pos hpos, List.dropWhile_append_of_pos hpos,
        List.takeWhile_cons_of_pos (by simp [hd]), List.dropWhile_cons_of_pos (by simp [hd]),
        List.flatMap_cons, ih.1]
      exact ⟨rfl, ih.2⟩

theorem ofNat_toNat_inj {c d : Char} (hc : c.toNat < 0x80) (hd : d.toNat < 0x80)
    (h : UInt8.ofNat c.toNat = UInt8.ofNat d.toNat) : c = d := by
  have h' := congrArg UInt8.toNat h
  rw [UInt8.toNat_ofNat', UInt8.toNat_ofNat'] at h'
  exact Char.toNat_inj.1 (by omega)

/-- ASCII text begins an encoding only where it begins the text. -/
theorem prefix_encode_iff {p cs : List Char} (hp : IsAscii p) :
    p.flatMap String.utf8EncodeChar <+: cs.flatMap String.utf8EncodeChar ↔ p <+: cs := by
  refine ⟨fun h => ?_, fun ⟨t, ht⟩ => ⟨t.flatMap _, by rw [← ht, List.flatMap_append]⟩⟩
  rw [flatMap_encodeChar_of_isAscii hp] at h
  induction p generalizing cs with
  | nil => exact List.nil_prefix
  | cons c p ih =>
    have hc : c.toNat < 0x80 := hp c List.mem_cons_self
    cases cs with
    | nil => simp at h
    | cons d cs =>
      rw [List.flatMap_cons, List.map_cons] at h
      rcases encodeChar_cases d with ⟨hd, he⟩ | ⟨hd, he⟩
      · rw [he, List.singleton_append, List.cons_prefix_cons] at h
        rw [ofNat_toNat_inj hc hd h.1]
        exact List.cons_prefix_cons.2 ⟨rfl, ih (fun x hx => hp x (List.mem_cons_of_mem _ hx)) h.2⟩
      · -- The encoding of `d` starts outside ASCII.
        cases hb : String.utf8EncodeChar d with
        | nil => exact absurd hb String.utf8EncodeChar_ne_nil
        | cons b bs =>
          rw [hb, List.cons_append, List.cons_prefix_cons] at h
          have hb' := he b (hb ▸ List.mem_cons_self)
          rw [← h.1, UInt8.toNat_ofNat'] at hb'
          omega

/-- An occurrence of an ASCII text skips bytes outside ASCII. -/
theorem infix_append_of_nonAscii {p : List Char} (hp : IsAscii p) {bs rest : List UInt8}
    (hbs : ∀ b ∈ bs, 0x80 ≤ b.toNat)
    (h : p.flatMap String.utf8EncodeChar <:+: bs ++ rest) :
    p.flatMap String.utf8EncodeChar <:+: rest := by
  rw [flatMap_encodeChar_of_isAscii hp] at h ⊢
  induction bs with
  | nil => exact h
  | cons b bs ih =>
    rw [List.cons_append, List.infix_cons_iff] at h
    rcases h with h | h
    · cases p with
      | nil => exact List.nil_infix
      | cons c p =>
        have hb := hbs b List.mem_cons_self
        have hc := hp c List.mem_cons_self
        rw [List.map_cons, List.cons_prefix_cons] at h
        rw [← h.1, UInt8.toNat_ofNat'] at hb
        omega
    · exact ih (fun b hb => hbs b (List.mem_cons_of_mem _ hb)) h

/-- ASCII text occurs in an encoding only where it occurs in the text. -/
theorem infix_encode_iff {p cs : List Char} (hp : IsAscii p) :
    p.flatMap String.utf8EncodeChar <:+: cs.flatMap String.utf8EncodeChar ↔ p <:+: cs := by
  constructor
  · induction cs with
    | nil =>
      intro h
      have := (@prefix_encode_iff p [] hp).1 (List.infix_nil.1 h ▸ List.prefix_rfl)
      exact this.isInfix
    | cons d cs ih =>
      intro h
      rw [List.infix_cons_iff]
      -- `d` is a byte of its own, or its bytes are all outside ASCII and are skipped
      rcases encodeChar_cases d with ⟨_, he⟩ | ⟨_, he⟩
      · rw [List.flatMap_cons, he, List.singleton_append, List.infix_cons_iff] at h
        refine h.imp (fun h => ?_) ih
        rw [← prefix_encode_iff hp, List.flatMap_cons, he]
        exact h
      · rw [List.flatMap_cons] at h
        exact .inr (ih (infix_append_of_nonAscii hp he h))
  · rintro ⟨s, t, rfl⟩
    exact ⟨s.flatMap _, t.flatMap _, by rw [List.flatMap_append, List.flatMap_append]⟩

theorem infix_utf8_iff {p s : String} (hp : IsAscii p.toList) :
    utf8 p <:+: utf8 s ↔ p.toList <:+: s.toList := infix_encode_iff hp

theorem hits_utf8 {pats : List String} (hp : ∀ p ∈ pats, IsAscii p.toList) (s : String) :
    hits (pats.map utf8) (utf8 s) = hits (pats.map String.toList) s.toList := by
  rw [Bool.eq_iff_iff, hits_iff, hits_iff]
  simp only [List.mem_map, exists_exists_and_eq_and]
  exact exists_congr fun p => and_congr_right fun h => infix_utf8_iff (hp p h)

/-! ## Cutting -/

/-- On the left of an ASCII byte, an encoding is one. -/
theorem exists_encode_of_append_cons {a r : List UInt8} {b : UInt8} (hb : b.toNat < 0x80)
    {cs : List Char} (h : a ++ b :: r = cs.flatMap String.utf8EncodeChar) :
    ∃ ds : List Char, a = ds.flatMap String.utf8EncodeChar := by
  induction cs generalizing a with
  | nil => simp at h
  | cons c cs ih =>
    rw [List.flatMap_cons] at h
    rcases List.append_eq_append_iff.1 h with ⟨e, he, hr⟩ | ⟨a', ha, hr⟩
    · -- The byte `b` is in the encoding of `c`: it is the whole of it.
      cases e with
      | nil =>
        exact ⟨[c], by simpa using he.symm⟩
      | cons b' e =>
        obtain ⟨rfl, _⟩ := List.cons_eq_cons.1 hr
        rcases encodeChar_cases c with ⟨_, hc⟩ | ⟨_, hc⟩
        · rw [hc] at he
          cases a with
          | nil => exact ⟨[], rfl⟩
          | cons x a => simp at he
        · exact absurd (hc b (he ▸ List.mem_append_right _ List.mem_cons_self)) (by omega)
    · obtain ⟨ds, rfl⟩ := ih hr.symm
      exact ⟨c :: ds, ha⟩

theorem isSome_decode_of_append_cons {a r : List UInt8} {b : UInt8} (hb : b.toNat < 0x80)
    (h : (decode (a ++ b :: r)).isSome) : (decode a).isSome := by
  obtain ⟨s, hs⟩ := isSome_decode_iff.1 h
  obtain ⟨ds, hds⟩ := exists_encode_of_append_cons hb hs
  exact isSome_decode_iff.2 ⟨String.ofList ds, by rw [utf8, String.toList_ofList, hds]⟩

/-- On the right of an encoding, the rest of an encoding is one. -/
theorem isSome_decode_utf8_append {s : String} {b : List UInt8} :
    (decode (utf8 s ++ b)).isSome ↔ (decode b).isSome := by
  constructor
  · intro h
    obtain ⟨t, ht⟩ := isSome_decode_iff.1 h
    have hpre : s.toList <+: t.toList := by
      refine List.isPrefix_of_utf8Encode_append_eq_utf8Encode b.toByteArray ?_
      rw [List.utf8Encode, List.utf8Encode, ← List.toByteArray_append]
      exact congrArg List.toByteArray ht
    obtain ⟨u, hu⟩ := hpre
    refine isSome_decode_iff.2 ⟨String.ofList u, ?_⟩
    rw [utf8, utf8, ← hu, List.flatMap_append] at ht
    rw [utf8, String.toList_ofList]
    exact List.append_cancel_left ht
  · intro h
    obtain ⟨t, rfl⟩ := isSome_decode_iff.1 h
    exact isSome_decode_iff.2 ⟨s ++ t, (utf8_append s t).symm⟩

/-- Two texts joined by an ASCII text are encodings together only. -/
theorem isSome_decode_join {p : String} (hp : IsAscii p.toList) (hne : p ≠ "")
    {a b : List UInt8} :
    (decode (a ++ utf8 p ++ b)).isSome ↔ (decode a).isSome ∧ (decode b).isSome := by
  constructor
  · intro h
    -- the first byte of `p` is ASCII, which ends an encoding
    have ha : (decode a).isSome := by
      cases hl : p.toList with
      | nil => exact absurd (String.toList_eq_nil_iff.1 hl) hne
      | cons c cs =>
        rw [hl] at hp
        have hc : c.toNat < 0x80 := hp c List.mem_cons_self
        rw [utf8, hl, flatMap_encodeChar_of_isAscii hp, List.map_cons, List.append_assoc,
          List.cons_append] at h
        refine isSome_decode_of_append_cons ?_ h
        rw [UInt8.toNat_ofNat']
        omega
    obtain ⟨s, rfl⟩ := isSome_decode_iff.1 ha
    rw [List.append_assoc, isSome_decode_utf8_append, isSome_decode_utf8_append] at h
    exact ⟨ha, h⟩
  · rintro ⟨ha, hb⟩
    obtain ⟨s, rfl⟩ := isSome_decode_iff.1 ha
    rwa [List.append_assoc, isSome_decode_utf8_append, isSome_decode_utf8_append]

end Utf8
