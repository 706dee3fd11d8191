import CycleTLS.JA4RTrip

/-!
# The first part of JA4 and JA4_r strings (`utils.go`)

The first part of a JA4 string has a fixed length, and `ParseJA4String` cuts it where it has to.
`ParseJA4RString` allows for a count of extensions with one digit, and takes two only if nothing or
an `h` follows. So it reads back what a JA4_r string was made of exactly if the code of its
protocol begins with this letter (`readsBack_iff`), and not where there is none.
-/

namespace CycleTLS

open Utf8 Raising

/-! ## JA4 strings -/

/-- `JA4Components`, without the fields that are left empty. -/
structure JA4Components where
  tlsVersion : Bytes
  sni : UInt8
  cipherCount : Int
  extensionCount : Int
  alpn : Bytes
  cipherHash : Bytes
  extensionsHash : Bytes
  deriving DecidableEq

/-- Go's `string` of a byte, which is the character with this number. -/
def stringOfByte (c : UInt8) : Bytes := String.utf8EncodeChar (Char.ofNat c.toNat)

/-- `ParseJA4String`, with the text of its error. -/
def parseJA4String (ja4 : Bytes) : Except Bytes JA4Components :=
  if ja4.length < 18 then .error (utf8 "invalid JA4 string: too short")
  else
    match split ja4 underscore with
    | [ja4a, cipherHash, extensionsHash] =>
      match ja4a with
      | protocol :: v₁ :: v₂ :: sni :: rest =>
        if ja4a.length < 7 then .error (utf8 "invalid JA4 string: first part too short")
        else if protocol ≠ 0x74 then
          .error (utf8 "invalid JA4 string: must start with 't' for TLS")
        else if ¬(["10", "11", "12", "13"].map utf8).contains [v₁, v₂] then
          .error (utf8 "invalid JA4 string: invalid TLS version: " ++ [v₁, v₂])
        else if sni ≠ 0x64 ∧ sni ≠ 0x69 then
          .error (utf8 "invalid JA4 string: invalid SNI indicator: " ++ stringOfByte sni)
        else if ja4a.length < 8 then
          .error (utf8 "invalid JA4 string: insufficient length for all components")
        else
          let alpn := rest.drop (rest.length - 2)
          let countsStr := rest.take (rest.length - 2)
          if countsStr.length ≠ 4 then
            .error (utf8 (s!"invalid JA4 string: expected 4 digits for cipher/extension counts, " ++
              s!"got {countsStr.length}"))
          else
            match atoi (countsStr.take 2) with
            | none => .error (utf8 "invalid JA4 string: invalid cipher count: " ++ countsStr.take 2)
            | some cipherCount =>
              match atoi (countsStr.drop 2) with
              | none => .error
                  (utf8 "invalid JA4 string: invalid extension count: " ++ countsStr.drop 2)
              | some extensionCount =>
                if cipherHash.length ≠ 12 then
                  .error (utf8 (s!"invalid JA4 string: cipher hash must be 12 characters, " ++
                    s!"got {cipherHash.length}"))
                else if extensionsHash.length ≠ 12 then
                  .error (utf8 (s!"invalid JA4 string: extension hash must be 12 characters, " ++
                    s!"got {extensionsHash.length}"))
                else
                  .ok ⟨[protocol, v₁, v₂], sni, cipherCount, extensionCount, alpn, cipherHash,
                    extensionsHash⟩
      | _ => .error (utf8 "invalid JA4 string: first part too short")
    | _ => .error (utf8
        "invalid JA4 string: incorrect format - expected 3 parts separated by underscores")

/-! ## The format -/

/-- The versions of TLS. -/
inductive JA4Version
  | v10
  | v11
  | v12
  | v13
  deriving DecidableEq

def JA4Version.text : JA4Version → Bytes
  | v10 => utf8 "10"
  | v11 => utf8 "11"
  | v12 => utf8 "12"
  | v13 => utf8 "13"

/-- A number below one hundred with two digits. -/
def twoDigits (n : Fin 100) : Bytes :=
  [0x30 + UInt8.ofNat (n / 10), 0x30 + UInt8.ofNat (n % 10)]

/-- A number with the format `%04x`. -/
def sprintf04x (v : UInt16) : Bytes :=
  [hexDigit (v >>> 12), hexDigit (v >>> 8 &&& 0xf), hexDigit (v >>> 4 &&& 0xf),
    hexDigit (v &&& 0xf)]

/-- A letter or a digit. -/
def IsAlphanumeric (c : UInt8) : Prop :=
  (0x30 ≤ c ∧ c ≤ 0x39) ∨ (0x41 ≤ c ∧ c ≤ 0x5a) ∨ (0x61 ≤ c ∧ c ≤ 0x7a)

instance (c : UInt8) : Decidable (IsAlphanumeric c) := inferInstanceAs (Decidable (_ ∨ _ ∨ _))

/-- What a JA4_r string is made of. The code of the protocol is its first and last character, or
    two zeros for none. -/
structure JA4RParts where
  version : JA4Version
  domain : Bool
  cipherCount : Fin 100
  extensionCount : Fin 100
  alpn₁ : UInt8
  alpn₂ : UInt8
  ciphers : List UInt16
  extensions : List UInt16
  signatures : List UInt16
  isAlphanumeric : IsAlphanumeric alpn₁ ∧ IsAlphanumeric alpn₂

namespace JA4RParts

variable (w : JA4RParts)

def alpn : Bytes := [w.alpn₁, w.alpn₂]

def sni : UInt8 := if w.domain then 0x64 else 0x69

/-- The first part, which a JA4 string has as well. -/
def prefixText : Bytes :=
  0x74 :: (w.version.text ++ w.sni ::
    (twoDigits w.cipherCount ++ (twoDigits w.extensionCount ++ w.alpn)))

/-- A list of the string. -/
def listText (l : List UInt16) : Bytes := [comma].intercalate (l.map sprintf04x)

/-- The JA4_r string, with a fourth part if there are signature schemes. -/
def text : Bytes :=
  [underscore].intercalate (w.prefixText :: listText w.ciphers :: listText w.extensions ::
    if w.signatures = [] then [] else [listText w.signatures])

/-- A JA4 string with the first part. -/
def ja4Text (cipherHash extensionsHash : Bytes) : Bytes :=
  [underscore].intercalate [w.prefixText, cipherHash, extensionsHash]

/-- The parts of the string. -/
def components : JA4RComponents where
  tlsVersion := 0x74 :: w.version.text
  sni := w.sni
  cipherCount := w.cipherCount
  extensionCount := w.extensionCount
  extensionCountStr := twoDigits w.extensionCount
  alpn := w.alpn
  cipherSuites := w.ciphers
  extensions := w.extensions
  signatureSchemes := w.signatures

end JA4RParts

/-- Two readings agree on the first part. -/
structure JA4RComponents.AgreesWith (c : JA4RComponents) (c' : JA4Components) : Prop where
  tlsVersion : c.tlsVersion = c'.tlsVersion
  sni : c.sni = c'.sni
  cipherCount : c.cipherCount = c'.cipherCount
  extensionCount : c.extensionCount = c'.extensionCount
  alpn : c.alpn = c'.alpn

/-- The string is read as what it was made of, and a JA4 string with the same first part and any
    hashes alike. -/
structure JA4RParts.ReadsBack (w : JA4RParts) : Prop where
  parsed : parseJA4RString w.text = .ok w.components
  agrees : ∀ cipherHash extensionsHash : Bytes, cipherHash.length = 12 →
    extensionsHash.length = 12 → underscore ∉ cipherHash → underscore ∉ extensionsHash →
      ∃ c c', parseJA4RString w.text = .ok c ∧
        parseJA4String (w.ja4Text cipherHash extensionsHash) = .ok c' ∧ c.AgreesWith c'

/-! ## Numbers -/

theorem digit_hexDigit {n : UInt16} (h : n.toNat < 16) :
    Radix.digit (hexDigit n) = some n.toNat := by
  have hall : ∀ i : Fin 16, Radix.digit (hexDigit (UInt16.ofNat i)) = some i.val := by decide
  have hdigit := hall ⟨n.toNat, h⟩
  rwa [UInt16.ofNat_toNat] at hdigit

theorem read_sprintf04x (v : UInt16) : Radix.read 16 (sprintf04x v) = some v.toNat := by
  have hv := v.toNat_lt
  have hand (n : UInt16) : (n &&& 0xf).toNat = n.toNat % 16 := by
    rw [UInt16.toNat_and]
    exact Nat.and_two_pow_sub_one_eq_mod n.toNat 4
  have hlow (n : UInt16) : (n &&& 0xf).toNat < 16 := hand n ▸ Nat.mod_lt _ (by decide)
  have hshift₁ : (v >>> 12).toNat = v.toNat / 4096 := by
    rw [UInt16.toNat_shiftRight]
    exact Nat.shiftRight_eq_div_pow ..
  have hshift₂ : (v >>> 8).toNat = v.toNat / 256 := by
    rw [UInt16.toNat_shiftRight]
    exact Nat.shiftRight_eq_div_pow ..
  have hshift₃ : (v >>> 4).toNat = v.toNat / 16 := by
    rw [UInt16.toNat_shiftRight]
    exact Nat.shiftRight_eq_div_pow ..
  have h₁ := digit_hexDigit (n := v >>> 12) (by omega)
  have h₂ := digit_hexDigit (n := v >>> 8 &&& 0xf) (hlow _)
  have h₃ := digit_hexDigit (n := v >>> 4 &&& 0xf) (hlow _)
  have h₄ := digit_hexDigit (n := v &&& 0xf) (hlow _)
  rw [hshift₁] at h₁
  rw [hand, hshift₂] at h₂
  rw [hand, hshift₃] at h₃
  rw [hand] at h₄
  have hvalue : (((0 * 16 + v.toNat / 4096) * 16 + v.toNat / 256 % 16) * 16 +
      v.toNat / 16 % 16) * 16 + v.toNat % 16 = v.toNat := by omega
  rw [Radix.read, sprintf04x, List.isEmpty_cons, if_neg Bool.false_ne_true]
  simp only [Radix.readFrom, h₁, h₂, h₃, h₄]
  rw [if_pos (by omega), if_pos (by omega), if_pos (by omega), if_pos (by omega), hvalue]

/-- A number as a word of a JA4_r string. -/
def HexWord.ofUInt16 (v : UInt16) : HexWord where
  prefixed := false
  numeral := ⟨sprintf04x v, v.toNat, read_sprintf04x v⟩
  value_lt := v.toNat_lt

theorem HexWord.value_ofUInt16 (v : UInt16) : (HexWord.ofUInt16 v).value = v := UInt16.ofNat_toNat

theorem length_twoDigits (n : Fin 100) : (twoDigits n).length = 2 := rfl

/-- A number of two digits. -/
def numeralOf (n : Fin 100) : Radix.Numeral 10 where
  digits := twoDigits n
  value := n
  read_digits := by
    have hall : ∀ n : Fin 100, Radix.read 10 (twoDigits n) = some n.val := by decide +kernel
    exact hall n

theorem atoi_twoDigits (n : Fin 100) : atoi (twoDigits n) = some (n.val : Int) :=
  atoi_digits (numeralOf n) le_rfl

namespace JA4RParts

theorem listText_eq (l : List UInt16) :
    listText l = JA4R.listText (l.map HexWord.ofUInt16) := by
  rw [listText, JA4R.listText, List.map_map]
  rfl

theorem underscore_not_mem_listText (l : List UInt16) : underscore ∉ listText l := by
  rw [listText_eq]
  exact JA4R.not_mem_listText (by decide) (by decide) _

theorem parseHexList_text (message : String) (l : List UInt16) :
    parseHexList message (listText l) = .ok l := by
  have hmap : (l.map HexWord.ofUInt16).map HexWord.value = l := by
    rw [List.map_map]
    exact (List.map_congr_left fun v _ => HexWord.value_ofUInt16 v).trans (List.map_id _)
  rw [listText_eq, JA4R.parseHexList_listText, hmap]

variable (w : JA4RParts)

theorem underscore_not_mem_prefixText : underscore ∉ w.prefixText := by
  have hversion : underscore ∉ w.version.text := by
    cases w.version <;> decide +kernel
  have hsni : underscore ≠ w.sni := by
    rw [sni]
    cases w.domain <;> decide
  have hdigits (n : Fin 100) : underscore ∉ twoDigits n :=
    not_mem_of_isDigit (by decide) (Radix.isDigit_of_read (numeralOf n).read_digits)
  have halpn : ∀ c, IsAlphanumeric c → underscore ≠ c := by
    rintro c hc rfl
    exact absurd hc (by decide)
  have hletters : underscore ∉ w.alpn := by
    rw [alpn, List.mem_cons, List.mem_singleton, not_or]
    exact ⟨halpn _ w.isAlphanumeric.1, halpn _ w.isAlphanumeric.2⟩
  simp only [prefixText, List.mem_cons, List.mem_append, not_or]
  exact ⟨by decide, hversion, hsni, hdigits _, hdigits _, hletters⟩

theorem split_text : split w.text underscore = w.prefixText :: listText w.ciphers ::
    listText w.extensions :: if w.signatures = [] then [] else [listText w.signatures] := by
  refine List.splitOn_intercalate underscore ?_ (List.cons_ne_nil _ _)
  simp only [List.forall_mem_cons]
  refine ⟨w.underscore_not_mem_prefixText, underscore_not_mem_listText _,
    underscore_not_mem_listText _, fun s hs => ?_⟩
  split_ifs at hs
  · exact absurd hs List.not_mem_nil
  · exact List.mem_singleton.1 hs ▸ underscore_not_mem_listText _

theorem prefixText_eq : ∃ v₁ v₂, w.version.text = [v₁, v₂] ∧ w.prefixText =
    0x74 :: v₁ :: v₂ :: w.sni :: (twoDigits w.cipherCount ++
      (twoDigits w.extensionCount ++ w.alpn)) := by
  obtain ⟨v₁, v₂, htext⟩ : ∃ v₁ v₂, w.version.text = [v₁, v₂] := by
    refine List.length_eq_two.1 ?_
    cases w.version <;> decide +kernel
  exact ⟨v₁, v₂, htext, by rw [prefixText, htext]; rfl⟩

theorem sni_cases : ¬(w.sni ≠ 0x64 ∧ w.sni ≠ 0x69) := by
  rw [sni]
  cases w.domain <;> decide

/-- All but the count of extensions and the protocol is read as it is. -/
theorem parseJA4RString_text : parseJA4RString w.text =
    (parseExtensionCount (twoDigits w.extensionCount ++ w.alpn)).map fun count =>
      { w.components with
        extensionCount := count.extensionCount
        extensionCountStr := count.extensionCountStr
        alpn := count.alpn } := by
  have hsignatures : parseHexList "invalid signature scheme hex"
      ((if w.signatures = [] then [] else [listText w.signatures]).headD []) =
        .ok w.signatures := by
    split_ifs with h
    · rw [h]
      rfl
    · exact parseHexList_text _ _
  obtain ⟨v₁, v₂, hversion, hprefix⟩ := w.prefixText_eq
  have hatoi := atoi_twoDigits w.cipherCount
  rw [parseJA4RString, split_text, hprefix]
  simp only [twoDigits, List.cons_append, List.nil_append] at hatoi ⊢
  rw [if_neg (by decide), if_neg w.sni_cases, hatoi]
  dsimp only
  generalize parseExtensionCount ((0x30 + UInt8.ofNat (w.extensionCount / 10)) ::
    (0x30 + UInt8.ofNat (w.extensionCount % 10)) :: w.alpn) = r
  cases r with
  | error e => rfl
  | ok count =>
    rw [ok_bind, parseHexList_text, ok_bind, parseHexList_text, ok_bind, hsignatures, ok_bind]
    simp only [Except.map, components, hversion]
    rfl

theorem isALPN_alpn : isALPN w.alpn = decide (w.alpn₁ = 0x68) := by
  have hletters : ["", "h1", "h2", "h3"].map utf8 =
      [[], [0x68, 0x31], [0x68, 0x32], [0x68, 0x33]] := by decide +kernel
  have hletter : utf8 "h" = [0x68] := by decide +kernel
  rw [isALPN, hletters, hletter, alpn]
  refine decide_eq_decide.2 ⟨?_, fun h => .inr ?_⟩
  · rintro (hmem | hprefix)
    · simp only [List.mem_cons, List.cons.injEq, reduceCtorEq, List.not_mem_nil, or_false,
        false_or] at hmem
      tauto
    · exact (List.cons_prefix_cons.1 hprefix).1.symm
  · exact List.cons_prefix_cons.2 ⟨h.symm, List.nil_prefix⟩

/-- Two digits are a count if the protocol begins with the letter, and else one is. -/
theorem parseExtensionCount_alpn : parseExtensionCount (twoDigits w.extensionCount ++ w.alpn) =
    if w.alpn₁ = 0x68 then
      .ok ⟨w.extensionCount, twoDigits w.extensionCount, w.alpn⟩
    else oneDigitCount (twoDigits w.extensionCount ++ w.alpn) := by
  have hlength := length_twoDigits w.extensionCount
  rw [parseExtensionCount, List.take_left' hlength, List.drop_left' hlength,
    if_pos (by simp [hlength]), atoi_twoDigits]
  dsimp only
  rw [isALPN_alpn]
  simp only [decide_eq_true_eq]

/-- A count of one digit leaves the other one to the protocol. -/
theorem length_alpn_of_oneDigitCount {count : CountAndALPN}
    (h : oneDigitCount (twoDigits w.extensionCount ++ w.alpn) = .ok count) :
    count.alpn.length = 3 := by
  rw [oneDigitCount] at h
  split at h
  · cases h
    rfl
  · cases h

/-- A JA4 string is read as its first part and its hashes. -/
theorem parseJA4String_ja4Text {cipherHash extensionsHash : Bytes} (hc : cipherHash.length = 12)
    (he : extensionsHash.length = 12) (hcut : underscore ∉ cipherHash)
    (hcut' : underscore ∉ extensionsHash) :
    parseJA4String (w.ja4Text cipherHash extensionsHash) = .ok
      ⟨0x74 :: w.version.text, w.sni, w.cipherCount, w.extensionCount, w.alpn, cipherHash,
        extensionsHash⟩ := by
  obtain ⟨v₁, v₂, hversion, hprefix⟩ := w.prefixText_eq
  have hmem : [v₁, v₂] ∈ ["10", "11", "12", "13"].map utf8 := by
    rw [← hversion]
    cases w.version <;> decide +kernel
  have hsplit : split (w.ja4Text cipherHash extensionsHash) underscore =
      [w.prefixText, cipherHash, extensionsHash] := by
    refine List.splitOn_intercalate underscore ?_ (List.cons_ne_nil _ _)
    simp only [List.forall_mem_cons]
    exact ⟨w.underscore_not_mem_prefixText, hcut, hcut', fun _ h => absurd h List.not_mem_nil⟩
  have hlong : ¬(w.ja4Text cipherHash extensionsHash).length < 18 := by
    simp [ja4Text, List.intercalate, List.intersperse, hc, he]
  have hrest : (twoDigits w.cipherCount ++ (twoDigits w.extensionCount ++ w.alpn)).length = 6 := rfl
  have htake : (twoDigits w.cipherCount ++ (twoDigits w.extensionCount ++ w.alpn)).take 4 =
      twoDigits w.cipherCount ++ twoDigits w.extensionCount := rfl
  have hdrop : (twoDigits w.cipherCount ++ (twoDigits w.extensionCount ++ w.alpn)).drop 4 =
      w.alpn := rfl
  have hcounts : (twoDigits w.cipherCount ++ twoDigits w.extensionCount).length = 4 := rfl
  rw [parseJA4String, if_neg hlong, hsplit, hprefix]
  dsimp only
  rw [if_neg (by simp [hrest]), if_neg (by decide),
    if_neg (not_not.2 (List.contains_iff_mem.2 hmem)), if_neg w.sni_cases,
    if_neg (by simp [hrest]), hrest, htake, hdrop, if_neg (not_not.2 hcounts),
    List.take_left' (length_twoDigits _), List.drop_left' (length_twoDigits _), atoi_twoDigits,
    atoi_twoDigits]
  dsimp only
  rw [if_neg (not_not.2 hc), if_neg (not_not.2 he), hversion]

/-- A JA4_r string is read as what it was made of if and only if the code of its protocol begins
    with an `h`. -/
theorem readsBack_iff : w.ReadsBack ↔ w.alpn₁ = 0x68 := by
  constructor
  · intro h
    by_contra hne
    have hparsed := h.parsed
    rw [parseJA4RString_text, parseExtensionCount_alpn, if_neg hne] at hparsed
    cases hcount : oneDigitCount (twoDigits w.extensionCount ++ w.alpn) with
    | error e =>
      rw [hcount] at hparsed
      cases hparsed
    | ok count =>
      rw [hcount] at hparsed
      have halpn : count.alpn = w.alpn := congrArg JA4RComponents.alpn (Except.ok.inj hparsed)
      have hlength := w.length_alpn_of_oneDigitCount hcount
      rw [halpn] at hlength
      cases hlength
  · intro h
    have hparsed : parseJA4RString w.text = .ok w.components := by
      rw [parseJA4RString_text, parseExtensionCount_alpn, if_pos h]
      rfl
    refine ⟨hparsed, fun cipherHash extensionsHash hc he hcut hcut' => ?_⟩
    exact ⟨_, _, hparsed, w.parseJA4String_ja4Text hc he hcut hcut', rfl, rfl, rfl, rfl, rfl⟩

/-- A first part without a protocol, `t13d021000`. -/
def withoutALPN : JA4RParts where
  version := .v13
  domain := true
  cipherCount := 2
  extensionCount := 10
  alpn₁ := 0x30
  alpn₂ := 0x30
  ciphers := [0x1301]
  extensions := [0x000d]
  signatures := [0x0403]
  isAlphanumeric := by decide

/-- One zero is left for the count, and the other becomes part of the protocol. -/
theorem not_forall_readsBack : ¬∀ w : JA4RParts, w.ReadsBack := by
  intro h
  have hparsed := congrArg (fun r => r.toOption.map JA4RComponents.alpn) (h withoutALPN).parsed
  have hread : ((parseJA4RString withoutALPN.text).toOption.map JA4RComponents.alpn) =
      some (utf8 "000") := by decide +kernel
  exact absurd (hread.symm.trans hparsed) (by decide +kernel)

end JA4RParts

end CycleTLS
