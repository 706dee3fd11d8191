import CycleTLS.JA4R

/-!
# What a JA4_r string says is sent

A JA4_r string as its parts (`JA4R`), with the text that is made of them. The text of one
that is `WellFormed` makes a hello with all that it lists, whatever the order that is put
back and the browser (`ja4rStringToSpec_restates`).
-/

namespace CycleTLS

open Utf8 Raising

/-! ## The strings -/

/-- A number of a list, with the prefix for base sixteen or without. -/
structure HexWord where
  prefixed : Bool
  numeral : Radix.Numeral 16
  value_lt : numeral.value < 2 ^ 16

namespace HexWord

variable (w : HexWord)

def value : UInt16 := UInt16.ofNat w.numeral.value

def text : Bytes := (if w.prefixed then utf8 "0x" else []) ++ w.numeral.digits

end HexWord

/-- The ALPN that a JA4_r string may have. -/
inductive JA4RALPN
  | empty
  | h1
  | h2
  | h3
  deriving DecidableEq

def JA4RALPN.text : JA4RALPN → Bytes
  | empty => []
  | h1 => utf8 "h1"
  | h2 => utf8 "h2"
  | h3 => utf8 "h3"

/-- The parts of a JA4_r string for TLS 1.3. -/
structure JA4R where
  domain : Bool
  cipherCount : Radix.Numeral 10
  extensionCount : Radix.Numeral 10
  alpn : JA4RALPN
  ciphers : List HexWord
  extensions : List HexWord
  signatures : Option (List HexWord)
  length_cipherCount : cipherCount.digits.length = 2
  length_extensionCount : extensionCount.digits.length ≤ 2

namespace JA4R

variable (w : JA4R)

/-- A list of the string. -/
def listText (words : List HexWord) : Bytes := [comma].intercalate (words.map HexWord.text)

/-- What follows the version. -/
def header : Bytes :=
  (if w.domain then 0x64 else 0x69) ::
    (w.cipherCount.digits ++ (w.extensionCount.digits ++ w.alpn.text))

/-- The string. -/
def text : Bytes :=
  [underscore].intercalate (((utf8 "t13" ++ w.header) :: listText w.ciphers ::
    listText w.extensions :: (w.signatures.map listText).toList))

/-- The ids of the extensions that are counted. -/
def extensionIDs : List UInt16 :=
  (if w.domain then [0x0000] else []) ++ w.extensions.map HexWord.value ++
    if w.alpn = .empty then [] else [0x0010]

/-- Each id is listed once, without the two that are only counted, and the count is right. -/
structure WellFormed : Prop where
  nodup : (w.extensions.map HexWord.value).Nodup
  not_listed : ∀ e ∈ w.extensions, e.value ≠ 0x0000 ∧ e.value ≠ 0x0010 ∧ ¬IsGREASE e.value
  counted : w.extensionCount.value =
    w.extensions.length + (if w.domain then 1 else 0) + if w.alpn = .empty then 0 else 1

/-- What is read of the string. -/
def components : JA4RComponents where
  tlsVersion := utf8 "t13"
  sni := if w.domain then 0x64 else 0x69
  cipherCount := w.cipherCount.value
  extensionCount := w.extensionCount.value
  extensionCountStr := w.extensionCount.digits
  alpn := w.alpn.text
  cipherSuites := w.ciphers.map HexWord.value
  extensions := w.extensions.map HexWord.value
  signatureSchemes := (w.signatures.getD []).map HexWord.value

end JA4R

/-- The second list has the values of the first, in any order, and besides only GREASE. -/
structure Rearranges (l l' : List UInt16) : Prop where
  subperm : l.Subperm l'
  degrease : (degrease l').Perm (CycleTLS.degrease l)

/-- The hello restates a JA4_r string. -/
structure ClientHelloSpec.RestatesJA4R (spec : ClientHelloSpec) (w : JA4R) : Prop where
  extensions : (degrease spec.extensionIDs).Perm w.extensionIDs
  nodup : (degrease spec.extensionIDs).Nodup
  length : (degrease spec.extensionIDs).length = w.extensionCount.value
  cipherSuites : Rearranges (w.ciphers.map HexWord.value) spec.cipherSuites
  signatureSchemes : ∀ schemes, w.signatures = some schemes → schemes ≠ [] →
    (0x000d ∈ w.extensions.map HexWord.value) →
    some (.signatureAlgorithms (schemes.map HexWord.value)) ∈ spec.extensions

/-! ## Reading -/

theorem atoi_of_isDigit {s : Bytes} (h : ∀ c ∈ s, Radix.IsDigit 10 c) :
    atoi s = ((Radix.read 10 s).filter (· < 2 ^ 63)).map Int.ofNat := by
  unfold atoi
  split
  · exact absurd (h _ List.mem_cons_self) (by decide)
  · exact absurd (h _ List.mem_cons_self) (by decide)
  · rfl

/-- The number of a count is not out of range. -/
theorem atoi_digits (n : Radix.Numeral 10) (h : n.digits.length ≤ 2) :
    atoi n.digits = some (n.value : Int) := by
  have hlt : n.value < 10 ^ 2 :=
    Nat.lt_of_lt_of_le (Radix.lt_of_read n.read_digits) (Nat.pow_le_pow_right (by decide) h)
  rw [atoi_of_isDigit (Radix.isDigit_of_read n.read_digits), n.read_digits, Option.filter_some,
    if_pos (by simpa using by omega)]
  rfl

theorem atoi_cons_letter {d : UInt8} (hd : Radix.IsDigit 10 d) : atoi [d, 0x68] = none := by
  have hread : Radix.read 10 [d, 0x68] = none := by
    cases h : Radix.read 10 [d, 0x68] with
    | none => rfl
    | some m =>
      have hletter := Radix.isDigit_of_read h 0x68 (by simp)
      exact absurd hletter (by decide)
  unfold atoi
  split
  · next heq => cases heq; exact absurd hd (by decide)
  · next heq => cases heq; exact absurd hd (by decide)
  · rw [hread]; rfl

theorem isALPN_text (alpn : JA4RALPN) : isALPN alpn.text := by
  cases alpn <;> decide +kernel

theorem JA4RALPN.text_cases (alpn : JA4RALPN) : alpn.text = [] ∨ ∃ d, alpn.text = [0x68, d] := by
  cases alpn with
  | empty => exact .inl rfl
  | h1 => exact .inr ⟨0x31, rfl⟩
  | h2 => exact .inr ⟨0x32, rfl⟩
  | h3 => exact .inr ⟨0x33, rfl⟩

/-- A count of one digit or two is read up to the ALPN. -/
theorem parseExtensionCount_text (n : Radix.Numeral 10) (h : n.digits.length ≤ 2)
    (alpn : JA4RALPN) : parseExtensionCount (n.digits ++ alpn.text) =
      .ok ⟨n.value, n.digits, alpn.text⟩ := by
  have hatoi := atoi_digits n h
  have hdigits := Radix.isDigit_of_read n.read_digits
  have hne := Radix.ne_nil_of_read n.read_digits
  rw [parseExtensionCount]
  generalize n.digits = digits at h hatoi hdigits hne ⊢
  rcases digits with _ | ⟨c, _ | ⟨c', _ | ⟨c'', rest⟩⟩⟩
  · exact absurd rfl hne
  · have hone : oneDigitCount ([c] ++ alpn.text) = .ok ⟨n.value, [c], alpn.text⟩ := by
      have htake : ([c] ++ alpn.text).take 1 = [c] := rfl
      rw [oneDigitCount, htake, hatoi]
      rfl
    rcases alpn.text_cases with halpn | ⟨d, halpn⟩
    · rw [if_neg (by simp [halpn]), if_pos (by simp)]
      exact hone
    · -- the letter is no second digit
      have hnone : atoi (([c] ++ alpn.text).take 2) = none := by
        rw [halpn]
        exact atoi_cons_letter (hdigits c List.mem_cons_self)
      rw [if_pos (by simp [halpn]), hnone]
      exact hone
  · have htake : ([c, c'] ++ alpn.text).take 2 = [c, c'] := rfl
    have hdrop : ([c, c'] ++ alpn.text).drop 2 = alpn.text := rfl
    rw [if_pos (by simp), htake, hatoi, hdrop]
    exact if_pos (isALPN_text alpn)
  · simp only [List.length_cons] at h
    omega

theorem not_mem_of_isDigit {base : Nat} {s : Bytes} {c : UInt8} (hc : Radix.digit c = none)
    (h : ∀ d ∈ s, Radix.IsDigit base d) : c ∉ s := by
  intro hmem
  obtain ⟨d, -, hd⟩ := h c hmem
  cases hc.symm.trans hd

namespace HexWord

variable (w : HexWord)

theorem not_mem_text {c : UInt8} (hc : Radix.digit c = none) : c ∉ w.text := by
  rw [text, List.mem_append, not_or]
  refine ⟨?_, not_mem_of_isDigit hc (Radix.isDigit_of_read w.numeral.read_digits)⟩
  have hpre : ∀ c ∈ utf8 "0x", Radix.digit c ≠ none := forall_mem_of_all (by decide +kernel)
  split_ifs
  · exact fun h => hpre c h hc
  · exact List.not_mem_nil

theorem trimPrefix_text : trimPrefix w.text "0x" = w.numeral.digits := by
  rw [trimPrefix, text]
  cases w.prefixed with
  | true =>
    rw [if_pos rfl, if_pos (List.prefix_append _ _)]
    exact List.drop_left
  | false =>
    rw [if_neg Bool.false_ne_true, List.nil_append, if_neg]
    intro hpre
    -- digits have no such letter
    have hx : (0x78 : UInt8) ∈ w.numeral.digits := hpre.subset (by decide +kernel)
    exact absurd (Radix.isDigit_of_read w.numeral.read_digits _ hx) (by decide)

theorem parseHex_text (message : String) : parseHex message w.text = .ok w.value := by
  have hvalue : uintValue 16 16 w.numeral.digits = some w.numeral.value := by
    rw [uintValue, w.numeral.read_digits, Option.filter_some, if_pos (by simpa using w.value_lt)]
  rw [parseHex, trimPrefix_text, hvalue]
  rfl

end HexWord

namespace JA4R

theorem not_mem_listText {c : UInt8} (hc : Radix.digit c = none) (hne : c ≠ comma)
    (words : List HexWord) : c ∉ listText words := by
  intro hmem
  rcases Radix.eq_or_mem_of_mem_intercalate hmem with heq | ⟨s, hs, hmem⟩
  · exact hne heq
  · obtain ⟨w, -, rfl⟩ := List.mem_map.1 hs
    exact w.not_mem_text hc hmem

theorem parseHexList_listText (message : String) (words : List HexWord) :
    parseHexList message (listText words) = .ok (words.map HexWord.value) := by
  rw [parseHexList]
  cases words with
  | nil => rfl
  | cons w words =>
    have hne : (w :: words).map HexWord.text ≠ [] := List.cons_ne_nil _ _
    have hsplit : split (listText (w :: words)) comma = (w :: words).map HexWord.text := by
      refine List.splitOn_intercalate comma ?_ hne
      intro s hs
      obtain ⟨w', -, rfl⟩ := List.mem_map.1 hs
      exact w'.not_mem_text (by decide)
    have htext : listText (w :: words) ≠ [] := by
      intro hnil
      rw [hnil] at hsplit
      have hw := (List.cons.inj hsplit).1
      have hempty := (List.append_eq_nil_iff.1 hw.symm).2
      exact Radix.ne_nil_of_read w.numeral.read_digits hempty
    rw [if_neg htext, hsplit, mapM_eq_ok_iff, List.map_map, List.map_map]
    exact List.map_congr_left fun w _ => w.parseHex_text message

variable (w : JA4R)

theorem underscore_not_mem_header : underscore ∉ w.header := by
  have halpn : underscore ∉ w.alpn.text := by
    cases w.alpn <;> decide +kernel
  have hsni : underscore ≠ if w.domain then 0x64 else 0x69 := by
    cases w.domain <;> decide
  rw [header, List.mem_cons, List.mem_append, List.mem_append, not_or, not_or, not_or]
  exact ⟨hsni, not_mem_of_isDigit (by decide) (Radix.isDigit_of_read w.cipherCount.read_digits),
    not_mem_of_isDigit (by decide) (Radix.isDigit_of_read w.extensionCount.read_digits), halpn⟩

theorem split_text : split w.text underscore = (utf8 "t13" ++ w.header) :: listText w.ciphers ::
    listText w.extensions :: (w.signatures.map listText).toList := by
  refine List.splitOn_intercalate underscore ?_ (List.cons_ne_nil _ _)
  have hlist (words : List HexWord) : underscore ∉ listText words :=
    not_mem_listText (by decide) (by decide) words
  have ht13 : underscore ∉ utf8 "t13" := (by decide : underscore ∉ [0x74, 0x31, 0x33])
  simp only [List.forall_mem_cons]
  refine ⟨?_, hlist _, hlist _, fun s hs => ?_⟩
  · rw [List.mem_append, not_or]
    exact ⟨ht13, w.underscore_not_mem_header⟩
  · obtain ⟨words, -, rfl⟩ := Option.map_eq_some_iff.1 (Option.mem_toList.1 hs)
    exact hlist words

/-- The parts are read back. -/
theorem parseJA4RString_text : parseJA4RString w.text = .ok w.components := by
  have hcount := atoi_digits w.cipherCount w.length_cipherCount.le
  have hsignatures : parseHexList "invalid signature scheme hex"
      ((w.signatures.map listText).toList.headD []) =
        .ok ((w.signatures.getD []).map HexWord.value) := by
    cases w.signatures with
    | none => rfl
    | some words => exact parseHexList_listText _ words
  obtain ⟨c₁, c₂, hdigits⟩ := List.length_eq_two.1 w.length_cipherCount
  rw [hdigits] at hcount
  have ht13 : utf8 "t13" = [0x74, 0x31, 0x33] := rfl
  rw [parseJA4RString, split_text, header, hdigits, ht13]
  simp only [List.cons_append, List.nil_append]
  have hsni : ¬((if w.domain then 0x64 else 0x69 : UInt8) ≠ 0x64 ∧
      (if w.domain then 0x64 else 0x69 : UInt8) ≠ 0x69) := by
    cases w.domain <;> decide
  rw [if_neg (by decide), if_neg hsni, hcount]
  dsimp only
  rw [parseExtensionCount_text _ w.length_extensionCount, parseHexList_listText,
    parseHexList_listText, hsignatures]
  simp only [ok_bind, components, ht13]
  rfl

end JA4R

/-! ## Entries -/

theorem map_replaceF {α β : Type} {f : α → Option α} {g : α → β}
    (h : ∀ a b, f a = some b → g b = g a) (l : List α) : (l.replaceF f).map g = l.map g := by
  induction l with
  | nil => rfl
  | cons a l ih =>
    cases hf : f a with
    | none => rw [List.replaceF_cons_of_none _ hf, List.map_cons, ih, List.map_cons]
    | some b => rw [List.replaceF_cons_of_some _ hf, List.map_cons, h a b hf, List.map_cons]

theorem mem_replaceF_of_eq_none {α : Type} {f : α → Option α} {a : α} {l : List α} (ha : a ∈ l)
    (h : f a = none) : a ∈ l.replaceF f := by
  rcases List.exists_or_eq_self_of_replaceF f l with heq | ⟨b, b', l₁, l₂, -, hb, rfl, heq⟩
  · rwa [heq]
  · rw [heq]
    rcases List.mem_append.1 ha with ha | ha
    · exact List.mem_append_left _ ha
    · rcases List.mem_cons.1 ha with rfl | ha
      · cases h.symm.trans hb
      · exact List.mem_append_right _ (List.mem_cons_of_mem _ ha)

theorem mem_replaceF_cases {α : Type} {f : α → Option α} {b : α} {l : List α}
    (h : b ∈ l.replaceF f) : b ∈ l ∨ ∃ a ∈ l, f a = some b := by
  rcases List.exists_or_eq_self_of_replaceF f l with heq | ⟨a, b', l₁, l₂, -, ha, rfl, heq⟩
  · exact .inl (heq ▸ h)
  · rw [heq] at h
    rcases List.mem_append.1 h with h | h
    · exact .inl (List.mem_append_left _ h)
    · rcases List.mem_cons.1 h with rfl | h
      · exact .inr ⟨a, List.mem_append_right _ List.mem_cons_self, ha⟩
      · exact .inl (List.mem_append_right _ (List.mem_cons_of_mem _ h))

theorem exists_mem_replaceF {α : Type} {f : α → Option α} {a b : α} {l : List α} (ha : a ∈ l)
    (h : f a = some b) : ∃ a' ∈ l, ∃ b', f a' = some b' ∧ b' ∈ l.replaceF f := by
  obtain ⟨a', b', l₁, l₂, -, hf, rfl, heq⟩ := List.exists_of_replaceF ha h
  refine ⟨a', by simp, b', hf, ?_⟩
  rw [heq]
  simp

theorem id_of_case {extID c : UInt16} {e ext : Extension} {te : Option Extension}
    (h : (if extID = c then some e else te) = some ext) (he : extID = c → e.id = extID)
    (hte : te = some ext → ext.id = extID) : ext.id = extID := by
  split_ifs at h with hc
  · exact Option.some.inj h ▸ he hc
  · exact hte h

/-- An extension writes the id it is made for. -/
theorem id_of_createExtensionFromID {extID tlsVersion : UInt16}
    {components : Option JA4RComponents} {disableGrease : Bool} {serverName : Bytes}
    {ext : Extension}
    (h : createExtensionFromID extID tlsVersion components disableGrease serverName = some ext) :
    ext.id = extID := by
  rw [createExtensionFromID] at h
  iterate 9 refine id_of_case h Eq.symm fun h => ?_
  iterate 2 refine id_of_case h (fun _ => rfl) fun h => ?_
  refine id_of_case h Eq.symm fun h => ?_
  by_cases hversions : extID = 0x002b
  · rw [if_pos hversions] at h
    split_ifs at h <;> cases h <;> exact hversions.symm
  rw [if_neg hversions] at h
  refine id_of_case h Eq.symm fun h => ?_
  by_cases hkeyShare : extID = 0x0033
  · rw [if_pos hkeyShare] at h
    split_ifs at h
    cases h
    exact hkeyShare.symm
  rw [if_neg hkeyShare] at h
  iterate 3 refine id_of_case h (fun _ => rfl) fun h => ?_
  iterate 2 refine id_of_case h Eq.symm fun h => ?_
  split_ifs at h <;> cases h <;> rfl

theorem isSome_case {c : Prop} [Decidable c] {e : Extension} {te : Option Extension}
    (hte : te.isSome) : (if c then some e else te).isSome := by
  split_ifs
  · rfl
  · exact hte

/-- Only two extensions may be left out, below TLS 1.3. -/
theorem isSome_createExtensionFromID {extID tlsVersion : UInt16}
    (h : tlsVersion ≠ versionTLS13 → extID ≠ 0x002b ∧ extID ≠ 0x0033)
    (components : Option JA4RComponents) (disableGrease : Bool) (serverName : Bytes) :
    (createExtensionFromID extID tlsVersion components disableGrease serverName).isSome := by
  rw [createExtensionFromID]
  by_cases hversion : tlsVersion = versionTLS13
  · rw [if_pos hversion, if_pos hversion]
    iterate 20 refine isSome_case ?_
    split_ifs <;> rfl
  · rw [if_neg (h hversion).1, if_neg (h hversion).2]
    iterate 18 refine isSome_case ?_
    split_ifs <;> rfl

theorem perm_sliceStable {α : Type} (less : α → α → Bool) (l : List α) :
    (sliceStable less l).Perm l := List.perm_insertionSort _ _

theorem perm_orderByWireOrder (items order : List UInt16) :
    (orderByWireOrder items order).Perm items := by
  rw [orderByWireOrder]
  split_ifs
  · exact .refl _
  · exact perm_sliceStable _ _

theorem perm_orderExtensionsByWireOrder (entries : List JA4RExtension) (order : List UInt16) :
    (orderExtensionsByWireOrder entries order).Perm entries := by
  rw [orderExtensionsByWireOrder]
  split_ifs
  · exact .refl _
  · exact perm_sliceStable _ _

/-- The id that an entry writes. -/
def JA4RExtension.written (e : JA4RExtension) : UInt16 := e.ext.id

/-- What does not depend on curves is kept. -/
theorem map_overrideCurves {β : Type} {g : Extension → β} {curveOrder : List UInt16}
    (hg : ∀ ext, g (setCurves curveOrder ext) = g ext) (entries : List JA4RExtension) :
    ((overrideCurves curveOrder entries).map fun e => g e.ext) = entries.map fun e => g e.ext := by
  rw [overrideCurves]
  split_ifs
  · rfl
  · refine map_replaceF (fun e e' h => ?_) entries
    split_ifs at h
    cases h
    exact hg e.ext

/-- What does not depend on the algorithms is kept. -/
theorem map_matchCompressCert {β : Type} {g : Extension → β}
    (hg : ∀ algorithms algorithms', g (.compressCert algorithms) = g (.compressCert algorithms'))
    (userAgent : Bytes) (entries : List JA4RExtension) :
    ((matchCompressCert userAgent entries).map fun e => g e.ext) =
      entries.map fun e => g e.ext := by
  rw [matchCompressCert]
  split_ifs
  · refine map_replaceF (fun e e' h => ?_) entries
    split at h
    · next hext =>
        cases h
        rw [hext]
        exact hg _ _
    · cases h
  · rfl

theorem map_written_greaseEntries (entries : List JA4RExtension) :
    (greaseEntries entries).map JA4RExtension.written =
      greasePlaceholder :: (entries.map JA4RExtension.written ++ [greasePlaceholder]) := by
  have hid (ext : Extension) : (greaseExtension ext).id = ext.id := by cases ext <;> rfl
  rw [greaseEntries, List.cons_append, List.map_cons, List.map_append, List.map_map]
  exact congrArg (_ :: · ++ _) (List.map_congr_left fun e _ => hid e.ext)

theorem mapCipher_eq (rawCipher : UInt16) : mapCipher rawCipher = rawCipher := by
  have hmap : ∀ e ∈ cipherSuiteMap, e.2 = e.1 := forall_mem_of_all (by decide)
  rw [mapCipher]
  cases h : cipherSuiteMap.lookup rawCipher with
  | none => rfl
  | some mapped =>
    obtain ⟨l₁, l₂, hl, -⟩ := List.lookup_eq_some_iff.1 h
    exact hmap (rawCipher, mapped) (by rw [hl]; simp)

/-- No name of a scheme is the number of one. -/
theorem mappedScheme_sprintf0x04x (rawSig : UInt16) :
    mappedScheme (sprintf0x04x rawSig) = none := by
  have hnames : ∀ e ∈ supportedSignatureAlgorithmsExtensions, (utf8 e.1).head? ≠ some 0x30 := by
    simp only [utf8_eq_data]
    decide +kernel
  rw [mappedScheme, Option.map_eq_none_iff, List.find?_eq_none]
  intro e he heq
  refine hnames e he ?_
  rw [of_decide_eq_true heq, sprintf0x04x]
  exact List.head?_append_of_ne_nil _ (by decide +kernel)

theorem signatureScheme_eq (rawSig : UInt16) : signatureScheme rawSig = rawSig := by
  rw [signatureScheme, mappedScheme_sprintf0x04x]
  rfl

/-! ## Fidelity -/

/-- The entries of a hello, before those of GREASE. -/
def wireEntries (version : JA4RVersion) (components : JA4RComponents) (userAgent : Bytes)
    (disableGrease : Bool) (serverName : Bytes) (order : JA3Order) : List JA4RExtension :=
  matchCompressCert userAgent (overrideCurves order.curveOrder (orderExtensionsByWireOrder
    (components.entries version.tlsVersion disableGrease serverName) order.extOrder))

section

variable {version : JA4RVersion} {components : JA4RComponents} {userAgent : Bytes}
  {disableGrease : Bool} {serverName : Bytes} {order : JA3Order}

theorem perm_map_wireEntries {β : Type} {g : Extension → β}
    (hcurves : ∀ ext, g (setCurves order.curveOrder ext) = g ext)
    (hcert : ∀ algorithms algorithms', g (.compressCert algorithms) =
      g (.compressCert algorithms')) :
    ((wireEntries version components userAgent disableGrease serverName order).map
      fun e => g e.ext).Perm
        ((components.entries version.tlsVersion disableGrease serverName).map
          fun e => g e.ext) := by
  rw [wireEntries, map_matchCompressCert hcert, map_overrideCurves hcurves]
  exact (perm_orderExtensionsByWireOrder _ _).map _

theorem perm_written_wireEntries :
    ((wireEntries version components userAgent disableGrease serverName order).map
      JA4RExtension.written).Perm
        ((components.entries version.tlsVersion disableGrease serverName).map
          JA4RExtension.written) :=
  perm_map_wireEntries (fun ext => by cases ext <;> rfl) fun _ _ => rfl

theorem extensionIDs_specOfComponents :
    (specOfComponents version components userAgent disableGrease serverName order).extensionIDs =
      let ids := (wireEntries version components userAgent disableGrease serverName order).map
        JA4RExtension.written
      if wantsGREASE userAgent disableGrease then
        greasePlaceholder :: (ids ++ [greasePlaceholder])
      else ids := by
  have hids (entries : List JA4RExtension) :
      idsOf (entries.map fun e => some e.ext) = entries.map JA4RExtension.written := by
    rw [idsOf, List.filterMap_map]
    exact List.filterMap_eq_map_iff_forall_eq_some.2 fun e _ => rfl
  rw [ClientHelloSpec.extensionIDs, specOfComponents, hids]
  split_ifs
  · exact map_written_greaseEntries _
  · rfl

/-- GREASE aside, the ids are those of the entries. -/
theorem perm_degrease_extensionIDs :
    (degrease (specOfComponents version components userAgent disableGrease serverName
      order).extensionIDs).Perm
        (degrease ((components.entries version.tlsVersion disableGrease serverName).map
          JA4RExtension.written)) := by
  have hgrease (ids : List UInt16) :
      degrease (greasePlaceholder :: (ids ++ [greasePlaceholder])) = degrease ids := by
    rw [(Restates.rfl.cons_grease isGREASE_greasePlaceholder).degrease, degrease,
      List.filter_append]
    exact List.append_nil _
  rw [extensionIDs_specOfComponents]
  dsimp only
  split_ifs
  · rw [hgrease]
    exact perm_written_wireEntries.filter _
  · exact perm_written_wireEntries.filter _

theorem cipherSuites_specOfComponents :
    (specOfComponents version components userAgent disableGrease serverName order).cipherSuites =
      (if wantsGREASE userAgent disableGrease then [greasePlaceholder] else []) ++
        orderByWireOrder components.cipherSuites order.cipherOrder := by
  have hmap : components.cipherSuites.map mapCipher = components.cipherSuites :=
    (List.map_congr_left fun c _ => mapCipher_eq c).trans (List.map_id _)
  rw [specOfComponents, hmap]

theorem rearranges_cipherSuites : Rearranges components.cipherSuites
    (specOfComponents version components userAgent disableGrease serverName
      order).cipherSuites := by
  have hperm := perm_orderByWireOrder components.cipherSuites order.cipherOrder
  rw [cipherSuites_specOfComponents]
  split_ifs
  · refine ⟨hperm.symm.subperm.trans (List.sublist_cons_self _ _).subperm, ?_⟩
    rw [List.singleton_append, (Restates.rfl.cons_grease isGREASE_greasePlaceholder).degrease]
    exact hperm.filter _
  · exact ⟨hperm.symm.subperm, hperm.filter _⟩

/-- The schemes are not touched after they are put in. -/
theorem mem_signatureAlgorithms (h : 0x000d ∈ components.extensions)
    (hne : components.signatureSchemes ≠ []) :
    some (.signatureAlgorithms components.signatureSchemes) ∈ (specOfComponents version components
      userAgent disableGrease serverName order).extensions := by
  let e : JA4RExtension := ⟨0x000d, .signatureAlgorithms components.signatureSchemes⟩
  have hschemes : signatureSchemes (some components) = components.signatureSchemes := by
    have hmap : components.signatureSchemes.map signatureScheme = components.signatureSchemes :=
      (List.map_congr_left fun c _ => signatureScheme_eq c).trans (List.map_id _)
    rw [signatureSchemes]
    change (if components.signatureSchemes.map signatureScheme = [] then _ else
      components.signatureSchemes.map signatureScheme) = _
    rw [hmap, if_neg hne]
  have hentries : e ∈ components.entries version.tlsVersion disableGrease serverName := by
    refine List.mem_append_left _ (List.mem_append_right _ (List.mem_filterMap.2 ⟨_, h, ?_⟩))
    change some (JA4RExtension.mk 0x000d (.signatureAlgorithms (signatureSchemes _))) = _
    rw [hschemes]
  have hwire : e ∈ wireEntries version components userAgent disableGrease serverName order := by
    have horder := (perm_orderExtensionsByWireOrder _ order.extOrder).symm.subset hentries
    rw [wireEntries, matchCompressCert, overrideCurves]
    split_ifs
    · exact mem_replaceF_of_eq_none horder rfl
    · exact mem_replaceF_of_eq_none (mem_replaceF_of_eq_none horder rfl) rfl
    · exact horder
    · exact mem_replaceF_of_eq_none horder rfl
  rw [specOfComponents]
  change _ ∈ List.map _ (if _ then greaseEntries (wireEntries _ _ _ _ _ _) else
    wireEntries _ _ _ _ _ _)
  split_ifs
  · refine List.mem_map.2 ⟨e, ?_, rfl⟩
    exact List.mem_append_left _ (List.mem_cons_of_mem _ (List.mem_map.2 ⟨e, hwire, rfl⟩))
  · exact List.mem_map.2 ⟨e, hwire, rfl⟩

end

namespace JA4R

variable {w : JA4R}

theorem text_eq_nil_iff {alpn : JA4RALPN} : alpn.text = [] ↔ alpn = .empty := by
  cases alpn with
  | empty => exact iff_of_true rfl rfl
  | h1 | h2 | h3 => exact iff_of_false (by decide +kernel) (by decide)

theorem addsALPN_iff (h : w.WellFormed) : w.components.AddsALPN ↔ w.alpn ≠ .empty := by
  refine ⟨fun hadds => fun hempty => hadds.1 (text_eq_nil_iff.2 hempty), fun hne => ?_⟩
  refine ⟨fun htext => hne (text_eq_nil_iff.1 htext), fun hmem => ?_⟩
  obtain ⟨e, he, heq⟩ := List.mem_map.1 hmem
  exact (h.not_listed e he).2.1 heq

/-- Just the server name of a domain is missing. -/
theorem extensionDeficit_eq (h : w.WellFormed) :
    w.components.extensionDeficit = if w.domain then 1 else 0 := by
  have hlength : w.components.extensions.length = w.extensions.length := List.length_map _
  rw [JA4RComponents.extensionDeficit, hlength]
  change (w.extensionCount.value : Int) - _ = _
  rw [h.counted]
  by_cases halpn : w.alpn = .empty
  · rw [if_pos halpn, if_neg fun hadds => (addsALPN_iff h).1 hadds halpn]
    split_ifs <;> omega
  · rw [if_neg halpn, if_pos ((addsALPN_iff h).2 halpn)]
    split_ifs <;> omega

theorem shouldAddSNI_iff (h : w.WellFormed) : w.components.ShouldAddSNI ↔ w.domain := by
  rw [JA4RComponents.ShouldAddSNI, extensionDeficit_eq h]
  constructor
  · rintro ⟨-, -, hdeficit⟩
    by_contra hdomain
    rw [if_neg hdomain] at hdeficit
    omega
  · intro hdomain
    refine ⟨if_pos hdomain, fun hmem => ?_, by rw [if_pos hdomain]; omega⟩
    obtain ⟨e, he, heq⟩ := List.mem_map.1 hmem
    exact (h.not_listed e he).1 heq

/-- With TLS 1.3, no listed extension is left out. -/
theorem written_entries (h : w.WellFormed) (disableGrease : Bool) (serverName : Bytes) :
    (w.components.entries versionTLS13 disableGrease serverName).map JA4RExtension.written =
      w.extensionIDs := by
  have hlisted (ids : List UInt16) : (ids.filterMap fun extCode =>
      (createExtensionFromID extCode versionTLS13 (some w.components) disableGrease serverName).map
        (JA4RExtension.mk extCode ·)).map JA4RExtension.written = ids := by
    induction ids with
    | nil => rfl
    | cons id ids ih =>
      obtain ⟨ext, hext⟩ := Option.isSome_iff_exists.1
        (isSome_createExtensionFromID (fun hne => absurd rfl hne) (some w.components) disableGrease
          serverName)
      rw [List.filterMap_cons_some (by rw [hext]; rfl), List.map_cons, ih]
      exact congrArg (· :: ids) (id_of_createExtensionFromID hext)
  rw [JA4RComponents.entries, extensionIDs, List.map_append, List.map_append, hlisted]
  refine congrArg₂ _ (congrArg₂ _ ?_ rfl) ?_
  · by_cases hdomain : w.domain
    · rw [if_pos hdomain, if_pos ((shouldAddSNI_iff h).2 hdomain)]
      rfl
    · rw [if_neg hdomain, if_neg fun hadd => hdomain ((shouldAddSNI_iff h).1 hadd)]
      rfl
  · by_cases halpn : w.alpn = .empty
    · rw [if_pos halpn, if_neg fun hadds => (addsALPN_iff h).1 hadds halpn]
      rfl
    · rw [if_neg halpn, if_pos ((addsALPN_iff h).2 halpn)]
      rfl

theorem degrease_extensionIDs (h : w.WellFormed) : degrease w.extensionIDs = w.extensionIDs := by
  refine List.filter_eq_self.2 fun id hid => decide_eq_true ?_
  rw [extensionIDs, List.mem_append, List.mem_append] at hid
  rcases hid with (hid | hid) | hid
  · split_ifs at hid
    · rw [List.mem_singleton.1 hid]
      decide
    · exact absurd hid List.not_mem_nil
  · obtain ⟨e, he, rfl⟩ := List.mem_map.1 hid
    exact (h.not_listed e he).2.2
  · split_ifs at hid
    · exact absurd hid List.not_mem_nil
    · rw [List.mem_singleton.1 hid]
      decide

theorem nodup_extensionIDs (h : w.WellFormed) : w.extensionIDs.Nodup := by
  have hsni : ∀ e ∈ w.extensions, e.value ≠ 0x0000 := fun e he => (h.not_listed e he).1
  have halpn : ∀ e ∈ w.extensions, e.value ≠ 0x0010 := fun e he => (h.not_listed e he).2.1
  rw [extensionIDs]
  split_ifs <;> simp only [List.nodup_append, h.nodup, List.nodup_singleton, List.nodup_nil,
    List.mem_singleton, List.mem_append, List.mem_map, List.not_mem_nil] <;> grind

theorem length_extensionIDs (h : w.WellFormed) :
    w.extensionIDs.length = w.extensionCount.value := by
  rw [h.counted, extensionIDs, List.length_append, List.length_append, List.length_map]
  split_ifs <;> simp <;> omega

theorem restates (h : w.WellFormed) (version : JA4RVersion)
    (hversion : version.tlsVersion = versionTLS13) (userAgent : Bytes) (disableGrease : Bool)
    (serverName : Bytes) (order : JA3Order) :
    (specOfComponents version w.components userAgent disableGrease serverName order).RestatesJA4R
      w := by
  have hids : (degrease (specOfComponents version w.components userAgent disableGrease serverName
      order).extensionIDs).Perm w.extensionIDs := by
    refine perm_degrease_extensionIDs.trans ?_
    rw [hversion, written_entries h, degrease_extensionIDs h]
  refine ⟨hids, hids.nodup_iff.2 (nodup_extensionIDs h),
    hids.length_eq.trans (length_extensionIDs h), ?_, ?_⟩
  · exact @rearranges_cipherSuites _ w.components userAgent disableGrease serverName order
  intro schemes hschemes hne hlisted
  have heq : w.components.signatureSchemes = schemes.map HexWord.value := by
    rw [components, hschemes]
    rfl
  rw [← heq]
  refine mem_signatureAlgorithms hlisted ?_
  rw [heq]
  exact fun hnil => hne (List.map_eq_nil_iff.1 hnil)

end JA4R

/-- Whatever the order that is put back and the browser, all that the string lists is
    sent. -/
theorem ja4rStringToSpec_restates {w : JA4R} (h : w.WellFormed) (userAgent : Bytes)
    (disableGrease : Bool) (serverName ja3Order : Bytes) : ∃ spec,
      ja4rStringToSpec w.text userAgent false disableGrease serverName ja3Order = .ok spec ∧
        spec.RestatesJA4R w := by
  have ht13 : ja4rVersion w.components.tlsVersion =
      .ok ⟨versionTLS13, versionTLS12, versionTLS13⟩ := by
    have hne : ¬(utf8 "t13" = utf8 "t10" ∨ utf8 "t13" = utf8 "t11" ∨ utf8 "t13" = utf8 "t12") := by
      simp only [utf8_injective.eq_iff]
      decide
    rw [not_or, not_or] at hne
    change ja4rVersion (utf8 "t13") = _
    rw [ja4rVersion, if_neg hne.1, if_neg hne.2.1, if_neg hne.2.2, if_pos rfl]
  refine ⟨_, ?_, JA4R.restates h ⟨versionTLS13, versionTLS12, versionTLS13⟩ rfl userAgent
    disableGrease serverName (parseJA3Order ja3Order)⟩
  rw [ja4rStringToSpec, JA4R.parseJA4RString_text, ok_bind, ht13, ok_bind, if_neg]
  · rfl
  · exact fun hforce => absurd hforce.1 Bool.false_ne_true

/-- A JA4_r string with two extensions, besides those that are only counted. -/
def someJA4R : JA4R where
  domain := true
  cipherCount := ⟨[0x30, 0x31], 1, by decide⟩
  extensionCount := ⟨[0x30, 0x34], 4, by decide⟩
  alpn := .h2
  ciphers := [⟨false, ⟨[0x31, 0x33, 0x30, 0x31], 0x1301, by decide⟩, by decide⟩]
  extensions :=
    [⟨false, ⟨[0x30, 0x30, 0x30, 0x61], 0x000a, by decide⟩, by decide⟩,
      ⟨false, ⟨[0x30, 0x30, 0x30, 0x64], 0x000d, by decide⟩, by decide⟩]
  signatures := some [⟨false, ⟨[0x30, 0x34, 0x30, 0x33], 0x0403, by decide⟩, by decide⟩]
  length_cipherCount := rfl
  length_extensionCount := le_rfl

example : someJA4R.text = utf8 "t13d0104h2_1301_000a,000d_0403" := by
  decide +kernel

theorem ja4rStringToSpec_restates_someJA4R : ∃ spec,
    ja4rStringToSpec someJA4R.text (utf8 "Chrome/1") false false (utf8 "a")
      (utf8 "771,4865,13-0-10-16,29,0") = .ok spec ∧ spec.RestatesJA4R someJA4R :=
  ja4rStringToSpec_restates ⟨by decide, by decide, by decide⟩ _ _ _ _

end CycleTLS
