import CycleTLS.KeyShares

/-!
# Protocols of hellos under forced HTTP/1 (`utils.go`)

A hello offers protocols with its ALPN extension. Each of the builders is told whether HTTP/1 is
forced, and leaves `h2` and `h3` out then, except where a JA4_r string lists the extension without
a protocol for it (`offersNoMore_iff`).
-/

namespace CycleTLS

open Utf8 Raising

/-! ## Hellos of QUIC fingerprints -/

/-- The extensions for a hello of QUIC. -/
def quicExtMap (family : Family) (forceHTTP1 : Bool) (tlsExtension : Option Extension) : ExtMap :=
  let extMap := (genMap false).set "43" tlsExtension
  let extMap := extMap.set "10" (some (.supportedCurves
    (family.grease greasePlaceholder ++ [x25519, curveP256, curveP384, 25])))
  let extMap := extMap.set "11" (some (.supportedPoints [0]))
  let extMap := extMap.set "16" (some (.alpn
    (if forceHTTP1 then [utf8 "http/1.1"]
      else [utf8 "h3", utf8 "h3-29", utf8 "h3-28", utf8 "h3-27"])))
  extMap.set "57" (some .quicTransportParameters)

def quicExtensions : List String :=
  ["0", "23", "65281", "10", "11", "35", "16", "5", "51", "43", "13", "45", "28", "57", "21"]

/-- What an item adds, if there is a template for it. -/
def quicExtension (family : Family) (extMap : ExtMap) (e : String) : List (Option Extension) :=
  match extMap (utf8 e) with
  | some te => (if e = "21" then family.grease (some .grease) else []) ++ [te]
  | none => []

/-- `QUICStringToSpec`, with the text of its error. -/
def quicStringToSpec (quicFingerprint userAgent : Bytes) (forceHTTP1 : Bool) :
    Except String ClientHelloSpec :=
  if quicFingerprint = [] then .error "empty QUIC fingerprint"
  else if quicFingerprint.length < 100 then .error "invalid QUIC fingerprint: too short"
  else
    let family := parseUserAgent userAgent
    let tls := createTlsVersion versionTLS13 false
    match tls.err with
    | some err => .error err
    | none =>
      let extMap := quicExtMap family forceHTTP1 tls.tlsSuppor
      .ok {
        tlsVersMin := tls.tlsMinVersion
        tlsVersMax := tls.tlsMaxVersion
        cipherSuites := family.grease greasePlaceholder ++
          [0x1301, 0x1302, 0x1303, 0xc02b, 0xc02f, 0xc02c, 0xc030]
        compressionMethods := [0]
        extensions := family.grease (some .grease) ++
          quicExtensions.flatMap (quicExtension family extMap) }

/-! ## Offers -/

/-- The protocols that an extension lists. -/
def Extension.alpnProtocols : Extension → List Bytes
  | alpn alpnProtocols => alpnProtocols
  | _ => []

/-- The protocols that a hello offers. -/
def ClientHelloSpec.protocols (spec : ClientHelloSpec) : List Bytes :=
  spec.extensions.flatMap fun te => te.elim [] Extension.alpnProtocols

/-- A hello with which HTTP/1 is spoken. -/
def ClientHelloSpec.OffersNoMore (spec : ClientHelloSpec) : Prop :=
  utf8 "h2" ∉ spec.protocols ∧ utf8 "h3" ∉ spec.protocols

instance (spec : ClientHelloSpec) : Decidable spec.OffersNoMore :=
  inferInstanceAs (Decidable (_ ∧ _))

/-- A fingerprint, with the other arguments of the builder for it. -/
inductive Fingerprinted
  | ja3 (string userAgent : Bytes)
  | ja4r (string userAgent : Bytes) (disableGrease : Bool) (serverName ja3Order : Bytes)
  | quic (string userAgent : Bytes)

namespace Fingerprinted

/-- The builder of a fingerprint returns a hello. -/
def Returns (forceHTTP1 : Bool) (spec : ClientHelloSpec) : Fingerprinted → Prop
  | ja3 string userAgent => stringToSpec string userAgent forceHTTP1 = .ok spec
  | ja4r string userAgent disableGrease serverName ja3Order =>
    ja4rStringToSpec string userAgent forceHTTP1 disableGrease serverName ja3Order = .ok spec
  | quic string userAgent => quicStringToSpec string userAgent forceHTTP1 = .ok spec

/-- The first part of a JA4_r string has a protocol if the extension is listed. -/
def NamesProtocol : Fingerprinted → Prop
  | ja4r string _ _ _ _ =>
    ∀ c, parseJA4RString string = .ok c → 0x0010 ∈ c.extensions → c.alpn ≠ []
  | _ => True

end Fingerprinted

/-! ## Protocols -/

theorem mem_protocols_iff_exists {spec : ClientHelloSpec} {p : Bytes} :
    p ∈ spec.protocols ↔ ∃ ext, some ext ∈ spec.extensions ∧ p ∈ ext.alpnProtocols := by
  rw [ClientHelloSpec.protocols, List.mem_flatMap]
  constructor
  · rintro ⟨te, hte, hp⟩
    cases te with
    | none => exact absurd hp List.not_mem_nil
    | some ext => exact ⟨ext, hte, hp⟩
  · rintro ⟨ext, hext, hp⟩
    exact ⟨some ext, hext, hp⟩

/-- Only the extension with the id of ALPN lists protocols. -/
theorem alpnProtocols_of_id_ne {ext : Extension} (h : ext.id ≠ 16) : ext.alpnProtocols = [] := by
  cases ext with
  | alpn protocols => exact absurd rfl h
  | _ => rfl

/-- The protocols of the template for ALPN. -/
def templateProtocols (forceHTTP1 : Bool) : List Bytes :=
  if forceHTTP1 then [utf8 "http/1.1"] else [utf8 "h2", utf8 "http/1.1"]

namespace JA3

variable {j : JA3} {family : Family} {forceHTTP1 : Bool}

theorem extMap_alpn : j.extMap family forceHTTP1 (utf8 "16") =
    some (some (.alpn (templateProtocols forceHTTP1))) := by
  have hne : ∀ key ∈ ["43", "11", "10", "51"], utf8 "16" ≠ utf8 key := by
    simp only [ne_eq, utf8_injective.eq_iff]
    decide
  simp only [List.forall_mem_cons] at hne
  obtain ⟨h43, h11, h10, h51, -⟩ := hne
  rw [extMap, ja3ExtMap_apply, if_neg h43, if_neg h11, if_neg h10, if_neg h51]
  cases forceHTTP1 with
  | true => exact if_pos ⟨rfl, rfl⟩
  | false =>
    rw [if_neg fun h => Bool.false_ne_true h.1, genMap_utf8]
    rfl

theorem alpnProtocols_eq_nil {e : Bytes} {ext : Extension}
    (h : j.extMap family forceHTTP1 e = some (some ext)) (he : e ≠ utf8 "16") :
    ext.alpnProtocols = [] := by
  have htable : ∀ k ∈ extensionTable false, k.1 = "16" ∨ k.2.alpnProtocols = [] := by
    decide
  rw [extMap, ja3ExtMap_apply] at h
  split_ifs at h with h43 h16 h11 h10 h51
  · refine alpnProtocols_of_id_ne ?_
    rw [id_tlsSuppor (Option.some.inj h)]
    decide
  · exact absurd h16.2 he
  · cases h
    rfl
  · cases h
    rfl
  · cases h
    rfl
  · obtain ⟨k, hk, heq⟩ := Option.map_eq_some_iff.1 h
    have hkey : utf8 k.1 = e := by simpa using List.find?_some hk
    cases heq
    refine (htable k (List.mem_of_find?_eq_some hk)).resolve_left fun h16 => he ?_
    rw [← hkey, h16]

/-- The protocols of a hello for a JA3 string are those of the template. -/
theorem mem_protocols_iff {items : List Bytes} {p : Bytes} :
    p ∈ (j.spec family forceHTTP1 items).protocols ↔
      utf8 "16" ∈ items ∧ p ∈ templateProtocols forceHTTP1 := by
  rw [mem_protocols_iff_exists]
  constructor
  · rintro ⟨ext, hext, hp⟩
    rcases mem_extensions_iff.1 hext with ⟨hgrease, -⟩ | ⟨e, he, hget⟩
    · cases hgrease
      exact absurd hp List.not_mem_nil
    · have hmap : j.extMap family forceHTTP1 e = some (some ext) := by
        cases hmap : j.extMap family forceHTTP1 e with
        | none => rw [hmap] at hget; cases hget
        | some te => rw [hmap] at hget; exact congrArg some hget
      by_cases h16 : e = utf8 "16"
      · rw [h16, extMap_alpn] at hmap
        cases hmap
        exact ⟨h16 ▸ he, hp⟩
      · rw [alpnProtocols_eq_nil hmap h16] at hp
        exact absurd hp List.not_mem_nil
  · rintro ⟨h16, hp⟩
    refine ⟨.alpn _, mem_extensions_iff.2 (.inr ⟨_, h16, ?_⟩), hp⟩
    rw [extMap_alpn]
    rfl

end JA3

section

variable {version : JA4RVersion} {components : JA4RComponents} {userAgent : Bytes}
  {disableGrease : Bool} {serverName : Bytes} {order : JA3Order}

theorem alpnProtocols_createExtensionFromID {extID tlsVersion : UInt16} {ext : Extension}
    (h : createExtensionFromID extID tlsVersion (some components) disableGrease serverName =
      some ext) : ext.alpnProtocols = if extID = 0x0010 then
        (knownProtocols components.alpn).getD (templateProtocols false) else [] := by
  split_ifs with h16
  · rw [h16] at h
    cases h
    rfl
  · refine alpnProtocols_of_id_ne ?_
    rwa [id_of_createExtensionFromID h]

/-- What is changed of the entries leaves their protocols. -/
theorem mem_protocols_specOfComponents_iff {p : Bytes} :
    p ∈ (specOfComponents version components userAgent disableGrease serverName order).protocols ↔
      ∃ e ∈ components.entries version.tlsVersion disableGrease serverName,
        p ∈ e.ext.alpnProtocols := by
  have hgreased (grease : Bool) (ext : Extension) :
      (greased grease ext).alpnProtocols = ext.alpnProtocols := by
    cases grease <;> cases ext <;> rfl
  have hperm : ((wireEntries version components userAgent disableGrease serverName order).map
      fun e => e.ext.alpnProtocols).Perm ((components.entries version.tlsVersion disableGrease
        serverName).map fun e => e.ext.alpnProtocols) :=
    perm_map_wireEntries (fun ext => by cases ext <;> rfl) fun _ _ => rfl
  have hentries := hperm.flatten.mem_iff (a := p)
  rw [← List.flatMap_def, ← List.flatMap_def, List.mem_flatMap, List.mem_flatMap] at hentries
  rw [← hentries, mem_protocols_iff_exists]
  constructor
  · rintro ⟨ext, hext, hp⟩
    rcases some_mem_specOfComponents_iff.1 hext with ⟨-, rfl⟩ | ⟨e, he, rfl⟩
    · exact absurd hp List.not_mem_nil
    · exact ⟨e, he, hgreased _ _ ▸ hp⟩
  · rintro ⟨e, he, hp⟩
    exact ⟨_, some_mem_specOfComponents_iff.2 (.inr ⟨e, he, rfl⟩), (hgreased _ _).symm ▸ hp⟩

/-- The protocols of a hello for a JA4_r string are those of its extension, or of the one that is
    put in. -/
theorem mem_protocols_iff {p : Bytes} :
    p ∈ (specOfComponents version components userAgent disableGrease serverName order).protocols ↔
      (0x0010 ∈ components.extensions ∧
        p ∈ (knownProtocols components.alpn).getD (templateProtocols false)) ∨
      (components.AddsALPN ∧ p ∈ (knownProtocols components.alpn).getD [components.alpn]) := by
  rw [mem_protocols_specOfComponents_iff]
  constructor
  · rintro ⟨e, he, hp⟩
    rw [JA4RComponents.entries, List.mem_append, List.mem_append] at he
    rcases he with (he | he) | he
    · split_ifs at he
      · rw [List.mem_singleton.1 he] at hp
        exact absurd hp List.not_mem_nil
      · exact absurd he List.not_mem_nil
    · obtain ⟨id, hid, he⟩ := List.mem_filterMap.1 he
      obtain ⟨ext, hext, rfl⟩ := Option.map_eq_some_iff.1 he
      dsimp only at hp
      rw [alpnProtocols_createExtensionFromID hext] at hp
      split_ifs at hp with h16
      · exact .inl ⟨h16 ▸ hid, hp⟩
      · exact absurd hp List.not_mem_nil
    · split_ifs at he with hadds
      · rw [List.mem_singleton.1 he] at hp
        exact .inr ⟨hadds, hp⟩
      · exact absurd he List.not_mem_nil
  · rintro (⟨hid, hp⟩ | ⟨hadds, hp⟩)
    · exact ⟨_, mem_entries hid rfl, hp⟩
    · refine ⟨⟨0x0010, .alpn _⟩, List.mem_append_right _ ?_, hp⟩
      rw [if_pos hadds]
      exact List.mem_singleton_self _

end

theorem ClientHelloSpec.offersNoMore_of_forall {spec : ClientHelloSpec}
    (h : ∀ p ∈ spec.protocols, p = utf8 "http/1.1") : spec.OffersNoMore := by
  have hne : utf8 "h2" ≠ utf8 "http/1.1" ∧ utf8 "h3" ≠ utf8 "http/1.1" :=
    ⟨utf8_injective.ne (by decide), utf8_injective.ne (by decide)⟩
  exact ⟨fun hmem => hne.1 (h _ hmem), fun hmem => hne.2 (h _ hmem)⟩

theorem mem_templateProtocols_true {p : Bytes} (h : p ∈ templateProtocols true) :
    p = utf8 "http/1.1" := List.mem_singleton.1 h

theorem offersNoMore_ja3 {ja3 userAgent : Bytes} {spec : ClientHelloSpec}
    (h : stringToSpec ja3 userAgent true = .ok spec) : spec.OffersNoMore := by
  obtain ⟨f, -, h⟩ := bind_eq_ok_iff.1 h
  obtain ⟨j, -, -, rfl⟩ := specOfFields_eq_ok_iff.1 h
  refine ClientHelloSpec.offersNoMore_of_forall fun p hp => ?_
  exact mem_templateProtocols_true (JA3.mem_protocols_iff.1 hp).2

theorem offersNoMore_quic {quicFingerprint userAgent : Bytes} {spec : ClientHelloSpec}
    (h : quicStringToSpec quicFingerprint userAgent true = .ok spec) : spec.OffersNoMore := by
  have hfamilies : ∀ family ∈ [Family.chrome, Family.firefox], ∀ te ∈
      family.grease (some .grease) ++ quicExtensions.flatMap (quicExtension family
        (quicExtMap family true (createTlsVersion versionTLS13 false).tlsSuppor)),
      ∀ p ∈ te.elim [] Extension.alpnProtocols, p = utf8 "http/1.1" := by decide +kernel
  have hmem : parseUserAgent userAgent ∈ [Family.chrome, Family.firefox] := by
    cases parseUserAgent userAgent <;> decide
  rw [quicStringToSpec] at h
  split_ifs at h
  cases h
  refine ClientHelloSpec.offersNoMore_of_forall fun p hp => ?_
  obtain ⟨te, hte, hp⟩ := List.mem_flatMap.1 hp
  exact hfamilies _ hmem te hte p hp

theorem offersNoMore_ja4r_iff {ja4r userAgent : Bytes} {disableGrease : Bool}
    {serverName ja3Order : Bytes} {spec : ClientHelloSpec}
    (h : ja4rStringToSpec ja4r userAgent true disableGrease serverName ja3Order = .ok spec) :
    spec.OffersNoMore ↔
      ∀ c, parseJA4RString ja4r = .ok c → 0x0010 ∈ c.extensions → c.alpn ≠ [] := by
  have hh1 : knownProtocols (utf8 "h1") = some (templateProtocols true) := by decide +kernel
  have hnone : knownProtocols [] = none := by decide +kernel
  obtain ⟨components, hcomponents, h⟩ := bind_eq_ok_iff.1 h
  obtain ⟨version, -, h⟩ := bind_eq_ok_iff.1 h
  cases h
  have hcondition : (∀ c, parseJA4RString ja4r = .ok c → 0x0010 ∈ c.extensions → c.alpn ≠ []) ↔
      (0x0010 ∈ components.extensions → components.alpn ≠ []) := by
    rw [hcomponents]
    exact ⟨fun h => h _ rfl, fun h c hc => Except.ok.inj hc ▸ h⟩
  rw [hcondition]
  by_cases halpn : components.alpn = []
  · rw [if_neg fun h => h.2 halpn]
    have hadds : ¬components.AddsALPN := fun h => h.1 halpn
    constructor
    · rintro ⟨hh2, -⟩ hlisted
      refine absurd (mem_protocols_iff.2 (.inl ⟨hlisted, ?_⟩)) hh2
      rw [halpn, hnone]
      exact List.mem_cons_self
    · intro h
      refine ClientHelloSpec.offersNoMore_of_forall fun p hp => ?_
      rcases mem_protocols_iff.1 hp with ⟨hlisted, -⟩ | ⟨hadds', -⟩
      · exact absurd halpn (h hlisted)
      · exact absurd hadds' hadds
  · rw [if_pos ⟨rfl, halpn⟩]
    refine iff_of_true (ClientHelloSpec.offersNoMore_of_forall fun p hp => ?_) fun _ => halpn
    rw [mem_protocols_iff, hh1] at hp
    rcases hp with ⟨-, hp⟩ | ⟨-, hp⟩
    · exact mem_templateProtocols_true hp
    · exact mem_templateProtocols_true hp

/-- If HTTP/1 is forced, a hello offers nothing else if and only if it is not for a JA4_r string
    that lists the extension for protocols, but names none. -/
theorem offersNoMore_iff {input : Fingerprinted} {spec : ClientHelloSpec}
    (h : input.Returns true spec) : spec.OffersNoMore ↔ input.NamesProtocol := by
  cases input with
  | ja3 string userAgent => exact iff_of_true (offersNoMore_ja3 h) trivial
  | ja4r string userAgent disableGrease serverName ja3Order => exact offersNoMore_ja4r_iff h
  | quic string userAgent => exact iff_of_true (offersNoMore_quic h) trivial

/-- A JA4_r string that lists the extension, but has no protocol in its first part. -/
def unnamedProtocol : Fingerprinted :=
  .ja4r (utf8 "t13d0102_1301_0010,002b_0403") [] false (utf8 "localhost") []

/-- The same string with a protocol. -/
def namedProtocol : Fingerprinted :=
  .ja4r (utf8 "t13d0102h2_1301_0010,002b_0403") [] false (utf8 "localhost") []

theorem offersNoMore_namedProtocol : ∃ spec, namedProtocol.Returns true spec ∧
    (spec.OffersNoMore ↔ namedProtocol.NamesProtocol) := by
  obtain ⟨spec, hspec⟩ := exists_ok_of_isSome (x := ja4rStringToSpec
    (utf8 "t13d0102h2_1301_0010,002b_0403") [] true false (utf8 "localhost") []) (by
      simp only [utf8_eq_data]
      decide +kernel)
  exact ⟨spec, hspec, offersNoMore_iff hspec⟩

theorem not_forall_offersNoMore : ¬∀ (input : Fingerprinted) (spec : ClientHelloSpec),
    input.Returns true spec → spec.OffersNoMore := by
  intro h
  obtain ⟨spec, hspec, hprotocol⟩ := exists_ok_of_any (x := ja4rStringToSpec
    (utf8 "t13d0102_1301_0010,002b_0403") [] true false (utf8 "localhost") [])
      (p := fun spec => utf8 "h2" ∈ spec.protocols) (by
        simp only [utf8_eq_data]
        decide +kernel)
  exact (h unnamedProtocol spec hspec).1 (of_decide_eq_true hprotocol)

end CycleTLS
