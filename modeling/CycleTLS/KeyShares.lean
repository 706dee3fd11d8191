import CycleTLS.JA4RTrip

/-!
# Key shares of groups that are not offered

The key shares of a hello come from templates, and its supported groups from the string,
or from the order for a JA4_r string. All shares are of groups that are offered exactly
if the input `OffersShares` (`sharesOffered_iff`).
-/

namespace CycleTLS

open Utf8 Raising

/-! ## Inputs -/

/-- What a hello is made of: one of the strings, with the options. `StringToSpec` is not
    given `disableGrease`. -/
inductive HelloInput
  | ja3 (string userAgent : Bytes) (forceHTTP1 disableGrease : Bool)
  | ja4r (string userAgent : Bytes) (forceHTTP1 disableGrease : Bool) (serverName ja3Order : Bytes)

/-- The hello of an input. -/
def HelloInput.spec : HelloInput → Except SpecError ClientHelloSpec
  | .ja3 string userAgent forceHTTP1 _ => stringToSpec string userAgent forceHTTP1
  | .ja4r string userAgent forceHTTP1 disableGrease serverName ja3Order =>
    ja4rStringToSpec string userAgent forceHTTP1 disableGrease serverName ja3Order

/-- All key shares, GREASE aside, are of supported groups. -/
def ClientHelloSpec.SharesOffered (spec : ClientHelloSpec) : Prop :=
  ∀ shares curves, some (.keyShare shares) ∈ spec.extensions →
    some (.supportedCurves curves) ∈ spec.extensions →
      ∀ share ∈ shares, ¬IsGREASE share.group → share.group ∈ curves

/-- One of the two extensions is not listed, or the curves have those of the shares, or are
    replaced by these. -/
def JA3.OffersShares (j : JA3) (family : Family) : Prop :=
  10 ∉ j.extensions ∨ 51 ∉ j.extensions ∨
    (x25519 ∈ j.curves ∧ (family = .firefox → curveP256 ∈ j.curves)) ∨
    (family = .firefox ∧ j.version = versionTLS13 ∧ ∀ c ∈ j.curves, ¬isTLS13CompatibleCurve c)

/-- No shares are sent, or no groups, or the order has no curves or those of the shares. -/
def JA4RComponents.OffersShares (c : JA4RComponents) (order : JA3Order) : Prop :=
  c.tlsVersion ≠ utf8 "t13" ∨ 10 ∉ c.extensions ∨ 51 ∉ c.extensions ∨ order.curveOrder = [] ∨
    (x25519MLKEM768 ∈ order.curveOrder ∧ x25519 ∈ order.curveOrder ∧ curveP256 ∈ order.curveOrder)

/-- The groups of the shares are offered. -/
def HelloInput.OffersShares : HelloInput → Prop
  | .ja3 string userAgent _ _ =>
    ∀ j, JA3.read string = some j → j.OffersShares (parseUserAgent userAgent)
  | .ja4r string _ _ _ _ ja3Order => ∀ c, parseJA4RString string = .ok c →
    c.OffersShares (parseJA3Order ja3Order)

/-! ## Hellos of JA3 strings -/

/-- The extensions with a list of groups or versions, by key and id. -/
def listKeys : List (String × UInt16) := [("10", 10), ("43", 43), ("51", 51)]

/-- No other item has the id of one of these. -/
theorem KnownExtension.eq_of_readID {e : Bytes} (he : KnownExtension e) {key : String × UInt16}
    (hkey : key ∈ listKeys) (h : readID e = some key.2) : e = utf8 key.1 := by
  have hset : ∀ key ∈ listKeys, ∀ k ∈ ["10", "11", "43"].map utf8, readID k = some key.2 →
      k = utf8 key.1 := by decide +kernel
  have htable : ∀ key ∈ listKeys, ∀ k ∈ extensionTable false, k.2.id = key.2 → k.1 = key.1 := by
    decide
  rcases he with he | he
  · exact hset key hkey e he h
  · rw [genMap, Option.isSome_map, List.find?_isSome] at he
    obtain ⟨k, hk, hkeyeq⟩ := he
    rw [← of_decide_eq_true hkeyeq] at h ⊢
    rw [htable key hkey k hk (Option.some.inj ((readID_of_mem_extensionTable k hk).symm.trans h))]

theorem mem_items_iff {items : List Bytes} {ids : List UInt16}
    (hknown : ∀ e ∈ items, KnownExtension e) (hread : items.mapM readID = some ids)
    {key : String × UInt16} (hkey : key ∈ listKeys) : utf8 key.1 ∈ items ↔ key.2 ∈ ids := by
  have hkeys : ∀ key ∈ listKeys, readID (utf8 key.1) = some key.2 := by
    simp only [listKeys, List.forall_mem_cons]
    exact ⟨rfl, rfl, rfl, nofun⟩
  have hmap := mapM_eq_some_iff.1 hread
  constructor
  · intro hmem
    have hmem' : readID (utf8 key.1) ∈ ids.map some := hmap ▸ List.mem_map_of_mem hmem
    rw [hkeys key hkey] at hmem'
    obtain ⟨id, hid, heq⟩ := List.mem_map.1 hmem'
    exact Option.some.inj heq ▸ hid
  · intro hmem
    have hmem' : some key.2 ∈ items.map readID := hmap ▸ List.mem_map_of_mem hmem
    obtain ⟨e, he, heq⟩ := List.mem_map.1 hmem'
    exact (hknown e he).eq_of_readID hkey heq ▸ he

namespace JA3

variable {j : JA3} {family : Family} {forceHTTP1 : Bool} {items : List Bytes}

theorem keyShare_mem_iff {shares : List KeyShare} :
    some (.keyShare shares) ∈ (j.spec family forceHTTP1 items).extensions ↔
      utf8 "51" ∈ items ∧ shares = keyShares family (j.groups family) := by
  constructor
  · intro h
    rcases cases_of_mem h with ⟨h, -⟩ | ⟨-, h⟩ | ⟨-, h⟩ | ⟨-, h⟩ | ⟨hmem, h⟩ | h
    · cases h
    · cases id_tlsSuppor h
    · cases h
    · cases h
    · exact ⟨hmem, Extension.keyShare.inj h⟩
    · exact absurd (by simp [Extension.id]) h.1
  · rintro ⟨hmem, rfl⟩
    refine mem_extensions_iff.2 (.inr ⟨_, hmem, ?_⟩)
    rw [extMap, ja3ExtMap_apply, if_neg (utf8_injective.ne (by decide)), if_neg fun h => ?_,
      if_neg (utf8_injective.ne (by decide)), if_neg (utf8_injective.ne (by decide)), if_pos rfl]
    · rfl
    · exact utf8_injective.ne (by decide) h.2

theorem supportedCurves_mem_iff {curves : List UInt16} :
    some (.supportedCurves curves) ∈ (j.spec family forceHTTP1 items).extensions ↔
      utf8 "10" ∈ items ∧ curves = j.groups family := by
  constructor
  · intro h
    rcases cases_of_mem h with ⟨h, -⟩ | ⟨-, h⟩ | ⟨-, h⟩ | ⟨hmem, h⟩ | ⟨-, h⟩ | h
    · cases h
    · cases id_tlsSuppor h
    · cases h
    · exact ⟨hmem, Extension.supportedCurves.inj h⟩
    · cases h
    · exact absurd (by simp [Extension.id]) h.1
  · rintro ⟨hmem, rfl⟩
    refine mem_extensions_iff.2 (.inr ⟨_, hmem, ?_⟩)
    rw [extMap, ja3ExtMap_apply, if_neg (utf8_injective.ne (by decide)), if_neg fun h => ?_,
      if_neg (utf8_injective.ne (by decide)), if_pos rfl]
    · rfl
    · exact utf8_injective.ne (by decide) h.2

/-- The groups have a curve of TLS 1.3 from the string, or from those that replace none. -/
theorem mem_groups_iff {c : UInt16} (hc : isTLS13CompatibleCurve c)
    (hshare : c ∈ [x25519, curveP256]) : c ∈ j.groups family ↔ c ∈ j.curves ∨
      (family = .firefox ∧ j.version = versionTLS13 ∧
        ∀ c ∈ j.curves, ¬isTLS13CompatibleCurve c) := by
  have hoffered : c ∈ j.offeredCurves ↔ c ∈ j.curves := by
    rw [offeredCurves]
    split_ifs
    · exact ⟨fun h => (List.mem_filter.1 h).1, fun h => List.mem_filter.2 ⟨h, hc⟩⟩
    · exact .rfl
  have hgrease : c ≠ greasePlaceholder := by
    rintro rfl
    exact absurd hshare (by decide)
  cases family with
  | chrome =>
    rw [groups, if_neg fun h => List.cons_ne_nil _ _ h.2, Family.grease, List.singleton_append,
      List.mem_cons, hoffered]
    exact ⟨fun h => .inl (h.resolve_left hgrease),
      fun h => .inr (h.resolve_right fun h => by cases h.1)⟩
  | firefox =>
    rw [groups, Family.grease, List.nil_append]
    by_cases hversion : j.version = versionTLS13
    · by_cases hempty : j.offeredCurves = []
      · have hnone : ∀ c ∈ j.curves, ¬isTLS13CompatibleCurve c := by
          rwa [offeredCurves, if_pos hversion, List.filter_eq_nil_iff] at hempty
        rw [if_pos ⟨hversion, hempty⟩]
        exact iff_of_true hshare (.inr ⟨rfl, hversion, hnone⟩)
      · rw [if_neg fun h => hempty h.2, hoffered]
        refine ⟨.inl, fun h => h.resolve_right fun h => hempty ?_⟩
        rw [offeredCurves, if_pos hversion, List.filter_eq_nil_iff]
        exact h.2.2
    · rw [if_neg fun h => hversion h.1, hoffered]
      exact ⟨.inl, fun h => h.resolve_right fun h => hversion h.2.1⟩

/-- The shares are of groups if those of the template are. -/
theorem forall_keyShares_iff {curves : List UInt16} :
    (∀ share ∈ keyShares family curves, ¬IsGREASE share.group → share.group ∈ curves) ↔
      x25519 ∈ curves ∧ (family = .firefox → curveP256 ∈ curves) := by
  have hx25519 : ¬IsGREASE x25519 := by decide
  have hP256 : ¬IsGREASE curveP256 := by decide
  rw [keyShares]
  constructor
  · intro h
    refine ⟨h ⟨x25519, []⟩ ?_ hx25519, ?_⟩
    · exact List.mem_cons_of_mem _ (List.mem_append_right _ List.mem_cons_self)
    · rintro rfl
      refine h ⟨curveP256, []⟩ ?_ hP256
      exact List.mem_cons_of_mem _ (List.mem_append_right _
        (List.mem_cons_of_mem _ (List.mem_singleton_self _)))
  · rintro ⟨h29, h23⟩ share hshare hgrease
    rcases List.mem_cons.1 hshare with rfl | hshare
    · exact absurd isGREASE_greasePlaceholder hgrease
    · rcases List.mem_append.1 hshare with hshare | hshare
      · split_ifs at hshare with hhybrid
        · rw [List.mem_singleton.1 hshare]
          exact hhybrid
        · exact absurd hshare List.not_mem_nil
      · rcases List.mem_cons.1 hshare with rfl | hshare
        · exact h29
        · cases family with
          | chrome => exact absurd hshare List.not_mem_nil
          | firefox =>
            rw [List.mem_singleton.1 hshare]
            exact h23 rfl

theorem sharesOffered_spec_iff (hknown : ∀ e ∈ items, KnownExtension e)
    (hread : items.mapM readID = some j.extensions) :
    (j.spec family forceHTTP1 items).SharesOffered ↔ j.OffersShares family := by
  have h10 : utf8 "10" ∈ items ↔ 10 ∈ j.extensions :=
    mem_items_iff hknown hread (show ("10", 10) ∈ listKeys by decide)
  have h51 : utf8 "51" ∈ items ↔ 51 ∈ j.extensions :=
    mem_items_iff hknown hread (show ("51", 51) ∈ listKeys by decide)
  have hoffered : (j.spec family forceHTTP1 items).SharesOffered ↔
      (51 ∈ j.extensions → 10 ∈ j.extensions → x25519 ∈ j.groups family ∧
        (family = .firefox → curveP256 ∈ j.groups family)) := by
    rw [← forall_keyShares_iff, ← h10, ← h51]
    constructor
    · intro h hmem51 hmem10
      exact h _ _ (keyShare_mem_iff.2 ⟨hmem51, rfl⟩) (supportedCurves_mem_iff.2 ⟨hmem10, rfl⟩)
    · intro h shares curves hshares hcurves
      obtain ⟨hmem51, rfl⟩ := keyShare_mem_iff.1 hshares
      obtain ⟨hmem10, rfl⟩ := supportedCurves_mem_iff.1 hcurves
      exact h hmem51 hmem10
  rw [hoffered, mem_groups_iff (by decide) (by decide), mem_groups_iff (by decide) (by decide),
    OffersShares]
  by_cases hnone : family = .firefox ∧ j.version = versionTLS13 ∧
      ∀ c ∈ j.curves, ¬isTLS13CompatibleCurve c
  · exact iff_of_true (fun _ _ => ⟨.inr hnone, fun _ => .inr hnone⟩) (.inr (.inr (.inr hnone)))
  · rw [or_iff_left hnone, or_iff_left hnone, or_iff_left hnone]
    constructor
    · intro h
      by_cases hmem10 : 10 ∈ j.extensions
      · by_cases hmem51 : 51 ∈ j.extensions
        · exact .inr (.inr (h hmem51 hmem10))
        · exact .inr (.inl hmem51)
      · exact .inl hmem10
    · intro h hmem51 hmem10
      exact (h.resolve_left (not_not.2 hmem10)).resolve_left (not_not.2 hmem51)

end JA3

/-! ## Hellos of JA4_r strings -/

/-- What an extension is sent as. -/
def greased (grease : Bool) (ext : Extension) : Extension :=
  if grease then greaseExtension ext else ext

/-- The key shares for a JA4_r string, GREASE aside. -/
def ja4rShares : List KeyShare := [⟨x25519MLKEM768, []⟩, ⟨x25519, []⟩, ⟨curveP256, []⟩]

section

variable {version : JA4RVersion} {components : JA4RComponents} {userAgent : Bytes}
  {disableGrease : Bool} {serverName : Bytes} {order : JA3Order}

theorem some_mem_specOfComponents_iff {ext : Extension} :
    some ext ∈ (specOfComponents version components userAgent disableGrease serverName
      order).extensions ↔
        ((wantsGREASE userAgent disableGrease) ∧ ext = .grease) ∨
          ∃ e ∈ wireEntries version components userAgent disableGrease serverName order,
            greased (wantsGREASE userAgent disableGrease) e.ext = ext := by
  rw [specOfComponents]
  change _ ∈ List.map _ (if _ then greaseEntries (wireEntries _ _ _ _ _ _) else
    wireEntries _ _ _ _ _ _) ↔ _
  generalize wireEntries version components userAgent disableGrease serverName order = entries
  cases wantsGREASE userAgent disableGrease with
  | false => simp [greased]
  | true =>
    simp only [greaseEntries, greased, List.cons_append, List.map_cons, List.map_append,
      List.map_map, List.mem_cons, List.mem_append, List.mem_map, Function.comp_apply,
      Option.some_inj, List.map_nil, List.not_mem_nil, or_false, if_true, true_and]
    constructor
    · rintro (h | h | h)
      exacts [.inl h, .inr h, .inl h]
    · rintro (h | h)
      exacts [.inl h, .inr (.inl h)]

theorem mem_entries_cases {tlsVersion : UInt16} {e : JA4RExtension}
    (h : e ∈ components.entries tlsVersion disableGrease serverName) :
    (e.id ∈ components.extensions ∧ createExtensionFromID e.id tlsVersion (some components)
      disableGrease serverName = some e.ext) ∨ e.id = 0x0000 ∧ e.ext.id = 0x0000 ∨
        e.id = 0x0010 ∧ e.ext.id = 0x0010 := by
  rw [JA4RComponents.entries, List.mem_append, List.mem_append] at h
  rcases h with (h | h) | h
  · split_ifs at h
    · exact .inr (.inl (List.mem_singleton.1 h ▸ ⟨rfl, rfl⟩))
    · exact absurd h List.not_mem_nil
  · obtain ⟨id, hid, h⟩ := List.mem_filterMap.1 h
    obtain ⟨ext, hext, rfl⟩ := Option.map_eq_some_iff.1 h
    exact .inl ⟨hid, hext⟩
  · split_ifs at h
    · exact .inr (.inr (List.mem_singleton.1 h ▸ ⟨rfl, rfl⟩))
    · exact absurd h List.not_mem_nil

theorem mem_entries {tlsVersion id : UInt16} {ext : Extension} (hid : id ∈ components.extensions)
    (hext : createExtensionFromID id tlsVersion (some components) disableGrease serverName =
      some ext) : ⟨id, ext⟩ ∈ components.entries tlsVersion disableGrease serverName :=
  List.mem_append_left _ (List.mem_append_right _
    (List.mem_filterMap.2 ⟨id, hid, by rw [hext]; rfl⟩))

theorem createExtensionFromID_ten (tlsVersion : UInt16) (components : Option JA4RComponents) :
    createExtensionFromID 0x000a tlsVersion components disableGrease serverName =
      some (.supportedCurves (defaultCurves tlsVersion)) := rfl

theorem createExtensionFromID_keyShare (tlsVersion : UInt16)
    (components : Option JA4RComponents) :
    createExtensionFromID 0x0033 tlsVersion components disableGrease serverName =
      if tlsVersion = versionTLS13 then some (.keyShare ja4rShares) else none := rfl

theorem createExtensionFromID_versions (tlsVersion : UInt16)
    (components : Option JA4RComponents) :
    createExtensionFromID 0x002b tlsVersion components disableGrease serverName =
      if tlsVersion = versionTLS13 then some (.supportedVersions [versionTLS13, versionTLS12])
      else if tlsVersion = versionTLS12 then
        some (.supportedVersions [versionTLS12, versionTLS11])
      else none := rfl

/-- The extensions with a list of groups or versions, before GREASE is put in. -/
inductive Listed (version : JA4RVersion) (components : JA4RComponents) (order : JA3Order) :
    Extension → Prop
  | supportedVersions (versions : List UInt16) (h : ∀ v ∈ versions, ¬IsGREASE v) :
    Listed version components order (.supportedVersions versions)
  | defaultCurves (h : 0x000a ∈ components.extensions) :
    Listed version components order (.supportedCurves (defaultCurves version.tlsVersion))
  | curveOrder (h : 0x000a ∈ components.extensions) (hne : order.curveOrder ≠ []) :
    Listed version components order (.supportedCurves order.curveOrder)
  | keyShare (h : 0x0033 ∈ components.extensions) (hversion : version.tlsVersion = versionTLS13) :
    Listed version components order (.keyShare ja4rShares)
  | other (ext : Extension) (h : ext.id ∉ ([10, 43, 51] : List UInt16)) :
    Listed version components order ext

theorem listed_of_mem_entries {e : JA4RExtension}
    (h : e ∈ components.entries version.tlsVersion disableGrease serverName) :
    Listed version components order e.ext := by
  rcases mem_entries_cases h with ⟨hid, hext⟩ | ⟨-, hext⟩ | ⟨-, hext⟩
  · by_cases h10 : e.id = 0x000a
    · rw [h10] at hid hext
      rw [← Option.some.inj hext]
      exact .defaultCurves hid
    · by_cases h43 : e.id = 0x002b
      · rw [h43, createExtensionFromID_versions] at hext
        split_ifs at hext
        · rw [← Option.some.inj hext]
          exact .supportedVersions _ (forall_mem_of_all (by decide))
        · rw [← Option.some.inj hext]
          exact .supportedVersions _ (forall_mem_of_all (by decide))
      · by_cases h51 : e.id = 0x0033
        · rw [h51] at hid
          rw [h51, createExtensionFromID_keyShare] at hext
          split_ifs at hext with hversion
          rw [← Option.some.inj hext]
          exact .keyShare hid hversion
        · refine .other _ ?_
          rw [id_of_createExtensionFromID hext]
          simp only [List.mem_cons, List.not_mem_nil, or_false, not_or]
          exact ⟨h10, h43, h51⟩
  · exact .other _ (by rw [hext]; decide)
  · exact .other _ (by rw [hext]; decide)

theorem listed_of_mem_wireEntries {e : JA4RExtension}
    (h : e ∈ wireEntries version components userAgent disableGrease serverName order) :
    Listed version components order e.ext := by
  have hentries {e : JA4RExtension} (h : e ∈ orderExtensionsByWireOrder
      (components.entries version.tlsVersion disableGrease serverName) order.extOrder) :
      e ∈ components.entries version.tlsVersion disableGrease serverName :=
    (perm_orderExtensionsByWireOrder _ _).subset h
  have hcurves {e : JA4RExtension} (h : e ∈ overrideCurves order.curveOrder
      (orderExtensionsByWireOrder (components.entries version.tlsVersion disableGrease serverName)
        order.extOrder)) : Listed version components order e.ext := by
    rw [overrideCurves] at h
    split_ifs at h with hempty
    · exact listed_of_mem_entries (hentries h)
    · rcases mem_replaceF_cases h with h | ⟨e₀, he₀, h⟩
      · exact listed_of_mem_entries (hentries h)
      · split_ifs at h with hid
        cases h
        rcases mem_entries_cases (hentries he₀) with ⟨hmem, hext⟩ | ⟨hid', -⟩ | ⟨hid', -⟩
        · rw [hid] at hmem hext
          rw [← Option.some.inj hext]
          exact .curveOrder hmem hempty
        · cases hid.symm.trans hid'
        · cases hid.symm.trans hid'
  rw [wireEntries, matchCompressCert] at h
  split_ifs at h
  · rcases mem_replaceF_cases h with h | ⟨e₀, -, h⟩
    · exact hcurves h
    · split at h
      · cases h
        exact .other _ (by simp [Extension.id])
      · cases h
  · exact hcurves h

/-- An entry stays if it is of neither kind that is changed. -/
theorem mem_wireEntries {e : JA4RExtension}
    (h : e ∈ components.entries version.tlsVersion disableGrease serverName) (hid : e.id ≠ 0x000a)
    (hext : ∀ algorithms, e.ext ≠ .compressCert algorithms) :
    e ∈ wireEntries version components userAgent disableGrease serverName order := by
  have horder := (perm_orderExtensionsByWireOrder _ order.extOrder).symm.subset h
  have hcurves : e ∈ overrideCurves order.curveOrder (orderExtensionsByWireOrder
      (components.entries version.tlsVersion disableGrease serverName) order.extOrder) := by
    rw [overrideCurves]
    split_ifs
    · exact horder
    · exact mem_replaceF_of_eq_none horder (if_neg hid)
  rw [wireEntries, matchCompressCert]
  split_ifs
  · refine mem_replaceF_of_eq_none hcurves ?_
    split
    · next heq => exact absurd heq (hext _)
    · rfl
  · exact hcurves

/-- Where the order has curves, they are sent. -/
theorem curveOrder_mem (h : 0x000a ∈ components.extensions) (hne : order.curveOrder ≠ []) :
    ∃ e ∈ wireEntries version components userAgent disableGrease serverName order,
      e.ext = .supportedCurves order.curveOrder := by
  have hentries : ⟨0x000a, .supportedCurves (defaultCurves version.tlsVersion)⟩ ∈
      components.entries version.tlsVersion disableGrease serverName :=
    mem_entries h (createExtensionFromID_ten _ _)
  have hperm := perm_orderExtensionsByWireOrder
    (components.entries version.tlsVersion disableGrease serverName) order.extOrder
  obtain ⟨e, he, e', hf, he'⟩ := exists_mem_replaceF
    (f := fun e : JA4RExtension =>
      if e.id = 0x000a then some ⟨e.id, setCurves order.curveOrder e.ext⟩ else none)
    (hperm.symm.subset hentries) (if_pos rfl)
  split_ifs at hf with hid
  -- the entry that is changed has supported groups
  have hext : e.ext = .supportedCurves (defaultCurves version.tlsVersion) := by
    rcases mem_entries_cases (hperm.subset he) with ⟨-, hext⟩ | ⟨hid', -⟩ | ⟨hid', -⟩
    · rw [hid] at hext
      exact (Option.some.inj hext).symm
    · cases hid.symm.trans hid'
    · cases hid.symm.trans hid'
  have hext' : e'.ext = .supportedCurves order.curveOrder := by
    rw [← Option.some.inj hf, hext]
    rfl
  refine ⟨e', ?_, hext'⟩
  rw [wireEntries, matchCompressCert, overrideCurves, if_neg hne]
  split_ifs
  · exact mem_replaceF_of_eq_none he' (by rw [hext'])
  · exact he'

theorem keyShare_mem (h : 0x0033 ∈ components.extensions)
    (hversion : version.tlsVersion = versionTLS13) :
    ∃ e ∈ wireEntries version components userAgent disableGrease serverName order,
      e.ext = .keyShare ja4rShares := by
  have hext : createExtensionFromID 0x0033 version.tlsVersion (some components) disableGrease
      serverName = some (.keyShare ja4rShares) := by
    rw [createExtensionFromID_keyShare, if_pos hversion]
  exact ⟨_, mem_wireEntries (mem_entries h hext) (by decide) nofun, rfl⟩

theorem greased_mem {ext : Extension} (h : ∃ e ∈ wireEntries version components userAgent
    disableGrease serverName order, e.ext = ext) :
    some (greased (wantsGREASE userAgent disableGrease) ext) ∈ (specOfComponents version
      components userAgent disableGrease serverName order).extensions := by
  obtain ⟨e, he, rfl⟩ := h
  exact some_mem_specOfComponents_iff.2 (.inr ⟨e, he, rfl⟩)

end

/-- What a hello of a JA4_r string is made of. -/
theorem ja4rStringToSpec_eq_ok {ja4r userAgent : Bytes} {forceHTTP1 disableGrease : Bool}
    {serverName ja3Order : Bytes} {spec : ClientHelloSpec}
    (h : ja4rStringToSpec ja4r userAgent forceHTTP1 disableGrease serverName ja3Order = .ok spec) :
    ∃ components version alpn, parseJA4RString ja4r = .ok components ∧
      ja4rVersion components.tlsVersion = .ok version ∧
        spec = specOfComponents version { components with alpn := alpn } userAgent disableGrease
          serverName (parseJA3Order ja3Order) := by
  obtain ⟨components, hcomponents, h⟩ := bind_eq_ok_iff.1 h
  obtain ⟨version, hversion, h⟩ := bind_eq_ok_iff.1 h
  cases h
  by_cases hforce : forceHTTP1 ∧ components.alpn ≠ []
  · refine ⟨components, version, utf8 "h1", hcomponents, hversion, ?_⟩
    rw [if_pos hforce]
  · refine ⟨components, version, components.alpn, hcomponents, hversion, ?_⟩
    rw [if_neg hforce]

theorem tlsVersion_eq_iff {tlsVersion : Bytes} {version : JA4RVersion}
    (h : ja4rVersion tlsVersion = .ok version) :
    version.tlsVersion = versionTLS13 ↔ tlsVersion = utf8 "t13" := by
  have hne : utf8 "t13" ≠ utf8 "t10" ∧ utf8 "t13" ≠ utf8 "t11" ∧ utf8 "t13" ≠ utf8 "t12" := by
    simp only [ne_eq, utf8_injective.eq_iff]
    decide
  rw [ja4rVersion] at h
  split_ifs at h with h10 h11 h12 h13
  · cases h
    exact iff_of_false (by decide) fun h => hne.1 (h.symm.trans h10)
  · cases h
    exact iff_of_false (by decide) fun h => hne.2.1 (h.symm.trans h11)
  · cases h
    exact iff_of_false (by decide) fun h => hne.2.2 (h.symm.trans h12)
  · cases h
    exact iff_of_true rfl h13

theorem greased_supportedCurves (grease : Bool) (curves : List UInt16) :
    greased grease (.supportedCurves curves) =
      .supportedCurves ((if grease then [greasePlaceholder] else []) ++ curves) := by
  cases grease <;> rfl

theorem greased_keyShare (grease : Bool) (shares : List KeyShare) :
    greased grease (.keyShare shares) =
      .keyShare ((if grease then [⟨greasePlaceholder, [0]⟩] else []) ++ shares) := by
  cases grease <;> rfl

theorem greased_supportedVersions (grease : Bool) (versions : List UInt16) :
    greased grease (.supportedVersions versions) =
      .supportedVersions ((if grease then [greasePlaceholder] else []) ++ versions) := by
  cases grease <;> rfl

theorem id_greased (grease : Bool) (ext : Extension) : (greased grease ext).id = ext.id := by
  cases grease <;> cases ext <;> rfl

section

variable {version : JA4RVersion} {components : JA4RComponents} {userAgent : Bytes}
  {disableGrease : Bool} {serverName : Bytes} {order : JA3Order}

/-- Which extensions with a list a hello has. -/
theorem listed_of_mem {ext : Extension} (h : some ext ∈ (specOfComponents version components
    userAgent disableGrease serverName order).extensions) : ∃ ext₀,
      Listed version components order ext₀ ∧
        ext = greased (wantsGREASE userAgent disableGrease) ext₀ := by
  rcases some_mem_specOfComponents_iff.1 h with ⟨-, rfl⟩ | ⟨e, he, rfl⟩
  · refine ⟨.grease, .other _ (by decide), ?_⟩
    cases wantsGREASE userAgent disableGrease <;> rfl
  · exact ⟨e.ext, listed_of_mem_wireEntries he, rfl⟩

theorem some_supportedCurves_mem (h : 0x000a ∈ components.extensions)
    (hne : order.curveOrder ≠ []) :
    some (.supportedCurves ((if wantsGREASE userAgent disableGrease then
      [greasePlaceholder] else []) ++ order.curveOrder)) ∈ (specOfComponents version components
        userAgent disableGrease serverName order).extensions := by
  rw [← greased_supportedCurves]
  exact greased_mem (curveOrder_mem h hne)

theorem some_keyShare_mem (h : 0x0033 ∈ components.extensions)
    (hversion : version.tlsVersion = versionTLS13) :
    some (.keyShare ((if wantsGREASE userAgent disableGrease then
      [⟨greasePlaceholder, [0]⟩] else []) ++ ja4rShares)) ∈ (specOfComponents version components
        userAgent disableGrease serverName order).extensions := by
  rw [← greased_keyShare]
  exact greased_mem (keyShare_mem h hversion)

/-- The curves that are sent are the default ones, or those of the order. -/
theorem of_supportedCurves_mem {curves : List UInt16} (h : some (.supportedCurves curves) ∈
    (specOfComponents version components userAgent disableGrease serverName order).extensions) :
    0x000a ∈ components.extensions ∧ ∃ curves₀,
      (curves₀ = defaultCurves version.tlsVersion ∨
        order.curveOrder ≠ [] ∧ curves₀ = order.curveOrder) ∧
      curves = (if wantsGREASE userAgent disableGrease then [greasePlaceholder] else []) ++
        curves₀ := by
  obtain ⟨ext, hlisted, hext⟩ := listed_of_mem h
  cases hlisted with
  | supportedVersions versions hversions =>
    rw [greased_supportedVersions] at hext
    cases hext
  | defaultCurves h10 =>
    rw [greased_supportedCurves] at hext
    exact ⟨h10, _, .inl rfl, Extension.supportedCurves.inj hext⟩
  | curveOrder h10 hne =>
    rw [greased_supportedCurves] at hext
    exact ⟨h10, _, .inr ⟨hne, rfl⟩, Extension.supportedCurves.inj hext⟩
  | keyShare h51 hversion =>
    rw [greased_keyShare] at hext
    cases hext
  | other ext hid =>
    rw [← id_greased (wantsGREASE userAgent disableGrease), ← hext] at hid
    exact absurd (by simp [Extension.id]) hid

theorem of_keyShare_mem {shares : List KeyShare} (h : some (.keyShare shares) ∈
    (specOfComponents version components userAgent disableGrease serverName order).extensions) :
    0x0033 ∈ components.extensions ∧ version.tlsVersion = versionTLS13 ∧
      shares = (if wantsGREASE userAgent disableGrease then
        [⟨greasePlaceholder, [0]⟩] else []) ++ ja4rShares := by
  obtain ⟨ext, hlisted, hext⟩ := listed_of_mem h
  cases hlisted with
  | supportedVersions versions hversions =>
    rw [greased_supportedVersions] at hext
    cases hext
  | defaultCurves h10 =>
    rw [greased_supportedCurves] at hext
    cases hext
  | curveOrder h10 hne =>
    rw [greased_supportedCurves] at hext
    cases hext
  | keyShare h51 hversion =>
    rw [greased_keyShare] at hext
    exact ⟨h51, hversion, Extension.keyShare.inj hext⟩
  | other ext hid =>
    rw [← id_greased (wantsGREASE userAgent disableGrease), ← hext] at hid
    exact absurd (by simp [Extension.id]) hid

/-- The shares are offered if the curves of the order have them; the default ones do. -/
theorem sharesOffered_specOfComponents_iff :
    (specOfComponents version components userAgent disableGrease serverName order).SharesOffered ↔
      (version.tlsVersion = versionTLS13 → 0x000a ∈ components.extensions →
        0x0033 ∈ components.extensions → order.curveOrder ≠ [] →
          ∀ share ∈ ja4rShares, share.group ∈ order.curveOrder) := by
  have hshares : ∀ share ∈ ja4rShares, ¬IsGREASE share.group ∧ share.group ≠ greasePlaceholder ∧
      share.group ∈ defaultCurves versionTLS13 := by decide
  constructor
  · intro h hversion h10 h51 hne share hshare
    obtain ⟨hgrease, hplaceholder, -⟩ := hshares share hshare
    have hmem := h _ _ (some_keyShare_mem h51 hversion) (some_supportedCurves_mem h10 hne) share
      (List.mem_append_right _ hshare) hgrease
    rcases List.mem_append.1 hmem with hmem | hmem
    · split_ifs at hmem
      · exact absurd (List.mem_singleton.1 hmem) hplaceholder
      · exact absurd hmem List.not_mem_nil
    · exact hmem
  · intro h shares curves hshares' hcurves share hshare hgrease
    obtain ⟨h51, hversion, rfl⟩ := of_keyShare_mem hshares'
    obtain ⟨h10, curves₀, hcurves₀, rfl⟩ := of_supportedCurves_mem hcurves
    refine List.mem_append_right _ ?_
    rcases List.mem_append.1 hshare with hshare | hshare
    · split_ifs at hshare
      · rw [List.mem_singleton.1 hshare] at hgrease
        exact absurd isGREASE_greasePlaceholder hgrease
      · exact absurd hshare List.not_mem_nil
    · rcases hcurves₀ with rfl | ⟨hne, rfl⟩
      · rw [hversion]
        exact (hshares share hshare).2.2
      · exact h hversion h10 h51 hne share hshare

end

/-! ## The condition -/

theorem sharesOffered_iff {input : HelloInput} {spec : ClientHelloSpec}
    (h : input.spec = .ok spec) : spec.SharesOffered ↔ input.OffersShares := by
  cases input with
  | ja3 string userAgent forceHTTP1 disableGrease =>
    obtain ⟨f, hf, h⟩ := bind_eq_ok_iff.1 h
    obtain ⟨j, hreads, hknown, rfl⟩ := specOfFields_eq_ok_iff.1 h
    have hread : JA3.read string = some j := by
      rw [JA3.read, hf]
      exact JA3Fields.read_eq_some_iff.2 hreads
    rw [JA3.sharesOffered_spec_iff hknown hreads.extensions]
    refine ⟨fun hoffers j' hj' => ?_, fun hoffers => hoffers j hread⟩
    rwa [← Option.some.inj (hread.symm.trans hj')]
  | ja4r string userAgent forceHTTP1 disableGrease serverName ja3Order =>
    obtain ⟨c, version, alpn, hc, hversion, rfl⟩ := ja4rStringToSpec_eq_ok h
    have hoffers : (∀ c', parseJA4RString string = .ok c' →
        c'.OffersShares (parseJA3Order ja3Order)) ↔ c.OffersShares (parseJA3Order ja3Order) := by
      refine ⟨fun h => h c hc, fun h c' hc' => ?_⟩
      rwa [← Except.ok.inj (hc.symm.trans hc')]
    change _ ↔ (∀ c', parseJA4RString string = .ok c' → c'.OffersShares (parseJA3Order ja3Order))
    rw [hoffers, sharesOffered_specOfComponents_iff, tlsVersion_eq_iff hversion,
      JA4RComponents.OffersShares]
    simp only [ja4rShares, List.forall_mem_cons]
    tauto

/-- A JA3 string with both extensions, and P-256 alone for a curve. -/
def onlyP256 : HelloInput := .ja3 (utf8 "771,4865,10-51,23,0") [] false false

theorem exists_spec_onlyP256 : ∃ spec, onlyP256.spec = .ok spec ∧
    (some (.keyShare [⟨greasePlaceholder, [0]⟩, ⟨x25519, []⟩]) ∈ spec.extensions ∧
      some (.supportedCurves [greasePlaceholder, curveP256]) ∈ spec.extensions) := by
  obtain ⟨spec, hspec, hmem⟩ := exists_ok_of_any (x := onlyP256.spec) (p := fun spec =>
    some (.keyShare [⟨greasePlaceholder, [0]⟩, ⟨x25519, []⟩]) ∈ spec.extensions ∧
      some (.supportedCurves [greasePlaceholder, curveP256]) ∈ spec.extensions) (by
    rw [onlyP256, utf8_eq_data]
    decide +kernel)
  exact ⟨spec, hspec, of_decide_eq_true hmem⟩

theorem sharesOffered_onlyP256 : ∃ spec, onlyP256.spec = .ok spec ∧
    (spec.SharesOffered ↔ onlyP256.OffersShares) := by
  obtain ⟨spec, hspec, -⟩ := exists_spec_onlyP256
  exact ⟨spec, hspec, sharesOffered_iff hspec⟩

theorem not_forall_sharesOffered : ¬∀ (input : HelloInput) (spec : ClientHelloSpec),
    input.spec = .ok spec → spec.SharesOffered := by
  intro h
  obtain ⟨spec, hspec, hshares, hcurves⟩ := exists_spec_onlyP256
  have hoffered := h _ _ hspec _ _ hshares hcurves ⟨x25519, []⟩ (by simp) (by decide)
  exact absurd hoffered (by decide)

end CycleTLS
