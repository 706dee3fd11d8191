import CycleTLS.KeyShares

/-!
# GREASE in some lists of a hello

GREASE is put in a hello at several places, each with a condition of its own. It is in
all lists, for a browser that sends it and is not told otherwise, and else in none,
exactly if the input `IsUniform` (`followsPolicy_iff`).
-/

namespace CycleTLS

open Utf8 Raising

/-! ## The policy -/

/-- The list of an extension that may have GREASE. -/
def Extension.values : Extension → Option (List UInt16)
  | .supportedVersions versions => some versions
  | .supportedCurves curves => some curves
  | .keyShare shares => some (shares.map KeyShare.group)
  | _ => none

/-- There is GREASE in a list. -/
def HasGREASE (l : List UInt16) : Prop := ∃ v ∈ l, IsGREASE v

instance (l : List UInt16) : Decidable (HasGREASE l) := inferInstanceAs (Decidable (∃ _ ∈ _, _))

/-- There is GREASE in all lists, if it is wanted, and else in none. -/
structure ClientHelloSpec.FollowsPolicy (spec : ClientHelloSpec) (wanted : Prop) : Prop where
  cipherSuites : HasGREASE spec.cipherSuites ↔ wanted
  extensions : HasGREASE spec.extensionIDs ↔ wanted
  values : ∀ ext values, some ext ∈ spec.extensions → ext.values = some values →
    (HasGREASE values ↔ wanted)

/-- GREASE is wanted. -/
def HelloInput.WantsGREASE : HelloInput → Prop
  | .ja3 _ userAgent _ disableGrease => wantsGREASE userAgent disableGrease
  | .ja4r _ userAgent _ disableGrease _ _ => wantsGREASE userAgent disableGrease

/-- No GREASE is listed, and no extension that has it in its template. -/
structure JA3.Ungreased (j : JA3) : Prop where
  ciphers : ¬HasGREASE j.ciphers
  keyShare : 51 ∉ j.extensions
  supportedVersions : 43 ∈ j.extensions → ¬SupportedVersion j.version
  curves : 10 ∈ j.extensions → ¬HasGREASE j.offeredCurves

/-- No GREASE is listed, nor taken from the order. -/
structure JA4RComponents.Ungreased (c : JA4RComponents) (order : JA3Order) : Prop where
  ciphers : ¬HasGREASE c.cipherSuites
  extensions : ¬HasGREASE c.extensions
  curves : 10 ∈ c.extensions → ¬HasGREASE order.curveOrder

/-- GREASE is wanted, or no list gets it. -/
def HelloInput.IsUniform : HelloInput → Prop
  | .ja3 string userAgent _ disableGrease => wantsGREASE userAgent disableGrease ∨
    (parseUserAgent userAgent = .firefox ∧ ∀ j, JA3.read string = some j → j.Ungreased)
  | .ja4r string userAgent _ disableGrease _ ja3Order => wantsGREASE userAgent disableGrease ∨
    ∀ c, parseJA4RString string = .ok c → c.Ungreased (parseJA3Order ja3Order)

/-! ## User agents -/

/-- Lower case is made of what follows an ASCII character by itself. -/
theorem toLower_suffix {c : UInt8} (hc : c < 0x80) {s t : Bytes} (h : c :: t <:+ s) :
    toLower (c :: t) <:+ toLower s := by
  fun_induction toLower s with
  | case1 s ih =>
    rcases List.suffix_cons_iff.1 h with heq | h
    · exact absurd ((List.cons.inj heq).1 ▸ hc) (by decide)
    · rcases List.suffix_cons_iff.1 h with heq | h
      · exact absurd ((List.cons.inj heq).1 ▸ hc) (by decide)
      · exact (ih h).trans (List.suffix_cons _ _)
  | case2 s ih =>
    rcases List.suffix_cons_iff.1 h with heq | h
    · exact absurd ((List.cons.inj heq).1 ▸ hc) (by decide)
    · rcases List.suffix_cons_iff.1 h with heq | h
      · exact absurd ((List.cons.inj heq).1 ▸ hc) (by decide)
      · rcases List.suffix_cons_iff.1 h with heq | h
        · exact absurd ((List.cons.inj heq).1 ▸ hc) (by decide)
        · exact (ih h).trans (List.suffix_cons _ _)
  | case3 x s h1 h2 ih =>
    rcases List.suffix_cons_iff.1 h with heq | h
    · rw [heq, toLower]
      exacts [h1, h2]
    · exact (ih h).trans (List.suffix_cons _ _)
  | case4 => exact absurd (List.suffix_nil.1 h) (List.cons_ne_nil _ _)

/-- A browser with this product is no Firefox. -/
theorem parseUserAgent_of_chrome {userAgent : Bytes} (h : contains userAgent "Chrome/") :
    parseUserAgent userAgent = .chrome := by
  obtain ⟨p, hp, before, after, rfl⟩ := Text.hits_iff.1 h
  rw [List.mem_singleton.1 hp]
  have hchrome : utf8 "Chrome/" = 0x43 :: [0x68, 0x72, 0x6f, 0x6d, 0x65, 0x2f] := by
    decide +kernel
  have hlower : toLower (utf8 "Chrome/" ++ after) = utf8 "chrome" ++ 0x2f :: toLower after := by
    have hchrome' : utf8 "chrome" = [0x63, 0x68, 0x72, 0x6f, 0x6d, 0x65] := by decide +kernel
    rw [hchrome, hchrome']
    rfl
  have hsuffix : toLower (utf8 "Chrome/" ++ after) <:+
      toLower (before ++ utf8 "Chrome/" ++ after) := by
    rw [List.append_assoc, hchrome]
    exact toLower_suffix (by decide) (List.suffix_append _ _)
  have hcontains : contains (toLower (before ++ utf8 "Chrome/" ++ after)) "chrome" := by
    refine Text.hits_iff.2 ⟨_, List.mem_singleton_self _, ?_⟩
    rw [hlower] at hsuffix
    exact (List.prefix_append _ _).isInfix.trans hsuffix.isInfix
  rw [parseUserAgent, if_pos hcontains]

theorem parseUserAgent_of_wantsGREASE {userAgent : Bytes} {disableGrease : Bool}
    (h : wantsGREASE userAgent disableGrease) : parseUserAgent userAgent = .chrome :=
  parseUserAgent_of_chrome (Bool.and_eq_true_iff.1 h).1

theorem hasGREASE_cons_placeholder (l : List UInt16) : HasGREASE (greasePlaceholder :: l) :=
  ⟨_, List.mem_cons_self, isGREASE_greasePlaceholder⟩

theorem id_of_values {ext : Extension} {values : List UInt16} (h : ext.values = some values) :
    ext.id ∈ ([10, 43, 51] : List UInt16) := by
  cases ext with
  | supportedVersions | supportedCurves | keyShare => simp [Extension.id]
  | _ => cases h

/-! ## Hellos of JA3 strings -/

namespace JA3

variable {j : JA3} {family : Family} {forceHTTP1 : Bool} {items : List Bytes}

/-- Two of the extensions have GREASE in their templates. -/
theorem values_cases {ext : Extension} {values : List UInt16}
    (h : some ext ∈ (j.spec family forceHTTP1 items).extensions)
    (hvalues : ext.values = some values) :
    (utf8 "43" ∈ items ∧ SupportedVersion j.version ∧ HasGREASE values) ∨
      (utf8 "10" ∈ items ∧ values = j.groups family) ∨
        (utf8 "51" ∈ items ∧ HasGREASE values) := by
  rcases cases_of_mem h with ⟨rfl, -⟩ | ⟨h43, htls⟩ | ⟨-, rfl⟩ | ⟨h10, rfl⟩ | ⟨h51, rfl⟩ | hfixed
  · cases hvalues
  · have hversion : SupportedVersion j.version := by
      by_contra hversion
      rw [createTlsVersion_of_not_supported hversion] at htls
      cases htls
    obtain ⟨max, min, -, -, -, -, htls'⟩ := createTlsVersion_of_supported hversion false
    rw [htls'] at htls
    cases htls
    cases hvalues
    exact .inl ⟨h43, hversion, hasGREASE_cons_placeholder _⟩
  · cases hvalues
  · exact .inr (.inl ⟨h10, (Option.some.inj hvalues).symm⟩)
  · cases hvalues
    exact .inr (.inr ⟨h51, hasGREASE_cons_placeholder _⟩)
  · have hid := id_of_values hvalues
    exact absurd (by simp only [List.mem_cons] at hid ⊢; tauto) hfixed.1

theorem followsPolicy_chrome (j : JA3) (forceHTTP1 : Bool) (items : List Bytes) {wanted : Prop}
    (hwanted : wanted) : (j.spec .chrome forceHTTP1 items).FollowsPolicy wanted where
  cipherSuites := iff_of_true (hasGREASE_cons_placeholder _) hwanted
  extensions := iff_of_true (hasGREASE_cons_placeholder _) hwanted
  values ext values h hvalues := by
    refine iff_of_true ?_ hwanted
    rcases values_cases h hvalues with ⟨-, -, h⟩ | ⟨-, rfl⟩ | ⟨-, h⟩
    · exact h
    · rw [groups, if_neg fun h => List.cons_ne_nil _ _ h.2]
      exact hasGREASE_cons_placeholder _
    · exact h

theorem hasGREASE_groups_firefox : HasGREASE (j.groups .firefox) ↔ HasGREASE j.offeredCurves := by
  rw [groups, Family.grease, List.nil_append]
  split_ifs with hempty
  · rw [hempty.2]
    exact iff_of_false (by decide) (by decide)
  · exact .rfl

theorem exists_supportedVersions_mem (h : utf8 "43" ∈ items)
    (hversion : SupportedVersion j.version) :
    ∃ versions, HasGREASE versions ∧
      some (.supportedVersions versions) ∈ (j.spec family forceHTTP1 items).extensions := by
  obtain ⟨max, min, -, -, -, -, htls⟩ := createTlsVersion_of_supported hversion false
  refine ⟨_, hasGREASE_cons_placeholder [max, min], mem_extensions_iff.2 (.inr ⟨_, h, ?_⟩)⟩
  rw [extMap, ja3ExtMap_apply, if_pos rfl, htls]
  rfl

/-- No template has an id that is GREASE. -/
theorem not_hasGREASE_extensionIDs :
    ¬HasGREASE (j.spec .firefox forceHTTP1 items).extensionIDs := by
  have hids : ∀ id ∈ ([10, 11, 43, 51] : List UInt16), ¬IsGREASE id :=
    forall_mem_of_all (by decide)
  rintro ⟨id, hid, hgrease⟩
  obtain ⟨te, hte, hid⟩ := List.mem_filterMap.1 hid
  obtain ⟨ext, rfl, rfl⟩ := Option.map_eq_some_iff.1 hid
  rcases cases_of_mem hte with ⟨-, h⟩ | ⟨-, h⟩ | ⟨-, rfl⟩ | ⟨-, rfl⟩ | ⟨-, rfl⟩ | hfixed
  · cases h
  · exact hids _ (by simp [id_tlsSuppor h]) hgrease
  · exact hids _ (by simp [Extension.id]) hgrease
  · exact hids _ (by simp [Extension.id]) hgrease
  · exact hids _ (by simp [Extension.id]) hgrease
  · exact hfixed.2 hgrease

theorem followsPolicy_firefox_iff (hknown : ∀ e ∈ items, KnownExtension e)
    (hread : items.mapM readID = some j.extensions) :
    (j.spec .firefox forceHTTP1 items).FollowsPolicy False ↔ j.Ungreased := by
  have hitems {key : String × UInt16} (hkey : key ∈ listKeys) :
      utf8 key.1 ∈ items ↔ key.2 ∈ j.extensions := mem_items_iff hknown hread hkey
  have h10 := hitems (show ("10", 10) ∈ listKeys by decide)
  have h43 := hitems (show ("43", 43) ∈ listKeys by decide)
  have h51 := hitems (show ("51", 51) ∈ listKeys by decide)
  constructor
  · intro hpolicy
    refine ⟨hpolicy.cipherSuites.1, fun hmem => ?_, fun hmem hversion => ?_, fun hmem hgrease => ?_⟩
    · exact (hpolicy.values _ _ (keyShare_mem_iff.2 ⟨h51.2 hmem, rfl⟩) rfl).1
        (hasGREASE_cons_placeholder _)
    · obtain ⟨versions, hgrease, hmem⟩ := exists_supportedVersions_mem (h43.2 hmem) hversion
      exact (hpolicy.values _ _ hmem rfl).1 hgrease
    · exact (hpolicy.values _ _ (supportedCurves_mem_iff.2 ⟨h10.2 hmem, rfl⟩) rfl).1
        (hasGREASE_groups_firefox.2 hgrease)
  · intro h
    refine ⟨iff_false_intro h.ciphers, iff_false_intro not_hasGREASE_extensionIDs,
      fun ext values hmem hvalues => iff_false_intro fun hgrease => ?_⟩
    rcases values_cases hmem hvalues with ⟨hmem, hversion, -⟩ | ⟨hmem, rfl⟩ | ⟨hmem, -⟩
    · exact h.supportedVersions (h43.1 hmem) hversion
    · exact h.curves (h10.1 hmem) (hasGREASE_groups_firefox.1 hgrease)
    · exact h.keyShare (h51.1 hmem)

end JA3

/-! ## Hellos of JA4_r strings -/

theorem HasGREASE.of_subset {l l' : List UInt16} (h : l ⊆ l') (hgrease : HasGREASE l) :
    HasGREASE l' := by
  obtain ⟨v, hv, hgrease⟩ := hgrease
  exact ⟨v, h hv, hgrease⟩

theorem hasGREASE_perm {l l' : List UInt16} (h : l.Perm l') : HasGREASE l ↔ HasGREASE l' :=
  ⟨.of_subset h.subset, .of_subset h.symm.subset⟩

section

variable {version : JA4RVersion} {components : JA4RComponents} {userAgent : Bytes}
  {disableGrease : Bool} {serverName : Bytes} {order : JA3Order}

/-- The lists of extensions have GREASE where it is put in, or from the order. -/
theorem values_cases_of_mem {ext : Extension} {values : List UInt16}
    (h : some ext ∈ (specOfComponents version components userAgent disableGrease serverName
      order).extensions) (hvalues : ext.values = some values) : ∃ values₀,
      values =
          (if wantsGREASE userAgent disableGrease then [greasePlaceholder] else []) ++ values₀ ∧
        (¬HasGREASE values₀ ∨ 10 ∈ components.extensions ∧ values₀ = order.curveOrder) := by
  obtain ⟨ext₀, hlisted, rfl⟩ := listed_of_mem h
  cases hlisted with
  | supportedVersions versions hversions =>
    rw [greased_supportedVersions] at hvalues
    cases hvalues
    exact ⟨versions, rfl, .inl fun ⟨v, hv, hgrease⟩ => hversions v hv hgrease⟩
  | defaultCurves h10 =>
    rw [greased_supportedCurves] at hvalues
    cases hvalues
    refine ⟨_, rfl, .inl ?_⟩
    rw [defaultCurves]
    split_ifs <;> decide
  | curveOrder h10 hne =>
    rw [greased_supportedCurves] at hvalues
    cases hvalues
    exact ⟨_, rfl, .inr ⟨h10, rfl⟩⟩
  | keyShare h51 hversion =>
    rw [greased_keyShare] at hvalues
    cases hvalues
    refine ⟨ja4rShares.map KeyShare.group, ?_, .inl (by decide)⟩
    rw [List.map_append]
    split_ifs <;> rfl
  | other ext hid =>
    rw [← id_greased] at hid
    exact absurd (id_of_values hvalues) hid

/-- The extensions that are not listed, or left out, have no GREASE id. -/
theorem hasGREASE_entries_iff : HasGREASE ((components.entries version.tlsVersion disableGrease
    serverName).map JA4RExtension.written) ↔ HasGREASE components.extensions := by
  constructor
  · rintro ⟨id, hid, hgrease⟩
    obtain ⟨e, he, rfl⟩ := List.mem_map.1 hid
    rcases mem_entries_cases he with ⟨hmem, hext⟩ | ⟨-, hid⟩ | ⟨-, hid⟩
    · rw [JA4RExtension.written, id_of_createExtensionFromID hext] at hgrease
      exact ⟨_, hmem, hgrease⟩
    · rw [JA4RExtension.written, hid] at hgrease
      exact absurd hgrease (by decide)
    · rw [JA4RExtension.written, hid] at hgrease
      exact absurd hgrease (by decide)
  · rintro ⟨id, hid, hgrease⟩
    have hne : id ≠ 0x002b ∧ id ≠ 0x0033 := by
      constructor <;> rintro rfl <;> exact absurd hgrease (by decide)
    have hsome : (createExtensionFromID id version.tlsVersion (some components) disableGrease
        serverName).isSome := isSome_createExtensionFromID (fun _ => hne) _ _ _
    obtain ⟨ext, hext⟩ := Option.isSome_iff_exists.1 hsome
    refine ⟨id, List.mem_map.2 ⟨_, mem_entries hid hext, ?_⟩, hgrease⟩
    exact id_of_createExtensionFromID hext

theorem followsPolicy_of_wantsGREASE (hwants : wantsGREASE userAgent disableGrease) :
    (specOfComponents version components userAgent disableGrease serverName order).FollowsPolicy
      (wantsGREASE userAgent disableGrease) where
  cipherSuites := by
    rw [cipherSuites_specOfComponents]
    exact iff_of_true (.of_subset (List.subset_append_left _ _) (by
      rw [if_pos hwants]
      exact hasGREASE_cons_placeholder [])) hwants
  extensions := by
    rw [extensionIDs_specOfComponents]
    exact iff_of_true (by
      dsimp only
      rw [if_pos hwants]
      exact hasGREASE_cons_placeholder _) hwants
  values ext values h hvalues := by
    obtain ⟨values₀, rfl, -⟩ := values_cases_of_mem h hvalues
    rw [if_pos hwants]
    exact iff_of_true (hasGREASE_cons_placeholder _) hwants

theorem followsPolicy_iff_ungreased (hwants : ¬wantsGREASE userAgent disableGrease) :
    (specOfComponents version components userAgent disableGrease serverName order).FollowsPolicy
      (wantsGREASE userAgent disableGrease) ↔ components.Ungreased order := by
  have hciphers : HasGREASE (specOfComponents version components userAgent disableGrease serverName
      order).cipherSuites ↔ HasGREASE components.cipherSuites := by
    rw [cipherSuites_specOfComponents, if_neg hwants, List.nil_append]
    exact hasGREASE_perm (perm_orderByWireOrder _ _)
  have hids : HasGREASE (specOfComponents version components userAgent disableGrease serverName
      order).extensionIDs ↔ HasGREASE components.extensions := by
    rw [extensionIDs_specOfComponents]
    dsimp only
    rw [if_neg hwants, hasGREASE_perm perm_written_wireEntries, hasGREASE_entries_iff]
  constructor
  · intro hpolicy
    refine ⟨fun h => hwants (hpolicy.cipherSuites.1 (hciphers.2 h)),
      fun h => hwants (hpolicy.extensions.1 (hids.2 h)), fun hmem h => hwants ?_⟩
    have hne : order.curveOrder ≠ [] := by
      intro hempty
      rw [hempty] at h
      exact absurd h (by decide)
    refine (hpolicy.values _ _ (some_supportedCurves_mem hmem hne) rfl).1 ?_
    exact h.of_subset (List.subset_append_right _ _)
  · intro h
    refine ⟨iff_of_false (fun hgrease => h.ciphers (hciphers.1 hgrease)) hwants,
      iff_of_false (fun hgrease => h.extensions (hids.1 hgrease)) hwants,
      fun ext values hmem hvalues => iff_of_false (fun hgrease => ?_) hwants⟩
    obtain ⟨values₀, rfl, hvalues₀⟩ := values_cases_of_mem hmem hvalues
    rw [if_neg hwants, List.nil_append] at hgrease
    rcases hvalues₀ with hnone | ⟨h10, rfl⟩
    · exact hnone hgrease
    · exact h.curves h10 hgrease

end

/-! ## The condition -/

/-- Exactly from these inputs, all lists of the hello follow the policy. -/
theorem followsPolicy_iff {input : HelloInput} {spec : ClientHelloSpec}
    (h : input.spec = .ok spec) : spec.FollowsPolicy input.WantsGREASE ↔ input.IsUniform := by
  cases input with
  | ja3 string userAgent forceHTTP1 disableGrease =>
    obtain ⟨f, hf, h⟩ := bind_eq_ok_iff.1 h
    obtain ⟨j, hreads, hknown, rfl⟩ := specOfFields_eq_ok_iff.1 h
    have hread : JA3.read string = some j := by
      rw [JA3.read, hf]
      exact JA3Fields.read_eq_some_iff.2 hreads
    change (JA3.spec _ _ _ _).FollowsPolicy (wantsGREASE userAgent disableGrease) ↔
      wantsGREASE userAgent disableGrease ∨ _
    by_cases hwants : wantsGREASE userAgent disableGrease
    · rw [parseUserAgent_of_wantsGREASE hwants]
      exact iff_of_true (JA3.followsPolicy_chrome _ _ _ hwants) (.inl hwants)
    · rw [or_iff_right hwants, eq_false hwants]
      cases hfamily : parseUserAgent userAgent with
      | chrome =>
        refine iff_of_false (fun hpolicy => ?_) fun h => by cases h.1
        exact hpolicy.cipherSuites.1 (hasGREASE_cons_placeholder _)
      | firefox =>
        rw [JA3.followsPolicy_firefox_iff hknown hreads.extensions]
        refine ⟨fun h => ⟨rfl, fun j' hj' => ?_⟩, fun h => h.2 j hread⟩
        rwa [← Option.some.inj (hread.symm.trans hj')]
  | ja4r string userAgent forceHTTP1 disableGrease serverName ja3Order =>
    obtain ⟨c, version, alpn, hc, hversion, rfl⟩ := ja4rStringToSpec_eq_ok h
    change _ ↔ wantsGREASE userAgent disableGrease ∨ _
    by_cases hwants : wantsGREASE userAgent disableGrease
    · exact iff_of_true (followsPolicy_of_wantsGREASE hwants) (.inl hwants)
    · rw [or_iff_right hwants]
      refine (followsPolicy_iff_ungreased hwants).trans ⟨fun h c' hc' => ?_, fun h => ?_⟩
      · rw [← Except.ok.inj (hc.symm.trans hc')]
        exact ⟨h.ciphers, h.extensions, h.curves⟩
      · exact ⟨(h c hc).ciphers, (h c hc).extensions, (h c hc).curves⟩

/-- A Firefox with the key share extension. -/
def firefoxShares : HelloInput :=
  .ja3 (utf8 "771,4865,51,29,0") (utf8 "Firefox/120.0") false false

theorem exists_spec_firefoxShares : ∃ spec, firefoxShares.spec = .ok spec ∧
    some (.keyShare [⟨greasePlaceholder, [0]⟩, ⟨x25519, []⟩, ⟨curveP256, []⟩]) ∈
      spec.extensions := by
  obtain ⟨spec, hspec, hmem⟩ := Raising.exists_ok_of_any (x := firefoxShares.spec) (p := fun spec =>
    some (.keyShare [⟨greasePlaceholder, [0]⟩, ⟨x25519, []⟩, ⟨curveP256, []⟩]) ∈
      spec.extensions) (by
    rw [firefoxShares, utf8_eq_data, utf8_eq_data]
    decide +kernel)
  exact ⟨spec, hspec, of_decide_eq_true hmem⟩

theorem followsPolicy_firefoxShares : ∃ spec, firefoxShares.spec = .ok spec ∧
    (spec.FollowsPolicy firefoxShares.WantsGREASE ↔ firefoxShares.IsUniform) := by
  obtain ⟨spec, hspec, -⟩ := exists_spec_firefoxShares
  exact ⟨spec, hspec, followsPolicy_iff hspec⟩

theorem not_forall_followsPolicy : ¬∀ (input : HelloInput) (spec : ClientHelloSpec),
    input.spec = .ok spec → spec.FollowsPolicy input.WantsGREASE := by
  intro h
  obtain ⟨spec, hspec, hshares⟩ := exists_spec_firefoxShares
  have hwants : ¬firefoxShares.WantsGREASE := by
    change ¬(wantsGREASE (utf8 "Firefox/120.0") false = true)
    decide +kernel
  exact hwants (((h _ _ hspec).values _ _ hshares rfl).1 (hasGREASE_cons_placeholder _))

end CycleTLS
