import CycleTLS.KeyShares

/-!
# Supported groups and the hybrid key share of JA3 hellos (`utils.go`)

With TLS 1.3, the curves of a JA3 string that it does not know are left out, and two that it knows
take their place where none is left. For Chrome one is always left, the GREASE value, so its hello
may offer no group at all (`offersGroup_iff`).

The hybrid key share is there exactly if its group is in the string, once, and behind the shares of
GREASE (`hybridShare_placed`).
-/

namespace CycleTLS

open Utf8 Raising

/-- The supported groups have one that TLS 1.3 knows. -/
def ClientHelloSpec.OffersGroup (spec : ClientHelloSpec) : Prop :=
  ∀ curves, some (.supportedCurves curves) ∈ spec.extensions →
    ∃ c ∈ curves, ¬IsGREASE c ∧ isTLS13CompatibleCurve c = true

/-- No groups are sent, or the browser has no GREASE, or there is a curve that TLS 1.3 knows. -/
def JA3.OffersGroup (j : JA3) (family : Family) : Prop :=
  10 ∉ j.extensions ∨ family = .firefox ∨ ∃ c ∈ j.curves, isTLS13CompatibleCurve c = true

instance (j : JA3) (family : Family) : Decidable (j.OffersGroup family) :=
  inferInstanceAs (Decidable (_ ∨ _ ∨ _))

/-- The second list is the first with one hybrid share, behind the shares of GREASE. -/
structure HybridPlaced (template shares : List KeyShare) : Prop where
  placed : ∃ before after, shares = before ++ ⟨x25519MLKEM768, []⟩ :: after ∧
    template = before ++ after ∧ (∀ share ∈ before, IsGREASE share.group) ∧
    ∀ share ∈ after, ¬IsGREASE share.group ∧ share.group ≠ x25519MLKEM768
  nodup : (shares.map KeyShare.group).Nodup

theorem stringToSpec_eq_ok_of_read {ja3 userAgent : Bytes} {forceHTTP1 : Bool}
    {spec : ClientHelloSpec} {j : JA3} (h : stringToSpec ja3 userAgent forceHTTP1 = .ok spec)
    (hread : JA3.read ja3 = some j) : ∃ items, (∀ e ∈ items, KnownExtension e) ∧
      items.mapM readID = some j.extensions ∧
      spec = j.spec (parseUserAgent userAgent) forceHTTP1 items := by
  obtain ⟨f, hf, h⟩ := bind_eq_ok_iff.1 h
  obtain ⟨j', hreads, hknown, rfl⟩ := specOfFields_eq_ok_iff.1 h
  have hj : j' = j := by
    rw [JA3.read, hf] at hread
    exact Option.some.inj ((JA3Fields.read_eq_some_iff.2 hreads).symm.trans hread)
  exact hj ▸ ⟨_, hknown, hreads.extensions, rfl⟩

/-! ## Supported groups -/

theorem ne_greasePlaceholder_of_compatible {c : UInt16} (h : isTLS13CompatibleCurve c = true) :
    ¬IsGREASE c := by
  have hall : ∀ c ∈ ([23, 24, 25, 29, 30, 256, 257, 258, 259, 260, 4587, 4588, 4589] : List UInt16),
      ¬IsGREASE c := forall_mem_of_all (by decide)
  exact hall c (of_decide_eq_true h)

namespace JA3

variable {j : JA3} {family : Family}

theorem exists_group_iff (hversion : j.version = versionTLS13) :
    (∃ c ∈ j.groups family, ¬IsGREASE c ∧ isTLS13CompatibleCurve c = true) ↔
      family = .firefox ∨ ∃ c ∈ j.curves, isTLS13CompatibleCurve c = true := by
  have hoffered : j.offeredCurves = j.curves.filter isTLS13CompatibleCurve := if_pos hversion
  have hcurves : (∃ c ∈ j.offeredCurves, ¬IsGREASE c ∧ isTLS13CompatibleCurve c = true) ↔
      ∃ c ∈ j.curves, isTLS13CompatibleCurve c = true := by
    simp only [hoffered, List.mem_filter]
    constructor
    · rintro ⟨c, ⟨hc, -⟩, -, hcompatible⟩
      exact ⟨c, hc, hcompatible⟩
    · rintro ⟨c, hc, hcompatible⟩
      exact ⟨c, ⟨hc, hcompatible⟩, ne_greasePlaceholder_of_compatible hcompatible, hcompatible⟩
  cases family with
  | chrome =>
    -- the GREASE value is no group, and what is left is not replaced
    have hgroups : j.groups .chrome = greasePlaceholder :: j.offeredCurves :=
      if_neg fun h => List.cons_ne_nil _ _ h.2
    rw [hgroups, List.exists_mem_cons_iff, hcurves]
    constructor
    · rintro (⟨hgrease, -⟩ | h)
      · exact absurd isGREASE_greasePlaceholder hgrease
      · exact .inr h
    · rintro (h | h)
      · cases h
      · exact .inr h
  | firefox =>
    refine iff_of_true ?_ (.inl rfl)
    rw [groups, Family.grease, List.nil_append]
    split_ifs with hempty
    · exact ⟨x25519, List.mem_cons_self, by decide, by decide⟩
    · have hne : j.offeredCurves ≠ [] := fun h => hempty ⟨hversion, h⟩
      obtain ⟨c, hc⟩ := List.exists_mem_of_ne_nil _ hne
      have hcompatible : isTLS13CompatibleCurve c = true := by
        rw [hoffered] at hc
        exact (List.mem_filter.1 hc).2
      exact ⟨c, hc, ne_greasePlaceholder_of_compatible hcompatible, hcompatible⟩

end JA3

/-- A hello for TLS 1.3 offers a group of it exactly if the string has one, or no GREASE value
    stands in for it. -/
theorem offersGroup_iff {ja3 userAgent : Bytes} {forceHTTP1 : Bool} {spec : ClientHelloSpec}
    {j : JA3} (h : stringToSpec ja3 userAgent forceHTTP1 = .ok spec)
    (hread : JA3.read ja3 = some j) (hversion : j.version = versionTLS13) :
    spec.OffersGroup ↔ j.OffersGroup (parseUserAgent userAgent) := by
  obtain ⟨items, hknown, hitems, rfl⟩ := stringToSpec_eq_ok_of_read h hread
  have h10 : utf8 "10" ∈ items ↔ 10 ∈ j.extensions :=
    mem_items_iff hknown hitems (show ("10", 10) ∈ listKeys by decide)
  have hoffers : (j.spec (parseUserAgent userAgent) forceHTTP1 items).OffersGroup ↔
      (10 ∈ j.extensions → ∃ c ∈ j.groups (parseUserAgent userAgent),
        ¬IsGREASE c ∧ isTLS13CompatibleCurve c = true) := by
    rw [ClientHelloSpec.OffersGroup, ← h10]
    constructor
    · exact fun h hmem => h _ (JA3.supportedCurves_mem_iff.2 ⟨hmem, rfl⟩)
    · intro h curves hcurves
      obtain ⟨hmem, rfl⟩ := JA3.supportedCurves_mem_iff.1 hcurves
      exact h hmem
  rw [hoffers, JA3.exists_group_iff hversion, JA3.OffersGroup, imp_iff_not_or]

/-- A JA3 string for TLS 1.3 with a curve that it does not know. -/
def sectJA3 : Bytes := utf8 "772,4865,10-43,9,0"

theorem read_sectJA3 : JA3.read sectJA3 = some ⟨772, [4865], [10, 43], [9], [0]⟩ := by
  rw [sectJA3, utf8_eq_data]
  decide +kernel

theorem offersGroup_sectJA3 : ∃ spec j, stringToSpec sectJA3 (utf8 "Firefox/1") false = .ok spec ∧
    JA3.read sectJA3 = some j ∧ (spec.OffersGroup ↔ j.OffersGroup .firefox) := by
  obtain ⟨spec, hspec⟩ : ∃ spec, stringToSpec sectJA3 (utf8 "Firefox/1") false = .ok spec :=
    exists_ok_of_isSome (by
      rw [sectJA3, utf8_eq_data, utf8_eq_data]
      decide +kernel)
  have hfamily : parseUserAgent (utf8 "Firefox/1") = .firefox := by decide +kernel
  exact ⟨spec, _, hspec, read_sectJA3, hfamily ▸ offersGroup_iff hspec read_sectJA3 rfl⟩

theorem not_forall_offersGroup : ¬∀ (ja3 userAgent : Bytes) (forceHTTP1 : Bool)
    (spec : ClientHelloSpec) (j : JA3), stringToSpec ja3 userAgent forceHTTP1 = .ok spec →
      JA3.read ja3 = some j → j.version = versionTLS13 → spec.OffersGroup := by
  intro h
  obtain ⟨spec, hspec, hmem⟩ := exists_ok_of_any (x := stringToSpec sectJA3 (utf8 "Chrome/1") false)
    (p := fun spec => some (.supportedCurves [greasePlaceholder]) ∈ spec.extensions) (by
      rw [sectJA3, utf8_eq_data, utf8_eq_data]
      decide +kernel)
  obtain ⟨c, hc, hgrease, -⟩ := h _ _ _ _ _ hspec read_sectJA3 rfl _ (of_decide_eq_true hmem)
  rw [List.mem_singleton.1 hc] at hgrease
  exact hgrease isGREASE_greasePlaceholder

/-! ## The hybrid key share -/

theorem JA3.hybrid_mem_groups_iff {j : JA3} {family : Family} :
    x25519MLKEM768 ∈ j.groups family ↔ x25519MLKEM768 ∈ j.curves := by
  have hoffered : x25519MLKEM768 ∈ j.offeredCurves ↔ x25519MLKEM768 ∈ j.curves := by
    rw [offeredCurves]
    split_ifs
    · exact List.mem_filter.trans (and_iff_left (by decide))
    · exact .rfl
  have htarget : x25519MLKEM768 ∈ family.grease greasePlaceholder ++ j.offeredCurves ↔
      x25519MLKEM768 ∈ j.curves := by
    rw [List.mem_append, hoffered, or_iff_right]
    cases family <;> decide
  rw [groups]
  split_ifs with hempty
  · rw [hempty.2] at htarget
    rw [← htarget]
    decide
  · exact htarget

theorem hybridPlaced_keyShares {family : Family} {curves : List UInt16}
    (h : x25519MLKEM768 ∈ curves) :
    HybridPlaced (keyShares family []) (keyShares family curves) := by
  refine ⟨⟨[⟨greasePlaceholder, [0]⟩], ⟨x25519, []⟩ :: family.shares, ?_, rfl, ?_, ?_⟩, ?_⟩
  · rw [keyShares, if_pos h]
    rfl
  · rintro share hshare
    rw [List.mem_singleton.1 hshare]
    exact isGREASE_greasePlaceholder
  · cases family <;> decide
  · rw [keyShares, if_pos h]
    cases family <;> decide

/-- The one key share extension of a hello has one hybrid share, behind those of GREASE, if the
    string has its group, and else none. -/
theorem hybridShare_placed {ja3 userAgent : Bytes} {forceHTTP1 : Bool} {spec : ClientHelloSpec}
    {j : JA3} (h : stringToSpec ja3 userAgent forceHTTP1 = .ok spec)
    (hread : JA3.read ja3 = some j) (h51 : 51 ∈ j.extensions) :
    ∃ template shares,
      familyExtMap (parseUserAgent userAgent) (genMap false) (utf8 "51") =
        some (some (.keyShare template)) ∧
      (∀ shares', some (.keyShare shares') ∈ spec.extensions ↔ shares' = shares) ∧
      (x25519MLKEM768 ∈ j.curves → HybridPlaced template shares) ∧
      (x25519MLKEM768 ∉ j.curves → ∀ share ∈ shares, share.group ≠ x25519MLKEM768) := by
  obtain ⟨items, hknown, hitems, rfl⟩ := stringToSpec_eq_ok_of_read h hread
  have hmem : utf8 "51" ∈ items :=
    (mem_items_iff hknown hitems (show ("51", 51) ∈ listKeys by decide)).2 h51
  refine ⟨keyShares (parseUserAgent userAgent) [],
    keyShares (parseUserAgent userAgent) (j.groups (parseUserAgent userAgent)), ?_,
    fun shares => JA3.keyShare_mem_iff.trans (and_iff_right hmem), fun hcurves => ?_,
    fun hcurves => ?_⟩
  · rw [familyExtMap_genMap]
    exact Function.update_self ..
  · exact hybridPlaced_keyShares (JA3.hybrid_mem_groups_iff.2 hcurves)
  · rw [keyShares, if_neg (mt JA3.hybrid_mem_groups_iff.1 hcurves)]
    cases parseUserAgent userAgent <;> decide

/-- A JA3 string with the hybrid group between two others. -/
def hybridJA3 : Bytes := utf8 "771,4865,10-51,29-4588-23,0"

theorem hybridShare_placed_hybridJA3 : ∃ spec template shares,
    stringToSpec hybridJA3 (utf8 "Chrome/1") false = .ok spec ∧
      some (.keyShare shares) ∈ spec.extensions ∧ HybridPlaced template shares := by
  obtain ⟨spec, hspec⟩ : ∃ spec, stringToSpec hybridJA3 (utf8 "Chrome/1") false = .ok spec :=
    exists_ok_of_isSome (by
      rw [hybridJA3, utf8_eq_data, utf8_eq_data]
      decide +kernel)
  have hread : JA3.read hybridJA3 = some ⟨771, [4865], [10, 51], [29, 4588, 23], [0]⟩ := by
    rw [hybridJA3, utf8_eq_data]
    decide +kernel
  obtain ⟨template, shares, -, hshares, hplaced, -⟩ := hybridShare_placed hspec hread (by decide)
  exact ⟨spec, template, shares, hspec, (hshares _).2 rfl, hplaced (by decide)⟩

end CycleTLS
