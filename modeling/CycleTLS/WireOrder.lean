import CycleTLS.JA4RTrip
import CycleTLS.Lib.StableSort

/-!
# The order of a JA3 string (`utils.go`)

Ciphers and extensions of a JA4_r string are sorted into the order of a JA3 string. Ciphers get the
places that they have there (`placed_cipherSuites`).

An extension that is not in the order, and not one of the two ids for application settings, is
looked up as the id 0 of the server name. If that is in the order, the extension is put where the
server name is, and not behind the others (`placed_orderExtensionsByWireOrder_iff`).
-/

namespace CycleTLS

open StableSort Raising Utf8

/-- The place of an id in an order: that of its first occurrence, or if it is one of the two ids
    for application settings, that of the other one. -/
def occurrence (order : List UInt16) (id : UInt16) : Option Nat :=
  match wireRank order id with
  | some i => some i
  | none =>
    if id = 0x4469 then wireRank order 0x44cd
    else if id = 0x44cd then wireRank order 0x4469
    else none

/-- An id that has no place and is not one for application settings. -/
def Stray (order : List UInt16) (id : UInt16) : Prop :=
  occurrence order id = none ∧ id ≠ 0x4469 ∧ id ≠ 0x44cd

instance (order : List UInt16) (id : UInt16) : Decidable (Stray order id) :=
  inferInstanceAs (Decidable (_ ∧ _))

/-- Of two ids of which the first stands before the second, a stray one may get a place: it passes
    no other. -/
structure Harmless (order : List UInt16) (place : Nat) (a b : UInt16) : Prop where
  /-- What stands before a stray id has a place, which is not behind its own. -/
  before : Stray order b → Stray order a ∨ ∃ i ≤ place, occurrence order a = some i
  /-- What stands after a stray id has no place, or one behind its own. -/
  after : Stray order a → ∀ j, occurrence order b = some j → j < place

/-! ## Sorting -/

theorem sorted_sliceStable {α : Type} {less : α → α → Bool} {pos : α → Option Nat}
    (hless : ∀ a b, less a b = rankLess (pos a) (pos b)) (l : List α) :
    Sorted (fun a => keyOf (pos a)) l (sliceStable less l) := by
  have hrel (a b : α) : less b a = false ↔ keyOf (pos a) ≤ keyOf (pos b) := by
    rw [hless, keyOf_le_iff]
    cases pos a <;> cases pos b <;> simp [rankLess]
  rw [sliceStable, insertionSort_congr (List.pairwise_of_forall fun a b => hrel a b)]
  exact sorted_insertionSort _ l

/-- What is not sorted is in order. -/
theorem pairwise_of_skip {α : Type} {pos : α → Option Nat} {order : List UInt16} {l : List α}
    (hskip : order = [] ∨ l.length < 2) (hpos : order = [] → ∀ a, pos a = none) :
    l.Pairwise fun a b => keyOf (pos a) ≤ keyOf (pos b) := by
  rcases hskip with horder | hlength
  · refine List.pairwise_of_forall fun a b => ?_
    rw [hpos horder a, hpos horder b]
  · match l, hlength with
    | [], _ => exact .nil
    | [a], _ => exact List.pairwise_singleton _ a

theorem sorted_orderByWireOrder (items order : List UInt16) :
    Sorted (fun id => keyOf (wireRank order id)) items (orderByWireOrder items order) := by
  rw [orderByWireOrder]
  split_ifs with hskip
  · refine .self (pairwise_of_skip hskip fun horder a => ?_)
    rw [horder]
    rfl
  · exact sorted_sliceStable (fun _ _ => rfl) items

theorem sorted_orderExtensionsByWireOrder (entries : List JA4RExtension) (order : List UInt16) :
    Sorted (fun e => keyOf (rankOf (wireRank order) e.id)) entries
      (orderExtensionsByWireOrder entries order) := by
  rw [orderExtensionsByWireOrder]
  split_ifs with hskip
  · refine .self (pairwise_of_skip hskip fun horder a => ?_)
    rw [horder]
    rfl
  · exact sorted_sliceStable (fun _ _ => rfl) entries

/-! ## Extensions -/

section

variable {order : List UInt16} {id : UInt16}

theorem rankOf_of_stray (h : Stray order id) : rankOf (wireRank order) id = wireRank order 0 := by
  have hrank : wireRank order id = none := by
    have hnone := h.1
    rw [occurrence] at hnone
    cases hid : wireRank order id with
    | none => rfl
    | some i =>
      rw [hid] at hnone
      cases hnone
  rw [rankOf, hrank]
  simp only [if_neg h.2.1, if_neg h.2.2]

theorem rankOf_of_not_stray (h : ¬Stray order id) :
    rankOf (wireRank order) id = occurrence order id := by
  rw [rankOf, occurrence]
  cases hid : wireRank order id with
  | some i => rfl
  | none =>
    dsimp only
    split_ifs with h1 h2
    · rfl
    · rfl
    · refine absurd ⟨?_, h1, h2⟩ h
      rw [occurrence, hid]
      simp only [if_neg h1, if_neg h2]

/-- If the id 0 is not in the order, an extension gets no place that it does not have. -/
theorem rankOf_of_eq_none (h : wireRank order 0 = none) :
    rankOf (wireRank order) id = occurrence order id := by
  by_cases hstray : Stray order id
  · rw [rankOf_of_stray hstray, hstray.1, h]
  · exact rankOf_of_not_stray hstray

/-- The places that two extensions get say the same as those that they have. -/
theorem agree_iff_harmless {place : Nat} (hplace : wireRank order 0 = some place) {a b : UInt16} :
    (keyOf (rankOf (wireRank order) a) ≤ keyOf (rankOf (wireRank order) b) ↔
      keyOf (occurrence order a) ≤ keyOf (occurrence order b)) ↔ Harmless order place a b := by
  by_cases ha : Stray order a <;> by_cases hb : Stray order b
  · rw [rankOf_of_stray ha, rankOf_of_stray hb, ha.1, hb.1, hplace]
    refine iff_of_true (iff_of_true le_rfl le_rfl) ⟨fun _ => .inl ha, fun _ j hj => ?_⟩
    cases hb.1.symm.trans hj
  · rw [rankOf_of_stray ha, rankOf_of_not_stray hb, ha.1, hplace]
    cases hoccurrence : occurrence order b with
    | none =>
      refine iff_of_true (by simp) ⟨fun h => absurd h hb, fun _ j hj => ?_⟩
      cases hoccurrence.symm.trans hj
    | some j =>
      rw [iff_false_right (not_keyOf_none_le_some j), keyOf_some_le_some, not_le]
      refine ⟨fun hj => ⟨fun h => absurd h hb, fun _ j' hj' => ?_⟩,
        fun h => h.after ha j hoccurrence⟩
      cases hoccurrence.symm.trans hj'
      exact hj
  · rw [rankOf_of_not_stray ha, rankOf_of_stray hb, hb.1, hplace,
      iff_true_right (keyOf_le_none _)]
    cases hoccurrence : occurrence order a with
    | none =>
      refine iff_of_false (not_keyOf_none_le_some place) fun h => ?_
      obtain ⟨i, -, hi⟩ := (h.before hb).resolve_left ha
      cases hoccurrence.symm.trans hi
    | some i =>
      rw [keyOf_some_le_some]
      refine ⟨fun hi => ⟨fun _ => .inr ⟨i, hi, hoccurrence⟩, fun h => absurd h ha⟩, fun h => ?_⟩
      obtain ⟨i', hi', hi⟩ := (h.before hb).resolve_left ha
      cases hoccurrence.symm.trans hi
      exact hi'
  · rw [rankOf_of_not_stray ha, rankOf_of_not_stray hb]
    exact iff_of_true .rfl ⟨fun h => absurd h hb, fun h => absurd h ha⟩

end

/-- The extensions of an order come first, in that order, and the others follow as they were,
    exactly if those that are put where the server name is pass no other. -/
theorem placed_orderExtensionsByWireOrder_iff {entries : List JA4RExtension}
    {order : List UInt16} :
    Placed (fun e => occurrence order e.id) entries (orderExtensionsByWireOrder entries order) ↔
      ∀ place, wireRank order 0 = some place →
        entries.Pairwise fun a b => Harmless order place a.id b.id := by
  rw [placed_iff_sorted, sorted_iff_of_sorted (sorted_orderExtensionsByWireOrder entries order)]
  cases hplace : wireRank order 0 with
  | none =>
    refine iff_of_true (List.pairwise_of_forall fun a b => ?_) nofun
    rw [rankOf_of_eq_none hplace, rankOf_of_eq_none hplace]
  | some place =>
    simp only [Option.some.injEq, forall_eq', agree_iff_harmless hplace]

/-- The first of the two is not in the order. -/
theorem not_forall_placed_extensions :
    ¬∀ (entries : List JA4RExtension) (order : List UInt16),
      Placed (fun e => occurrence order e.id) entries (orderExtensionsByWireOrder entries order) :=
  fun h => absurd (h [⟨0x0010, .alpn []⟩, ⟨0x000a, .supportedCurves []⟩] [0x0000, 0x000a]).first
    (by decide)

/-! ## Ciphers -/

/-- After a GREASE value, if there is one, come the ciphers in the order of the JA3 string. -/
theorem placed_cipherSuites {ja4r userAgent serverName ja3Order : Bytes}
    {forceHTTP1 disableGrease : Bool} {spec : ClientHelloSpec}
    (h : ja4rStringToSpec ja4r userAgent forceHTTP1 disableGrease serverName ja3Order = .ok spec) :
    ∃ components suites, parseJA4RString ja4r = .ok components ∧
      spec.cipherSuites =
        (if wantsGREASE userAgent disableGrease then [greasePlaceholder] else []) ++ suites ∧
      Placed (wireRank (parseJA3Order ja3Order).cipherOrder) components.cipherSuites suites := by
  obtain ⟨components, hcomponents, h⟩ := bind_eq_ok_iff.1 h
  obtain ⟨version, -, h⟩ := bind_eq_ok_iff.1 h
  cases h
  refine ⟨components, _, hcomponents, cipherSuites_specOfComponents, ?_⟩
  have hciphers : (if forceHTTP1 = true ∧ components.alpn ≠ [] then
      { components with alpn := utf8 "h1" } else components).cipherSuites =
        components.cipherSuites := by
    split_ifs <;> rfl
  rw [hciphers, placed_iff_sorted]
  exact sorted_orderByWireOrder _ _

theorem placed_cipherSuites_someJA4R : ∃ spec components suites,
    ja4rStringToSpec someJA4R.text (utf8 "Chrome/1") false false [] (utf8 "771,4866-4865,0") =
        .ok spec ∧
      parseJA4RString someJA4R.text = .ok components ∧
      spec.cipherSuites = [greasePlaceholder] ++ suites ∧
      Placed (wireRank [4866, 4865]) components.cipherSuites suites := by
  obtain ⟨spec, hspec⟩ : ∃ spec, ja4rStringToSpec someJA4R.text (utf8 "Chrome/1") false false []
      (utf8 "771,4866-4865,0") = .ok spec := exists_ok_of_isSome (by decide +kernel)
  obtain ⟨components, suites, hcomponents, hsuites, hplaced⟩ := placed_cipherSuites hspec
  have hgrease : wantsGREASE (utf8 "Chrome/1") false = true := by decide +kernel
  have horder : (parseJA3Order (utf8 "771,4866-4865,0")).cipherOrder = [4866, 4865] := by
    decide +kernel
  rw [hgrease] at hsuites
  rw [horder] at hplaced
  exact ⟨spec, components, suites, hspec, hcomponents, hsuites, hplaced⟩

end CycleTLS
