import CycleTLS.Malformed

/-!
# The conversion of JA3 strings for TLS 1.3 (`utils.go`)

`convertJA3ForTLS13` changes the version and the curves of a string with five fields. The curves
that it leaves are those that `StringToSpec` leaves for TLS 1.3, so that this skips none, and a
string that is converted again stays as it is (`converted`).
-/

namespace CycleTLS

open Utf8 Raising

/-- The fields, in order. -/
def JA3Fields.fields (f : JA3Fields) : List Bytes :=
  [f.version, f.ciphers, f.extensions, f.curves, f.pointFormats]

/-- An item that is the number of a curve of TLS 1.3. -/
def IsCompatible (item : Bytes) : Prop :=
  (uintValue 10 16 item).any (fun cid => isTLS13CompatibleCurve (UInt16.ofNat cid)) = true

instance (item : Bytes) : Decidable (IsCompatible item) := inferInstanceAs (Decidable (_ = _))

/-- What becomes of the fields. -/
structure JA3Fields.Converted (f f' : JA3Fields) : Prop where
  version : f'.version = if f.version = utf8 "771" then utf8 "772" else f.version
  ciphers : f'.ciphers = f.ciphers
  extensions : f'.extensions = f.extensions
  pointFormats : f'.pointFormats = f.pointFormats
  curves_ne_nil : f'.curves ≠ []
  /-- The items of TLS 1.3 that there are. -/
  compatible : (∃ item ∈ split f.curves dash, IsCompatible item) →
    split f'.curves dash = (split f.curves dash).filter IsCompatible
  fallback : (∀ item ∈ split f.curves dash, ¬IsCompatible item) → f'.curves = utf8 "29-23"
  /-- With TLS 1.3, all curves are in the supported groups. -/
  kept : parseUint16 f'.version = versionTLS13 → ∃ ids,
    (optionalItems f'.curves).mapM parseID = .ok ids ∧ ∀ family,
      targetCurves family f'.version (optionalItems f'.curves) =
        .ok (family.grease greasePlaceholder ++ ids)

/-! ## Curves -/

section

variable {curves : Bytes}

theorem filter_isCompatible_ne_nil_iff :
    (split curves dash).filter IsCompatible ≠ [] ↔
      ∃ item ∈ split curves dash, IsCompatible item := by
  rw [Ne, List.filter_eq_nil_iff]
  simp

theorem compatibleCurves_of_exists (h : ∃ item ∈ split curves dash, IsCompatible item) :
    compatibleCurves curves = [dash].intercalate ((split curves dash).filter IsCompatible) := by
  have hfilter : ((split curves dash).filter fun c => (uintValue 10 16 c).any fun cid =>
      isTLS13CompatibleCurve (UInt16.ofNat cid)) = (split curves dash).filter IsCompatible :=
    List.filter_congr fun _ _ => (Bool.decide_eq_true).symm
  rw [compatibleCurves, hfilter, if_pos (filter_isCompatible_ne_nil_iff.2 h)]

theorem compatibleCurves_of_forall (h : ∀ item ∈ split curves dash, ¬IsCompatible item) :
    compatibleCurves curves = utf8 "29-23" := by
  refine if_neg (not_not.2 (List.filter_eq_nil_iff.2 fun item hitem hcompatible => ?_))
  exact h item hitem hcompatible

theorem split_compatibleCurves (h : ∃ item ∈ split curves dash, IsCompatible item) :
    split (compatibleCurves curves) dash = (split curves dash).filter IsCompatible := by
  rw [compatibleCurves_of_exists h]
  exact List.splitOn_intercalate dash
    (fun p hp => Radix.not_mem_of_mem_splitOn (List.mem_filter.1 hp).1)
    (filter_isCompatible_ne_nil_iff.2 h)

/-- All items that are left are curves of TLS 1.3. -/
theorem isCompatible_of_mem (curves : Bytes) :
    ∀ item ∈ split (compatibleCurves curves) dash, IsCompatible item := by
  by_cases h : ∃ item ∈ split curves dash, IsCompatible item
  · rw [split_compatibleCurves h]
    exact fun item hitem => of_decide_eq_true (List.mem_filter.1 hitem).2
  · rw [compatibleCurves_of_forall fun item hitem hcompatible => h ⟨item, hitem, hcompatible⟩]
    decide +kernel

theorem compatibleCurves_idem (curves : Bytes) :
    compatibleCurves (compatibleCurves curves) = compatibleCurves curves := by
  by_cases h : ∃ item ∈ split curves dash, IsCompatible item
  · have hsplit := split_compatibleCurves h
    have hall := isCompatible_of_mem curves
    obtain ⟨item, hitem, hcompatible⟩ := h
    have hagain : ∃ item ∈ split (compatibleCurves curves) dash, IsCompatible item := by
      rw [hsplit]
      exact ⟨item, List.mem_filter.2 ⟨hitem, decide_eq_true hcompatible⟩, hcompatible⟩
    rw [compatibleCurves_of_exists hagain,
      List.filter_eq_self.2 fun item hitem => decide_eq_true (hall item hitem), hsplit,
      compatibleCurves_of_exists ⟨item, hitem, hcompatible⟩]
  · rw [compatibleCurves_of_forall fun item hitem hcompatible => h ⟨item, hitem, hcompatible⟩]
    decide +kernel

theorem compatibleCurves_ne_nil (curves : Bytes) : compatibleCurves curves ≠ [] := by
  intro h
  have hempty := isCompatible_of_mem curves [] (by rw [h]; exact List.mem_singleton_self _)
  exact absurd hempty (by decide)

theorem optionalItems_compatibleCurves (curves : Bytes) :
    optionalItems (compatibleCurves curves) = split (compatibleCurves curves) dash := by
  refine if_neg fun h => ?_
  have hempty := isCompatible_of_mem curves [] (by rw [h]; exact List.mem_singleton_self _)
  exact absurd hempty (by decide)

end

theorem parseID_of_isCompatible {item : Bytes} (h : IsCompatible item) :
    ∃ id, parseID item = .ok id ∧ isTLS13CompatibleCurve id = true := by
  obtain ⟨cid, hcid, hcompatible⟩ := (Option.any_eq_true _ _).1 h
  refine ⟨UInt16.ofNat cid, ?_, hcompatible⟩
  exact map_parseUint_eq_ok_iff.2 (by rw [hcid]; rfl)

theorem mapM_parseID_of_isCompatible {items : List Bytes} (h : ∀ item ∈ items, IsCompatible item) :
    ∃ ids, items.mapM parseID = .ok ids ∧ ∀ id ∈ ids, isTLS13CompatibleCurve id = true := by
  induction items with
  | nil => exact ⟨[], rfl, fun _ hid => absurd hid List.not_mem_nil⟩
  | cons item items ih =>
    obtain ⟨hitem, hitems⟩ := List.forall_mem_cons.1 h
    obtain ⟨id, hid, hcompatible⟩ := parseID_of_isCompatible hitem
    obtain ⟨ids, hids, hall⟩ := ih hitems
    refine ⟨id :: ids, ?_, List.forall_mem_cons.2 ⟨hcompatible, hall⟩⟩
    rw [List.mapM_cons, hid, ok_bind, hids, ok_bind]
    rfl

/-! ## Strings -/

theorem JA3Fields.convert_convert (f : JA3Fields) : f.convert.convert = f.convert := by
  have hversion : (if (if f.version = utf8 "771" then utf8 "772" else f.version) = utf8 "771"
      then utf8 "772" else if f.version = utf8 "771" then utf8 "772" else f.version) =
        if f.version = utf8 "771" then utf8 "772" else f.version := by
    split_ifs <;> rfl
  rw [convert, convert]
  dsimp only
  rw [hversion, compatibleCurves_idem]

theorem JA3Fields.converted_convert (f : JA3Fields) : f.Converted f.convert where
  version := f.version_convert
  ciphers := rfl
  extensions := rfl
  pointFormats := rfl
  curves_ne_nil := compatibleCurves_ne_nil f.curves
  compatible := split_compatibleCurves
  fallback := compatibleCurves_of_forall
  kept hversion := by
    have hitems : optionalItems f.convert.curves = split (compatibleCurves f.curves) dash :=
      optionalItems_compatibleCurves f.curves
    obtain ⟨ids, hids, hall⟩ := mapM_parseID_of_isCompatible (isCompatible_of_mem f.curves)
    rw [hitems]
    refine ⟨ids, hids, fun family => ?_⟩
    have hne : ids ≠ [] := by
      rintro rfl
      have hlength := length_of_mapM hids
      exact absurd (List.length_eq_zero_iff.1 hlength.symm) (List.splitOn_ne_nil _ _)
    rw [targetCurves, hids, ok_bind]
    simp only [hversion, if_true, List.filter_eq_self.2 hall, true_and]
    rw [if_neg fun h => hne (List.append_eq_nil_iff.1 h).2]
    rfl

/-- Of a string with five fields, the version and the curves are converted, once and for all. -/
theorem converted {ja3 : Bytes} {f : JA3Fields} (h : split ja3 comma = f.fields) :
    ∃ f' : JA3Fields, split (convertJA3ForTLS13 ja3) comma = f'.fields ∧ f.Converted f' ∧
      convertJA3ForTLS13 (convertJA3ForTLS13 ja3) = convertJA3ForTLS13 ja3 := by
  have hsplit : split (convertJA3ForTLS13 ja3) comma = f.convert.fields :=
    split_convertJA3ForTLS13 h
  have hconvert {ja3 : Bytes} {f : JA3Fields} (h : split ja3 comma = f.fields) :
      convertJA3ForTLS13 ja3 = [comma].intercalate f.convert.fields := by
    rw [convertJA3ForTLS13, h]
    rfl
  refine ⟨f.convert, hsplit, f.converted_convert, ?_⟩
  rw [hconvert hsplit, f.convert_convert, hconvert h]

/-- Curves of TLS 1.3 among an empty item, a number that is none of them, and no number. -/
theorem converted_mixed : ∃ f' : JA3Fields,
    split (convertJA3ForTLS13 (utf8 "771,1,2,9-029--x-24,0")) comma = f'.fields ∧
      (⟨utf8 "771", utf8 "1", utf8 "2", utf8 "9-029--x-24", utf8 "0"⟩ : JA3Fields).Converted
        f' := by
  obtain ⟨f', hsplit, hconverted, -⟩ := @converted (utf8 "771,1,2,9-029--x-24,0")
    ⟨utf8 "771", utf8 "1", utf8 "2", utf8 "9-029--x-24", utf8 "0"⟩ (by decide +kernel)
  exact ⟨f', hsplit, hconverted⟩

end CycleTLS
