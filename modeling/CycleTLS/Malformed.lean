import CycleTLS.JA3

/-!
# JA3 strings that make no proper hello

`StringToSpec` indexes the fields of its string without a look at how many there are, and
makes a spec also for a version that `createTlsVersion` does not know, with bounds that
are zero. What it returns is `Sound` exactly for strings that are `Buildable`
(`sound_iff`).
-/

namespace CycleTLS

open Utf8 Raising

/-! ## Sound results -/

/-- An error, or a spec with proper versions and no nil extension. -/
structure Sound (r : Except SpecError ClientHelloSpec) : Prop where
  noPanic : r ≠ .error .panic
  extensions : ∀ spec, r = .ok spec → none ∉ spec.extensions
  versions : ∀ spec, r = .ok spec → spec.tlsVersMin ≠ 0 ∧ spec.tlsVersMax ≠ 0

namespace JA3Fields

variable (f : JA3Fields)

/-- No curve is refused. -/
def CurvesAccepted : Prop := ∀ c ∈ optionalItems f.curves, (readID c).isSome

/-- No other field is refused. -/
structure Accepted : Prop where
  version : (readID f.version).isSome
  ciphers : ∀ c ∈ split f.ciphers dash, (readID c).isSome
  extensions : ∀ e ∈ split f.extensions dash, KnownExtension e
  pointFormats : ∀ p ∈ optionalItems f.pointFormats, (readByte p).isSome

/-- The version is one of those that `createTlsVersion` knows. -/
def VersionSupported : Prop := ∃ ver, readID f.version = some ver ∧ SupportedVersion ver

end JA3Fields

/-- The string has five fields, and if none is refused, its version is known. The curves
    of exactly five fields are filtered by `convertJA3ForTLS13`, and not refused then. -/
def Buildable (ja3 : Bytes) : Prop := ∃ f : JA3Fields, ∃ rest,
  split ja3 comma = f.version :: f.ciphers :: f.extensions :: f.curves :: f.pointFormats :: rest ∧
    (f.Accepted → rest = [] ∨ f.CurvesAccepted → f.VersionSupported)

/-! ## Panics -/

/-- No panic. -/
def Calm {α : Type} (x : Except SpecError α) : Prop := x ≠ .error .panic

theorem Calm.bind {α β : Type} {x : Except SpecError α} {f : α → Except SpecError β} (hx : Calm x)
    (hf : ∀ a, Calm (f a)) : Calm (x >>= f) := by
  cases x with
  | error e => exact fun h => hx (congrArg _ (Except.error.inj h))
  | ok a => exact hf a

theorem Calm.mapM {α β : Type} {f : α → Except SpecError β} (hf : ∀ a, Calm (f a)) (l : List α) :
    Calm (l.mapM f) := by
  intro h
  obtain ⟨a, -, ha⟩ := exists_of_mapM_eq_error h
  exact hf a ha

theorem calm_map_parseUint {α : Type} (g : Nat → α) (base bitSize : Nat) (s : Bytes) :
    Calm (g <$> parseUint base bitSize s) := by
  rw [parseUint]
  cases uintValue base bitSize s with
  | some n => exact fun h => by cases h
  | none => exact fun h => by cases Except.error.inj h

theorem calm_ja3Extension (family : Family) (extMap : ExtMap) (e : Bytes) :
    Calm (ja3Extension family extMap e) := by
  rw [ja3Extension]
  cases extMap e with
  | some te => exact fun h => by cases h
  | none => exact fun h => by cases Except.error.inj h

theorem calm_specOfFields (family : Family) (forceHTTP1 : Bool) (f : JA3Fields) :
    Calm (specOfFields family forceHTTP1 f) := by
  rw [specOfFields]
  refine .bind (.bind (.mapM (calm_map_parseUint _ _ _) _) fun ids h => by cases h) fun curves => ?_
  refine .bind (.mapM (calm_map_parseUint _ _ _) _) fun points => ?_
  refine .bind (calm_map_parseUint _ _ _ _) fun ver => ?_
  refine .bind (.mapM (calm_ja3Extension _ _) _) fun exts => ?_
  exact .bind (.mapM (calm_map_parseUint _ _ _) _) fun suites h => by cases h

/-! ## Fields -/

/-- A string has enough fields, or its indices are out of range. -/
theorem ja3Fields_cases (ja3 : Bytes) : (∃ f : JA3Fields, ∃ rest, ja3Fields ja3 = .ok f ∧
    split ja3 comma =
      f.version :: f.ciphers :: f.extensions :: f.curves :: f.pointFormats :: rest) ∨
    (ja3Fields ja3 = .error .panic ∧ (split ja3 comma).length < 5) := by
  rw [ja3Fields]
  rcases split ja3 comma with
    _ | ⟨version, _ | ⟨ciphers, _ | ⟨extensions, _ | ⟨curves, _ | ⟨pointFormats, rest⟩⟩⟩⟩⟩
  · exact .inr ⟨rfl, by simp⟩
  · exact .inr ⟨rfl, by simp⟩
  · exact .inr ⟨rfl, by simp⟩
  · exact .inr ⟨rfl, by simp⟩
  · exact .inr ⟨rfl, by simp⟩
  · exact .inl ⟨⟨version, ciphers, extensions, curves, pointFormats⟩, rest, rfl, rfl⟩

theorem JA3Fields.accepted_iff {f : JA3Fields} : (∃ j, f.Reads j ∧
    ∀ e ∈ split f.extensions dash, KnownExtension e) ↔ f.Accepted ∧ f.CurvesAccepted := by
  constructor
  · rintro ⟨j, ⟨hversion, hciphers, -, hcurves, hpointFormats⟩, hknown⟩
    exact ⟨⟨Option.isSome_iff_exists.2 ⟨_, hversion⟩, exists_mapM_eq_some_iff.1 ⟨_, hciphers⟩,
      hknown, exists_mapM_eq_some_iff.1 ⟨_, hpointFormats⟩⟩, exists_mapM_eq_some_iff.1 ⟨_, hcurves⟩⟩
  · rintro ⟨⟨hversion, hciphers, hknown, hpointFormats⟩, hcurves⟩
    obtain ⟨version, hversion⟩ := Option.isSome_iff_exists.1 hversion
    obtain ⟨ciphers, hciphers⟩ := exists_mapM_eq_some_iff.2 hciphers
    obtain ⟨extensions, hextensions⟩ :=
      exists_mapM_eq_some_iff.2 fun e he => (hknown e he).isSome_readID
    obtain ⟨curves, hcurves⟩ := exists_mapM_eq_some_iff.2 hcurves
    obtain ⟨pointFormats, hpointFormats⟩ := exists_mapM_eq_some_iff.2 hpointFormats
    exact ⟨⟨version, ciphers, extensions, curves, pointFormats⟩,
      ⟨hversion, hciphers, hextensions, hcurves, hpointFormats⟩, hknown⟩

/-- What is made of the fields is sound if the version of those that are accepted is. -/
theorem sound_specOfFields_iff {family : Family} {forceHTTP1 : Bool} {f : JA3Fields} :
    Sound (specOfFields family forceHTTP1 f) ↔
      (f.Accepted → f.CurvesAccepted → f.VersionSupported) := by
  constructor
  · intro hsound haccepted hcurves
    obtain ⟨j, hreads, hknown⟩ := JA3Fields.accepted_iff.2 ⟨haccepted, hcurves⟩
    refine ⟨j.version, hreads.version, ?_⟩
    have hspec : specOfFields family forceHTTP1 f =
        .ok (j.spec family forceHTTP1 (split f.extensions dash)) :=
      specOfFields_eq_ok_iff.2 ⟨j, hreads, hknown, rfl⟩
    by_contra hversion
    refine (hsound.versions _ hspec).1 ?_
    rw [JA3.spec, createTlsVersion_of_not_supported hversion]
  · intro h
    have hsupported {spec : ClientHelloSpec} (hspec : specOfFields family forceHTTP1 f = .ok spec) :
        ∃ j : JA3, SupportedVersion j.version ∧ (∀ e ∈ split f.extensions dash, KnownExtension e) ∧
          spec = j.spec family forceHTTP1 (split f.extensions dash) := by
      obtain ⟨j, hreads, hknown, rfl⟩ := specOfFields_eq_ok_iff.1 hspec
      obtain ⟨haccepted, hcurves⟩ := JA3Fields.accepted_iff.1 ⟨j, hreads, hknown⟩
      obtain ⟨ver, hver, hsupported⟩ := h haccepted hcurves
      cases Option.some.inj (hver.symm.trans hreads.version)
      exact ⟨j, hsupported, hknown, rfl⟩
    refine ⟨calm_specOfFields _ _ _, fun spec hspec hnil => ?_, fun spec hspec => ?_⟩
    · obtain ⟨j, hversion, hknown, rfl⟩ := hsupported hspec
      rcases JA3.mem_extensions_iff.1 hnil with ⟨hgrease, -⟩ | ⟨e, he, hget⟩
      · cases hgrease
      · obtain ⟨ext, hext, -⟩ := JA3.exists_extMap hversion (hknown e he)
        rw [hext] at hget
        cases hget
    · obtain ⟨j, hversion, -, rfl⟩ := hsupported hspec
      obtain ⟨max, min, hmax, hmin, -, -, htls⟩ := createTlsVersion_of_supported hversion false
      rw [JA3.spec, htls]
      exact ⟨hmin, hmax⟩

/-! ## The conversion -/

/-- The fields as they are converted. -/
def JA3Fields.convert (f : JA3Fields) : JA3Fields :=
  { f with
    version := if f.version = utf8 "771" then utf8 "772" else f.version
    curves := compatibleCurves f.curves }

theorem JA3Fields.version_convert (f : JA3Fields) : f.convert.version =
    if f.version = utf8 "771" then utf8 "772" else f.version := rfl

theorem comma_not_mem_compatibleCurves {curves : Bytes} (h : comma ∉ curves) :
    comma ∉ compatibleCurves curves := by
  rw [compatibleCurves]
  split_ifs
  · intro hmem
    rcases Radix.eq_or_mem_of_mem_intercalate hmem with heq | ⟨piece, hpiece, hmem⟩
    · cases heq
    · exact h (Radix.mem_of_mem_splitOn (List.mem_filter.1 hpiece).1 hmem)
  · decide +kernel

theorem split_convertJA3ForTLS13 {ja3 : Bytes} {f : JA3Fields}
    (h : split ja3 comma = [f.version, f.ciphers, f.extensions, f.curves, f.pointFormats]) :
    split (convertJA3ForTLS13 ja3) comma = [f.convert.version, f.convert.ciphers,
      f.convert.extensions, f.convert.curves, f.convert.pointFormats] := by
  have hpieces : ∀ p ∈ split ja3 comma, comma ∉ p := fun p => Radix.not_mem_of_mem_splitOn
  rw [h] at hpieces
  simp only [List.forall_mem_cons] at hpieces
  obtain ⟨hversion, hciphers, hextensions, hcurves, hpointFormats, -⟩ := hpieces
  have hconvert : comma ∉ f.convert.version := by
    rw [JA3Fields.version_convert]
    split_ifs
    · decide +kernel
    · exact hversion
  rw [convertJA3ForTLS13, h]
  refine List.splitOn_intercalate _ ?_ (List.cons_ne_nil _ _)
  simp only [List.forall_mem_cons]
  exact ⟨hconvert, hciphers, hextensions, comma_not_mem_compatibleCurves hcurves, hpointFormats,
    fun _ h => absurd h List.not_mem_nil⟩

/-- What is left of the curves is not refused. -/
theorem JA3Fields.curvesAccepted_convert (f : JA3Fields) : f.convert.CurvesAccepted := by
  change ∀ c ∈ optionalItems (compatibleCurves f.curves), (readID c).isSome
  rw [compatibleCurves]
  split_ifs with hne
  · intro c hc
    have hsplit : split ([dash].intercalate ((split f.curves dash).filter _)) dash = _ :=
      List.splitOn_intercalate dash
        (fun p hp => Radix.not_mem_of_mem_splitOn (List.mem_filter.1 hp).1) hne
    rw [optionalItems, hsplit] at hc
    split_ifs at hc
    · exact absurd hc List.not_mem_nil
    · obtain ⟨cid, hcid, -⟩ := (Option.any_eq_true _ _).1 (List.mem_filter.1 hc).2
      rw [readID, hcid]
      rfl
  · decide +kernel

theorem JA3Fields.accepted_convert_iff {f : JA3Fields} : f.convert.Accepted ↔ f.Accepted := by
  have hversion : (readID f.convert.version).isSome ↔ (readID f.version).isSome := by
    rw [version_convert]
    split_ifs with h
    · rw [h]
      exact iff_of_true (by decide +kernel) (by decide +kernel)
    · exact .rfl
  exact ⟨fun h => ⟨hversion.1 h.version, h.ciphers, h.extensions, h.pointFormats⟩,
    fun h => ⟨hversion.2 h.version, h.ciphers, h.extensions, h.pointFormats⟩⟩

theorem JA3Fields.versionSupported_convert_iff {f : JA3Fields} :
    f.convert.VersionSupported ↔ f.VersionSupported := by
  rw [VersionSupported, VersionSupported, version_convert]
  split_ifs with h
  · rw [h]
    exact iff_of_true ⟨772, by decide +kernel, by decide⟩ ⟨771, by decide +kernel, by decide⟩
  · exact .rfl

/-- `StringToSpec` and `StringToTLS13CompatibleSpec` make sound specs of the strings that
    are buildable. -/
theorem sound_iff (ja3 userAgent : Bytes) (forceHTTP1 : Bool) :
    Sound (stringToSpec ja3 userAgent forceHTTP1) ∧
      Sound (stringToTLS13CompatibleSpec ja3 userAgent forceHTTP1) ↔ Buildable ja3 := by
  rcases ja3Fields_cases ja3 with ⟨f, rest, hf, hsplit⟩ | ⟨hpanic, hlength⟩
  · have hbuildable : Buildable ja3 ↔
        (f.Accepted → rest = [] ∨ f.CurvesAccepted → f.VersionSupported) := by
      refine ⟨?_, fun h => ⟨f, rest, hsplit, h⟩⟩
      rintro ⟨f', rest', hsplit', h⟩
      rw [hsplit] at hsplit'
      obtain ⟨hversion, hciphers, hextensions, hcurves, hpointFormats, rfl⟩ :
          f.version = f'.version ∧ f.ciphers = f'.ciphers ∧ f.extensions = f'.extensions ∧
            f.curves = f'.curves ∧ f.pointFormats = f'.pointFormats ∧ rest = rest' := by
        simpa using hsplit'
      have heq : f = f' := by
        cases f
        cases f'
        simp_all
      rwa [heq]
    have hspec : stringToSpec ja3 userAgent forceHTTP1 =
        specOfFields (parseUserAgent userAgent) forceHTTP1 f := by
      rw [stringToSpec, hf]
      rfl
    rw [hbuildable, hspec, sound_specOfFields_iff, stringToTLS13CompatibleSpec]
    cases rest with
    | nil =>
      have hconvert : ja3Fields (convertJA3ForTLS13 ja3) = .ok f.convert := by
        rw [ja3Fields, split_convertJA3ForTLS13 hsplit]
        rfl
      have hspec' : stringToSpec (convertJA3ForTLS13 ja3) userAgent forceHTTP1 =
          specOfFields (parseUserAgent userAgent) forceHTTP1 f.convert := by
        rw [stringToSpec, hconvert]
        rfl
      rw [hspec', sound_specOfFields_iff, JA3Fields.accepted_convert_iff,
        JA3Fields.versionSupported_convert_iff]
      -- the curves that are left are accepted
      exact ⟨fun h haccepted _ => h.2 haccepted f.curvesAccepted_convert,
        fun h => ⟨fun haccepted hcurves => h haccepted (.inr hcurves),
          fun haccepted _ => h haccepted (.inl rfl)⟩⟩
    | cons field rest =>
      have hconvert : convertJA3ForTLS13 ja3 = ja3 := by
        rw [convertJA3ForTLS13, hsplit]
      rw [hconvert, hspec, sound_specOfFields_iff]
      exact ⟨fun h haccepted hcurves => h.1 haccepted (hcurves.resolve_left (List.cons_ne_nil _ _)),
        fun h => ⟨fun haccepted hcurves => h haccepted (.inr hcurves),
          fun haccepted hcurves => h haccepted (.inr hcurves)⟩⟩
  · have hpanic' : ¬Sound (stringToSpec ja3 userAgent forceHTTP1) := fun h =>
      h.noPanic (by rw [stringToSpec, hpanic]; rfl)
    refine iff_of_false (fun h => hpanic' h.1) ?_
    rintro ⟨f, rest, hsplit, -⟩
    rw [hsplit] at hlength
    simp only [List.length_cons] at hlength
    omega

/-- A JA3 string without the last field. -/
def cutJA3 : Bytes := utf8 "771,4865,0,29"

theorem not_forall_sound : ¬∀ (ja3 userAgent : Bytes) (forceHTTP1 : Bool),
    Sound (stringToSpec ja3 userAgent forceHTTP1) ∧
      Sound (stringToTLS13CompatibleSpec ja3 userAgent forceHTTP1) := by
  intro h
  have hpanic : ja3Fields cutJA3 = .error .panic := by
    rcases ja3Fields_cases cutJA3 with ⟨f, rest, -, hsplit⟩ | ⟨hpanic, -⟩
    · have hlength : (split cutJA3 comma).length = 4 := by decide +kernel
      rw [hsplit] at hlength
      simp only [List.length_cons] at hlength
      omega
    · exact hpanic
  refine (h cutJA3 [] false).1.noPanic ?_
  rw [stringToSpec, hpanic]
  rfl

end CycleTLS
