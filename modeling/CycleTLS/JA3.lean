import CycleTLS.Hello
import CycleTLS.Lib.Raising

/-!
# Hellos of JA3 strings (`utils.go`)

`StringToSpec` makes the hello of a JA3 string: its extensions are taken from a map of
templates, in which those that depend on the other lists are replaced.
-/

namespace CycleTLS

open Utf8 Raising

/-! ## The source -/

def comma : UInt8 := 0x2c
def dash : UInt8 := 0x2d

/-- The fields of a JA3 string. -/
structure JA3Fields where
  version : Bytes
  ciphers : Bytes
  extensions : Bytes
  curves : Bytes
  pointFormats : Bytes

/-- The fields of a JA3 string, by their indices. -/
def ja3Fields (ja3 : Bytes) : Except SpecError JA3Fields := do
  let tokens := split ja3 comma
  return {
    version := ← index tokens 0
    ciphers := ← index tokens 1
    extensions := ← index tokens 2
    curves := ← index tokens 3
    pointFormats := ← index tokens 4 }

/-- The items of a field that may be empty. -/
def optionalItems (field : Bytes) : List Bytes :=
  let items := split field dash
  if items = [[]] then [] else items

/-- `isTLS13CompatibleCurve`. -/
def isTLS13CompatibleCurve (curveID : UInt16) : Bool :=
  curveID ∈ ([23, 24, 25, 29, 30, 256, 257, 258, 259, 260, 4587, 4588, 4589] : List UInt16)

/-- The number of an item as a `uint16`. -/
def parseID (s : Bytes) : Except SpecError UInt16 := UInt16.ofNat <$> parseUint 10 16 s

/-- The number of an item as a `byte`. -/
def parseByte (s : Bytes) : Except SpecError UInt8 := UInt8.ofNat <$> parseUint 10 8 s

/-- What Chrome has before a list. -/
def Family.grease {α : Type} (family : Family) (a : α) : List α :=
  match family with
  | .chrome => [a]
  | .firefox => []

/-- The curves of the supported groups. -/
def targetCurves (family : Family) (version : Bytes) (curves : List Bytes) :
    Except SpecError (List UInt16) := do
  let ids ← curves.mapM parseID
  -- an error of the version is found later
  let tls13 := parseUint16 version = versionTLS13
  let target := family.grease greasePlaceholder ++
    if tls13 then ids.filter isTLS13CompatibleCurve else ids
  return if tls13 ∧ target = [] then family.grease greasePlaceholder ++ [x25519, curveP256]
    else target

/-- Puts a GREASE value before the supported versions. -/
def greaseVersions : Extension → Extension
  | .supportedVersions versions => .supportedVersions (greasePlaceholder :: versions)
  | ext => ext

/-- Puts a GREASE share before the others, unless there is one. -/
def greaseShares : Extension → Extension
  | .keyShare shares => .keyShare
      (if (shares.head?.map KeyShare.group) = some greasePlaceholder then shares
        else ⟨greasePlaceholder, [0]⟩ :: shares)
  | ext => ext

/-- Puts a share of P-256 after the others. -/
def appendP256 : Extension → Extension
  | .keyShare shares => .keyShare (shares ++ [⟨curveP256, []⟩])
  | ext => ext

/-- Puts a hybrid share after those of GREASE. -/
def insertHybrid : Extension → Extension
  | .keyShare shares => .keyShare (shares.takeWhile (·.group = greasePlaceholder) ++
      ⟨x25519MLKEM768, []⟩ :: shares.dropWhile (·.group = greasePlaceholder))
  | ext => ext

/-- The templates for a family. -/
def familyExtMap (family : Family) (extMap : ExtMap) : ExtMap :=
  match family with
  | .chrome => (extMap.modify "43" greaseVersions).modify "51" greaseShares
  | .firefox => extMap.modify "51" appendP256

/-- The extensions for a hello. -/
def ja3ExtMap (family : Family) (targetCurves : List UInt16) (targetPointFormats : List UInt8)
    (forceHTTP1 : Bool) (tlsExtension : Option Extension) : ExtMap :=
  let extMap := familyExtMap family (genMap false)
  let extMap := extMap.set "10" (some (.supportedCurves targetCurves))
  let extMap := if x25519MLKEM768 ∈ targetCurves then extMap.modify "51" insertHybrid else extMap
  let extMap := extMap.set "11" (some (.supportedPoints targetPointFormats))
  let extMap := if forceHTTP1 then extMap.set "16" (some (.alpn [utf8 "http/1.1"])) else extMap
  extMap.set "43" tlsExtension

/-- What an item of the extensions adds. -/
def ja3Extension (family : Family) (extMap : ExtMap) (e : Bytes) :
    Except SpecError (List (Option Extension)) :=
  match extMap e with
  | some te => .ok ((if e = utf8 "21" then family.grease (some .grease) else []) ++ [te])
  | none => .error (.extensionNotExist e)

/-- What `StringToSpec` makes of the fields. -/
def specOfFields (family : Family) (forceHTTP1 : Bool) (f : JA3Fields) :
    Except SpecError ClientHelloSpec := do
  let targetCurves ← targetCurves family f.version (optionalItems f.curves)
  let targetPointFormats ← (optionalItems f.pointFormats).mapM parseByte
  let ver ← parseID f.version
  -- the error is not looked at
  let tls := createTlsVersion ver false
  let extMap := ja3ExtMap family targetCurves targetPointFormats forceHTTP1 tls.tlsSuppor
  let exts ← (split f.extensions dash).mapM (ja3Extension family extMap)
  let suites ← (split f.ciphers dash).mapM parseID
  return {
    tlsVersMin := tls.tlsMinVersion
    tlsVersMax := tls.tlsMaxVersion
    cipherSuites := family.grease greasePlaceholder ++ suites
    compressionMethods := [0]
    extensions := family.grease (some .grease) ++ exts.flatten }

/-- `StringToSpec`. -/
def stringToSpec (ja3 userAgent : Bytes) (forceHTTP1 : Bool) :
    Except SpecError ClientHelloSpec := do
  specOfFields (parseUserAgent userAgent) forceHTTP1 (← ja3Fields ja3)

/-- The curves of a field that TLS 1.3 knows, or two that it does. -/
def compatibleCurves (curves : Bytes) : Bytes :=
  let compatible := (split curves dash).filter fun c =>
    (uintValue 10 16 c).any fun cid => isTLS13CompatibleCurve (UInt16.ofNat cid)
  if compatible ≠ [] then [dash].intercalate compatible else utf8 "29-23"

/-- `convertJA3ForTLS13`. -/
def convertJA3ForTLS13 (ja3 : Bytes) : Bytes :=
  match split ja3 comma with
  | [version, ciphers, extensions, curves, pointFormats] =>
    [comma].intercalate [if version = utf8 "771" then utf8 "772" else version, ciphers, extensions,
      compatibleCurves curves, pointFormats]
  | _ => ja3

/-- `StringToTLS13CompatibleSpec`. -/
def stringToTLS13CompatibleSpec (ja3 userAgent : Bytes) (forceHTTP1 : Bool) :
    Except SpecError ClientHelloSpec :=
  stringToSpec (convertJA3ForTLS13 ja3) userAgent forceHTTP1

/-! ## What a JA3 string says -/

/-- The numbers of a JA3 string. -/
structure JA3 where
  version : UInt16
  ciphers : List UInt16
  extensions : List UInt16
  curves : List UInt16
  pointFormats : List UInt8
  deriving DecidableEq

/-- The number of an item. -/
def readID (s : Bytes) : Option UInt16 := (uintValue 10 16 s).map UInt16.ofNat

def readByte (s : Bytes) : Option UInt8 := (uintValue 10 8 s).map UInt8.ofNat

/-- The numbers in the fields. -/
def JA3Fields.read (f : JA3Fields) : Option JA3 := do
  return {
    version := ← readID f.version
    ciphers := ← (split f.ciphers dash).mapM readID
    extensions := ← (split f.extensions dash).mapM readID
    curves := ← (optionalItems f.curves).mapM readID
    pointFormats := ← (optionalItems f.pointFormats).mapM readByte }

/-- Reads a JA3 string; what follows five fields is left out. -/
def JA3.read (ja3 : Bytes) : Option JA3 := (ja3Fields ja3).toOption.bind JA3Fields.read

namespace JA3

variable (j : JA3)

/-- The curves that are offered: with TLS 1.3, those that it knows. -/
def offeredCurves : List UInt16 :=
  if j.version = versionTLS13 then j.curves.filter isTLS13CompatibleCurve else j.curves

/-- The curves of the supported groups. -/
def groups (family : Family) : List UInt16 :=
  let target := family.grease greasePlaceholder ++ j.offeredCurves
  if j.version = versionTLS13 ∧ target = [] then [x25519, curveP256] else target

/-- The extensions for the hello. -/
def extMap (family : Family) (forceHTTP1 : Bool) : ExtMap :=
  ja3ExtMap family (j.groups family) j.pointFormats forceHTTP1
    (createTlsVersion j.version false).tlsSuppor

/-- What an item of the extensions adds to the hello. -/
def added (family : Family) (forceHTTP1 : Bool) (e : Bytes) : List (Option Extension) :=
  (if e = utf8 "21" then family.grease (some .grease) else []) ++
    [(j.extMap family forceHTTP1 e).getD none]

/-- The hello, for the extensions as they are written. -/
def spec (family : Family) (forceHTTP1 : Bool) (items : List Bytes) : ClientHelloSpec where
  tlsVersMin := (createTlsVersion j.version false).tlsMinVersion
  tlsVersMax := (createTlsVersion j.version false).tlsMaxVersion
  cipherSuites := family.grease greasePlaceholder ++ j.ciphers
  compressionMethods := [0]
  extensions := family.grease (some .grease) ++ items.flatMap (j.added family forceHTTP1)

end JA3

/-- An extension that there is a template for. -/
def KnownExtension (e : Bytes) : Prop :=
  e ∈ ["10", "11", "43"].map utf8 ∨ (genMap false e).isSome

instance (e : Bytes) : Decidable (KnownExtension e) := inferInstanceAs (Decidable (_ ∨ _))

/-! ## Numbers -/

theorem map_parseUint_eq_ok_iff {α : Type} {g : Nat → α} {base bitSize : Nat} {s : Bytes} {v : α} :
    (g <$> parseUint base bitSize s) = .ok v ↔ (uintValue base bitSize s).map g = some v := by
  rw [parseUint]
  cases uintValue base bitSize s with
  | some n =>
    exact ⟨fun h => congrArg some (Except.ok.inj h), fun h => congrArg _ (Option.some.inj h)⟩
  | none => exact ⟨fun h => (nomatch h), fun h => (nomatch h)⟩

theorem mapM_parseID_eq_ok_iff {items : List Bytes} {ids : List UInt16} :
    items.mapM parseID = .ok ids ↔ items.mapM readID = some ids :=
  mapM_eq_ok_iff_of_forall fun _ _ => map_parseUint_eq_ok_iff

theorem mapM_parseByte_eq_ok_iff {items : List Bytes} {bytes : List UInt8} :
    items.mapM parseByte = .ok bytes ↔ items.mapM readByte = some bytes :=
  mapM_eq_ok_iff_of_forall fun _ _ => map_parseUint_eq_ok_iff

/-- The value that is read, also where the error is not looked at. -/
theorem parseUint16_of_readID {s : Bytes} {v : UInt16} (h : readID s = some v) :
    parseUint16 s = v := by
  have hgo (s : Bytes) (n m : Nat) (hread : Radix.readFrom 10 n s = some m) (hm : m < 2 ^ 16) :
      parseUint16.go n s = UInt16.ofNat m := by
    induction s generalizing n with
    | nil => exact congrArg _ (Option.some.inj hread)
    | cons c s ih =>
      obtain ⟨d, hd, hdigit⟩ := Radix.isDigit_of_readFrom hread c List.mem_cons_self
      rw [Radix.readFrom, hdigit] at hread
      change (if d < 10 then Radix.readFrom 10 (n * 10 + d) s else none) = some m at hread
      rw [if_pos hd] at hread
      obtain ⟨hc, rfl⟩ := Radix.digit_of_lt_ten hdigit hd
      have hle := Radix.le_of_readFrom (by decide) hread
      rw [parseUint16.go, if_pos hc]
      change (if 0xffff < n * 10 + (c.toNat - 0x30) then _ else _) = _
      rw [if_neg (by omega)]
      exact ih _ hread
  rw [readID, uintValue, Option.map_eq_some_iff] at h
  obtain ⟨m, hm, rfl⟩ := h
  obtain ⟨hread, hlt⟩ := Option.filter_eq_some_iff.1 hm
  rw [Radix.read] at hread
  split_ifs at hread
  exact hgo s 0 m hread (by simpa using hlt)

/-! ## The map of extensions -/

namespace ExtMap

variable {m : ExtMap} {key : String} {f : Extension → Extension}

theorem modify_of_some {ext : Extension} (h : m (utf8 key) = some (some ext)) :
    m.modify key f = m.set key (some (f ext)) := by
  rw [modify, h]

theorem modify_of_none (h : m (utf8 key) = none) : m.modify key f = m := by
  rw [modify, h]

end ExtMap

/-- The shares that only one family has. -/
def Family.shares : Family → List KeyShare
  | chrome => []
  | firefox => [⟨curveP256, []⟩]

/-- The key shares of a hello with these supported groups. -/
def keyShares (family : Family) (curves : List UInt16) : List KeyShare :=
  ⟨greasePlaceholder, [0]⟩ ::
    ((if x25519MLKEM768 ∈ curves then [⟨x25519MLKEM768, []⟩] else []) ++
      ⟨x25519, []⟩ :: family.shares)

theorem familyExtMap_genMap (family : Family) : familyExtMap family (genMap false) =
    (genMap false).set "51" (some (.keyShare (keyShares family []))) := by
  have h43 : genMap false (utf8 "43") = none := by
    rw [genMap_utf8]
    rfl
  have h51 : genMap false (utf8 "51") =
      some (some (.keyShare [⟨greasePlaceholder, [0]⟩, ⟨x25519, []⟩])) := by
    rw [genMap_utf8]
    rfl
  cases family with
  | chrome => rw [familyExtMap, ExtMap.modify_of_none h43, ExtMap.modify_of_some h51]; rfl
  | firefox => rw [familyExtMap, ExtMap.modify_of_some h51]; rfl

/-- The hybrid share is there from the start. -/
theorem insertHybrid_genMap (family : Family) (curves : List UInt16) (ext : Option Extension) :
    let extMap := ((genMap false).set "51" (some (.keyShare (keyShares family [])))).set "10" ext
    (if x25519MLKEM768 ∈ curves then extMap.modify "51" insertHybrid else extMap) =
      ((genMap false).set "51" (some (.keyShare (keyShares family curves)))).set "10" ext := by
  intro extMap
  have hne : utf8 "51" ≠ utf8 "10" := utf8_injective.ne (by decide)
  have h51 : extMap (utf8 "51") = some (some (.keyShare (keyShares family []))) := by
    change Function.update _ _ _ _ = _
    rw [Function.update_of_ne hne]
    exact Function.update_self _ _ _
  split_ifs with hcurves
  · have hinsert : insertHybrid (.keyShare (keyShares family [])) =
        .keyShare (keyShares family curves) := by
      rw [keyShares, keyShares, if_pos hcurves]
      rfl
    rw [ExtMap.modify_of_some h51, hinsert]
    change Function.update (Function.update (Function.update _ _ _) _ _) _ _ = _
    rw [Function.update_comm hne.symm, Function.update_idem]
    rfl
  · rw [keyShares, if_neg hcurves]
    rfl

theorem ja3ExtMap_apply (family : Family) (curves : List UInt16) (points : List UInt8)
    (forceHTTP1 : Bool) (tlsExtension : Option Extension) (key : Bytes) :
    ja3ExtMap family curves points forceHTTP1 tlsExtension key =
      if key = utf8 "43" then some tlsExtension
      else if forceHTTP1 ∧ key = utf8 "16" then some (some (.alpn [utf8 "http/1.1"]))
      else if key = utf8 "11" then some (some (.supportedPoints points))
      else if key = utf8 "10" then some (some (.supportedCurves curves))
      else if key = utf8 "51" then some (some (.keyShare (keyShares family curves)))
      else genMap false key := by
  rw [ja3ExtMap, familyExtMap_genMap, insertHybrid_genMap]
  cases forceHTTP1 <;> simp [ExtMap.set, Function.update_apply]

theorem isSome_ja3ExtMap_iff {family : Family} {curves : List UInt16} {points : List UInt8}
    {forceHTTP1 : Bool} {tlsExtension : Option Extension} {key : Bytes} :
    (ja3ExtMap family curves points forceHTTP1 tlsExtension key).isSome ↔ KnownExtension key := by
  rw [ja3ExtMap_apply, KnownExtension]
  simp only [List.map_cons, List.map_nil, List.mem_cons, List.not_mem_nil, or_false]
  split_ifs with h43 h16 h11 h10 h51
  · simp [h43]
  · have h : (genMap false (utf8 "16")).isSome := by
      rw [genMap_utf8]
      rfl
    simp [h16.2, h]
  · simp [h11]
  · simp [h10]
  · have h : (genMap false (utf8 "51")).isSome := by
      rw [genMap_utf8]
      rfl
    simp [h51, h]
  · simp [h43, h11, h10]

/-- A key is the id of its extension in decimal. -/
theorem readID_of_mem_extensionTable :
    ∀ e ∈ extensionTable false, readID (utf8 e.1) = some e.2.id := by
  simp only [utf8_eq_data]
  decide +kernel

/-- An extension writes the id it is listed by. -/
theorem readID_of_ja3ExtMap {family : Family} {curves : List UInt16} {points : List UInt8}
    {forceHTTP1 : Bool} {tlsExtension : Option Extension} {key : Bytes} {ext : Extension}
    (htls : ∀ ext, tlsExtension = some ext → ext.id = 43)
    (h : ja3ExtMap family curves points forceHTTP1 tlsExtension key = some (some ext)) :
    readID key = some ext.id := by
  rw [ja3ExtMap_apply] at h
  split_ifs at h with h43 h16 h11 h10 h51
  · rw [htls ext (Option.some.inj h), h43]
    rfl
  · cases h
    rw [h16.2]
    rfl
  · cases h
    rw [h11]
    rfl
  · cases h
    rw [h10]
    rfl
  · cases h
    rw [h51]
    rfl
  · obtain ⟨e, he, heq⟩ := Option.map_eq_some_iff.1 h
    have hkey : utf8 e.1 = key := by simpa using List.find?_some he
    cases heq
    rw [← hkey]
    exact readID_of_mem_extensionTable e (List.mem_of_find?_eq_some he)

/-! ## What is made of the fields -/

/-- The fields are read as these numbers. -/
structure JA3Fields.Reads (f : JA3Fields) (j : JA3) : Prop where
  version : readID f.version = some j.version
  ciphers : (split f.ciphers dash).mapM readID = some j.ciphers
  extensions : (split f.extensions dash).mapM readID = some j.extensions
  curves : (optionalItems f.curves).mapM readID = some j.curves
  pointFormats : (optionalItems f.pointFormats).mapM readByte = some j.pointFormats

theorem JA3Fields.read_eq_some_iff {f : JA3Fields} {j : JA3} : f.read = some j ↔ f.Reads j := by
  rw [JA3Fields.read]
  constructor
  · intro h
    obtain ⟨version, hversion, h⟩ := Option.bind_eq_some_iff.1 h
    obtain ⟨ciphers, hciphers, h⟩ := Option.bind_eq_some_iff.1 h
    obtain ⟨extensions, hextensions, h⟩ := Option.bind_eq_some_iff.1 h
    obtain ⟨curves, hcurves, h⟩ := Option.bind_eq_some_iff.1 h
    obtain ⟨pointFormats, hpointFormats, h⟩ := Option.bind_eq_some_iff.1 h
    cases h
    exact ⟨hversion, hciphers, hextensions, hcurves, hpointFormats⟩
  · rintro ⟨hversion, hciphers, hextensions, hcurves, hpointFormats⟩
    rw [hversion, hciphers, hextensions, hcurves, hpointFormats]
    rfl

theorem targetCurves_eq_ok_iff {family : Family} {version : Bytes} {items : List Bytes}
    {ver : UInt16} {curves : List UInt16} (hver : readID version = some ver) :
    targetCurves family version items = .ok curves ↔ ∃ ids, items.mapM readID = some ids ∧
      curves = (⟨ver, [], [], ids, []⟩ : JA3).groups family := by
  rw [targetCurves, parseUint16_of_readID hver, bind_eq_ok_iff]
  refine exists_congr fun ids => and_congr mapM_parseID_eq_ok_iff ?_
  rw [JA3.groups, JA3.offeredCurves]
  simp only []
  generalize (if ver = versionTLS13 then ids.filter isTLS13CompatibleCurve else ids) = offered
  have hok {curves' : List UInt16} : (pure curves' : Except SpecError _) = .ok curves ↔
      curves = curves' := ⟨fun h => (Except.ok.inj h).symm, fun h => congrArg _ h.symm⟩
  rw [hok]
  by_cases hempty : ver = versionTLS13 ∧ family.grease greasePlaceholder ++ offered = []
  · have hgrease : family.grease greasePlaceholder = [] := (List.append_eq_nil_iff.1 hempty.2).1
    rw [if_pos hempty, if_pos hempty, hgrease, List.nil_append]
  · rw [if_neg hempty, if_neg hempty]

theorem KnownExtension.isSome_readID {e : Bytes} (h : KnownExtension e) : (readID e).isSome := by
  rcases h with h | h
  · simp only [List.map_cons, List.map_nil, List.mem_cons, List.not_mem_nil, or_false] at h
    rcases h with rfl | rfl | rfl <;> rfl
  · rw [genMap, Option.isSome_map, List.find?_isSome] at h
    obtain ⟨k, hk, hkey⟩ := h
    rw [← of_decide_eq_true hkey, readID_of_mem_extensionTable k hk]
    rfl

/-- What the items of the extensions add, if there is a template for each. -/
theorem mapM_ja3Extension_eq_ok_iff {family : Family} {j : JA3} {forceHTTP1 : Bool}
    {items : List Bytes} {exts : List (List (Option Extension))} :
    items.mapM (ja3Extension family (j.extMap family forceHTTP1)) = .ok exts ↔
      (∀ e ∈ items, KnownExtension e) ∧ exts = items.map (j.added family forceHTTP1) := by
  refine mapM_eq_ok_iff_forall fun e te => ?_
  have hknown : (j.extMap family forceHTTP1 e).isSome ↔ KnownExtension e := isSome_ja3ExtMap_iff
  rw [← hknown, ja3Extension, JA3.added]
  cases j.extMap family forceHTTP1 e with
  | none => exact iff_of_false nofun fun h => nomatch h.1
  | some t => exact ⟨fun h => ⟨rfl, (Except.ok.inj h).symm⟩, fun h => congrArg _ h.2.symm⟩

theorem specOfFields_eq_ok_iff {family : Family} {forceHTTP1 : Bool} {f : JA3Fields}
    {spec : ClientHelloSpec} : specOfFields family forceHTTP1 f = .ok spec ↔
      ∃ j, f.Reads j ∧ (∀ e ∈ split f.extensions dash, KnownExtension e) ∧
        spec = j.spec family forceHTTP1 (split f.extensions dash) := by
  rw [specOfFields]
  constructor
  · intro h
    obtain ⟨curves, hcurves, h⟩ := bind_eq_ok_iff.1 h
    obtain ⟨points, hpoints, h⟩ := bind_eq_ok_iff.1 h
    obtain ⟨ver, hver, h⟩ := bind_eq_ok_iff.1 h
    have hver := map_parseUint_eq_ok_iff.1 hver
    obtain ⟨ids, hids, rfl⟩ := (targetCurves_eq_ok_iff hver).1 hcurves
    obtain ⟨exts, hexts, h⟩ := bind_eq_ok_iff.1 h
    obtain ⟨suites, hsuites, h⟩ := bind_eq_ok_iff.1 h
    cases h
    have hknown (extensions : List UInt16) := (mapM_ja3Extension_eq_ok_iff
      (j := ⟨ver, suites, extensions, ids, points⟩)).1 hexts
    obtain ⟨extensions, hextensions⟩ :=
      exists_mapM_eq_some_iff.2 fun e he => ((hknown []).1 e he).isSome_readID
    refine ⟨⟨ver, suites, extensions, ids, points⟩, ⟨hver, mapM_parseID_eq_ok_iff.1 hsuites,
      hextensions, hids, mapM_parseByte_eq_ok_iff.1 hpoints⟩, (hknown extensions).1, ?_⟩
    rw [(hknown extensions).2]
    rfl
  · rintro ⟨j, ⟨hversion, hciphers, hextensions, hcurves, hpointFormats⟩, hknown, rfl⟩
    have hexts : (split f.extensions dash).mapM
        (ja3Extension family (j.extMap family forceHTTP1)) = .ok _ :=
      mapM_ja3Extension_eq_ok_iff.2 ⟨hknown, rfl⟩
    refine bind_eq_ok_iff.2 ⟨_, (targetCurves_eq_ok_iff hversion).2 ⟨_, hcurves, rfl⟩, ?_⟩
    refine bind_eq_ok_iff.2 ⟨_, mapM_parseByte_eq_ok_iff.2 hpointFormats, ?_⟩
    refine bind_eq_ok_iff.2 ⟨_, map_parseUint_eq_ok_iff.2 hversion, ?_⟩
    refine bind_eq_ok_iff.2 ⟨_, hexts, ?_⟩
    exact bind_eq_ok_iff.2 ⟨_, mapM_parseID_eq_ok_iff.2 hciphers, rfl⟩

/-! ## The extensions of a hello -/

/-- An extension that depends on no list, and has no GREASE id. -/
def Extension.Fixed (ext : Extension) : Prop :=
  ext.id ∉ ([10, 11, 43, 51] : List UInt16) ∧ ¬IsGREASE ext.id

instance (ext : Extension) : Decidable ext.Fixed := inferInstanceAs (Decidable (_ ∧ _))

/-- Which extension an item stands for. -/
theorem JA3.extMap_cases {j : JA3} {family : Family} {forceHTTP1 : Bool} {e : Bytes}
    {ext : Extension} (h : j.extMap family forceHTTP1 e = some (some ext)) :
    (e = utf8 "43" ∧ (createTlsVersion j.version false).tlsSuppor = some ext) ∨
      (e = utf8 "11" ∧ ext = .supportedPoints j.pointFormats) ∨
      (e = utf8 "10" ∧ ext = .supportedCurves (j.groups family)) ∨
      (e = utf8 "51" ∧ ext = .keyShare (keyShares family (j.groups family))) ∨ ext.Fixed := by
  have htable : ∀ k ∈ extensionTable false, k.1 = "51" ∨ k.2.Fixed := by decide
  rw [extMap, ja3ExtMap_apply] at h
  split_ifs at h with h43 h16 h11 h10 h51
  · exact .inl ⟨h43, Option.some.inj h⟩
  · cases h
    exact .inr (.inr (.inr (.inr (by decide))))
  · cases h
    exact .inr (.inl ⟨h11, rfl⟩)
  · cases h
    exact .inr (.inr (.inl ⟨h10, rfl⟩))
  · cases h
    exact .inr (.inr (.inr (.inl ⟨h51, rfl⟩)))
  · obtain ⟨k, hk, heq⟩ := Option.map_eq_some_iff.1 h
    have hkey : utf8 k.1 = e := by simpa using List.find?_some hk
    cases heq
    rcases htable k (List.mem_of_find?_eq_some hk) with hk51 | hfixed
    · exact absurd (hkey.symm.trans (congrArg utf8 hk51)) h51
    · exact .inr (.inr (.inr (.inr hfixed)))

/-- The versions that `createTlsVersion` knows. -/
def SupportedVersion (ver : UInt16) : Prop := ver ∈ [versionTLS11, versionTLS12, versionTLS13]

instance (ver : UInt16) : Decidable (SupportedVersion ver) := inferInstanceAs (Decidable (_ ∈ _))

theorem createTlsVersion_of_supported {ver : UInt16} (h : SupportedVersion ver)
    (disableGrease : Bool) : ∃ max min, max ≠ 0 ∧ min ≠ 0 ∧ ¬IsGREASE max ∧ ¬IsGREASE min ∧
      createTlsVersion ver disableGrease = ⟨max, min, some (.supportedVersions
        ((if disableGrease then [] else [greasePlaceholder]) ++ [max, min])), none⟩ := by
  rw [SupportedVersion] at h
  simp only [List.mem_cons, List.not_mem_nil, or_false] at h
  rcases h with rfl | rfl | rfl
  · exact ⟨versionTLS11, versionTLS10, by decide, by decide, by decide, by decide, rfl⟩
  · exact ⟨versionTLS12, versionTLS11, by decide, by decide, by decide, by decide, rfl⟩
  · exact ⟨versionTLS13, versionTLS12, by decide, by decide, by decide, by decide, rfl⟩

theorem id_tlsSuppor {ver : UInt16} {disableGrease : Bool} {ext : Extension}
    (h : (createTlsVersion ver disableGrease).tlsSuppor = some ext) : ext.id = 43 := by
  rw [createTlsVersion] at h
  split_ifs at h <;> cases h <;> rfl

theorem createTlsVersion_of_not_supported {ver : UInt16} (h : ¬SupportedVersion ver)
    (disableGrease : Bool) : createTlsVersion ver disableGrease =
      ⟨0, 0, none, some "ja3Str tls version error"⟩ := by
  rw [SupportedVersion] at h
  simp only [List.mem_cons, List.not_mem_nil, or_false, not_or] at h
  rw [createTlsVersion, if_neg h.2.2, if_neg h.2.1, if_neg h.1]

namespace JA3

variable {j : JA3} {family : Family} {forceHTTP1 : Bool} {items : List Bytes}

theorem genMap_ne_nil (e : Bytes) : genMap false e ≠ some none := by
  intro h
  obtain ⟨k, -, hk⟩ := Option.map_eq_some_iff.1 h
  cases hk

/-- An extension is nil where the version is not known. -/
theorem extMap_eq_nil_iff {e : Bytes} : j.extMap family forceHTTP1 e = some none ↔
    e = utf8 "43" ∧ ¬SupportedVersion j.version := by
  rw [extMap, ja3ExtMap_apply]
  by_cases h43 : e = utf8 "43"
  · rw [if_pos h43, Option.some_inj]
    by_cases hversion : SupportedVersion j.version
    · obtain ⟨max, min, -, -, -, -, htls⟩ := createTlsVersion_of_supported hversion false
      simp [htls, hversion]
    · simp [createTlsVersion_of_not_supported hversion, h43, hversion]
  · rw [if_neg h43]
    refine iff_of_false ?_ fun h => h43 h.1
    split_ifs <;> simp [genMap_ne_nil]

theorem exists_extMap (hversion : SupportedVersion j.version) {e : Bytes} (he : KnownExtension e) :
    ∃ ext, j.extMap family forceHTTP1 e = some (some ext) ∧ readID e = some ext.id := by
  have hsome : (j.extMap family forceHTTP1 e).isSome := isSome_ja3ExtMap_iff.2 he
  obtain ⟨te, hte⟩ := Option.isSome_iff_exists.1 hsome
  cases te with
  | some ext => exact ⟨ext, hte, readID_of_ja3ExtMap (fun _ h => id_tlsSuppor h) hte⟩
  | none => exact absurd hversion (extMap_eq_nil_iff.1 hte).2

theorem mem_extensions_iff {te : Option Extension} :
    te ∈ (j.spec family forceHTTP1 items).extensions ↔
      (te = some .grease ∧ family = .chrome) ∨
        ∃ e ∈ items, (j.extMap family forceHTTP1 e).getD none = te := by
  have hgrease : te ∈ family.grease (some .grease) ↔ te = some .grease ∧ family = .chrome := by
    cases family <;> simp [Family.grease]
  rw [spec, List.mem_append, hgrease, List.mem_flatMap]
  constructor
  · rintro (h | ⟨e, he, h⟩)
    · exact .inl h
    · rw [added, List.mem_append, List.mem_singleton] at h
      rcases h with h | h
      · split_ifs at h
        · exact .inl (hgrease.1 h)
        · exact absurd h List.not_mem_nil
      · exact .inr ⟨e, he, h.symm⟩
  · rintro (h | ⟨e, he, rfl⟩)
    · exact .inl h
    · exact .inr ⟨e, he, List.mem_append_right _ (List.mem_singleton_self _)⟩

/-- Which extensions a hello has, by the items they are for. -/
theorem cases_of_mem {ext : Extension}
    (h : some ext ∈ (j.spec family forceHTTP1 items).extensions) :
    (ext = .grease ∧ family = .chrome) ∨
      (utf8 "43" ∈ items ∧ (createTlsVersion j.version false).tlsSuppor = some ext) ∨
      (utf8 "11" ∈ items ∧ ext = .supportedPoints j.pointFormats) ∨
      (utf8 "10" ∈ items ∧ ext = .supportedCurves (j.groups family)) ∨
      (utf8 "51" ∈ items ∧ ext = .keyShare (keyShares family (j.groups family))) ∨ ext.Fixed := by
  rcases mem_extensions_iff.1 h with ⟨hgrease, hfamily⟩ | ⟨e, he, hget⟩
  · exact .inl ⟨Option.some.inj hgrease, hfamily⟩
  · have hext : j.extMap family forceHTTP1 e = some (some ext) := by
      cases hmap : j.extMap family forceHTTP1 e with
      | none => rw [hmap] at hget; cases hget
      | some te => rw [hmap] at hget; exact congrArg some hget
    rcases extMap_cases hext with ⟨rfl, h⟩ | ⟨rfl, h⟩ | ⟨rfl, h⟩ | ⟨rfl, h⟩ | h
    · exact .inr (.inl ⟨he, h⟩)
    · exact .inr (.inr (.inl ⟨he, h⟩))
    · exact .inr (.inr (.inr (.inl ⟨he, h⟩)))
    · exact .inr (.inr (.inr (.inr (.inl ⟨he, h⟩))))
    · exact .inr (.inr (.inr (.inr (.inr h))))

/-- The supported groups are the extension with their id. -/
theorem eq_of_id_eq_ten {ext : Extension}
    (h : some ext ∈ (j.spec family forceHTTP1 items).extensions) (hid : ext.id = 10) :
    ext = .supportedCurves (j.groups family) := by
  rcases cases_of_mem h with ⟨rfl, -⟩ | ⟨-, h⟩ | ⟨-, rfl⟩ | ⟨-, rfl⟩ | ⟨-, rfl⟩ | h
  · cases hid
  · cases (id_tlsSuppor h).symm.trans hid
  · cases hid
  · rfl
  · cases hid
  · exact absurd (by rw [hid]; decide) h.1

theorem eq_of_id_eq_eleven {ext : Extension}
    (h : some ext ∈ (j.spec family forceHTTP1 items).extensions) (hid : ext.id = 11) :
    ext = .supportedPoints j.pointFormats := by
  rcases cases_of_mem h with ⟨rfl, -⟩ | ⟨-, h⟩ | ⟨-, rfl⟩ | ⟨-, rfl⟩ | ⟨-, rfl⟩ | h
  · cases hid
  · cases (id_tlsSuppor h).symm.trans hid
  · rfl
  · cases hid
  · cases hid
  · exact absurd (by rw [hid]; decide) h.1

end JA3

/-! ## Fidelity -/

/-- The hello restates a JA3 string. -/
structure ClientHelloSpec.RestatesJA3 (spec : ClientHelloSpec) (j : JA3) : Prop where
  cipherSuites : Restates j.ciphers spec.cipherSuites
  extensions : Restates j.extensions spec.extensionIDs
  pointFormats : ∀ ext, some ext ∈ spec.extensions → ext.id = 11 →
    ext = .supportedPoints j.pointFormats
  supportedGroups : ∀ ext, some ext ∈ spec.extensions → ext.id = 10 → ∃ curves,
    ext = .supportedCurves curves ∧ (j.version ≠ versionTLS13 → Restates j.curves curves) ∧
      (j.version = versionTLS13 → (∃ c ∈ j.curves, isTLS13CompatibleCurve c) →
        Restates (j.curves.filter isTLS13CompatibleCurve) curves)

theorem Restates.grease {l l' : List UInt16} (h : Restates l l') (family : Family) :
    Restates l (family.grease greasePlaceholder ++ l') := by
  cases family with
  | chrome => exact h.cons_grease isGREASE_greasePlaceholder
  | firefox => exact h

theorem restates_groups (j : JA3) (family : Family)
    (h : j.version = versionTLS13 → ∃ c ∈ j.curves, isTLS13CompatibleCurve c) :
    Restates j.offeredCurves (j.groups family) := by
  have htarget : ¬(j.version = versionTLS13 ∧
      family.grease greasePlaceholder ++ j.offeredCurves = []) := by
    rintro ⟨hversion, hempty⟩
    obtain ⟨c, hc, hcompatible⟩ := h hversion
    have hoffered := (List.append_eq_nil_iff.1 hempty).2
    rw [JA3.offeredCurves, if_pos hversion, List.filter_eq_nil_iff] at hoffered
    exact hoffered c hc hcompatible
  have hgroups : j.groups family = family.grease greasePlaceholder ++ j.offeredCurves :=
    if_neg htarget
  rw [hgroups]
  exact Restates.rfl.grease family

/-- The ids of the extensions are those of the items. -/
theorem restates_extensionIDs {j : JA3} {family : Family} {forceHTTP1 : Bool} {items : List Bytes}
    (hversion : SupportedVersion j.version) (hknown : ∀ e ∈ items, KnownExtension e)
    (hread : items.mapM readID = some j.extensions) :
    Restates j.extensions (j.spec family forceHTTP1 items).extensionIDs := by
  have hmap : j.extensions = items.map fun e => (readID e).getD 0 := by
    have h := congrArg (List.map (Option.getD · 0)) (mapM_eq_some_iff.1 hread)
    rw [List.map_map, List.map_map] at h
    exact (h.trans (List.map_id _)).symm
  have hgrease : idsOf (family.grease (some Extension.grease)) =
      family.grease greasePlaceholder := by
    cases family <;> rfl
  have hids : (j.spec family forceHTTP1 items).extensionIDs = family.grease greasePlaceholder ++
      items.flatMap fun e => idsOf (j.added family forceHTTP1 e) := by
    rw [ClientHelloSpec.extensionIDs, JA3.spec, idsOf_append, hgrease, idsOf,
      List.filterMap_flatMap]
    rfl
  rw [hids, hmap]
  refine Restates.grease (.flatMap fun e he => ?_) family
  obtain ⟨ext, hext, hid⟩ := JA3.exists_extMap hversion (hknown e he)
  rw [JA3.added, hext, hid, idsOf_append]
  split_ifs
  · rw [hgrease]
    exact Restates.rfl.grease family
  · exact .rfl

theorem JA3.restates {j : JA3} {family : Family} {forceHTTP1 : Bool} {items : List Bytes}
    (hversion : SupportedVersion j.version) (hknown : ∀ e ∈ items, KnownExtension e)
    (hread : items.mapM readID = some j.extensions) :
    (j.spec family forceHTTP1 items).RestatesJA3 j where
  cipherSuites := Restates.rfl.grease family
  extensions := restates_extensionIDs hversion hknown hread
  pointFormats _ hmem hid := JA3.eq_of_id_eq_eleven hmem hid
  supportedGroups ext hmem hid := by
    refine ⟨_, JA3.eq_of_id_eq_ten hmem hid, fun hne => ?_, fun heq hcompatible => ?_⟩
    · have hrestates := restates_groups j family fun heq => absurd heq hne
      rwa [JA3.offeredCurves, if_neg hne] at hrestates
    · have hrestates := restates_groups j family fun _ => hcompatible
      rwa [JA3.offeredCurves, if_pos heq] at hrestates

theorem stringToSpec_restates {ja3 userAgent : Bytes} {forceHTTP1 : Bool} {spec : ClientHelloSpec}
    (h : stringToSpec ja3 userAgent forceHTTP1 = .ok spec) :
    ∃ j, JA3.read ja3 = some j ∧ (SupportedVersion j.version → spec.RestatesJA3 j) := by
  obtain ⟨f, hf, h⟩ := bind_eq_ok_iff.1 h
  obtain ⟨j, hreads, hknown, rfl⟩ := specOfFields_eq_ok_iff.1 h
  refine ⟨j, ?_, fun hversion => JA3.restates hversion hknown hreads.extensions⟩
  rw [JA3.read, hf]
  exact JA3Fields.read_eq_some_iff.2 hreads

/-- A JA3 string with two of the extensions that depend on the lists. -/
def someJA3 : Bytes := utf8 "771,4865-4866,0-10-11-43-51,29-23,0"

theorem stringToSpec_restates_someJA3 : ∃ spec j,
    stringToSpec someJA3 (utf8 "Chrome/1") false = .ok spec ∧ JA3.read someJA3 = some j ∧
      spec.RestatesJA3 j := by
  have hsome : (stringToSpec someJA3 (utf8 "Chrome/1") false).toOption.isSome = true := by
    rw [someJA3, utf8_eq_data, utf8_eq_data]
    decide +kernel
  obtain ⟨spec, hspec⟩ := exists_ok_of_isSome hsome
  obtain ⟨j, hread, hrestates⟩ := stringToSpec_restates hspec
  have hversion : (JA3.read someJA3).map JA3.version = some 771 := by
    rw [someJA3, utf8_eq_data]
    decide +kernel
  rw [hread] at hversion
  refine ⟨spec, j, hspec, hread, hrestates ?_⟩
  rw [Option.some.inj hversion]
  decide

end CycleTLS
