import CycleTLS.JA3
import Mathlib.Data.List.Sort

/-!
# Hellos of JA4_r strings (`utils.go`, `extensions.go`)

`JA4RStringToSpec` makes the hello of a JA4_r string, which has its lists sorted and
counts two extensions that it does not list. The order of a JA3 string is put back where
one is given.
-/

namespace CycleTLS

open Utf8 Raising

/-! ## The components -/

def underscore : UInt8 := 0x5f

/-- `JA4RComponents`. -/
structure JA4RComponents where
  tlsVersion : Bytes
  sni : UInt8
  cipherCount : Int
  extensionCount : Int
  extensionCountStr : Bytes
  alpn : Bytes
  cipherSuites : List UInt16
  extensions : List UInt16
  signatureSchemes : List UInt16
  deriving DecidableEq

/-- `strconv.Atoi`. -/
def atoi : Bytes → Option Int
  | 0x2b :: s => ((Radix.read 10 s).filter (· < 2 ^ 63)).map Int.ofNat
  | 0x2d :: s => ((Radix.read 10 s).filter (· ≤ 2 ^ 63)).map fun n => -Int.ofNat n
  | s => ((Radix.read 10 s).filter (· < 2 ^ 63)).map Int.ofNat

/-- An extension count as it is read off, with the ALPN after it. -/
structure CountAndALPN where
  extensionCount : Int
  extensionCountStr : Bytes
  alpn : Bytes

/-- An extension count of one digit. -/
def oneDigitCount (remainder : Bytes) : Except SpecError CountAndALPN :=
  match atoi (remainder.take 1) with
  | some count => .ok ⟨count, remainder.take 1, remainder.drop 1⟩
  | none => .error
      (.invalidJA4R "invalid JA4_r string: cannot parse extension count from" remainder)

/-- What may follow a count of two digits. -/
def isALPN (remainingAfter2 : Bytes) : Bool :=
  remainingAfter2 ∈ ["", "h1", "h2", "h3"].map utf8 ∨ utf8 "h" <+: remainingAfter2

/-- The extension count, of two digits if these can be read. -/
def parseExtensionCount (remainder : Bytes) : Except SpecError CountAndALPN :=
  if 2 ≤ remainder.length then
    match atoi (remainder.take 2) with
    | some twoDigitCount =>
      if isALPN (remainder.drop 2) then
        .ok ⟨twoDigitCount, remainder.take 2, remainder.drop 2⟩
      else oneDigitCount remainder
    | none => oneDigitCount remainder
  else if 1 ≤ remainder.length then oneDigitCount remainder
  else .error (.invalidJA4R "invalid JA4_r string: missing extension count" [])

/-- `strings.TrimPrefix`. -/
def trimPrefix (s : Bytes) (pre : String) : Bytes :=
  if utf8 pre <+: s then s.drop (utf8 pre).length else s

/-- A number of a list, with the message for one that cannot be read. -/
def parseHex (message : String) (s : Bytes) : Except SpecError UInt16 :=
  match uintValue 16 16 (trimPrefix s "0x") with
  | some n => .ok (UInt16.ofNat n)
  | none => .error (.invalidJA4R message (trimPrefix s "0x"))

/-- The numbers of a part. -/
def parseHexList (message : String) (part : Bytes) : Except SpecError (List UInt16) :=
  if part = [] then .ok [] else (split part comma).mapM (parseHex message)

/-- `ParseJA4RString`. -/
def parseJA4RString (ja4r : Bytes) : Except SpecError JA4RComponents :=
  match split ja4r underscore with
  | ja4a :: ciphers :: extensions :: rest =>
    match ja4a with
    | protocol :: v₁ :: v₂ :: sni :: c₁ :: c₂ :: remainder =>
      if protocol ≠ 0x74 then
        .error (.invalidJA4R "invalid JA4_r string: must start with 't' for TLS" [])
      else if sni ≠ 0x64 ∧ sni ≠ 0x69 then
        .error (.invalidJA4R "invalid JA4_r string: SNI indicator must be 'd' or 'i'" [])
      else
        match atoi [c₁, c₂] with
        | none => .error (.invalidJA4R "invalid JA4_r string: invalid cipher count" [c₁, c₂])
        | some cipherCount => do
          let count ← parseExtensionCount remainder
          let cipherSuites ← parseHexList "invalid cipher suite hex" ciphers
          let extensions ← parseHexList "invalid extension hex" extensions
          let signatureSchemes ← parseHexList "invalid signature scheme hex" (rest.headD [])
          return {
            tlsVersion := [0x74, v₁, v₂]
            sni := sni
            cipherCount := cipherCount
            extensionCount := count.extensionCount
            extensionCountStr := count.extensionCountStr
            alpn := count.alpn
            cipherSuites := cipherSuites
            extensions := extensions
            signatureSchemes := signatureSchemes }
    | _ => .error (.invalidJA4R "invalid JA4_r string: first part too short" [])
  | _ => .error (.invalidJA4R
      "invalid JA4_r string: incorrect format - expected at least 3 parts" [])

/-! ## Extensions -/

/-- `supportedSignatureAlgorithmsExtensions`. -/
def supportedSignatureAlgorithmsExtensions : List (String × UInt16) :=
  [
    ("PKCS1WithSHA256", 0x0401),
    ("PKCS1WithSHA384", 0x0501),
    ("PKCS1WithSHA512", 0x0601),
    ("PSSWithSHA256", 0x0804),
    ("PSSWithSHA384", 0x0805),
    ("PSSWithSHA512", 0x0806),
    ("ECDSAWithP256AndSHA256", 0x0403),
    ("ECDSAWithP384AndSHA384", 0x0503),
    ("ECDSAWithP521AndSHA512", 0x0603),
    ("Ed25519", 0x0807),
    ("PKCS1WithSHA1", 0x0201),
    ("ECDSAWithSHA1", 0x0203),
    ("rsa_pkcs1_sha1", 0x0201),
    ("Reserved for backward compatibility", 0x0202),
    ("ecdsa_sha1", 0x0203),
    ("rsa_pkcs1_sha256", 0x0401),
    ("ecdsa_secp256r1_sha256", 0x0403),
    ("rsa_pkcs1_sha256_legacy", 0x0420),
    ("rsa_pkcs1_sha384", 0x0501),
    ("ecdsa_secp384r1_sha384", 0x0503),
    ("rsa_pkcs1_sha384_legacy", 0x0520),
    ("rsa_pkcs1_sha512", 0x0601),
    ("ecdsa_secp521r1_sha512", 0x0603),
    ("rsa_pkcs1_sha512_legacy", 0x0620),
    ("eccsi_sha256", 0x0704),
    ("iso_ibs1", 0x0705),
    ("iso_ibs2", 0x0706),
    ("iso_chinese_ibs", 0x0707),
    ("sm2sig_sm3", 0x0708),
    ("gostr34102012_256a", 0x0709),
    ("gostr34102012_256b", 0x070a),
    ("gostr34102012_256c", 0x070b),
    ("gostr34102012_256d", 0x070c),
    ("gostr34102012_512a", 0x070d),
    ("gostr34102012_512b", 0x070e),
    ("gostr34102012_512c", 0x070f),
    ("rsa_pss_rsae_sha256", 0x0804),
    ("rsa_pss_rsae_sha384", 0x0805),
    ("rsa_pss_rsae_sha512", 0x0806),
    ("ed25519", 0x0807),
    ("ed448", 0x0808),
    ("rsa_pss_pss_sha256", 0x0809),
    ("rsa_pss_pss_sha384", 0x080a),
    ("rsa_pss_pss_sha512", 0x080b),
    ("ecdsa_brainpoolP256r1tls13_sha256", 0x081a),
    ("ecdsa_brainpoolP384r1tls13_sha384", 0x081b),
    ("ecdsa_brainpoolP512r1tls13_sha512", 0x081c)]

/-- A digit of `%x`. -/
def hexDigit (n : UInt16) : UInt8 := if n < 10 then 0x30 + n.toUInt8 else 0x57 + n.toUInt8

/-- `fmt.Sprintf` of a number with `0x%04x`. -/
def sprintf0x04x (v : UInt16) : Bytes :=
  utf8 "0x" ++ [hexDigit (v >>> 12), hexDigit (v >>> 8 &&& 0xf), hexDigit (v >>> 4 &&& 0xf),
    hexDigit (v &&& 0xf)]

/-- The scheme of a name. -/
def mappedScheme (name : Bytes) : Option UInt16 :=
  (supportedSignatureAlgorithmsExtensions.find? fun e => utf8 e.1 = name).map Prod.snd

/-- The scheme that a number stands for. -/
def signatureScheme (rawSig : UInt16) : UInt16 :=
  (mappedScheme (sprintf0x04x rawSig)).getD rawSig

/-- A number as its two bytes, in the order of `binary.BigEndian`. -/
def bigEndian (v : UInt16) : Bytes := [(v >>> 8).toUInt8, v.toUInt8]

/-- `NewCustomApplicationSettingsExtension`. -/
def newCustomApplicationSettingsExtension (extID : UInt16) (protocols : List Bytes) : Extension :=
  let protocolData := protocols.flatMap fun protocol =>
    UInt8.ofNat protocol.length :: protocol
  .custom extID (bigEndian (UInt16.ofNat protocolData.length) ++ protocolData)

/-- `NewCustomRecordSizeLimitExtension`. -/
def newCustomRecordSizeLimitExtension (extID limit : UInt16) : Extension :=
  .custom extID (bigEndian limit)

/-- `NewCustomPostQuantumExtension`. -/
def newCustomPostQuantumExtension (extID group : UInt16) : Extension :=
  .custom extID (bigEndian group ++ bigEndian 0)

/-- `NewCustomGREASEExtension`. -/
def newCustomGREASEExtension (extID : UInt16) : Extension := .custom extID []

/-- `IsGREASEValue`. -/
def isGREASEValue (extID : UInt16) : Bool := extID &&& 0x0f0f = 0x0a0a

/-- The protocols that are known for an ALPN. -/
def knownProtocols (alpn : Bytes) : Option (List Bytes) :=
  if alpn = utf8 "h2" then some [utf8 "h2", utf8 "http/1.1"]
  else if alpn = utf8 "h1" then some [utf8 "http/1.1"]
  else if alpn = utf8 "h3" then some [utf8 "h3", utf8 "h2", utf8 "http/1.1"]
  else none

/-- The curves of supported groups. -/
def defaultCurves (tlsVersion : UInt16) : List UInt16 :=
  (if tlsVersion = versionTLS13 then [x25519MLKEM768] else []) ++ [x25519, curveP256, curveP384]

/-- The schemes of signature algorithms. -/
def signatureSchemes (components : Option JA4RComponents) : List UInt16 :=
  let sigSchemes := (components.elim [] JA4RComponents.signatureSchemes).map signatureScheme
  if sigSchemes = [] then
    [0x0403, 0x0503, 0x0603, 0x0804, 0x0805, 0x0806, 0x0401, 0x0501, 0x0601]
  else sigSchemes

/-- `CreateExtensionFromID`. -/
def createExtensionFromID (extID tlsVersion : UInt16) (components : Option JA4RComponents)
    (disableGrease : Bool) (serverName : Bytes) : Option Extension :=
  if extID = 0x0000 then some (.sni serverName)
  else if extID = 0x0005 then some .statusRequest
  else if extID = 0x000a then some (.supportedCurves (defaultCurves tlsVersion))
  else if extID = 0x000b then some (.supportedPoints [0])
  else if extID = 0x000d then some (.signatureAlgorithms (signatureSchemes components))
  else if extID = 0x0010 then
    some (.alpn ((components.bind fun c => knownProtocols c.alpn).getD
      [utf8 "h2", utf8 "http/1.1"]))
  else if extID = 0x0012 then some .sct
  else if extID = 0x0017 then some .extendedMasterSecret
  else if extID = 0x001b then some (.compressCert [2])
  else if extID = 0x001c then some (newCustomRecordSizeLimitExtension extID 0x4001)
  else if extID = 0x0022 then some (.generic extID [0x00, 0x04, 0x04, 0x03, 0x08, 0x04])
  else if extID = 0x0023 then some .sessionTicket
  else if extID = 0x002b then
    if tlsVersion = versionTLS13 then some (.supportedVersions [versionTLS13, versionTLS12])
    else if tlsVersion = versionTLS12 then some (.supportedVersions [versionTLS12, versionTLS11])
    else none
  else if extID = 0x002d then some (.pskKeyExchangeModes [1])
  else if extID = 0x0033 then
    if tlsVersion = versionTLS13 then
      some (.keyShare [⟨x25519MLKEM768, []⟩, ⟨x25519, []⟩, ⟨curveP256, []⟩])
    else none
  else if extID = 0x4469 then some (newCustomApplicationSettingsExtension extID [utf8 "h2"])
  else if extID = 0x44cd then some (newCustomApplicationSettingsExtension extID [utf8 "h2"])
  else if extID = 0x6399 then some (newCustomPostQuantumExtension extID 0x6399)
  else if extID = 0xfe0d then some .greaseECH
  else if extID = 0xff01 then some .renegotiationInfo
  else if isGREASEValue extID ∧ disableGrease = false then some (newCustomGREASEExtension extID)
  else some (.generic extID [])

/-! ## Wire order -/

/-- `ja4rExtension`. -/
structure JA4RExtension where
  id : UInt16
  ext : Extension

/-- The orders of a JA3 string. -/
structure JA3Order where
  cipherOrder : List UInt16
  extOrder : List UInt16
  curveOrder : List UInt16

/-- The numbers of a list, none if one of them cannot be read. -/
def parseOrder (list : Bytes) : List UInt16 :=
  if list = [] then [] else ((split list dash).mapM readID).getD []

/-- `parseJA3Order`. -/
def parseJA3Order (ja3 : Bytes) : JA3Order :=
  match split ja3 comma with
  | _ :: ciphers :: extensions :: rest =>
    ⟨parseOrder ciphers, parseOrder extensions, rest.head?.elim [] parseOrder⟩
  | _ => ⟨[], [], []⟩

/-- `wireRank`: the map from the ids of an order to their first positions. -/
def wireRank (order : List UInt16) (id : UInt16) : Option Nat := order.idxOf? id

/-- `rankOf`. -/
def rankOf (rank : UInt16 → Option Nat) (id : UInt16) : Option Nat :=
  match rank id with
  | some r => some r
  | none => rank (if id = 0x4469 then 0x44cd else if id = 0x44cd then 0x4469 else 0)

/-- The order of ranks: no rank comes last. -/
def rankLess : Option Nat → Option Nat → Bool
  | some ri, some rj => ri < rj
  | some _, none => true
  | none, _ => false

/-- `sort.SliceStable`. -/
def sliceStable {α : Type} (less : α → α → Bool) (l : List α) : List α :=
  l.insertionSort fun a b => less b a = false

/-- `orderByWireOrder`, for the rank map of an order. -/
def orderByWireOrder (items order : List UInt16) : List UInt16 :=
  if order = [] ∨ items.length < 2 then items
  else sliceStable (fun a b => rankLess (wireRank order a) (wireRank order b)) items

/-- `orderExtensionsByWireOrder`, for the rank map of an order. -/
def orderExtensionsByWireOrder (entries : List JA4RExtension) (order : List UInt16) :
    List JA4RExtension :=
  if order = [] ∨ entries.length < 2 then entries
  else sliceStable
    (fun a b => rankLess (rankOf (wireRank order) a.id) (rankOf (wireRank order) b.id)) entries

/-! ## The hello -/

/-- The versions that a JA4_r string stands for. -/
structure JA4RVersion where
  tlsVersion : UInt16
  tlsMinVersion : UInt16
  tlsMaxVersion : UInt16

/-- The versions of a hello. -/
def ja4rVersion (tlsVersion : Bytes) : Except SpecError JA4RVersion :=
  if tlsVersion = utf8 "t10" then .ok ⟨versionTLS10, versionTLS10, versionTLS12⟩
  else if tlsVersion = utf8 "t11" then .ok ⟨versionTLS11, versionTLS11, versionTLS12⟩
  else if tlsVersion = utf8 "t12" then .ok ⟨versionTLS12, versionTLS12, versionTLS12⟩
  else if tlsVersion = utf8 "t13" then .ok ⟨versionTLS13, versionTLS12, versionTLS13⟩
  else .error (.invalidJA4R "unsupported TLS version in JA4_r: " tlsVersion)

/-- `cipherSuiteMap`. -/
def cipherSuiteMap : List (UInt16 × UInt16) :=
  [(0x1301, 0x1301), (0x1302, 0x1302), (0x1303, 0x1303), (0x002f, 0x002f), (0x0035, 0x0035),
    (0x009c, 0x009c), (0x009d, 0x009d), (0xc009, 0xc009), (0xc00a, 0xc00a), (0xc013, 0xc013),
    (0xc014, 0xc014), (0xc02b, 0xc02b), (0xc02c, 0xc02c), (0xc02f, 0xc02f), (0xc030, 0xc030),
    (0xcca8, 0xcca8), (0xcca9, 0xcca9), (0x000a, 0x000a), (0xc023, 0xc023), (0xc027, 0xc027)]

/-- The cipher suite that a number stands for. -/
def mapCipher (rawCipher : UInt16) : UInt16 := (cipherSuiteMap.lookup rawCipher).getD rawCipher

namespace JA4RComponents

variable (components : JA4RComponents)

/-- Whether the ALPN is put in that is not listed. -/
def AddsALPN : Prop := components.alpn ≠ [] ∧ 0x0010 ∉ components.extensions

instance : Decidable components.AddsALPN := inferInstanceAs (Decidable (_ ∧ _))

/-- How many of the extensions that are counted are not there. -/
def extensionDeficit : Int :=
  components.extensionCount -
    (components.extensions.length + if components.AddsALPN then 1 else 0)

/-- Whether the server name is put in that is not listed. -/
def ShouldAddSNI : Prop :=
  components.sni = 0x64 ∧ 0x0000 ∉ components.extensions ∧ 0 < components.extensionDeficit

instance : Decidable components.ShouldAddSNI := inferInstanceAs (Decidable (_ ∧ _))

/-- The extensions in the order of the string. -/
def entries (tlsVersion : UInt16) (disableGrease : Bool) (serverName : Bytes) :
    List JA4RExtension :=
  (if components.ShouldAddSNI then [⟨0x0000, .sni serverName⟩] else []) ++
    components.extensions.filterMap (fun extCode =>
      (createExtensionFromID extCode tlsVersion (some components) disableGrease serverName).map
        (⟨extCode, ·⟩)) ++
    if components.AddsALPN then
      [⟨0x0010, .alpn ((knownProtocols components.alpn).getD [components.alpn])⟩]
    else []

end JA4RComponents

/-- Replaces the curves of supported groups. -/
def setCurves (curves : List UInt16) : Extension → Extension
  | .supportedCurves _ => .supportedCurves curves
  | ext => ext

/-- Puts the curves of an order, if there are some, in the first entry for supported
    groups. -/
def overrideCurves (curveOrder : List UInt16) (entries : List JA4RExtension) :
    List JA4RExtension :=
  if curveOrder = [] then entries
  else entries.replaceF fun e =>
    if e.id = 0x000a then some ⟨e.id, setCurves curveOrder e.ext⟩ else none

/-- Puts the algorithms of Firefox in the first extension for compressed certificates. -/
def matchCompressCert (userAgent : Bytes) (entries : List JA4RExtension) : List JA4RExtension :=
  if contains userAgent "Firefox/" then
    entries.replaceF fun e =>
      match e.ext with
      | .compressCert _ => some ⟨e.id, .compressCert [1, 2, 3]⟩
      | _ => none
  else entries

/-- Whether GREASE is put in: the browser is a Chromium, and it is not disabled. -/
def wantsGREASE (userAgent : Bytes) (disableGrease : Bool) : Bool :=
  contains userAgent "Chrome/" && !disableGrease

/-- Puts a GREASE value first in the lists of an extension. -/
def greaseExtension : Extension → Extension
  | .supportedVersions versions => .supportedVersions (greasePlaceholder :: versions)
  | .supportedCurves curves => .supportedCurves (greasePlaceholder :: curves)
  | .keyShare keyShares => .keyShare (⟨greasePlaceholder, [0]⟩ :: keyShares)
  | ext => ext

/-- Puts GREASE in the entries, and around them. -/
def greaseEntries (entries : List JA4RExtension) : List JA4RExtension :=
  ⟨greasePlaceholder, .grease⟩ :: entries.map (fun e => ⟨e.id, greaseExtension e.ext⟩) ++
    [⟨greasePlaceholder, .grease⟩]

/-- What `JA4RStringToSpec` makes of the components. -/
def specOfComponents (version : JA4RVersion) (components : JA4RComponents) (userAgent : Bytes)
    (disableGrease : Bool) (serverName : Bytes) (order : JA3Order) : ClientHelloSpec :=
  let cipherSuites := orderByWireOrder (components.cipherSuites.map mapCipher) order.cipherOrder
  let entries := components.entries version.tlsVersion disableGrease serverName
  let entries := orderExtensionsByWireOrder entries order.extOrder
  let entries := matchCompressCert userAgent (overrideCurves order.curveOrder entries)
  {
    tlsVersMin := version.tlsMinVersion
    tlsVersMax := version.tlsMaxVersion
    cipherSuites := (if wantsGREASE userAgent disableGrease then [greasePlaceholder] else []) ++
      cipherSuites
    compressionMethods := [0]
    extensions := (if wantsGREASE userAgent disableGrease then greaseEntries entries
      else entries).map fun e => some e.ext }

/-- `JA4RStringToSpec`. -/
def ja4rStringToSpec (ja4r userAgent : Bytes) (forceHTTP1 disableGrease : Bool)
    (serverName ja3Order : Bytes) : Except SpecError ClientHelloSpec := do
  let components ← parseJA4RString ja4r
  let version ← ja4rVersion components.tlsVersion
  let components := if forceHTTP1 ∧ components.alpn ≠ [] then { components with alpn := utf8 "h1" }
    else components
  return specOfComponents version components userAgent disableGrease serverName
    (parseJA3Order ja3Order)

end CycleTLS
