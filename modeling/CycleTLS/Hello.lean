import CycleTLS.Errors
import CycleTLS.Lib.Radix

/-!
# Client hellos (`utils.go`)

A `ClientHelloSpec` lists the cipher suites and extensions of a TLS client hello, from
which uTLS makes the message. An extension writes its registered id and some of the data
it is given here; a GREASE value stands for one that uTLS draws.
-/

namespace CycleTLS

open Utf8

/-- What is checked for the items of a list, one by one. -/
theorem forall_mem_of_all {α : Type} {P : α → Prop} [DecidablePred P] {l : List α}
    (h : (l.all fun a => decide (P a)) = true) : ∀ a ∈ l, P a :=
  fun a ha => of_decide_eq_true (List.all_eq_true.1 h a ha)

/-! ## GREASE -/

/-- `GREASE_PLACEHOLDER`. -/
def greasePlaceholder : UInt16 := 0x0a0a

/-- A value that is reserved for GREASE: two equal bytes that end in `a`. -/
def IsGREASE (v : UInt16) : Prop := v >>> 8 = v &&& 0xff ∧ v &&& 0xf = 0xa

instance (v : UInt16) : Decidable (IsGREASE v) := inferInstanceAs (Decidable (_ ∧ _))

/-- A list without its GREASE values. -/
def degrease (l : List UInt16) : List UInt16 := l.filter fun v => ¬IsGREASE v

/-- The second list is the first with GREASE values put in. -/
structure Restates (l l' : List UInt16) : Prop where
  sublist : l.Sublist l'
  degrease : degrease l' = CycleTLS.degrease l

namespace Restates

variable {l l' m m' : List UInt16}

theorem rfl : Restates l l := ⟨.refl l, Eq.refl _⟩

theorem append (h : Restates l l') (h' : Restates m m') : Restates (l ++ m) (l' ++ m') where
  sublist := h.sublist.append h'.sublist
  degrease := by
    rw [CycleTLS.degrease, CycleTLS.degrease, List.filter_append, List.filter_append]
    exact congrArg₂ _ h.degrease h'.degrease

theorem cons_grease {v : UInt16} (hv : IsGREASE v) (h : Restates l l') : Restates l (v :: l') where
  sublist := h.sublist.cons v
  degrease := by
    rw [CycleTLS.degrease, List.filter_cons_of_neg (by simpa using hv)]
    exact h.degrease

theorem flatMap {α : Type} {f : α → UInt16} {g : α → List UInt16} {as : List α}
    (h : ∀ a ∈ as, Restates [f a] (g a)) : Restates (as.map f) (as.flatMap g) := by
  induction as with
  | nil => exact rfl
  | cons a as ih =>
    obtain ⟨ha, has⟩ := List.forall_mem_cons.1 h
    exact ha.append (ih has)

end Restates

theorem isGREASE_greasePlaceholder : IsGREASE greasePlaceholder := by decide

/-! ## Extensions -/

/-- `KeyShare`. -/
structure KeyShare where
  group : UInt16
  data : Bytes := []
  deriving DecidableEq

/-- A TLS extension of uTLS, or one of `extensions.go`, which keep the id they are made
    for (`custom`). -/
inductive Extension
  | sni (serverName : Bytes)
  | statusRequest
  | supportedCurves (curves : List UInt16)
  | supportedPoints (supportedPoints : List UInt8)
  | signatureAlgorithms (supported : List UInt16)
  | alpn (alpnProtocols : List Bytes)
  | statusRequestV2
  | sct
  | padding
  | generic (id : UInt16) (data : Bytes)
  | extendedMasterSecret
  | fakeTokenBinding
  | compressCert (algorithms : List UInt16)
  | fakeRecordSizeLimit (limit : UInt16)
  | delegatedCredentials (supported : List UInt16)
  | sessionTicket
  | preSharedKey
  | supportedVersions (versions : List UInt16)
  | cookie
  | pskKeyExchangeModes (modes : List UInt8)
  | signatureAlgorithmsCert (supported : List UInt16)
  | keyShare (keyShares : List KeyShare)
  | quicTransportParameters
  | npn
  | applicationSettings (supportedProtocols : List Bytes)
  | applicationSettingsNew (supportedProtocols : List Bytes)
  | fakeChannelID
  | renegotiationInfo
  | greaseECH
  | grease
  | custom (id : UInt16) (data : Bytes)
  deriving DecidableEq

/-- The id that an extension writes. -/
def Extension.id : Extension → UInt16
  | sni _ => 0
  | statusRequest => 5
  | supportedCurves _ => 10
  | supportedPoints _ => 11
  | signatureAlgorithms _ => 13
  | alpn _ => 16
  | statusRequestV2 => 17
  | sct => 18
  | padding => 21
  | generic id _ => id
  | extendedMasterSecret => 23
  | fakeTokenBinding => 24
  | compressCert _ => 27
  | fakeRecordSizeLimit _ => 28
  | delegatedCredentials _ => 34
  | sessionTicket => 35
  | preSharedKey => 41
  | supportedVersions _ => 43
  | cookie => 44
  | pskKeyExchangeModes _ => 45
  | signatureAlgorithmsCert _ => 50
  | keyShare _ => 51
  | quicTransportParameters => 57
  | npn => 13172
  | applicationSettings _ => 17513
  | applicationSettingsNew _ => 17613
  | fakeChannelID => 30032
  | renegotiationInfo => 65281
  | greaseECH => 65037
  | grease => greasePlaceholder
  | custom id _ => id

/-- `ClientHelloSpec`, with `none` for an extension that is nil. -/
structure ClientHelloSpec where
  tlsVersMin : UInt16
  tlsVersMax : UInt16
  cipherSuites : List UInt16
  compressionMethods : List UInt8
  extensions : List (Option Extension)
  deriving DecidableEq

/-- The ids that extensions write. -/
def idsOf (extensions : List (Option Extension)) : List UInt16 :=
  extensions.filterMap (Option.map Extension.id)

theorem idsOf_append (exts exts' : List (Option Extension)) :
    idsOf (exts ++ exts') = idsOf exts ++ idsOf exts' := List.filterMap_append

/-- The ids of the extensions. -/
def ClientHelloSpec.extensionIDs (spec : ClientHelloSpec) : List UInt16 := idsOf spec.extensions

/-! ## Constants -/

def versionTLS13 : UInt16 := 772
def versionTLS12 : UInt16 := 771
def versionTLS11 : UInt16 := 770
def versionTLS10 : UInt16 := 769

def x25519 : UInt16 := 29
def curveP256 : UInt16 := 23
def curveP384 : UInt16 := 24
def x25519MLKEM768 : UInt16 := 4588

/-! ## Failures -/

/-- What ends the making of a spec: a panic, or an error. -/
inductive SpecError
  /-- An index is out of range. -/
  | panic
  /-- `strconv.NumError`, for the text that is no number or one out of range. -/
  | number (num : Bytes)
  /-- `errExtensionNotExist`. -/
  | extensionNotExist (context : Bytes)
  /-- An error of `JA4RStringToSpec`, about a part of the string. -/
  | invalidJA4R (message : String) (part : Bytes)
  deriving DecidableEq

/-- `strings.Split`, for a separator of one byte. -/
def split (s : Bytes) (sep : UInt8) : List Bytes := s.splitOn sep

/-- The field of a slice at an index. -/
def index (tokens : List Bytes) (i : Nat) : Except SpecError Bytes :=
  match tokens[i]? with
  | some token => .ok token
  | none => .error .panic

/-- The number that `strconv.ParseUint` reads. -/
def uintValue (base bitSize : Nat) (s : Bytes) : Option Nat :=
  (Radix.read base s).filter (· < 2 ^ bitSize)

/-- `strconv.ParseUint`. -/
def parseUint (base bitSize : Nat) (s : Bytes) : Except SpecError Nat :=
  match uintValue base bitSize s with
  | some n => .ok n
  | none => .error (.number s)

/-! ## User agents -/

/-- The families that `parseUserAgent` tells apart. -/
inductive Family
  | chrome
  | firefox
  deriving DecidableEq

/-- `strings.ToLower`, as far as ASCII goes: outside ASCII, only two characters have ASCII
    in their lower case. -/
def toLower : Bytes → Bytes
  | 0xc4 :: 0xb0 :: s => 0x69 :: toLower s
  | 0xe2 :: 0x84 :: 0xaa :: s => 0x6b :: toLower s
  | c :: s => (if 0x41 ≤ c ∧ c ≤ 0x5a then c + 0x20 else c) :: toLower s
  | [] => []

/-- `parseUserAgent`. -/
def parseUserAgent (userAgent : Bytes) : Family :=
  if contains (toLower userAgent) "chrome" then .chrome
  else if contains (toLower userAgent) "firefox" then .firefox
  else .chrome

/-! ## Templates -/

/-- The results of `createTlsVersion`. -/
structure TlsVersion where
  tlsMaxVersion : UInt16
  tlsMinVersion : UInt16
  tlsSuppor : Option Extension
  err : Option String

/-- `createTlsVersion`. -/
def createTlsVersion (ver : UInt16) (disableGrease : Bool) : TlsVersion :=
  let grease := if disableGrease then [] else [greasePlaceholder]
  let versions (max min : UInt16) : TlsVersion :=
    ⟨max, min, some (.supportedVersions (grease ++ [max, min])), none⟩
  if ver = versionTLS13 then versions versionTLS13 versionTLS12
  else if ver = versionTLS12 then versions versionTLS12 versionTLS11
  else if ver = versionTLS11 then versions versionTLS11 versionTLS10
  else ⟨0, 0, none, some "ja3Str tls version error"⟩

/-- Extensions by their ids, as these are written in a JA3 string; `some none` is nil. -/
abbrev ExtMap := Bytes → Option (Option Extension)

/-- The entries of `genMap`. -/
def extensionTable (disableGrease : Bool) : List (String × Extension) :=
  [
    ("0", .sni []),
    ("5", .statusRequest),
    ("13", .signatureAlgorithms [0x0403, 0x0503, 0x0603, 0x0804, 0x0805, 0x0806, 0x0401, 0x0501,
      0x0601, 0x0203, 0x0201]),
    ("16", .alpn [utf8 "h2", utf8 "http/1.1"]),
    ("17", .statusRequestV2),
    ("18", .sct),
    ("21", .padding),
    ("22", .generic 22 []),
    ("23", .extendedMasterSecret),
    ("24", .fakeTokenBinding),
    ("27", .compressCert [2]),
    ("28", .fakeRecordSizeLimit 0x4001),
    ("34", .delegatedCredentials [0x0403, 0x0503, 0x0603, 0x0203]),
    ("35", .sessionTicket),
    ("41", .preSharedKey),
    ("44", .cookie),
    ("45", .pskKeyExchangeModes [1]),
    ("49", .generic 49 []),
    ("50", .signatureAlgorithmsCert [0x0403, 0x0503, 0x0603, 0x0804, 0x0805, 0x0806, 0x0401, 0x0501,
      0x0806, 0x0601]),
    ("51", .keyShare (if disableGrease then [⟨x25519, []⟩]
      else [⟨greasePlaceholder, [0]⟩, ⟨x25519, []⟩])),
    ("57", .quicTransportParameters),
    ("13172", .npn),
    ("17513", .applicationSettings [utf8 "h2"]),
    ("17613", .applicationSettingsNew [utf8 "h2"]),
    ("30032", .fakeChannelID),
    ("65281", .renegotiationInfo),
    ("51764", .generic 51764 []),
    ("65037", .greaseECH)]

/-- `genMap`. -/
def genMap (disableGrease : Bool) : ExtMap := fun key =>
  ((extensionTable disableGrease).find? fun e => utf8 e.1 = key).map fun e => some e.2

theorem genMap_utf8 (disableGrease : Bool) (key : String) : genMap disableGrease (utf8 key) =
    ((extensionTable disableGrease).find? fun e => e.1 = key).map fun e => some e.2 := by
  simp only [genMap, utf8_injective.eq_iff]

namespace ExtMap

variable (m : ExtMap) (key : String)

/-- Puts an extension in a map. -/
def set (ext : Option Extension) : ExtMap := Function.update m (utf8 key) (some ext)

/-- Changes an extension in place, if it is there. -/
def modify (f : Extension → Extension) : ExtMap :=
  match m (utf8 key) with
  | some (some ext) => m.set key (some (f ext))
  | _ => m

end ExtMap

end CycleTLS
