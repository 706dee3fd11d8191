import CycleTLS.Payload
import Mathlib.Data.List.TakeWhile

/-!
# Client hints (`_dynamic_sec_ch_ua`)

A profile computes the `sec-ch-ua` headers of a request from its own user agent. The user
agent that is sent may be another one, of an argument or of the headers. And the platform is
looked for in an order in which Linux comes before Android, while every user agent of Android
names Linux too.

The hints of a request hence agree with its user agent exactly where the two user agents have
the same version and the same mobile flag, and the words of the one that is the profile's are
those of the operating system of the one that is sent (`hintsAgree_iff`).
-/

namespace CycleTLS

open Raising

variable (env : PyEnv)

/-! ## What a user agent says -/

/-- An operating system. -/
inductive OS
  | android
  | chromeOS
  | iOS
  | linux
  | macOS
  | windows
  deriving DecidableEq

/-- The name of an operating system in a hint. -/
def OS.name : OS → String
  | android => "Android"
  | chromeOS => "Chrome OS"
  | iOS => "iOS"
  | linux => "Linux"
  | macOS => "macOS"
  | windows => "Windows"

/-- The operating system of a user agent. Those that are built on another one name that one
    too, and come first. -/
def osOf (ua : List Char) : Option OS :=
  if matchesAny ua ["Android"] then some .android
  else if matchesAny ua ["CrOS"] then some .chromeOS
  else if matchesAny ua ["iPhone", "iPad", "iPod"] then some .iOS
  else if matchesAny ua ["Linux"] then some .linux
  else if matchesAny ua ["Macintosh", "Mac OS X"] then some .macOS
  else if matchesAny ua ["Windows"] then some .windows
  else none

/-- A user agent is that of a mobile browser. -/
def isMobile (ua : List Char) : Bool := matchesAny ua ["Android", "Mobile"]

/-- The major version of a Chromium browser. -/
def majorOf (ua : List Char) : Option String :=
  searchVersion env ["Chrome/", "Chromium/", "HeadlessChrome/"] ua

/-- The headers that are computed. -/
inductive Hint
  | brands
  | mobile
  | platform

namespace Hint

def name : Hint → String
  | brands => "sec-ch-ua"
  | mobile => "sec-ch-ua-mobile"
  | platform => "sec-ch-ua-platform"

/-- The value of a hint names what a user agent says. -/
def Names (hint : Hint) (value : String) (ua : List Char) : Prop :=
  match hint with
  | brands => ∃ major brands, majorOf env ua = some major ∧
      value = "\"Chromium\";v=\"" ++ major ++ ("\", " ++ brands)
  | mobile => value = if isMobile ua then "?1" else "?0"
  | platform => value = ((osOf ua).map fun os => "\"" ++ os.name ++ "\"").getD ""

end Hint

/-- The words of a user agent are those by which an operating system is told. -/
def Shows (ua : List Char) : Option OS → Prop
  | some .linux => matchesAny ua ["Linux"]
  | some .macOS => matchesAny ua ["Linux"] = false ∧ matchesAny ua ["Macintosh", "Mac OS X"]
  | some .windows => matchesAny ua ["Linux"] = false ∧
      matchesAny ua ["Macintosh", "Mac OS X"] = false ∧ matchesAny ua ["Windows"]
  | some .android => matchesAny ua ["Linux"] = false ∧
      matchesAny ua ["Macintosh", "Mac OS X"] = false ∧ matchesAny ua ["Windows"] = false ∧
      matchesAny ua ["Android"]
  | none => matchesAny ua ["Linux"] = false ∧
      matchesAny ua ["Macintosh", "Mac OS X"] = false ∧ matchesAny ua ["Windows"] = false ∧
      matchesAny ua ["Android"] = false
  | _ => False

/-- A hint that is computed for the first user agent names what the second one says. -/
def Hint.Fits (hint : Hint) (own ua : List Char) : Prop :=
  match hint with
  | brands => majorOf env ua = majorOf env own
  | mobile => isMobile ua = isMobile own
  | platform => Shows own (osOf ua)

namespace TLSFingerprint

variable (profile : TLSFingerprint)

/-- The user agent of a profile. -/
def agent : List Char := (profile.userAgent.getD "").toList

/-- The brand of the browser of a profile, with its version. -/
def branded (major : String) : Option (String × String) :=
  (brand (lower profile.name.toList) profile.agent).map fun brand =>
    if brand = "Opera" then
      (brand, (searchVersion env ["opr/"] (profile.agent.map Char.toLower)).getD major)
    else (brand, major)

/-- The value of a hint, by the major version of the profile. -/
def hintValue (major : String) : Hint → String
  | .brands => secChUa major (profile.branded env major)
  | .mobile => if isMobile profile.agent then "?1" else "?0"
  | .platform => if platform profile.agent ≠ "" then "\"" ++ platform profile.agent ++ "\"" else ""

end TLSFingerprint

/-! ## Requests -/

/-- The user agent of a request: that of the headers, then that of the arguments, the profile
    and the default. -/
def chosenAgent (profile : TLSFingerprint) (kwargs : Kwargs HeaderDict) (d : Headers) : Value :=
  ((agentAmong profile.ownHeaders (kwargs.contents d)).or ((kwargs.options .userAgent).or
    (profile.userAgent.map .str))).getD (.str defaultUserAgent)

/-- A hint is not given by the headers of a request nor by those of its profile. -/
def LeftOut (hint : Hint) (profile : TLSFingerprint) (kwargs : Kwargs HeaderDict) (d : Headers) :
    Prop :=
  (kwargs.contents d).get? hint.name = none ∧ profile.ownHeaders.get? hint.name = none

/-- Each hint that is added to a request names what the user agent says that is sent. -/
def HintsAgree (profile : TLSFingerprint) (kwargs : Kwargs HeaderDict) (d : Headers)
    (p : OptionsDict) : Prop :=
  ∀ ua, Value.get p "userAgent" = .str ua → ∀ hint, LeftOut hint profile kwargs d →
    ∀ v, headerOf p hint.name = some v → ∃ value, v = .str value ∧ hint.Names env value ua.toList

variable {env}

/-! ## The hints of a profile -/

theorem isDigit_of_searchVersion {words : List String} {text : List Char} {version : String}
    (h : searchVersion env words text = some version) : ∀ c ∈ version.toList, env.isDigit c := by
  induction text with
  | nil => cases h
  | cons c text ih =>
    rw [searchVersion] at h
    rcases Option.or_eq_some_iff.1 h with hfound | ⟨-, hrest⟩
    · obtain ⟨word, -, hword⟩ := List.exists_of_findSome?_eq_some hfound
      dsimp only at hword
      split_ifs at hword
      cases hword
      rw [String.toList_ofList]
      exact fun c hc => List.mem_takeWhile_imp hc
    · exact ih hrest

theorem lookup_hints (order : List String) (value : Hint → String) (hint : Hint) :
    ((if "sec-ch-ua" ∈ order then [("sec-ch-ua", value .brands)] else []) ++
      (if "sec-ch-ua-mobile" ∈ order then [("sec-ch-ua-mobile", value .mobile)] else []) ++
      if "sec-ch-ua-platform" ∈ order then [("sec-ch-ua-platform", value .platform)]
        else []).lookup hint.name = if hint.name ∈ order then some (value hint) else none := by
  cases hint <;>
  · dsimp only [Hint.name]
    split_ifs <;> simp [List.lookup_cons, *]

namespace TLSFingerprint

variable {profile : TLSFingerprint}

/-- A hint is computed if it is in the order of the headers and the user agent is that of a
    Chromium browser. -/
theorem lookup_dynamicSecChUa (hint : Hint) : (profile.dynamicSecChUa env).lookup hint.name =
    if hint.name ∈ profile.headerOrder.getD [] then
      (majorOf env profile.agent).map (profile.hintValue env · hint) else none := by
  unfold dynamicSecChUa
  by_cases hempty :
      (profile.userAgent.getD "").toList.isEmpty || (profile.headerOrder.getD []).isEmpty
  · rw [if_pos hempty, List.lookup_nil, eq_comm]
    rcases Bool.or_eq_true_iff.1 hempty with hagent | horder
    · rw [agent, List.isEmpty_iff.1 hagent]
      exact ite_self _
    · rw [List.isEmpty_iff.1 horder]
      exact if_neg List.not_mem_nil
  · rw [if_neg hempty]
    split
    · next hnone =>
      have hmajor : majorOf env profile.agent = none := hnone
      rw [hmajor]
      exact (ite_self _).symm
    · next major hsome =>
      have hmajor : majorOf env profile.agent = some major := hsome
      rw [hmajor]
      exact lookup_hints _ (profile.hintValue env major) hint

/-- The platform of a user agent is that of the words it has. -/
theorem platform_eq_iff {ua : List Char} {os : Option OS} :
    (if platform ua ≠ "" then "\"" ++ platform ua ++ "\"" else "") =
      (os.map fun os => "\"" ++ os.name ++ "\"").getD "" ↔ Shows ua os := by
  unfold platform
  split_ifs <;> rcases os with _ | _ | _ | _ | _ | _ | _ <;> simp_all [Shows, OS.name]

theorem exists_secChUa_eq (major : String) (branded : Option (String × String)) :
    ∃ brands, secChUa major branded = "\"Chromium\";v=\"" ++ major ++ ("\", " ++ brands) := by
  unfold secChUa
  cases branded with
  | none =>
    have hrest : "\", \"Not/A)Brand\";v=\"99\"" = "\", " ++ "\"Not/A)Brand\";v=\"99\"" := by
      decide
    refine ⟨"\"Not/A)Brand\";v=\"99\"", ?_⟩
    simp only [hrest]
  | some b =>
    have hbrand : "\", \"" = "\", " ++ "\"" := by decide
    refine ⟨"\"" ++ b.1 ++ "\";v=\"" ++ b.2 ++ "\", \"Not/A)Brand\";v=\"99\"", ?_⟩
    simp only [hbrand, String.append_assoc]

/-- The version that a value gives is told from the value. -/
theorem major_inj (hquote : env.isDigit '"' = false) {major major' brands brands' : String}
    (hmajor : ∀ c ∈ major.toList, env.isDigit c) (hmajor' : ∀ c ∈ major'.toList, env.isDigit c)
    (h : "\"Chromium\";v=\"" ++ major ++ ("\", " ++ brands) =
      "\"Chromium\";v=\"" ++ major' ++ ("\", " ++ brands')) : major = major' := by
  have hlist := congrArg String.toList h
  simp only [String.toList_append, List.append_assoc, List.append_cancel_left_eq] at hlist
  have hdigits := congrArg (List.takeWhile env.isDigit) hlist
  rw [show "\", ".toList = '"' :: ", ".toList from rfl, List.cons_append, List.cons_append,
    Text.takeWhile_append_cons hmajor hquote, Text.takeWhile_append_cons hmajor' hquote] at hdigits
  exact String.toList_injective hdigits

/-- A value that a profile computes names what a user agent says exactly if it fits. -/
theorem names_hintValue_iff (hquote : env.isDigit '"' = false) {major : String}
    (hmajor : majorOf env profile.agent = some major) (hint : Hint) (ua : List Char) :
    hint.Names env (profile.hintValue env major hint) ua ↔ hint.Fits env profile.agent ua := by
  cases hint with
  | brands =>
    obtain ⟨brands, hvalue⟩ := exists_secChUa_eq major (profile.branded env major)
    change (∃ major' brands', majorOf env ua = some major' ∧ secChUa major _ = _) ↔
      majorOf env ua = majorOf env profile.agent
    rw [hvalue, hmajor]
    constructor
    · rintro ⟨major', brands', hua, heq⟩
      have hdigits := isDigit_of_searchVersion hmajor
      rw [hua, major_inj hquote hdigits (isDigit_of_searchVersion hua) heq]
    · exact fun hua => ⟨major, brands, hua, rfl⟩
  | mobile =>
    change (if isMobile profile.agent then "?1" else "?0") = (if isMobile ua then "?1" else "?0") ↔
      isMobile ua = isMobile profile.agent
    cases isMobile ua <;> cases isMobile profile.agent <;> decide
  | platform => exact platform_eq_iff

end TLSFingerprint

/-! ## The hints of a request -/

variable {closed : Bool} {boundary method url : String} {kwargs : Kwargs HeaderDict}
  {d d' : Headers} {p : OptionsDict} {profile : TLSFingerprint}

/-- The user agent that is sent and the hints that are added, from what the request is given. -/
theorem sent_of_profile
    (h : exec (prepareRequest env closed boundary method url kwargs) d = (.ok p, d'))
    (hprofile : kwargs.profile env = some profile) :
    Value.get p "userAgent" = chosenAgent profile kwargs d ∧
      ∀ hint, LeftOut hint profile kwargs d →
        headerOf p hint.name = ((profile.dynamicSecChUa env).lookup hint.name).map .str := by
  obtain ⟨json, kwargs', t, -, -, hprepares, hsent, -, hheader⟩ := exists_prepares h
  constructor
  · have hagent := hsent .userAgent (by decide)
    rw [hprepares.userAgent, agentAmong_eq, hprofile] at hagent
    exact (Except.ok.inj hagent).symm
  · rintro hint ⟨hgiven, hown⟩
    have hname : isUserAgent hint.name = false ∧ hint.name ≠ "Content-Type" ∧
        hint.name ≠ "Authorization" := by cases hint <;> decide
    rw [hheader, hprepares.header _ hname.1 hname.2.1, get?_withProfile,
      get?_withAuth (.inr hname.2.2), hgiven, hprofile]
    change (profile.ownHeaders.get? hint.name).or _ = _
    rw [hown, Option.none_or]

/-- The hints that are to agree are those that the profile computes. -/
theorem hintsAgree_iff_names
    (h : exec (prepareRequest env closed boundary method url kwargs) d = (.ok p, d'))
    (hprofile : kwargs.profile env = some profile) :
    HintsAgree env profile kwargs d p ↔ ∀ ua, chosenAgent profile kwargs d = .str ua →
      ∀ hint, LeftOut hint profile kwargs d → hint.name ∈ profile.headerOrder.getD [] →
        ∀ major, majorOf env profile.agent = some major →
          hint.Names env (profile.hintValue env major hint) ua.toList := by
  obtain ⟨hagent, hheaders⟩ := sent_of_profile h hprofile
  rw [HintsAgree, hagent]
  refine forall₄_congr fun ua _ hint hleft => ?_
  rw [hheaders hint hleft, TLSFingerprint.lookup_dynamicSecChUa]
  constructor
  · intro hnames horder major hmajor
    obtain ⟨value, hvalue, hvalueNames⟩ := hnames (.str (profile.hintValue env major hint)) (by
      rw [if_pos horder, hmajor]
      rfl)
    exact Value.str.inj hvalue ▸ hvalueNames
  · intro hnames v hv
    split_ifs at hv with horder
    · obtain ⟨value, hvalue, rfl⟩ := Option.map_eq_some_iff.1 hv
      obtain ⟨major, hmajor, rfl⟩ := Option.map_eq_some_iff.1 hvalue
      exact ⟨_, rfl, hnames horder major hmajor⟩
    · cases hv

/-- The hints of a request agree with the user agent that is sent exactly if each one that its
    profile computes fits. -/
theorem hintsAgree_iff (hquote : env.isDigit '"' = false)
    (h : exec (prepareRequest env closed boundary method url kwargs) d = (.ok p, d'))
    (hprofile : kwargs.profile env = some profile) :
    HintsAgree env profile kwargs d p ↔ ∀ ua, chosenAgent profile kwargs d = .str ua →
      ∀ hint, LeftOut hint profile kwargs d → hint.name ∈ profile.headerOrder.getD [] →
        (majorOf env profile.agent).isSome → hint.Fits env profile.agent ua.toList := by
  rw [hintsAgree_iff_names h hprofile]
  refine forall₄_congr fun ua _ hint _ => forall_congr' fun _ => ?_
  rw [Option.isSome_iff_exists, forall_exists_index]
  refine forall₂_congr fun major hmajor => ?_
  exact TLSFingerprint.names_hintValue_iff hquote hmajor hint ua.toList

/-- The profile of a Chrome with a user agent. -/
def chromeProfile (ua : String) : TLSFingerprint where
  name := "chrome"
  ja3 := ""
  userAgent := some ua
  headerOrder := some ["sec-ch-ua", "sec-ch-ua-mobile", "sec-ch-ua-platform"]

/-- The arguments of a request with a profile. -/
def Kwargs.ofProfile (profile : TLSFingerprint) : Kwargs HeaderDict :=
  Kwargs.set {} .fingerprint (.fingerprint profile)

/-- A request with the profile of a Chrome on Windows, the user agent of which is sent. -/
theorem hintsAgree_windows : ∃ p d',
    exec (prepareRequest .plain false "" "get" "https://h/"
      (.ofProfile (chromeProfile "Windows Chrome/120"))) .empty = (.ok p, d') ∧
    HintsAgree .plain (chromeProfile "Windows Chrome/120")
      (.ofProfile (chromeProfile "Windows Chrome/120")) .empty p := by
  obtain ⟨p, d', hp⟩ : ∃ p d', exec (prepareRequest .plain false "" "get" "https://h/"
    (.ofProfile (chromeProfile "Windows Chrome/120"))) .empty = (.ok p, d') := ⟨_, _, rfl⟩
  refine ⟨p, d', hp, (hintsAgree_iff (by decide) hp rfl).2 ?_⟩
  rintro _ ⟨⟩ hint - - -
  cases hint with
  | brands => exact Eq.refl _
  | mobile => exact Eq.refl _
  | platform =>
    have hos : osOf "Windows Chrome/120".toList = some .windows := by decide
    change Shows "Windows Chrome/120".toList (osOf "Windows Chrome/120".toList)
    rw [hos]
    exact ⟨by decide, by decide, by decide⟩

/-- A request with the profile of a Chrome on Android. -/
theorem not_forall_hintsAgree : ¬∀ (env : PyEnv) (profile : TLSFingerprint) (closed : Bool)
    (boundary method url : String) (kwargs : Kwargs HeaderDict) (d d' : Headers) (p : OptionsDict),
    env.isDigit '"' = false →
    exec (prepareRequest env closed boundary method url kwargs) d = (.ok p, d') →
    kwargs.profile env = some profile → HintsAgree env profile kwargs d p := by
  intro h
  obtain ⟨p, d', hp⟩ : ∃ p d', exec (prepareRequest .plain false "" "get" "https://h/"
    (.ofProfile (chromeProfile "Linux; Android Chrome/120"))) .empty = (.ok p, d') := ⟨_, _, rfl⟩
  have hagree := h .plain _ false "" "get" "https://h/" _ .empty d' p (by decide) hp rfl
  have hnames := (hintsAgree_iff_names hp rfl).1 hagree _ rfl .platform ⟨rfl, rfl⟩ (by decide)
    "120" (by decide)
  have hvalue : TLSFingerprint.hintValue .plain (chromeProfile "Linux; Android Chrome/120") "120"
      .platform = "\"Linux\"" := by decide
  have hname : ((osOf "Linux; Android Chrome/120".toList).map fun os =>
      "\"" ++ os.name ++ "\"").getD "" = "\"Android\"" := by decide
  rw [hvalue] at hnames
  exact absurd (hnames.trans hname) (by decide)

end CycleTLS
