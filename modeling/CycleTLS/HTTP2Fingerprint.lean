import CycleTLS.JA3
import CycleTLS.Lib.Scan

/-!
# HTTP/2 fingerprints (`http2.go`)

`NewHTTP2Fingerprint` reads a fingerprint leniently: there are two separators of settings, spaces
before a number and all that follows one are skipped, ids and weights are cut to their width, and
empty priority frames are left out. `String` prints it strictly. What is printed for a fingerprint
that was read is read as the same one (`newHTTP2Fingerprint_string`).
-/

namespace CycleTLS

open Utf8 Raising Scan

/-! ## The source -/

/-- `http2.Setting`. -/
structure HTTP2Setting where
  id : UInt16
  val : UInt32
  deriving DecidableEq

/-- `http2.PriorityParam`. -/
structure PriorityParam where
  streamDep : UInt32
  exclusive : Bool
  weight : UInt8
  deriving DecidableEq

/-- `http2.PriorityFrame`, with the id of its header. -/
structure PriorityFrame where
  streamID : UInt32
  param : PriorityParam
  deriving DecidableEq

/-- `HTTP2Fingerprint`, where no list of priority frames is nil. -/
structure HTTP2Fingerprint where
  settings : List HTTP2Setting
  connectionFlow : Int
  priorityFrames : Option (List PriorityFrame)
  headerPriority : Option PriorityParam
  headerTableSize : UInt32
  initialWindowSize : UInt32
  maxHeaderListSize : UInt32
  priorityOrder : List Bytes
  deriving DecidableEq

def bar : UInt8 := 0x7c
def colon : UInt8 := 0x3a
def semicolon : UInt8 := 0x3b

/-- `"%d:%d"`. -/
def settingFormat : List Directive := [.decimal, .symbol colon, .decimal]

/-- `"%d:%d:%d:%d"`. -/
def priorityFormat : List Directive :=
  [.decimal, .symbol colon, .decimal, .symbol colon, .decimal, .symbol colon, .decimal]

/-- The parts of the settings, by the separator that they have. -/
def settingsParts (settingsStr : Bytes) : List Bytes :=
  if semicolon ∈ settingsStr ∧ comma ∉ settingsStr then split settingsStr semicolon
  else split settingsStr comma

/-- A setting of a fingerprint. -/
def parseSetting (setting : Bytes) : Except Bytes HTTP2Setting :=
  if colon ∉ setting then
    .error (utf8 "invalid setting format: " ++ setting ++ utf8 " - expected ID:VALUE")
  else
    match sscanf (2 ^ 32) settingFormat setting with
    | some [id, val] => .ok ⟨UInt16.ofNat id, UInt32.ofNat val⟩
    | _ => .error (utf8 "invalid setting format: " ++ setting)

/-- The last value of a setting, or zero. -/
def settingValue (id : UInt16) (settings : List HTTP2Setting) : UInt32 :=
  settings.foldl (fun val setting => if setting.id = id then setting.val else val) 0

def settingHeaderTableSize : UInt16 := 0x1
def settingInitialWindowSize : UInt16 := 0x4
def settingMaxHeaderListSize : UInt16 := 0x6

/-- The connection flow of a fingerprint. -/
def parseConnectionFlow (part : Bytes) : Except Bytes Nat :=
  match sscanf (2 ^ 32) [.decimal] part with
  | some [connectionFlow] => .ok connectionFlow
  | _ => .error (utf8 "invalid WINDOW_UPDATE value: " ++ part)

/-- A priority frame of a fingerprint. -/
def parsePriorityFrame (p : Bytes) : Except Bytes PriorityFrame :=
  match sscanf (2 ^ 32) priorityFormat p with
  | some [streamID, exclusive, dep, weight] =>
    let weight := if 0 < weight then weight - 1 else weight
    .ok ⟨UInt32.ofNat streamID, UInt32.ofNat dep, exclusive ≠ 0, UInt8.ofNat weight⟩
  | _ => .error (utf8 "invalid priority frame format: " ++ p)

/-- The priority frames of a fingerprint, nil for `0` or no text. -/
def parsePriorityFrames (priorityStr : Bytes) : Except Bytes (Option (List PriorityFrame)) :=
  if priorityStr ≠ [] ∧ priorityStr ≠ utf8 "0" then
    some <$> ((split priorityStr comma).filter (· ≠ [])).mapM parsePriorityFrame
  else .ok none

/-- `NewHTTP2Fingerprint`, with the text of its error. -/
def newHTTP2Fingerprint (fingerprint : Bytes) : Except Bytes HTTP2Fingerprint :=
  match split fingerprint bar with
  | [settingsStr, flowStr, priorityStr, pseudoStr] => do
    let settings ← (settingsParts settingsStr).mapM parseSetting
    let connectionFlow ← parseConnectionFlow flowStr
    let priorityFrames ← parsePriorityFrames priorityStr
    return {
      settings := settings
      connectionFlow := connectionFlow
      priorityFrames := priorityFrames
      headerPriority := none
      headerTableSize := settingValue settingHeaderTableSize settings
      initialWindowSize := settingValue settingInitialWindowSize settings
      maxHeaderListSize := settingValue settingMaxHeaderListSize settings
      priorityOrder := split pseudoStr comma }
  | parts => .error (utf8 (s!"invalid HTTP/2 fingerprint format: expected 4 parts, " ++
      s!"got {parts.length}"))

/-- `strings.Join`, with a separator of one byte. -/
def join (parts : List Bytes) (sep : UInt8) : Bytes := [sep].intercalate parts

/-- A setting as `String` prints it. -/
def HTTP2Setting.text (setting : HTTP2Setting) : Bytes :=
  sprintf settingFormat [setting.id.toNat, setting.val.toNat]

/-- A priority frame as `String` prints it. -/
def PriorityFrame.text (pf : PriorityFrame) : Bytes :=
  sprintf priorityFormat [pf.streamID.toNat, if pf.param.exclusive then 1 else 0,
    pf.param.streamDep.toNat, pf.param.weight.toNat + 1]

/-- A number with the format `%d`. -/
def sprintInt (n : Int) : Bytes :=
  if n < 0 then 0x2d :: decimal n.natAbs else decimal n.natAbs

namespace HTTP2Fingerprint

variable (f : HTTP2Fingerprint)

/-- The priority frames, of which there may be none. -/
def frames : List PriorityFrame := f.priorityFrames.getD []

/-- `HTTP2Fingerprint.String`. -/
def string : Bytes :=
  let settingsStr := join (f.settings.map HTTP2Setting.text) comma
  let priorityStr := if f.frames ≠ [] then join (f.frames.map PriorityFrame.text) comma
    else utf8 "0"
  let pseudoStr := join f.priorityOrder comma
  join [settingsStr, sprintInt f.connectionFlow, priorityStr, pseudoStr] bar

/-- Two fingerprints are equal, and no list of priority frames is an empty one. -/
structure Same (f f' : HTTP2Fingerprint) : Prop where
  settings : f.settings = f'.settings
  connectionFlow : f.connectionFlow = f'.connectionFlow
  frames : f.frames = f'.frames
  headerPriority : f.headerPriority = f'.headerPriority
  headerTableSize : f.headerTableSize = f'.headerTableSize
  initialWindowSize : f.initialWindowSize = f'.initialWindowSize
  maxHeaderListSize : f.maxHeaderListSize = f'.maxHeaderListSize
  priorityOrder : f.priorityOrder = f'.priorityOrder

end HTTP2Fingerprint

/-! ## Parts -/

/-- No separator but the colon is printed. -/
theorem not_mem_sprintf {format : List Directive} {c : UInt8}
    (hformat : format ∈ [settingFormat, priorityFormat]) (hc : c ∈ [bar, comma, semicolon])
    (ns : List Nat) : c ∉ sprintf format ns := by
  have hsymbols : ∀ c ∈ [bar, comma, semicolon],
      ∀ format ∈ [settingFormat, priorityFormat], .symbol c ∉ format :=
    forall_mem_of_all (by decide)
  have hdigits : ∀ c ∈ [bar, comma, semicolon], ¬Radix.IsDigit 10 c :=
    forall_mem_of_all (by decide)
  intro h
  rcases mem_sprintf_cases h with h | h
  · exact hdigits c hc h
  · exact hsymbols c hc format hformat h

theorem colon_mem_text (setting : HTTP2Setting) : colon ∈ setting.text :=
  List.mem_append_right _ List.mem_cons_self

theorem separated_formats : Separated settingFormat ∧ Separated priorityFormat := by
  have hcolon : ¬Radix.IsDigit 10 colon := by decide
  exact ⟨⟨hcolon, trivial, trivial⟩, hcolon, hcolon, hcolon, trivial, trivial⟩

/-- A setting is read as it was printed. -/
theorem parseSetting_text (setting : HTTP2Setting) : parseSetting setting.text = .ok setting := by
  have hid := setting.id.toNat_lt
  have hval := setting.val.toNat_lt
  have hscan : sscanf (2 ^ 32) settingFormat setting.text =
      some [setting.id.toNat, setting.val.toNat] :=
    sscanf_sprintf separated_formats.1 rfl (by simp; omega)
  rw [parseSetting, if_neg (not_not.2 (colon_mem_text setting)), hscan]
  dsimp only
  rw [UInt16.ofNat_toNat, UInt32.ofNat_toNat]

theorem parsePriorityFrame_text (pf : PriorityFrame) : parsePriorityFrame pf.text = .ok pf := by
  have hid := pf.streamID.toNat_lt
  have hdep := pf.param.streamDep.toNat_lt
  have hweight := pf.param.weight.toNat_lt
  have hexclusive : (if pf.param.exclusive then 1 else 0) < 2 ^ 32 := by
    split_ifs <;> decide
  have hscan : sscanf (2 ^ 32) priorityFormat pf.text = some [pf.streamID.toNat,
      if pf.param.exclusive then 1 else 0, pf.param.streamDep.toNat,
      pf.param.weight.toNat + 1] := by
    refine sscanf_sprintf separated_formats.2 rfl ?_
    simp only [List.forall_mem_cons]
    exact ⟨hid, hexclusive, hdep, by omega, fun _ h => absurd h List.not_mem_nil⟩
  have hflag : decide ((if pf.param.exclusive then 1 else 0) ≠ 0) = pf.param.exclusive := by
    cases pf.param.exclusive <;> rfl
  rw [parsePriorityFrame, hscan]
  dsimp only
  rw [if_pos (Nat.succ_pos _), Nat.add_sub_cancel, UInt32.ofNat_toNat, UInt32.ofNat_toNat,
    UInt8.ofNat_toNat, hflag]

theorem parseConnectionFlow_sprintInt {n : Nat} (h : n < 2 ^ 32) :
    parseConnectionFlow (sprintInt n) = .ok n := by
  have htext : sprintInt n = sprintf [.decimal] [n] := by
    rw [sprintInt, if_neg (by omega), sprintf, sprintf, List.append_nil, Int.natAbs_natCast]
  have hscan : sscanf (2 ^ 32) [.decimal] (sprintInt n) = some [n] := by
    have hseparated : Separated [.decimal] := ⟨trivial, trivial⟩
    rw [htext]
    exact sscanf_sprintf hseparated rfl (by simpa using h)
  rw [parseConnectionFlow, hscan]

theorem lt_of_parseConnectionFlow {part : Bytes} {n : Nat} (h : parseConnectionFlow part = .ok n) :
    n < 2 ^ 32 := by
  rw [parseConnectionFlow] at h
  split at h
  · next hscan =>
      cases h
      exact (sscanf_eq_some_iff.1 hscan).lt _ List.mem_cons_self
  · cases h

/-! ## The round trip -/

theorem split_join {parts : List Bytes} {sep : UInt8} (h : ∀ p ∈ parts, sep ∉ p)
    (hne : parts ≠ []) : split (join parts sep) sep = parts :=
  List.splitOn_intercalate sep h hne

/-- What is joined has the separator and the symbols of the parts. -/
theorem not_mem_join {parts : List Bytes} {sep c : UInt8} (h : ∀ p ∈ parts, c ∉ p) (hc : c ≠ sep) :
    c ∉ join parts sep := by
  intro hmem
  rcases Radix.eq_or_mem_of_mem_intercalate hmem with heq | ⟨p, hp, hmem⟩
  · exact hc heq
  · exact h p hp hmem

theorem separator_not_mem_settings {c : UInt8} (hc : c ∈ [bar, comma, semicolon])
    (settings : List HTTP2Setting) : ∀ p ∈ settings.map HTTP2Setting.text, c ∉ p := by
  intro p hp
  obtain ⟨setting, -, rfl⟩ := List.mem_map.1 hp
  exact not_mem_sprintf (by decide) hc _

theorem separator_not_mem_frames {c : UInt8} (hc : c ∈ [bar, comma, semicolon])
    (frames : List PriorityFrame) : ∀ p ∈ frames.map PriorityFrame.text, c ∉ p := by
  intro p hp
  obtain ⟨pf, -, rfl⟩ := List.mem_map.1 hp
  exact not_mem_sprintf (by decide) hc _

/-- There are settings in each fingerprint, which are printed with commas. -/
theorem mapM_parseSetting_join {settings : List HTTP2Setting} (hne : settings ≠ []) :
    (settingsParts (join (settings.map HTTP2Setting.text) comma)).mapM parseSetting =
      .ok settings := by
  have hsemicolon : semicolon ∉ join (settings.map HTTP2Setting.text) comma :=
    not_mem_join (separator_not_mem_settings (by decide) settings) (by decide)
  have hcomma := separator_not_mem_settings (c := comma) (by decide) settings
  rw [settingsParts, if_neg fun h => hsemicolon h.1,
    split_join hcomma (mt List.map_eq_nil_iff.1 hne), mapM_eq_ok_iff, List.map_map]
  exact List.map_congr_left fun setting _ => parseSetting_text setting

theorem ne_nil_of_mapM_parseSetting {settingsStr : Bytes} {settings : List HTTP2Setting}
    (h : (settingsParts settingsStr).mapM parseSetting = .ok settings) : settings ≠ [] := by
  have hparts : settingsParts settingsStr ≠ [] := by
    rw [settingsParts]
    split_ifs
    · exact List.splitOn_ne_nil _ _
    · exact List.splitOn_ne_nil _ _
  rintro rfl
  exact hparts (List.map_eq_nil_iff.1 (mapM_eq_ok_iff.1 h))

/-- The text of the priority frames. -/
def framesText (frames : List PriorityFrame) : Bytes :=
  if frames ≠ [] then join (frames.map PriorityFrame.text) comma else utf8 "0"

theorem colon_mem_frames (frames : List PriorityFrame) :
    ∀ p ∈ frames.map PriorityFrame.text, colon ∈ p := by
  intro p hp
  obtain ⟨pf, -, rfl⟩ := List.mem_map.1 hp
  exact List.mem_append_right _ List.mem_cons_self

theorem parsePriorityFrames_framesText (frames : List PriorityFrame) :
    ∃ r, parsePriorityFrames (framesText frames) = .ok r ∧ r.getD [] = frames := by
  rw [framesText]
  split_ifs with hne
  · have hsplit := split_join (separator_not_mem_frames (c := comma) (by decide) frames)
      (mt List.map_eq_nil_iff.1 hne)
    -- the text is none of those that stand for no frames, as these have no colon
    have hlisted {t : Bytes} (ht : split t comma = [t]) (hcolon : colon ∉ t) :
        join (frames.map PriorityFrame.text) comma ≠ t := by
      intro heq
      rw [heq, ht] at hsplit
      exact hcolon (colon_mem_frames frames t (hsplit ▸ List.mem_cons_self))
    have hnil : join (frames.map PriorityFrame.text) comma ≠ [] := hlisted rfl List.not_mem_nil
    have hzero : join (frames.map PriorityFrame.text) comma ≠ utf8 "0" :=
      hlisted (by decide +kernel) (by decide +kernel)
    have hfilter : (frames.map PriorityFrame.text).filter (· ≠ []) =
        frames.map PriorityFrame.text := by
      refine List.filter_eq_self.2 fun p hp => decide_eq_true ?_
      exact List.ne_nil_of_mem (colon_mem_frames frames p hp)
    have hmapM : (frames.map PriorityFrame.text).mapM parsePriorityFrame = .ok frames := by
      rw [mapM_eq_ok_iff, List.map_map]
      exact List.map_congr_left fun pf _ => parsePriorityFrame_text pf
    refine ⟨some frames, ?_, rfl⟩
    rw [parsePriorityFrames, if_pos ⟨hnil, hzero⟩, hsplit, hfilter, hmapM]
    rfl
  · refine ⟨none, ?_, (not_not.1 hne).symm⟩
    rw [parsePriorityFrames, if_neg fun h => h.2 rfl]

theorem bar_not_mem_framesText (frames : List PriorityFrame) : bar ∉ framesText frames := by
  rw [framesText]
  split_ifs
  · exact not_mem_join (separator_not_mem_frames (by decide) frames) (by decide)
  · decide +kernel

theorem bar_not_mem_sprintInt (n : Nat) : bar ∉ sprintInt n := by
  rw [sprintInt, if_neg (by omega)]
  exact fun h => ne_of_mem_decimal h (by decide) rfl

theorem HTTP2Fingerprint.split_string (f : HTTP2Fingerprint) {n : Nat}
    (hflow : f.connectionFlow = n) (hpseudo : bar ∉ join f.priorityOrder comma) :
    split f.string bar = [join (f.settings.map HTTP2Setting.text) comma, sprintInt n,
      framesText f.frames, join f.priorityOrder comma] := by
  have hsettings : bar ∉ join (f.settings.map HTTP2Setting.text) comma :=
    not_mem_join (separator_not_mem_settings (by decide) f.settings) (by decide)
  rw [HTTP2Fingerprint.string, hflow]
  refine split_join ?_ (List.cons_ne_nil _ _)
  simp only [List.forall_mem_cons]
  exact ⟨hsettings, bar_not_mem_sprintInt n, bar_not_mem_framesText f.frames, hpseudo,
    fun _ h => absurd h List.not_mem_nil⟩

/-- A fingerprint that was read is read again as it is printed. -/
theorem newHTTP2Fingerprint_string {s : Bytes} {f : HTTP2Fingerprint}
    (h : newHTTP2Fingerprint s = .ok f) :
    ∃ f', newHTTP2Fingerprint f.string = .ok f' ∧ f'.Same f := by
  rw [newHTTP2Fingerprint] at h
  split at h
  · next settingsStr flowStr priorityStr pseudoStr hsplit =>
      obtain ⟨settings, hsettings, h⟩ := bind_eq_ok_iff.1 h
      obtain ⟨connectionFlow, hflow, h⟩ := bind_eq_ok_iff.1 h
      obtain ⟨priorityFrames, -, h⟩ := bind_eq_ok_iff.1 h
      cases h
      obtain ⟨r, hr, hframes⟩ := parsePriorityFrames_framesText (priorityFrames.getD [])
      have hjoin : join (split pseudoStr comma) comma = pseudoStr := List.intercalate_splitOn comma
      have hmem : pseudoStr ∈ split s bar := by
        rw [hsplit]
        simp
      have hpseudo : bar ∉ join (split pseudoStr comma) comma :=
        hjoin.symm ▸ Radix.not_mem_of_mem_splitOn hmem
      rw [newHTTP2Fingerprint, HTTP2Fingerprint.split_string _ rfl hpseudo]
      dsimp only [HTTP2Fingerprint.frames]
      rw [mapM_parseSetting_join (ne_nil_of_mapM_parseSetting hsettings), ok_bind,
        parseConnectionFlow_sprintInt (lt_of_parseConnectionFlow hflow), ok_bind, hr, ok_bind,
        hjoin]
      exact ⟨_, rfl, rfl, rfl, hframes, rfl, rfl, rfl, rfl, rfl⟩
  · cases h

/-- A fingerprint with the other separator, a space, and a text behind the number. -/
def lenientFingerprint : Bytes := utf8 "1:65536; 65540:131072|12517377 |3:0:0:201,,5:2:0:0x|m,p,a,s"

theorem newHTTP2Fingerprint_string_lenient : ∃ f f',
    newHTTP2Fingerprint lenientFingerprint = .ok f ∧ newHTTP2Fingerprint f.string = .ok f' ∧
      f'.Same f := by
  obtain ⟨f, hf⟩ := exists_ok_of_isSome (x := newHTTP2Fingerprint lenientFingerprint) (by
    rw [lenientFingerprint, utf8_eq_data]
    decide +kernel)
  obtain ⟨f', hf', hsame⟩ := newHTTP2Fingerprint_string hf
  exact ⟨f, f', hf, hf', hsame⟩

example : (newHTTP2Fingerprint lenientFingerprint).map HTTP2Fingerprint.string =
    .ok (utf8 "1:65536,4:131072|12517377|3:0:0:201,5:1:0:1|m,p,a,s") := by
  rw [lenientFingerprint, utf8_eq_data, utf8_eq_data]
  decide +kernel

end CycleTLS
