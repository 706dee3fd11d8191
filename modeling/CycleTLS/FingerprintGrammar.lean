import Mathlib.Algebra.Order.BigOperators.Group.List
import Mathlib.Algebra.Order.Group.Nat
import CycleTLS.HTTP2Fingerprint

/-!
# The grammar of HTTP/2 fingerprints (`http2.go`)

The items of a fingerprint are numbers with colons between them. `NewHTTP2Fingerprint` scans them,
so it takes more texts than those of the grammar: which ones, and what it makes of them, is said in
full (`newHTTP2Fingerprint_eq_ok_iff`). Each text of the grammar is among them, but not all of its
items are in the result. All that is read is of the grammar, and all of it is in the result, where
the text has nothing that is skipped or cut (`readsGrammar_iff`).
-/

namespace CycleTLS

open Utf8 Raising Scan

/-! ## Texts and their content -/

/-- The parts of a fingerprint. -/
structure FingerprintText where
  settings : Bytes
  flow : Bytes
  priority : Bytes
  pseudo : Bytes

/-- A setting as a text has it. -/
structure SettingItem where
  id : Nat
  val : Nat

def SettingItem.numbers (e : SettingItem) : List Nat := [e.id, e.val]

/-- A priority frame as a text has it. -/
structure PriorityItem where
  stream : Nat
  exclusive : Nat
  dep : Nat
  weight : Nat

def PriorityItem.numbers (e : PriorityItem) : List Nat := [e.stream, e.exclusive, e.dep, e.weight]

/-- What a fingerprint says. -/
structure HTTP2Content where
  settings : List SettingItem
  windowUpdate : Nat
  priorities : List PriorityItem
  pseudoHeaders : List Bytes

namespace FingerprintText

variable (t : FingerprintText)

/-- A text has the parts. -/
def Of (s : Bytes) : Prop := split s bar = [t.settings, t.flow, t.priority, t.pseudo]

/-- The items of the settings, between separators of both kinds. -/
def settingItems : List Bytes := (split t.settings comma).flatMap fun p => split p semicolon

/-- The text has no priority frames. -/
def NoPriorities : Prop := t.priority = [] ∨ t.priority = utf8 "0"

instance : Decidable t.NoPriorities := inferInstanceAs (Decidable (_ ∨ _))

end FingerprintText

namespace HTTP2Content

variable (c : HTTP2Content) (t : FingerprintText)

/-- The grammar: a text has the content. -/
structure WrittenIn : Prop where
  settings : t.settingItems.Forall₂ (fun p e => Writes settingFormat p e.numbers) c.settings
  ids : ∀ e ∈ c.settings, e.id < 2 ^ 16
  vals : ∀ e ∈ c.settings, e.val < 2 ^ 32
  windowUpdate : Writes [.decimal] t.flow [c.windowUpdate]
  windowUpdate_lt : c.windowUpdate < 2 ^ 32
  priorities_nil : t.NoPriorities → c.priorities = []
  priorities : ¬t.NoPriorities →
    (split t.priority comma).Forall₂ (fun p e => Writes priorityFormat p e.numbers) c.priorities
  numbers : ∀ e ∈ c.priorities, ∀ n ∈ e.numbers, n < 2 ^ 32
  weights : ∀ e ∈ c.priorities, e.weight ≤ 256
  pseudoHeaders : c.pseudoHeaders = split t.pseudo comma

end HTTP2Content

/-- A setting as an item. -/
def HTTP2Setting.item (setting : HTTP2Setting) : SettingItem :=
  ⟨setting.id.toNat, setting.val.toNat⟩

/-- A priority frame as an item, with the weight that is displayed. -/
def PriorityFrame.item (pf : PriorityFrame) : PriorityItem :=
  ⟨pf.streamID.toNat, if pf.param.exclusive then 1 else 0, pf.param.streamDep.toNat,
    pf.param.weight.toNat + 1⟩

/-- Each item of a content is in a fingerprint with its value. -/
structure HTTP2Content.RepresentedBy (c : HTTP2Content) (f : HTTP2Fingerprint) : Prop where
  settings : f.settings.map HTTP2Setting.item = c.settings
  windowUpdate : f.connectionFlow = c.windowUpdate
  priorities : f.frames.map PriorityFrame.item = c.priorities
  pseudoHeaders : f.priorityOrder = c.pseudoHeaders

/-- `NewHTTP2Fingerprint` takes what is of the grammar, and nothing else, and drops and cuts none of
    it. -/
structure ReadsGrammar (s : Bytes) : Prop where
  complete : ∀ t c, FingerprintText.Of t s → HTTP2Content.WrittenIn c t →
    ∃ f, newHTTP2Fingerprint s = .ok f
  sound : ∀ f, newHTTP2Fingerprint s = .ok f →
    ∃ t c, FingerprintText.Of t s ∧ HTTP2Content.WrittenIn c t ∧ c.RepresentedBy f

/-! ## What is scanned -/

/-- The setting that is made of an item. -/
def SettingItem.setting (e : SettingItem) : HTTP2Setting := ⟨UInt16.ofNat e.id, UInt32.ofNat e.val⟩

/-- The priority frame that is made of an item. -/
def PriorityItem.frame (e : PriorityItem) : PriorityFrame :=
  ⟨UInt32.ofNat e.stream, UInt32.ofNat e.dep, e.exclusive ≠ 0,
    UInt8.ofNat (if 0 < e.weight then e.weight - 1 else e.weight)⟩

namespace HTTP2Content

variable (c : HTTP2Content) (t : FingerprintText)

/-- The content is what the parts of a text are scanned as. -/
structure ScannedIn : Prop where
  settings : (settingsParts t.settings).Forall₂
    (fun p e => Scans (2 ^ 32) settingFormat p e.numbers) c.settings
  windowUpdate : Scans (2 ^ 32) [.decimal] t.flow [c.windowUpdate]
  priorities_nil : t.NoPriorities → c.priorities = []
  priorities : ¬t.NoPriorities →
    ((split t.priority comma).filter (· ≠ [])).Forall₂
      (fun p e => Scans (2 ^ 32) priorityFormat p e.numbers) c.priorities
  pseudoHeaders : c.pseudoHeaders = split t.pseudo comma

/-- The text has one kind of separators, no spaces and nothing behind an item, no empty frames, and
    no number that is cut. -/
structure Tidy : Prop where
  separator : semicolon ∈ t.settings → comma ∉ t.settings
  settings : ∀ p ∈ settingsParts t.settings, Plain colon 1 p
  ids : ∀ e ∈ c.settings, e.id < 2 ^ 16
  flow : Plain colon 0 t.flow
  priorities : ¬t.NoPriorities → ∀ p ∈ split t.priority comma, Plain colon 3 p
  flags : ∀ e ∈ c.priorities, e.exclusive ≤ 1
  weights : ∀ e ∈ c.priorities, 1 ≤ e.weight ∧ e.weight ≤ 256

/-- The fingerprint that is made of the content of a text. -/
def fingerprint : HTTP2Fingerprint where
  settings := c.settings.map SettingItem.setting
  connectionFlow := c.windowUpdate
  priorityFrames := if t.NoPriorities then none else some (c.priorities.map PriorityItem.frame)
  headerPriority := none
  headerTableSize := settingValue settingHeaderTableSize (c.settings.map SettingItem.setting)
  initialWindowSize := settingValue settingInitialWindowSize (c.settings.map SettingItem.setting)
  maxHeaderListSize := settingValue settingMaxHeaderListSize (c.settings.map SettingItem.setting)
  priorityOrder := c.pseudoHeaders

end HTTP2Content

theorem parseSetting_eq_ok_iff (p : Bytes) (setting : HTTP2Setting) :
    parseSetting p = .ok setting ↔
      ∃ e : SettingItem, Scans (2 ^ 32) settingFormat p e.numbers ∧ setting = e.setting := by
  constructor
  · intro h
    rw [parseSetting] at h
    split_ifs at h
    split at h
    · next id val hscan =>
        exact ⟨⟨id, val⟩, sscanf_eq_some_iff.1 hscan, (Except.ok.inj h).symm⟩
    · cases h
  · rintro ⟨e, hscans, rfl⟩
    have hcolon : colon ∈ p := hscans.mem (by decide)
    rw [parseSetting, if_neg (not_not.2 hcolon), sscanf_eq_some_iff.2 hscans]
    rfl

theorem parsePriorityFrame_eq_ok_iff (p : Bytes) (pf : PriorityFrame) :
    parsePriorityFrame p = .ok pf ↔
      ∃ e : PriorityItem, Scans (2 ^ 32) priorityFormat p e.numbers ∧ pf = e.frame := by
  constructor
  · intro h
    rw [parsePriorityFrame] at h
    split at h
    · next stream exclusive dep weight hscan =>
        exact ⟨⟨stream, exclusive, dep, weight⟩, sscanf_eq_some_iff.1 hscan,
          (Except.ok.inj h).symm⟩
    · cases h
  · rintro ⟨e, hscans, rfl⟩
    rw [parsePriorityFrame, sscanf_eq_some_iff.2 hscans]
    rfl

theorem parseConnectionFlow_eq_ok_iff {part : Bytes} {n : Nat} :
    parseConnectionFlow part = .ok n ↔ Scans (2 ^ 32) [.decimal] part [n] := by
  rw [← sscanf_eq_some_iff]
  constructor
  · intro h
    rw [parseConnectionFlow] at h
    split at h
    · next hscan => rw [hscan, Except.ok.inj h]
    · cases h
  · intro hscan
    rw [parseConnectionFlow, hscan]

theorem parsePriorityFrames_eq_ok_iff {t : FingerprintText} {r : Option (List PriorityFrame)} :
    parsePriorityFrames t.priority = .ok r ↔
      ∃ es : List PriorityItem, (t.NoPriorities → es = []) ∧
        (¬t.NoPriorities → ((split t.priority comma).filter (· ≠ [])).Forall₂
          (fun p e => Scans (2 ^ 32) priorityFormat p e.numbers) es) ∧
        r = if t.NoPriorities then none else some (es.map PriorityItem.frame) := by
  have hlisted : (t.priority ≠ [] ∧ t.priority ≠ utf8 "0") ↔ ¬t.NoPriorities := by
    rw [FingerprintText.NoPriorities, not_or]
  rw [parsePriorityFrames]
  by_cases hnone : t.NoPriorities
  · rw [if_neg (mt hlisted.1 (not_not.2 hnone))]
    constructor
    · intro h
      refine ⟨[], fun _ => rfl, fun h => absurd hnone h, ?_⟩
      rw [if_pos hnone, Except.ok.inj h]
    · rintro ⟨es, -, -, rfl⟩
      rw [if_pos hnone]
  · rw [if_pos (hlisted.2 hnone), map_eq_pure_bind, bind_eq_ok_iff]
    constructor
    · rintro ⟨frames, hframes, h⟩
      obtain ⟨es, hes, rfl⟩ := (mapM_eq_ok_iff_forall₂ parsePriorityFrame_eq_ok_iff).1 hframes
      refine ⟨es, fun h => absurd h hnone, fun _ => hes, ?_⟩
      rw [if_neg hnone]
      exact (Except.ok.inj h).symm
    · rintro ⟨es, -, hes, rfl⟩
      have hframes := (mapM_eq_ok_iff_forall₂ parsePriorityFrame_eq_ok_iff).2 ⟨es, hes hnone, rfl⟩
      rw [if_neg hnone]
      exact ⟨_, hframes, rfl⟩

/-- What is accepted, and what is made of it. -/
theorem newHTTP2Fingerprint_eq_ok_iff {s : Bytes} {f : HTTP2Fingerprint} :
    newHTTP2Fingerprint s = .ok f ↔
      ∃ t c, FingerprintText.Of t s ∧ HTTP2Content.ScannedIn c t ∧ f = c.fingerprint t := by
  constructor
  · intro h
    rw [newHTTP2Fingerprint] at h
    split at h
    · next settingsStr flowStr priorityStr pseudoStr hsplit =>
        obtain ⟨settings, hsettings, h⟩ := bind_eq_ok_iff.1 h
        obtain ⟨flow, hflow, h⟩ := bind_eq_ok_iff.1 h
        obtain ⟨frames, hframes, h⟩ := bind_eq_ok_iff.1 h
        let t : FingerprintText := ⟨settingsStr, flowStr, priorityStr, pseudoStr⟩
        obtain ⟨items, hitems, rfl⟩ := (mapM_eq_ok_iff_forall₂ parseSetting_eq_ok_iff).1 hsettings
        obtain ⟨priorities, hnone, hlisted, rfl⟩ :=
          (parsePriorityFrames_eq_ok_iff (t := t)).1 hframes
        exact ⟨t, ⟨items, flow, priorities, split pseudoStr comma⟩, hsplit,
          ⟨hitems, parseConnectionFlow_eq_ok_iff.1 hflow, hnone, hlisted, rfl⟩,
          (Except.ok.inj h).symm⟩
    · cases h
  · rintro ⟨t, c, hof, hscanned, rfl⟩
    have hsettings := (mapM_eq_ok_iff_forall₂ parseSetting_eq_ok_iff).2 ⟨_, hscanned.settings, rfl⟩
    have hframes := (parsePriorityFrames_eq_ok_iff (t := t)).2
      ⟨_, hscanned.priorities_nil, hscanned.priorities, rfl⟩
    rw [newHTTP2Fingerprint, hof]
    dsimp only
    rw [hsettings, ok_bind, parseConnectionFlow_eq_ok_iff.2 hscanned.windowUpdate, ok_bind, hframes,
      ok_bind, ← hscanned.pseudoHeaders]
    rfl

/-! ## Numbers that are cut -/

theorem SettingItem.item_setting_eq_iff {e : SettingItem} (hval : e.val < 2 ^ 32) :
    e.setting.item = e ↔ e.id < 2 ^ 16 := by
  have hid : e.setting.id.toNat = e.id % 2 ^ 16 := UInt16.toNat_ofNat' ..
  have hsame : e.setting.val.toNat = e.val := UInt32.toNat_ofNat_of_lt' hval
  rw [HTTP2Setting.item, hid, hsame]
  constructor
  · intro h
    have hmod : e.id % 2 ^ 16 = e.id := congrArg SettingItem.id h
    omega
  · intro h
    rw [Nat.mod_eq_of_lt h]

/-- The weight of a frame is the one that is displayed, from 1 to 256. -/
theorem PriorityItem.item_frame_eq_iff {e : PriorityItem} (h : ∀ n ∈ e.numbers, n < 2 ^ 32) :
    e.frame.item = e ↔ e.exclusive ≤ 1 ∧ 1 ≤ e.weight ∧ e.weight ≤ 256 := by
  obtain ⟨stream, exclusive, dep, weight⟩ := e
  simp only [numbers, List.forall_mem_cons] at h
  obtain ⟨hstream, -, hdep, -⟩ := h
  have hweight : (UInt8.ofNat (if 0 < weight then weight - 1 else weight)).toNat =
      (if 0 < weight then weight - 1 else weight) % 2 ^ 8 := UInt8.toNat_ofNat' ..
  rw [frame, PriorityFrame.item, PriorityItem.mk.injEq]
  dsimp only
  rw [hweight, UInt32.toNat_ofNat_of_lt' hstream, UInt32.toNat_ofNat_of_lt' hdep]
  have hflag : (if decide (exclusive ≠ 0) = true then 1 else 0) = exclusive ↔ exclusive ≤ 1 := by
    split_ifs with hne
    · have := of_decide_eq_true hne
      omega
    · have := not_not.1 (mt decide_eq_true hne)
      omega
  have hdisplay : (if 0 < weight then weight - 1 else weight) % 2 ^ 8 + 1 = weight ↔
      1 ≤ weight ∧ weight ≤ 256 := by
    split_ifs <;> omega
  rw [hflag, hdisplay]
  simp only [true_and]

/-! ## Separators of settings -/

namespace FingerprintText

variable {t t' : FingerprintText}

/-- A text has one choice of parts. -/
theorem Of.unique {s : Bytes} (h : t.Of s) (h' : t'.Of s) : t = t' := by
  obtain ⟨settings, flow, priority, pseudo⟩ := t
  obtain ⟨settings', flow', priority', pseudo'⟩ := t'
  simpa using h.symm.trans h'

theorem settingItems_eq (h : semicolon ∈ t.settings → comma ∉ t.settings) :
    t.settingItems = settingsParts t.settings := by
  rw [settingItems, settingsParts]
  by_cases hsemicolon : semicolon ∈ t.settings
  · have hcomma := h hsemicolon
    rw [if_pos ⟨hsemicolon, hcomma⟩, split, List.splitOn_eq_singleton hcomma,
      List.flatMap_singleton]
  · have hitem : ∀ p ∈ split t.settings comma, split p semicolon = [p] := fun p hp =>
      List.splitOn_eq_singleton fun hmem => hsemicolon (Radix.mem_of_mem_splitOn hp hmem)
    rw [if_neg fun h => hsemicolon h.1, List.flatMap_congr hitem, List.flatMap_singleton']

/-- With both separators, there are more settings than parts. -/
theorem length_settingsParts_lt (hsemicolon : semicolon ∈ t.settings)
    (hcomma : comma ∈ t.settings) : (settingsParts t.settings).length < t.settingItems.length := by
  have hlength (p : Bytes) : 1 ≤ (split p semicolon).length :=
    List.length_pos_iff.2 (List.splitOn_ne_nil _ _)
  obtain ⟨p, hp, hmem⟩ : ∃ p ∈ split t.settings comma, semicolon ∈ p := by
    have hjoin : join (split t.settings comma) comma = t.settings := List.intercalate_splitOn comma
    rw [← hjoin] at hsemicolon
    exact (Radix.eq_or_mem_of_mem_intercalate hsemicolon).resolve_left (by decide)
  have hlonger : 1 < (split p semicolon).length := by
    obtain ⟨a, b, rfl⟩ := List.append_of_mem hmem
    have := hlength a
    have := hlength b
    rw [split, List.splitOn_append_cons_self, List.length_append, ← split, ← split]
    omega
  rw [settingsParts, if_neg fun h => h.2 hcomma, settingItems, List.length_flatMap]
  calc (split t.settings comma).length = ((split t.settings comma).map fun _ => 1).sum := by simp
    _ < ((split t.settings comma).map fun p => (split p semicolon).length).sum :=
      List.sum_lt_sum _ _ (fun p _ => hlength p) ⟨p, hp, hlonger⟩

/-- Each part begins with an item. -/
theorem exists_settingItem {p : Bytes} (hp : p ∈ settingsParts t.settings) :
    ∃ i ∈ t.settingItems, ∃ rest, p = i ++ rest ∧ ∀ c ∈ rest.head?, c = semicolon := by
  by_cases hseparator : semicolon ∈ t.settings → comma ∉ t.settings
  · exact ⟨p, settingItems_eq hseparator ▸ hp, [], (List.append_nil p).symm, nofun⟩
  · have hcomma : comma ∈ t.settings := by
      by_contra h
      exact hseparator fun _ => h
    rw [settingsParts, if_neg fun h => h.2 hcomma] at hp
    obtain ⟨i, items, hitems⟩ := List.exists_cons_of_ne_nil (List.splitOn_ne_nil semicolon p)
    have hi : i ∈ split p semicolon := by
      rw [split, hitems]
      exact List.mem_cons_self
    have hjoin : join (i :: items) semicolon = p := hitems ▸ List.intercalate_splitOn semicolon
    refine ⟨i, List.mem_flatMap.2 ⟨p, hp, hi⟩, ?_⟩
    rw [← hjoin, join]
    cases items with
    | nil => exact ⟨[], by simp, nofun⟩
    | cons next items =>
      rw [List.intercalate_cons_cons, List.append_assoc]
      exact ⟨_, rfl, fun c hc => (Option.some.inj hc).symm⟩

end FingerprintText

/-! ## Texts of the grammar -/

section

variable {s : Bytes} {t : FingerprintText} {c c' : HTTP2Content} {f : HTTP2Fingerprint}

theorem not_isDigit_colon : ¬Radix.IsDigit 10 colon := by decide

theorem skipSpace_colon (s : Bytes) : skipSpace (colon :: s) = some (colon :: s) := rfl

theorem SettingItem.rightUnique_scans :
    Relator.RightUnique fun p (e : SettingItem) => Scans (2 ^ 32) settingFormat p e.numbers := by
  rintro p ⟨id, val⟩ ⟨id', val'⟩ h h'
  have hnumbers : [id, val] = [id', val'] := h.unique h'
  simpa using hnumbers

theorem PriorityItem.rightUnique_scans :
    Relator.RightUnique fun p (e : PriorityItem) => Scans (2 ^ 32) priorityFormat p e.numbers := by
  rintro p ⟨stream, exclusive, dep, weight⟩ ⟨stream', exclusive', dep', weight'⟩ h h'
  have hnumbers : [stream, exclusive, dep, weight] = [stream', exclusive', dep', weight'] :=
    h.unique h'
  simpa using hnumbers

/-- What is scanned has one content. -/
theorem HTTP2Content.ScannedIn.unique (h : c.ScannedIn t) (h' : c'.ScannedIn t) : c = c' := by
  have hsettings : c.settings = c'.settings :=
    List.right_unique_forall₂' SettingItem.rightUnique_scans h.settings h'.settings
  have hflow : [c.windowUpdate] = [c'.windowUpdate] := h.windowUpdate.unique h'.windowUpdate
  have hpriorities : c.priorities = c'.priorities := by
    by_cases hnone : t.NoPriorities
    · rw [h.priorities_nil hnone, h'.priorities_nil hnone]
    · exact List.right_unique_forall₂' PriorityItem.rightUnique_scans (h.priorities hnone)
        (h'.priorities hnone)
  have hpseudo : c.pseudoHeaders = c'.pseudoHeaders :=
    h.pseudoHeaders.trans h'.pseudoHeaders.symm
  obtain ⟨settings, windowUpdate, priorities, pseudoHeaders⟩ := c
  rw [HTTP2Content.mk.injEq]
  exact ⟨hsettings, List.singleton_inj.1 hflow, hpriorities, hpseudo⟩

theorem HTTP2Content.WrittenIn.numbers_lt (h : c.WrittenIn t) :
    ∀ e ∈ c.settings, ∀ n ∈ e.numbers, n < 2 ^ 32 := by
  intro e he
  have hid := h.ids e he
  rw [SettingItem.numbers, List.forall_mem_cons, List.forall_mem_singleton]
  exact ⟨by omega, h.vals e he⟩

theorem HTTP2Content.WrittenIn.flow_scans (h : c.WrittenIn t) :
    Scans (2 ^ 32) [.decimal] t.flow [c.windowUpdate] :=
  h.windowUpdate.scans_self ⟨trivial, trivial⟩ (by simpa using h.windowUpdate_lt)

theorem HTTP2Content.WrittenIn.priorities_scan (h : c.WrittenIn t) (hlisted : ¬t.NoPriorities) :
    ((split t.priority comma).filter (· ≠ [])).Forall₂
      (fun p e => Scans (2 ^ 32) priorityFormat p e.numbers) c.priorities := by
  have hfilter : (split t.priority comma).filter (· ≠ []) = split t.priority comma := by
    refine List.filter_eq_self.2 fun p hp => decide_eq_true ?_
    obtain ⟨e, -, hwrites⟩ := (exists_mem_of_forall₂ (h.priorities hlisted)).1 p hp
    have hplain : Plain colon 3 p := hwrites.plain (k := 3) not_isDigit_colon
    rintro rfl
    exact absurd hplain.count (by decide)
  rw [hfilter]
  exact forall₂_imp_of_mem (h.priorities hlisted) fun p _ e he hwrites =>
    hwrites.scans_self separated_formats.2 (h.numbers e he)

/-- A text of the grammar is scanned, though not all of it need be. -/
theorem HTTP2Content.WrittenIn.exists_scannedIn (h : c.WrittenIn t) :
    ∃ settings, ScannedIn { c with settings } t := by
  have hsettings : ∃ settings : List SettingItem, (settingsParts t.settings).Forall₂
      (fun p e => Scans (2 ^ 32) settingFormat p e.numbers) settings := by
    refine exists_forall₂_iff.2 fun p hp => ?_
    obtain ⟨i, hi, rest, rfl, hrest⟩ := FingerprintText.exists_settingItem hp
    obtain ⟨e, he, hwrites⟩ := (exists_mem_of_forall₂ h.settings).1 i hi
    refine ⟨e, hwrites.scans separated_formats.1 (h.numbers_lt e he) fun c hc => ?_⟩
    rw [hrest c hc]
    decide
  obtain ⟨settings, hsettings⟩ := hsettings
  exact ⟨settings, hsettings, h.flow_scans, h.priorities_nil, h.priorities_scan, h.pseudoHeaders⟩

/-- All of it is, if the settings have one separator. -/
theorem HTTP2Content.WrittenIn.scannedIn (h : c.WrittenIn t)
    (hseparator : semicolon ∈ t.settings → comma ∉ t.settings) : c.ScannedIn t := by
  refine ⟨?_, h.flow_scans, h.priorities_nil, h.priorities_scan, h.pseudoHeaders⟩
  rw [← FingerprintText.settingItems_eq hseparator]
  exact forall₂_imp_of_mem h.settings fun p _ e he hwrites =>
    hwrites.scans_self separated_formats.1 (h.numbers_lt e he)

theorem HTTP2Content.ScannedIn.settings_lt (h : c.ScannedIn t) :
    ∀ e ∈ c.settings, ∀ n ∈ e.numbers, n < 2 ^ 32 := by
  intro e he
  obtain ⟨p, -, hscans⟩ := (exists_mem_of_forall₂ h.settings).2 e he
  exact hscans.lt

theorem HTTP2Content.ScannedIn.priorities_lt (h : c.ScannedIn t) :
    ∀ e ∈ c.priorities, ∀ n ∈ e.numbers, n < 2 ^ 32 := by
  intro e he
  by_cases hnone : t.NoPriorities
  · rw [h.priorities_nil hnone] at he
    exact absurd he List.not_mem_nil
  · obtain ⟨p, -, hscans⟩ := (exists_mem_of_forall₂ (h.priorities hnone)).2 e he
    exact hscans.lt

/-- Tidy texts are of the grammar. -/
theorem HTTP2Content.ScannedIn.writtenIn (h : c.ScannedIn t) (htidy : c.Tidy t) :
    c.WrittenIn t where
  settings := by
    rw [FingerprintText.settingItems_eq htidy.separator]
    exact forall₂_imp_of_mem h.settings fun p hp e _ hscans =>
      hscans.writes_of_plain not_isDigit_colon skipSpace_colon (htidy.settings p hp)
  ids := htidy.ids
  vals e he := h.settings_lt e he e.val (by simp [SettingItem.numbers])
  windowUpdate := h.windowUpdate.writes_of_plain not_isDigit_colon skipSpace_colon htidy.flow
  windowUpdate_lt := h.windowUpdate.lt _ List.mem_cons_self
  priorities_nil := h.priorities_nil
  priorities hlisted := by
    have hplain := htidy.priorities hlisted
    have hfilter : (split t.priority comma).filter (· ≠ []) = split t.priority comma := by
      refine List.filter_eq_self.2 fun p hp => decide_eq_true ?_
      rintro rfl
      exact absurd (hplain [] hp).count (by decide)
    have hscanned := h.priorities hlisted
    rw [hfilter] at hscanned
    exact forall₂_imp_of_mem hscanned fun p hp e _ hscans =>
      hscans.writes_of_plain not_isDigit_colon skipSpace_colon (hplain p hp)
  numbers := h.priorities_lt
  weights e he := (htidy.weights e he).2
  pseudoHeaders := h.pseudoHeaders

theorem HTTP2Content.ScannedIn.representedBy_iff (h : c.ScannedIn t) :
    c.RepresentedBy (c.fingerprint t) ↔
      (∀ e ∈ c.settings, e.id < 2 ^ 16) ∧
        ∀ e ∈ c.priorities, e.exclusive ≤ 1 ∧ 1 ≤ e.weight ∧ e.weight ≤ 256 := by
  have hsettings : (c.settings.map SettingItem.setting).map HTTP2Setting.item = c.settings ↔
      ∀ e ∈ c.settings, e.id < 2 ^ 16 := by
    rw [List.map_map, map_eq_self_iff]
    refine forall₂_congr fun e he => SettingItem.item_setting_eq_iff ?_
    exact h.settings_lt e he e.val (by simp [SettingItem.numbers])
  have hpriorities : (c.priorities.map PriorityItem.frame).map PriorityFrame.item = c.priorities ↔
      ∀ e ∈ c.priorities, e.exclusive ≤ 1 ∧ 1 ≤ e.weight ∧ e.weight ≤ 256 := by
    rw [List.map_map, map_eq_self_iff]
    exact forall₂_congr fun e he => PriorityItem.item_frame_eq_iff (h.priorities_lt e he)
  have hframes : (c.fingerprint t).frames = c.priorities.map PriorityItem.frame := by
    rw [HTTP2Fingerprint.frames, fingerprint]
    dsimp only
    split_ifs with hnone
    · rw [h.priorities_nil hnone]
      rfl
    · rfl
  rw [← hsettings, ← hpriorities, ← hframes]
  exact ⟨fun h => ⟨h.settings, h.priorities⟩, fun h => ⟨h.1, rfl, h.2, rfl⟩⟩

/-- If no setting is dropped, there is one separator. -/
theorem HTTP2Content.WrittenIn.separator (h : c.WrittenIn t) (hscanned : c'.ScannedIn t)
    (hrepresented : c.RepresentedBy (c'.fingerprint t)) :
    semicolon ∈ t.settings → comma ∉ t.settings := by
  intro hsemicolon hcomma
  have hlength := congrArg List.length hrepresented.settings
  rw [List.length_map, ← h.settings.length_eq, fingerprint, List.length_map,
    ← hscanned.settings.length_eq] at hlength
  exact (FingerprintText.length_settingsParts_lt hsemicolon hcomma).ne hlength

/-- Texts of the grammar are tidy, if they have one separator and their frames are not cut. -/
theorem HTTP2Content.WrittenIn.tidy (h : c.WrittenIn t)
    (hseparator : semicolon ∈ t.settings → comma ∉ t.settings)
    (hframes : ∀ e ∈ c.priorities, e.exclusive ≤ 1 ∧ 1 ≤ e.weight ∧ e.weight ≤ 256) :
    c.Tidy t where
  separator := hseparator
  settings p hp := by
    rw [← FingerprintText.settingItems_eq hseparator] at hp
    obtain ⟨e, -, hwrites⟩ := (exists_mem_of_forall₂ h.settings).1 p hp
    exact hwrites.plain (k := 1) not_isDigit_colon
  ids := h.ids
  flow := h.windowUpdate.plain (k := 0) not_isDigit_colon
  priorities hlisted p hp := by
    obtain ⟨e, -, hwrites⟩ := (exists_mem_of_forall₂ (h.priorities hlisted)).1 p hp
    exact hwrites.plain (k := 3) not_isDigit_colon
  flags e he := (hframes e he).1
  weights e he := (hframes e he).2

/-- The parser reads the grammar exactly if what it scans is tidy. -/
theorem readsGrammar_iff : ReadsGrammar s ↔
    ∀ t c, FingerprintText.Of t s → HTTP2Content.ScannedIn c t → c.Tidy t := by
  constructor
  · intro h t c hof hscanned
    obtain ⟨t', c', hof', hwritten, hrepresented⟩ :=
      h.sound _ (newHTTP2Fingerprint_eq_ok_iff.2 ⟨t, c, hof, hscanned, rfl⟩)
    obtain rfl := FingerprintText.Of.unique hof hof'
    have hseparator := hwritten.separator hscanned hrepresented
    obtain rfl := hscanned.unique (hwritten.scannedIn hseparator)
    exact hwritten.tidy hseparator (hscanned.representedBy_iff.1 hrepresented).2
  · intro h
    refine ⟨fun t c hof hwritten => ?_, fun f hf => ?_⟩
    · obtain ⟨settings, hscanned⟩ := hwritten.exists_scannedIn
      exact ⟨_, newHTTP2Fingerprint_eq_ok_iff.2 ⟨t, _, hof, hscanned, rfl⟩⟩
    · obtain ⟨t, c, hof, hscanned, rfl⟩ := newHTTP2Fingerprint_eq_ok_iff.1 hf
      have htidy := h t c hof hscanned
      refine ⟨t, c, hof, hscanned.writtenIn htidy, hscanned.representedBy_iff.2 ⟨htidy.ids, ?_⟩⟩
      exact fun e he => ⟨htidy.flags e he, htidy.weights e he⟩

end

/-- A fingerprint with both separators, whose second setting is dropped. -/
theorem not_forall_readsGrammar : ¬∀ s, ReadsGrammar s := by
  intro h
  let t : FingerprintText :=
    ⟨utf8 "1:65536;2:0,4:6291456", utf8 "15663105", utf8 "0", utf8 "m,a,s,p"⟩
  let s : Bytes := utf8 "1:65536;2:0,4:6291456|15663105|0|m,a,s,p"
  have hof : t.Of s := by
    simp only [FingerprintText.Of, t, s, utf8_eq_data]
    decide +kernel
  have hseparators : semicolon ∈ t.settings ∧ comma ∈ t.settings := by
    simp only [t, utf8_eq_data]
    decide +kernel
  obtain ⟨f, hf⟩ := exists_ok_of_isSome (x := newHTTP2Fingerprint s) (by
    simp only [s, utf8_eq_data]
    decide +kernel)
  obtain ⟨t', c, hof', hwritten, hrepresented⟩ := (h s).sound f hf
  obtain ⟨t'', c', hof'', hscanned, rfl⟩ := newHTTP2Fingerprint_eq_ok_iff.1 hf
  obtain rfl := hof.unique hof'
  obtain rfl := hof.unique hof''
  exact hwritten.separator hscanned hrepresented hseparators.1 hseparators.2

end CycleTLS
