import CycleTLS.Lib.Runs
import CycleTLS.Registry

/-!
# Captured fingerprints (`load_trackme_fingerprints`)

A capture has what a server saw of some browsers. Either it lists profiles, or it has an entry for
each browser by its name, as the older captures do. Then the name of a profile is built of that of
the browser and the version in its user agent.

* A name that is built has the numbers of the browser's name and those of the version
  (`runs_buildTrackmeName`).
* All profiles of a file are read before the first is registered
  (`exec_loadTrackmeFingerprints`).
-/

namespace CycleTLS

open Raising

/-- What Python knows of texts. -/
structure TextEnv where
  /-- `str`, on what is no text. -/
  str : JSON → String
  lower : List Char → List Char
  strip : List Char → List Char
  /-- The value of a character that `\d` is. -/
  decimal : Char → Option Nat
  /-- A list of keys, as it is written. -/
  listText : List Key → String

/-- What a text in lower case has in common with the text, and what Python knows of ASCII. The
    lower case of a letter may depend on the letters around it, but not across an underscore. -/
structure TextEnv.Lawful (env : TextEnv) : Prop where
  lower_underscore : ∀ s t : List Char, (∀ c ∈ t, c.toNat < 128) →
    env.lower (s ++ '_' :: t) = env.lower s ++ '_' :: t.map Char.toLower
  runs_lower : ∀ s : List Char, Runs.runs env.decimal (env.lower s) = Runs.runs env.decimal s
  decimal_ascii : ∀ c : Char, c.toNat < 128 →
    env.decimal c = if c.isDigit then some (c.toNat - 48) else none

/-- ASCII. -/
def asciiEnv : TextEnv where
  str _ := "None"
  lower s := s.map Char.toLower
  strip s := Runs.trim Char.isWhitespace s
  decimal c := if c.isDigit then some (c.toNat - 48) else none
  listText _ := "[]"

theorem toLower_eq_self {c : Char} (h : ¬('A'.val ≤ c.val ∧ c.val ≤ 'Z'.val)) : c.toLower = c :=
  dif_neg h

theorem toNat_toLower {c : Char} (h : 'A'.val ≤ c.val ∧ c.val ≤ 'Z'.val) :
    c.toLower.toNat = c.toNat + 32 := by
  have hle : c.val.toNat ≤ 90 := UInt32.le_iff_toNat_le.1 h.2
  have hadd : (c.val + 32).toNat = (c.val.toNat + 32) % 2 ^ 32 := UInt32.toNat_add ..
  delta Char.toLower
  rw [dif_pos h]
  change (c.val + 32).toNat = c.val.toNat + 32
  omega

/-- The digits have lower codes than the letters. -/
theorem decimal_eq_none {c : Char} (h : 65 ≤ c.toNat) : asciiEnv.decimal c = none := by
  change (if c.isDigit then some (c.toNat - 48) else none) = none
  refine if_neg fun hdigit => ?_
  have hnine : c.toNat ≤ 57 := (Char.isDigit_iff_toNat.1 hdigit).2
  omega

theorem decimal_toLower (c : Char) : asciiEnv.decimal c.toLower = asciiEnv.decimal c := by
  by_cases hupper : 'A'.val ≤ c.val ∧ c.val ≤ 'Z'.val
  · have hge : 65 ≤ c.toNat := UInt32.le_iff_toNat_le.1 hupper.1
    have hlower := toNat_toLower hupper
    rw [decimal_eq_none (by omega), decimal_eq_none hge]
  · rw [toLower_eq_self hupper]

theorem asciiEnv_lawful : asciiEnv.Lawful where
  lower_underscore s t _ := by
    simp only [asciiEnv, List.map_append, List.map_cons]
    rfl
  runs_lower s := Runs.runs_map fun c _ => decimal_toLower c
  decimal_ascii _ _ := rfl

/-! ## The source -/

namespace Captures

variable (env : TextEnv)

/-- `str(v)`. -/
def format : JSON → String
  | .str s => s
  | v => env.str v

/-- `v or w`. -/
def orElse (v w : JSON) : JSON := if v.truthy then v else w

/-- The name of a header, unless it is a pseudo header. -/
def headerName : JSON → Option String
  | .str header =>
    let text := header.toList
    -- `:method` and such have their colon in front
    if text.head? = some ':' ∨ ':' ∉ text then none
    else
      let name := env.lower (env.strip (text.takeWhile fun c => c ≠ ':'))
      if name = [] then none else some (String.ofList name)
  | _ => none

/-- The names of the headers of a frame, if it has headers. -/
def orderedHeaders (frame : List (String × JSON)) : List String :=
  match itemOr frame "frame_type" .null, itemOr frame "headers" .null with
  | .str "HEADERS", .list headers => headers.filterMap (headerName env)
  | _, _ => []

/-- `_extract_header_order_from_trackme_raw`. -/
def extractHeaderOrder (raw : List (String × JSON)) : Except Raised (List String) :=
  match itemOr raw "http2" (.dict []) with
  | .dict http2 =>
    match itemOr http2 "sent_frames" (.list []) with
    | .list frames =>
      let orders := (frames.filterMap JSON.asDict).map (orderedHeaders env)
      -- the first frame that has names has the order
      return (orders.find? fun ordered => ordered ≠ []).getD []
    | _ => return []
  | _ => throw .attributeError

/-- A character of `[0-9.]`. -/
def isVersionChar (c : Char) : Bool := c.isDigit || c = '.'

/-- `re.search`, for some words with a version behind them. -/
def searchToken (words : List String) : List Char → Option (List Char)
  | [] => none
  | c :: text =>
    -- of the words that match here the first one counts, and of the places the first one
    let found := words.findSome? fun word =>
      let version := ((c :: text).drop word.toList.length).takeWhile isVersionChar
      if word.toList <+: c :: text ∧ version ≠ [] then some version else none
    found.or (searchToken words text)

/-- The words before the version of a browser, by its name in lower case. -/
def tokens (browser : List Char) : Option (List String) :=
  if browser = "firefox".toList then some ["Firefox/"]
  else if browser = "chromium".toList ∨ browser = "chrome".toList then
    -- the later word is found in the earlier one, but behind it
    some ["HeadlessChrome/", "Chrome/"]
  else none

/-- `_extract_trackme_version`. -/
def extractTrackmeVersion (browser userAgent : List Char) : List Char :=
  (((tokens (env.lower browser)).bind fun words => searchToken words userAgent).getD
    "unknown".toList)

/-- What is no character of `[0-9A-Za-z]`. -/
def isUnsafe (c : Char) : Bool := !c.isAlphanum

/-- The version as it stands in a name. -/
def safeVersion (version : List Char) : List Char :=
  let safe := Runs.trim (fun c => c = '_') (Runs.collapse isUnsafe '_' false version)
  if safe = [] then "unknown".toList else safe

/-- `_build_trackme_name`. -/
def buildTrackmeName (browser version : List Char) : List Char :=
  env.lower (browser ++ '_' :: safeVersion version)

/-- What is taken of a profile in a list. -/
def normalizeEntry (entry : List (String × JSON)) : List (String × JSON) :=
  let get (key : String) := itemOr entry key .null
  [("name", get "name"), ("ja3", get "ja3"), ("ja4r", orElse (get "ja4_r") (get "ja4r")),
    ("http2_fingerprint", orElse (get "http2") (get "http2_fingerprint")),
    ("user_agent", orElse (get "ua") (get "user_agent")),
    ("header_order", get "header_order"), ("headers", get "headers")]

/-- The user agent of a browser. -/
def userAgent (entry : List (String × JSON)) : JSON :=
  let raw := (itemOr entry "raw" .null).asDict.getD []
  orElse (orElse (itemOr entry "ua" .null) (itemOr raw "user_agent" .null)) (.str "")

/-- The version of a browser. -/
def version (browser : String) (entry : List (String × JSON)) : List Char :=
  extractTrackmeVersion env browser.toList (format env (userAgent entry)).toList

/-- What is taken of the entry of a browser. -/
def normalizeBrowser (browser : String) (entry : List (String × JSON)) :
    Except Raised (List (String × JSON)) := do
  let get (key : String) := itemOr entry key .null
  let order ← extractHeaderOrder env ((itemOr entry "raw" .null).asDict.getD [])
  let name := buildTrackmeName env browser.toList (version env browser entry)
  return [("name", .str (String.ofList name)), ("ja3", get "ja3"),
    ("ja4r", orElse (get "ja4_r") (get "ja4r")),
    ("http2_fingerprint", orElse (get "http2") (get "http2_akamai")),
    ("user_agent", userAgent entry), ("header_order", .list (order.map .str))]

/-- The entries of browsers. -/
def browsers (items : List (String × JSON)) : List (String × List (String × JSON)) :=
  items.filterMap fun e =>
    match e.2 with
    -- a browser that failed has its error in place of a fingerprint
    | .dict entry => if (entry.lookup "error").isSome then none else some (e.1, entry)
    | _ => none

/-- `_normalize_trackme_payload`. -/
def normalizeTrackmePayload : JSON → Except Raised (List (List (String × JSON)))
  | .dict items =>
    match itemOr items "fingerprints" .null with
    | .list entries => .ok ((entries.filterMap JSON.asDict).map normalizeEntry)
    -- older captures have the browsers by their names
    | _ => (browsers items).mapM fun e => normalizeBrowser env e.1 e.2
  | _ => .error .attributeError

/-- An entry has a name and a JA3. -/
def isComplete (entry : List (String × JSON)) : Bool :=
  (itemOr entry "name" .null).truthy && (itemOr entry "ja3" .null).truthy

/-- A profile is registered, as it is read. -/
def registerEntry (entry : List (String × JSON)) : Registry.RegistryM Profile := do
  let profile ← liftM (Profile.fromDict entry)
  Registry.register profile
  return profile

/-- `load_trackme_fingerprints`, for what reading and parsing the file gave. -/
def loadTrackmeFingerprints (file : Except Raised JSON) : Registry.RegistryM (List Profile) := do
  let payload ← liftM file
  let entries ← liftM (normalizeTrackmePayload env payload)
  (entries.filter isComplete).mapM registerEntry

/-! ## The names that are built -/

variable {env} {browser version : List Char}

theorem isVersionChar_of_searchToken {words : List String} {text : List Char}
    (h : searchToken words text = some version) : ∀ c ∈ version, isVersionChar c = true := by
  induction text with
  | nil => cases h
  | cons c text ih =>
    rw [searchToken, Option.or_eq_some_iff] at h
    rcases h with h | ⟨-, h⟩
    · obtain ⟨word, -, hword⟩ := List.exists_of_findSome?_eq_some h
      simp only [Option.ite_none_right_eq_some, Option.some.injEq] at hword
      rw [← hword.2]
      exact fun c hc => (List.mem_takeWhile_imp hc)
    · exact ih h

/-- A version, as it is found: digits and dots, unless it is not known. -/
def IsVersion (version : List Char) : Prop :=
  version = "unknown".toList ∨ ∀ c ∈ version, isVersionChar c = true

variable (env) in
theorem isVersion_version (browser : String) (entry : List (String × JSON)) :
    IsVersion (Captures.version env browser entry) := by
  rw [Captures.version, extractTrackmeVersion]
  cases h : (tokens (env.lower browser.toList)).bind fun words =>
      searchToken words (format env (userAgent entry)).toList with
  | none => exact .inl rfl
  | some version =>
    obtain ⟨words, -, hsearch⟩ := Option.bind_eq_some_iff.1 h
    exact .inr (isVersionChar_of_searchToken hsearch)

/-- The version in a name has its digits, unless it is not known. -/
theorem safeVersion_cases (h : IsVersion version) : safeVersion version = "unknown".toList ∨
    (∀ c ∈ safeVersion version, c = '_' ∨ c.isDigit = true) ∧
      ∃ c, (safeVersion version).getLast? = some c ∧ c.isDigit = true := by
  rcases h with rfl | h
  · exact .inl rfl
  rw [safeVersion]
  split_ifs with hempty
  · exact .inl rfl
  have hchars : ∀ c ∈ Runs.trim (fun c => c = '_') (Runs.collapse isUnsafe '_' false version),
      c = '_' ∨ c.isDigit = true := by
    intro c hc
    have hmem := (List.dropWhile_sublist _).subset ((List.rdropWhile_prefix _ _).subset hc)
    refine (Runs.mem_collapse hmem).imp_right fun ⟨hc, hsafe⟩ => ?_
    have hversion := h c hc
    rw [isVersionChar, Bool.or_eq_true, decide_eq_true_iff] at hversion
    -- a dot would have become an underscore
    refine hversion.resolve_right fun hdot => ?_
    rw [hdot] at hsafe
    revert hsafe
    decide
  have hlast := List.getLast?_eq_some_getLast hempty
  have hnot := List.rdropWhile_last_not _ _ hempty
  refine .inr ⟨hchars, _, hlast, (hchars _ (List.getLast_mem hempty)).resolve_left fun heq => ?_⟩
  exact hnot (decide_eq_true heq)

theorem lowercase_of_safe {c : Char} (h : c = '_' ∨ c.isDigit = true) :
    c.toNat < 128 ∧ c.toLower = c := by
  rcases h with rfl | h
  · decide
  · have hle : c.toNat ≤ 57 := (Char.isDigit_iff_toNat.1 h).2
    refine ⟨by omega, toLower_eq_self fun hupper => ?_⟩
    have hge : 65 ≤ c.toNat := UInt32.le_iff_toNat_le.1 hupper.1
    omega

theorem lowercase_safeVersion (h : IsVersion version) :
    ∀ c ∈ safeVersion version, c.toNat < 128 ∧ c.toLower = c := by
  rcases safeVersion_cases h with h | ⟨h, -⟩
  · rw [h]
    exact List.forall_iff_forall_mem.1 (by decide)
  · exact fun c hc => lowercase_of_safe (h c hc)

variable (henv : env.Lawful)

include henv

theorem buildTrackmeName_eq (browser : List Char) (h : IsVersion version) :
    buildTrackmeName env browser version = env.lower browser ++ '_' :: safeVersion version := by
  have hlower := lowercase_safeVersion h
  rw [buildTrackmeName, henv.lower_underscore _ _ fun c hc => (hlower c hc).1,
    List.map_congr_left fun c hc => (hlower c hc).2, List.map_id']

theorem decimal_underscore : env.decimal '_' = none := henv.decimal_ascii '_' (by decide)

theorem runs_unknown : Runs.runs env.decimal "unknown".toList = [] := by
  refine Runs.runs_of_none fun c hc => ?_
  have hascii : ∀ c ∈ "unknown".toList, c.toNat < 128 ∧ c.isDigit = false :=
    List.forall_iff_forall_mem.1 (by decide)
  rw [henv.decimal_ascii c (hascii c hc).1, (hascii c hc).2]
  rfl

/-- The numbers of a version stay in a name. -/
theorem runs_safeVersion (h : IsVersion version) :
    Runs.runs env.decimal (safeVersion version) = Runs.runs env.decimal version := by
  have hunsafe : ∀ c ∈ version, isUnsafe c = true → env.decimal c = none := by
    rcases h with rfl | h
    · have hsafe : ∀ c ∈ "unknown".toList, isUnsafe c = false :=
        List.forall_iff_forall_mem.1 (by decide)
      exact fun c hc hunsafe => absurd hunsafe (by simp [hsafe c hc])
    · intro c hc hunsafe
      have hversion := h c hc
      rw [isVersionChar, Bool.or_eq_true, decide_eq_true_iff] at hversion
      -- of a version only the dots are replaced, which have no value
      rcases hversion with hdigit | rfl
      · simp [isUnsafe, Char.isAlphanum, hdigit] at hunsafe
      · exact henv.decimal_ascii '.' (by decide)
  have hsafe : Runs.runs env.decimal (Runs.trim (fun c => c = '_')
      (Runs.collapse isUnsafe '_' false version)) = Runs.runs env.decimal version := by
    rw [Runs.runs_trim fun c hc => of_decide_eq_true hc ▸ decimal_underscore henv,
      Runs.runs_collapse hunsafe (decimal_underscore henv)]
  rw [safeVersion, ← hsafe]
  split_ifs with hempty
  · rw [hempty, runs_unknown henv]
    rfl
  · rfl

/-- The numbers of a name are those of the browser's name and those of the version. -/
theorem runs_buildTrackmeName (browser : List Char) (h : IsVersion version) :
    Runs.runs env.decimal (buildTrackmeName env browser version) =
      Runs.runs env.decimal browser ++ Runs.runs env.decimal version := by
  rw [buildTrackmeName_eq henv browser h, Runs.runs_append_cons (decimal_underscore henv),
    henv.runs_lower, runs_safeVersion henv h]

omit henv

/-! ## Loading -/

/-- The profiles of a file. -/
def readCaptures (env : TextEnv) (file : Except Raised JSON) : Except Raised (List Profile) := do
  let payload ← file
  let entries ← normalizeTrackmePayload env payload
  (entries.filter isComplete).mapM Profile.fromDict

theorem exists_fromDict {entry : List (String × JSON)} (h : isComplete entry = true) :
    ∃ p, Profile.fromDict entry = .ok p := by
  have hitem {key : String} (h : (itemOr entry key .null).truthy = true) :
      item entry key = .ok (itemOr entry key .null) := by
    rw [item]
    cases hkey : entry.lookup key with
    | some v => rw [itemOr, hkey, Option.getD_some]
    | none =>
      rw [itemOr, hkey, Option.getD_none] at h
      cases h
  rw [isComplete, Bool.and_eq_true] at h
  rw [Profile.fromDict, hitem h.1, ok_bind, hitem h.2]
  exact ⟨_, rfl⟩

theorem exec_mapM_registerEntry {entries : List (List (String × JSON))} {ps : List Profile}
    (h : entries.mapM Profile.fromDict = .ok ps) (r : Registry) :
    exec (entries.mapM registerEntry) r =
      (if ∀ p ∈ ps, p.name.key.isSome then .ok ps else .error .typeError,
        r.setAll Prod.fst Prod.snd (Registry.named ps)) := by
  induction entries generalizing r ps with
  | nil =>
    obtain rfl : [] = ps := Except.ok.inj h
    simp [Registry.named, Dict.setAll]
  | cons entry entries ih =>
    rw [List.mapM_cons, bind_eq_ok_iff] at h
    obtain ⟨p, hp, h⟩ := h
    obtain ⟨ps, hps, h⟩ := bind_eq_ok_iff.1 h
    obtain rfl := Except.ok.inj h
    have hentry : exec (registerEntry entry) r =
        exec (Registry.register p >>= fun _ => pure p) r := by
      rw [registerEntry, hp]
      rfl
    rw [List.mapM_cons, exec_bind, hentry, Registry.named]
    cases hkey : p.name.key with
    -- the first name that is no key ends it, behind what was registered
    | none => simp [Registry.register, hkey, Dict.setAll]
    | some key =>
      have hregister : exec (Registry.register p >>= fun _ => pure p) r = (.ok p, r.set key p) := by
        rw [Registry.register, hkey]
        rfl
      rw [hregister]
      change exec (entries.mapM registerEntry >>= fun ps => pure (p :: ps)) (r.set key p) = _
      have hall : (∀ q ∈ p :: ps, q.name.key.isSome) ↔ ∀ q ∈ ps, q.name.key.isSome := by
        simp [hkey]
      simp only [exec_bind, ih hps, hall]
      split_ifs <;> rfl

/-- All profiles of a file are read before the first is registered. -/
theorem exec_loadTrackmeFingerprints {file : Except Raised JSON} {loaded : List Profile}
    (h : readCaptures env file = .ok loaded) (r : Registry) :
    exec (loadTrackmeFingerprints env file) r =
      (if ∀ p ∈ loaded, p.name.key.isSome then .ok loaded else .error .typeError,
        r.setAll Prod.fst Prod.snd (Registry.named loaded)) := by
  obtain ⟨payload, rfl, hread⟩ := bind_eq_ok_iff.1 h
  obtain ⟨entries, hentries, hloaded⟩ := bind_eq_ok_iff.1 hread
  have hload : exec (loadTrackmeFingerprints env (.ok payload)) r =
      exec (liftM (normalizeTrackmePayload env payload) >>= fun entries =>
        (entries.filter isComplete).mapM registerEntry) r := rfl
  rw [hload, hentries]
  exact exec_mapM_registerEntry hloaded r

theorem exec_loadTrackmeFingerprints_of_error {file : Except Raised JSON} {e : Raised}
    (h : readCaptures env file = .error e) (r : Registry) :
    exec (loadTrackmeFingerprints env file) r = (.error e, r) := by
  cases file with
  | error e' =>
    obtain rfl : e' = e := Except.error.inj h
    rfl
  | ok payload =>
    have hload : exec (loadTrackmeFingerprints env (.ok payload)) r =
        exec (liftM (normalizeTrackmePayload env payload) >>= fun entries =>
          (entries.filter isComplete).mapM registerEntry) r := rfl
    rw [readCaptures, ok_bind] at h
    rw [hload]
    cases hentries : normalizeTrackmePayload env payload with
    | error e' =>
      rw [hentries] at h
      obtain rfl : e' = e := Except.error.inj h
      rfl
    | ok entries =>
      -- no profile of what is complete fails to be read, so the error is not one of these
      have hread : ∀ entry ∈ entries.filter isComplete, ∃ p, Profile.fromDict entry = .ok p :=
        fun entry hentry => exists_fromDict (List.mem_filter.1 hentry).2
      obtain ⟨ps, hps⟩ := exists_mapM_eq_ok_iff.2 hread
      rw [hentries, ok_bind, hps] at h
      cases h

/-! ## What is loaded of the entries of browsers -/

theorem mem_browsers {items : List (String × JSON)} {browser : String}
    {entry : List (String × JSON)} (hmem : (browser, .dict entry) ∈ items)
    (herror : entry.lookup "error" = none) : (browser, entry) ∈ browsers items :=
  List.mem_filterMap.2 ⟨(browser, .dict entry), hmem, by simp [herror]⟩

theorem name_of_normalizeBrowser {browser : String} {entry taken : List (String × JSON)}
    (h : normalizeBrowser env browser entry = .ok taken) :
    itemOr taken "name" .null =
        .str (String.ofList (buildTrackmeName env browser.toList
          (Captures.version env browser entry))) ∧
      itemOr taken "ja3" .null = itemOr entry "ja3" .null := by
  obtain ⟨order, -, h⟩ := bind_eq_ok_iff.1 h
  obtain rfl := Except.ok.inj h
  exact ⟨rfl, rfl⟩

theorem itemOr_of_item {data : List (String × JSON)} {key : String} {v : JSON} (default : JSON)
    (h : item data key = .ok v) : itemOr data key default = v := by
  rw [item] at h
  cases hkey : data.lookup key with
  | none => simp [hkey] at h
  | some w =>
    rw [hkey] at h
    rw [itemOr, hkey]
    exact Except.ok.inj h

theorem name_of_fromDict {entry : List (String × JSON)} {p : Profile}
    (h : Profile.fromDict entry = .ok p) : p.name = itemOr entry "name" .null := by
  obtain ⟨name, hname, hrest⟩ := bind_eq_ok_iff.1 h
  obtain ⟨ja3, -, hp⟩ := bind_eq_ok_iff.1 hrest
  rw [itemOr_of_item .null hname, ← Except.ok.inj hp]

theorem normalizeTrackmePayload_of_browsers {items : List (String × JSON)}
    (hold : ∀ vs, itemOr items "fingerprints" .null ≠ .list vs) :
    normalizeTrackmePayload env (.dict items) =
      (browsers items).mapM fun e => normalizeBrowser env e.1 e.2 := by
  rw [normalizeTrackmePayload]
  split
  · exact absurd ‹_› (hold _)
  · rfl

/-- What captures of browsers give: profiles with names that are texts, one for each browser that
    has a JA3. -/
theorem readCaptures_of_browsers (henv : env.Lawful) {items : List (String × JSON)}
    {entries : List (List (String × JSON))}
    (hold : ∀ vs, itemOr items "fingerprints" .null ≠ .list vs)
    (h : normalizeTrackmePayload env (.dict items) = .ok entries) :
    ∃ loaded, readCaptures env (.ok (.dict items)) = .ok loaded ∧
      (∀ p ∈ loaded, ∃ name, p.name = .str name) ∧
      ∀ browser entry, (browser, entry) ∈ browsers items →
        (itemOr entry "ja3" .null).truthy = true →
          ∃ p ∈ loaded, p.name = .str (String.ofList (buildTrackmeName env browser.toList
            (Captures.version env browser entry))) := by
  have hread : ∀ entry ∈ entries.filter isComplete, ∃ p, Profile.fromDict entry = .ok p :=
    fun entry hentry => exists_fromDict (List.mem_filter.1 hentry).2
  obtain ⟨loaded, hloaded⟩ := exists_mapM_eq_ok_iff.2 hread
  rw [normalizeTrackmePayload_of_browsers hold, mapM_eq_ok_iff] at h
  rw [mapM_eq_ok_iff] at hloaded
  refine ⟨loaded, ?_, fun p hp => ?_, fun browser entry hmem hja3 => ?_⟩
  · rw [readCaptures, ok_bind, normalizeTrackmePayload_of_browsers hold, mapM_eq_ok_iff.2 h,
      ok_bind, mapM_eq_ok_iff.2 hloaded]
  · have hmap : Except.ok p ∈ (entries.filter isComplete).map Profile.fromDict :=
      hloaded ▸ List.mem_map_of_mem hp
    obtain ⟨taken, htaken, hdict⟩ := List.mem_map.1 hmap
    have hbrowser : Except.ok taken ∈
        (browsers items).map fun e => normalizeBrowser env e.1 e.2 := by
      rw [h]
      exact List.mem_map_of_mem (List.mem_of_mem_filter htaken)
    obtain ⟨e, -, he⟩ := List.mem_map.1 hbrowser
    exact ⟨_, (name_of_fromDict hdict).trans (name_of_normalizeBrowser he).1⟩
  · have hbrowser : normalizeBrowser env browser entry ∈ entries.map Except.ok := by
      rw [← h]
      exact List.mem_map.2 ⟨(browser, entry), hmem, rfl⟩
    obtain ⟨taken, htaken, he⟩ := List.mem_map.1 hbrowser
    obtain ⟨hname, htakenJA3⟩ := name_of_normalizeBrowser he.symm
    -- a name that is built has an underscore, so it is not empty
    have hcomplete : isComplete taken = true := by
      rw [isComplete, hname, htakenJA3, hja3, Bool.and_true, JSON.truthy, decide_eq_true_iff]
      intro hempty
      have hchars := congrArg String.toList hempty
      rw [String.toList_ofList, buildTrackmeName_eq henv _ (isVersion_version env browser entry)]
        at hchars
      exact List.append_ne_nil_of_right_ne_nil _ (List.cons_ne_nil _ _) hchars
    have hmap : Profile.fromDict taken ∈ loaded.map Except.ok :=
      hloaded ▸ List.mem_map_of_mem (List.mem_filter.2 ⟨htaken, hcomplete⟩)
    obtain ⟨p, hp, hdict⟩ := List.mem_map.1 hmap
    exact ⟨p, hp, (name_of_fromDict hdict.symm).trans hname⟩

end Captures

end CycleTLS
