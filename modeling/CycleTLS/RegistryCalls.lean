import CycleTLS.RegistryLookup

/-!
# Calls on the registry of profiles

* After any calls on the registry, `latest` returns a profile that was registered last under its
  name, and of those that are looked for the first with the highest version. It raises if there is
  none, or if a name is no text (`latest_run`).
* What is captured of a browser is found by the browser's name, with the version that is in its user
  agent (`latest_captured`), but for no platform (`not_isSuffixOf_buildTrackmeName`).
* What calls have left in the registry is saved and read back, as it stands. To read it as captures
  leaves out what a capture has no field for (`persisted`).
-/

namespace CycleTLS

open Raising

variable (env : TextEnv)

/-- A call that changes the registry. What is registered may come from files, with values of any
    type. -/
inductive RegistryCall
  | register (p : Profile)
  | registerMany (ps : List Profile)
  | unregister (name : String)
  | clear
  | loadFromFile (path : String) (file : Except Raised JSON) (clears : Bool)
  | loadTrackmeFingerprints (file : Except Raised JSON)

namespace RegistryCall

def perform : RegistryCall → Registry.RegistryM Unit
  | register p => Registry.register p
  | registerMany ps => Registry.registerMany ps
  | unregister name => do let _ ← Registry.unregister name
  | clear => Registry.clear
  | loadFromFile path file clears => do let _ ← Registry.loadFromFile path file clears
  | loadTrackmeFingerprints file => do let _ ← Captures.loadTrackmeFingerprints env file

/-- The registry after some calls, whether they raise or not. -/
def run (calls : List RegistryCall) : Registry :=
  calls.foldl (fun r call => (exec (call.perform env) r).2) .empty

/-- What happens to a registry. -/
inductive Event
  | registered (key : Key) (p : Profile)
  | unregistered (key : Key)
  | cleared

namespace Event

/-- The profile that a key has, for the one that it had before. -/
def after (key : Key) (before : Option Profile) : Event → Option Profile
  | registered key' p => if key' = key then some p else before
  | unregistered key' => if key' = key then none else before
  | cleared => none

def apply (r : Registry) : Event → Registry
  | registered key p => r.set key p
  | unregistered key => r.erase key
  | cleared => .empty

end Event

/-- Profiles are registered, up to the first whose name cannot be a key. -/
def registrations (ps : List Profile) : List Event :=
  (Registry.named ps).map fun e => .registered e.1 e.2

/-- What happens in a call. -/
def events : RegistryCall → List Event
  | register p => registrations [p]
  | registerMany ps => registrations ps
  | unregister name => [.unregistered (.str name)]
  | clear => [.cleared]
  | loadFromFile path file clears =>
    match Registry.readProfiles path file with
    -- a file that cannot be read changes nothing, also where the registry is to be cleared
    | .ok loaded => (if clears then [.cleared] else []) ++ registrations loaded
    | .error _ => []
  | loadTrackmeFingerprints file =>
    match Captures.readCaptures env file with
    | .ok loaded => registrations loaded
    | .error _ => []

/-- The profile that was registered last under a key, unless it has been taken back since. -/
def standing (calls : List RegistryCall) (key : Key) : Option Profile :=
  (calls.flatMap (events env)).foldl (Event.after key) none

variable {env}

theorem foldl_registrations (ps : List Profile) (r : Registry) :
    (registrations ps).foldl Event.apply r = r.setAll Prod.fst Prod.snd (Registry.named ps) := by
  rw [registrations, List.foldl_map]
  rfl

theorem snd_exec_bind_unit {α : Type} (m : Registry.RegistryM α) (r : Registry) :
    (exec (do let _ ← m : Registry.RegistryM Unit) r).2 = (exec m r).2 := by
  rw [exec_bind]
  rcases exec m r with ⟨_ | _, _⟩ <;> rfl

/-- A call does what its events say. -/
theorem snd_exec_perform (call : RegistryCall) (r : Registry) :
    (exec (call.perform env) r).2 = (call.events env).foldl Event.apply r := by
  cases call with
  | register p =>
    rw [events, foldl_registrations, perform, Registry.register, Registry.named]
    cases p.name.key with
    | some key => rfl
    | none => rfl
  | registerMany ps =>
    rw [events, foldl_registrations, perform, Registry.exec_registerMany]
  | unregister name =>
    rw [perform, snd_exec_bind_unit, Registry.unregister]
    simp only [exec_bind, exec_get]
    split_ifs with hsome
    · rfl
    -- what is not registered is not there to be taken back
    · change r = r.erase (.str name)
      refine Dict.ext (List.filter_eq_self.2 fun e he => ?_).symm
      refine decide_eq_true fun hkey : e.1 = .str name => hsome ?_
      rw [← hkey, Dict.mem_entries_iff.1 he]
      rfl
  | clear => rfl
  | loadFromFile path file clears =>
    rw [perform, snd_exec_bind_unit, events]
    cases hread : Registry.readProfiles path file with
    | ok loaded =>
      rw [Registry.exec_loadFromFile hread, List.foldl_append, foldl_registrations]
      cases clears <;> rfl
    | error e =>
      rw [Registry.loadFromFile, hread]
      rfl
  | loadTrackmeFingerprints file =>
    rw [perform, snd_exec_bind_unit, events]
    cases hread : Captures.readCaptures env file with
    | ok loaded => rw [Captures.exec_loadTrackmeFingerprints hread, foldl_registrations]
    | error e =>
      rw [Captures.exec_loadTrackmeFingerprints_of_error hread]
      rfl

variable (env) in
theorem run_eq (calls : List RegistryCall) :
    run env calls = (calls.flatMap (events env)).foldl Event.apply .empty := by
  rw [run, List.foldl_flatMap]
  exact congrArg (fun f => calls.foldl f .empty) (funext₂ fun r call => snd_exec_perform call r)

theorem get?_apply (event : Event) (r : Registry) (key : Key) :
    (event.apply r).get? key = event.after key (r.get? key) := by
  cases event with
  | registered key' p =>
    rw [Event.apply, Event.after, Dict.get?_set]
    by_cases hkey : key' = key
    · rw [if_pos hkey, hkey, Function.update_self]
    · rw [if_neg hkey, Function.update_of_ne (Ne.symm hkey)]
  | unregistered key' =>
    rw [Event.apply, Event.after]
    by_cases hkey : key' = key
    · rw [if_pos hkey, hkey, Dict.get?_erase_self]
    · rw [if_neg hkey, Dict.get?_erase_of_ne _ (Ne.symm hkey)]
  | cleared => exact Dict.get?_empty key

/-- The registry has what was registered last. -/
theorem get?_run (calls : List RegistryCall) (key : Key) :
    (run env calls).get? key = standing env calls key := by
  have hfold (es : List Event) (r : Registry) :
      (es.foldl Event.apply r).get? key = es.foldl (Event.after key) (r.get? key) := by
    induction es generalizing r with
    | nil => rfl
    | cons e es ih => rw [List.foldl_cons, List.foldl_cons, ih, get?_apply]
  rw [run_eq, hfold, Dict.get?_empty, standing]

/-- A profile is registered under the key that its name is. -/
def nameKey (p : Profile) : Key := p.name.key.getD .null

theorem nameKey_of_mem_named {ps : List Profile} {e : Key × Profile}
    (h : e ∈ Registry.named ps) : nameKey e.2 = e.1 := by
  -- a name that is no key ends what is registered
  induction ps with
  | nil => cases h
  | cons p ps ih =>
    rw [Registry.named] at h
    cases hkey : p.name.key with
    | none => simp [hkey] at h
    | some key =>
      simp only [hkey, List.mem_cons] at h
      rcases h with rfl | h
      · rw [nameKey, hkey, Option.getD_some]
      · exact ih h

theorem nameKey_of_mem_registrations {ps : List Profile} {key : Key} {p : Profile}
    (h : .registered key p ∈ registrations ps) : nameKey p = key := by
  obtain ⟨e, he, heq⟩ := List.mem_map.1 h
  cases heq
  exact nameKey_of_mem_named he

theorem nameKey_of_mem_events {call : RegistryCall} {key : Key} {p : Profile}
    (h : .registered key p ∈ call.events env) : nameKey p = key := by
  cases call with
  | register p => exact nameKey_of_mem_registrations h
  | registerMany ps => exact nameKey_of_mem_registrations h
  | unregister name => simp [events] at h
  | clear => simp [events] at h
  | loadFromFile path file clears =>
    rw [events] at h
    cases hread : Registry.readProfiles path file with
    | ok loaded =>
      rw [hread] at h
      rcases List.mem_append.1 h with h | h
      · cases clears <;> simp at h
      · exact nameKey_of_mem_registrations h
    | error e => simp [hread] at h
  | loadTrackmeFingerprints file =>
    rw [events] at h
    cases hread : Captures.readCaptures env file with
    | ok loaded =>
      rw [hread] at h
      exact nameKey_of_mem_registrations h
    | error e => simp [hread] at h

theorem keyed_run (calls : List RegistryCall) : (run env calls).Keyed nameKey := by
  have hfold (es : List Event) (r : Registry) (hr : r.Keyed nameKey)
      (hes : ∀ key p, .registered key p ∈ es → nameKey p = key) :
      (es.foldl Event.apply r).Keyed nameKey := by
    induction es generalizing r with
    | nil => exact hr
    | cons e es ih =>
      refine ih _ ?_ fun key p hmem => hes key p (List.mem_cons_of_mem e hmem)
      cases e with
      | registered key p => exact hr.set (hes key p List.mem_cons_self)
      | unregistered key => exact fun e he => hr e (List.mem_of_mem_filter he)
      | cleared => exact Dict.keyed_empty
  rw [run_eq]
  refine hfold _ _ Dict.keyed_empty fun key p hmem => ?_
  obtain ⟨call, -, hcall⟩ := List.mem_flatMap.1 hmem
  exact nameKey_of_mem_events hcall

variable (env)

/-- All names are texts. -/
def Textual (calls : List RegistryCall) : Prop :=
  ∀ key p, standing env calls key = some p → p.text.isSome

/-- A profile stands under its name, and is looked for. -/
structure IsFound (calls : List RegistryCall) (family : Option BrowserFamily)
    (platform : Option Platform) (p : Profile) : Prop where
  standing : standing env calls (nameKey p) = some p
  selected : Registry.selected family platform p = true

/-- Of those that are found, none has a higher version than this profile, and none that is before it
    in the registry as high a one. -/
structure IsLatest (calls : List RegistryCall) (family : Option BrowserFamily)
    (platform : Option Platform) (p : Profile) : Prop
    extends IsFound env calls family platform p where
  highest : ∀ q, IsFound env calls family platform q → q.version env ≤ p.version env
  first : ∃ before after, (run env calls).values = before ++ p :: after ∧
    ∀ q ∈ before, IsFound env calls family platform q → q.version env < p.version env

variable {env} {calls : List RegistryCall} {family : Option BrowserFamily}
  {platform : Option Platform} {p : Profile}

theorem mem_values_iff : p ∈ (run env calls).values ↔ standing env calls (nameKey p) = some p := by
  rw [(keyed_run calls).mem_values_iff, get?_run]

theorem mem_filter_iff : p ∈ (run env calls).values.filter (Registry.selected family platform) ↔
    IsFound env calls family platform p := by
  rw [List.mem_filter, mem_values_iff]
  exact ⟨fun h => ⟨h.1, h.2⟩, fun h => ⟨h.standing, h.selected⟩⟩

theorem textual_iff : Textual env calls ↔ ∀ p ∈ (run env calls).values, p.text.isSome := by
  constructor
  · exact fun h p hp => h _ p (mem_values_iff.1 hp)
  · intro h key p hp
    refine h p (List.mem_map.2 ⟨(key, p), ?_, rfl⟩)
    rw [Dict.mem_entries_iff, get?_run, hp]

theorem isLatest_of_argmax (h : ((run env calls).values.filter
    (Registry.selected family platform)).argmax (Profile.version env) = some p) :
    IsLatest env calls family platform p := by
  obtain ⟨before, after, hsplit, hbefore, hafter⟩ := Greatest.exists_of_argmax h
  -- the split of what is found is one of the registry, with what is passed over in between
  obtain ⟨ps, rest, hvalues, hps, hrest⟩ := List.filter_eq_append_iff.1 hsplit
  obtain ⟨skipped, ps', hcons, hskipped, -, -⟩ := List.filter_eq_cons_iff.1 hrest
  have hp : IsFound env calls family platform p := by
    rw [← mem_filter_iff, hsplit]
    exact List.mem_append_right before List.mem_cons_self
  refine ⟨hp, fun q hq => ?_, ps ++ skipped, ps', ?_, fun q hmem hq => ?_⟩
  · have hmem := mem_filter_iff.2 hq
    rw [hsplit, List.mem_append, List.mem_cons] at hmem
    rcases hmem with hq | rfl | hq
    · exact (hbefore q hq).le
    · exact le_rfl
    · exact hafter q hq
  · rw [hvalues, hcons, List.append_assoc]
  · rcases List.mem_append.1 hmem with hmem | hmem
    · refine hbefore q ?_
      rw [← hps]
      exact List.mem_filter.2 ⟨hmem, hq.selected⟩
    · exact absurd hq.selected (hskipped q hmem)

variable (env calls family platform)

/-- What `latest` returns after any calls, and when it raises. -/
theorem latest_run :
    (∀ p, Registry.latest env (run env calls) family platform = .ok p →
      Textual env calls ∧ IsLatest env calls family platform p) ∧
    ∀ e, Registry.latest env (run env calls) family platform = .error e →
      (Textual env calls ∧ (∀ p, ¬IsFound env calls family platform p) ∧
        e = .keyError (Registry.noProfiles env (run env calls) family platform)) ∨
      (¬Textual env calls ∧
        e = if family = none ∧ platform = none then .typeError else .attributeError) := by
  rw [Registry.latest_eq]
  by_cases htextual : Textual env calls
  · rw [if_pos (textual_iff.1 htextual)]
    cases hmax : ((run env calls).values.filter (Registry.selected family platform)).argmax
        (Profile.version env) with
    | none =>
      refine ⟨fun p h => (by cases h), fun e h => .inl ⟨htextual, fun p hp => ?_, ?_⟩⟩
      · have hmem := mem_filter_iff.2 hp
        rw [List.argmax_eq_none.1 hmax] at hmem
        exact List.not_mem_nil hmem
      · exact (Except.error.inj h).symm
    | some q =>
      refine ⟨fun p h => ⟨htextual, ?_⟩, fun e h => by cases h⟩
      obtain rfl : q = p := Except.ok.inj h
      exact isLatest_of_argmax hmax
  · rw [if_neg (mt textual_iff.2 htextual)]
    exact ⟨fun p h => (by cases h), fun e h => .inr ⟨htextual, (Except.error.inj h).symm⟩⟩

/-- `random` may return each profile that is found, and no other. -/
theorem random_run (h : Textual env calls) :
    (∃ choice, Registry.random env choice (run env calls) family platform = .ok p) ↔
      IsFound env calls family platform p := by
  rw [← mem_filter_iff]
  simp only [Registry.random, Registry.candidates_eq, if_pos (Or.inr (textual_iff.1 h)), ok_bind]
  cases (run env calls).values.filter (Registry.selected family platform) with
  | nil => exact iff_of_false (fun ⟨_, h⟩ => by cases h) List.not_mem_nil
  | cons q qs =>
    rw [List.mem_iff_get]
    constructor
    · rintro ⟨choice, h⟩
      exact ⟨choice qs.length, Except.ok.inj h⟩
    · rintro ⟨n, rfl⟩
      refine ⟨Function.update (fun _ => 0) qs.length n, ?_⟩
      exact congrArg (fun k => Except.ok (List.get _ k)) (Function.update_self ..)

/-! ## Captures -/

variable {env} {calls} {family}

/-- A name that is built is not one for a platform: it ends with a digit, or the version is not
    known. -/
theorem not_isSuffixOf_buildTrackmeName (henv : env.Lawful) (browser : List Char)
    {version : List Char} (h : Captures.IsVersion version) (platform : Platform) :
    ¬platform.suffix.toList <:+ Captures.buildTrackmeName env browser version := by
  rw [Captures.buildTrackmeName_eq henv browser h]
  rcases Captures.safeVersion_cases h with hunknown | ⟨-, c, hc, hdigit⟩
  -- of two suffixes of a name, one is a suffix of the other, and `_unknown` has none of a platform
  · rw [hunknown]
    intro hsuffix
    have hcases := List.suffix_or_suffix_of_suffix hsuffix (List.suffix_append _ _)
    revert hcases
    cases platform <;> decide
  · rintro ⟨start, hstart⟩
    have hlast : (start ++ platform.suffix.toList).getLast? = some c := by
      rw [hstart, List.getLast?_append_of_ne_nil _ (List.cons_ne_nil _ _), List.getLast?_cons, hc]
      rfl
    -- the version ends with a digit, and a platform with a letter
    have hletter : ∃ d, platform.suffix.toList.getLast? = some d ∧ d.isDigit = false := by
      cases platform <;> exact ⟨_, rfl, rfl⟩
    obtain ⟨d, hd, hletter⟩ := hletter
    rw [List.getLast?_append, hd] at hlast
    obtain rfl : d = c := Option.some.inj hlast
    exact Bool.false_ne_true (hletter.symm.trans hdigit)

theorem eq_str_of_key {v : JSON} {s : String} (h : v.key = some (.str s)) : v = .str s := by
  cases v with
  | str t =>
    cases h
    rfl
  | float x => cases x <;> cases h
  | null | bool _ | int _ | list _ | dict _ => cases h

theorem text_of_name {q : Profile} {name : String} (h : q.name = .str name) :
    q.text = some name := by
  rw [Profile.text, h]

theorem exists_name {q : Profile} (h : q.text.isSome = true) : ∃ name, q.name = .str name := by
  rw [Profile.text] at h
  split at h
  · exact ⟨_, ‹_›⟩
  · cases h

theorem standing_append_captures {file : Except Raised JSON} {loaded : List Profile}
    (h : Captures.readCaptures env file = .ok loaded) (key : Key) :
    standing env (calls ++ [.loadTrackmeFingerprints file]) key =
      ((Log.latest Prod.fst key (Registry.named loaded)).map Prod.snd).or
        (standing env calls key) := by
  rw [← get?_run, ← get?_run, run, List.foldl_append, List.foldl_cons, List.foldl_nil,
    snd_exec_perform, events, h, foldl_registrations, Dict.get?_setAll]
  rfl

/-- A name that is read from a file stands behind that. -/
theorem exists_standing (calls : List RegistryCall) {file : Except Raised JSON}
    {loaded : List Profile} (h : Captures.readCaptures env file = .ok loaded)
    (htexts : ∀ p ∈ loaded, ∃ name, p.name = .str name) {p : Profile} (hp : p ∈ loaded)
    {name : String} (hname : p.name = .str name) : ∃ q, q.name = .str name ∧
      standing env (calls ++ [.loadTrackmeFingerprints file]) (nameKey q) = some q := by
  have hkeys : ∀ p ∈ loaded, p.name.key.isSome := by
    intro p hp
    obtain ⟨name, hname⟩ := htexts p hp
    rw [hname]
    rfl
  obtain ⟨hloaded, hnamed⟩ := Registry.named_eq hkeys
  rw [← hloaded] at hp
  obtain ⟨e, he, rfl⟩ := List.mem_map.1 hp
  have hkey : e.1 = .str name := by
    have hkey := hnamed e he
    rw [hname] at hkey
    exact (Option.some.inj hkey).symm
  cases hlatest : Log.latest Prod.fst (.str name) (Registry.named loaded) with
  | none => exact absurd hkey (Log.latest_eq_none_iff.1 hlatest e he)
  | some e' =>
    have hname' : e'.2.name = .str name :=
      eq_str_of_key ((hnamed e' (Log.mem_of_latest hlatest)).trans
        (congrArg some (Log.key_of_latest hlatest)))
    have hnameKey : nameKey e'.2 = .str name := by rw [nameKey, hname']; rfl
    refine ⟨e'.2, hname', ?_⟩
    rw [standing_append_captures h, hnameKey, hlatest]
    rfl

/-- What is captured of a browser stands under its name and with its version. It is found for the
    browser's family and no other one, and for no platform, and what is found as the latest of the
    family has at least that version. -/
theorem latest_captured (henv : env.Lawful) (calls : List RegistryCall)
    {items : List (String × JSON)} {entries : List (List (String × JSON))}
    (hold : ∀ vs, itemOr items "fingerprints" .null ≠ .list vs)
    (hfile : Captures.normalizeTrackmePayload env (.dict items) = .ok entries)
    {browser : String} {entry : List (String × JSON)} (hmem : (browser, .dict entry) ∈ items)
    (herror : entry.lookup "error" = none) (hja3 : (itemOr entry "ja3" .null).truthy = true)
    {family : BrowserFamily}
    (hfamily : ∃ start ∈ family.prefixes, start.toList <+: env.lower browser.toList) :
    ∃ q, IsFound env (calls ++ [.loadTrackmeFingerprints (.ok (.dict items))]) (some family)
        none q ∧
      q.version env = versionOf (Runs.runs env.decimal browser.toList ++
        Runs.runs env.decimal (Captures.version env browser entry)) ∧
      (∀ family', Registry.selected (some family') none q = true → family' = family) ∧
      (∀ family platform, Registry.selected family (some platform) q = false) ∧
      ∀ p, Registry.latest env (run env (calls ++
        [.loadTrackmeFingerprints (.ok (.dict items))])) (some family) none = .ok p →
          q.version env ≤ p.version env := by
  obtain ⟨loaded, hread, htexts, hbrowsers⟩ := Captures.readCaptures_of_browsers henv hold hfile
  obtain ⟨p, hp, hname⟩ := hbrowsers browser entry (Captures.mem_browsers hmem herror) hja3
  obtain ⟨q, hq, hstanding⟩ := exists_standing calls hread htexts hp hname
  have hversion := Captures.isVersion_version env browser entry
  have hfound : IsFound env (calls ++ [.loadTrackmeFingerprints (.ok (.dict items))]) (some family)
      none q := by
    refine ⟨hstanding, ?_⟩
    obtain ⟨start, hstart, hprefix⟩ := hfamily
    have hany : (family.prefixes.any fun start => start.toList.isPrefixOf
        (Captures.buildTrackmeName env browser.toList
          (Captures.version env browser entry))) = true := by
      refine List.any_eq_true.2 ⟨start, hstart, List.isPrefixOf_iff_prefix.2 ?_⟩
      rw [Captures.buildTrackmeName_eq henv _ hversion]
      exact hprefix.trans (List.prefix_append _ _)
    simpa [Registry.selected, text_of_name hq, Registry.selects] using hany
  refine ⟨q, hfound, ?_, fun family' hfamily' => ?_, fun family platform => ?_, fun p hp => ?_⟩
  · rw [Profile.version, text_of_name hq, Option.map_some, Option.getD_some, versionTuple,
      String.toList_ofList, Captures.runs_buildTrackmeName henv _ hversion]
  · have hselected := hfound.selected
    rw [Registry.selected, text_of_name hq] at hselected hfamily'
    exact Registry.family_unique hfamily' hselected
  · have hsuffix := not_isSuffixOf_buildTrackmeName henv browser.toList hversion platform
    have hnot : platform.suffix.toList.isSuffixOf (Captures.buildTrackmeName env browser.toList
        (Captures.version env browser entry)) = false := by
      rw [Bool.eq_false_iff, Ne, List.isSuffixOf_iff_suffix]
      exact hsuffix
    simp [Registry.selected, text_of_name hq, Registry.selects, hnot]
  · exact ((latest_run env _ _ _).1 p hp).2.highest q hfound

theorem latest_captured_chrome : ∃ q,
    standing asciiEnv [.loadTrackmeFingerprints (.ok (.dict [("chrome", .dict
      [("ja3", .str "771,4865,0-23,29,0"), ("ua", .str "Mozilla/5.0 Chrome/134.0.12")])]))]
        (nameKey q) = some q ∧ q.version asciiEnv = [134, 0, 12] := by
  have hold (vs : List JSON) : itemOr [("chrome", .dict [("ja3", .str "771,4865,0-23,29,0"),
      ("ua", .str "Mozilla/5.0 Chrome/134.0.12")])] "fingerprints" .null ≠ .list vs :=
    fun h => by cases h
  have hfamily : ∃ start ∈ BrowserFamily.chrome.prefixes,
      start.toList <+: asciiEnv.lower "chrome".toList :=
    ⟨"chrome", List.mem_cons_self, by decide⟩
  obtain ⟨q, hq, hversion, -⟩ :=
    latest_captured asciiEnv_lawful [] hold rfl List.mem_cons_self rfl rfl hfamily
  exact ⟨q, hq.standing, hversion⟩

/-! ## Files -/

/-- A profile as it is read back, with the flags as what they count as. -/
def flagged (p : Profile) : Profile :=
  { p with
    disableGrease := .bool p.disableGrease.truthy
    forceHTTP1 := .bool p.forceHTTP1.truthy
    forceHTTP3 := .bool p.forceHTTP3.truthy }

/-- A profile has what a capture needs. -/
def isComplete (p : Profile) : Bool := p.name.truthy && p.ja3.truthy

/-- A profile as a capture of it: without what a capture has no field for. -/
def captured (p : Profile) : Profile :=
  { p with
    quicFingerprint := .null
    disableGrease := .bool false
    forceHTTP1 := .bool false
    forceHTTP3 := .bool false }

theorem fromDict_normalizeEntry (entry : List (String × JSON)) :
    Profile.fromDict (Captures.normalizeEntry entry) = .ok
      { name := itemOr entry "name" .null
        ja3 := itemOr entry "ja3" .null
        ja4r := Captures.orElse (itemOr entry "ja4_r" .null) (itemOr entry "ja4r" .null)
        http2Fingerprint := Captures.orElse (itemOr entry "http2" .null)
          (itemOr entry "http2_fingerprint" .null)
        quicFingerprint := .null
        userAgent := Captures.orElse (itemOr entry "ua" .null) (itemOr entry "user_agent" .null)
        headerOrder := itemOr entry "header_order" .null
        headers := itemOr entry "headers" .null
        disableGrease := .bool false
        forceHTTP1 := .bool false
        forceHTTP3 := .bool false } := rfl

/-- What is taken of a profile that was written. -/
theorem fromDict_normalizeEntry_toDict (p : Profile) :
    Profile.fromDict (Captures.normalizeEntry p.toDict) = .ok (captured p) := by
  have hname : itemOr p.toDict "name" .null = p.name := rfl
  have hja3 : itemOr p.toDict "ja3" .null = p.ja3 := rfl
  have hget (key : String) (h : key ≠ "name") (h' : key ≠ "ja3") : itemOr p.toDict key .null =
      ((Profile.present "ja4r" p.ja4r ++ Profile.present "http2_fingerprint" p.http2Fingerprint ++
        Profile.present "quic_fingerprint" p.quicFingerprint ++
        Profile.present "user_agent" p.userAgent ++ Profile.present "header_order" p.headerOrder ++
        Profile.present "headers" p.headers ++ Profile.flag "disable_grease" p.disableGrease ++
        Profile.flag "force_http1" p.forceHTTP1 ++
        Profile.flag "force_http3" p.forceHTTP3).lookup key).getD .null := by
    simp [itemOr, Profile.toDict, List.lookup_cons, beq_eq_false_iff_ne.2 h,
      beq_eq_false_iff_ne.2 h']
  rw [fromDict_normalizeEntry, hname, hja3]
  simp [hget, List.lookup_append, Captures.orElse, JSON.truthy, captured]

variable {ps : List Profile}

/-- What is read of a file of profiles, each as what is left of it. -/
theorem lastOf_filterMap (hps : ps.Perm (run env calls).values) {g : Profile → Option Profile}
    (hg : ∀ p q, g p = some q → q.name = p.name) (h : Textual env calls) (key : Key) :
    Registry.lastOf (ps.filterMap g) key = (standing env calls key).bind g := by
  have hstanding {p : Profile} : p ∈ ps ↔ standing env calls (nameKey p) = some p :=
    hps.mem_iff.trans mem_values_iff
  have hkey {p : Profile} (hp : p ∈ ps) {key : Key} (h : p.name.key = some key) :
      standing env calls key = some p := by
    have hname : nameKey p = key := by rw [nameKey, h, Option.getD_some]
    exact hname ▸ hstanding.1 hp
  rw [Registry.lastOf]
  cases hlast : Log.latest (fun p => p.name.key) (some key) (ps.filterMap g) with
  | some q =>
    obtain ⟨p, hp, hpq⟩ := List.mem_filterMap.1 (Log.mem_of_latest hlast)
    have hname := Log.key_of_latest hlast
    rw [hg p q hpq] at hname
    rw [hkey hp hname, Option.bind_some, hpq]
  | none =>
    cases hbefore : standing env calls key with
    | none => rfl
    | some p =>
      rw [Option.bind_some]
      cases hq : g p with
      | none => rfl
      | some q =>
        have hentry : (key, p) ∈ (run env calls).entries := by
          rw [Dict.mem_entries_iff, get?_run, hbefore]
        have hp : p ∈ ps := hps.mem_iff.2 (List.mem_map.2 ⟨(key, p), hentry, rfl⟩)
        obtain ⟨name, hname⟩ := exists_name (h key p hbefore)
        -- the profile has its name for a key, so what is left of it has it too
        have hnameKey : nameKey p = key := keyed_run calls _ hentry
        have hqkey : q.name.key = some key := by
          rw [hg p q hq, ← hnameKey, nameKey, hname]
          rfl
        exact absurd hqkey (Log.latest_eq_none_iff.1 hlast q (List.mem_filterMap.2 ⟨p, hp, hq⟩))

/-- The file that is written of a registry has its profiles. -/
theorem exists_saveToFile (h : Textual env calls) : ∃ entries : List (String × Profile),
    (entries.map Prod.snd).Perm (run env calls).values ∧
      Registry.saveToFile (run env calls) = some (Registry.payload entries) := by
  have htexts : Registry.texts (run env calls) =
      some ((run env calls).entries.map fun e => (e.2.text.getD "", e.2)) := by
    rw [Registry.texts, mapM_eq_some_iff, List.map_map]
    refine List.map_congr_left fun e he => ?_
    obtain ⟨name, hname⟩ := exists_name (textual_iff.1 h e.2 (List.mem_map_of_mem he))
    have hkey : nameKey e.2 = e.1 := keyed_run calls e he
    rw [nameKey, hname] at hkey
    rw [← hkey, Function.comp_apply, text_of_name hname]
    rfl
  refine ⟨_, ?_, by rw [Registry.saveToFile, htexts, Option.map_some]⟩
  refine ((List.perm_insertionSort _ _).map Prod.snd).trans ?_
  rw [List.map_map]
  exact .refl _

theorem filterMap_asDict (entries : List (String × Profile)) :
    (entries.map fun e => JSON.dict e.2.toDict).filterMap JSON.asDict =
      (entries.map Prod.snd).map Profile.toDict := by
  rw [List.filterMap_map, List.map_map]
  exact congrFun List.filterMap_eq_map' entries

theorem readProfiles_payload (path : String) (entries : List (String × Profile)) :
    Registry.readProfiles path (.ok (Registry.payload entries)) =
      .ok ((entries.map Prod.snd).map flagged) := by
  have hraw : Registry.rawItems path (Registry.payload entries) =
      .ok ((entries.map fun e => JSON.dict e.2.toDict).filterMap JSON.asDict) := rfl
  have hall : ((entries.map Prod.snd).map Profile.toDict).filter (fun item =>
      (item.lookup "name").isSome && (item.lookup "ja3").isSome) =
        (entries.map Prod.snd).map Profile.toDict := by
    refine List.filter_eq_self.2 fun item hitem => ?_
    obtain ⟨p, -, rfl⟩ := List.mem_map.1 hitem
    rfl
  rw [Registry.readProfiles, ok_bind, hraw, ok_bind, filterMap_asDict, hall, mapM_eq_ok_iff,
    List.map_map, List.map_map (l := entries.map Prod.snd)]
  exact List.map_congr_left fun p _ => p.fromDict_toDict

variable (env) in
theorem readCaptures_payload (entries : List (String × Profile)) :
    Captures.readCaptures env (.ok (Registry.payload entries)) =
      .ok (((entries.map Prod.snd).filter isComplete).map captured) := by
  have hraw : Captures.normalizeTrackmePayload env (Registry.payload entries) =
      .ok (((entries.map fun e => JSON.dict e.2.toDict).filterMap JSON.asDict).map
        Captures.normalizeEntry) := rfl
  rw [Captures.readCaptures, ok_bind, hraw, ok_bind, filterMap_asDict, List.map_map,
    List.filter_map, mapM_eq_ok_iff, List.map_map, List.map_map]
  exact List.map_congr_left fun p _ => fromDict_normalizeEntry_toDict p

/-- What is loaded of a file, with what is left of each profile. -/
theorem get?_setAll_filterMap (hps : ps.Perm (run env calls).values)
    {g : Profile → Option Profile} (hg : ∀ p q, g p = some q → q.name = p.name)
    (h : Textual env calls) :
    (∀ p ∈ ps.filterMap g, p.name.key.isSome) ∧
      ∀ key, (Dict.empty.setAll Prod.fst Prod.snd (Registry.named (ps.filterMap g))).get? key =
        (standing env calls key).bind g := by
  have hkeys : ∀ p ∈ ps.filterMap g, p.name.key.isSome := by
    intro q hq
    obtain ⟨p, hp, hpq⟩ := List.mem_filterMap.1 hq
    obtain ⟨name, hname⟩ := exists_name (textual_iff.1 h p (hps.mem_iff.1 hp))
    rw [hg p q hpq, hname]
    rfl
  refine ⟨hkeys, fun key => ?_⟩
  rw [Dict.get?_setAll, Registry.latest_named hkeys, Dict.get?_empty, Option.or_none,
    lastOf_filterMap hps hg h]

/-- A registry that is saved is loaded in place of any other one, as it stands. Where the file is
    read as captures, the profiles without a name or a JA3 are left out, and the others lose what a
    capture has no field for. -/
theorem persisted (h : Textual env calls) : ∃ file,
    Registry.saveToFile (run env calls) = some file ∧
      (∀ path r, ∃ loaded after,
        exec (Registry.loadFromFile path (.ok file) true) r = (.ok loaded, after) ∧
          ∀ key, after.get? key = (standing env calls key).map flagged) ∧
      ∃ loaded after,
        exec (Captures.loadTrackmeFingerprints env (.ok file)) .empty = (.ok loaded, after) ∧
          ∀ key, after.get? key = ((standing env calls key).filter isComplete).map captured := by
  obtain ⟨entries, hps, hfile⟩ := exists_saveToFile h
  refine ⟨_, hfile, fun path r => ?_, ?_⟩
  · have hmap : (entries.map Prod.snd).map flagged =
        (entries.map Prod.snd).filterMap fun p => some (flagged p) :=
      (congrFun List.filterMap_eq_map' _).symm
    have hread := readProfiles_payload path entries
    rw [hmap] at hread
    obtain ⟨hkeys, hget⟩ := get?_setAll_filterMap hps
      (g := fun p => some (flagged p)) (fun p q hq => Option.some.inj hq ▸ rfl) h
    have hload := Registry.exec_loadFromFile hread true r
    rw [if_pos hkeys, if_pos rfl] at hload
    exact ⟨_, _, hload, fun key => (hget key).trans Option.map_eq_bind.symm⟩
  · have hmap : ((entries.map Prod.snd).filter isComplete).map captured =
        (entries.map Prod.snd).filterMap fun p => (Option.guard isComplete p).map captured := by
      rw [← List.filterMap_eq_filter, List.map_filterMap]
    have hread := readCaptures_payload env entries
    rw [hmap] at hread
    have hname (p q : Profile) (hq : (Option.guard isComplete p).map captured = some q) :
        q.name = p.name := by
      obtain ⟨p', hp', rfl⟩ := Option.map_eq_some_iff.1 hq
      obtain ⟨rfl, -⟩ := Option.guard_eq_some_iff.1 hp'
      rfl
    obtain ⟨hkeys, hget⟩ := get?_setAll_filterMap hps hname h
    have hload := Captures.exec_loadTrackmeFingerprints hread .empty
    rw [if_pos hkeys] at hload
    refine ⟨_, _, hload, fun key => (hget key).trans ?_⟩
    cases standing env calls key with
    | none => rfl
    | some p =>
      rw [Option.bind_some, Option.filter_some]
      by_cases hp : isComplete p
      · simp [Option.guard, hp]
      · simp [Option.guard, hp]

/-- A profile for HTTP/3. -/
def http3Profile : Profile where
  name := .str "chrome_http3"
  ja3 := .str "771,4865,0-23,29,0"
  ja4r := .null
  http2Fingerprint := .null
  quicFingerprint := .str "quic"
  userAgent := .null
  headerOrder := .null
  headers := .null
  disableGrease := .bool false
  forceHTTP1 := .bool false
  forceHTTP3 := .int 1

theorem persisted_http3 : ∃ file,
    Registry.saveToFile (run asciiEnv [.register http3Profile]) = some file ∧
      (∃ loaded after,
        exec (Registry.loadFromFile "fingerprints.json" (.ok file) true) .empty =
            (.ok loaded, after) ∧
          after.get? (.str "chrome_http3") =
            some { http3Profile with forceHTTP3 := .bool true }) ∧
      ∃ loaded after,
        exec (Captures.loadTrackmeFingerprints asciiEnv (.ok file)) .empty = (.ok loaded, after) ∧
          after.get? (.str "chrome_http3") =
            some { http3Profile with quicFingerprint := .null, forceHTTP3 := .bool false } := by
  have htextual : Textual asciiEnv [.register http3Profile] :=
    textual_iff.2 (List.forall_mem_singleton.2 (rfl : http3Profile.text.isSome = true))
  obtain ⟨file, hfile, hload, hcaptures⟩ := persisted htextual
  obtain ⟨loaded, after, hexec, hget⟩ := hload "fingerprints.json" .empty
  obtain ⟨loaded', after', hexec', hget'⟩ := hcaptures
  exact ⟨file, hfile, ⟨loaded, after, hexec, hget _⟩, loaded', after', hexec', hget' _⟩

end RegistryCall

end CycleTLS
