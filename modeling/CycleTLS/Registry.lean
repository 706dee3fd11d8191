import CycleTLS.Lib.Raising
import CycleTLS.Python
import Mathlib.Data.List.Sort
import Mathlib.Data.Set.List
import Mathlib.Data.String.Basic

/-!
# The registry of fingerprint profiles (`FingerprintRegistry`)

Profiles are registered under their names, and are saved to a file and loaded from it as
JSON. A file gives the fields of a profile values of any type, and one that no dict can have
as a key, a list or a dict, may be the name.

* What `save_to_file` has written of a registry that was made of profiles as they are
  declared, `load_from_file` reads back (`persists`).
* `load_from_file` registers the profiles one by one. So where it raises, the registry is as
  it was exactly if the profiles before the first without a proper name were registered
  already (`atomic_loadFromFile_iff`).
-/

namespace CycleTLS

open Raising

/-- What `json.loads` gives. -/
inductive JSON
  | null
  | bool (b : Bool)
  | int (n : Int)
  | float (x : PyFloat)
  | str (s : String)
  | list (items : List JSON)
  | dict (items : List (String × JSON))

/-- What a dict finds an entry by: values that are equal are one key. -/
inductive Key
  | null
  | number (x : Rat)
  | inf
  | negInf
  | nan
  | str (s : String)
  deriving DecidableEq

namespace JSON

/-- `v is None`. -/
def isNull : JSON → Bool
  | null => true
  | _ => false

/-- Whether a value counts as true. -/
def truthy : JSON → Bool
  | null => false
  | bool b => b
  | int n => n ≠ 0
  | float (.finite x) => x ≠ 0
  | float _ => true
  | str s => s ≠ ""
  | list items => !items.isEmpty
  | dict items => !items.isEmpty

/-- The key that a value is, if it can be hashed. -/
def key : JSON → Option Key
  | null => some .null
  | bool b => some (.number (if b then 1 else 0))
  | int n => some (.number n)
  | float (.finite x) => some (.number x)
  | float .inf => some .inf
  | float .negInf => some .negInf
  | float .nan => some .nan
  | str s => some (.str s)
  | list _ | dict _ => none

/-- The dict that a value is. -/
def asDict : JSON → Option (List (String × JSON))
  | dict items => some items
  | _ => none

end JSON

/-- `data[key]`. -/
def item (data : List (String × JSON)) (key : String) : Except Raised JSON :=
  match data.lookup key with
  | some v => .ok v
  | none => .error (.keyError key)

/-- `data.get(key, default)`. -/
def itemOr (data : List (String × JSON)) (key : String) (default : JSON) : JSON :=
  (data.lookup key).getD default

/-- A `TLSFingerprint`, the fields of which a file gives values of any type. -/
structure Profile where
  name : JSON
  ja3 : JSON
  ja4r : JSON
  http2Fingerprint : JSON
  quicFingerprint : JSON
  userAgent : JSON
  headerOrder : JSON
  headers : JSON
  disableGrease : JSON
  forceHTTP1 : JSON
  forceHTTP3 : JSON

namespace Profile

/-- `from_dict`. -/
def fromDict (data : List (String × JSON)) : Except Raised Profile := do
  let name ← item data "name"
  let ja3 ← item data "ja3"
  return {
    name := name
    ja3 := ja3
    ja4r := itemOr data "ja4r" .null
    http2Fingerprint := itemOr data "http2_fingerprint" .null
    quicFingerprint := itemOr data "quic_fingerprint" .null
    userAgent := itemOr data "user_agent" .null
    headerOrder := itemOr data "header_order" .null
    headers := itemOr data "headers" .null
    disableGrease := itemOr data "disable_grease" (.bool false)
    forceHTTP1 := itemOr data "force_http1" (.bool false)
    forceHTTP3 := itemOr data "force_http3" (.bool false) }

/-- A field that is written unless it is `None`. -/
def present (key : String) (v : JSON) : List (String × JSON) := if v.isNull then [] else [(key, v)]

/-- A flag that is written if it is set. -/
def flag (key : String) (v : JSON) : List (String × JSON) :=
  if v.truthy then [(key, .bool true)] else []

/-- `to_dict`. -/
def toDict (p : Profile) : List (String × JSON) :=
  [("name", p.name), ("ja3", p.ja3)] ++ present "ja4r" p.ja4r ++
    present "http2_fingerprint" p.http2Fingerprint ++
    present "quic_fingerprint" p.quicFingerprint ++ present "user_agent" p.userAgent ++
    present "header_order" p.headerOrder ++ present "headers" p.headers ++
    flag "disable_grease" p.disableGrease ++ flag "force_http1" p.forceHTTP1 ++
    flag "force_http3" p.forceHTTP3

end Profile

/-- The profile, as one with fields of any type. -/
def TLSFingerprint.profile (p : TLSFingerprint) : Profile where
  name := .str p.name
  ja3 := .str p.ja3
  ja4r := (p.ja4r.map .str).getD .null
  http2Fingerprint := (p.http2Fingerprint.map .str).getD .null
  quicFingerprint := (p.quicFingerprint.map .str).getD .null
  userAgent := (p.userAgent.map .str).getD .null
  headerOrder := (p.headerOrder.map fun names => .list (names.map .str)).getD .null
  headers := (p.headers.map fun d => .dict (d.map fun e => (e.1, .str e.2))).getD .null
  disableGrease := .bool p.disableGrease
  forceHTTP1 := .bool p.forceHTTP1
  forceHTTP3 := .bool p.forceHTTP3

/-! ## The registry -/

/-- `FingerprintRegistry._profiles`. -/
abbrev Registry := Dict Key Profile

namespace Registry

/-- What changes the registry, and may raise. -/
abbrev RegistryM := ExceptT Raised (StateM Registry)

def register (p : Profile) : RegistryM Unit :=
  match p.name.key with
  | some key => modify fun profiles => profiles.set key p
  | none => throw .typeError

def registerMany (ps : List Profile) : RegistryM Unit := ps.forM register

def unregister (name : String) : RegistryM Bool := do
  let profiles ← get
  if (profiles.get? (.str name)).isSome then
    modify fun profiles => profiles.erase (.str name)
    return true
  return false

def clear : RegistryM Unit := modify fun _ => .empty

/-- The dicts of a file that profiles may be read from. -/
def rawItems (path : String) : JSON → Except Raised (List (List (String × JSON)))
  | .dict items =>
    match items.lookup "fingerprints" with
    | some (.list vs) => .ok (vs.filterMap JSON.asDict)
    | _ => .error (.valueError ("Unsupported fingerprint registry format in " ++ path))
  | .list vs => .ok (vs.filterMap JSON.asDict)
  | _ => .error (.valueError ("Unsupported fingerprint registry format in " ++ path))

/-- The profiles of a file: what reading and parsing it gave. -/
def readProfiles (path : String) (file : Except Raised JSON) : Except Raised (List Profile) := do
  let payload ← file
  let items ← rawItems path payload
  (items.filter fun item => (item.lookup "name").isSome && (item.lookup "ja3").isSome).mapM
    Profile.fromDict

/-- `load_from_file`. -/
def loadFromFile (path : String) (file : Except Raised JSON) (clears : Bool) :
    RegistryM (List Profile) := do
  let loaded ← liftM (readProfiles path file)
  if clears then clear
  registerMany loaded
  return loaded

/-- The entries, where the names are all texts. -/
def texts (profiles : Registry) : Option (List (String × Profile)) :=
  profiles.entries.mapM fun e => match e.1 with
    | .str name => some (name, e.2)
    | _ => none

/-- The content of a file with some profiles. -/
def payload (entries : List (String × Profile)) : JSON :=
  .dict [("schema", .str "cycletls_fingerprint_registry/v1"),
    ("fingerprints", .list (entries.map fun e => .dict e.2.toDict))]

/-- What `save_to_file` writes, for names that are texts. -/
def saveToFile (profiles : Registry) : Option JSON :=
  (texts profiles).map fun entries => payload (entries.insertionSort fun e e' => e.1 ≤ e'.1)

end Registry

/-! ## Profiles as dicts -/

namespace Profile

@[simp] theorem lookup_present (key key' : String) (v : JSON) :
    (present key v).lookup key' = if key' = key ∧ v.isNull = false then some v else none := by
  rw [present]
  cases hnull : v.isNull with
  | true => simp
  | false =>
    by_cases hkey : key' = key
    · simp [hkey]
    · simp [List.lookup_cons, hkey, beq_eq_false_iff_ne.2 hkey]

@[simp] theorem lookup_flag (key key' : String) (v : JSON) : (flag key v).lookup key' =
    if key' = key ∧ v.truthy = true then some (.bool true) else none := by
  rw [flag]
  cases htruthy : v.truthy with
  | false => simp
  | true =>
    by_cases hkey : key' = key
    · simp [hkey]
    · simp [List.lookup_cons, hkey, beq_eq_false_iff_ne.2 hkey]

@[simp] theorem getD_present (v : JSON) :
    (if v.isNull = false then some v else none).getD .null = v := by
  cases v <;> rfl

@[simp] theorem getD_flag (v : JSON) : (if v.truthy = true then some (JSON.bool true)
    else none).getD (.bool false) = .bool v.truthy := by
  cases v.truthy <;> rfl

/-- What is written of a profile is read back, flags as the bools that they count as. -/
theorem fromDict_toDict (p : Profile) : fromDict p.toDict = .ok { p with
    disableGrease := .bool p.disableGrease.truthy
    forceHTTP1 := .bool p.forceHTTP1.truthy
    forceHTTP3 := .bool p.forceHTTP3.truthy } := by
  have hname : item p.toDict "name" = .ok p.name := rfl
  have hja3 : item p.toDict "ja3" = .ok p.ja3 := rfl
  have hrest (key : String) (h : key ≠ "name") (h' : key ≠ "ja3") (default : JSON) :
      itemOr p.toDict key default = ((present "ja4r" p.ja4r ++
        present "http2_fingerprint" p.http2Fingerprint ++
        present "quic_fingerprint" p.quicFingerprint ++ present "user_agent" p.userAgent ++
        present "header_order" p.headerOrder ++ present "headers" p.headers ++
        flag "disable_grease" p.disableGrease ++ flag "force_http1" p.forceHTTP1 ++
        flag "force_http3" p.forceHTTP3).lookup key).getD default := by
    simp [itemOr, toDict, List.lookup_cons, beq_eq_false_iff_ne.2 h, beq_eq_false_iff_ne.2 h']
  rw [fromDict, hname, ok_bind, hja3, ok_bind]
  simp [hrest, List.lookup_append]
  rfl

end Profile

namespace TLSFingerprint

theorem fromDict_toDict (p : TLSFingerprint) :
    Profile.fromDict p.profile.toDict = .ok p.profile := by
  rw [Profile.fromDict_toDict]
  rfl

theorem getD_null_injective {α : Type} {f : α → JSON} (hf : Function.Injective f)
    (hnull : ∀ a, f a ≠ .null) : Function.Injective fun o : Option α => (o.map f).getD .null := by
  intro o o' h
  cases o with
  | none =>
    cases o' with
    | none => rfl
    | some a => exact absurd h.symm (hnull a)
  | some a =>
    cases o' with
    | none => exact absurd h (hnull a)
    | some a' => exact congrArg some (hf h)

/-- Profiles are the same if they are as ones with fields of any type. -/
theorem profile_injective : Function.Injective profile := by
  have hstr : Function.Injective fun o : Option String => (o.map JSON.str).getD .null :=
    getD_null_injective (fun _ _ h => JSON.str.inj h) fun _ h => by cases h
  have hlist : Function.Injective
      fun o : Option (List String) => (o.map fun names => JSON.list (names.map .str)).getD .null :=
    getD_null_injective (fun _ _ h => List.map_injective_iff.2 (fun _ _ h => JSON.str.inj h)
      (JSON.list.inj h)) fun _ h => by cases h
  have hentry : Function.Injective fun e : String × String => (e.1, JSON.str e.2) := by
    intro e e' h
    obtain ⟨hk, hv⟩ := Prod.mk.inj h
    exact Prod.ext hk (JSON.str.inj hv)
  have hdict : Function.Injective fun o : Option (List (String × String)) =>
      (o.map fun d => JSON.dict (d.map fun e => (e.1, .str e.2))).getD .null :=
    getD_null_injective (fun _ _ h => List.map_injective_iff.2 hentry (JSON.dict.inj h))
      fun _ h => by cases h
  intro p q h
  obtain ⟨hname, hja3, hja4r, hhttp2, hquic, hagent, horder, hheaders, hgrease, hhttp1, hhttp3⟩ :=
    Profile.mk.inj h
  cases p
  cases q
  rw [TLSFingerprint.mk.injEq]
  exact ⟨JSON.str.inj hname, JSON.str.inj hja3, hstr hja4r, hstr hhttp2, hstr hquic, hstr hagent,
    hlist horder, hdict hheaders, JSON.bool.inj hgrease, JSON.bool.inj hhttp1,
    JSON.bool.inj hhttp3⟩

end TLSFingerprint

namespace Registry

variable {r : Registry} {ps : List Profile}

/-! ## Registering -/

/-- The profiles up to the first whose name cannot be a key, with their keys. -/
def named : List Profile → List (Key × Profile)
  | [] => []
  | p :: ps =>
    match p.name.key with
    | some key => (key, p) :: named ps
    | none => []

theorem exec_registerMany (r : Registry) (ps : List Profile) : exec (registerMany ps) r =
    (if ∀ p ∈ ps, p.name.key.isSome then .ok () else .error .typeError,
      r.setAll Prod.fst Prod.snd (named ps)) := by
  induction ps generalizing r with
  | nil => simp [registerMany, named, Dict.setAll]
  | cons p ps ih =>
    have hcons : registerMany (p :: ps) = register p >>= fun _ => registerMany ps := rfl
    rw [hcons, exec_bind, register, named]
    cases hp : p.name.key with
    | none => simp [hp, Dict.setAll]
    | some key =>
      change exec (registerMany ps) (r.set key p) = _
      rw [ih]
      simp [hp, Dict.setAll]

theorem named_eq (h : ∀ p ∈ ps, p.name.key.isSome) :
    (named ps).map Prod.snd = ps ∧ ∀ e ∈ named ps, e.2.name.key = some e.1 := by
  induction ps with
  | nil => exact ⟨rfl, fun e he => absurd he List.not_mem_nil⟩
  | cons p ps ih =>
    obtain ⟨hp, hps⟩ := List.forall_mem_cons.1 h
    obtain ⟨key, hkey⟩ := Option.isSome_iff_exists.1 hp
    obtain ⟨hmap, hnamed⟩ := ih hps
    rw [named, hkey]
    exact ⟨congrArg (List.cons p) hmap, List.forall_mem_cons.2 ⟨hkey, hnamed⟩⟩

/-- The last profile of a name. -/
def lastOf (ps : List Profile) (key : Key) : Option Profile :=
  Log.latest (fun p => p.name.key) (some key) ps

theorem latest_named (h : ∀ p ∈ ps, p.name.key.isSome) (key : Key) :
    (Log.latest Prod.fst key (named ps)).map Prod.snd = lastOf ps key := by
  obtain ⟨hmap, hnamed⟩ := named_eq h
  have hlast : lastOf ps key =
      (Log.latest (fun e => e.2.name.key) (some key) (named ps)).map Prod.snd :=
    (congrArg (Log.latest _ _) hmap).symm.trans (Log.latest_map ..)
  rw [hlast]
  refine congrArg _ (Log.latest_congr fun e he => ?_)
  rw [hnamed e he, Option.some.injEq]

/-! ## All or nothing -/

/-- All profiles are registered: a name has the last profile with it, and one that no profile
    has what it had, or nothing where the registry was cleared. -/
structure Registered (clears : Bool) (before : Registry) (loaded : List Profile)
    (after : Registry) : Prop where
  hashable : ∀ p ∈ loaded, p.name.key.isSome
  profiles : ∀ key, after.get? key =
    (lastOf loaded key).or (if clears then none else before.get? key)

/-- `load_from_file` registers all of the profiles, or raises and leaves the registry as it
    was. -/
def Atomic (path : String) (file : Except Raised JSON) (clears : Bool) (r : Registry) : Prop :=
  match exec (loadFromFile path file clears) r with
  | (.ok loaded, after) => Registered clears r loaded after
  | (.error _, after) => after = r

/-- The registry has these profiles already, and no others if it is to be cleared. -/
structure Has (clears : Bool) (r : Registry) (entries : List (Key × Profile)) : Prop where
  profiles : ∀ key e, Log.latest Prod.fst key entries = some e → r.get? key = some e.2
  names : clears = true → r.entries.map Prod.fst = (entries.map Prod.fst).eraseDups

theorem exec_loadFromFile {path : String} {file : Except Raised JSON} {loaded : List Profile}
    (h : readProfiles path file = .ok loaded) (clears : Bool) (r : Registry) :
    exec (loadFromFile path file clears) r =
      (if ∀ p ∈ loaded, p.name.key.isSome then .ok loaded else .error .typeError,
        (if clears then .empty else r).setAll Prod.fst Prod.snd (named loaded)) := by
  have hregister (r : Registry) : exec (registerMany loaded >>= fun _ => pure loaded) r =
      (if ∀ p ∈ loaded, p.name.key.isSome then .ok loaded else .error .typeError,
        r.setAll Prod.fst Prod.snd (named loaded)) := by
    rw [exec_bind, exec_registerMany]
    split_ifs <;> rfl
  rw [loadFromFile, h]
  cases clears with
  | true => exact hregister .empty
  | false => exact hregister r

/-- Loading registers all profiles of a file or raises and changes nothing, exactly if the
    file cannot be read, all names can be keys, or the profiles before the first whose name
    cannot are registered already. -/
theorem atomic_loadFromFile_iff (path : String) (file : Except Raised JSON) (clears : Bool)
    (r : Registry) : Atomic path file clears r ↔
      ∀ loaded, readProfiles path file = .ok loaded →
        (∀ p ∈ loaded, p.name.key.isSome) ∨ Has clears r (named loaded) := by
  cases hread : readProfiles path file with
  | error e =>
    have hexec : exec (loadFromFile path file clears) r = (.error e, r) := by
      rw [loadFromFile, hread]
      rfl
    rw [Atomic, hexec]
    exact iff_of_true rfl fun _ h => by cases h
  | ok loaded =>
    simp only [Except.ok.injEq, forall_eq']
    rw [Atomic, exec_loadFromFile hread]
    by_cases hall : ∀ p ∈ loaded, p.name.key.isSome
    · rw [if_pos hall]
      refine iff_of_true ⟨hall, fun key => ?_⟩ (.inl hall)
      rw [Dict.get?_setAll, latest_named hall]
      cases clears <;> rfl
    · rw [if_neg hall, or_iff_right hall]
      cases clears with
      | true =>
        rw [if_pos rfl]
        refine Dict.setAll_empty_eq_iff.trans ⟨fun h => ⟨h.2, fun _ => h.1⟩, fun h => ?_⟩
        exact ⟨h.names rfl, h.profiles⟩
      | false =>
        rw [if_neg Bool.false_ne_true]
        refine Dict.setAll_eq_self_iff.trans ⟨fun h => ⟨h, ?_⟩, fun h => h.profiles⟩
        exact fun hclears => absurd hclears Bool.false_ne_true

/-- A profile, and one whose name is a list. -/
theorem not_forall_atomic_loadFromFile : ¬∀ (path : String) (file : Except Raised JSON)
    (clears : Bool) (r : Registry), Atomic path file clears r := by
  intro h
  let file : JSON := .list [.dict [("name", .str "a"), ("ja3", .str "771,,,,")],
    .dict [("name", .list []), ("ja3", .str "771,,,,")]]
  have hread : readProfiles "fingerprints.json" (.ok file) = .ok [_, _] := rfl
  have hatomic := h "fingerprints.json" (.ok file) false .empty
  rw [Atomic, exec_loadFromFile hread, if_neg (by decide)] at hatomic
  have hname := congrArg (fun r : Registry => (r.get? (.str "a")).isSome) hatomic
  revert hname
  decide

/-! ## Saving and loading -/

end Registry

/-- An operation on the registry, with profiles as they are declared. -/
inductive RegistryOp
  | register (p : TLSFingerprint)
  | registerMany (ps : List TLSFingerprint)
  | unregister (name : String)
  | clear

namespace RegistryOp

def perform : RegistryOp → Registry.RegistryM Unit
  | register p => Registry.register p.profile
  | registerMany ps => Registry.registerMany (ps.map TLSFingerprint.profile)
  | unregister name => do let _ ← Registry.unregister name
  | clear => Registry.clear

/-- The registry after a run. -/
def run (ops : List RegistryOp) : Registry :=
  ops.foldl (fun r op => (exec op.perform r).2) .empty

end RegistryOp

namespace Registry

/-- The entry of a profile. -/
def entry (p : TLSFingerprint) : Key × Profile := (.str p.name, p.profile)

/-- The profiles are as they are declared, and have been registered under their names. -/
def Declared (r : Registry) : Prop := ∀ e ∈ r.entries, e ∈ Set.range entry

theorem declared_empty : Declared .empty := fun _ he => absurd he List.not_mem_nil

theorem Declared.set (h : Declared r) (p : TLSFingerprint) :
    Declared (r.set (.str p.name) p.profile) := by
  intro e he
  rcases Dict.mem_setEntries_iff.1 he with rfl | ⟨-, he⟩
  · exact ⟨p, rfl⟩
  · exact h e he

theorem named_profiles (ps : List TLSFingerprint) :
    named (ps.map TLSFingerprint.profile) = ps.map entry := by
  induction ps with
  | nil => rfl
  | cons p ps ih => exact congrArg (List.cons (entry p)) ih

theorem Declared.setAll (h : Declared r) (ps : List TLSFingerprint) :
    Declared (r.setAll Prod.fst Prod.snd (ps.map entry)) := by
  induction ps generalizing r with
  | nil => exact h
  | cons p ps ih => exact ih (h.set p)

theorem Declared.perform (h : Declared r) (op : RegistryOp) :
    Declared (exec op.perform r).2 := by
  cases op with
  | register p => exact h.set p
  | registerMany ps =>
    rw [RegistryOp.perform, exec_registerMany, named_profiles]
    exact h.setAll ps
  | unregister name =>
    rw [RegistryOp.perform, unregister]
    simp only [exec_bind, exec_get]
    split_ifs
    · exact fun e he => h e (List.mem_of_mem_filter he)
    · exact h
  | clear => exact declared_empty

theorem declared_run (ops : List RegistryOp) : Declared (RegistryOp.run ops) := by
  have hfold (r : Registry) (h : Declared r) :
      Declared (ops.foldl (fun r op => (exec op.perform r).2) r) := by
    induction ops generalizing r with
    | nil => exact h
    | cons op ops ih => exact ih _ (h.perform op)
  exact hfold .empty declared_empty

/-- The entry of a profile, with its name as a text. -/
def textEntry (p : TLSFingerprint) : String × Profile := (p.name, p.profile)

theorem readProfiles_payload (path : String) (ps : List TLSFingerprint) :
    readProfiles path (.ok (payload (ps.map textEntry))) =
      .ok (ps.map TLSFingerprint.profile) := by
  have hraw (entries : List (String × Profile)) : rawItems path (payload entries) =
      .ok ((entries.map fun e => JSON.dict e.2.toDict).filterMap JSON.asDict) := rfl
  have hdicts : ((ps.map textEntry).map fun e => JSON.dict e.2.toDict).filterMap JSON.asDict =
      ps.map fun p => p.profile.toDict := by
    rw [List.map_map, List.filterMap_map]
    exact congrFun List.filterMap_eq_map' ps
  have hall : (ps.map fun p => p.profile.toDict).filter (fun item =>
      (item.lookup "name").isSome && (item.lookup "ja3").isSome) =
        ps.map fun p => p.profile.toDict := by
    refine List.filter_eq_self.2 fun item hitem => ?_
    obtain ⟨p, -, rfl⟩ := List.mem_map.1 hitem
    rfl
  rw [readProfiles, ok_bind, hraw, ok_bind, hdicts, hall, mapM_eq_ok_iff, List.map_map,
    List.map_map]
  exact List.map_congr_left fun p _ => p.fromDict_toDict

/-- The file that is written has the profiles in the order of their names. -/
theorem Declared.exists_saveToFile (h : Declared r) : ∃ ps : List TLSFingerprint,
    (ps.map entry).Perm r.entries ∧ saveToFile r = some (payload (ps.map textEntry)) := by
  obtain ⟨ps, hps⟩ : r.entries ∈ Set.range (List.map entry) := by
    rw [Set.range_list_map]
    exact h
  have htexts : texts r = some (ps.map textEntry) := by
    rw [texts, ← hps, mapM_eq_some_iff, List.map_map, List.map_map]
    rfl
  have hsort : (ps.insertionSort fun p p' => p.name ≤ p'.name).map textEntry =
      (ps.map textEntry).insertionSort fun e e' => e.1 ≤ e'.1 :=
    List.map_insertionSort _ _ textEntry ps fun _ _ _ _ => .rfl
  refine ⟨ps.insertionSort fun p p' => p.name ≤ p'.name, ?_, ?_⟩
  · rw [← hps]
    exact (List.perm_insertionSort _ ps).map entry
  · rw [saveToFile, htexts, Option.map_some, hsort]

/-- What is saved of a registry is loaded, after it has been cleared: the same names have the
    same profiles. So it is for each profile by itself. -/
theorem persists : (∀ p : TLSFingerprint, Profile.fromDict p.profile.toDict = .ok p.profile) ∧
    ∀ (ops : List RegistryOp) (path : String) (r : Registry), ∃ file loaded after,
      saveToFile (RegistryOp.run ops) = some file ∧
        exec (loadFromFile path (.ok file) true) r = (.ok loaded, after) ∧
        after.get? = (RegistryOp.run ops).get? := by
  refine ⟨TLSFingerprint.fromDict_toDict, fun ops path r => ?_⟩
  obtain ⟨ps, hperm, hfile⟩ := (declared_run ops).exists_saveToFile
  have hkeys : ∀ p ∈ ps.map TLSFingerprint.profile, p.name.key.isSome := by
    intro p hp
    obtain ⟨p, -, rfl⟩ := List.mem_map.1 hp
    rfl
  have hload := exec_loadFromFile (readProfiles_payload path ps) true r
  rw [if_pos hkeys, if_pos rfl, named_profiles] at hload
  refine ⟨_, _, _, hfile, hload, funext fun key => ?_⟩
  have hnodup : ((ps.map entry).map Prod.fst).Nodup :=
    (hperm.map Prod.fst).nodup_iff.2 (RegistryOp.run ops).nodup
  rw [Dict.get?_setAll, Dict.get?_empty, Option.or_none]
  ext p
  rw [← Dict.mem_entries_iff, ← hperm.mem_iff, Option.map_eq_some_iff]
  simp only [Log.latest_eq_some_iff_of_nodup hnodup]
  constructor
  · rintro ⟨e, ⟨he, rfl⟩, rfl⟩
    exact he
  · intro he
    exact ⟨(key, p), ⟨he, rfl⟩, rfl⟩

end Registry

end CycleTLS
