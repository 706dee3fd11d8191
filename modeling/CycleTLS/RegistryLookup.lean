import CycleTLS.Captures
import CycleTLS.Lib.Greatest
import Mathlib.Data.List.Lex

/-!
# Looking up profiles (`FingerprintRegistry.by_family`, `latest`, `random`)

Profiles are found by how their names start, for a family of browsers, and how they end, for a
platform. A name belongs to one family and one platform at most (`family_unique`,
`platform_unique`).

Of those that are found, `latest` returns the first with the highest version. It raises if there is
none, or if a name is no text (`latest_eq`).
-/

namespace CycleTLS

open Raising

/-! ## The source -/

/-- A `BrowserFamily`. -/
inductive BrowserFamily
  | brave
  | chrome
  | chromium
  | edge
  | firefox
  | opera
  | safari
  | samsung
  deriving DecidableEq

namespace BrowserFamily

def value : BrowserFamily → String
  | brave => "brave"
  | chrome => "chrome"
  | chromium => "chromium"
  | edge => "edge"
  | firefox => "firefox"
  | opera => "opera"
  | safari => "safari"
  | samsung => "samsung"

/-- `_FAMILY_PREFIXES`. -/
def prefixes : BrowserFamily → List String
  | brave => ["brave"]
  | chrome => ["chrome"]
  | chromium => ["chromium"]
  | edge => ["edge", "msedge"]
  | firefox => ["firefox"]
  | opera => ["opera"]
  | safari => ["safari"]
  | samsung => ["samsung"]

/-- `repr`. -/
def repr : BrowserFamily → String
  | brave => "<BrowserFamily.BRAVE: 'brave'>"
  | chrome => "<BrowserFamily.CHROME: 'chrome'>"
  | chromium => "<BrowserFamily.CHROMIUM: 'chromium'>"
  | edge => "<BrowserFamily.EDGE: 'edge'>"
  | firefox => "<BrowserFamily.FIREFOX: 'firefox'>"
  | opera => "<BrowserFamily.OPERA: 'opera'>"
  | safari => "<BrowserFamily.SAFARI: 'safari'>"
  | samsung => "<BrowserFamily.SAMSUNG: 'samsung'>"

end BrowserFamily

/-- A `Platform`. -/
inductive Platform
  | android
  | ios
  | linux
  | macos
  | windows
  deriving DecidableEq

namespace Platform

def value : Platform → String
  | android => "android"
  | ios => "ios"
  | linux => "linux"
  | macos => "mac"
  | windows => "win"

/-- `repr`. -/
def repr : Platform → String
  | android => "<Platform.ANDROID: 'android'>"
  | ios => "<Platform.IOS: 'ios'>"
  | linux => "<Platform.LINUX: 'linux'>"
  | macos => "<Platform.MACOS: 'mac'>"
  | windows => "<Platform.WINDOWS: 'win'>"

def suffix (platform : Platform) : String := "_" ++ platform.value

end Platform

variable (env : TextEnv)

/-- The value of a run of digits, which `int` refuses if it has more than 4300. -/
def versionPart (digits : List Nat) : Nat := digits.foldl (fun n d => 10 * n + d) 0

/-- The version that runs of digits are. -/
def versionOf (parts : List (List Nat)) : List Nat :=
  if parts.isEmpty then [0] else parts.map versionPart

/-- `_version_tuple`. -/
def versionTuple (name : String) : List Nat := versionOf (Runs.runs env.decimal name.toList)

namespace Profile

/-- The name, if it is a text. -/
def text (p : Profile) : Option String :=
  match p.name with
  | .str name => some name
  | _ => none

/-- The version in the name, if it is a text. -/
def version (p : Profile) : List Nat := (p.text.map (versionTuple env)).getD []

end Profile

namespace Registry

/-- The profiles whose names have a property. What is no text has no `startswith` and no
    `endswith`. -/
def whereName (select : String → Bool) (ps : List Profile) : Except Raised (List Profile) :=
  ps.filterM fun p =>
    match p.text with
    | some name => .ok (select name)
    | none => .error .attributeError

/-- `by_family`. -/
def byFamily (r : Registry) (family : BrowserFamily) (platform : Option Platform) :
    Except Raised (List Profile) := do
  let candidates ← whereName
    (fun name => family.prefixes.any fun start => start.toList.isPrefixOf name.toList) r.values
  match platform with
  | some platform =>
    whereName (fun name => platform.suffix.toList.isSuffixOf name.toList) candidates
  | none => return candidates

/-- `_candidates`. -/
def candidates (r : Registry) (family : Option BrowserFamily) (platform : Option Platform) :
    Except Raised (List Profile) :=
  match family, platform with
  | some family, platform => byFamily r family platform
  | none, some platform =>
    whereName (fun name => platform.suffix.toList.isSuffixOf name.toList) r.values
  | none, none => .ok r.values

/-- The text of the `KeyError`. -/
def noProfiles (r : Registry) (family : Option BrowserFamily) (platform : Option Platform) :
    String :=
  "No profiles found" ++ (family.map fun family => " for family " ++ family.repr).getD "" ++
    (platform.map fun platform => " on platform " ++ platform.repr).getD "" ++ ". Available: " ++
    env.listText (r.entries.map Prod.fst)

/-- What `max` compares of a profile, with the profile. What is no text has no match. -/
def keyed (p : Profile) : Except Raised (List Nat × Profile) :=
  match p.text with
  | some name => .ok (versionTuple env name, p)
  | none => .error .typeError

/-- `latest`. -/
def latest (r : Registry) (family : Option BrowserFamily) (platform : Option Platform) :
    Except Raised Profile := do
  let candidates ← candidates r family platform
  match (← candidates.mapM (keyed env)).argmax Prod.fst with
  | some e => return e.2
  | none => throw (.keyError (noProfiles env r family platform))

/-- `random`, for which of so many and one more `random.choice` chooses. -/
def random (choice : (n : Nat) → Fin (n + 1)) (r : Registry) (family : Option BrowserFamily)
    (platform : Option Platform) : Except Raised Profile := do
  match ← candidates r family platform with
  | [] => throw (.keyError (noProfiles env r family platform))
  | p :: ps => return (p :: ps).get (choice ps.length)

/-! ## Families and platforms -/

/-- What is looked for by name. -/
def selects (family : Option BrowserFamily) (platform : Option Platform) (name : String) : Bool :=
  (family.all fun family =>
    family.prefixes.any fun start => start.toList.isPrefixOf name.toList) &&
    platform.all fun platform => platform.suffix.toList.isSuffixOf name.toList

/-- A name is found for one family at most. -/
theorem family_unique {family family' : BrowserFamily} {name : String}
    (h : selects (some family) none name = true) (h' : selects (some family') none name = true) :
    family = family' := by
  have hstarts : ∀ start ∈ family.prefixes, ∀ start' ∈ family'.prefixes,
      (start.toList <+: start'.toList ∨ start'.toList <+: start.toList) → family = family' := by
    -- no prefix of a family is one of a prefix of another family
    cases family <;> cases family' <;> decide
  simp only [selects, Option.all_some, Option.all_none, Bool.and_true, List.any_eq_true,
    List.isPrefixOf_iff_prefix] at h h'
  obtain ⟨start, hstart, hname⟩ := h
  obtain ⟨start', hstart', hname'⟩ := h'
  exact hstarts start hstart start' hstart' (List.prefix_or_prefix_of_prefix hname hname')

/-- A name is found for one platform at most. -/
theorem platform_unique {platform platform' : Platform} {name : String}
    (h : selects none (some platform) name = true)
    (h' : selects none (some platform') name = true) : platform = platform' := by
  simp only [selects, Option.all_some, Option.all_none, Bool.true_and,
    List.isSuffixOf_iff_suffix] at h h'
  -- of two suffixes of a name, one is a suffix of the other
  have hsuffix := List.suffix_or_suffix_of_suffix h h'
  revert hsuffix
  cases platform <;> cases platform' <;> decide

/-! ## The profile that is found -/

/-- A profile is looked for. -/
def selected (family : Option BrowserFamily) (platform : Option Platform) (p : Profile) : Bool :=
  family.isNone && platform.isNone || p.text.any (selects family platform)

variable {r : Registry} {family : Option BrowserFamily} {platform : Option Platform}

theorem whereName_eq (select : String → Bool) (ps : List Profile) : whereName select ps =
    if ∀ p ∈ ps, p.text.isSome then .ok (ps.filter fun p => p.text.any select)
    else .error .attributeError := by
  refine filterM_eq_ite (fun p hp => ?_) fun p hp => ?_
  · obtain ⟨name, hname⟩ := Option.isSome_iff_exists.1 hp
    simp [hname]
  · rw [Option.not_isSome_iff_eq_none.1 hp]

theorem candidates_eq : candidates r family platform =
    if (family = none ∧ platform = none) ∨ ∀ p ∈ r.values, p.text.isSome then
      .ok (r.values.filter (selected family platform))
    else .error .attributeError := by
  -- only without a family and a platform no name is asked
  cases family with
  | none =>
    cases platform with
    | none =>
      rw [if_pos (.inl ⟨rfl, rfl⟩)]
      exact congrArg Except.ok (List.filter_eq_self.2 fun _ _ => rfl).symm
    | some platform =>
      rw [candidates, whereName_eq]
      simp only [reduceCtorEq, and_false, false_or]
      rfl
  | some family =>
    rw [candidates, byFamily, whereName_eq]
    simp only [reduceCtorEq, false_and, false_or]
    by_cases hall : ∀ p ∈ r.values, p.text.isSome
    · rw [if_pos hall, if_pos hall, ok_bind]
      cases platform with
      | none =>
        refine congrArg Except.ok (List.filter_congr fun p _ => ?_)
        cases htext : p.text with
        | none => simp [selected, htext]
        | some name => simp [selected, selects, htext]
      | some platform =>
        have hfiltered (select : Profile → Bool) :
            ∀ p ∈ r.values.filter select, p.text.isSome :=
          fun p hp => hall p (List.mem_of_mem_filter hp)
        simp only [whereName_eq]
        rw [if_pos (hfiltered _), List.filter_filter]
        refine congrArg Except.ok (List.filter_congr fun p _ => ?_)
        cases htext : p.text with
        | none => simp [selected, htext]
        | some name => simp [selected, selects, htext, Bool.and_comm]
    · rw [if_neg hall, if_neg hall]
      rfl

/-- What `latest` answers: the first profile of the highest version, if all names are texts. -/
theorem latest_eq : latest env r family platform =
    if ∀ p ∈ r.values, p.text.isSome then
      ((r.values.filter (selected family platform)).argmax (Profile.version env)).elim
        (.error (.keyError (noProfiles env r family platform))) .ok
    else .error (if family = none ∧ platform = none then .typeError else .attributeError) := by
  have hversions (ps : List Profile) : ps.mapM (keyed env) =
      if ∀ p ∈ ps, p.text.isSome then .ok (ps.map fun p => (p.version env, p))
      else .error .typeError := by
    refine mapM_eq_ite (fun p hp => ?_) fun p hp => ?_
    · obtain ⟨name, hname⟩ := Option.isSome_iff_exists.1 hp
      simp [keyed, Profile.version, hname]
    · rw [keyed, Option.not_isSome_iff_eq_none.1 hp]
  rw [latest, candidates_eq]
  by_cases hall : ∀ p ∈ r.values, p.text.isSome
  · have hfiltered : ∀ p ∈ r.values.filter (selected family platform), p.text.isSome :=
      fun p hp => hall p (List.mem_of_mem_filter hp)
    rw [if_pos (.inr hall), if_pos hall, ok_bind, hversions, if_pos hfiltered, ok_bind,
      Greatest.argmax_map, Function.comp_def]
    cases (r.values.filter (selected family platform)).argmax (Profile.version env) with
    | none => rfl
    | some p => rfl
  -- a name that is no text fails the search, or the comparison if there is no search
  · rw [if_neg hall]
    by_cases hnone : family = none ∧ platform = none
    · rw [if_pos (.inl hnone), if_pos hnone, ok_bind, hversions, if_neg, error_bind]
      obtain ⟨rfl, rfl⟩ := hnone
      exact fun hfiltered => hall fun p hp => hfiltered p (List.mem_filter.2 ⟨hp, rfl⟩)
    · rw [if_neg (not_or_intro hnone hall), if_neg hnone, error_bind]

end Registry

end CycleTLS
