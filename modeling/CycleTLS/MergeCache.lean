import CycleTLS.Defaults
import CycleTLS.Lib.Machine
import Mathlib.Data.List.TakeWhile

/-!
# The cache of the merged defaults (`_merge_defaults`)

For a request with no arguments the merge of the defaults is kept in a cache, which
`set_default` and `reset_defaults` empty. But `set_default` does so only when it returns:
where a setting is refused, those before it are made and the cache stays.

What the merge gives for no arguments is hence what it would give without a cache, in
every state of a run, exactly if each call of `set_default` that is refused finds no cache
or leaves the defaults as they are (`fastPath_iff`).
-/

namespace CycleTLS

variable (env : PyEnv)

/-- The keyword of a setting. -/
def Setting.name : Setting → String
  | headers _ | otherHeaders _ => "headers"
  | option k _ => k.name
  | unknown name => name

/-- What is done with the defaults. A call gives each keyword once. -/
inductive DefaultsOp
  | setDefault (settings : List Setting) (distinct : (settings.map Setting.name).Nodup)
  | resetDefaults
  | mergeDefaults (kwargs : Kwargs Ref)

namespace Package

/-- The state after an operation on the defaults. -/
def configure (s : Package) : DefaultsOp → Package × Unit
  | .setDefault settings _ => ((s.setDefault env settings).1, ())
  | .resetDefaults => (s.resetDefaults, ())
  | .mergeDefaults kwargs => ((s.mergeDefaults kwargs).1, ())

/-- The merge of no arguments is that of the defaults there are. -/
def FastPath (s : Package) : Prop := (s.mergeDefaults {}).2 = .withDefaults s.config {}

end Package

/-- An operation that leaves no old defaults in the cache. -/
def DefaultsOp.KeepsCache (s : Package) : DefaultsOp → Prop
  | setDefault settings _ => s.cache = none ∨ (∀ x ∈ settings, x.refusal env = none) ∨
      ∀ x ∈ accepted env settings, x.IsSet s.config
  | _ => True

variable {env}

/-! ## Settings -/

namespace Kwargs

/-- Only the keywords that have defaults are set. -/
structure Configured (config : Kwargs Ref) : Prop where
  options : ∀ k, k ∉ configurable → config.options k = none
  unknown : config.unknown = []

/-- Such a configuration is its own merge with no arguments. -/
theorem Configured.withDefaults {config : Kwargs Ref} (h : config.Configured) :
    Kwargs.withDefaults config {} = config := by
  obtain ⟨headers, options, unknown⟩ := config
  rw [Kwargs.withDefaults, Kwargs.mk.injEq]
  refine ⟨Option.none_or, funext fun k => ?_, h.unknown.symm⟩
  split_ifs with hk
  · exact Option.none_or
  · exact (h.options k hk).symm

theorem Configured.apply {config : Kwargs Ref} (h : config.Configured) {x : Setting}
    (hx : x.refusal env = none) : (x.apply config).Configured := by
  cases x with
  | headers dict => exact ⟨h.options, h.unknown⟩
  | otherHeaders v => cases hx
  | unknown name => cases hx
  | option k v =>
    refine ⟨fun k' hk' => ?_, h.unknown⟩
    have hk : k ∈ configurable := by
      by_contra hk
      rw [Setting.refusal, if_pos hk] at hx
      cases hx
    have hne : k' ≠ k := fun heq => hk' (heq ▸ hk)
    exact (Function.update_of_ne hne _ _).trans (h.options k' hk')

theorem Configured.foldl {config : Kwargs Ref} (h : config.Configured) {settings : List Setting}
    (hs : ∀ x ∈ settings, x.refusal env = none) :
    (settings.foldl Setting.apply config).Configured := by
  induction settings generalizing config with
  | nil => exact h
  | cons x xs ih =>
    obtain ⟨hx, hxs⟩ := List.forall_mem_cons.1 hs
    exact ih (h.apply hx) hxs

end Kwargs

namespace Setting

variable {config : Kwargs Ref} {x y : Setting} {settings : List Setting}

theorem isSet_apply (hx : x.refusal env = none) : x.IsSet (x.apply config) := by
  cases x with
  | headers dict => rfl
  | option k v => exact Function.update_self k _ _
  | otherHeaders v => cases hx
  | unknown name => cases hx

theorem IsSet.apply (hx : x.IsSet config) (hne : x.name ≠ y.name) : x.IsSet (y.apply config) := by
  cases y with
  | headers dict =>
    cases x with
    | headers dict' => exact absurd rfl hne
    | _ => exact hx
  | option k v =>
    cases x with
    | option k' v' =>
      have hk : k' ≠ k := fun h => hne (congrArg Keyword.name h)
      exact (Function.update_of_ne hk _ _).trans hx
    | _ => exact hx
  | otherHeaders v => exact hx
  | unknown name => exact hx

/-- A setting stays through those of other keywords. -/
theorem IsSet.foldl (hx : x.IsSet config) (hne : ∀ y ∈ settings, x.name ≠ y.name) :
    x.IsSet (settings.foldl Setting.apply config) := by
  induction settings generalizing config with
  | nil => exact hx
  | cons y ys ih =>
    obtain ⟨hy, hys⟩ := List.forall_mem_cons.1 hne
    exact ih (hx.apply hy) hys

theorem isSet_foldl (hdistinct : (settings.map Setting.name).Nodup)
    (hs : ∀ x ∈ settings, x.refusal env = none) :
    ∀ x ∈ settings, x.IsSet (settings.foldl Setting.apply config) := by
  induction settings generalizing config with
  | nil => exact fun x hx => nomatch hx
  | cons y ys ih =>
    rw [List.map_cons, List.nodup_cons] at hdistinct
    obtain ⟨hy, hys⟩ := List.forall_mem_cons.1 hs
    intro x hx
    rcases List.mem_cons.1 hx with rfl | hx
    · refine (isSet_apply hy).foldl fun y hmem heq => hdistinct.1 ?_
      exact heq ▸ List.mem_map_of_mem hmem
    · exact ih hdistinct.2 hys x hx

/-- Settings leave the configuration as it is exactly if it has them already. -/
theorem foldl_apply_eq_iff (hdistinct : (settings.map Setting.name).Nodup)
    (hs : ∀ x ∈ settings, x.refusal env = none) :
    settings.foldl Setting.apply config = config ↔ ∀ x ∈ settings, x.IsSet config := by
  refine ⟨fun h => ?_, foldl_apply_of_isSet⟩
  have hset : ∀ x ∈ settings, x.IsSet (settings.foldl Setting.apply config) :=
    isSet_foldl hdistinct hs
  rwa [h] at hset

theorem isEmpty_eq_false_of_isSet (hx : x.refusal env = none) (h : x.IsSet config) :
    config.isEmpty = false := by
  rw [← Bool.not_eq_true]
  intro hempty
  rw [Kwargs.eq_of_isEmpty hempty] at h
  cases x with
  | headers dict => cases h
  | option k v => cases h
  | otherHeaders v => cases hx
  | unknown name => cases hx

theorem isEmpty_foldl (h : config.isEmpty = false) (hs : ∀ x ∈ settings, x.refusal env = none) :
    (settings.foldl Setting.apply config).isEmpty = false := by
  induction settings generalizing config with
  | nil => exact h
  | cons x xs ih =>
    obtain ⟨hx, hxs⟩ := List.forall_mem_cons.1 hs
    exact ih (isEmpty_eq_false_of_isSet hx (isSet_apply hx)) hxs

end Setting

theorem refusal_of_mem_accepted (env : PyEnv) (settings : List Setting) :
    ∀ x ∈ accepted env settings, x.refusal env = none :=
  fun _ hx =>
    Option.isNone_iff_eq_none.1
      (List.mem_takeWhile_imp (p := fun x : Setting => (x.refusal env).isNone) hx)

/-- The loop of `set_default` ends in an exception exactly if a setting is refused. -/
theorem exists_snd_applySettings {config : Kwargs Ref} {settings : List Setting}
    (h : ¬∀ x ∈ settings, x.refusal env = none) :
    ∃ e, (applySettings env config settings).2 = .error e := by
  induction settings generalizing config with
  | nil => exact absurd (fun x hx => nomatch hx) h
  | cons x xs ih =>
    rw [applySettings]
    cases hx : x.refusal env with
    | some e => exact ⟨e, rfl⟩
    | none => exact ih fun hxs => h (List.forall_mem_cons.2 ⟨hx, hxs⟩)

/-! ## The operations -/

namespace Package

/-- What holds of the defaults and the cache in every run. -/
structure WellCached (s : Package) : Prop where
  configured : s.config.Configured
  nonempty : ∀ merged, s.cache = some merged → s.config.isEmpty = false

variable {s : Package} {settings : List Setting}

theorem setDefault_of_accepted (h : ∀ x ∈ settings, x.refusal env = none) :
    (s.setDefault env settings).1 =
      { s with config := (accepted env settings).foldl Setting.apply s.config, cache := none } := by
  have hok : (applySettings env s.config settings).2 = .ok () := snd_applySettings h
  rw [setDefault, ← fst_applySettings]
  split
  · next happly => rw [happly]
  · next happly =>
    rw [happly] at hok
    cases hok

theorem setDefault_of_refused (h : ¬∀ x ∈ settings, x.refusal env = none) :
    (s.setDefault env settings).1 =
      { s with config := (accepted env settings).foldl Setting.apply s.config } := by
  obtain ⟨e, he⟩ : ∃ e, (applySettings env s.config settings).2 = .error e :=
    exists_snd_applySettings h
  rw [setDefault, ← fst_applySettings]
  split
  · next happly =>
    rw [happly] at he
    cases he
  · next happly => rw [happly]

/-- The fast path is right exactly if what is in the cache are the defaults. -/
theorem fastPath_iff_cacheMerged (h : s.WellCached) : s.FastPath ↔ s.CacheMerged := by
  rw [FastPath, mergeDefaults]
  split_ifs with hconfig hkwargs
  · refine iff_of_true ?_ fun merged hmerged => ?_
    · rw [Kwargs.eq_of_isEmpty hconfig]
      exact (Kwargs.withDefaults_empty {}).symm
    · exact absurd (h.nonempty merged hmerged) (by rw [hconfig]; decide)
  · cases hcache : s.cache with
    | none =>
      refine iff_of_true rfl fun merged hmerged => ?_
      cases hcache.symm.trans hmerged
    | some merged =>
      refine ⟨fun heq merged' hmerged' => ?_, fun hmerged => hmerged merged hcache⟩
      rw [← Option.some.inj (hcache.symm.trans hmerged')]
      exact heq
  · exact absurd (by decide) hkwargs

theorem wellCached_configure (h : s.WellCached) (op : DefaultsOp) :
    (s.configure env op).1.WellCached := by
  cases op with
  | setDefault settings _ =>
    obtain ⟨cache, hset, hcache⟩ := setDefault_eq env s settings
    rw [configure, hset]
    refine ⟨h.configured.foldl (refusal_of_mem_accepted env settings), fun merged hmerged => ?_⟩
    rcases hcache with rfl | ⟨rfl, -⟩
    · cases hmerged
    · exact Setting.isEmpty_foldl (h.nonempty merged hmerged)
        (refusal_of_mem_accepted env settings)
  | resetDefaults => exact ⟨⟨fun _ _ => rfl, rfl⟩, fun _ hmerged => nomatch hmerged⟩
  | mergeDefaults kwargs =>
    rw [configure]
    unfold mergeDefaults
    split_ifs with hconfig hkwargs
    · exact h
    · split
      · exact h
      · exact ⟨h.configured, fun _ _ => Bool.eq_false_iff.2 hconfig⟩
    · exact h

theorem wellCached_new (heap : Ref → Headers) : (new env heap).WellCached := by
  have hempty : WellCached ⟨{}, none, heap⟩ :=
    ⟨⟨fun _ _ => rfl, rfl⟩, fun _ hmerged => nomatch hmerged⟩
  have hnew : (configure env ⟨{}, none, heap⟩ (.setDefault
      [.option .enableConnectionReuse (.bool true)] (List.nodup_singleton _))).1.WellCached :=
    wellCached_configure hempty _
  exact hnew

/-- The cache stays right exactly where a call that is refused finds none or makes no
    difference. -/
theorem cacheMerged_configure_iff (h : s.WellCached) (hs : s.CacheMerged) (op : DefaultsOp) :
    (s.configure env op).1.CacheMerged ↔ op.KeepsCache env s := by
  cases op with
  | resetDefaults => exact iff_of_true (fun _ hmerged => nomatch hmerged) trivial
  | mergeDefaults kwargs =>
    refine iff_of_true ?_ trivial
    obtain ⟨cache, hmerge, hcache⟩ := mergeDefaults_eq hs kwargs
    rw [configure, hmerge]
    exact hcache
  | setDefault settings hdistinct =>
    rw [configure, DefaultsOp.KeepsCache]
    by_cases hall : ∀ x ∈ settings, x.refusal env = none
    · refine iff_of_true ?_ (.inr (.inl hall))
      rw [setDefault_of_accepted hall]
      exact fun _ hmerged => nomatch hmerged
    · -- the call is refused, so the cache stays and only the settings before are made
      rw [setDefault_of_refused hall]
      have hsub : ((accepted env settings).map Setting.name).Nodup :=
        hdistinct.sublist ((List.takeWhile_sublist _).map _)
      have haccepted := refusal_of_mem_accepted env settings
      have hconfigured := h.configured.foldl haccepted
      constructor
      · intro hmerged
        cases hcache : s.cache with
        | none => exact .inl rfl
        | some merged =>
          refine .inr (.inr ((Setting.foldl_apply_eq_iff hsub haccepted).1 ?_))
          have hnew := hmerged merged hcache
          rw [hs merged hcache, h.configured.withDefaults, hconfigured.withDefaults] at hnew
          exact hnew.symm
      · rintro (hnone | hnot | hset)
        · exact fun _ hmerged => nomatch hnone.symm.trans hmerged
        · exact absurd hnot hall
        · rw [foldl_apply_of_isSet hset]
          exact hs

end Package

/-- What the merge gives for no arguments is, in every state of a run, what the slow path
    would give, exactly if all operations keep the cache right. -/
theorem fastPath_iff (env : PyEnv) (heap : Ref → Headers) (ops : List DefaultsOp) :
    (∀ pre, pre <+: ops → (Machine.final (Package.configure env) (.new env heap) pre).FastPath) ↔
      ∀ t ∈ Machine.trace (Package.configure env) (.new env heap) ops,
        t.event.KeepsCache env t.before := by
  have hnew : (Package.new env heap).WellCached := Package.wellCached_new heap
  have hfast : (Package.new env heap).FastPath :=
    (Package.fastPath_iff_cacheMerged hnew).2 fun _ hmerged => nomatch hmerged
  have hstep (s : Package) (op : DefaultsOp) (h : s.WellCached) :
      (s.configure env op).1.WellCached := Package.wellCached_configure h op
  refine Machine.forall_prefix_iff (Package.configure env) hstep (fun s op h hs => ?_) hnew hfast
    ops
  rw [Package.fastPath_iff_cacheMerged (Package.wellCached_configure h op)]
  exact Package.cacheMerged_configure_iff h ((Package.fastPath_iff_cacheMerged h).1 hs) op

/-- A proxy is set together with a timeout that is refused, after a request without
    arguments. -/
theorem not_forall_fastPath : ¬∀ (env : PyEnv) (heap : Ref → Headers) (ops pre : List DefaultsOp),
    pre <+: ops → (Machine.final (Package.configure env) (.new env heap) pre).FastPath := by
  intro h
  let ops : List DefaultsOp := [.mergeDefaults {},
    .setDefault [.option .proxy (.str "socks5://h:9050"), .option .timeout (.int 0)] (by decide)]
  have hfast := h .plain (fun _ => .empty) ops ops List.prefix_rfl
  have hproxy := congrArg (fun kwargs : Kwargs Ref => (kwargs.options .proxy).isSome) hfast
  revert hproxy
  decide

end CycleTLS
