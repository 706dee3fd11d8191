import CycleTLS.MergeCache

/-!
# Setting several defaults at once (`set_default`)

The loop of `set_default` checks a keyword and sets its default before it looks at the next
one. Where a keyword is refused, the defaults of those before it have been set.

A call hence sets all of its defaults, or raises and sets none, exactly if no keyword is
refused or those before the first that is have the defaults they are given already
(`atomic_setDefault_iff`).
-/

namespace CycleTLS

/-- Two configurations have the same defaults, but for some keywords. -/
structure SameBut (names : List String) (config config' : Kwargs Ref) : Prop where
  headers : "headers" ∉ names → config'.headers = config.headers
  options : ∀ k : Keyword, k.name ∉ names → config'.options k = config.options k
  unknown : config'.unknown = config.unknown

/-- The second configuration is the first one with the settings. -/
structure Applied (settings : List Setting) (config config' : Kwargs Ref) : Prop where
  isSet : ∀ x ∈ settings, x.IsSet config'
  sameBut : SameBut (settings.map Setting.name) config config'

/-- A call of `set_default` applies all of the settings, or raises and leaves the
    configuration as it was. -/
def Package.Atomic (env : PyEnv) (s : Package) (settings : List Setting) : Prop :=
  match s.setDefault env settings with
  | (s', .ok ()) => Applied settings s.config s'.config
  | (s', .error _) => s'.config = s.config

variable {env : PyEnv} {s : Package} {settings : List Setting}

namespace SameBut

variable {names : List String} {config : Kwargs Ref}

theorem apply {x : Setting} (hx : x.name ∈ names) : SameBut names config (x.apply config) := by
  cases x with
  | headers dict => exact ⟨fun hnot => absurd hx hnot, fun _ _ => rfl, rfl⟩
  | option k v =>
    refine ⟨fun _ => rfl, fun k' hk' => Function.update_of_ne ?_ _ _, rfl⟩
    rintro rfl
    exact hk' hx
  | otherHeaders v => exact ⟨fun _ => rfl, fun _ _ => rfl, rfl⟩
  | unknown name => exact ⟨fun _ => rfl, fun _ _ => rfl, rfl⟩

theorem trans {config' config'' : Kwargs Ref} (h : SameBut names config config')
    (h' : SameBut names config' config'') : SameBut names config config'' where
  headers hnot := (h'.headers hnot).trans (h.headers hnot)
  options k hnot := (h'.options k hnot).trans (h.options k hnot)
  unknown := h'.unknown.trans h.unknown

theorem foldl (h : ∀ x ∈ settings, x.name ∈ names) :
    SameBut names config (settings.foldl Setting.apply config) := by
  induction settings generalizing config with
  | nil => exact ⟨fun _ => rfl, fun _ _ => rfl, rfl⟩
  | cons x xs ih =>
    obtain ⟨hx, hxs⟩ := List.forall_mem_cons.1 h
    exact (apply hx).trans (ih hxs)

end SameBut

theorem applied_foldl (hdistinct : (settings.map Setting.name).Nodup)
    (h : ∀ x ∈ settings, x.refusal env = none) (config : Kwargs Ref) :
    Applied settings config (settings.foldl Setting.apply config) where
  isSet := Setting.isSet_foldl hdistinct h
  sameBut := .foldl fun _ hx => List.mem_map_of_mem hx

theorem accepted_of_forall (h : ∀ x ∈ settings, x.refusal env = none) :
    accepted env settings = settings :=
  List.takeWhile_eq_self_iff.2 fun x hx => Option.isNone_iff_eq_none.2 (h x hx)

namespace Package

/-- A call, the keywords of which are distinct, is all or nothing exactly if no keyword is
    refused, or each one before the first refused has the default that it is given. -/
theorem atomic_setDefault_iff (hdistinct : (settings.map Setting.name).Nodup) :
    s.Atomic env settings ↔ (∀ x ∈ settings, x.refusal env = none) ∨
      ∀ x ∈ accepted env settings, x.IsSet s.config := by
  by_cases hall : ∀ x ∈ settings, x.refusal env = none
  · have hok : (applySettings env s.config settings).2 = .ok () := snd_applySettings hall
    have hconfig : (applySettings env s.config settings).1 =
        settings.foldl Setting.apply s.config := by
      rw [fst_applySettings, accepted_of_forall hall]
    have happly : applySettings env s.config settings =
        (settings.foldl Setting.apply s.config, .ok ()) := Prod.ext hconfig hok
    refine iff_of_true ?_ (.inl hall)
    rw [Atomic, setDefault, happly]
    exact applied_foldl hdistinct hall s.config
  · obtain ⟨e, he⟩ : ∃ e, (applySettings env s.config settings).2 = .error e :=
      exists_snd_applySettings hall
    have hsub : ((accepted env settings).map Setting.name).Nodup :=
      hdistinct.sublist ((List.takeWhile_sublist _).map _)
    rw [or_iff_right hall, ← Setting.foldl_apply_eq_iff hsub (refusal_of_mem_accepted env settings),
      ← fst_applySettings]
    have happly : applySettings env s.config settings =
        ((applySettings env s.config settings).1, .error e) := Prod.ext rfl he
    rw [Atomic, setDefault, happly]

/-- A proxy together with a timeout that is refused, where the defaults have this proxy. -/
theorem atomic_setDefault_sameProxy :
    Atomic .plain ⟨Kwargs.set {} .proxy (.str "http://p"), none, fun _ => .empty⟩
      [.option .proxy (.str "http://p"), .option .timeout (.int 0)] := by
  refine (atomic_setDefault_iff (by decide)).2 (.inr fun x hx => ?_)
  have hx' : x ∈ [Setting.option .proxy (.str "http://p")] := hx
  rw [List.mem_singleton.1 hx']
  rfl

/-- The same call, where there are no defaults. -/
theorem not_forall_atomic_setDefault : ¬∀ (env : PyEnv) (s : Package) (settings : List Setting),
    (settings.map Setting.name).Nodup → s.Atomic env settings := by
  intro h
  have hsame : Package.config _ = Package.config _ := h .plain ⟨{}, none, fun _ => .empty⟩
    [.option .proxy (.str "http://p"), .option .timeout (.int 0)] (by decide)
  have hproxy := congrArg (fun config : Kwargs Ref => (config.options .proxy).isSome) hsame
  revert hproxy
  decide

end Package

end CycleTLS
