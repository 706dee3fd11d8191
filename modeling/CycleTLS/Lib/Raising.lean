import Mathlib.Data.List.Basic
import Mathlib.Data.List.Forall2

/-!
# Programs that write and raise

A program changes a state and may raise an exception, after which the state is as
it was left (`exec`). A result of a program comes from results of its parts
(`exec_bind_eq_ok_iff`, and `bind_eq_ok_iff` where there is no state), a program whose
parts stay in the state they are started in stays there too (`Stays.bind`), and only then
where no part undoes what another one does (`snd_exec_bind_eq_iff`), and what each part
ensures is ensured by the whole (`Ensures.bind`).
-/

namespace Raising

variable {ε σ α β : Type}

theorem ok_bind (a : α) (f : α → Except ε β) : (Except.ok a >>= f) = f a := rfl

theorem error_bind (e : ε) (f : α → Except ε β) : (Except.error e >>= f) = .error e := rfl

theorem bind_eq_ok_iff {x : Except ε α} {f : α → Except ε β} {b : β} :
    x >>= f = .ok b ↔ ∃ a, x = .ok a ∧ f a = .ok b := by
  cases x with
  | ok a =>
    refine ⟨fun h => ⟨a, rfl, h⟩, ?_⟩
    rintro ⟨_, h, hf⟩
    cases h
    exact hf
  | error e =>
    constructor
    · rintro ⟨⟩
    · rintro ⟨_, h, _⟩
      cases h

theorem eq_ok_of_toOption {x : Except ε α} {a : α} (h : x.toOption = some a) : x = .ok a := by
  cases x with
  | ok b => exact congrArg Except.ok (Option.some.inj h)
  | error e => cases h

theorem exists_ok_of_isSome {x : Except ε α} (h : x.toOption.isSome = true) : ∃ a, x = .ok a := by
  cases x with
  | ok a => exact ⟨a, rfl⟩
  | error e => cases h

theorem exists_ok_of_any {x : Except ε α} {p : α → Bool} (h : x.toOption.any p = true) :
    ∃ a, x = .ok a ∧ p a = true := by
  cases x with
  | ok a => exact ⟨a, rfl, h⟩
  | error e => cases h

/-- The results for a list are those for its items, one by one. -/
theorem mapM_eq_ok_iff {f : α → Except ε β} {l : List α} {l' : List β} :
    l.mapM f = .ok l' ↔ l.map f = l'.map .ok := by
  induction l generalizing l' with
  | nil =>
    rw [List.mapM_nil, List.map_nil, eq_comm (a := []), List.map_eq_nil_iff]
    exact ⟨fun h => (Except.ok.inj h).symm, fun h => h ▸ rfl⟩
  | cons a l ih =>
    rw [List.mapM_cons, bind_eq_ok_iff, List.map_cons]
    constructor
    · rintro ⟨b, hb, h⟩
      obtain ⟨bs, hbs, h⟩ := bind_eq_ok_iff.1 h
      cases h
      rw [hb, ih.1 hbs, List.map_cons]
    · intro h
      cases l' with
      | nil => cases h
      | cons b bs =>
        obtain ⟨hb, hbs⟩ := List.cons.inj h
        exact ⟨b, hb, bind_eq_ok_iff.2 ⟨bs, ih.2 hbs, rfl⟩⟩

theorem mapM_eq_some_iff {f : α → Option β} {l : List α} {l' : List β} :
    l.mapM f = some l' ↔ l.map f = l'.map some := by
  induction l generalizing l' with
  | nil =>
    rw [List.mapM_nil, List.map_nil, eq_comm (a := []), List.map_eq_nil_iff]
    exact ⟨fun h => (Option.some.inj h).symm, fun h => h ▸ rfl⟩
  | cons a l ih =>
    rw [List.mapM_cons, List.map_cons]
    constructor
    · intro h
      obtain ⟨b, hb, h⟩ := Option.bind_eq_some_iff.1 h
      obtain ⟨bs, hbs, h⟩ := Option.bind_eq_some_iff.1 h
      cases h
      rw [hb, ih.1 hbs, List.map_cons]
    · intro h
      cases l' with
      | nil => cases h
      | cons b bs =>
        obtain ⟨hb, hbs⟩ := List.cons.inj h
        rw [hb, ih.2 hbs]
        rfl

theorem exists_mapM_eq_some_iff {f : α → Option β} {l : List α} :
    (∃ l', l.mapM f = some l') ↔ ∀ a ∈ l, (f a).isSome := by
  simp only [mapM_eq_some_iff]
  constructor
  · rintro ⟨l', h⟩ a ha
    have hmem : f a ∈ l'.map some := h ▸ List.mem_map_of_mem ha
    obtain ⟨b, -, hb⟩ := List.mem_map.1 hmem
    exact hb ▸ rfl
  · intro h
    induction l with
    | nil => exact ⟨[], rfl⟩
    | cons a l ih =>
      obtain ⟨ha, hl⟩ := List.forall_mem_cons.1 h
      obtain ⟨b, hb⟩ := Option.isSome_iff_exists.1 ha
      obtain ⟨bs, hbs⟩ := ih hl
      exact ⟨b :: bs, by rw [List.map_cons, List.map_cons, hb, hbs]⟩

/-- Lists that are read item by item. -/
theorem mapM_eq_ok_iff_of_forall {f : α → Except ε β} {g : α → Option β}
    (h : ∀ a b, f a = .ok b ↔ g a = some b) {l : List α} {l' : List β} :
    l.mapM f = .ok l' ↔ l.mapM g = some l' := by
  rw [mapM_eq_ok_iff, mapM_eq_some_iff]
  induction l generalizing l' with
  | nil => cases l' <;> simp
  | cons a l ih =>
    cases l' with
    | nil => simp
    | cons b bs => rw [List.map_cons, List.map_cons, List.cons.injEq, List.map_cons, List.map_cons,
        List.cons.injEq, h a b, ih]

/-- Results that are known for the items which have one. -/
theorem mapM_eq_ok_iff_forall {f : α → Except ε β} {P : α → Prop} {g : α → β}
    (h : ∀ a b, f a = .ok b ↔ P a ∧ b = g a) {l : List α} {l' : List β} :
    l.mapM f = .ok l' ↔ (∀ a ∈ l, P a) ∧ l' = l.map g := by
  rw [mapM_eq_ok_iff]
  constructor
  · intro hmap
    have hmem (a : α) (ha : a ∈ l) : P a := by
      have hfa : f a ∈ l'.map .ok := hmap ▸ List.mem_map_of_mem ha
      obtain ⟨b, -, hb⟩ := List.mem_map.1 hfa
      exact ((h a b).1 hb.symm).1
    have hg : l.map f = (l.map g).map .ok := by
      rw [List.map_map]
      exact List.map_congr_left fun a ha => (h a (g a)).2 ⟨hmem a ha, rfl⟩
    exact ⟨hmem, List.map_injective_iff.2 (fun _ _ => Except.ok.inj) (hmap.symm.trans hg)⟩
  · rintro ⟨hmem, rfl⟩
    rw [List.map_map]
    exact List.map_congr_left fun a ha => (h a (g a)).2 ⟨hmem a ha, rfl⟩

theorem length_of_mapM {f : α → Except ε β} {l : List α} {l' : List β} (h : l.mapM f = .ok l') :
    l'.length = l.length := by
  simpa using (congrArg List.length (mapM_eq_ok_iff.1 h)).symm

theorem getElem?_of_mapM {f : α → Except ε β} {l : List α} {l' : List β} (h : l.mapM f = .ok l')
    {i : Nat} {b : β} (hi : l'[i]? = some b) : ∃ a, l[i]? = some a ∧ f a = .ok b := by
  have hget := congrArg (fun l : List (Except ε β) => l[i]?) (mapM_eq_ok_iff.1 h)
  simp only [List.getElem?_map, hi, Option.map_some] at hget
  exact Option.map_eq_some_iff.1 hget

/-- The exception is one of an element. -/
theorem exists_of_mapM_eq_error {f : α → Except ε β} {l : List α} {e : ε}
    (h : l.mapM f = .error e) : ∃ a ∈ l, f a = .error e := by
  induction l with
  | nil => cases h
  | cons a l ih =>
    rw [List.mapM_cons] at h
    cases ha : f a with
    | error e' =>
      rw [ha] at h
      cases h
      exact ⟨a, List.mem_cons_self, ha⟩
    | ok b =>
      rw [ha] at h
      cases hl : l.mapM f with
      | error e' =>
        rw [hl] at h
        cases h
        obtain ⟨a', ha', he⟩ := ih hl
        exact ⟨a', List.mem_cons_of_mem _ ha', he⟩
      | ok bs =>
        rw [hl] at h
        cases h

section

variable {good : α → Prop} [DecidablePred good] {e : ε} {l : List α}

/-- What raises for some items, always the same, raises for a list with one of them. -/
theorem mapM_eq_ite {f : α → Except ε β} {g : α → β} (hgood : ∀ a, good a → f a = .ok (g a))
    (hbad : ∀ a, ¬good a → f a = .error e) :
    l.mapM f = if ∀ a ∈ l, good a then .ok (l.map g) else .error e := by
  induction l with
  | nil => rfl
  | cons a l ih =>
    rw [List.mapM_cons]
    by_cases ha : good a
    · rw [hgood a ha, ok_bind, ih]
      by_cases hl : ∀ a ∈ l, good a
      · rw [if_pos hl, if_pos (List.forall_mem_cons.2 ⟨ha, hl⟩)]
        rfl
      · rw [if_neg hl, if_neg fun h => hl (List.forall_mem_cons.1 h).2]
        rfl
    · rw [hbad a ha, error_bind, if_neg fun h => ha (h a List.mem_cons_self)]

theorem filterM_eq_ite {p : α → Except ε Bool} {q : α → Bool}
    (hgood : ∀ a, good a → p a = .ok (q a)) (hbad : ∀ a, ¬good a → p a = .error e) :
    l.filterM p = if ∀ a ∈ l, good a then .ok (l.filter q) else .error e := by
  have hacc (acc : List α) : l.filterAuxM p acc =
      if ∀ a ∈ l, good a then .ok ((l.filter q).reverse ++ acc) else .error e := by
    induction l generalizing acc with
    | nil => rfl
    | cons a l ih =>
      rw [List.filterAuxM]
      by_cases ha : good a
      · rw [hgood a ha, ok_bind, ih]
        cases hq : q a <;> simp [hq, ha]
      · rw [hbad a ha, error_bind, if_neg fun h => ha (h a List.mem_cons_self)]
  rw [List.filterM, hacc]
  split_ifs
  · rw [ok_bind, List.append_nil, List.reverse_reverse]
    rfl
  · rfl

end

theorem exists_mapM_eq_ok_iff {f : α → Except ε β} {l : List α} :
    (∃ l', l.mapM f = .ok l') ↔ ∀ a ∈ l, ∃ b, f a = .ok b := by
  simp only [mapM_eq_ok_iff]
  constructor
  · rintro ⟨l', h⟩ a ha
    have hmem : f a ∈ l'.map .ok := h ▸ List.mem_map_of_mem ha
    obtain ⟨b, -, hb⟩ := List.mem_map.1 hmem
    exact ⟨b, hb.symm⟩
  · intro h
    induction l with
    | nil => exact ⟨[], rfl⟩
    | cons a l ih =>
      obtain ⟨b, hb⟩ := h a List.mem_cons_self
      obtain ⟨bs, hbs⟩ := ih fun a ha => h a (List.mem_cons_of_mem _ ha)
      exact ⟨b :: bs, by rw [List.map_cons, List.map_cons, hb, hbs]⟩

/-- Items that are read as what a relation says make a list of such items. -/
theorem mapM_eq_ok_iff_forall₂ {γ : Type} {f : α → Except ε β} {R : α → γ → Prop} {g : γ → β}
    (h : ∀ a b, f a = .ok b ↔ ∃ e, R a e ∧ b = g e) {l : List α} {l' : List β} :
    l.mapM f = .ok l' ↔ ∃ es, l.Forall₂ R es ∧ l' = es.map g := by
  induction l generalizing l' with
  | nil =>
    rw [List.mapM_nil]
    constructor
    · intro hnil
      exact ⟨[], .nil, (Except.ok.inj hnil).symm⟩
    · rintro ⟨es, hes, rfl⟩
      cases hes
      rfl
  | cons a l ih =>
    rw [List.mapM_cons]
    constructor
    · intro hcons
      obtain ⟨b, hb, hcons⟩ := bind_eq_ok_iff.1 hcons
      obtain ⟨bs, hbs, hcons⟩ := bind_eq_ok_iff.1 hcons
      obtain ⟨e, he, rfl⟩ := (h a b).1 hb
      obtain ⟨es, hes, rfl⟩ := ih.1 hbs
      exact ⟨e :: es, .cons he hes, (Except.ok.inj hcons).symm⟩
    · rintro ⟨es, hes, rfl⟩
      cases hes with
      | cons he hes => rw [(h a _).2 ⟨_, he, rfl⟩, ok_bind, ih.2 ⟨_, hes, rfl⟩, ok_bind]; rfl

theorem exists_forall₂_iff {R : α → β → Prop} {l : List α} :
    (∃ l', l.Forall₂ R l') ↔ ∀ a ∈ l, ∃ b, R a b := by
  induction l with
  | nil => exact iff_of_true ⟨[], .nil⟩ fun a ha => absurd ha List.not_mem_nil
  | cons a l ih =>
    rw [List.forall_mem_cons, ← ih]
    constructor
    · rintro ⟨l', h⟩
      cases h with
      | cons hhead htail => exact ⟨⟨_, hhead⟩, _, htail⟩
    · rintro ⟨⟨b, hhead⟩, l', htail⟩
      exact ⟨b :: l', .cons hhead htail⟩

theorem map_eq_self_iff {f : α → α} {l : List α} : l.map f = l ↔ ∀ a ∈ l, f a = a := by
  simpa using List.map_eq_map_iff (f := f) (g := id) (l := l)

theorem exists_mem_of_forall₂ {R : α → β → Prop} {l : List α} {l' : List β}
    (h : l.Forall₂ R l') : (∀ a ∈ l, ∃ b ∈ l', R a b) ∧ ∀ b ∈ l', ∃ a ∈ l, R a b := by
  induction h with
  | nil => exact ⟨nofun, nofun⟩
  | @cons a b l l' hhead _ ih =>
    simp only [List.forall_mem_cons, List.exists_mem_cons_iff]
    exact ⟨⟨.inl hhead, fun a ha => .inr (ih.1 a ha)⟩, .inl hhead, fun b hb => .inr (ih.2 b hb)⟩

theorem forall₂_imp_of_mem {R S : α → β → Prop} {l : List α} {l' : List β} (h : l.Forall₂ R l')
    (himp : ∀ a ∈ l, ∀ b ∈ l', R a b → S a b) : l.Forall₂ S l' := by
  induction h with
  | nil => exact .nil
  | @cons a b l l' hhead _ ih =>
    refine .cons (himp a List.mem_cons_self b List.mem_cons_self hhead) (ih fun a ha b hb => ?_)
    exact himp a (List.mem_cons_of_mem _ ha) b (List.mem_cons_of_mem _ hb)

/-- A list can be read item by item, each as it should be, when its items can. -/
theorem exists_mapM_forall₂_iff {f : α → Option β} {P : α → β → Prop} {l : List α} :
    (∃ l', l.mapM f = some l' ∧ l.Forall₂ P l') ↔ ∀ a ∈ l, ∃ b, f a = some b ∧ P a b := by
  induction l with
  | nil => exact iff_of_true ⟨[], rfl, .nil⟩ fun a ha => absurd ha List.not_mem_nil
  | cons a l ih =>
    rw [List.forall_mem_cons, ← ih, List.mapM_cons]
    constructor
    · rintro ⟨l', h, hl⟩
      obtain ⟨b, hb, h⟩ := Option.bind_eq_some_iff.1 h
      obtain ⟨bs, hbs, h⟩ := Option.bind_eq_some_iff.1 h
      cases h
      obtain ⟨hhead, htail⟩ := List.forall₂_cons.1 hl
      exact ⟨⟨b, hb, hhead⟩, bs, hbs, htail⟩
    · rintro ⟨⟨b, hb, hhead⟩, bs, hbs, htail⟩
      rw [hb, hbs]
      exact ⟨b :: bs, rfl, .cons hhead htail⟩

/-- Runs a program from a state. -/
def exec (m : ExceptT ε (StateM σ) α) (s : σ) : Except ε α × σ := m.run.run s

theorem exists_exec_of_fst {m : ExceptT ε (StateM σ) α} {s : σ} {r : Except ε α}
    (h : (exec m s).1 = r) : ∃ s', exec m s = (r, s') := ⟨_, Prod.ext h rfl⟩

@[simp] theorem exec_pure (a : α) (s : σ) :
    exec (pure a : ExceptT ε (StateM σ) α) s = (.ok a, s) := rfl

@[simp] theorem exec_throw (e : ε) (s : σ) :
    exec (throw e : ExceptT ε (StateM σ) α) s = (.error e, s) := rfl

@[simp] theorem exec_lift (x : Except ε α) (s : σ) :
    exec (liftM x : ExceptT ε (StateM σ) α) s = (x, s) := rfl

@[simp] theorem exec_get (s : σ) : exec (get : ExceptT ε (StateM σ) σ) s = (.ok s, s) := rfl

@[simp] theorem exec_modify (f : σ → σ) (s : σ) :
    exec (modify f : ExceptT ε (StateM σ) PUnit) s = (.ok ⟨⟩, f s) := rfl

variable (m : ExceptT ε (StateM σ) α) (f : α → ExceptT ε (StateM σ) β)

theorem exec_bind (s : σ) : exec (m >>= f) s =
    match exec m s with
    | (.ok a, s') => exec (f a) s'
    | (.error e, s') => (.error e, s') := by
  change (m >>= f).run.run s = _
  rw [ExceptT.run_bind, StateT.run_bind]
  rw [exec]
  change (match m.run.run s with | (a, s') => _) = _
  rcases m.run.run s with ⟨_ | _, s'⟩ <;> rfl

theorem exec_map (g : α → β) (s : σ) :
    exec (g <$> m) s = ((exec m s).1.map g, (exec m s).2) := by
  rw [map_eq_pure_bind, exec_bind]
  rcases exec m s with ⟨_ | _, _⟩ <;> rfl

theorem exec_tryCatch (handler : ε → ExceptT ε (StateM σ) α) (s : σ) :
    exec (tryCatch m handler) s =
      match exec m s with
      | (.ok a, s') => (.ok a, s')
      | (.error e, s') => exec (handler e) s' := by
  have hrun : exec (tryCatch m handler) s =
      ((match (exec m s).1 with
        | .ok a => pure (.ok a)
        | .error e => (handler e).run : StateM σ (Except ε α)).run (exec m s).2) := rfl
  rw [hrun]
  rcases exec m s with ⟨_ | _, s'⟩ <;> rfl

/-- Runs a program, and then another one whether the first has raised an exception or not. -/
def ensuring (m : ExceptT ε (StateM σ) α) (cleanup : ExceptT ε (StateM σ) PUnit) :
    ExceptT ε (StateM σ) α := do
  let r ← (ExceptT.lift m.run : ExceptT ε (StateM σ) (Except ε α))
  cleanup
  liftM r

theorem exec_ensuring (cleanup : ExceptT ε (StateM σ) PUnit) (s : σ) :
    exec (ensuring m cleanup) s =
      match exec cleanup (exec m s).2 with
      | (.ok _, s') => ((exec m s).1, s')
      | (.error e, s') => (.error e, s') := by
  have hrun : exec (ExceptT.lift m.run : ExceptT ε (StateM σ) (Except ε α)) s =
      (.ok (exec m s).1, (exec m s).2) := rfl
  rw [ensuring, exec_bind, hrun]
  simp only [exec_bind]
  rcases exec cleanup (exec m s).2 with ⟨_ | _, s'⟩ <;> rfl

variable {m f} {s s' : σ} {a : α} {b : β}

/-- A result comes from one of the first program. -/
theorem exec_bind_eq_ok_iff : exec (m >>= f) s = (.ok b, s') ↔
    ∃ a t, exec m s = (.ok a, t) ∧ exec (f a) t = (.ok b, s') := by
  rw [exec_bind]
  rcases exec m s with ⟨e | a, t⟩
  · simp
  · simp only [Prod.mk.injEq, Except.ok.injEq]
    constructor
    · intro h
      exact ⟨a, t, ⟨rfl, rfl⟩, h⟩
    · rintro ⟨_, _, ⟨rfl, rfl⟩, h⟩
      exact h

/-! ## The state -/

/-- A program that starts in the state `s` ends there, with or without an exception, and
    its results have the property. -/
def Stays (s : σ) (m : ExceptT ε (StateM σ) α) (P : α → Prop) : Prop :=
  (exec m s).2 = s ∧ ∀ a, (exec m s).1 = .ok a → P a

namespace Stays

variable {P : α → Prop} {Q : β → Prop}

theorem pure (h : P a) : Stays s (pure a : ExceptT ε (StateM σ) α) P :=
  ⟨rfl, fun _ hb => Except.ok.inj hb ▸ h⟩

theorem throw (e : ε) : Stays s (throw e : ExceptT ε (StateM σ) α) P :=
  ⟨rfl, fun _ h => nomatch h⟩

theorem lift {x : Except ε α} (h : ∀ a, x = .ok a → P a) :
    Stays s (liftM x : ExceptT ε (StateM σ) α) P := ⟨rfl, h⟩

theorem bind (hm : Stays s m P) (hf : ∀ a, P a → Stays s (f a) Q) : Stays s (m >>= f) Q := by
  have hs : exec m s = ((exec m s).1, s) := Prod.ext rfl hm.1
  rw [Stays, exec_bind, hs]
  cases h : (exec m s).1 with
  | error e => exact ⟨rfl, fun _ hb => nomatch hb⟩
  | ok a => exact hf a (hm.2 a h)

theorem imp {P' : α → Prop} (h : Stays s m P) (hP : ∀ a, P a → P' a) : Stays s m P' :=
  ⟨h.1, fun a ha => hP a (h.2 a ha)⟩

end Stays

/-- A program does not change what is seen of the state, with or without an exception. -/
def Preserves {γ : Type} (view : σ → γ) (m : ExceptT ε (StateM σ) α) : Prop :=
  ∀ s, view (exec m s).2 = view s

namespace Preserves

variable {γ : Type} {view : σ → γ}

theorem pure (a : α) : Preserves view (pure a : ExceptT ε (StateM σ) α) := fun _ => rfl

theorem throw (e : ε) : Preserves view (throw e : ExceptT ε (StateM σ) α) := fun _ => rfl

theorem lift (x : Except ε α) : Preserves view (liftM x : ExceptT ε (StateM σ) α) := fun _ => rfl

theorem get : Preserves view (get : ExceptT ε (StateM σ) σ) := fun _ => rfl

theorem modify {g : σ → σ} (h : ∀ s, view (g s) = view s) :
    Preserves view (modify g : ExceptT ε (StateM σ) PUnit) := h

theorem bind (hm : Preserves view m) (hf : ∀ a, Preserves view (f a)) :
    Preserves view (m >>= f) := by
  intro s
  have hs := hm s
  rw [exec_bind]
  rcases h : exec m s with ⟨_ | a, t⟩ <;> rw [h] at hs
  · exact hs
  · exact (hf a t).trans hs

end Preserves

/-- Where the second program keeps what the first one is seen to change by, both leave the
    state as it is exactly if each of them does. -/
theorem snd_exec_bind_eq_iff {γ : Type} {view : σ → γ} (hf : ∀ a, Preserves view (f a))
    (hm : view (exec m s).2 = view s → (exec m s).2 = s) :
    (exec (m >>= f) s).2 = s ↔
      (exec m s).2 = s ∧ ∀ a, (exec m s).1 = .ok a → (exec (f a) s).2 = s := by
  rw [exec_bind]
  rcases hrun : exec m s with ⟨e | a, t⟩
  · simp
  · rw [hrun] at hm
    simp only [Except.ok.injEq, forall_eq']
    constructor
    · intro h
      obtain rfl : t = s := hm ((hf a t).symm.trans (congrArg view h))
      exact ⟨rfl, h⟩
    · rintro ⟨rfl, h⟩
      exact h

theorem snd_exec_bind_of_preserves (hf : ∀ a, Preserves id (f a)) :
    (exec (m >>= f) s).2 = (exec m s).2 := by
  rw [exec_bind]
  rcases exec m s with ⟨_ | a, t⟩
  · rfl
  · exact hf a t

/-- A program that neither reads nor changes the state, with results that have the
    property. -/
def Detached (m : ExceptT ε (StateM σ) α) (P : α → Prop) : Prop :=
  ∃ r : Except ε α, (∀ s, exec m s = (r, s)) ∧ ∀ a, r = .ok a → P a

namespace Detached

variable {P : α → Prop} {Q : β → Prop}

theorem pure (h : P a) : Detached (pure a : ExceptT ε (StateM σ) α) P :=
  ⟨.ok a, fun _ => rfl, fun _ hb => Except.ok.inj hb ▸ h⟩

theorem throw (e : ε) : Detached (throw e : ExceptT ε (StateM σ) α) P :=
  ⟨.error e, fun _ => rfl, fun _ h => nomatch h⟩

theorem lift {x : Except ε α} (h : ∀ a, x = .ok a → P a) :
    Detached (liftM x : ExceptT ε (StateM σ) α) P := ⟨x, fun _ => rfl, h⟩

theorem bind (hm : Detached m P) (hf : ∀ a, P a → Detached (f a) Q) : Detached (m >>= f) Q := by
  obtain ⟨r, hr, hp⟩ := hm
  cases r with
  | error e => exact ⟨.error e, fun s => by rw [exec_bind, hr s], fun _ h => nomatch h⟩
  | ok a =>
    obtain ⟨r, hr', hq⟩ := hf a (hp a rfl)
    exact ⟨r, fun s => by rw [exec_bind, hr s]; exact hr' s, hq⟩

theorem imp {P' : α → Prop} (h : Detached m P) (hP : ∀ a, P a → P' a) : Detached m P' := by
  obtain ⟨r, hr, hp⟩ := h
  exact ⟨r, hr, fun a ha => hP a (hp a ha)⟩

theorem fst_exec (h : Detached m P) (s s' : σ) : (exec m s).1 = (exec m s').1 := by
  obtain ⟨r, hr, -⟩ := h
  rw [hr s, hr s']

end Detached

/-! ## Results -/

/-- What a program that starts in the state `s` and raises no exception gives, and the
    state it ends in, have the property. -/
def Ensures (s : σ) (m : ExceptT ε (StateM σ) α) (P : α → σ → Prop) : Prop :=
  ∀ a s', exec m s = (.ok a, s') → P a s'

namespace Ensures

variable {P : α → σ → Prop} {Q : β → σ → Prop}

theorem pure (h : P a s) : Ensures s (pure a : ExceptT ε (StateM σ) α) P := by
  intro b s' hrun
  cases hrun
  exact h

theorem throw (e : ε) : Ensures s (throw e : ExceptT ε (StateM σ) α) P :=
  fun _ _ h => nomatch (Prod.mk.inj h).1

theorem lift {x : Except ε α} (h : ∀ a, x = .ok a → P a s) :
    Ensures s (liftM x : ExceptT ε (StateM σ) α) P := by
  intro a s' hrun
  obtain ⟨hx, rfl⟩ := Prod.mk.inj hrun
  exact h a hx

theorem get {P : σ → σ → Prop} (h : P s s) :
    Ensures s (get : ExceptT ε (StateM σ) σ) P := by
  intro b s' hrun
  cases hrun
  exact h

theorem modify {g : σ → σ} {P : PUnit → σ → Prop} (h : P ⟨⟩ (g s)) :
    Ensures s (modify g : ExceptT ε (StateM σ) PUnit) P := by
  intro b s' hrun
  cases hrun
  exact h

theorem bind (hm : Ensures s m P) (hf : ∀ a s', P a s' → Ensures s' (f a) Q) :
    Ensures s (m >>= f) Q := by
  intro b s' hrun
  obtain ⟨a, t, ha, hb⟩ := exec_bind_eq_ok_iff.1 hrun
  exact hf a t (hm a t ha) b s' hb

theorem imp {P' : α → σ → Prop} (h : Ensures s m P) (hP : ∀ a s', P a s' → P' a s') :
    Ensures s m P' := fun a s' hrun => hP a s' (h a s' hrun)

end Ensures

end Raising
