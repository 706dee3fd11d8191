import Mathlib.Data.List.Sort
import Mathlib.Order.WithBot

/-!
# Stable sorting by a key

A list sorted by a key has its elements in the order of their keys, and those of one key in the
order that they had (`StableSort.Sorted`). There is one such list (`Sorted.unique`), which
insertion sort gives (`sorted_insertionSort`). Two keys sort a list alike exactly if they agree for
every two of its elements on which comes first (`sorted_iff_of_sorted`).

For elements that have a position or none, a list is sorted by positions if those with one come
first and the others after them, as they were (`Placed`).
-/

namespace StableSort

variable {α β γ : Type*} [LinearOrder β] [LinearOrder γ]

/-- The second list has the elements of the first, sorted by a key. -/
structure Sorted (key : α → β) (l l' : List α) : Prop where
  pairwise : l'.Pairwise fun a b => key a ≤ key b
  filter_eq : ∀ k, (l'.filter fun a => key a = k) = l.filter fun a => key a = k

variable {key : α → β} {l l' l'' : List α}

theorem Sorted.self (h : l.Pairwise fun a b => key a ≤ key b) : Sorted key l l := ⟨h, fun _ => rfl⟩

theorem eq_of_pairwise (hl' : l'.Pairwise fun a b => key a ≤ key b)
    (hl'' : l''.Pairwise fun a b => key a ≤ key b)
    (h : ∀ k, (l'.filter fun a => key a = k) = l''.filter fun a => key a = k) : l' = l'' := by
  have hmem {l₁ l₂ : List α} (h : ∀ k, (l₁.filter fun a => key a = k) =
      l₂.filter fun a => key a = k) {a : α} (ha : a ∈ l₁) : a ∈ l₂ := by
    have hfilter : a ∈ l₂.filter fun b => key b = key a :=
      h (key a) ▸ List.mem_filter.2 ⟨ha, decide_eq_true rfl⟩
    exact (List.mem_filter.1 hfilter).1
  induction l' generalizing l'' with
  | nil =>
    refine (List.eq_nil_iff_forall_not_mem.2 fun a ha => ?_).symm
    exact absurd (hmem (fun k => (h k).symm) ha) List.not_mem_nil
  | cons a l' ih =>
    cases l'' with
    | nil => exact absurd (hmem h List.mem_cons_self) List.not_mem_nil
    | cons b l'' =>
      rw [List.pairwise_cons] at hl' hl''
      -- each of the two comes first, so they have one key
      have hba : key b ≤ key a := by
        rcases List.mem_cons.1 (hmem h List.mem_cons_self) with rfl | ha
        · exact le_rfl
        · exact hl''.1 a ha
      have hab : key a ≤ key b := by
        rcases List.mem_cons.1 (hmem (fun k => (h k).symm) List.mem_cons_self) with rfl | hb
        · exact le_rfl
        · exact hl'.1 b hb
      have hkey := le_antisymm hab hba
      have hfirst := h (key a)
      have ha : decide (key a = key a) = true := decide_eq_true rfl
      have hb : decide (key b = key a) = true := decide_eq_true hkey.symm
      rw [List.filter_cons, List.filter_cons, if_pos ha, if_pos hb] at hfirst
      obtain ⟨rfl, -⟩ := List.cons.inj hfirst
      refine congrArg (a :: ·) (ih hl'.2 hl''.2 fun k => ?_)
      have hrest := h k
      rw [List.filter_cons, List.filter_cons] at hrest
      split_ifs at hrest
      · exact (List.cons.inj hrest).2
      · exact hrest

theorem Sorted.unique (h' : Sorted key l l') (h'' : Sorted key l l'') : l' = l'' :=
  eq_of_pairwise h'.pairwise h''.pairwise fun k => (h'.filter_eq k).trans (h''.filter_eq k).symm

theorem total_key (key : α → β) : Std.Total fun a b => key a ≤ key b :=
  ⟨fun a b => le_total (key a) (key b)⟩

theorem trans_key (key : α → β) : IsTrans α fun a b => key a ≤ key b := ⟨fun _ _ _ => le_trans⟩

theorem sorted_insertionSort (key : α → β) (l : List α) :
    Sorted key l (l.insertionSort fun a b => key a ≤ key b) where
  pairwise :=
    have := total_key key
    have := trans_key key
    List.pairwise_insertionSort _ l
  filter_eq k := by
    have := total_key key
    have := trans_key key
    have hpairwise : (l.filter fun a => key a = k).Pairwise fun a b => key a ≤ key b := by
      refine List.Pairwise.imp_of_mem (R := fun _ _ => True) (fun ha hb _ => ?_)
        (List.pairwise_of_forall fun _ _ => trivial)
      have hka := of_decide_eq_true (List.mem_filter.1 ha).2
      exact (hka.trans (of_decide_eq_true (List.mem_filter.1 hb).2).symm).le
    have hsub := (List.sublist_insertionSort hpairwise List.filter_sublist).filter
      fun a => decide (key a = k)
    rw [List.filter_filter] at hsub
    simp only [Bool.and_self] at hsub
    exact (hsub.eq_of_length ((List.perm_insertionSort _ l).filter _).length_eq.symm).symm

theorem Sorted.perm (h : Sorted key l l') : l'.Perm l :=
  h.unique (sorted_insertionSort key l) ▸ List.perm_insertionSort _ l

theorem Sorted.pair_sublist (h : Sorted key l l') {a b : α} (hab : key a ≤ key b)
    (hsub : [a, b].Sublist l) : [a, b].Sublist l' := by
  have := total_key key
  have := trans_key key
  rw [h.unique (sorted_insertionSort key l)]
  exact List.pair_sublist_insertionSort hab hsub

theorem Sorted.le_of_sublist (h : Sorted key l l') {a b : α} (hsub : [a, b].Sublist l') :
    key a ≤ key b :=
  List.pairwise_iff_forall_sublist.1 h.pairwise hsub

theorem orderedInsert_congr {r s : α → α → Prop} [DecidableRel r] [DecidableRel s] {a : α}
    (h : ∀ b ∈ l, r a b ↔ s a b) : l.orderedInsert r a = l.orderedInsert s a := by
  induction l with
  | nil => rfl
  | cons b l ih =>
    obtain ⟨hb, hl⟩ := List.forall_mem_cons.1 h
    rw [List.orderedInsert_cons, List.orderedInsert_cons, ih hl]
    exact if_congr hb rfl rfl

theorem insertionSort_congr {r s : α → α → Prop} [DecidableRel r] [DecidableRel s]
    (h : l.Pairwise fun a b => r a b ↔ s a b) : l.insertionSort r = l.insertionSort s := by
  induction l with
  | nil => rfl
  | cons a l ih =>
    obtain ⟨ha, hl⟩ := List.pairwise_cons.1 h
    rw [List.insertionSort_cons, List.insertionSort_cons, ih hl]
    exact orderedInsert_congr fun b hb => ha b ((List.mem_insertionSort s).1 hb)

/-- A list sorted by one key is sorted by another, if these agree on which of two elements comes
    first. -/
theorem sorted_iff_of_sorted {key' : α → γ} (h : Sorted key l l') :
    Sorted key' l l' ↔ l.Pairwise fun a b => key a ≤ key b ↔ key' a ≤ key' b := by
  constructor
  · intro h'
    refine List.pairwise_iff_forall_sublist.2 fun {a b} hsub => ⟨fun hab => ?_, fun hab => ?_⟩
    · exact h'.le_of_sublist (h.pair_sublist hab hsub)
    · exact h.le_of_sublist (h'.pair_sublist hab hsub)
  · intro hagree
    rw [h.unique (sorted_insertionSort key l), insertionSort_congr hagree]
    exact sorted_insertionSort key' l

/-! ## Positions -/

/-- The elements with a position come first, by their positions, and those with the same one as
    they were; the others follow, as they were. -/
structure Placed (pos : α → Option ℕ) (l l' : List α) : Prop where
  perm : l'.Perm l
  first : l'.Pairwise fun a b => (pos b).isSome = true → (pos a).isSome = true
  sorted : l'.Pairwise fun a b => ∀ i j, pos a = some i → pos b = some j → i ≤ j
  ties : ∀ i, (l'.filter fun a => pos a = some i) = l.filter fun a => pos a = some i
  others : (l'.filter fun a => pos a = none) = l.filter fun a => pos a = none

/-- A position as a key: no position comes last. -/
def keyOf : Option ℕ → WithTop ℕ
  | some i => WithTop.some i
  | none => ⊤

@[simp] theorem keyOf_some_le_some {i j : ℕ} : keyOf (some i) ≤ keyOf (some j) ↔ i ≤ j :=
  WithTop.coe_le_coe

@[simp] theorem keyOf_le_none (p : Option ℕ) : keyOf p ≤ keyOf none := le_top

@[simp] theorem not_keyOf_none_le_some (j : ℕ) : ¬keyOf none ≤ keyOf (some j) :=
  (WithTop.coe_lt_top j).not_ge

theorem keyOf_le_iff {p q : Option ℕ} : keyOf p ≤ keyOf q ↔
    (q.isSome = true → p.isSome = true) ∧ ∀ i j, p = some i → q = some j → i ≤ j := by
  cases p <;> cases q <;> simp

theorem keyOf_injective : Function.Injective keyOf := by
  rintro (_ | i) (_ | j) h
  · rfl
  · cases h
  · cases h
  · exact congrArg some (WithTop.coe_injective h)

theorem keyOf_surjective : Function.Surjective keyOf
  | ⊤ => ⟨none, rfl⟩
  | (i : ℕ) => ⟨some i, rfl⟩

theorem placed_iff_sorted {pos : α → Option ℕ} :
    Placed pos l l' ↔ Sorted (fun a => keyOf (pos a)) l l' := by
  have hfilter (p : Option ℕ) (l : List α) :
      (l.filter fun a => keyOf (pos a) = keyOf p) = l.filter fun a => pos a = p :=
    List.filter_congr fun a _ => decide_eq_decide.2 keyOf_injective.eq_iff
  constructor
  · intro h
    refine ⟨?_, fun k => ?_⟩
    · exact (h.first.and h.sorted).imp keyOf_le_iff.2
    · obtain ⟨p, rfl⟩ := keyOf_surjective k
      rw [hfilter, hfilter]
      cases p with
      | none => exact h.others
      | some i => exact h.ties i
  · intro h
    have hfilter_eq (p : Option ℕ) :
        (l'.filter fun a => pos a = p) = l.filter fun a => pos a = p := by
      rw [← hfilter, ← hfilter, h.filter_eq]
    exact ⟨h.perm, h.pairwise.imp fun hab => (keyOf_le_iff.1 hab).1,
      h.pairwise.imp fun hab => (keyOf_le_iff.1 hab).2, fun i => hfilter_eq (some i),
      hfilter_eq none⟩

end StableSort
