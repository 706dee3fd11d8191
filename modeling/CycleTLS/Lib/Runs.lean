import Mathlib.Data.List.DropRight

/-!
# Runs of items with a value

The runs of a list are the longest stretches of items that all have a value (`runs`). An item
without one parts them (`runs_append_cons`). They stay the same where stretches of items without a
value are put together to one (`runs_collapse`), or are left out at an end (`runs_trim`).
-/

namespace Runs

variable {α β : Type*}

/-! ## The runs of a list -/

/-- A run, if it has any items, before others. -/
def close : List β × List (List β) → List (List β)
  | ([], rest) => rest
  | (b :: run, rest) => (b :: run) :: rest

theorem close_append (run : List β) (rest more : List (List β)) :
    close (run, rest ++ more) = close (run, rest) ++ more := by
  cases run <;> rfl

variable (f : α → Option β)

/-- The run that a list starts with, and those behind it. -/
def scan : List α → List β × List (List β)
  | [] => ([], [])
  | a :: as =>
    match f a with
    | some b => (b :: (scan as).1, (scan as).2)
    | none => ([], close (scan as))

def runs (as : List α) : List (List β) := close (scan f as)

variable {f} {a : α} {as as' : List α}

theorem scan_cons_of_none (h : f a = none) : scan f (a :: as) = ([], runs f as) := by
  rw [scan, h]
  rfl

theorem scan_cons_of_some {b : β} (h : f a = some b) :
    scan f (a :: as) = (b :: (scan f as).1, (scan f as).2) := by
  rw [scan, h]

theorem runs_cons_of_none (h : f a = none) : runs f (a :: as) = runs f as := by
  rw [runs, scan_cons_of_none h]
  rfl

theorem scan_append_cons (h : f a = none) :
    scan f (as ++ a :: as') = ((scan f as).1, (scan f as).2 ++ runs f as') := by
  induction as with
  | nil => exact scan_cons_of_none h
  | cons c cs ih =>
    rw [List.cons_append]
    -- only the run that the list starts with depends on what stands before it
    cases hc : f c with
    | some b => rw [scan_cons_of_some hc, scan_cons_of_some hc, ih]
    | none =>
      rw [scan_cons_of_none hc, scan_cons_of_none hc, runs, ih, close_append]
      rfl

/-- An item without a value parts the runs. -/
theorem runs_append_cons (h : f a = none) :
    runs f (as ++ a :: as') = runs f as ++ runs f as' := by
  rw [runs, scan_append_cons h, close_append]
  rfl

theorem runs_of_none (h : ∀ a ∈ as, f a = none) : runs f as = [] := by
  induction as with
  | nil => rfl
  | cons c cs ih =>
    rw [runs_cons_of_none (h c List.mem_cons_self)]
    exact ih fun a ha => h a (List.mem_cons_of_mem c ha)

theorem runs_append_of_none (h : ∀ a ∈ as', f a = none) : runs f (as ++ as') = runs f as := by
  cases as' with
  | nil => rw [List.append_nil]
  | cons c cs =>
    obtain ⟨hc, hcs⟩ := List.forall_mem_cons.1 h
    rw [runs_append_cons hc, runs_of_none hcs, List.append_nil]

/-- Items are replaced by others with the same values. -/
theorem runs_map {g : α → α} (h : ∀ a ∈ as, f (g a) = f a) : runs f (as.map g) = runs f as := by
  have hscan : scan f (as.map g) = scan f as := by
    induction as with
    | nil => rfl
    | cons c cs ih =>
      obtain ⟨hc, hcs⟩ := List.forall_mem_cons.1 h
      rw [List.map_cons]
      cases hvalue : f c with
      | some b => rw [scan_cons_of_some (hc.trans hvalue), scan_cons_of_some hvalue, ih hcs]
      | none =>
        rw [scan_cons_of_none (hc.trans hvalue), scan_cons_of_none hvalue, runs, ih hcs]
        rfl
  rw [runs, hscan]
  rfl

/-! ## Putting items together -/

variable (p : α → Bool) (sep : α)

/-- Each stretch of items with a property becomes a separator; whether one has begun is given. -/
def collapse : Bool → List α → List α
  | _, [] => []
  | inside, a :: as =>
    if p a then if inside then collapse true as else sep :: collapse true as
    else a :: collapse false as

/-- The list without the items with a property at its ends. -/
def trim (as : List α) : List α := (as.dropWhile p).rdropWhile p

variable {p sep}

theorem scan_collapse (hp : ∀ a ∈ as, p a = true → f a = none) (hsep : f sep = none) :
    scan f (collapse p sep false as) = scan f as ∧
      runs f (collapse p sep true as) = runs f as := by
  induction as with
  | nil => exact ⟨rfl, rfl⟩
  | cons a as ih =>
    obtain ⟨hpa, hpas⟩ := List.forall_mem_cons.1 hp
    obtain ⟨hscan, hruns⟩ := ih hpas
    cases ha : p a with
    | true =>
      -- the first of a stretch becomes the separator, and the others go; none has a value
      have hnone := hpa ha
      simp only [collapse, ha, if_true, Bool.false_eq_true, if_false]
      rw [scan_cons_of_none hsep, hruns, scan_cons_of_none hnone, runs_cons_of_none hnone]
      exact ⟨rfl, rfl⟩
    | false =>
      have hcons : scan f (a :: collapse p sep false as) = scan f (a :: as) := by
        cases hvalue : f a with
        | some b => rw [scan_cons_of_some hvalue, scan_cons_of_some hvalue, hscan]
        | none =>
          rw [scan_cons_of_none hvalue, scan_cons_of_none hvalue, runs, hscan]
          rfl
      simp only [collapse, ha, Bool.false_eq_true, if_false]
      exact ⟨hcons, congrArg close hcons⟩

/-- The runs do not change if what is put together has no value. -/
theorem runs_collapse (hp : ∀ a ∈ as, p a = true → f a = none) (hsep : f sep = none) :
    runs f (collapse p sep false as) = runs f as :=
  congrArg close (scan_collapse hp hsep).1

theorem runs_trim (hp : ∀ a, p a = true → f a = none) (as : List α) :
    runs f (trim p as) = runs f as := by
  have hdrop : runs f (as.dropWhile p) = runs f as := by
    induction as with
    | nil => rfl
    | cons a as ih =>
      cases ha : p a with
      | true => rw [List.dropWhile_cons_of_pos ha, ih, runs_cons_of_none (hp a ha)]
      | false => rw [List.dropWhile_cons_of_neg (by simp [ha])]
  have hend : ∀ a ∈ (as.dropWhile p).rtakeWhile p, f a = none :=
    fun a ha => hp a (List.mem_rtakeWhile_imp ha)
  calc runs f (trim p as)
    _ = runs f ((as.dropWhile p).rdropWhile p ++ (as.dropWhile p).rtakeWhile p) :=
      (runs_append_of_none hend).symm
    _ = runs f (as.dropWhile p) := congrArg (runs f) List.rdropWhile_append_rtakeWhile
    _ = runs f as := hdrop

/-- What is left of a list, once stretches are put together and the ends trimmed, has the property
    of each of its items or is the separator. -/
theorem mem_collapse {inside : Bool} (h : a ∈ collapse p sep inside as) :
    a = sep ∨ a ∈ as ∧ p a = false := by
  induction as generalizing inside with
  | nil => exact absurd h List.not_mem_nil
  | cons c cs ih =>
    have hrest {inside : Bool} (h : a ∈ collapse p sep inside cs) :
        a = sep ∨ a ∈ c :: cs ∧ p a = false :=
      (ih h).imp_right fun hmem => ⟨List.mem_cons_of_mem c hmem.1, hmem.2⟩
    cases hc : p c with
    | true =>
      cases inside with
      | true => exact hrest (by simpa [collapse, hc] using h)
      | false =>
        have hcases : a = sep ∨ a ∈ collapse p sep true cs := by simpa [collapse, hc] using h
        exact hcases.elim .inl hrest
    | false =>
      have hcases : a = c ∨ a ∈ collapse p sep false cs := by simpa [collapse, hc] using h
      rcases hcases with rfl | hmem
      · exact .inr ⟨List.mem_cons_self, hc⟩
      · exact hrest hmem

end Runs
