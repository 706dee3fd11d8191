import Mathlib.Algebra.Group.Nat.Defs
import Mathlib.Data.List.Basic

/-!
# Numbers in a base

Numbers read off the bytes of a text, digit by digit in a base (`read`). Digits of the
base always make a number, with a bound from how many they are (`exists_read`). The
pieces that a text is split into have no separator (`not_mem_of_mem_splitOn`), and those
of which one is put together are its only other symbols (`eq_or_mem_of_mem_intercalate`).
-/

namespace Radix

/-- The value of a digit; letters stand for ten and more. -/
def digit (c : UInt8) : Option Nat :=
  if 0x30 ≤ c ∧ c ≤ 0x39 then some (c.toNat - 0x30)
  else if 0x61 ≤ c ∧ c ≤ 0x7a then some (c.toNat - 0x61 + 10)
  else if 0x41 ≤ c ∧ c ≤ 0x5a then some (c.toNat - 0x41 + 10)
  else none

theorem digit_of_lt_ten {c : UInt8} {d : Nat} (h : digit c = some d) (hd : d < 10) :
    (0x30 ≤ c ∧ c ≤ 0x39) ∧ d = c.toNat - 0x30 := by
  rw [digit] at h
  split_ifs at h with h₁ h₂ h₃
  · exact ⟨h₁, (Option.some.inj h).symm⟩
  · have := Option.some.inj h
    omega
  · have := Option.some.inj h
    omega

/-- A digit of the base. -/
def IsDigit (base : Nat) (c : UInt8) : Prop := ∃ d < base, digit c = some d

instance (base : Nat) (c : UInt8) : Decidable (IsDigit base c) :=
  match h : digit c with
  | some d =>
    if hd : d < base then .isTrue ⟨d, hd, h⟩
    else .isFalse fun ⟨_, he, h'⟩ => hd (Option.some.inj (h.symm.trans h') ▸ he)
  | none => .isFalse fun ⟨_, _, h'⟩ => nomatch h.symm.trans h'

/-- The number whose digits are those of `n` and the ones that follow. -/
def readFrom (base n : Nat) : List UInt8 → Option Nat
  | [] => some n
  | c :: s =>
    match digit c with
    | some d => if d < base then readFrom base (n * base + d) s else none
    | none => none

/-- The number that a text is, with one digit at least. -/
def read (base : Nat) (s : List UInt8) : Option Nat :=
  if s.isEmpty then none else readFrom base 0 s

variable {base n : Nat} {s : List UInt8}

theorem readFrom_append (s t : List UInt8) :
    readFrom base n (s ++ t) = (readFrom base n s).bind fun m => readFrom base m t := by
  induction s generalizing n with
  | nil => rfl
  | cons c s ih =>
    rw [List.cons_append, readFrom, readFrom]
    split
    · split_ifs
      · exact ih
      · rfl
    · rfl

theorem exists_readFrom (h : ∀ c ∈ s, IsDigit base c) :
    ∃ m, readFrom base n s = some m ∧ m < (n + 1) * base ^ s.length := by
  induction s generalizing n with
  | nil => exact ⟨n, rfl, by rw [List.length_nil, Nat.pow_zero]; omega⟩
  | cons c s ih =>
    obtain ⟨hc, hs⟩ := List.forall_mem_cons.1 h
    obtain ⟨d, hd, hdigit⟩ := hc
    obtain ⟨m, hm, hlt⟩ := ih (n := n * base + d) hs
    refine ⟨m, by rw [readFrom, hdigit]; exact (if_pos hd).trans hm, Nat.lt_of_lt_of_le hlt ?_⟩
    rw [List.length_cons, Nat.pow_succ', ← Nat.mul_assoc]
    refine Nat.mul_le_mul_right _ ?_
    rw [Nat.succ_mul]
    omega

/-- Digits make a number. -/
theorem exists_read (hne : s ≠ []) (h : ∀ c ∈ s, IsDigit base c) :
    ∃ m, read base s = some m ∧ m < base ^ s.length := by
  obtain ⟨m, hm, hlt⟩ := exists_readFrom (n := 0) h
  refine ⟨m, ?_, by simpa using hlt⟩
  rw [read, if_neg (by simpa using hne), hm]

/-- A number is made of digits. -/
theorem isDigit_of_readFrom {m : Nat} (h : readFrom base n s = some m) :
    ∀ c ∈ s, IsDigit base c := by
  induction s generalizing n with
  | nil => exact fun c hc => absurd hc List.not_mem_nil
  | cons c s ih =>
    rw [readFrom] at h
    cases hdigit : digit c with
    | none => rw [hdigit] at h; cases h
    | some d =>
      rw [hdigit] at h
      change (if d < base then readFrom base (n * base + d) s else none) = some m at h
      split_ifs at h with hd
      exact List.forall_mem_cons.2 ⟨⟨d, hd, hdigit⟩, ih h⟩

theorem le_of_readFrom {m : Nat} (hbase : 0 < base) (h : readFrom base n s = some m) : n ≤ m := by
  induction s generalizing n with
  | nil => exact Nat.le_of_eq (Option.some.inj h)
  | cons c s ih =>
    rw [readFrom] at h
    split at h
    · next d _ =>
      split_ifs at h
      have hle : n ≤ n * base := Nat.le_mul_of_pos_right n hbase
      exact Nat.le_trans (Nat.le_trans hle (Nat.le_add_right _ d)) (ih h)
    · cases h

theorem isDigit_of_read {m : Nat} (h : read base s = some m) : ∀ c ∈ s, IsDigit base c := by
  rw [read] at h
  split_ifs at h
  exact isDigit_of_readFrom h

theorem ne_nil_of_read {m : Nat} (h : read base s = some m) : s ≠ [] := by
  rintro rfl
  cases h

theorem lt_of_read {m : Nat} (h : read base s = some m) : m < base ^ s.length := by
  obtain ⟨m', hm', hlt⟩ := exists_read (ne_nil_of_read h) (isDigit_of_read h)
  rwa [Option.some.inj (h.symm.trans hm')]

/-- A number as it is written in a base. -/
structure Numeral (base : Nat) where
  digits : List UInt8
  value : Nat
  read_digits : read base digits = some value

/-! ## Pieces -/

theorem not_mem_of_mem_splitOn {α : Type*} [DecidableEq α] {a : α} {l p : List α}
    (h : p ∈ l.splitOn a) : a ∉ p := by
  induction l generalizing p with
  | nil =>
    rw [List.splitOn_nil, List.mem_singleton] at h
    rw [h]
    exact List.not_mem_nil
  | cons x l ih =>
    rw [List.splitOn_cons_eq_if_modifyHead] at h
    split_ifs at h with hx
    · rcases List.mem_cons.1 h with rfl | h
      · exact List.not_mem_nil
      · exact ih h
    · cases hs : l.splitOn a with
      | nil => exact absurd hs (List.splitOn_ne_nil _ _)
      | cons q ps =>
        rw [hs, List.modifyHead_cons, List.mem_cons] at h
        rw [hs] at ih
        rcases h with rfl | h
        · rw [List.mem_cons, not_or]
          exact ⟨fun heq => hx (beq_iff_eq.2 heq.symm), ih List.mem_cons_self⟩
        · exact ih (List.mem_cons_of_mem _ h)

theorem mem_of_mem_splitOn {α : Type*} [DecidableEq α] {a c : α} {l p : List α}
    (h : p ∈ l.splitOn a) (hc : c ∈ p) : c ∈ l := by
  induction l generalizing p with
  | nil =>
    rw [List.splitOn_nil, List.mem_singleton] at h
    exact h ▸ hc
  | cons x l ih =>
    rw [List.splitOn_cons_eq_if_modifyHead] at h
    split_ifs at h with hx
    · rcases List.mem_cons.1 h with rfl | h
      · exact absurd hc List.not_mem_nil
      · exact List.mem_cons_of_mem _ (ih h hc)
    · cases hs : l.splitOn a with
      | nil => exact absurd hs (List.splitOn_ne_nil _ _)
      | cons q ps =>
        rw [hs, List.modifyHead_cons, List.mem_cons] at h
        rw [hs] at ih
        rcases h with rfl | h
        · rcases List.mem_cons.1 hc with rfl | hc
          · exact List.mem_cons_self
          · exact List.mem_cons_of_mem _ (ih List.mem_cons_self hc)
        · exact List.mem_cons_of_mem _ (ih (List.mem_cons_of_mem _ h) hc)

theorem eq_or_mem_of_mem_intercalate {α : Type*} {a c : α} {ls : List (List α)}
    (h : c ∈ [a].intercalate ls) : c = a ∨ ∃ l ∈ ls, c ∈ l := by
  induction ls with
  | nil => exact absurd h List.not_mem_nil
  | cons l ls ih =>
    cases ls with
    | nil => exact .inr ⟨l, List.mem_cons_self, by simpa using h⟩
    | cons l' ls =>
      rw [List.intercalate_cons_cons, List.mem_append, List.mem_append, List.mem_singleton] at h
      rcases h with (h | h) | h
      · exact .inr ⟨l, List.mem_cons_self, h⟩
      · exact .inl h
      · rcases ih h with h | ⟨p, hp, hc⟩
        · exact .inl h
        · exact .inr ⟨p, List.mem_cons_of_mem _ hp, hc⟩

end Radix
