import Mathlib.Algebra.Group.Nat.Defs
import Mathlib.Data.List.Basic

/-!
# Decimal digits

Numbers written with a fixed number of digits (`numeral`) or padded to a least
width (`padded`), and reading a fixed number of digits off a text
(`readDigits`): what was written is read back (`readDigits_numeral_append`).
-/

namespace Decimal

/-- The last decimal digit of `n`. -/
def digit (n : Nat) : Char := Nat.digitChar (n % 10)

/-- The last `width` digits of `n`. -/
def numeral : (width n : Nat) → List Char
  | 0, _ => []
  | w + 1, n => numeral w (n / 10) ++ [digit n]

/-- The digits of `n`, with zeros before them up to `width`. -/
def padded (width n : Nat) : List Char := (Nat.toDigits 10 n).leftpad width '0'

/-- The value of a digit. -/
def value (c : Char) : Nat := c.toNat - '0'.toNat

/-- The number in the first `width` symbols, and what follows them. -/
def readDigits : Nat → List Char → Option (Nat × List Char)
  | 0, s => some (0, s)
  | w + 1, s =>
    match readDigits w s with
    | some (n, c :: s') => if c.isDigit then some (10 * n + value c, s') else none
    | _ => none

theorem isDigit_digit (n : Nat) : (digit n).isDigit := by
  have h : ∀ d < 10, (Nat.digitChar d).isDigit := by decide
  exact h _ (Nat.mod_lt n (by decide))

@[simp] theorem value_digit (n : Nat) : value (digit n) = n % 10 := by
  have h : ∀ d < 10, value (Nat.digitChar d) = d := by decide
  exact h _ (Nat.mod_lt n (by decide))

@[simp] theorem length_numeral (w n : Nat) : (numeral w n).length = w := by
  induction w generalizing n with
  | zero => rfl
  | succ w ih => rw [numeral, List.length_append, ih, List.length_singleton]

theorem isDigit_of_mem_numeral {w n : Nat} {c : Char} (hc : c ∈ numeral w n) : c.isDigit := by
  induction w generalizing n with
  | zero => simp [numeral] at hc
  | succ w ih =>
    rcases List.mem_append.1 hc with h | h
    · exact ih h
    · exact List.mem_singleton.1 h ▸ isDigit_digit n

/-- Reading back what was written. -/
theorem readDigits_numeral_append (w n : Nat) (s : List Char) :
    readDigits w (numeral w n ++ s) = some (n % 10 ^ w, s) := by
  induction w generalizing n s with
  | zero => simp [readDigits, numeral, Nat.mod_one]
  | succ w ih =>
    have hval : 10 * (n / 10 % 10 ^ w) + n % 10 = n % 10 ^ (w + 1) := by
      rw [Nat.pow_succ', Nat.mod_mul]
      omega
    rw [readDigits, numeral, List.append_assoc, ih]
    simp only [List.cons_append, List.nil_append, isDigit_digit, if_true, value_digit, hval]

theorem readDigits_eq_some {w n : Nat} {s s' : List Char} (h : readDigits w s = some (n, s')) :
    s' = s.drop w ∧ ∀ c ∈ s.take w, c.isDigit := by
  induction w generalizing n s' with
  | zero =>
    obtain ⟨-, rfl⟩ := Prod.mk.inj (Option.some.inj h)
    simp
  | succ w ih =>
    rw [readDigits] at h
    split at h
    case h_1 m c t hr =>
      obtain ⟨ht, hd⟩ := ih hr
      split_ifs at h with hc
      obtain ⟨-, rfl⟩ := Prod.mk.inj (Option.some.inj h)
      -- `readDigits` reads the last digit after the others, so the text is cut behind `w`
      refine ⟨?_, fun d hd' => ?_⟩
      · rw [← List.drop_drop, ← ht, List.drop_one, List.tail_cons]
      · rw [List.take_add, ← ht, List.mem_append] at hd'
        rcases hd' with hd' | hd'
        · exact hd d hd'
        · simp only [List.take_succ_cons, List.take_zero, List.mem_singleton] at hd'
          exact hd' ▸ hc
    case h_2 => cases h

theorem numeral_zero (w : Nat) : numeral w 0 = List.replicate w '0' := by
  induction w with
  | zero => rfl
  | succ w ih => rw [numeral, Nat.zero_div, ih, List.replicate_succ']; rfl

/-- A number that fits is padded to its numeral. -/
theorem padded_eq_numeral {w n : Nat} (h : n < 10 ^ (w + 1)) :
    padded (w + 1) n = numeral (w + 1) n := by
  induction w generalizing n with
  | zero =>
    rw [padded, Nat.toDigits_of_lt_base (by omega)]
    simp [numeral, digit, Nat.mod_eq_of_lt (show n < 10 by omega), List.leftpad]
  | succ w ih =>
    by_cases hn : n < 10
    · rw [padded, Nat.toDigits_of_lt_base hn, numeral, Nat.div_eq_of_lt hn, numeral_zero]
      simp [List.leftpad, digit, Nat.mod_eq_of_lt hn]
    · have hdiv : n / 10 < 10 ^ (w + 1) := by
        rw [Nat.pow_succ'] at h
        omega
      rw [numeral, ← ih hdiv, padded, padded, Nat.toDigits_of_base_le (by decide) (by omega)]
      simp [List.leftpad, digit]

/-- A number that does not fit has more digits. -/
theorem lt_length_padded {w n : Nat} (hw : 0 < w) (h : 10 ^ w ≤ n) : w < (padded w n).length := by
  have hlen : ¬(Nat.toDigits 10 n).length ≤ w := fun hle =>
    absurd ((Nat.length_toDigits_le_iff (by decide) hw).1 hle) (by omega)
  rw [padded, List.leftpad, List.length_append]
  omega

theorem isDigit_of_mem_padded {w n : Nat} {c : Char} (hc : c ∈ padded w n) : c.isDigit := by
  rw [padded, List.leftpad, List.mem_append] at hc
  rcases hc with hc | hc
  · rw [List.eq_of_mem_replicate hc]
    rfl
  · exact Nat.isDigit_of_mem_toDigits (by decide) (by decide) hc

end Decimal
