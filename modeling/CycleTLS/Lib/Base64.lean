import Mathlib.Data.List.Basic

/-!
# Base64

Three bytes are written as four symbols of the standard alphabet, and a rest of one or two
bytes is padded with `=`. What is written is read back (`decode_encode`), and holds no zero
byte (`zero_notMem_encode`). Decoders differ in what else they let through; this one only
reads what is written.
-/

namespace Base64

/-- The symbol for six bits. -/
def symbol (n : Nat) : UInt8 :=
  if n < 26 then UInt8.ofNat (n + 65)
  else if n < 52 then UInt8.ofNat (n + 71)
  else if n < 62 then UInt8.ofNat (n - 4)
  else if n = 62 then 43
  else 47

/-- The six bits of a symbol. -/
def value (c : UInt8) : Option Nat :=
  if 65 ≤ c ∧ c ≤ 90 then some (c.toNat - 65)
  else if 97 ≤ c ∧ c ≤ 122 then some (c.toNat - 71)
  else if 48 ≤ c ∧ c ≤ 57 then some (c.toNat + 4)
  else if c = 43 then some 62
  else if c = 47 then some 63
  else none

/-- The symbol that pads the last four. -/
def pad : UInt8 := 61

/-- The symbols of some bytes. -/
def encode : List UInt8 → List UInt8
  | a :: b :: c :: bytes =>
    symbol (a.toNat / 4) :: symbol (a.toNat % 4 * 16 + b.toNat / 16) ::
      symbol (b.toNat % 16 * 4 + c.toNat / 64) :: symbol (c.toNat % 64) :: encode bytes
  | [a, b] =>
    [symbol (a.toNat / 4), symbol (a.toNat % 4 * 16 + b.toNat / 16), symbol (b.toNat % 16 * 4), pad]
  | [a] => [symbol (a.toNat / 4), symbol (a.toNat % 4 * 16), pad, pad]
  | [] => []

/-- The bytes of some symbols. -/
def decode : List UInt8 → Option (List UInt8)
  | [] => some []
  | w :: x :: y :: z :: symbols => do
    let w ← value w
    let x ← value x
    let a := UInt8.ofNat (w * 4 + x / 16)
    if y = pad ∧ z = pad ∧ symbols = [] then return [a]
    let y ← value y
    let b := UInt8.ofNat (x % 16 * 16 + y / 4)
    if z = pad ∧ symbols = [] then return [a, b]
    let z ← value z
    let c := UInt8.ofNat (y % 4 * 64 + z)
    return a :: b :: c :: (← decode symbols)
  | _ => none

theorem value_symbol {n : Nat} (h : n < 64) : value (symbol n) = some n := by
  revert n
  decide

theorem symbol_ne_pad {n : Nat} (h : n < 64) : symbol n ≠ pad := by
  revert n
  decide

theorem symbol_ne_zero {n : Nat} (h : n < 64) : symbol n ≠ 0 := by
  revert n
  decide

theorem ofNat_eq {n : Nat} {a : UInt8} (h : n = a.toNat) : UInt8.ofNat n = a := by
  rw [h, UInt8.ofNat_toNat]

/-- What is written is read back. -/
theorem decode_encode (bytes : List UInt8) : decode (encode bytes) = some bytes := by
  fun_induction encode bytes with
  | case1 a b c bytes ih =>
    have ha := a.toNat_lt
    have hb := b.toNat_lt
    have hc := c.toNat_lt
    have hw : a.toNat / 4 < 64 := by omega
    have hx : a.toNat % 4 * 16 + b.toNat / 16 < 64 := by omega
    have hy : b.toNat % 16 * 4 + c.toNat / 64 < 64 := by omega
    have hz : c.toNat % 64 < 64 := by omega
    simp only [decode, value_symbol hw, value_symbol hx, value_symbol hy, value_symbol hz,
      symbol_ne_pad hy, symbol_ne_pad hz, false_and, if_false, ih, Option.bind_eq_bind,
      Option.bind_some, Option.pure_def]
    rw [ofNat_eq (a := a) (by omega), ofNat_eq (a := b) (by omega), ofNat_eq (a := c) (by omega)]
  | case2 a b =>
    have ha := a.toNat_lt
    have hb := b.toNat_lt
    have hw : a.toNat / 4 < 64 := by omega
    have hx : a.toNat % 4 * 16 + b.toNat / 16 < 64 := by omega
    have hy : b.toNat % 16 * 4 < 64 := by omega
    simp only [decode, value_symbol hw, value_symbol hx, value_symbol hy, symbol_ne_pad hy,
      false_and, if_false, and_self, if_true, Option.bind_eq_bind, Option.bind_some,
      Option.pure_def]
    rw [ofNat_eq (a := a) (by omega), ofNat_eq (a := b) (by omega)]
  | case3 a =>
    have ha := a.toNat_lt
    have hw : a.toNat / 4 < 64 := by omega
    have hx : a.toNat % 4 * 16 < 64 := by omega
    simp only [decode, value_symbol hw, value_symbol hx, and_self, if_true, Option.bind_eq_bind,
      Option.bind_some, Option.pure_def]
    rw [ofNat_eq (a := a) (by omega)]
  | case4 => rfl

/-- What holds of all symbols and of the padding holds of what is written. -/
theorem forall_mem_encode {P : UInt8 → Prop} (hsymbol : ∀ n < 64, P (symbol n)) (hpad : P pad)
    (bytes : List UInt8) : ∀ c ∈ encode bytes, P c := by
  fun_induction encode bytes with
  | case1 a b c bytes ih =>
    have ha := a.toNat_lt
    have hb := b.toNat_lt
    have hc := c.toNat_lt
    simp only [List.forall_mem_cons]
    exact ⟨hsymbol _ (by omega), hsymbol _ (by omega), hsymbol _ (by omega),
      hsymbol _ (by omega), ih⟩
  | case2 a b =>
    have ha := a.toNat_lt
    have hb := b.toNat_lt
    simp only [List.forall_mem_cons, List.not_mem_nil, false_imp_iff, implies_true, and_true]
    exact ⟨hsymbol _ (by omega), hsymbol _ (by omega), hsymbol _ (by omega), hpad⟩
  | case3 a =>
    have ha := a.toNat_lt
    simp only [List.forall_mem_cons, List.not_mem_nil, false_imp_iff, implies_true, and_true]
    exact ⟨hsymbol _ (by omega), hsymbol _ (by omega), hpad, hpad⟩
  | case4 => exact fun c hc => absurd hc List.not_mem_nil

/-- No byte that is written is zero. -/
theorem zero_notMem_encode (bytes : List UInt8) : 0 ∉ encode bytes := fun h =>
  forall_mem_encode (P := (· ≠ 0)) (fun _ => symbol_ne_zero) (by decide) bytes 0 h rfl

/-- What is written is ASCII. -/
theorem toNat_lt_of_mem_encode (bytes : List UInt8) : ∀ c ∈ encode bytes, c.toNat < 0x80 :=
  forall_mem_encode (by decide) (by decide) bytes

end Base64
