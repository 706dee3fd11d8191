import CycleTLS.Lib.MsgPack

/-!
# Formats of fields

How a value is written in bytes and read back (`Format`). Numbers take a fixed number of
bytes, texts and lists have their length before them in so many bytes. Such a number is not
checked where it is written, so only its last bytes are. A value is read back just where each
number that is written for it is the number that was meant (`Format.read_write_iff`).
-/

open MsgPack

/-- How values are written and read back, and whether each number written for a value is the
    number that was meant. -/
structure Format (α : Type) where
  write : α → List UInt8
  read : List UInt8 → Option (α × List UInt8)
  Exact : α → Prop
  read_write : ∀ {a : α}, Exact a → ∀ rest, read (write a ++ rest) = some (a, rest)
  exact_of_read : ∀ {a : α} {rest rest' : List UInt8}, read (write a ++ rest) = some (a, rest') →
    Exact a

namespace Format

variable {α β : Type}

theorem read_write_iff (F : Format α) {a : α} {rest : List UInt8} :
    F.read (F.write a ++ rest) = some (a, rest) ↔ F.Exact a :=
  ⟨F.exact_of_read, fun h => F.read_write h rest⟩

theorem eq_of_read (F : Format α) {a : α} {rest rest' : List UInt8}
    (h : F.read (F.write a ++ rest) = some (a, rest')) : rest' = rest := by
  rw [F.read_write (F.exact_of_read h)] at h
  exact (Prod.mk.inj (Option.some.inj h)).2.symm

/-! ## The bytes of a number -/

theorem emod_mul (n : Int) {m p : Int} (hm : 0 < m) (hp : 0 < p) :
    n % (m * p) = n % m + m * (n / m % p) := by
  have hdiv := Int.emod_add_mul_ediv n m
  have hdiv' := Int.emod_add_mul_ediv (n / m) p
  have h₀ := Int.emod_nonneg n (Int.ne_of_gt hm)
  have h₁ := Int.emod_lt_of_pos n hm
  have h₂ := Int.emod_nonneg (n / m) (Int.ne_of_gt hp)
  have h₃ := Int.emod_lt_of_pos (n / m) hp
  refine ((Int.ediv_emod_unique (Int.mul_pos hm hp) (q := n / m / p)).2 ⟨?_, ?_, ?_⟩).2
  · rw [Int.add_assoc, Int.mul_assoc, ← Int.mul_add, hdiv', hdiv]
  · exact Int.add_nonneg h₀ (Int.mul_nonneg (Int.le_of_lt hm) h₂)
  · calc n % m + m * (n / m % p) < m + m * (n / m % p) := Int.add_lt_add_right h₁ _
      _ = m * (n / m % p + 1) := by rw [Int.mul_add, Int.mul_one, Int.add_comm]
      _ ≤ m * p := Int.mul_le_mul_of_nonneg_left h₃ (Int.le_of_lt hm)

/-- The last byte is that of the number, and the others are those of its quotient. -/
theorem signedBytes_succ (k : Nat) (n : Int) :
    signedBytes (k + 1) n = signedBytes k (n / 256) ++ [UInt8.ofInt n] := by
  have hpos : (0 : Int) < (256 ^ k : Nat) := Int.natCast_pos.2 (Nat.pow_pos (by decide))
  have hpow : ((256 ^ (k + 1) : Nat) : Int) = 256 * (256 ^ k : Nat) := by
    rw [Nat.pow_succ', Int.natCast_mul]
    rfl
  have hsplit := emod_mul n (m := 256) (by decide) hpos
  have h₀ := Int.emod_nonneg n (by decide : (256 : Int) ≠ 0)
  have h₁ := Int.emod_lt_of_pos n (by decide : (0 : Int) < 256)
  have h₂ := Int.emod_nonneg (n / 256) (Int.ne_of_gt hpos)
  have hlast : UInt8.ofNat (n % (256 ^ (k + 1) : Nat)).toNat = UInt8.ofInt n := by
    apply UInt8.toNat_inj.1
    rw [UInt8.ofInt, UInt8.toNat_ofNat', UInt8.toNat_ofNat', hpow, hsplit]
    omega
  have hfirst : (n % (256 ^ (k + 1) : Nat)).toNat / 256 = (n / 256 % (256 ^ k : Nat)).toNat := by
    rw [hpow, hsplit]
    omega
  rw [signedBytes, bytes, hlast, hfirst, signedBytes]

theorem signedBytes_natCast (k n : Nat) : signedBytes k n = bytes k n := by
  induction k generalizing n with
  | zero => rfl
  | succ k ih =>
    have hlast : UInt8.ofInt n = UInt8.ofNat n := by
      apply UInt8.toNat_inj.1
      rw [UInt8.ofInt, UInt8.toNat_ofNat', UInt8.toNat_ofNat']
      omega
    have hdiv : (n : Int) / 256 = (n / 256 : Nat) := rfl
    rw [signedBytes_succ, hlast, hdiv, ih, bytes]

/-! ## Fields -/

theorem readNat_append {k : Nat} {b : List UInt8} (h : b.length = k) (rest : List UInt8) :
    readNat k (b ++ rest) = some (MsgPack.number b, rest) := by
  rw [readNat, ← h, split_append]
  rfl

/-- A number, of which the last `k` bytes are written. -/
def number (k : Nat) : Format Int where
  write n := signedBytes k n
  read b := (readNat k b).map (Prod.map Int.ofNat id)
  Exact n := (MsgPack.number (signedBytes k n) : Int) = n
  read_write := by
    intro n h rest
    rw [readNat_append (length_signedBytes k n), Option.map_some, Prod.map_apply]
    exact congrArg (fun m => some (m, rest)) h
  exact_of_read := by
    intro n rest rest' h
    rw [readNat_append (length_signedBytes k n), Option.map_some, Prod.map_apply] at h
    exact (Prod.mk.inj (Option.some.inj h)).1

/-- Some bytes, after their length in `k` bytes. -/
def text (k : Nat) : Format (List UInt8) where
  write b := bytes k b.length ++ b
  read b := (readNat k b).bind fun r => split r.1 r.2
  Exact b := MsgPack.number (bytes k b.length) = b.length
  read_write := by
    intro b h rest
    rw [List.append_assoc, readNat_append (length_bytes k _), Option.bind_some, h]
    exact split_append b rest
  exact_of_read := by
    intro b rest rest' h
    rw [List.append_assoc, readNat_append (length_bytes k _), Option.bind_some] at h
    exact (split_eq_some h).1.symm

@[simp] theorem exact_number_iff {k : Nat} {n : Int} :
    (number k).Exact n ↔ 0 ≤ n ∧ n < (256 ^ k : Nat) := by
  have hpos : (0 : Int) < (256 ^ k : Nat) := Int.natCast_pos.2 (Nat.pow_pos (by decide))
  have hle := Int.emod_nonneg n (Int.ne_of_gt hpos)
  have hlt := Int.emod_lt_of_pos n hpos
  have hnum : (MsgPack.number (signedBytes k n) : Int) = n % (256 ^ k : Nat) := by
    rw [signedBytes, number_bytes, Nat.mod_eq_of_lt (by omega), Int.toNat_of_nonneg hle]
  constructor
  · intro h
    rw [← hnum.symm.trans h]
    exact ⟨hle, hlt⟩
  · intro h
    exact hnum.trans (Int.emod_eq_of_lt h.1 h.2)

/-- A length is written as it is if it fits in the bytes for it. -/
theorem number_bytes_eq_iff {k n : Nat} : MsgPack.number (bytes k n) = n ↔ n < 256 ^ k := by
  rw [number_bytes, Nat.mod_eq_iff_lt (Nat.ne_of_gt (Nat.pow_pos (by decide)))]

@[simp] theorem exact_text_iff {k : Nat} {b : List UInt8} :
    (text k).Exact b ↔ b.length < 256 ^ k :=
  number_bytes_eq_iff

/-- As many values are read as there are, and each as it is. -/
theorem exact_of_readMany (F : Format α) {n : Nat} {l : List α} {rest rest' : List UInt8}
    (h : readMany F.read n (l.flatMap F.write ++ rest) = some (l, rest')) :
    n = l.length ∧ ∀ a ∈ l, F.Exact a := by
  induction n generalizing l rest' with
  | zero =>
    obtain ⟨rfl, -⟩ := Prod.mk.inj (Option.some.inj h)
    exact ⟨rfl, List.forall_mem_nil _⟩
  | succ n ih =>
    obtain ⟨⟨a, b⟩, ha, h⟩ := Option.bind_eq_some_iff.1 h
    obtain ⟨⟨l', b'⟩, hl', h⟩ := Option.bind_eq_some_iff.1 h
    obtain ⟨rfl, -⟩ := Prod.mk.inj (Option.some.inj h)
    -- the first value is read as it is, so what is left is written of the others
    rw [List.flatMap_cons, List.append_assoc] at ha
    obtain rfl := F.eq_of_read ha
    obtain ⟨hn, hall⟩ := ih hl'
    exact ⟨congrArg Nat.succ hn, List.forall_mem_cons.2 ⟨F.exact_of_read ha, hall⟩⟩

/-- Values one after the other, after their number in `k` bytes. -/
def list (k : Nat) (F : Format α) : Format (List α) where
  write l := bytes k l.length ++ l.flatMap F.write
  read b := (readNat k b).bind fun r => readMany F.read r.1 r.2
  Exact l := MsgPack.number (bytes k l.length) = l.length ∧ ∀ a ∈ l, F.Exact a
  read_write := by
    rintro l ⟨hlen, hall⟩ rest
    rw [List.append_assoc, readNat_append (length_bytes k _), Option.bind_some, hlen]
    exact readMany_flatMap (fun a ha => F.read_write (hall a ha)) rest
  exact_of_read := by
    intro l rest rest' h
    rw [List.append_assoc, readNat_append (length_bytes k _), Option.bind_some] at h
    exact F.exact_of_readMany h

@[simp] theorem exact_list_iff {k : Nat} {F : Format α} {l : List α} :
    (list k F).Exact l ↔ l.length < 256 ^ k ∧ ∀ a ∈ l, F.Exact a :=
  and_congr_left' number_bytes_eq_iff

/-- A value and another one after it. -/
def pair (F : Format α) (G : Format β) : Format (α × β) where
  write p := F.write p.1 ++ G.write p.2
  read b := (F.read b).bind fun r => (G.read r.2).map (Prod.map (Prod.mk r.1) id)
  Exact p := F.Exact p.1 ∧ G.Exact p.2
  read_write := by
    rintro p ⟨hF, hG⟩ rest
    rw [List.append_assoc, F.read_write hF, Option.bind_some, G.read_write hG]
    rfl
  exact_of_read := by
    intro p rest rest' h
    rw [List.append_assoc] at h
    obtain ⟨⟨a, b⟩, ha, h⟩ := Option.bind_eq_some_iff.1 h
    obtain ⟨⟨a', b'⟩, ha', h⟩ := Option.map_eq_some_iff.1 h
    obtain ⟨rfl, -⟩ := Prod.mk.inj h
    have hb : b = G.write a' ++ rest := F.eq_of_read ha
    rw [hb] at ha'
    exact ⟨F.exact_of_read ha, G.exact_of_read ha'⟩

@[simp] theorem exact_pair_iff {F : Format α} {G : Format β} {p : α × β} :
    (pair F G).Exact p ↔ F.Exact p.1 ∧ G.Exact p.2 :=
  Iff.rfl

/-- Nothing. -/
def nothing : Format Unit where
  write _ := []
  read b := some ((), b)
  Exact _ := True
  read_write := fun _ _ => rfl
  exact_of_read := fun _ => trivial

/-! ## Kinds of values -/

/-- No value. -/
def never : Format α where
  write _ := []
  read _ := none
  Exact _ := False
  read_write := False.elim
  exact_of_read := fun h => absurd h (Option.some_ne_none _).symm

/-- Those values of a type that are made of the values of another one. -/
structure Case (α β : Type) where
  make : α → β
  get : β → Option α
  get_eq_some_iff : ∀ a b, get b = some a ↔ b = make a

/-- The values of a case. -/
def embed (F : Format α) (c : Case α β) : Format β where
  write b := (c.get b).elim [] F.write
  read b := (F.read b).map (Prod.map c.make id)
  Exact b := ∃ a, b = c.make a ∧ F.Exact a
  read_write := by
    rintro _ ⟨a, rfl, h⟩ rest
    rw [(c.get_eq_some_iff a _).2 rfl, Option.elim_some, F.read_write h]
    rfl
  exact_of_read := by
    intro b rest rest' h
    obtain ⟨⟨a, s⟩, ha, h⟩ := Option.map_eq_some_iff.1 h
    obtain ⟨rfl, -⟩ := Prod.mk.inj h
    rw [(c.get_eq_some_iff a _).2 rfl, Option.elim_some] at ha
    exact ⟨a, rfl, F.exact_of_read ha⟩

theorem exact_embed_iff {F : Format α} {c : Case α β} {a : α} :
    (embed F c).Exact (c.make a) ↔ F.Exact a := by
  constructor
  · rintro ⟨a', heq, h⟩
    have ha : some a = some a' :=
      ((c.get_eq_some_iff a _).2 rfl).symm.trans ((c.get_eq_some_iff a' _).2 heq)
    exact Option.some.inj ha ▸ h
  · exact fun h => ⟨a, rfl, h⟩

/-- A value after its kind, which tells how the rest of it is written. -/
def tagged (k : Nat) (kind : α → List UInt8) (F : List UInt8 → Format α)
    (hkind : ∀ a, (kind a).length < 256 ^ k) : Format α where
  write a := (text k).write (kind a) ++ (F (kind a)).write a
  read b := ((text k).read b).bind fun r => (F r.1).read r.2
  Exact a := (F (kind a)).Exact a
  read_write := by
    intro a h rest
    rw [List.append_assoc, (text k).read_write (exact_text_iff.2 (hkind a)), Option.bind_some]
    exact (F (kind a)).read_write h rest
  exact_of_read := by
    intro a rest rest' h
    rw [List.append_assoc, (text k).read_write (exact_text_iff.2 (hkind a)), Option.bind_some] at h
    exact (F (kind a)).exact_of_read h

/-- The value of some bytes, all of them. -/
def ofBytes (F : Format α) (b : List UInt8) : Option α :=
  (F.read b).bind fun r => if r.2 = [] then some r.1 else none

theorem ofBytes_write_iff (F : Format α) {a : α} : F.ofBytes (F.write a) = some a ↔ F.Exact a := by
  rw [ofBytes]
  constructor
  · intro h
    obtain ⟨⟨a', s⟩, hread, h⟩ := Option.bind_eq_some_iff.1 h
    obtain ⟨rfl, h⟩ := Option.ite_none_right_eq_some.1 h
    obtain rfl := Option.some.inj h
    rw [← List.append_nil (F.write a')] at hread
    exact F.exact_of_read hread
  · intro h
    have hread : F.read (F.write a ++ []) = some (a, []) := F.read_write_iff.2 h
    rw [List.append_nil] at hread
    rw [hread]
    rfl

end Format
