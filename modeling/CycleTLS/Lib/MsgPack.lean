import Mathlib.Algebra.Group.Int.Defs
import Mathlib.Algebra.Group.Nat.Defs
import Mathlib.Data.List.Induction

/-!
# MessagePack

A message is written as a head, which tells its kind and its number or length in as few
bytes as it can, and what follows that: the bytes of a text or the items of a list. What is
read back is the message that was written, if it fits (`ofBytes_toBytes_iff`), and no message
is read from fewer bytes than it is written in: neither itself (`length_toBytes_le`) nor
another one from the first of its bytes (`eq_of_ofBytes_take`). Floats, extensions and keys
other than texts are left out. Which bytes are a text is left open.
-/

namespace MsgPack

/-- A message. -/
inductive Message
  | nil
  | bool (b : Bool)
  | int (n : Int)
  | str (s : List UInt8)
  | bin (b : List UInt8)
  | array (items : List Message)
  | map (items : List (List UInt8 × Message))

/-- What a message starts with. -/
inductive Head
  | nil
  | bool (b : Bool)
  | int (n : Int)
  | str (n : Nat)
  | bin (n : Nat)
  | array (n : Nat)
  | map (n : Nat)
  deriving DecidableEq

/-! ## Numbers -/

/-- The last `k` bytes of a number. -/
def bytes : (k n : Nat) → List UInt8
  | 0, _ => []
  | k + 1, n => bytes k (n / 256) ++ [UInt8.ofNat n]

/-- The last `k` bytes of a number with a sign. -/
def signedBytes (k : Nat) (n : Int) : List UInt8 := bytes k (n % (256 ^ k : Nat)).toNat

/-- The number of some bytes. -/
def number (b : List UInt8) : Nat := b.foldl (fun n c => n * 256 + c.toNat) 0

/-- The first `n` bytes, and what follows them. -/
def split (n : Nat) (b : List UInt8) : Option (List UInt8 × List UInt8) :=
  if n ≤ b.length then some (b.take n, b.drop n) else none

/-- A number of `k` bytes. -/
def readNat (k : Nat) (b : List UInt8) : Option (Nat × List UInt8) :=
  (split k b).map (Prod.map number id)

/-- A number of `k` bytes, with a sign. -/
def readInt (k : Nat) (b : List UInt8) : Option (Int × List UInt8) :=
  (readNat k b).map (Prod.map (fun n : Nat => (n : Int).bmod (256 ^ k)) id)

/-! ## Heads -/

/-- A length of 8, 16 or 32 bits, after a byte for each. -/
def writeLength (c₁ c₂ c₄ : UInt8) (n : Nat) : List UInt8 :=
  if n < 2 ^ 8 then c₁ :: bytes 1 n
  else if n < 2 ^ 16 then c₂ :: bytes 2 n
  else c₄ :: bytes 4 n

/-- The bytes of a head. -/
def Head.toBytes : Head → List UInt8
  | nil => [0xc0]
  | bool b => [if b then 0xc3 else 0xc2]
  | int n =>
    if 0 ≤ n then
      if n < 2 ^ 7 then bytes 1 n.toNat
      else if n < 2 ^ 8 then 0xcc :: bytes 1 n.toNat
      else if n < 2 ^ 16 then 0xcd :: bytes 2 n.toNat
      else if n < 2 ^ 32 then 0xce :: bytes 4 n.toNat
      else 0xcf :: bytes 8 n.toNat
    else if -2 ^ 5 ≤ n then signedBytes 1 n
    else if -2 ^ 7 ≤ n then 0xd0 :: signedBytes 1 n
    else if -2 ^ 15 ≤ n then 0xd1 :: signedBytes 2 n
    else if -2 ^ 31 ≤ n then 0xd2 :: signedBytes 4 n
    else 0xd3 :: signedBytes 8 n
  | str n => if n < 2 ^ 5 then [UInt8.ofNat (0xa0 + n)] else writeLength 0xd9 0xda 0xdb n
  | bin n => writeLength 0xc4 0xc5 0xc6 n
  | array n =>
    if n < 2 ^ 4 then [UInt8.ofNat (0x90 + n)]
    else if n < 2 ^ 16 then 0xdc :: bytes 2 n else 0xdd :: bytes 4 n
  | map n =>
    if n < 2 ^ 4 then [UInt8.ofNat (0x80 + n)]
    else if n < 2 ^ 16 then 0xde :: bytes 2 n else 0xdf :: bytes 4 n

/-- The head after a byte of the middle part of the codes. -/
def Head.ofMiddle (b : List UInt8) : Nat → Option (Head × List UInt8)
  | 0xc0 => some (.nil, b)
  | 0xc2 => some (.bool false, b)
  | 0xc3 => some (.bool true, b)
  | 0xc4 => (readNat 1 b).map (Prod.map .bin id)
  | 0xc5 => (readNat 2 b).map (Prod.map .bin id)
  | 0xc6 => (readNat 4 b).map (Prod.map .bin id)
  | 0xcc => (readNat 1 b).map (Prod.map (fun n : Nat => .int n) id)
  | 0xcd => (readNat 2 b).map (Prod.map (fun n : Nat => .int n) id)
  | 0xce => (readNat 4 b).map (Prod.map (fun n : Nat => .int n) id)
  | 0xcf => (readNat 8 b).map (Prod.map (fun n : Nat => .int n) id)
  | 0xd0 => (readInt 1 b).map (Prod.map .int id)
  | 0xd1 => (readInt 2 b).map (Prod.map .int id)
  | 0xd2 => (readInt 4 b).map (Prod.map .int id)
  | 0xd3 => (readInt 8 b).map (Prod.map .int id)
  | 0xd9 => (readNat 1 b).map (Prod.map .str id)
  | 0xda => (readNat 2 b).map (Prod.map .str id)
  | 0xdb => (readNat 4 b).map (Prod.map .str id)
  | 0xdc => (readNat 2 b).map (Prod.map .array id)
  | 0xdd => (readNat 4 b).map (Prod.map .array id)
  | 0xde => (readNat 2 b).map (Prod.map .map id)
  | 0xdf => (readNat 4 b).map (Prod.map .map id)
  | _ => none

/-- The head after a byte with this number. -/
def Head.ofCode (code : Nat) (b : List UInt8) : Option (Head × List UInt8) :=
  if code < 0x80 then some (.int code, b)
  else if code < 0x90 then some (.map (code - 0x80), b)
  else if code < 0xa0 then some (.array (code - 0x90), b)
  else if code < 0xc0 then some (.str (code - 0xa0), b)
  else if code < 0xe0 then ofMiddle b code
  else some (.int (code - 0x100), b)

/-- The head that some bytes start with, and what follows it. -/
def Head.read : List UInt8 → Option (Head × List UInt8)
  | [] => none
  | c :: b => ofCode c.toNat b

/-- The heads that can be written: numbers of 64 bits and lengths of 32 bits. -/
def Head.Fits : Head → Prop
  | nil | bool _ => True
  | int n => -2 ^ 63 ≤ n ∧ n < 2 ^ 64
  | str n | bin n | array n | map n => n < 2 ^ 32

/-! ## Messages -/

namespace Message

mutual

/-- The bytes of a message. -/
def toBytes : Message → List UInt8
  | nil => Head.nil.toBytes
  | bool b => (Head.bool b).toBytes
  | int n => (Head.int n).toBytes
  | str s => (Head.str s.length).toBytes ++ s
  | bin b => (Head.bin b.length).toBytes ++ b
  | array items => (Head.array items.length).toBytes ++ itemsToBytes items
  | map items => (Head.map items.length).toBytes ++ entriesToBytes items

def itemsToBytes : List Message → List UInt8
  | [] => []
  | m :: items => m.toBytes ++ itemsToBytes items

def entriesToBytes : List (List UInt8 × Message) → List UInt8
  | [] => []
  | (key, m) :: items =>
    (Head.str key.length).toBytes ++ key ++ m.toBytes ++ entriesToBytes items

end

end Message

namespace Message

theorem itemsToBytes_eq (items : List Message) : itemsToBytes items = items.flatMap toBytes := by
  induction items with
  | nil => rw [itemsToBytes, List.flatMap_nil]
  | cons m items ih => rw [itemsToBytes, ih, List.flatMap_cons]

/-- The bytes of a key and what it stands for. -/
def entryToBytes (e : List UInt8 × Message) : List UInt8 :=
  (Head.str e.1.length).toBytes ++ e.1 ++ e.2.toBytes

theorem entriesToBytes_eq (items : List (List UInt8 × Message)) :
    entriesToBytes items = items.flatMap entryToBytes := by
  induction items with
  | nil => rw [entriesToBytes, List.flatMap_nil]
  | cons e items ih => rw [entriesToBytes, ih, List.flatMap_cons, entryToBytes]

mutual

/-- The texts in a message, keys included. -/
def texts : Message → List (List UInt8)
  | str s => [s]
  | array items => itemsTexts items
  | map items => entriesTexts items
  | _ => []

def itemsTexts : List Message → List (List UInt8)
  | [] => []
  | m :: items => m.texts ++ itemsTexts items

def entriesTexts : List (List UInt8 × Message) → List (List UInt8)
  | [] => []
  | (key, m) :: items => key :: m.texts ++ entriesTexts items

end

theorem itemsTexts_eq (items : List Message) : itemsTexts items = items.flatMap texts := by
  induction items with
  | nil => rw [itemsTexts, List.flatMap_nil]
  | cons m items ih => rw [itemsTexts, ih, List.flatMap_cons]

theorem entriesTexts_eq (items : List (List UInt8 × Message)) :
    entriesTexts items = items.flatMap fun e => e.1 :: e.2.texts := by
  induction items with
  | nil => rw [entriesTexts, List.flatMap_nil]
  | cons e items ih => rw [entriesTexts, ih, List.flatMap_cons]

end Message

/-- A number of items, one after the other. -/
def readMany {α : Type} (item : List UInt8 → Option (α × List UInt8)) :
    Nat → List UInt8 → Option (List α × List UInt8)
  | 0, b => some ([], b)
  | n + 1, b => do
    let (a, b) ← item b
    let (items, b) ← readMany item n b
    return (a :: items, b)

variable (isText : List UInt8 → Bool)

/-- A text of this length. -/
def readText (n : Nat) (b : List UInt8) : Option (List UInt8 × List UInt8) := do
  let (s, b) ← split n b
  if isText s then some (s, b) else none

/-- A key, which has to be a text, and what `item` reads after it. -/
def readEntry {α : Type} (item : List UInt8 → Option (α × List UInt8)) (b : List UInt8) :
    Option ((List UInt8 × α) × List UInt8) := do
  match ← Head.read b with
  | (.str n, b) =>
    let (key, b) ← readText isText n b
    let (a, b) ← item b
    return ((key, a), b)
  | _ => none

/-- The message that some bytes start with, and what follows it. Messages within messages are
    read to a depth. -/
def Message.read : Nat → List UInt8 → Option (Message × List UInt8)
  | 0, _ => none
  | depth + 1, b => do
    match ← Head.read b with
    | (.nil, b) => some (.nil, b)
    | (.bool c, b) => some (.bool c, b)
    | (.int n, b) => some (.int n, b)
    | (.str n, b) => (readText isText n b).map (Prod.map .str id)
    | (.bin n, b) => (split n b).map (Prod.map .bin id)
    | (.array n, b) => (readMany (read depth) n b).map (Prod.map .array id)
    | (.map n, b) => (readMany (readEntry isText (read depth)) n b).map (Prod.map .map id)

/-- The message of some bytes, all of them. -/
def Message.ofBytes (depth : Nat) (b : List UInt8) : Option Message :=
  match read isText depth b with
  | some (m, []) => some m
  | _ => none

/-- The messages that can be written: within the depth, of texts that are texts. -/
inductive Message.Fits : Nat → Message → Prop
  | nil (depth : Nat) : Fits (depth + 1) .nil
  | bool (depth : Nat) (b : Bool) : Fits (depth + 1) (.bool b)
  | int (depth : Nat) {n : Int} (h : (Head.int n).Fits) : Fits (depth + 1) (.int n)
  | str (depth : Nat) {s : List UInt8} (h : (Head.str s.length).Fits) (hs : isText s = true) :
      Fits (depth + 1) (.str s)
  | bin (depth : Nat) {b : List UInt8} (h : (Head.bin b.length).Fits) : Fits (depth + 1) (.bin b)
  | array (depth : Nat) {items : List Message} (h : (Head.array items.length).Fits)
      (hitems : ∀ m ∈ items, Fits depth m) : Fits (depth + 1) (.array items)
  | map (depth : Nat) {items : List (List UInt8 × Message)} (h : (Head.map items.length).Fits)
      (hkeys : ∀ e ∈ items, (Head.str e.1.length).Fits ∧ isText e.1 = true)
      (hitems : ∀ e ∈ items, Fits depth e.2) : Fits (depth + 1) (.map items)

/-! ## Numbers that are read -/

variable {k n : Nat} {b rest : List UInt8}

@[simp] theorem length_bytes (k n : Nat) : (bytes k n).length = k := by
  induction k generalizing n with
  | zero => rfl
  | succ k ih => rw [bytes, List.length_append, ih, List.length_singleton]

theorem number_append_singleton (b : List UInt8) (c : UInt8) :
    number (b ++ [c]) = number b * 256 + c.toNat := by
  rw [number, List.foldl_append]
  rfl

theorem number_bytes (k n : Nat) : number (bytes k n) = n % 256 ^ k := by
  induction k generalizing n with
  | zero => rw [Nat.pow_zero, Nat.mod_one]; rfl
  | succ k ih =>
    have hpow : 256 ^ (k + 1) = 256 * 256 ^ k := Nat.pow_succ'
    rw [bytes, number_append_singleton, ih, UInt8.toNat_ofNat', hpow, Nat.mod_mul]
    omega

theorem number_lt (b : List UInt8) : number b < 256 ^ b.length := by
  induction b using List.reverseRecOn with
  | nil => decide
  | append_singleton b c ih =>
    have hc := c.toNat_lt
    rw [number_append_singleton, List.length_append, List.length_singleton, Nat.pow_succ]
    omega

theorem split_append (b rest : List UInt8) : split b.length (b ++ rest) = some (b, rest) := by
  rw [split, if_pos (by simp), List.take_left, List.drop_left]

theorem split_eq_some {c : List UInt8} (h : split n b = some (c, rest)) :
    c.length = n ∧ n + rest.length = b.length := by
  rw [split] at h
  split_ifs at h with hn
  cases h
  rw [List.length_take, List.length_drop]
  omega

theorem readNat_bytes (k n : Nat) (rest : List UInt8) :
    readNat k (bytes k n ++ rest) = some (n % 256 ^ k, rest) := by
  have h := split_append (bytes k n) rest
  rw [length_bytes] at h
  rw [readNat, h, ← number_bytes]
  rfl

theorem readNat_eq_some (h : readNat k b = some (n, rest)) :
    n < 256 ^ k ∧ k + rest.length = b.length := by
  obtain ⟨⟨c, rest'⟩, hc, heq⟩ := Option.map_eq_some_iff.1 h
  obtain ⟨rfl, rfl⟩ := Prod.mk.inj heq
  obtain ⟨hlen, hrest⟩ := split_eq_some hc
  exact ⟨hlen ▸ number_lt c, hrest⟩

@[simp] theorem length_signedBytes (k : Nat) (n : Int) : (signedBytes k n).length = k :=
  length_bytes _ _

theorem readInt_signedBytes (k : Nat) (n : Int) (rest : List UInt8) :
    readInt k (signedBytes k n ++ rest) = some (n.bmod (256 ^ k), rest) := by
  have hpos : 0 < 256 ^ k := Nat.pow_pos (by decide)
  have hmod : ((n % (256 ^ k : Nat)).toNat : Int) = n % (256 ^ k : Nat) :=
    Int.toNat_of_nonneg (Int.emod_nonneg _ (by omega))
  rw [readInt, signedBytes, readNat_bytes, Option.map_some, Prod.map_apply, Int.natCast_emod, hmod,
    Int.emod_emod, Int.emod_bmod]
  rfl

theorem readInt_eq_some {n : Int} (h : readInt k b = some (n, rest)) :
    -(256 ^ k : Nat) ≤ n * 2 ∧ n * 2 < (256 ^ k : Nat) ∧ k + rest.length = b.length := by
  have hpos : 0 < 256 ^ k := Nat.pow_pos (by decide)
  obtain ⟨⟨m, rest'⟩, hm, heq⟩ := Option.map_eq_some_iff.1 h
  simp only [Prod.map_apply, id, Prod.mk.injEq] at heq
  obtain ⟨rfl, rfl⟩ := heq
  have hle := Int.le_bmod (x := (m : Int)) hpos
  have hlt := Int.bmod_lt (x := (m : Int)) hpos
  exact ⟨by omega, by omega, (readNat_eq_some hm).2⟩

/-! ## Heads that are read -/

namespace Head

theorem read_ofNat (hn : n < 256) (b : List UInt8) :
    read (UInt8.ofNat n :: b) = ofCode n b := by
  rw [read, UInt8.toNat_ofNat', Nat.mod_eq_of_lt hn]

variable {c c₁ c₂ c₄ : UInt8} {f : Nat → Head}

theorem read_bytes (hc : ∀ b, read (c :: b) = (readNat k b).map (Prod.map f id))
    (hn : n < 256 ^ k) (rest : List UInt8) : read (c :: bytes k n ++ rest) = some (f n, rest) := by
  rw [List.cons_append, hc, readNat_bytes, Nat.mod_eq_of_lt hn]
  rfl

theorem read_signedBytes (hc : ∀ b, read (c :: b) = (readInt k b).map (Prod.map .int id))
    {n : Int} (h₀ : -(256 ^ k : Nat) ≤ n * 2) (h₁ : n * 2 < (256 ^ k : Nat)) (rest : List UInt8) :
    read (c :: signedBytes k n ++ rest) = some (.int n, rest) := by
  rw [List.cons_append, hc, readInt_signedBytes, Int.bmod_eq_of_le_mul_two h₀ h₁]
  rfl

theorem read_writeLength (h₁ : ∀ b, read (c₁ :: b) = (readNat 1 b).map (Prod.map f id))
    (h₂ : ∀ b, read (c₂ :: b) = (readNat 2 b).map (Prod.map f id))
    (h₄ : ∀ b, read (c₄ :: b) = (readNat 4 b).map (Prod.map f id)) (hn : n < 2 ^ 32)
    (rest : List UInt8) : read (writeLength c₁ c₂ c₄ n ++ rest) = some (f n, rest) := by
  rw [writeLength]
  split_ifs with h8 h16
  · exact read_bytes h₁ h8 rest
  · exact read_bytes h₂ h16 rest
  · exact read_bytes h₄ hn rest

theorem read_int {n : Int} (hfits : (int n).Fits) (rest : List UInt8) :
    read ((int n).toBytes ++ rest) = some (int n, rest) := by
  obtain ⟨h₀, h₁⟩ := hfits
  rw [toBytes]
  split_ifs with hpos h7 h8 h16 h32 hn5 hn7 hn15 hn31
  · have hcode : n.toNat < 0x80 := by omega
    refine (read_ofNat (by omega) rest).trans ((if_pos hcode).trans ?_)
    rw [Int.toNat_of_nonneg hpos]
  · rw [read_bytes (f := fun m => int m) (fun _ => rfl) (by omega) rest, Int.toNat_of_nonneg hpos]
  · rw [read_bytes (f := fun m => int m) (fun _ => rfl) (by omega) rest, Int.toNat_of_nonneg hpos]
  · rw [read_bytes (f := fun m => int m) (fun _ => rfl) (by omega) rest, Int.toNat_of_nonneg hpos]
  · rw [read_bytes (f := fun m => int m) (fun _ => rfl) (by omega) rest, Int.toNat_of_nonneg hpos]
  · have hmod : n % (256 ^ 1 : Nat) = n + 256 := by omega
    refine (read_ofNat (by omega) rest).trans ?_
    rw [ofCode, if_neg (by omega), if_neg (by omega), if_neg (by omega), if_neg (by omega),
      if_neg (by omega), hmod, Int.toNat_of_nonneg (by omega), Int.add_sub_cancel]
  · exact read_signedBytes (fun _ => rfl) (by omega) (by omega) rest
  · exact read_signedBytes (fun _ => rfl) (by omega) (by omega) rest
  · exact read_signedBytes (fun _ => rfl) (by omega) (by omega) rest
  · exact read_signedBytes (fun _ => rfl) (by omega) (by omega) rest

/-- A head is read back. -/
theorem read_toBytes {h : Head} (hfits : h.Fits) (rest : List UInt8) :
    read (h.toBytes ++ rest) = some (h, rest) := by
  cases h with
  | nil => rfl
  | bool b => cases b <;> rfl
  | int n => exact read_int hfits rest
  | str n =>
    rw [toBytes]
    split_ifs with hn
    · refine (read_ofNat (by omega) rest).trans ?_
      rw [ofCode, if_neg (by omega), if_neg (by omega), if_neg (by omega), if_pos (by omega),
        Nat.add_sub_cancel_left]
    · exact read_writeLength (fun _ => rfl) (fun _ => rfl) (fun _ => rfl) hfits rest
  | bin n => exact read_writeLength (fun _ => rfl) (fun _ => rfl) (fun _ => rfl) hfits rest
  | array n =>
    rw [toBytes]
    split_ifs with hn h16
    · refine (read_ofNat (by omega) rest).trans ?_
      rw [ofCode, if_neg (by omega), if_neg (by omega), if_pos (by omega), Nat.add_sub_cancel_left]
    · exact read_bytes (fun _ => rfl) h16 rest
    · exact read_bytes (fun _ => rfl) hfits rest
  | map n =>
    rw [toBytes]
    split_ifs with hn h16
    · refine (read_ofNat (by omega) rest).trans ?_
      rw [ofCode, if_neg (by omega), if_pos (by omega), Nat.add_sub_cancel_left]
    · exact read_bytes (fun _ => rfl) h16 rest
    · exact read_bytes (fun _ => rfl) hfits rest

/-- What is read fits, and could not be written in fewer bytes. -/
def Least (b : List UInt8) (h : Head) (rest : List UInt8) : Prop :=
  h.Fits ∧ h.toBytes.length + rest.length ≤ b.length

theorem least_of_readNat {h : Head}
    (hread : (readNat k b).map (Prod.map f id) = some (h, rest))
    (hf : ∀ n < 256 ^ k, (f n).Fits ∧ (f n).toBytes.length ≤ k + 1) : Least (c :: b) h rest := by
  obtain ⟨⟨n, rest'⟩, hn, heq⟩ := Option.map_eq_some_iff.1 hread
  obtain ⟨rfl, rfl⟩ := Prod.mk.inj heq
  obtain ⟨hlt, hlen⟩ := readNat_eq_some hn
  obtain ⟨hfits, hle⟩ := hf n hlt
  exact ⟨hfits, by rw [List.length_cons, id]; omega⟩

theorem least_of_readInt {h : Head}
    (hread : (readInt k b).map (Prod.map .int id) = some (h, rest))
    (hf : ∀ n : Int, -(256 ^ k : Nat) ≤ n * 2 → n * 2 < (256 ^ k : Nat) →
      (int n).Fits ∧ (int n).toBytes.length ≤ k + 1) : Least (c :: b) h rest := by
  obtain ⟨⟨n, rest'⟩, hn, heq⟩ := Option.map_eq_some_iff.1 hread
  obtain ⟨rfl, rfl⟩ := Prod.mk.inj heq
  obtain ⟨hle, hlt, hlen⟩ := readInt_eq_some hn
  obtain ⟨hfits, hle⟩ := hf n hle hlt
  exact ⟨hfits, by rw [List.length_cons, id]; omega⟩

theorem length_int (n : Int) : (int n).toBytes.length =
    if 0 ≤ n then
      if n < 2 ^ 7 then 1 else if n < 2 ^ 8 then 2 else if n < 2 ^ 16 then 3
      else if n < 2 ^ 32 then 5 else 9
    else if -2 ^ 5 ≤ n then 1 else if -2 ^ 7 ≤ n then 2 else if -2 ^ 15 ≤ n then 3
    else if -2 ^ 31 ≤ n then 5 else 9 := by
  rw [toBytes]
  split_ifs <;> simp only [List.length_cons, length_bytes, length_signedBytes]

theorem length_array (n : Nat) : (array n).toBytes.length =
    if n < 2 ^ 4 then 1 else if n < 2 ^ 16 then 3 else 5 := by
  rw [toBytes]
  split_ifs <;> simp only [List.length_cons, length_bytes, List.length_nil]

/-- A map is written as a list is, but for the codes. -/
theorem length_map (n : Nat) : (map n).toBytes.length = (array n).toBytes.length := by
  rw [toBytes, toBytes]
  split_ifs <;> rfl

/-! A number or length of `k` bytes fits and is written in as many, or fewer. -/

theorem nat_le (hk : k ∈ [1, 2, 4, 8]) (n : Nat) (hn : n < 256 ^ k) :
    (int n).Fits ∧ (int n).toBytes.length ≤ k + 1 := by
  rw [length_int]
  simp only [List.mem_cons, List.not_mem_nil, or_false] at hk
  rcases hk with rfl | rfl | rfl | rfl <;> refine ⟨⟨by omega, by omega⟩, ?_⟩ <;> split_ifs <;> omega

theorem int_le (hk : k ∈ [1, 2, 4, 8]) (n : Int) (h₀ : -(256 ^ k : Nat) ≤ n * 2)
    (h₁ : n * 2 < (256 ^ k : Nat)) : (int n).Fits ∧ (int n).toBytes.length ≤ k + 1 := by
  rw [length_int]
  simp only [List.mem_cons, List.not_mem_nil, or_false] at hk
  rcases hk with rfl | rfl | rfl | rfl <;> refine ⟨⟨by omega, by omega⟩, ?_⟩ <;> split_ifs <;> omega

theorem writeLength_le (hk : k ∈ [1, 2, 4]) {n : Nat} (hn : n < 256 ^ k) (c₁ c₂ c₄ : UInt8) :
    n < 2 ^ 32 ∧ (writeLength c₁ c₂ c₄ n).length ≤ k + 1 := by
  simp only [List.mem_cons, List.not_mem_nil, or_false] at hk
  rw [writeLength]
  rcases hk with rfl | rfl | rfl <;> refine ⟨by omega, ?_⟩ <;> split_ifs <;>
    simp only [List.length_cons, length_bytes] <;> omega

theorem str_le (hk : k ∈ [1, 2, 4]) (n : Nat) (hn : n < 256 ^ k) :
    (str n).Fits ∧ (str n).toBytes.length ≤ k + 1 := by
  obtain ⟨hfits, hle⟩ := writeLength_le hk hn 0xd9 0xda 0xdb
  refine ⟨hfits, ?_⟩
  rw [toBytes]
  split_ifs
  · exact Nat.le_add_left 1 k
  · exact hle

theorem bin_le (hk : k ∈ [1, 2, 4]) (n : Nat) (hn : n < 256 ^ k) :
    (bin n).Fits ∧ (bin n).toBytes.length ≤ k + 1 := writeLength_le hk hn 0xc4 0xc5 0xc6

theorem array_le (hk : k ∈ [2, 4]) (n : Nat) (hn : n < 256 ^ k) :
    (array n).Fits ∧ (array n).toBytes.length ≤ k + 1 := by
  rw [length_array, Fits]
  simp only [List.mem_cons, List.not_mem_nil, or_false] at hk
  rcases hk with rfl | rfl <;> refine ⟨by omega, ?_⟩ <;> split_ifs <;> omega

theorem map_le (hk : k ∈ [2, 4]) (n : Nat) (hn : n < 256 ^ k) :
    (map n).Fits ∧ (map n).toBytes.length ≤ k + 1 := by
  rw [length_map]
  exact array_le hk n hn

theorem least_of_ofMiddle {h : Head} {code : Nat} (hread : ofMiddle b code = some (h, rest)) :
    Least (c :: b) h rest := by
  unfold ofMiddle at hread
  split at hread
  · cases hread
    exact ⟨trivial, by simp [toBytes]; omega⟩
  · cases hread
    exact ⟨trivial, by simp [toBytes]; omega⟩
  · cases hread
    exact ⟨trivial, by simp [toBytes]; omega⟩
  · exact least_of_readNat hread (bin_le (by decide))
  · exact least_of_readNat hread (bin_le (by decide))
  · exact least_of_readNat hread (bin_le (by decide))
  · exact least_of_readNat hread (nat_le (by decide))
  · exact least_of_readNat hread (nat_le (by decide))
  · exact least_of_readNat hread (nat_le (by decide))
  · exact least_of_readNat hread (nat_le (by decide))
  · exact least_of_readInt hread (int_le (by decide))
  · exact least_of_readInt hread (int_le (by decide))
  · exact least_of_readInt hread (int_le (by decide))
  · exact least_of_readInt hread (int_le (by decide))
  · exact least_of_readNat hread (str_le (by decide))
  · exact least_of_readNat hread (str_le (by decide))
  · exact least_of_readNat hread (str_le (by decide))
  · exact least_of_readNat hread (array_le (by decide))
  · exact least_of_readNat hread (array_le (by decide))
  · exact least_of_readNat hread (map_le (by decide))
  · exact least_of_readNat hread (map_le (by decide))
  · cases hread

theorem least_of_read {h : Head} (hread : read b = some (h, rest)) : Least b h rest := by
  cases b with
  | nil => cases hread
  | cons c b =>
    have hc := c.toNat_lt
    rw [read, ofCode] at hread
    split_ifs at hread with h80 h90 ha0 hc0 he0
    · cases hread
      refine ⟨⟨by omega, by omega⟩, ?_⟩
      rw [length_int, List.length_cons, if_pos (by omega), if_pos (by omega)]
      omega
    · cases hread
      refine ⟨by rw [Fits]; omega, ?_⟩
      rw [length_map, length_array, List.length_cons, if_pos (by omega)]
      omega
    · cases hread
      refine ⟨by rw [Fits]; omega, ?_⟩
      rw [length_array, List.length_cons, if_pos (by omega)]
      omega
    · cases hread
      refine ⟨by rw [Fits]; omega, ?_⟩
      rw [toBytes, if_pos (by omega), List.length_cons, List.length_nil, List.length_cons]
      omega
    · exact least_of_ofMiddle hread
    · cases hread
      refine ⟨⟨by omega, by omega⟩, ?_⟩
      rw [length_int, List.length_cons, if_neg (by omega), if_pos (by omega)]
      omega

end Head

namespace Message

variable {isText : List UInt8 → Bool} {depth : Nat}

@[simp] theorem fits_bool (b : Bool) : Fits isText (depth + 1) (.bool b) := .bool depth b

@[simp] theorem fits_int_iff {n : Int} :
    Fits isText (depth + 1) (.int n) ↔ -2 ^ 63 ≤ n ∧ n < 2 ^ 64 := by
  refine ⟨fun h => ?_, .int depth⟩
  cases h with
  | int _ h => exact h

@[simp] theorem fits_str_iff {s : List UInt8} :
    Fits isText (depth + 1) (.str s) ↔ s.length < 2 ^ 32 ∧ isText s = true := by
  refine ⟨fun h => ?_, fun h => .str depth h.1 h.2⟩
  cases h with
  | str _ h hs => exact ⟨h, hs⟩

@[simp] theorem fits_bin_iff {b : List UInt8} :
    Fits isText (depth + 1) (.bin b) ↔ b.length < 2 ^ 32 := by
  refine ⟨fun h => ?_, .bin depth⟩
  cases h with
  | bin _ h => exact h

@[simp] theorem fits_array_iff {items : List Message} : Fits isText (depth + 1) (.array items) ↔
    items.length < 2 ^ 32 ∧ ∀ m ∈ items, Fits isText depth m := by
  refine ⟨fun h => ?_, fun h => .array depth h.1 h.2⟩
  cases h with
  | array _ h hitems => exact ⟨h, hitems⟩

@[simp] theorem fits_map_iff {items : List (List UInt8 × Message)} :
    Fits isText (depth + 1) (.map items) ↔ items.length < 2 ^ 32 ∧
      (∀ e ∈ items, e.1.length < 2 ^ 32 ∧ isText e.1 = true) ∧
        ∀ e ∈ items, Fits isText depth e.2 := by
  refine ⟨fun h => ?_, fun h => .map depth h.1 h.2.1 h.2.2⟩
  cases h with
  | map _ h hkeys hitems => exact ⟨h, hkeys, hitems⟩

end Message

/-- A message fits if it would with any texts, and its own are texts. -/
theorem Message.fits_iff {isText : List UInt8 → Bool} {depth : Nat} {m : Message} :
    Fits isText depth m ↔ Fits (fun _ => true) depth m ∧ ∀ s ∈ m.texts, isText s = true := by
  constructor
  · intro h
    induction h with
    | nil depth => exact ⟨.nil depth, by simp [texts]⟩
    | bool depth b => exact ⟨.bool depth b, by simp [texts]⟩
    | int depth h => exact ⟨.int depth h, by simp [texts]⟩
    | str depth h hs => exact ⟨.str depth h rfl, by simpa [texts] using hs⟩
    | bin depth h => exact ⟨.bin depth h, by simp [texts]⟩
    | array depth h hitems ih =>
      refine ⟨.array depth h fun m hm => (ih m hm).1, ?_⟩
      rw [texts, itemsTexts_eq, List.forall_mem_flatMap]
      exact fun m hm => (ih m hm).2
    | map depth h hkeys hitems ih =>
      refine ⟨.map depth h (fun e he => ⟨(hkeys e he).1, rfl⟩) fun e he => (ih e he).1, ?_⟩
      rw [texts, entriesTexts_eq, List.forall_mem_flatMap]
      exact fun e he => List.forall_mem_cons.2 ⟨(hkeys e he).2, (ih e he).2⟩
  · rintro ⟨h, htexts⟩
    induction h with
    | nil depth => exact .nil depth
    | bool depth b => exact .bool depth b
    | int depth h => exact .int depth h
    | str depth h hs => exact .str depth h (htexts _ (by simp [texts]))
    | bin depth h => exact .bin depth h
    | array depth h hitems ih =>
      rw [texts, itemsTexts_eq, List.forall_mem_flatMap] at htexts
      exact .array depth h fun m hm => ih m hm (htexts m hm)
    | map depth h hkeys hitems ih =>
      rw [texts, entriesTexts_eq, List.forall_mem_flatMap] at htexts
      exact .map depth h
        (fun e he => ⟨(hkeys e he).1, (List.forall_mem_cons.1 (htexts e he)).1⟩)
        fun e he => ih e he (List.forall_mem_cons.1 (htexts e he)).2

/-! ## Messages that are read -/

section ReadMany

variable {α : Type} {item : List UInt8 → Option (α × List UInt8)} {w : α → List UInt8}

/-- Items that are read back one by one are read back together. -/
theorem readMany_flatMap {items : List α}
    (hitem : ∀ a ∈ items, ∀ rest, item (w a ++ rest) = some (a, rest))
    (rest : List UInt8) :
    readMany item items.length (items.flatMap w ++ rest) = some (items, rest) := by
  induction items with
  | nil => rfl
  | cons a items ih =>
    rw [List.flatMap_cons, List.append_assoc, List.length_cons, readMany,
      hitem a List.mem_cons_self]
    simp only [Option.bind_eq_bind, Option.bind_some]
    rw [ih fun a ha => hitem a (List.mem_cons_of_mem _ ha)]
    rfl

/-- What holds of an item that is read holds of all. -/
theorem readMany_eq_some {P : α → Prop}
    (hitem : ∀ b a rest, item b = some (a, rest) →
      P a ∧ (w a).length + rest.length ≤ b.length)
    {items : List α} (h : readMany item n b = some (items, rest)) :
    items.length = n ∧ (∀ a ∈ items, P a) ∧
      (items.flatMap w).length + rest.length ≤ b.length := by
  induction n generalizing b items with
  | zero =>
    cases h
    exact ⟨rfl, fun a ha => absurd ha List.not_mem_nil, by simp⟩
  | succ n ih =>
    obtain ⟨⟨a, b₁⟩, ha, h⟩ := Option.bind_eq_some_iff.1 h
    obtain ⟨⟨items', b₂⟩, hitems, h⟩ := Option.bind_eq_some_iff.1 h
    cases h
    obtain ⟨hP, hlen⟩ := hitem b a b₁ ha
    obtain ⟨hn, hall, hrest⟩ := ih hitems
    refine ⟨by rw [List.length_cons, hn], List.forall_mem_cons.2 ⟨hP, hall⟩, ?_⟩
    rw [List.flatMap_cons, List.length_append]
    omega

end ReadMany

variable {isText : List UInt8 → Bool} {depth : Nat} {m : Message}

theorem readText_append {s : List UInt8} (hs : isText s = true) (rest : List UInt8) :
    readText isText s.length (s ++ rest) = some (s, rest) := by
  rw [readText, split_append]
  exact if_pos hs

theorem readText_eq_some {s : List UInt8} (h : readText isText n b = some (s, rest)) :
    isText s = true ∧ s.length = n ∧ n + rest.length = b.length := by
  obtain ⟨⟨s', rest'⟩, hs, h⟩ := Option.bind_eq_some_iff.1 h
  dsimp only at h
  split_ifs at h with htext
  cases h
  obtain ⟨hlen, hrest⟩ := split_eq_some hs
  exact ⟨htext, hlen, hrest⟩

namespace Message

/-- A key and what it stands for are read back. -/
theorem readEntry_append {e : List UInt8 × Message} (hkey : (Head.str e.1.length).Fits)
    (htext : isText e.1 = true)
    (hread : ∀ rest, read isText depth (e.2.toBytes ++ rest) = some (e.2, rest))
    (rest : List UInt8) :
    readEntry isText (read isText depth) (entryToBytes e ++ rest) = some (e, rest) := by
  rw [readEntry, entryToBytes, List.append_assoc, List.append_assoc, Head.read_toBytes hkey]
  simp only [Option.bind_eq_bind, Option.bind_some, readText_append htext, hread]
  rfl

/-- A message that fits is read back. -/
theorem read_toBytes (h : Fits isText depth m) (rest : List UInt8) :
    read isText depth (m.toBytes ++ rest) = some (m, rest) := by
  induction h generalizing rest with
  | nil depth => rfl
  | bool depth b => cases b <;> rfl
  | int depth h =>
    rw [read, toBytes, Head.read_toBytes h]
    rfl
  | str depth h hs =>
    rw [read, toBytes, List.append_assoc, Head.read_toBytes h]
    simp only [Option.bind_eq_bind, Option.bind_some, readText_append hs]
    rfl
  | bin depth h =>
    rw [read, toBytes, List.append_assoc, Head.read_toBytes h]
    simp only [Option.bind_eq_bind, Option.bind_some, split_append]
    rfl
  | array depth h hitems ih =>
    rw [read, toBytes, List.append_assoc, Head.read_toBytes h, itemsToBytes_eq]
    simp only [Option.bind_eq_bind, Option.bind_some, readMany_flatMap ih]
    rfl
  | map depth h hkeys hitems ih =>
    have hentries := readMany_flatMap fun e he =>
      readEntry_append (hkeys e he).1 (hkeys e he).2 (ih e he)
    rw [read, toBytes, List.append_assoc, Head.read_toBytes h, entriesToBytes_eq]
    simp only [Option.bind_eq_bind, Option.bind_some, hentries]
    rfl

theorem readEntry_eq_some {e : List UInt8 × Message} {P : Message → Prop}
    (hread : ∀ b m rest, read isText depth b = some (m, rest) →
      P m ∧ m.toBytes.length + rest.length ≤ b.length)
    (h : readEntry isText (read isText depth) b = some (e, rest)) :
    ((Head.str e.1.length).Fits ∧ isText e.1 = true ∧ P e.2) ∧
      (entryToBytes e).length + rest.length ≤ b.length := by
  obtain ⟨⟨head, b₁⟩, hhead, h⟩ := Option.bind_eq_some_iff.1 h
  obtain ⟨hfits, hle⟩ := Head.least_of_read hhead
  cases head with
  | str n =>
    obtain ⟨⟨key, b₂⟩, hkey, h⟩ := Option.bind_eq_some_iff.1 h
    obtain ⟨⟨m, b₃⟩, hm, h⟩ := Option.bind_eq_some_iff.1 h
    cases h
    obtain ⟨htext, rfl, hrest⟩ := readText_eq_some hkey
    obtain ⟨hP, hlen⟩ := hread _ _ _ hm
    refine ⟨⟨hfits, htext, hP⟩, ?_⟩
    rw [entryToBytes, List.length_append, List.length_append]
    dsimp only
    omega
  | _ => cases h

/-- A message that is read fits, and could not be written in fewer bytes. -/
theorem read_eq_some (h : read isText depth b = some (m, rest)) :
    Fits isText depth m ∧ m.toBytes.length + rest.length ≤ b.length := by
  induction depth generalizing b m rest with
  | zero => cases h
  | succ depth ih =>
    rw [read] at h
    obtain ⟨⟨head, b'⟩, hhead, h⟩ := Option.bind_eq_some_iff.1 h
    obtain ⟨hfits, hle⟩ := Head.least_of_read hhead
    cases head with
    | nil =>
      cases h
      exact ⟨.nil _, hle⟩
    | bool c =>
      cases h
      exact ⟨.bool _ _, hle⟩
    | int n =>
      cases h
      exact ⟨.int _ hfits, hle⟩
    | str n =>
      obtain ⟨⟨s, b''⟩, hs, h⟩ := Option.map_eq_some_iff.1 h
      cases h
      obtain ⟨htext, rfl, hrest⟩ := readText_eq_some hs
      refine ⟨.str _ hfits htext, ?_⟩
      rw [toBytes, List.length_append, id]
      omega
    | bin n =>
      obtain ⟨⟨c, b''⟩, hc, h⟩ := Option.map_eq_some_iff.1 h
      cases h
      obtain ⟨rfl, hrest⟩ := split_eq_some hc
      refine ⟨.bin _ hfits, ?_⟩
      rw [toBytes, List.length_append, id]
      omega
    | array n =>
      obtain ⟨⟨items, b''⟩, hitems, h⟩ := Option.map_eq_some_iff.1 h
      cases h
      obtain ⟨rfl, hall, hrest⟩ := readMany_eq_some (w := toBytes) (fun b a rest h => ih h) hitems
      refine ⟨.array _ hfits hall, ?_⟩
      rw [toBytes, List.length_append, itemsToBytes_eq, id]
      omega
    | map n =>
      obtain ⟨⟨items, b''⟩, hitems, h⟩ := Option.map_eq_some_iff.1 h
      cases h
      obtain ⟨rfl, hall, hrest⟩ := readMany_eq_some (w := entryToBytes)
        (fun b e rest h => readEntry_eq_some (fun b m rest h => ih h) h) hitems
      refine ⟨.map _ hfits (fun e he => ⟨(hall e he).1, (hall e he).2.1⟩)
        fun e he => (hall e he).2.2, ?_⟩
      rw [toBytes, List.length_append, entriesToBytes_eq, id]
      omega

theorem ofBytes_eq_some_iff :
    ofBytes isText depth b = some m ↔ read isText depth b = some (m, []) := by
  rw [ofBytes]
  constructor
  · intro h
    split at h
    · cases h
      assumption
    · cases h
  · intro h
    rw [h]

/-- The messages that are read back are those that fit. -/
theorem ofBytes_toBytes_iff : ofBytes isText depth m.toBytes = some m ↔ Fits isText depth m := by
  rw [ofBytes_eq_some_iff]
  refine ⟨fun h => (read_eq_some h).1, fun h => ?_⟩
  have hread := read_toBytes h []
  rwa [List.append_nil] at hread

/-- No message is read from fewer bytes than it is written in. -/
theorem length_toBytes_le (h : ofBytes isText depth b = some m) :
    m.toBytes.length ≤ b.length := by
  have hread := (read_eq_some (ofBytes_eq_some_iff.1 h)).2
  simpa using hread

end Message

/-! ## Bytes that follow -/

/-- What `item` reads is read by `item'`, whatever follows it. -/
def Extends {α : Type} (item item' : List UInt8 → Option (α × List UInt8)) : Prop :=
  ∀ b a rest c, item b = some (a, rest) → item' (b ++ c) = some (a, rest ++ c)

theorem Extends.map {α β : Type} {item item' : List UInt8 → Option (α × List UInt8)}
    (h : Extends item item') (f : α → β) :
    Extends (fun b => (item b).map (Prod.map f id)) fun b => (item' b).map (Prod.map f id) := by
  intro b a rest c hread
  obtain ⟨⟨a', rest'⟩, hitem, heq⟩ := Option.map_eq_some_iff.1 hread
  obtain ⟨rfl, rfl⟩ := Prod.mk.inj heq
  dsimp only
  rw [h _ _ _ _ hitem]
  rfl

theorem extends_split (n : Nat) : Extends (split n) (split n) := by
  intro b a rest c h
  rw [split] at h
  split_ifs at h with hn
  cases h
  rw [split, if_pos (by rw [List.length_append]; omega), List.take_append_of_le_length hn,
    List.drop_append_of_le_length hn]

theorem extends_readNat (k : Nat) : Extends (readNat k) (readNat k) := (extends_split k).map _

theorem extends_readInt (k : Nat) : Extends (readInt k) (readInt k) := (extends_readNat k).map _

theorem Extends.readMany {α : Type} {item item' : List UInt8 → Option (α × List UInt8)}
    (h : Extends item item') (n : Nat) : Extends (readMany item n) (readMany item' n) := by
  induction n with
  | zero =>
    intro b a rest c hread
    cases hread
    rfl
  | succ n ih =>
    intro b items rest c hread
    obtain ⟨⟨a, b₁⟩, ha, hread⟩ := Option.bind_eq_some_iff.1 hread
    obtain ⟨⟨items', b₂⟩, hitems, hread⟩ := Option.bind_eq_some_iff.1 hread
    cases hread
    exact Option.bind_eq_some_iff.2 ⟨_, h _ _ _ _ ha,
      Option.bind_eq_some_iff.2 ⟨_, ih _ _ _ _ hitems, rfl⟩⟩

namespace Head

theorem extends_ofMiddle (code : Nat) :
    Extends (fun b => ofMiddle b code) fun b => ofMiddle b code := by
  intro b h rest c hread
  unfold ofMiddle at hread ⊢
  split at hread <;> dsimp only <;>
    first
    | exact (extends_readNat _).map _ _ _ _ _ hread
    | exact (extends_readInt _).map _ _ _ _ _ hread
    | (cases hread; rfl)
    | cases hread

theorem extends_read : Extends read read := by
  intro b h rest c hread
  cases b with
  | nil => cases hread
  | cons code b =>
    rw [read, ofCode] at hread
    rw [List.cons_append, read, ofCode]
    split_ifs at hread ⊢ <;> first | exact extends_ofMiddle _ _ _ _ _ hread | (cases hread; rfl)

end Head

section Texts

variable {isText' : List UInt8 → Bool}

theorem extends_readText (htexts : ∀ s, isText s = true → isText' s = true) (n : Nat) :
    Extends (readText isText n) (readText isText' n) := by
  intro b s rest c hread
  obtain ⟨⟨s', rest'⟩, hs, hread⟩ := Option.bind_eq_some_iff.1 hread
  dsimp only at hread
  split_ifs at hread with htext
  cases hread
  exact Option.bind_eq_some_iff.2 ⟨_, extends_split n _ _ _ _ hs, if_pos (htexts _ htext)⟩

theorem Extends.readEntry {α : Type} {item item' : List UInt8 → Option (α × List UInt8)}
    (h : Extends item item') (htexts : ∀ s, isText s = true → isText' s = true) :
    Extends (readEntry isText item) (readEntry isText' item') := by
  intro b e rest c hread
  obtain ⟨⟨head, b₁⟩, hhead, hread⟩ := Option.bind_eq_some_iff.1 hread
  cases head with
  | str n =>
    obtain ⟨⟨key, b₂⟩, hkey, hread⟩ := Option.bind_eq_some_iff.1 hread
    obtain ⟨⟨a, b₃⟩, ha, hread⟩ := Option.bind_eq_some_iff.1 hread
    cases hread
    exact Option.bind_eq_some_iff.2 ⟨_, Head.extends_read _ _ _ _ hhead,
      Option.bind_eq_some_iff.2 ⟨_, extends_readText htexts n _ _ _ _ hkey,
        Option.bind_eq_some_iff.2 ⟨_, h _ _ _ _ ha, rfl⟩⟩⟩
  | _ => cases hread

/-- A message is read whatever follows it, and if more texts are let through. -/
theorem Message.extends_read (htexts : ∀ s, isText s = true → isText' s = true) (depth : Nat) :
    Extends (Message.read isText depth) (Message.read isText' depth) := by
  induction depth with
  | zero => exact fun b m rest c h => nomatch h
  | succ depth ih =>
    intro b m rest c hread
    obtain ⟨⟨head, b'⟩, hhead, hread⟩ := Option.bind_eq_some_iff.1 hread
    refine Option.bind_eq_some_iff.2 ⟨_, Head.extends_read _ _ _ _ hhead, ?_⟩
    cases head with
    | nil => cases hread; rfl
    | bool _ => cases hread; rfl
    | int _ => cases hread; rfl
    | str n => exact (extends_readText htexts n).map _ _ _ _ _ hread
    | bin n => exact (extends_split n).map _ _ _ _ _ hread
    | array n => exact (ih.readMany n).map _ _ _ _ _ hread
    | map n => exact ((ih.readEntry htexts).readMany n).map _ _ _ _ _ hread

end Texts

/-- What is read from the first bytes of a message is the message, from all of them. -/
theorem Message.eq_of_ofBytes_take (hfits : Fits (fun _ => true) depth m) {m' : Message}
    (h : ofBytes isText depth (m.toBytes.take n) = some m') : m' = m ∧ m.toBytes.length ≤ n := by
  have hextends : Extends (read isText depth) (read (fun _ => true) depth) :=
    extends_read (fun _ _ => rfl) depth
  have hread := hextends _ _ _ (m.toBytes.drop n) (ofBytes_eq_some_iff.1 h)
  have hall := read_toBytes hfits []
  rw [List.append_nil] at hall
  rw [List.take_append_drop, hall] at hread
  obtain ⟨rfl, hdrop⟩ := Prod.mk.inj (Option.some.inj hread)
  exact ⟨rfl, List.drop_eq_nil_iff.1 hdrop.symm⟩

end MsgPack
