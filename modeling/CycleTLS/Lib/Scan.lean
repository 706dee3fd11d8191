import CycleTLS.Lib.Radix

/-!
# Formatted numbers

Formats of decimal numbers and other symbols, as `fmt` of Go prints and scans them. Scanning is
lenient: it skips spaces before a number, and what follows the format is left. What is printed
with a format is scanned with it (`sscanf_sprintf`), if its numbers are kept apart. Which texts are
scanned is said by a relation (`sscanf_eq_some_iff`). Fields that are scanned are written as they
should be if they have nothing but digits and separators (`Scans.writes_of_plain`).
-/

namespace Scan

/-- What a format is made of: `%d`, or a symbol that stands for itself. -/
inductive Directive
  | decimal
  | symbol (c : UInt8)
  deriving DecidableEq

/-- A digit of a decimal number. -/
def isDigit (c : UInt8) : Bool := decide (Radix.IsDigit 10 c)

/-- Skips spaces in UTF-8. A line feed is an error, also behind a carriage return. -/
def skipSpace : List UInt8 → Option (List UInt8)
  | 0x0a :: _ => none
  | 0x0d :: 0x0a :: _ => none
  | 0xc2 :: b :: s => if b = 0x85 ∨ b = 0xa0 then skipSpace s else some (0xc2 :: b :: s)
  | 0xe1 :: 0x9a :: 0x80 :: s => skipSpace s
  | 0xe2 :: 0x80 :: b :: s =>
    if (0x80 ≤ b ∧ b ≤ 0x8a) ∨ b = 0xa8 ∨ b = 0xa9 ∨ b = 0xaf then skipSpace s
    else some (0xe2 :: 0x80 :: b :: s)
  | 0xe2 :: 0x81 :: 0x9f :: s => skipSpace s
  | 0xe3 :: 0x80 :: 0x80 :: s => skipSpace s
  | c :: s => if c = 0x20 ∨ (0x09 ≤ c ∧ c ≤ 0x0d) then skipSpace s else some (c :: s)
  | [] => some []

/-- A number below a bound at the front, with what follows its digits. -/
def scanNumber (bound : Nat) (s : List UInt8) : Option (Nat × List UInt8) :=
  ((Radix.read 10 (s.takeWhile isDigit)).filter (· < bound)).map (·, s.dropWhile isDigit)

/-- The numbers that a text has in the places of a format. -/
def sscanf (bound : Nat) : List Directive → List UInt8 → Option (List Nat)
  | [], _ => some []
  | .symbol c :: format, s =>
    match s with
    | c' :: s => if c' = c then sscanf bound format s else none
    | [] => none
  | .decimal :: format, s => do
    let (n, s) ← scanNumber bound (← skipSpace s)
    let ns ← sscanf bound format s
    return n :: ns

/-- The digits of a number. -/
def decimal (n : Nat) : List UInt8 := (Nat.toDigits 10 n).map fun c => UInt8.ofNat c.toNat

/-- The text of a format with numbers in its places. -/
def sprintf : List Directive → List Nat → List UInt8
  | [], _ => []
  | .symbol c :: format, ns => c :: sprintf format ns
  | .decimal :: format, n :: ns => decimal n ++ sprintf format ns
  | .decimal :: _, [] => []

/-- No digit can be printed first. -/
def Delimits : List Directive → Prop
  | [] => True
  | .symbol c :: _ => ¬Radix.IsDigit 10 c
  | .decimal :: _ => False

/-- Behind each number, there is no digit. -/
def Separated : List Directive → Prop
  | [] => True
  | .symbol _ :: format => Separated format
  | .decimal :: format => Delimits format ∧ Separated format

/-- The format of numbers with a separator between them. -/
def fields (sep : UInt8) : Nat → List Directive
  | 0 => [.decimal]
  | k + 1 => .decimal :: .symbol sep :: fields sep k

/-- A text has digits and a number of separators, and nothing else. -/
structure Plain (sep : UInt8) (k : Nat) (s : List UInt8) : Prop where
  symbols : ∀ c ∈ s, Radix.IsDigit 10 c ∨ c = sep
  count : s.count sep = k

/-- A text is scanned with a format: spaces before a number are skipped, and behind the format there
    may be any text. -/
inductive Scans (bound : Nat) : List Directive → List UInt8 → List Nat → Prop
  | nil (s : List UInt8) : Scans bound [] s []
  | symbol {c : UInt8} {format : List Directive} {s : List UInt8} {ns : List Nat} :
      Scans bound format s ns → Scans bound (.symbol c :: format) (c :: s) ns
  | decimal {format : List Directive} {s digits t : List UInt8} {n : Nat} {ns : List Nat} :
      skipSpace s = some (digits ++ t) → Radix.read 10 digits = some n → n < bound →
      (∀ c ∈ t.head?, ¬Radix.IsDigit 10 c) → Scans bound format t ns →
      Scans bound (.decimal :: format) s (n :: ns)

/-- A text is written with a format: it has digits in the places of the numbers. -/
inductive Writes : List Directive → List UInt8 → List Nat → Prop
  | nil : Writes [] [] []
  | symbol {c : UInt8} {format : List Directive} {s : List UInt8} {ns : List Nat} :
      Writes format s ns → Writes (.symbol c :: format) (c :: s) ns
  | decimal {format : List Directive} {digits t : List UInt8} {n : Nat} {ns : List Nat} :
      Radix.read 10 digits = some n → Writes format t ns →
      Writes (.decimal :: format) (digits ++ t) (n :: ns)

/-! ## Digits -/

variable {bound n : Nat} {s : List UInt8}

theorem readFrom_decimal (n : Nat) : Radix.readFrom 10 0 (decimal n) = some n := by
  have hdigit : ∀ d < 10, Radix.digit (UInt8.ofNat (Nat.digitChar d).toNat) = some d := by decide
  induction n using Nat.strongRecOn with
  | _ n ih =>
    rw [decimal]
    by_cases hn : n < 10
    · rw [Nat.toDigits_of_lt_base hn, List.map_singleton, Radix.readFrom, hdigit n hn]
      exact (if_pos hn).trans (congrArg some (by omega))
    · have hmod : n % 10 < 10 := Nat.mod_lt n (by decide)
      have hlast : n / 10 * 10 + n % 10 = n := Nat.div_add_mod' n 10
      rw [Nat.toDigits_of_base_le (by decide) (by omega), List.map_append, Radix.readFrom_append,
        ← decimal, ih (n / 10) (by omega), List.map_singleton, Option.bind_some, Radix.readFrom,
        hdigit _ hmod]
      exact (if_pos hmod).trans (congrArg some hlast)

/-- A number is printed with a digit at least. -/
theorem decimal_ne_nil (n : Nat) : decimal n ≠ [] := by
  rw [decimal]
  exact mt List.map_eq_nil_iff.1 Nat.toDigits_ne_nil

theorem read_decimal (n : Nat) : Radix.read 10 (decimal n) = some n := by
  rw [Radix.read, if_neg (by simpa using decimal_ne_nil n), readFrom_decimal]

theorem isDigit_of_mem_decimal {c : UInt8} (h : c ∈ decimal n) : Radix.IsDigit 10 c :=
  Radix.isDigit_of_read (read_decimal n) c h

theorem ne_of_mem_decimal {c d : UInt8} (h : c ∈ decimal n) (hd : ¬Radix.IsDigit 10 d) : c ≠ d :=
  fun heq => hd (heq ▸ isDigit_of_mem_decimal h)

/-! ## What is printed and scanned -/

/-- A text of a format has digits and the symbols of the format. -/
theorem mem_sprintf_cases {format : List Directive} {ns : List Nat} {c : UInt8}
    (h : c ∈ sprintf format ns) : Radix.IsDigit 10 c ∨ .symbol c ∈ format := by
  induction format generalizing ns with
  | nil => exact absurd h List.not_mem_nil
  | cons d format ih =>
    cases d with
    | symbol c' =>
      rcases List.mem_cons.1 h with rfl | h
      · exact .inr List.mem_cons_self
      · exact (ih h).imp_right (List.mem_cons_of_mem _)
    | decimal =>
      cases ns with
      | nil => exact absurd h List.not_mem_nil
      | cons n ns =>
        rcases List.mem_append.1 h with h | h
        · exact .inl (isDigit_of_mem_decimal h)
        · exact (ih h).imp_right (List.mem_cons_of_mem _)

theorem skipSpace_of_isDigit {c : UInt8} (h : Radix.IsDigit 10 c) :
    skipSpace (c :: s) = some (c :: s) := by
  obtain ⟨d, hd, hdigit⟩ := h
  obtain ⟨⟨hlow, hhigh⟩, -⟩ := Radix.digit_of_lt_ten hdigit hd
  have hne {b : UInt8} (hb : ¬(0x30 ≤ b ∧ b ≤ 0x39)) : c ≠ b := fun heq => hb (heq ▸ ⟨hlow, hhigh⟩)
  have hspace : ¬(c = 0x20 ∨ (0x09 ≤ c ∧ c ≤ 0x0d)) := by
    rintro (rfl | ⟨-, hc⟩)
    · exact absurd hlow (by decide)
    · exact absurd (UInt8.le_trans hlow hc) (by decide)
  rw [skipSpace, if_neg hspace]
  -- no space in UTF-8 begins with a digit
  exacts [hne (by decide), fun _ h _ => hne (by decide) h, fun _ _ h _ => hne (by decide) h,
    fun _ h _ => hne (by decide) h, fun _ _ h _ => hne (by decide) h,
    fun _ h _ => hne (by decide) h, fun _ h _ => hne (by decide) h]

theorem skipSpace_of_read {digits : List UInt8} (h : Radix.read 10 digits = some n)
    (s : List UInt8) : skipSpace (digits ++ s) = some (digits ++ s) := by
  obtain ⟨c, digits, rfl⟩ := List.exists_cons_of_ne_nil (Radix.ne_nil_of_read h)
  exact skipSpace_of_isDigit (Radix.isDigit_of_read h c List.mem_cons_self)

theorem scanNumber_digits_append {digits : List UInt8}
    (hdigits : ∀ c ∈ digits, Radix.IsDigit 10 c) (hs : ∀ c ∈ s.head?, ¬Radix.IsDigit 10 c) :
    scanNumber bound (digits ++ s) = ((Radix.read 10 digits).filter (· < bound)).map (·, s) := by
  have hdigits : ∀ c ∈ digits, isDigit c := fun c hc => decide_eq_true (hdigits c hc)
  have hrest : s.takeWhile isDigit = [] ∧ s.dropWhile isDigit = s := by
    cases s with
    | nil => exact ⟨rfl, rfl⟩
    | cons c s =>
      have hc : ¬isDigit c := fun h => hs c rfl (of_decide_eq_true h)
      exact ⟨List.takeWhile_cons_of_neg hc, List.dropWhile_cons_of_neg hc⟩
  rw [scanNumber, List.takeWhile_append_of_pos hdigits, List.dropWhile_append_of_pos hdigits,
    hrest.1, hrest.2, List.append_nil]

/-! ## Texts that are scanned -/

theorem scanNumber_eq_some_iff {t : List UInt8} : scanNumber bound s = some (n, t) ↔
    ∃ digits, s = digits ++ t ∧ Radix.read 10 digits = some n ∧ n < bound ∧
      ∀ c ∈ t.head?, ¬Radix.IsDigit 10 c := by
  constructor
  · intro h
    obtain ⟨m, hm, heq⟩ := Option.map_eq_some_iff.1 h
    obtain ⟨rfl, rfl⟩ := Prod.mk.inj heq
    obtain ⟨hread, hlt⟩ := Option.filter_eq_some_iff.1 hm
    refine ⟨_, (List.takeWhile_append_dropWhile).symm, hread, by simpa using hlt, ?_⟩
    intro c hc hdigit
    have hnot := List.head?_dropWhile_not isDigit s
    rw [Option.mem_def.1 hc] at hnot
    exact absurd (decide_eq_true hdigit) (by simpa [isDigit] using hnot)
  · rintro ⟨digits, rfl, hread, hlt, ht⟩
    rw [scanNumber_digits_append (Radix.isDigit_of_read hread) ht, hread, Option.filter_some,
      if_pos (by simpa using hlt)]
    rfl

/-- What is scanned is what the relation says. -/
theorem sscanf_eq_some_iff {format : List Directive} {ns : List Nat} :
    sscanf bound format s = some ns ↔ Scans bound format s ns := by
  constructor
  · intro h
    induction format generalizing s ns with
    | nil =>
      cases h
      exact .nil s
    | cons d format ih =>
      cases d with
      | symbol c =>
        cases s with
        | nil => cases h
        | cons c' s =>
          rw [sscanf] at h
          split_ifs at h with hc
          exact hc ▸ .symbol (ih h)
      | decimal =>
        obtain ⟨s₁, hskip, h⟩ := Option.bind_eq_some_iff.1 h
        obtain ⟨⟨n, t⟩, hscan, h⟩ := Option.bind_eq_some_iff.1 h
        change ((sscanf bound format t).bind fun ns => some (n :: ns)) = some ns at h
        obtain ⟨ns', hns', h⟩ := Option.bind_eq_some_iff.1 h
        obtain rfl : n :: ns' = ns := Option.some.inj h
        obtain ⟨digits, rfl, hread, hlt, ht⟩ := scanNumber_eq_some_iff.1 hscan
        exact .decimal hskip hread hlt ht (ih hns')
  · intro h
    induction h with
    | nil s => rfl
    | symbol _ ih => rwa [sscanf, if_pos rfl]
    | @decimal format s digits t n ns hskip hread hlt ht _ ih =>
      rw [sscanf, hskip, Option.bind_eq_bind, Option.bind_some,
        scanNumber_eq_some_iff.2 ⟨digits, rfl, hread, hlt, ht⟩]
      change ((sscanf bound format t).bind fun ns => some (n :: ns)) = _
      rw [ih]
      rfl

theorem Scans.unique {format : List Directive} {ns ns' : List Nat} (h : Scans bound format s ns)
    (h' : Scans bound format s ns') : ns = ns' :=
  Option.some.inj ((sscanf_eq_some_iff.2 h).symm.trans (sscanf_eq_some_iff.2 h'))

theorem suffix_of_skipSpace {t : List UInt8} (h : skipSpace s = some t) : t <:+ s := by
  fun_induction skipSpace s with
  | case1 => cases h
  | case2 => cases h
  | case3 b s _ ih => exact (ih h).trans ⟨[0xc2, b], rfl⟩
  | case5 s ih => exact (ih h).trans ⟨[0xe1, 0x9a, 0x80], rfl⟩
  | case6 b s _ ih => exact (ih h).trans ⟨[0xe2, 0x80, b], rfl⟩
  | case8 s ih => exact (ih h).trans ⟨[0xe2, 0x81, 0x9f], rfl⟩
  | case9 s ih => exact (ih h).trans ⟨[0xe3, 0x80, 0x80], rfl⟩
  | case10 c s _ _ _ _ _ _ _ _ ih => exact (ih h).trans ⟨[c], rfl⟩
  | _ => exact Option.some.inj h ▸ List.suffix_rfl

/-- The symbols of a format are in a text that is scanned. -/
theorem Scans.mem {format : List Directive} {ns : List Nat} (h : Scans bound format s ns)
    {c : UInt8} (hc : .symbol c ∈ format) : c ∈ s := by
  induction h with
  | nil s => exact absurd hc List.not_mem_nil
  | symbol _ ih =>
    rcases List.mem_cons.1 hc with hc | hc
    · exact List.mem_cons.2 (.inl (Directive.symbol.inj hc))
    · exact List.mem_cons_of_mem _ (ih hc)
  | decimal hspace _ _ _ _ ih =>
    have hrest := ih ((List.mem_cons.1 hc).resolve_left nofun)
    exact (suffix_of_skipSpace hspace).subset (List.mem_append_right _ hrest)

/-- The numbers that are scanned are below the bound. -/
theorem Scans.lt {format : List Directive} {ns : List Nat} (h : Scans bound format s ns) :
    ∀ n ∈ ns, n < bound := by
  induction h with
  | nil s => exact fun n hn => absurd hn List.not_mem_nil
  | symbol _ ih => exact ih
  | decimal _ _ hlt _ _ ih => exact List.forall_mem_cons.2 ⟨hlt, ih⟩

/-! ## Texts that are written -/

/-- What is printed is written with the format. -/
theorem writes_sprintf {format : List Directive} {ns : List Nat}
    (hlength : ns.length = format.count .decimal) : Writes format (sprintf format ns) ns := by
  induction format generalizing ns with
  | nil =>
    obtain rfl := List.length_eq_zero_iff.1 hlength
    exact .nil
  | cons d format ih =>
    cases d with
    | symbol c =>
      rw [List.count_cons_of_ne (by simp)] at hlength
      exact .symbol (ih hlength)
    | decimal =>
      rw [List.count_cons_self] at hlength
      cases ns with
      | nil => cases hlength
      | cons n ns => exact .decimal (read_decimal n) (ih (Nat.succ.inj hlength))

/-- No digit is written first, where none can be printed first. -/
theorem Writes.not_isDigit {format : List Directive} {ns : List Nat} (h : Writes format s ns)
    (hdelimits : Delimits format) {t : List UInt8} (ht : ∀ c ∈ t.head?, ¬Radix.IsDigit 10 c) :
    ∀ c ∈ (s ++ t).head?, ¬Radix.IsDigit 10 c := by
  cases h with
  | nil => exact ht
  | symbol _ =>
    intro c hc
    cases hc
    exact hdelimits
  | decimal _ _ => exact hdelimits.elim

/-- What is written is scanned, whatever follows it, if the numbers are kept apart. -/
theorem Writes.scans {format : List Directive} {ns : List Nat} (h : Writes format s ns)
    (hseparated : Separated format) (hns : ∀ n ∈ ns, n < bound) {t : List UInt8}
    (ht : ∀ c ∈ t.head?, ¬Radix.IsDigit 10 c) : Scans bound format (s ++ t) ns := by
  induction h with
  | nil => exact .nil t
  | symbol _ ih => exact .symbol (ih hseparated hns)
  | @decimal format digits s n ns hread hwrites ih =>
    obtain ⟨hn, hns⟩ := List.forall_mem_cons.1 hns
    rw [List.append_assoc]
    exact .decimal (skipSpace_of_read hread _) hread hn
      (hwrites.not_isDigit hseparated.1 ht) (ih hseparated.2 hns)

theorem Writes.scans_self {format : List Directive} {ns : List Nat} (h : Writes format s ns)
    (hseparated : Separated format) (hns : ∀ n ∈ ns, n < bound) : Scans bound format s ns := by
  have hscans := h.scans hseparated hns (t := []) nofun
  rwa [List.append_nil] at hscans

/-- Numbers are scanned as they were printed, if they are kept apart. -/
theorem sscanf_sprintf {format : List Directive} (h : Separated format) {ns : List Nat}
    (hlength : ns.length = format.count .decimal) (hns : ∀ n ∈ ns, n < bound) :
    sscanf bound format (sprintf format ns) = some ns :=
  sscanf_eq_some_iff.2 ((writes_sprintf hlength).scans_self h hns)

/-! ## Fields -/

section

variable {sep : UInt8} {k : Nat} {ns : List Nat}

theorem count_of_read {digits : List UInt8} (hsep : ¬Radix.IsDigit 10 sep)
    (h : Radix.read 10 digits = some n) : digits.count sep = 0 :=
  List.count_eq_zero.2 fun hmem => hsep (Radix.isDigit_of_read h sep hmem)

/-- A text of fields has digits and the separators between them. -/
theorem Writes.plain (hsep : ¬Radix.IsDigit 10 sep) (h : Writes (fields sep k) s ns) :
    Plain sep k s := by
  induction k generalizing s ns with
  | zero =>
    cases h with
    | decimal hread hrest =>
      cases hrest
      rw [List.append_nil]
      exact ⟨fun c hc => .inl (Radix.isDigit_of_read hread c hc), count_of_read hsep hread⟩
  | succ k ih =>
    cases h with
    | decimal hread hrest =>
      cases hrest with
      | symbol hrest =>
        obtain ⟨hplain, hseps⟩ := ih hrest
        refine ⟨fun c hc => ?_, ?_⟩
        · rcases List.mem_append.1 hc with hc | hc
          · exact .inl (Radix.isDigit_of_read hread c hc)
          · exact (List.mem_cons.1 hc).elim .inr (hplain c)
        · rw [List.count_append, count_of_read hsep hread, List.count_cons_self, hseps,
            Nat.zero_add]

/-- A text of digits and separators that is scanned is written with the format. -/
theorem Scans.writes_of_plain (hsep : ¬Radix.IsDigit 10 sep)
    (hskip : ∀ s, skipSpace (sep :: s) = some (sep :: s)) (h : Scans bound (fields sep k) s ns)
    (hplain : Plain sep k s) : Writes (fields sep k) s ns := by
  obtain ⟨hplain, hcount⟩ := hplain
  -- there is no space to skip
  have hstays {s : List UInt8} (hplain : ∀ c ∈ s, Radix.IsDigit 10 c ∨ c = sep) :
      skipSpace s = some s := by
    cases s with
    | nil => rfl
    | cons c s =>
      rcases hplain c List.mem_cons_self with hc | rfl
      · exact skipSpace_of_isDigit hc
      · exact hskip s
  induction k generalizing s ns with
  | zero =>
    cases h with
    | @decimal _ _ digits t n _ hspace hread _ ht hrest =>
      cases hrest
      obtain rfl : s = digits ++ t := Option.some.inj ((hstays hplain).symm.trans hspace)
      -- what follows the number would begin with a separator
      have hnil : t = [] := by
        cases t with
        | nil => rfl
        | cons c t =>
          have hc := (hplain c (List.mem_append_right _ List.mem_cons_self)).resolve_left (ht c rfl)
          rw [hc, List.count_append, List.count_cons_self] at hcount
          exact absurd hcount (Nat.succ_ne_zero _)
      rw [hnil]
      exact .decimal hread .nil
  | succ k ih =>
    cases h with
    | @decimal _ _ digits t n _ hspace hread _ ht hrest =>
      obtain rfl : s = digits ++ t := Option.some.inj ((hstays hplain).symm.trans hspace)
      cases hrest with
      | symbol hrest =>
        rw [List.count_append, count_of_read hsep hread, List.count_cons_self,
          Nat.zero_add] at hcount
        refine .decimal hread (.symbol (ih hrest (fun c hc => ?_) (Nat.succ.inj hcount)))
        exact hplain c (List.mem_append_right _ (List.mem_cons_of_mem _ hc))

end

end Scan
