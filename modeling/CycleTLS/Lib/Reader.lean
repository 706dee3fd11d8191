import Mathlib.Data.List.Basic

/-!
# Readers

A reader gives, for a buffer of some size, at most that many elements, and maybe how the content
ends. How it divides its content into reads is left open (`Delivers`). The content that is read as
a whole is all of it, however large the buffers are (`readAll_of_delivers`), and a reader that is
limited delivers the beginning of the content (`Delivers.limit`).
-/

namespace Reader

variable {σ α E : Type*}

/-- How a content ends. -/
inductive End (E : Type*)
  | eof
  | failed (e : E)

/-- The error of an end, which the end of a file is not. -/
def End.error : End E → Option E
  | eof => none
  | failed e => some e

/-- What a read into a buffer of some size gives, and what is left. -/
abbrev Read (σ α E : Type*) := σ → Nat → (List α × Option (End E)) × σ

variable (read : Read σ α E)

/-- A read is one of a content, with what is left of the content in `R`: it fits into the buffer,
    and it is not empty unless it ends the content. -/
structure Reads (R : σ → List α → Prop) (Ends : End E → Prop) (size : Nat) (s : σ)
    (content : List α) : Prop where
  fits : (read s size).1.1.length ≤ size
  ends : ∀ e, (read s size).1.2 = some e → Ends e ∧ content = (read s size).1.1
  goesOn : (read s size).1.2 = none →
    (read s size).1.1 ≠ [] ∧ ∃ rest, content = (read s size).1.1 ++ rest ∧ R (read s size).2 rest

/-- A reader gives a content, and then one of some ends. -/
def Delivers (Ends : End E → Prop) (s : σ) (content : List α) : Prop :=
  ∃ R : σ → List α → Prop, R s content ∧
    ∀ s content size, R s content → 0 < size → Reads read R Ends size s content

/-- A reader that ends behind a number of elements. -/
def limit : Read (σ × Nat) α E := fun s size =>
  if s.2 = 0 then (([], some .eof), s)
  else
    let r := read s.1 (min size s.2)
    (r.1, (r.2, s.2 - r.1.1.length))

/-- The content that is read into a buffer that grows when it is full. -/
def readAll (grow : Nat → Nat) : Nat → σ → Nat → List α → Option (List α × Option E)
  | 0, _, _, _ => none
  | fuel + 1, s, capacity, out =>
    let r := read s (capacity - out.length)
    let out := out ++ r.1.1
    match r.1.2 with
    | some e => some (out, e.error)
    | none => readAll grow fuel r.2 (if out.length = capacity then grow capacity else capacity) out

variable {read} {Ends : End E → Prop} {s : σ} {content : List α}

/-- A reader with a limit delivers what is within it, and ends there at the latest. -/
theorem Delivers.limit (h : Delivers read Ends s content) (n : Nat) :
    Delivers (limit read) (fun e => content.length ≤ n ∧ Ends e ∨ n ≤ content.length ∧ e = .eof)
      (s, n) (content.take n) := by
  obtain ⟨R, hs, hstep⟩ := h
  -- what was read and what is left of the content are the content, also for what is left of `n`
  refine ⟨fun s' y => ∃ before rest, R s'.1 rest ∧ content = before ++ rest ∧
    before.length + s'.2 = n ∧ y = rest.take s'.2, ⟨[], content, hs, rfl, Nat.zero_add n, rfl⟩, ?_⟩
  rintro ⟨s, left⟩ y size ⟨before, rest, hrest, rfl, rfl, rfl⟩ hsize
  by_cases hleft : left = 0
  · subst hleft
    refine ⟨Nat.zero_le _, fun e he => ?_, fun he => by cases he⟩
    obtain rfl := Option.some.inj he
    exact ⟨.inr ⟨by rw [List.length_append]; exact Nat.le_add_right _ _, rfl⟩, rfl⟩
  · have hpos := Nat.pos_of_ne_zero hleft
    obtain ⟨hfits, hends, hgoesOn⟩ :=
      hstep s rest (min size left) hrest (Nat.lt_min.2 ⟨hsize, hpos⟩)
    have hread : limit read (s, left) size = ((read s (min size left)).1,
        ((read s (min size left)).2, left - (read s (min size left)).1.1.length)) := if_neg hleft
    have hfitsLeft := Nat.le_trans hfits (Nat.min_le_right _ _)
    refine ⟨?_, fun e he => ?_, fun he => ?_⟩
    · rw [hread]
      exact Nat.le_trans hfits (Nat.min_le_left _ _)
    · rw [hread] at he ⊢
      obtain ⟨hend, heq⟩ := hends e he
      rw [← heq] at hfitsLeft ⊢
      refine ⟨.inl ⟨?_, hend⟩, List.take_of_length_le hfitsLeft⟩
      rw [List.length_append]
      exact Nat.add_le_add_left hfitsLeft _
    · rw [hread] at he ⊢
      obtain ⟨hne, rest', heq, hrest'⟩ := hgoesOn he
      refine ⟨hne, rest'.take (left - (read s (min size left)).1.1.length), ?_,
        before ++ (read s (min size left)).1.1, rest', hrest', ?_, ?_, rfl⟩
      · rw [heq, List.take_append, List.take_of_length_le hfitsLeft]
      · rw [List.append_assoc, ← heq]
      · rw [List.length_append, Nat.add_assoc, Nat.add_sub_cancel' hfitsLeft]

/-- All of the content is read, and the end is one of the reader. -/
theorem readAll_of_delivers {grow : Nat → Nat} (hgrow : ∀ n, n < grow n)
    (h : Delivers read Ends s content) {fuel capacity : Nat} {out : List α}
    (hcapacity : out.length < capacity) (hfuel : content.length < fuel) :
    ∃ e, Ends e ∧ readAll read grow fuel s capacity out = some (out ++ content, e.error) := by
  obtain ⟨R, hs, hstep⟩ := h
  -- by the fuel: a read that does not end the content leaves less of it
  induction fuel generalizing s content capacity out with
  | zero => exact absurd hfuel (Nat.not_lt_zero _)
  | succ fuel ih =>
    obtain ⟨hfits, hends, hgoesOn⟩ := hstep s content _ hs (Nat.sub_pos_of_lt hcapacity)
    rw [readAll]
    cases he : (read s (capacity - out.length)).1.2 with
    | some e =>
      obtain ⟨hend, heq⟩ := hends e he
      exact ⟨e, hend, by rw [heq]⟩
    | none =>
      obtain ⟨hne, rest, heq, hrest⟩ := hgoesOn he
      have hlength : rest.length < fuel := by
        rw [heq, List.length_append] at hfuel
        have := List.length_pos_of_ne_nil hne
        omega
      have hroom : (out ++ (read s (capacity - out.length)).1.1).length <
          if (out ++ (read s (capacity - out.length)).1.1).length = capacity then grow capacity
          else capacity := by
        split_ifs with hfull
        · rw [hfull]
          exact hgrow _
        · rw [List.length_append] at hfull ⊢
          omega
      obtain ⟨e, hend, hall⟩ := ih hroom hlength hrest
      refine ⟨e, hend, hall.trans ?_⟩
      rw [List.append_assoc, ← heq]

end Reader
