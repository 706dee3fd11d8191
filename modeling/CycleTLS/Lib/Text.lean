import Mathlib.Data.List.Infix

/-!
# Searching text

Substring tests against lists of keywords, on texts as lists of symbols
(characters, or bytes; `pat <:+: text` is the substring relation), and how
they behave when a text is put together from pieces:

* `hits_append_cons`: around a symbol no keyword contains, a keyword occurs
  in the whole text only if it occurs on one of the two sides;
* `hits_append`: the same at a seam that no keyword straddles (`Seamless`);
* `takeWhile_append_cons`: the piece before a symbol;
* `afterLast`: what stands after the last occurrence of a separator, and how it
  is found on the right of such a symbol.
-/

namespace Text

variable {α : Type*} [DecidableEq α]

/-! ## Keywords -/

/-- Some keyword of `pats` occurs in `text`. -/
def hits (pats : List (List α)) (text : List α) : Bool :=
  pats.any fun p => decide (p <:+: text)

theorem hits_iff {pats : List (List α)} {text : List α} :
    hits pats text = true ↔ ∃ p ∈ pats, p <:+: text := by
  simp [hits]

theorem hits_eq_false_iff {pats : List (List α)} {text : List α} :
    hits pats text = false ↔ ∀ p ∈ pats, ¬p <:+: text := by
  simp [hits]

/-- A keyword hits in every text that contains a hit text. -/
theorem hits_mono {pats : List (List α)} {s t : List α} (hst : s <:+: t)
    (h : hits pats s = true) : hits pats t = true := by
  obtain ⟨p, hp, hs⟩ := hits_iff.1 h
  exact hits_iff.2 ⟨p, hp, hs.trans hst⟩

/-- When every text with a keyword of `pats` has one of `pats'`. -/
theorem hits_of_imp {pats pats' : List (List α)} {s t : List α}
    (himp : ∀ p ∈ pats, p <:+: s → ∃ q ∈ pats', q <:+: t)
    (h : hits pats s = true) : hits pats' t = true := by
  obtain ⟨p, hp, hs⟩ := hits_iff.1 h
  exact hits_iff.2 (himp p hp hs)

theorem hits_eq_false_of_subset {pats pats' : List (List α)} {t : List α} (hsub : pats ⊆ pats')
    (h : hits pats' t = false) : hits pats t = false :=
  hits_eq_false_iff.2 fun p hp => hits_eq_false_iff.1 h p (hsub hp)

/-! ## Seams -/

omit [DecidableEq α] in
/-- An occurrence does not reach across a symbol it does not contain. -/
theorem infix_append_cons_iff {p a b : List α} {c : α} (hc : c ∉ p) :
    p <:+: a ++ c :: b ↔ p <:+: a ∨ p <:+: b := by
  rw [List.infix_append_iff_ne_nil]
  constructor
  · rintro (h | h | ⟨l₁, l₂, _, h₂, rfl, _, hl₂⟩)
    · exact .inl h
    · rcases List.infix_cons_iff.1 h with h | h
      · cases p with
        | nil => exact .inr (List.nil_infix)
        | cons d p =>
          -- The occurrence would start at `c`.
          obtain ⟨rfl, _⟩ := List.cons_prefix_cons.1 h
          exact absurd List.mem_cons_self hc
      · exact .inr h
    · cases l₂ with
      | nil => exact absurd rfl h₂
      | cons d l₂ =>
        obtain ⟨rfl, _⟩ := List.cons_prefix_cons.1 hl₂
        exact absurd (List.mem_append_right _ List.mem_cons_self) hc
  · rintro (h | h)
    · exact .inl h
    · exact .inr (.inl (List.infix_cons h))

theorem hits_append_cons {pats : List (List α)} {a b : List α} {c : α}
    (hc : ∀ p ∈ pats, c ∉ p) :
    hits pats (a ++ c :: b) = (hits pats a || hits pats b) := by
  rw [Bool.eq_iff_iff, Bool.or_eq_true, hits_iff, hits_iff, hits_iff]
  constructor
  · rintro ⟨p, hp, h⟩
    exact ((infix_append_cons_iff (hc p hp)).1 h).imp (fun h => ⟨p, hp, h⟩) fun h => ⟨p, hp, h⟩
  · rintro (⟨p, hp, h⟩ | ⟨p, hp, h⟩)
    · exact ⟨p, hp, (infix_append_cons_iff (hc p hp)).2 (.inl h)⟩
    · exact ⟨p, hp, (infix_append_cons_iff (hc p hp)).2 (.inr h)⟩

/-- A symbol no keyword starts with can be dropped from the front. -/
theorem hits_cons {pats : List (List α)} {c : α} (hc : ∀ p ∈ pats, p.head? ≠ some c)
    (t : List α) : hits pats (c :: t) = hits pats t := by
  rw [Bool.eq_iff_iff, hits_iff, hits_iff]
  refine exists_congr fun p => and_congr_right fun hp => ⟨fun h => ?_, List.infix_cons⟩
  rcases List.infix_cons_iff.1 h with h | h
  · cases p with
    | nil => exact List.nil_infix
    | cons d p => exact absurd (congrArg some (List.cons_prefix_cons.1 h).1) (hc _ hp)
  · exact h

/-- A symbol no keyword ends in can be dropped from the end. -/
theorem hits_concat {pats : List (List α)} {c : α} (hc : ∀ p ∈ pats, p.getLast? ≠ some c)
    (t : List α) : hits pats (t ++ [c]) = hits pats t := by
  rw [Bool.eq_iff_iff, hits_iff, hits_iff]
  refine exists_congr fun p => and_congr_right fun hp =>
    ⟨fun h => ?_, List.infix_append_of_infix_left⟩
  rcases List.infix_concat_iff.1 h with h | h
  · rcases List.suffix_concat_iff.1 h with rfl | ⟨r, rfl, _⟩
    · exact List.nil_infix
    · exact absurd List.getLast?_concat (hc _ hp)
  · exact h

/-- No keyword starts in `a` and reaches out of it: none of its proper
    beginnings ends `a`. -/
def Seamless (pats : List (List α)) (a : List α) : Prop :=
  ∀ p ∈ pats, ∀ n < p.length, n = 0 ∨ ¬p.take n <:+ a

instance (pats : List (List α)) (a : List α) : Decidable (Seamless pats a) :=
  inferInstanceAs (Decidable (∀ p ∈ pats, ∀ n < p.length, n = 0 ∨ ¬p.take n <:+ a))

omit [DecidableEq α] in
theorem Seamless.mono {pats pats' : List (List α)} {a : List α} (hsub : pats ⊆ pats')
    (h : Seamless pats' a) : Seamless pats a :=
  fun p hp => h p (hsub hp)

omit [DecidableEq α] in
/-- A text without the first symbols of the keywords neither contains one nor
    starts one at its end. -/
theorem seamless_of_heads {pats : List (List α)} {a : List α}
    (h : ∀ p ∈ pats, ∀ c ∈ p.head?, c ∉ a) : Seamless pats a := by
  intro p hp n hn
  refine or_iff_not_imp_left.2 fun h0 hsuffix => ?_
  have hne : _ ≠ [] := List.ne_nil_of_length_pos (Nat.zero_lt_of_lt hn)
  obtain ⟨c, p, rfl⟩ := List.exists_cons_of_ne_nil hne
  obtain ⟨n, rfl⟩ := Nat.exists_eq_succ_of_ne_zero h0
  rw [List.take_succ_cons] at hsuffix
  exact h _ hp c rfl (hsuffix.subset List.mem_cons_self)

theorem hits_append {pats : List (List α)} {a : List α} (ha : Seamless pats a) (b : List α) :
    hits pats (a ++ b) = (hits pats a || hits pats b) := by
  rw [Bool.eq_iff_iff, Bool.or_eq_true, hits_iff, hits_iff, hits_iff]
  constructor
  · rintro ⟨p, hp, h⟩
    rcases List.infix_append_iff_ne_nil.1 h with h | h | ⟨l₁, l₂, h₁, h₂, hl, hs, _⟩
    · exact .inl ⟨p, hp, h⟩
    · exact .inr ⟨p, hp, h⟩
    · -- an occurrence over the seam would be cut in two parts, both nonempty
      have hlen : l₁.length < p.length := by
        rw [hl, List.length_append]
        have := List.length_pos_iff.2 h₂
        omega
      have htake : p.take l₁.length = l₁ := by rw [hl, List.take_left]
      rcases ha p hp l₁.length hlen with h0 | hne
      · exact absurd (List.length_eq_zero_iff.1 h0) h₁
      · exact absurd hs (htake ▸ hne)
  · rintro (⟨p, hp, h⟩ | ⟨p, hp, h⟩)
    · exact ⟨p, hp, List.infix_append_of_infix_left h⟩
    · exact ⟨p, hp, List.infix_append_of_infix_right h⟩

/-! ## The first piece -/

omit [DecidableEq α] in
theorem takeWhile_append_cons {q : α → Bool} {l : List α} (h : ∀ a ∈ l, q a = true) {b : α}
    (hb : q b = false) (r : List α) : (l ++ b :: r).takeWhile q = l := by
  rw [List.takeWhile_append_of_pos h, List.takeWhile_cons_of_neg (Bool.eq_false_iff.1 hb),
    List.append_nil]

omit [DecidableEq α] in
theorem dropWhile_append_cons {q : α → Bool} {l : List α} (h : ∀ a ∈ l, q a = true) {b : α}
    (hb : q b = false) (r : List α) : (l ++ b :: r).dropWhile q = b :: r := by
  rw [List.dropWhile_append_of_pos h, List.dropWhile_cons_of_neg (Bool.eq_false_iff.1 hb)]

/-! ## The last piece -/

/-- What stands in `text` after the last occurrence of `sep`; the whole text
    when there is none. -/
def afterLast (sep : List α) : List α → List α
  | [] => []
  | c :: text =>
    if sep <:+: text then afterLast sep text
    else if sep <+: c :: text then (c :: text).drop sep.length
    else c :: text

theorem afterLast_of_not_infix {sep text : List α} (h : ¬sep <:+: text) :
    afterLast sep text = text := by
  cases text with
  | nil => rfl
  | cons c text =>
    rw [afterLast, if_neg fun h' => h (List.infix_cons h'), if_neg fun h' => h h'.isInfix]

omit [DecidableEq α] in
/-- A beginning of a text that avoids the symbol `c` ends before it. -/
theorem prefix_append_cons_iff {p a b : List α} {c : α} (hc : c ∉ p) :
    p <+: a ++ c :: b ↔ p <+: a := by
  refine ⟨fun h => ?_, fun h => h.trans (List.prefix_append _ _)⟩
  rcases Nat.le_total p.length a.length with hle | hle
  · exact List.prefix_of_prefix_length_le h (List.prefix_append _ _) hle
  · obtain ⟨r, rfl⟩ := List.prefix_of_prefix_length_le (List.prefix_append a (c :: b)) h hle
    cases r with
    | nil => simp
    | cons d r =>
      obtain ⟨rfl, _⟩ := List.cons_prefix_cons.1 ((List.prefix_append_right_inj a).1 h)
      exact absurd (List.mem_append_right _ List.mem_cons_self) hc

/-- On the right of a symbol that `sep` does not contain: the last piece is
    that of the right side, or still starts on the left of it. -/
theorem afterLast_append_cons {sep : List α} {c : α} (hc : c ∉ sep) (a b : List α) :
    afterLast sep (a ++ c :: b) =
      if sep <:+: b then afterLast sep b else afterLast sep a ++ c :: b := by
  induction a with
  | nil =>
    by_cases hb : sep <:+: b
    · rw [if_pos hb, List.nil_append, afterLast, if_pos hb]
    · have hp : ¬sep <+: c :: b := fun h => by
        rw [List.prefix_nil.1 ((prefix_append_cons_iff (a := []) hc).1 h)] at hb
        exact hb List.nil_infix
      rw [if_neg hb, List.nil_append, afterLast_of_not_infix]
      · rfl
      · exact fun h => (List.infix_cons_iff.1 h).elim hp hb
  | cons d a ih =>
    by_cases hb : sep <:+: b
    · have hab : sep <:+: a ++ c :: b := (infix_append_cons_iff hc).2 (.inr hb)
      rw [List.cons_append, afterLast, if_pos hab, ih, if_pos hb, if_pos hb]
    by_cases ha : sep <:+: a
    · have hab : sep <:+: a ++ c :: b := (infix_append_cons_iff hc).2 (.inl ha)
      rw [List.cons_append, afterLast, if_pos hab, ih, if_neg hb, if_neg hb, afterLast, if_pos ha]
    · have hab : ¬sep <:+: a ++ c :: b := fun h => ((infix_append_cons_iff hc).1 h).elim ha hb
      rw [if_neg hb, List.cons_append, afterLast, afterLast, if_neg hab, if_neg ha]
      -- No later separator: it is at the front of `d :: a`, or nowhere.
      by_cases hp : sep <+: d :: a
      · have hp' : sep <+: d :: (a ++ c :: b) := hp.trans (List.prefix_append (d :: a) (c :: b))
        rw [if_pos hp', if_pos hp, ← List.cons_append, List.drop_append_of_le_length hp.length_le]
      · have hp' : ¬sep <+: d :: (a ++ c :: b) := fun h =>
        hp ((prefix_append_cons_iff (a := d :: a) hc).1 h)
        rw [if_neg hp', if_neg hp, List.cons_append]

end Text
