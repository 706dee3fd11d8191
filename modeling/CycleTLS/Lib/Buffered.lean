import Mathlib.Data.List.Basic

/-!
# Buffered readers

What a connection delivers comes in reads of any length. A buffered reader takes a line out of its
buffer, which ends at a separator, and reads on as long as there is no separator in it
(`readLine`). So it reads a text line by line, up to a last one (`readLines`), however the text is
divided into reads. What follows the text in the same read stays in the buffer: the buffer ends up
empty exactly if some read ends where the text does (`buffered_eq_nil_iff`).
-/

namespace Buffered

variable {α : Type*}

/-- A reader: what is in its buffer, and the reads to come. -/
structure Reader (α : Type*) where
  buffered : List α
  reads : List (List α)

namespace Reader

/-- All that is still to be consumed. -/
def rest (r : Reader α) : List α := r.buffered ++ r.reads.flatten

/-- A reader with more reads to come. -/
def andThen (r : Reader α) (reads : List (List α)) : Reader α := ⟨r.buffered, r.reads ++ reads⟩

end Reader

section

variable [DecidableEq α] (sep : α)

/-- What is before the first `sep`, and what is after it. -/
def cut : List α → Option (List α × List α)
  | [] => none
  | c :: s => if c = sep then some ([], s) else (cut s).map fun p => (c :: p.1, p.2)

/-- A line without its separator, and the reader after it. -/
def readLine (buffered : List α) : List (List α) → Option (List α × Reader α)
  | [] => (cut sep buffered).map fun p => (p.1, ⟨p.2, []⟩)
  | read :: reads =>
    match cut sep buffered with
    | some (line, rest) => some (line, ⟨rest, read :: reads⟩)
    | none => readLine (buffered ++ read) reads

variable {sep}

theorem cut_append {line : List α} (h : sep ∉ line) (rest : List α) :
    cut sep (line ++ sep :: rest) = some (line, rest) := by
  induction line with
  | nil => exact if_pos rfl
  | cons c line ih =>
    rw [List.mem_cons, not_or] at h
    rw [List.cons_append, cut, if_neg (Ne.symm h.1), ih h.2, Option.map_some]

theorem eq_append_of_cut {s line rest : List α} (h : cut sep s = some (line, rest)) :
    s = line ++ sep :: rest ∧ sep ∉ line := by
  induction s generalizing line with
  | nil => cases h
  | cons c s ih =>
    rw [cut] at h
    split_ifs at h with hc
    · cases h
      exact ⟨congrArg (· :: rest) hc, List.not_mem_nil⟩
    · obtain ⟨⟨line', rest'⟩, hcut, hp⟩ := Option.map_eq_some_iff.1 h
      cases hp
      obtain ⟨hs, hline⟩ := ih hcut
      exact ⟨congrArg (c :: ·) hs, by simp [hline, Ne.symm hc]⟩

/-! ## Lines -/

/-- A line is what is before the first separator, and nothing that follows is lost. -/
theorem readLine_append {line : List α} (hline : sep ∉ line) {t : List α} :
    ∀ {buffered : List α} {reads : List (List α)},
      buffered ++ reads.flatten = line ++ sep :: t →
        ∃ r, readLine sep buffered reads = some (line, r) ∧ r.rest = t ∧ r.reads <:+ reads := by
  intro buffered reads h
  induction reads generalizing buffered with
  | nil =>
    rw [List.flatten_nil, List.append_nil] at h
    exact ⟨⟨t, []⟩, by rw [readLine, h, cut_append hline, Option.map_some],
      by rw [Reader.rest, List.flatten_nil, List.append_nil], List.suffix_rfl⟩
  | cons read reads ih =>
    rw [readLine]
    cases hcut : cut sep buffered with
    | some p =>
      obtain ⟨line', rest⟩ := p
      obtain ⟨rfl, hline'⟩ := eq_append_of_cut hcut
      -- the first separator is in the buffer, so it is the one of the line
      have hwhole : cut sep (line' ++ sep :: (rest ++ (read :: reads).flatten)) =
          some (line, t) := by
        rw [← List.cons_append, ← List.append_assoc, h, cut_append hline]
      rw [cut_append hline'] at hwhole
      cases hwhole
      exact ⟨⟨rest, read :: reads⟩, rfl, rfl, List.suffix_rfl⟩
    | none =>
      rw [List.flatten_cons, ← List.append_assoc] at h
      obtain ⟨r, hr, hrest, hsuffix⟩ := ih h
      exact ⟨r, hr, hrest, hsuffix.trans (List.suffix_cons read reads)⟩

/-- A line that was read is what was before the first separator. -/
theorem eq_append_of_readLine {buffered line : List α} {reads : List (List α)} {r : Reader α}
    (h : readLine sep buffered reads = some (line, r)) :
    buffered ++ reads.flatten = line ++ sep :: r.rest ∧ sep ∉ line := by
  induction reads generalizing buffered with
  | nil =>
    obtain ⟨⟨line', rest⟩, hcut, hp⟩ := Option.map_eq_some_iff.1 h
    cases hp
    simpa [Reader.rest] using eq_append_of_cut hcut
  | cons read reads ih =>
    rw [readLine] at h
    cases hcut : cut sep buffered with
    | some p =>
      obtain ⟨line', rest⟩ := p
      rw [hcut] at h
      cases h
      obtain ⟨rfl, hline⟩ := eq_append_of_cut hcut
      exact ⟨by simp [Reader.rest], hline⟩
    | none =>
      rw [hcut] at h
      rw [List.flatten_cons, ← List.append_assoc]
      exact ih h

/-- The reads after those for a line do not matter for it. -/
theorem readLine_andThen {buffered line : List α} {reads : List (List α)} {r : Reader α}
    (h : readLine sep buffered reads = some (line, r)) (more : List (List α)) :
    readLine sep buffered (reads ++ more) = some (line, r.andThen more) := by
  induction reads generalizing buffered with
  | nil =>
    obtain ⟨⟨line', rest⟩, hcut, hp⟩ := Option.map_eq_some_iff.1 h
    cases hp
    cases more with
    | nil => rw [List.append_nil, readLine, hcut]; rfl
    | cons read more => rw [List.nil_append, readLine, hcut]; rfl
  | cons read reads ih =>
    rw [readLine] at h
    rw [List.cons_append, readLine]
    cases hcut : cut sep buffered with
    | some p =>
      rw [hcut] at h
      cases h
      rfl
    | none =>
      rw [hcut] at h
      exact ih h

/-! ## Texts of several lines -/

variable (sep) in
/-- The lines of a text up to a last one, without that, and the reader after it. -/
def readLines (isLast : List α → Bool) (r : Reader α) : Option (List (List α) × Reader α) :=
  match _hline : readLine sep r.buffered r.reads with
  | none => none
  | some (line, r') =>
    if isLast line then some ([], r')
    else (readLines isLast r').map fun p => (line :: p.1, p.2)
termination_by r.rest.length
decreasing_by
  rw [show r.rest = _ from (eq_append_of_readLine _hline).1, List.length_append,
    List.length_cons]
  omega

/-- A text of lines that ends with a last one. -/
structure Block (sep : α) (isLast : List α → Bool) where
  lines : List (List α)
  last : List α
  separated : ∀ line ∈ lines, sep ∉ line ∧ isLast line = false
  ends : sep ∉ last ∧ isLast last = true

variable {isLast : List α → Bool}

/-- The text, with its separators. -/
def Block.text (b : Block sep isLast) : List α :=
  b.lines.flatMap (· ++ [sep]) ++ (b.last ++ [sep])

theorem readLines_of_last {r r' : Reader α} {line : List α}
    (h : readLine sep r.buffered r.reads = some (line, r')) (hlast : isLast line = true) :
    readLines sep isLast r = some ([], r') := by
  rw [readLines]
  split
  · next hnone => exact nomatch hnone.symm.trans h
  · next hsome =>
    cases hsome.symm.trans h
    exact if_pos hlast

theorem readLines_of_not_last {r r' : Reader α} {line : List α}
    (h : readLine sep r.buffered r.reads = some (line, r')) (hlast : isLast line = false) :
    readLines sep isLast r = (readLines sep isLast r').map fun p => (line :: p.1, p.2) := by
  rw [readLines]
  split
  · next hnone => exact nomatch hnone.symm.trans h
  · next hsome =>
    cases hsome.symm.trans h
    exact if_neg (by rw [hlast]; exact Bool.false_ne_true)

/-- A text is read with its last line, and nothing that follows is lost. -/
theorem readLines_text (b : Block sep isLast) {t : List α} {r : Reader α}
    (h : r.rest = b.text ++ t) :
    ∃ r', readLines sep isLast r = some (b.lines, r') ∧ r'.rest = t ∧ r'.reads <:+ r.reads := by
  obtain ⟨lines, last, hlines, hsep, hlast⟩ := b
  induction lines generalizing r with
  | nil =>
    obtain ⟨r', hr', hrest, hsuffix⟩ := readLine_append hsep
      (t := t) (h.trans (by simp [Block.text]))
    exact ⟨r', readLines_of_last hr' hlast, hrest, hsuffix⟩
  | cons line lines ih =>
    obtain ⟨⟨hline, hnotLast⟩, hlines'⟩ := List.forall_mem_cons.1 hlines
    obtain ⟨r₁, hr₁, hrest₁, hsuffix₁⟩ := readLine_append hline
      (t := (Block.mk lines last hlines' ⟨hsep, hlast⟩).text ++ t) (h.trans (by simp [Block.text]))
    obtain ⟨r', hr', hrest, hsuffix⟩ := ih hlines' hrest₁
    refine ⟨r', ?_, hrest, hsuffix.trans hsuffix₁⟩
    rw [readLines_of_not_last hr₁ hnotLast, hr', Option.map_some]

/-- The reads after those for a text do not matter for it. -/
theorem readLines_andThen {lines : List (List α)} {r r' : Reader α}
    (h : readLines sep isLast r = some (lines, r')) (more : List (List α)) :
    readLines sep isLast (r.andThen more) = some (lines, r'.andThen more) := by
  induction r using readLines.induct sep isLast generalizing lines with
  | case1 r hnone =>
    rw [readLines] at h
    split at h
    · cases h
    · next hsome => exact nomatch hnone.symm.trans hsome
  | case2 r line r₁ hr₁ hlast =>
    rw [readLines_of_last hr₁ hlast] at h
    cases h
    exact readLines_of_last (readLine_andThen hr₁ more) hlast
  | case3 r line r₁ hr₁ hlast ih =>
    have hnotLast : isLast line = false := Bool.eq_false_iff.2 hlast
    rw [readLines_of_not_last hr₁ hnotLast] at h
    obtain ⟨⟨lines', r₂⟩, hrest, hp⟩ := Option.map_eq_some_iff.1 h
    cases hp
    rw [readLines_of_not_last (r := r.andThen more) (readLine_andThen hr₁ more) hnotLast, ih hrest,
      Option.map_some]

/-- The buffer ends up empty exactly if a read ends where the text does. -/
theorem buffered_eq_nil_iff (b : Block sep isLast) {t : List α} {reads : List (List α)}
    (h : reads.flatten = b.text ++ t) {r : Reader α}
    (hr : readLines sep isLast ⟨[], reads⟩ = some (b.lines, r)) :
    r.buffered = [] ↔ ∃ k, (reads.take k).flatten = b.text := by
  obtain ⟨r', hr', hrest, pulled, hpulled⟩ := readLines_text b (r := ⟨[], reads⟩) h
  cases hr.symm.trans hr'
  constructor
  · intro hempty
    rw [Reader.rest, hempty, List.nil_append] at hrest
    have htake : (reads.take pulled.length).flatten ++ t = b.text ++ t := by
      rw [← h, ← hrest, ← List.flatten_append, ← show pulled ++ r.reads = reads from hpulled,
        List.take_left]
    exact ⟨pulled.length, List.append_cancel_right htake⟩
  · rintro ⟨k, hk⟩
    -- the reads up to there are as good as all of them
    obtain ⟨r₁, hr₁, hrest₁, -⟩ := readLines_text b (t := []) (r := ⟨[], reads.take k⟩)
      (hk.trans (List.append_nil _).symm)
    have hmore := readLines_andThen hr₁ (reads.drop k)
    rw [Reader.andThen, List.take_append_drop] at hmore
    cases hr.symm.trans hmore
    exact (List.append_eq_nil_iff.1 hrest₁).1

end

end Buffered
