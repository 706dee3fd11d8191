import CycleTLS.Lib.Raising
import CycleTLS.Lib.Text
import CycleTLS.Lib.Utf8
import Mathlib.Data.List.TakeWhile

/-!
# Multipart bodies

Parts of a form in one body: each part begins with a line of its own with the boundary, and has
lines of headers, an empty line and a content. The name and the file name of a part are strings
in quotes in one of the headers. Reading is strict: a header has no line break inside, and in
quotes a backslash stands before a character that is meant as it is.

What is written of parts falls into these parts if no header has a line break and no content a
line with the boundary (`parse_write`). A name is read back from its quotes exactly if it has
neither quotes nor backslashes (`readQuoted_iff`). Nothing that is read of a header has a
line break (`unbroken_of_parse`).
-/

namespace Multipart

def cr : UInt8 := 0x0d
def lf : UInt8 := 0x0a
def quote : UInt8 := 0x22
def backslash : UInt8 := 0x5c
def colon : UInt8 := 0x3a
def dash : UInt8 := 0x2d

/-- A part of a form. Its headers are those besides `Content-Disposition`. -/
structure Part where
  name : List UInt8
  filename : Option (List UInt8)
  headers : List (List UInt8 × List UInt8)
  content : List UInt8

/-- The line that a part begins with. -/
def delimiter (boundary : List UInt8) : List UInt8 := dash :: dash :: boundary

/-- The line behind the last part. -/
def closing (boundary : List UInt8) : List UInt8 := delimiter boundary ++ [dash, dash]

/-- A text without line breaks. -/
def IsLine (s : List UInt8) : Prop := cr ∉ s ∧ lf ∉ s

instance (s : List UInt8) : Decidable (IsLine s) := inferInstanceAs (Decidable (_ ∧ _))

/-! ## Reading -/

/-- The lines of a text. -/
def lines : List UInt8 → List (List UInt8)
  | 0x0d :: 0x0a :: s => [] :: lines s
  | c :: s => (lines s).modifyHead (c :: ·)
  | [] => [[]]

/-- A string up to the quotes that end it, and what follows them. -/
def readQuoted : List UInt8 → Option (List UInt8 × List UInt8)
  | 0x22 :: s => some ([], s)
  | 0x5c :: c :: s => (readQuoted s).map fun r => (c :: r.1, r.2)
  | c :: s => (readQuoted s).map fun r => (c :: r.1, r.2)
  | [] => none

def beforeName : List UInt8 := Utf8.utf8 "form-data; name=\""

def beforeFilename : List UInt8 := Utf8.utf8 "; filename=\""

/-- The file name behind a name, if there is one. -/
def readFilename (s : List UInt8) : Option (Option (List UInt8)) :=
  if s = [] then some none
  else do
    let (filename, s) ← readQuoted (← s.dropPrefix? beforeFilename)
    if s = [] then return some filename else none

/-- The name and the file name in a `Content-Disposition`. -/
def readDisposition (value : List UInt8) : Option (List UInt8 × Option (List UInt8)) := do
  let (name, s) ← readQuoted (← value.dropPrefix? beforeName)
  return (name, ← readFilename s)

/-- The name and the value of a header. -/
def readHeader (line : List UInt8) : Option (List UInt8 × List UInt8) :=
  if IsLine line then
    ((line.dropWhile (· ≠ colon)).dropPrefix? [colon, 0x20]).map
      (line.takeWhile (· ≠ colon), ·)
  else none

def toLower (c : UInt8) : UInt8 := if 0x41 ≤ c ∧ c ≤ 0x5a then c + 0x20 else c

/-- A header is the `Content-Disposition`. -/
def isDisposition (h : List UInt8 × List UInt8) : Bool :=
  h.1.map toLower = Utf8.utf8 "content-disposition"

/-- The part that lines are, of which the first empty one ends the headers. -/
def readPart (ls : List (List UInt8)) : Option Part :=
  match ls.dropWhile (· ≠ []) with
  | [] => none
  | _ :: content => do
    let headers ← (ls.takeWhile (· ≠ [])).mapM readHeader
    match headers.filter isDisposition with
    | [h] =>
      let (name, filename) ← readDisposition h.2
      return ⟨name, filename, headers.filter (!isDisposition ·), [cr, lf].intercalate content⟩
    | _ => none

/-- The parts of a body, which begins with a delimiter. -/
def parse (boundary body : List UInt8) : Option (List Part) :=
  let ls := lines body
  if ls.contains (closing boundary) then
    match (ls.takeWhile (· ≠ closing boundary)).splitOn (delimiter boundary) with
    | [] :: sections => sections.mapM readPart
    | _ => none
  else none

/-! ## Writing -/

/-- The value of the `Content-Disposition` of a part. -/
def disposition (name : List UInt8) (filename : Option (List UInt8)) : List UInt8 :=
  beforeName ++ name ++ quote ::
    match filename with
    | none => []
    | some filename => beforeFilename ++ filename ++ [quote]

def writeHeader (h : List UInt8 × List UInt8) : List UInt8 := h.1 ++ colon :: 0x20 :: h.2

/-- The lines of the headers of a part. -/
def Part.headerLines (p : Part) : List (List UInt8) :=
  ((Utf8.utf8 "Content-Disposition", disposition p.name p.filename) :: p.headers).map writeHeader

/-- A line as it is written. -/
def writeLine (line : List UInt8) : List UInt8 := line ++ [cr, lf]

def Part.write (boundary : List UInt8) (p : Part) : List UInt8 :=
  (delimiter boundary :: p.headerLines).flatMap writeLine ++ writeLine [] ++ writeLine p.content

/-- The body of some parts. -/
def write (boundary : List UInt8) (parts : List Part) : List UInt8 :=
  parts.flatMap (Part.write boundary) ++ writeLine (closing boundary)

/-! ## Lines -/

theorem lines_ne_nil (s : List UInt8) : lines s ≠ [] := by
  induction s using lines.induct with
  | case1 s ih => exact List.cons_ne_nil _ _
  | case2 c s _ ih =>
    rw [lines]
    · exact fun h => ih (List.modifyHead_eq_nil_iff.1 h)
    · assumption
  | case3 => exact List.cons_ne_nil _ _

/-- A line break ends a line, whatever stands around it. -/
theorem lines_append (s t : List UInt8) : lines (s ++ cr :: lf :: t) = lines s ++ lines t := by
  induction s using lines.induct with
  | case1 s ih =>
    rw [List.cons_append, List.cons_append, lines, lines, ih, List.cons_append]
  | case2 c s hc ih =>
    have hc' : ∀ s', c = 0x0d → s ++ cr :: lf :: t = 0x0a :: s' → False := by
      intro s' hcr hlf
      cases s with
      | nil => exact absurd (List.cons.inj hlf).1 (by decide)
      | cons d s => exact hc s hcr (congrArg (· :: s) (List.cons.inj hlf).1)
    obtain ⟨l, ls, hls⟩ := List.exists_cons_of_ne_nil (lines_ne_nil s)
    rw [List.cons_append, lines.eq_2 _ _ hc', lines.eq_2 _ _ hc, ih, hls, List.cons_append,
      List.modifyHead_cons, List.modifyHead_cons, List.cons_append]
  | case3 => rfl

theorem lines_of_notMem {s : List UInt8} (h : cr ∉ s) : lines s = [s] := by
  induction s with
  | nil => rfl
  | cons c s ih =>
    obtain ⟨hc, hs⟩ := not_or.1 (List.mem_cons.not.1 h)
    rw [lines.eq_2 _ _ fun _ hcr _ => hc hcr.symm, ih hs, List.modifyHead_cons]

theorem writeLine_append (line t : List UInt8) : writeLine line ++ t = line ++ cr :: lf :: t := by
  rw [writeLine, List.append_assoc]
  rfl

theorem lines_writeLine (line t : List UInt8) (h : cr ∉ line) :
    lines (writeLine line ++ t) = line :: lines t := by
  rw [writeLine_append, lines_append, lines_of_notMem h, List.singleton_append]

theorem lines_flatMap_writeLine (ls : List (List UInt8)) (t : List UInt8)
    (h : ∀ line ∈ ls, cr ∉ line) : lines (ls.flatMap writeLine ++ t) = ls ++ lines t := by
  induction ls with
  | nil => rfl
  | cons line ls ih =>
    obtain ⟨hline, hls⟩ := List.forall_mem_cons.1 h
    rw [List.flatMap_cons, List.append_assoc, lines_writeLine _ _ hline, ih hls, List.cons_append]

theorem intercalate_lines (s : List UInt8) : [cr, lf].intercalate (lines s) = s := by
  induction s using lines.induct with
  | case1 s ih =>
    obtain ⟨l, ls, hls⟩ := List.exists_cons_of_ne_nil (lines_ne_nil s)
    rw [hls] at ih
    rw [lines, hls, List.intercalate_cons_cons, ih]
    rfl
  | case2 c s hc ih =>
    obtain ⟨l, ls, hls⟩ := List.exists_cons_of_ne_nil (lines_ne_nil s)
    rw [hls] at ih
    rw [lines.eq_2 _ _ hc, hls, List.modifyHead_cons]
    cases ls with
    | nil =>
      rw [List.intercalate_singleton] at ih ⊢
      rw [ih]
    | cons l' ls =>
      rw [List.intercalate_cons_cons] at ih ⊢
      rw [List.cons_append, List.cons_append, ih]
  | case3 => rfl

theorem infix_of_mem_lines {s line : List UInt8} (h : line ∈ lines s) : line <:+: s := by
  have hinfix : ∀ ls : List (List UInt8), line ∈ ls → line <:+: [cr, lf].intercalate ls := by
    intro ls hmem
    induction ls with
    | nil => cases hmem
    | cons l ls ih =>
      cases ls with
      | nil =>
        rw [List.intercalate_singleton, ← List.mem_singleton.1 hmem]
      | cons l' ls =>
        rw [List.intercalate_cons_cons]
        rcases List.mem_cons.1 hmem with rfl | hmem
        · exact List.infix_append_of_infix_left (List.prefix_append line _).isInfix
        · exact List.infix_append_of_infix_right (ih hmem)
  exact intercalate_lines s ▸ hinfix (lines s) h

/-- A line that begins with no dash delimits no parts. -/
theorem ne_of_head? {boundary line : List UInt8} (h : line.head? ≠ some dash) :
    line ≠ delimiter boundary ∧ line ≠ closing boundary := by
  constructor
  · rintro rfl
    exact h rfl
  · rintro rfl
    exact h rfl

/-- The lines that delimit parts have the boundary. -/
theorem infix_of_eq {boundary line : List UInt8}
    (h : line = delimiter boundary ∨ line = closing boundary) : boundary <:+: line := by
  have hdelimiter : boundary <:+: delimiter boundary :=
    (List.suffix_append [dash, dash] boundary).isInfix
  rcases h with rfl | rfl
  · exact hdelimiter
  · exact List.infix_append_of_infix_left hdelimiter

/-! ## Strings in quotes -/

/-- A text that means itself in quotes. -/
def Plain (s : List UInt8) : Prop := quote ∉ s ∧ backslash ∉ s

instance (s : List UInt8) : Decidable (Plain s) := inferInstanceAs (Decidable (_ ∧ _))

theorem map_cons_eq_some_iff {c : UInt8} {x : Option (List UInt8 × List UInt8)}
    {t u : List UInt8} : x.map (fun r => (c :: r.1, r.2)) = some (t, u) ↔
      ∃ t', t = c :: t' ∧ x = some (t', u) := by
  rw [Option.map_eq_some_iff]
  constructor
  · rintro ⟨⟨t', u'⟩, hx, heq⟩
    cases heq
    exact ⟨t', rfl, hx⟩
  · rintro ⟨t', rfl, hx⟩
    exact ⟨(t', u), hx, rfl⟩

theorem readQuoted_cons {c : UInt8} (hquote : c ≠ quote) (hbackslash : c ≠ backslash)
    (s : List UInt8) : readQuoted (c :: s) = (readQuoted s).map fun r => (c :: r.1, r.2) := by
  rw [readQuoted.eq_3]
  · exact hquote
  · exact fun _ _ h => absurd h hbackslash

theorem readQuoted_cons_iff {c : UInt8} (hquote : c ≠ quote) (hbackslash : c ≠ backslash)
    {s t u : List UInt8} : readQuoted (c :: s) = some (t, u) ↔
      ∃ t', t = c :: t' ∧ readQuoted s = some (t', u) := by
  rw [readQuoted_cons hquote hbackslash, map_cons_eq_some_iff]

theorem readQuoted_escape_iff {c : UInt8} {s t u : List UInt8} :
    readQuoted (backslash :: c :: s) = some (t, u) ↔
      ∃ t', t = c :: t' ∧ readQuoted s = some (t', u) := map_cons_eq_some_iff

/-- A text with its first symbol told apart: quotes, an escape, a backslash that is the last
    symbol, or a symbol that means itself. -/
theorem quoted_cases {motive : List UInt8 → Prop} (s : List UInt8) (nil : motive [])
    (quote : ∀ s, motive (quote :: s)) (escape : ∀ c s, motive s → motive (backslash :: c :: s))
    (last : motive [backslash])
    (plain : ∀ c s, c ≠ Multipart.quote → c ≠ backslash → motive s → motive (c :: s)) :
    motive s := by
  induction s using readQuoted.induct with
  | case1 s => exact quote s
  | case2 c s ih => exact escape c s ih
  | case3 c s hquote hbackslash ih =>
    by_cases hc : c = backslash
    · cases s with
      | nil => exact hc ▸ last
      | cons d s => exact absurd rfl (hbackslash d s hc)
    · exact plain c s hquote hc ih
  | case4 => exact nil

theorem readQuoted_append_iff {s t u v : List UInt8} (h : Plain s) :
    readQuoted (s ++ t) = some (u, v) ↔ ∃ u', u = s ++ u' ∧ readQuoted t = some (u', v) := by
  induction s generalizing u with
  | nil =>
    constructor
    · exact fun ht => ⟨u, rfl, ht⟩
    · rintro ⟨u', rfl, ht⟩
      exact ht
  | cons c s ih =>
    obtain ⟨hquote, hquotes⟩ := not_or.1 (List.mem_cons.not.1 h.1)
    obtain ⟨hbackslash, hbackslashes⟩ := not_or.1 (List.mem_cons.not.1 h.2)
    rw [List.cons_append, readQuoted_cons_iff (Ne.symm hquote) (Ne.symm hbackslash)]
    simp only [ih ⟨hquotes, hbackslashes⟩]
    constructor
    · rintro ⟨t', rfl, u', rfl, ht⟩
      exact ⟨u', rfl, ht⟩
    · rintro ⟨u', rfl, ht⟩
      exact ⟨s ++ u', rfl, u', rfl, ht⟩

theorem readQuoted_plain {s : List UInt8} (h : Plain s) (t : List UInt8) :
    readQuoted (s ++ quote :: t) = some (s, t) :=
  (readQuoted_append_iff h).2 ⟨[], (List.append_nil s).symm, rfl⟩

/-- What is read, and what is left, stands in the text. -/
theorem subset_of_readQuoted {s t u : List UInt8} (h : readQuoted s = some (t, u)) :
    t ⊆ s ∧ u ⊆ s := by
  induction s using quoted_cases generalizing t with
  | nil => cases h
  | quote s =>
    cases h
    exact ⟨List.nil_subset _, List.subset_cons_self _ _⟩
  | escape c s ih =>
    obtain ⟨t, rfl, hs⟩ := readQuoted_escape_iff.1 h
    obtain ⟨ht, hu⟩ := ih hs
    exact ⟨List.subset_cons_of_subset _ (List.cons_subset_cons c ht),
      List.subset_cons_of_subset _ (List.subset_cons_of_subset c hu)⟩
  | last => cases h
  | plain c s hquote hbackslash ih =>
    obtain ⟨t, rfl, hs⟩ := (readQuoted_cons_iff hquote hbackslash).1 h
    obtain ⟨ht, hu⟩ := ih hs
    exact ⟨List.cons_subset_cons c ht, List.subset_cons_of_subset c hu⟩

/-- A text is not read as itself behind more backslashes: each that is read has used up two. -/
theorem readQuoted_ne_replicate (s t : List UInt8) (n : Nat) (u : List UInt8) :
    readQuoted (s ++ quote :: t) ≠ some (List.replicate (n + 1) backslash ++ s, u) := by
  intro h
  induction s using quoted_cases generalizing n with
  | nil => cases h
  | quote s => cases h
  | escape c s ih =>
    obtain ⟨t', hlist, hs⟩ := readQuoted_escape_iff.1 h
    obtain ⟨rfl, rfl⟩ := List.cons.inj hlist
    have hreplicate : List.replicate n backslash ++ backslash :: backslash :: s =
        List.replicate (n + 1 + 1) backslash ++ s := by
      rw [List.replicate_succ', List.replicate_succ', List.append_assoc, List.append_assoc]
      rfl
    exact ih (n + 1) (hreplicate ▸ hs)
  | last =>
    obtain ⟨t', hlist, -⟩ := readQuoted_escape_iff.1 h
    exact absurd (List.cons.inj hlist).1 (by decide)
  | plain c s hquote hbackslash ih =>
    obtain ⟨t', hlist, -⟩ := (readQuoted_cons_iff hquote hbackslash).1 h
    exact hbackslash (List.cons.inj hlist).1.symm

/-- A text is read back from its quotes exactly if it means itself there. -/
theorem readQuoted_iff {s t u : List UInt8} :
    readQuoted (s ++ quote :: t) = some (s, u) ↔ Plain s ∧ u = t := by
  constructor
  · intro h
    induction s using quoted_cases with
    | nil =>
      cases h
      exact ⟨⟨List.not_mem_nil, List.not_mem_nil⟩, rfl⟩
    | quote s => cases h
    | escape c s ih =>
      obtain ⟨t', hlist, hs⟩ := readQuoted_escape_iff.1 h
      obtain ⟨rfl, rfl⟩ := List.cons.inj hlist
      exact absurd hs (readQuoted_ne_replicate s t 0 u)
    | last =>
      obtain ⟨t', hlist, -⟩ := readQuoted_escape_iff.1 h
      exact absurd (List.cons.inj hlist).1 (by decide)
    | plain c s hquote hbackslash ih =>
      obtain ⟨t', hlist, hs⟩ := (readQuoted_cons_iff hquote hbackslash).1 h
      cases hlist
      obtain ⟨hplain, htail⟩ := ih hs
      refine ⟨⟨?_, ?_⟩, htail⟩
      · exact List.not_mem_cons_of_ne_of_not_mem (Ne.symm hquote) hplain.1
      · exact List.not_mem_cons_of_ne_of_not_mem (Ne.symm hbackslash) hplain.2
  · rintro ⟨h, rfl⟩
    exact readQuoted_plain h u

/-! ## The `Content-Disposition` -/

theorem dropPrefix?_append (p s : List UInt8) : (p ++ s).dropPrefix? p = some s :=
  List.dropPrefix?_append_of_beq s (beq_self_eq_true p)

theorem subset_of_dropPrefix? {p s t : List UInt8} (h : s.dropPrefix? p = some t) : t ⊆ s := by
  obtain ⟨p', rfl, -⟩ := List.dropPrefix?_eq_some_iff.1 h
  exact List.subset_append_right p' t

theorem beforeFilename_append_ne_nil (s : List UInt8) : beforeFilename ++ s ≠ [] := by
  refine List.append_ne_nil_of_left_ne_nil ?_ s
  rw [beforeFilename, Utf8.utf8_eq_data]
  decide

theorem readFilename_iff {s : List UInt8} {filename : Option (List UInt8)} :
    readFilename s = some filename ↔ (s = [] ∧ filename = none) ∨
      ∃ q f, s.dropPrefix? beforeFilename = some q ∧ readQuoted q = some (f, []) ∧
        filename = some f := by
  constructor
  · intro h
    rw [readFilename] at h
    split_ifs at h with hs
    · exact .inl ⟨hs, (Option.some.inj h).symm⟩
    · obtain ⟨q, hq, h⟩ := Option.bind_eq_some_iff.1 h
      obtain ⟨⟨f, u⟩, hf, h⟩ := Option.bind_eq_some_iff.1 h
      dsimp only at h
      split_ifs at h with hu
      cases h
      exact .inr ⟨q, f, hq, hu ▸ hf, rfl⟩
  · rintro (⟨rfl, rfl⟩ | ⟨q, f, hq, hf, rfl⟩)
    · rfl
    · have hs : s ≠ [] := by
        obtain ⟨p', rfl, hp'⟩ := List.dropPrefix?_eq_some_iff.1 hq
        exact eq_of_beq hp' ▸ beforeFilename_append_ne_nil q
      rw [readFilename, if_neg hs, hq]
      change ((readQuoted q).bind fun r => _) = _
      rw [hf]
      rfl

theorem readDisposition_iff {value name : List UInt8} {filename : Option (List UInt8)} :
    readDisposition value = some (name, filename) ↔ ∃ q s,
      value.dropPrefix? beforeName = some q ∧ readQuoted q = some (name, s) ∧
        readFilename s = some filename := by
  constructor
  · intro h
    obtain ⟨q, hq, h⟩ := Option.bind_eq_some_iff.1 h
    obtain ⟨⟨name', s⟩, hname, h⟩ := Option.bind_eq_some_iff.1 h
    obtain ⟨filename', hfilename, h⟩ := Option.bind_eq_some_iff.1 h
    cases h
    exact ⟨q, s, hq, hname, hfilename⟩
  · rintro ⟨q, s, hq, hname, hfilename⟩
    rw [readDisposition, hq]
    change ((readQuoted q).bind fun r => _) = _
    rw [hname]
    change ((readFilename s).bind fun r => _) = _
    rw [hfilename]
    rfl

/-- Nothing is read that does not stand there. -/
theorem subset_of_readDisposition {value name : List UInt8} {filename : Option (List UInt8)}
    (h : readDisposition value = some (name, filename)) :
    name ⊆ value ∧ ∀ f ∈ filename, f ⊆ value := by
  obtain ⟨q, s, hq, hname, hfilename⟩ := readDisposition_iff.1 h
  have hsub := subset_of_dropPrefix? hq
  obtain ⟨hnameSub, hs⟩ := subset_of_readQuoted hname
  refine ⟨List.Subset.trans hnameSub hsub, fun f hf => ?_⟩
  rcases readFilename_iff.1 hfilename with ⟨-, rfl⟩ | ⟨q', f', hq', hf', rfl⟩
  · cases hf
  · cases hf
    have hfSub := List.Subset.trans (subset_of_readQuoted hf').1 (subset_of_dropPrefix? hq')
    exact List.Subset.trans hfSub (List.Subset.trans hs hsub)

theorem readDisposition_none_iff {name : List UInt8} {filename : Option (List UInt8)} :
    readDisposition (disposition name none) = some (name, filename) ↔
      Plain name ∧ filename = none := by
  rw [disposition, List.append_assoc, readDisposition_iff]
  constructor
  · rintro ⟨q, s, hq, hname, hfilename⟩
    cases (dropPrefix?_append _ _).symm.trans hq
    obtain ⟨hplain, rfl⟩ := readQuoted_iff.1 hname
    exact ⟨hplain, (Option.some.inj hfilename).symm⟩
  · rintro ⟨hname, rfl⟩
    exact ⟨_, _, dropPrefix?_append _ _, readQuoted_plain hname [], rfl⟩

theorem readDisposition_some_iff {name f : List UInt8} {filename : Option (List UInt8)} :
    readDisposition (disposition name (some f)) = some (name, filename) ↔
      Plain name ∧ ∃ g, readQuoted (f ++ [quote]) = some (g, []) ∧ filename = some g := by
  rw [disposition, List.append_assoc, readDisposition_iff]
  constructor
  · rintro ⟨q, s, hq, hname, hfilename⟩
    cases (dropPrefix?_append _ _).symm.trans hq
    obtain ⟨hplain, rfl⟩ := readQuoted_iff.1 hname
    rcases readFilename_iff.1 hfilename with ⟨hnil, -⟩ | ⟨q', g, hq', hg, hsome⟩
    · rw [List.append_assoc] at hnil
      exact absurd hnil (beforeFilename_append_ne_nil _)
    · rw [List.append_assoc, dropPrefix?_append] at hq'
      cases hq'
      exact ⟨hplain, g, hg, hsome⟩
  · rintro ⟨hname, g, hg, rfl⟩
    refine ⟨_, _, dropPrefix?_append _ _, readQuoted_plain hname _, readFilename_iff.2 (.inr ?_)⟩
    exact ⟨_, g, by rw [List.append_assoc, dropPrefix?_append], hg, rfl⟩

/-! ## Headers -/

theorem isLine_of_subset {s t : List UInt8} (h : IsLine t) (hsub : s ⊆ t) : IsLine s :=
  ⟨fun hcr => h.1 (hsub hcr), fun hlf => h.2 (hsub hlf)⟩

theorem isLine_append {s t : List UInt8} (hs : IsLine s) (ht : IsLine t) : IsLine (s ++ t) :=
  ⟨fun h => (List.mem_append.1 h).elim hs.1 ht.1, fun h => (List.mem_append.1 h).elim hs.2 ht.2⟩

theorem isLine_of_readHeader {line : List UInt8} {h : List UInt8 × List UInt8}
    (hread : readHeader line = some h) : IsLine h.1 ∧ IsLine h.2 := by
  rw [readHeader] at hread
  split_ifs at hread with hline
  obtain ⟨value, hvalue, rfl⟩ := Option.map_eq_some_iff.1 hread
  refine ⟨isLine_of_subset hline (List.takeWhile_subset _), isLine_of_subset hline ?_⟩
  exact List.Subset.trans (subset_of_dropPrefix? hvalue) (List.dropWhile_subset _)

theorem isLine_writeHeader {h : List UInt8 × List UInt8} (hname : IsLine h.1)
    (hvalue : IsLine h.2) : IsLine (writeHeader h) :=
  isLine_append hname (isLine_append (s := [colon, 0x20]) (by decide) hvalue)

theorem readHeader_writeHeader {h : List UInt8 × List UInt8} (hcolon : colon ∉ h.1)
    (hname : IsLine h.1) (hvalue : IsLine h.2) : readHeader (writeHeader h) = some h := by
  have hpos : ∀ c ∈ h.1, decide (c ≠ colon) = true := by
    intro c hc
    refine decide_eq_true ?_
    rintro rfl
    exact hcolon hc
  rw [readHeader, if_pos (isLine_writeHeader hname hvalue), writeHeader,
    List.takeWhile_append_of_pos hpos, List.dropWhile_append_of_pos hpos]
  change Option.map _ (List.dropPrefix? ([colon, 0x20] ++ h.2) [colon, 0x20]) = _
  rw [dropPrefix?_append]
  change some (h.1 ++ [], h.2) = _
  rw [List.append_nil]

/-- The name of a header other than `Content-Disposition`. -/
structure IsName (name : List UInt8) : Prop where
  isLine : IsLine name
  colon : colon ∉ name
  other : name.map toLower ≠ Utf8.utf8 "content-disposition"

/-! ## Parts -/

/-- What the headers of a part say has no line break. -/
structure Part.Unbroken (p : Part) : Prop where
  name : IsLine p.name
  filename : ∀ f ∈ p.filename, IsLine f
  headers : ∀ h ∈ p.headers, IsLine h.1 ∧ IsLine h.2

theorem readPart_iff {ls : List (List UInt8)} {p : Part} : readPart ls = some p ↔
    ∃ l content headers h, ls.dropWhile (· ≠ []) = l :: content ∧
      (ls.takeWhile (· ≠ [])).mapM readHeader = some headers ∧
      headers.filter isDisposition = [h] ∧
      readDisposition h.2 = some (p.name, p.filename) ∧
      p.headers = headers.filter (!isDisposition ·) ∧ p.content = [cr, lf].intercalate content := by
  constructor
  · intro h
    rw [readPart] at h
    split at h
    · cases h
    · next l content hls =>
      obtain ⟨headers, hheaders, h⟩ := Option.bind_eq_some_iff.1 h
      split at h
      · next d hd =>
        obtain ⟨⟨name, filename⟩, hread, h⟩ := Option.bind_eq_some_iff.1 h
        cases h
        exact ⟨l, content, headers, d, hls, hheaders, hd, hread, rfl, rfl⟩
      · cases h
  · obtain ⟨name, filename, pheaders, pcontent⟩ := p
    rintro ⟨l, content, headers, d, hls, hheaders, hd, hread, hothers, hcontent⟩
    cases hothers
    cases hcontent
    rw [readPart, hls]
    refine Option.bind_eq_some_iff.2 ⟨headers, hheaders, ?_⟩
    rw [hd]
    exact Option.bind_eq_some_iff.2 ⟨(name, filename), hread, rfl⟩

theorem unbroken_of_readPart {ls : List (List UInt8)} {p : Part} (h : readPart ls = some p) :
    p.Unbroken := by
  obtain ⟨l, content, headers, d, -, hheaders, hd, hdisposition, hothers, -⟩ := readPart_iff.1 h
  have hlines : ∀ e ∈ headers, IsLine e.1 ∧ IsLine e.2 := by
    intro e he
    have hmem : some e ∈ (ls.takeWhile (· ≠ [])).map readHeader := by
      rw [Raising.mapM_eq_some_iff.1 hheaders]
      exact List.mem_map_of_mem he
    obtain ⟨line, -, hread⟩ := List.mem_map.1 hmem
    exact isLine_of_readHeader hread
  have hdmem : d ∈ headers := List.mem_of_mem_filter (hd ▸ List.mem_singleton_self d)
  obtain ⟨hname, hfilename⟩ := subset_of_readDisposition hdisposition
  refine ⟨isLine_of_subset (hlines d hdmem).2 hname, fun f hf => ?_, fun e he => ?_⟩
  · exact isLine_of_subset (hlines d hdmem).2 (hfilename f hf)
  · exact hlines e (List.mem_of_mem_filter (hothers ▸ he))

/-- What is read of the headers of a body has no line break. -/
theorem unbroken_of_parse {boundary body : List UInt8} {parts : List Part}
    (h : parse boundary body = some parts) : ∀ p ∈ parts, p.Unbroken := by
  intro p hp
  rw [parse] at h
  split_ifs at h
  split at h
  · next sections _ =>
    have hmem : some p ∈ sections.map readPart := by
      rw [Raising.mapM_eq_some_iff.1 h]
      exact List.mem_map_of_mem hp
    obtain ⟨ls, -, hread⟩ := List.mem_map.1 hmem
    exact unbroken_of_readPart hread
  · cases h

/-- The lines of a part without its delimiter. -/
def Part.section (p : Part) : List (List UInt8) := p.headerLines ++ [] :: lines p.content

/-- A part can be told from others: its headers have no line break, and names that are no
    `Content-Disposition`, and none of its lines delimits parts. -/
structure Part.Apart (boundary : List UInt8) (p : Part) : Prop where
  unbroken : p.Unbroken
  headers : ∀ h ∈ p.headers, IsName h.1
  lines : ∀ line ∈ p.section, line ≠ delimiter boundary ∧ line ≠ closing boundary

variable {boundary : List UInt8} {p q : Part}

theorem isLine_disposition (h : p.Unbroken) : IsLine (disposition p.name p.filename) := by
  have hname : IsLine beforeName := by
    rw [beforeName, Utf8.utf8_eq_data]
    decide
  have hfilename : IsLine beforeFilename := by
    rw [beforeFilename, Utf8.utf8_eq_data]
    decide
  have hquote : IsLine [quote] := by decide
  cases hf : p.filename with
  | none => exact isLine_append (isLine_append hname h.name) hquote
  | some f =>
    have hrest : IsLine ([quote] ++ (beforeFilename ++ f ++ [quote])) :=
      isLine_append hquote (isLine_append (isLine_append hfilename (h.filename f hf)) hquote)
    exact isLine_append (isLine_append hname h.name) hrest

theorem isLine_contentDisposition : IsLine (Utf8.utf8 "Content-Disposition") := by
  rw [Utf8.utf8_eq_data]
  decide

theorem mapM_readHeader (h : p.Unbroken) (hheaders : ∀ e ∈ p.headers, IsName e.1) :
    p.headerLines.mapM readHeader =
      some ((Utf8.utf8 "Content-Disposition", disposition p.name p.filename) :: p.headers) := by
  have hcolon : colon ∉ Utf8.utf8 "Content-Disposition" := by
    rw [Utf8.utf8_eq_data]
    decide
  rw [Raising.mapM_eq_some_iff, Part.headerLines, List.map_map]
  refine List.map_congr_left fun e he => ?_
  rcases List.mem_cons.1 he with rfl | he
  · exact readHeader_writeHeader hcolon isLine_contentDisposition (isLine_disposition h)
  · exact readHeader_writeHeader (hheaders e he).colon (hheaders e he).isLine (h.headers e he).2

theorem filter_isDisposition (hheaders : ∀ e ∈ p.headers, IsName e.1) (value : List UInt8) :
    (((Utf8.utf8 "Content-Disposition", value) :: p.headers).filter isDisposition =
      [(Utf8.utf8 "Content-Disposition", value)]) ∧
    ((Utf8.utf8 "Content-Disposition", value) :: p.headers).filter (!isDisposition ·) =
      p.headers := by
  have hlower : (Utf8.utf8 "Content-Disposition").map toLower =
      Utf8.utf8 "content-disposition" := by
    rw [Utf8.utf8_eq_data, Utf8.utf8_eq_data]
    decide
  have hhead : isDisposition (Utf8.utf8 "Content-Disposition", value) = true :=
    decide_eq_true hlower
  have hothers : ∀ e ∈ p.headers, isDisposition e = false :=
    fun e he => decide_eq_false (hheaders e he).other
  constructor
  · rw [List.filter_cons_of_pos hhead, List.filter_eq_nil_iff.2]
    exact fun e he => Bool.eq_false_iff.1 (hothers e he)
  · rw [List.filter_cons_of_neg (by rw [hhead]; decide), List.filter_eq_self]
    exact fun e he => by rw [hothers e he, Bool.not_false]

theorem ne_nil_of_mem_headerLines {line : List UInt8} (h : line ∈ p.headerLines) : line ≠ [] := by
  obtain ⟨e, -, rfl⟩ := List.mem_map.1 h
  exact List.append_ne_nil_of_right_ne_nil _ (List.cons_ne_nil _ _)

/-- The lines of a part are read as this part, if its name and file name are. -/
theorem readPart_section_iff (h : p.Unbroken) (hheaders : ∀ e ∈ p.headers, IsName e.1) :
    readPart p.section = some q ↔
      readDisposition (disposition p.name p.filename) = some (q.name, q.filename) ∧
        q.headers = p.headers ∧ q.content = p.content := by
  have hlines : ∀ line ∈ p.headerLines, decide (line ≠ []) = true :=
    fun line hline => decide_eq_true (ne_nil_of_mem_headerLines hline)
  obtain ⟨hdisposition, hothers⟩ :=
    filter_isDisposition hheaders (disposition p.name p.filename)
  rw [readPart_iff, Part.section,
    Text.takeWhile_append_cons hlines (decide_eq_false (not_not.2 rfl)),
    Text.dropWhile_append_cons hlines (decide_eq_false (not_not.2 rfl)), mapM_readHeader h hheaders]
  constructor
  · rintro ⟨l, content, headers, d, hdrop, hheaders', hd, hread, hqheaders, hqcontent⟩
    cases hheaders'
    cases hdrop
    cases hdisposition.symm.trans hd
    exact ⟨hread, hqheaders.trans hothers, hqcontent.trans (intercalate_lines _)⟩
  · rintro ⟨hread, hqheaders, hqcontent⟩
    exact ⟨_, _, _, _, rfl, rfl, hdisposition, hread, hqheaders.trans hothers.symm,
      hqcontent.trans (intercalate_lines _).symm⟩

/-! ## Bodies -/

theorem intercalate_cons {α : Type*} (a : α) (l : List α) (ls : List (List α)) :
    [a].intercalate (l :: ls) = l ++ ls.flatMap (a :: ·) := by
  induction ls generalizing l with
  | nil => rw [List.intercalate_singleton, List.flatMap_nil, List.append_nil]
  | cons l' ls ih =>
    rw [List.intercalate_cons_cons, ih, List.flatMap_cons, List.append_assoc]
    rfl

theorem isLine_of_mem_headerLines (h : p.Unbroken) {line : List UInt8}
    (hline : line ∈ p.headerLines) : IsLine line := by
  obtain ⟨e, he, rfl⟩ := List.mem_map.1 hline
  rcases List.mem_cons.1 he with rfl | he
  · exact isLine_writeHeader isLine_contentDisposition (isLine_disposition h)
  · exact isLine_writeHeader (h.headers e he).1 (h.headers e he).2

theorem cr_notMem_delimiter (hboundary : cr ∉ boundary) : cr ∉ delimiter boundary :=
  List.not_mem_cons_of_ne_of_not_mem (by decide)
    (List.not_mem_cons_of_ne_of_not_mem (by decide) hboundary)

theorem lines_write_append (hboundary : cr ∉ boundary) (h : p.Unbroken) (t : List UInt8) :
    lines (p.write boundary ++ t) = delimiter boundary :: p.section ++ lines t := by
  have hlines : ∀ line ∈ delimiter boundary :: p.headerLines, cr ∉ line := by
    intro line hline
    rcases List.mem_cons.1 hline with rfl | hline
    · exact cr_notMem_delimiter hboundary
    · exact (isLine_of_mem_headerLines h hline).1
  rw [Part.write, List.append_assoc, List.append_assoc, lines_flatMap_writeLine _ _ hlines,
    lines_writeLine _ _ List.not_mem_nil, writeLine_append, lines_append, Part.section,
    List.cons_append, List.cons_append, List.append_assoc, List.cons_append]

theorem lines_write (hboundary : cr ∉ boundary) {parts : List Part}
    (h : ∀ p ∈ parts, p.Unbroken) : lines (write boundary parts) =
      (parts.map Part.section).flatMap (delimiter boundary :: ·) ++ [closing boundary, []] := by
  induction parts with
  | nil =>
    have hclosing : cr ∉ closing boundary := fun hmem =>
      (List.mem_append.1 hmem).elim (cr_notMem_delimiter hboundary) (by decide)
    exact (congrArg lines (List.append_nil _).symm).trans (lines_writeLine _ [] hclosing)
  | cons p parts ih =>
    obtain ⟨hp, hparts⟩ := List.forall_mem_cons.1 h
    rw [write, List.flatMap_cons, List.append_assoc, lines_write_append hboundary hp,
      List.map_cons, List.flatMap_cons, List.append_assoc]
    exact congrArg _ (ih hparts)

/-- A body falls into its parts. -/
theorem parse_write (boundary : List UInt8) (hboundary : cr ∉ boundary) {parts : List Part}
    (h : ∀ p ∈ parts, p.Apart boundary) :
    parse boundary (write boundary parts) = (parts.map Part.section).mapM readPart := by
  have hlines := lines_write hboundary fun p hp => (h p hp).unbroken
  have hopen : ∀ line ∈ (parts.map Part.section).flatMap (delimiter boundary :: ·),
      decide (line ≠ closing boundary) = true := by
    intro line hline
    obtain ⟨l, hl, hline⟩ := List.mem_flatMap.1 hline
    obtain ⟨p, hp, rfl⟩ := List.mem_map.1 hl
    refine decide_eq_true ?_
    rcases List.mem_cons.1 hline with rfl | hline
    · exact fun heq => absurd (List.append_right_eq_self.1 heq.symm) (List.cons_ne_nil _ _)
    · exact ((h p hp).lines line hline).2
  have hdelimiter : ∀ l ∈ [] :: parts.map Part.section, delimiter boundary ∉ l := by
    intro l hl hmem
    rcases List.mem_cons.1 hl with rfl | hl
    · cases hmem
    · obtain ⟨p, hp, rfl⟩ := List.mem_map.1 hl
      exact ((h p hp).lines _ hmem).1 rfl
  have hcontains : (lines (write boundary parts)).contains (closing boundary) = true := by
    rw [hlines, List.contains_iff_mem]
    exact List.mem_append_right _ List.mem_cons_self
  have hsplit := List.splitOn_intercalate (delimiter boundary) hdelimiter (List.cons_ne_nil _ _)
  rw [intercalate_cons, List.nil_append] at hsplit
  rw [parse, if_pos hcontains, hlines,
    Text.takeWhile_append_cons hopen (decide_eq_false (not_not.2 rfl)), hsplit]

end Multipart
