import CycleTLS.AsyncRequest
import CycleTLS.Lib.Multipart
import Mathlib.Data.Bool.AllAny

/-!
# Forms with files (`_encode_multipart_formdata`)

Form fields and files are written as the parts of a multipart body. Names and file names are put
in quotes as they are, content types in a line as they are, and what is no text is written with
`str`. The parts are read back as what was given exactly if no name, file name or content type
has a character that means something else there, and all but the contents of files is text
(`formReadsBack_iff`).
-/

namespace CycleTLS

open Utf8

/-! ## `str` of `bytes` -/

/-- A hexadecimal digit, as `repr` writes it. -/
def reprDigit (n : Nat) : UInt8 := UInt8.ofNat (if n < 10 then 0x30 + n else 0x57 + n)

/-- A byte in a literal with these quotes. -/
def reprByte (q c : UInt8) : Bytes :=
  if c = q ∨ c = 0x5c then [0x5c, c]
  else if c = 0x09 then [0x5c, 0x74]
  else if c = 0x0a then [0x5c, 0x6e]
  else if c = 0x0d then [0x5c, 0x72]
  else if c < 0x20 ∨ 0x7f ≤ c then
    [0x5c, 0x78, reprDigit (c.toNat / 16), reprDigit (c.toNat % 16)]
  else [c]

/-- The quotes of a literal: double ones if only those do not occur. -/
def reprQuote (b : Bytes) : UInt8 := if 0x27 ∈ b ∧ 0x22 ∉ b then 0x22 else 0x27

/-- `str` of `bytes`, which is their literal. -/
def reprBytes (b : Bytes) : Bytes :=
  0x62 :: reprQuote b :: (b.flatMap (reprByte (reprQuote b)) ++ [reprQuote b])

/-! ## Forms -/

/-- A `str` or `bytes`, as a value and as what it means. -/
def FileData.value : FileData → Value
  | .bytes b => .bytes b
  | .text s => .str s

def FileData.content : FileData → Bytes
  | .bytes b => b
  | .text s => utf8 s

/-- A file: an object that is read, or what it has. -/
inductive FileSource
  | object (name : Option String) (data : FileData)
  | raw (data : FileData)

namespace FileSource

def value : FileSource → Value
  | object name data => .file name data
  | raw data => data.value

def content : FileSource → Bytes
  | object _ data | raw data => data.content

/-- The name of a file that is given without one. -/
def name (fieldName : String) : FileSource → String
  | object name _ => name.getD fieldName
  | raw _ => fieldName

end FileSource

/-- A file that is uploaded: alone, with its name, or with its name and content type. -/
inductive Upload
  | file (source : FileSource)
  | named (filename : FileData) (source : FileSource)
  | typed (filename : FileData) (source : FileSource) (contentType : Option FileData)

namespace Upload

def value : Upload → Value
  | file source => source.value
  | named filename source => .tuple [filename.value, source.value]
  | typed filename source contentType =>
    .tuple [filename.value, source.value, (contentType.map FileData.value).getD .none]

def source : Upload → FileSource
  | file source | named _ source | typed _ source _ => source

def filename (fieldName : String) : Upload → FileData
  | file source => .text (source.name fieldName)
  | named filename _ | typed filename _ _ => filename

def contentType : Upload → Option FileData
  | file _ | named _ _ => none
  | typed _ _ contentType => contentType

end Upload

/-- A field of a form, or a file. -/
inductive FormItem
  | field (name : String) (value : FileData)
  | file (name : String) (upload : Upload)

/-- The fields of a form, and then its files. -/
def formItems (fields : List (String × FileData)) (files : List (String × Upload)) :
    List FormItem :=
  (fields.map fun e => .field e.1 e.2) ++ files.map fun e => .file e.1 e.2

variable (env : PyEnv)

/-- The content type of a file: the one that is given, or one for its name. -/
def contentTypeOf (name : String) (upload : Upload) : FileData :=
  upload.contentType.getD <| .text <| match upload.filename name with
    | .text s => (env.guessType s).getD "application/octet-stream"
    | .bytes _ => "application/octet-stream"

namespace FormItem

def content : FormItem → Bytes
  | field _ value => value.content
  | file _ upload => upload.source.content

/-- The part that a field or a file is. -/
def part : FormItem → Multipart.Part
  | field name value => ⟨utf8 name, none, [], value.content⟩
  | file name upload =>
    ⟨utf8 name, some (upload.filename name).content,
      [(utf8 "Content-Type", (contentTypeOf env name upload).content)], upload.source.content⟩

/-- The part that is written for it. -/
def written : FormItem → Multipart.Part
  | field name value => ⟨utf8 name, none, [], utf8 (env.format value.value)⟩
  | file name upload =>
    ⟨utf8 name, some (utf8 (env.format (upload.filename name).value)),
      [(utf8 "Content-Type", utf8 (env.format (contentTypeOf env name upload).value))],
      upload.source.content⟩

end FormItem

/-- What a form is encoded as is read, with its boundary, as its fields and files. -/
def ReadsBack (boundary : String) (fields : List (String × FileData))
    (files : List (String × Upload)) : Prop :=
  ∃ body, encodeMultipartFormdata env boundary (fields.map fun e => (e.1, e.2.value))
      (.dict (files.map fun e => (e.1, e.2.value))) =
        .ok (body, "multipart/form-data; boundary=" ++ boundary) ∧
    Multipart.parse (utf8 boundary) body = some ((formItems fields files).map (FormItem.part env))

/-- `str` of `bytes` is their literal. -/
def StrOfBytes : Prop := ∀ b, utf8 (env.str (.bytes b)) = reprBytes b

/-- A boundary, as it is drawn. -/
structure IsBoundary (boundary : String) (hex : List Char) : Prop where
  eq : boundary = "----WebKitFormBoundary" ++ .ofList hex
  hex : ∀ c ∈ hex, c ∈ "0123456789abcdef".toList

/-- A text that means itself in quotes in a header. -/
def Quotable (s : String) : Prop := Multipart.IsLine (utf8 s) ∧ Multipart.Plain (utf8 s)

/-- All but the contents of files is text, and none has characters that mean something else. -/
def FormItem.Kept : FormItem → Prop
  | field name value => Quotable name ∧ ∃ s, value = .text s
  | file name upload => Quotable name ∧ (∃ s, upload.filename name = .text s ∧ Quotable s) ∧
      ∃ s, contentTypeOf env name upload = .text s ∧ Multipart.IsLine (utf8 s)

/-! ## Literals -/

theorem reprDigit_plain : ∀ n < 16, Multipart.IsLine [reprDigit n] ∧
    reprDigit n ≠ Multipart.quote ∧ reprDigit n ≠ Multipart.backslash := by decide

/-- A byte is written as itself behind a backslash, as an escape, or as itself. -/
theorem reprByte_cases (q c : UInt8) :
    ((c = q ∨ c = 0x5c) ∧ reprByte q c = [0x5c, c]) ∨
    (∃ d l, reprByte q c = 0x5c :: d :: l ∧ Multipart.IsLine (d :: l) ∧
      Multipart.Plain (d :: l)) ∨
    (c ≠ 0x5c ∧ Multipart.IsLine [c] ∧ reprByte q c = [c]) := by
  have hlt : c.toNat < 256 := c.toNat_lt
  rw [reprByte]
  split_ifs with hq htab hlf hcr hhex
  · exact .inl ⟨hq, rfl⟩
  · exact .inr (.inl ⟨_, _, rfl, by decide, by decide⟩)
  · exact .inr (.inl ⟨_, _, rfl, by decide, by decide⟩)
  · exact .inr (.inl ⟨_, _, rfl, by decide, by decide⟩)
  · obtain ⟨hhigh, hhquote, hhback⟩ := reprDigit_plain (c.toNat / 16) (by omega)
    obtain ⟨hlow, hlquote, hlback⟩ := reprDigit_plain (c.toNat % 16) (by omega)
    refine .inr (.inl ⟨_, _, rfl, ?_, ?_, ?_⟩)
    · exact Multipart.isLine_append (s := [0x78]) (by decide) (Multipart.isLine_append hhigh hlow)
    · simp only [List.mem_cons, List.not_mem_nil, or_false, not_or]
      exact ⟨by decide, hhquote.symm, hlquote.symm⟩
    · simp only [List.mem_cons, List.not_mem_nil, or_false, not_or]
      exact ⟨by decide, hhback.symm, hlback.symm⟩
  · refine .inr (.inr ⟨fun h => hq (.inr h), ⟨?_, ?_⟩, rfl⟩)
    · rw [List.mem_singleton]
      exact fun h => hcr h.symm
    · rw [List.mem_singleton]
      exact fun h => hlf h.symm

theorem isAscii_reprByte {q : UInt8} (hq : q.toNat < 0x80) (c : UInt8) :
    ∀ d ∈ reprByte q c, d.toNat < 0x80 := by
  have hlt : c.toNat < 256 := c.toNat_lt
  have hdigit : ∀ n < 16, (reprDigit n).toNat < 0x80 := by decide
  have hhigh := hdigit (c.toNat / 16) (by omega)
  have hlow := hdigit (c.toNat % 16) (by omega)
  rw [reprByte]
  split_ifs with hc htab hlf hcr hhex
  · have hc' : c.toNat < 0x80 := by
      rcases hc with rfl | rfl
      · exact hq
      · decide
    rw [List.forall_mem_cons, List.forall_mem_singleton]
    exact ⟨by decide, hc'⟩
  · exact List.all_iff_forall_prop.1 (by decide)
  · exact List.all_iff_forall_prop.1 (by decide)
  · exact List.all_iff_forall_prop.1 (by decide)
  · rw [List.forall_mem_cons, List.forall_mem_cons, List.forall_mem_cons,
      List.forall_mem_singleton]
    exact ⟨by decide, by decide, hhigh, hlow⟩
  · rw [not_or, UInt8.not_le, UInt8.lt_iff_toNat_lt (b := 0x7f)] at hhex
    rw [List.forall_mem_singleton]
    exact hhex.2.trans (by decide)

theorem isLine_reprByte {q : UInt8} (hq : Multipart.IsLine [q]) (c : UInt8) :
    Multipart.IsLine (reprByte q c) := by
  rcases reprByte_cases q c with ⟨rfl | rfl, h⟩ | ⟨d, l, h, hl, -⟩ | ⟨-, hc, h⟩
  · exact h ▸ Multipart.isLine_append (s := [0x5c]) (by decide) hq
  · exact h ▸ by decide
  · exact h ▸ Multipart.isLine_append (s := [0x5c]) (by decide) hl
  · exact h ▸ hc

theorem reprQuote_eq (b : Bytes) : (reprQuote b = 0x22 ∧ 0x27 ∈ b) ∨
    (reprQuote b = 0x27 ∧ (0x27 ∈ b → 0x22 ∈ b)) := by
  rw [reprQuote]
  split_ifs with h
  · exact .inl ⟨rfl, h.1⟩
  · exact .inr ⟨rfl, fun hmem => not_not.1 fun hno => h ⟨hmem, hno⟩⟩

theorem isLine_reprBytes (b : Bytes) : Multipart.IsLine (reprBytes b) := by
  have hquote : Multipart.IsLine [reprQuote b] := by
    rcases reprQuote_eq b with ⟨h, -⟩ | ⟨h, -⟩
    · exact h ▸ by decide
    · exact h ▸ by decide
  have hbytes : Multipart.IsLine (b.flatMap (reprByte (reprQuote b))) := by
    constructor
    · intro h
      obtain ⟨c, -, hc⟩ := List.mem_flatMap.1 h
      exact (isLine_reprByte hquote c).1 hc
    · intro h
      obtain ⟨c, -, hc⟩ := List.mem_flatMap.1 h
      exact (isLine_reprByte hquote c).2 hc
  exact Multipart.isLine_append (s := [0x62]) (by decide)
    (Multipart.isLine_append hquote (Multipart.isLine_append hbytes hquote))

theorem length_lt_reprBytes (b : Bytes) : b.length < (reprBytes b).length := by
  have hone (q c : UInt8) : 1 ≤ (reprByte q c).length := by
    rcases reprByte_cases q c with ⟨-, h⟩ | ⟨d, l, h, -⟩ | ⟨-, -, h⟩
    · exact h ▸ Nat.succ_le_succ (Nat.zero_le _)
    · exact h ▸ Nat.succ_le_succ (Nat.zero_le _)
    · exact h ▸ Nat.le_refl 1
  have hle (q : UInt8) : b.length ≤ (b.flatMap (reprByte q)).length := by
    induction b with
    | nil => exact Nat.le_refl 0
    | cons c b ih =>
      have := hone q c
      rw [List.flatMap_cons, List.length_append, List.length_cons]
      omega
  have := hle (reprQuote b)
  rw [reprBytes, List.length_cons, List.length_cons, List.length_append]
  omega

/-- Between single quotes no double quotes are read: they end what is read. -/
theorem quote_notMem_of_readQuoted {b s t u : Bytes}
    (h : Multipart.readQuoted (b.flatMap (reprByte 0x27) ++ 0x27 :: Multipart.quote :: s) =
      some (t, u)) : Multipart.quote ∉ t := by
  induction b generalizing t with
  | nil =>
    obtain ⟨t, rfl, hs⟩ := (Multipart.readQuoted_cons_iff (by decide) (by decide)).1 h
    cases hs
    exact List.not_mem_cons_of_ne_of_not_mem (by decide) List.not_mem_nil
  | cons c b ih =>
    rw [List.flatMap_cons, List.append_assoc] at h
    rcases reprByte_cases 0x27 c with ⟨hc, hrepr⟩ | ⟨d, l, hrepr, -, hquote, hbackslash⟩ |
      ⟨hc, -, hrepr⟩
    · rw [hrepr] at h
      obtain ⟨t, rfl, hs⟩ := Multipart.readQuoted_escape_iff.1 h
      refine List.not_mem_cons_of_ne_of_not_mem ?_ (ih hs)
      rcases hc with rfl | rfl
      · decide
      · decide
    · rw [hrepr] at h
      obtain ⟨t, rfl, hs⟩ := Multipart.readQuoted_escape_iff.1 h
      have hplain : Multipart.Plain l :=
        ⟨fun hmem => hquote (List.mem_cons_of_mem d hmem),
          fun hmem => hbackslash (List.mem_cons_of_mem d hmem)⟩
      obtain ⟨t, rfl, ht⟩ := (Multipart.readQuoted_append_iff hplain).1 hs
      rw [← List.cons_append, List.mem_append, not_or]
      exact ⟨hquote, ih ht⟩
    · rw [hrepr] at h
      by_cases hquote : c = Multipart.quote
      · subst hquote
        cases h
        exact List.not_mem_nil
      · obtain ⟨t, rfl, hs⟩ := (Multipart.readQuoted_cons_iff hquote hc).1 h
        exact List.not_mem_cons_of_ne_of_not_mem (Ne.symm hquote) (ih hs)

/-- A literal in quotes is not read as the bytes that it stands for. -/
theorem readQuoted_reprBytes_ne (b u : Bytes) :
    Multipart.readQuoted (reprBytes b ++ [Multipart.quote]) ≠ some (b, u) := by
  intro h
  rw [reprBytes, List.cons_append] at h
  obtain ⟨t, hb, ht⟩ := (Multipart.readQuoted_cons_iff (by decide) (by decide)).1 h
  rcases reprQuote_eq b with ⟨hquote, hmem⟩ | ⟨hquote, himp⟩
  · rw [hquote] at ht
    cases ht
    rw [hb] at hmem
    exact absurd hmem (by decide)
  · rw [hquote, List.cons_append] at ht
    obtain ⟨t, rfl, hs⟩ := (Multipart.readQuoted_cons_iff (by decide) (by decide)).1 ht
    rw [List.append_assoc] at hs
    have hdouble : (0x22 : UInt8) ∈ b := himp (hb ▸ by simp)
    rw [hb] at hdouble
    have hmem : Multipart.quote ∈ t := by
      rcases List.mem_cons.1 hdouble with h | h
      · exact absurd h (by decide)
      · exact (List.mem_cons.1 h).resolve_left (by decide)
    exact quote_notMem_of_readQuoted hs hmem

/-! ## What is written -/

theorem utf8_start : utf8 "--" = [Multipart.dash, Multipart.dash] := by
  rw [utf8_eq_data]
  decide

theorem utf8_name : utf8 "\r\nContent-Disposition: form-data; name=\"" =
    [Multipart.cr, Multipart.lf] ++ utf8 "Content-Disposition" ++ [Multipart.colon, 0x20] ++
      Multipart.beforeName := by
  rw [Multipart.beforeName, utf8_eq_data, utf8_eq_data, utf8_eq_data]
  decide

theorem utf8_filename : utf8 "\"; filename=\"" = [Multipart.quote] ++ Multipart.beforeFilename := by
  rw [Multipart.beforeFilename, utf8_eq_data, utf8_eq_data]
  decide

theorem utf8_contentType : utf8 "\"\r\nContent-Type: " =
    [Multipart.quote, Multipart.cr, Multipart.lf] ++ utf8 "Content-Type" ++
      [Multipart.colon, 0x20] := by
  rw [utf8_eq_data, utf8_eq_data]
  decide

theorem utf8_quoteEnd : utf8 "\"\r\n\r\n" =
    [Multipart.quote, Multipart.cr, Multipart.lf, Multipart.cr, Multipart.lf] := by
  rw [utf8_eq_data]
  decide

theorem utf8_headersEnd : utf8 "\r\n\r\n" =
    [Multipart.cr, Multipart.lf, Multipart.cr, Multipart.lf] := by
  rw [utf8_eq_data]
  decide

theorem utf8_end : utf8 "\r\n" = [Multipart.cr, Multipart.lf] := by
  rw [utf8_eq_data]
  decide

theorem utf8_closing : utf8 "--\r\n" =
    [Multipart.dash, Multipart.dash, Multipart.cr, Multipart.lf] := by
  rw [utf8_eq_data]
  decide

variable {env}

theorem fieldPart_eq (boundary name : String) (value : FileData) :
    fieldPart env boundary (name, value.value) =
      (FormItem.written env (.field name value)).write (utf8 boundary) := by
  simp only [fieldPart, utf8_append, utf8_start, utf8_name, utf8_quoteEnd, utf8_end]
  simp only [FormItem.written, Multipart.Part.write, Multipart.Part.headerLines,
    Multipart.disposition, Multipart.delimiter]
  simp [Multipart.writeLine, Multipart.writeHeader]

/-- The name, the file and the content type of an upload are taken apart. -/
theorem fileInfo_value (name : String) (upload : Upload) : fileInfo name upload.value =
    .ok ((upload.filename name).value, upload.source.value,
      (upload.contentType.map FileData.value).getD .none) := by
  cases upload with
  | file source =>
    cases source with
    | object => rfl
    | raw data => cases data <;> rfl
  | named => rfl
  | typed => rfl

theorem fileData_value (source : FileSource) : fileData source.value = .ok source.content := by
  cases source with
  | object name data => cases data <;> rfl
  | raw data => cases data <;> rfl

/-- A content type is given, or can be told from the name. -/
def Upload.HasType (name : String) (upload : Upload) : Prop :=
  upload.contentType ≠ none ∨ ∃ s, upload.filename name = .text s

theorem fileType_value_iff (name : String) (upload : Upload) (v : Value) :
    fileType env (upload.filename name).value
        ((upload.contentType.map FileData.value).getD .none) = .ok v ↔
      upload.HasType name ∧ v = (contentTypeOf env name upload).value := by
  cases htype : upload.contentType with
  | some t =>
    have hok : fileType env (upload.filename name).value t.value = .ok t.value := by
      cases t <;> rfl
    rw [contentTypeOf, htype, Option.map_some, Option.getD_some, hok, Option.getD_some,
      Except.ok.injEq, eq_comm]
    exact (and_iff_right (.inl (htype ▸ Option.some_ne_none t))).symm
  | none =>
    cases hname : upload.filename name with
    | text s =>
      have hok : fileType env (.str s) .none =
        .ok (.str ((env.guessType s).getD "application/octet-stream")) := rfl
      rw [contentTypeOf, htype, hname]
      change fileType env (.str s) .none = _ ↔ _
      rw [hok, Except.ok.injEq, eq_comm]
      exact (and_iff_right (.inr ⟨s, hname⟩)).symm
    | bytes b =>
      refine iff_of_false (fun h => by cases h) ?_
      rintro ⟨h | ⟨s, hs⟩, -⟩
      · exact h htype
      · rw [hname] at hs
        cases hs

theorem write_file (boundary name : String) (upload : Upload) :
    utf8 ("--" ++ boundary ++ "\r\nContent-Disposition: form-data; name=\"" ++ name ++
      "\"; filename=\"" ++ env.format (upload.filename name).value ++ "\"\r\nContent-Type: " ++
      env.format (contentTypeOf env name upload).value ++ "\r\n\r\n") ++ upload.source.content ++
      utf8 "\r\n" = (FormItem.written env (.file name upload)).write (utf8 boundary) := by
  simp only [utf8_append, utf8_start, utf8_name, utf8_filename, utf8_contentType,
    utf8_headersEnd, utf8_end]
  simp only [FormItem.written, Multipart.Part.write, Multipart.Part.headerLines,
    Multipart.disposition, Multipart.delimiter]
  simp [Multipart.writeLine, Multipart.writeHeader]

theorem filePart_eq_ok_iff (boundary name : String) (upload : Upload) (part : Bytes) :
    filePart env boundary (name, upload.value) = .ok part ↔ upload.HasType name ∧
      part = (FormItem.written env (.file name upload)).write (utf8 boundary) := by
  constructor
  · intro h
    obtain ⟨info, hinfo, h⟩ := Raising.bind_eq_ok_iff.1 h
    cases (fileInfo_value name upload).symm.trans hinfo
    obtain ⟨t, ht, h⟩ := Raising.bind_eq_ok_iff.1 h
    obtain ⟨htype, rfl⟩ := (fileType_value_iff name upload t).1 ht
    obtain ⟨data, hdata, h⟩ := Raising.bind_eq_ok_iff.1 h
    cases (fileData_value upload.source).symm.trans hdata
    exact ⟨htype, (Except.ok.inj h).symm.trans (write_file boundary name upload)⟩
  · rintro ⟨htype, rfl⟩
    refine Raising.bind_eq_ok_iff.2 ⟨_, fileInfo_value name upload, ?_⟩
    refine Raising.bind_eq_ok_iff.2 ⟨_, (fileType_value_iff name upload _).2 ⟨htype, rfl⟩, ?_⟩
    refine Raising.bind_eq_ok_iff.2 ⟨_, fileData_value upload.source, ?_⟩
    exact congrArg Except.ok (write_file boundary name upload)

theorem mapM_filePart_eq_ok_iff (boundary : String) (files : List (String × Upload))
    (parts : List Bytes) :
    (files.map fun e => (e.1, e.2.value)).mapM (filePart env boundary) = .ok parts ↔
      (∀ e ∈ files, e.2.HasType e.1) ∧ parts = files.map fun e =>
        (FormItem.written env (.file e.1 e.2)).write (utf8 boundary) := by
  rw [Raising.mapM_eq_ok_iff, List.map_map]
  induction files generalizing parts with
  | nil =>
    rw [List.map_nil, List.map_nil, eq_comm, List.map_eq_nil_iff]
    exact (and_iff_right fun e he => absurd he List.not_mem_nil).symm
  | cons e files ih =>
    rw [List.forall_mem_cons]
    cases parts with
    | nil => exact iff_of_false (by rintro ⟨⟩) fun h => absurd h.2.symm (List.cons_ne_nil _ _)
    | cons part parts =>
      rw [List.map_cons, List.map_cons, List.map_cons, List.cons.injEq, List.cons.injEq, ih,
        Function.comp_apply, filePart_eq_ok_iff]
      exact and_and_and_comm

theorem flatMap_fieldPart (boundary : String) (fields : List (String × FileData)) :
    (fields.map fun e => (e.1, e.2.value)).flatMap (fieldPart env boundary) =
      fields.flatMap fun e => (FormItem.written env (.field e.1 e.2)).write (utf8 boundary) := by
  rw [List.flatMap_map]
  exact List.flatMap_congr fun e _ => fieldPart_eq boundary e.1 e.2

/-- A form is encoded if its files have content types, as the parts that are written. -/
theorem encodeMultipartFormdata_eq_ok_iff (boundary : String)
    (fields : List (String × FileData)) (files : List (String × Upload)) (r : Bytes × String) :
    encodeMultipartFormdata env boundary (fields.map fun e => (e.1, e.2.value))
        (.dict (files.map fun e => (e.1, e.2.value))) = .ok r ↔
      (∀ e ∈ files, e.2.HasType e.1) ∧ r = (Multipart.write (utf8 boundary)
        ((formItems fields files).map (FormItem.written env)),
          "multipart/form-data; boundary=" ++ boundary) := by
  have hclosing : utf8 ("--" ++ boundary ++ "--\r\n") =
      Multipart.writeLine (Multipart.closing (utf8 boundary)) := by
    rw [utf8_append, utf8_append, utf8_start, utf8_closing]
    simp [Multipart.writeLine, Multipart.closing, Multipart.delimiter]
  have hwrite : Multipart.write (utf8 boundary)
      ((formItems fields files).map (FormItem.written env)) =
      (fields.map fun e => (e.1, e.2.value)).flatMap (fieldPart env boundary) ++
        (files.map fun e =>
          (FormItem.written env (.file e.1 e.2)).write (utf8 boundary)).flatten ++
        utf8 ("--" ++ boundary ++ "--\r\n") := by
    rw [Multipart.write, formItems, List.map_append, List.flatMap_append, List.map_map,
      List.map_map, List.flatMap_map, List.flatMap_map, flatMap_fieldPart, hclosing]
    rfl
  rw [hwrite]
  constructor
  · intro h
    obtain ⟨parts, hparts, h⟩ := Raising.bind_eq_ok_iff.1 h
    obtain ⟨htype, rfl⟩ := (mapM_filePart_eq_ok_iff boundary files parts).1 hparts
    exact ⟨htype, (Except.ok.inj h).symm⟩
  · rintro ⟨htype, rfl⟩
    exact Raising.bind_eq_ok_iff.2
      ⟨_, (mapM_filePart_eq_ok_iff boundary files _).2 ⟨htype, rfl⟩, rfl⟩

/-! ## What is read -/

theorem IsBoundary.isLine {boundary : String} {hex : List Char} (h : IsBoundary boundary hex) :
    Multipart.IsLine (utf8 boundary) := by
  have hprefix : Multipart.IsLine (utf8 "----WebKitFormBoundary") := by
    rw [utf8_eq_data]
    decide
  have hdigits : ∀ c ∈ "0123456789abcdef".toList,
      Multipart.IsLine (String.utf8EncodeChar c) := by
    rw [toList_eq_chars]
    exact List.all_iff_forall_prop.1 (by decide)
  have hhex : Multipart.IsLine (utf8 (.ofList hex)) := by
    rw [utf8, String.toList_ofList]
    constructor
    · intro hmem
      obtain ⟨c, hc, hcr⟩ := List.mem_flatMap.1 hmem
      exact (hdigits c (h.hex c hc)).1 hcr
    · intro hmem
      obtain ⟨c, hc, hlf⟩ := List.mem_flatMap.1 hmem
      exact (hdigits c (h.hex c hc)).2 hlf
  rw [h.eq, utf8_append]
  exact Multipart.isLine_append hprefix hhex

theorem head?_contentDisposition : (utf8 "Content-Disposition").head? = some 0x43 := by
  rw [utf8_eq_data]
  decide

theorem head?_contentType : (utf8 "Content-Type").head? = some 0x43 := by
  rw [utf8_eq_data]
  decide

theorem isName_contentType : Multipart.IsName (utf8 "Content-Type") where
  isLine := by
    rw [utf8_eq_data]
    decide
  colon := by
    rw [utf8_eq_data]
    decide
  other := by
    rw [utf8_eq_data, utf8_eq_data]
    decide

variable {boundary : String} {item : FormItem}

theorem utf8_format_eq_iff (hstr : StrOfBytes env) (d : FileData) :
    utf8 (env.format d.value) = d.content ↔ ∃ s, d = .text s := by
  cases d with
  | text s => exact iff_of_true rfl ⟨s, rfl⟩
  | bytes b =>
    refine iff_of_false (fun h => ?_) (by rintro ⟨s, ⟨⟩⟩)
    have hlength := length_lt_reprBytes b
    rw [← hstr b] at hlength
    exact Nat.lt_irrefl _ (hlength.trans_eq (congrArg List.length h))

theorem isLine_format (hstr : StrOfBytes env) {d : FileData} (h : Multipart.IsLine d.content) :
    Multipart.IsLine (utf8 (env.format d.value)) := by
  cases d with
  | text s => exact h
  | bytes b => exact (hstr b).symm ▸ isLine_reprBytes b

theorem unbroken_written (hstr : StrOfBytes env) (h : (item.part env).Unbroken) :
    (item.written env).Unbroken := by
  cases item with
  | field name value => exact ⟨h.name, by rintro f ⟨⟩, by rintro e ⟨⟩⟩
  | file name upload =>
    refine ⟨h.name, ?_, ?_⟩
    · rintro f ⟨rfl⟩
      exact isLine_format hstr (h.filename _ rfl)
    · intro e he
      rw [List.mem_singleton.1 he]
      refine ⟨isName_contentType.isLine, isLine_format hstr ?_⟩
      exact (h.headers _ List.mem_cons_self).2

/-- The part that an item is written as can be told apart, if the part that it is could be. -/
theorem apart_written (hstr : StrOfBytes env) (hcontent : ¬utf8 boundary <:+: item.content)
    (h : (item.part env).Unbroken) : (item.written env).Apart (utf8 boundary) := by
  have hlines : ∀ line ∈ Multipart.lines item.content,
      line ≠ Multipart.delimiter (utf8 boundary) ∧ line ≠ Multipart.closing (utf8 boundary) := by
    intro line hline
    have hinfix := Multipart.infix_of_mem_lines hline
    exact ⟨fun heq => hcontent ((Multipart.infix_of_eq (.inl heq)).trans hinfix),
      fun heq => hcontent ((Multipart.infix_of_eq (.inr heq)).trans hinfix)⟩
  have hcontentLines : ∀ line ∈ Multipart.lines (item.written env).content,
      line ≠ Multipart.delimiter (utf8 boundary) ∧ line ≠ Multipart.closing (utf8 boundary) := by
    cases item with
    | file name upload => exact hlines
    | field name value =>
      cases value with
      | text s => exact hlines
      | bytes b =>
        intro line hline
        change line ∈ Multipart.lines (utf8 (env.str (.bytes b))) at hline
        rw [hstr b, Multipart.lines_of_notMem (isLine_reprBytes b).1, List.mem_singleton] at hline
        exact hline ▸ Multipart.ne_of_head? (by rintro ⟨⟩)
  have hheaders : ∀ line ∈ (item.written env).headerLines, line.head? ≠ some Multipart.dash := by
    intro line hline
    obtain ⟨e, he, rfl⟩ := List.mem_map.1 hline
    have hname : e.1.head? = some 0x43 := by
      rcases List.mem_cons.1 he with rfl | he
      · exact head?_contentDisposition
      · cases item with
        | field name value => cases he
        | file name upload => exact List.mem_singleton.1 he ▸ head?_contentType
    rw [Multipart.writeHeader, List.head?_append, hname, Option.some_or]
    decide
  refine ⟨unbroken_written hstr h, ?_, fun line hline => ?_⟩
  · cases item with
    | field name value => rintro e ⟨⟩
    | file name upload =>
      intro e he
      exact List.mem_singleton.1 he ▸ isName_contentType
  · rcases List.mem_append.1 hline with hline | hline
    · exact Multipart.ne_of_head? (hheaders line hline)
    · rcases List.mem_cons.1 hline with rfl | hline
      · exact Multipart.ne_of_head? (by rintro ⟨⟩)
      · exact hcontentLines line hline

theorem quotable_iff {s : String} (h : Multipart.IsLine (utf8 s)) :
    Quotable s ↔ Multipart.Plain (utf8 s) := and_iff_right h

/-- A file name is read back from quotes if it is a text that means itself there. -/
theorem readQuoted_format_iff (hstr : StrOfBytes env) {d : FileData}
    (h : Multipart.IsLine d.content) :
    Multipart.readQuoted (utf8 (env.format d.value) ++ [Multipart.quote]) = some (d.content, []) ↔
      ∃ s, d = .text s ∧ Quotable s := by
  cases d with
  | text s =>
    change Multipart.readQuoted (utf8 s ++ [Multipart.quote]) = some (utf8 s, []) ↔ _
    rw [Multipart.readQuoted_iff, and_iff_left rfl, ← quotable_iff h]
    constructor
    · exact fun hs => ⟨s, rfl, hs⟩
    · rintro ⟨s, ⟨⟩, hs⟩
      exact hs
  | bytes b =>
    refine iff_of_false (fun hread => ?_) (by rintro ⟨s, ⟨⟩, -⟩)
    change Multipart.readQuoted (utf8 (env.str (.bytes b)) ++ _) = some (b, []) at hread
    rw [hstr b] at hread
    exact readQuoted_reprBytes_ne b [] hread

/-- The lines that an item is written as are read as the item exactly if it is kept. -/
theorem readPart_written_iff (hstr : StrOfBytes env) (h : (item.part env).Unbroken) :
    Multipart.readPart (item.written env).section = some (item.part env) ↔ item.Kept env := by
  have hwritten := unbroken_written hstr h
  cases item with
  | field name value =>
    rw [Multipart.readPart_section_iff hwritten (by rintro e ⟨⟩)]
    change Multipart.readDisposition (Multipart.disposition (utf8 name) none) =
        some (utf8 name, none) ∧ [] = [] ∧ value.content = utf8 (env.format value.value) ↔
      Quotable name ∧ ∃ s, value = .text s
    rw [Multipart.readDisposition_none_iff, and_iff_left rfl, and_iff_right rfl,
      eq_comm (a := value.content), utf8_format_eq_iff hstr, quotable_iff h.name]
  | file name upload =>
    have hheaders : ∀ e ∈ (FormItem.written env (.file name upload)).headers,
        Multipart.IsName e.1 := by
      intro e he
      exact List.mem_singleton.1 he ▸ isName_contentType
    have hfilename := readQuoted_format_iff hstr (h.filename _ rfl)
    have htype := utf8_format_eq_iff hstr (contentTypeOf env name upload)
    have hline := (h.headers _ List.mem_cons_self).2
    rw [Multipart.readPart_section_iff hwritten hheaders]
    change Multipart.readDisposition (Multipart.disposition (utf8 name)
          (some (utf8 (env.format (upload.filename name).value)))) =
        some (utf8 name, some (upload.filename name).content) ∧
      [(utf8 "Content-Type", (contentTypeOf env name upload).content)] =
        [(utf8 "Content-Type", utf8 (env.format (contentTypeOf env name upload).value))] ∧
      upload.source.content = upload.source.content ↔ FormItem.Kept env (.file name upload)
    rw [Multipart.readDisposition_some_iff, and_iff_left rfl, FormItem.Kept, quotable_iff h.name,
      ← hfilename, and_assoc]
    refine and_congr_right fun _ => and_congr ⟨?_, fun hread => ⟨_, hread, rfl⟩⟩ ?_
    · rintro ⟨g, hread, hg⟩
      rwa [Option.some.inj hg]
    · rw [List.cons.injEq, Prod.mk.injEq, and_iff_left rfl, and_iff_right rfl, eq_comm, htype]
      refine exists_congr fun s => ⟨fun hs => ⟨hs, ?_⟩, And.left⟩
      change Multipart.IsLine (contentTypeOf env name upload).content at hline
      rwa [hs] at hline

theorem FormItem.Kept.unbroken (h : item.Kept env) : (item.part env).Unbroken := by
  cases item with
  | field name value => exact ⟨h.1.1, by rintro f ⟨⟩, by rintro e ⟨⟩⟩
  | file name upload =>
    obtain ⟨hname, ⟨s, hs, hquotable⟩, t, ht, hline⟩ := h
    refine ⟨hname.1, ?_, ?_⟩
    · rintro f ⟨rfl⟩
      exact hs ▸ hquotable.1
    · intro e he
      rw [List.mem_singleton.1 he]
      exact ⟨isName_contentType.isLine, ht ▸ hline⟩

theorem parse_write_iff (hstr : StrOfBytes env) {hex : List Char}
    (hboundary : IsBoundary boundary hex) {items : List FormItem}
    (hcontents : ∀ item ∈ items, ¬utf8 boundary <:+: item.content)
    (hunbroken : ∀ item ∈ items, (item.part env).Unbroken) :
    Multipart.parse (utf8 boundary)
        (Multipart.write (utf8 boundary) (items.map (FormItem.written env))) =
      some (items.map (FormItem.part env)) ↔ ∀ item ∈ items, item.Kept env := by
  rw [Multipart.parse_write _ hboundary.isLine.1, Raising.mapM_eq_some_iff, List.map_map,
    List.map_map, List.map_map, List.map_inj_left]
  · exact forall₂_congr fun item hitem => readPart_written_iff hstr (hunbroken item hitem)
  · intro p hp
    obtain ⟨item, hitem, rfl⟩ := List.mem_map.1 hp
    exact apart_written hstr (hcontents item hitem) (hunbroken item hitem)

/-- What is read of headers has no line breaks, so that the parts are told apart. -/
theorem kept_of_readsBack (hstr : StrOfBytes env) {hex : List Char}
    (hboundary : IsBoundary boundary hex) {fields : List (String × FileData)}
    {files : List (String × Upload)}
    (hcontents : ∀ item ∈ formItems fields files, ¬utf8 boundary <:+: item.content)
    (h : ReadsBack env boundary fields files) : ∀ item ∈ formItems fields files, item.Kept env := by
  obtain ⟨body, hencode, hread⟩ := h
  obtain ⟨-, hbody⟩ := (encodeMultipartFormdata_eq_ok_iff boundary fields files _).1 hencode
  cases hbody
  have hunbroken : ∀ item ∈ formItems fields files, (item.part env).Unbroken :=
    fun item hitem => Multipart.unbroken_of_parse hread _ (List.mem_map_of_mem hitem)
  exact (parse_write_iff hstr hboundary hcontents hunbroken).1 hread

/-- A form is read back as it was given, exactly if all but the contents of its files is text
    that means itself. -/
theorem formReadsBack_iff (hstr : StrOfBytes env) {hex : List Char}
    (hboundary : IsBoundary boundary hex) {fields : List (String × FileData)}
    {files : List (String × Upload)}
    (hcontents : ∀ item ∈ formItems fields files, ¬utf8 boundary <:+: item.content) :
    ReadsBack env boundary fields files ↔ ∀ item ∈ formItems fields files, item.Kept env := by
  refine ⟨kept_of_readsBack hstr hboundary hcontents, fun h => ?_⟩
  have htype : ∀ e ∈ files, e.2.HasType e.1 := by
    intro e he
    have hmem : FormItem.file e.1 e.2 ∈ formItems fields files :=
      List.mem_append_right _ (List.mem_map_of_mem he)
    obtain ⟨-, ⟨s, hs, -⟩, -⟩ := h _ hmem
    exact .inr ⟨s, hs⟩
  have hparse := parse_write_iff hstr hboundary hcontents fun item hitem => (h item hitem).unbroken
  exact ⟨_, (encodeMultipartFormdata_eq_ok_iff boundary fields files _).2 ⟨htype, rfl⟩,
    hparse.2 h⟩

/-! ## A form -/

/-- Literals of bytes are written as such, all else as nothing. -/
def literalEnv : PyEnv :=
  { PyEnv.plain with
    str := fun
      | .bytes b => .ofList ((reprBytes b).map fun c => Char.ofNat c.toNat)
      | _ => "" }

theorem strOfBytes_literalEnv : StrOfBytes literalEnv := by
  intro b
  refine (eq_utf8_of_isAscii fun c hc => ?_).symm
  have hquote : (reprQuote b).toNat < 0x80 := by
    rcases reprQuote_eq b with ⟨h, -⟩ | ⟨h, -⟩
    · exact h ▸ by decide
    · exact h ▸ by decide
  rcases List.mem_cons.1 hc with rfl | hc
  · decide
  · rcases List.mem_cons.1 hc with rfl | hc
    · exact hquote
    · rcases List.mem_append.1 hc with hc | hc
      · obtain ⟨d, -, hd⟩ := List.mem_flatMap.1 hc
        exact isAscii_reprByte hquote d c hd
      · exact List.mem_singleton.1 hc ▸ hquote

theorem isBoundary_zeros : IsBoundary "----WebKitFormBoundary0000000000000000"
    "0000000000000000".toList where
  eq := by decide
  hex := List.all_iff_forall_prop.1 (by decide)

theorem readsBack_text : ReadsBack literalEnv "----WebKitFormBoundary0000000000000000"
    [("a", .text "1")]
    [("f", .typed (.text "x.txt") (.raw (.bytes [0x0d, 0x0a])) (some (.text "text/plain")))] := by
  have hquotable : Quotable "a" ∧ Quotable "f" ∧ Quotable "x.txt" := by
    simp only [Quotable, utf8_eq_data]
    decide
  have htype : Multipart.IsLine (utf8 "text/plain") := by
    rw [utf8_eq_data]
    decide
  obtain ⟨ha, hf, hx⟩ := hquotable
  refine (formReadsBack_iff strOfBytes_literalEnv isBoundary_zeros ?_).2 ?_
  · rw [utf8_eq_data]
    refine List.forall_mem_cons.2 ⟨?_, List.forall_mem_singleton.2 (by decide)⟩
    change ¬_ <:+: utf8 "1"
    rw [utf8_eq_data]
    decide
  · exact List.forall_mem_cons.2 ⟨⟨ha, _, rfl⟩,
      List.forall_mem_singleton.2 ⟨hf, ⟨_, rfl, hx⟩, _, rfl, htype⟩⟩

/-- A name with quotes ends early. -/
theorem not_forall_formReadsBack : ¬∀ (env : PyEnv) (boundary : String) (hex : List Char)
    (fields : List (String × FileData)) (files : List (String × Upload)), StrOfBytes env →
    IsBoundary boundary hex →
    (∀ item ∈ formItems fields files, ¬utf8 boundary <:+: item.content) →
    ReadsBack env boundary fields files := by
  intro h
  have hcontents : ∀ item ∈ formItems [("a\"b", .text "")] [],
      ¬utf8 "----WebKitFormBoundary0000000000000000" <:+: item.content := by
    rw [utf8_eq_data]
    exact List.forall_mem_singleton.2 (by decide)
  have hread := h literalEnv _ _ _ _ strOfBytes_literalEnv isBoundary_zeros hcontents
  have hkept := kept_of_readsBack strOfBytes_literalEnv isBoundary_zeros hcontents hread
  have hquote := (List.forall_mem_singleton.1 hkept).1.2.1
  rw [utf8_eq_data] at hquote
  exact absurd (by decide) hquote

end CycleTLS
