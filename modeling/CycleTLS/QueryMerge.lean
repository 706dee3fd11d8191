import CycleTLS.AsyncRequest
import CycleTLS.Lib.FormURL
import Mathlib.Data.List.TakeWhile
import Mathlib.Data.Bool.AllAny

/-!
# Attaching parameters to a URL (`_merge_url_params`)

The query that a URL has is read into texts and written again together with the parameters. A
text has no place for bytes that are not UTF-8, so that such escapes are replaced: what the new
query decodes to begins with what the old one decoded to exactly if all of its names and values
are UTF-8, or there are no parameters (`keepsQuery_iff`).

What `urllib` does is a parameter here, with what is documented of it as a hypothesis
(`Urllib`).
-/

namespace CycleTLS

open Utf8 Raising

/-- `urllib.parse.SplitResult`. -/
structure SplitResult where
  scheme : String
  netloc : String
  path : String
  query : String
  fragment : String

/-- `s` is what bytes decode to if they are UTF-8; of other bytes nothing is said. -/
def Decodes (s : String) (b : Bytes) : Prop := ∀ t, utf8 t = b → s = t

/-- What is documented of `urlsplit` and `urlunsplit`, `parse_qsl` and `urlencode`. -/
structure Urllib (env : PyEnv) (split : String → Except Raised SplitResult)
    (unsplit : SplitResult → String) : Prop where
  urlsplit : ∀ url, env.urlsplit url =
    (split url).map fun p => (p.query, fun query => unsplit { p with query := query })
  /-- A URL that is put together of parts is split into them, if the query is an encoded one. -/
  split_unsplit : ∀ url p query, split url = .ok p → (∀ c ∈ utf8 query, FormURL.IsSafe c) →
    split (unsplit { p with query := query }) = .ok { p with query := query }
  parseQsl : ∀ query, List.Forall₂ (fun e b => Decodes e.1 b.1 ∧ Decodes e.2 b.2)
    (env.parseQsl query) (FormURL.decode (utf8 query))
  urlencode : ∀ pairs : List (String × String),
    utf8 (env.urlencode (pairs.map fun e => (e.1, .str e.2))) =
      FormURL.encode (pairs.map fun e => (utf8 e.1, utf8 e.2))

variable (env : PyEnv)

/-- The values that a parameter gives: those of a sequence but for `None`. -/
def scalars : Value → List Value
  | .none => []
  | .list items | .tuple items => items.filter fun v => !v.isNone
  | v => [v]

/-- The names and values that parameters give. -/
def flattened (pairs : List (Value × Value)) : List (Bytes × Bytes) :=
  pairs.flatMap fun e =>
    (scalars e.2).map fun v => (utf8 (env.format e.1), utf8 (env.format v))

/-- The URL with the parameters has the parts of the one without, but for the query: this
    decodes to the pairs that were there and those of the parameters. -/
structure AddsParams (split : String → Except Raised SplitResult) (p : SplitResult)
    (pairs : List (Value × Value)) (p' : SplitResult) : Prop where
  scheme : p'.scheme = p.scheme
  netloc : p'.netloc = p.netloc
  path : p'.path = p.path
  fragment : p'.fragment = p.fragment
  query : FormURL.decode (utf8 p'.query) = FormURL.decode (utf8 p.query) ++ flattened env pairs

/-- The URL with the parameters adds them to the query and keeps all else. -/
def KeepsQuery (split : String → Except Raised SplitResult) (url : String) (params : Value)
    (p : SplitResult) (pairs : List (Value × Value)) : Prop :=
  ∃ merged p', mergeURLParams env url params = .ok merged ∧ split merged = .ok p' ∧
    AddsParams env split p pairs p'

variable {env} {split : String → Except Raised SplitResult} {unsplit : SplitResult → String}

/-- A text with its bytes. -/
def bytesOf (e : String × String) : Bytes × Bytes := (utf8 e.1, utf8 e.2)

theorem map_iterParams (pairs : List (Value × Value)) :
    (pairs.flatMap (iterParams env)).map bytesOf = flattened env pairs := by
  rw [List.map_flatMap, flattened]
  refine List.flatMap_congr fun e _ => ?_
  obtain ⟨key, v⟩ := e
  rw [iterParams, List.map_map]
  cases v <;> rfl

theorem eq_utf8_iff {s : String} {b : Bytes} (h : Decodes s b) :
    utf8 s = b ↔ (decode b).isSome := by
  rw [isSome_decode_iff]
  constructor
  · intro hs
    exact ⟨s, hs.symm⟩
  · rintro ⟨t, rfl⟩
    rw [h t rfl]

/-- Texts that pairs are read into have the bytes of these exactly if those are UTF-8. -/
theorem map_bytesOf_eq_iff {l : List (String × String)} {l' : List (Bytes × Bytes)}
    (h : l.Forall₂ (fun e b => Decodes e.1 b.1 ∧ Decodes e.2 b.2) l') :
    l.map bytesOf = l' ↔ ∀ b ∈ l', (decode b.1).isSome ∧ (decode b.2).isSome := by
  induction h with
  | nil => exact iff_of_true rfl fun b hb => absurd hb List.not_mem_nil
  | @cons e b l l' hhead _ ih =>
    obtain ⟨hname, hvalue⟩ := hhead
    rw [List.map_cons, List.cons.injEq, List.forall_mem_cons, ih, ← eq_utf8_iff hname,
      ← eq_utf8_iff hvalue, bytesOf, Prod.ext_iff]

/-- Parameters that count as false are none. -/
theorem eq_nil_of_not_truthy {params : Value} {pairs : List (Value × Value)}
    (h : params.truthy = false) (hparams : paramPairs params = .ok pairs) : pairs = [] := by
  cases params with
  | dict items =>
    cases items with
    | nil => exact (Except.ok.inj hparams).symm
    | cons => cases h
  | list items =>
    cases items with
    | nil => exact (Except.ok.inj hparams).symm
    | cons => cases h
  | tuple items =>
    cases items with
    | nil => exact (Except.ok.inj hparams).symm
    | cons => cases h
  | str s =>
    rw [Value.truthy, decide_eq_false_iff_not, not_not] at h
    subst h
    exact (Except.ok.inj hparams).symm
  | bytes b =>
    cases b with
    | nil => exact (Except.ok.inj hparams).symm
    | cons => cases h
  | _ => cases hparams

/-- What is returned for parameters, and its parts. -/
theorem mergeURLParams_of_truthy (h : Urllib env split unsplit) {url : String} {p : SplitResult}
    (hurl : split url = .ok p) {params : Value} {pairs : List (Value × Value)}
    (htruthy : params.truthy = true) (hparams : paramPairs params = .ok pairs) :
    ∃ merged query, mergeURLParams env url params = .ok merged ∧
      split merged = .ok { p with query := query } ∧
      FormURL.decode (utf8 query) = (env.parseQsl p.query).map bytesOf ++ flattened env pairs := by
  have hencode := h.urlencode (env.parseQsl p.query ++ pairs.flatMap (iterParams env))
  have hsafe := h.split_unsplit url p (env.urlencode ((env.parseQsl p.query ++
    pairs.flatMap (iterParams env)).map fun e => (e.1, .str e.2))) hurl fun c hc =>
      FormURL.isSafe_of_mem_encode (hencode ▸ hc)
  refine ⟨_, _, ?_, hsafe, ?_⟩
  · rw [mergeURLParams, htruthy, h.urlsplit, hurl]
    simp only [hparams]
    rfl
  · rw [hencode, FormURL.decode_encode, ← map_iterParams, ← List.map_append]
    rfl

theorem keepsQuery_iff_of_truthy (h : Urllib env split unsplit) {url : String} {p : SplitResult}
    (hurl : split url = .ok p) {params : Value} {pairs : List (Value × Value)}
    (htruthy : params.truthy = true) (hparams : paramPairs params = .ok pairs) :
    KeepsQuery env split url params p pairs ↔
      ∀ b ∈ FormURL.decode (utf8 p.query), (decode b.1).isSome ∧ (decode b.2).isSome := by
  obtain ⟨merged, query, hmerge, hsplit, hquery⟩ :=
    mergeURLParams_of_truthy h hurl htruthy hparams
  rw [← map_bytesOf_eq_iff (h.parseQsl p.query)]
  constructor
  · rintro ⟨merged', p', hmerge', hsplit', hadds⟩
    cases hmerge.symm.trans hmerge'
    cases hsplit.symm.trans hsplit'
    exact List.append_cancel_right (hquery.symm.trans hadds.query)
  · intro hmap
    rw [hmap] at hquery
    exact ⟨merged, _, hmerge, hsplit, rfl, rfl, rfl, rfl, hquery⟩

/-- The query keeps what it had, exactly if there are no parameters or all that it had is
    UTF-8. -/
theorem keepsQuery_iff (h : Urllib env split unsplit) {url : String} {p : SplitResult}
    (hurl : split url = .ok p) {params : Value} {pairs : List (Value × Value)}
    (hparams : params = .none ∧ pairs = [] ∨ paramPairs params = .ok pairs) :
    KeepsQuery env split url params p pairs ↔ params.truthy = false ∨
      ∀ b ∈ FormURL.decode (utf8 p.query), (decode b.1).isSome ∧ (decode b.2).isSome := by
  cases htruthy : params.truthy with
  | false =>
    have hmerge : mergeURLParams env url params = .ok url := by
      rw [mergeURLParams, htruthy]
      rfl
    have hnil : pairs = [] := hparams.elim And.right (eq_nil_of_not_truthy htruthy)
    refine iff_of_true ⟨url, p, hmerge, hurl, rfl, rfl, rfl, rfl, ?_⟩ (.inl rfl)
    rw [hnil]
    exact (List.append_nil _).symm
  | true =>
    have hpairs : paramPairs params = .ok pairs := by
      refine hparams.resolve_left fun hnone => ?_
      rw [hnone.1] at htruthy
      cases htruthy
    rw [keepsQuery_iff_of_truthy h hurl htruthy hpairs]
    exact (or_iff_right Bool.noConfusion).symm

/-! ## URLs of a path, a query and a fragment -/

/-- `urlsplit`, on a URL that begins with a path. -/
def splitPath (url : String) : SplitResult where
  scheme := ""
  netloc := ""
  path := .ofList ((url.toList.takeWhile (· ≠ '#')).takeWhile (· ≠ '?'))
  query := .ofList ((url.toList.takeWhile (· ≠ '#')).dropWhile (· ≠ '?')).tail
  fragment := .ofList (url.toList.dropWhile (· ≠ '#')).tail

/-- A part of a URL with the mark in front of it, or nothing if it is empty. -/
def marked (mark : Char) (part : List Char) : List Char := if part = [] then [] else mark :: part

/-- `urlunsplit`, on the parts of such a URL. -/
def unsplitPath (p : SplitResult) : String :=
  .ofList (p.path.toList ++ marked '?' p.query.toList ++ marked '#' p.fragment.toList)

/-- What reads and writes queries; a text that is not UTF-8 is read as `U+FFFD`. -/
def queryEnv : PyEnv :=
  { PyEnv.plain with
    urlsplit := fun url =>
      .ok ((splitPath url).query, fun query => unsplitPath { splitPath url with query := query })
    parseQsl := fun query => (FormURL.decode (utf8 query)).map fun b =>
      ((decode b.1).getD "\uFFFD", (decode b.2).getD "\uFFFD")
    urlencode := fun pairs => .ofList ((FormURL.encode (pairs.map fun e =>
      (utf8 e.1, utf8 (PyEnv.plain.format e.2)))).map fun c => Char.ofNat c.toNat) }

theorem takeWhile_marked {mark : Char} {l : List Char} (h : ∀ c ∈ l, c ≠ mark)
    (part : List Char) : (l ++ marked mark part).takeWhile (· ≠ mark) = l := by
  have hl : ∀ c ∈ l, decide (c ≠ mark) = true := fun c hc => decide_eq_true (h c hc)
  rw [marked]
  split_ifs
  · rw [List.append_nil]
    exact List.takeWhile_eq_self_iff.2 hl
  · exact Text.takeWhile_append_cons hl (decide_eq_false (not_not.2 rfl)) part

theorem tail_dropWhile_marked {mark : Char} {l : List Char} (h : ∀ c ∈ l, c ≠ mark)
    (part : List Char) : ((l ++ marked mark part).dropWhile (· ≠ mark)).tail = part := by
  have hl : ∀ c ∈ l, decide (c ≠ mark) = true := fun c hc => decide_eq_true (h c hc)
  rw [marked]
  split_ifs with hpart
  · rw [List.append_nil, List.dropWhile_eq_nil_iff.2 hl, hpart]
    rfl
  · rw [Text.dropWhile_append_cons hl (decide_eq_false (not_not.2 rfl))]
    rfl

theorem splitPath_unsplitPath (url : String) {query : String} (h : '#' ∉ query.toList) :
    splitPath (unsplitPath { splitPath url with query := query }) =
      { splitPath url with query := query } := by
  have hpath : ∀ c ∈ (splitPath url).path.toList, c ≠ '#' ∧ c ≠ '?' := by
    intro c hc
    rw [splitPath, String.toList_ofList] at hc
    have hquery := List.mem_takeWhile_imp hc
    have hfragment := List.mem_takeWhile_imp ((List.takeWhile_sublist _).mem hc)
    exact ⟨of_decide_eq_true hfragment, of_decide_eq_true hquery⟩
  have hbody : ∀ c ∈ (splitPath url).path.toList ++ marked '?' query.toList, c ≠ '#' := by
    intro c hc
    rcases List.mem_append.1 hc with hc | hc
    · exact (hpath c hc).1
    · rw [marked] at hc
      split_ifs at hc
      · cases hc
      · rcases List.mem_cons.1 hc with rfl | hc
        · decide
        · rintro rfl
          exact h hc
  have hname : ∀ c ∈ (splitPath url).path.toList, c ≠ '?' := fun c hc => (hpath c hc).2
  rw [unsplitPath, splitPath, String.toList_ofList, takeWhile_marked hbody,
    tail_dropWhile_marked hbody, takeWhile_marked hname, tail_dropWhile_marked hname,
    String.ofList_toList, String.ofList_toList, String.ofList_toList]
  rfl

theorem hash_notMem {query : String} (h : ∀ c ∈ utf8 query, FormURL.IsSafe c) :
    '#' ∉ query.toList := by
  intro hmem
  have hbyte : (0x23 : UInt8) ∈ utf8 query := List.mem_flatMap.2 ⟨'#', hmem, by decide⟩
  exact absurd (h _ hbyte) (by decide)

theorem decodes_getD (b : Bytes) (s : String) : Decodes ((decode b).getD s) b := by
  rintro t rfl
  rw [decode_utf8, Option.getD_some]

theorem urllib_queryEnv : Urllib queryEnv (fun url => .ok (splitPath url)) unsplitPath where
  urlsplit url := rfl
  split_unsplit url p query hurl hquery := by
    cases hurl
    exact congrArg Except.ok (splitPath_unsplitPath url (hash_notMem hquery))
  parseQsl query := by
    refine List.forall₂_map_left_iff.2 (List.forall₂_same.2 fun b _ => ?_)
    exact ⟨decodes_getD b.1 _, decodes_getD b.2 _⟩
  urlencode pairs := by
    have hpairs : (pairs.map fun e => (e.1, Value.str e.2)).map
        (fun e => (utf8 e.1, utf8 (PyEnv.plain.format e.2))) =
          pairs.map fun e => (utf8 e.1, utf8 e.2) := by
      rw [List.map_map]
      rfl
    rw [queryEnv, ← hpairs]
    refine (eq_utf8_of_isAscii fun c hc => ?_).symm
    exact FormURL.toNat_lt_of_isSafe (FormURL.isSafe_of_mem_encode hc)

theorem query_splitPath {url : String} {l : List Char} (h : url.toList = l) :
    utf8 (splitPath url).query = ((l.takeWhile (· ≠ '#')).dropWhile (· ≠ '?')).tail.flatMap
      String.utf8EncodeChar := by
  rw [splitPath, utf8, String.toList_ofList, h]

theorem keepsQuery_plus : KeepsQuery queryEnv (fun url => .ok (splitPath url)) "/a?x=1+%26#f"
    (.dict [("y", .int 1)]) (splitPath "/a?x=1+%26#f") [(.str "y", .int 1)] := by
  refine (keepsQuery_iff urllib_queryEnv rfl (.inr rfl)).2 (.inr fun b hb => ?_)
  have hdecode : FormURL.decode (utf8 (splitPath "/a?x=1+%26#f").query) =
      [([0x78], [0x31, 0x20, 0x26])] := by
    rw [query_splitPath (congrFun toList_eq_chars _)]
    decide +kernel
  rw [hdecode, List.mem_singleton] at hb
  subst hb
  exact ⟨isSome_decode_of_isAscii (List.all_iff_forall_prop.1 (by decide)),
    isSome_decode_of_isAscii (List.all_iff_forall_prop.1 (by decide))⟩

/-- A byte that is no UTF-8 is replaced, once there is a parameter. -/
theorem not_forall_keepsQuery : ¬∀ (env : PyEnv) (split : String → Except Raised SplitResult)
    (unsplit : SplitResult → String), Urllib env split unsplit →
    ∀ (url : String) (p : SplitResult) (params : Value) (pairs : List (Value × Value)),
      split url = .ok p → (params = .none ∧ pairs = [] ∨ paramPairs params = .ok pairs) →
      KeepsQuery env split url params p pairs := by
  intro h
  have hkeeps := h queryEnv _ _ urllib_queryEnv "/a?x=%FF#f" _ (.dict [("y", .int 1)])
    [(.str "y", .int 1)] rfl (.inr rfl)
  rw [keepsQuery_iff_of_truthy urllib_queryEnv rfl rfl rfl] at hkeeps
  have hdecode : FormURL.decode (utf8 (splitPath "/a?x=%FF#f").query) = [([0x78], [0xff])] := by
    rw [query_splitPath (congrFun toList_eq_chars _)]
    decide +kernel
  have hvalue := (hkeeps ([0x78], [0xff]) (hdecode ▸ List.mem_singleton_self _)).2
  revert hvalue
  decide

end CycleTLS
