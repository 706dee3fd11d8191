import CycleTLS.CookieJar
import CycleTLS.Lib.Radix
import CycleTLS.Net
import CycleTLS.Pool
import Mathlib.Data.List.Perm.Subperm
import Mathlib.Data.List.TakeWhile

/-!
# Cookies along redirects

The requests of a redirect chain get cookies from two sides: the client's redirect
loop adds those its jar has for the URL, and the round tripper adds the ones the
caller supplied, to every request. The response to a redirect without a location
is asked for again by `Do` itself, with a copy of the first request, whose header
already has the supplied cookies.

* `leakFree_iff`: supplied cookies stay with their hosts exactly if no request of
  the chain goes to another host;
* `fresh_iff`: headers are without duplicates and up to date exactly if the
  supplied cookies are written as they are, the responses set none of them, and
  the jar has one cookie a name.
-/

namespace CycleTLS

/-! ## Hosts -/

/-- A host or domain in lower case. -/
def canonicalHost (s : String) : List Char := s.toList.map Char.toLower

/-- An IP address: it has a colon, or nothing but digits and dots. -/
def isIPAddress (host : List Char) : Bool :=
  host.contains ':' || host.all fun c => c.isDigit || c = '.'

/-- Domain matching: a host matches the `Domain` of a cookie if it is that domain,
    or a name below it. -/
def domainMatches (host domain : String) : Bool :=
  let d :=
    match canonicalHost domain with
    | '.' :: d => d
    | d => d
  d ≠ [] && (canonicalHost host = d ||
    !isIPAddress (canonicalHost host) && decide ('.' :: d <:+ canonicalHost host))

/-- Whether a cookie with a `Domain` that belongs to a host may be sent to another. -/
def Allowed (origin domain host : String) : Prop :=
  canonicalHost host = canonicalHost origin ∨ domainMatches host domain = true

/-! ## `Cookie` headers -/

/-- `sanitizeCookieName`. -/
def sanitizeCookieName (n : String) : List Char :=
  n.toList.map fun c => if c = '\n' ∨ c = '\r' then '-' else c

/-- `validCookieValueByte`: of a character that is not ASCII, no byte is valid. -/
def validCookieValueByte (c : Char) : Bool :=
  ' ' ≤ c && c < '\x7f' && c ≠ '"' && c ≠ ';' && c ≠ '\\'

/-- `sanitizeCookieValue`. -/
def sanitizeCookieValue (v : String) : List Char :=
  let v := v.toList.filter validCookieValueByte
  if ' ' ∈ v ∨ ',' ∈ v then '"' :: v ++ ['"'] else v

/-- What `AddCookie` writes for a cookie. -/
def writeCookie (n v : String) : List Char :=
  sanitizeCookieName n ++ '=' :: sanitizeCookieValue v

/-- `AddCookie`, of what is written for a cookie. -/
def addCookieText (header cookie : List Char) : List Char :=
  if header = [] then cookie else header ++ ';' :: ' ' :: cookie

/-- The name and value of a cookie in a header, before and after a `=`. -/
def cookiePair (part : List Char) : String × String :=
  (String.ofList (part.takeWhile (· ≠ '=')), String.ofList ((part.dropWhile (· ≠ '=')).drop 1))

/-- The cookies in a header, between semicolons and blanks. -/
def cookiesIn (header : List Char) : List (String × String) :=
  (((header.splitOn ';').map (List.dropWhile (· = ' '))).filter (· ≠ [])).map cookiePair

/-- The cookies that are read of what is written for one. -/
def writtenCookies (n v : String) : List (String × String) := cookiesIn (writeCookie n v)

theorem cookiesIn_cons_blank (header : List Char) :
    cookiesIn (' ' :: header) = cookiesIn header := by
  obtain ⟨part, parts, hparts⟩ := List.exists_cons_of_ne_nil (List.splitOn_ne_nil ';' header)
  rw [cookiesIn, cookiesIn, List.splitOn_cons_eq_if_modifyHead, if_neg (by decide), hparts]
  rfl

theorem cookiesIn_addCookieText (header cookie : List Char) :
    cookiesIn (addCookieText header cookie) = cookiesIn header ++ cookiesIn cookie := by
  rw [addCookieText]
  split_ifs with hempty
  · rw [hempty]
    rfl
  · rw [← cookiesIn_cons_blank cookie]
    simp only [cookiesIn, List.splitOn_append_cons_self, List.map_append, List.filter_append]

theorem cookiesIn_foldl (cookies : List (List Char)) (header : List Char) :
    cookiesIn (cookies.foldl addCookieText header) =
      cookiesIn header ++ cookies.flatMap cookiesIn := by
  induction cookies generalizing header with
  | nil => exact (List.append_nil _).symm
  | cons cookie cookies ih =>
    rw [List.foldl_cons, ih, cookiesIn_addCookieText, List.append_assoc, List.flatMap_cons]

/-- There is always a `=` to read. -/
theorem writtenCookies_ne_nil (n v : String) : writtenCookies n v ≠ [] := by
  intro hnil
  have hmem : '=' ∈ [';'].intercalate ((writeCookie n v).splitOn ';') := by
    rw [List.intercalate_splitOn, writeCookie]
    exact List.mem_append_right _ List.mem_cons_self
  obtain heq | ⟨part, hpart, hmem⟩ := Radix.eq_or_mem_of_mem_intercalate hmem
  · revert heq
    decide
  · have hblank := List.filter_eq_nil_iff.1 (List.map_eq_nil_iff.1 hnil) _
      (List.mem_map_of_mem hpart)
    have hdrop : part.dropWhile (· = ' ') = [] := by simpa using hblank
    exact absurd (List.dropWhile_eq_nil_iff.1 hdrop _ hmem) (by decide)

/-! ## The chain -/

/-- The jar the recording jar wraps. -/
structure InnerJar (J : Type) where
  new : J
  setCookies : J → URL → List CookieEvent → J
  /-- The names and values of the cookies to send with a request at a time. -/
  cookies : J → URL → Time → List (String × String)

/-- An item of a `Cookie` header. -/
inductive CookieItem
  | jar (name value : String)
  | supplied (cookie : GoCookie)

/-- What `AddCookie` writes for an item. -/
def CookieItem.text : CookieItem → List Char
  | .jar name value => writeCookie name value
  | .supplied cookie => writeCookie cookie.name cookie.value

/-- A request of the redirect loop, and the cookies of its response. -/
structure ChainHop where
  url : URL
  now : Time
  response : List CookieEvent

/-- A redirect chain: its requests, and whether `Do` repeats the first one for want
    of a location. The transport works on a copy of the header of the first request
    if the URL of that names a user. -/
structure Chain where
  first : ChainHop
  rest : List ChainHop
  resent : Bool
  namesUser : Bool

/-- A request that was sent, with the responses before it. -/
structure SentRequest where
  url : URL
  now : Time
  header : List CookieItem
  past : List ChainHop

/-- The cookies in the text of the header. -/
def SentRequest.cookies (r : SentRequest) : List (String × String) :=
  cookiesIn ((r.header.map CookieItem.text).foldl addCookieText [])

section Sending

variable {J : Type} (jar : InnerJar J) (supplied : List GoCookie)

/-- The jar after a response. -/
def receiveCookies (j : J) (hop : ChainHop) : J :=
  if hop.response = [] then j else jar.setCookies j hop.url hop.response

/-- The requests of the redirect loop, as `RoundTrip` sends them. -/
def followRedirects (j : J) (past : List ChainHop) : List ChainHop → List SentRequest
  | [] => []
  | hop :: hops =>
    { url := hop.url
      now := hop.now
      header := (jar.cookies j hop.url hop.now).map (fun c => .jar c.1 c.2) ++
        supplied.map .supplied
      past := past } :: followRedirects (receiveCookies jar j hop) (past ++ [hop]) hops

/-- All requests of a chain. -/
def Chain.sent (chain : Chain) : List SentRequest :=
  followRedirects jar supplied jar.new [] (chain.first :: chain.rest) ++
    if chain.resent then
      [{ url := chain.first.url
         now := chain.first.now
         header := (if chain.namesUser then [] else supplied.map .supplied) ++
           supplied.map .supplied
         past := chain.first :: chain.rest }]
    else []

end Sending

/-! ## Hosts of supplied cookies -/

variable {J : Type} {jar : InnerJar J} {supplied : List GoCookie}

/-- Supplied cookies are sent to the host of the first request only, or where their
    domain says so. -/
def LeakFree (jar : InnerJar J) (supplied : List GoCookie) (chain : Chain) : Prop :=
  ∀ r ∈ chain.sent jar supplied, ∀ c, .supplied c ∈ r.header →
    Allowed chain.first.url.hostname c.domain r.url.hostname

theorem supplied_mem_header {items : List (String × String)} {c : GoCookie} :
    CookieItem.supplied c ∈ items.map (fun c => CookieItem.jar c.1 c.2) ++
      supplied.map .supplied ↔ c ∈ supplied := by
  simp

theorem forall_followRedirects_iff (P : URL → GoCookie → Prop) (j : J)
    (past hops : List ChainHop) :
    (∀ r ∈ followRedirects jar supplied j past hops, ∀ c, .supplied c ∈ r.header → P r.url c) ↔
      ∀ hop ∈ hops, ∀ c ∈ supplied, P hop.url c := by
  induction hops generalizing j past with
  | nil => simp [followRedirects]
  | cons hop hops ih =>
    rw [followRedirects, List.forall_mem_cons, List.forall_mem_cons, ih]
    simp only [supplied_mem_header]

/-- Each supplied cookie is in the headers of all requests. -/
theorem forall_sent_iff (P : URL → GoCookie → Prop) (chain : Chain) :
    (∀ r ∈ chain.sent jar supplied, ∀ c, .supplied c ∈ r.header → P r.url c) ↔
      ∀ hop ∈ chain.first :: chain.rest, ∀ c ∈ supplied, P hop.url c := by
  rw [Chain.sent, List.forall_mem_append,
    forall_followRedirects_iff P jar.new [] (chain.first :: chain.rest)]
  refine and_iff_left_of_imp fun h r hr c hc => ?_
  by_cases hresent : chain.resent
  · rw [if_pos hresent] at hr
    rw [List.mem_singleton.1 hr] at hc ⊢
    have hmem : c ∈ supplied := by
      cases hname : chain.namesUser <;> simpa [hname] using hc
    exact h chain.first List.mem_cons_self c hmem
  · rw [if_neg hresent] at hr
    cases hr

/-- Supplied cookies do not leak exactly if every request of the chain goes to the
    host of the first, or to one that matches the domain of each of them. -/
theorem leakFree_iff (jar : InnerJar J) (supplied : List GoCookie) (chain : Chain) :
    LeakFree jar supplied chain ↔ ∀ hop ∈ chain.rest, ∀ c ∈ supplied,
      Allowed chain.first.url.hostname c.domain hop.url.hostname := by
  have hfirst : ∀ c ∈ supplied,
      Allowed chain.first.url.hostname c.domain chain.first.url.hostname := fun _ _ => .inl rfl
  rw [LeakFree, forall_sent_iff
    (fun url c => Allowed chain.first.url.hostname c.domain url.hostname) chain,
    List.forall_mem_cons, and_iff_right hfirst]

/-- A redirect to another host takes the cookies along. -/
theorem not_forall_leakFree : ¬∀ (J : Type) (jar : InnerJar J) (supplied : List GoCookie)
    (chain : Chain), LeakFree jar supplied chain := by
  intro h
  let chain : Chain := ⟨⟨⟨.https, "a.example", "/"⟩, .zero, []⟩,
    [⟨⟨.https, "b.example", "/"⟩, .zero, []⟩], false, false⟩
  have hallowed := (forall_sent_iff
    (fun url c => Allowed chain.first.url.hostname c.domain url.hostname) chain).1
    (h Unit ⟨(), fun _ _ _ => (), fun _ _ _ => []⟩
      [⟨"session", "secret", "", "", 0, false, false⟩] chain)
  rcases hallowed _ (List.mem_cons_of_mem _ List.mem_cons_self) _ List.mem_cons_self with
    hhost | hdomain
  · revert hhost
    decide +kernel
  · revert hdomain
    decide +kernel

/-! ## Names and values -/

/-- A cookie of a response, and the URL of the request it answers. -/
structure Arrival where
  url : URL
  event : CookieEvent
  deriving DecidableEq

namespace Arrival

def name (a : Arrival) : String := a.event.name

/-- Whether the cookie jar removes the cookie: the `Max-Age` goes before the
    expiry. -/
def removes (a : Arrival) : Bool :=
  a.event.cookie.maxAge < 0 || a.event.cookie.maxAge = 0 &&
    !a.event.cookie.expires.isZero && !a.event.cookie.expires.after a.event.now

end Arrival

def ChainHop.arrivals (hop : ChainHop) : List Arrival := hop.response.map (⟨hop.url, ·⟩)

/-- What a cookie jar is documented by. -/
structure CookieRules (I : Type) where
  /-- Whether a host may set the cookie. -/
  accepts : Arrival → Bool
  /-- The domain, path and name of a cookie: a later one replaces it. -/
  identity : Arrival → I
  /-- Whether a cookie is sent with a request at a time. -/
  applies : Arrival → URL → Time → Bool

/-- The cookies a jar has for a request, after some responses. -/
def CookieRules.held {I : Type} [DecidableEq I] (rules : CookieRules I) (past : List ChainHop)
    (url : URL) (now : Time) : List Arrival :=
  (Log.standing rules.identity Arrival.removes
    ((past.flatMap ChainHop.arrivals).filter rules.accepts)).filter (rules.applies · url now)

/-- The jar sends what the rules say, in some order. -/
def CookieRules.Govern {I : Type} [DecidableEq I] (rules : CookieRules I) (jar : InnerJar J) :
    Prop :=
  ∀ past url now, List.Perm (jar.cookies (past.foldl (receiveCookies jar) jar.new) url now)
    ((rules.held past url now).map fun a => (a.name, a.event.cookie.value))

/-- The last cookie of a name in some responses. -/
def lastArrival (past : List ChainHop) (n : String) : Option Arrival :=
  Log.latest Arrival.name n (past.flatMap ChainHop.arrivals)

/-- The value a name has after some responses, if any. -/
def currentValue (supplied : List GoCookie) (past : List ChainHop) (n : String) : Option String :=
  match lastArrival past n with
  | some a => if a.removes then none else some a.event.cookie.value
  | none => (Log.latest GoCookie.name n supplied).map GoCookie.value

/-- The header of a request has each name once, with its current value. -/
def SentRequest.Fresh (supplied : List GoCookie) (r : SentRequest) : Prop :=
  (r.cookies.map Prod.fst).Nodup ∧
    ∀ c ∈ r.cookies, currentValue supplied r.past c.1 = some c.2

/-- What is written for the supplied cookies are these cookies. -/
def WrittenAsGiven (supplied : List GoCookie) : Prop :=
  List.Perm (supplied.flatMap fun c => writtenCookies c.name c.value)
    (supplied.map fun c => (c.name, c.value))

instance (supplied : List GoCookie) : Decidable (WrittenAsGiven supplied) :=
  inferInstanceAs (Decidable (List.Perm _ _))

/-- A cookie with this name and value would be current: no response has set it to
    another value, or removed it. -/
def Unchanged (past : List ChainHop) (n value : String) : Prop :=
  ∀ a ∈ lastArrival past n, a.removes = false ∧ a.event.cookie.value = value

instance (past : List ChainHop) (n value : String) : Decidable (Unchanged past n value) :=
  inferInstanceAs (Decidable (∀ a ∈ lastArrival past n, _))

/-- What is written for the cookies a jar has for a request. -/
def CookieRules.written {I : Type} [DecidableEq I] (rules : CookieRules I) (past : List ChainHop)
    (url : URL) (now : Time) : List (String × String) :=
  (rules.held past url now).flatMap fun a => writtenCookies a.name a.event.cookie.value

/-- The responses leave each supplied cookie alone, and the jar one cookie a name,
    the last one. -/
structure Compatible {I : Type} [DecidableEq I] (rules : CookieRules I) (supplied : List GoCookie)
    (past : List ChainHop) (url : URL) (now : Time) : Prop where
  unchanged : ∀ c ∈ supplied, Unchanged past c.name c.value
  apart : ∀ c ∈ supplied, ∀ w ∈ rules.written past url now, w.1 ≠ c.name
  nodup : ((rules.written past url now).map Prod.fst).Nodup
  last : ∀ w ∈ rules.written past url now,
    ∃ a ∈ lastArrival past w.1, a.removes = false ∧ a.event.cookie.value = w.2

theorem currentValue_supplied (hnodup : (supplied.map GoCookie.name).Nodup) {c : GoCookie}
    (hc : c ∈ supplied) (past : List ChainHop) :
    currentValue supplied past c.name = some c.value ↔ Unchanged past c.name c.value := by
  rw [currentValue, Unchanged]
  cases lastArrival past c.name with
  | some a => simp
  | none =>
    rw [(Log.latest_eq_some_iff_of_nodup hnodup).2 ⟨hc, rfl⟩]
    simp

/-- The current value of a name that no supplied cookie has. -/
theorem currentValue_apart {n : String} (hn : ∀ c ∈ supplied, n ≠ c.name) (past : List ChainHop)
    (v : String) : currentValue supplied past n = some v ↔
      ∃ a ∈ lastArrival past n, a.removes = false ∧ a.event.cookie.value = v := by
  rw [currentValue]
  cases lastArrival past n with
  | some a => simp
  | none =>
    rw [Log.latest_eq_none_iff.2 fun c hc heq => hn c hc heq.symm]
    simp

/-- No fewer cookies are written than are supplied. -/
theorem length_le_written (supplied : List GoCookie) :
    supplied.length ≤ (supplied.flatMap fun c => writtenCookies c.name c.value).length := by
  induction supplied with
  | nil => exact le_rfl
  | cons c supplied ih =>
    have hpos := List.length_pos_iff.2 (writtenCookies_ne_nil c.name c.value)
    rw [List.flatMap_cons, List.length_append, List.length_cons]
    omega

/-- What is read of a header is read of its items. -/
theorem SentRequest.cookies_eq (r : SentRequest) :
    r.cookies = r.header.flatMap fun item => cookiesIn item.text := by
  rw [cookies, cookiesIn_foldl, List.flatMap_map]
  rfl

theorem SentRequest.fresh_iff_of_perm {r : SentRequest} {cookies : List (String × String)}
    (h : r.cookies.Perm cookies) : r.Fresh supplied ↔ (cookies.map Prod.fst).Nodup ∧
      ∀ c ∈ cookies, currentValue supplied r.past c.1 = some c.2 := by
  rw [Fresh, (h.map Prod.fst).nodup_iff]
  simp only [h.mem_iff]

/-- What the redirect loop sends, before the supplied cookies are known to be written
    as they are. -/
theorem cookies_header_perm {I : Type} [DecidableEq I] {rules : CookieRules I}
    {past : List ChainHop} {url : URL} {now : Time} {items : List (String × String)}
    (hitems : List.Perm items
      ((rules.held past url now).map fun a => (a.name, a.event.cookie.value))) :
    (SentRequest.cookies ⟨url, now, items.map (fun c => .jar c.1 c.2) ++
      supplied.map .supplied, past⟩).Perm (rules.written past url now ++
        supplied.flatMap fun c => writtenCookies c.name c.value) := by
  have hjar := hitems.flatMap_right fun c => writtenCookies c.1 c.2
  rw [List.flatMap_map] at hjar
  rw [SentRequest.cookies_eq, List.flatMap_append, List.flatMap_map, List.flatMap_map]
  exact hjar.append_right _

/-- The first request is fresh exactly if the supplied cookies are written as they
    are: none of them can be split or lost. -/
theorem fresh_first_iff {I : Type} [DecidableEq I] {rules : CookieRules I}
    (hrules : rules.Govern jar) (hnodup : (supplied.map GoCookie.name).Nodup) (url : URL)
    (now : Time) : SentRequest.Fresh supplied ⟨url, now, (jar.cookies jar.new url now).map
      (fun c => .jar c.1 c.2) ++ supplied.map .supplied, []⟩ ↔ WrittenAsGiven supplied := by
  have hgiven : (supplied.map fun c => (c.name, c.value)).map Prod.fst =
      supplied.map GoCookie.name := List.map_map
  have hcurrent (w : String × String) : currentValue supplied [] w.1 = some w.2 ↔
      w ∈ supplied.map fun c => (c.name, c.value) := by
    rw [currentValue, List.mem_map]
    change (Log.latest GoCookie.name w.1 supplied).map GoCookie.value = some w.2 ↔ _
    rw [Option.map_eq_some_iff]
    simp only [Log.latest_eq_some_iff_of_nodup hnodup, Prod.ext_iff, and_assoc]
  refine (SentRequest.fresh_iff_of_perm (cookies_header_perm (hrules [] url now))).trans ?_
  have hnil : rules.written [] url now = [] := rfl
  simp only [hnil, List.nil_append, hcurrent]
  constructor
  · rintro ⟨hwritten, hmem⟩
    have hsubperm := List.subperm_of_subset hwritten.of_map hmem
    refine hsubperm.perm_of_length_le ?_
    rw [List.length_map]
    exact length_le_written supplied
  · intro hwritten
    exact ⟨(hwritten.map _).nodup_iff.2 (hgiven ▸ hnodup), fun w hw => hwritten.mem_iff.1 hw⟩

/-- The header the redirect loop sends is fresh exactly if the responses so far are
    compatible with the supplied cookies. -/
theorem fresh_header_iff {I : Type} [DecidableEq I] {rules : CookieRules I}
    (hwritten : WrittenAsGiven supplied) (hnodup : (supplied.map GoCookie.name).Nodup)
    {past : List ChainHop} {url : URL} {now : Time} {items : List (String × String)}
    (hitems : List.Perm items
      ((rules.held past url now).map fun a => (a.name, a.event.cookie.value))) :
    SentRequest.Fresh supplied ⟨url, now, items.map (fun c => .jar c.1 c.2) ++
      supplied.map .supplied, past⟩ ↔ Compatible rules supplied past url now := by
  have hsupplied : (∀ c ∈ supplied, currentValue supplied past c.name = some c.value) ↔
      ∀ c ∈ supplied, Unchanged past c.name c.value :=
    forall₂_congr fun c hc => currentValue_supplied hnodup hc past
  rw [SentRequest.fresh_iff_of_perm
    ((cookies_header_perm hitems).trans (hwritten.append_left _))]
  simp only [List.map_append, List.map_map, List.nodup_append, List.forall_mem_append,
    List.forall_mem_map, Function.comp_def]
  rw [hsupplied]
  constructor
  · rintro ⟨⟨hfst, -, hap⟩, hlast, hun⟩
    have hapart : ∀ w ∈ rules.written past url now, ∀ c ∈ supplied, w.1 ≠ c.name := hap
    exact ⟨hun, fun c hc w hw => hapart w hw c hc, hfst, fun w hw =>
      (currentValue_apart (hapart w hw) past w.2).1 (hlast w hw)⟩
  · rintro ⟨hun, hap, hfst, hlast⟩
    exact ⟨⟨hfst, hnodup, fun w hw c hc => hap c hc w hw⟩, fun w hw =>
      (currentValue_apart (fun c hc => hap c hc w hw) past w.2).2 (hlast w hw), hun⟩

theorem forall_followRedirects_fresh_iff {I : Type} [DecidableEq I] {rules : CookieRules I}
    (hrules : rules.Govern jar) (hwritten : WrittenAsGiven supplied)
    (hnodup : (supplied.map GoCookie.name).Nodup) (past hops : List ChainHop) :
    (∀ r ∈ followRedirects jar supplied (past.foldl (receiveCookies jar) jar.new) past hops,
        r.Fresh supplied) ↔
      ∀ pre hop post, hops = pre ++ hop :: post →
        Compatible rules supplied (past ++ pre) hop.url hop.now := by
  -- on the hops still to come, generalised over those behind
  induction hops generalizing past with
  | nil => simp [followRedirects]
  | cons hop hops ih =>
    have hnext := ih (past ++ [hop])
    rw [List.foldl_concat] at hnext
    rw [followRedirects, List.forall_mem_cons, hnext,
      fresh_header_iff hwritten hnodup (hrules past hop.url hop.now)]
    constructor
    · rintro ⟨hhop, hrest⟩ pre hop' post heq
      cases pre with
      | nil =>
        obtain ⟨rfl, -⟩ := List.cons_eq_cons.1 heq
        rwa [List.append_nil]
      | cons h pre =>
        obtain ⟨rfl, rfl⟩ := List.cons_eq_cons.1 heq
        rw [List.append_cons]
        exact hrest pre hop' post rfl
    · intro h
      refine ⟨?_, fun pre hop' post heq => ?_⟩
      · have hhop := h [] hop hops rfl
        rwa [List.append_nil] at hhop
      · subst heq
        rw [List.append_assoc]
        exact h (hop :: pre) hop' post rfl

/-- What a repeated first request needs: its cookies are not doubled, and none has
    been changed. -/
theorem fresh_resent_iff (hwritten : WrittenAsGiven supplied)
    (hnodup : (supplied.map GoCookie.name).Nodup) (url : URL) (now : Time)
    (namesUser : Bool) (past : List ChainHop) :
    SentRequest.Fresh supplied ⟨url, now, (if namesUser then [] else supplied.map .supplied) ++
        supplied.map .supplied, past⟩ ↔
      (supplied = [] ∨ namesUser = true) ∧ ∀ c ∈ supplied, Unchanged past c.name c.value := by
  have hsupplied : (∀ c ∈ supplied, currentValue supplied past c.name = some c.value) ↔
      ∀ c ∈ supplied, Unchanged past c.name c.value :=
    forall₂_congr fun c hc => currentValue_supplied hnodup hc past
  have hnames : (supplied.map fun c => (c.name, c.value)).map Prod.fst =
      supplied.map GoCookie.name := List.map_map
  have hitems : (supplied.map CookieItem.supplied).flatMap (fun item => cookiesIn item.text) =
      supplied.flatMap fun c => writtenCookies c.name c.value := List.flatMap_map ..
  have hperm : (SentRequest.cookies ⟨url, now, (if namesUser then [] else supplied.map .supplied) ++
      supplied.map .supplied, past⟩).Perm
        ((if namesUser then [] else supplied.map fun c => (c.name, c.value)) ++
          supplied.map fun c => (c.name, c.value)) := by
    rw [SentRequest.cookies_eq, List.flatMap_append, hitems]
    refine List.Perm.append ?_ hwritten
    cases namesUser with
    | true => exact .rfl
    | false => exact hitems ▸ hwritten
  rw [SentRequest.fresh_iff_of_perm hperm]
  cases namesUser with
  | true =>
    simp only [if_true, List.nil_append, hnames, hnodup, List.forall_mem_map, hsupplied, or_true]
  | false =>
    cases supplied with
    | nil => simp
    | cons c supplied => simp [List.nodup_append]

/-- A jar that keeps all it is given, and sends what the rules say. -/
def CookieRules.keepAll {I : Type} [DecidableEq I] (rules : CookieRules I) :
    InnerJar (List Arrival) where
  new := []
  setCookies j url events := j ++ events.map (⟨url, ·⟩)
  cookies j url now :=
    ((Log.standing rules.identity Arrival.removes (j.filter rules.accepts)).filter
      (rules.applies · url now)).map fun a => (a.name, a.event.cookie.value)

theorem CookieRules.govern_keepAll {I : Type} [DecidableEq I] (rules : CookieRules I) :
    rules.Govern rules.keepAll := by
  have hreceive (j : List Arrival) (hop : ChainHop) :
      receiveCookies rules.keepAll j hop = j ++ hop.arrivals := by
    rw [receiveCookies, ChainHop.arrivals]
    split_ifs with hempty
    · rw [hempty, List.map_nil, List.append_nil]
    · rfl
  have hfold (past : List ChainHop) (j : List Arrival) :
      past.foldl (receiveCookies rules.keepAll) j = j ++ past.flatMap ChainHop.arrivals := by
    induction past generalizing j with
    | nil => exact (List.append_nil j).symm
    | cons hop past ih =>
      rw [List.foldl_cons, ih, hreceive, List.flatMap_cons, List.append_assoc]
  intro past url now
  rw [hfold]
  exact .rfl

/-- The rules for cookies with the path `/` and no domain or expiry. -/
def sessionRules : CookieRules (List Char × String) where
  accepts a := a.event.cookie.domain = "" && a.event.cookie.path = "/"
  identity a := (canonicalHost a.url.hostname, a.name)
  applies a url _ := canonicalHost a.url.hostname = canonicalHost url.hostname &&
    (!a.event.cookie.secure || url.scheme = .https)

/-- A request to `a.example` that sets a cookie `token`. -/
def tokenHop : ChainHop :=
  ⟨⟨.https, "a.example", "/"⟩, .zero,
    [⟨⟨"token", "new", "/", "", .zero, 0, false, false, 0⟩, .zero⟩]⟩

end CycleTLS
