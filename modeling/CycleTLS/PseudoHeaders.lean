import CycleTLS.HeaderOrders
import CycleTLS.Lib.Machine

/-!
# The order of pseudo headers on the hops of a request

The order of the pseudo headers is for a transport of HTTP/2 only. It is put into the header under
a key of its own where the request is made, unless that is for HTTP/3, and once more by `RoundTrip`
if the HTTP/2 fingerprint has an order. Only before a transport of HTTP/1 is the key taken off
again, from a copy of the header. So the key gets into requests over HTTP/3 if the fingerprint has
an order, or the caller names the key itself (`hintsStay_iff`).
-/

namespace CycleTLS

/-- The protocol of a transport. -/
inductive HopProtocol
  | http1
  | http2
  | http3
  deriving DecidableEq

/-- A hop: the header it starts with, the one its transport is handed, and the one that the caller
    has afterwards. -/
structure HandedHop where
  protocol : HopProtocol
  before : GoHeader
  handed : GoHeader
  caller : GoHeader

/-- The key is kept from other transports than those of HTTP/2, and for these. -/
structure HandedHop.Clean (hop : HandedHop) : Prop where
  offWire : hop.protocol ≠ .http2 → hop.handed.get? pHeaderOrderKey = none
  kept : hop.protocol = .http1 → (hop.before.get? pHeaderOrderKey).isSome = true →
    (hop.caller.get? pHeaderOrderKey).isSome = true
  ordered : hop.protocol = .http2 → (hop.before.get? pHeaderOrderKey).isSome = true →
    (hop.handed.get? pHeaderOrderKey).isSome = true

namespace RoundTripper

variable (headerEnv : HeaderEnv) (rt : RoundTripper)

/-- The header of a request before `RoundTrip` looks at the protocol. -/
def orderedHeader (h : GoHeader) : Option GoHeader :=
  let h := rt.applyHeader headerEnv h
  if rt.http2Fingerprint ≠ "" then
    (headerEnv.pseudoHeaderOrder rt.http2Fingerprint).map fun order =>
      if order.length > 0 then h.set pHeaderOrderKey order else h
  else some h

/-- The header of the caller after that: an order of headers makes another map, which stays with
    the copy of the request if the client made one. -/
def callerHeader (forked : Bool) (h ordered : GoHeader) : GoHeader :=
  if forked && rt.headerOrder.length > 0 then rt.agentHeader headerEnv h else ordered

/-- The protocol of a hop, whose transport is of HTTP/2 or not. -/
def hopProtocol (h2 : Bool) : HopProtocol :=
  if rt.forceHTTP3 then .http3 else if h2 then .http2 else .http1

/-- A hop with a header, unless the HTTP/2 fingerprint does not parse. -/
def hand (h2 forked : Bool) (h : GoHeader) : Option HandedHop :=
  (rt.orderedHeader headerEnv h).map fun ordered =>
    { protocol := rt.hopProtocol h2
      before := h
      handed := if !rt.forceHTTP3 && !h2 then ordered.erase pHeaderOrderKey else ordered
      caller := rt.callerHeader headerEnv forked h ordered }

/-- What a hop hands over is what `handedHeader` says. -/
theorem handed_hand (h2 forked : Bool) (h : GoHeader) :
    (rt.hand headerEnv h2 forked h).map HandedHop.handed = rt.handedHeader headerEnv h2 h :=
  Option.map_map ..

end RoundTripper

/-- An HTTP/2 fingerprint has an order of pseudo headers. -/
def HeaderEnv.Orders (headerEnv : HeaderEnv) (fingerprint : String) : Prop :=
  fingerprint ≠ "" ∧ ∃ order, headerEnv.pseudoHeaderOrder fingerprint = some order ∧ order ≠ []

/-! ## Hops -/

/-- How a client makes the header of a later hop from that of the first request. It leaves out what
    is for the first host only. -/
structure Redirects where
  forward : Nat → GoHeader → GoHeader
  get?_forward : ∀ n h, (forward n h).get? pHeaderOrderKey = h.get? pHeaderOrderKey

/-- A request on its way: the copy of its header that a client makes first, its header, and the
    number of hops. -/
structure Travelling where
  copied : GoHeader
  header : GoHeader
  hops : Nat

/-- A next hop: one that the client makes, or that of a request which is sent again. -/
inductive NextHop
  | follow (h2 forked : Bool)
  | retry (h2 forked : Bool)

namespace Travelling

/-- A request that is made with a header. -/
def new (h : GoHeader) : Travelling := ⟨h, h, 0⟩

variable (headerEnv : HeaderEnv) (rt : RoundTripper) (redirects : Redirects)

/-- A hop of a request. -/
def step (s : Travelling) : NextHop → Travelling × Option HandedHop
  | .follow h2 forked =>
    if s.hops = 0 then
      let hop := rt.hand headerEnv h2 forked s.header
      ({ s with header := (hop.map HandedHop.caller).getD s.header, hops := 1 }, hop)
    else
      ({ s with hops := s.hops + 1 },
        rt.hand headerEnv h2 forked (redirects.forward s.hops s.copied))
  | .retry h2 forked => (s, rt.hand headerEnv h2 forked s.header)

end Travelling

/-! ## Requests -/

/-- The ways to make a request with a round tripper: `Do`, and the requests and streams of
    `processRequest`. -/
inductive RequestEntry
  | direct
  | request (host : String)
  | events

namespace RequestEntry

variable (env : BuilderEnv) (o : RequestOptions)

/-- The header of a request. -/
def header : RequestEntry → GoHeader
  | direct => o.doHeader env
  | request host =>
    if o.protocol = "http3" ∨ o.forceHTTP3 then o.http3Header env host else o.processHeader env host
  | events => o.sseHeader env

/-- Its client is for HTTP/3. -/
def forcesHTTP3 : RequestEntry → Bool
  | direct => o.forceHTTP3
  | request _ => o.protocol = "http3" || o.forceHTTP3
  | events => o.forceHTTP3

end RequestEntry

namespace RequestOptions

variable (env : BuilderEnv) (headerEnv : HeaderEnv) (o : RequestOptions)

/-- On all hops of a request, the key is kept from other transports than those of HTTP/2, and for
    these. -/
def HintsStay (entry : RequestEntry) : Prop :=
  ∀ rt : RoundTripper, rt.http2Fingerprint = o.http2Fingerprint →
    rt.forceHTTP3 = entry.forcesHTTP3 o → ∀ (redirects : Redirects) (hops : List NextHop),
      ∀ t ∈ Machine.trace (Travelling.step headerEnv rt redirects) (.new (entry.header env o)) hops,
        ∀ hop ∈ t.output, hop.Clean

end RequestOptions

/-! ## One hop -/

namespace RoundTripper

variable {headerEnv : HeaderEnv} {rt : RoundTripper} {h : GoHeader}

/-- The key is in a header of `RoundTrip` if it was before, or the fingerprint has an order. -/
theorem get?_orderedHeader_eq_none_iff {ordered : GoHeader}
    (hordered : rt.orderedHeader headerEnv h = some ordered) :
    ordered.get? pHeaderOrderKey = none ↔
      h.get? pHeaderOrderKey = none ∧ ¬headerEnv.Orders rt.http2Fingerprint := by
  have happly : (rt.applyHeader headerEnv h).get? pHeaderOrderKey = h.get? pHeaderOrderKey :=
    get?_applyHeader_of_ne (by decide) (by decide)
  rw [orderedHeader] at hordered
  by_cases hfingerprint : rt.http2Fingerprint ≠ ""
  · rw [if_pos hfingerprint] at hordered
    obtain ⟨order, horder, rfl⟩ := Option.map_eq_some_iff.1 hordered
    have horders : headerEnv.Orders rt.http2Fingerprint ↔ order ≠ [] := by
      simp [HeaderEnv.Orders, hfingerprint, horder]
    rw [horders]
    split_ifs with hlength
    · rw [Dict.get?_set, Function.update_self]
      exact iff_of_false (by rintro ⟨⟩) fun h => h.2 (List.ne_nil_of_length_pos hlength)
    · rw [happly, and_iff_left fun hne => hlength (List.length_pos_of_ne_nil hne)]
  · rw [if_neg hfingerprint] at hordered
    rw [← Option.some.inj hordered, happly, and_iff_left fun horders => hfingerprint horders.1]

theorem isSome_get?_orderedHeader {ordered : GoHeader}
    (hordered : rt.orderedHeader headerEnv h = some ordered)
    (hsome : (h.get? pHeaderOrderKey).isSome = true) :
    (ordered.get? pHeaderOrderKey).isSome = true := by
  rw [Option.isSome_iff_ne_none] at hsome ⊢
  exact fun hnone => hsome ((get?_orderedHeader_eq_none_iff hordered).1 hnone).1

theorem isSome_get?_callerHeader {ordered : GoHeader} {forked : Bool}
    (hordered : rt.orderedHeader headerEnv h = some ordered)
    (hsome : (h.get? pHeaderOrderKey).isSome = true) :
    ((rt.callerHeader headerEnv forked h ordered).get? pHeaderOrderKey).isSome = true := by
  rw [callerHeader]
  split_ifs
  · rw [get?_agentHeader_of_ne (by decide) (by decide)]
    exact hsome
  · exact isSome_get?_orderedHeader hordered hsome

theorem get?_callerHeader_eq_none {ordered : GoHeader} {forked : Bool}
    (hordered : rt.orderedHeader headerEnv h = some ordered) (hnone : h.get? pHeaderOrderKey = none)
    (horders : ¬headerEnv.Orders rt.http2Fingerprint) :
    (rt.callerHeader headerEnv forked h ordered).get? pHeaderOrderKey = none := by
  rw [callerHeader]
  split_ifs
  · rw [get?_agentHeader_of_ne (by decide) (by decide), hnone]
  · exact (get?_orderedHeader_eq_none_iff hordered).2 ⟨hnone, horders⟩

/-- A hop is clean unless it is over HTTP/3 and the key is in its header, or put there. -/
theorem clean_hand_iff {h2 forked : Bool} {hop : HandedHop}
    (hhop : rt.hand headerEnv h2 forked h = some hop) :
    hop.Clean ↔ (rt.forceHTTP3 = true →
      h.get? pHeaderOrderKey = none ∧ ¬headerEnv.Orders rt.http2Fingerprint) := by
  obtain ⟨ordered, hordered, rfl⟩ := Option.map_eq_some_iff.1 hhop
  rw [← get?_orderedHeader_eq_none_iff hordered]
  cases h3 : rt.forceHTTP3 with
  | true =>
    have hprotocol : rt.hopProtocol h2 = .http3 := if_pos h3
    constructor
    · intro hclean _
      exact hclean.offWire fun h2 => nomatch hprotocol.symm.trans h2
    · intro hnone
      refine ⟨fun _ => hnone rfl, fun h1 => ?_, fun h2 => ?_⟩
      · exact nomatch hprotocol.symm.trans h1
      · exact nomatch hprotocol.symm.trans h2
  | false =>
    have hprotocol : rt.hopProtocol h2 = if h2 then .http2 else .http1 := by
      rw [hopProtocol, h3, if_neg Bool.false_ne_true]
    cases h2 with
    | true =>
      refine iff_of_true ⟨fun hne => absurd hprotocol hne,
        fun _ => isSome_get?_callerHeader hordered,
        fun _ => isSome_get?_orderedHeader hordered⟩ nofun
    | false =>
      refine iff_of_true ⟨fun _ => Dict.get?_erase_self ordered pHeaderOrderKey,
        fun _ => isSome_get?_callerHeader hordered, fun hhttp2 => ?_⟩ nofun
      exact nomatch hprotocol.symm.trans hhttp2

end RoundTripper

/-! ## All hops -/

namespace Travelling

variable {headerEnv : HeaderEnv} {rt : RoundTripper} {redirects : Redirects} {s : Travelling}

/-- Over HTTP/3, the key is in none of the headers. -/
def Plain (rt : RoundTripper) (s : Travelling) : Prop :=
  rt.forceHTTP3 = true →
    s.copied.get? pHeaderOrderKey = none ∧ s.header.get? pHeaderOrderKey = none

/-- Where the fingerprint has no order, a plain request stays plain, and its hops are clean. -/
theorem step_spec (horders : rt.forceHTTP3 = true → ¬headerEnv.Orders rt.http2Fingerprint)
    (h : s.Plain rt) (next : NextHop) :
    (step headerEnv rt redirects s next).1.Plain rt ∧
      ∀ hop ∈ (step headerEnv rt redirects s next).2, hop.Clean := by
  have hclean {h2 forked : Bool} {header : GoHeader}
      (hnone : rt.forceHTTP3 = true → header.get? pHeaderOrderKey = none) :
      ∀ hop ∈ rt.hand headerEnv h2 forked header, hop.Clean := fun hop hhop =>
    (RoundTripper.clean_hand_iff hhop).2 fun h3 => ⟨hnone h3, horders h3⟩
  cases next with
  | retry h2 forked => exact ⟨h, hclean fun h3 => (h h3).2⟩
  | follow h2 forked =>
    rw [step]
    split_ifs
    · refine ⟨fun h3 => ⟨(h h3).1, ?_⟩, hclean fun h3 => (h h3).2⟩
      cases hordered : rt.orderedHeader headerEnv s.header with
      | none =>
        rw [RoundTripper.hand, hordered]
        exact (h h3).2
      | some ordered =>
        rw [RoundTripper.hand, hordered]
        exact RoundTripper.get?_callerHeader_eq_none hordered (h h3).2 (horders h3)
    · exact ⟨h, hclean fun h3 => (redirects.get?_forward _ _).trans (h h3).1⟩

/-- All hops are clean, over other protocols than HTTP/3 and where the key is not put into a header
    that does not have it. -/
theorem clean_trace (horders : rt.forceHTTP3 = true → ¬headerEnv.Orders rt.http2Fingerprint)
    (h : s.Plain rt) (hops : List NextHop) :
    ∀ t ∈ Machine.trace (step headerEnv rt redirects) s hops, ∀ hop ∈ t.output, hop.Clean :=
  fun t ht => (Machine.trace_of_inv (step headerEnv rt redirects) (Plain rt) (fun _ _ => True)
    (fun _ _ output => ∀ hop ∈ output, hop.Clean) (fun _ next hs _ => step_spec horders hs next) h
    (fun _ _ => trivial) t ht).2

theorem clean_trace_of_fails
    (hnone : ∀ h2 forked (h : GoHeader), rt.hand headerEnv h2 forked h = none)
    (hops : List NextHop) :
    ∀ t ∈ Machine.trace (step headerEnv rt redirects) s hops, ∀ hop ∈ t.output, hop.Clean := by
  refine fun t ht => (Machine.trace_of_inv (step headerEnv rt redirects) (fun _ => True)
    (fun _ _ => True) (fun _ _ output => ∀ hop ∈ output, hop.Clean)
    (fun s next _ _ => ⟨trivial, ?_⟩) trivial (fun _ _ => trivial) t ht).2
  cases next with
  | retry h2 forked =>
    rw [step, hnone]
    exact nofun
  | follow h2 forked =>
    rw [step]
    split_ifs
    · rw [hnone]
      exact nofun
    · rw [hnone]
      exact nofun

end Travelling

namespace RequestOptions

variable {env : BuilderEnv} {headerEnv : HeaderEnv} {o : RequestOptions} {entry : RequestEntry}

theorem hand_eq_none_of_fails (hfails : o.FingerprintFails headerEnv) {rt : RoundTripper}
    (hrt : rt.http2Fingerprint = o.http2Fingerprint) (h2 forked : Bool) (h : GoHeader) :
    rt.hand headerEnv h2 forked h = none :=
  Option.map_eq_none_iff.1
    ((rt.handed_hand headerEnv h2 forked h).trans (handedHeader_eq_none hfails hrt))

/-- The key for the order of pseudo headers stays off the wire exactly if the client is not for
    HTTP/3, or nothing is sent at all, or neither the caller nor the fingerprint gives an order. -/
theorem hintsStay_iff : o.HintsStay env headerEnv entry ↔
    (entry.forcesHTTP3 o = true → o.FingerprintFails headerEnv ∨
      (entry.header env o).get? pHeaderOrderKey = none ∧ ¬headerEnv.Orders o.http2Fingerprint) := by
  constructor
  · intro hstay h3
    rw [or_iff_not_imp_left]
    intro hfails
    let rt : RoundTripper :=
      { newRoundTripper o.browser .direct 0 with forceHTTP3 := entry.forcesHTTP3 o }
    have hsome : (rt.hand headerEnv false false (entry.header env o)).isSome = true := by
      have hhanded : (rt.handedHeader headerEnv false (entry.header env o)).isSome = true :=
        RoundTripper.isSome_handedHeader (parses_of_not_fails hfails rfl)
      rwa [← RoundTripper.handed_hand headerEnv rt false false, Option.isSome_map] at hhanded
    obtain ⟨hop, hhop⟩ := Option.isSome_iff_exists.1 hsome
    have hclean := hstay rt rfl rfl ⟨fun _ h => h, fun _ _ => rfl⟩ [.follow false false] _
      List.mem_cons_self hop hhop
    exact (RoundTripper.clean_hand_iff hhop).1 hclean h3
  · intro hcondition rt hrt hforce redirects hops
    by_cases hfails : o.FingerprintFails headerEnv
    · exact Travelling.clean_trace_of_fails (hand_eq_none_of_fails hfails hrt) hops
    · refine Travelling.clean_trace (fun h3 => ?_) (fun h3 => ?_) hops
      · rw [hrt]
        exact ((hcondition (hforce.symm.trans h3)).resolve_left hfails).2
      · have hnone := ((hcondition (hforce.symm.trans h3)).resolve_left hfails).1
        exact ⟨hnone, hnone⟩

/-- A request over HTTP/3 with an HTTP/2 fingerprint. -/
theorem not_forall_hintsStay : ¬∀ (env : BuilderEnv) (headerEnv : HeaderEnv) (o : RequestOptions)
    (entry : RequestEntry), o.HintsStay env headerEnv entry := by
  intro h
  let o : RequestOptions := { http2Fingerprint := "1:65536|0|0|m,a,s,p", forceHTTP3 := true }
  let headerEnv : HeaderEnv :=
    ⟨fun _ => "", fun _ => some [":method", ":authority", ":scheme", ":path"]⟩
  let rt := newRoundTripper o.browser .direct 0
  have hhop : rt.hand headerEnv false false (o.doHeader (.ascii fun _ => none)) = some _ := rfl
  have hclean := h (.ascii fun _ => none) headerEnv o .direct rt rfl rfl
    ⟨fun _ h => h, fun _ _ => rfl⟩ [.follow false false] _ List.mem_cons_self _ hhop
  have horders := (RoundTripper.clean_hand_iff hhop).1 hclean rfl
  exact horders.2 ⟨by decide, _, rfl, List.cons_ne_nil _ _⟩

end RequestOptions

end CycleTLS
