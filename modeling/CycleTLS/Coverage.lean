import CycleTLS.Lib.Table
import CycleTLS.RoundTripper
import Mathlib.Data.Set.BooleanAlgebra
import Mathlib.Data.Set.Disjoint
import Mathlib.Order.CompletePartialOrder

/-!
# Which transport carries a request

A round tripper looks its transports up by address only, and takes 443 for the
port of a URL without one, whatever its scheme. A request is thus carried by a
transport of the other scheme where an `http` and an `https` URL have one
address.

Apart from that, `https` requests are carried by transports made after a
handshake with the fingerprint of the round tripper, unless a retry gives up a
JA4r fingerprint (`covered_of_disjoint`).
-/

namespace CycleTLS

namespace RoundTripper

variable {env : NetEnv} {rt : RoundTripper}

/-- A hello that is built from the fingerprint of the round tripper: the QUIC
    fingerprint if there is one, else JA4r if there is one, else JA3 or its
    default. -/
def OwnHello (rt : RoundTripper) : Hello → Prop
  | .quic quicFingerprint userAgent forceHTTP1 =>
    rt.quicFingerprint ≠ "" ∧ quicFingerprint = rt.quicFingerprint ∧ userAgent = rt.userAgent ∧
      forceHTTP1 = rt.forceHTTP1
  | .ja4r ja4r userAgent forceHTTP1 disableGrease _ ja3 =>
    rt.quicFingerprint = "" ∧ rt.ja4r ≠ "" ∧ ja4r = rt.ja4r ∧ userAgent = rt.userAgent ∧
      forceHTTP1 = rt.forceHTTP1 ∧ disableGrease = rt.disableGrease ∧ ja3 = rt.ja3
  | .ja3 ja3 userAgent forceHTTP1 | .tls13 ja3 userAgent forceHTTP1 =>
    rt.quicFingerprint = "" ∧ rt.ja4r = "" ∧
      ja3 = (if rt.ja3 = "" then defaultChromeJA3 else rt.ja3) ∧ userAgent = rt.userAgent ∧
      forceHTTP1 = rt.forceHTTP1

theorem ownHello_firstHello (serverName : String) : OwnHello rt (firstHello rt serverName).1 := by
  rw [firstHello]
  split_ifs with hq hj
  · exact ⟨hq, rfl, rfl, rfl⟩
  · exact ⟨not_not.1 hq, hj, rfl, rfl, rfl, rfl, rfl⟩
  all_goals
    simp only []
    split_ifs <;> exact ⟨not_not.1 hq, not_not.1 hj, by simp_all, rfl, rfl⟩

theorem firstHello_upgraded {serverName : String} (h : (firstHello rt serverName).2 = true) :
    rt.quicFingerprint = "" ∧ rt.ja4r = "" := by
  rw [firstHello] at h
  by_cases hq : rt.quicFingerprint = ""
  · by_cases hj : rt.ja4r = ""
    · exact ⟨hq, hj⟩
    · simp [hq, hj] at h
  · simp [hq] at h

/-- An attempt that leads to no retry which gives up the fingerprint: that is the
    retry of a handshake with a JA4r fingerprint. -/
def KeepsFingerprint (rt : RoundTripper) (a : Attempt) : Prop :=
  rt.quicFingerprint ≠ "" ∨ rt.ja4r = "" ∨ rt.tls13AutoRetry = false ∨ a ≠ .handshakeFails true

theorem Offered.ownHello {a : Attempt} {hello : Hello} (h : Offered rt a hello)
    (ha : KeepsFingerprint rt a) : OwnHello rt hello := by
  cases h with
  | first serverName => exact ownHello_firstHello serverName
  | original serverName _ hja3 hup =>
    obtain ⟨hq, hj⟩ := firstHello_upgraded hup
    exact ⟨hq, hj, (if_neg hja3).symm, rfl, rfl⟩
  | compatible hfirst hretry =>
    rw [compatibleHello]
    -- the compatible hello drops the JA4r fingerprint, which `ha` rules out
    split_ifs with hq hj hja3
    · exact ⟨hq, rfl, rfl, rfl⟩
    · rcases ha with h | h | h | h
      · exact absurd h hq
      · exact absurd h hj
      · rw [hretry] at h; cases h
      · exact absurd hfirst h
    · exact ⟨not_not.1 hq, not_not.1 hj, (if_neg hja3).symm, rfl, rfl⟩
    · exact ⟨not_not.1 hq, not_not.1 hj, (if_pos (not_not.1 hja3)).symm, rfl, rfl⟩

/-! ## The invariant -/

/-- Plaintext transports are cached under the addresses `plain` only, the others
    under the addresses `secure` and after a handshake with the fingerprint. -/
def Fits (rt : RoundTripper) (plain secure : Set String) (σ : State) : Prop :=
  ∀ addr t, σ.cachedTransports addr = some t → match t with
    | .plain => addr ∈ plain
    | .tls made => addr ∈ secure ∧ made.addr = addr ∧ OwnHello rt made.hello

variable {plain secure : Set String} {σ : State}

/-- What the addresses of a request have to be for its scheme, and its attempts
    for the fingerprint. -/
def Separate (env : NetEnv) (rt : RoundTripper) (plain secure : Set String) (hop : Hop) : Prop :=
  match hop.url.scheme with
  | .http => getDialTLSAddr hop.url ∈ plain
  | .https =>
    getDialTLSAddr hop.url ∈ secure ∧
      (hop.conditions.dials ≠ [] → env.canonicalAddr hop.url ∈ secure) ∧
      KeepsFingerprint rt hop.conditions.first ∧
      ∀ a ∈ hop.conditions.dials, KeepsFingerprint rt a.1
  | .other _ => True

/-- A request that is carried by the right transport. -/
def Carried (rt : RoundTripper) (url : URL) (t : Transport) : Prop :=
  (url.scheme = .http → t = .plain) ∧
    (url.scheme = .https →
      ∃ made, t = .tls made ∧ made.addr = getDialTLSAddr url ∧ OwnHello rt made.hello)

theorem carried_of_separate (hdis : Disjoint plain secure) {hop : Hop}
    (hsep : Separate env rt plain secure hop) {t : Transport} (ht : match t with
      | .plain => getDialTLSAddr hop.url ∈ plain
      | .tls made => getDialTLSAddr hop.url ∈ secure ∧ made.addr = getDialTLSAddr hop.url ∧
          OwnHello rt made.hello) : Carried rt hop.url t := by
  rw [Separate] at hsep
  refine ⟨fun hs => ?_, fun hs => ?_⟩
  · rw [hs] at hsep
    cases t with
    | plain => rfl
    | tls made => exact absurd ht.1 (Set.disjoint_left.1 hdis hsep)
  · rw [hs] at hsep
    cases t with
    | plain => exact absurd hsep.1 (Set.disjoint_left.1 hdis ht)
    | tls made => exact ⟨made, rfl, ht.2.1, ht.2.2⟩

variable (env) in
/-- A request supplies the transports that fit. -/
theorem Separate.supplies {hop : Hop} (h : Separate env rt plain secure hop) :
    Supplies env rt (fun addr t => match t with
      | .plain => addr ∈ plain
      | .tls made => addr ∈ secure ∧ made.addr = addr ∧ OwnHello rt made.hello) hop := by
  rw [Separate] at h
  rw [Supplies]
  cases hs : hop.url.scheme with
  | http =>
    rw [hs] at h
    exact h
  | https =>
    rw [hs] at h
    obtain ⟨haddr, hcanonical, hfirst, hdials⟩ := h
    refine ⟨fun conn hconn hconnected => ⟨hconn ▸ haddr, rfl, ?_⟩,
      fun a ha conn hconn hconnected => ⟨hconn ▸ ?_, rfl, ?_⟩⟩
    · exact hconnected.offered.ownHello hfirst
    · exact hcanonical (List.ne_nil_of_mem ha)
    · exact hconnected.offered.ownHello (hdials a ha)
  | other name => trivial

/-! ## Runs -/

/-- In a run, each request is carried by the right transport, and no `https`
    request looks up a plaintext one. -/
structure Covered (rt : RoundTripper) (run : List (Machine.Step State Use (Option Trip))) :
    Prop where
  carried : ∀ t ∈ run, ∀ hop trip transport, t.event = .roundTrip hop → t.output = some trip →
    trip.carrier = some transport → Carried rt hop.url transport
  lookup : ∀ t ∈ run, ∀ hop, t.event = .roundTrip hop → hop.url.scheme = .https →
    t.before.cachedTransports (getDialTLSAddr hop.url) ≠ some .plain

/-- The addresses of the `http` requests. -/
def plainAddrs (uses : List Use) : Set String :=
  {addr | ∃ hop, .roundTrip hop ∈ uses ∧ hop.url.scheme = .http ∧ addr = getDialTLSAddr hop.url}

/-- The addresses of the `https` requests, and those their transports dial. -/
def secureAddrs (env : NetEnv) (uses : List Use) : Set String :=
  {addr | ∃ hop, .roundTrip hop ∈ uses ∧ hop.url.scheme = .https ∧
    (addr = getDialTLSAddr hop.url ∨
      hop.conditions.dials ≠ [] ∧ addr = env.canonicalAddr hop.url)}

variable (env) in
theorem separate_of_mem {uses : List Use} {hop : Hop} (hhop : .roundTrip hop ∈ uses)
    (hfp : ∀ hop, .roundTrip hop ∈ uses → hop.url.scheme = .https →
      KeepsFingerprint rt hop.conditions.first ∧
        ∀ a ∈ hop.conditions.dials, KeepsFingerprint rt a.1) :
    Separate env rt (plainAddrs uses) (secureAddrs env uses) hop := by
  rw [Separate]
  cases hs : hop.url.scheme with
  | http => exact ⟨hop, hhop, hs, rfl⟩
  | https => exact ⟨⟨hop, hhop, hs, .inl rfl⟩, fun hd => ⟨hop, hhop, hs, .inr ⟨hd, rfl⟩⟩,
      hfp hop hhop hs⟩
  | other name => trivial

/-- Requests are carried by the right transports in every run in which no address
    of an `http` request is one of an `https` request, and which gives no JA4r
    fingerprint up for a retry. -/
theorem covered_of_disjoint (env : NetEnv) (rt : RoundTripper) (uses : List Use)
    (hdis : Disjoint (plainAddrs uses) (secureAddrs env uses))
    (hfp : ∀ hop, .roundTrip hop ∈ uses → hop.url.scheme = .https →
      KeepsFingerprint rt hop.conditions.first ∧
        ∀ a ∈ hop.conditions.dials, KeepsFingerprint rt a.1) :
    Covered rt (Machine.trace (step env rt) .new uses) := by
  have hsep (hop : Hop) (hhop : .roundTrip hop ∈ uses) :=
    separate_of_mem env hhop hfp
  have hrun := caches_trace fun hop hhop => (hsep hop hhop).supplies env
  have huse (t : Machine.Step State Use (Option Trip)) (ht : t ∈ Machine.trace (step env rt) .new
      uses) (hop : Hop) (hh : t.event = .roundTrip hop) : .roundTrip hop ∈ uses := by
    rw [← hh, ← Machine.map_event_trace (step env rt) .new uses]
    exact List.mem_map_of_mem ht
  refine ⟨fun t ht hop trip transport hh ho hc => ?_, fun t ht hop hh hs hplain => ?_⟩
  · exact carried_of_separate hdis (hsep hop (huse t ht hop hh))
      ((hrun t ht).2 hop trip transport hh ho hc)
  · have hfits : Fits rt (plainAddrs uses) (secureAddrs env uses) t.before := (hrun t ht).1
    -- a plaintext transport found for an `https` URL would be kept under one of its addresses
    exact Set.disjoint_left.1 hdis (hfits _ _ hplain) ⟨hop, huse t ht hop hh, hs, .inl rfl⟩

/-- A request of a host that answers at once. -/
def Hop.simple (scheme : Scheme) (host : String) : Hop :=
  ⟨⟨scheme, host, "/"⟩, ⟨.connects false, .dialFails, [], true, true, true⟩⟩

/-- For two hosts the condition is met. -/
theorem covered_two_hosts :
    Covered (newRoundTripper {} .direct 0) (Machine.trace
      (step ⟨fun _ => true, fun url => url.host ++ ":443"⟩ (newRoundTripper {} .direct 0)) .new
      [.roundTrip (.simple .http "a"), .roundTrip (.simple .https "b")]) := by
  refine covered_of_disjoint _ _ _ ?_ fun _ _ _ => ⟨.inr (.inl rfl), fun _ _ => .inr (.inl rfl)⟩
  rw [Set.disjoint_left]
  rintro addr ⟨r, hr, hrs, rfl⟩ ⟨s, hs, hss, haddr⟩
  simp only [List.mem_cons, List.not_mem_nil, or_false, Use.roundTrip.injEq] at hr hs
  rcases hr with rfl | rfl
  · rcases hs with rfl | rfl
    · cases hss
    · revert haddr
      decide +kernel
  · cases hrs

/-- A plaintext transport is looked up for the `https` URL of the same host. -/
theorem not_forall_covered : ¬∀ (env : NetEnv) (rt : RoundTripper) (uses : List Use),
    rt.forceHTTP3 = false → Covered rt (Machine.trace (step env rt) .new uses) := by
  intro h
  let env : NetEnv := ⟨fun _ => true, fun url => url.host ++ ":443"⟩
  let rt := newRoundTripper {} .direct 0
  let after := (step env rt .new (.roundTrip (.simple .http "h"))).1
  refine (h env rt [.roundTrip (.simple .http "h"), .roundTrip (.simple .https "h")] rfl).lookup
    ⟨after, .roundTrip (.simple .https "h"), _⟩ (.tail _ (.head _)) (.simple .https "h") rfl rfl ?_
  decide +kernel

end RoundTripper

end CycleTLS
