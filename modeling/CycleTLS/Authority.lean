import CycleTLS.RoundTripper

/-!
# Hosts, with and without a port

The host of a URL is a name or an IP address, an IPv6 address being written in brackets, and a port
may follow it. A round tripper caches by the address it makes of that (`getDialTLSAddr`), and after
a request the address to keep is made of it once more, by another rule (`keptAddr`).

The two agree if there is a port. Without one, only the name or IPv4 address of an `https` URL is
dealt with alike (`consistent_toURL_iff`): the first puts 443 on any host, and a second pair of
brackets around the one there is, the second takes the colons of an IPv6 address for that of a port.
-/

namespace CycleTLS

/-! ## Authorities -/

/-- A host: a name, an IPv4 address, or an IPv6 address, which is one with a colon. -/
structure Host where
  text : String
  noBracket : '[' ∉ text.toList ∧ ']' ∉ text.toList

/-- A host is an IPv6 address. -/
def Host.IsIPv6 (host : Host) : Prop := ':' ∈ host.text.toList
  deriving Decidable

/-- A host as it stands in a URL. -/
def Host.written (host : Host) : List Char :=
  if host.IsIPv6 then '[' :: host.text.toList ++ [']'] else host.text.toList

/-- A host, and the digits behind its colon if there is one. -/
structure Authority where
  host : Host
  port : Option (List Char)
  digits : ∀ p ∈ port, validPort p = true

namespace Authority

/-- What follows the host. -/
def suffix (a : Authority) : List Char := a.port.elim [] (':' :: ·)

/-- An authority as it stands in a URL. -/
def text (a : Authority) : String := String.ofList (a.host.written ++ a.suffix)

/-- There is a port. -/
def HasPort (a : Authority) : Prop := ∃ p, a.port = some p ∧ p ≠ []

/-- The port, or the one that is meant without any. -/
def portOr (a : Authority) (default : String) : String :=
  match a.port with
  | some (c :: p) => String.ofList (c :: p)
  | _ => default

end Authority

/-! ## Taking the two apart -/

theorem cutLast_eq_none_iff {sep : Char} {s : List Char} : cutLast sep s = none ↔ sep ∉ s := by
  induction s with
  | nil => exact iff_of_true rfl List.not_mem_nil
  | cons c s ih =>
    rw [List.mem_cons, not_or, ← ih, cutLast]
    cases cutLast sep s with
    | some cut => simp
    | none => simp [eq_comm]

theorem cutLast_append {sep : Char} (before : List Char) {after : List Char} (h : sep ∉ after) :
    cutLast sep (before ++ sep :: after) = some (before, after) := by
  induction before with
  | nil => rw [List.nil_append, cutLast, cutLast_eq_none_iff.2 h, if_pos rfl]
  | cons c before ih => rw [List.cons_append, cutLast, ih]

theorem eq_append_of_cutLast {sep : Char} {s before after : List Char}
    (h : cutLast sep s = some (before, after)) : s = before ++ sep :: after ∧ sep ∉ after := by
  induction s generalizing before after with
  | nil => cases h
  | cons c s ih =>
    rw [cutLast] at h
    cases hcut : cutLast sep s with
    | none =>
      rw [hcut] at h
      dsimp only at h
      split_ifs at h with hc
      cases h
      exact ⟨congrArg (· :: s) hc, cutLast_eq_none_iff.1 hcut⟩
    | some cut =>
      rw [hcut] at h
      cases h
      obtain ⟨hs, hafter⟩ := ih hcut
      exact ⟨congrArg (c :: ·) hs, hafter⟩

theorem not_mem_of_validPort {p : List Char} (h : validPort p = true) {c : Char}
    (hc : c.isDigit = false) : c ∉ p := fun hmem =>
  Bool.false_ne_true (hc.symm.trans (List.all_eq_true.1 h c hmem))

namespace Host

variable {host : Host}

theorem written_of_isIPv6 (h : host.IsIPv6) : host.written = '[' :: host.text.toList ++ [']'] :=
  if_pos h

theorem written_of_not_isIPv6 (h : ¬host.IsIPv6) : host.written = host.text.toList := if_neg h

/-- Only an IPv6 address is written with a bracket at the front. -/
theorem head?_written_append (h : ¬host.IsIPv6) {s : List Char} (hs : s.head? ≠ some '[') :
    (host.written ++ s).head? ≠ some '[' := by
  rw [written_of_not_isIPv6 h]
  cases htext : host.text.toList with
  | nil => exact hs
  | cons c t =>
    intro hc
    refine host.noBracket.1 ?_
    rw [htext, Option.some.inj hc]
    exact List.mem_cons_self

/-- Joined with a port, a host is written as in a URL. -/
theorem joinHostPort_text (host : Host) (port : List Char) :
    joinHostPort host.text (String.ofList port) = String.ofList (host.written ++ ':' :: port) := by
  rw [← String.toList_inj, joinHostPort]
  by_cases h6 : ':' ∈ host.text.toList
  · rw [if_pos h6, written_of_isIPv6 h6]
    simp
  · rw [if_neg h6, written_of_not_isIPv6 h6]
    simp

/-- A host and its port can be taken apart. -/
theorem splitHostPort_written (host : Host) {port : List Char} (h : validPort port = true) :
    splitHostPort (String.ofList (host.written ++ ':' :: port)) =
      some (host.text, String.ofList port) := by
  have hopen : '[' ∉ port := not_mem_of_validPort h rfl
  have hclose : ']' ∉ port := not_mem_of_validPort h rfl
  rw [splitHostPort, String.toList_ofList, cutLast_append _ (not_mem_of_validPort h rfl)]
  dsimp only
  by_cases h6 : host.IsIPv6
  · rw [written_of_isIPv6 h6]
    have hhead : ('[' :: host.text.toList ++ [']'] ++ ':' :: port).head? = some '[' := rfl
    rw [if_pos hhead, List.getLast?_concat, List.dropLast_concat,
      if_pos ⟨rfl, by simpa using host.noBracket.2⟩]
    simp [host.noBracket, hopen, hclose]
  · rw [if_neg (head?_written_append h6 (by simp)), written_of_not_isIPv6 h6]
    have hcolon : ':' ∉ host.text.toList := h6
    simp [hcolon, host.noBracket, hopen, hclose]

/-- Without a port there is nothing to take apart. -/
theorem splitHostPort_written_eq_none (host : Host) :
    splitHostPort (String.ofList host.written) = none := by
  rw [splitHostPort, String.toList_ofList]
  by_cases h6 : host.IsIPv6
  · rw [written_of_isIPv6 h6]
    cases hcut : cutLast ':' ('[' :: host.text.toList ++ [']']) with
    | none => rfl
    | some cut =>
      obtain ⟨before, after⟩ := cut
      -- the last colon is inside of the brackets
      have hbefore : before ++ [':'] <+: '[' :: host.text.toList ++ [']'] :=
        ⟨after, by rw [(eq_append_of_cutLast hcut).1, List.append_assoc, List.singleton_append]⟩
      have hclose : ']' ∉ before := by
        rcases List.prefix_concat_iff.1 hbefore with h | h
        · exact absurd (List.append_inj_right' h rfl) (by decide)
        · intro hmem
          have hmem' := h.subset (List.mem_append_left [':'] hmem)
          rw [List.mem_cons] at hmem'
          exact hmem'.elim (by decide) host.noBracket.2
      have hlast : before.getLast? ≠ some ']' := fun h => hclose (List.mem_of_getLast? h)
      simp [hlast]
  · rw [written_of_not_isIPv6 h6, cutLast_eq_none_iff.2 h6]

/-- An IPv6 address gets a second pair of brackets, and the two cannot be taken apart again. -/
theorem splitHostPort_joinHostPort_written (h6 : host.IsIPv6) {port : List Char}
    (h : validPort port = true) :
    splitHostPort (joinHostPort (String.ofList host.written) (String.ofList port)) = none := by
  have hcolon : ':' ∈ (String.ofList host.written).toList := by
    rw [String.toList_ofList, written_of_isIPv6 h6]
    exact List.mem_append_left _ (List.mem_cons_of_mem _ h6)
  have hlist : ("[" ++ String.ofList host.written ++ "]:" ++ String.ofList port).toList =
      ('[' :: host.written ++ [']']) ++ ':' :: port := by simp
  have hhead : ('[' :: host.written ++ [']'] ++ ':' :: port).head? = some '[' := rfl
  have hclose : ']' ∈ '[' :: host.written := by
    rw [written_of_isIPv6 h6]
    exact List.mem_cons_of_mem _ (List.mem_append_right _ List.mem_cons_self)
  rw [joinHostPort, if_pos hcolon, splitHostPort, hlist,
    cutLast_append _ (not_mem_of_validPort h rfl)]
  dsimp only
  rw [if_pos hhead, List.dropLast_concat, if_neg fun h => h.2 hclose]

end Host

namespace Authority

variable {a : Authority}

theorem text_of_none (h : a.port = none) : a.text = String.ofList a.host.written := by
  rw [text, suffix, h, Option.elim_none, List.append_nil]

theorem text_of_some {p : List Char} (h : a.port = some p) :
    a.text = String.ofList (a.host.written ++ ':' :: p) := by
  rw [text, suffix, h, Option.elim_some]

theorem portOr_of_hasPort (h : a.HasPort) (default : String) : ∃ p, a.port = some p ∧
    a.portOr default = String.ofList p := by
  obtain ⟨p, hp, hne⟩ := h
  obtain ⟨c, p, rfl⟩ := List.exists_cons_of_ne_nil hne
  exact ⟨c :: p, hp, by rw [portOr, hp]⟩

theorem portOr_of_not_hasPort (h : ¬a.HasPort) (default : String) : a.portOr default = default := by
  rw [portOr]
  split
  · next c p hp => exact absurd ⟨c :: p, hp, List.cons_ne_nil c p⟩ h
  · rfl

/-- The address of an authority can be dialed as it is, exactly if it has a port. -/
theorem splitHostPort_text_iff {default : String} (hdefault : default ≠ "") :
    splitHostPort a.text = some (a.host.text, a.portOr default) ↔ a.HasPort := by
  constructor
  · intro h
    by_contra hport
    rw [portOr_of_not_hasPort hport] at h
    cases hp : a.port with
    | none =>
      rw [text_of_none hp, Host.splitHostPort_written_eq_none] at h
      cases h
    | some p =>
      have hempty : p = [] := by
        by_contra hne
        exact hport ⟨p, hp, hne⟩
      rw [text_of_some hp, Host.splitHostPort_written _ (a.digits p hp), hempty] at h
      exact hdefault (congrArg Prod.snd (Option.some.inj h)).symm
  · intro h
    obtain ⟨p, hp, hor⟩ := portOr_of_hasPort h default
    rw [hor, text_of_some hp, Host.splitHostPort_written _ (a.digits p hp)]

end Authority

/-! ## The address that is dialed, and the one that is kept -/

/-- The address `dispatcherAsync` has kept after a request. -/
def keptAddr (url : URL) : String :=
  if ':' ∈ url.host.toList then url.host
  else if url.scheme = .https then url.host ++ ":443"
  else url.host ++ ":80"

/-- The URL of a request: an `https` URL, or an `http` URL. -/
structure RequestURL where
  secure : Bool
  authority : Authority
  path : String

namespace RequestURL

/-- The URL. -/
def toURL (u : RequestURL) : URL where
  scheme := if u.secure then .https else .http
  host := u.authority.text
  path := u.path

/-- The port of a scheme. -/
def defaultPort (u : RequestURL) : String := if u.secure then "443" else "80"

/-- The address that a connection is cached by can be dialed, and is the one that is kept. -/
structure Consistent (u : RequestURL) : Prop where
  dialable : splitHostPort (RoundTripper.getDialTLSAddr u.toURL) =
    some (u.authority.host.text, u.authority.portOr u.defaultPort)
  kept : keptAddr u.toURL = RoundTripper.getDialTLSAddr u.toURL

/-- The connection that was used is kept. -/
theorem Consistent.cached {u : RequestURL} (h : u.Consistent) (σ : RoundTripper.State) :
    let σ' := RoundTripper.closeIdleConnections σ (keptAddr u.toURL)
    let addr := RoundTripper.getDialTLSAddr u.toURL
    σ'.cachedTransports addr = σ.cachedTransports addr ∧
      σ'.cachedConnections addr = σ.cachedConnections addr := by
  simp [RoundTripper.closeIdleConnections, h.kept]

variable {u : RequestURL}

/-- With a port, the address is what stands in the URL. -/
theorem getDialTLSAddr_of_some {p : List Char} (hp : u.authority.port = some p) :
    RoundTripper.getDialTLSAddr u.toURL = u.authority.text := by
  have hsplit := Host.splitHostPort_written u.authority.host (u.authority.digits p hp)
  rw [← Authority.text_of_some hp] at hsplit
  rw [RoundTripper.getDialTLSAddr, toURL, hsplit]
  exact (Host.joinHostPort_text _ _).trans (Authority.text_of_some hp).symm

/-- Without a port, the address has 443, and the host is written as it stands in the URL. -/
theorem getDialTLSAddr_of_none (hp : u.authority.port = none) :
    RoundTripper.getDialTLSAddr u.toURL =
      joinHostPort (String.ofList u.authority.host.written) "443" := by
  rw [RoundTripper.getDialTLSAddr, toURL, Authority.text_of_none hp,
    Host.splitHostPort_written_eq_none]

theorem keptAddr_of_some {p : List Char} (hp : u.authority.port = some p) :
    keptAddr u.toURL = u.authority.text := by
  have hcolon : ':' ∈ u.toURL.host.toList := by
    rw [toURL, Authority.text_of_some hp, String.toList_ofList]
    exact List.mem_append_right _ List.mem_cons_self
  exact if_pos hcolon

/-- An address without a port is the one that is kept, and can be dialed, only if it is that of a
    name or an IPv4 address in an `https` URL. -/
theorem consistent_iff_of_none (hp : u.authority.port = none) :
    u.Consistent ↔ u.secure = true ∧ ¬u.authority.host.IsIPv6 := by
  have hkey := getDialTLSAddr_of_none hp
  by_cases h6 : u.authority.host.IsIPv6
  · refine iff_of_false (fun h => ?_) fun h => h.2 h6
    have hdialable := h.dialable
    rw [hkey, show "443" = String.ofList ['4', '4', '3'] from rfl,
      Host.splitHostPort_joinHostPort_written h6 rfl] at hdialable
    cases hdialable
  · have htext : String.ofList u.authority.host.written = u.authority.host.text := by
      rw [Host.written_of_not_isIPv6 h6, String.ofList_toList]
    have hport : ¬u.authority.HasPort := fun ⟨p, h, _⟩ => nomatch hp.symm.trans h
    have hdial : splitHostPort (RoundTripper.getDialTLSAddr u.toURL) =
        some (u.authority.host.text, "443") := by
      rw [hkey, htext, show "443" = String.ofList ['4', '4', '3'] from rfl,
        Host.joinHostPort_text, Host.splitHostPort_written _ rfl]
    have hor := Authority.portOr_of_not_hasPort hport u.defaultPort
    rw [htext] at hkey
    cases hs : u.secure with
    | false =>
      refine iff_of_false (fun h => ?_) fun h => nomatch h.1
      have hdialable := h.dialable
      rw [hdial, hor, defaultPort, hs] at hdialable
      have hports : "443" = "80" := congrArg Prod.snd (Option.some.inj hdialable)
      exact absurd hports (by decide)
    | true =>
      refine iff_of_true ⟨?_, ?_⟩ ⟨rfl, h6⟩
      · rw [hdial, hor, defaultPort, hs]
        rfl
      · have hhost : u.toURL.host = u.authority.host.text := by
          rw [toURL, Authority.text_of_none hp, htext]
        have hhttps : u.toURL.scheme = .https := by rw [toURL, hs, if_pos rfl]
        have hcolon : ':' ∉ u.authority.host.text.toList := h6
        rw [keptAddr, hhost, if_neg hcolon, if_pos hhttps, hkey, joinHostPort, if_neg hcolon,
          String.append_assoc]
        rfl

/-- The address a request is dialed by has the right port, and is the address that is kept, exactly
    if the URL has a port, or is an `https` URL whose host is a name or an IPv4 address. -/
theorem consistent_iff (u : RequestURL) :
    u.Consistent ↔ u.authority.HasPort ∨
      u.authority.port = none ∧ u.secure = true ∧ ¬u.authority.host.IsIPv6 := by
  cases hp : u.authority.port with
  | none =>
    have hport : ¬u.authority.HasPort := fun ⟨p, h, _⟩ => nomatch hp.symm.trans h
    rw [or_iff_right hport, consistent_iff_of_none hp]
    exact (and_iff_right rfl).symm
  | some p =>
    have hkey := getDialTLSAddr_of_some hp
    rw [or_iff_left (by simp)]
    have hdefault : u.defaultPort ≠ "" := by
      rw [defaultPort]
      split_ifs <;> decide
    constructor
    · intro h
      have hdialable := h.dialable
      rwa [hkey, Authority.splitHostPort_text_iff hdefault] at hdialable
    · intro h
      refine ⟨?_, (keptAddr_of_some hp).trans hkey.symm⟩
      rwa [hkey, Authority.splitHostPort_text_iff hdefault]

/-- The default port of a plaintext request is never dialed. -/
theorem not_forall_consistent : ¬∀ u : RequestURL, u.Consistent := by
  intro h
  have hdialable := (h ⟨false, ⟨⟨"h", by decide⟩, none, nofun⟩, "/"⟩).dialable
  exact absurd hdialable (by decide)

end RequestURL

end CycleTLS
