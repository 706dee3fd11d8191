import CycleTLS.Errors
import CycleTLS.JA4R
import CycleTLS.Net

/-!
# SOCKS4 (`connect.go`)

`socks4ContextDialer.DialContext` connects to a proxy and asks it for a connection to a target.
A deferred function closes the connection on a failure, which it sees in a variable `err`. Not
each failure is assigned to it: where the port is out of range, or the host has no IPv4 address, the
error is returned alone, and the connection to the proxy stays open (`sound_dialContext_iff`).
-/

namespace CycleTLS

open Utf8

/-! ## The source -/

/-- An IPv4 address. -/
structure IPv4 where
  a : UInt8
  b : UInt8
  c : UInt8
  d : UInt8
  deriving DecidableEq

/-- A `net.IP`: one that `To4` takes, or another. -/
inductive IP
  | v4 (ip4 : IPv4)
  | v6
  deriving DecidableEq

/-- `IP.To4`. -/
def IP.to4 : IP → Option IPv4
  | v4 ip4 => some ip4
  | v6 => none

/-- What the handshake depends on outside the code modelled here. -/
structure Socks4Env where
  isPrint : Char → Bool
  /-- `net.ParseIP`. -/
  parseIP : String → Option IP
  /-- `net.DefaultResolver.LookupIPAddr`, or its error. -/
  lookupIPAddr : String → Except String (List IP)
  /-- The error of `net.SplitHostPort`. -/
  splitHostPortError : String → String
  /-- The error of `strconv.Atoi`. -/
  atoiError : String → String

/-- What happens on the connection to the proxy. -/
structure Socks4Proxy where
  /-- The error of the dial. -/
  dialError : Option String
  /-- The error of the write. -/
  writeError : Option String
  /-- What the proxy sends until a read fails. -/
  reply : Bytes
  /-- The error of a read that gets less than it has to. -/
  readError : String
  /-- The error of taking the deadline back. -/
  deadlineError : Option String

/-- A return with an error. -/
structure Socks4Failure where
  returned : String
  /-- What the deferred function finds in `err`. -/
  err : Option String

namespace Socks4Failure

/-- The error is in `err`. -/
def assigned (e : String) : Socks4Failure := ⟨e, some e⟩

/-- The error is not in `err`, where the one before it was nil. -/
def unassigned (e : String) : Socks4Failure := ⟨e, none⟩

end Socks4Failure

/-- What comes of a dial. -/
structure Socks4Dialed where
  error : Option String
  opened : Bool
  closed : Bool
  sent : Bytes

section

variable (env : Socks4Env)

/-- The first of some addresses that is an IPv4 address. -/
def firstIPv4 (ips : List IP) : Option IPv4 := ips.findSome? IP.to4

/-- The IPv4 address of a host. -/
def resolveIPv4 (host : String) : Except Socks4Failure IPv4 :=
  match (env.parseIP host).bind IP.to4 with
  | some ip4 => .ok ip4
  | none =>
    match env.lookupIPAddr host with
    | .error lerr => .error (.unassigned lerr)
    | .ok ips =>
      match firstIPv4 ips with
      | some ip4 => .ok ip4
      | none => .error (.unassigned
          ("no IPv4 address found for \"" ++ quoteBody env.isPrint host ++ "\""))

/-- The host and port of a target. -/
def targetOf (addr : String) : Except Socks4Failure (String × Int) :=
  match splitHostPort addr with
  | none => .error (.assigned (env.splitHostPortError addr))
  | some (host, portStr) =>
    match atoi (utf8 portStr) with
    | none => .error ⟨"invalid port \"" ++ quoteBody env.isPrint portStr ++ "\": " ++
        env.atoiError portStr, some (env.atoiError portStr)⟩
    | some port =>
      if port < 0 ∨ 0xFFFF < port then
        .error (.unassigned ("port out of range: " ++ toString port))
      else .ok (host, port)

/-- The request for a connection. -/
def socks4Request (ip4 : IPv4) (port : Int) : Bytes :=
  [0x04, 0x01, UInt8.ofNat (port.toNat / 256), UInt8.ofNat port.toNat,
    ip4.a, ip4.b, ip4.c, ip4.d, 0x00]

/-- A byte with the format `%#x`. -/
def formatHexByte (b : UInt8) : String := "0x" ++ String.ofList (Nat.toDigits 16 b.toNat)

/-- The reply to a request. -/
def readSocks4Reply (proxy : Socks4Proxy) : Except Socks4Failure Unit :=
  match proxy.reply.take 8 with
  | [version, code, _, _, _, _, _, _] =>
    if version ≠ 0x00 then
      .error (.assigned ("socks4: malformed reply, first byte " ++ formatHexByte version ++
        " not zero"))
    else if code = 0x5A then .ok ()
    else if code = 0x5B then
      .error (.assigned "socks4: connection request rejected or failed")
    else if code = 0x5C then
      .error (.assigned ("socks4: rejected because SOCKS server cannot connect to identd on " ++
        "the client"))
    else if code = 0x5D then
      .error (.assigned "socks4: rejected because client and identd report different user-ids")
    else .error (.assigned ("socks4: unknown reply code " ++ formatHexByte code))
  | _ => .error (.assigned proxy.readError)

/-- The handshake for a request. -/
def requestConnection (proxy : Socks4Proxy) : Except Socks4Failure Unit :=
  match proxy.writeError with
  | some e => .error (.assigned e)
  | none => do
    readSocks4Reply proxy
    match proxy.deadlineError with
    | some cerr => .error (.assigned cerr)
    | none => .ok ()

/-- `socks4ContextDialer.DialContext`. -/
def socks4DialContext (proxy : Socks4Proxy) (addr : String) : Socks4Dialed :=
  match proxy.dialError with
  | some e => ⟨some e, false, false, []⟩
  | none =>
    match targetOf env addr with
    | .error f => ⟨some f.returned, true, f.err.isSome, []⟩
    | .ok (host, port) =>
      match resolveIPv4 env host with
      | .error f => ⟨some f.returned, true, f.err.isSome, []⟩
      | .ok ip4 =>
        match requestConnection proxy with
        | .error f => ⟨some f.returned, true, f.err.isSome, socks4Request ip4 port⟩
        | .ok () => ⟨none, true, false, socks4Request ip4 port⟩

end

/-! ## What is asked of a dial -/

/-- A host is an IPv4 address, or the resolver knows one for it. -/
def HasIPv4 (env : Socks4Env) (host : String) (ip4 : IPv4) : Prop :=
  env.parseIP host = some (.v4 ip4) ∨
    ∃ ips, env.lookupIPAddr host = .ok ips ∧ .v4 ip4 ∈ ips

/-- The proxy granted a connection, and the deadline of the handshake is gone. -/
structure Socks4Proxy.Grants (proxy : Socks4Proxy) : Prop where
  reply : ∃ rest, proxy.reply.take 8 = 0x00 :: 0x5A :: rest ∧ rest.length = 6
  deadline : proxy.deadlineError = none

/-- A connection that is open, and that the proxy granted for the target. -/
structure Socks4Dialed.Usable (env : Socks4Env) (proxy : Socks4Proxy) (addr : String)
    (d : Socks4Dialed) : Prop where
  opened : d.opened = true
  notClosed : d.closed = false
  asked : ∃ host portStr port ip4, splitHostPort addr = some (host, portStr) ∧
    atoi (utf8 portStr) = some port ∧ 0 ≤ port ∧ port ≤ 0xFFFF ∧ HasIPv4 env host ip4 ∧
      d.sent = socks4Request ip4 port
  granted : proxy.Grants

/-- A dial returns a usable connection, or an error and has no connection open. -/
def Socks4Dialed.Sound (env : Socks4Env) (proxy : Socks4Proxy) (addr : String)
    (d : Socks4Dialed) : Prop :=
  (d.error = none ∧ d.Usable env proxy addr) ∨
    (d.error.isSome = true ∧ (d.opened = true → d.closed = true))

/-- A target whose host and port can be read has a port in range and an IPv4 address. -/
def Reachable (env : Socks4Env) (addr : String) : Prop :=
  ∀ host portStr port, splitHostPort addr = some (host, portStr) →
    atoi (utf8 portStr) = some port →
      (0 ≤ port ∧ port ≤ 0xFFFF) ∧ ∃ ip4, HasIPv4 env host ip4

/-! ## The ways out -/

section

variable {env : Socks4Env} {proxy : Socks4Proxy} {addr host : String}

theorem firstIPv4_eq_none_iff {ips : List IP} : firstIPv4 ips = none ↔ ∀ ip4, .v4 ip4 ∉ ips := by
  rw [firstIPv4, List.findSome?_eq_none_iff]
  constructor
  · exact fun h ip4 hmem => nomatch h _ hmem
  · intro h ip hmem
    cases ip with
    | v4 ip4 => exact absurd hmem (h ip4)
    | v6 => rfl

theorem mem_of_firstIPv4 {ips : List IP} {ip4 : IPv4} (h : firstIPv4 ips = some ip4) :
    .v4 ip4 ∈ ips := by
  obtain ⟨ip, hmem, hip⟩ := List.exists_of_findSome?_eq_some h
  cases ip with
  | v4 ip4' =>
    cases hip
    exact hmem
  | v6 => cases hip

/-- A host without an IPv4 address is not told to the deferred function. -/
theorem resolveIPv4_cases (env : Socks4Env) (host : String) :
    (∃ ip4, resolveIPv4 env host = .ok ip4 ∧ HasIPv4 env host ip4) ∨
      ∃ f, resolveIPv4 env host = .error f ∧ f.err = none ∧ ∀ ip4, ¬HasIPv4 env host ip4 := by
  rw [resolveIPv4]
  cases hparse : (env.parseIP host).bind IP.to4 with
  | some ip4 =>
    obtain ⟨ip, hip, hto4⟩ := Option.bind_eq_some_iff.1 hparse
    cases ip with
    | v4 ip4' =>
      cases hto4
      exact .inl ⟨ip4, rfl, .inl hip⟩
    | v6 => cases hto4
  | none =>
    have hliteral (ip4 : IPv4) : env.parseIP host ≠ some (.v4 ip4) := by
      intro h
      rw [h] at hparse
      cases hparse
    cases hlookup : env.lookupIPAddr host with
    | error lerr =>
      refine .inr ⟨_, rfl, rfl, fun ip4 h => ?_⟩
      rcases h with h | ⟨ips, hips, -⟩
      · exact hliteral ip4 h
      · exact nomatch hlookup.symm.trans hips
    | ok ips =>
      dsimp only
      cases hfirst : firstIPv4 ips with
      | some ip4 => exact .inl ⟨ip4, rfl, .inr ⟨ips, hlookup, mem_of_firstIPv4 hfirst⟩⟩
      | none =>
        refine .inr ⟨_, rfl, rfl, fun ip4 h => ?_⟩
        rcases h with h | ⟨ips', hips, hmem⟩
        · exact hliteral ip4 h
        · cases hlookup.symm.trans hips
          exact firstIPv4_eq_none_iff.1 hfirst ip4 hmem

/-- Of a target, only a port out of range is not told to the deferred function. -/
theorem targetOf_cases (env : Socks4Env) (addr : String) :
    (∃ host portStr port, targetOf env addr = .ok (host, port) ∧
        splitHostPort addr = some (host, portStr) ∧ atoi (utf8 portStr) = some port ∧
          0 ≤ port ∧ port ≤ 0xFFFF) ∨
      (∃ f, targetOf env addr = .error f ∧ f.err.isSome = true ∧
        ∀ host portStr port, splitHostPort addr = some (host, portStr) →
          atoi (utf8 portStr) ≠ some port) ∨
      ∃ f host portStr port, targetOf env addr = .error f ∧ f.err = none ∧
        splitHostPort addr = some (host, portStr) ∧ atoi (utf8 portStr) = some port ∧
          ¬(0 ≤ port ∧ port ≤ 0xFFFF) := by
  rw [targetOf]
  cases hsplit : splitHostPort addr with
  | none => exact .inr (.inl ⟨_, rfl, rfl, fun _ _ _ h => nomatch h⟩)
  | some hp =>
    obtain ⟨host, portStr⟩ := hp
    dsimp only
    cases hport : atoi (utf8 portStr) with
    | none =>
      refine .inr (.inl ⟨_, rfl, rfl, fun host' portStr' port h hp => ?_⟩)
      cases h
      exact nomatch hport.symm.trans hp
    | some port =>
      dsimp only
      split_ifs with hrange
      · exact .inr (.inr ⟨_, host, portStr, port, rfl, rfl, rfl, hport, by omega⟩)
      · exact .inl ⟨host, portStr, port, rfl, rfl, hport, by omega, by omega⟩

theorem readSocks4Reply_cases (proxy : Socks4Proxy) :
    (readSocks4Reply proxy = .ok () ∧ ∃ rest, proxy.reply.take 8 = 0x00 :: 0x5A :: rest ∧
        rest.length = 6) ∨
      ∃ f, readSocks4Reply proxy = .error f ∧ f.err.isSome = true := by
  rw [readSocks4Reply]
  split
  · next version code b₁ b₂ b₃ b₄ b₅ b₆ htake =>
      split_ifs with hversion hcode
      · exact .inr ⟨_, rfl, rfl⟩
      · rw [htake, not_not.1 hversion, hcode]
        exact .inl ⟨rfl, _, rfl, rfl⟩
      all_goals exact .inr ⟨_, rfl, rfl⟩
  · exact .inr ⟨_, rfl, rfl⟩

/-- What goes wrong on the connection itself is told to the deferred function. -/
theorem requestConnection_cases (proxy : Socks4Proxy) :
    (requestConnection proxy = .ok () ∧ proxy.Grants) ∨
      ∃ f, requestConnection proxy = .error f ∧ f.err.isSome = true := by
  rw [requestConnection]
  cases proxy.writeError with
  | some e => exact .inr ⟨_, rfl, rfl⟩
  | none =>
    rcases readSocks4Reply_cases proxy with ⟨hread, hreply⟩ | ⟨f, hread, hf⟩
    · cases hdeadline : proxy.deadlineError with
      | some cerr => exact .inr ⟨.assigned cerr, by simp [hread]; rfl, rfl⟩
      | none => exact .inl ⟨by simp [hread]; rfl, hreply, hdeadline⟩
    · exact .inr ⟨f, by simp [hread]; rfl, hf⟩

/-- A dial closes its connection on each failure, exactly if it has none to close, or the target
    does not fail on a way that passes by the variable of the deferred function: a port out of
    range, a resolver error, and a host without an IPv4 address. -/
theorem sound_dialContext_iff (env : Socks4Env) (proxy : Socks4Proxy) (addr : String) :
    (socks4DialContext env proxy addr).Sound env proxy addr ↔
      proxy.dialError.isSome = true ∨ Reachable env addr := by
  rw [socks4DialContext]
  cases proxy.dialError with
  | some e => exact iff_of_true (.inr ⟨rfl, fun h => nomatch h⟩) (.inl rfl)
  | none =>
    rw [or_iff_right (by simp)]
    have hleak {f : Socks4Failure} {sent : Bytes} (hf : f.err = none) :
        ¬Socks4Dialed.Sound env proxy addr ⟨some f.returned, true, f.err.isSome, sent⟩ := by
      rintro (⟨h, -⟩ | ⟨-, h⟩)
      · cases h
      · have hclosed := h rfl
        rw [hf] at hclosed
        cases hclosed
    have hclose {f : Socks4Failure} {sent : Bytes} (hf : f.err.isSome = true) :
        Socks4Dialed.Sound env proxy addr ⟨some f.returned, true, f.err.isSome, sent⟩ :=
      .inr ⟨rfl, fun _ => hf⟩
    rcases targetOf_cases env addr with ⟨host, portStr, port, htarget, hsplit, hport, hrange⟩ |
      ⟨f, htarget, hf, hunread⟩ | ⟨f, host, portStr, port, htarget, hf, hsplit, hport, hrange⟩
    · rw [htarget]
      dsimp only
      have hreach : Reachable env addr ↔ ∃ ip4, HasIPv4 env host ip4 := by
        constructor
        · exact fun h => (h host portStr port hsplit hport).2
        · intro h host' portStr' port' hsplit' hport'
          cases hsplit.symm.trans hsplit'
          cases hport.symm.trans hport'
          exact ⟨hrange, h⟩
      rcases resolveIPv4_cases env host with ⟨ip4, hresolve, hip4⟩ | ⟨f, hresolve, hf, hnone⟩
      · rw [hresolve]
        dsimp only
        refine iff_of_true ?_ (hreach.2 ⟨ip4, hip4⟩)
        rcases requestConnection_cases proxy with ⟨hrequest, hgrants⟩ | ⟨f, hrequest, hf⟩
        · rw [hrequest]
          exact .inl ⟨rfl, rfl, rfl, ⟨host, portStr, port, ip4, hsplit, hport, hrange.1, hrange.2,
            hip4, rfl⟩, hgrants⟩
        · rw [hrequest]
          exact hclose hf
      · rw [hresolve]
        refine iff_of_false (hleak hf) fun h => ?_
        obtain ⟨ip4, hip4⟩ := hreach.1 h
        exact hnone ip4 hip4
    · rw [htarget]
      exact iff_of_true (hclose hf) fun host portStr port h hp =>
        absurd hp (hunread host portStr port h)
    · rw [htarget]
      exact iff_of_false (hleak hf) fun h => hrange (h host portStr port hsplit hport).1

/-- The port of the target is no port. -/
theorem not_forall_sound_dialContext : ¬∀ (env : Socks4Env) (proxy : Socks4Proxy) (addr : String),
    (socks4DialContext env proxy addr).Sound env proxy addr := by
  intro h
  have hsound := h ⟨fun _ => true, fun _ => none, fun _ => .ok [.v4 ⟨10, 0, 0, 1⟩], fun _ => "",
    fun _ => ""⟩ ⟨none, none, [0x00, 0x5A, 0, 0, 0, 0, 0, 0], "EOF", none⟩ "h:65536"
  rcases hsound with ⟨hnone, -⟩ | ⟨-, hclosed⟩
  · exact absurd (congrArg Option.isSome hnone) (by decide +kernel)
  · exact absurd (hclosed (by decide +kernel)) (by decide +kernel)

end

end CycleTLS
