import CycleTLS.Authority
import CycleTLS.Builders

/-!
# The address of a proxy (`connect.go`)

`newConnectDialer` copies the URL of a proxy into the dialer it makes, and then puts the default
port on the URL it has itself. What the dialer connects to (`ConnectDialer.dialed`) is the copy, or
for SOCKS proxies the host of the URL as it stands, so that a default port is never used: the
address is that of the URL exactly if the URL has a port (`connectsTo_iff`).
-/

namespace CycleTLS

/-- A `net.Dialer`, and the address it is bound to. -/
structure NetDialer where
  localAddr : Option String
  deriving DecidableEq

/-- The `Dialer` of a `connectDialer`. -/
inductive Forward
  /-- A `net.Dialer`. -/
  | base (dialer : NetDialer)
  /-- `proxy.SOCKS5`. -/
  | socks5 (proxyAddr : String) (forward : NetDialer)
  /-- A `socks4ContextDialer`. -/
  | socks4 (proxyAddr : String) (dialer : NetDialer)
  /-- A `SocksDialer` with `socks.DialSocksProxy`. -/
  | socksDialer (proxyAddr : String)
  deriving DecidableEq

/-- A `connectDialer`, without its headers. -/
structure ConnectDialer where
  proxyURL : URL
  dialer : Forward
  tlsDialer : NetDialer
  deriving DecidableEq

/-- The `baseDialer` of `newConnectDialer`. -/
def BuilderEnv.baseDialer (env : BuilderEnv) (localAddress : String) : NetDialer :=
  ⟨if localAddress ≠ "" ∧ env.parseIP localAddress then some localAddress else none⟩

/-- `newConnectDialer`, without the headers, and the URL as it is left. -/
def BuilderEnv.connectDialer (env : BuilderEnv) (proxyURLStr localAddress : String) :
    Option (ConnectDialer × URL) :=
  match env.parseURL proxyURLStr with
  | none => none
  | some proxyURL =>
    if proxyURL.host = "" ∨ proxyURL.host = "undefined" then none
    else
      let baseDialer := env.baseDialer localAddress
      let client : ConnectDialer := ⟨proxyURL, .base baseDialer, baseDialer⟩
      match proxyURL.scheme with
      | .http =>
        if proxyURL.port = "" then
          some (client, { proxyURL with host := joinHostPort proxyURL.host "80" })
        else some (client, proxyURL)
      | .https =>
        if proxyURL.port = "" then
          some (client, { proxyURL with host := joinHostPort proxyURL.host "443" })
        else some (client, proxyURL)
      | .other scheme =>
        if scheme = "socks5" ∨ scheme = "socks5h" then
          if env.socks5 proxyURL.host then
            some ({ client with dialer := .socks5 proxyURL.host baseDialer }, proxyURL)
          else none
        else if scheme = "socks4" then
          if localAddress ≠ "" then
            some ({ client with dialer := .socks4 proxyURL.host baseDialer }, proxyURL)
          else some ({ client with dialer := .socksDialer proxyURL.host }, proxyURL)
        else none

/-- A socket that is opened for a target: the address it is connected to, and the one it is bound
    to. -/
structure Socket where
  address : String
  localAddr : Option String

/-- The socket of a `net.Dialer`. -/
def NetDialer.socket (d : NetDialer) (address : String) : Socket := ⟨address, d.localAddr⟩

/-- The socket of the `Dialer` for a target. -/
def Forward.socket (target : String) : Forward → Socket
  | base dialer => dialer.socket target
  | socks5 proxyAddr forward => forward.socket proxyAddr
  | socks4 proxyAddr dialer => dialer.socket proxyAddr
  | socksDialer proxyAddr => ⟨proxyAddr, none⟩

/-- The schemes for which `DialContext` leaves all to the `Dialer`. -/
def Scheme.isSocks (scheme : Scheme) : Bool :=
  scheme = .other "socks5" || scheme = .other "socks4" || scheme = .other "socks5h"

/-- The socket `DialContext` opens for a target, unless it has a connection to the proxy. -/
def ConnectDialer.dialed (c : ConnectDialer) (target : String) : Option Socket :=
  if c.proxyURL.scheme.isSocks then some (c.dialer.socket target)
  else
    match c.proxyURL.scheme with
    | .http => some (c.dialer.socket c.proxyURL.host)
    | .https => some (c.tlsDialer.socket c.proxyURL.host)
    | .other _ => none

/-! ## Where it connects to -/

/-- The port that a proxy has without one in its URL. -/
def Scheme.proxyPort : Scheme → String
  | http => "80"
  | https => "443"
  | other _ => "1080"

/-- For each target, a dialer connects to a host and a port. -/
def ConnectDialer.ConnectsTo (c : ConnectDialer) (host port : String) : Prop :=
  ∀ target, ∃ socket, c.dialed target = some socket ∧
    splitHostPort socket.address = some (host, port)

section

variable {env : BuilderEnv} {proxyURLStr localAddress : String} {url left : URL}
  {c : ConnectDialer}

/-- A dialer connects to the host of the URL as it stands, whatever the scheme is, and by a socket
    that is bound if the local address can be read. -/
theorem dialed_of_connectDialer (h : env.connectDialer proxyURLStr localAddress = some (c, left))
    (hurl : env.parseURL proxyURLStr = some url) (target : String) :
    c.dialed target = some ⟨url.host, (env.baseDialer localAddress).localAddr⟩ := by
  rw [BuilderEnv.connectDialer, hurl] at h
  dsimp only at h
  by_cases hhost : url.host = "" ∨ url.host = "undefined"
  · rw [if_pos hhost] at h
    cases h
  rw [if_neg hhost] at h
  cases hs : url.scheme with
  | http =>
    rw [hs] at h
    dsimp only at h
    split_ifs at h
    all_goals
      cases h
      simp [ConnectDialer.dialed, hs, Scheme.isSocks, Forward.socket, NetDialer.socket]
  | https =>
    rw [hs] at h
    dsimp only at h
    split_ifs at h
    all_goals
      cases h
      simp [ConnectDialer.dialed, hs, Scheme.isSocks, NetDialer.socket]
  | other scheme =>
    rw [hs] at h
    dsimp only at h
    split_ifs at h with hsocks5 hok hsocks4 hlocal
    · cases h
      rcases hsocks5 with rfl | rfl
      all_goals simp [ConnectDialer.dialed, hs, Scheme.isSocks, Forward.socket, NetDialer.socket]
    · cases h
      simp [ConnectDialer.dialed, hs, Scheme.isSocks, Forward.socket, NetDialer.socket, hsocks4]
    · cases h
      simp [ConnectDialer.dialed, hs, Scheme.isSocks, Forward.socket, hsocks4,
        BuilderEnv.baseDialer, not_not.1 hlocal]

/-- The two models of the constructor take the same URLs. -/
theorem isSome_connectDialer (userAgent : String) :
    (env.connectDialer proxyURLStr localAddress).isSome =
      (env.newConnectDialer proxyURLStr userAgent localAddress).isSome := by
  rw [BuilderEnv.connectDialer, BuilderEnv.newConnectDialer]
  cases env.parseURL proxyURLStr with
  | none => rfl
  | some url =>
    dsimp only
    by_cases hhost : url.host = "" ∨ url.host = "undefined"
    · rw [if_pos hhost, if_pos hhost]
      rfl
    · rw [if_neg hhost, if_neg hhost]
      cases url.scheme <;> dsimp only <;> split_ifs <;> rfl

/-- A dialer connects to the host and port of the URL of its proxy exactly if the URL has a port:
    the default port of the scheme is never used. -/
theorem connectsTo_iff (h : env.connectDialer proxyURLStr localAddress = some (c, left))
    (hurl : env.parseURL proxyURLStr = some url) {a : Authority} (ha : url.host = a.text) :
    c.ConnectsTo a.host.text (a.portOr url.scheme.proxyPort) ↔ a.HasPort := by
  have hport : url.scheme.proxyPort ≠ "" := by
    cases url.scheme <;> simp [Scheme.proxyPort]
  rw [ConnectDialer.ConnectsTo]
  simp only [dialed_of_connectDialer h hurl, Option.some.injEq, exists_eq_left', ha,
    Authority.splitHostPort_text_iff hport, forall_const]

/-- A proxy at port 8080. -/
theorem connectsTo_alternate_port :
    ConnectDialer.ConnectsTo ⟨⟨.https, "h:8080", ""⟩, .base ⟨none⟩, ⟨none⟩⟩ "h" "8080" := by
  have h : (BuilderEnv.ascii fun _ => some ⟨.https, "h:8080", ""⟩).connectDialer "https://h:8080"
      "" = some (⟨⟨.https, "h:8080", ""⟩, .base ⟨none⟩, ⟨none⟩⟩, ⟨.https, "h:8080", ""⟩) := by
    decide +kernel
  let a : Authority := ⟨⟨"h", by decide⟩, some ['8', '0', '8', '0'], by simp [validPort]⟩
  have ha : (⟨.https, "h:8080", ""⟩ : URL).host = a.text := by decide +kernel
  exact (connectsTo_iff h rfl ha).2 ⟨_, rfl, List.cons_ne_nil _ _⟩

/-- The URL of the proxy has no port. -/
theorem not_forall_connectsTo : ¬∀ (env : BuilderEnv) (proxyURLStr localAddress : String)
    (url left : URL) (c : ConnectDialer) (a : Authority),
    env.connectDialer proxyURLStr localAddress = some (c, left) →
      env.parseURL proxyURLStr = some url → url.host = a.text →
        c.ConnectsTo a.host.text (a.portOr url.scheme.proxyPort) := by
  intro h
  have hconnects : ConnectDialer.ConnectsTo ⟨⟨.http, "h", ""⟩, .base ⟨none⟩, ⟨none⟩⟩ "h" "80" :=
    h (.ascii fun _ => some ⟨.http, "h", ""⟩) "http://h" "" ⟨.http, "h", ""⟩ ⟨.http, "h:80", ""⟩ _
      ⟨⟨"h", by decide⟩, none, nofun⟩ (by decide +kernel) rfl (by decide +kernel)
  obtain ⟨socket, hsocket, hsplit⟩ := hconnects "target:443"
  cases hsocket
  exact absurd hsplit (by decide)

end

end CycleTLS
