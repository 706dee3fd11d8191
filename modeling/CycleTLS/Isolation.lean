import CycleTLS.Pool

/-!
# What the client key separates

A pooled client is given to every call with the key of the call it was created
for. The key is a checksum of a text which is itself ambiguous (names and values
of cookies may hold its separators), and which leaves out some of the fields a
round tripper uses. Which calls are served with a client that was created for
calls like them is hence a matter of the keys of the run:

* `cookiesIsolated_iff`: no cookies of another call are sent exactly where calls
  of one key have the same cookies;
* `faithful_of_separates`: the clients are as configured, in all runs where
  calls of one key have the same settings, and, without cleanups, in no others.
-/

namespace CycleTLS

/-- What identifies a client: its round tripper. -/
def Client.ident (client : Client) : Nat := client.transport.id

theorem createNewClient_eq_some {env : DialEnv} {c : ClientCall} {n : Nat} {client : Client}
    (h : createNewClient env c n = some client) :
    client.transport.id = n ∧ client.transport.cookies = c.browser.cookies := by
  rw [createNewClient] at h
  split_ifs at h <;> cases h <;> exact ⟨rfl, rfl⟩

namespace Pool

variable {β : Type*} {env : DialEnv} {f : ClientCall → β}

omit f in
/-- A client is made with the number it is given. -/
theorem ident_createNewClient (env : DialEnv) (c : ClientCall) (n : Nat) (client : Client)
    (h : createNewClient env c n = some client) : client.ident = n :=
  (createNewClient_eq_some h).1

/-- A run of the pool serves its calls well where the keys separate them. -/
theorem serves_of_separates {ops : List PoolOp}
    (h : Cache.Separates ClientCall.key (·.creates env) f (calls ops)) :
    Cache.Serves (createNewClient env) f (new.run env ops) := by
  obtain ⟨ops', hrun, hcalls⟩ := exists_run_eq env keysCached_new ops
  rw [hrun]
  rw [← hcalls] at h
  exact Cache.serves_of_separates (ident_createNewClient env) (isSome_createNewClient env) h

/-- Without cleanups, it does exactly there. -/
theorem serves_iff (cs : List (ClientCall × Int)) :
    Cache.Serves (createNewClient env) f (new.run env (cs.map fun c => .get c.1 c.2)) ↔
      Cache.Separates ClientCall.key (·.creates env) f (cs.map Prod.fst) := by
  rw [run_eq_of_calls env keysCached_new]
  exact Cache.serves_iff (ident_createNewClient env) (isSome_createNewClient env)

omit f in
/-- A client was created for the first call that got it. -/
theorem run_maker {ops : List PoolOp} {pre post : List (ClientCall × Option Client)}
    {c : ClientCall} {client : Client}
    (hrun : new.run env ops = pre ++ (c, some client) :: post) :
    ∃ d n, Cache.First (pre ++ [(c, some client)]) client d ∧
      createNewClient env d n = some client := by
  obtain ⟨ops', h, -⟩ := exists_run_eq env keysCached_new ops
  obtain ⟨d, n, hfirst, -, hm⟩ := Cache.run_maker (ident_createNewClient env)
    Cache.made_empty Cache.fresh_empty
    (h.symm.trans hrun)
  exact ⟨d, n, hfirst, hm⟩

end Pool

/-! ## Cookies -/

/-- The names and values of the cookies of a call. -/
def ClientCall.cookiePairs (c : ClientCall) : List (String × String) :=
  c.browser.cookies.map fun cookie => (cookie.name, cookie.value)

/-- The names and values of the cookies a client sends. -/
def Client.cookiePairs (client : Client) : List (String × String) :=
  client.transport.cookies.map fun cookie => (cookie.name, cookie.value)

/-- Calls with other cookies are not given one client, and a client sends the
    cookies of the calls it is given to. -/
structure CookiesIsolated (trace : List (ClientCall × Option Client)) : Prop where
  apart : ∀ c d client, (c, some client) ∈ trace → (d, some client) ∈ trace →
    c.cookiePairs = d.cookiePairs
  own : ∀ c client, (c, some client) ∈ trace → client.cookiePairs = c.cookiePairs

theorem cookiePairs_of_createNewClient {env : DialEnv} {c : ClientCall} {n : Nat} {client : Client}
    (h : createNewClient env c n = some client) : client.cookiePairs = c.cookiePairs := by
  rw [Client.cookiePairs, (createNewClient_eq_some h).2, ClientCall.cookiePairs]

/-- Cookies are isolated where each client was created for a call with the
    cookies of the call it is given to. -/
theorem cookiesIsolated_iff_serves {env : DialEnv} {ops : List PoolOp} :
    CookiesIsolated (Pool.new.run env ops) ↔
      Cache.Serves (createNewClient env) ClientCall.cookiePairs (Pool.new.run env ops) := by
  refine ⟨fun h pre c client post hrun => ?_, fun h => ?_⟩
  · obtain ⟨d, n, hfirst, hm⟩ := Pool.run_maker hrun
    refine ⟨d, n, hfirst, hm, ?_⟩
    rw [← cookiePairs_of_createNewClient hm]
    exact h.own c client (by simp [hrun])
  · have own : ∀ c client, (c, some client) ∈ Pool.new.run env ops →
        client.cookiePairs = c.cookiePairs := by
      intro c client hc
      obtain ⟨pre, post, hrun⟩ := List.append_of_mem hc
      obtain ⟨d, n, -, hm, hd⟩ := h pre c client post hrun
      rw [cookiePairs_of_createNewClient hm, hd]
    exact ⟨fun c d client hc hd => (own c client hc).symm.trans (own d client hd), own⟩

/-- In a run of calls, cookies are isolated exactly if no two calls with other
    cookies have configuration texts with the same checksum, where a client can
    be created for the earlier. -/
theorem cookiesIsolated_iff (env : DialEnv) (cs : List (ClientCall × Int)) :
    CookiesIsolated (Pool.new.run env (cs.map fun c => .get c.1 c.2)) ↔
      (cs.map Prod.fst).Pairwise fun d c => d.creates env = true →
        checksumIEEE (Utf8.utf8 d.config) = checksumIEEE (Utf8.utf8 c.config) →
          d.cookiePairs = c.cookiePairs := by
  rw [cookiesIsolated_iff_serves, Pool.serves_iff, Cache.Separates]
  simp only [ClientCall.key_eq_iff]

/-- A value may hold the separator of cookies. -/
theorem not_forall_cookiesIsolated : ¬∀ (env : DialEnv) (cs : List (ClientCall × Int)),
    CookiesIsolated (Pool.new.run env (cs.map fun c => .get c.1 c.2)) := by
  intro h
  let call (cookies : List GoCookie) : ClientCall :=
    ⟨{ cookies := cookies }, 0, false, "", "", none⟩
  let one := call [⟨"a", "b|cookie:c=d", "", "", 0, false, false⟩]
  let two := call [⟨"a", "b", "", "", 0, false, false⟩, ⟨"c", "d", "", "", 0, false, false⟩]
  have hsep := h ⟨fun _ => true, fun _ => true⟩ [(one, 0), (two, 0)]
  rw [cookiesIsolated_iff_serves, Pool.serves_iff] at hsep
  have hconfig : one.config = two.config := by decide +kernel
  have hkey : one.key = two.key := by rw [ClientCall.key, hconfig, ClientCall.key]
  exact absurd ((List.pairwise_cons.1 hsep).1 two (by simp) rfl hkey) (by decide)

/-! ## Settings -/

/-- What of a call a client should have been created with. -/
structure Settings where
  ja3 : String
  ja4r : String
  http2Fingerprint : String
  quicFingerprint : String
  disableGrease : Bool
  userAgent : String
  serverName : String
  headerOrder : List String
  tls13AutoRetry : Bool
  insecureSkipVerify : Bool
  forceHTTP1 : Bool
  forceHTTP3 : Bool
  timeout : Int
  disableRedirect : Bool
  proxyURL : String
  localAddress : String

/-- The settings of a call. -/
def ClientCall.settings (c : ClientCall) : Settings where
  ja3 := c.browser.ja3
  ja4r := c.browser.ja4r
  http2Fingerprint := c.browser.http2Fingerprint
  quicFingerprint := c.browser.quicFingerprint
  disableGrease := c.browser.disableGrease
  userAgent := c.browser.userAgent
  serverName := c.browser.serverName
  headerOrder := c.browser.headerOrder
  tls13AutoRetry := c.browser.tls13AutoRetry
  insecureSkipVerify := c.browser.insecureSkipVerify
  forceHTTP1 := c.browser.forceHTTP1
  forceHTTP3 := c.browser.forceHTTP3
  timeout := c.timeout
  disableRedirect := c.disableRedirect
  proxyURL := c.proxyURL.getD ""
  localAddress := c.localAddress

/-- Each client that is returned was created for a call with the settings of the
    call it is returned to: the first that got it. -/
def Faithful (env : DialEnv) (trace : List (ClientCall × Option Client)) : Prop :=
  ∀ pre c client post, trace = pre ++ (c, some client) :: post →
    ∃ d n, Cache.First (pre ++ [(c, some client)]) client d ∧
      createNewClient env d n = some client ∧ d.settings = c.settings

/-- Clients are as configured in every run, whatever is cleaned up, in which no
    two calls with other settings have configuration texts with the same
    checksum (where a client can be created for the earlier), and without
    cleanups in no other. -/
theorem faithful_of_separates (env : DialEnv) :
    (∀ ops, ((Pool.calls ops).Pairwise fun d c => d.creates env = true →
        checksumIEEE (Utf8.utf8 d.config) = checksumIEEE (Utf8.utf8 c.config) →
          d.settings = c.settings) →
      Faithful env (Pool.new.run env ops)) ∧
    ∀ cs : List (ClientCall × Int),
      Faithful env (Pool.new.run env (cs.map fun c => .get c.1 c.2)) ↔
        (cs.map Prod.fst).Pairwise fun d c => d.creates env = true →
          checksumIEEE (Utf8.utf8 d.config) = checksumIEEE (Utf8.utf8 c.config) →
            d.settings = c.settings := by
  simp only [← ClientCall.key_eq_iff]
  exact ⟨fun ops => Pool.serves_of_separates, Pool.serves_iff⟩

/-- The key says nothing of `DisableGrease`. -/
theorem not_forall_faithful : ¬∀ (env : DialEnv) (ops : List PoolOp),
    Faithful env (Pool.new.run env ops) := by
  intro h
  let call (disableGrease : Bool) : ClientCall :=
    ⟨{ disableGrease := disableGrease }, 0, false, "", "", none⟩
  have hsep := (Pool.serves_iff [(call true, 0), (call false, 0)]).1
    (h ⟨fun _ => true, fun _ => true⟩ [.get (call true) 0, .get (call false) 0])
  have hkey : (call true).key = (call false).key := rfl
  have hset := (List.pairwise_cons.1 hsep).1 (call false) (by simp) rfl hkey
  exact absurd (congrArg Settings.disableGrease hset) (by decide)

end CycleTLS
