import CycleTLS.Builders

/-!
# Requests that end the process (`index.go`)

`processRequest` has no way to report an error: where it gets no client, or `NewRequestWithContext`
takes the method or the URL for malformed, it calls `log.Fatal`. So it returns exactly for the
requests whose texts all parse (`isRequest_iff`). The second parse of a URL never fails
(`processRequest_ne_panicked`).
-/

namespace CycleTLS

def Processed.isRequest : Processed → Bool
  | request _ => true
  | _ => false

variable (env : BuilderEnv)

/-- The proxies that a dialer can be made for. -/
def BuilderEnv.ProxyAccepted (proxyURL : String) : Prop :=
  ∃ u, env.parseURL proxyURL = some u ∧ u.host ≠ "" ∧ u.host ≠ "undefined" ∧
    (u.scheme = .http ∨ u.scheme = .https ∨ u.scheme = .other "socks4" ∨
      (u.scheme = .other "socks5" ∨ u.scheme = .other "socks5h") ∧ env.socks5 u.host = true)

namespace RequestOptions

variable (pool : Pool) (o : RequestOptions)

/-- The dialer of the options can be made. -/
def Dialable : Prop :=
  if o.proxy ≠ "" then env.ProxyAccepted o.proxy
  else o.localAddress = "" ∨ env.parseIP o.localAddress = true

/-- A client is in the pool for a browser, under the key of the options. -/
def Pooled (browser : Browser) : Prop :=
  let key := (generateClientKey pool (o.clientCallWith browser)).1
  o.enableConnectionReuse = true ∧ (pool.shards (getShard key) key).isSome = true

/-- The browser of a request over HTTP. -/
def processBrowser : Browser :=
  if o.protocol ≠ "sse" ∧ (o.protocol = "http3" ∨ o.forceHTTP3 = true) then o.http3Browser
  else o.browser

/-- The URL parses, and unless a WebSocket is asked for, there is a client, and unless events are,
    the method is one. -/
def Accepted : Prop :=
  (env.parseURL o.url).isSome = true ∧
    (o.protocol ≠ "websocket" → o.Pooled pool o.processBrowser ∨ o.Dialable env) ∧
    (o.protocol ≠ "websocket" → o.protocol ≠ "sse" →
      o.method = "" ∨ validMethod (env.toUpper o.method) = true)

end RequestOptions

variable {env} {pool : Pool} {o : RequestOptions} {now : Int}

/-! ## Clients -/

theorem isSome_newConnectDialer_iff {proxyURL userAgent localAddress : String} :
    (env.newConnectDialer proxyURL userAgent localAddress).isSome = true ↔
      env.ProxyAccepted proxyURL := by
  rw [BuilderEnv.newConnectDialer, BuilderEnv.ProxyAccepted]
  cases env.parseURL proxyURL with
  | none => exact iff_of_false nofun fun ⟨_, h, _⟩ => nomatch h
  | some u =>
    simp only [Option.some.injEq, exists_eq_left', ne_eq]
    by_cases hhost : u.host = "" ∨ u.host = "undefined"
    · rw [if_pos hhost]
      exact iff_of_false nofun fun ⟨hempty, hundefined, _⟩ => hhost.elim hempty hundefined
    · rw [if_neg hhost]
      obtain ⟨hempty, hundefined⟩ := not_or.1 hhost
      cases hscheme : u.scheme with
      | http => simp [hempty, hundefined]
      | https => simp [hempty, hundefined]
      | other scheme =>
        simp only [Scheme.other.injEq, reduceCtorEq, false_or, hempty, hundefined,
          not_false_eq_true, true_and]
        split_ifs with h5 hsocks h4
        · exact iff_of_true rfl (.inr ⟨h5, hsocks⟩)
        · refine iff_of_false nofun ?_
          rintro (rfl | ⟨-, h⟩)
          · exact absurd h5 (by decide)
          · exact hsocks h
        · exact iff_of_true rfl (.inl h4)
        · exact iff_of_false nofun fun h => h.elim h4 fun h => h5 h.1

theorem creates_iff (browser : Browser) :
    (o.clientCallWith browser).creates env.dialEnv = true ↔ o.Dialable env := by
  rw [ClientCall.creates, RequestOptions.Dialable]
  change (if o.proxy ≠ "" then (env.newConnectDialer o.proxy "" "").isSome else
    if o.localAddress ≠ "" then env.parseIP o.localAddress else true) = true ↔ _
  by_cases hproxy : o.proxy ≠ ""
  · rw [if_pos hproxy, if_pos hproxy]
    exact isSome_newConnectDialer_iff
  · rw [if_neg hproxy, if_neg hproxy]
    by_cases hlocal : o.localAddress = ""
    · rw [if_neg (not_not.2 hlocal)]
      exact iff_of_true rfl (.inl hlocal)
    · rw [if_pos hlocal, or_iff_right hlocal]

theorem shards_generateClientKey (p : Pool) (c : ClientCall) :
    (generateClientKey p c).2.shards = p.shards := by
  rw [generateClientKey]
  split <;> rfl

/-- There is a client if one is pooled or can be created. -/
theorem isSome_newClientWithReuse_iff (now : Int) {browser : Browser} :
    (newClientWithReuse env pool o now browser).2.isSome = true ↔
      o.Pooled pool browser ∨ o.Dialable env := by
  rw [newClientWithReuse, getOrCreateClient, RequestOptions.Pooled]
  by_cases hreuse : o.enableConnectionReuse = true
  · have hcreate := isSome_createNewClient env.dialEnv (o.clientCallWith browser)
      (generateClientKey pool (o.clientCallWith browser)).2.next
    rw [hreuse, if_neg (by decide), and_iff_right rfl, ← creates_iff browser, ← hcreate]
    simp only [shards_generateClientKey]
    split
    · next entry hentry =>
      rw [hentry]
      exact iff_of_true rfl (.inl rfl)
    · next hentry =>
      rw [hentry, or_iff_right (by rintro ⟨⟩)]
      split
      · next client hclient => rw [hclient, Option.isSome_some]
      · next hclient => rw [hclient]
  · rw [if_pos (by rw [Bool.eq_false_iff.2 hreuse]; rfl), or_iff_right fun h => hreuse h.1,
      ← creates_iff { browser with disableKeepAlives := true }]
    exact Bool.eq_iff_iff.1 (isSome_createNewClient env.dialEnv _ pool.next)

/-! ## Requests -/

theorem isSome_newRequest_iff {method url : String} : (env.newRequest method url).isSome = true ↔
    (method = "" ∨ validMethod method = true) ∧ (env.parseURL url).isSome = true := by
  rw [env.isSome_newRequest, Bool.and_eq_true]
  by_cases hmethod : method = ""
  · rw [if_pos hmethod, and_iff_right (by decide), and_iff_right (.inl hmethod)]
  · rw [if_neg hmethod, or_iff_right hmethod]

theorem isRequest_buildRequest_iff {browser : Browser} {header : String → GoHeader} :
    (buildRequest env pool o now browser header).2.isRequest = true ↔
      (o.Pooled pool browser ∨ o.Dialable env) ∧
        (env.newRequest (env.toUpper o.method) o.url).isSome = true := by
  rw [← isSome_newClientWithReuse_iff now, buildRequest]
  dsimp only
  cases (newClientWithReuse env pool o now browser).2 with
  | none => exact iff_of_false nofun fun h => nomatch h.1
  | some client =>
    rw [Option.isSome_some, and_iff_right rfl]
    cases hnew : env.newRequest (env.toUpper o.method) o.url with
    | none => exact iff_of_false nofun nofun
    | some url =>
      have hparse := (isSome_newRequest_iff.1 (Option.isSome_iff_exists.2 ⟨url, hnew⟩)).2
      obtain ⟨u, hu⟩ := Option.isSome_iff_exists.1 hparse
      rw [hu]
      exact iff_of_true rfl rfl

theorem toUpper_eq_empty_iff {s : String} : env.toUpper s = "" ↔ s = "" := by
  rw [BuilderEnv.toUpper, ← String.toList_inj, String.toList_ofList, ← String.toList_inj]
  exact List.map_eq_nil_iff

theorem isSome_newRequest_get_iff {url : String} :
    (env.newRequest "GET" url).isSome = true ↔ (env.parseURL url).isSome = true :=
  isSome_newRequest_iff.trans (and_iff_right (.inr (by decide)))

theorem isRequest_dispatchWebSocketRequest_iff :
    (dispatchWebSocketRequest env o).isRequest = true ↔ (env.parseURL o.url).isSome = true := by
  rw [dispatchWebSocketRequest, ← isSome_newRequest_get_iff]
  cases env.newRequest "GET" o.url with
  | none => exact iff_of_false nofun nofun
  | some url => exact iff_of_true rfl rfl

theorem isRequest_dispatchSSERequest_iff :
    (dispatchSSERequest env pool o now).2.isRequest = true ↔
      (o.Pooled pool o.browser ∨ o.Dialable env) ∧ (env.parseURL o.url).isSome = true := by
  rw [dispatchSSERequest, ← isSome_newClientWithReuse_iff now, ← isSome_newRequest_get_iff]
  dsimp only
  cases (newClientWithReuse env pool o now o.browser).2 with
  | none => exact iff_of_false nofun fun h => nomatch h.1
  | some client =>
    cases env.newRequest "GET" o.url with
    | none => exact iff_of_false nofun fun h => nomatch h.2
    | some url => exact iff_of_true rfl ⟨rfl, rfl⟩

/-- A request comes of exactly the options that are accepted. -/
theorem isRequest_iff :
    (processRequest env pool o now).2.isRequest = true ↔ o.Accepted env pool := by
  rw [processRequest, RequestOptions.Accepted, RequestOptions.processBrowser]
  by_cases hws : o.protocol = "websocket"
  · rw [if_pos hws, isRequest_dispatchWebSocketRequest_iff,
      and_iff_left ⟨fun h => absurd hws h, fun h => absurd hws h⟩]
  rw [if_neg hws, forall_prop_of_true hws, forall_prop_of_true hws]
  by_cases hsse : o.protocol = "sse"
  · rw [if_pos hsse, if_neg fun h => h.1 hsse, isRequest_dispatchSSERequest_iff, and_comm,
      and_iff_left fun h => absurd hsse h]
  rw [if_neg hsse, forall_prop_of_true hsse]
  have hbuild (browser : Browser) (header : String → GoHeader) :
      (buildRequest env pool o now browser header).2.isRequest = true ↔
        (env.parseURL o.url).isSome = true ∧ (o.Pooled pool browser ∨ o.Dialable env) ∧
          (o.method = "" ∨ validMethod (env.toUpper o.method) = true) := by
    rw [isRequest_buildRequest_iff, isSome_newRequest_iff, toUpper_eq_empty_iff, ← and_assoc,
      and_comm]
  by_cases h3 : o.protocol = "http3" ∨ o.forceHTTP3 = true
  · rw [if_pos h3, if_pos ⟨hsse, h3⟩]
    exact hbuild _ _
  · rw [if_neg h3, if_neg fun h => h3 h.2]
    exact hbuild _ _

/-- A method with a space. -/
theorem not_forall_isRequest : ¬∀ (env : BuilderEnv) (pool : Pool) (o : RequestOptions) (now : Int),
    (processRequest env pool o now).2.isRequest = true := by
  intro h
  have hrequest := h (.ascii fun _ => some ⟨.https, "example.com", ""⟩) .new
    { method := "A B", url := "https://example.com" } 0
  exact absurd hrequest (by decide)

theorem buildRequest_ne_panicked {browser : Browser} {header : String → GoHeader} :
    (buildRequest env pool o now browser header).2 ≠ .panicked := by
  rw [buildRequest]
  dsimp only
  split
  · exact nofun
  · split
    · exact nofun
    · next url hnew =>
      have hparse := (isSome_newRequest_iff.1 (Option.isSome_iff_exists.2 ⟨url, hnew⟩)).2
      obtain ⟨u, hu⟩ := Option.isSome_iff_exists.1 hparse
      rw [hu]
      exact nofun

/-- The URL that is parsed again parses again. -/
theorem processRequest_ne_panicked : (processRequest env pool o now).2 ≠ .panicked := by
  rw [processRequest]
  split_ifs
  · rw [dispatchWebSocketRequest]
    split <;> exact nofun
  · rw [dispatchSSERequest]
    dsimp only
    split
    · exact nofun
    · split <;> exact nofun
  · exact buildRequest_ne_panicked
  · exact buildRequest_ne_panicked

end CycleTLS
