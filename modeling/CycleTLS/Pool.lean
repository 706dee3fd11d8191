import CycleTLS.Errors
import CycleTLS.Lib.Cache
import Mathlib.Algebra.Group.Nat.Defs
import Mathlib.Data.Fin.Basic

/-!
# The client pool (`client.go`)

Clients are pooled under a key: a checksum of the text of a part of the
configuration (`generateClientKey`). The pool is split into shards by another
hash of the key; entries are dropped when they were not used for a while
(`cleanupClientPool`) or all at once (`clearAllConnections`).

A client keeps what it was built from: its round tripper has the fingerprint,
the cookies and the dialer of the call it was created for.
-/

namespace CycleTLS

open Utf8

/-! ## Hashes -/

/-- A step of the reflected CRC-32 on one bit. -/
def crcBit (c : UInt32) : UInt32 := if c &&& 1 = 1 then (c >>> 1) ^^^ 0xEDB88320 else c >>> 1

/-- A step of CRC-32 on one byte. -/
def crcByte (c : UInt32) (b : UInt8) : UInt32 := Nat.repeat crcBit 8 (c ^^^ b.toUInt32)

/-- `crc32.ChecksumIEEE`. -/
def checksumIEEE (s : Bytes) : UInt32 := s.foldl crcByte 0xFFFFFFFF ^^^ 0xFFFFFFFF

/-- FNV-1a, as `fnv.New32a`. -/
def fnv32a (s : Bytes) : UInt32 := s.foldl (fun h b => (h ^^^ b.toUInt32) * 16777619) 2166136261

/-! ## Configuration -/

/-- A `Cookie` of the Go side; the fields that only Go's own cookies have are
    left out. -/
structure GoCookie where
  name : String
  value : String
  path : String := ""
  domain : String := ""
  maxAge : Int := 0
  secure : Bool := false
  httpOnly : Bool := false
  deriving DecidableEq

/-- A `Browser`: the configuration of a client. -/
structure Browser where
  ja3 : String := ""
  ja4r : String := ""
  http2Fingerprint : String := ""
  quicFingerprint : String := ""
  disableGrease : Bool := false
  userAgent : String := ""
  serverName : String := ""
  cookies : List GoCookie := []
  insecureSkipVerify : Bool := false
  forceHTTP1 : Bool := false
  forceHTTP3 : Bool := false
  localAddress : String := ""
  disableKeepAlives : Bool := false
  tls13AutoRetry : Bool := false
  headerOrder : List String := []
  deriving DecidableEq

/-- What a client dials with. -/
inductive Dialer
  /-- `proxy.Direct`. -/
  | direct
  /-- A `net.Dialer` bound to a local address. -/
  | bound (localAddress : String)
  /-- The dialer `newConnectDialer` returns. -/
  | connect (proxyURL userAgent localAddress : String)
  deriving DecidableEq

/-- The parts of a `roundTripper` that are set once and for all. -/
structure RoundTripper where
  /-- Its identity: no two round trippers have the same. -/
  id : Nat
  dialer : Dialer
  ja3 : String
  ja4r : String
  http2Fingerprint : String
  quicFingerprint : String
  disableGrease : Bool
  userAgent : String
  headerOrder : List String
  serverName : String
  cookies : List GoCookie
  insecureSkipVerify : Bool
  forceHTTP1 : Bool
  forceHTTP3 : Bool
  localAddress : String
  disableKeepAlives : Bool
  tls13AutoRetry : Bool
  deriving DecidableEq

/-- `newRoundTripper`. -/
def newRoundTripper (browser : Browser) (dialer : Dialer) (id : Nat) : RoundTripper where
  id := id
  dialer := dialer
  ja3 := browser.ja3
  ja4r := browser.ja4r
  http2Fingerprint := browser.http2Fingerprint
  quicFingerprint := browser.quicFingerprint
  disableGrease := browser.disableGrease
  userAgent := browser.userAgent
  headerOrder := browser.headerOrder
  serverName := browser.serverName
  cookies := browser.cookies
  insecureSkipVerify := browser.insecureSkipVerify
  forceHTTP1 := browser.forceHTTP1
  forceHTTP3 := browser.forceHTTP3
  localAddress := browser.localAddress
  disableKeepAlives := browser.disableKeepAlives
  tls13AutoRetry := browser.tls13AutoRetry

/-- A `fhttp.Client`. -/
structure Client where
  transport : RoundTripper
  /-- The timeout, in seconds. -/
  timeout : Int
  /-- Whether `CheckRedirect` is `disabledRedirect`. -/
  disableRedirect : Bool
  deriving DecidableEq

/-- `clientBuilder`. -/
def clientBuilder (browser : Browser) (dialer : Dialer) (timeout : Int) (disableRedirect : Bool)
    (id : Nat) : Client where
  transport := newRoundTripper browser dialer id
  timeout := if timeout = 0 then 15 else timeout
  disableRedirect := disableRedirect

/-- The arguments of `getOrCreateClient`. -/
structure ClientCall where
  browser : Browser
  timeout : Int
  disableRedirect : Bool
  userAgent : String
  localAddress : String
  /-- The first of the optional `proxyURL`s. -/
  proxyURL : Option String
  deriving DecidableEq

/-! ## Keys -/

/-- `%t`. -/
def formatBool (b : Bool) : String := if b then "true" else "false"

/-- The part of the key for the cookies. -/
def cookieStr (cookies : List GoCookie) : String :=
  cookies.foldl (fun s c => s ++ ("|cookie:" ++ c.name ++ "=" ++ c.value)) ""

/-- The text a client key is the checksum of. -/
def configStr (browser : Browser) (timeout : Int) (disableRedirect : Bool)
    (proxyURL localAddress : String) : String :=
  "ja3:" ++ browser.ja3 ++ "|ja4r:" ++ browser.ja4r ++ "|http2:" ++ browser.http2Fingerprint ++
    "|quic:" ++ browser.quicFingerprint ++ "|ua:" ++ browser.userAgent ++
    "|sni:" ++ browser.serverName ++ "|proxy:" ++ proxyURL ++ "|local:" ++ localAddress ++
    "|timeout:" ++ toString timeout ++ "|redirect:" ++ formatBool disableRedirect ++
    "|skipverify:" ++ formatBool browser.insecureSkipVerify ++
    "|forcehttp1:" ++ formatBool browser.forceHTTP1 ++
    "|forcehttp3:" ++ formatBool browser.forceHTTP3 ++ cookieStr browser.cookies

/-- The key of a configuration text, written with `%08x`. -/
def hashKey (config : String) : String :=
  String.ofList (hexDigits 8 (checksumIEEE (utf8 config)).toNat)

/-- The configuration text of a call. -/
def ClientCall.config (c : ClientCall) : String :=
  configStr c.browser c.timeout c.disableRedirect (c.proxyURL.getD "") c.localAddress

/-- The key a call is pooled under. -/
def ClientCall.key (c : ClientCall) : String := hashKey c.config

theorem lowerhex_inj {m n : Nat} (h : lowerhex m = lowerhex n) : m % 16 = n % 16 := by
  have hinj : ∀ i < 16, ∀ j < 16, lowerhex i = lowerhex j → i = j := by decide
  refine hinj _ (Nat.mod_lt m (by decide)) _ (Nat.mod_lt n (by decide)) ?_
  rwa [lowerhex, lowerhex, Nat.mod_mod, Nat.mod_mod]

theorem hexDigits_inj {w m n : Nat} (hm : m < 16 ^ w) (hn : n < 16 ^ w)
    (h : hexDigits w m = hexDigits w n) : m = n := by
  induction w generalizing m n with
  | zero => omega
  | succ w ih =>
    rw [Nat.pow_succ] at hm hn
    obtain ⟨hdiv, hmod⟩ := List.append_inj' h rfl
    have := ih (Nat.div_lt_of_lt_mul (by omega)) (Nat.div_lt_of_lt_mul (by omega)) hdiv
    have := lowerhex_inj (List.singleton_inj.1 hmod)
    omega

/-- Keys are equal where the checksums are. -/
theorem ClientCall.key_eq_iff {c d : ClientCall} :
    c.key = d.key ↔ checksumIEEE (utf8 c.config) = checksumIEEE (utf8 d.config) := by
  refine ⟨fun h => ?_, fun h => by rw [key, key, hashKey, hashKey, h]⟩
  exact UInt32.toNat_inj.1 (hexDigits_inj (UInt32.toNat_lt _) (UInt32.toNat_lt _)
    (String.ofList_injective h))

/-! ## Clients -/

/-- What creating a client depends on outside the repository's own code: which
    proxy URLs `newConnectDialer` accepts, and which texts `net.ParseIP` does. -/
structure DialEnv where
  acceptsProxy : String → Bool
  parseIP : String → Bool

/-- `createNewClient`, allocating the round tripper `id`. -/
def createNewClient (env : DialEnv) (c : ClientCall) (id : Nat) : Option Client :=
  let browser := { c.browser with localAddress := c.localAddress }
  if c.proxyURL.getD "" ≠ "" then
    if env.acceptsProxy (c.proxyURL.getD "") then
      some (clientBuilder browser (.connect (c.proxyURL.getD "") c.userAgent c.localAddress)
        c.timeout c.disableRedirect id)
    else none
  else if c.localAddress ≠ "" then
    if env.parseIP c.localAddress then
      some (clientBuilder browser (.bound c.localAddress) c.timeout c.disableRedirect id)
    else none
  else some (clientBuilder browser .direct c.timeout c.disableRedirect id)

/-- Whether a client can be created for a call. -/
def ClientCall.creates (env : DialEnv) (c : ClientCall) : Bool :=
  if c.proxyURL.getD "" ≠ "" then env.acceptsProxy (c.proxyURL.getD "")
  else if c.localAddress ≠ "" then env.parseIP c.localAddress
  else true

theorem isSome_createNewClient (env : DialEnv) (c : ClientCall) (id : Nat) :
    (createNewClient env c id).isSome = c.creates env := by
  rw [createNewClient, ClientCall.creates]
  split_ifs <;> simp_all

/-! ## The pool -/

/-- A `ClientPoolEntry`. -/
structure ClientPoolEntry where
  client : Client
  createdAt : Int
  lastUsed : Int

/-- The global pool: its shards, the cache of client keys, and the number of
    the next round tripper. -/
structure Pool where
  shards : Fin 16 → String → Option ClientPoolEntry
  clientKeyCache : String → Option String
  next : Nat

/-- `NewShardedPool`, with nothing cached. -/
def Pool.new : Pool := ⟨fun _ _ => none, fun _ => none, 0⟩

/-- `getShard`: the number of the shard of a key. -/
def getShard (key : String) : Fin 16 := Fin.ofNat 16 (fnv32a (utf8 key)).toNat

/-- `generateClientKey`, with its cache. -/
def generateClientKey (p : Pool) (c : ClientCall) : String × Pool :=
  match p.clientKeyCache c.config with
  | some cached => (cached, p)
  | none =>
    (hashKey c.config, { p with
      clientKeyCache := Function.update p.clientKeyCache c.config (some (hashKey c.config)) })

/-- Puts an entry into the shard of its key. -/
def Pool.store (p : Pool) (key : String) (entry : ClientPoolEntry) : Pool :=
  { p with
    shards := Function.update p.shards (getShard key)
      (Function.update (p.shards (getShard key)) key (some entry)) }

/-- `getOrCreateClient`, at the time `now`. -/
def getOrCreateClient (env : DialEnv) (p : Pool) (c : ClientCall) (enableConnectionReuse : Bool)
    (now : Int) : Pool × Option Client :=
  if !enableConnectionReuse then
    let c := { c with browser := { c.browser with disableKeepAlives := true } }
    ({ p with next := p.next + 1 }, createNewClient env c p.next)
  else
    let (clientKey, p) := generateClientKey p c
    match p.shards (getShard clientKey) clientKey with
    | some entry => (p.store clientKey { entry with lastUsed := now }, some entry.client)
    | none =>
      match createNewClient env c p.next with
      | some client =>
        ({ (p.store clientKey ⟨client, now, now⟩) with next := p.next + 1 }, some client)
      | none => (p, none)

/-- `cleanupClientPool`, at the time `now`. -/
def cleanupClientPool (p : Pool) (maxAge now : Int) : Pool :=
  { p with shards := fun i key =>
      (p.shards i key).filter fun entry => decide (¬(now - entry.lastUsed > maxAge)) }

/-- `clearAllConnections`: the pool without its entries. -/
def clearAllConnections (p : Pool) : Pool := { p with shards := fun _ _ => none }

/-- A use of the pool: a call with connection reuse at a time, or a cleanup. -/
inductive PoolOp
  | get (c : ClientCall) (now : Int)
  | cleanup (maxAge now : Int)
  | clear

/-- The calls of a run, with the clients they are given. -/
def Pool.run (env : DialEnv) : Pool → List PoolOp → List (ClientCall × Option Client)
  | _, [] => []
  | p, .get c now :: ops =>
    (c, (getOrCreateClient env p c true now).2) ::
      run env (getOrCreateClient env p c true now).1 ops
  | p, .cleanup maxAge now :: ops => run env (cleanupClientPool p maxAge now) ops
  | p, .clear :: ops => run env (clearAllConnections p) ops

/-! ## The pool is a cache -/

namespace Pool

/-- The pool as a cache: its shards together, without their times. -/
def toCache (p : Pool) : Cache.State String Client where
  entries key := (p.shards (getShard key) key).map ClientPoolEntry.client
  next := p.next

/-- The cached keys are the keys. -/
def KeysCached (p : Pool) : Prop :=
  ∀ config key, p.clientKeyCache config = some key → key = hashKey config

theorem keysCached_new : KeysCached new := fun _ _ h => nomatch h

theorem toCache_entries (p : Pool) (key : String) :
    p.toCache.entries key = (p.shards (getShard key) key).map ClientPoolEntry.client := rfl

theorem toCache_store (p : Pool) (key : String) (entry : ClientPoolEntry) (n : Nat) :
    ({ (p.store key entry) with next := n } : Pool).toCache =
      ⟨Function.update p.toCache.entries key (some entry.client), n⟩ := by
  refine congrArg₂ Cache.State.mk (funext fun k => ?_) rfl
  by_cases hk : k = key
  · subst hk
    simp [store]
  · rw [Function.update_of_ne hk, toCache_entries]
    by_cases hs : getShard k = getShard key
    · simp [store, hs, Function.update_of_ne hk]
    · simp [store, Function.update_of_ne hs]

/-- The key of a call does not depend on what is cached. -/
theorem generateClientKey_spec {p : Pool} (h : p.KeysCached) (c : ClientCall) :
    (generateClientKey p c).1 = c.key ∧ (generateClientKey p c).2.KeysCached ∧
      (generateClientKey p c).2.toCache = p.toCache := by
  rw [generateClientKey, ClientCall.key]
  cases hc : p.clientKeyCache c.config with
  | some cached => exact ⟨h _ _ hc, h, rfl⟩
  | none =>
    refine ⟨rfl, fun config key hk => ?_, rfl⟩
    by_cases he : config = c.config
    · simp only [he, Function.update_self, Option.some.injEq] at hk
      rw [he, hk]
    · simp only [Function.update_of_ne he] at hk
      exact h config key hk

/-- A call of the pool is a call of the cache. -/
theorem getOrCreateClient_spec (env : DialEnv) {p : Pool} (h : p.KeysCached) (c : ClientCall)
    (now : Int) :
    (getOrCreateClient env p c true now).1.KeysCached ∧
      ((getOrCreateClient env p c true now).1.toCache, (getOrCreateClient env p c true now).2) =
        Cache.get ClientCall.key (createNewClient env) p.toCache c := by
  obtain ⟨hkey, hcached, hcache⟩ := generateClientKey_spec h c
  generalize hg : generateClientKey p c = g at hkey hcached hcache
  obtain ⟨key, q⟩ := g
  obtain rfl : key = c.key := hkey
  rw [getOrCreateClient, if_neg (by decide), hg, ← hcache]
  -- a hit only writes the time of use, which the cache does not see
  cases hs : q.shards (getShard c.key) c.key with
  | some entry =>
    have held : q.toCache.entries c.key = some entry.client := by rw [toCache_entries, hs]; rfl
    have hsame : Function.update q.toCache.entries c.key (some entry.client) = q.toCache.entries :=
      Function.update_eq_self_iff.2 held.symm
    have hstore := toCache_store q c.key { entry with lastUsed := now } q.next
    rw [hsame] at hstore
    simp only [hs]
    rw [Cache.get_of_held held]
    exact ⟨hcached, congrArg (·, some entry.client) hstore⟩
  | none =>
    have hnone : q.toCache.entries c.key = none := by rw [toCache_entries, hs]; rfl
    -- a miss keeps the new client, if one is made
    cases hm : createNewClient env c q.next with
    | some client =>
      simp only [hs, hm]
      rw [Cache.get_of_made hnone hm, toCache_store]
      exact ⟨hcached, rfl⟩
    | none =>
      simp only [hs, hm]
      rw [Cache.get_of_not_made hnone hm]
      exact ⟨hcached, rfl⟩

/-- The keys with an entry that was not used for longer than `maxAge`. -/
def stale (p : Pool) (maxAge now : Int) (key : String) : Bool :=
  (p.shards (getShard key) key).any fun entry => decide (now - entry.lastUsed > maxAge)

theorem toCache_cleanupClientPool (p : Pool) (maxAge now : Int) :
    (cleanupClientPool p maxAge now).toCache = Cache.evict (p.stale maxAge now) p.toCache := by
  refine congrArg₂ Cache.State.mk (funext fun k => ?_) rfl
  change ((p.shards (getShard k) k).filter fun entry =>
      decide (¬(now - entry.lastUsed > maxAge))).map ClientPoolEntry.client =
    if (p.shards (getShard k) k).any fun entry => decide (now - entry.lastUsed > maxAge) then none
    else (p.shards (getShard k) k).map ClientPoolEntry.client
  cases p.shards (getShard k) k with
  | none => rfl
  | some entry =>
    rw [Option.filter_some, Option.any_some, decide_not]
    cases decide (now - entry.lastUsed > maxAge) <;> rfl

/-- The calls of a run. -/
def calls : List PoolOp → List ClientCall
  | [] => []
  | .get c _ :: ops => c :: calls ops
  | _ :: ops => calls ops

/-- A run of the pool is a run of the cache with the same calls. -/
theorem exists_run_eq (env : DialEnv) {p : Pool} (h : p.KeysCached) (ops : List PoolOp) :
    ∃ ops' : List (Cache.Op ClientCall String),
      p.run env ops = Cache.run ClientCall.key (createNewClient env) p.toCache ops' ∧
        Cache.calls ops' = calls ops := by
  induction ops generalizing p with
  | nil => exact ⟨[], rfl, rfl⟩
  | cons op ops ih =>
    -- cleaning and clearing are evictions; only calls return something
    cases op with
    | get c now =>
      obtain ⟨hcached, hget⟩ := getOrCreateClient_spec env h c now
      obtain ⟨ops', hrun, hcalls⟩ := ih hcached
      refine ⟨.get c :: ops', ?_, congrArg (c :: ·) hcalls⟩
      rw [run, hrun, Cache.run, ← hget]
    | cleanup maxAge now =>
      obtain ⟨ops', hrun, hcalls⟩ := ih (p := cleanupClientPool p maxAge now) h
      exact ⟨.evict (p.stale maxAge now) :: ops',
        hrun.trans (by rw [toCache_cleanupClientPool]; rfl), hcalls⟩
    | clear =>
      obtain ⟨ops', hrun, hcalls⟩ := ih (p := clearAllConnections p) h
      exact ⟨.evict (fun _ => true) :: ops', hrun, hcalls⟩

/-- A run of calls is one of the cache without evictions. -/
theorem run_eq_of_calls (env : DialEnv) {p : Pool} (h : p.KeysCached)
    (cs : List (ClientCall × Int)) :
    p.run env (cs.map fun c => .get c.1 c.2) =
      Cache.run ClientCall.key (createNewClient env) p.toCache ((cs.map Prod.fst).map .get) := by
  induction cs generalizing p with
  | nil => rfl
  | cons c cs ih =>
    obtain ⟨hcached, hget⟩ := getOrCreateClient_spec env h c.1 c.2
    rw [List.map_cons, List.map_cons, List.map_cons, run, Cache.run, ← hget, ih hcached]

end Pool

end CycleTLS
