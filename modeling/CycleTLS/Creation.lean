import CycleTLS.Lib.Transition
import CycleTLS.Pool

/-!
# Concurrent calls of the pool (`client.go`)

`getOrCreateClient` looks for the client of a key with the read lock of the key's shard, and
again with its write lock before it makes one. `PoolStep` has the steps of any number of
calls, in any order, with those that clean up or clear a shard.

As long as no entry is dropped, a client is created for a key once at most, and all calls
with the key that succeed return it; and an entry is only ever in the shard of its key
(`creates_once`).
-/

namespace CycleTLS

open Transition

/-! ## Steps -/

/-- A `sync.RWMutex`: how many have it for reading, and who for writing. -/
structure RWMutex where
  readers : Nat := 0
  writer : Option Nat := none

namespace RWMutex

variable (m : RWMutex)

/-- It can be locked for writing. -/
def Free : Prop := m.readers = 0 ∧ m.writer = none

def rlock : RWMutex := { m with readers := m.readers + 1 }

def runlock : RWMutex := { m with readers := m.readers - 1 }

end RWMutex

/-- Where a call is in `getOrCreateClient`, with connection reuse. -/
inductive Point
  /-- Before it looks its key up in the cache of keys. -/
  | generating
  /-- Before it puts its key into the cache. -/
  | hashed (key : String)
  /-- Before `RLock`. -/
  | keyed (key : String)
  | reading (key : String)
  /-- Before `RUnlock`. -/
  | found (key : String) (client : Client)
  | missed (key : String)
  /-- Before `Lock`. -/
  | waiting (key : String)
  | checking (key : String)
  | creating (key : String)
  | storing (key : String) (client : Client)
  /-- Before the deferred `Unlock`. -/
  | leaving (key : String) (result : Option Client)

namespace Point

/-- The key of the call, once it is known. -/
def key : Point → Option String
  | generating => none
  | hashed key | keyed key | reading key | found key _ | missed key | waiting key | checking key
  | creating key | storing key _ | leaving key _ => some key

/-- The key whose shard is locked for writing. -/
def writes : Point → Option String
  | checking key | creating key | storing key _ | leaving key _ => some key
  | _ => none

/-- The client the call has. -/
def client : Point → Option Client
  | found _ client | storing _ client => some client
  | leaving _ result => result
  | _ => none

/-- The key it makes a client for. -/
def makes : Point → Option String
  | creating key => some key
  | _ => none

/-- The key it stores a client for. -/
def stores : Point → Option String
  | storing key _ => some key
  | _ => none

theorem key_of_writes {pt : Point} {k : String} (h : pt.writes = some k) : pt.key = some k := by
  cases pt <;> first | exact h | cases h

end Point

/-- The pool, the locks of its shards, and the calls under way. -/
structure SharedPool where
  pool : Pool
  locks : Fin 16 → RWMutex
  calls : Nat → Option (ClientCall × Point)

namespace SharedPool

def new : SharedPool := ⟨.new, fun _ => {}, fun _ => none⟩

variable (s : SharedPool)

/-- A call gets to a point, or returns. -/
def put (i : Nat) (call : Option (ClientCall × Point)) : SharedPool :=
  { s with calls := Function.update s.calls i call }

def setLock (j : Fin 16) (m : RWMutex) : SharedPool :=
  { s with locks := Function.update s.locks j m }

def setPool (p : Pool) : SharedPool := { s with pool := p }

variable {s} {i i' : Nat} {j j' : Fin 16}

theorem calls_put_self (call : Option (ClientCall × Point)) : (s.put i call).calls i = call := by
  simp only [put, Function.update_self]

theorem calls_put_of_ne (h : i' ≠ i) (call : Option (ClientCall × Point)) :
    (s.put i call).calls i' = s.calls i' := by
  simp only [put, Function.update_of_ne h]

theorem locks_setLock_self (m : RWMutex) : (s.setLock j m).locks j = m := by
  simp only [setLock, Function.update_self]

theorem locks_setLock_of_ne (h : j' ≠ j) (m : RWMutex) :
    (s.setLock j m).locks j' = s.locks j' := by
  simp only [setLock, Function.update_of_ne h]

variable (s)

/-- The client in the pool for a key. -/
def stored (key : String) : Option Client :=
  (s.pool.shards (getShard key) key).map ClientPoolEntry.client

end SharedPool

namespace Pool

variable (p : Pool)

/-- A pool with a key in the cache of keys. -/
def cacheKey (config key : String) : Pool :=
  { p with clientKeyCache := Function.update p.clientKeyCache config (some key) }

/-- A pool with an entry that was used. -/
def touch (key : String) (entry : ClientPoolEntry) (now : Int) : Pool :=
  p.store key { entry with lastUsed := now }

/-- A pool for which a client was made. -/
def allocate : Pool := { p with next := p.next + 1 }

/-- A pool with only some of the entries in a shard. -/
def filterShard (j : Fin 16) (keep : ClientPoolEntry → Bool) : Pool :=
  { p with shards := Function.update p.shards j fun key => (p.shards j key).filter keep }

end Pool

/-- What a step does that matters to other calls. -/
inductive PoolEvent
  | created (c : ClientCall) (client : Client)
  | returned (c : ClientCall) (result : Option Client)
  /-- Entries of a shard are dropped. -/
  | dropped
  | other

/-- The steps of the calls. -/
inductive PoolStep (env : DialEnv) : SharedPool → PoolEvent → SharedPool → Prop
  | start (s : SharedPool) (i : Nat) (c : ClientCall) (hi : s.calls i = none) :
      PoolStep env s .other (s.put i (some (c, .generating)))
  | cached (s : SharedPool) (i : Nat) (c : ClientCall) (key : String)
      (hi : s.calls i = some (c, .generating))
      (hkey : s.pool.clientKeyCache c.config = some key) :
      PoolStep env s .other (s.put i (some (c, .keyed key)))
  | hash (s : SharedPool) (i : Nat) (c : ClientCall)
      (hi : s.calls i = some (c, .generating)) (hkey : s.pool.clientKeyCache c.config = none) :
      PoolStep env s .other (s.put i (some (c, .hashed (hashKey c.config))))
  | cacheKey (s : SharedPool) (i : Nat) (c : ClientCall) (key : String)
      (hi : s.calls i = some (c, .hashed key)) :
      PoolStep env s .other
        ((s.setPool (s.pool.cacheKey c.config key)).put i (some (c, .keyed key)))
  | rlock (s : SharedPool) (i : Nat) (c : ClientCall) (key : String)
      (hi : s.calls i = some (c, .keyed key))
      (hfree : (s.locks (getShard key)).writer = none) :
      PoolStep env s .other ((s.setLock (getShard key) (s.locks (getShard key)).rlock).put i
        (some (c, .reading key)))
  | hit (s : SharedPool) (i : Nat) (c : ClientCall) (key : String) (entry : ClientPoolEntry)
      (now : Int) (hi : s.calls i = some (c, .reading key))
      (hentry : s.pool.shards (getShard key) key = some entry) :
      PoolStep env s .other ((s.setPool (s.pool.touch key entry now)).put i
        (some (c, .found key entry.client)))
  | miss (s : SharedPool) (i : Nat) (c : ClientCall) (key : String)
      (hi : s.calls i = some (c, .reading key))
      (hentry : s.pool.shards (getShard key) key = none) :
      PoolStep env s .other (s.put i (some (c, .missed key)))
  | runlockFound (s : SharedPool) (i : Nat) (c : ClientCall) (key : String) (client : Client)
      (hi : s.calls i = some (c, .found key client)) :
      PoolStep env s (.returned c (some client))
        ((s.setLock (getShard key) (s.locks (getShard key)).runlock).put i none)
  | runlockMissed (s : SharedPool) (i : Nat) (c : ClientCall) (key : String)
      (hi : s.calls i = some (c, .missed key)) :
      PoolStep env s .other ((s.setLock (getShard key) (s.locks (getShard key)).runlock).put i
        (some (c, .waiting key)))
  | lock (s : SharedPool) (i : Nat) (c : ClientCall) (key : String)
      (hi : s.calls i = some (c, .waiting key)) (hfree : (s.locks (getShard key)).Free) :
      PoolStep env s .other
        ((s.setLock (getShard key) { writer := some i }).put i (some (c, .checking key)))
  | recheckHit (s : SharedPool) (i : Nat) (c : ClientCall) (key : String)
      (entry : ClientPoolEntry) (now : Int) (hi : s.calls i = some (c, .checking key))
      (hentry : s.pool.shards (getShard key) key = some entry) :
      PoolStep env s .other ((s.setPool (s.pool.touch key entry now)).put i
        (some (c, .leaving key (some entry.client))))
  | recheckMiss (s : SharedPool) (i : Nat) (c : ClientCall) (key : String)
      (hi : s.calls i = some (c, .checking key))
      (hentry : s.pool.shards (getShard key) key = none) :
      PoolStep env s .other (s.put i (some (c, .creating key)))
  | create (s : SharedPool) (i : Nat) (c : ClientCall) (key : String) (client : Client)
      (hi : s.calls i = some (c, .creating key))
      (hclient : createNewClient env c s.pool.next = some client) :
      PoolStep env s (.created c client)
        ((s.setPool s.pool.allocate).put i (some (c, .storing key client)))
  | fail (s : SharedPool) (i : Nat) (c : ClientCall) (key : String)
      (hi : s.calls i = some (c, .creating key))
      (hclient : createNewClient env c s.pool.next = none) :
      PoolStep env s .other (s.put i (some (c, .leaving key none)))
  | store (s : SharedPool) (i : Nat) (c : ClientCall) (key : String) (client : Client) (now : Int)
      (hi : s.calls i = some (c, .storing key client)) :
      PoolStep env s .other ((s.setPool (s.pool.store key ⟨client, now, now⟩)).put i
        (some (c, .leaving key (some client))))
  | unlock (s : SharedPool) (i : Nat) (c : ClientCall) (key : String) (result : Option Client)
      (hi : s.calls i = some (c, .leaving key result)) :
      PoolStep env s (.returned c result) ((s.setLock (getShard key) {}).put i none)
  /-- A call without connection reuse has a client of its own. -/
  | bypass (s : SharedPool) : PoolStep env s .other (s.setPool s.pool.allocate)
  /-- `cleanupClientPool` and `clearAllConnections`, in a shard that they have locked. -/
  | drop (s : SharedPool) (j : Fin 16) (keep : ClientPoolEntry → Bool)
      (hfree : (s.locks j).Free) :
      PoolStep env s .dropped (s.setPool (s.pool.filterShard j keep))

/-! ## Locks -/

theorem Pool.KeysCached.cacheKey {p : Pool} (h : p.KeysCached) {config key : String}
    (hkey : key = hashKey config) : (p.cacheKey config key).KeysCached := by
  intro config' key' hkey'
  by_cases hc : config' = config
  · subst hc
    simp only [Pool.cacheKey, Function.update_self, Option.some.injEq] at hkey'
    rw [← hkey', hkey]
  · simp only [Pool.cacheKey, Function.update_of_ne hc] at hkey'
    exact h _ _ hkey'

/-- Each entry is in the shard of its key. -/
def Pool.InShards (p : Pool) : Prop :=
  ∀ j key entry, p.shards j key = some entry → j = getShard key

theorem Pool.InShards.store {p : Pool} (h : p.InShards) (key : String) (entry : ClientPoolEntry) :
    (p.store key entry).InShards := by
  intro j k e he
  by_cases hj : j = getShard key
  · subst hj
    by_cases hk : k = key
    · rw [hk]
    · simp only [Pool.store, Function.update_self, Function.update_of_ne hk] at he
      exact h _ _ _ he
  · simp only [Pool.store, Function.update_of_ne hj] at he
    exact h _ _ _ he

theorem Pool.InShards.filterShard {p : Pool} (h : p.InShards) (j : Fin 16)
    (keep : ClientPoolEntry → Bool) : (p.filterShard j keep).InShards := by
  intro j' k e he
  by_cases hj : j' = j
  · subst hj
    simp only [Pool.filterShard, Function.update_self] at he
    exact h _ _ _ (Option.filter_eq_some_iff.1 he).1
  · simp only [Pool.filterShard, Function.update_of_ne hj] at he
    exact h _ _ _ he

/-- The keys are right, and who writes to a shard has its lock. -/
structure Guarded (s : SharedPool) : Prop where
  cached : s.pool.KeysCached
  inShards : s.pool.InShards
  key : ∀ i c pt, s.calls i = some (c, pt) → ∀ key, pt.key = some key → key = c.key
  held : ∀ i c pt, s.calls i = some (c, pt) → ∀ key, pt.writes = some key →
    (s.locks (getShard key)).writer = some i

namespace Guarded

variable {env : DialEnv} {s s' : SharedPool} {i : Nat}

theorem new : Guarded .new where
  cached := Pool.keysCached_new
  inShards _ _ _ h := nomatch h
  key _ _ _ h := nomatch h
  held _ _ _ h := nomatch h

/-- One call gets on, and the others keep the locks that they have. -/
theorem put (h : Guarded s) {s₁ : SharedPool} {call : Option (ClientCall × Point)}
    (hcalls : s₁.calls = s.calls) (hcached : s₁.pool.KeysCached) (hshards : s₁.pool.InShards)
    (hkey : ∀ c pt, call = some (c, pt) → ∀ key, pt.key = some key → key = c.key)
    (hheld : ∀ c pt, call = some (c, pt) → ∀ key, pt.writes = some key →
      (s₁.locks (getShard key)).writer = some i)
    (hlocks : ∀ j i', i' ≠ i → (s.locks j).writer = some i' → (s₁.locks j).writer = some i') :
    Guarded (s₁.put i call) where
  cached := hcached
  inShards := hshards
  key i' c pt hi' := by
    by_cases hne : i' = i
    · subst hne
      exact hkey c pt ((SharedPool.calls_put_self _).symm.trans hi')
    · rw [SharedPool.calls_put_of_ne hne, hcalls] at hi'
      exact h.key i' c pt hi'
  held i' c pt hi' key hwrites := by
    by_cases hne : i' = i
    · subst hne
      exact hheld c pt ((SharedPool.calls_put_self _).symm.trans hi') key hwrites
    · rw [SharedPool.calls_put_of_ne hne, hcalls] at hi'
      exact hlocks _ i' hne (h.held i' c pt hi' key hwrites)

/-- A call gets on with the locks it has. -/
theorem advance (h : Guarded s) {c : ClientCall} {pt pt' : Point} {p : Pool}
    (hi : s.calls i = some (c, pt)) (hcached : p.KeysCached) (hshards : p.InShards)
    (hkey : ∀ key, pt'.key = some key → key = c.key) (hwrites : pt'.writes = pt.writes) :
    Guarded ((s.setPool p).put i (some (c, pt'))) := by
  refine h.put rfl hcached hshards ?_ ?_ fun _ _ _ => id
  · rintro _ _ ⟨⟩
    exact hkey
  · rintro _ _ ⟨⟩ key hpt
    exact h.held i c pt hi key (hwrites ▸ hpt)

/-- A lock gets other readers, by a call that does not write. -/
theorem read (h : Guarded s) {c : ClientCall} {pt : Point} {j : Fin 16} {m : RWMutex}
    {call : Option (ClientCall × Point)} (hi : s.calls i = some (c, pt))
    (hm : m.writer = (s.locks j).writer)
    (hcall : ∀ c' pt', call = some (c', pt') → c' = c ∧ pt'.key = pt.key ∧ pt'.writes = none) :
    Guarded ((s.setLock j m).put i call) := by
  refine h.put rfl h.cached h.inShards ?_ ?_ fun j' i' _ hwriter => ?_
  · intro c' pt' hpt'
    obtain ⟨rfl, hkey, -⟩ := hcall c' pt' hpt'
    rw [hkey]
    exact h.key i c' pt hi
  · intro c' pt' hpt' key hwrites
    rw [(hcall c' pt' hpt').2.2] at hwrites
    cases hwrites
  · by_cases hj : j' = j
    · subst hj
      rw [SharedPool.locks_setLock_self, hm, hwriter]
    · rw [SharedPool.locks_setLock_of_ne hj, hwriter]

/-- The lock of a shard is taken, or given back by the one who has it. -/
theorem write (h : Guarded s) {c : ClientCall} {pt : Point} {key : String} {m : RWMutex}
    {call : Option (ClientCall × Point)} (hi : s.calls i = some (c, pt)) (hkey : pt.key = some key)
    (hm : (s.locks (getShard key)).writer = none ∨ pt.writes = some key)
    (hcall : ∀ c' pt', call = some (c', pt') →
      c' = c ∧ pt'.key = some key ∧ m.writer = some i) :
    Guarded ((s.setLock (getShard key) m).put i call) := by
  refine h.put rfl h.cached h.inShards ?_ ?_ fun j' i' hne hwriter => ?_
  · intro c' pt' hpt' key' hkey'
    obtain ⟨rfl, hkey'', -⟩ := hcall c' pt' hpt'
    rw [← h.key i c' pt hi key hkey, Option.some.inj (hkey''.symm.trans hkey')]
  · intro c' pt' hpt' key' hwrites
    obtain ⟨rfl, hkey', hwriter⟩ := hcall c' pt' hpt'
    obtain rfl : key = key' := Option.some.inj (hkey'.symm.trans (Point.key_of_writes hwrites))
    rw [SharedPool.locks_setLock_self, hwriter]
  · have hj : j' ≠ getShard key := by
      rintro rfl
      rcases hm with hm | hm
      · rw [hm] at hwriter
        cases hwriter
      · exact hne (Option.some.inj (hwriter.symm.trans (h.held i c pt hi key hm)))
    rw [SharedPool.locks_setLock_of_ne hj, hwriter]

/-- All steps keep the keys and the locks right. -/
theorem step (h : Guarded s) {event : PoolEvent} (hs : PoolStep env s event s') :
    Guarded s' := by
  have hkept {i : Nat} {c : ClientCall} {pt : Point} {key : String}
      (hi : s.calls i = some (c, pt)) (hkey : pt.key = some key) :
      ∀ key', some key = some key' → key' = c.key := by
    rintro _ ⟨⟩
    exact h.key i c pt hi key hkey
  cases hs with
  | start i c hi =>
    refine h.put rfl h.cached h.inShards ?_ ?_ fun _ _ _ => id
    · rintro _ _ ⟨⟩ _ ⟨⟩
    · rintro _ _ ⟨⟩ _ ⟨⟩
  | cached i c key hi hkey =>
    refine h.advance hi h.cached h.inShards ?_ rfl
    rintro _ ⟨⟩
    exact h.cached _ _ hkey
  | hash i c hi hkey =>
    refine h.advance hi h.cached h.inShards ?_ rfl
    rintro _ ⟨⟩
    rfl
  | cacheKey i c key hi =>
    refine h.advance hi ?_ h.inShards (hkept hi rfl) rfl
    exact h.cached.cacheKey (h.key i c _ hi key rfl)
  | rlock i c key hi hfree =>
    refine h.read hi rfl ?_
    rintro _ _ ⟨⟩
    exact ⟨rfl, rfl, rfl⟩
  | hit i c key entry now hi hentry =>
    exact h.advance hi h.cached (h.inShards.store _ _) (hkept hi rfl) rfl
  | miss i c key hi hentry => exact h.advance hi h.cached h.inShards (hkept hi rfl) rfl
  | runlockFound i c key client hi => exact h.read hi rfl fun _ _ hcall => nomatch hcall
  | runlockMissed i c key hi =>
    refine h.read hi rfl ?_
    rintro _ _ ⟨⟩
    exact ⟨rfl, rfl, rfl⟩
  | lock i c key hi hfree =>
    refine h.write hi rfl (.inl hfree.2) ?_
    rintro _ _ ⟨⟩
    exact ⟨rfl, rfl, rfl⟩
  | recheckHit i c key entry now hi hentry =>
    exact h.advance hi h.cached (h.inShards.store _ _) (hkept hi rfl) rfl
  | recheckMiss i c key hi hentry => exact h.advance hi h.cached h.inShards (hkept hi rfl) rfl
  | create i c key client hi hclient =>
    exact h.advance hi h.cached h.inShards (hkept hi rfl) rfl
  | fail i c key hi hclient => exact h.advance hi h.cached h.inShards (hkept hi rfl) rfl
  | store i c key client now hi =>
    exact h.advance hi h.cached (h.inShards.store _ _) (hkept hi rfl) rfl
  | unlock i c key result hi => exact h.write hi rfl (.inr rfl) fun _ _ hcall => nomatch hcall
  | bypass => exact ⟨h.cached, h.inShards, h.key, h.held⟩
  | drop j keep hfree => exact ⟨h.cached, h.inShards.filterShard j keep, h.key, h.held⟩

end Guarded

/-! ## The clients of a key -/

namespace SharedPool

variable {s : SharedPool} {key key' : String} {entry : ClientPoolEntry}

theorem stored_store_self (p : Pool) :
    (s.setPool (p.store key entry)).stored key = some entry.client := by
  simp only [stored, setPool, Pool.store, Function.update_self, Option.map_some]

theorem stored_store_of_ne (h : key' ≠ key) :
    (s.setPool (s.pool.store key entry)).stored key' = s.stored key' := by
  simp only [stored, setPool, Pool.store]
  by_cases hshard : getShard key' = getShard key
  · rw [hshard, Function.update_self, Function.update_of_ne h]
  · rw [Function.update_of_ne hshard]

/-- To be used changes no client. -/
theorem stored_touch (h : s.pool.shards (getShard key) key = some entry) (now : Int) :
    (s.setPool (s.pool.touch key entry now)).stored key' = s.stored key' := by
  rw [Pool.touch]
  by_cases hkey : key' = key
  · rw [hkey, stored_store_self, stored, h, Option.map_some]
  · exact stored_store_of_ne hkey

end SharedPool

/-- The clients of a key: at most one, in the pool or about to be stored, and all calls with the
    key have it. -/
structure Single (key : String) (clients : List Client) (s : SharedPool) : Prop where
  once : clients.length ≤ 1
  present : ∀ client ∈ clients,
    s.stored key = some client ∨ ∃ i c, s.calls i = some (c, .storing key client)
  stored : ∀ client, s.stored key = some client → client ∈ clients
  carried : ∀ i c pt client, s.calls i = some (c, pt) → pt.key = some key →
    pt.client = some client → client ∈ clients
  creating : ∀ i c, s.calls i = some (c, .creating key) → s.stored key = none

/-- The client that a step creates for a key. -/
def PoolEvent.clientFor (key : String) : PoolEvent → Option Client
  | .created c client => if c.key = key then some client else none
  | _ => none

/-- The clients that are created for a key. -/
def createdFor (key : String) (es : List (SharedPool × PoolEvent)) : List Client :=
  es.filterMap fun e => e.2.clientFor key

namespace Single

variable {env : DialEnv} {s s' : SharedPool} {key : String} {clients : List Client} {i : Nat}

/-- A call that does not store a client gets on, with no change of the pool. -/
theorem put (h : Single key clients s) {s₁ : SharedPool} {call : Option (ClientCall × Point)}
    (hcalls : s₁.calls = s.calls) (hstored : s₁.stored key = s.stored key)
    (hi : ∀ c client, s.calls i ≠ some (c, .storing key client))
    (hcarried : ∀ c pt client, call = some (c, pt) → pt.key = some key → pt.client = some client →
      client ∈ clients)
    (hcreating : ∀ c, call = some (c, .creating key) → s.stored key = none) :
    Single key clients (s₁.put i call) where
  once := h.once
  present client hclient := by
    rcases h.present client hclient with hstore | ⟨i', c, hi'⟩
    · exact .inl (hstored.trans hstore)
    · have hne : i' ≠ i := by
        rintro rfl
        exact hi c client hi'
      exact .inr ⟨i', c, by rw [SharedPool.calls_put_of_ne hne, hcalls, hi']⟩
  stored client hclient := h.stored client (hstored.symm.trans hclient)
  carried i' c pt client hi' := by
    by_cases hne : i' = i
    · subst hne
      exact hcarried c pt client ((SharedPool.calls_put_self _).symm.trans hi')
    · rw [SharedPool.calls_put_of_ne hne, hcalls] at hi'
      exact h.carried i' c pt client hi'
  creating i' c hi' := by
    refine hstored.trans ?_
    by_cases hne : i' = i
    · subst hne
      exact hcreating c ((SharedPool.calls_put_self _).symm.trans hi')
    · rw [SharedPool.calls_put_of_ne hne, hcalls] at hi'
      exact h.creating i' c hi'

/-- The same for a call that stays under way. -/
theorem move (h : Single key clients s) {s₁ : SharedPool} {c : ClientCall} {pt pt' : Point}
    (hcalls : s₁.calls = s.calls) (hstored : s₁.stored key = s.stored key)
    (hi : s.calls i = some (c, pt)) (hpt : pt.stores ≠ some key)
    (hcarried : ∀ client, pt'.key = some key → pt'.client = some client → client ∈ clients)
    (hcreating : pt'.makes = some key → s.stored key = none) :
    Single key clients (s₁.put i (some (c, pt'))) := by
  refine h.put hcalls hstored ?_ ?_ ?_
  · rintro c' client hi'
    obtain rfl := (Prod.mk.inj (Option.some.inj (hi.symm.trans hi'))).2
    exact hpt rfl
  · rintro _ _ client ⟨⟩
    exact hcarried client
  · rintro _ ⟨⟩
    exact hcreating rfl

/-- The same for one that does not get a client. -/
theorem pass (h : Single key clients s) {s₁ : SharedPool} {c : ClientCall} {pt pt' : Point}
    (hi : s.calls i = some (c, pt)) (hcalls : s₁.calls = s.calls)
    (hstored : s₁.stored key = s.stored key) (hpt : pt.stores = none) (hclient : pt'.client = none)
    (hmakes : pt'.makes = none) : Single key clients (s₁.put i (some (c, pt'))) := by
  refine h.move hcalls hstored hi ?_ ?_ ?_
  · rw [hpt]
    exact Option.some_ne_none key ∘ Eq.symm
  · intro client _ hsome
    cases hclient.symm.trans hsome
  · intro hsome
    cases hmakes.symm.trans hsome

/-- A call gets the client in the pool. -/
theorem take (h : Single key clients s) {c : ClientCall} {pt pt' : Point} {key' : String}
    {entry : ClientPoolEntry} (hentry : s.pool.shards (getShard key') key' = some entry)
    (now : Int) (hi : s.calls i = some (c, pt)) (hpt : pt.stores = none)
    (hkey : pt'.key = some key') (hclient : pt'.client = some entry.client)
    (hmakes : pt'.makes = none) :
    Single key clients ((s.setPool (s.pool.touch key' entry now)).put i (some (c, pt'))) := by
  refine h.move rfl (SharedPool.stored_touch hentry now) hi ?_ ?_ ?_
  · rw [hpt]
    exact Option.some_ne_none key ∘ Eq.symm
  · intro client hkey' hsome
    obtain rfl : key' = key := Option.some.inj (hkey.symm.trans hkey')
    obtain rfl : entry.client = client := Option.some.inj (hclient.symm.trans hsome)
    exact h.stored _ (congrArg (Option.map ClientPoolEntry.client) hentry)
  · intro hsome
    cases hmakes.symm.trans hsome

/-- A call returns. -/
theorem leave (h : Single key clients s) {c : ClientCall} {pt : Point} {j : Fin 16} {m : RWMutex}
    (hi : s.calls i = some (c, pt)) (hpt : pt.stores = none) :
    Single key clients ((s.setLock j m).put i none) := by
  refine h.put rfl rfl ?_ ?_ ?_
  · rintro c' client hi'
    obtain rfl := (Prod.mk.inj (Option.some.inj (hi.symm.trans hi'))).2
    cases hpt
  · rintro _ _ _ ⟨⟩
  · rintro _ ⟨⟩

/-- The call that may create a client is the only one that has a client of its key or may get
    one: the others do not have the lock. -/
theorem eq_nil_of_creating (h : Single key clients s) (hg : Guarded s) {c : ClientCall}
    (hi : s.calls i = some (c, .creating key)) : clients = [] := by
  refine List.eq_nil_iff_forall_not_mem.2 fun client hclient => ?_
  rcases h.present client hclient with hstored | ⟨i', c', hi'⟩
  · rw [h.creating i c hi] at hstored
    cases hstored
  · have hwriter := (hg.held i _ _ hi key rfl).symm.trans (hg.held i' _ _ hi' key rfl)
    rw [← Option.some.inj hwriter, hi] at hi'
    cases hi'

/-- The first client of a key is created. -/
theorem create (h : Single key clients s) (hg : Guarded s) {c : ClientCall}
    (hi : s.calls i = some (c, .creating key)) (client : Client) :
    Single key (clients ++ [client])
      ((s.setPool s.pool.allocate).put i (some (c, .storing key client))) := by
  obtain rfl := h.eq_nil_of_creating hg hi
  refine ⟨Nat.le_refl 1, fun client' hclient' => ?_, fun client' hstored => ?_,
    fun i' c' pt client' hi' hkey hclient' => ?_, fun i' c' hi' => ?_⟩
  · rw [List.mem_singleton.1 hclient']
    exact .inr ⟨i, c, SharedPool.calls_put_self _⟩
  · cases (h.creating i c hi).symm.trans hstored
  · by_cases hne : i' = i
    · rw [hne, SharedPool.calls_put_self] at hi'
      cases hi'
      exact List.mem_singleton.2 (Option.some.inj hclient').symm
    · rw [SharedPool.calls_put_of_ne hne] at hi'
      cases h.carried i' c' pt client' hi' hkey hclient'
  · exact h.creating i c hi

/-- It is put into the pool. -/
theorem store (h : Single key clients s) (hg : Guarded s) {c : ClientCall} {client : Client}
    (hi : s.calls i = some (c, .storing key client)) (now : Int) :
    Single key clients ((s.setPool (s.pool.store key ⟨client, now, now⟩)).put i
      (some (c, .leaving key (some client)))) := by
  have hmem : client ∈ clients := h.carried i c _ client hi rfl rfl
  have hstored : ((s.setPool (s.pool.store key ⟨client, now, now⟩)).put i
      (some (c, .leaving key (some client)))).stored key = some client :=
    SharedPool.stored_store_self (s := s) s.pool
  refine ⟨h.once, fun client' hclient' => .inl ?_, fun client' hclient' => ?_,
    fun i' c' pt client' hi' hkey hclient' => ?_, fun i' c' hi' => ?_⟩
  · obtain ⟨only, rfl⟩ := List.length_eq_one_iff.1
      (Nat.le_antisymm h.once (List.length_pos_of_mem hmem))
    rw [hstored, List.mem_singleton.1 hmem, List.mem_singleton.1 hclient']
  · rwa [← Option.some.inj (hstored.symm.trans hclient')]
  · by_cases hne : i' = i
    · rw [hne, SharedPool.calls_put_self] at hi'
      cases hi'
      rwa [← Option.some.inj hclient']
    · rw [SharedPool.calls_put_of_ne hne] at hi'
      exact h.carried i' c' pt client' hi' hkey hclient'
  · by_cases hne : i' = i
    · rw [hne, SharedPool.calls_put_self] at hi'
      cases hi'
    · rw [SharedPool.calls_put_of_ne hne] at hi'
      have hwriter := (hg.held i _ _ hi key rfl).symm.trans (hg.held i' _ _ hi' key rfl)
      exact absurd (Option.some.inj hwriter).symm hne

/-- Any step but a cleanup. -/
theorem step (h : Single key clients s) (hg : Guarded s) {event : PoolEvent}
    (hs : PoolStep env s event s') (hevent : event ≠ .dropped) :
    Single key (clients ++ (event.clientFor key).toList) s' ∧
      ∀ c client, event = .returned c (some client) → c.key = key → client ∈ clients := by
  have hnew (hsingle : Single key clients s') : Single key (clients ++ none.toList) s' := by
    rwa [Option.toList_none, List.append_nil]
  have hother (c : ClientCall) (client : Client)
      (hreturned : PoolEvent.other = .returned c client) : c.key = key → client ∈ clients :=
    nomatch hreturned
  cases hs with
  | start i c hi =>
    refine ⟨hnew (h.put rfl rfl ?_ ?_ ?_), hother⟩
    · rw [hi]
      exact fun _ _ hcall => nomatch hcall
    · rintro _ _ _ ⟨⟩ _ ⟨⟩
    · rintro _ ⟨⟩
  | cached i c key' hi hkey => exact ⟨hnew (h.pass hi rfl rfl rfl rfl rfl), hother⟩
  | hash i c hi hkey => exact ⟨hnew (h.pass hi rfl rfl rfl rfl rfl), hother⟩
  | cacheKey i c key' hi => exact ⟨hnew (h.pass hi rfl rfl rfl rfl rfl), hother⟩
  | rlock i c key' hi hfree => exact ⟨hnew (h.pass hi rfl rfl rfl rfl rfl), hother⟩
  | hit i c key' entry now hi hentry =>
    exact ⟨hnew (h.take hentry now hi rfl rfl rfl rfl), hother⟩
  | miss i c key' hi hentry => exact ⟨hnew (h.pass hi rfl rfl rfl rfl rfl), hother⟩
  | runlockFound i c key' client hi =>
    refine ⟨hnew (h.leave hi rfl), ?_⟩
    rintro _ _ ⟨⟩ hkey
    exact h.carried i c _ client hi (congrArg some ((hg.key i c _ hi _ rfl).trans hkey)) rfl
  | runlockMissed i c key' hi => exact ⟨hnew (h.pass hi rfl rfl rfl rfl rfl), hother⟩
  | lock i c key' hi hfree => exact ⟨hnew (h.pass hi rfl rfl rfl rfl rfl), hother⟩
  | recheckHit i c key' entry now hi hentry =>
    exact ⟨hnew (h.take hentry now hi rfl rfl rfl rfl), hother⟩
  | recheckMiss i c key' hi hentry =>
    refine ⟨hnew (h.move rfl rfl hi (nomatch ·) (fun _ _ hsome => nomatch hsome) ?_), hother⟩
    rintro ⟨⟩
    exact congrArg (Option.map ClientPoolEntry.client) hentry
  | create i c key' client hi hclient =>
    have hkey : key' = c.key := hg.key i c _ hi key' rfl
    rw [PoolEvent.clientFor]
    split_ifs with hc
    · obtain rfl := hkey.trans hc
      exact ⟨h.create hg hi client, fun _ _ hreturned => nomatch hreturned⟩
    · refine ⟨hnew (h.move rfl rfl hi (nomatch ·) ?_ (nomatch ·)),
        fun _ _ hreturned => nomatch hreturned⟩
      rintro _ ⟨⟩
      exact absurd hkey.symm hc
  | fail i c key' hi hclient => exact ⟨hnew (h.pass hi rfl rfl rfl rfl rfl), hother⟩
  | store i c key' client now hi =>
    refine ⟨hnew ?_, hother⟩
    by_cases hkey : key = key'
    · subst hkey
      exact h.store hg hi now
    · refine h.move rfl (SharedPool.stored_store_of_ne hkey) hi ?_ ?_ (nomatch ·)
      · exact fun hstores => hkey (Option.some.inj hstores).symm
      · rintro _ ⟨⟩
        exact absurd rfl hkey
  | unlock i c key' result hi =>
    refine ⟨hnew (h.leave hi rfl), ?_⟩
    rintro _ client ⟨⟩ hkey
    exact h.carried i c _ client hi (congrArg some ((hg.key i c _ hi _ rfl).trans hkey)) rfl
  | bypass => exact ⟨hnew ⟨h.once, h.present, h.stored, h.carried, h.creating⟩, hother⟩
  | drop j keep hfree => exact absurd rfl hevent

/-- Where no call is under way, the client in the pool is the only one. -/
theorem of_quiet (hquiet : ∀ i, s.calls i = none) : Single key (s.stored key).toList s where
  once := by cases s.stored key <;> simp
  present client hclient := .inl (Option.mem_toList.1 hclient)
  stored client hclient := Option.mem_toList.2 hclient
  carried i c pt client hi := by cases (hquiet i).symm.trans hi
  creating i c hi := by cases (hquiet i).symm.trans hi

end Single

variable {env : DialEnv} {es es' : List (SharedPool × PoolEvent)} {s s' : SharedPool}

theorem guarded_of_path (h : Path (PoolStep env) s es s') (hs : Guarded s) : Guarded s' :=
  h.inv Guarded (fun _ _ => True) (fun _ _ _ hg _ hstep => hg.step hstep) (fun _ _ => trivial) hs

theorem Single.path {key : String} {clients : List Client} (hsingle : Single key clients s)
    (hg : Guarded s) (h : Path (PoolStep env) s es s') (hkept : ∀ e ∈ es, e.2 ≠ .dropped) :
    Single key (clients ++ createdFor key es) s' ∧ ∀ e ∈ es, ∀ c client,
      e.2 = .returned c (some client) → c.key = key → client ∈ clients ++ createdFor key es := by
  induction h with
  | nil =>
    rw [createdFor, List.filterMap_nil, List.append_nil]
    exact ⟨hsingle, fun _ he => absurd he List.not_mem_nil⟩
  | @snoc es t t' event hpath hstep ih =>
    obtain ⟨hes, hevent⟩ := (forall_mem_snoc fun _ event => event ≠ PoolEvent.dropped).1 hkept
    obtain ⟨hsingle, hreturned⟩ := ih hes
    obtain ⟨hsingle', hlast⟩ := hsingle.step (guarded_of_path hpath hg) hstep hevent
    have hcreated : clients ++ createdFor key (es ++ [(t, event)]) =
        clients ++ createdFor key es ++ (event.clientFor key).toList := by
      rw [createdFor, List.filterMap_append, List.append_assoc]
      cases hclient : event.clientFor key <;> simp [createdFor, hclient]
    rw [hcreated]
    refine ⟨hsingle', fun e he c client hreturn hkey => List.mem_append_left _ ?_⟩
    rcases List.mem_append.1 he with he | he
    · exact hreturned e he c client hreturn hkey
    · rw [List.mem_singleton.1 he] at hreturn
      exact hlast c client hreturn hkey

/-- While no entry is dropped, a client is created once at most for a key that has none, and
    every call with the key that succeeds returns it. Entries are always in their shards. -/
theorem creates_once {key : String} (h : Path (PoolStep env) .new es s)
    (hquiet : ∀ i, s.calls i = none) (h' : Path (PoolStep env) s es' s')
    (hkept : ∀ e ∈ es', e.2 ≠ .dropped) :
    ((s.stored key).toList ++ createdFor key es').length ≤ 1 ∧
      (∀ e ∈ es', ∀ c client, e.2 = .returned c (some client) → c.key = key →
        client ∈ (s.stored key).toList ++ createdFor key es') ∧
      (∀ e ∈ es ++ es', e.1.pool.InShards) ∧ s'.pool.InShards := by
  have hg := guarded_of_path h .new
  have hone : Single key _ s := .of_quiet hquiet
  obtain ⟨hsingle, hreturned⟩ := hone.path hg h' hkept
  have hshards {es : List (SharedPool × PoolEvent)} {t t' : SharedPool}
      (hpath : Path (PoolStep env) t es t') (ht : Guarded t) : ∀ e ∈ es, e.1.pool.InShards :=
    hpath.forall_mem Guarded (fun _ _ => True) (fun t _ => t.pool.InShards)
      (fun _ _ _ hi _ hstep => ⟨hi.step hstep, hi.inShards⟩) (fun _ _ => trivial) ht
  refine ⟨hsingle.once, hreturned, fun e he => ?_, (guarded_of_path h' hg).inShards⟩
  exact (List.mem_append.1 he).elim (hshards h .new e) (hshards h' hg e)

/-- A call that finds no client waits for the lock; it has left no trace in the pool. -/
theorem exists_path_waiting (h : Path (PoolStep env) .new es s) {i : Nat} {c : ClientCall}
    (hi : s.calls i = some (c, .keyed c.key))
    (hfree : (s.locks (getShard c.key)).writer = none)
    (hnone : s.pool.shards (getShard c.key) c.key = none) :
    ∃ es', Path (PoolStep env) .new (es ++ es') (s.put i (some (c, .waiting c.key))) ∧
      es'.map Prod.snd = List.replicate 3 .other := by
  let s₁ := (s.setLock (getShard c.key) (s.locks (getShard c.key)).rlock).put i
    (some (c, .reading c.key))
  let s₂ := s₁.put i (some (c, .missed c.key))
  have hpath : Path (PoolStep env) .new _ _ :=
    ((h.snoc (.rlock s i c c.key hi hfree)).snoc
      (.miss s₁ i c c.key (SharedPool.calls_put_self _) hnone)).snoc
      (.runlockMissed s₂ i c c.key (SharedPool.calls_put_self _))
  -- It has given the lock back that it read with.
  have hback : (s₂.setLock (getShard c.key) (s₂.locks (getShard c.key)).runlock).put i
      (some (c, .waiting c.key)) = s.put i (some (c, .waiting c.key)) := by
    simp [s₂, s₁, SharedPool.put, SharedPool.setLock, RWMutex.rlock, RWMutex.runlock]
  rw [hback, List.append_assoc, List.append_assoc] at hpath
  exact ⟨_, hpath, rfl⟩

variable (env) in
/-- Two calls with one key that both find no client: one creates it, and the other finds it
    when it has the lock. -/
theorem exists_path_shared (c : ClientCall) {client : Client}
    (hclient : createNewClient env c 0 = some client) : ∃ es s, Path (PoolStep env) .new es s ∧
      es.map Prod.snd = List.replicate 13 .other ++ [.created c client, .other,
        .returned c (some client), .other, .other, .returned c (some client)] := by
  have hself := @SharedPool.calls_put_self
  let s₁ := SharedPool.new.put 0 (some (c, .generating))
  let s₂ := s₁.put 0 (some (c, .hashed c.key))
  let s₃ := (s₂.setPool (s₂.pool.cacheKey c.config c.key)).put 0 (some (c, .keyed c.key))
  have h₃ : Path (PoolStep env) .new _ s₃ :=
    ((Path.nil.snoc (.start _ 0 c rfl)).snoc (.hash s₁ 0 c (hself _) rfl)).snoc
      (.cacheKey s₂ 0 c c.key (hself _))
  obtain ⟨es₄, h₄, hevents₄⟩ := exists_path_waiting h₃ (hself _) rfl rfl
  -- The second call comes by before the first one has the lock.
  let s₄ := s₃.put 0 (some (c, .waiting c.key))
  let s₅ := s₄.put 1 (some (c, .generating))
  let s₆ := s₅.put 1 (some (c, .keyed c.key))
  have hcached : s₅.pool.clientKeyCache c.config = some c.key := by
    simp only [s₅, s₄, s₃, SharedPool.put, SharedPool.setPool, Pool.cacheKey,
      Function.update_self]
  have h₆ : Path (PoolStep env) .new _ s₆ :=
    (h₄.snoc (.start s₄ 1 c rfl)).snoc (.cached s₅ 1 c c.key (hself _) hcached)
  obtain ⟨es₇, h₇, hevents₇⟩ := exists_path_waiting h₆ (hself _) rfl rfl
  let s₇ := s₆.put 1 (some (c, .waiting c.key))
  let s₈ := (s₇.setLock (getShard c.key) { writer := some 0 }).put 0 (some (c, .checking c.key))
  let s₉ := s₈.put 0 (some (c, .creating c.key))
  let s₁₀ := (s₉.setPool s₉.pool.allocate).put 0 (some (c, .storing c.key client))
  let s₁₁ := (s₁₀.setPool (s₁₀.pool.store c.key ⟨client, 0, 0⟩)).put 0
    (some (c, .leaving c.key (some client)))
  let s₁₂ := (s₁₁.setLock (getShard c.key) {}).put 0 none
  have h₁₂ : Path (PoolStep env) .new _ s₁₂ :=
    ((((h₇.snoc (.lock s₇ 0 c c.key rfl ⟨rfl, rfl⟩)).snoc
      (.recheckMiss s₈ 0 c c.key (hself _) rfl)).snoc
      (.create s₉ 0 c c.key client (hself _) hclient)).snoc
      (.store s₁₀ 0 c c.key client 0 (hself _))).snoc
      (.unlock s₁₁ 0 c c.key _ (hself _))
  let s₁₃ := (s₁₂.setLock (getShard c.key) { writer := some 1 }).put 1
    (some (c, .checking c.key))
  have hentry : s₁₃.pool.shards (getShard c.key) c.key = some ⟨client, 0, 0⟩ := by
    simp [s₁₃, s₁₂, s₁₁, SharedPool.put, SharedPool.setLock, SharedPool.setPool, Pool.store]
  have hunlocked : (s₁₂.locks (getShard c.key)).Free := by
    simp [s₁₂, SharedPool.put, SharedPool.setLock, RWMutex.Free]
  refine ⟨_, _, ((h₁₂.snoc (.lock s₁₂ 1 c c.key rfl hunlocked)).snoc
    (.recheckHit s₁₃ 1 c c.key _ 0 (hself _) hentry)).snoc
    (.unlock _ 1 c c.key _ (hself _)), ?_⟩
  simp [hevents₄, hevents₇, List.replicate]

/-- A call with the defaults. -/
def ClientCall.plain : ClientCall where
  browser := {}
  timeout := 15
  disableRedirect := false
  userAgent := ""
  localAddress := ""
  proxyURL := none

/-- Both calls return the client that one of them has created. -/
theorem creates_once_shared : ∃ es s client,
    Path (PoolStep ⟨fun _ => true, fun _ => true⟩) .new es s ∧
      es.map Prod.snd = List.replicate 13 .other ++ [.created .plain client, .other,
        .returned .plain (some client), .other, .other, .returned .plain (some client)] ∧
      ((SharedPool.new.stored ClientCall.plain.key).toList ++
        createdFor ClientCall.plain.key es).length ≤ 1 ∧
      ∀ e ∈ es, ∀ c client', e.2 = .returned c (some client') → c.key = ClientCall.plain.key →
        client' ∈ (SharedPool.new.stored ClientCall.plain.key).toList ++
          createdFor ClientCall.plain.key es := by
  obtain ⟨es, s, hpath, hevents⟩ :=
    exists_path_shared ⟨fun _ => true, fun _ => true⟩ ClientCall.plain rfl
  have hkept : ∀ e ∈ es, e.2 ≠ .dropped := by
    intro e he hdropped
    have hmem := List.mem_map_of_mem he (f := Prod.snd)
    rw [hevents, hdropped] at hmem
    simp at hmem
  obtain ⟨hcreated, hreturned, -⟩ := creates_once .nil (fun _ => rfl) hpath hkept
  exact ⟨es, s, _, hpath, hevents, hcreated, hreturned⟩

end CycleTLS
