import CycleTLS.RoundTripper

/-!
# The server name of a retry

The first handshake of `dialTLS` has the server name of the configuration, if there is
one. The retries are given the host of the address instead. All handshakes of the dials
of an address have the right name exactly if that makes no difference, or no retry gets
as far as its handshake (`namesKept_iff`).
-/

namespace CycleTLS

namespace RoundTripper

variable (env : NetEnv) (rt : RoundTripper)

/-! ## Names -/

/-- The host of an address. -/
def hostOf (addr : String) : String := (splitHostPort addr).elim addr Prod.fst

/-- The server name for an address. -/
def expectedName (addr : String) : String :=
  if rt.serverName ≠ "" then rt.serverName else hostOf addr

/-- The handshakes have the name. -/
def Named (name : String) (effects : List Effect) : Prop :=
  ∀ conn serverName hello insecureSkipVerify,
    Effect.handshake conn serverName hello insecureSkipVerify ∈ effects → serverName = name

/-- The attempt gets as far as a handshake. -/
def Attempt.Starts : Attempt → Prop
  | .handshakeFails _ | .connects _ => True
  | .dialFails | .specFails | .presetFails => False

/-- A JA3 string for TLS 1.2 is sent as one for TLS 1.3. -/
def Upgrades : Prop :=
  rt.quicFingerprint = "" ∧ rt.ja4r = "" ∧ rt.ja3 ≠ "" ∧ rt.tls13AutoRetry ∧
    "771,".toList <+: rt.ja3.toList

/-- A dial in a state, with its attempts. -/
structure Dial where
  state : State
  first : Attempt
  second : Attempt

/-- The first handshake of the dial fails in a way that is retried, and the retry gets as
    far as its handshake. -/
def Dial.Retries (addr : String) (d : Dial) : Prop :=
  d.state.cachedConnections addr = none ∧ Attempt.Starts d.second ∧
    ((d.first = .handshakeFails true ∧ rt.tls13AutoRetry) ∨
      (d.first = .handshakeFails false ∧ Upgrades rt))

/-- The dials of an address, one after the other. -/
def dialsOf (σ : State) (addr : String) : List (Attempt × Attempt) → List Dial
  | [] => []
  | (first, second) :: as =>
    ⟨σ, first, second⟩ :: dialsOf (dialTLS env rt σ addr first second).state addr as

/-! ## One dial -/

variable {env rt}

theorem named_append {name : String} {effects effects' : List Effect} :
    Named name (effects ++ effects') ↔ Named name effects ∧ Named name effects' := by
  constructor
  · intro h
    exact ⟨fun conn serverName hello skip hmem => h _ _ _ _ (List.mem_append_left _ hmem),
      fun conn serverName hello skip hmem => h _ _ _ _ (List.mem_append_right _ hmem)⟩
  · rintro ⟨h, h'⟩ conn serverName hello skip hmem
    rcases List.mem_append.1 hmem with hmem | hmem
    · exact h _ _ _ _ hmem
    · exact h' _ _ _ _ hmem

theorem named_nil (name : String) : Named name [] := fun _ _ _ _ h => absurd h List.not_mem_nil

/-- An attempt with another name shows, if it gets as far as its handshake. -/
theorem named_tryDial_iff {id : Nat} {addr serverName name : String} {hello : Hello}
    {a : Attempt} : Named name (tryDial rt id addr serverName hello a).2 ↔
      (Attempt.Starts a → serverName = name) := by
  constructor
  · intro h hstarts
    cases a with
    | dialFails | specFails | presetFails => exact hstarts.elim
    | handshakeFails unsupportedCurve =>
      exact h id serverName hello rt.insecureSkipVerify (by simp [tryDial])
    | connects h2 => exact h id serverName hello rt.insecureSkipVerify (by simp [tryDial])
  · intro h conn serverName' hello' skip hmem
    cases a with
    | dialFails => simp [tryDial] at hmem
    | specFails => simp [tryDial] at hmem
    | presetFails => simp [tryDial] at hmem
    | handshakeFails unsupportedCurve =>
      simp only [tryDial, List.mem_cons, List.not_mem_nil, or_false, reduceCtorEq, false_or,
        Effect.handshake.injEq] at hmem
      exact hmem.2.1.trans (h trivial)
    | connects h2 =>
      simp only [tryDial, List.mem_cons, List.not_mem_nil, or_false, reduceCtorEq, false_or,
        Effect.handshake.injEq] at hmem
      exact hmem.2.1.trans (h trivial)

theorem named_retry_iff {σ : State} {addr host name : String} {hello : Hello} {a : Attempt} :
    Named name (retry env rt σ addr host hello a).effects ↔ (Attempt.Starts a → host = name) := by
  have heffects : (retry env rt σ addr host hello a).effects =
      (tryDial rt σ.next addr host hello a).2 := by
    rw [retry]
    cases tryDial rt σ.next addr host hello a with
    | mk tried effects =>
      cases tried with
      | failed | rejected => rfl
      | connected conn =>
        simp only []
        split_ifs <;> rfl
  rw [heffects, named_tryDial_iff]

theorem firstHello_snd_iff {serverName : String} :
    ((firstHello rt serverName).2 = true ∧ rt.ja3 ≠ "") ↔ Upgrades rt := by
  rw [firstHello, Upgrades]
  by_cases hquic : rt.quicFingerprint = ""
  · by_cases hja4r : rt.ja4r = ""
    · by_cases hja3 : rt.ja3 = ""
      · simp [hja3]
      · rw [if_neg (not_not.2 hquic), if_neg (not_not.2 hja4r)]
        simp only [if_neg hja3]
        split_ifs with hupgrade
        · exact iff_of_true ⟨rfl, hja3⟩ ⟨hquic, hja4r, hja3, hupgrade⟩
        · exact iff_of_false (fun h => nomatch h.1) fun h => hupgrade h.2.2.2
    · simp [hquic, hja4r]
  · simp [hquic]

theorem named_dialTLS_iff {σ : State} {addr : String} {first second : Attempt} :
    Named (expectedName rt addr) (dialTLS env rt σ addr first second).effects ↔
      (Dial.Retries rt addr ⟨σ, first, second⟩ → hostOf addr = expectedName rt addr) := by
  rw [dialTLS, Dial.Retries]
  dsimp only
  cases hconn : σ.cachedConnections addr with
  | some conn => exact iff_of_true (named_nil _) fun h => by cases h.1
  | none =>
    dsimp only
    generalize hname : (if rt.serverName ≠ "" then rt.serverName else
      (splitHostPort addr).elim addr Prod.fst) = serverName
    have hexpected : expectedName rt addr = serverName := hname
    rw [hexpected]
    have hfirst : Named serverName (tryDial rt σ.next addr serverName
        (firstHello rt serverName).1 first).2 := named_tryDial_iff.2 fun _ => rfl
    cases htry : tryDial rt σ.next addr serverName (firstHello rt serverName).1 first with
    | mk tried effects =>
      rw [htry] at hfirst
      have hrejected (b : Bool) (h : tried = .rejected b) : first = .handshakeFails b :=
        tryDial_rejected (by rw [htry]; exact h)
      cases tried with
      | failed =>
        refine iff_of_true hfirst fun h => ?_
        rcases h.2.2 with ⟨rfl, -⟩ | ⟨rfl, -⟩ <;> cases htry
      | connected conn =>
        refine iff_of_true ?_ fun h => ?_
        · dsimp only
          split_ifs <;> exact hfirst
        · rcases h.2.2 with ⟨rfl, -⟩ | ⟨rfl, -⟩ <;> cases htry
      | rejected unsupportedCurve =>
        -- what is retried depends on the failure
        cases hrejected _ rfl
        cases unsupportedCurve with
        | true =>
          dsimp only
          split_ifs with hretry
          · rw [Dialed.after, named_append, retryWithTLS13CompatibleCurves, named_retry_iff,
              hostOf]
            simp only [hfirst, true_and, hretry, reduceCtorEq, Attempt.handshakeFails.injEq,
              false_and, or_false, and_true]
          · refine iff_of_true hfirst fun h => ?_
            simp [hretry] at h
        | false =>
          have hupgrades : ((firstHello rt serverName).2 && rt.ja3 ≠ "") = true ↔ Upgrades rt := by
            rw [Bool.and_eq_true, decide_eq_true_eq, firstHello_snd_iff]
          dsimp only
          split_ifs with hretry <;> rw [hupgrades] at hretry
          · rw [Dialed.after, named_append, retryWithOriginalTLS12JA3, named_retry_iff, hostOf]
            simp only [hfirst, true_and, hretry, reduceCtorEq, Attempt.handshakeFails.injEq,
              false_and, false_or, and_true]
          · refine iff_of_true hfirst fun h => ?_
            simp [hretry] at h

/-! ## The dials of an address -/

theorem dialAll_cons (σ : State) (addr : String) (first second : Attempt)
    (as : List (Attempt × Attempt)) : (dialAll env rt σ addr ((first, second) :: as)).2 =
      (dialTLS env rt σ addr first second).effects ++
        (dialAll env rt (dialTLS env rt σ addr first second).state addr as).2 := rfl

theorem hostOf_eq_expectedName_iff {addr : String} :
    hostOf addr = expectedName rt addr ↔ rt.serverName = "" ∨ rt.serverName = hostOf addr := by
  rw [expectedName]
  split_ifs with hname
  · exact ⟨fun h => .inr h.symm, fun h => (h.resolve_left hname).symm⟩
  · exact iff_of_true rfl (.inl (not_not.1 hname))

/-- The handshakes for an address have the right server name exactly if that is the name
    the retries have anyway, or none is retried. -/
theorem namesKept_iff (env : NetEnv) (rt : RoundTripper) (σ : State) (addr : String)
    (attempts : List (Attempt × Attempt)) :
    Named (expectedName rt addr) (dialAll env rt σ addr attempts).2 ↔
      rt.serverName = "" ∨ rt.serverName = hostOf addr ∨
        ∀ d ∈ dialsOf env rt σ addr attempts, ¬Dial.Retries rt addr d := by
  rw [← or_assoc, ← hostOf_eq_expectedName_iff]
  induction attempts generalizing σ with
  | nil => exact iff_of_true (named_nil _) (.inr fun d hd => absurd hd List.not_mem_nil)
  | cons a as ih =>
    obtain ⟨first, second⟩ := a
    rw [dialAll_cons, named_append, named_dialTLS_iff, ih, dialsOf, List.forall_mem_cons]
    by_cases hname : hostOf addr = expectedName rt addr
    · exact iff_of_true ⟨fun _ => hname, .inl hname⟩ (.inl hname)
    · rw [or_iff_right hname, or_iff_right hname]
      exact and_congr_left' ⟨fun h hretries => hname (h hretries), fun h hretries =>
        absurd hretries h⟩

/-- A configuration with a server name, whose JA3 string is sent as one for TLS 1.3. -/
def fronting : RoundTripper :=
  newRoundTripper
    { ja3 := "771,4865,0,29,0", serverName := "front.example", tls13AutoRetry := true } .direct 0

theorem not_forall_namesKept : ¬∀ (env : NetEnv) (rt : RoundTripper) (σ : State) (addr : String)
    (attempts : List (Attempt × Attempt)),
      Named (expectedName rt addr) (dialAll env rt σ addr attempts).2 := by
  intro h
  have hname := h ⟨fun _ => true, fun _ => ""⟩ fronting .new "hidden.example:443"
    [(.handshakeFails false, .connects false)] 1 "hidden.example"
    (.ja3 "771,4865,0,29,0" "" false) false (by decide +kernel)
  exact absurd hname (by decide +kernel)

end RoundTripper

end CycleTLS
