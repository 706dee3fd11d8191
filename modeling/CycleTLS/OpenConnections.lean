import CycleTLS.Protocols

/-!
# Connections that stay open (`roundtripper.go`)

`dialTLS` and its two retries open a raw connection each, and have to close it where they do not
return it or keep it. They do so when a handshake fails, but not on the other ways out: without a
hello, with a hello that cannot be applied, and for HTTP/2 without a transport. These are all of
the ways to lose a connection (`accounted_dialTLS_iff`).
-/

namespace CycleTLS

open Utf8

/-- An attempt ends with an open connection: before its handshake, or after it if an HTTP/2
    connection is not wanted. -/
def Attempt.Abandons (unwanted : Prop) : Attempt → Prop
  | specFails | presetFails => True
  | connects h2 => h2 = true ∧ unwanted
  | dialFails | handshakeFails _ => False

namespace RoundTripper

/-- What becomes of the connections a dial opens. -/
structure Dialed.Accounted (d : Dialed) : Prop where
  /-- Each of them is closed, returned or kept. -/
  owned : ∀ c, .opened c ∈ d.effects → .close c ∈ d.effects ∨
    (∃ conn, d.result = .conn conn ∧ conn.id = c) ∨
      ∃ addr conn, d.state.cachedConnections addr = some conn ∧ conn.id = c
  /-- If the dial fails, each of them is closed. -/
  closed : d.result = .failed → ∀ c, .opened c ∈ d.effects → .close c ∈ d.effects

variable (env : NetEnv) (rt : RoundTripper)

/-- A dial leaves a connection open: that of its first attempt, or of a retry. -/
def Abandons (σ : State) (addr : String) (first second : Attempt) : Prop :=
  σ.cachedConnections addr = none ∧
    (first.Abandons (σ.cachedTransports addr = none ∧ h2FingerprintFails env rt = true) ∨
      ∃ b, first = .handshakeFails b ∧ (retryHello rt (sni rt addr) b).isSome ∧
        second.Abandons (h2FingerprintFails env rt = true))

variable {env rt}

/-- A dial that fails is accounted for if its connections are closed. -/
theorem Dialed.accounted_iff_of_failed {d : Dialed} (h : d.result = .failed) :
    d.Accounted ↔ ∀ c, .opened c ∈ d.effects → .close c ∈ d.effects :=
  ⟨fun ha => ha.closed h, fun hc => ⟨fun c ho => .inl (hc c ho), fun _ => hc⟩⟩

/-- Connections that were closed before change nothing. -/
theorem Dialed.accounted_after_iff {d : Dialed} {effects : List Effect}
    (hclosed : ∀ c, .opened c ∈ effects → .close c ∈ effects)
    (hfresh : ∀ c, .close c ∈ effects → .opened c ∉ d.effects) :
    (d.after effects).Accounted ↔ d.Accounted := by
  have hclose {c : Nat} (ho : .opened c ∈ d.effects) :
      .close c ∈ effects ++ d.effects ↔ .close c ∈ d.effects :=
    List.mem_append.trans (or_iff_right fun h => hfresh c h ho)
  constructor
  · refine fun h => ⟨fun c ho => ?_, fun hf c ho => ?_⟩
    · exact (h.owned c (List.mem_append_right _ ho)).imp_left (hclose ho).1
    · exact (hclose ho).1 (h.closed hf c (List.mem_append_right _ ho))
  · refine fun h => ⟨fun c ho => ?_, fun hf c ho => ?_⟩
    · rcases List.mem_append.1 ho with ho | ho
      · exact .inl (List.mem_append_left _ (hclosed c ho))
      · exact (h.owned c ho).imp_left (hclose ho).2
    · rcases List.mem_append.1 ho with ho | ho
      · exact List.mem_append_left _ (hclosed c ho)
      · exact (hclose ho).2 (h.closed hf c ho)

/-- An attempt opens one connection at most, and closes it if the handshake fails. -/
theorem mem_tryDial {id : Nat} {addr serverName : String} {hello : Hello} {a : Attempt} (c : Nat) :
    (.opened c ∈ (tryDial rt id addr serverName hello a).2 ↔ c = id ∧ a ≠ .dialFails) ∧
      (.close c ∈ (tryDial rt id addr serverName hello a).2 ↔
        c = id ∧ ∃ b, a = .handshakeFails b) := by
  cases a <;> simp [tryDial]

/-- A dial that ends with a failed attempt is accounted for if that left nothing open. -/
theorem accounted_of_failed_iff {d : Dialed} {id : Nat} {addr serverName : String} {hello : Hello}
    {a : Attempt} (hfailed : d.result = .failed)
    (heffects : d.effects = (tryDial rt id addr serverName hello a).2) :
    d.Accounted ↔ a = .dialFails ∨ ∃ b, a = .handshakeFails b := by
  rw [Dialed.accounted_iff_of_failed hfailed, heffects]
  simp only [mem_tryDial]
  constructor
  · refine fun h => or_iff_not_imp_left.2 fun hdial => ?_
    exact (h id ⟨rfl, hdial⟩).2
  · rintro (rfl | hb) c ⟨hc, hdial⟩
    · exact absurd rfl hdial
    · exact ⟨hc, hb⟩

/-- A dial that ends with a connection is accounted for if it returns or keeps it. -/
theorem accounted_of_connected {d : Dialed} {id : Nat} {addr serverName : String} {hello : Hello}
    {a : Attempt} {conn : Conn} (heffects : d.effects = (tryDial rt id addr serverName hello a).2)
    (hid : conn.id = id) (hkept : d.result = .conn conn ∨
      d.result = .negotiated ∧ d.state.cachedConnections conn.addr = some conn) : d.Accounted := by
  refine ⟨fun c ho => .inr ?_, fun hf => ?_⟩
  · rw [heffects, (mem_tryDial c).1] at ho
    rw [ho.1, ← hid]
    exact hkept.imp (fun hr => ⟨conn, hr, rfl⟩) fun hk => ⟨conn.addr, conn, hk.2, rfl⟩
  · rcases hkept with hr | ⟨hr, -⟩
    · exact nomatch hf.symm.trans hr
    · exact nomatch hf.symm.trans hr

theorem effects_retry (σ : State) (addr host : String) (hello : Hello) (a : Attempt) :
    (retry env rt σ addr host hello a).effects = (tryDial rt σ.next addr host hello a).2 := by
  rw [retry]
  cases a with
  | connects h2 =>
    simp only [tryDial]
    split_ifs <;> rfl
  | _ => rfl

/-- A retry loses its connection exactly on the ways out that do not close it. -/
theorem accounted_retry_iff (σ : State) (addr host : String) (hello : Hello) (a : Attempt) :
    (retry env rt σ addr host hello a).Accounted ↔
      ¬a.Abandons (h2FingerprintFails env rt = true) := by
  have hfailed {d : Dialed} (hr : d.result = .failed)
      (he : d.effects = (tryDial rt σ.next addr host hello a).2) :
      d.Accounted ↔ a = .dialFails ∨ ∃ b, a = .handshakeFails b := accounted_of_failed_iff hr he
  rw [retry]
  cases a with
  | dialFails => exact (hfailed rfl rfl).trans (iff_of_true (.inl rfl) not_false)
  | specFails => exact (hfailed rfl rfl).trans (iff_of_false (by simp) (not_not.2 trivial))
  | presetFails => exact (hfailed rfl rfl).trans (iff_of_false (by simp) (not_not.2 trivial))
  | handshakeFails b => exact (hfailed rfl rfl).trans (iff_of_true (.inr ⟨b, rfl⟩) not_false)
  | connects h2 =>
    simp only [tryDial]
    split_ifs with hfp hs
    · rw [Bool.and_eq_true] at hfp
      exact (hfailed rfl rfl).trans (iff_of_false (by simp) (not_not.2 hfp))
    · rw [Bool.and_eq_true] at hfp
      exact iff_of_true (accounted_of_connected (a := .connects h2) rfl rfl (.inl rfl)) hfp
    · rw [Bool.and_eq_true] at hfp
      exact iff_of_true (accounted_of_connected (a := .connects h2) rfl rfl
        (.inr ⟨rfl, Function.update_self ..⟩)) hfp

/-- The first attempt failed and closed its connection, and is retried. -/
theorem accounted_after_rejected_iff {σ : State} {addr serverName host : String}
    {hello hello' : Hello} {b : Bool} {second : Attempt} :
    ((retry env rt { σ with next := σ.next + 1 } addr host hello' second).after
        (tryDial rt σ.next addr serverName hello (.handshakeFails b)).2).Accounted ↔
      ¬second.Abandons (h2FingerprintFails env rt = true) := by
  refine (Dialed.accounted_after_iff (fun c ho => ?_) fun c hc ho => ?_).trans
    (accounted_retry_iff _ _ _ _ _)
  · exact (mem_tryDial c).2.2 ⟨((mem_tryDial c).1.1 ho).1, b, rfl⟩
  · -- the retry has a connection of its own
    rw [effects_retry, (mem_tryDial c).1] at ho
    rw [(mem_tryDial c).2] at hc
    exact Nat.succ_ne_self _ (ho.1.symm.trans hc.1)

theorem ite_serverName (addr : String) : (if rt.serverName ≠ "" then rt.serverName else
    (splitHostPort addr).elim addr Prod.fst) = sni rt addr := by
  rw [sni]

/-- A dial whose first handshake fails ends with it, or with the retry. -/
theorem accounted_rejected_iff {σ : State} {addr : String} (hc : σ.cachedConnections addr = none)
    (b : Bool) (second : Attempt) :
    (dialTLS env rt σ addr (.handshakeFails b) second).Accounted ↔
      ¬((retryHello rt (sni rt addr) b).isSome ∧
        second.Abandons (h2FingerprintFails env rt = true)) := by
  have hended (σ' : State) : (⟨σ', .failed, (tryDial rt σ.next addr (sni rt addr)
      (firstHello rt (sni rt addr)).1 (.handshakeFails b)).2⟩ : Dialed).Accounted :=
    (accounted_of_failed_iff rfl rfl).2 (.inr ⟨b, rfl⟩)
  rw [dialTLS, hc, retryHello.eq_def]
  simp only [ite_serverName]
  cases b with
  | true =>
    simp only [tryDial]
    split_ifs with hretry
    · exact (accounted_after_rejected_iff (b := true)).trans (by simp)
    · exact iff_of_true (hended _) (by simp)
  | false =>
    simp only [tryDial]
    by_cases hretry : ((firstHello rt (sni rt addr)).2 && rt.ja3 ≠ "") = true
    · rw [if_pos hretry, if_pos hretry]
      exact (accounted_after_rejected_iff (b := false)).trans (by simp)
    · rw [if_neg hretry, if_neg hretry]
      exact iff_of_true (hended _) (by simp)

/-- Every connection of a dial is closed, returned or kept, and closed if the dial fails, exactly
    unless the dial has to make a connection and abandons the one of its first attempt or of its
    retry. -/
theorem accounted_dialTLS_iff (env : NetEnv) (rt : RoundTripper) (σ : State) (addr : String)
    (first second : Attempt) :
    (dialTLS env rt σ addr first second).Accounted ↔ ¬Abandons env rt σ addr first second := by
  rw [Abandons]
  cases hc : σ.cachedConnections addr with
  | some conn =>
    refine iff_of_true ?_ fun h => by cases h.1
    rw [dialTLS, hc]
    exact ⟨fun c ho => absurd ho List.not_mem_nil, fun hf => by cases hf⟩
  | none =>
    have hfailed {d : Dialed} (hr : d.result = .failed) (he : d.effects =
        (tryDial rt σ.next addr (sni rt addr) (firstHello rt (sni rt addr)).1 first).2) :
        d.Accounted ↔ first = .dialFails ∨ ∃ b, first = .handshakeFails b :=
      accounted_of_failed_iff hr he
    cases first with
    | handshakeFails b =>
      refine (accounted_rejected_iff hc b second).trans (not_congr ?_)
      simp [Attempt.Abandons]
    | dialFails =>
      rw [dialTLS, hc]
      exact (hfailed rfl rfl).trans (iff_of_true (.inl rfl) (by simp [Attempt.Abandons]))
    | specFails =>
      rw [dialTLS, hc]
      exact (hfailed rfl rfl).trans (iff_of_false (by simp) (by simp [Attempt.Abandons]))
    | presetFails =>
      rw [dialTLS, hc]
      exact (hfailed rfl rfl).trans (iff_of_false (by simp) (by simp [Attempt.Abandons]))
    | connects h2 =>
      rw [dialTLS, hc]
      simp only [ite_serverName, tryDial]
      split_ifs with hs hfp
      · refine iff_of_true (accounted_of_connected (a := .connects h2) rfl rfl (.inl rfl)) ?_
        rw [Option.isSome_iff_ne_none] at hs
        simp [Attempt.Abandons, hs]
      · rw [Bool.and_eq_true] at hfp
        refine (hfailed rfl rfl).trans (iff_of_false (by simp) ?_)
        simp [Attempt.Abandons, hfp, Option.not_isSome_iff_eq_none.1 hs]
      · rw [Bool.and_eq_true] at hfp
        refine iff_of_true (accounted_of_connected (a := .connects h2) rfl rfl
          (.inr ⟨rfl, Function.update_self ..⟩)) ?_
        rintro ⟨-, ⟨hh2, -, hfails⟩ | ⟨b, hb, -⟩⟩
        · exact hfp ⟨hh2, hfails⟩
        · cases hb

/-- A JA3 string that lists an unknown extension makes no hello. -/
theorem not_forall_accounted : ¬∀ (env : NetEnv) (rt : RoundTripper) (σ : State) (addr : String)
    (first second : Attempt), rt.Feasible addr first second →
      (dialTLS env rt σ addr first second).Accounted := by
  intro h
  let env : NetEnv := ⟨fun _ => true, fun _ => ""⟩
  let rt := newRoundTripper { ja3 := "771,4865,99,29,0" } .direct 0
  have hfails : stringToSpec (utf8 "771,4865,99,29,0") (utf8 "") false =
      .error (.extensionNotExist (utf8 "99")) := by decide +kernel
  have hspec : Attempt.Feasible (.ja3 "771,4865,99,29,0" "" false) .specFails := by
    refine ⟨by rw [Hello.spec, hfails]; rfl, fun hpanics => ?_⟩
    rw [Hello.Panics, hfails] at hpanics
    cases hpanics
  have hacc := h env rt .new "h:443" .specFails .dialFails ⟨hspec, by simp⟩
  have heffects : (dialTLS env rt .new "h:443" .specFails .dialFails).effects =
      [.dial (.dialer .direct) "h:443", .opened 0] := rfl
  have hclosed := hacc.closed rfl 0
  rw [heffects] at hclosed
  exact absurd (hclosed (by simp)) (by simp)

end RoundTripper

end CycleTLS
