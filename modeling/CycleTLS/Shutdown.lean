import CycleTLS.Batcher

/-!
# Shutting the batcher down

After a shutdown the thread drains the queue once, flushes what it found and
exits; callers may submit requests at any time. The clients share a batcher, which
any of them shuts down when it is closed, while the others keep it. A request is
left without an answer exactly if it is submitted after the thread has found the
queue empty (`clients_stranded_iff`).
-/

namespace CycleTLS

open Transition

namespace Batcher

variable {P R E : Type} {s s' : State P R E} {a : Actor} {size : Int}
  {es : List (State P R E × Actor)}

/-- The queue has been drained for the last time. -/
def Phase.Drained : Phase P R E → Prop
  | .flushing _ last | .distributing _ last | .setting _ _ _ last => last = true
  | .exited => True
  | _ => False

/-- The thread is gone, and some future is not resolved. -/
def Stranded (s : State P R E) : Prop :=
  (s.phase = .exited ∨ s.phase = .crashed) ∧ ∃ p ∈ s.submitted, ¬Resolved p.future s

/-- Some request was submitted after the last drain. -/
def Late (es : List (State P R E × Actor)) : Prop := ∃ e ∈ es, e.2 = .submit ∧ e.1.phase.Drained

theorem late_snoc : Late (es ++ [(s, a)]) ↔ Late es ∨ a = .submit ∧ s.phase.Drained := by
  simp [Late, or_and_right, exists_or]

/-- The last drain leaves nothing in the queue, and nothing is taken out after it. -/
theorem drained_step (hstep : Step size s a s') (ha : a ≠ .submit)
    (hrunning : s'.phase ≠ .crashed) :
    (s.phase.Drained → s'.phase.Drained ∧ s'.queue.reduceOption = s.queue.reduceOption) ∧
      (¬s.phase.Drained → s'.phase.Drained → s'.queue.reduceOption = []) := by
  cases hstep with
  | submit => exact absurd rfl ha
  | cancel | setEvent => exact ⟨fun h => ⟨h, rfl⟩, fun h h' => absurd h' h⟩
  | putSentinel n hn =>
    exact ⟨fun h => ⟨h, by simp [List.reduceOption_append]⟩, fun h h' => absurd h' h⟩
  | invalid => exact absurd rfl hrunning
  -- The last drain ends where the queue is empty.
  | drained items hp hq =>
    rw [hp, hq]
    exact ⟨fun h => h.elim, fun _ _ => rfl⟩
  | enter hp | leave hp | idle hp | woken q hp | first p q hp | more batch p q hp
  | stop batch q hp | cut batch hp | flushed hp | drain items p q hp =>
    simp [Phase.Drained, hp]
  | drainSentinel items q hp => simp [Phase.Drained, hp]
  -- Flushing leaves the queue alone, and keeps in mind whether it is the last.
  | call batch last outcome hp | skip p r rest last hp | check p r rest last hp
  | set p r rest last hp =>
    rw [hp]
    exact ⟨fun h => ⟨h, rfl⟩, fun h h' => absurd h' h⟩
  | exit hp =>
    rw [hp]
    exact ⟨fun _ => ⟨trivial, rfl⟩, fun h => absurd rfl h⟩

/-- What is in the queue after the last drain is what came late. -/
theorem queue_of_path (h : Path (Step size) .new es s) (hcancel : ∀ e ∈ es, e.2 ≠ .cancel) :
    Accounted s ∧ (s.phase.Drained → (s.queue.reduceOption = [] ↔ ¬Late es)) ∧
      (¬s.phase.Drained → ¬Late es) := by
  induction h with
  | nil =>
    refine ⟨accounted_new, fun h => h.elim, ?_⟩
    rintro - ⟨e, he, -⟩
    cases he
  | @snoc es t t' a hpath hstep ih =>
    have ha : a ≠ .cancel := hcancel (t, a) (by simp)
    obtain ⟨ht, hdrained, hnot⟩ := ih fun e he => hcancel e (List.mem_append_left _ he)
    have ht' := ht.step ha hstep
    refine ⟨ht', ?_⟩
    rw [late_snoc]
    -- A request that is submitted is late or not; any other step keeps to `drained_step`.
    by_cases hsubmit : a = .submit
    · subst hsubmit
      cases hstep with
      | submit payload =>
        refine ⟨fun h => iff_of_false ?_ fun hl => hl (.inr ⟨rfl, h⟩), fun h => ?_⟩
        · simp [List.reduceOption_append]
        · exact not_or.2 ⟨hnot h, fun hl => h hl.2⟩
    · obtain ⟨hstay, hnew⟩ := drained_step hstep hsubmit ht'.running
      simp only [hsubmit, false_and, or_false]
      by_cases hd : t.phase.Drained
      · obtain ⟨hd', hqueue⟩ := hstay hd
        rw [hqueue]
        exact ⟨fun _ => hdrained hd, fun h => absurd hd' h⟩
      · exact ⟨fun hd' => iff_of_true (hnew hd hd') (hnot hd), fun _ => hnot hd⟩

/-- A request in the queue has no answer. -/
theorem Accounted.not_resolved_of_mem_queue (h : Accounted s) {p : Pending P}
    (hp : p ∈ s.queue.reduceOption) : ¬Resolved p.future s := by
  rintro ⟨r, hr⟩
  have hlog : p.future ∈ (s.batches.flatMap Prod.fst).map Pending.future := by
    have hentry : (p.future, r) ∈ s.log ++ s.phase.undelivered.map entry :=
      List.mem_append_left _ ((h.finished _ _).1 hr)
    rw [h.resolved] at hentry
    have hfst := List.mem_map_of_mem (f := Prod.fst) hentry
    rw [List.map_flatMap] at hfst ⊢
    simpa only [map_future_resolutions] using hfst
  have hnodup : (s.submitted.map Pending.future).Nodup := by
    rw [h.numbered]
    exact List.nodup_range
  rw [← h.order, List.map_append] at hnodup
  exact (List.nodup_append.1 hnodup).2.2 _ hlog _
    (List.mem_map_of_mem (List.mem_append_right _ hp)) rfl

/-- If no future is cancelled, a request is stranded exactly if the thread has exited and
    some request was submitted after it drained the queue. -/
theorem stranded_iff (h : Path (Step size) .new es s) (hcancel : ∀ e ∈ es, e.2 ≠ .cancel) :
    Stranded s ↔ s.phase = .exited ∧ Late es := by
  obtain ⟨hs, hqueue, -⟩ := queue_of_path h hcancel
  rw [Stranded, or_iff_left hs.running]
  refine and_congr_right fun hp => ?_
  have hlate := hqueue (by rw [hp]; trivial)
  rw [← not_iff_not, ← hlate]
  -- What is in the queue has no answer, and everything else has one when the thread exits.
  constructor
  · intro hall
    cases hq : s.queue.reduceOption with
    | nil => rfl
    | cons p q =>
      have hmem : p ∈ s.queue.reduceOption := hq ▸ List.mem_cons_self
      refine absurd ⟨p, ?_, hs.not_resolved_of_mem_queue hmem⟩ hall
      rw [← hs.order]
      exact List.mem_append_right _ (List.mem_append_right _ hmem)
  · rintro hempty ⟨p, hp', hr⟩
    have hlt : p.future < s.submitted.length := by
      rw [← List.mem_range, ← hs.numbered]
      exact List.mem_map_of_mem hp'
    have hmem := hs.tracked.mem_of_not_settled hlt fun h => hr (hs.resolved_of_settled h)
    rw [hp, hempty] at hmem
    simp [Phase.held, Phase.undelivered] at hmem

/-! ## Clients -/

/-- The batchers that were made, and who has them. -/
structure Clients (P R E : Type) where
  batchers : Nat → State P R E
  made : Nat
  /-- `_global_batcher`. -/
  shared : Option Nat
  /-- `_batcher` of each client. -/
  batcher : Nat → Option Nat

/-- A step of the clients among themselves, or one of a batcher. -/
inductive ClientEvent
  | registry
  | inner (b : Nat) (a : Actor)

def Clients.new : Clients P R E := ⟨fun _ => .new, 0, none, fun _ => none⟩

/-- The steps of clients that use batching. A request is a step of the batcher its
    client has. To close a client, the shared batcher is shut down, in steps of it,
    and then both are without one. -/
inductive ClientStep (size : Int) : Clients P R E → ClientEvent → Clients P R E → Prop
  /-- `get_batcher`, if there is one. -/
  | join (s : Clients P R E) (c b : Nat) (hb : s.shared = some b) :
      ClientStep size s .registry { s with batcher := Function.update s.batcher c (some b) }
  /-- `get_batcher`, if there is none. -/
  | make (s : Clients P R E) (c : Nat) (hb : s.shared = none) :
      ClientStep size s .registry { s with
        made := s.made + 1
        shared := some s.made
        batcher := Function.update s.batcher c (some s.made) }
  | inner (s : Clients P R E) (b : Nat) (a : Actor) (t : State P R E) (hb : b < s.made)
      (hclient : a = .submit → ∃ c, s.batcher c = some b)
      (hstep : Step size (s.batchers b) a t) :
      ClientStep size s (.inner b a) { s with batchers := Function.update s.batchers b t }
  /-- The end of `close`. -/
  | closed (s : Clients P R E) (c b : Nat) (hc : s.batcher c = some b) :
      ClientStep size s .registry { s with
        shared := none
        batcher := Function.update s.batcher c none }

/-- The steps of one batcher. -/
def ClientEvent.part (b : Nat) : ClientEvent → Option Actor
  | .registry => none
  | .inner b' a => if b' = b then some a else none

theorem ClientEvent.part_eq_some_iff {b : Nat} {e : ClientEvent} {a : Actor} :
    e.part b = some a ↔ e = .inner b a := by
  cases e with
  | registry => simp [part]
  | inner b' a' => simp [part]

/-- Each batcher takes a path of its own. -/
theorem path_batcher {s : Clients P R E} {es : List (Clients P R E × ClientEvent)}
    (h : Path (ClientStep size) .new es s) (b : Nat) :
    Path (Step size) .new
      (es.filterMap fun e => (e.2.part b).map fun a => (e.1.batchers b, a)) (s.batchers b) := by
  refine h.project (fun s => s.batchers b) (ClientEvent.part b) ?_ ?_
  · intro s e s' a hstep ha
    obtain rfl := ClientEvent.part_eq_some_iff.1 ha
    cases hstep with
    | inner b a t hb hclient hstep => simpa using hstep
  · intro s e s' hstep ha
    cases hstep with
    | inner b' a t hb hclient hstep =>
      have hne : b' ≠ b := by
        rintro rfl
        simp [ClientEvent.part] at ha
      exact Function.update_of_ne hne.symm _ _
    | _ => rfl

/-- A path on which no future is cancelled. -/
def UncancelledPath (size : Int) (es : List (Clients P R E × ClientEvent)) (s : Clients P R E) :
    Prop :=
  Path (ClientStep size) .new es s ∧ ∀ e ∈ es, ∀ b, e.2 ≠ .inner b .cancel

theorem UncancelledPath.snoc {s s' : Clients P R E} {es : List (Clients P R E × ClientEvent)}
    {e : ClientEvent} (h : UncancelledPath size es s) (hstep : ClientStep size s e s')
    (he : ∀ b, e ≠ .inner b .cancel) : UncancelledPath size (es ++ [(s, e)]) s' := by
  refine ⟨h.1.snoc hstep, fun e' he' => ?_⟩
  rcases List.mem_append.1 he' with he' | he'
  · exact h.2 e' he'
  · rw [List.mem_singleton.1 he']
    exact he

/-- A request is stranded exactly if the thread of its batcher has exited, and some
    request was submitted to it after its last drain. -/
theorem clients_stranded_iff {s : Clients P R E} {es : List (Clients P R E × ClientEvent)}
    (h : UncancelledPath size es s) (b : Nat) :
    Stranded (s.batchers b) ↔ (s.batchers b).phase = .exited ∧
      ∃ e ∈ es, e.2 = .inner b .submit ∧ (e.1.batchers b).phase.Drained := by
  -- The steps of the batcher, in its path and in that of the clients.
  have hmem {t : State P R E} {a : Actor} :
      (t, a) ∈ es.filterMap (fun e => (e.2.part b).map fun a => (e.1.batchers b, a)) ↔
        ∃ e ∈ es, e.2 = .inner b a ∧ e.1.batchers b = t := by
    simp [ClientEvent.part_eq_some_iff, and_comm]
  rw [stranded_iff (path_batcher h.1 b) fun e he ha => ?_]
  · refine and_congr_right fun _ => ?_
    constructor
    · rintro ⟨⟨t, a⟩, ht, rfl, hd⟩
      obtain ⟨e, he, hinner, rfl⟩ := hmem.1 ht
      exact ⟨e, he, hinner, hd⟩
    · rintro ⟨e, he, hinner, hd⟩
      exact ⟨_, hmem.2 ⟨e, he, hinner, rfl⟩, rfl, hd⟩
  · obtain ⟨e', he', hinner, -⟩ := hmem.1 he
    exact h.2 e' he' b (ha ▸ hinner)

/-- A batcher without requests that is shut down. -/
def State.down (queue : List (Option (Pending Unit))) (sentinels : Nat)
    (phase : Phase Unit Unit Unit) : State Unit Unit Unit where
  queue := queue
  shutdownEvent := true
  sentinels := sentinels
  phase := phase
  futures _ := .pending
  submitted := []
  batches := []
  log := []

/-- Clients with one batcher. -/
def Clients.one (t : State Unit Unit Unit) (shared : Option Nat) (batcher : Nat → Option Nat) :
    Clients Unit Unit Unit :=
  ⟨Function.update (fun _ => .new) 0 t, 1, shared, batcher⟩

theorem Clients.one_inner {t : State Unit Unit Unit} {shared : Option Nat}
    {batcher : Nat → Option Nat} {a : Actor} (t' : State Unit Unit Unit)
    (hstep : Step 32 t a t') (hclient : a = .submit → ∃ c, batcher c = some 0) :
    ClientStep 32 (.one t shared batcher) (.inner 0 a) (.one t' shared batcher) := by
  have hinner := ClientStep.inner (.one t shared batcher) 0 a t' Nat.one_pos hclient hstep
  simpa only [Clients.one, Function.update_idem] using hinner

/-- Two clients share a batcher, one is closed, and the thread of the batcher exits. -/
theorem exists_exited : ∃ es batcher, batcher 1 = some 0 ∧
    UncancelledPath 32 es (.one (.down [] 0 .exited) none batcher) := by
  let both := Function.update (Function.update (fun _ => none) 0 (some 0)) 1 (some 0)
  let second := Function.update both 0 none
  obtain ⟨_, hopen⟩ : ∃ es, UncancelledPath 32 es (.one .new (some 0) both) := by
    have hnew : UncancelledPath 32 [] (Clients.new : Clients Unit Unit Unit) :=
      ⟨.nil, fun _ h => nomatch h⟩
    have hone : Clients.one .new (some 0) both = ⟨fun _ => .new, 1, some 0, both⟩ := by
      simp [Clients.one]
    rw [hone]
    exact ⟨_, (hnew.snoc (.make _ 0 rfl) nofun).snoc (.join _ 1 0 rfl) nofun⟩
  -- `close` sets the event, puts the sentinel and gives up the batcher for both.
  obtain ⟨_, hclose⟩ : ∃ es, UncancelledPath 32 es (.one (.down [none] 0 .top) none second) :=
    ⟨_, ((hopen.snoc (Clients.one_inner (.down [] 1 .top) (.setEvent _) nofun) nofun).snoc
      (Clients.one_inner (.down [none] 0 .top) (.putSentinel _ 0 rfl) nofun) nofun).snoc
      (.closed _ 0 0 rfl) nofun⟩
  -- The thread finds only the sentinel when it drains the queue.
  exact ⟨_, second, rfl, ((hclose.snoc (Clients.one_inner (.down [none] 0 (.draining []))
    (.leave _ rfl rfl) nofun) nofun).snoc (Clients.one_inner (.down [] 0 (.draining []))
    (.drainSentinel _ [] [] rfl rfl) nofun) nofun).snoc
    (Clients.one_inner (.down [] 0 .exited) (.drained _ [] rfl rfl) nofun) nofun⟩

/-- The request of a client that shares its batcher with one that was closed. -/
theorem clients_stranded_late : ∃ es s, UncancelledPath 32 es s ∧
    (s : Clients Unit Unit Unit).batchers 0 = { State.down [some ⟨(), 0⟩] 0 .exited with
      submitted := [⟨(), 0⟩] } ∧ Stranded (s.batchers 0) := by
  obtain ⟨es, batcher, hbatcher, hexit⟩ := exists_exited
  have hrequest := hexit.snoc (Clients.one_inner _ (.submit _ ()) fun _ => ⟨1, hbatcher⟩) nofun
  exact ⟨_, _, hrequest, rfl, (clients_stranded_iff hrequest 0).2 ⟨rfl, _,
    List.mem_append_right _ (List.mem_singleton_self _), rfl, trivial⟩⟩

/-- Two clients share a batcher, and one is closed: a request of the other is then
    without an answer. -/
theorem not_forall_not_stranded : ¬∀ (P R E : Type) (size : Int) (s : Clients P R E)
    (es : List (Clients P R E × ClientEvent)), UncancelledPath size es s →
      ∀ b, ¬Stranded (s.batchers b) := by
  intro h
  obtain ⟨es, batcher, hbatcher, hexit⟩ := exists_exited
  have hrequest := hexit.snoc (Clients.one_inner _ (.submit _ ()) fun _ => ⟨1, hbatcher⟩) nofun
  exact h _ _ _ _ _ _ hrequest 0
    ⟨.inl rfl, ⟨(), 0⟩, List.mem_singleton_self _, fun ⟨r, hr⟩ => nomatch hr⟩

end Batcher

end CycleTLS
