import CycleTLS.Tasks

/-!
# What is left in the stores of results

The entry of a request is only deleted by its coroutine, when it gets the result. A
coroutine that stops waiting leaves it there, and nobody else has its handle: the stores
have no entry of a coroutine that has ended if and only if none of those with a request
has stopped waiting (`noLeak_iff`).
-/

namespace CycleTLS

open Transition

namespace AsyncTasks

open AsyncResults

variable {R : Type} {s s' : State R} {a : Action} {k : Nat} {t : Task R} {q : Request R}

/-- Once a coroutine has ended and its goroutine has finished, there is no entry. -/
def NoLeak (s : State R) : Prop :=
  ∀ k t o q, s.tasks k = some t → t.point = .ended o → t.request = some q →
    q.worker = .finished → q.stored = false

/-- No coroutine stops waiting whose request Go has accepted. -/
def Stays (s : State R) (a : Action) : Prop :=
  ∀ k, a = .leave k → ∀ t, s.tasks k = some t → t.request = none

/-- Everyone has ended. -/
def Settled (s : State R) : Prop :=
  ∀ k t, s.tasks k = some t →
    (∃ o, t.point = .ended o) ∧ ∀ q, t.request = some q → q.worker = .finished

/-! ## Retrieval -/

namespace Request

theorem stored_retrieve {f : Retrieval} {r : R} (h : (q.retrieve f).2 = some r) :
    (q.retrieve f).1.stored = false := by
  simp only [retrieve] at h ⊢
  split at h
  next hstored =>
    rw [if_pos hstored]
    cases hq : q.result with
    | none =>
      rw [hq] at h
      cases h
    | some r => rfl
  next => cases h

theorem retrieve_ne_none {f : Retrieval} (hstore : q.store = f.store) (hstored : q.stored = true)
    (hresult : q.result.isSome) : (q.retrieve f).2 ≠ none := by
  obtain ⟨r, hr⟩ := Option.isSome_iff_exists.1 hresult
  rw [retrieve, if_pos ⟨hstore, hstored⟩, hr]
  exact Option.some_ne_none r

end Request

theorem Task.stored_retrieve {r : R} (h : t.retrieve.2 = some r) (hq : t.retrieve.1 = some q) :
    q.stored = false := by
  cases hrequest : t.request with
  | none => simp [retrieve, hrequest] at h
  | some q' =>
    simp only [retrieve, hrequest, Option.some.injEq] at h hq
    rw [← hq]
    exact Request.stored_retrieve h

/-! ## Coroutines that stay -/

/-- What holds of a coroutine with so many bytes in its pipe. -/
def Task.Sound (bytes : Nat) (t : Task R) : Prop :=
  match t.point with
  | .submitting => t.request = none ∧ bytes = 0
  | .polling | .sleeping => t.mode ≠ .callback
  | .waiting => t.mode = .callback ∧ ∃ q, t.request = some q ∧ q.store = .asyncNotifyResults ∧
      q.stored = true ∧ (q.worker ≠ .finished → bytes = 0) ∧ (q.worker ≠ .running → q.result.isSome)
  | .notified => t.mode = .callback ∧ ∃ q, t.request = some q ∧ q.store = .asyncNotifyResults ∧
      q.stored = true ∧ q.worker = .finished ∧ q.result.isSome
  | .closingRead _ | .closingWrite _ | .ended _ => ∀ q, t.request = some q →
      q.stored = false ∧ (t.mode = .callback → q.worker = .finished)

/-- What steps keep by which no one stops waiting. -/
structure Attended (s : State R) : Prop where
  owned : Owned s
  unused : ∀ k, s.tasks k = none → s.bytes k = 0
  sound : ∀ k t, s.tasks k = some t → t.Sound (s.bytes k)

theorem attended_new : Attended (.new : State R) :=
  ⟨owned_new, fun _ _ => rfl, fun _ _ hk => nomatch hk⟩

theorem Task.sound_leave {n : Nat} {o : Outcome R} {q : Option (Request R)}
    (h : ∀ q', q = some q' → q'.stored = false ∧ (t.mode = .callback → q'.worker = .finished)) :
    Task.Sound n { t with point := t.leave o, request := q } := by
  unfold Sound leave
  split_ifs
  · exact h
  · exact h

namespace Attended

/-- Only the coroutine `k` and its bytes change, and descriptors. -/
theorem frame (h : Attended s) (howned : Owned s') (hk : s'.tasks k = some t)
    (ht : t.Sound (s'.bytes k))
    (hother : ∀ j, j ≠ k → s'.tasks j = s.tasks j ∧ s'.bytes j = s.bytes j) : Attended s' := by
  refine ⟨howned, fun j hj => ?_, fun j u hj => ?_⟩
  · have hne : j ≠ k := by
      rintro rfl
      rw [hk] at hj
      cases hj
    rw [(hother j hne).1] at hj
    rw [(hother j hne).2]
    exact h.unused j hj
  · by_cases hjk : j = k
    · subst hjk
      cases hk.symm.trans hj
      exact ht
    · rw [(hother j hjk).1] at hj
      rw [(hother j hjk).2]
      exact h.sound j u hj

/-- Where a coroutine with a pipe is whose goroutine is about to write. -/
theorem waiting (h : Attended s) (hk : s.tasks k = some t) (hm : t.mode = .callback)
    (hq : t.request = some q) (hw : q.worker ≠ .finished) :
    t.point = .waiting ∧ s.bytes k = 0 := by
  have hsound := h.sound k t hk
  unfold Task.Sound at hsound
  split at hsound
  · rw [hq] at hsound
    cases hsound.1
  · exact absurd hm hsound
  · exact absurd hm hsound
  · next hp =>
    obtain ⟨-, q', hq', -, -, hbytes, -⟩ := hsound
    cases hq.symm.trans hq'
    exact ⟨hp, hbytes hw⟩
  · obtain ⟨-, q', hq', -, -, hfinished, -⟩ := hsound
    cases hq.symm.trans hq'
    exact absurd hfinished hw
  all_goals exact absurd ((hsound q hq).2 hm) hw

theorem write_eq (h : Attended s) (hk : s.tasks k = some t) (hm : t.mode = .callback)
    (hq : t.request = some q) (hw : q.worker ≠ .finished) :
    s.write t.writeFd = { s with bytes := Function.update s.bytes k (s.bytes k + 1) } := by
  have hp := (h.waiting hk hm hq hw).1
  rw [State.write, h.owned.write k t hk hm (hp ▸ rfl)]

theorem sound_at (h : Attended s) (hk : s.tasks k = some t) {p : Point R} (hp : t.point = p) :
    Task.Sound (s.bytes k) { t with point := p } := by
  subst hp
  exact h.sound k t hk

/-- The result is there for a coroutine that has read its byte. -/
theorem retrieve_ne_none (h : Attended s) (hk : s.tasks k = some t) (hp : t.point = .notified) :
    t.retrieve.2 ≠ none := by
  obtain ⟨hm, q, hq, hstore, hstored, -, hresult⟩ := h.sound_at hk hp
  simp only at hq hm
  simp only [Task.retrieve, hq]
  refine Request.retrieve_ne_none (hstore.trans ?_) hstored hresult
  rw [hm]
  rfl

/-- A coroutine that has got its result. -/
theorem sound_found (h : Attended s) (hk : s.tasks k = some t)
    (hp : t.point = .polling ∨ t.point = .notified) {r : R} (hr : t.retrieve.2 = some r) (n : Nat) :
    Task.Sound n { t with point := t.leave (.result r), request := t.retrieve.1 } := by
  refine Task.sound_leave fun q hq => ⟨Task.stored_retrieve hr hq, fun hm => ?_⟩
  rcases hp with hp | hp
  · exact absurd hm (h.sound_at hk hp)
  · obtain ⟨-, q', hq', -, -, hfinished, -⟩ := h.sound_at hk hp
    simp only at hq'
    simp only [Task.retrieve, hq', Option.some.injEq] at hq
    rw [← hq, Request.worker_retrieve]
    exact hfinished

theorem sound_accept (h : Attended s) (hk : s.tasks k = some t) (hp : t.point = .submitting) :
    Task.Sound (s.bytes k)
      { t with point := t.wait, request := some (.new t.mode.submission.store) } := by
  obtain ⟨-, hbytes⟩ := h.sound_at hk hp
  unfold Task.wait
  split_ifs with hm
  · exact ⟨hm, _, rfl, by rw [hm]; rfl, rfl, fun _ => hbytes, fun hw => absurd rfl hw⟩
  · exact hm

theorem sound_deliver (h : Attended s) (hk : s.tasks k = some t) (hq : t.request = some q)
    (hw : q.worker = .running) (r : R) :
    Task.Sound (s.bytes k)
      { t with request := some { q with result := some r, worker := t.mode.delivered } } := by
  by_cases hm : t.mode = .callback
  · obtain ⟨hp, hbytes⟩ := h.waiting hk hm hq (by rw [hw]; nofun)
    obtain ⟨-, q', hq', hstore, hstored, -⟩ := h.sound_at hk hp
    cases hq.symm.trans hq'
    rw [Task.Sound, hp]
    exact ⟨hm, _, rfl, hstore, hstored, fun _ => hbytes, fun _ => rfl⟩
  · cases hp : t.point with
    | submitting => cases hq.symm.trans (h.sound_at hk hp).1
    | polling | sleeping => exact hm
    | waiting | notified => exact absurd (h.sound_at hk hp).1 hm
    | closingRead | closingWrite | ended =>
      rintro q' hq'
      cases hq'
      exact ⟨(h.sound_at hk hp q hq).1, fun h => absurd h hm⟩

/-- As long as everyone stays, a coroutine ends with its entry deleted. -/
theorem step (h : Attended s) (hstays : Stays s a) (hstep : Step s a s') : Attended s' := by
  have howned := h.owned.step hstep
  -- A step that only changes a coroutine.
  have hmove {k : Nat} {t : Task R} (howned : Owned (s.setTask k t))
      (ht : t.Sound (s.bytes k)) : Attended (s.setTask k t) :=
    h.frame howned (Function.update_self _ _ _) ht fun j hj => ⟨Function.update_of_ne hj _ _, rfl⟩
  cases hstep with
  | start k mode hk => exact hmove howned ⟨rfl, h.unused k hk⟩
  | openPipe k r w hk =>
    exact h.frame howned (Function.update_self _ _ _) ⟨rfl, h.unused k hk⟩ fun j hj =>
      ⟨Function.update_of_ne hj _ _, rfl⟩
  | unpackable k t hk hp =>
    refine hmove howned (Task.sound_leave fun q hq => ?_)
    cases (h.sound_at hk hp).1.symm.trans hq
  | accept k t hk hp => exact hmove howned (h.sound_accept hk hp)
  | reject k t hk hp =>
    refine hmove howned ?_
    unfold Task.rejected
    split_ifs with hm
    · rw [Task.Sound, hm]
      nofun
    · refine Task.sound_leave fun q hq => ?_
      cases (h.sound_at hk hp).1.symm.trans hq
  | found k t r hk hp hr => exact hmove howned (h.sound_found hk hp hr _)
  | sleep k t hk hp | wake k t hk hp =>
    have hm : t.mode ≠ .callback := h.sound_at hk hp
    exact hmove howned hm
  | timeOut k t hk | cancel k t hk | fail k t hk =>
    refine hmove howned (Task.sound_leave fun q hq => ?_)
    cases (hstays k rfl t hk).symm.trans hq
  | read k n t hk hp hn =>
    obtain ⟨hm, q, hq, hstore, hstored, hbytes, hresult⟩ := h.sound_at hk hp
    have hfinished : q.worker = .finished := by
      by_contra hw
      rw [hbytes hw] at hn
      cases hn
    refine h.frame howned (Function.update_self _ _ _)
      ⟨hm, q, hq, hstore, hstored, hfinished, hresult (by rw [hfinished]; nofun)⟩ fun j hj =>
        ⟨Function.update_of_ne hj _ _, Function.update_of_ne hj _ _⟩
  | null k t hk hp hr => exact absurd hr (h.retrieve_ne_none hk hp)
  | closeRead k t o hk hm hp | closeWrite k t o hk hm hp =>
    have hdeleted : ∀ q, t.request = some q →
        q.stored = false ∧ (t.mode = .callback → q.worker = .finished) := h.sound_at hk hp
    exact h.frame howned (Function.update_self _ _ _) hdeleted fun j hj =>
      ⟨Function.update_of_ne hj _ _, rfl⟩
  | deliver k t q r hk hq hw => exact hmove howned (h.sound_deliver hk hq hw r)
  | notify k t q hk hm hq hw =>
    have hrunning : q.worker ≠ .finished := by rw [hw]; nofun
    rw [h.write_eq hk hm hq hrunning] at howned ⊢
    obtain ⟨hp, -⟩ := h.waiting hk hm hq hrunning
    obtain ⟨-, q', hq', hstore, hstored, -, hresult⟩ := h.sound_at hk hp
    cases hq.symm.trans hq'
    refine h.frame howned (Function.update_self _ _ _) ?_ fun j hj =>
      ⟨Function.update_of_ne hj _ _, Function.update_of_ne hj _ _⟩
    rw [Task.Sound, hp]
    exact ⟨hm, _, rfl, hstore, hstored, fun hnot => absurd rfl hnot,
      fun _ => hresult (by rw [hw]; nofun)⟩
  | openFile | closeFile => exact ⟨howned, h.unused, h.sound⟩

theorem noLeak (h : Attended s) : NoLeak s := fun _ _ _ q hk hp hq _ =>
  (h.sound_at hk hp q hq).1

end Attended

/-! ## Coroutines that stop waiting -/

/-- Whether the coroutine has no more to do with its request. -/
def Point.left : Point R → Bool
  | .closingRead _ | .closingWrite _ | .ended _ => true
  | _ => false

/-- Until it is left, its entry is there. -/
def Kept (s : State R) : Prop :=
  ∀ k t q, s.tasks k = some t → t.point.left = false → t.request = some q → q.stored = true

/-- An entry that nobody will delete. -/
def Leaked (k : Nat) (s : State R) : Prop :=
  ∃ t q, s.tasks k = some t ∧ t.point.left = true ∧ t.request = some q ∧ q.stored = true

theorem Task.left_leave (t : Task R) (o : Outcome R) : (t.leave o).left = true := by
  unfold leave
  split_ifs <;> rfl

theorem Kept.setTask (h : Kept s)
    (ht : ∀ q, t.point.left = false → t.request = some q → q.stored = true) :
    Kept (s.setTask k t) := by
  intro j u q hj hleft hq
  rcases State.tasks_setTask_eq hj with ⟨rfl, rfl⟩ | ⟨-, hj⟩
  · exact ht q hleft hq
  · exact h j u q hj hleft hq

theorem Kept.step (h : Kept s) (hstep : Step s a s') : Kept s' := by
  have hleave {k : Nat} {t : Task R} {o : Outcome R} {q : Option (Request R)} :
      Kept (s.setTask k { t with point := t.leave o, request := q }) :=
    h.setTask fun q hleft => absurd (t.left_leave o) (by simpa using hleft)
  cases hstep with
  | start | openPipe => exact h.setTask fun q _ hq => nomatch hq
  | unpackable | found | timeOut | cancel | fail | null => exact hleave
  | accept k t hk =>
    refine h.setTask fun q _ hq => ?_
    cases hq
    rfl
  | reject k t hk hp => exact h.setTask fun q _ hq => h k t q hk (hp ▸ rfl) hq
  | sleep k t hk hp | wake k t hk hp | read k n t hk hp =>
    exact h.setTask fun q _ hq => h k t q hk (hp ▸ rfl) hq
  | closeRead | closeWrite => exact h.setTask fun q hleft => nomatch hleft
  | deliver k t q r hk hq =>
    refine h.setTask fun q' hleft hq' => ?_
    cases hq'
    exact h k t q hk hleft hq
  | notify k t q hk hm hq =>
    obtain ⟨b, hb⟩ := s.exists_write_eq t.writeFd
    rw [hb]
    refine h.setTask fun q' hleft hq' => ?_
    cases hq'
    exact h k t q hk hleft hq
  | openFile | closeFile => exact h

theorem Leaked.setTask {j : Nat} (h : Leaked j s) (hk : s.tasks k = some t) {u : Task R}
    (hleft : t.point.left = true → u.point.left = true ∧
      ∀ q, t.request = some q → q.stored = true → ∃ q', u.request = some q' ∧ q'.stored = true) :
    Leaked j (s.setTask k u) := by
  obtain ⟨v, q, hj, hv, hq, hstored⟩ := h
  by_cases hjk : j = k
  · subst hjk
    cases hk.symm.trans hj
    obtain ⟨q', hu, hstored'⟩ := (hleft hv).2 q hq hstored
    exact ⟨u, q', Function.update_self _ _ _, (hleft hv).1, hu, hstored'⟩
  · exact ⟨v, q, (Function.update_of_ne hjk _ _).trans hj, hv, hq, hstored⟩

/-- A number that nobody has is taken by a new coroutine. -/
theorem Leaked.setTask_new {j : Nat} (h : Leaked j s) (hk : s.tasks k = none) {u : Task R} :
    Leaked j (s.setTask k u) := by
  obtain ⟨v, q, hj, hrest⟩ := h
  have hjk : j ≠ k := by
    rintro rfl
    rw [hk] at hj
    cases hj
  exact ⟨v, q, (Function.update_of_ne hjk _ _).trans hj, hrest⟩

theorem Leaked.step {j : Nat} (h : Leaked j s) (hstep : Step s a s') : Leaked j s' := by
  -- Nothing but what follows `leave` is done at a point that is left.
  have hmove {k : Nat} {t u : Task R} (hk : s.tasks k = some t) (hp : t.point.left = false) :
      Leaked j (s.setTask k u) :=
    h.setTask hk fun hleft => absurd hleft (by simpa using hp)
  cases hstep with
  | start k _ hk | openPipe k _ _ hk => exact h.setTask_new hk
  | unpackable k t hk hp | accept k t hk hp | reject k t hk hp | sleep k t hk hp | wake k t hk hp
  | read k _ t hk hp | null k t hk hp | fail k t hk hp => exact hmove hk (hp ▸ rfl)
  | found k t r hk hp | cancel k t hk hp =>
    exact hmove hk (by rcases hp with hp | hp <;> rw [hp] <;> rfl)
  | timeOut k t hk hp => exact hmove hk (by rcases hp with ⟨hp, -⟩ | hp <;> rw [hp] <;> rfl)
  | closeRead k t o hk hm hp | closeWrite k t o hk hm hp =>
    exact h.setTask hk fun _ => ⟨rfl, fun q hq hstored => ⟨q, hq, hstored⟩⟩
  | deliver k t q r hk hq hw =>
    refine h.setTask hk fun hleft => ⟨hleft, fun q' hq' hstored => ⟨_, rfl, ?_⟩⟩
    cases hq.symm.trans hq'
    exact hstored
  | notify k t q hk hm hq hw =>
    obtain ⟨b, hb⟩ := s.exists_write_eq t.writeFd
    rw [hb]
    refine h.setTask hk fun hleft => ⟨hleft, fun q' hq' hstored => ⟨_, rfl, ?_⟩⟩
    cases hq.symm.trans hq'
    exact hstored
  | openFile | closeFile => exact h

/-- A coroutine stops waiting for a request that Go has accepted. -/
theorem exists_leaked_of_not_stays (h : Kept s) (hstep : Step s a s') (hnot : ¬Stays s a) :
    ∃ k, Leaked k s' := by
  simp only [Stays, not_forall] at hnot
  obtain ⟨k, rfl, t, hk, hrequest⟩ := hnot
  obtain ⟨q, hq⟩ := Option.ne_none_iff_exists'.1 hrequest
  refine ⟨k, ?_⟩
  have hleaked {o : Outcome R} (hp : t.point.left = false) :
      Leaked k (s.setTask k { t with point := t.leave o }) :=
    ⟨_, q, Function.update_self _ _ _, t.left_leave o, hq, h k t q hk hp hq⟩
  cases hstep with
  | timeOut _ t' hk' hp =>
    cases hk'.symm.trans hk
    exact hleaked (by rcases hp with ⟨hp, -⟩ | hp <;> rw [hp] <;> rfl)
  | cancel _ t' hk' hp =>
    cases hk'.symm.trans hk
    exact hleaked (by rcases hp with hp | hp <;> rw [hp] <;> rfl)
  | fail _ t' hk' hp =>
    cases hk'.symm.trans hk
    exact hleaked (hp ▸ rfl)

theorem Leaked.not_noLeak (h : Leaked k s) (hsettled : Settled s) : ¬NoLeak s := by
  intro hno
  obtain ⟨t, q, hk, -, hq, hstored⟩ := h
  obtain ⟨⟨o, ho⟩, hworker⟩ := hsettled k t hk
  rw [hno k t o q hk ho hq (hworker q hq)] at hstored
  cases hstored

variable {es : List (State R × Action)}

/-- In every run of any number of coroutines: if none stops waiting for a request that Go
    has accepted, no entry is left of one that has ended; and only then, as is seen when
    they all have ended, and their goroutines. -/
theorem noLeak_iff (h : Path Step .new es s) :
    ((∀ e ∈ es, Stays e.1 e.2) → NoLeak s) ∧
      (Settled s → NoLeak s → ∀ e ∈ es, Stays e.1 e.2) := by
  constructor
  · intro hstays
    have hattended : Attended s :=
      h.inv Attended Stays (fun _ _ _ hs ha hstep => hs.step ha hstep) hstays attended_new
    exact hattended.noLeak
  · intro hsettled hno
    by_contra hnot
    -- The entry of one that stopped waiting is still there.
    have hleaked : ∃ k, Leaked k s := by
      clear hsettled hno
      induction h with
      | nil => exact absurd (fun e he => nomatch he) hnot
      | @snoc es t t' a hpath hstep ih =>
        rw [forall_mem_snoc, not_and_or] at hnot
        rcases hnot with hes | hnow
        · obtain ⟨k, hk⟩ := ih hes
          exact ⟨k, hk.step hstep⟩
        · have hkept : Kept t := hpath.inv Kept (fun _ _ => True)
            (fun _ _ _ hs _ hstep => hs.step hstep) (fun _ _ => trivial) fun _ _ _ hk => nomatch hk
          exact exists_leaked_of_not_stays hkept hstep hnow
    obtain ⟨k, hk⟩ := hleaked
    exact hk.not_noLeak hsettled hno

/-- Then the bytes go to their own pipes, too. -/
theorem clear_of_stays (h : Path Step .new es s) (hstays : ∀ e ∈ es, Stays e.1 e.2) :
    ∀ e ∈ es, Clear e.1 e.2 := by
  refine h.forall_mem Attended Stays Clear
    (fun s a s' hs ha hstep => ⟨hs.step ha hstep, ?_⟩) hstays attended_new
  intro n hn k t hk ⟨hm, q, hq, hworker⟩ hfd
  -- The number is still taken by the pipe of the coroutine, which waits.
  have hp := (hs.waiting hk hm hq hworker).1
  have htaken : s.fds n = some (.writeEnd k) := hfd ▸ hs.owned.write k t hk hm (hp ▸ rfl)
  have hfree : s.fds n = none := by
    cases hstep with
    | openPipe j r w hj hr hw =>
      simp only [Action.opened, List.mem_cons, List.not_mem_nil, or_false] at hn
      rcases hn with rfl | rfl <;> assumption
    | openFile m hm =>
      rw [Action.opened, List.mem_singleton] at hn
      exact hn ▸ hm
    | _ => cases hn
  rw [hfree] at htaken
  cases htaken

/-- A coroutine that is woken by its byte, gets its result and closes its pipe. -/
theorem noLeak_iff_started : ∃ es s t q, Path Step (.new : State String) es s ∧
    s.tasks 0 = some t ∧ t.point = .ended (.result "ok") ∧ t.request = some q ∧
    q.worker = .finished ∧ NoLeak s := by
  have hnew : Path Step (.new : State String) [] .new := .nil
  have hpath := (((((((hnew.snoc (.openPipe _ 0 3 4 rfl rfl rfl (by decide))).snoc
    (.accept _ 0 _ rfl rfl)).snoc (.deliver _ 0 _ _ "ok" rfl rfl rfl)).snoc
    (.notify _ 0 _ _ rfl rfl rfl rfl)).snoc (.read _ 0 0 _ rfl rfl rfl)).snoc
    (.found _ 0 _ "ok" rfl (.inr rfl) rfl)).snoc (.closeRead _ 0 _ _ rfl rfl rfl)).snoc
    (.closeWrite _ 0 _ _ rfl rfl rfl)
  refine ⟨_, _, _, _, hpath, rfl, rfl, rfl, rfl, (noLeak_iff hpath).1 fun e he k hk => ?_⟩
  simp only [List.mem_append, List.mem_singleton, List.not_mem_nil, false_or] at he
  rcases he with ((((((rfl | rfl) | rfl) | rfl) | rfl) | rfl) | rfl) | rfl <;> nomatch hk

/-- A request that times out, and then has its result. -/
theorem not_forall_noLeak : ¬∀ (es : List (State String × Action)) (s : State String),
    Path Step .new es s → NoLeak s := by
  intro h
  have hnew : Path Step (.new : State String) [] .new := .nil
  have hpath := (((hnew.snoc (.start _ 0 .zerocopy rfl nofun)).snoc (.accept _ 0 _ rfl rfl)).snoc
    (.timeOut _ 0 _ rfl (.inl ⟨rfl, rfl⟩))).snoc (.deliver _ 0 _ _ "ok" rfl rfl rfl)
  cases h _ _ hpath 0 _ _ _ rfl rfl rfl rfl

end AsyncTasks

end CycleTLS
