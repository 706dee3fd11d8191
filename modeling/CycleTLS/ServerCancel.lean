import CycleTLS.Server

/-!
# Cancelled requests of the server (`readSocket` in `index.go`)

* A cancellation reaches the request that was read last under its id, on any socket, unless one of
  that id has ended or was cancelled since. If no id is given to a request while one with it is at
  work, all requests at work under the id are reached (`cancel_reaches`).
* A request over HTTP or for events whose context is done writes at most two more frames, and has
  left after at most three more steps (`interrupted_leaves`).
-/

namespace CycleTLS

open Transition Utf8

namespace Server

variable {m : Marshals} {s s' : Server} {a : Action} {es es' : List (Server × Action)} {j : Nat}
  {job job' : ServerRequest} {fs : List ChannelFrame}

/-! ## Which request is cancelled -/

/-- The context of a request is done. -/
def Done (s : Server) (j : Nat) : Prop := ∃ job, s.jobs j = some job ∧ job.done = true

/-- A request has an id and is at work. -/
def AtWork (s : Server) (j : Nat) (requestID : String) : Prop :=
  ∃ job, s.jobs j = some job ∧ job.requestID = requestID ∧ job.phase = .running

/-- A request that is read has an id that none at work has. -/
def Fresh (s : Server) (a : Action) : Prop :=
  ∀ socket requestID o, a = .request socket requestID o → ∀ j, ¬s.AtWork j requestID

/-- Only requests at work are in the map. -/
def Registered (s : Server) : Prop :=
  ∀ requestID j, s.activeRequests requestID = some j → s.AtWork j requestID

theorem requestID_change (h : Change m j job a fs job') : job'.requestID = job.requestID := by
  cases h <;> rfl

/-- A request stays at work until its entry is deleted. -/
theorem Change.phase (h : Change m j job a fs job') (hphase : job.phase = .running) :
    job'.phase = .running ∨ a = .leave j := by
  cases h with
  | leaves => exact .inr rfl
  | unregisters hleaving => cases hphase.symm.trans hleaving
  | _ => exact .inl hphase

/-- A request at work was at work before. -/
theorem Change.running (h : Change m j job a fs job') (hphase : job'.phase = .running) :
    job.phase = .running := by
  cases h with
  | leaves hrunning => exact hrunning
  | unregisters => cases hphase
  | _ => exact hphase

theorem registered_step (h : Step m s a s') (hs : s.Numbered) (hreg : s.Registered) :
    s'.Registered := by
  intro requestID j hentry
  rw [activeRequests_step h] at hentry
  rcases Ledger.write_apply s.activeRequests (s.requestEntry a) requestID with
    hwrite | ⟨hkeep, hnot⟩
  · -- an entry is made for a request that is read
    rw [hentry] at hwrite
    cases h with
    | request socket requestID' o =>
      obtain ⟨rfl, hj⟩ := Prod.mk.inj (Option.some.inj hwrite)
      obtain rfl := Option.some.inj hj
      exact ⟨_, (jobs_setJob _ _).trans (if_pos rfl), rfl, rfl⟩
    | leave i job hjob =>
      rw [requestEntry, hjob] at hwrite
      cases hwrite
    | _ => cases hwrite
  -- an entry that is kept is of a request whose end would have deleted it
  · obtain ⟨job, hjob, hid, hphase⟩ := hreg requestID j (hkeep.symm.trans hentry)
    obtain ⟨fs, job', hjob', hchange⟩ := change_of_step h hs hjob
    refine ⟨job', hjob', (requestID_change hchange).trans hid, ?_⟩
    refine (hchange.phase hphase).resolve_right fun ha => hnot none ?_
    rw [ha, requestEntry, hjob, ← hid]
    rfl

theorem registered (h : Path (Step m) new es s) : s.Registered := by
  refine (h.inv (fun s => s.Numbered ∧ s.Registered) (fun _ _ => True) ?_ (fun _ _ => trivial)
    ⟨numbered_new, fun _ _ hentry => by cases hentry⟩).2
  rintro s a s' ⟨hs, hreg⟩ - hstep
  exact ⟨numbered_step hstep hs, registered_step hstep hs hreg⟩

/-- Ids are not shared by requests at work, which are in the map unless they were cancelled. -/
structure Distinct (s : Server) : Prop where
  unique : ∀ i j requestID, s.AtWork i requestID → s.AtWork j requestID → i = j
  entered : ∀ j requestID, s.AtWork j requestID → ¬s.Done j →
    s.activeRequests requestID = some j

theorem distinct_new : new.Distinct where
  unique i j requestID hi := by
    obtain ⟨job, hnone, -⟩ := hi
    cases hnone
  entered j requestID hj := by
    obtain ⟨job, hnone, -⟩ := hj
    cases hnone

theorem distinct_step (h : Step m s a s') (hs : s.Numbered) (hdistinct : s.Distinct)
    (hfresh : s.Fresh a) : s'.Distinct := by
  -- a request at work was so before, or has been read under an id that no other has
  have hwork {i : Nat} {requestID : String} (hi : s'.AtWork i requestID) :
      s.AtWork i requestID ∨ ∃ socket o, a = .request socket requestID o ∧ i = s.next := by
    obtain ⟨job', hjob', rfl, hphase⟩ := hi
    rcases origin_of_step h hs hjob' with
      ⟨job, fs, hjob, hchange⟩ | ⟨-, socket, requestID, o, ha, hi, rfl⟩
    · exact .inl ⟨job, hjob, (requestID_change hchange).symm, hchange.running hphase⟩
    · exact .inr ⟨socket, o, ha, hi⟩
  have hdone {i : Nat} {requestID : String} (hi : s.AtWork i requestID) (hnot : ¬s'.Done i) :
      ¬s.Done i := by
    rintro ⟨job, hjob, hdone⟩
    obtain ⟨fs, job', hjob', hchange⟩ := change_of_step h hs hjob
    refine hnot ⟨job', hjob', ?_⟩
    cases hchange <;> first | exact hdone | rfl
  refine ⟨fun i j requestID hi hj => ?_, fun j requestID hj hnot => ?_⟩
  · rcases hwork hi with hi | ⟨socket, o, ha, rfl⟩
    · rcases hwork hj with hj | ⟨socket, o, ha, rfl⟩
      · exact hdistinct.unique i j requestID hi hj
      · exact absurd hi (hfresh socket requestID o ha i)
    · rcases hwork hj with hj | ⟨socket', o', -, rfl⟩
      · exact absurd hj (hfresh socket requestID o ha j)
      · rfl
  · rcases hwork hj with hold | ⟨socket, o, rfl, rfl⟩
    · have hentry := hdistinct.entered j requestID hold (hdone hold hnot)
      rw [activeRequests_step h]
      rcases Ledger.write_apply s.activeRequests (s.requestEntry a) requestID with
        hwrite | ⟨hkeep, -⟩
      · exfalso
        cases h with
        | request socket requestID' o =>
          obtain ⟨rfl, -⟩ := Prod.mk.inj (Option.some.inj hwrite)
          exact hfresh socket requestID' o rfl j hold
        | cancel socket requestID' =>
          -- the request that the entry was of is done then
          obtain ⟨rfl, -⟩ := Prod.mk.inj (Option.some.inj hwrite)
          obtain ⟨job, hjob, -⟩ := hold
          refine hnot ⟨job.interrupt, ?_, rfl⟩
          exact (jobs_changeJob _ _ _).trans (by rw [if_pos hentry, hjob]; rfl)
        | leave i job hjob hphase hleft =>
          -- no other request at work has the id, so it is this one that leaves
          rw [requestEntry, hjob] at hwrite
          obtain ⟨hid, -⟩ := Prod.mk.inj (Option.some.inj hwrite)
          obtain rfl := hdistinct.unique i j requestID ⟨job, hjob, hid, hphase⟩ hold
          obtain ⟨job', hjob', -, hphase'⟩ := hj
          cases ((jobs_setJob _ _).trans (if_pos rfl)).symm.trans hjob'
          dsimp only at hphase'
          split_ifs at hphase'
        | _ => cases hwrite
      · exact hkeep.trans hentry
    · rw [activeRequests_step h, requestEntry, Ledger.write, Function.update_self]

/-- A cancellation reaches what the map has for its id. -/
theorem done_cancel {socket : Nat} {requestID : String} (h : Step m s (.cancel socket requestID) s')
    (hreg : s.Registered) (j : Nat) :
    s'.Done j ↔ s.Done j ∨ s.activeRequests requestID = some j := by
  cases h with
  | cancel =>
    have hjobs : ({ s.changeJob (s.activeRequests requestID) ServerRequest.interrupt with
        activeRequests := Function.update s.activeRequests requestID none } : Server).jobs j =
        if s.activeRequests requestID = some j then (s.jobs j).map ServerRequest.interrupt
        else s.jobs j := jobs_changeJob _ _ _
    rw [Done, hjobs]
    by_cases hentry : s.activeRequests requestID = some j
    · obtain ⟨job, hjob, -⟩ := hreg requestID j hentry
      rw [if_pos hentry, hjob]
      exact iff_of_true ⟨_, rfl, rfl⟩ (.inr hentry)
    · rw [if_neg hentry, or_iff_left hentry]
      rfl

/-- A cancellation reaches just the request that was read last under its id, on any socket, if none
    of that id has ended or was cancelled since. That request is at work. If no id was given to a
    request while one with it was at work, all requests at work under the id are cancelled then. -/
theorem cancel_reaches (h : Path (Step m) new es s) {socket : Nat} {requestID : String}
    (hstep : Step m s (.cancel socket requestID) s') :
    (∀ j, s'.Done j ↔ s.Done j ∨ Ledger.last requestEntry requestID es = some (some j)) ∧
      (∀ j, Ledger.last requestEntry requestID es = some (some j) → s.AtWork j requestID) ∧
      ((∀ e ∈ es, e.1.Fresh e.2) → ∀ j, s.AtWork j requestID → s'.Done j) := by
  have hreg := registered h
  have hlast (j : Nat) : s.activeRequests requestID = some j ↔
      Ledger.last requestEntry requestID es = some (some j) := by
    rw [activeRequests_eq h]
    cases Ledger.last requestEntry requestID es with
    | none => simp
    | some entry => simp
  refine ⟨fun j => ?_, fun j hj => hreg requestID j ((hlast j).2 hj), fun hfresh j hj => ?_⟩
  · rw [done_cancel hstep hreg, hlast]
  · have hdistinct : s.Distinct := by
      refine (h.inv (fun s => s.Numbered ∧ s.Distinct) Fresh ?_ hfresh
        ⟨numbered_new, distinct_new⟩).2
      rintro s a s' ⟨hs, hdistinct⟩ hfresh hstep
      exact ⟨numbered_step hstep hs, distinct_step hstep hs hdistinct hfresh⟩
    by_cases hdone : s.Done j
    · exact (done_cancel hstep hreg j).2 (.inl hdone)
    · exact (done_cancel hstep hreg j).2 (.inr (hdistinct.entered j requestID hj hdone))

/-- A client cancels the request of another one. -/
theorem cancel_reaches_run : ∃ es s s', Path (Step plainMarshals) new es s ∧
    Step plainMarshals s (.cancel 1 "1") s' ∧ s'.Done 0 := by
  have hnil : Path (Step plainMarshals) new [] new := .nil
  have hpath := hnil.snoc (.request _ 0 "1" plainOptions ⟨rfl, rfl⟩)
  refine ⟨_, _, _, hpath, .cancel _ 1 "1" ⟨rfl, rfl⟩, ?_⟩
  exact ((cancel_reaches hpath (.cancel _ 1 "1" ⟨rfl, rfl⟩)).1 0).2 (.inr rfl)

/-! ## What is still done -/

/-- The frames that are still written once the context is done, at most, but for a WebSocket. -/
def remaining : Handler → Nat
  | .http x => x.stage.remaining
  | .sse x => x.stage.remaining
  | .ws _ => 0

/-- The steps that are still taken once the context is done, at most, but for a WebSocket. -/
def distance : Handler → Nat
  | .http x => x.stage.distance
  | .sse x => x.stage.distance
  | .ws _ => 0

/-- A step of the goroutine of a request. -/
def Action.isWork (j : Nat) : Action → Bool
  | .work i => i = j
  | _ => false

theorem Action.isWork_eq_true_iff : a.isWork j = true ↔ a = .work j := by
  cases a <;> simp [isWork]

/-- A request that is none for a WebSocket, and whose context is done. -/
def Interrupted (job : ServerRequest) : Prop := job.done = true ∧ job.handler.isWS = false

theorem remaining_change (h : Change m j job a fs job') (hjob : Interrupted job) :
    Interrupted job' ∧ fs.length + remaining job'.handler ≤ remaining job.handler ∧
      distance job'.handler + (a.isWork j).toNat ≤ distance job.handler := by
  obtain ⟨hdone, hws⟩ := hjob
  have hkeep (hnot : a ≠ .work j) : (a.isWork j).toNat = 0 := by
    rw [Bool.eq_false_iff.2 fun h => hnot (Action.isWork_eq_true_iff.1 h)]
    rfl
  have hsame {w : Handler} (hw : w = job.handler) (hnot : a ≠ .work j) :
      ([] : List ChannelFrame).length + remaining w ≤ remaining job.handler ∧
        distance w + (a.isWork j).toNat ≤ distance job.handler := by
    rw [hkeep hnot, hw]
    exact ⟨(Nat.zero_add _).le, Nat.le_refl _⟩
  cases h with
  | stays hnot => exact ⟨⟨hdone, hws⟩, hsame rfl hnot⟩
  | interrupts hnot =>
    have hhandler : job.handler.interrupt = job.handler := by
      cases hhandler : job.handler with
      | ws x =>
        rw [hhandler] at hws
        cases hws
      | _ => rfl
    exact ⟨⟨rfl, (congrArg _ hhandler).trans hws⟩, hsame hhandler hnot⟩
  | takes socket c =>
    have hhandler : job.handler.command c = job.handler := by
      cases hhandler : job.handler with
      | ws x =>
        rw [hhandler] at hws
        cases hws
      | _ => rfl
    exact ⟨⟨hdone, (congrArg _ hhandler).trans hws⟩, hsame hhandler (by simp)⟩
  | works w fs hphase hstep =>
    have hwork : (Action.work j).isWork j = true := Action.isWork_eq_true_iff.2 rfl
    rw [hwork]
    rw [hdone] at hstep
    rcases hhandler : job.handler with x | x | x
    · rw [hhandler] at hstep
      cases hstep with
      | http hstep =>
        obtain ⟨hremaining, hdistance⟩ := HTTPHandler.remaining_step hstep
        exact ⟨⟨hdone, rfl⟩, hremaining, hdistance⟩
    · rw [hhandler] at hstep
      cases hstep with
      | sse hstep =>
        obtain ⟨hremaining, hdistance⟩ := SSEHandler.remaining_step hstep
        exact ⟨⟨hdone, rfl⟩, hremaining, hdistance⟩
    · rw [hhandler] at hws
      cases hws
  | connects resp hphase hconnecting =>
    rw [hconnecting] at hws
    cases hws
  | leaves => exact ⟨⟨hdone, hws⟩, hsame rfl (by simp)⟩
  | unregisters => exact ⟨⟨hdone, hws⟩, hsame rfl (by simp)⟩

theorem remaining_le_two (w : Handler) : remaining w ≤ 2 := by
  cases w with
  | http x =>
    rw [remaining]
    cases x.stage <;> simp [DispatchStage.remaining]
  | sse x =>
    rw [remaining]
    cases x.stage <;> simp [SSEStage.remaining]
  | ws x => exact Nat.zero_le _

theorem distance_le_three (w : Handler) : distance w ≤ 3 := by
  cases w with
  | http x =>
    rw [distance]
    cases x.stage <;> simp [DispatchStage.distance]
  | sse x =>
    rw [distance]
    cases x.stage <;> simp [SSEStage.distance]
  | ws x => exact Nat.zero_le _

theorem steps_snoc (ticks : Action → Bool) (es : List (Server × Action)) (s : Server) (a : Action) :
    steps ticks (es ++ [(s, a)]) = steps ticks es + (ticks a).toNat := by
  rw [steps, List.countP_append, List.countP_singleton, steps]
  cases ticks a <;> rfl

/-- Whatever the others do: once the context of a request over HTTP or for events is done, its
    goroutine writes at most two more frames and takes at most three more steps. -/
theorem interrupted_leaves (h : Path (Step m) new es s) (hjob : s.jobs j = some job)
    (hdone : job.done = true) (hws : job.handler.isWS = false) (h' : Path (Step m) s es' s') :
    ∃ job' more, s'.jobs j = some job' ∧ job'.handler.frames m = job.handler.frames m ++ more ∧
      more.length ≤ 2 ∧ steps (Action.isWork j) es' ≤ 3 := by
  -- along the path, what is written and done is paid for by what remains
  have hrun : s'.Numbered ∧ ∃ job' more, s'.jobs j = some job' ∧
      Interrupted job' ∧ job'.handler.frames m = job.handler.frames m ++ more ∧
      more.length + remaining job'.handler ≤ remaining job.handler ∧
      steps (Action.isWork j) es' + distance job'.handler ≤ distance job.handler := by
    induction h' with
    | nil =>
      exact ⟨numbered h, job, [], hjob, ⟨hdone, hws⟩, (List.append_nil _).symm,
        (Nat.zero_add _).le, (Nat.zero_add _).le⟩
    | @snoc es' t t' a _ hstep ih =>
      obtain ⟨hs, job', more, hjob', hinterrupted, hframes, hmore, hsteps⟩ := ih
      refine ⟨numbered_step hstep hs, ?_⟩
      obtain ⟨fs, job'', hjob'', hchange⟩ := change_of_step hstep hs hjob'
      obtain ⟨hinterrupted', hremaining, hdistance⟩ := remaining_change hchange hinterrupted
      refine ⟨job'', more ++ fs, hjob'', hinterrupted', ?_, ?_, ?_⟩
      · rw [frames_change hchange, hframes, List.append_assoc]
      · rw [List.length_append, Nat.add_assoc]
        exact (Nat.add_le_add_left hremaining _).trans hmore
      · rw [steps_snoc, Nat.add_assoc, Nat.add_comm (a.isWork j).toNat]
        exact (Nat.add_le_add_left hdistance _).trans hsteps
  obtain ⟨-, job', more, hjob', -, hframes, hmore, hsteps⟩ := hrun
  have hlength := (Nat.le_add_right _ _).trans (hmore.trans (remaining_le_two _))
  have hcount := (Nat.le_add_right _ _).trans (hsteps.trans (distance_le_three _))
  exact ⟨job', more, hjob', hframes, hlength, hcount⟩

/-- A request that another socket cancels while it is about to write what it has read: it takes
    three more steps, and writes two more frames. -/
theorem interrupted_leaves_run : ∃ es es' s s' job job' more,
    Path (Step plainMarshals) new es s ∧ Path (Step plainMarshals) s es' s' ∧
      s.jobs 0 = some job ∧ (job.handler.frames plainMarshals).length = 1 ∧
      steps (Action.isWork 0) es' = 3 ∧ s'.jobs 0 = some job' ∧ job'.handler.Left ∧
      job'.handler.frames plainMarshals = job.handler.frames plainMarshals ++ more ∧
      more.length ≤ 2 := by
  have hnil : Path (Step plainMarshals) new [] new := .nil
  let r : BodyRead := ⟨[0x61, 0x62], none, by decide⟩
  have hread := (((hnil.snoc (.request _ 0 "1" plainOptions ⟨rfl, rfl⟩)).snoc
    (.work _ 0 _ _ _ rfl rfl (.http (.responds _ ⟨200, none, []⟩ rfl)))).snoc
    (.work _ 0 _ _ _ rfl rfl (.http (.reads _ r rfl rfl)))).snoc
    (.work _ 0 _ _ _ rfl rfl (.http (.checks _ r rfl rfl)))
  have hpath := (hread.snoc (.request _ 0 "2" plainOptions ⟨rfl, rfl⟩)).snoc
    (.cancel _ 1 "1" ⟨rfl, rfl⟩)
  -- what is left to do once the context is done
  have hrest {t : Server} {x : HTTPHandler}
      (ht : t.jobs 0 = some ⟨0, "1", plainOptions, .http x, true, .running⟩)
      (hx : x.stage = .checked r) := (((Path.nil (s := t)).snoc
    (Step.work (m := plainMarshals) _ 0 _ _ _ ht rfl (.http (.sends _ r hx)))).snoc
    (.work _ 0 _ _ _ rfl rfl (.http (.stops _ r rfl rfl)))).snoc
    (.work _ 0 _ _ _ rfl rfl (.http (.ends _ rfl)))
  obtain ⟨job', more, hjob', hframes, hmore, -⟩ :=
    interrupted_leaves (j := 0) hpath rfl rfl rfl (hrest rfl rfl)
  have hleft : job'.handler.Left := by
    cases hjob'
    rfl
  exact ⟨_, _, _, _, _, job', more, hpath, hrest rfl rfl, rfl, rfl, rfl, hjob', hleft, hframes,
    hmore⟩

end Server

end CycleTLS
