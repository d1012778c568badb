import OcppGo.Ocppj.ClientSessions
import OcppGo.Proof.ClientMoves

/-!
# A restarted dispatcher against a new one

The exiting pump empties the queue, and `Start` makes a channel, a timer and a
pump. The pending slot, the paused flag and a token in `readyForDispatch` survive,
and so does whatever a call in progress still has to do. A slot that stays taken
is the worst of these: it admits no other id, so every later request is written
without being recorded, and its response discarded.

Stopped while nothing is queued, pending, paused, signalled or in progress, the
dispatcher is the one it was when new, but for the request that was last in the
slot. No operation returns that one, because no request has an empty id. Two
states that differ in nothing else take the same steps for ever.
-/

namespace OcppGo.Proof

open OcppGo.Lib OcppGo.Ocppj

/-! ## States that cannot be told apart -/

/-- The slots are equal, or both free. -/
structure SameSlot (a b : ClientState Payload) : Prop where
  requestID : b.requestID = a.requestID
  taken : a.requestID ≠ "" → b = a

section

variable {a b : ClientState Payload}

theorem SameSlot.hasPendingRequest (h : SameSlot a b) :
    b.hasPendingRequest = a.hasPendingRequest := by
  rw [ClientState.hasPendingRequest, ClientState.hasPendingRequest, h.requestID]

theorem SameSlot.getPendingRequest (h : SameSlot a b) {id : String} (hid : id ≠ "") :
    b.getPendingRequest id = a.getPendingRequest id := by
  by_cases hfree : a.requestID = ""
  · have ha : a.requestID ≠ id := fun e => hid (e.symm.trans hfree)
    rw [ClientState.getPendingRequest, ClientState.getPendingRequest, h.requestID, if_pos ha,
      if_pos ha]
  · rw [h.taken hfree]

theorem SameSlot.addPendingRequest (h : SameSlot a b) (id : String) (req : Payload) :
    SameSlot (a.addPendingRequest id req) (b.addPendingRequest id req) := by
  unfold ClientState.addPendingRequest
  rw [h.requestID]
  split
  · exact ⟨rfl, fun _ => rfl⟩
  · exact h

theorem SameSlot.deletePendingRequest (h : SameSlot a b) (id : String) :
    SameSlot (a.deletePendingRequest id) (b.deletePendingRequest id) := by
  unfold ClientState.deletePendingRequest
  rw [h.requestID]
  split
  · exact h
  · exact ⟨rfl, fun hne => absurd rfl hne⟩

end

/-- The same state, but for the request left behind in a free slot. -/
def Alike (s t : ClientSteps) : Prop :=
  ∃ slot, SameSlot s.pendingRequestState slot ∧ t = { s with pendingRequestState := slot }

section

variable {s t : ClientSteps}

/-- One operation of `CompleteRequest`, in both states. -/
theorem Alike.complete (h : Alike s t) (id : String) (c : Completing) :
    Option.Rel (fun r r' => Alike r.1 r'.1 ∧ r'.2 = r.2) (s.complete id c) (t.complete id c) := by
  obtain ⟨slot, hslot, rfl⟩ := h
  cases c with
  | peek =>
      simp only [ClientSteps.complete]
      split
      · exact .some ⟨⟨slot, hslot, rfl⟩, rfl⟩
      · exact rel_ite (fun _ => .some ⟨⟨slot, hslot, rfl⟩, rfl⟩)
          (fun _ => .some ⟨⟨slot, hslot, rfl⟩, rfl⟩)
  | pop => exact .some ⟨⟨slot, hslot, rfl⟩, rfl⟩
  | delete => exact .some ⟨⟨_, hslot.deletePendingRequest id, rfl⟩, rfl⟩
  | ready =>
      exact rel_ite (fun _ => .some ⟨⟨slot, hslot, rfl⟩, rfl⟩) (fun _ => .none)

/-- What follows an operation of `CompleteRequest` keeps the states alike. -/
theorem Alike.complete_map (h : Alike s t) (id : String) (c : Completing)
    {f : ClientSteps × Option Completing → ClientSteps}
    (hf : ∀ s t r, Alike s t → Alike (f (s, r)) (f (t, r))) :
    Option.Rel Alike ((s.complete id c).map f) ((t.complete id c).map f) := by
  have hrel := h.complete id c
  generalize s.complete id c = u, t.complete id c = v at hrel ⊢
  cases hrel with
  | none => exact .none
  | some hr =>
      rename_i r r'
      obtain ⟨s₁, c₁⟩ := r
      obtain ⟨t₁, c₂⟩ := r'
      obtain ⟨hst, rfl⟩ := hr
      exact .some (hf s₁ t₁ _ hst)

theorem Alike.select (h : Alike s t) (sel : ClientDispatcher.Select) :
    Option.Rel Alike (s.select sel) (t.select sel) := by
  obtain ⟨slot, hslot, rfl⟩ := h
  unfold ClientSteps.select
  dsimp only
  split
  · exact rel_ite (fun _ => .some ⟨slot, hslot, rfl⟩) (fun _ => .none)
  · exact rel_ite (fun _ => .some ⟨slot, hslot, rfl⟩) (fun _ => .none)
  · exact rel_ite (fun _ => .some ⟨slot, hslot, rfl⟩) (fun _ => .none)
  · exact .none

theorem Alike.pumpStep (h : Alike s t) (write : Option String) :
    Option.Rel Alike (s.pumpStep write) (t.pumpStep write) := by
  have hcomplete : ∀ id c k done,
      Option.Rel Alike (s.pumpComplete id c k done) (t.pumpComplete id c k done) := by
    intro id c k done
    refine h.complete_map id c ?_
    rintro s₁ t₁ r ⟨slot, hslot, rfl⟩
    cases r <;> exact ⟨slot, hslot, rfl⟩
  obtain ⟨slot, hslot, rfl⟩ := h
  have hsome : ∀ s₁ : ClientSteps, s₁.pendingRequestState = s.pendingRequestState →
      Option.Rel Alike (some s₁) (some { s₁ with pendingRequestState := slot }) :=
    fun s₁ hs => .some ⟨slot, by rw [hs]; exact hslot, rfl⟩
  unfold ClientSteps.pumpStep
  dsimp only
  split
  · exact .none
  · exact rel_ite (fun _ => hsome _ rfl)
      (fun _ => rel_ite (fun _ => hsome _ rfl) (fun _ => hsome _ rfl))
  · exact rel_ite (fun _ => hsome _ rfl) (fun _ => hsome _ rfl)
  · split <;> exact hsome _ rfl
  · exact .some ⟨_, hslot.addPendingRequest _ _, rfl⟩
  · split <;> exact hsome _ rfl
  · exact hcomplete _ _ _ _
  · exact hsome _ rfl
  · split <;> exact hsome _ rfl
  · exact rel_ite (fun _ => hsome _ rfl) (fun _ => .none)
  · exact hsome _ rfl
  · rw [hslot.hasPendingRequest]
    exact rel_ite (fun _ => hsome _ rfl) (fun _ => hsome _ rfl)
  · split <;> exact hsome _ rfl
  · exact hcomplete _ _ _ _
  · exact hsome _ rfl
  · exact hsome _ rfl
  · exact .none

theorem Alike.receive (h : Alike s t) (id : String) (kind : Reply) :
    Option.Rel Alike (s.receive id kind) (t.receive id kind) := by
  obtain ⟨slot, hslot, rfl⟩ := h
  unfold ClientSteps.receive
  dsimp only
  split
  · refine rel_ite (fun hid => ?_) (fun _ => .none)
    rw [hslot.getPendingRequest hid]
    split <;> exact .some ⟨slot, hslot, rfl⟩
  · exact .none

theorem Alike.readerStep (h : Alike s t) : Option.Rel Alike s.readerStep t.readerStep := by
  have hcomplete := h.complete_map
  obtain ⟨slot, hslot, rfl⟩ := h
  unfold ClientSteps.readerStep
  dsimp only
  split
  · exact .none
  · refine hcomplete _ _ ?_
    rintro s₁ t₁ r ⟨slot, hslot, rfl⟩
    cases r <;> exact ⟨slot, hslot, rfl⟩
  · exact .some ⟨slot, hslot, rfl⟩

theorem Alike.callerStep (h : Alike s t) (i : Nat) (pc : CallPC) :
    Option.Rel Alike (s.callerStep i pc) (t.callerStep i pc) := by
  have hcomplete := h.complete_map
  obtain ⟨slot, hslot, rfl⟩ := h
  have hsome : ∀ s₁ : ClientSteps, s₁.pendingRequestState = s.pendingRequestState →
      Option.Rel Alike (some s₁) (some { s₁ with pendingRequestState := slot }) :=
    fun s₁ hs => .some ⟨slot, by rw [hs]; exact hslot, rfl⟩
  unfold ClientSteps.callerStep
  dsimp only
  split
  · exact .none
  · exact .none
  · split <;> exact hsome _ rfl
  · exact rel_ite (fun _ => hsome _ rfl) (fun _ => .none)
  · refine hcomplete _ _ ?_
    rintro s₁ t₁ r ⟨slot, hslot, rfl⟩
    cases r <;> exact ⟨slot, hslot, rfl⟩
  · split <;> exact hsome _ rfl
  · exact rel_ite (fun _ => hsome _ rfl) (fun _ => .none)
  · exact hsome _ rfl
  · exact hsome _ rfl
  · exact hsome _ rfl
  · rw [hslot.hasPendingRequest]
    exact rel_ite (fun _ => hsome _ rfl) (fun _ => hsome _ rfl)
  · exact hsome _ rfl
  · exact rel_ite (fun _ => hsome _ rfl) (fun _ => .none)

theorem Alike.act (h : Alike s t) (a : ClientSteps.Action) :
    Option.Rel Alike (s.act a) (t.act a) := by
  have hpump : t.pump = s.pump := by
    obtain ⟨slot, _, rfl⟩ := h
    rfl
  unfold ClientSteps.act
  rw [hpump]
  split
  · exact .none
  · cases a with
    | select sel => exact h.select sel
    | pump write => exact h.pumpStep write
    | receive id kind => exact h.receive id kind
    | reader => exact h.readerStep
    | call op =>
        obtain ⟨slot, hslot, rfl⟩ := h
        exact .some ⟨slot, hslot, rfl⟩
    | caller i =>
        have hcallers : t.callers = s.callers := by
          obtain ⟨slot, _, rfl⟩ := h
          rfl
        dsimp only
        rw [hcallers]
        cases s.callers[i]? with
        | none => exact .none
        | some pc => exact h.callerStep i pc
    | timerExpires =>
        obtain ⟨slot, hslot, rfl⟩ := h
        dsimp only
        cases s.timer.expire with
        | none => exact .none
        | some timer => exact .some ⟨slot, hslot, rfl⟩

end

/-- The same for sessions. -/
structure AlikeSessions (s t : ClientSessions) : Prop where
  lifecycle : t.lifecycle = s.lifecycle
  steps : Alike s.steps t.steps

section

variable {s t : ClientSessions}

theorem AlikeSessions.panicked (h : AlikeSessions s t) :
    AlikeSessions s.panicked t.panicked := by
  obtain ⟨hl, slot, hslot, ht⟩ := h
  exact ⟨hl, slot, hslot, by rw [ClientSessions.panicked, ht]; rfl⟩

theorem AlikeSessions.step (h : AlikeSessions s t) (a : ClientSteps.Action) :
    Option.Rel AlikeSessions (s.step a) (t.step a) := by
  have hpanic := h.panicked
  obtain ⟨s, lifecycle⟩ := s
  obtain ⟨t, lifecycle'⟩ := t
  obtain ⟨hl, hst⟩ := h
  cases hl
  have hnext : Option.Rel AlikeSessions
      ((s.act a).map fun steps => { steps := steps, lifecycle := lifecycle })
      ((t.act a).map fun steps => { steps := steps, lifecycle := lifecycle }) := by
    have hrel := hst.act a
    generalize s.act a = u, t.act a = v at hrel ⊢
    cases hrel with
    | none => exact .none
    | some hst' => exact .some ⟨rfl, hst'⟩
  have hcallers : t.callers = s.callers := by
    obtain ⟨slot, _, rfl⟩ := hst
    rfl
  unfold ClientSessions.step
  dsimp only
  split
  · exact hnext
  · exact hnext
  · exact hnext
  · exact .none
  · exact .none
  · rw [hcallers]
    split
    · exact rel_ite (fun _ => .none) (fun _ => .some hpanic)
    · exact hnext
  · exact hnext

theorem AlikeSessions.exit (h : AlikeSessions s t) : Option.Rel AlikeSessions s.exit t.exit := by
  obtain ⟨hl, slot, hslot, ht⟩ := h
  unfold ClientSessions.exit
  rw [hl, ht]
  dsimp only
  split
  · exact rel_ite (fun _ => .some ⟨rfl, slot, hslot, rfl⟩) (fun _ => .none)
  · exact .some ⟨rfl, slot, hslot, rfl⟩
  · exact .none

/-- **What is left in a free slot is never noticed.** -/
theorem respects_alike (queueCapacity : Nat) (timeout : Int) :
    (ClientSessions.machine queueCapacity timeout).Respects AlikeSessions := by
  intro s t a h
  have hpump : t.steps.pump = s.steps.pump := by
    obtain ⟨slot, _, ht⟩ := h.steps
    rw [ht]
  show Option.Rel AlikeSessions (s.act a) (t.act a)
  unfold ClientSessions.act
  rw [hpump]
  split
  · exact .none
  · cases a with
    | step a => exact h.step a
    | stop =>
        refine .some ?_
        unfold ClientSessions.stop
        rw [h.lifecycle]
        split
        · exact ⟨rfl, h.steps⟩
        · exact h.panicked
    | exit => exact h.exit
    | start =>
        obtain ⟨hl, slot, hslot, ht⟩ := h
        dsimp only
        unfold ClientSessions.restart
        rw [hl, ht]
        split
        · exact .some ⟨rfl, slot, hslot, rfl⟩
        · exact .none

end

/-! ## Stopping an idle dispatcher -/

/-- The call has nothing left to do. -/
def settledCall : CallPC → Bool
  | .returned | .refused => true
  | _ => false

theorem settledCall.onward {pc pc' : CallPC} (h : settledCall pc = true) :
    onward pc pc' = false := by
  cases pc with
  | returned => rfl
  | refused => rfl
  | _ => exact absurd h (by simp [settledCall])

/-- Nothing is queued, pending, paused, signalled or in progress. -/
structure Idle (s : ClientSteps) : Prop where
  queue : s.requestQueue.elements = []
  slot : s.pendingRequestState.requestID = ""
  notPaused : s.paused = false
  ready : s.readyForDispatch = 0
  pump : inert s.pump = true
  reader : s.reader = .idle
  callers : ∀ pc ∈ s.callers, settledCall pc = true

/-- `Idle`, as a check. -/
def idleNow (s : ClientSteps) : Bool :=
  s.requestQueue.isEmpty && s.pendingRequestState.requestID == "" && !s.paused &&
    s.readyForDispatch == 0 && inert s.pump && (s.reader matches .idle) &&
    s.callers.all settledCall

theorem idle_of_idleNow {s : ClientSteps} (h : idleNow s = true) : Idle s := by
  simp only [idleNow, Bool.and_eq_true, FIFOClientQueue.isEmpty_eq, List.isEmpty_iff,
    beq_iff_eq, Bool.not_eq_true', List.all_eq_true] at h
  obtain ⟨⟨⟨⟨⟨⟨hq, hslot⟩, hp⟩, hr⟩, hpump⟩, hreader⟩, hc⟩ := h
  refine ⟨hq, hslot, hp, hr, hpump, ?_, hc⟩
  cases hrd : s.reader with
  | idle => rfl
  | _ => simp [hrd] at hreader

/-- `Stop` finds the dispatcher idle, and no method is called until the next `Start`. -/
def StopsIdle (s : ClientSessions) : ClientSessions.Action → Prop
  | .stop => s.lifecycle = .running ∧ Idle s.steps
  | .step (.call _) => s.lifecycle = .running
  | _ => True

/-- `StopsIdle`, as a check. -/
def stopsIdle (s : ClientSessions) : ClientSessions.Action → Bool
  | .stop => s.lifecycle == .running && idleNow s.steps
  | .step (.call _) => s.lifecycle == .running
  | _ => true

theorem stopsIdle_sound {s : ClientSessions} {a : ClientSessions.Action}
    (h : stopsIdle s a = true) : StopsIdle s a := by
  cases a with
  | stop =>
      simp only [stopsIdle, Bool.and_eq_true, beq_iff_eq] at h
      exact ⟨h.1, idle_of_idleNow h.2⟩
  | step a =>
      cases a with
      | call op => exact eq_of_beq h
      | _ => trivial
  | _ => trivial

section

variable {s s' : ClientSteps}

/-- An idle dispatcher stays idle as long as nobody calls it. -/
theorem Idle.move {a : ClientSteps.Action} (h : Idle s) (hm : Move s a s')
    (ha : ∀ op, a ≠ .call op) : Idle s' := by
  have hcall : ∀ {t : Nat} {pc : CallPC}, s.callers[t]? = some pc → settledCall pc = true :=
    fun ht => h.callers _ (List.mem_of_getElem? ht)
  have hpump : ∀ {pc : PumpPC}, s.pump = pc → inert pc = true :=
    fun hpc => hpc ▸ h.pump
  cases hm with
  | idle _ pc _ _ _ hpc _ => exact { h with pump := hpc }
  | takeReady _ hpos => exact absurd h.ready (Nat.pos_iff_ne_zero.mp hpos)
  | seesReady _ _ _ => exact { h with pump := rfl }
  | seesRequest _ _ hne => exact absurd h.queue hne
  | crash _ hpc _ => rcases hpc with hpc | hpc <;> exact absurd (hpump hpc) (by simp [inert])
  | peek _ _ hpc _ => exact absurd (hpump hpc) (by simp [inert])
  | mark _ _ hpc => exact absurd (hpump hpc) (by simp [inert])
  | write _ hpc => exact absurd (hpump hpc) (by simp [inert])
  | writeFails _ _ hpc => exact absurd (hpump hpc) (by simp [inert])
  | failed _ _ _ _ _ _ hpc _ => exact absurd (hpump hpc) (by simp [inert])
  | reportFailed _ _ _ hpc => exact absurd (hpump hpc) (by simp [inert])
  | seesPending _ _ hne => exact absurd h.slot hne
  | peekTimeout _ _ hpc _ => exact absurd (hpump hpc) (by simp [inert])
  | timedOut _ _ _ _ _ hpc _ => exact absurd (hpump hpc) (by simp [inert])
  | reportTimedOut _ _ hpc => exact absurd (hpump hpc) (by simp [inert])
  | discard _ _ => exact h
  | accept id _ _ hid hslot => exact absurd (hslot.symm.trans h.slot) hid
  | reader _ _ _ _ _ hpc _ => exact absurd (h.reader.symm.trans hpc) (by simp)
  | handler _ _ hpc => exact absurd (h.reader.symm.trans hpc) (by simp)
  | call op => exact absurd rfl (ha op)
  | caller t pc pc' _ _ _ ht hon =>
      exact absurd hon (by rw [settledCall.onward (hcall ht)]; simp)
  | push t req _ ht _ => exact absurd (hcall ht) (by simp [settledCall])
  | callerCompletes t _ _ _ _ ht _ => exact absurd (hcall ht) (by simp [settledCall])
  | resumeTest t ht _ => exact absurd (hcall ht) (by simp [settledCall])
  | resumeReady t ht _ => exact absurd (hcall ht) (by simp [settledCall])
  | timerExpires _ => exact { h with }

end

/-- A dispatcher that was stopped is idle. -/
def IdleOnceStopped (s : ClientSessions) : Prop := s.lifecycle ≠ .running → Idle s.steps

section

variable {queueCapacity : Nat} {timeout : Int} {s s' : ClientSessions}

theorem IdleOnceStopped.step {a : ClientSteps.Action} (h : IdleOnceStopped s)
    (hok : StopsIdle s (.step a)) (hs : s.step a = some s') : IdleOnceStopped s' := by
  have hnext : ((s.steps.act a).map fun steps => { s with steps := steps }) = some s' →
      IdleOnceStopped s' := by
    intro hs hl
    obtain ⟨steps, hact, rfl⟩ := Option.map_eq_some_iff.mp hs
    refine (h hl).move (act_move hact).2 ?_
    rintro op rfl
    exact hl hok
  unfold ClientSessions.step at hs
  split at hs
  · exact hnext hs
  · exact hnext hs
  · exact hnext hs
  · exact absurd hs (by simp)
  · exact absurd hs (by simp)
  · rename_i hl
    split at hs
    · -- nobody is about to send
      rename_i ht
      exact absurd ((h hl).callers _ (List.mem_of_getElem? ht)) (by simp [settledCall])
    · exact hnext hs
  · exact hnext hs

theorem IdleOnceStopped.exit (h : IdleOnceStopped s) (hs : s.exit = some s') :
    IdleOnceStopped s' := by
  intro _
  unfold ClientSessions.exit at hs
  split at hs
  · rename_i hl _
    split at hs
    · cases hs
      exact { h (by simp [hl]) with queue := rfl }
    · exact absurd hs (by simp)
  · rename_i hl
    cases hs
    exact h (by simp [hl])
  · exact absurd hs (by simp)

theorem idleOnceStopped_reachable
    (h : ReachableWhile (ClientSessions.machine queueCapacity timeout) StopsIdle s) :
    IdleOnceStopped s := by
  refine ReachableWhile.invariant (P := IdleOnceStopped) ?_ ?_ h
  · rintro _ rfl hl
    exact absurd rfl hl
  · intro s a s' _ hP hok hs
    change s.act a = some s' at hs
    unfold ClientSessions.act at hs
    split at hs
    · exact absurd hs (by simp)
    · cases a with
      | step a => exact hP.step hok hs
      | stop =>
          obtain ⟨hl, hidle⟩ := hok
          simp only [ClientSessions.stop, hl] at hs
          cases hs
          exact fun _ => hidle
      | exit => exact hP.exit hs
      | start =>
          simp only [ClientSessions.restart] at hs
          split at hs
          · cases hs
            exact fun hl => absurd rfl hl
          · exact absurd hs (by simp)

/-- After an idle session the new one differs from a fresh one in nothing that is noticed. -/
theorem Idle.restart (h : Idle s.steps) (hs : s.restart = some s') :
    AlikeSessions
      (.fresh s.steps.requestQueue.capacity s.steps.timeout s.steps.callers) s' := by
  unfold ClientSessions.restart at hs
  split at hs
  · cases hs
    refine ⟨rfl, s.steps.pendingRequestState, ⟨h.slot, fun hne => absurd rfl hne⟩, ?_⟩
    have hq : s.steps.requestQueue = .new s.steps.requestQueue.capacity := by
      rw [FIFOClientQueue.new, ← h.queue]
    simp only [ClientSessions.fresh, ClientSteps.start, ← hq, h.notPaused, h.ready, h.reader]
  · exact absurd hs (by simp)

/--
**A restart after an idle stop is a fresh start.** When every `Stop` of the run
found the dispatcher idle and nobody called it before the next `Start`, the
restarted dispatcher has nothing queued, pending, paused or signalled, and every
later list of actions goes as it does with a new dispatcher of the same settings.
-/
theorem restart_equals_fresh_start
    (h : ReachableWhile (ClientSessions.machine queueCapacity timeout) StopsIdle s)
    (hs : s.act .start = some s') :
    s'.steps.requestQueue.elements = [] ∧
    s'.steps.pendingRequestState.hasPendingRequest = false ∧
    s'.steps.paused = false ∧
    s'.steps.readyForDispatch = 0 ∧
    (∀ pc ∈ s'.steps.callers, settledCall pc = true) ∧
    ∀ as : List ClientSessions.Action,
      Option.Rel AlikeSessions
        ((ClientSessions.machine queueCapacity timeout).run
          (.fresh s.steps.requestQueue.capacity s.steps.timeout s.steps.callers) as)
        ((ClientSessions.machine queueCapacity timeout).run s' as) := by
  have hidle := idleOnceStopped_reachable h
  unfold ClientSessions.act at hs
  split at hs
  · exact absurd hs (by simp)
  · have hl : s.lifecycle = .stopped := by
      simp only [ClientSessions.restart] at hs
      split at hs
      · assumption
      · exact absurd hs (by simp)
    have hi : Idle s.steps := hidle (by simp [hl])
    have halike : AlikeSessions _ s' := hi.restart hs
    refine ⟨?_, ?_, ?_, ?_, ?_, (respects_alike queueCapacity timeout).run halike⟩
    all_goals
      simp only [ClientSessions.restart, hl] at hs
      cases hs
    · exact hi.queue
    · simp [ClientState.hasPendingRequest, hi.slot]
    · exact hi.notPaused
    · exact hi.ready
    · exact hi.callers

end

/-! ## Two sessions -/

/-- A request is sent and written. -/
def exchange (t : Nat) (id : String) : List ClientSessions.Action :=
  (ClientSteps.sending t id ++ ClientSteps.dispatching .request).map .step

/-- The response to the request comes in, and the pump takes the token. -/
def finishing (id : String) : List ClientSessions.Action :=
  (ClientSteps.answering id).map .step ++
    [.step (.select .ready), .step (.pump none), .step (.pump none)]

/-- `Stop`, up to the return of the pump. -/
def stopping : List ClientSessions.Action := [.stop, .exit, .exit]

/-- A session that ends idle is followed by one that records its request. -/
theorem second_session_accepts_response :
    ∃ s s' t, ReachableWhile (ClientSessions.machine 0 30) StopsIdle s ∧
      s.act .start = some s' ∧
      Option.Rel AlikeSessions
        ((ClientSessions.machine 0 30).run (.fresh 0 30 [.returned])
          (exchange 1 "2" ++ [.step (.receive "2" .response)])) (some t) ∧
      t.steps.pendingRequestState.requestID = "2" ∧
      t.steps.reader = .completing "2" .response .peek := by
  have hrun : ∃ s, (ClientSessions.machine 0 30).runWhile stopsIdle (.fresh 0 30 [])
        (exchange 0 "1" ++ finishing "1" ++ stopping) = some s ∧
      s.steps.requestQueue.capacity = 0 ∧ s.steps.timeout = 30 ∧
      s.steps.callers = [.returned] ∧
      ∃ s' t, s.act .start = some s' ∧
        (ClientSessions.machine 0 30).run s'
          (exchange 1 "2" ++ [.step (.receive "2" .response)]) = some t ∧
        t.steps.pendingRequestState.requestID = "2" ∧
        t.steps.reader = .completing "2" .response .peek :=
    ⟨_, rfl, rfl, rfl, rfl, _, _, rfl, rfl, rfl, rfl⟩
  obtain ⟨s, hs, hcap, htime, hcallers, s', t, hstart, ht, hslot, hreader⟩ := hrun
  have hreach : ReachableWhile (ClientSessions.machine 0 30) StopsIdle s :=
    ReachableWhile.runWhile (fun _ _ h => stopsIdle_sound h) (.init rfl) _ hs
  obtain ⟨_, _, _, _, _, hsame⟩ := restart_equals_fresh_start hreach hstart
  have hrel := hsame (exchange 1 "2" ++ [.step (.receive "2" .response)])
  rw [hcap, htime, hcallers, ht] at hrel
  exact ⟨s, s', t, hreach, hstart, hrel, hslot, hreader⟩

/--
Stopped while "1" is pending, the dispatcher is restarted with its slot taken. It
writes "2" without recording it, and discards the response to it; a new
dispatcher records "2" and accepts the response.
-/
theorem restart_keeps_pending_request :
    ∃ s s' t t', Reachable (ClientSessions.machine 0 30) s ∧ s.act .start = some s' ∧
      s'.steps.pendingRequestState.requestID = "1" ∧
      (ClientSessions.machine 0 30).run s'
        (exchange 1 "2" ++ [.step (.receive "2" .response)]) = some t ∧
      t.steps.written.map Posted.id = ["2"] ∧
      t.steps.pendingRequestState.requestID = "1" ∧ t.steps.reader = .idle ∧
      (ClientSessions.machine 0 30).run (.fresh 0 30 [.returned])
        (exchange 1 "2" ++ [.step (.receive "2" .response)]) = some t' ∧
      t'.steps.written.map Posted.id = ["2"] ∧
      t'.steps.pendingRequestState.requestID = "2" ∧
      t'.steps.reader = .completing "2" .response .peek := by
  have hrun : ∃ s, (ClientSessions.machine 0 30).run (.fresh 0 30 [])
        (exchange 0 "1" ++ stopping) = some s ∧
      ∃ s' t t', s.act .start = some s' ∧
        s'.steps.pendingRequestState.requestID = "1" ∧
        (ClientSessions.machine 0 30).run s'
          (exchange 1 "2" ++ [.step (.receive "2" .response)]) = some t ∧
        t.steps.written.map Posted.id = ["2"] ∧
        t.steps.pendingRequestState.requestID = "1" ∧ t.steps.reader = .idle ∧
        (ClientSessions.machine 0 30).run (.fresh 0 30 [.returned])
          (exchange 1 "2" ++ [.step (.receive "2" .response)]) = some t' ∧
        t'.steps.written.map Posted.id = ["2"] ∧
        t'.steps.pendingRequestState.requestID = "2" ∧
        t'.steps.reader = .completing "2" .response .peek :=
    ⟨_, rfl, _, _, _, rfl, rfl, rfl, rfl, rfl, rfl, rfl, rfl, rfl, rfl⟩
  obtain ⟨s, hs, s', t, t', hrest⟩ := hrun
  exact ⟨s, s', t, t', Reachable.run (.init rfl) _ hs, hrest⟩

end OcppGo.Proof
