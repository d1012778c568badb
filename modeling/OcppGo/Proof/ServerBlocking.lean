import OcppGo.Proof.ServerStepMoves

/-!
# When the server's pump waits for itself

The ready channel of the server has room for one id, only the pump reads it, and
the readers of all clients fill it. When the pump itself completes a request, on
a failed `Write` or on a timeout, any client's id in the channel keeps its send
waiting for ever, and dispatching ends for all clients.

The pump can also put that id there itself. The timer branch leaves one behind
and goes on to the test at the end of the iteration with whatever an earlier
iteration left in `rdy` and `clientQueue`. If that leads to a dispatch whose
`Write` fails, its second `CompleteRequest` waits for the id of its first.
-/

namespace OcppGo.Proof

open OcppGo.Lib OcppGo.Ocppj

/-- On a way that may lead through a `CompleteRequest` of the pump's own. -/
def serverCommitted : ServerPumpPC → Bool
  | .timeoutGet _ _ | .timeoutPeek _ _ _ | .timedOut _ _ _ | .dispatchGet _ | .dispatchPeek _ _
  | .addPending _ _ | .write _ _ | .failed _ _ _ _ => true
  | _ => false

/-- The pump's next operation commits it. -/
def serverCommits (s : ServerSteps) : Bool :=
  match s.pump with
  | .hasPending c => s.pendingRequestState.hasPendingRequest c
  | .test _ => s.dispatches
  | _ => false

/-- A reader is about to send on the ready channel. -/
def readerSignals : ServerCall → Bool
  | .completing _ _ .ready => true
  | _ => false

/--
The pump commits itself only while the ready channel is empty, and no reader
sends a client's id while it is committed.
-/
def ServerUncontended (s : ServerSteps) : ServerSteps.Action → Prop
  | .pump _ => serverCommits s = true → s.readyForDispatch = []
  | .call t => (s.calls[t]?).any readerSignals = true → serverCommitted s.pump = false
  | _ => True

instance (s : ServerSteps) : ∀ a, Decidable (ServerUncontended s a)
  | .pump _ => inferInstanceAs (Decidable (serverCommits s = true → s.readyForDispatch = []))
  | .call t => inferInstanceAs
      (Decidable ((s.calls[t]?).any readerSignals = true → serverCommitted s.pump = false))
  | .select _ | .start _ | .createClient _ | .getClientState _ => .isTrue trivial

/-- A committed pump finds the channel empty. -/
def ServerUnblocked (s : ServerSteps) : Prop :=
  serverCommitted s.pump = true → s.readyForDispatch = []

section

variable {s s₁ s' : ServerSteps}

theorem not_committed_of_unburdened {pc : ServerPumpPC} (h : unburdened pc = true) :
    serverCommitted pc = false := by
  cases pc <;> first | rfl | exact absurd h (by simp [unburdened])

/-- Where the pump is not committed there is nothing to show. -/
theorem ServerUnblocked.of_not (h : serverCommitted s.pump = false) : ServerUnblocked s := by
  intro hc
  rw [h] at hc
  exact absurd hc (by simp)

/-- The pump's own `CompleteRequest` fills the channel with its last operation only. -/
theorem ServerUnblocked.pumpCompletes {c id : String} {k : ServerCompleting}
    {o : Option ServerCompleting} {next : ServerCompleting → ServerPumpPC} {done : ServerPumpPC}
    (h : ServerUnblocked s) (hpc : serverCommitted s.pump = true)
    (hdone : serverCommitted done = false) (hc : StepCompletes s c id k s₁ o) :
    ServerUnblocked { s₁ with pump := pumpNext next done o } := by
  cases hc with
  | noQueue _ => exact .of_not hdone
  | got r _ => exact fun _ => h hpc
  | mismatch r _ => exact .of_not hdone
  | found r p _ _ => exact fun _ => h hpc
  | pop r => exact fun _ => h hpc
  | delete => exact fun _ => h hpc
  | ready _ => exact .of_not hdone

theorem serverUnblocked_step {a : ServerSteps.Action} (h : ServerUnblocked s)
    (hok : ServerUncontended s a) (hm : StepMove s a s') : ServerUnblocked s' := by
  cases hm with
  | idle _ _ _ hpc => exact .of_not (not_committed_of_unburdened hpc)
  | seesPending w c hpc hne =>
      have hcommit : serverCommits s = true := by
        rw [serverCommits, hpc]
        dsimp only
        rw [ServerState.hasPendingRequest_eq]
        exact ClientState.hasPendingRequest_iff.mpr hne
      exact fun _ => hok hcommit
  | timeoutGet _ c pending r hpc _ => exact fun _ => h (by rw [hpc]; rfl)
  | timeoutPeek _ c pending r p hpc _ => exact fun _ => h (by rw [hpc]; rfl)
  | timedOut _ c p k s₁ o hpc hc => exact h.pumpCompletes (by rw [hpc]; rfl) rfl hc
  | reportTimedOut _ c p _ => exact .of_not rfl
  | commit w c hpc hdisp =>
      have hcommit : serverCommits s = true := by
        rw [serverCommits, hpc]
        exact hdisp
      exact fun _ => hok hcommit
  | dispatchGet _ c r hpc _ => exact fun _ => h (by rw [hpc]; rfl)
  | dispatchPeek _ c r p hpc _ => exact fun _ => h (by rw [hpc]; rfl)
  | mark _ c p hpc => exact fun _ => h (by rw [hpc]; rfl)
  | write c p _ _ hpc' => exact .of_not (by rw [hpc']; rfl)
  | writeFails text c p hpc => exact fun _ => h (by rw [hpc]; rfl)
  | failed _ c p text k s₁ o hpc hc => exact h.pumpCompletes (by rw [hpc]; rfl) rfl hc
  | reportFailed _ c p text _ => exact .of_not rfl
  | crash _ _ => exact .of_not rfl
  | callMoves t pc pc' _ _ _ _ hp _ _ _ _ hr =>
      intro hcommitted
      rw [hp] at hcommitted
      rw [hr]
      exact h hcommitted
  | callCompletes t c id k s₁ o ht hc =>
      intro hcommitted
      cases hc with
      | ready _ =>
          -- this reader waits until the pump is through
          have hfree : serverCommitted s.pump = false := hok (by rw [ht]; rfl)
          exact absurd (hfree.symm.trans hcommitted) (by simp)
      | _ => exact h hcommitted
  | _ => exact h

theorem serverUnblocked_reachable {n : Nat} {timeout : Int}
    (h : ReachableWhile (ServerSteps.machine n timeout) ServerUncontended s) :
    ServerUnblocked s := by
  refine ReachableWhile.invariant (P := ServerUnblocked) ?_ ?_ h
  · rintro s rfl
    exact .of_not rfl
  · intro s a s' _ hs hok hact
    exact serverUnblocked_step hs hok (act_stepMove hact)

/-- With an empty channel every operation of `CompleteRequest` can be taken. -/
theorem serverComplete_isSome (h : s.readyForDispatch = []) (c id : String)
    (k : ServerCompleting) : (s.complete c id k).isSome = true := by
  cases k with
  | get =>
      simp only [ServerSteps.complete]
      split <;> rfl
  | peek r =>
      simp only [ServerSteps.complete]
      split
      · rfl
      · split <;> rfl
  | pop r => rfl
  | delete => rfl
  | ready => simp [ServerSteps.complete, h]

/-- An unblocked pump that is not at its `select` can take its next operation. -/
theorem pump_act_isSome (h : ServerUnblocked s) (hsel : s.pump ≠ .select)
    (hcrash : s.pump ≠ .crashed) (w : Option String) : (s.act (.pump w)).isSome = true := by
  have hstep : (s.pumpStep w).isSome = true := by
    unfold ServerSteps.pumpStep
    cases hpc : s.pump with
    | select => exact absurd hpc hsel
    | crashed => exact absurd hpc hcrash
    | timedOut c p k =>
        dsimp only [ServerSteps.pumpComplete]
        rw [Option.isSome_map]
        exact serverComplete_isSome (h (by rw [hpc]; rfl)) _ _ _
    | failed c p text k =>
        dsimp only [ServerSteps.pumpComplete]
        rw [Option.isSome_map]
        exact serverComplete_isSome (h (by rw [hpc]; rfl)) _ _ _
    | reqChan | reportTimedOut c p | readyGet c | addPending c p | reportFailed c p text => rfl
    | _ => dsimp only; split <;> rfl
  unfold ServerSteps.act
  split
  · rename_i hpc
    exact absurd hpc hcrash
  · exact hstep

end

/-- Where the pump stands in a `CompleteRequest` of its own, and for whom. -/
def ownCompletion : ServerPumpPC → Option (String × ServerCompleting)
  | .timedOut c _ k => some (c, k)
  | .failed c _ _ k => some (c, k)
  | _ => none

/--
**The pump never waits on its own channel**, in every run in which it commits
itself with an empty channel and no reader sends an id while it is committed: in
its own `CompleteRequest`, after a failed `Write` or on a timeout,
`readyForDispatch` is empty, and its next operation can be taken.
-/
theorem server_pump_never_waits_for_itself {n : Nat} {timeout : Int} {s : ServerSteps}
    {c : String} {k : ServerCompleting}
    (h : ReachableWhile (ServerSteps.machine n timeout) ServerUncontended s)
    (hat : ownCompletion s.pump = some (c, k)) :
    s.readyForDispatch = [] ∧ ∀ w, (s.act (.pump w)).isSome = true := by
  have hcommitted : serverCommitted s.pump = true := by
    cases hpc : s.pump <;> rw [hpc] at hat <;>
      first | rfl | exact absurd hat (by simp [ownCompletion])
  have hunblocked := serverUnblocked_reachable h
  refine ⟨hunblocked hcommitted, pump_act_isSome hunblocked ?_ ?_⟩
  · intro hpc
    rw [hpc] at hcommitted
    exact absurd hcommitted (by simp [serverCommitted])
  · intro hpc
    rw [hpc] at hcommitted
    exact absurd hcommitted (by simp [serverCommitted])

/--
The request of "A" is answered and its id taken from the channel, and "C" waits for
an answer. The `Write` for "B" fails: the pump is about to send that id, and has room.
-/
theorem server_failed_write_has_room :
    ∃ s, ReachableWhile (ServerSteps.machine 0 30) ServerUncontended s
      ∧ ownCompletion s.pump = some ("B", .ready)
      ∧ s.sent.map Prod.fst = ["A", "C"]
      ∧ s.readyForDispatch = [] ∧ ∀ w, (s.act (.pump w)).isSome = true := by
  have hrun : ∃ s, (ServerSteps.machine 0 30).runWhile
        (fun s a => decide (ServerUncontended s a)) (ServerSteps.start 0 30)
        ([.createClient "A", .createClient "B", .createClient "C"]
          ++ ServerSteps.sending 0 "A" "1" ++ ServerSteps.dispatching "A" ++ [.pump none]
          ++ ServerSteps.sending 2 "C" "2" ++ ServerSteps.dispatching "C" ++ [.pump none]
          ++ ServerSteps.answering 4 "A" "1"
          ++ [.pump none, .select (.ready "A"), .pump none, .pump none]
          ++ ServerSteps.sending 5 "B" "3" ++ ServerSteps.dispatching "B"
          ++ List.replicate 5 (.pump (some "broken pipe"))) = some s
      ∧ ownCompletion s.pump = some ("B", .ready)
      ∧ s.sent.map Prod.fst = ["A", "C"] := ⟨_, rfl, rfl, rfl⟩
  obtain ⟨s, hs, hat, hsent⟩ := hrun
  have hreach : ReachableWhile (ServerSteps.machine 0 30) ServerUncontended s :=
    ReachableWhile.runWhile (fun _ _ h => of_decide_eq_true h) (.init rfl) _ hs
  exact ⟨s, hreach, hat, hsent, server_pump_never_waits_for_itself hreach hat⟩

/--
Two clients. While the pump is about to write to "B", the response of "A" fills
the ready channel. The `Write` fails, and the pump's own `CompleteRequest` waits
for room that only the pump could make.
-/
theorem response_meets_failed_write :
    ∃ s, Reachable (ServerSteps.machine 0 30) s
      ∧ ownCompletion s.pump = some ("B", .ready) ∧ s.readyForDispatch = ["A"]
      ∧ (∀ w, s.act (.pump w) = none) ∧ ∀ sel, s.act (.select sel) = none := by
  have hrun : ∃ s, (ServerSteps.machine 0 30).run (ServerSteps.start 0 30)
        ([.createClient "A", .createClient "B"] ++ ServerSteps.sending 0 "A" "1"
          ++ ServerSteps.dispatching "A" ++ [.pump none]
          ++ ServerSteps.sending 2 "B" "2" ++ ServerSteps.dispatching "B"
          ++ ServerSteps.answering 3 "A" "1"
          ++ List.replicate 5 (.pump (some "broken pipe"))) = some s
      ∧ ownCompletion s.pump = some ("B", .ready) ∧ s.readyForDispatch = ["A"]
      ∧ (∀ w, s.act (.pump w) = none) ∧ ∀ sel, s.act (.select sel) = none := by
    refine ⟨_, rfl, rfl, rfl, fun _ => rfl, ?_⟩
    intro sel
    cases sel <;> rfl
  obtain ⟨s, hs, hrest⟩ := hrun
  exact ⟨s, Reachable.run (.init rfl) _ hs, hrest⟩

end OcppGo.Proof
