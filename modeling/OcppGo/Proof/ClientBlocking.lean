import OcppGo.Proof.ClientOutcomes

/-!
# When the client's pump waits for itself

`CompleteRequest` ends with a send on `readyForDispatch`, a channel with room for
one token that only the pump reads. When the pump itself completes a request, on
a failed `Write` or on a timeout, a token that is already there will never be
taken: the send waits for the pump, and the pump for the send. `Resume` puts such
a token there whenever nothing is pending, and the pump's `select` is free to
take the request token first.

Everything depends on what happens from the moment the pump commits itself, to a
dispatch or to the timer branch with a request pending, until it is through with
its own `CompleteRequest`. If it commits itself only with the channel empty, and
nobody sends a token in between, it never waits.
-/

namespace OcppGo.Proof

open OcppGo.Lib OcppGo.Ocppj

/-- On a way that may lead through a `CompleteRequest` of the pump's own. -/
def committed : PumpPC → Bool
  | .peek | .addPending _ | .write _ | .failed _ _ _ | .peekTimeout | .timedOut _ _ => true
  | _ => false

/-- The pump's next operation commits it. -/
def commits (s : ClientSteps) : Bool :=
  match s.pump with
  | .isEmpty => !s.requestQueue.isEmpty
  | .hasPending => s.pendingRequestState.hasPendingRequest
  | _ => false

def callSignaling : CallPC → Bool
  | .completing _ c => signaling c
  | .resumeReady => true
  | _ => false

/--
The pump commits itself only while `readyForDispatch` is empty, and nobody else
sends a token while it is committed.
-/
def Uncontended (s : ClientSteps) : ClientSteps.Action → Prop
  | .pump _ => commits s = true → s.readyForDispatch = 0
  | .reader => readerSignaling s.reader = true → committed s.pump = false
  | .caller t => (s.callers[t]?).any callSignaling = true → committed s.pump = false
  | _ => True

instance (s : ClientSteps) : ∀ a, Decidable (Uncontended s a)
  | .pump _ => inferInstanceAs (Decidable (commits s = true → s.readyForDispatch = 0))
  | .reader => inferInstanceAs
      (Decidable (readerSignaling s.reader = true → committed s.pump = false))
  | .caller t => inferInstanceAs
      (Decidable ((s.callers[t]?).any callSignaling = true → committed s.pump = false))
  | .select _ | .receive _ _ | .call _ | .timerExpires => .isTrue trivial

/-- A committed pump finds the channel empty. -/
def Unblocked (s : ClientSteps) : Prop := committed s.pump = true → s.readyForDispatch = 0

theorem not_committed_of_inert {pc : PumpPC} (h : inert pc = true) : committed pc = false := by
  cases pc <;> first | rfl | exact absurd h (by simp [inert])

/-- Where the pump is not committed there is nothing to show. -/
theorem Unblocked.of_not {s : ClientSteps} (h : committed s.pump = false) : Unblocked s := by
  intro hc
  rw [h] at hc
  exact absurd hc (by simp)

/-- The pump's own `CompleteRequest` fills the channel with its last operation only. -/
theorem Unblocked.pumpCompletes {s s₁ : ClientSteps} {id : String} {c : Completing}
    {r : Option Completing} {k : Completing → PumpPC} {done : PumpPC} (h : Unblocked s)
    (hpc : committed s.pump = true) (hdone : committed done = false)
    (hc : CompleteMove s id c s₁ r) : Unblocked { s₁ with pump := pumpAfter k done r } := by
  cases hc with
  | mismatch _ => exact .of_not hdone
  | found p _ _ => exact fun _ => h hpc
  | pop => exact fun _ => h hpc
  | delete => exact fun _ => h hpc
  | ready _ => exact .of_not hdone

/-- Any other `CompleteRequest` fills it while the pump is not committed. -/
theorem Unblocked.othersComplete {s s₁ s' : ClientSteps} {id : String} {c : Completing}
    {r : Option Completing} (h : Unblocked s) (hc : CompleteMove s id c s₁ r)
    (hsig : signaling c = true → committed s.pump = false) (hp : s'.pump = s₁.pump)
    (ht : s'.readyForDispatch = s₁.readyForDispatch) : Unblocked s' := by
  intro hpc
  rw [hp, hc.pump] at hpc
  rw [ht]
  cases hc with
  | ready _ =>
      rw [hsig rfl] at hpc
      exact absurd hpc (by simp)
  | _ => exact h hpc

theorem unblocked_step {s s' : ClientSteps} {a : ClientSteps.Action} (h : Unblocked s)
    (hok : Uncontended s a) (hm : Move s a s') : Unblocked s' := by
  cases hm with
  | idle _ pc timer n _ hi _ => exact .of_not (not_committed_of_inert hi)
  | takeReady _ _ => exact .of_not rfl
  | seesReady _ _ _ => exact .of_not rfl
  | seesRequest w hpc hne =>
      have hcommit : commits s = true := by
        rw [commits, hpc]
        simpa using hne
      exact fun _ => hok hcommit
  | crash _ _ _ => exact .of_not rfl
  | peek _ p hpc _ => exact fun _ => h (by rw [hpc]; rfl)
  | mark _ p hpc => exact fun _ => h (by rw [hpc]; rfl)
  | write p _ => exact .of_not rfl
  | writeFails text p hpc => exact fun _ => h (by rw [hpc]; rfl)
  | failed _ p text c s₁ r hpc hc => exact h.pumpCompletes (by rw [hpc]; rfl) rfl hc
  | reportFailed _ p text _ => exact .of_not rfl
  | seesPending w hpc hne =>
      have hcommit : commits s = true := by
        rw [commits, hpc]
        exact ClientState.hasPendingRequest_iff.mpr hne
      exact fun _ => hok hcommit
  | peekTimeout _ p hpc _ => exact fun _ => h (by rw [hpc]; rfl)
  | timedOut _ p c s₁ r hpc hc => exact h.pumpCompletes (by rw [hpc]; rfl) rfl hc
  | reportTimedOut _ p _ => exact .of_not rfl
  | reader id kind c s₁ r hpc hc =>
      refine h.othersComplete hc (fun hs => hok ?_) rfl rfl
      rw [hpc]
      exact hs
  | callerCompletes t id c s₁ r ht hc =>
      refine h.othersComplete hc (fun hs => hok ?_) rfl rfl
      rw [ht]
      exact hs
  | resumeReady t ht _ =>
      refine .of_not (hok ?_)
      rw [ht]
      rfl
  | _ => exact h

theorem unblocked_reachable {n : Nat} {timeout : Int} {s : ClientSteps}
    (h : ReachableWhile (ClientSteps.machine n timeout) Uncontended s) : Unblocked s := by
  refine ReachableWhile.invariant (P := Unblocked) ?_ ?_ h
  · rintro s rfl
    exact .of_not rfl
  · intro s a s' _ hs hok hact
    exact unblocked_step hs hok (act_move hact).2

/-- With an empty channel every operation of `CompleteRequest` can be taken. -/
theorem complete_isSome {s : ClientSteps} (h : s.readyForDispatch = 0) (id : String)
    (c : Completing) : (s.complete id c).isSome = true := by
  cases c with
  | peek =>
      simp only [ClientSteps.complete]
      split
      · rfl
      · split <;> rfl
  | pop => rfl
  | delete => rfl
  | ready => simp [ClientSteps.complete, h]

/--
**The pump never waits on its own channel**, in every run in which it commits
itself with an empty channel and nobody sends a token while it is committed:
inside its own `CompleteRequest`, after a failed `Write` or on a timeout,
`readyForDispatch` is empty, and its next operation can be taken.
-/
theorem pump_never_waits_for_itself {n : Nat} {timeout : Int} {s : ClientSteps} {id : String}
    {c : Completing} (h : ReachableWhile (ClientSteps.machine n timeout) Uncontended s)
    (hat : pumpAt s.pump = some (id, c)) :
    s.readyForDispatch = 0 ∧ ∀ w, (s.act (.pump w)).isSome = true := by
  have hcommitted : committed s.pump = true := by
    cases hpc : s.pump <;> rw [hpc] at hat <;> first | rfl | exact absurd hat (by simp [pumpAt])
  have hempty := unblocked_reachable h hcommitted
  refine ⟨hempty, fun w => ?_⟩
  have hstep : (s.pumpStep w).isSome = true := by
    unfold ClientSteps.pumpStep
    cases hpc : s.pump with
    | failed p text c' =>
        dsimp only [ClientSteps.pumpComplete]
        rw [Option.isSome_map]
        exact complete_isSome hempty _ _
    | timedOut p c' =>
        dsimp only [ClientSteps.pumpComplete]
        rw [Option.isSome_map]
        exact complete_isSome hempty _ _
    | _ => rw [hpc] at hat; exact absurd hat (by simp [pumpAt])
  unfold ClientSteps.act
  split
  · rename_i hpc
    rw [hpc] at hat
    exact absurd hat (by simp [pumpAt])
  · exact hstep

/-- A failed `Write`: the pump is about to send its token, and has room. -/
theorem failed_write_has_room :
    ∃ s, ReachableWhile (ClientSteps.machine 0 30) Uncontended s
      ∧ pumpAt s.pump = some ("1", .ready)
      ∧ s.readyForDispatch = 0 ∧ ∀ w, (s.act (.pump w)).isSome = true := by
  have hrun : ∃ s, (ClientSteps.machine 0 30).runWhile (fun s a => decide (Uncontended s a))
        (ClientSteps.start 0 30)
        (ClientSteps.sending 0 "1"
          ++ .select .request :: List.replicate 8 (.pump (some "broken pipe"))) = some s
      ∧ pumpAt s.pump = some ("1", .ready) := ⟨_, rfl, rfl⟩
  obtain ⟨s, hs, hat⟩ := hrun
  have hreach : ReachableWhile (ClientSteps.machine 0 30) Uncontended s :=
    ReachableWhile.runWhile (fun _ _ h => of_decide_eq_true h) (.init rfl) _ hs
  exact ⟨s, hreach, hat, pump_never_waits_for_itself hreach hat⟩

/--
`Resume` finds nothing pending and leaves a token. The pump takes the token of a
request first, its `Write` fails, and its own `CompleteRequest` waits for room
that only the pump could make.
-/
theorem resume_then_failed_write :
    ∃ s, Reachable (ClientSteps.machine 0 30) s
      ∧ pumpAt s.pump = some ("1", .ready) ∧ s.readyForDispatch = 1
      ∧ (∀ w, s.act (.pump w) = none) ∧ ∀ sel, s.act (.select sel) = none := by
  have hrun : ∃ s, (ClientSteps.machine 0 30).run (ClientSteps.start 0 30)
        (ClientSteps.pausing 0 ++ ClientSteps.resuming 1 ++ ClientSteps.sending 2 "1"
          ++ .select .request :: List.replicate 8 (.pump (some "broken pipe"))) = some s
      ∧ pumpAt s.pump = some ("1", .ready) ∧ s.readyForDispatch = 1
      ∧ (∀ w, s.act (.pump w) = none) ∧ ∀ sel, s.act (.select sel) = none := by
    refine ⟨_, rfl, rfl, rfl, fun _ => rfl, ?_⟩
    intro sel
    cases sel <;> rfl
  obtain ⟨s, hs, hrest⟩ := hrun
  exact ⟨s, Reachable.run (.init rfl) _ hs, hrest⟩

end OcppGo.Proof
