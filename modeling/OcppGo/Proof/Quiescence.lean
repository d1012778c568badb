import OcppGo.Proof.ClientOutcomes
import OcppGo.Proof.ClientWakeup
import OcppGo.Proof.ServerConservation
import OcppGo.Proof.ServerWakeup

/-!
# When a dispatcher comes to rest

Two kinds of fact together say that no request is forgotten. One is safety: whatever
left a queue was reported, or is in somebody's hands. The other is about tokens: a
pump that sleeps, with nobody about to wake it, leaves nothing in a queue that it
could send. At rest nobody has anything in their hands, so every request that was
accepted has had its outcome, once.

A dispatcher that waits for an answer is not at rest: the deadline of the request, or
the answer, will move it.
-/

namespace OcppGo.Proof

open OcppGo.Lib OcppGo.Ocppj

/-! ## The client -/

section Client

variable {n : Nat} {timeout : Int} {s s' : ClientSteps} {a : ClientSteps.Action}

/-- The pump sleeps, nobody is about to wake it, and no answer is waited for. -/
structure ClientAtRest (s : ClientSteps) : Prop where
  asleep : Asleep s
  reader : s.reader = .idle
  running : s.paused = false
  free : s.pendingRequestState.hasPendingRequest = false

theorem CompleteMove.accepted {s₁ : ClientSteps} {rid : String} {c : Completing}
    {r : Option Completing} (h : CompleteMove s rid c s₁ r) : s₁.accepted = s.accepted := by
  cases h <;> rfl

/-- `CompleteRequest` leaves the stamps alone: what it pops is remembered. -/
theorem stamps_complete {s₁ : ClientSteps} {rid : String} {c : Completing}
    {r : Option Completing} (hc : CompleteMove s rid c s₁ r)
    (h : (acceptedRequests s).map Posted.seq = List.range s.accepted) :
    (acceptedRequests s₁).map Posted.seq = List.range s₁.accepted := by
  rw [hc.acceptedRequests, hc.accepted]
  exact h

/-- The stamps of the accepted requests, removed ones included, count the pushes. -/
theorem stamps_step (h : (acceptedRequests s).map Posted.seq = List.range s.accepted)
    (hm : Move s a s') : (acceptedRequests s').map Posted.seq = List.range s'.accepted := by
  cases hm with
  | failed _ _ _ _ _ _ _ hc => exact (stamps_complete hc h :)
  | timedOut _ _ _ _ _ _ hc => exact (stamps_complete hc h :)
  | reader _ _ _ _ _ _ hc => exact (stamps_complete hc h :)
  | callerCompletes _ _ _ _ _ _ hc => exact (stamps_complete hc h :)
  | push t req q ht hq =>
      show (s.popped ++ q.elements).map Posted.seq = List.range (s.accepted + 1)
      rw [hq, ← List.append_assoc, List.map_append, List.range_succ]
      exact congrArg (· ++ _) h
  | _ => exact h

theorem stamps_reachable (h : Reachable (ClientSteps.machine n timeout) s) :
    (acceptedRequests s).map Posted.seq = List.range s.accepted := by
  refine Reachable.invariant
    (P := fun s => (acceptedRequests s).map Posted.seq = List.range s.accepted) ?_ ?_ h
  · rintro s rfl
    rfl
  · intro s a s' _ hs hact
    exact stamps_step hs (act_move hact).2

theorem Exclusive.usable (h : Exclusive s a) : UsableCall s a := by
  cases a with
  | call op =>
      cases op with
      | sendRequest req => exact h
      | _ => trivial
  | _ => trivial

/--
**A client at rest has settled every request.** In every run in which reader and pump
keep apart, and in every state at rest, the accepted requests, one for each successful
`Push`, are those whose outcome the application was told, each exactly once.
-/
theorem client_at_rest_settled (h : ReachableWhile (ClientSteps.machine n timeout) Exclusive s)
    (hrest : ClientAtRest s) :
    (acceptedRequests s).map Posted.seq = List.range s.accepted
      ∧ ((acceptedRequests s).map Posted.id).Nodup
      ∧ (s.outcomes.map Prod.fst).Perm ((acceptedRequests s).map Posted.id) := by
  obtain ⟨hbalanced, hdistinct⟩ := balanced_reachable h
  have hwakeful := (wakeful_reachable (h.mono fun _ _ => Exclusive.usable)).2
  have hqueue := hrest.asleep.queue_nil hwakeful hrest.running hrest.free
  have hdue : due s = [] := by
    rw [due, hrest.reader, hrest.asleep.pump]
    rfl
  refine ⟨stamps_reachable h.reachable, hdistinct, ?_⟩
  rw [Balanced, hdue, List.append_nil] at hbalanced
  rwa [acceptedRequests, hqueue, List.append_nil]

/-- The pump takes a ready token and finds the queue empty. -/
def restingAfter : List ClientSteps.Action := [.select .ready, .pump none, .pump none]

/--
A heartbeat is answered and the next times out. The token of the third is read during
a pause, and it is written and answered after it.
-/
theorem three_heartbeats_settled :
    ∃ s, ReachableWhile (ClientSteps.machine 0 defaultMessageTimeout) Exclusive s
      ∧ ClientAtRest s ∧ s.accepted = 3
      ∧ s.outcomes = [("1", .reply .response), ("2", .canceled), ("3", .reply .response)]
      ∧ (s.outcomes.map Prod.fst).Perm ((acceptedRequests s).map Posted.id) := by
  have hrun : ∃ s, (ClientSteps.machine 0 defaultMessageTimeout).runWhile
      (fun s a => decide (Exclusive s a)) (ClientSteps.start 0 defaultMessageTimeout)
      (ClientSteps.sending 0 "1" ++ ClientSteps.dispatching .request
        ++ ClientSteps.answering "1" ++ ClientSteps.sending 1 "2"
        ++ ClientSteps.dispatching .ready ++ [.select .request, .pump none]
        ++ ClientSteps.tick ++ ClientSteps.timingOut ++ [.pump none, .pump none] ++ restingAfter
        ++ ClientSteps.pausing 2 ++ ClientSteps.sending 3 "3" ++ [.select .request, .pump none]
        ++ ClientSteps.resuming 4 ++ ClientSteps.dispatching .ready
        ++ ClientSteps.answering "3" ++ restingAfter) = some s
      ∧ (s.pump = .select ∧ s.requestChannel = 0 ∧ s.readyForDispatch = 0
        ∧ s.callers.all (fun pc => !underWay pc) = true)
      ∧ (s.reader = .idle ∧ s.paused = false
        ∧ s.pendingRequestState.hasPendingRequest = false)
      ∧ s.accepted = 3
      ∧ s.outcomes = [("1", .reply .response), ("2", .canceled), ("3", .reply .response)] :=
    ⟨_, rfl, ⟨rfl, rfl, rfl, rfl⟩, ⟨rfl, rfl, rfl⟩, rfl, rfl⟩
  obtain ⟨s, hs, ⟨hpump, hrequest, hready, hcalls⟩, ⟨hreader, hpaused, hfree⟩, hacc, hout⟩ := hrun
  have hr : ReachableWhile (ClientSteps.machine 0 defaultMessageTimeout) Exclusive s :=
    ReachableWhile.runWhile (fun _ _ hc => of_decide_eq_true hc) (.init rfl) _ hs
  have hasleep : Asleep s :=
    { pump := hpump, requestChannel := hrequest, readyForDispatch := hready
      reader := fun _ _ _ hr => by rw [hreader] at hr; cases hr
      callers := fun pc hpc => by simpa using List.all_eq_true.mp hcalls pc hpc }
  have hrest : ClientAtRest s := ⟨hasleep, hreader, hpaused, hfree⟩
  exact ⟨s, hr, hrest, hacc, hout, (client_at_rest_settled hr hrest).2.2⟩

end Client

/-! ## The server -/

section Server

variable {n : Nat} {timeout : Int} {t : Recorded ServerSteps AccountEvent}

/-- Nothing is under way for this client, and no answer of it is waited for. -/
structure ServerAtRest (s : ServerSteps) (c : String) : Prop where
  pump : s.pump = .select
  idle : s.calls.all callSettled = true
  requestChannel : c ∉ s.requestChannel
  readyForDispatch : c ∉ s.readyForDispatch
  free : s.pendingRequestState.hasPendingRequest c = false

/-- Nobody has a request in their hands at rest. -/
theorem ServerAtRest.inHands_nil {s : ServerSteps} {c : String} (h : ServerAtRest s c) :
    inHands s c = [] := by
  have hcalls : s.calls.filterMap (callHolds c) = [] := by
    refine List.filterMap_eq_nil_iff.mpr fun pc hpc => ?_
    have hsettled := List.all_eq_true.mp h.idle pc hpc
    cases pc <;> first | rfl | cases hsettled
  rw [inHands, hcalls, h.pump]
  rfl

/--
**A server at rest has settled every request of the client.** In every run in which no
step loses a request (`lossless`) and clients connect anew only when their old
connection has left nothing behind (`nothingLeft`), and in every state at rest for a
client, the ids accepted for it are those handed to the response or error handler or
reported to the cancel handler, each as often as it was accepted.
-/
theorem server_at_rest_settled
    (h : ReachableWhile (recordedAccounts n timeout)
      (fun t a => lossless t.state a = true ∧ nothingLeft t.state a = true) t)
    {c : String} (hrest : ServerAtRest t.state c) :
    (acceptedIn t.log c).Perm (handedIn t.log c ++ canceledIds t.state c) := by
  have hacc : Accounted t c := (accounted_reachable (h.mono fun _ _ => And.left)).2 c
  have hrun := @ReachableWhile.of_recording _ _ _
    (fun s a => lossless s a = true ∧ nothingLeft s a = true) _ _ _ h
  have hwoken : Woken t.state := woken_reachable (hrun.mono fun _ _ => And.right)
  have hqueued : queuedIds t.state c = [] := by
    rw [queuedIds, hwoken.contents_nil hrest.pump hrest.idle hrest.requestChannel
      hrest.readyForDispatch hrest.free]
    rfl
  rw [Accounted, hqueued, hrest.inHands_nil, List.append_nil, List.nil_append] at hacc
  exact hacc

end Server

/-- The pump takes a ready token and finds the queue empty. -/
def passingReady (c : String) : List ServerSteps.Action :=
  [.pump none, .select (.ready c), .pump none, .pump none]

set_option maxRecDepth 1000 in
/--
Two clients. Of the two requests of "a" the first is answered and the second times out,
and that of "b" cannot be written. Then "a" disconnects, and connects anew.
-/
theorem two_clients_settled :
    ∃ t, ReachableWhile (recordedAccounts 0 30)
        (fun t a => lossless t.state a = true ∧ nothingLeft t.state a = true) t
      ∧ ServerAtRest t.state "a" ∧ ServerAtRest t.state "b"
      ∧ acceptedIn t.log "a" = ["1", "2"] ∧ handedIn t.log "a" = ["1"]
      ∧ canceledIds t.state "a" = ["2"]
      ∧ acceptedIn t.log "b" = ["3"] ∧ canceledIds t.state "b" = ["3"]
      ∧ (acceptedIn t.log "a").Perm (handedIn t.log "a" ++ canceledIds t.state "a")
      ∧ (acceptedIn t.log "b").Perm (handedIn t.log "b" ++ canceledIds t.state "b") := by
  have hrun : ∃ t, (recordedAccounts 0 30).runWhile
      (fun t a => lossless t.state a && nothingLeft t.state a) ⟨ServerSteps.start 0 30, []⟩
      ([.createClient "a", .createClient "b"] ++ ServerSteps.sending 0 "a" "1"
        ++ ServerSteps.sending 1 "a" "2" ++ ServerSteps.sending 2 "b" "3"
        ++ ServerSteps.dispatching "a" ++ [.pump none]
        ++ ServerSteps.answering 4 "a" "1" ++ [.call 4]
        ++ [.pump none, .select (.ready "a")] ++ List.replicate 6 (.pump none)
        ++ ServerSteps.passingOver "a"
        ++ ServerSteps.dispatching "b" ++ List.replicate 7 (.pump (some "broken pipe"))
        ++ passingReady "b" ++ [.call 5, .call 5] ++ ServerSteps.timingOut "a"
        ++ passingReady "a" ++ ServerSteps.disconnecting 6 "a"
        ++ [.pump none, .select (.request "a"), .pump none, .pump none, .createClient "a"])
        = some t
      ∧ (t.state.pump = .select ∧ t.state.calls.all callSettled = true
        ∧ t.state.requestChannel = [] ∧ t.state.readyForDispatch = [])
      ∧ (t.state.pendingRequestState.hasPendingRequest "a" = false
        ∧ t.state.pendingRequestState.hasPendingRequest "b" = false)
      ∧ acceptedIn t.log "a" = ["1", "2"] ∧ handedIn t.log "a" = ["1"]
      ∧ canceledIds t.state "a" = ["2"]
      ∧ acceptedIn t.log "b" = ["3"] ∧ canceledIds t.state "b" = ["3"] :=
    ⟨_, rfl, ⟨rfl, rfl, rfl, rfl⟩, ⟨rfl, rfl⟩, rfl, rfl, rfl, rfl, rfl⟩
  obtain ⟨t, ht, ⟨hpump, hidle, hrequest, hready⟩, ⟨hfree, hfree'⟩, h₁, h₂, h₃, h₄, h₅⟩ := hrun
  have hinit : ReachableWhile (recordedAccounts 0 30)
      (fun t a => lossless t.state a = true ∧ nothingLeft t.state a = true)
      ⟨ServerSteps.start 0 30, []⟩ := .init ⟨rfl, rfl⟩
  have hr := hinit.runWhile (fun _ _ hc => Bool.and_eq_true_iff.mp hc) _ ht
  have hrest : ∀ c, t.state.pendingRequestState.hasPendingRequest c = false →
      ServerAtRest t.state c := fun c hc =>
    ⟨hpump, hidle, by rw [hrequest]; simp, by rw [hready]; simp, hc⟩
  exact ⟨t, hr, hrest "a" hfree, hrest "b" hfree', h₁, h₂, h₃, h₄, h₅,
    server_at_rest_settled hr (hrest "a" hfree), server_at_rest_settled hr (hrest "b" hfree')⟩

end OcppGo.Proof
