import OcppGo.ChargePoint
import OcppGo.Proof.ClientOutcomes
import OcppGo.Lib.Lists

/-!
# Whose callback gets the outcome

Callbacks queue up in the order requests are accepted, and requests leave their
queue in that order too. The outcomes do not travel in that order: a response
goes through one channel and from the reader, a cancellation through the other
and from the pump, and the reader lets the pump go on to the next request before
it hands over its response. A write failure right after a response overtakes it.

The lockstep of callbacks and accepted requests itself is sound, whatever the
goroutines do: `TryQueue` holds its mutex from the append to the return of
`SendRequest`. What is left is who is ahead on the way of the outcomes. Reader and
pump settle one request at a time, so the pump's is the last; and an outcome is
taken only while the other channel is empty and, if it is a cancellation, while
the reader has none in its hands. Then every callback gets its own.
-/

namespace OcppGo.Proof

open OcppGo.Lib OcppGo.Ocppj OcppGo.ChargePoint

/-- The ids of everything `SendRequest` ever accepted, in order. -/
def acceptedIds (c : ClientSteps) : List String := (acceptedRequests c).map Posted.id

/-- Where the client's `SendRequest` of the request `rid` can stand. -/
inductive SendingCall (rid : String) : CallPC → Prop where
  | push (req : RequestBundle) : req.call.uniqueId = rid → SendingCall rid (.push req)
  | signal : SendingCall rid .signal
  | returned : SendingCall rid .returned
  | refused : SendingCall rid .refused

/-- The callback queued ahead of its request, or for a request that was refused. -/
def standing (rid : String) : CallPC → List String
  | .push _ => [rid]
  | .refused => [rid]
  | _ => []

/-! ## The client's part -/

section Client

variable {c c' : ClientSteps} {a : ClientSteps.Action}

/-- Nothing but a call of `SendRequest` brings a request to the queue. -/
theorem Move.push_at (h : Move c a c') {t : Nat} {req : RequestBundle}
    (ht : c'.callers[t]? = some (.push req)) (ha : ∀ req, a ≠ .call (.sendRequest req)) :
    c.callers[t]? = some (.push req) := by
  rcases h.caller_at ht with ht | ⟨op, rfl, he⟩ | ⟨pc, _, hnext⟩
  · exact ht
  · cases op with
    | sendRequest req' => exact absurd rfl (ha req')
    | completeRequest id => cases he
    | pause => cases he
    | resume => cases he
  · -- a call that moves does not come to its `Push`
    generalize hpc' : CallPC.push req = pc' at hnext
    cases hnext with
    | onward hon =>
        subst hpc'
        exact absurd (bystander_of_onward hon) (by simp [bystander])
    | push req' => cases hpc'
    | completes id k r => cases r <;> cases hpc'
    | resumeTest => cases hpc'
    | resumeReady => cases hpc'

/-- The sending call stays where it is, and nothing is accepted. -/
theorem SendingCall.stays {t : Nat} {pc : CallPC} {rid : String} (hs : SendingCall rid pc)
    (ht : c'.callers[t]? = some pc) (hacc : acceptedRequests c' = acceptedRequests c) :
    ∃ pc', c'.callers[t]? = some pc' ∧ SendingCall rid pc'
      ∧ acceptedIds c' ++ standing rid pc' = acceptedIds c ++ standing rid pc :=
  ⟨pc, ht, hs, by rw [acceptedIds, hacc, acceptedIds]⟩

/-- **A queued callback and its request stay in step.** -/
theorem Move.send_progress (h : Move c a c') {t : Nat} {pc : CallPC} {rid : String}
    (ht : c.callers[t]? = some pc) (hs : SendingCall rid pc)
    (honly : ∀ t' req, c.callers[t']? = some (.push req) → t' = t) :
    ∃ pc', c'.callers[t]? = some pc' ∧ SendingCall rid pc'
      ∧ acceptedIds c' ++ standing rid pc' = acceptedIds c ++ standing rid pc := by
  -- another call moves
  have hset : ∀ {t' : Nat} {pc₁ : CallPC}, t' ≠ t → (c.callers.set t' pc₁)[t]? = some pc := by
    intro t' pc₁ hne
    rw [List.getElem?_set_ne hne]
    exact ht
  have hne : ∀ {t' : Nat} {pc₁ : CallPC}, c.callers[t']? = some pc₁ → ¬ SendingCall rid pc₁ →
      t' ≠ t := by
    rintro t' pc₁ ht' hnot rfl
    rw [ht] at ht'
    cases ht'
    exact hnot hs
  -- the call itself moves to `pc'`
  have hself : ∀ {pc' : CallPC}, (c.callers.set t pc')[t]? = some pc' := by
    intro pc'
    rw [List.getElem?_set_self', ht]
    rfl
  cases h with
  | failed _ _ _ _ _ _ _ hc => exact hs.stays (by rw [← ht, ← hc.callers]) hc.acceptedRequests
  | timedOut _ _ _ _ _ _ hc => exact hs.stays (by rw [← ht, ← hc.callers]) hc.acceptedRequests
  | reader _ _ _ _ _ _ hc => exact hs.stays (by rw [← ht, ← hc.callers]) hc.acceptedRequests
  | call op =>
      have hlt : t < c.callers.length := (List.getElem?_eq_some_iff.mp ht).1
      refine hs.stays ?_ rfl
      rw [ClientSteps.call, List.getElem?_append_left hlt]
      exact ht
  | caller t' pc₀ pc₁ _ _ _ ht' hon =>
      by_cases htt : t' = t
      · subst htt
        rw [ht] at ht'
        cases ht'
        refine ⟨pc₁, hself, ?_⟩
        cases hs with
        | push req hid =>
            cases pc₁ <;> first | exact ⟨.refused, rfl⟩ | exact absurd hon (by simp [onward])
        | signal =>
            cases pc₁ <;> first | exact ⟨.returned, rfl⟩ | exact absurd hon (by simp [onward])
        | returned => exact absurd hon (by simp [onward])
        | refused => exact absurd hon (by simp [onward])
      · exact hs.stays (hset htt) rfl
  | push t' req q ht' hq =>
      have htt := honly t' req ht'
      subst htt
      rw [ht] at ht'
      cases ht'
      cases hs with
      | push _ hid =>
          refine ⟨.signal, hself, .signal, ?_⟩
          show (c.popped ++ q.elements).map Posted.id ++ []
            = (c.popped ++ c.requestQueue.elements).map Posted.id ++ [rid]
          rw [hq, ← List.append_assoc, List.map_append, List.append_nil, ← hid]
          rfl
  | callerCompletes t' id c₀ s₁ r ht' hc =>
      refine hs.stays ?_ hc.acceptedRequests
      rw [hc.callers]
      exact hset (hne ht' (fun hs' => by cases hs'))
  | resumeTest t' ht' _ => exact hs.stays (hset (hne ht' (fun hs' => by cases hs'))) rfl
  | resumeReady t' ht' _ => exact hs.stays (hset (hne ht' (fun hs' => by cases hs'))) rfl
  | _ => exact hs.stays ht rfl

end Client

/-! ## The lockstep -/

/-- The callback of a `TryQueue` whose request is not accepted, or not yet. -/
def tentative (s : ChargePoint) : List String :=
  match s.trying with
  | none => []
  | some (t, rid) => (s.client.callers[t]?.map (standing rid)).getD []

structure Lockstep (s : ChargePoint) : Prop where
  /-- Callbacks stand in the order of the accepted requests, less those invoked. -/
  queued : s.callbacks.queued callbackKey
    = (acceptedIds s.client).drop s.invoked.length ++ tentative s
  /-- Each outcome received is delivered before the next. -/
  taken : s.taken = s.invoked.map Invocation.result ++ s.received.toList
  /-- They came in the order of the requests. -/
  inOrder : s.taken.map RequestOutcome.id <+: acceptedIds s.client
  /-- The mutex belongs to a `SendRequest` in progress. -/
  trying : ∀ t rid, s.trying = some (t, rid) →
    ∃ pc, s.client.callers[t]? = some pc ∧ SendingCall rid pc
  /-- And only that one can push. -/
  pushing : ∀ t req, s.client.callers[t]? = some (.push req) →
    s.trying = some (t, req.call.uniqueId)
  own : ∀ i ∈ s.invoked, i.callback = i.result.id

theorem lockstep_start (n : Nat) (timeout : Int) : Lockstep (ChargePoint.start n timeout) where
  queued := rfl
  taken := rfl
  inOrder := List.prefix_rfl
  trying := by intro t rid h; exact absurd h (by simp [ChargePoint.start])
  pushing := by intro t req h; exact absurd h (by simp [ChargePoint.start, ClientSteps.start])
  own := by intro i hi; exact absurd hi (by simp [ChargePoint.start])

/-- As many callbacks were invoked as requests were accepted, at most. -/
theorem Lockstep.invoked_le {s : ChargePoint} (h : Lockstep s) :
    s.invoked.length ≤ (acceptedIds s.client).length := by
  have hle := h.inOrder.length_le
  rw [h.taken] at hle
  simp only [List.length_map, List.length_append] at hle
  omega

/-- The outcome at hand belongs to the request that left the queue next. -/
def NextInLine (s : ChargePoint) (kind : Reply) : Prop :=
  ∀ r, s.channel kind = some r →
    (s.client.popped.map Posted.id)[s.taken.length]? = some r.id

/-- Nothing changed in the station but its client and the channels. -/
structure SameStation (s s' : ChargePoint) : Prop where
  callbacks : s'.callbacks = s.callbacks
  trying : s'.trying = s.trying
  received : s'.received = s.received
  taken : s'.taken = s.taken
  invoked : s'.invoked = s.invoked

/-- A step of the client is one of its moves, and no new `SendRequest`. -/
theorem clientStep_cases {s s' : ChargePoint} {a : ClientSteps.Action}
    (h : s.clientStep a = some s') :
    s.client.act a = some s'.client ∧ (∀ req, a ≠ .call (.sendRequest req))
      ∧ SameStation s s' := by
  -- a step that sends no outcome, and one that sends it to either channel
  have hplain : (s.client.act a).map (fun c => { s with client := c }) = some s' →
      s.client.act a = some s'.client ∧ SameStation s s' := by
    intro hs
    obtain ⟨c, hc, rfl⟩ := Option.map_eq_some_iff.mp hs
    exact ⟨hc, rfl, rfl, rfl, rfl, rfl⟩
  have herror : ∀ r, s.sendErrorOutcome r a = some s' →
      s.client.act a = some s'.client ∧ SameStation s s' := by
    intro r hs
    unfold ChargePoint.sendErrorOutcome at hs
    split at hs
    · exact absurd hs (by simp)
    · obtain ⟨c, hc, rfl⟩ := Option.map_eq_some_iff.mp hs
      exact ⟨hc, rfl, rfl, rfl, rfl, rfl⟩
  have hconfirm : ∀ r, s.sendConfirmation r a = some s' →
      s.client.act a = some s'.client ∧ SameStation s s' := by
    intro r hs
    unfold ChargePoint.sendConfirmation at hs
    split at hs
    · exact absurd hs (by simp)
    · obtain ⟨c, hc, rfl⟩ := Option.map_eq_some_iff.mp hs
      exact ⟨hc, rfl, rfl, rfl, rfl, rfl⟩
  suffices hgoal : (∀ req, a ≠ .call (.sendRequest req))
      ∧ s.client.act a = some s'.client ∧ SameStation s s' from
    ⟨hgoal.2.1, hgoal.1, hgoal.2.2⟩
  cases a with
  | call op =>
      cases op with
      | sendRequest req => exact absurd h (by simp [ChargePoint.clientStep])
      | completeRequest id => exact absurd h (by simp [ChargePoint.clientStep])
      | pause => exact ⟨by simp, hplain h⟩
      | resume => exact ⟨by simp, hplain h⟩
  | reader =>
      refine ⟨by simp, ?_⟩
      simp only [ChargePoint.clientStep] at h
      split at h
      · exact hconfirm _ h
      · exact herror _ h
      · exact hplain h
  | pump w =>
      refine ⟨by simp, ?_⟩
      simp only [ChargePoint.clientStep] at h
      split at h
      · exact herror _ h
      · exact herror _ h
      · exact hplain h
  | select sel => exact ⟨by simp, hplain h⟩
  | receive id kind => exact ⟨by simp, hplain h⟩
  | caller t => exact ⟨by simp, hplain h⟩
  | timerExpires => exact ⟨by simp, hplain h⟩

/-- The accepted ids, and the callback that stands in for the next one. -/
theorem client_step_queued {s s' : ChargePoint} {a : ClientSteps.Action} (h : Lockstep s)
    (hm : Move s.client a s'.client) (hs : SameStation s s') :
    acceptedIds s'.client ++ tentative s' = acceptedIds s.client ++ tentative s
      ∧ acceptedIds s.client <+: acceptedIds s'.client
      ∧ ∀ t rid, s'.trying = some (t, rid) →
        ∃ pc, s'.client.callers[t]? = some pc ∧ SendingCall rid pc := by
  have hgrow : acceptedIds s.client <+: acceptedIds s'.client := by
    rcases hm.acceptedRequests with heq | ⟨t, req, _, _, heq⟩
    · have hsame : acceptedIds s'.client = acceptedIds s.client := by
        rw [acceptedIds, heq, acceptedIds]
      exact hsame ▸ List.prefix_rfl
    · rw [acceptedIds, acceptedIds, heq, List.map_append]
      exact List.prefix_append _ _
  cases htry : s.trying with
  | none =>
      -- without the mutex nothing is pushed
      have hacc : acceptedIds s'.client = acceptedIds s.client := by
        rcases hm.acceptedRequests with heq | ⟨t, req, _, ht, _⟩
        · rw [acceptedIds, heq, acceptedIds]
        · rw [h.pushing t req ht] at htry
          exact absurd htry (by simp)
      have htry' : s'.trying = none := hs.trying.trans htry
      refine ⟨?_, hgrow, fun t rid ht => ?_⟩
      · rw [tentative, tentative, htry, htry', hacc]
      · rw [htry'] at ht
        exact absurd ht (by simp)
  | some x =>
      obtain ⟨t, rid⟩ := x
      obtain ⟨pc, hpc, hsend⟩ := h.trying t rid htry
      have htry' : s'.trying = some (t, rid) := hs.trying.trans htry
      -- the mutex admits one sender
      have honly : ∀ t' req, s.client.callers[t']? = some (.push req) → t' = t := by
        intro t' req ht'
        have := h.pushing t' req ht'
        rw [htry] at this
        cases this
        rfl
      obtain ⟨pc', hpc', hsend', heq⟩ := hm.send_progress hpc hsend honly
      refine ⟨?_, hgrow, fun t₁ rid₁ ht => ?_⟩
      · simpa [tentative, htry, htry', hpc, hpc'] using heq
      · rw [htry'] at ht
        cases ht
        exact ⟨pc', hpc', hsend'⟩

theorem lockstep_client {s s' : ChargePoint} {a : ClientSteps.Action} (h : Lockstep s)
    (hstep : s.clientStep a = some s') : Lockstep s' := by
  obtain ⟨hact, ha, hs⟩ := clientStep_cases hstep
  have hm := (act_move hact).2
  obtain ⟨heq, hgrow, htrying⟩ := client_step_queued h hm hs
  refine ⟨?_, ?_, ?_, htrying, ?_, ?_⟩
  · -- dropping the delivered ones commutes with appending at the end
    have hle := h.invoked_le
    have hle' := Nat.le_trans hle hgrow.length_le
    rw [hs.callbacks, hs.invoked, h.queued, ← List.drop_append_of_le_length hle, ← heq,
      List.drop_append_of_le_length hle']
  · rw [hs.taken, hs.invoked, hs.received]
    exact h.taken
  · rw [hs.taken]
    exact h.inOrder.trans hgrow
  · intro t req ht
    rw [hs.trying]
    exact h.pushing t req (hm.push_at ht ha)
  · rw [hs.invoked]
    exact h.own

theorem lockstep_trySend {cfg : PeerConfig} {s s' : ChargePoint} {async : Bool}
    {req : RequestBundle} {err : Option String} (h : Lockstep s)
    (hstep : s.trySend cfg async req err = some s') : Lockstep s' := by
  unfold ChargePoint.trySend at hstep
  split at hstep
  · cases hstep
    exact h
  · split at hstep
    · exact absurd hstep (by simp)
    · rename_i htry
      -- nothing else is about to push
      have hnone : ∀ (t : Nat) (req : RequestBundle),
          s.client.callers[t]? ≠ some (CallPC.push req) := by
        intro t req ht
        rw [h.pushing t req ht] at htry
        exact absurd htry (by simp)
      have hq := h.queued
      rw [tentative, htry, List.append_nil] at hq
      -- whichever way the client's `SendRequest` goes, one call was added
      obtain ⟨pc, hcallers, hacc, hsend, hstand, hpush⟩ :
          ∃ pc, s'.client.callers = s.client.callers ++ [pc]
            ∧ acceptedIds s'.client = acceptedIds s.client
            ∧ SendingCall req.call.uniqueId pc
            ∧ standing req.call.uniqueId pc = [req.call.uniqueId]
            ∧ ∀ req', pc = .push req' → req' = req := by
        cases hstep
        cases err with
        | none => exact ⟨.push req, rfl, rfl, .push req rfl, rfl, fun _ he => by cases he; rfl⟩
        | some text => exact ⟨.refused, rfl, rfl, .refused, rfl, fun _ he => by cases he⟩
      have hlast : s'.client.callers[s.client.callers.length]? = some pc := by
        rw [hcallers]
        simp
      cases hstep
      refine ⟨?_, h.taken, ?_, ?_, ?_, h.own⟩
      · rw [CallbackQueue.queued_append_self, hq, hacc]
        simp only [tentative, hlast, Option.map_some, Option.getD_some, hstand]
      · rw [hacc]
        exact h.inOrder
      · intro t rid ht
        cases ht
        exact ⟨pc, hlast, hsend⟩
      · intro t req' ht
        rw [hcallers] at ht
        rcases getElem?_snoc ht with ht | ⟨htl, hpc⟩
        · exact absurd ht (hnone t req')
        · rw [htl, hpush req' hpc.symm]

theorem lockstep_finishTry {s s' : ChargePoint} (h : Lockstep s)
    (hstep : s.finishTry = some s') : Lockstep s' := by
  unfold ChargePoint.finishTry at hstep
  split at hstep
  · exact absurd hstep (by simp)
  · rename_i t rid htry
    -- once its call is over, the holder of the mutex pushes nothing more
    have hnone : ∀ {pc : CallPC}, s.client.callers[t]? = some pc → (∀ req, pc ≠ .push req) →
        ∀ (t' : Nat) (req : RequestBundle), s.client.callers[t']? ≠ some (CallPC.push req) := by
      intro pc hpc hne t' req ht'
      have hown := h.pushing t' req ht'
      rw [htry] at hown
      cases hown
      rw [hpc] at ht'
      exact hne req (Option.some.inj ht')
    have hq := h.queued
    split at hstep
    · rename_i hpc
      cases hstep
      refine ⟨?_, h.taken, h.inOrder, ?_, ?_, h.own⟩
      · simpa [tentative, htry, hpc, standing] using hq
      · intro t' rid' ht'; exact absurd ht' (by simp)
      · intro t' req ht'; exact absurd ht' (hnone hpc (by simp) t' req)
    · rename_i hpc
      cases hstep
      refine ⟨?_, h.taken, h.inOrder, ?_, ?_, h.own⟩
      · rw [CallbackQueue.queued_removeLast_self, hq]
        simp [tentative, htry, hpc, standing]
      · intro t' rid' ht'; exact absurd ht' (by simp)
      · intro t' req ht'; exact absurd ht' (hnone hpc (by simp) t' req)
    · exact absurd hstep (by simp)

theorem lockstep_take {s s' : ChargePoint} {kind : Reply} (h : Lockstep s)
    (hok : NextInLine s kind) (hstep : s.take kind = some s') : Lockstep s' := by
  unfold ChargePoint.take at hstep
  split at hstep
  · rename_i r hnone hchan
    cases hstep
    have htaken := h.taken
    rw [hnone] at htaken
    refine ⟨h.queued, ?_, ?_, h.trying, h.pushing, h.own⟩
    · show s.taken ++ [r] = s.invoked.map Invocation.result ++ [r]
      rw [htaken]
      simp
    · show (s.taken ++ [r]).map RequestOutcome.id <+: acceptedIds s.client
      rw [List.map_append]
      refine prefix_snoc h.inOrder ?_
      have hpop := hok r hchan
      rw [List.length_map, acceptedIds, acceptedRequests, List.map_append,
        List.getElem?_append_left (List.getElem?_eq_some_iff.mp hpop).1]
      exact hpop
  · exact absurd hstep (by simp)

/-- **The next callback is the one of the outcome at hand.** -/
theorem Lockstep.next_callback {s : ChargePoint} {r : RequestOutcome} (h : Lockstep s)
    (hr : s.received = some r) (htry : s.trying = none) :
    s.callbacks.queued callbackKey
      = r.id :: (acceptedIds s.client).drop (s.invoked.length + 1) := by
  obtain ⟨rest, hrest⟩ := h.inOrder
  have htaken := h.taken
  rw [hr] at htaken
  rw [h.queued, tentative, htry, List.append_nil, ← hrest, htaken]
  simp [List.drop_append]

theorem lockstep_deliver {s s' : ChargePoint} (h : Lockstep s)
    (hstep : s.deliver = some s') : Lockstep s' := by
  unfold ChargePoint.deliver at hstep
  split at hstep
  · rename_i r hr htry
    have hnext := h.next_callback hr htry
    rw [CallbackQueue.dequeue_cons hnext] at hstep
    cases hstep
    have htaken := h.taken
    rw [hr] at htaken
    refine ⟨?_, ?_, h.inOrder, h.trying, h.pushing, ?_⟩
    · rw [CallbackQueue.queued_put_self]
      simp [tentative, htry]
    · rw [htaken]
      simp
    · intro i hi
      rcases List.mem_append.mp hi with hi | hi
      · exact h.own i hi
      · rw [List.mem_singleton.mp hi]
  · exact absurd hstep (by simp)

/-! ## Who is ahead -/

/-- The channel that is not this one. -/
def otherChannel (s : ChargePoint) : Reply → Option RequestOutcome
  | .response => s.errorHandler
  | .error => s.confirmationHandler

/--
Outcomes do not overtake.

* `asyncCallbackHandler` takes from a channel only while the other one is empty, and
  a cancellation only while the reader is not between its `Pop` and its send.
* Reader and pump settle requests one at a time, as for a single outcome, and ids
  are distinct and not empty.
-/
def Unhurried (s : ChargePoint) : Action → Prop
  | .trySend _ req _ => req.call.uniqueId ≠ ""
  | .client a => Undisturbed s.client a
  | .take kind => otherChannel s kind = none ∧
      ∀ r, s.channel kind = some r → r.outcome = .canceled → readerDue s.client.reader = []
  | .finishTry | .deliver => True

/-- The id of what is in a channel. -/
def slotId (o : Option RequestOutcome) : List String := o.toList.map RequestOutcome.id

/--
How the outcomes that were sent, and the reader's own, stand in line: the reader's is
the last of them, but for a cancellation that came after its `Pop`.
-/
def Standing (s : ChargePoint) (line : List String) : Prop :=
  line = slotId s.confirmationHandler ++ slotId s.errorHandler ++ readerDue s.client.reader
    ∨ line = slotId s.errorHandler ++ slotId s.confirmationHandler ++ readerDue s.client.reader
    ∨ (∀ r, s.errorHandler = some r → r.outcome = .canceled)
      ∧ line = slotId s.confirmationHandler ++ readerDue s.client.reader ++ slotId s.errorHandler

/-- What left the queue was taken or stands in line, with the pump's own at the end. -/
def InLine (s : ChargePoint) : Prop :=
  ∃ line, Standing s line ∧ s.client.popped.map Posted.id
    = s.taken.map RequestOutcome.id ++ (line ++ pumpDue s.client.pump)

/-- Past its `DeletePendingRequest` the pump has nothing pending: it marks no other meanwhile. -/
def Freed (c : ClientSteps) : Prop :=
  pumpDue c.pump ≠ [] → pumpSettling c.pump = false → c.pendingRequestState.requestID = ""

section Client

variable {c c' : ClientSteps} {a : ClientSteps.Action}

theorem freed_of_no_due (h : pumpDue c.pump = []) : Freed c := fun hdue => absurd h hdue

/-- The slot is emptied by others too, and filled by the pump alone. -/
theorem Freed.keep (h : Freed c) (hpump : c'.pump = c.pump)
    (hslot : c.pendingRequestState.requestID = "" → c'.pendingRequestState.requestID = "") :
    Freed c' := by
  intro hdue hsettling
  rw [hpump] at hdue hsettling
  exact hslot (h hdue hsettling)

theorem Freed.pumpCompletes {rid : String} {k : Completing} {c₁ : ClientSteps}
    {r : Option Completing} {pc : PumpPC} (h : Freed c) (hphase : Phase c)
    (hat : pumpAt c.pump = some (rid, k)) (hc : CompleteMove c rid k c₁ r)
    (hnext : ∀ k', r = some k' → pumpAt pc = some (rid, k')) :
    Freed { c₁ with pump := pc } := by
  cases hc with
  | mismatch hne =>
      obtain ⟨q, hm, hid, _⟩ := hphase.pump_head hat rfl
      exact absurd hid (hne q hm.head)
  | found p _ _ =>
      refine freed_of_no_due ?_
      rw [pumpDue_of_at (hnext .pop rfl)]
      rfl
  | pop =>
      intro _ hsettling
      rw [pumpSettling_of_at (hnext .delete rfl)] at hsettling
      exact absurd hsettling (by simp [settling])
  | delete =>
      obtain ⟨_, ⟨_, _, _, ho⟩ | ⟨_, hid, _⟩⟩ := hphase.of_pump hat rfl
      · exact absurd ho (by simp [owes])
      · exact fun _ _ => ClientState.deletePendingRequest_self hid
  | ready _ =>
      intro _ _
      refine h ?_ (pumpSettling_of_at hat)
      rw [pumpDue_of_at hat]
      simp [dueAt, owes]

theorem freed_step (h : Freed c) (hphase : Phase c)
    (hcalls : ∀ rid k, CallPC.completing rid k ∉ c.callers) (hm : Move c a c') : Freed c' := by
  cases hm with
  | idle _ pc timer n _ hi _ => exact freed_of_no_due (pumpDue_of_inert hi)
  | failed _ p text k c₁ r hpc hc =>
      refine h.pumpCompletes hphase (by rw [hpc]; rfl) hc ?_
      rintro k' rfl
      rfl
  | timedOut _ p k c₁ r hpc hc =>
      refine h.pumpCompletes hphase (by rw [hpc]; rfl) hc ?_
      rintro k' rfl
      rfl
  | reader rid kind k c₁ r hpc hc =>
      refine h.keep hc.pump fun hfree => ?_
      cases hc with
      | delete =>
          show (c.pendingRequestState.deletePendingRequest rid).requestID = ""
          rw [ClientState.deletePendingRequest_requestID, hfree]
          split <;> rfl
      | _ => exact hfree
  | callerCompletes t rid k c₁ r ht _ => exact absurd (List.mem_of_getElem? ht) (hcalls rid k)
  | accept rid kind _ _ _ => exact h.keep rfl id
  | handler rid kind _ => exact h.keep rfl id
  | call op => exact h.keep rfl id
  | caller t pc pc' timer n paused _ _ => exact h.keep rfl id
  | push t req q _ _ => exact h.keep rfl id
  | resumeTest t _ _ => exact h.keep rfl id
  | resumeReady t _ _ => exact h.keep rfl id
  | timerExpires timer => exact h.keep rfl id
  | discard rid kind => exact h
  | _ => exact freed_of_no_due rfl

/-- How a step that reports nothing moves the line: at most one request joins it at its end. -/
structure Joins (c c' : ClientSteps) (byReader byPump : List String) : Prop where
  popped : c'.popped.map Posted.id = c.popped.map Posted.id ++ (byReader ++ byPump)
  reader : readerDue c'.reader = readerDue c.reader ++ byReader
  pump : pumpDue c'.pump = pumpDue c.pump ++ byPump
  /-- The reader has one at a time, and the pump none meanwhile. -/
  alone : byReader = [] ∨ readerDue c.reader = [] ∧ pumpDue c.pump = []

theorem Joins.nobody (hp : c'.popped = c.popped) (hr : readerDue c'.reader = readerDue c.reader)
    (hd : pumpDue c'.pump = pumpDue c.pump) : Joins c c' [] [] :=
  ⟨by rw [hp]; simp, by rw [hr]; simp, by rw [hd]; simp, Or.inl rfl⟩

/-- The step does not hand an outcome over. -/
def HandsNothing (c : ClientSteps) : ClientSteps.Action → Prop
  | .reader => ∀ rid kind, c.reader ≠ .handler rid kind
  | .pump _ => (∀ p text, c.pump ≠ .reportFailed p text) ∧ ∀ p, c.pump ≠ .reportTimedOut p
  | _ => True

theorem joins_pumpCompletes {rid : String} {k : Completing} {c₁ : ClientSteps}
    {r : Option Completing} {pc : PumpPC} (hphase : Phase c)
    (hat : pumpAt c.pump = some (rid, k)) (hc : CompleteMove c rid k c₁ r)
    (hpc : pumpDue pc = dueAfter rid r) : ∃ new, Joins c { c₁ with pump := pc } [] new := by
  obtain ⟨new, hp, hd⟩ := hc.due fun ho => by
    obtain ⟨q, hmk, hid, _⟩ := hphase.pump_head hat ho
    exact ⟨q, hmk.head, hid⟩
  refine ⟨new, hp, by rw [hc.reader]; simp, ?_, Or.inl rfl⟩
  rw [pumpDue_of_at hat, ← hd]
  exact hpc

theorem joins_readerCompletes {rid : String} {kind : Reply} {k : Completing} {c₁ : ClientSteps}
    {r : Option Completing} (hphase : Phase c) (hfreed : Freed c)
    (hpc : c.reader = .completing rid kind k) (hc : CompleteMove c rid k c₁ r) :
    ∃ new, Joins c { c₁ with reader := readerAfter rid kind r } new [] := by
  obtain ⟨new, hp, hd⟩ := hc.due fun ho => by
    obtain ⟨q, hmk, hid, _⟩ := hphase.reader_head hpc ho
    exact ⟨q, hmk.head, hid⟩
  refine ⟨new, by rw [List.append_nil]; exact hp, ?_, by rw [hc.pump]; simp, ?_⟩
  · rw [hpc]
    exact (readerDue_after rid kind r).trans hd
  · cases howes : owes k with
    | true =>
        left
        cases hc <;> simp_all [dueAfter, dueAt, owes]
    | false =>
        -- a pump past its own `Pop` would have emptied the slot of the request that is popped
        obtain ⟨q, hmk, _, hsettling⟩ := hphase.reader_head hpc howes
        have hnone : pumpDue c.pump = [] := by
          by_contra hdue
          exact hmk.taken (hmk.id.symm.trans (hfreed hdue hsettling))
        exact Or.inr ⟨by rw [hpc]; simp [readerDue, dueAt, howes], hnone⟩

theorem Move.joins (hm : Move c a c') (hphase : Phase c) (hfreed : Freed c)
    (hcalls : ∀ rid k, CallPC.completing rid k ∉ c.callers) (hsilent : HandsNothing c a) :
    ∃ byReader byPump, Joins c c' byReader byPump := by
  have hnobody : ∀ {c' : ClientSteps}, c'.popped = c.popped →
      readerDue c'.reader = readerDue c.reader → pumpDue c'.pump = pumpDue c.pump →
      ∃ byReader byPump, Joins c c' byReader byPump := fun hp hr hd => ⟨[], [], .nobody hp hr hd⟩
  cases hm with
  | idle _ pc timer n hi hi' _ =>
      exact hnobody rfl rfl (by rw [pumpDue_of_inert hi]; exact pumpDue_of_inert hi')
  | takeReady hpc _ => exact hnobody rfl rfl (by rw [hpc]; rfl)
  | seesReady _ hpc _ => exact hnobody rfl rfl (by rw [hpc]; rfl)
  | seesRequest _ hpc _ => exact hnobody rfl rfl (by rw [hpc]; rfl)
  | crash _ hpc _ => exact hnobody rfl rfl (by rcases hpc with hpc | hpc <;> (rw [hpc]; rfl))
  | peek _ p hpc _ => exact hnobody rfl rfl (by rw [hpc]; rfl)
  | mark _ p hpc => exact hnobody rfl rfl (by rw [hpc]; rfl)
  | write p hpc => exact hnobody rfl rfl (by rw [hpc]; rfl)
  | writeFails text p hpc => exact hnobody rfl rfl (by rw [hpc]; rfl)
  | failed _ p text k c₁ r hpc hc =>
      exact ⟨[], joins_pumpCompletes hphase (by rw [hpc]; rfl) hc (by cases r <;> rfl)⟩
  | reportFailed _ p text hpc => exact absurd hpc (hsilent.1 p text)
  | seesPending _ hpc _ => exact hnobody rfl rfl (by rw [hpc]; rfl)
  | peekTimeout _ p hpc _ => exact hnobody rfl rfl (by rw [hpc]; rfl)
  | timedOut _ p k c₁ r hpc hc =>
      exact ⟨[], joins_pumpCompletes hphase (by rw [hpc]; rfl) hc (by cases r <;> rfl)⟩
  | reportTimedOut _ p hpc => exact absurd hpc (hsilent.2 p)
  | accept rid kind hidle _ _ => exact hnobody rfl (by rw [hidle]; rfl) rfl
  | reader rid kind k c₁ r hpc hc =>
      obtain ⟨new, hnew⟩ := joins_readerCompletes hphase hfreed hpc hc
      exact ⟨new, [], hnew⟩
  | handler rid kind hpc => exact absurd hpc (hsilent rid kind)
  | callerCompletes t rid k c₁ r ht _ => exact absurd (List.mem_of_getElem? ht) (hcalls rid k)
  | _ => exact hnobody rfl rfl rfl

end Client

/-! ## The line -/

section Line

variable {s s' : ChargePoint}

/-- What a step of the client does to the channels. -/
inductive Sends (s s' : ChargePoint) : ClientSteps.Action → Prop where
  | nothing {a : ClientSteps.Action} : HandsNothing s.client a →
      s'.confirmationHandler = s.confirmationHandler → s'.errorHandler = s.errorHandler →
      Sends s s' a
  | response (id : String) : s.client.reader = .handler id .response →
      s.confirmationHandler = none →
      s'.confirmationHandler = some ⟨id, .reply .response⟩ → s'.errorHandler = s.errorHandler →
      Sends s s' .reader
  | error (id : String) : s.client.reader = .handler id .error → s.errorHandler = none →
      s'.confirmationHandler = s.confirmationHandler →
      s'.errorHandler = some ⟨id, .reply .error⟩ → Sends s s' .reader
  | canceled (w : Option String) (p : Posted) :
      (∃ text, s.client.pump = .reportFailed p text) ∨ s.client.pump = .reportTimedOut p →
      s.errorHandler = none → s'.confirmationHandler = s.confirmationHandler →
      s'.errorHandler = some ⟨p.id, .canceled⟩ → Sends s s' (.pump w)

theorem clientStep_sends {a : ClientSteps.Action} (h : s.clientStep a = some s') :
    Sends s s' a := by
  have hplain : (s.client.act a).map (fun c => { s with client := c }) = some s' →
      HandsNothing s.client a → Sends s s' a := by
    intro hs hnothing
    obtain ⟨c, _, rfl⟩ := Option.map_eq_some_iff.mp hs
    exact .nothing hnothing rfl rfl
  have herror : ∀ r, s.sendErrorOutcome r a = some s' → s.errorHandler = none
      ∧ s'.confirmationHandler = s.confirmationHandler ∧ s'.errorHandler = some r := by
    intro r hs
    unfold ChargePoint.sendErrorOutcome at hs
    split at hs
    · exact absurd hs (by simp)
    · rename_i hnone
      obtain ⟨c, _, rfl⟩ := Option.map_eq_some_iff.mp hs
      exact ⟨hnone, rfl, rfl⟩
  cases a with
  | call op =>
      cases op with
      | sendRequest req => exact absurd h (by simp [ChargePoint.clientStep])
      | completeRequest id => exact absurd h (by simp [ChargePoint.clientStep])
      | pause => exact hplain h trivial
      | resume => exact hplain h trivial
  | reader =>
      simp only [ChargePoint.clientStep] at h
      split at h
      · rename_i id hpc
        unfold ChargePoint.sendConfirmation at h
        split at h
        · exact absurd h (by simp)
        · rename_i hnone
          obtain ⟨c, _, rfl⟩ := Option.map_eq_some_iff.mp h
          exact .response id hpc hnone rfl rfl
      · rename_i id hpc
        obtain ⟨hnone, hconf, herr⟩ := herror _ h
        exact .error id hpc hnone hconf herr
      · rename_i hresponse herror'
        refine hplain h fun id kind => ?_
        cases kind with
        | response => exact hresponse id
        | error => exact herror' id
  | pump w =>
      simp only [ChargePoint.clientStep] at h
      split at h
      · rename_i p text hpc
        obtain ⟨hnone, hconf, herr⟩ := herror _ h
        exact .canceled w p (Or.inl ⟨text, hpc⟩) hnone hconf herr
      · rename_i p hpc
        obtain ⟨hnone, hconf, herr⟩ := herror _ h
        exact .canceled w p (Or.inr hpc) hnone hconf herr
      · rename_i hfailed htimedOut
        exact hplain h ⟨hfailed, htimedOut⟩
  | select sel => exact hplain h trivial
  | receive id kind => exact hplain h trivial
  | caller t => exact hplain h trivial
  | timerExpires => exact hplain h trivial

/-- The line does not depend on anything else. -/
theorem InLine.frame (h : InLine s) (hpopped : s'.client.popped = s.client.popped)
    (hreader : s'.client.reader = s.client.reader) (hpump : s'.client.pump = s.client.pump)
    (hconf : s'.confirmationHandler = s.confirmationHandler)
    (herr : s'.errorHandler = s.errorHandler) (htaken : s'.taken = s.taken) : InLine s' := by
  unfold InLine Standing at h ⊢
  rwa [hpopped, hreader, hpump, hconf, herr, htaken]

/-- A request joins at the end, behind the pump's only if it is the pump's. -/
theorem InLine.joins {byReader byPump : List String} (h : InLine s)
    (hj : Joins s.client s'.client byReader byPump)
    (hconf : s'.confirmationHandler = s.confirmationHandler)
    (herr : s'.errorHandler = s.errorHandler) (htaken : s'.taken = s.taken) : InLine s' := by
  obtain ⟨line, hline, heq⟩ := h
  refine ⟨line ++ byReader, ?_, ?_⟩
  · unfold Standing at hline ⊢
    rw [hconf, herr, hj.reader]
    rcases hj.alone with rfl | ⟨hnone, _⟩
    · simpa using hline
    · rw [hnone] at hline ⊢
      rcases hline with rfl | rfl | ⟨hcanceled, rfl⟩
      · exact Or.inl (by simp)
      · exact Or.inr (Or.inl (by simp))
      · exact Or.inl (by simp)
  · rw [hj.popped, heq, htaken, hj.pump]
    rcases hj.alone with rfl | ⟨_, hnone⟩
    · simp
    · rw [hnone]
      simp

/-- The reader hands its outcome over. -/
theorem InLine.readerSends {id : String} {kind : Reply} (h : InLine s)
    (hreader : s.client.reader = .handler id kind) (hreader' : s'.client.reader = .idle)
    (hpopped : s'.client.popped = s.client.popped) (hpump : s'.client.pump = s.client.pump)
    (htaken : s'.taken = s.taken)
    (hchannels : (s.confirmationHandler = none ∧ slotId s'.confirmationHandler = [id]
        ∧ s'.errorHandler = s.errorHandler)
      ∨ (s.errorHandler = none ∧ slotId s'.errorHandler = [id]
        ∧ s'.confirmationHandler = s.confirmationHandler)) : InLine s' := by
  obtain ⟨line, hline, heq⟩ := h
  refine ⟨line, ?_, by rw [hpopped, heq, htaken, hpump]⟩
  unfold Standing at hline ⊢
  rw [hreader] at hline
  rw [hreader']
  rcases hchannels with ⟨hnone, hslot, herr⟩ | ⟨hnone, hslot, hconf⟩
  · rw [hslot, herr]
    rw [hnone] at hline
    rcases hline with rfl | rfl | ⟨_, rfl⟩
    · exact Or.inr (Or.inl (by simp [slotId, readerDue]))
    · exact Or.inr (Or.inl (by simp [slotId, readerDue]))
    · exact Or.inl (by simp [slotId, readerDue])
  · rw [hslot, hconf]
    rw [hnone] at hline
    rcases hline with rfl | rfl | ⟨_, rfl⟩
    · exact Or.inl (by simp [slotId, readerDue])
    · exact Or.inl (by simp [slotId, readerDue])
    · exact Or.inl (by simp [slotId, readerDue])

/-- The pump hands its cancellation over, behind whatever the reader has. -/
theorem InLine.pumpSends {p : Posted} (h : InLine s) (hdue : pumpDue s.client.pump = [p.id])
    (hdue' : pumpDue s'.client.pump = []) (hreader : s'.client.reader = s.client.reader)
    (hpopped : s'.client.popped = s.client.popped) (htaken : s'.taken = s.taken)
    (hnone : s.errorHandler = none) (hconf : s'.confirmationHandler = s.confirmationHandler)
    (herr : s'.errorHandler = some ⟨p.id, .canceled⟩) : InLine s' := by
  obtain ⟨line, hline, heq⟩ := h
  refine ⟨line ++ [p.id], Or.inr (Or.inr ⟨?_, ?_⟩), ?_⟩
  · rw [herr]
    rintro r ⟨⟩
    rfl
  · unfold Standing at hline
    rw [hnone] at hline
    rw [hconf, hreader, herr]
    rcases hline with rfl | rfl | ⟨_, rfl⟩
    · simp [slotId]
    · simp [slotId]
    · simp [slotId]
  · rw [hpopped, heq, htaken, hdue, hdue']
    simp

theorem inLine_client {a : ClientSteps.Action} (h : InLine s) (hphase : Phase s.client)
    (hfreed : Freed s.client) (hcalls : ∀ rid k, CallPC.completing rid k ∉ s.client.callers)
    (hstep : s.clientStep a = some s') : InLine s' := by
  obtain ⟨hact, _, hsame⟩ := clientStep_cases hstep
  obtain ⟨halive, hm⟩ := act_move hact
  cases clientStep_sends hstep with
  | nothing hnothing hconf herr =>
      obtain ⟨byReader, byPump, hj⟩ := hm.joins hphase hfreed hcalls hnothing
      exact h.joins hj hconf herr hsame.taken
  | response id hpc hnone hconf herr =>
      rw [act_reader halive, ClientSteps.readerStep, hpc, Option.some.injEq] at hact
      exact h.readerSends hpc (by rw [← hact]) (by rw [← hact]) (by rw [← hact]) hsame.taken
        (Or.inl ⟨hnone, by rw [hconf]; rfl, herr⟩)
  | error id hpc hnone hconf herr =>
      rw [act_reader halive, ClientSteps.readerStep, hpc, Option.some.injEq] at hact
      exact h.readerSends hpc (by rw [← hact]) (by rw [← hact]) (by rw [← hact]) hsame.taken
        (Or.inr ⟨hnone, by rw [herr]; rfl, hconf⟩)
  | canceled w p hpc hnone hconf herr =>
      rw [act_pump halive, ClientSteps.pumpStep] at hact
      rcases hpc with ⟨text, hpc⟩ | hpc
      · rw [hpc, Option.some.injEq] at hact
        exact h.pumpSends (by rw [hpc]; rfl) (by rw [← hact]; rfl) (by rw [← hact])
          (by rw [← hact]) hsame.taken hnone hconf herr
      · rw [hpc, Option.some.injEq] at hact
        exact h.pumpSends (by rw [hpc]; rfl) (by rw [← hact]; rfl) (by rw [← hact])
          (by rw [← hact]) hsame.taken hnone hconf herr

/-- What may be taken is first in line. -/
theorem InLine.nextInLine {kind : Reply} (h : InLine s) (hok : Unhurried s (.take kind)) :
    NextInLine s kind ∧ ∀ s', s.take kind = some s' → InLine s' := by
  obtain ⟨line, hline, heq⟩ := h
  obtain ⟨hother, hcanceled⟩ := hok
  -- the line with one channel empty
  have hfirst : ∀ r, s.channel kind = some r →
      line = r.id :: readerDue s.client.reader := by
    intro r hr
    have hreply : r.outcome ≠ .canceled ∨ readerDue s.client.reader = [] :=
      or_iff_not_imp_left.mpr fun hc => hcanceled r hr (not_not.mp hc)
    cases kind with
    | response =>
        have herr : s.errorHandler = none := hother
        have hconf : s.confirmationHandler = some r := hr
        unfold Standing at hline
        rw [herr, hconf] at hline
        rcases hline with rfl | rfl | ⟨_, rfl⟩ <;> simp [slotId]
    | error =>
        have hconf : s.confirmationHandler = none := hother
        have herr : s.errorHandler = some r := hr
        unfold Standing at hline
        rw [herr, hconf] at hline
        rcases hline with rfl | rfl | ⟨hall, rfl⟩
        · simp [slotId]
        · simp [slotId]
        · rw [hreply.resolve_left fun hne => hne (hall r rfl)]
          simp [slotId]
  refine ⟨fun r hr => ?_, fun s' hstep => ?_⟩
  · rw [heq, hfirst r hr]
    simp
  · unfold ChargePoint.take at hstep
    split at hstep
    · rename_i r _ hr
      cases hstep
      refine ⟨readerDue s.client.reader, ?_, ?_⟩
      · cases kind with
        | response =>
            have herr : s.errorHandler = none := hother
            exact Or.inl (by simp [slotId, herr])
        | error =>
            have hconf : s.confirmationHandler = none := hother
            exact Or.inl (by simp [slotId, hconf])
      · show s.client.popped.map Posted.id = _
        rw [heq, hfirst r hr]
        simp
    · exact absurd hstep (by simp)

end Line

/-! ## Everything together -/

/-- What holds in a run that is not hurried. -/
structure Attended (s : ChargePoint) : Prop where
  lockstep : Lockstep s
  ids : UsableIds s.client
  calls : ∀ rid k, CallPC.completing rid k ∉ s.client.callers
  phase : s.client.pump ≠ .crashed → Phase s.client
  freed : Freed s.client
  line : InLine s

theorem attended_start (n : Nat) (timeout : Int) : Attended (ChargePoint.start n timeout) where
  lockstep := lockstep_start n timeout
  ids := usableIds_start n timeout
  calls := by simp [ChargePoint.start, ClientSteps.start]
  phase := fun _ => .free rfl rfl rfl
  freed := freed_of_no_due rfl
  line := ⟨[], Or.inl rfl, rfl⟩

section

variable {cfg : PeerConfig} {s s' : ChargePoint}

/-- A call was added to the client, at most. -/
theorem Attended.callAdded (h : Attended s) (hlock : Lockstep s') {new : List CallPC}
    (hclient : s'.client = { s.client with callers := s.client.callers ++ new })
    (hpush : ∀ req, CallPC.push req ∈ new → req.call.uniqueId ≠ "")
    (hnew : ∀ rid k, CallPC.completing rid k ∉ new)
    (hconf : s'.confirmationHandler = s.confirmationHandler)
    (herr : s'.errorHandler = s.errorHandler) (htaken : s'.taken = s.taken) : Attended s' := by
  refine ⟨hlock, ⟨?_, ?_, ?_⟩, ?_, ?_, ?_, h.line.frame ?_ ?_ ?_ hconf herr htaken⟩
  · rw [hclient]
    exact h.ids.queue
  · rw [hclient]
    exact h.ids.held
  · rw [hclient]
    intro req hreq
    rcases List.mem_append.mp hreq with hreq | hreq
    · exact h.ids.callers req hreq
    · exact hpush req hreq
  · rw [hclient]
    intro rid k hmem
    rcases List.mem_append.mp hmem with hmem | hmem
    · exact h.calls rid k hmem
    · exact hnew rid k hmem
  · rw [hclient]
    intro halive
    exact (h.phase halive).othersMove (fun _ hq => hq) rfl rfl (Or.inl rfl) rfl
  · rw [hclient]
    exact h.freed.keep rfl id
  · rw [hclient]
  · rw [hclient]
  · rw [hclient]

theorem attended_trySend {async : Bool} {req : RequestBundle} {err : Option String}
    (h : Attended s) (hid : req.call.uniqueId ≠ "")
    (hstep : s.trySend cfg async req err = some s') : Attended s' := by
  have hlock := lockstep_trySend h.lockstep hstep
  unfold ChargePoint.trySend at hstep
  split at hstep
  · cases hstep
    exact h
  · split at hstep
    · exact absurd hstep (by simp)
    · cases hstep
      cases err with
      | none =>
          refine @Attended.callAdded s _ h hlock [.push req] rfl ?_ (by simp) rfl rfl rfl
          intro req' hmem
          cases List.mem_singleton.mp hmem
          exact hid
      | some text =>
          exact @Attended.callAdded s _ h hlock [.refused] rfl (by simp) (by simp) rfl rfl rfl

theorem attended_client {a : ClientSteps.Action} (h : Attended s)
    (hok : Undisturbed s.client a) (hstep : s.clientStep a = some s') : Attended s' := by
  obtain ⟨hact, ha, _⟩ := clientStep_cases hstep
  obtain ⟨halive, hm⟩ := act_move hact
  have hphase := h.phase halive
  have hno : ∀ rid, a ≠ .call (.completeRequest rid) := by
    rintro rid rfl
    exact hok
  exact ⟨lockstep_client h.lockstep hstep, usableIds_step h.ids hok.ids hm,
    calls_step h.calls hno hm, phase_step hphase h.calls h.ids hok hm,
    freed_step h.freed hphase h.calls hm, inLine_client h.line hphase h.freed h.calls hstep⟩

theorem attended_step {a : Action} (h : Attended s) (hok : Unhurried s a)
    (hact : s.act cfg a = some s') : Attended s' := by
  cases a with
  | trySend async req err => exact attended_trySend h hok hact
  | client a => exact attended_client h hok hact
  | take kind =>
      obtain ⟨hnext, hline⟩ := h.line.nextInLine hok
      have hlock := lockstep_take h.lockstep hnext hact
      have hclient : s'.client = s.client := by
        simp only [ChargePoint.act, ChargePoint.take] at hact
        split at hact
        · cases hact
          rfl
        · exact absurd hact (by simp)
      exact ⟨hlock, hclient ▸ h.ids, hclient ▸ h.calls, hclient ▸ h.phase, hclient ▸ h.freed,
        hline _ hact⟩
  | finishTry =>
      have hlock := lockstep_finishTry h.lockstep hact
      simp only [ChargePoint.act, ChargePoint.finishTry] at hact
      split at hact
      · exact absurd hact (by simp)
      · split at hact
        · cases hact
          exact { h with lockstep := hlock }
        · cases hact
          exact { h with lockstep := hlock }
        · exact absurd hact (by simp)
  | deliver =>
      have hlock := lockstep_deliver h.lockstep hact
      simp only [ChargePoint.act, ChargePoint.deliver] at hact
      split at hact
      · split at hact
        · cases hact
          exact { h with lockstep := hlock }
        · cases hact
          exact { h with lockstep := hlock }
      · exact absurd hact (by simp)

end

/--
**Every outcome reaches the callback of its own request**, in every run in which
reader and pump settle one request at a time and outcomes are taken one at a time. It
holds for either kind of station, at any other interleaving of pump, reader, senders
and `asyncCallbackHandler`.
-/
theorem callback_of_own_request {cfg : PeerConfig} {n : Nat} {timeout : Int}
    {s : ChargePoint} (h : ReachableWhile (ChargePoint.machine cfg n timeout) Unhurried s) :
    ∀ i ∈ s.invoked, i.callback = i.result.id := by
  have hattended : Attended s := by
    refine ReachableWhile.invariant (P := Attended) ?_ ?_ h
    · intro s hs
      rw [show s = ChargePoint.start n timeout from hs]
      exact attended_start n timeout
    · exact fun s a s' _ hinv hok hact => attended_step hinv hok hact
  exact hattended.lockstep.own


instance (s : ClientSteps) (w : Option String) : ∀ pc, Decidable (PumpUndisturbed s w pc)
  | .addPending p => inferInstanceAs (Decidable (s.requestQueue.peek = some p))
  | .hasPending => inferInstanceAs (Decidable (readerSettling s.reader = false))
  | .write p => inferInstanceAs (Decidable (w ≠ none →
      readerSettling s.reader = false ∧ s.pendingRequestState.requestID = p.id))
  | .select | .isPaused | .isEmpty | .peek | .failed _ _ _ | .reportFailed _ _ | .stopTimer
  | .drainTimer | .resetTimer | .peekTimeout | .timedOut _ _ | .reportTimedOut _ | .resetTick
  | .crashed => .isTrue trivial

instance (s : ClientSteps) : ∀ pc, Decidable (CallUndisturbed s pc)
  | some (.push req) =>
      inferInstanceAs (Decidable (req.call.uniqueId ∉ (acceptedRequests s).map Posted.id))
  | none | some .returned | some .refused | some .signal | some (.completing _ _) | some .pauseStop
  | some .pauseDrain | some .pauseReset | some .pauseSet | some .resumeSet | some .resumeTest
  | some .resumeReset | some .resumeReady => .isTrue trivial

instance (s : ClientSteps) : ∀ a, Decidable (Undisturbed s a)
  | .pump w => inferInstanceAs (Decidable (PumpUndisturbed s w s.pump))
  | .receive id _ => inferInstanceAs
      (Decidable (s.pendingRequestState.requestID = id → pumpSettling s.pump = false))
  | .call (.sendRequest req) => inferInstanceAs (Decidable (req.call.uniqueId ≠ ""))
  | .call (.completeRequest _) => inferInstanceAs (Decidable False)
  | .caller t => inferInstanceAs (Decidable (CallUndisturbed s s.callers[t]?))
  | .select _ | .reader | .timerExpires | .call .pause | .call .resume => .isTrue trivial

instance (s : ChargePoint) : ∀ a, Decidable (Unhurried s a)
  | .trySend _ req _ => inferInstanceAs (Decidable (req.call.uniqueId ≠ ""))
  | .client a => inferInstanceAs (Decidable (Undisturbed s.client a))
  | .take kind => inferInstanceAs (Decidable (otherChannel s kind = none ∧
      ∀ r, s.channel kind = some r → r.outcome = .canceled → readerDue s.client.reader = []))
  | .finishTry | .deliver => .isTrue trivial

/-- One heartbeat is answered, and the write of the next one fails. -/
theorem heartbeat_callbacks :
    ∃ s, ReachableWhile (ChargePoint.machine (chargePointConfig (fun _ => true)) 0
          defaultMessageTimeout) Unhurried s
      ∧ s.invoked = [⟨"1", ⟨"1", .reply .response⟩⟩, ⟨"2", ⟨"2", .canceled⟩⟩]
      ∧ ∀ i ∈ s.invoked, i.callback = i.result.id := by
  have hrun : ∃ s, (ChargePoint.machine (chargePointConfig (fun _ => true)) 0
      defaultMessageTimeout).runWhile (fun s a => decide (Unhurried s a))
      (ChargePoint.start 0 defaultMessageTimeout)
      (ChargePoint.sending 0 "1"
        ++ (ClientSteps.dispatching .request ++ ClientSteps.answering "1").map .client
        ++ [.take .response, .deliver] ++ ChargePoint.sending 1 "2"
        ++ [ClientSteps.Action.select .ready, .pump none, .pump none, .pump none, .pump none,
            .pump (some "broken pipe"), .pump none, .pump none, .pump none, .pump none,
            .pump none].map .client
        ++ [.take .error, .deliver]) = some s
      ∧ s.invoked = [⟨"1", ⟨"1", .reply .response⟩⟩, ⟨"2", ⟨"2", .canceled⟩⟩] := ⟨_, rfl, rfl⟩
  obtain ⟨s, hs, hi⟩ := hrun
  have hr : ReachableWhile (ChargePoint.machine (chargePointConfig (fun _ => true)) 0
      defaultMessageTimeout) Unhurried s :=
    ReachableWhile.runWhile (fun _ _ hc => of_decide_eq_true hc) (.init rfl) _ hs
  exact ⟨s, hr, hi, callback_of_own_request hr⟩

/--
A write failure overtakes a response: the reader has completed `"1"` and is about
to hand its response over, the pump dispatches `"2"`, fails, and its cancellation
is taken first. The callback registered with `"1"` is told that `"2"` was canceled.
-/
theorem cancellation_overtakes_response :
    ∃ s, Reachable (ChargePoint.machine (chargePointConfig (fun _ => true)) 0
          defaultMessageTimeout) s
      ∧ s.invoked = [⟨"1", ⟨"2", .canceled⟩⟩]
      ∧ ¬ ∀ i ∈ s.invoked, i.callback = i.result.id := by
  have hrun : ∃ s, (ChargePoint.machine (chargePointConfig (fun _ => true)) 0
      defaultMessageTimeout).run (ChargePoint.start 0 defaultMessageTimeout)
      (ChargePoint.sending 0 "1"
        ++ (ClientSteps.dispatching .request).map .client ++ ChargePoint.sending 1 "2"
        ++ [ClientSteps.Action.receive "1" .response, .reader, .reader, .reader, .reader,
            .select .ready, .pump none, .pump none, .pump none, .pump none,
            .pump (some "broken pipe"), .pump none, .pump none, .pump none, .pump none,
            .pump none].map .client
        ++ [.take .error, .deliver]) = some s
      ∧ s.invoked = [⟨"1", ⟨"2", .canceled⟩⟩] := ⟨_, rfl, rfl⟩
  obtain ⟨s, hs, hi⟩ := hrun
  refine ⟨s, Reachable.run (.init rfl) _ hs, hi, fun hall => ?_⟩
  have := hall ⟨"1", ⟨"2", .canceled⟩⟩ (by rw [hi]; simp)
  exact absurd this (by decide)

end OcppGo.Proof
