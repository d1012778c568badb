import OcppGo.Proof.ServerBlocking
import OcppGo.Proof.ServerTokens

/-!
# Where the server's accepted requests go

A request leaves a queue by `CompleteRequest`. Whoever called it, a reader or the
pump, then has the request in its hands until it calls the response or error handler,
or the cancel handler. So an accepted request is queued, in somebody's hands, handed
to a handler, or reported as canceled.

`Transfer` says what a step can do to the requests of one client. Between these
places it moves one request at a time, provided that every `CompleteRequest` finds
its request, and that a client's queue is removed only when it is empty and nobody is
about to push onto it. `DeleteClient` does not look at the queue it removes.
-/

namespace OcppGo.Proof

open OcppGo.Lib OcppGo.Ocppj

/-! ## The record -/

inductive AccountEvent where
  /-- `SendRequest` pushed the request. -/
  | accepted (c id : String)
  /-- The response or error handler was called for it. -/
  | handed (c id : String)

def accountEvents (s : ServerSteps) (a : ServerSteps.Action) (s' : ServerSteps) :
    List AccountEvent :=
  match a with
  | .call t =>
      match s.calls[t]?, s'.calls[t]? with
      | some (.push _ _ req), some (.signal c) => [.accepted c req.call.uniqueId]
      | some (.handling c id), _ => [.handed c id]
      | _, _ => []
  | _ => []

/-- A started dispatcher, with the record. -/
def recordedAccounts (n : Nat) (timeout : Int) :
    Machine (Recorded ServerSteps AccountEvent) ServerSteps.Action :=
  (ServerSteps.machine n timeout).recording accountEvents

def AccountEvent.acceptedFor (c : String) : AccountEvent → Option String
  | .accepted c' id => if c' = c then some id else none
  | .handed _ _ => none

def AccountEvent.handedFor (c : String) : AccountEvent → Option String
  | .accepted _ _ => none
  | .handed c' id => if c' = c then some id else none

def acceptedIn (log : List AccountEvent) (c : String) : List String :=
  log.filterMap (AccountEvent.acceptedFor c)

def handedIn (log : List AccountEvent) (c : String) : List String :=
  log.filterMap (AccountEvent.handedFor c)

/-! ## The places of a request -/

def queuedIds (s : ServerSteps) (c : String) : List String :=
  (s.queueMap.contents c).map Posted.id

def Cancellation.reportedFor (c : String) (x : Cancellation) : Option String :=
  if x.clientID = c then some x.request.id else none

def canceledIds (s : ServerSteps) (c : String) : List String :=
  s.canceled.filterMap (Cancellation.reportedFor c)

/-- The request has left the queue, and its `CompleteRequest` is not through. -/
def popped : ServerCompleting → Bool
  | .delete | .ready => true
  | _ => false

/-- The request a reader has in its hands, between `Pop` and the call of the handler. -/
def callHolds (c : String) : ServerCall → Option String
  | .completing c' id k => if c' = c ∧ popped k = true then some id else none
  | .handling c' id => if c' = c then some id else none
  | _ => none

/-- The request the pump has in its hands, between `Pop` and the call of the cancel handler. -/
def pumpHolds (c : String) : ServerPumpPC → Option String
  | .timedOut c' p k | .failed c' p _ k => if c' = c ∧ popped k = true then some p.id else none
  | .reportTimedOut c' p | .reportFailed c' p _ => if c' = c then some p.id else none
  | _ => none

/-- Between the queue and the handlers. -/
def inHands (s : ServerSteps) (c : String) : List String :=
  s.calls.filterMap (callHolds c) ++ (pumpHolds c s.pump).toList

/-- **Every accepted request is in exactly one place.** -/
def Accounted (t : Recorded ServerSteps AccountEvent) (c : String) : Prop :=
  (acceptedIn t.log c).Perm
    (queuedIds t.state c ++ handedIn t.log c ++ canceledIds t.state c ++ inHands t.state c)

/-! ## The condition -/

/-- `CompleteRequest(c, id)` finds its queue, and its request at the head. -/
def findsRequest (s : ServerSteps) (c id : String) : ServerCompleting → Bool
  | .get => (s.queueMap.get c).isSome
  | .peek r => headID s r == some id
  | .pop r => s.queueMap.get c == some r && headID s r == some id
  | .delete | .ready => true

/-- A `SendRequest` for this client is between `Get` and `Push`. -/
def pushesFor (c : String) : ServerCall → Bool
  | .push c' _ _ => c' == c
  | _ => false

def pumpLossless (s : ServerSteps) : ServerPumpPC → Bool
  | .timedOut c p k | .failed c p _ k => findsRequest s c p.id k
  | _ => true

def callLossless (s : ServerSteps) : ServerCall → Bool
  | .completing c id k => findsRequest s c id k
  | .remove c => (s.queueMap.contents c).isEmpty && !s.calls.any (pushesFor c)
  | _ => true

/--
Each look of a `CompleteRequest` at the queue finds the request at the head; a queue
is removed when it is empty and nobody is about to push onto it; and nobody sends on
`readyForDispatch` ahead of a pump that is committed to a send of its own.
-/
def lossless (s : ServerSteps) (a : ServerSteps.Action) : Bool :=
  decide (ServerUncontended s a) &&
    match a with
    | .pump _ => pumpLossless s s.pump
    | .call t => (s.calls[t]?).all (callLossless s)
    | _ => true

section

variable {s s' s₁ : ServerSteps} {a : ServerSteps.Action} {c : String}

theorem lossless_pump {w : Option String} (h : lossless s (.pump w) = true) :
    pumpLossless s s.pump = true := (Bool.and_eq_true_iff.mp h).2

theorem lossless_call {t : Nat} {pc : ServerCall} (h : lossless s (.call t) = true)
    (ht : s.calls[t]? = some pc) : callLossless s pc = true := by
  have hall := (Bool.and_eq_true_iff.mp h).2
  dsimp only at hall
  rwa [ht] at hall

/-! ## Hands -/

/-- A step of a call changes what it has in its own hands. -/
theorem inHands_set {t : Nat} {pc pc' : ServerCall} (ht : s.calls[t]? = some pc)
    (hcalls : s'.calls = s.calls.set t pc') (hpump : s'.pump = s.pump) :
    (inHands s' c ++ (callHolds c pc).toList).Perm
      (inHands s c ++ (callHolds c pc').toList) := by
  rw [List.perm_iff_count]
  intro id
  have hset := (filterMap_replaced (callHolds c) ht pc').count_eq id
  simp only [inHands, hcalls, hpump, List.count_append] at hset ⊢
  omega

theorem inHands_set_same {t : Nat} {pc pc' : ServerCall} (ht : s.calls[t]? = some pc)
    (hcalls : s'.calls = s.calls.set t pc') (hpump : s'.pump = s.pump)
    (hsame : callHolds c pc' = callHolds c pc) : (inHands s' c).Perm (inHands s c) := by
  have hset := inHands_set (c := c) ht hcalls hpump
  rw [hsame] at hset
  exact (List.perm_append_right_iff _).mp hset

theorem inHands_of_eq (hcalls : s'.calls = s.calls)
    (hpump : pumpHolds c s'.pump = pumpHolds c s.pump) : inHands s' c = inHands s c := by
  rw [inHands, inHands, hcalls, hpump]

/-- A context that ends takes a waiting goroutine with it, which has nothing in its hands. -/
theorem ContextEnded.callHolds {x : String} {calls : List ServerCall}
    {contexts : String → Option (Option Nat)} (h : ContextEnded s x calls contexts) :
    calls.filterMap (callHolds c) = s.calls.filterMap (callHolds c) := by
  refine filterMap_eq_of_lookup fun u => ?_
  cases hu : calls[u]? with
  | none =>
      cases hold : s.calls[u]? with
      | none => rfl
      | some pc =>
          cases pc with
          | waiting y => rfl
          | _ =>
              have hkept := h.forth u _ hold (by simp)
              exact absurd (hu.symm.trans hkept) (by simp)
  | some pc =>
      rcases h.back u pc hu with hold | rfl
      · rw [hold]
      · cases hold : s.calls[u]? with
        | none => rfl
        | some pc =>
            cases pc with
            | waiting y => rfl
            | returned => rfl
            | _ =>
                have hkept := h.forth u _ hold (by simp)
                exact absurd (hu.symm.trans hkept) (by simp)

theorem IdleStep.inHands (h : IdleStep s a s') : inHands s' c = inHands s c := by
  cases h with
  | takeTimer x calls contexts hpc _ hended | takeReady x calls contexts hpc _ hended =>
      simp only [Proof.inHands, hpc, hended.callHolds, pumpHolds]
  | gone w x calls contexts hpc _ hended =>
      simp only [Proof.inHands, hpc, hended.callHolds, pumpHolds]
  | _ => exact inHands_of_eq rfl (by simp only [*, pumpHolds, ServerSteps.endDispatch])

theorem written_inHands {p : Posted} {x : String} (hpc : s.pump = .write x p) :
    inHands (s.written x p) c = inHands s c := by
  unfold ServerSteps.written
  dsimp only
  split
  · simp [inHands, hpc, pumpHolds, callHolds]
  · simp [inHands, hpc, pumpHolds, ServerSteps.endDispatch]

/-! ## Transfers -/

/-- What a step does to the requests of one client. -/
inductive Transfer (s s' : ServerSteps) (c : String) : List AccountEvent → Prop where
  | nothing {events : List AccountEvent} : acceptedIn events c = [] → handedIn events c = [] →
      queuedIds s' c = queuedIds s c → canceledIds s' c = canceledIds s c →
      (inHands s' c).Perm (inHands s c) → Transfer s s' c events
  /-- Accepted, and queued. -/
  | accepted (id : String) : queuedIds s' c = queuedIds s c ++ [id] →
      canceledIds s' c = canceledIds s c → (inHands s' c).Perm (inHands s c) →
      Transfer s s' c [.accepted c id]
  /-- Out of the queue, into somebody's hands. -/
  | taken (id : String) : queuedIds s c = id :: queuedIds s' c →
      canceledIds s' c = canceledIds s c → (inHands s' c).Perm (id :: inHands s c) →
      Transfer s s' c []
  | handed (id : String) : queuedIds s' c = queuedIds s c →
      canceledIds s' c = canceledIds s c → (inHands s c).Perm (id :: inHands s' c) →
      Transfer s s' c [.handed c id]
  | canceled (id : String) : queuedIds s' c = queuedIds s c →
      canceledIds s' c = canceledIds s c ++ [id] → (inHands s c).Perm (id :: inHands s' c) →
      Transfer s s' c []

/-- A transfer moves requests between places, and loses none. -/
theorem Accounted.transfer {log events : List AccountEvent} (h : Accounted ⟨s, log⟩ c)
    (ht : Transfer s s' c events) : Accounted ⟨s', log ++ events⟩ c := by
  rw [Accounted, List.perm_iff_count] at h ⊢
  intro id
  have hid := h id
  simp only [acceptedIn, handedIn, List.filterMap_append, List.count_append] at hid ⊢
  cases ht with
  | nothing ha hh hq hc hi =>
      simp only [acceptedIn, handedIn] at ha hh
      rw [ha, hh, hq, hc, hi.count_eq id]
      exact hid
  | accepted x hq hc hi =>
      rw [hq, hc, hi.count_eq id, List.count_append]
      simp only [List.filterMap_cons, AccountEvent.acceptedFor, AccountEvent.handedFor,
        if_pos, List.filterMap_nil, List.count_nil]
      omega
  | taken x hq hc hi =>
      rw [hq, List.count_cons] at hid
      rw [hc, hi.count_eq id, List.count_cons]
      simp only [List.filterMap_nil, List.count_nil]
      omega
  | handed x hq hc hi =>
      rw [hi.count_eq id, List.count_cons] at hid
      rw [hq, hc]
      simp only [List.filterMap_cons, AccountEvent.acceptedFor, AccountEvent.handedFor,
        if_pos, List.filterMap_nil, List.count_nil, List.count_cons]
      omega
  | canceled x hq hc hi =>
      rw [hi.count_eq id, List.count_cons] at hid
      rw [hq, hc, List.count_append]
      simp only [List.filterMap_nil, List.count_nil, List.count_cons]
      omega

/-! ## `CompleteRequest` -/

/-- The request has left the queue when the operation is done. -/
def poppedAfter : Option ServerCompleting → Bool
  | none => true
  | some k => popped k

/-- The id, for this client and once it has left the queue. -/
def heldFor (c x id : String) (out : Bool) : Option String :=
  if x = c ∧ out = true then some id else none

theorem callHolds_callNext (x id : String) (o : Option ServerCompleting) :
    callHolds c (callNext x id o) = heldFor c x id (poppedAfter o) := by
  cases o with
  | none => simp [callNext, callHolds, heldFor, poppedAfter]
  | some k => rfl

theorem queuedIds_pop {x id : String} {r : QueueRef} (hok : findsRequest s x id (.pop r) = true) :
    queuedIds s x
      = id :: queuedIds { s with queueMap := s.queueMap.store r (s.queueMap.deref r).pop } x := by
  obtain ⟨hget, hhead⟩ := Bool.and_eq_true_iff.mp hok
  have hget := beq_iff_eq.mp hget
  obtain ⟨p, hp, hid⟩ := Option.map_eq_some_iff.mp (beq_iff_eq.mp hhead)
  rw [queuedIds, queuedIds, FIFOQueueMap.contents_of_get hget,
    FIFOQueueMap.contents_store_self hget, FIFOClientQueue.elements_pop]
  nth_rewrite 1 [FIFOClientQueue.cons_tail_of_peek hp]
  rw [List.map_cons, hid]

theorem queuedIds_pop_ne {x id : String} {r : QueueRef}
    (hok : findsRequest s x id (.pop r) = true) (hx : c ≠ x) :
    queuedIds { s with queueMap := s.queueMap.store r (s.queueMap.deref r).pop } c
      = queuedIds s c := by
  have hget := beq_iff_eq.mp (Bool.and_eq_true_iff.mp hok).1
  rw [queuedIds, queuedIds, FIFOQueueMap.contents_store_ne hget hx]

/-- The only operation that moves a request is the one that takes it out of the queue. -/
theorem StepCompletes.moves {x id : String} {k : ServerCompleting} {o : Option ServerCompleting}
    (hc : StepCompletes s x id k s₁ o) (hok : findsRequest s x id k = true) (c : String) :
    (queuedIds s₁ c = queuedIds s c ∧ heldFor c x id (poppedAfter o) = heldFor c x id (popped k))
      ∨ (x = c ∧ queuedIds s c = id :: queuedIds s₁ c ∧ popped k = false
        ∧ poppedAfter o = true) := by
  cases hc with
  | noQueue hget =>
      rw [findsRequest, hget] at hok
      exact absurd hok (by simp)
  | mismatch r hne =>
      obtain ⟨p, hp, hid⟩ := Option.map_eq_some_iff.mp (beq_iff_eq.mp hok)
      exact absurd hid (hne p hp)
  | pop r =>
      by_cases hx : c = x
      · subst hx
        exact Or.inr ⟨rfl, queuedIds_pop hok, rfl, rfl⟩
      · refine Or.inl ⟨queuedIds_pop_ne hok hx, ?_⟩
        rw [heldFor, heldFor, if_neg (fun e => hx e.1.symm), if_neg (fun e => hx e.1.symm)]
  | _ => exact Or.inl ⟨rfl, rfl⟩

/-- An operation of `CompleteRequest`, whoever it is that has the request in its hands. -/
theorem StepCompletes.transfer {x id : String} {k : ServerCompleting}
    {o : Option ServerCompleting} (hc : StepCompletes s x id k s₁ o)
    (hok : findsRequest s x id k = true) (hq : s'.queueMap = s₁.queueMap)
    (hcan : s'.canceled = s.canceled)
    (hhands : (inHands s' c ++ (heldFor c x id (popped k)).toList).Perm
      (inHands s c ++ (heldFor c x id (poppedAfter o)).toList)) : Transfer s s' c [] := by
  have hqueued : queuedIds s' c = queuedIds s₁ c := by rw [queuedIds, hq]; rfl
  have hcanceled : canceledIds s' c = canceledIds s c := by rw [canceledIds, hcan]; rfl
  rcases hc.moves hok c with ⟨hsame, hheld⟩ | ⟨rfl, htaken, hbefore, hafter⟩
  · rw [hheld] at hhands
    exact .nothing rfl rfl (hqueued.trans hsame) hcanceled
      ((List.perm_append_right_iff _).mp hhands)
  · refine .taken id (hqueued ▸ htaken) hcanceled ?_
    rw [hbefore, hafter] at hhands
    have hhands : (inHands s' x).Perm (inHands s x ++ [id]) := by
      simpa [heldFor] using hhands
    exact hhands.trans (List.perm_append_singleton _ _)

/-- What the pump has in its hands, exchanged for something else. -/
theorem inHands_pump (hcalls : s'.calls = s.calls) :
    (inHands s' c ++ (pumpHolds c s.pump).toList).Perm
      (inHands s c ++ (pumpHolds c s'.pump).toList) := by
  rw [inHands, inHands, hcalls, List.append_assoc, List.append_assoc]
  exact List.perm_append_comm.append_left _

theorem pumpCompletes_transfer {x id : String} {k : ServerCompleting}
    {o : Option ServerCompleting} {next : ServerCompleting → ServerPumpPC} {done : ServerPumpPC}
    (hc : StepCompletes s x id k s₁ o) (hok : findsRequest s x id k = true)
    (hpc : s.pump = next k)
    (hnext : ∀ k, pumpHolds c (next k) = heldFor c x id (popped k))
    (hdone : pumpHolds c done = heldFor c x id true) :
    Transfer s { s₁ with pump := pumpNext next done o } c [] := by
  refine hc.transfer hok rfl hc.canceled ?_
  have hhands := @inHands_pump s { s₁ with pump := pumpNext next done o } c hc.calls
  have hafter : pumpHolds c (pumpNext next done o) = heldFor c x id (poppedAfter o) := by
    cases o with
    | none => exact hdone
    | some k => exact hnext k
  rw [hpc, hnext k] at hhands
  rwa [hafter] at hhands

/-! ## Every step is a transfer -/

/-- Whoever is about to push holds the client's present queue. -/
def PushesCurrent (s : ServerSteps) : Prop :=
  ∀ c r req, ServerCall.push c r req ∈ s.calls → s.queueMap.get c = some r

/-- A queue stays the client's until the client is removed. -/
theorem get_kept (hm : StepMove s a s') {r : QueueRef} (hget : s.queueMap.get c = some r) :
    s'.queueMap.get c = some r
      ∨ ∃ t, a = .call t ∧ s.calls[t]? = some (.remove c)
        ∧ s'.calls = s.calls.set t (.removeSignal c) := by
  cases hm with
  | idle _ _ _ _ hq => exact Or.inl (by rw [hq]; exact hget)
  | write x p _ _ _ hq => exact Or.inl (by rw [hq]; exact hget)
  | callMoves t pc pc' _ _ _ _ _ hq => exact Or.inl (by rw [hq]; exact hget)
  | timedOut w x p k s₁ o _ hc => left; cases hc <;> exact hget
  | failed w x p text k s₁ o _ hc => left; cases hc <;> exact hget
  | callCompletes t x id k s₁ o _ hc => left; cases hc <;> exact hget
  | remove t x ht =>
      by_cases hx : c = x
      · subst hx
        exact Or.inr ⟨t, rfl, ht, rfl⟩
      · exact Or.inl (by rw [FIFOQueueMap.get_remove_ne s.queueMap hx]; exact hget)
  | createClient x => exact Or.inl (FIFOQueueMap.get_getOrCreate_of_some hget x)
  | _ => exact Or.inl hget

theorem pushesCurrent_step (h : PushesCurrent s) (hok : lossless s a = true)
    (hm : StepMove s a s') : PushesCurrent s' := by
  intro c r req hp
  have hget : s.queueMap.get c = some r := (push_step hm hp).elim (h c r req) fun e => e
  refine (get_kept hm hget).resolve_right ?_
  -- the queue is not removed, because of this very call
  rintro ⟨t, rfl, ht, hcalls⟩
  rw [hcalls] at hp
  have hmem := (List.mem_or_eq_of_mem_set hp).resolve_right (by simp)
  have hnone := (Bool.and_eq_true_iff.mp (lossless_call hok ht)).2
  have hany : s.calls.any (pushesFor c) = true :=
    List.any_eq_true.mpr ⟨_, hmem, beq_self_eq_true c⟩
  rw [hany] at hnone
  exact absurd hnone (by simp)

/-- Nothing changes hands in a step that moves no call and leaves queues and reports alone. -/
theorem Transfer.unmoved (hq : s'.queueMap = s.queueMap) (hcan : s'.canceled = s.canceled)
    (hcalls : s'.calls = s.calls) (hpump : pumpHolds c s'.pump = pumpHolds c s.pump) :
    Transfer s s' c [] :=
  .nothing rfl rfl (by rw [queuedIds, hq]; rfl) (by rw [canceledIds, hcan]; rfl)
    (by rw [inHands_of_eq hcalls hpump])

/-- A report of the pump, for this client or another. -/
theorem Transfer.report {x : String} {y : Cancellation} (hx : y.clientID = x)
    (hq : s'.queueMap = s.queueMap) (hcan : s'.canceled = s.canceled ++ [y])
    (hcalls : s'.calls = s.calls)
    (hpc : pumpHolds c s.pump = heldFor c x y.request.id true)
    (hpc' : pumpHolds c s'.pump = none) : Transfer s s' c [] := by
  have hqueued : queuedIds s' c = queuedIds s c := by rw [queuedIds, hq]; rfl
  subst hx
  by_cases hc : y.clientID = c
  · refine .canceled y.request.id hqueued ?_ ?_
    · rw [canceledIds, hcan, List.filterMap_append]
      simp [canceledIds, Cancellation.reportedFor, hc]
    · rw [inHands, inHands, hcalls, hpc, hpc', heldFor, if_pos ⟨hc, rfl⟩]
      simp
  · refine .nothing rfl rfl hqueued ?_ ?_
    · rw [canceledIds, hcan, List.filterMap_append]
      simp [canceledIds, Cancellation.reportedFor, hc]
    · rw [inHands_of_eq hcalls (by rw [hpc, hpc', heldFor, if_neg (fun e => hc e.1)])]

/-- `SendRequest` pushes onto the client's queue, and nobody else's. -/
theorem push_transfer {t : Nat} {x : String} {r : QueueRef} {req : RequestBundle}
    {q : FIFOClientQueue Posted} (hget : s.queueMap.get x = some r)
    (ht : s.calls[t]? = some (.push x r req))
    (hq : q.elements = (s.queueMap.deref r).elements ++ [{ seq := s.accepted, bundle := req }]) :
    Transfer s
      { s with
        queueMap := s.queueMap.store r q, accepted := s.accepted + 1
        calls := s.calls.set t (.signal x) } c
      (accountEvents s (.call t)
        { s with
          queueMap := s.queueMap.store r q, accepted := s.accepted + 1
          calls := s.calls.set t (.signal x) }) := by
  have hself : (s.calls.set t (.signal x))[t]? = some (.signal x) :=
    List.getElem?_set_self (List.getElem?_eq_some_iff.mp ht).1
  simp only [accountEvents, ht, hself]
  by_cases hx : c = x
  · subst hx
    refine .accepted _ ?_ rfl (inHands_set_same ht rfl rfl rfl)
    rw [queuedIds, queuedIds, FIFOQueueMap.contents_store_self hget,
      FIFOQueueMap.contents_of_get hget, hq, List.map_append]
    rfl
  · have hxc : x ≠ c := Ne.symm hx
    refine .nothing ?_ rfl ?_ rfl (inHands_set_same ht rfl rfl rfl)
    · simp [acceptedIn, AccountEvent.acceptedFor, hxc]
    · rw [queuedIds, queuedIds, FIFOQueueMap.contents_store_ne hget hx]

/-- Of the calls that move on by themselves, only a reader at its handler has a request. -/
theorem callMoves_transfer {t : Nat} {pc pc' : ServerCall} (ht : s.calls[t]? = some pc)
    (hon : CallOnward s pc pc') (hcalls : s'.calls = s.calls.set t pc') (hpump : s'.pump = s.pump)
    (hq : s'.queueMap = s.queueMap) (hcan : s'.canceled = s.canceled) :
    Transfer s s' c (accountEvents s (.call t) s') := by
  have hqueued : queuedIds s' c = queuedIds s c := by rw [queuedIds, hq]; rfl
  have hcanceled : canceledIds s' c = canceledIds s c := by rw [canceledIds, hcan]; rfl
  have hself : s'.calls[t]? = some pc' := by
    rw [hcalls]
    exact List.getElem?_set_self (List.getElem?_eq_some_iff.mp ht).1
  simp only [accountEvents, ht, hself]
  cases hon with
  | handled x id =>
      by_cases hx : x = c
      · subst hx
        refine .handed id hqueued hcanceled ?_
        have hhands := inHands_set (c := x) ht hcalls hpump
        simp only [callHolds, if_pos, Option.toList_some, Option.toList_none,
          List.append_nil] at hhands
        exact hhands.symm.trans (List.perm_append_singleton _ _)
      · refine .nothing rfl ?_ hqueued hcanceled (inHands_set_same ht hcalls hpump ?_)
        · simp [handedIn, AccountEvent.handedFor, hx]
        · simp [callHolds, hx]
  | _ => exact .nothing rfl rfl hqueued hcanceled (inHands_set_same ht hcalls hpump rfl)

/-- **A step moves requests between places.** -/
theorem step_transfer (hpush : PushesCurrent s) (hok : lossless s a = true)
    (hm : StepMove s a s') (c : String) : Transfer s s' c (accountEvents s a s') := by
  cases hm with
  | idle _ _ _ _ hq _ _ hcan _ hidle =>
      have hnone : accountEvents s a s' = [] := by cases hidle <;> rfl
      rw [hnone]
      exact .nothing rfl rfl (by rw [queuedIds, hq]; rfl) (by rw [canceledIds, hcan]; rfl)
        (by rw [hidle.inHands])
  | seesPending w x hpc _ => exact .unmoved rfl rfl rfl (by rw [hpc]; rfl)
  | timeoutGet w x pending r hpc _ => exact .unmoved rfl rfl rfl (by rw [hpc]; rfl)
  | timeoutPeek w x pending r p hpc _ =>
      exact .unmoved rfl rfl rfl (by rw [hpc]; simp [pumpHolds, popped])
  | timedOut w x p k s₁ o hpc hc =>
      have hfinds : findsRequest s x p.id k = true := by
        have h := lossless_pump hok
        rwa [hpc] at h
      exact pumpCompletes_transfer hc hfinds hpc (fun _ => rfl) (by simp [pumpHolds, heldFor])
  | reportTimedOut w x p hpc =>
      exact .report (y := ServerSteps.timedOutReport x p) rfl rfl rfl rfl
        (by rw [hpc]; simp [pumpHolds, heldFor, ServerSteps.timedOutReport]) rfl
  | commit w x hpc _ => exact .unmoved rfl rfl rfl (by rw [hpc]; rfl)
  | dispatchGet w x r hpc _ => exact .unmoved rfl rfl rfl (by rw [hpc]; rfl)
  | dispatchPeek w x r p hpc _ => exact .unmoved rfl rfl rfl (by rw [hpc]; rfl)
  | mark w x p hpc => exact .unmoved rfl rfl rfl (by rw [hpc]; rfl)
  | write x p _ hpc _ hq _ _ hcan _ _ hs' =>
      exact .nothing rfl rfl (by rw [queuedIds, hq]; rfl) (by rw [canceledIds, hcan]; rfl)
        (by rw [hs', written_inHands hpc])
  | writeFails text x p hpc => exact .unmoved rfl rfl rfl (by rw [hpc]; simp [pumpHolds, popped])
  | failed w x p text k s₁ o hpc hc =>
      have hfinds : findsRequest s x p.id k = true := by
        have h := lossless_pump hok
        rwa [hpc] at h
      exact @pumpCompletes_transfer s s₁ c x p.id k o (fun k => .failed x p text k)
        (.reportFailed x p text) hc hfinds hpc (fun _ => rfl) (by simp [pumpHolds, heldFor])
  | reportFailed w x p text hpc =>
      exact .report (y := ServerSteps.failedReport x p text) rfl rfl rfl rfl
        (by rw [hpc]; simp [pumpHolds, heldFor, ServerSteps.failedReport]) rfl
  | crash w hpc =>
      refine .unmoved rfl rfl rfl ?_
      rcases hpc with ⟨x, pending, hpc, _⟩ | ⟨x, r, pending, hpc, _⟩ | ⟨x, r, hpc⟩
      · rw [hpc]
        rfl
      · rw [hpc]
        rfl
      · rw [hpc]
        rfl
  | start op =>
      refine .nothing rfl rfl rfl rfl ?_
      have hentry : callHolds c op.entry = none := by
        cases op <;> simp [ServerOperation.entry, callHolds, popped]
      simp [inHands, hentry]
  | callMoves t pc pc' s' ht hon hcalls hpump hq _ _ hcan =>
      exact callMoves_transfer ht hon hcalls hpump hq hcan
  | push t x r req q ht hq =>
      exact push_transfer (hpush x r req (List.mem_of_getElem? ht)) ht hq
  | callCompletes t x id k s₁ o ht hc =>
      have hnone : accountEvents s (.call t)
          { s₁ with calls := s₁.calls.set t (callNext x id o) } = [] := by
        simp only [accountEvents, ht]
      rw [hnone]
      refine hc.transfer (lossless_call hok ht) rfl hc.canceled ?_
      rw [← callHolds_callNext]
      exact inHands_set ht (by rw [hc.calls]) hc.pump
  | remove t x ht =>
      have hempty := (Bool.and_eq_true_iff.mp (lossless_call hok ht)).1
      refine .nothing (by simp [accountEvents, ht, acceptedIn])
        (by simp [accountEvents, ht, handedIn]) ?_ rfl (inHands_set_same ht rfl rfl rfl)
      by_cases hx : c = x
      · subst hx
        rw [queuedIds, queuedIds, FIFOQueueMap.contents_remove_self,
          List.isEmpty_iff.mp hempty]
      · rw [queuedIds, queuedIds, FIFOQueueMap.contents_remove_ne s.queueMap hx]
  | clear t x ht =>
      exact .nothing (by simp [accountEvents, ht, acceptedIn])
        (by simp [accountEvents, ht, handedIn]) rfl rfl (inHands_set_same ht rfl rfl rfl)
  | createClient x =>
      exact .nothing rfl rfl (by rw [queuedIds, queuedIds, FIFOQueueMap.contents_getOrCreate])
        rfl (.refl _)
  | getClientState x => exact .unmoved rfl rfl rfl rfl

/-! ## Nobody is stuck with a request -/

theorem accounted_reachable {n : Nat} {timeout : Int} {t : Recorded ServerSteps AccountEvent}
    (h : ReachableWhile (recordedAccounts n timeout) (fun t a => lossless t.state a = true) t) :
    PushesCurrent t.state ∧ ∀ c, Accounted t c := by
  refine ReachableWhile.invariant
    (P := fun t => PushesCurrent t.state ∧ ∀ c, Accounted t c) ?_ ?_ h
  · rintro ⟨s, log⟩ ⟨rfl, rfl⟩
    exact ⟨fun c r req hp => absurd hp (by simp [ServerSteps.start]), fun c => .refl _⟩
  · rintro ⟨s, log⟩ a ⟨s', log'⟩ _ ⟨hpush, hacc⟩ hok hact
    obtain ⟨hstep, hlog⟩ := Machine.recording_act hact
    dsimp only at hstep hlog
    subst hlog
    have hm := act_stepMove hstep
    exact ⟨pushesCurrent_step hpush hok hm,
      fun c => (hacc c).transfer (step_transfer hpush hok hm c)⟩

end

end OcppGo.Proof
