import OcppGo.Ocppj.ServerDispatcher
import Mathlib.Logic.Relation

/-!
# What the server dispatcher does to the queues

Seen from the queues, the pending slots and the cancellations, an iteration of
`messagePump` is a short sequence of changes to the one client it is about: the
head is marked as pending, or it is removed and reported as canceled. `Change`
lists them and `messagePump_changes` reads the pump once, for every invariant
that speaks of nothing else.
-/

namespace OcppGo.Proof

open OcppGo.Ocppj

/-- What is queued for a client. -/
def queueOf (d : ServerDispatcher) (c : String) : List Posted := d.queueMap.contents c

/-- The id in the client's pending slot, `""` when it is free. -/
def slotOf (d : ServerDispatcher) (c : String) : String :=
  (d.pendingRequestState.clientState c).requestID

/-- A started dispatcher has nothing queued. -/
theorem notMem_queueOf_start (n : Nat) (timeout : Int) (c : String) (p : Posted) :
    p ∉ queueOf (.start n timeout) c := by
  simp [queueOf, ServerDispatcher.start]

/-- One change to the queue, the slot or the cancellations of client `c`. -/
inductive Change (c : String) (d d' : ServerDispatcher) : Prop where
  | same : (∀ x, queueOf d' x = queueOf d x) → (∀ x, slotOf d' x = slotOf d x) →
      d'.canceled = d.canceled → Change c d d'
  /-- `AddPendingRequest` for the head. -/
  | mark (p : Posted) : (queueOf d c).head? = some p → (∀ x, queueOf d' x = queueOf d x) →
      (∀ x, slotOf d' x
        = if x = c ∧ p.id ≠ "" ∧ slotOf d c = "" then p.id else slotOf d x) →
      d'.canceled = d.canceled → Change c d d'
  /-- `CompleteRequest` for the head, and the cancel callback. -/
  | cancel (p : Posted) (rest : List Posted) (err : OcppError) : queueOf d c = p :: rest →
      (∀ x, queueOf d' x = if x = c then rest else queueOf d x) →
      (∀ x, slotOf d' x = if x = c ∧ slotOf d c = p.id then "" else slotOf d x) →
      d'.canceled = d.canceled ++ [{ clientID := c, request := p, err := err }] →
      Change c d d'

section

variable {d : ServerDispatcher} {c : String}

/-- What `CompleteRequest` does to the queues and slots when the head matches. -/
structure Completed (c : String) (p : Posted) (rest : List Posted) (d d' : ServerDispatcher) :
    Prop where
  head : queueOf d c = p :: rest
  queues : ∀ x, queueOf d' x = if x = c then rest else queueOf d x
  slots : ∀ x, slotOf d' x = if x = c ∧ slotOf d c = p.id then "" else slotOf d x
  canceled : d'.canceled = d.canceled

theorem matchesHead_some {r : QueueRef} {rid : String} (h : d.matchesHead c rid = some r) :
    d.queueMap.get c = some r ∧ ∃ p rest, queueOf d c = p :: rest ∧ p.id = rid := by
  unfold ServerDispatcher.matchesHead at h
  split at h
  · exact absurd h (by simp)
  · rename_i r' hr
    split at h
    · exact absurd h (by simp)
    · rename_i p hp
      split at h
      · exact absurd h (by simp)
      · rename_i hid
        cases h
        refine ⟨hr, p, (d.queueMap.deref r).elements.tail, ?_, not_not.mp hid⟩
        rw [queueOf, FIFOQueueMap.contents_of_get hr]
        exact FIFOClientQueue.cons_tail_of_peek hp

/-- The client of a queued request has a queue, and the request is found behind it. -/
theorem get_of_head {p : Posted} {rest : List Posted} (h : queueOf d c = p :: rest) :
    ∃ r, d.queueMap.get c = some r ∧ (d.queueMap.deref r).peek = some p := by
  cases hr : d.queueMap.get c with
  | none => rw [queueOf, FIFOQueueMap.contents_of_get_none hr] at h; exact absurd h (by simp)
  | some r =>
      refine ⟨r, rfl, ?_⟩
      rw [FIFOClientQueue.peek_eq, ← FIFOQueueMap.contents_of_get hr]
      exact congrArg List.head? h

theorem matchesHead_of_head {p : Posted} {rest : List Posted} (h : queueOf d c = p :: rest) :
    ∃ r, d.matchesHead c p.id = some r := by
  obtain ⟨r, hr, hp⟩ := get_of_head h
  refine ⟨r, ?_⟩
  simp only [ServerDispatcher.matchesHead, hr, hp, ne_eq, not_true_eq_false, if_false]

theorem completeRequest_completed {r : QueueRef} {rid : String}
    (hr : d.matchesHead c rid = some r) :
    ∃ p rest, p.id = rid ∧ Completed c p rest d (d.completeRequest c rid) := by
  -- queues of other clients are other objects, so the store does not reach them
  obtain ⟨hget, p, rest, hq, rfl⟩ := matchesHead_some hr
  refine ⟨p, rest, rfl, hq, fun x => ?_, fun x => ?_, ?_⟩
  · rw [ServerDispatcher.completeRequest, hr]
    by_cases hx : x = c
    · subst hx
      rw [if_pos rfl, queueOf, FIFOQueueMap.contents_store_self hget]
      rw [queueOf, FIFOQueueMap.contents_of_get hget] at hq
      rw [FIFOClientQueue.elements_pop, hq]
      rfl
    · rw [if_neg hx]
      exact FIFOQueueMap.contents_store_ne hget hx _
  · rw [ServerDispatcher.completeRequest, hr]
    show ((d.pendingRequestState.deletePendingRequest c p.id).clientState x).requestID = _
    rw [ServerState.clientState_delete]
    by_cases hx : x = c
    · subst hx
      rw [if_pos rfl, ClientState.deletePendingRequest_requestID]
      simp [slotOf]
    · simp [hx, slotOf]
  · rw [ServerDispatcher.completeRequest, hr]

/-- **`CompleteRequest` removes the head, or changes nothing.** -/
theorem completeRequest_cases (d : ServerDispatcher) (c rid : String) :
    d.completeRequest c rid = d
      ∨ ∃ p rest, p.id = rid ∧ Completed c p rest d (d.completeRequest c rid) := by
  cases hr : d.matchesHead c rid with
  | none => exact Or.inl (by rw [ServerDispatcher.completeRequest, hr])
  | some r => exact Or.inr (completeRequest_completed hr)

theorem completed_of_head {p : Posted} {rest : List Posted} (h : queueOf d c = p :: rest) :
    Completed c p rest d (d.completeRequest c p.id) := by
  obtain ⟨r, hr⟩ := matchesHead_of_head h
  obtain ⟨p', rest', _, hc⟩ := completeRequest_completed hr
  have hhead := hc.head
  rw [h] at hhead
  cases hhead
  exact hc

/-- The pump's own `CompleteRequest`, when its send does not wait. -/
theorem cancelRequest_change {p : Posted} {rest : List Posted} (h : queueOf d c = p :: rest)
    (code : ErrorCode) (text : String) : Change c d (d.cancelRequest false c p code text) := by
  have hc := completed_of_head h
  refine .cancel p rest (newError code text p.id) h ?_ ?_ rfl
  · exact hc.queues
  · exact hc.slots

theorem cancelContext_queueMap : (d.cancelContext c).queueMap = d.queueMap := by
  unfold ServerDispatcher.cancelContext
  split <;> rfl

theorem cancelContext_pending :
    (d.cancelContext c).pendingRequestState = d.pendingRequestState := by
  unfold ServerDispatcher.cancelContext
  split <;> rfl

theorem cancelContext_canceled : (d.cancelContext c).canceled = d.canceled := by
  unfold ServerDispatcher.cancelContext
  split <;> rfl

theorem cancelContext_change : Change c d (d.cancelContext c) := by
  refine .same (fun x => ?_) (fun x => ?_) cancelContext_canceled
  · rw [queueOf, cancelContext_queueMap, queueOf]
  · rw [slotOf, cancelContext_pending, slotOf]

/-- The head the pump finds behind a reference it just looked up. -/
theorem queueOf_of_peek {r : QueueRef} {p : Posted} (hr : d.queueMap.get c = some r)
    (hp : (d.queueMap.deref r).peek = some p) :
    queueOf d c = p :: (d.queueMap.deref r).elements.tail := by
  rw [queueOf, FIFOQueueMap.contents_of_get hr]
  exact FIFOClientQueue.cons_tail_of_peek hp

/-- A change of the pump's own variables only. -/
theorem Change.vars {d' : ServerDispatcher} (hq : d'.queueMap = d.queueMap)
    (hp : d'.pendingRequestState = d.pendingRequestState) (hc : d'.canceled = d.canceled) :
    Change c d d' := by
  refine .same (fun x => ?_) (fun x => ?_) hc
  · rw [queueOf, hq, queueOf]
  · rw [slotOf, hp, slotOf]

theorem onTimer_changes : Relation.ReflTransGen (Change c) d (d.onTimer false c) := by
  unfold ServerDispatcher.onTimer
  have hctx : Relation.ReflTransGen (Change c) d (d.cancelContext c) :=
    .single cancelContext_change
  split
  · refine hctx.tail ?_
    unfold ServerDispatcher.cancelTimedOut
    split
    · exact .vars rfl rfl rfl
    · rename_i r hr
      split
      · exact .vars rfl rfl rfl
      · rename_i p hp
        exact cancelRequest_change (queueOf_of_peek hr hp) _ _
  · exact hctx

/-- A dispatch marks the head, before anything is known about the write. -/
theorem mark_change {p : Posted} (hp : (queueOf d c).head? = some p) :
    Change c d { d with
      pendingRequestState := d.pendingRequestState.addPendingRequest c p.id p.payload
      written := d.written ++ [(c, p)] } := by
  refine .mark p hp (fun x => rfl) (fun x => ?_) rfl
  show ((d.pendingRequestState.addPendingRequest c p.id p.payload).clientState x).requestID = _
  rw [ServerState.clientState_add]
  by_cases hx : x = c
  · subst hx
    rw [if_pos rfl, ClientState.addPendingRequest_requestID]
    simp [slotOf]
  · simp [hx, slotOf]

theorem dispatchNextRequest_changes {write : Option String} :
    Relation.ReflTransGen (Change c) d (d.dispatchNextRequest false c write) := by
  unfold ServerDispatcher.dispatchNextRequest
  split
  · exact .single (.vars rfl rfl rfl)
  · rename_i r hr
    split
    · exact .single (.vars rfl rfl rfl)
    · rename_i p hp
      have hq := queueOf_of_peek hr hp
      -- one change marks the head; a failed write adds the one that cancels it
      let sent : ServerDispatcher := { d with
        pendingRequestState := d.pendingRequestState.addPendingRequest c p.id p.payload
        written := d.written ++ [(c, p)] }
      have hmark : Change c d sent := mark_change (by rw [hq]; rfl)
      cases write with
      | some text =>
          refine ((Relation.ReflTransGen.single hmark).tail
            (cancelRequest_change (d := sent) hq InternalError text)).tail ?_
          exact .vars rfl rfl rfl
      | none =>
          refine (Relation.ReflTransGen.single hmark).tail ?_
          show Change c sent (if 0 < d.timeout then _ else _)
          split
          · exact .vars rfl rfl rfl
          · exact .vars rfl rfl rfl

/--
**An iteration is a sequence of changes to the client it is about**, when no send of
the pump's own has to wait.
-/
theorem messagePump_changes {sel : ServerSelect} {write : Option String} :
    Relation.ReflTransGen (Change sel.clientID) d (d.messagePump false sel write) := by
  -- the branch of the select, then the dispatch if there is one
  have hsel : Relation.ReflTransGen (Change sel.clientID) d (d.onSelect false sel) := by
    cases sel with
    | request c =>
        refine .single ?_
        simp only [ServerDispatcher.onSelect, ServerDispatcher.onRequest]
        split
        · exact .vars rfl rfl rfl
        · exact .vars rfl rfl rfl
    | timer c => exact onTimer_changes
    | ready c =>
        refine .single (.vars ?_ ?_ ?_)
        · exact cancelContext_queueMap
        · exact cancelContext_pending
        · exact cancelContext_canceled
  unfold ServerDispatcher.messagePump ServerDispatcher.dispatchIfReady
  split
  · exact hsel.trans dispatchNextRequest_changes
  · exact hsel

/-- What the changes of an iteration took from the front of the queue, they reported. -/
theorem changes_canceled {d' : ServerDispatcher}
    (h : Relation.ReflTransGen (Change c) d d') :
    ∃ l : List Cancellation, d'.canceled = d.canceled ++ l ∧ (∀ x ∈ l, x.clientID = c)
      ∧ queueOf d c = l.map Cancellation.request ++ queueOf d' c
      ∧ ∀ x, x ≠ c → queueOf d' x = queueOf d x := by
  -- on the changes, from the first: the reports so far are what the queue lost
  induction h with
  | refl => exact ⟨[], by simp, by simp, rfl, fun _ _ => rfl⟩
  | tail _ hlast ih =>
      obtain ⟨l, hcan, hc, hq, hne⟩ := ih
      cases hlast with
      | same hq' _ hcan' =>
          exact ⟨l, hcan'.trans hcan, hc, by rw [hq, hq' c], fun x hx => (hq' x).trans (hne x hx)⟩
      | mark p _ hq' _ hcan' =>
          exact ⟨l, hcan'.trans hcan, hc, by rw [hq, hq' c], fun x hx => (hq' x).trans (hne x hx)⟩
      | cancel p rest err hhead hq' _ hcan' =>
          refine ⟨l ++ [{ clientID := c, request := p, err := err }], ?_, ?_, ?_, ?_⟩
          · rw [hcan', hcan, List.append_assoc]
          · intro x hx
            rcases List.mem_append.mp hx with hold | hnew
            · exact hc x hold
            · rw [List.mem_singleton.mp hnew]
          · rw [hq, hhead, hq' c, if_pos rfl]
            simp
          · intro x hx
            rw [hq' x, if_neg hx]
            exact hne x hx

/-! ## What the pump leaves alone

It neither creates nor removes queues, and it accepts no requests.
-/

/-- The same clients have the same queue objects, and no request was accepted. -/
structure Untouched (d d' : ServerDispatcher) : Prop where
  get : ∀ x, d'.queueMap.get x = d.queueMap.get x
  capacity : ∀ r, (d'.queueMap.deref r).capacity = (d.queueMap.deref r).capacity
  queueCapacity : d'.queueMap.queueCapacity = d.queueMap.queueCapacity
  accepted : d'.accepted = d.accepted
  timeout : d'.timeout = d.timeout

theorem Untouched.trans {d₁ d₂ d₃ : ServerDispatcher} (h : Untouched d₁ d₂)
    (h' : Untouched d₂ d₃) : Untouched d₁ d₃ :=
  ⟨fun x => (h'.get x).trans (h.get x), fun r => (h'.capacity r).trans (h.capacity r),
    h'.queueCapacity.trans h.queueCapacity, h'.accepted.trans h.accepted,
    h'.timeout.trans h.timeout⟩

theorem completeRequest_untouched (d : ServerDispatcher) (c rid : String) :
    Untouched d (d.completeRequest c rid) := by
  unfold ServerDispatcher.completeRequest
  split
  · exact ⟨fun _ => rfl, fun _ => rfl, rfl, rfl, rfl⟩
  · exact ⟨fun _ => rfl, FIFOQueueMap.capacity_store rfl, rfl, rfl, rfl⟩

theorem cancelRequest_untouched (d : ServerDispatcher) (bounded : Bool) (c : String) (p : Posted)
    (code : ErrorCode) (text : String) :
    Untouched d (d.cancelRequest bounded c p code text) := by
  have h := completeRequest_untouched d c p.id
  unfold ServerDispatcher.cancelRequest
  split
  · exact ⟨h.get, h.capacity, h.queueCapacity, h.accepted, h.timeout⟩
  · exact ⟨h.get, h.capacity, h.queueCapacity, h.accepted, h.timeout⟩

theorem cancelContext_untouched (d : ServerDispatcher) (c : String) :
    Untouched d (d.cancelContext c) := by
  unfold ServerDispatcher.cancelContext
  split
  · exact ⟨fun _ => rfl, fun _ => rfl, rfl, rfl, rfl⟩
  · exact ⟨fun _ => rfl, fun _ => rfl, rfl, rfl, rfl⟩

theorem onTimer_untouched (d : ServerDispatcher) (bounded : Bool) (c : String) :
    Untouched d (d.onTimer bounded c) := by
  have hctx := cancelContext_untouched d c
  unfold ServerDispatcher.onTimer
  split
  · unfold ServerDispatcher.cancelTimedOut
    split
    · exact ⟨hctx.get, hctx.capacity, hctx.queueCapacity, hctx.accepted, hctx.timeout⟩
    · split
      · exact ⟨hctx.get, hctx.capacity, hctx.queueCapacity, hctx.accepted, hctx.timeout⟩
      · exact hctx.trans (cancelRequest_untouched _ bounded c _ _ _)
  · exact hctx

theorem dispatchNextRequest_untouched (d : ServerDispatcher) (bounded : Bool) (c : String)
    (write : Option String) : Untouched d (d.dispatchNextRequest bounded c write) := by
  unfold ServerDispatcher.dispatchNextRequest
  split
  · exact ⟨fun _ => rfl, fun _ => rfl, rfl, rfl, rfl⟩
  · split
    · exact ⟨fun _ => rfl, fun _ => rfl, rfl, rfl, rfl⟩
    · rename_i p hp
      dsimp only
      split
      · rename_i text
        have h := cancelRequest_untouched
          { d with
            pendingRequestState := d.pendingRequestState.addPendingRequest c p.id p.payload
            written := d.written ++ [(c, p)] } bounded c p InternalError text
        exact ⟨h.get, h.capacity, h.queueCapacity, h.accepted, h.timeout⟩
      · split
        · exact ⟨fun _ => rfl, fun _ => rfl, rfl, rfl, rfl⟩
        · exact ⟨fun _ => rfl, fun _ => rfl, rfl, rfl, rfl⟩

theorem onSelect_untouched (d : ServerDispatcher) (bounded : Bool) (sel : ServerSelect) :
    Untouched d (d.onSelect bounded sel) := by
  cases sel with
  | request c =>
      simp only [ServerDispatcher.onSelect, ServerDispatcher.onRequest]
      split
      · exact ⟨fun _ => rfl, fun _ => rfl, rfl, rfl, rfl⟩
      · exact ⟨fun _ => rfl, fun _ => rfl, rfl, rfl, rfl⟩
  | timer c => exact onTimer_untouched d bounded c
  | ready c =>
      have h := cancelContext_untouched d c
      exact ⟨h.get, h.capacity, h.queueCapacity, h.accepted, h.timeout⟩

theorem messagePump_untouched (d : ServerDispatcher) (bounded : Bool) (sel : ServerSelect)
    (write : Option String) : Untouched d (d.messagePump bounded sel write) := by
  have hsel := onSelect_untouched d bounded sel
  unfold ServerDispatcher.messagePump ServerDispatcher.dispatchIfReady
  split
  · exact hsel.trans (dispatchNextRequest_untouched _ bounded _ write)
  · exact hsel

/-! ## The other operations -/

theorem createClient_queueOf (d : ServerDispatcher) (c x : String) :
    queueOf (d.createClient c) x = queueOf d x :=
  FIFOQueueMap.contents_getOrCreate d.queueMap c x

theorem deleteClient_queueOf (d : ServerDispatcher) (c x : String) :
    queueOf (d.deleteClient c) x = if x = c then [] else queueOf d x := by
  by_cases hx : x = c
  · subst hx
    rw [if_pos rfl]
    exact FIFOQueueMap.contents_remove_self d.queueMap x
  · rw [if_neg hx]
    exact FIFOQueueMap.contents_remove_ne d.queueMap hx

/-- `ClearClientPendingRequest` frees one slot. -/
theorem cleared_slotOf (d : ServerDispatcher) (c x : String) :
    slotOf { d with pendingRequestState := d.pendingRequestState.clearClientPendingRequest c } x
      = if x = c then "" else slotOf d x := by
  rw [slotOf, ServerState.clientState_clear]
  split
  · rfl
  · rfl

/-- An accepted push, when the queue pushed onto is the client's. -/
theorem pushTo_queueOf {r : QueueRef} {req : RequestBundle} {d' : ServerDispatcher}
    (hget : d.queueMap.get c = some r) (h : d.pushTo c r req = .ok d') (x : String) :
    queueOf d' x
      = if x = c then queueOf d c ++ [{ seq := d.accepted, bundle := req }] else queueOf d x := by
  unfold ServerDispatcher.pushTo at h
  split at h
  · exact absurd h (by simp)
  · rename_i q hq
    cases h
    by_cases hx : x = c
    · subst hx
      rw [if_pos rfl, queueOf, FIFOQueueMap.contents_store_self hget,
        FIFOClientQueue.push_ok hq, queueOf, FIFOQueueMap.contents_of_get hget]
    · rw [if_neg hx]
      exact FIFOQueueMap.contents_store_ne hget hx q

/-- A deadline, and the send after it, are the goroutine's own business. -/
theorem deadlineExceeded_eq {ctx : ContextId} {d' : ServerDispatcher}
    (h : d.deadlineExceeded c ctx = some d') :
    ∃ waiting expired, d' = { d with waiting := waiting, expired := expired } := by
  unfold ServerDispatcher.deadlineExceeded at h
  split at h
  · exact ⟨_, _, (Option.some.inj h).symm⟩
  · exact absurd h (by simp)

theorem notifyTimeout_eq {d' : ServerDispatcher} (h : d.notifyTimeout c = some d') :
    ∃ expired timers, d' = { d with expired := expired, timerC := timers } := by
  unfold ServerDispatcher.notifyTimeout at h
  split at h
  · exact ⟨_, _, (Option.some.inj h).symm⟩
  · exact absurd h (by simp)

/-- What an accepted push leaves alone. -/
structure Pushed (d d' : ServerDispatcher) : Prop where
  get : ∀ x, d'.queueMap.get x = d.queueMap.get x
  capacity : ∀ r, (d'.queueMap.deref r).capacity = (d.queueMap.deref r).capacity
  queueCapacity : d'.queueMap.queueCapacity = d.queueMap.queueCapacity
  pending : d'.pendingRequestState = d.pendingRequestState
  contexts : d'.clientContextMap = d.clientContextMap
  ready : d'.readyForDispatch = d.readyForDispatch
  timeout : d'.timeout = d.timeout
  status : d'.status = d.status
  /-- The next stamp is used up. -/
  accepted : d'.accepted = d.accepted + 1
  written : d'.written = d.written
  canceled : d'.canceled = d.canceled

theorem pushTo_pushed {r : QueueRef} {req : RequestBundle} {d' : ServerDispatcher}
    (h : d.pushTo c r req = .ok d') : Pushed d d' := by
  unfold ServerDispatcher.pushTo at h
  split at h
  · exact absurd h (by simp)
  · rename_i q hq
    cases h
    have hcap : q.capacity = (d.queueMap.deref r).capacity := by
      rw [FIFOClientQueue.push_ok hq]
    exact ⟨fun _ => rfl, FIFOQueueMap.capacity_store hcap, rfl, rfl, rfl, rfl, rfl, rfl, rfl, rfl,
      rfl⟩

/-- The ready tokens left when the pump has received. -/
def tokensLeft (d : ServerDispatcher) : ServerSelect → List String
  | .request _ => d.readyForDispatch
  | .timer _ => d.readyForDispatch
  | .ready c => d.readyForDispatch.erase c

/-- Taking a token touches a channel only. -/
theorem receive_eq {sel : ServerSelect} {d' : ServerDispatcher} (h : d.receive sel = some d') :
    (∃ requests timers, d' = { d with
        requestChannel := requests
        readyForDispatch := tokensLeft d sel
        timerC := timers })
      ∧ ∀ c, sel = .ready c → c ∈ d.readyForDispatch := by
  cases sel with
  | request c =>
      simp only [ServerDispatcher.receive] at h
      split at h
      · cases h
        exact ⟨⟨_, _, rfl⟩, fun _ hc => by cases hc⟩
      · exact absurd h (by simp)
  | timer c =>
      simp only [ServerDispatcher.receive] at h
      split at h
      · cases h
        exact ⟨⟨_, _, rfl⟩, fun _ hc => by cases hc⟩
      · exact absurd h (by simp)
  | ready c =>
      simp only [ServerDispatcher.receive] at h
      split at h
      · rename_i hm
        cases h
        exact ⟨⟨_, _, rfl⟩, fun x hx => by cases hx; exact hm⟩
      · exact absurd h (by simp)

end

end OcppGo.Proof
