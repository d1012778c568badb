import OcppGo.Proof.ServerChanges
import OcppGo.Lib.Lists

/-!
# What an event of one client does, and to whom

Every function of the dispatcher is about one client. `Elsewhere` says what the
other clients see of it, which is nothing: their queues, slots, contexts, tokens,
frames and cancellations stay. The rest of the module says what the branches of
the pump do to the client they are about.
-/

namespace OcppGo.Proof

open OcppGo.Ocppj OcppGo.Lib

/-- What was written to a client, in order. -/
def framesTo (d : ServerDispatcher) (c : String) : List Posted :=
  (d.written.filter (fun w => w.1 = c)).map Prod.snd

/-- The cancellations reported for a client, in order. -/
def reportsFor (d : ServerDispatcher) (c : String) : List Cancellation :=
  d.canceled.filter (fun x => x.clientID = c)

/-- The other clients see no difference. -/
structure Elsewhere (c : String) (d d' : ServerDispatcher) : Prop where
  queue : ∀ x, x ≠ c → queueOf d' x = queueOf d x
  slot : ∀ x, x ≠ c → slotOf d' x = slotOf d x
  active : ∀ x, x ≠ c → d'.isActive x = d.isActive x
  ready : ∀ x, x ≠ c → (x ∈ d'.readyForDispatch ↔ x ∈ d.readyForDispatch)
  frames : ∀ x, x ≠ c → framesTo d' x = framesTo d x
  reports : ∀ x, x ≠ c → reportsFor d' x = reportsFor d x

section

variable {d d' d'' : ServerDispatcher} {c : String}

theorem Elsewhere.trans (h : Elsewhere c d d') (h' : Elsewhere c d' d'') : Elsewhere c d d'' where
  queue := fun x hx => (h'.queue x hx).trans (h.queue x hx)
  slot := fun x hx => (h'.slot x hx).trans (h.slot x hx)
  active := fun x hx => (h'.active x hx).trans (h.active x hx)
  ready := fun x hx => (h'.ready x hx).trans (h.ready x hx)
  frames := fun x hx => (h'.frames x hx).trans (h.frames x hx)
  reports := fun x hx => (h'.reports x hx).trans (h.reports x hx)

theorem isActive_congr {x : String} (h : d'.clientContextMap x = d.clientContextMap x) :
    d'.isActive x = d.isActive x := by
  rw [ServerDispatcher.isActive, h, ServerDispatcher.isActive]

/-- A change of the client's context and of what all clients share. -/
theorem Elsewhere.vars (hq : d'.queueMap = d.queueMap)
    (hp : d'.pendingRequestState = d.pendingRequestState)
    (hr : d'.readyForDispatch = d.readyForDispatch) (hw : d'.written = d.written)
    (hc : d'.canceled = d.canceled)
    (hctx : ∀ x, x ≠ c → d'.clientContextMap x = d.clientContextMap x) : Elsewhere c d d' where
  queue := fun x _ => by rw [queueOf, hq, queueOf]
  slot := fun x _ => by rw [slotOf, hp, slotOf]
  active := fun x hx => isActive_congr (hctx x hx)
  ready := fun x _ => by rw [hr]
  frames := fun x _ => by rw [framesTo, hw, framesTo]
  reports := fun x _ => by rw [reportsFor, hc, reportsFor]

theorem Elsewhere.refl (c : String) (d : ServerDispatcher) : Elsewhere c d d :=
  .vars rfl rfl rfl rfl rfl (fun _ _ => rfl)

/-- Completing a request writes nothing, reports nothing and cancels no context. -/
theorem completeRequest_quiet (d : ServerDispatcher) (c rid : String) :
    (d.completeRequest c rid).written = d.written
      ∧ (d.completeRequest c rid).clientContextMap = d.clientContextMap
      ∧ (d.completeRequest c rid).canceled = d.canceled := by
  unfold ServerDispatcher.completeRequest
  split
  · exact ⟨rfl, rfl, rfl⟩
  · exact ⟨rfl, rfl, rfl⟩

theorem completeRequest_elsewhere (d : ServerDispatcher) (c rid : String) :
    Elsewhere c d (d.completeRequest c rid) := by
  obtain ⟨hw, hctx, hcan⟩ := completeRequest_quiet d c rid
  rcases completeRequest_cases d c rid with hsame | ⟨p, rest, _, hc⟩
  · rw [hsame]; exact Elsewhere.refl c d
  · refine ⟨fun x hx => ?_, fun x hx => ?_, fun x hx => isActive_congr (by rw [hctx]),
      fun x hx => ?_, fun x hx => by rw [framesTo, hw, framesTo],
      fun x hx => by rw [reportsFor, hcan, reportsFor]⟩
    · rw [hc.queues x, if_neg hx]
    · rw [hc.slots x, if_neg (fun he => hx he.1)]
    · unfold ServerDispatcher.completeRequest
      split
      · exact Iff.rfl
      · simp [hx]

theorem cancelRequest_elsewhere (d : ServerDispatcher) (bounded : Bool) (c : String) (p : Posted)
    (code : ErrorCode) (text : String) :
    Elsewhere c d (d.cancelRequest bounded c p code text) := by
  have h := completeRequest_elsewhere d c p.id
  unfold ServerDispatcher.cancelRequest
  split
  · exact ⟨h.queue, h.slot, h.active, h.ready, h.frames, h.reports⟩
  · exact ⟨h.queue, h.slot, h.active, h.ready, h.frames,
      fun x hx => by simp [reportsFor, Ne.symm hx]⟩

theorem cancelContext_elsewhere (d : ServerDispatcher) (c : String) :
    Elsewhere c d (d.cancelContext c) := by
  unfold ServerDispatcher.cancelContext
  split
  · exact .vars rfl rfl rfl rfl rfl (fun x hx => Function.update_of_ne hx _ _)
  · exact Elsewhere.refl c d

theorem onTimer_elsewhere (d : ServerDispatcher) (bounded : Bool) (c : String) :
    Elsewhere c d (d.onTimer bounded c) := by
  have hctx := cancelContext_elsewhere d c
  unfold ServerDispatcher.onTimer
  split
  · unfold ServerDispatcher.cancelTimedOut
    split
    · exact hctx.trans (.vars rfl rfl rfl rfl rfl (fun _ _ => rfl))
    · split
      · exact hctx.trans (.vars rfl rfl rfl rfl rfl (fun _ _ => rfl))
      · exact hctx.trans (cancelRequest_elsewhere _ bounded c _ _ _)
  · exact hctx

theorem onSelect_elsewhere (d : ServerDispatcher) (bounded : Bool) (sel : ServerSelect) :
    Elsewhere sel.clientID d (d.onSelect bounded sel) := by
  cases sel with
  | request c =>
      simp only [ServerDispatcher.onSelect, ServerDispatcher.onRequest]
      split
      · exact .vars rfl rfl rfl rfl rfl (fun x hx => Function.update_of_ne hx _ _)
      · exact .vars rfl rfl rfl rfl rfl (fun _ _ => rfl)
  | timer c => exact onTimer_elsewhere d bounded c
  | ready c =>
      exact (cancelContext_elsewhere d c).trans (.vars rfl rfl rfl rfl rfl (fun _ _ => rfl))

theorem dispatchNextRequest_elsewhere (d : ServerDispatcher) (bounded : Bool) (c : String)
    (write : Option String) : Elsewhere c d (d.dispatchNextRequest bounded c write) := by
  unfold ServerDispatcher.dispatchNextRequest
  split
  · exact .vars rfl rfl rfl rfl rfl (fun x hx => Function.update_of_ne hx _ _)
  · split
    · exact .vars rfl rfl rfl rfl rfl (fun _ _ => rfl)
    · rename_i p hp
      -- the head is marked and written
      have hsent : Elsewhere c d { d with
          pendingRequestState := d.pendingRequestState.addPendingRequest c p.id p.payload
          written := d.written ++ [(c, p)] } := by
        refine ⟨fun _ _ => rfl, fun x hx => ?_, fun _ _ => rfl, fun _ _ => Iff.rfl,
          fun x hx => ?_, fun _ _ => rfl⟩
        · rw [slotOf, ServerState.clientState_add, if_neg hx, slotOf]
        · simp [framesTo, Ne.symm hx]
      dsimp only
      split
      · rename_i text
        have h := hsent.trans (cancelRequest_elsewhere _ bounded c p InternalError text)
        exact ⟨h.queue, h.slot, fun x hx => isActive_congr (Function.update_of_ne hx _ _), h.ready,
          h.frames, h.reports⟩
      · split
        · exact hsent.trans (.vars rfl rfl rfl rfl rfl (fun x hx => Function.update_of_ne hx _ _))
        · exact hsent.trans (.vars rfl rfl rfl rfl rfl (fun x hx => Function.update_of_ne hx _ _))

/-- **An iteration is seen by the client it is about only.** -/
theorem messagePump_elsewhere (d : ServerDispatcher) (bounded : Bool) (sel : ServerSelect)
    (write : Option String) : Elsewhere sel.clientID d (d.messagePump bounded sel write) := by
  have hsel := onSelect_elsewhere d bounded sel
  unfold ServerDispatcher.messagePump ServerDispatcher.dispatchIfReady
  split
  · exact hsel.trans (dispatchNextRequest_elsewhere _ bounded _ write)
  · exact hsel

/-! ## What the branches of the select do -/

theorem cancelContext_inactive (d : ServerDispatcher) (c : String) :
    (d.cancelContext c).isActive c = false := by
  unfold ServerDispatcher.cancelContext
  split
  · simp [ServerDispatcher.isActive]
  · rename_i h
    exact Bool.not_eq_true _ ▸ h

/-- Taking requests off queues makes nothing ready. -/
theorem dispatches_of_completeRequest {rid : String}
    (h : (d.completeRequest c rid).dispatches = true) : d.dispatches = true := by
  unfold ServerDispatcher.completeRequest at h
  split at h
  · exact h
  · rename_i r _
    unfold ServerDispatcher.dispatches at h ⊢
    split at h
    · exact absurd h (by simp)
    · rename_i r' hr'
      rw [show d.clientQueue = some r' from hr']
      dsimp only
      rw [Bool.and_eq_true] at h ⊢
      refine ⟨h.1, ?_⟩
      by_cases hr : r' = r
      · subst hr
        have htail := h.2
        simp only [FIFOQueueMap.deref, FIFOQueueMap.store, Function.update_self,
          FIFOClientQueue.isEmpty_eq, FIFOClientQueue.elements_pop] at htail ⊢
        cases hq : (d.queueMap.heap r').elements with
        | nil => rw [hq] at htail; exact absurd htail (by simp)
        | cons x xs => rfl
      · simpa [FIFOQueueMap.deref, FIFOQueueMap.store, hr] using h.2

theorem dispatches_of_cancelRequest {bounded : Bool} {p : Posted} {code : ErrorCode} {text : String}
    (h : (d.cancelRequest bounded c p code text).dispatches = true) : d.dispatches = true := by
  have hcompleted : (d.completeRequest c p.id).dispatches = true := by
    unfold ServerDispatcher.cancelRequest at h
    split at h
    · exact h
    · exact h
  exact dispatches_of_completeRequest hcompleted

theorem cancelContext_frame (d : ServerDispatcher) (c : String) :
    (d.cancelContext c).status = d.status ∧ (d.cancelContext c).dispatches = d.dispatches
      ∧ (d.cancelContext c).readyForDispatch = d.readyForDispatch := by
  unfold ServerDispatcher.cancelContext
  split
  · exact ⟨rfl, rfl, rfl⟩
  · exact ⟨rfl, rfl, rfl⟩

/-- What a timer event finds ready was ready before. -/
theorem dispatches_of_onTimer {bounded : Bool} (h : (d.onTimer bounded c).dispatches = true) :
    d.dispatches = true := by
  rw [← (cancelContext_frame d c).2.1]
  unfold ServerDispatcher.onTimer at h
  split at h
  · unfold ServerDispatcher.cancelTimedOut at h
    split at h
    · exact h
    · split at h
      · exact h
      · exact dispatches_of_cancelRequest h
  · exact h

end

end OcppGo.Proof
