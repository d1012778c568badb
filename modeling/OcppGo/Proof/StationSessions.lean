import OcppGo.ChargingStation
import OcppGo.Proof.ClientCoherence
import OcppGo.Proof.ClientCorrelation
import Mathlib.Data.List.Nodup

/-!
# The callbacks of a charging station over several sessions

Callbacks are matched with outcomes by position alone: whatever ends, by a reply
or by a cancellation, was the head of the dispatcher's queue, and the first
callback is invoked for it. That is right as long as the queued callbacks are
those of the queued requests. A `Stop` with requests queued breaks it, because the
pump empties its queue on the way out and the callbacks stay. From then on every
outcome goes to a callback of the session before.

There is one other way to lose step. A pump that cancels a request while
`readyForDispatch` is full pops the request and then waits for ever, and the
cancellation is never reported. Nothing is pending then, and no outcome comes in
any more.
-/

namespace OcppGo.Proof

open OcppGo.Lib OcppGo.Ocppj

/-- The ids of the queued requests, in order. -/
def waitingIds (d : ClientDispatcher) : List String := d.requestQueue.elements.map Posted.id

/-! ## What an iteration of the pump takes off the queue -/

/-- From `d` to `d'` these were reported as canceled, and these lost by a pump that is stuck. -/
structure Drops (d d' : ClientDispatcher) (l : List Canceled) (lost : List String) : Prop where
  canceled : d'.canceled = d.canceled ++ l
  queue : waitingIds d = l.map Canceled.requestID ++ (lost ++ waitingIds d')
  head : SlotIsHead d'
  stuck : lost = [] ∨ d'.status = .stuck ∧ d'.pendingRequestState.requestID = ""

section

variable {d d' d'' : ClientDispatcher} {l l' : List Canceled} {lost : List String}

theorem Drops.same (h : SlotIsHead d') (hq : d'.requestQueue = d.requestQueue)
    (hc : d'.canceled = d.canceled) : Drops d d' [] [] where
  canceled := by rw [hc, List.append_nil]
  queue := by rw [waitingIds, waitingIds, hq]; rfl
  head := h
  stuck := Or.inl rfl

theorem Drops.trans (h : Drops d d' l []) (h' : Drops d' d'' l' lost) :
    Drops d d'' (l ++ l') lost where
  canceled := by rw [h'.canceled, h.canceled, List.append_assoc]
  queue := by rw [h.queue, List.nil_append, h'.queue, List.map_append, List.append_assoc]
  head := h'.head
  stuck := h'.stuck

/-- The head is canceled, or lost with a pump that waits for itself. -/
theorem cancelRequest_drops {p : Posted} (h : SlotIsHead d) (hp : d.requestQueue.peek = some p)
    (code : ErrorCode) (text : String) :
    ∃ l lost, Drops d (d.cancelRequest p code text) l lost := by
  have hfree := (cancelRequest_frame h hp code text).1
  have hpop : waitingIds d = p.id :: waitingIds (d.popRequest p.id) := by
    rw [waitingIds, FIFOClientQueue.cons_tail_of_peek hp]
    rfl
  have hhead : SlotIsHead (d.cancelRequest p code text) := fun hne => absurd hfree hne
  unfold ClientDispatcher.cancelRequest at hfree hhead ⊢
  split
  · rename_i hfull
    rw [if_pos hfull] at hfree hhead
    exact ⟨[], [p.id],
      { canceled := (List.append_nil _).symm, queue := hpop, head := hhead
        stuck := Or.inr ⟨rfl, hfree⟩ }⟩
  · rename_i hroom
    rw [if_neg hroom, completeRequest_of_peek hp] at hhead
    rw [completeRequest_of_peek hp]
    exact ⟨[_], [], { canceled := rfl, queue := hpop, head := hhead, stuck := Or.inl rfl }⟩

theorem dispatchNextRequest_drops {p : Posted} (h : SlotIsHead d)
    (hp : d.requestQueue.peek = some p) (write : Option String) :
    ∃ l lost, Drops d (d.dispatchNextRequest write) l lost := by
  have hadd := h.addPending hp
  unfold ClientDispatcher.dispatchNextRequest
  rw [hp]
  cases write with
  | none => exact ⟨[], [], .same hadd rfl rfl⟩
  | some text =>
      obtain ⟨l, lost, hd⟩ := cancelRequest_drops hadd hp InternalError text
      exact ⟨l, lost, { hd with }⟩

theorem armTimeout_drops (h : SlotIsHead d) : Drops d d.armTimeout [] [] := by
  unfold ClientDispatcher.armTimeout
  split
  · exact .same h rfl rfl
  · exact .same h rfl rfl

theorem dispatchIfReady_drops (h : SlotIsHead d) (write : Option String) :
    ∃ l lost, Drops d (d.dispatchIfReady write) l lost := by
  have hsame : ∃ l lost, Drops d d l lost := ⟨[], [], .same h rfl rfl⟩
  unfold ClientDispatcher.dispatchIfReady
  split
  · exact hsame
  · split
    · exact hsame
    · split
      · rename_i hready
        obtain ⟨p, hp⟩ : ∃ p, d.requestQueue.peek = some p := by
          cases hq : d.requestQueue.elements with
          | nil => simp [hq] at hready
          | cons p rest => exact ⟨p, by rw [FIFOClientQueue.peek_eq, hq]; rfl⟩
        obtain ⟨l, lost, hd⟩ := dispatchNextRequest_drops h hp write
        dsimp only
        split
        · rename_i hrun
          have hlost : lost = [] := hd.stuck.resolve_right fun hs => by
            rw [hs.1] at hrun
            exact absurd hrun (by simp)
          subst hlost
          exact ⟨l ++ [], [], hd.trans (armTimeout_drops hd.head)⟩
        · exact ⟨l, lost, hd⟩
      · exact hsame

theorem onTimeout_drops (h : SlotIsHead d) : ∃ l lost, Drops d d.onTimeout l lost := by
  have hcancel : ∃ l lost, Drops d d.cancelTimedOut l lost := by
    unfold ClientDispatcher.cancelTimedOut
    split
    · split
      · exact ⟨[], [], .same h rfl rfl⟩
      · rename_i p hp
        exact cancelRequest_drops h hp _ _
    · exact ⟨[], [], .same h rfl rfl⟩
  obtain ⟨l, lost, hd⟩ := hcancel
  unfold ClientDispatcher.onTimeout
  split
  · exact ⟨l, lost, { hd with }⟩
  · exact ⟨l, lost, hd⟩

/-- **An iteration takes requests off the head of the queue and reports them in that order.** -/
theorem messagePump_drops {sel : ClientDispatcher.Select} {write : Option String}
    (h : SlotIsHead d) (hd : d.messagePump sel write = some d') : ∃ l lost, Drops d d' l lost := by
  unfold ClientDispatcher.messagePump at hd
  cases sel with
  | request =>
      dsimp only at hd
      split at hd
      · cases hd
        obtain ⟨l, lost, hd⟩ := dispatchIfReady_drops
          (d := { d with requestChannel := d.requestChannel - 1 }) h write
        exact ⟨l, lost, { hd with }⟩
      · exact absurd hd (by simp)
  | timer =>
      dsimp only at hd
      split at hd
      · cases hd
        obtain ⟨l, lost, hd⟩ := onTimeout_drops
          (d := { d with timer := { d.timer with tick := false } }) h
        obtain ⟨l', lost', hd'⟩ := dispatchIfReady_drops hd.head write
        rcases hd.stuck with rfl | ⟨hstuck, _⟩
        · have htrans := hd.trans hd'
          exact ⟨l ++ l', lost', { htrans with }⟩
        · -- a stuck pump does not get to the dispatch
          have hstay : ∀ e : ClientDispatcher, e.status = .stuck → e.dispatchIfReady write = e := by
            intro e he
            rw [ClientDispatcher.dispatchIfReady, if_pos (by rw [he]; simp)]
          rw [hstay _ hstuck]
          exact ⟨l, lost, { hd with }⟩
      · exact absurd hd (by simp)
  | ready =>
      dsimp only at hd
      split at hd
      · cases hd
        obtain ⟨l, lost, hd⟩ := dispatchIfReady_drops
          (d := { d with readyForDispatch := d.readyForDispatch - 1, rdy := true }) h write
        exact ⟨l, lost, { hd with }⟩
      · exact absurd hd (by simp)

end

/-! ## Callbacks and requests in step -/

/-- The queued callbacks are those of the requests `ids`, and all invoked ones were right. -/
structure Served (s : ChargingStation) (ids : List String) : Prop where
  lockstep :
    (s.callbacks.queued ChargingStation.callbackKey).map SessionRequest.requestId = ids
  registered : ∀ r ∈ s.callbacks.queued ChargingStation.callbackKey, r ∈ s.accepted
  own : ∀ v ∈ s.invoked, v.callback ∈ s.accepted ∧ v.callback.requestId = v.requestId

section

variable {s : ChargingStation} {ids : List String}

theorem Served.nil_iff (h : Served s ids) :
    s.callbacks.queued ChargingStation.callbackKey = [] ↔ ids = [] := by
  rw [← h.lockstep, List.map_eq_nil_iff]

/-- An outcome of the first request goes to its callback. -/
theorem Served.invokeNext {id : String} (h : Served s (id :: ids))
    (result : Except OcppError Payload) : Served (s.invokeNext id result) ids := by
  obtain ⟨r, rest, hq, hid, hids⟩ := List.map_eq_cons_iff.mp h.lockstep
  rw [ChargingStation.invokeNext, CallbackQueue.dequeue_cons hq]
  constructor
  case lockstep => simpa using hids
  case registered =>
    intro r' hr'
    rw [CallbackQueue.queued_put_self] at hr'
    exact h.registered r' (by rw [hq]; exact List.mem_cons_of_mem r hr')
  case own =>
    intro v hv
    rcases List.mem_append.mp hv with hv | hv
    · exact h.own v hv
    · rw [List.mem_singleton.mp hv]
      exact ⟨h.registered r (by rw [hq]; exact List.mem_cons_self), hid⟩

/-- Invoking a callback changes nothing else. -/
theorem invokeNext_rest (s : ChargingStation) (id : String) (result : Except OcppError Payload) :
    (s.invokeNext id result).client = s.client
      ∧ (s.invokeNext id result).lifecycle = s.lifecycle
      ∧ (s.invokeNext id result).accepted = s.accepted := by
  unfold ChargingStation.invokeNext
  split
  · exact ⟨rfl, rfl, rfl⟩
  · exact ⟨rfl, rfl, rfl⟩

theorem onRequestTimeout_rest (l : List Canceled) (s : ChargingStation) :
    (l.foldl ChargingStation.onRequestTimeout s).client = s.client
      ∧ (l.foldl ChargingStation.onRequestTimeout s).lifecycle = s.lifecycle
      ∧ (l.foldl ChargingStation.onRequestTimeout s).accepted = s.accepted := by
  induction l generalizing s with
  | nil => exact ⟨rfl, rfl, rfl⟩
  | cons x l ih =>
      obtain ⟨hc, hl, ha⟩ := invokeNext_rest s x.requestID (.error x.err)
      obtain ⟨ihc, ihl, iha⟩ := ih (s.onRequestTimeout x)
      exact ⟨ihc.trans hc, ihl.trans hl, iha.trans ha⟩

/-- Cancellations are told to the callbacks of the canceled requests. -/
theorem Served.canceled (l : List Canceled) (h : Served s (l.map Canceled.requestID ++ ids)) :
    Served (l.foldl ChargingStation.onRequestTimeout s) ids := by
  induction l generalizing s with
  | nil => exact h
  | cons x l ih => exact ih (h.invokeNext (.error x.err))

end

/-- What holds between the operations, as long as every `Stop` found no callback queued. -/
structure SessionInStep (s : ChargingStation) : Prop where
  head : SlotIsHead s.client.dispatcher
  served : ∃ ids, Served s ids ∧
    (ids = waitingIds s.client.dispatcher ∨
      s.client.dispatcher.status ≠ .running ∧
        s.client.dispatcher.pendingRequestState.requestID = "")
  issued : ∀ r ∈ s.accepted, r.requestId ∈ s.client.issued
  distinct : (s.accepted.map SessionRequest.requestId).Nodup
  stopped : s.lifecycle ≠ .running → s.callbacks.queued ChargingStation.callbackKey = []

/-- `Stop` is called only when no callback is queued. -/
def NoCallbackLeft (s : ChargingStation) : ChargingStation.Action → Prop
  | .stop => s.callbacks.queued ChargingStation.callbackKey = []
  | _ => True

section

variable {cfg : ClientConfig} {s s' : ChargingStation} {d : ClientDispatcher}

theorem sessionInStep_start (cfg : ClientConfig) : SessionInStep (.start cfg) where
  head := fun hne => absurd rfl hne
  served := ⟨[], ⟨rfl, fun _ hr => (nomatch hr), fun _ hv => (nomatch hv)⟩, Or.inl rfl⟩
  issued := fun _ hr => nomatch hr
  distinct := List.nodup_nil
  stopped := fun _ => rfl

/-- The dispatcher moves on with the queue and the slot's id as they were. -/
theorem SessionInStep.setDispatcher (h : SessionInStep s) (hhead : SlotIsHead d)
    (hq : waitingIds d = waitingIds s.client.dispatcher)
    (hslot : d.pendingRequestState.requestID
      = s.client.dispatcher.pendingRequestState.requestID)
    (hrun : d.status = .running → s.client.dispatcher.status = .running) :
    SessionInStep (s.setDispatcher d) where
  head := hhead
  served := by
    obtain ⟨ids, hs, hids⟩ := h.served
    refine ⟨ids, ⟨hs.lockstep, hs.registered, hs.own⟩, ?_⟩
    rcases hids with hids | ⟨hst, hfree⟩
    · exact Or.inl (hids.trans hq.symm)
    · exact Or.inr ⟨fun he => hst (hrun he), hslot.trans hfree⟩
  issued := h.issued
  distinct := h.distinct
  stopped := h.stopped

theorem SessionInStep.panicked (h : SessionInStep s) : SessionInStep s.panicked :=
  h.setDispatcher h.head rfl rfl (fun he => by simp at he)

/-! ## Requests -/

/-- The two ways the client's `SendRequest` can end. -/
inductive SendEffect (c : Client) (uid : String) (err : Option GoError) (c' : Client) : Prop where
  | refused (e : GoError) : err = some e → c'.dispatcher = c.dispatcher →
      (∀ i ∈ c.issued, i ∈ c'.issued) → SendEffect c uid err c'
  | sent (req : RequestBundle) : err = none → req.call.uniqueId = uid →
      c.dispatcher.sendRequest req = .ok c'.dispatcher → c'.issued = c.issued ++ [uid] →
      SendEffect c uid err c'

theorem sendRequest_effect (cfg : ClientConfig) (c : Client) (uid : String) (request : Payload) :
    SendEffect c uid (c.sendRequestError cfg uid request) (c.sendRequest cfg uid request) := by
  have hmem : ∀ i ∈ c.issued, i ∈ c.issued ++ [uid] := fun i hi => List.mem_append_left _ hi
  unfold Client.sendRequest Client.sendRequestError
  cases hcall : cfg.endpoint.createCall cfg.lib cfg.validationEnabled uid request with
  | error err =>
      cases cfg.endpoint.getProfileForFeature request.featureName with
      | none => exact .refused err rfl rfl (fun _ hi => hi)
      | some profile => exact .refused err rfl rfl hmem
  | ok call =>
      obtain ⟨hc, profile, hprofile⟩ := Endpoint.createCall_ok hcall
      rw [hprofile]
      dsimp only
      cases cfg.lib.marshal (.call call) with
      | error text => exact .refused (.plain text) rfl rfl hmem
      | ok jsonMessage =>
          dsimp only
          cases hd : c.dispatcher.sendRequest { call := call, data := jsonMessage } with
          | error text => exact .refused (.plain text) rfl rfl hmem
          | ok d => exact .sent _ rfl (by rw [hc]) hd rfl

/-- An accepted push adds one id to the queue, and leaves a taken slot at its head. -/
theorem sendRequest_waiting {req : RequestBundle} {d d' : ClientDispatcher} (h : SlotIsHead d)
    (hd : d.sendRequest req = .ok d') :
    SlotIsHead d' ∧ waitingIds d' = waitingIds d ++ [req.call.uniqueId] ∧
      d'.pendingRequestState = d.pendingRequestState ∧ d'.status = d.status := by
  unfold ClientDispatcher.sendRequest at hd
  split at hd
  · exact absurd hd (by simp)
  · rename_i q hq
    cases hd
    have hq := FIFOClientQueue.push_ok hq
    refine ⟨fun hne => ?_, ?_, rfl, rfl⟩
    · obtain ⟨p, hp, hid⟩ := h hne
      refine ⟨p, ?_, hid⟩
      rw [hq, FIFOClientQueue.peek_eq, FIFOClientQueue.cons_tail_of_peek hp]
      rfl
    · simp [waitingIds, hq, Posted.id]

theorem SessionInStep.refused {c : Client} {uid : String} (h : SessionInStep s)
    (hd : c.dispatcher = s.client.dispatcher) (hi : ∀ i ∈ s.client.issued, i ∈ c.issued)
    (err : GoError) : SessionInStep ({ s with client := c }.refused uid err) := by
  have hq : ∀ x, ({ s with client := c }.refused uid err).callbacks.queued x
      = s.callbacks.queued x := fun x => CallbackQueue.queued_tryQueue_some s.callbacks _ x err _
  have hd' : ({ s with client := c }.refused uid err).client.dispatcher = s.client.dispatcher :=
    hd
  obtain ⟨ids, hs, hids⟩ := h.served
  constructor
  case head => rw [hd']; exact h.head
  case served =>
    refine ⟨ids, ⟨by rw [hq]; exact hs.lockstep, fun r hr => hs.registered r (hq _ ▸ hr),
      hs.own⟩, ?_⟩
    rw [hd']
    exact hids
  case issued => exact fun r hr => hi _ (h.issued r hr)
  case distinct => exact h.distinct
  case stopped => exact fun hl => by rw [hq]; exact h.stopped hl

theorem SessionInStep.trySend (h : SessionInStep s) {uid : String} (hfresh : uid ∉ s.client.issued)
    (request : Payload) : SessionInStep (s.trySend cfg uid request) := by
  have heff := sendRequest_effect cfg s.client uid request
  unfold ChargingStation.trySend
  dsimp only
  split
  · exact h.refused rfl (fun _ hi => hi) _
  · rename_i hl
    cases heff with
    | refused e he hd hi =>
        rw [he]
        exact h.refused hd hi e
    | sent req he hreq hd hi =>
        rw [he]
        obtain ⟨hhead, hw, hslot, hst⟩ := sendRequest_waiting h.head hd
        obtain ⟨ids, hs, hids⟩ := h.served
        constructor
        case head => exact hhead
        case served =>
          refine ⟨ids ++ [uid], ⟨?_, ?_, ?_⟩, ?_⟩
          · simp [CallbackQueue.tryQueue, hs.lockstep]
          · intro r hr
            simp only [CallbackQueue.tryQueue, CallbackQueue.queued_append_self] at hr
            rcases List.mem_append.mp hr with hr | hr
            · exact List.mem_append_left _ (hs.registered r hr)
            · exact List.mem_append_right _ hr
          · intro v hv
            obtain ⟨hmem, hid⟩ := hs.own v hv
            exact ⟨List.mem_append_left _ hmem, hid⟩
          · rcases hids with hids | ⟨hrun, hfree⟩
            · exact Or.inl (by rw [hids, hw, hreq])
            · exact Or.inr ⟨by rw [hst]; exact hrun, by rw [hslot]; exact hfree⟩
        case issued =>
          intro r hr
          show r.requestId ∈ (s.client.sendRequest cfg uid request).issued
          rw [hi]
          rcases List.mem_append.mp hr with hr | hr
          · exact List.mem_append_left _ (h.issued r hr)
          · rw [List.mem_singleton.mp hr]
            exact List.mem_append_right _ (List.mem_singleton_self uid)
        case distinct =>
          show ((s.accepted ++ [_]).map SessionRequest.requestId).Nodup
          rw [List.map_append, List.map_singleton]
          refine h.distinct.append (List.nodup_singleton _) ?_
          rw [List.disjoint_singleton]
          intro hmem
          obtain ⟨r, hr, hid⟩ := List.mem_map.mp hmem
          have hissued := h.issued r hr
          rw [hid] at hissued
          exact hfresh hissued
        case stopped => exact fun hne => absurd hl hne
  · cases heff with
    | refused e he hd hi =>
        rw [he]
        exact h.refused hd hi e
    | sent req he _ _ _ =>
        rw [he]
        exact h.panicked

/-! ## Outcomes -/

/-- Once callbacks were invoked, the fields they do not touch are as before. -/
theorem SessionInStep.of_served {t : ChargingStation} {ids : List String} (h : SessionInStep s)
    (hserved : Served t ids) (hhead : SlotIsHead t.client.dispatcher)
    (hids : ids = waitingIds t.client.dispatcher ∨
      t.client.dispatcher.status ≠ .running ∧
        t.client.dispatcher.pendingRequestState.requestID = "")
    (hissued : t.client.issued = s.client.issued) (hl : t.lifecycle = s.lifecycle)
    (ha : t.accepted = s.accepted)
    (hstopped : s.lifecycle ≠ .running → ids = []) : SessionInStep t where
  head := hhead
  served := ⟨ids, hserved, hids⟩
  issued := by rw [ha, hissued]; exact h.issued
  distinct := by rw [ha]; exact h.distinct
  stopped := fun hne => hserved.nil_iff.mpr (hstopped (by rw [← hl]; exact hne))

theorem SessionInStep.messagePump {sel : ClientDispatcher.Select} {write : Option String}
    (h : SessionInStep s) (hrun : s.client.dispatcher.status = .running)
    (hs : s.messagePump sel write = some s') : SessionInStep s' := by
  obtain ⟨d, hd, rfl⟩ := Option.map_eq_some_iff.mp hs
  obtain ⟨l, lost, hdrops⟩ := messagePump_drops h.head hd
  obtain ⟨ids, hserved, hids⟩ := h.served
  have hids : ids = l.map Canceled.requestID ++ (lost ++ waitingIds d) :=
    (hids.resolve_right fun hst => hst.1 hrun).trans hdrops.queue
  have hserved' : Served (s.setDispatcher d)
      (l.map Canceled.requestID ++ (lost ++ waitingIds d)) := by
    rw [← hids]
    exact ⟨hserved.lockstep, hserved.registered, hserved.own⟩
  have hnew : d.canceled.drop s.client.dispatcher.canceled.length = l := by
    rw [hdrops.canceled, List.drop_left]
  rw [hnew]
  obtain ⟨hc, hl, ha⟩ := onRequestTimeout_rest l (s.setDispatcher d)
  refine h.of_served (hserved'.canceled l) ?_ ?_ ?_ hl ha ?_
  · rw [hc]
    exact hdrops.head
  · rw [hc]
    rcases hdrops.stuck with rfl | ⟨hst, hfree⟩
    · exact Or.inl rfl
    · exact Or.inr ⟨by rw [ChargingStation.setDispatcher, hst]; simp, hfree⟩
  · rw [hc]
    rfl
  · intro hne
    have hnil := hserved.nil_iff.mp (h.stopped hne)
    rw [hids, List.append_eq_nil_iff] at hnil
    exact hnil.2

/-- A reply that is let through is an outcome of the head of the queue. -/
theorem SessionInStep.reply {c : Client} {rid : String} (h : SessionInStep s) (hne : rid ≠ "")
    (hslot : s.client.dispatcher.pendingRequestState.requestID = rid)
    (hd : c.dispatcher = s.client.dispatcher.completeRequest rid)
    (hi : c.issued = s.client.issued) (result : Except OcppError Payload) :
    SessionInStep ({ s with client := c }.invokeNext rid result) := by
  obtain ⟨p, hp, hid⟩ := h.head (by rw [hslot]; exact hne)
  rw [hslot] at hid
  subst hid
  have hpop := completeRequest_of_peek hp
  rw [hpop] at hd
  have hw : waitingIds s.client.dispatcher = p.id :: waitingIds c.dispatcher := by
    rw [waitingIds, FIFOClientQueue.cons_tail_of_peek hp, hd]
    rfl
  obtain ⟨ids, hserved, hids⟩ := h.served
  have hids : ids = p.id :: waitingIds c.dispatcher :=
    (hids.resolve_right fun hst => hne (hslot.symm.trans hst.2)).trans hw
  subst hids
  have hserved' : Served { s with client := c } (p.id :: waitingIds c.dispatcher) :=
    ⟨hserved.lockstep, hserved.registered, hserved.own⟩
  obtain ⟨hc, hl, ha⟩ := invokeNext_rest { s with client := c } p.id result
  refine h.of_served (hserved'.invokeNext result) ?_ ?_ ?_ hl ha ?_
  · rw [hc]
    show SlotIsHead c.dispatcher
    rw [hd]
    exact fun hbusy => absurd (h.head.delete hp) hbusy
  · rw [hc]
    exact Or.inl rfl
  · rw [hc]
    exact hi
  · intro hl
    exact absurd (hserved.nil_iff.mp (h.stopped hl)) (by simp)

theorem sendError_invokesNone (cfg : ClientConfig) (id : String) (code : ErrorCode)
    (text : String) (details : Option Json) (s : ChargingStation) :
    (Client.sendError cfg id code text details).foldl ChargingStation.handlerCall s = s := by
  unfold Client.sendError
  split
  · rfl
  · split
    · rfl
    · rfl

theorem SessionInStep.ocppMessageHandler (h : SessionInStep s) (data : List UInt8) :
    SessionInStep (s.ocppMessageHandler cfg data) := by
  unfold ChargingStation.ocppMessageHandler Client.ocppMessageHandler
  split
  · exact h
  · split
    · exact h.panicked
    · dsimp only
      split
      · rw [sendError_invokesNone]
        exact h
      · exact h
    · exact h
    · exact h
    · rename_i r hparse
      obtain ⟨hne, hslot⟩ := pending_of_replyId hparse rfl
      exact h.reply (c := { s.client with
        dispatcher := s.client.dispatcher.completeRequest r.uniqueId
        answered := s.client.answered ++ [r.uniqueId] }) hne hslot rfl rfl (.ok r.payload)
    · rename_i e hparse
      obtain ⟨hne, hslot⟩ := pending_of_replyId hparse rfl
      exact h.reply (c := { s.client with
        dispatcher := s.client.dispatcher.completeRequest e.uniqueId
        answered := s.client.answered ++ [e.uniqueId] }) hne hslot rfl rfl _

/-! ## Sessions -/

theorem SessionInStep.stop (h : SessionInStep s) (hok : NoCallbackLeft s .stop)
    (hs : s.stop = some s') : SessionInStep s' := by
  unfold ChargingStation.stop at hs
  split at hs
  · split at hs
    · cases hs
      obtain ⟨ids, hserved, hids⟩ := h.served
      exact ⟨h.head, ⟨ids, ⟨hserved.lockstep, hserved.registered, hserved.own⟩, hids⟩, h.issued,
        h.distinct, fun _ => hok⟩
    · exact absurd hs (by simp)
  · cases hs
    exact h
  · cases hs
    exact h.panicked

/-- The queue the exiting pump empties was empty. -/
theorem SessionInStep.exit (h : SessionInStep s) (hs : s.exit = some s') : SessionInStep s' := by
  unfold ChargingStation.exit at hs
  dsimp only at hs
  split at hs
  · rename_i hcond
    obtain ⟨hl, hrun, _⟩ := hcond
    cases hs
    have hnone := h.stopped (by simp [hl])
    obtain ⟨ids, hserved, hids⟩ := h.served
    have hempty : waitingIds s.client.dispatcher = [] :=
      (hids.resolve_right fun hst => hst.1 hrun).symm.trans (hserved.nil_iff.mp hnone)
    have hfree : s.client.dispatcher.pendingRequestState.requestID = "" := by
      by_contra hne
      obtain ⟨p, hp, _⟩ := h.head hne
      rw [waitingIds, FIFOClientQueue.cons_tail_of_peek hp] at hempty
      exact absurd hempty (by simp)
    refine ⟨fun hne => absurd hfree hne, ⟨[], ⟨?_, hserved.registered, hserved.own⟩,
      Or.inl rfl⟩, h.issued, h.distinct, fun _ => hnone⟩
    show (s.callbacks.queued ChargingStation.callbackKey).map SessionRequest.requestId = []
    rw [hnone]
    rfl
  · exact absurd hs (by simp)

theorem SessionInStep.restart (h : SessionInStep s) (hs : s.restart = some s') :
    SessionInStep s' := by
  unfold ChargingStation.restart at hs
  split at hs
  · cases hs
    obtain ⟨ids, hserved, hids⟩ := h.served
    exact ⟨h.head, ⟨ids, ⟨hserved.lockstep, hserved.registered, hserved.own⟩, hids⟩, h.issued,
      h.distinct, fun hl => absurd rfl hl⟩
  · exact absurd hs (by simp)

theorem sessionInStep_step {a : ChargingStation.Action} (h : SessionInStep s)
    (hok : NoCallbackLeft s a) (hs : s.act cfg a = some s') : SessionInStep s' := by
  unfold ChargingStation.act at hs
  split at hs
  · exact absurd hs (by simp)
  · cases a with
    | start => exact h.restart hs
    | stop => exact h.stop hok hs
    | exit => exact h.exit hs
    | sendRequestAsync uid request =>
        dsimp only at hs
        split at hs
        · rename_i hid
          cases hs
          unfold ChargingStation.sendRequestAsync
          dsimp only
          split
          · exact h
          · exact h.trySend hid.2 request
        · exact absurd hs (by simp)
    | messagePump sel write =>
        dsimp only at hs
        split at hs
        · rename_i hrun
          exact h.messagePump hrun.1 hs
        · exact absurd hs (by simp)
    | ocppMessageHandler data =>
        cases hs
        exact h.ocppMessageHandler data
    | pause =>
        obtain ⟨d, hd, rfl⟩ := Option.map_eq_some_iff.mp hs
        unfold ClientDispatcher.pause at hd
        split at hd
        · exact absurd hd (by simp)
        · cases hd
          exact h.setDispatcher h.head rfl rfl (fun he => he)
    | resume =>
        cases hs
        unfold ClientDispatcher.resume
        split
        · exact h.setDispatcher h.head rfl rfl (fun he => he)
        · exact h.setDispatcher h.head rfl rfl (fun he => he)
    | timerExpires =>
        obtain ⟨t, _, rfl⟩ := Option.map_eq_some_iff.mp hs
        exact h.setDispatcher h.head rfl rfl (fun he => he)

/--
**Callbacks do not leak into the next session.** When every `Stop` of the run
found no callback queued, every callback that was invoked got the outcome of the
request it was sent with, in the session it was sent in; and while the pump runs,
the queued callbacks are, one by one, those of the queued requests.
-/
theorem session_callbacks_own_outcomes
    (h : ReachableWhile (ChargingStation.machine cfg) NoCallbackLeft s) :
    (∀ v ∈ s.invoked, v.callback ∈ s.accepted ∧ v.callback.requestId = v.requestId ∧
      ∀ r ∈ s.accepted, r.requestId = v.requestId → r = v.callback) ∧
    (s.client.dispatcher.status = .running →
      (s.callbacks.queued ChargingStation.callbackKey).map SessionRequest.requestId
        = s.client.dispatcher.requestQueue.elements.map Posted.id) := by
  have hin : SessionInStep s := by
    refine ReachableWhile.invariant (P := SessionInStep) ?_ ?_ h
    · rintro _ rfl
      exact sessionInStep_start cfg
    · intro s a s' _ hP hok hs
      exact sessionInStep_step hP hok hs
  obtain ⟨ids, hserved, hids⟩ := hin.served
  refine ⟨fun v hv => ?_, fun hrun => ?_⟩
  · obtain ⟨hmem, hid⟩ := hserved.own v hv
    refine ⟨hmem, hid, fun r hr hrid => ?_⟩
    exact List.inj_on_of_nodup_map hin.distinct hr hmem (hrid.trans hid.symm)
  · rw [hserved.lockstep]
    exact hids.resolve_right fun hst => hst.1 hrun

end

/-! ## Two sessions -/

/-- `NoCallbackLeft`, as a check. -/
def noCallbackLeft (s : ChargingStation) : ChargingStation.Action → Bool
  | .stop => (s.callbacks.queued ChargingStation.callbackKey).isEmpty
  | _ => true

theorem noCallbackLeft_sound {s : ChargingStation} {a : ChargingStation.Action}
    (h : noCallbackLeft s a = true) : NoCallbackLeft s a := by
  cases a with
  | stop => exact List.isEmpty_iff.mp h
  | _ => trivial

/-- A heartbeat is sent and written. -/
def beating (id : String) : List ChargingStation.Action :=
  [.sendRequestAsync id heartbeatRequest, .messagePump .request none]

/-- `Stop`, the return of the pump, and `Start`. -/
def restarting : List ChargingStation.Action := [.stop, .exit, .start]

/-- The pending request times out. -/
def expiring : List ChargingStation.Action := [.timerExpires, .messagePump .timer none]

/-- The heartbeat of the first session is answered before `Stop`; that of the second times out. -/
theorem answered_before_stop :
    ∃ s, ReachableWhile (ChargingStation.machine heartbeatClient) NoCallbackLeft s ∧
      ∃ v w, s.invoked = [v, w] ∧
        v.callback = { session := 0, requestId := "1" } ∧ v.requestId = "1" ∧
        w.callback = { session := 1, requestId := "2" } ∧ w.callback.requestId = w.requestId := by
  have hrun : ∃ s, (ChargingStation.machine heartbeatClient).runWhile noCallbackLeft
        (.start heartbeatClient)
        (beating "1" ++ [.ocppMessageHandler (resultFrame "1"), .messagePump .ready none]
          ++ restarting ++ beating "2" ++ expiring) = some s ∧
      ∃ v w, s.invoked = [v, w] ∧ v.callback = { session := 0, requestId := "1" } ∧
        v.requestId = "1" ∧ w.callback = { session := 1, requestId := "2" } :=
    ⟨_, rfl, _, _, rfl, rfl, rfl, rfl⟩
  obtain ⟨s, hs, v, w, hinv, hv, hvid, hw⟩ := hrun
  have hreach : ReachableWhile (ChargingStation.machine heartbeatClient) NoCallbackLeft s :=
    ReachableWhile.runWhile (fun _ _ h => noCallbackLeft_sound h) (.init rfl) _ hs
  obtain ⟨_, hid, _⟩ := (session_callbacks_own_outcomes hreach).1 w (by simp [hinv])
  exact ⟨s, hreach, v, w, hinv, hv, hvid, hw, hid⟩

/--
Stopped while a heartbeat is pending, the station invokes its callback in the next
session, with the outcome of that session's heartbeat.
-/
theorem callback_of_first_session_told_second :
    ∃ s, Reachable (ChargingStation.machine heartbeatClient) s ∧
      s.accepted = [{ session := 0, requestId := "1" }, { session := 1, requestId := "2" }] ∧
      ∃ v, s.invoked = [v] ∧ v.callback = { session := 0, requestId := "1" } ∧
        v.requestId = "2" := by
  have hrun : ∃ s, (ChargingStation.machine heartbeatClient).run (.start heartbeatClient)
        (beating "1" ++ restarting ++ beating "2" ++ expiring) = some s ∧
      s.accepted = [{ session := 0, requestId := "1" }, { session := 1, requestId := "2" }] ∧
      ∃ v, s.invoked = [v] ∧ v.callback = { session := 0, requestId := "1" } ∧
        v.requestId = "2" :=
    ⟨_, rfl, rfl, _, rfl, rfl, rfl⟩
  obtain ⟨s, hs, hrest⟩ := hrun
  exact ⟨s, Reachable.run (.init rfl) _ hs, hrest⟩

end OcppGo.Proof
