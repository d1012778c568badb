import OcppGo.CentralSystem
import OcppGo.Proof.ServerSlots
import Mathlib.Data.List.Nodup

/-!
# The callbacks of the central system

The callback queue and the dispatcher's queues never look at each other, so
whether an outcome reaches its own callback hangs on the two staying in step:
for each client, the stamps of the queued requests are the queued callbacks.
Every operation keeps them in step but one. A disconnect drops the client's
queue; the central system then drains the client's callbacks and the CSMS leaves
them for whoever connects next under the same id.

`Aligned s q` says that the callbacks are in step with queues `q` that need not
be the dispatcher's. Within a step the dispatcher moves first and the callbacks
follow one by one, and `q` is then where the callbacks are.
-/

namespace OcppGo.Proof

open OcppGo.Ocppj OcppGo.Lib

/-- The callbacks registered for a client, in order. -/
def registeredFor (s : CentralSystem) (c : String) : List Nat :=
  (s.accepted.filter (fun r => r.clientID = c)).map Registration.callback

/-- The callbacks invoked for a client, in order. -/
def invokedFor (s : CentralSystem) (c : String) : List Nat :=
  (s.invoked.filter (fun x => x.clientID = c)).map CallbackCall.callback

/-- The callbacks are in step with the queues `q`. -/
structure Aligned (s : CentralSystem) (q : String → List Posted) : Prop where
  /-- The `i`-th callback was registered with the `i`-th request. -/
  lockstep : ∀ c, s.callbackQueue.queued c = (q c).map Posted.seq
  /-- Callbacks are invoked in the order of their requests, and none is skipped. -/
  inOrder : ∀ c, registeredFor s c = invokedFor s c ++ (q c).map Posted.seq
  /-- What is queued was registered under its own id. -/
  registered : ∀ c, ∀ p ∈ q c,
    { clientID := c, callback := p.seq, requestId := p.id } ∈ s.accepted
  /-- A callback that was told an outcome was registered with the request of that outcome. -/
  own : ∀ x ∈ s.invoked, ∀ rid ∈ x.requestId,
    { clientID := x.clientID, callback := x.callback, requestId := rid } ∈ s.accepted

section

variable {s : CentralSystem} {q : String → List Posted} {c : String}

/-- Only the callbacks and the two logs matter. -/
theorem Aligned.congr {q' : String → List Posted} (h : Aligned s q) (hq : ∀ c, q' c = q c)
    (d : ServerDispatcher) : Aligned { s with dispatcher := d } q' where
  lockstep := fun c => by rw [hq c]; exact h.lockstep c
  inOrder := fun c => by rw [hq c]; exact h.inOrder c
  registered := fun c p hp => h.registered c p (hq c ▸ hp)
  own := h.own

theorem Aligned.queues {q' : String → List Posted} (h : Aligned s q) (hq : ∀ c, q' c = q c) :
    Aligned s q' := h.congr hq s.dispatcher

/-- What a handler does when the client has a request. -/
theorem invokeNext_eq {p : Posted} {rest : List Posted} (h : Aligned s q) (hp : q c = p :: rest)
    (requestId : Option String) (result : Except OcppError Payload) :
    s.invokeNext c requestId result
      = { s with
          callbackQueue := s.callbackQueue.put c (rest.map Posted.seq)
          invoked := s.invoked
            ++ [{ clientID := c, callback := p.seq, requestId := requestId,
                  result := result }] } := by
  have hl := h.lockstep c
  rw [hp, List.map_cons] at hl
  rw [CentralSystem.invokeNext, CallbackQueue.dequeue_cons hl]

/--
**A handler serves the first request of its client**: with an outcome of that
request, or with none, the callbacks move on by one.
-/
theorem Aligned.invokeNext {p : Posted} {rest : List Posted} (h : Aligned s q)
    (hp : q c = p :: rest) {requestId : Option String} (hid : ∀ rid ∈ requestId, rid = p.id)
    (result : Except OcppError Payload) :
    Aligned (s.invokeNext c requestId result) (Function.update q c rest) := by
  -- the head of the callbacks belongs to the head of the requests
  have hmem : { clientID := c, callback := p.seq, requestId := p.id } ∈ s.accepted :=
    h.registered c p (by rw [hp]; exact List.mem_cons_self)
  rw [invokeNext_eq h hp]
  refine ⟨fun x => ?_, fun x => ?_, fun x p' hp' => ?_, fun x hx rid hrid => ?_⟩
  · by_cases hx : x = c
    · subst hx; simp
    · simp [hx, h.lockstep x]
  · have hx := h.inOrder x
    by_cases hxc : x = c
    · subst hxc
      rw [hp] at hx
      simpa [invokedFor, registeredFor] using hx
    · simpa [invokedFor, registeredFor, hxc, Ne.symm hxc] using hx
  · by_cases hx : x = c
    · subst hx
      rw [Function.update_self] at hp'
      exact h.registered x p' (by rw [hp]; exact List.mem_cons_of_mem p hp')
    · rw [Function.update_of_ne hx] at hp'
      exact h.registered x p' hp'
  · rcases List.mem_append.mp hx with hold | hnew
    · exact h.own x hold rid hrid
    · rw [List.mem_singleton.mp hnew] at hrid ⊢
      rw [hid rid hrid]
      exact hmem

theorem invokeNext_frame (s : CentralSystem) (c : String) (requestId : Option String)
    (result : Except OcppError Payload) :
    (s.invokeNext c requestId result).dispatcher = s.dispatcher
      ∧ (s.invokeNext c requestId result).accepted = s.accepted := by
  unfold CentralSystem.invokeNext
  split
  · exact ⟨rfl, rfl⟩
  · exact ⟨rfl, rfl⟩

/-! ## Several callbacks in a row -/

theorem canceled_frame (l : List Cancellation) (s : CentralSystem) :
    (l.foldl CentralSystem.handleCanceledRequest s).dispatcher = s.dispatcher
      ∧ (l.foldl CentralSystem.handleCanceledRequest s).accepted = s.accepted := by
  induction l generalizing s with
  | nil => exact ⟨rfl, rfl⟩
  | cons x l ih =>
      have hx := invokeNext_frame s x.clientID (some x.request.id) (.error x.err)
      exact ⟨(ih _).1.trans hx.1, (ih _).2.trans hx.2⟩

/-- The cancel callbacks of an iteration serve the requests that it removed. -/
theorem Aligned.canceled {rest : List Posted} (l : List Cancellation) (hl : ∀ x ∈ l, x.clientID = c)
    (h : Aligned s q) (hq : q c = l.map Cancellation.request ++ rest) :
    Aligned (l.foldl CentralSystem.handleCanceledRequest s) (Function.update q c rest) := by
  -- on the reports: each takes the head of the callbacks and the head of `q`
  induction l generalizing s q with
  | nil =>
      have hrest : Function.update q c rest = q := by
        rw [show rest = q c from hq.symm, Function.update_eq_self]
      rw [hrest]
      exact h
  | cons x l ih =>
      obtain ⟨hx, hl⟩ := List.forall_mem_cons.mp hl
      have hnext : Aligned (s.handleCanceledRequest x)
          (Function.update q c (l.map Cancellation.request ++ rest)) := by
        unfold CentralSystem.handleCanceledRequest
        rw [hx]
        exact h.invokeNext hq (fun rid hrid => (Option.some.inj hrid).symm) _
      have hdone := ih hl hnext (by rw [Function.update_self])
      rwa [Function.update_idem] at hdone

theorem drain_frame (s : CentralSystem) (c : String) (n : Nat) :
    (s.drain c n).dispatcher = s.dispatcher ∧ (s.drain c n).accepted = s.accepted := by
  induction n generalizing s with
  | zero => exact ⟨rfl, rfl⟩
  | succ n ih =>
      unfold CentralSystem.drain
      split
      · exact ⟨rfl, rfl⟩
      · have hx := invokeNext_frame s c none (.error CentralSystem.disconnectedError)
        exact ⟨(ih _).1.trans hx.1, (ih _).2.trans hx.2⟩

/-- The loop of the disconnect handler serves all requests that the client had. -/
theorem Aligned.drain (n : Nat) (h : Aligned s q) (hn : (q c).length = n) :
    Aligned (s.drain c n) (Function.update q c []) := by
  -- on the rounds left, as many as `q` holds for the client
  induction n generalizing s q with
  | zero =>
      have hnil : Function.update q c [] = q := by
        rw [← List.eq_nil_of_length_eq_zero hn, Function.update_eq_self]
      rw [hnil]
      exact h
  | succ n ih =>
      cases hq : q c with
      | nil => rw [hq] at hn; exact absurd hn (by simp)
      | cons p rest =>
          have hl := h.lockstep c
          rw [hq, List.map_cons] at hl
          -- a disconnect is the outcome of no request, so whose callback it is does not matter
          have hnone : ∀ rid ∈ (none : Option String), rid = p.id := by simp
          have hnext := h.invokeNext hq hnone (.error CentralSystem.disconnectedError)
          have hdone := ih hnext (by
            rw [Function.update_self]
            rw [hq] at hn
            simpa using hn)
          rw [Function.update_idem] at hdone
          unfold CentralSystem.drain
          rw [CallbackQueue.dequeue_cons hl]
          exact hdone

end

/-! ## A request is accepted -/

theorem Aligned.send {s : CentralSystem} {q q' : String → List Posted} {c : String}
    {p : Posted} (h : Aligned s q) (hq : ∀ x, q' x = if x = c then q c ++ [p] else q x)
    (d : ServerDispatcher) :
    Aligned
      { s with
        dispatcher := d
        callbackQueue := s.callbackQueue.append c p.seq
        accepted := s.accepted ++ [{ clientID := c, callback := p.seq, requestId := p.id }] }
      q' where
  lockstep := by
    intro x
    rw [hq x]
    by_cases hx : x = c
    · subst hx
      rw [if_pos rfl, List.map_append, ← h.lockstep x]
      exact CallbackQueue.queued_append_self s.callbackQueue x p.seq
    · rw [if_neg hx, ← h.lockstep x]
      exact CallbackQueue.queued_append_ne s.callbackQueue p.seq hx
  inOrder := by
    intro x
    have hin := h.inOrder x
    rw [hq x]
    by_cases hx : x = c
    · subst hx
      have hmore := congrArg (fun l => l ++ [p.seq]) hin
      simpa [registeredFor, invokedFor] using hmore
    · simpa [registeredFor, invokedFor, hx, Ne.symm hx] using hin
  registered := by
    intro x p' hp'
    rw [hq x] at hp'
    by_cases hx : x = c
    · subst hx
      rw [if_pos rfl] at hp'
      rcases List.mem_append.mp hp' with hold | hnew
      · exact List.mem_append_left _ (h.registered x p' hold)
      · rw [List.mem_singleton.mp hnew]
        exact List.mem_append_right _ (List.mem_singleton.mpr rfl)
    · rw [if_neg hx] at hp'
      exact List.mem_append_left _ (h.registered x p' hp')
  own := fun x hx rid hrid => List.mem_append_left _ (h.own x hx rid hrid)

/-! ## A frame comes in -/

/-- What the server's handler did with a frame. -/
inductive FrameEffect (d : ServerDispatcher) (c : String) (d' : ServerDispatcher)
    (calls : List HandlerCall) : Prop where
  /-- No request was completed and no callback taken. -/
  | other : (∀ x, queueOf d' x = queueOf d x) → (∀ x, slotOf d' x = slotOf d x) →
      d'.accepted = d.accepted → (∀ s, calls.foldl (CentralSystem.handlerCall c) s = s) →
      FrameEffect d c d' calls
  /-- The pending request was completed and its outcome handed on. -/
  | reply (d₁ : ServerDispatcher) (rid : String) (result : Except OcppError Payload) :
      rid ≠ "" → slotOf d c = rid → (∀ x, queueOf d₁ x = queueOf d x) →
      (∀ x, slotOf d₁ x = slotOf d x) → d₁.accepted = d.accepted →
      d' = d₁.completeRequest c rid →
      (∀ s, calls.foldl (CentralSystem.handlerCall c) s = s.invokeNext c (some rid) result) →
      FrameEffect d c d' calls

theorem sendError_noCallback (cfg : ClientConfig) (id : String) (code : ErrorCode)
    (text : String) (details : Option Json) (c : String) (s : CentralSystem) :
    (Client.sendError cfg id code text details).foldl (CentralSystem.handlerCall c) s = s := by
  unfold Client.sendError
  split
  · rfl
  · split
    · rfl
    · rfl

theorem parseFrame_done {cfg : ServerConfig} {d d' : ServerDispatcher} {c : String}
    {data : List UInt8} {calls : List HandlerCall}
    (h : Server.parseFrame cfg d c data = (d', .done calls)) (s : CentralSystem) :
    calls.foldl (CentralSystem.handlerCall c) s = s := by
  unfold Server.parseFrame at h
  split at h
  · cases h; rfl
  · dsimp only at h
    split at h
    · cases h; rfl
    · split at h
      · cases h; exact sendError_noCallback _ _ _ _ _ c s
      · cases h; rfl
    · cases h; rfl
    · exact absurd h (by simp)

theorem ocppMessageHandler_effect (cfg : ServerConfig) (d : ServerDispatcher) (c : String)
    (data : List UInt8) :
    FrameEffect d c (Server.ocppMessageHandler cfg d c data).1
      (Server.ocppMessageHandler cfg d c data).2 := by
  unfold Server.ocppMessageHandler
  split
  · rename_i d₁ calls hparse
    obtain ⟨hqm, _, hacc, hst⟩ := Server.parseFrame_frame hparse
    refine .other (fun x => ?_) (fun x => ?_) hacc (parseFrame_done hparse)
    · rw [queueOf, hqm, queueOf]
    · rw [slotOf, hst x, slotOf]
  · rename_i d₁ m hparse
    obtain ⟨hqm, _, hacc, hst⟩ := Server.parseFrame_frame hparse
    have hq : ∀ x, queueOf d₁ x = queueOf d x := fun x => by rw [queueOf, hqm, queueOf]
    have hs : ∀ x, slotOf d₁ x = slotOf d x := fun x => by rw [slotOf, hst x, slotOf]
    cases m with
    | call call => exact .other hq hs hacc (fun _ => rfl)
    | callResult r =>
        -- a reply is parsed only when its id is the pending one
        obtain ⟨hne, hid⟩ := Server.parseFrame_message hparse rfl
        exact .reply d₁ r.uniqueId (.ok r.payload) hne hid hq hs hacc rfl (fun _ => rfl)
    | callError e =>
        obtain ⟨hne, hid⟩ := Server.parseFrame_message hparse rfl
        exact .reply d₁ e.uniqueId (.error (newError e.errorCode e.errorDescription e.uniqueId))
          hne hid hq hs hacc rfl (fun _ => rfl)

/-! ## The invariant -/

/-- The callbacks are in step with the dispatcher's queues. -/
structure InStep (s : CentralSystem) : Prop where
  aligned : Aligned s (queueOf s.dispatcher)
  slots : SlotHead s.dispatcher
  /-- Requests are stamped in the order of their acceptance. -/
  stamps : s.accepted.map Registration.callback = List.range s.dispatcher.accepted

/-- A client disconnects only when its callbacks are drained, or when it has none. -/
def Drained (cfg : CentralSystemConfig) (s : CentralSystem) : CentralSystem.Action → Prop
  | .disconnected c => cfg.drains = true ∨ s.callbackQueue.queued c = []
  | _ => True

section

variable {cfg : CentralSystemConfig} {s s' : CentralSystem}

theorem inStep_start (cfg : CentralSystemConfig) : InStep (CentralSystem.start cfg) where
  aligned := by
    refine ⟨fun c => rfl, fun c => rfl, fun c p hp => ?_, fun x hx => ?_⟩
    · exact absurd hp (notMem_queueOf_start _ _ _ _)
    · exact absurd hx (by simp [CentralSystem.start])
  slots := slotHead_start _ _
  stamps := rfl

theorem inStep_connected (h : InStep s) (c : String) :
    InStep { s with dispatcher := Server.onClientConnected s.dispatcher c } where
  aligned := h.aligned.congr (createClient_queueOf s.dispatcher c) _
  slots := h.slots.congr (createClient_queueOf s.dispatcher c) (fun _ => rfl)
  stamps := h.stamps

theorem disconnected_queueOf (d : ServerDispatcher) (c x : String) :
    queueOf (Server.onClientDisconnected d c) x = if x = c then [] else queueOf d x :=
  deleteClient_queueOf d c x

theorem disconnected_slotOf (d : ServerDispatcher) (c x : String) :
    slotOf (Server.onClientDisconnected d c) x = if x = c then "" else slotOf d x :=
  cleared_slotOf (d.deleteClient c) c x

theorem inStep_disconnected (h : InStep s) {c : String}
    (hok : cfg.drains = true ∨ s.callbackQueue.queued c = []) :
    InStep (s.disconnected cfg c) := by
  have hslots : SlotHead (Server.onClientDisconnected s.dispatcher c) :=
    h.slots.clear (fun x hx => by rw [disconnected_queueOf, if_neg hx])
      (disconnected_slotOf s.dispatcher c)
  have hl := h.aligned.lockstep c
  unfold CentralSystem.disconnected
  dsimp only
  split
  · -- the callbacks of the dropped requests are invoked
    have hframe := drain_frame
      { s with dispatcher := Server.onClientDisconnected s.dispatcher c } c
      (s.callbackQueue.queued c).length
    have haligned := (h.aligned.congr (fun _ => rfl)
      (Server.onClientDisconnected s.dispatcher c)).drain (c := c)
        (s.callbackQueue.queued c).length (by rw [hl, List.length_map])
    refine ⟨haligned.queues (fun x => ?_), by rw [hframe.1]; exact hslots, ?_⟩
    · rw [hframe.1]
      show queueOf (Server.onClientDisconnected s.dispatcher c) x = _
      rw [disconnected_queueOf]
      by_cases hx : x = c
      · subst hx; simp
      · simp [hx]
    · rw [hframe.1, hframe.2]
      exact h.stamps
  · -- there are none
    rename_i hno
    have hnil : queueOf s.dispatcher c = [] := by
      rcases hok with hd | hq
      · exact absurd hd hno
      · rw [hq] at hl
        exact List.map_eq_nil_iff.mp hl.symm
    refine ⟨h.aligned.congr (fun x => ?_) _, hslots, h.stamps⟩
    rw [disconnected_queueOf]
    split
    · rename_i hx
      rw [hx, hnil]
    · rfl

theorem inStep_sendRequestAsync (h : InStep s) (c uid : String) (request : Payload) :
    InStep (s.sendRequestAsync cfg c uid request).1 := by
  unfold CentralSystem.sendRequestAsync
  split
  · exact h
  · dsimp only
    split
    -- the callback was queued and taken back
    · rename_i err _
      refine ⟨⟨fun x => ?_, h.aligned.inOrder, h.aligned.registered, h.aligned.own⟩, h.slots,
        h.stamps⟩
      exact (CallbackQueue.queued_tryQueue_some s.callbackQueue c x err _).trans
        (h.aligned.lockstep x)
    · rename_i d hd
      obtain ⟨r, req, hget, rfl, hpush⟩ := Server.sendRequest_ok hd
      have hpushed := pushTo_pushed hpush
      have hq := pushTo_queueOf hget hpush
      refine ⟨h.aligned.send hq d, ?_, ?_⟩
      · exact h.slots.append hq (fun x => by rw [slotOf, hpushed.pending, slotOf])
      · show (s.accepted ++ [_]).map Registration.callback = List.range d.accepted
        rw [hpushed.accepted, List.range_succ, List.map_append, h.stamps]
        rfl

theorem inStep_messagePump (h : InStep s) {sel : ServerSelect} {write : Option String}
    (hact : s.messagePump sel write = some s') : InStep s' := by
  unfold CentralSystem.messagePump at hact
  split at hact
  · exact absurd hact (by simp)
  · rename_i d hrec
    cases hact
    obtain ⟨⟨requests, timers, rfl⟩, _⟩ := receive_eq hrec
    generalize hd : ({ s.dispatcher with
      requestChannel := requests
      readyForDispatch := tokensLeft s.dispatcher sel
      timerC := timers } : ServerDispatcher) = d
    have hslots : SlotHead d := by
      rw [← hd]
      exact h.slots.congr (fun _ => rfl) (fun _ => rfl)
    have hchanges : Relation.ReflTransGen (Change sel.clientID) d (d.messagePump false sel write) :=
      messagePump_changes
    -- the iteration removes from one queue exactly what it reports, in order
    obtain ⟨l, hl, hclient, hq, hne⟩ := changes_canceled hchanges
    have hdrop : (d.messagePump false sel write).canceled.drop d.canceled.length = l := by
      rw [hl, List.drop_left]
    -- the reports are handed on while the old queues still describe the callbacks
    have haligned : Aligned { s with dispatcher := d.messagePump false sel write } (queueOf d) :=
      h.aligned.congr (fun _ => by rw [← hd]; rfl) _
    have hdone := haligned.canceled l hclient hq
    rw [hdrop]
    obtain ⟨hframe, hreg⟩ := canceled_frame l
      { s with dispatcher := d.messagePump false sel write }
    refine ⟨hdone.queues (fun x => ?_), ?_, ?_⟩
    · rw [hframe]
      by_cases hx : x = sel.clientID
      · rw [hx, Function.update_self]
      · rw [Function.update_of_ne hx]
        exact hne x hx
    · rw [hframe]
      exact hslots.changes hchanges
    · rw [hframe, hreg]
      show s.accepted.map Registration.callback
        = List.range (d.messagePump false sel write).accepted
      rw [(messagePump_untouched d false sel write).accepted, ← hd]
      exact h.stamps

theorem inStep_ocppMessageHandler (h : InStep s) (c : String) (data : List UInt8) :
    InStep (s.ocppMessageHandler cfg c data) := by
  unfold CentralSystem.ocppMessageHandler
  dsimp only
  cases ocppMessageHandler_effect cfg.server s.dispatcher c data with
  | other hq hs hacc hcalls =>
      rw [hcalls]
      exact ⟨h.aligned.congr hq _, h.slots.congr hq hs, by
        rw [show _ = List.range s.dispatcher.accepted from h.stamps, ← hacc]⟩
  | reply d₁ rid result hne hslot hq hs hacc hd hcalls =>
      -- the slot named the head of the queue, which is the request completed
      obtain ⟨p, rest, hp, hpid⟩ := h.slots c (by rw [hslot]; exact hne)
      rw [hslot] at hpid
      subst hpid
      have hdone := completed_of_head ((hq c).trans hp)
      rw [hcalls, hd]
      obtain ⟨hframe, hreg⟩ := invokeNext_frame
        { s with dispatcher := d₁.completeRequest c p.id } c (some p.id) result
      have haligned : Aligned { s with dispatcher := d₁.completeRequest c p.id }
          (queueOf s.dispatcher) := h.aligned.congr (fun _ => rfl) _
      have hnext := haligned.invokeNext hp (fun rid hrid => (Option.some.inj hrid).symm) result
      refine ⟨hnext.queues (fun x => ?_), ?_, ?_⟩
      · rw [hframe]
        show queueOf (d₁.completeRequest c p.id) x = _
        rw [hdone.queues x]
        by_cases hx : x = c
        · rw [if_pos hx, hx, Function.update_self]
        · rw [if_neg hx, Function.update_of_ne hx]
          exact hq x
      · rw [hframe]
        exact (h.slots.congr hq hs).completeRequest c p.id
      · rw [hframe, hreg]
        show s.accepted.map Registration.callback = List.range (d₁.completeRequest c p.id).accepted
        rw [(completeRequest_untouched d₁ c p.id).accepted, hacc]
        exact h.stamps

theorem inStep_step (h : InStep s) {a : CentralSystem.Action} (hok : Drained cfg s a)
    (hact : (CentralSystem.machine cfg).act s a = some s') : InStep s' := by
  unfold CentralSystem.machine CentralSystem.act at hact
  dsimp only at hact
  split at hact
  · exact absurd hact (by simp)
  · cases a with
    | connected c => cases hact; exact inStep_connected h c
    | disconnected c => cases hact; exact inStep_disconnected h hok
    | sendRequestAsync c uid request => cases hact; exact inStep_sendRequestAsync h c uid request
    | messagePump sel write => exact inStep_messagePump h hact
    | deadlineExceeded c ctx =>
        obtain ⟨d, hd, rfl⟩ := Option.map_eq_some_iff.mp hact
        obtain ⟨_, _, rfl⟩ := deadlineExceeded_eq hd
        exact ⟨h.aligned.congr (fun _ => rfl) _, h.slots.congr (fun _ => rfl) (fun _ => rfl),
          h.stamps⟩
    | notifyTimeout c =>
        obtain ⟨d, hd, rfl⟩ := Option.map_eq_some_iff.mp hact
        obtain ⟨_, _, rfl⟩ := notifyTimeout_eq hd
        exact ⟨h.aligned.congr (fun _ => rfl) _, h.slots.congr (fun _ => rfl) (fun _ => rfl),
          h.stamps⟩
    | ocppMessageHandler c data => cases hact; exact inStep_ocppMessageHandler h c data

theorem inStep_reachable (h : ReachableWhile (CentralSystem.machine cfg) (Drained cfg) s) :
    InStep s := by
  refine ReachableWhile.invariant (P := InStep) ?_ ?_ h
  · intro s hs
    cases hs
    exact inStep_start cfg
  · intro s a s' _ hin hok hact
    exact inStep_step hin hok hact

/-- Stamps tell registrations apart. -/
theorem InStep.registration_unique (h : InStep s) {r r' : Registration} (hr : r ∈ s.accepted)
    (hr' : r' ∈ s.accepted) (he : r'.callback = r.callback) : r' = r := by
  have hnodup : (s.accepted.map Registration.callback).Nodup := by
    rw [h.stamps]
    exact List.nodup_range
  exact List.inj_on_of_nodup_map hnodup hr' hr he

theorem InStep.registeredFor_nodup (h : InStep s) (c : String) : (registeredFor s c).Nodup := by
  have hnodup : (s.accepted.map Registration.callback).Nodup := by
    rw [h.stamps]
    exact List.nodup_range
  exact hnodup.sublist (List.filter_sublist.map Registration.callback)

end

/-! ## The central system -/

/-- The callbacks of one client and its requests match. -/
structure CallbacksMatch (s : CentralSystem) (c : String) : Prop where
  /-- The queued callbacks are those of the queued requests, position by position. -/
  lockstep : s.callbackQueue.queued c = (queueOf s.dispatcher c).map Posted.seq
  /-- A queued request was registered with the callback of its stamp. -/
  registered : ∀ p ∈ queueOf s.dispatcher c,
    { clientID := c, callback := p.seq, requestId := p.id } ∈ s.accepted
  /-- A client that is not connected has no callbacks. -/
  absent : s.dispatcher.queueMap.get c = none → s.callbackQueue.callbacks c = none
  /-- An outcome was delivered to the callback of its own request. -/
  own : ∀ x ∈ s.invoked, x.clientID = c → ∀ rid ∈ x.requestId,
    { clientID := c, callback := x.callback, requestId := rid } ∈ s.accepted
  /-- The callbacks registered are those invoked, in order, and those still queued. -/
  served : registeredFor s c = invokedFor s c ++ s.callbackQueue.queued c
  /-- So none of them was invoked twice, or while its request is queued. -/
  distinct : (registeredFor s c).Nodup

theorem InStep.callbacksMatch {s : CentralSystem} (h : InStep s) (c : String) :
    CallbacksMatch s c where
  lockstep := h.aligned.lockstep c
  registered := h.aligned.registered c
  absent := by
    intro hget
    have hnil : queueOf s.dispatcher c = [] := FIFOQueueMap.contents_of_get_none hget
    refine CallbackQueue.callbacks_of_queued_nil ?_
    rw [h.aligned.lockstep c, hnil]
    rfl
  own := by
    intro x hx hc rid hrid
    subst hc
    exact h.aligned.own x hx rid hrid
  served := by
    rw [h.aligned.lockstep c]
    exact h.aligned.inOrder c
  distinct := h.registeredFor_nodup c

/-- A `SendRequestAsync` that returns an error queues nothing. -/
theorem sendRequestAsync_error {cfg : CentralSystemConfig} {s s' : CentralSystem}
    {c uid : String} {request : Payload} {err : GoError}
    (h : s.sendRequestAsync cfg c uid request = (s', some err)) (x : String) :
    s'.callbackQueue.queued x = s.callbackQueue.queued x
      ∧ queueOf s'.dispatcher x = queueOf s.dispatcher x := by
  unfold CentralSystem.sendRequestAsync at h
  split at h
  · cases h
    exact ⟨rfl, rfl⟩
  · dsimp only at h
    split at h
    · rename_i err' _
      cases h
      exact ⟨CallbackQueue.queued_tryQueue_some s.callbackQueue c x err _, rfl⟩
    · exact absurd h (by simp)

/--
**The central system's callbacks follow its requests.** In every run, for every
client, outcomes reach the callbacks of their own requests, each callback is
invoked once when its request leaves the queue, and a refused request leaves no
trace.
-/
theorem central_system_callbacks_match {server : ServerConfig} {s : CentralSystem}
    (h : Reachable (CentralSystem.machine (centralSystem server)) s) :
    (∀ c, CallbacksMatch s c)
      ∧ ∀ c uid request s' err,
          s.sendRequestAsync (centralSystem server) c uid request = (s', some err) →
            ∀ x, s'.callbackQueue.queued x = s.callbackQueue.queued x
              ∧ queueOf s'.dispatcher x = queueOf s.dispatcher x := by
  have hdrained : ReachableWhile (CentralSystem.machine (centralSystem server))
      (Drained (centralSystem server)) s := by
    -- the central system always drains
    refine ReachableWhile.mono (fun s a _ => ?_) h
    cases a with
    | disconnected c => exact Or.inl rfl
    | connected _ => trivial
    | sendRequestAsync _ _ _ => trivial
    | messagePump _ _ => trivial
    | deadlineExceeded _ _ => trivial
    | notifyTimeout _ => trivial
    | ocppMessageHandler _ _ => trivial
  refine ⟨(inStep_reachable hdrained).callbacksMatch, ?_⟩
  intro c uid request s' err hsend
  exact sendRequestAsync_error hsend

/-- The `ClearCache` feature. -/
def clearCache : Feature :=
  { name := "ClearCache", requestType := "ClearCacheRequest",
    responseType := "ClearCacheResponse" }

def clearCacheRequest : Payload :=
  { goType := clearCache.requestType, featureName := clearCache.name, body := .obj [] }

/-- A server that knows `ClearCache` only, with unbounded queues. -/
def clearCacheServer (dialect : Dialect) : ServerConfig where
  endpoint := { dialect := dialect, profiles := [.new "core" [clearCache]] }
  lib := { heartbeatLibrary with
    decode := fun type raw => .ok { goType := type, featureName := clearCache.name, body := raw } }
  validationEnabled := true
  invalidMessageHook := none
  timeout := 30
  queueCapacity := 0

/-- One request is answered, another is left when the client disconnects. -/
theorem answered_then_disconnected :
    ∃ s, Reachable (CentralSystem.machine (centralSystem (clearCacheServer .V16))) s
      ∧ CallbacksMatch s "cp" ∧ s.callbackQueue.queued "cp" = []
      ∧ s.invoked.map (fun x => (x.callback, x.requestId)) = [(0, some "1"), (1, none)] := by
  have hrun : ∃ s, (CentralSystem.machine (centralSystem (clearCacheServer .V16))).run
      (CentralSystem.start (centralSystem (clearCacheServer .V16)))
      [.connected "cp", .sendRequestAsync "cp" "1" clearCacheRequest,
        .messagePump (.request "cp") none, .sendRequestAsync "cp" "2" clearCacheRequest,
        .ocppMessageHandler "cp" (resultFrame "1"), .messagePump (.ready "cp") none,
        .disconnected "cp"] = some s
      ∧ s.callbackQueue.queued "cp" = []
      ∧ s.invoked.map (fun x => (x.callback, x.requestId)) = [(0, some "1"), (1, none)] :=
    ⟨_, rfl, rfl, rfl⟩
  obtain ⟨s, hs, hq, hinv⟩ := hrun
  have hr : Reachable (CentralSystem.machine (centralSystem (clearCacheServer .V16))) s :=
    Reachable.run (.init rfl) _ hs
  exact ⟨s, hr, (central_system_callbacks_match hr).1 "cp", hq, hinv⟩

/-! ## The CSMS -/

/-- A client disconnects only when none of its callbacks is left. -/
def NoneLeft (s : CentralSystem) : CentralSystem.Action → Prop
  | .connected _ => True
  | .disconnected c => s.callbackQueue.queued c = []
  | .sendRequestAsync _ _ _ => True
  | .messagePump _ _ => True
  | .deadlineExceeded _ _ => True
  | .notifyTimeout _ => True
  | .ocppMessageHandler _ _ => True

instance (s : CentralSystem) (a : CentralSystem.Action) : Decidable (NoneLeft s a) :=
  match a with
  | .connected _ => .isTrue trivial
  | .disconnected _ => inferInstanceAs (Decidable (_ = []))
  | .sendRequestAsync _ _ _ => .isTrue trivial
  | .messagePump _ _ => .isTrue trivial
  | .deadlineExceeded _ _ => .isTrue trivial
  | .notifyTimeout _ => .isTrue trivial
  | .ocppMessageHandler _ _ => .isTrue trivial

/-- The call told a callback the outcome of the request it was registered with, and no other. -/
def ToOwnCallback (s : CentralSystem) (x : CallbackCall) : Prop :=
  ∀ rid ∈ x.requestId,
    { clientID := x.clientID, callback := x.callback, requestId := rid } ∈ s.accepted
      ∧ ∀ r ∈ s.accepted, r.callback = x.callback →
          r = { clientID := x.clientID, callback := x.callback, requestId := rid }

/--
**The CSMS delivers outcomes to their own callbacks** as long as no client
disconnects with callbacks left.
-/
theorem csms_outcome_to_own_callback {server : ServerConfig} {s : CentralSystem}
    (h : ReachableWhile (CentralSystem.machine (csms server)) NoneLeft s) :
    ∀ x ∈ s.invoked, ToOwnCallback s x := by
  have hdrained :
      ReachableWhile (CentralSystem.machine (csms server)) (Drained (csms server)) s := by
    refine h.mono (fun s a hok => ?_)
    cases a with
    | disconnected c => exact Or.inr hok
    | connected _ => trivial
    | sendRequestAsync _ _ _ => trivial
    | messagePump _ _ => trivial
    | deadlineExceeded _ _ => trivial
    | notifyTimeout _ => trivial
    | ocppMessageHandler _ _ => trivial
  have hin := inStep_reachable hdrained
  intro x hx rid hrid
  have hmem := hin.aligned.own x hx rid hrid
  exact ⟨hmem, fun r hr he => hin.registration_unique hmem hr he⟩

/-- A client is answered, leaves, comes back, and is answered again. -/
theorem reconnect_without_callbacks_left :
    ∃ s, ReachableWhile (CentralSystem.machine (csms (clearCacheServer .V2))) NoneLeft s
      ∧ (∀ x ∈ s.invoked, ToOwnCallback s x)
      ∧ s.invoked.map (fun x => (x.callback, x.requestId)) = [(0, some "1"), (1, some "2")] := by
  have hrun : ∃ s, (CentralSystem.machine (csms (clearCacheServer .V2))).runWhile
      (fun s a => decide (NoneLeft s a)) (CentralSystem.start (csms (clearCacheServer .V2)))
      [.connected "cs", .sendRequestAsync "cs" "1" clearCacheRequest,
        .messagePump (.request "cs") none, .ocppMessageHandler "cs" (resultFrame "1"),
        .messagePump (.ready "cs") none, .disconnected "cs", .connected "cs",
        .sendRequestAsync "cs" "2" clearCacheRequest, .messagePump (.request "cs") none,
        .ocppMessageHandler "cs" (resultFrame "2")] = some s
      ∧ s.invoked.map (fun x => (x.callback, x.requestId)) = [(0, some "1"), (1, some "2")] :=
    ⟨_, rfl, rfl⟩
  obtain ⟨s, hs, hinv⟩ := hrun
  have hr : ReachableWhile (CentralSystem.machine (csms (clearCacheServer .V2))) NoneLeft s :=
    ReachableWhile.runWhile (fun _ _ hc => of_decide_eq_true hc) (.init rfl) _ hs
  exact ⟨s, hr, csms_outcome_to_own_callback hr, hinv⟩

/--
**A callback survives its connection.** The station disconnects with a request
unanswered and reconnects; the response to the next request is given to the
callback of the old one.
-/
theorem stale_callback_answered :
    ∃ s, Reachable (CentralSystem.machine (csms (clearCacheServer .V2))) s
      ∧ s.accepted = [{ clientID := "cs", callback := 0, requestId := "1" },
          { clientID := "cs", callback := 1, requestId := "2" }]
      ∧ ∃ x ∈ s.invoked, x.requestId = some "2" ∧ x.callback = 0 ∧ ¬ ToOwnCallback s x := by
  have hrun : ∃ s, (CentralSystem.machine (csms (clearCacheServer .V2))).run
      (CentralSystem.start (csms (clearCacheServer .V2)))
      [.connected "cs", .sendRequestAsync "cs" "1" clearCacheRequest,
        .messagePump (.request "cs") none, .disconnected "cs",
        .messagePump (.request "cs") none, .connected "cs",
        .sendRequestAsync "cs" "2" clearCacheRequest,
        .messagePump (.request "cs") none, .ocppMessageHandler "cs" (resultFrame "2")] = some s
      ∧ s.accepted = [{ clientID := "cs", callback := 0, requestId := "1" },
          { clientID := "cs", callback := 1, requestId := "2" }]
      ∧ ∃ x, s.invoked = [x] ∧ x.clientID = "cs" ∧ x.requestId = some "2" ∧ x.callback = 0 :=
    ⟨_, rfl, rfl, _, rfl, rfl, rfl, rfl⟩
  obtain ⟨s, hs, hacc, x, hinv, hclient, hid, hcb⟩ := hrun
  refine ⟨s, Reachable.run (.init rfl) _ hs, hacc, x, by rw [hinv]; simp, hid, hcb, ?_⟩
  intro hown
  have hmem := (hown "2" hid).1
  rw [hacc, hclient, hcb] at hmem
  exact absurd hmem (by decide)

end OcppGo.Proof
