import OcppGo.Proof.ServerLocality

/-!
# Clients are served as if alone

Whether the pump keeps clients apart is a question about two runs: all events,
and the events of one client only. `ClientView` is what there is to see of one
client, with a step of its own for each event that names the client, so that the
two runs need not be compared with each other: both follow the same view.

The pump departs from the view in one place. The test after the select reads `rdy`
and `clientQueue`, and a timer event sets neither, so it dispatches when the
client of the last request or ready token was ready and its queue has filled up
since. The client that timed out is then sent its next request, or, when it has
none, the pump looks at the head of an empty queue and the process is gone
(`timer_event_of_another_client`).

Timer events that wait until every push was noticed by the pump cannot find such
a queue. `Calm` says so, and that a client with a pending request that times out
still has it queued.
-/

namespace OcppGo.Proof

open OcppGo.Ocppj OcppGo.Lib

/-! ## One client -/

/-- What there is to see of one client. -/
structure ClientView where
  /-- The client has a queue. -/
  present : Bool
  queue : List RequestBundle
  /-- The id of the pending request, `""` without one. -/
  slot : String
  /-- A timeout is running. -/
  active : Bool
  /-- What was written to the client. -/
  frames : List RequestBundle
  /-- What was reported as canceled, and why. -/
  reports : List (RequestBundle × OcppError)

namespace ClientView

/-- The first request leaves the queue, and the slot when it is pending. -/
def pop (v : ClientView) (b : RequestBundle) (rest : List RequestBundle) : ClientView :=
  { v with
    queue := rest
    slot := if v.slot = b.call.uniqueId then "" else v.slot }

def complete (v : ClientView) (requestID : String) : ClientView :=
  match v.queue with
  | [] => v
  | b :: rest => if b.call.uniqueId ≠ requestID then v else v.pop b rest

def cancel (v : ClientView) (code : ErrorCode) (text : String) : ClientView :=
  match v.queue with
  | [] => v
  | b :: rest =>
      { v.pop b rest with reports := v.reports ++ [(b, newError code text b.call.uniqueId)] }

/-- The first request, if there is one, is marked as pending and written. -/
def dispatch (timeout : Int) (write : Option String) (v : ClientView) : ClientView :=
  match v.queue with
  | [] => v
  | b :: _ =>
      let sent := { v with
        slot := if b.call.uniqueId ≠ "" ∧ v.slot = "" then b.call.uniqueId else v.slot
        frames := v.frames ++ [b] }
      match write with
      | some text => { sent.cancel InternalError text with active := false }
      | none => { sent with active := decide (0 < timeout) }

/-- An iteration of the pump for this client alone. -/
def select (timeout : Int) (v : ClientView) (sel : ServerSelect) (write : Option String) :
    ClientView :=
  match sel with
  | .request _ =>
      if v.present then if v.active then v else v.dispatch timeout write
      else { v with active := false }
  | .timer _ =>
      if v.slot ≠ "" then { v with active := false }.cancel GenericError "Request timed out"
      else { v with active := false }
  | .ready _ =>
      if v.present then { v with active := false }.dispatch timeout write
      else { v with active := false }

/-- What an event that names this client does. -/
def step (capacity : Nat) (timeout : Int) (v : ClientView) : ServerDispatcher.Event → ClientView
  | .createClient _ => { v with present := true }
  | .deleteClient _ => { v with present := false, queue := [] }
  | .clearPending _ => { v with slot := "" }
  | .sendRequest _ req =>
      if v.present = false ∨ v.queue.length ≥ capacity ∧ capacity > 0 then v
      else { v with queue := v.queue ++ [req] }
  | .completeRequest _ rid => v.complete rid
  | .select sel write => v.select timeout sel write

end ClientView

/-- What there is to see of a client of the dispatcher. -/
def viewOf (d : ServerDispatcher) (c : String) : ClientView where
  present := (d.queueMap.get c).isSome
  queue := (queueOf d c).map Posted.bundle
  slot := slotOf d c
  active := d.isActive c
  frames := (framesTo d c).map Posted.bundle
  reports := (reportsFor d c).map (fun x => (x.request.bundle, x.err))

/-! ## The condition -/

/-- The clients with a push the pump has not noticed, after one more event. -/
def unnoticed (l : List String) : ServerDispatcher.Event → List String
  | .createClient _ => l
  | .deleteClient _ => l
  | .clearPending _ => l
  | .sendRequest c _ => c :: l
  | .completeRequest _ _ => l
  | .select (.request c) _ => l.filter (fun x => x ≠ c)
  | .select (.timer _) _ => l
  | .select (.ready c) _ => l.filter (fun x => x ≠ c)

/-- A timer event comes when all pushes were noticed, and finds what it is to cancel. -/
def TimerCalm (d : ServerDispatcher) (l : List String) : ServerDispatcher.Event → Prop
  | .createClient _ => True
  | .deleteClient _ => True
  | .clearPending _ => True
  | .sendRequest _ _ => True
  | .completeRequest _ _ => True
  | .select (.request _) _ => True
  | .select (.timer c) _ => l = [] ∧ (slotOf d c ≠ "" → queueOf d c ≠ [])
  | .select (.ready _) _ => True

instance (d : ServerDispatcher) (l : List String) (e : ServerDispatcher.Event) :
    Decidable (TimerCalm d l e) :=
  match e with
  | .createClient _ => .isTrue trivial
  | .deleteClient _ => .isTrue trivial
  | .clearPending _ => .isTrue trivial
  | .sendRequest _ _ => .isTrue trivial
  | .completeRequest _ _ => .isTrue trivial
  | .select (.request _) _ => .isTrue trivial
  | .select (.timer _) _ => inferInstanceAs (Decidable (_ ∧ (_ → _)))
  | .select (.ready _) _ => .isTrue trivial

/-- Every timer event of the sequence is calm. -/
def Calm (d : ServerDispatcher) (l : List String) : List ServerDispatcher.Event → Prop
  | [] => True
  | e :: es => TimerCalm d l e ∧ Calm (d.onEvent e) (unnoticed l e) es

instance decidableCalm (d : ServerDispatcher) (l : List String) :
    (es : List ServerDispatcher.Event) → Decidable (Calm d l es)
  | [] => .isTrue trivial
  | e :: es =>
      have := decidableCalm (d.onEvent e) (unnoticed l e) es
      inferInstanceAs (Decidable (_ ∧ _))

/-! ## An event of another client -/

section

variable {d d' : ServerDispatcher} {c : String}

theorem viewOf_elsewhere (h : Elsewhere c d d') {x : String} (hx : x ≠ c)
    (hget : d'.queueMap.get x = d.queueMap.get x) : viewOf d' x = viewOf d x := by
  simp only [viewOf, hget, h.queue x hx, h.slot x hx, h.active x hx, h.frames x hx,
    h.reports x hx]

/-- **An event leaves the views of the other clients alone.** -/
theorem viewOf_onEvent_ne (d : ServerDispatcher) {e : ServerDispatcher.Event} {x : String}
    (hx : x ≠ e.clientID) : viewOf (d.onEvent e) x = viewOf d x := by
  unfold ServerDispatcher.onEvent
  split
  · cases e with
    | createClient c =>
        refine viewOf_elsewhere (c := c) ?_ hx (FIFOQueueMap.get_getOrCreate_ne d.queueMap hx)
        exact ⟨fun y _ => createClient_queueOf d c y, fun _ _ => rfl, fun _ _ => rfl,
          fun _ _ => Iff.rfl, fun _ _ => rfl, fun _ _ => rfl⟩
    | deleteClient c =>
        refine viewOf_elsewhere (c := c) ?_ hx (FIFOQueueMap.get_remove_ne d.queueMap hx)
        exact ⟨fun y hy => by rw [deleteClient_queueOf, if_neg hy], fun _ _ => rfl,
          fun _ _ => rfl, fun _ _ => Iff.rfl, fun _ _ => rfl, fun _ _ => rfl⟩
    | clearPending c =>
        refine viewOf_elsewhere (c := c) ?_ hx rfl
        refine ⟨fun _ _ => rfl, fun y hy => ?_, fun _ _ => rfl, fun _ _ => Iff.rfl,
          fun _ _ => rfl, fun _ _ => rfl⟩
        rw [slotOf, ServerState.clientState_clear, if_neg hy, slotOf]
    | sendRequest c req =>
        dsimp only
        split
        · rfl
        · rename_i d' hd
          unfold ServerDispatcher.sendRequest at hd
          split at hd
          · exact absurd hd (by simp)
          · rename_i r hget
            have hpushed := pushTo_pushed hd
            refine viewOf_elsewhere (c := c) ?_ hx (hpushed.get x)
            refine ⟨fun y hy => ?_, fun y _ => by rw [slotOf, hpushed.pending, slotOf],
              fun y _ => isActive_congr (by rw [hpushed.contexts]),
              fun y _ => by rw [hpushed.ready],
              fun y _ => by rw [framesTo, hpushed.written, framesTo],
              fun y _ => by rw [reportsFor, hpushed.canceled, reportsFor]⟩
            rw [pushTo_queueOf hget hd, if_neg hy]
    | completeRequest c rid =>
        exact viewOf_elsewhere (completeRequest_elsewhere d c rid) hx
          ((completeRequest_untouched d c rid).get x)
    | select sel write =>
        exact viewOf_elsewhere (messagePump_elsewhere d false sel write) hx
          ((messagePump_untouched d false sel write).get x)
  · rfl

/-! ## An event of the client itself -/

/-- A step that pops the head and leaves everything else of the client alone. -/
theorem viewOf_completed {p : Posted} {rest : List Posted} (h : Completed c p rest d d')
    (hget : d'.queueMap.get c = d.queueMap.get c) (hw : d'.written = d.written)
    (hctx : d'.clientContextMap = d.clientContextMap) :
    viewOf d' c = (viewOf d c).pop p.bundle (rest.map Posted.bundle) := by
  have hq : queueOf d' c = rest := by rw [h.queues c, if_pos rfl]
  have hs : slotOf d' c = if slotOf d c = p.id then "" else slotOf d c := by
    rw [h.slots c]
    by_cases hid : slotOf d c = p.id
    · rw [if_pos ⟨rfl, hid⟩, if_pos hid]
    · rw [if_neg (fun hc => hid hc.2), if_neg hid]
  simp only [viewOf, ClientView.pop, hget, hq, hs, isActive_congr (congrFun hctx c), framesTo, hw,
    reportsFor, h.canceled]
  rfl

theorem viewOf_completeRequest (d : ServerDispatcher) (c rid : String) :
    viewOf (d.completeRequest c rid) c = (viewOf d c).complete rid := by
  obtain ⟨hw, hctx, _⟩ := completeRequest_quiet d c rid
  have hget := (completeRequest_untouched d c rid).get c
  rcases completeRequest_cases d c rid with hsame | ⟨p, rest, hid, hc⟩
  · -- the head, if there is one, has another id
    rw [hsame]
    cases hq : queueOf d c with
    | nil => simp [ClientView.complete, viewOf, hq]
    | cons p rest =>
        have hne : p.id ≠ rid := by
          rintro rfl
          have hlen := congrArg (fun e => (queueOf e c).length) hsame
          simp only [(completed_of_head hq).queues c, if_pos, hq, List.length_cons] at hlen
          omega
        have hne' : p.bundle.call.uniqueId ≠ rid := hne
        simp [ClientView.complete, viewOf, hq, hne']
  · have hid' : p.bundle.call.uniqueId = rid := hid
    rw [viewOf_completed hc hget hw hctx, ClientView.complete]
    simp [viewOf, hc.head, hid']

theorem viewOf_cancelRequest {p : Posted} {rest : List Posted} (h : queueOf d c = p :: rest)
    (code : ErrorCode) (text : String) :
    viewOf (d.cancelRequest false c p code text) c = (viewOf d c).cancel code text := by
  have hc := viewOf_completeRequest d c p.id
  have hreports : reportsFor (d.cancelRequest false c p code text) c
      = reportsFor d c ++ [{ clientID := c, request := p, err := newError code text p.id }] := by
    simp [reportsFor, ServerDispatcher.cancelRequest]
  have hview : viewOf (d.cancelRequest false c p code text) c
      = { viewOf (d.completeRequest c p.id) c with
          reports := (viewOf d c).reports ++ [(p.bundle, newError code text p.id)] } := by
    simp only [viewOf, hreports, List.map_append]
    rfl
  rw [hview, hc]
  simp [ClientView.complete, ClientView.cancel, viewOf, h, Posted.id]

theorem viewOf_cancelContext (d : ServerDispatcher) (c : String) :
    viewOf (d.cancelContext c) c = { viewOf d c with active := false } := by
  have hin := cancelContext_inactive d c
  simp only [viewOf, hin]
  unfold ServerDispatcher.cancelContext
  split
  · rfl
  · rfl

theorem dispatches_of_not_rdy (h : d.rdy = false) : d.dispatches = false := by
  unfold ServerDispatcher.dispatches
  split
  · rfl
  · rw [h]; rfl

theorem completeRequest_status (d : ServerDispatcher) (c rid : String) :
    (d.completeRequest c rid).status = d.status := by
  unfold ServerDispatcher.completeRequest
  split
  · rfl
  · rfl

theorem cancelRequest_status (d : ServerDispatcher) (c : String) (p : Posted) (code : ErrorCode)
    (text : String) : (d.cancelRequest false c p code text).status = d.status :=
  completeRequest_status d c p.id

/-- The request is marked as pending, if it can be, and written. -/
def sentTo (d : ServerDispatcher) (c : String) (p : Posted) : ServerDispatcher :=
  { d with
    pendingRequestState := d.pendingRequestState.addPendingRequest c p.id p.payload
    written := d.written ++ [(c, p)] }

theorem viewOf_sentTo (d : ServerDispatcher) (c : String) (p : Posted) :
    viewOf (sentTo d c p) c = { viewOf d c with
      slot := if p.bundle.call.uniqueId ≠ "" ∧ (viewOf d c).slot = ""
        then p.bundle.call.uniqueId else (viewOf d c).slot
      frames := (viewOf d c).frames ++ [p.bundle] } := by
  have hslot : slotOf (sentTo d c p) c
      = if p.id ≠ "" ∧ slotOf d c = "" then p.id else slotOf d c := by
    rw [slotOf, sentTo, ServerState.clientState_add, if_pos rfl,
      ClientState.addPendingRequest_requestID]
    rfl
  have hframes : framesTo (sentTo d c p) c = framesTo d c ++ [p] := by
    simp [framesTo, sentTo]
  simp only [viewOf, hslot, hframes, List.map_append]
  rfl

/-- The contexts show in `active` only. -/
theorem viewOf_contexts (d : ServerDispatcher) {c : String} {ctx : Option ContextId}
    {contexts : String → Option (Option ContextId)} (h : contexts c = some ctx) :
    viewOf { d with clientContextMap := contexts } c
      = { viewOf d c with active := ctx.isSome } := by
  have hactive : ServerDispatcher.isActive { d with clientContextMap := contexts } c
      = ctx.isSome := by
    cases ctx with
    | none => simp [ServerDispatcher.isActive, h]
    | some n => simp [ServerDispatcher.isActive, h]
  simp only [viewOf, hactive]
  rfl

/-- A dispatch with something to write. -/
theorem viewOf_dispatch {p : Posted} {rest : List Posted} (h : queueOf d c = p :: rest)
    (write : Option String) :
    viewOf (d.dispatchNextRequest false c write) c = (viewOf d c).dispatch d.timeout write
      ∧ (d.dispatchNextRequest false c write).status = d.status
      ∧ (d.dispatchNextRequest false c write).dispatches = false := by
  obtain ⟨r, hget, hpeek⟩ := get_of_head h
  have hsent := viewOf_sentTo d c p
  have hq : (viewOf d c).queue = p.bundle :: rest.map Posted.bundle := by
    simp [viewOf, h]
  cases write with
  | some text =>
      let canceled := (sentTo d c p).cancelRequest false c p InternalError text
      have heq : d.dispatchNextRequest false c (some text)
          = { canceled with
              clientContextMap := Function.update d.clientContextMap c (some none)
              rdy := false } := by
        simp only [ServerDispatcher.dispatchNextRequest, hget, hpeek, canceled, sentTo]
      rw [heq]
      refine ⟨?_, cancelRequest_status (sentTo d c p) c p InternalError text,
        dispatches_of_not_rdy rfl⟩
      refine (viewOf_contexts canceled (Function.update_self ..)).trans ?_
      rw [viewOf_cancelRequest (d := sentTo d c p) h, hsent]
      simp only [ClientView.dispatch, hq, Option.isSome_none]
  | none =>
      by_cases ht : 0 < d.timeout
      · have heq : d.dispatchNextRequest false c none
            = { sentTo d c p with
                clientContextMap :=
                  Function.update d.clientContextMap c (some (some d.nextContext))
                waiting := d.waiting ++ [(c, d.nextContext)]
                nextContext := d.nextContext + 1
                rdy := false } := by
          simp only [ServerDispatcher.dispatchNextRequest, hget, hpeek, if_pos ht, sentTo]
        rw [heq]
        refine ⟨?_, rfl, dispatches_of_not_rdy rfl⟩
        refine (viewOf_contexts (sentTo d c p) (Function.update_self ..)).trans ?_
        rw [hsent]
        simp only [ClientView.dispatch, hq, ht, Option.isSome_some, decide_true]
      · have heq : d.dispatchNextRequest false c none
            = { sentTo d c p with
                clientContextMap := Function.update d.clientContextMap c (some none)
                rdy := false } := by
          simp only [ServerDispatcher.dispatchNextRequest, hget, hpeek, if_neg ht, sentTo]
        rw [heq]
        refine ⟨?_, rfl, dispatches_of_not_rdy rfl⟩
        refine (viewOf_contexts (sentTo d c p) (Function.update_self ..)).trans ?_
        rw [hsent]
        simp only [ClientView.dispatch, hq, ht, Option.isSome_none, decide_false]

/-! ## An iteration -/

/-- The timer branch, when a pending request of the client is still queued. -/
theorem onTimer_step (hrun : d.status = .running)
    (hhead : slotOf d c ≠ "" → queueOf d c ≠ []) (write : Option String) :
    viewOf (d.onTimer false c) c = (viewOf d c).select d.timeout (.timer c) write
      ∧ (d.onTimer false c).status = .running := by
  obtain ⟨hstatus, _, _⟩ := cancelContext_frame d c
  have hctx := viewOf_cancelContext d c
  have hpend : d.pendingRequestState.hasPendingRequest c = true ↔ slotOf d c ≠ "" := by
    rw [ServerState.hasPendingRequest_eq, ClientState.hasPendingRequest_iff]
    rfl
  unfold ServerDispatcher.onTimer
  split
  · rename_i hp
    have hslot := hpend.mp hp
    cases hq : queueOf d c with
    | nil => exact absurd hq (hhead hslot)
    | cons p rest =>
        have hq' : queueOf (d.cancelContext c) c = p :: rest := by
          rw [queueOf, cancelContext_queueMap]; exact hq
        obtain ⟨r, hget, hpeek⟩ := get_of_head hq'
        have hv : (viewOf d c).slot ≠ "" := hslot
        simp only [ServerDispatcher.cancelTimedOut, hget, hpeek]
        refine ⟨?_, ?_⟩
        · rw [viewOf_cancelRequest hq', hctx]
          simp only [ClientView.select, if_pos hv]
        · rw [cancelRequest_status, hstatus]; exact hrun
  · rename_i hp
    have hv : ¬ (viewOf d c).slot ≠ "" := fun hne => hp (hpend.mpr hne)
    refine ⟨?_, hstatus.trans hrun⟩
    rw [hctx]
    simp only [ClientView.select, if_neg hv]

/-- A calm timer event does what it does to the client alone, and nothing is dispatched. -/
theorem timer_step (hrun : d.status = .running) (hstale : d.dispatches = false)
    (hhead : slotOf d c ≠ "" → queueOf d c ≠ []) (write : Option String) :
    viewOf (d.messagePump false (.timer c) write) c
        = (viewOf d c).select d.timeout (.timer c) write
      ∧ (d.messagePump false (.timer c) write).status = .running
      ∧ (d.messagePump false (.timer c) write).dispatches = false := by
  obtain ⟨hview, hstatus⟩ := onTimer_step hrun hhead write
  have hdisp : (d.onTimer false c).dispatches = false := by
    by_contra hd
    have hd' := dispatches_of_onTimer (Bool.not_eq_false _ ▸ hd)
    rw [hstale] at hd'
    exact absurd hd' (by simp)
  have hsel : d.messagePump false (.timer c) write = d.onTimer false c := by
    unfold ServerDispatcher.messagePump ServerDispatcher.dispatchIfReady
    rw [if_neg]
    · rfl
    · rintro ⟨_, hd⟩
      exact absurd (hdisp.symm.trans hd) (by simp)
  rw [hsel]
  exact ⟨hview, hstatus, hdisp⟩

/-- The end of an iteration whose branch looked the client's queue up. -/
theorem lookup_step {r : QueueRef} (hrun : d.status = .running)
    (hget : d.queueMap.get c = some r) (hq : d.clientQueue = some r) (write : Option String) :
    viewOf (d.dispatchIfReady false c write) c
        = (if d.rdy then (viewOf d c).dispatch d.timeout write else viewOf d c)
      ∧ (d.dispatchIfReady false c write).status = .running
      ∧ (d.dispatchIfReady false c write).dispatches = false := by
  -- the test looks at the queue of the client the iteration is about
  have hdisp : d.dispatches = (d.rdy && !(queueOf d c).isEmpty) := by
    rw [ServerDispatcher.dispatches, hq, queueOf, FIFOQueueMap.contents_of_get hget]
    rfl
  unfold ServerDispatcher.dispatchIfReady
  cases hrdy : d.rdy with
  | false =>
      rw [hrdy, Bool.false_and] at hdisp
      rw [if_neg (fun hd => by rw [hdisp] at hd; exact absurd hd.2 (by simp))]
      exact ⟨rfl, hrun, hdisp⟩
  | true =>
      cases hqc : queueOf d c with
      | nil =>
          rw [hrdy, hqc] at hdisp
          rw [if_neg (fun hd => by rw [hdisp] at hd; exact absurd hd.2 (by simp))]
          refine ⟨?_, hrun, hdisp⟩
          simp [ClientView.dispatch, viewOf, hqc]
      | cons p rest =>
          rw [hrdy, hqc] at hdisp
          rw [if_pos ⟨hrun, hdisp⟩]
          obtain ⟨hview, hstatus, hdone⟩ := viewOf_dispatch hqc write
          exact ⟨hview, hstatus.trans hrun, hdone⟩

/-- The end of an iteration whose branch found no queue. -/
theorem no_queue_step (hq : d.clientQueue = none) (write : Option String) :
    d.dispatchIfReady false c write = d ∧ d.dispatches = false := by
  have hdisp : d.dispatches = false := by
    rw [ServerDispatcher.dispatches, hq]
  refine ⟨?_, hdisp⟩
  unfold ServerDispatcher.dispatchIfReady
  rw [if_neg (fun hd => by rw [hdisp] at hd; exact absurd hd.2 (by simp))]

theorem request_step (hrun : d.status = .running) (write : Option String) :
    viewOf (d.messagePump false (.request c) write) c
        = (viewOf d c).select d.timeout (.request c) write
      ∧ (d.messagePump false (.request c) write).status = .running
      ∧ (d.messagePump false (.request c) write).dispatches = false := by
  have hpump : d.messagePump false (.request c) write
      = (d.onRequest c).dispatchIfReady false c write := rfl
  cases hget : d.queueMap.get c with
  | none =>
      -- the client is gone, and its context with it
      have heq : d.onRequest c = { d with
          clientQueue := none
          waiting := d.cancelGoroutine c
          clientContextMap := Function.update d.clientContextMap c none } := by
        simp only [ServerDispatcher.onRequest, hget]
      have hview : viewOf (d.onRequest c) c = { viewOf d c with active := false } := by
        rw [heq]
        simp only [viewOf, ServerDispatcher.isActive, Function.update_self]
        rfl
      have habsent : (viewOf d c).present = false := by
        simp [viewOf, hget]
      obtain ⟨hsame, hdisp⟩ := no_queue_step (d := d.onRequest c) (c := c) (by rw [heq]) write
      rw [hpump, hsame]
      refine ⟨?_, by rw [heq]; exact hrun, hdisp⟩
      rw [hview]
      simp [ClientView.select, habsent]
  | some r =>
      have heq : d.onRequest c = { d with clientQueue := some r, rdy := !d.isActive c } := by
        simp only [ServerDispatcher.onRequest, hget]
      have hpresent : (viewOf d c).present = true := by
        simp [viewOf, hget]
      obtain ⟨hview, hstatus, hdisp⟩ := lookup_step (d := d.onRequest c) (c := c) (r := r)
        (by rw [heq]; exact hrun) (by rw [heq]; exact hget) (by rw [heq]) write
      rw [hpump]
      refine ⟨?_, hstatus, hdisp⟩
      rw [hview, heq]
      show (if (!d.isActive c) = true then (viewOf d c).dispatch d.timeout write
        else viewOf d c) = _
      cases hact : d.isActive c with
      | true =>
          have hact' : (viewOf d c).active = true := hact
          simp [ClientView.select, hpresent, hact']
      | false =>
          have hact' : (viewOf d c).active = false := hact
          simp [ClientView.select, hpresent, hact']

theorem ready_step (hrun : d.status = .running) (write : Option String) :
    viewOf (d.messagePump false (.ready c) write) c
        = (viewOf d c).select d.timeout (.ready c) write
      ∧ (d.messagePump false (.ready c) write).status = .running
      ∧ (d.messagePump false (.ready c) write).dispatches = false := by
  have hpump : d.messagePump false (.ready c) write
      = (d.onReady c).dispatchIfReady false c write := rfl
  have hview : viewOf (d.onReady c) c = { viewOf d c with active := false } :=
    viewOf_cancelContext d c
  have hstatus : (d.onReady c).status = .running := (cancelContext_frame d c).1.trans hrun
  have htimeout : (d.onReady c).timeout = d.timeout := (cancelContext_untouched d c).timeout
  have hgets : (d.onReady c).queueMap.get c = d.queueMap.get c :=
    (cancelContext_untouched d c).get c
  cases hget : d.queueMap.get c with
  | none =>
      have habsent : (viewOf d c).present = false := by
        simp [viewOf, hget]
      obtain ⟨hsame, hdisp⟩ := no_queue_step (d := d.onReady c) (c := c) hget write
      rw [hpump, hsame]
      refine ⟨?_, hstatus, hdisp⟩
      rw [hview]
      simp [ClientView.select, habsent]
  | some r =>
      have hpresent : (viewOf d c).present = true := by
        simp [viewOf, hget]
      have hrdy : (d.onReady c).rdy = true := by
        simp [ServerDispatcher.onReady, hget]
      obtain ⟨hdone, hstatus', hdisp⟩ := lookup_step (d := d.onReady c) (c := c) (r := r) hstatus
        (hgets.trans hget) hget write
      rw [hpump]
      refine ⟨?_, hstatus', hdisp⟩
      rw [hdone, if_pos hrdy, hview, htimeout]
      simp [ClientView.select, hpresent]

/-! ## What the pump's variables and the queues' capacities are -/

/-- A running dispatcher whose last lookup left nothing to dispatch but unnoticed pushes. -/
structure Sound (n : Nat) (timeout : Int) (d : ServerDispatcher) (l : List String) : Prop where
  running : d.status = .running
  queueCapacity : d.queueMap.queueCapacity = n
  uniform : d.queueMap.Uniform
  timeout : d.timeout = timeout
  stale : d.dispatches = true → l ≠ []

theorem sound_start (n : Nat) (timeout : Int) : Sound n timeout (.start n timeout) [] where
  running := rfl
  queueCapacity := rfl
  uniform := fun c r h => absurd h (by simp [ServerDispatcher.start, FIFOQueueMap.get,
    FIFOQueueMap.new])
  timeout := rfl
  stale := fun h => absurd h (by simp [ServerDispatcher.start, ServerDispatcher.dispatches])

theorem Sound.untouched {n : Nat} {timeout : Int} {l l' : List String} (h : Sound n timeout d l)
    (hu : Untouched d d') (hrun : d'.status = .running) (hstale : d'.dispatches = true → l' ≠ []) :
    Sound n timeout d' l' where
  running := hrun
  queueCapacity := hu.queueCapacity.trans h.queueCapacity
  uniform := fun c r hr => by
    rw [hu.capacity r, hu.queueCapacity]
    exact h.uniform c r ((hu.get c).symm.trans hr)
  timeout := hu.timeout.trans h.timeout
  stale := hstale

/-- An iteration for a client that follows the client's view. -/
theorem select_step {n : Nat} {timeout : Int} {l : List String} {sel : ServerSelect}
    {write : Option String} (h : Sound n timeout d l)
    (hcalm : TimerCalm d l (.select sel write)) :
    viewOf (d.messagePump false sel write) sel.clientID
        = (viewOf d sel.clientID).select timeout sel write
      ∧ (d.messagePump false sel write).status = .running
      ∧ (d.messagePump false sel write).dispatches = false := by
  rw [← h.timeout]
  cases sel with
  | request c => exact request_step h.running write
  | timer c =>
      have hstale : d.dispatches = false := by
        by_contra hd
        exact h.stale (Bool.not_eq_false _ ▸ hd) hcalm.1
      exact timer_step h.running hstale hcalm.2 write
  | ready c => exact ready_step h.running write

end

/-! ## Events in a row -/

section

variable {n : Nat} {timeout : Int} {d d' : ServerDispatcher} {l l' : List String} {c : String}

/-- A new queue is empty, so nothing becomes ready. -/
theorem dispatches_of_createClient (h : (d.createClient c).dispatches = true) :
    d.dispatches = true := by
  unfold ServerDispatcher.dispatches at h ⊢
  split at h
  · exact absurd h (by simp)
  · rename_i r hr
    rw [show d.clientQueue = some r from hr]
    dsimp only
    rw [Bool.and_eq_true] at h ⊢
    refine ⟨h.1, ?_⟩
    rcases FIFOQueueMap.deref_getOrCreate d.queueMap c r with hsame | hnew
    · rw [← hsame]; exact h.2
    · have hempty := h.2
      rw [ServerDispatcher.createClient, hnew] at hempty
      exact absurd hempty (by simp)

theorem createClient_step (h : Sound n timeout d l) (c : String) :
    Sound n timeout (d.createClient c) l
      ∧ viewOf (d.createClient c) c = { viewOf d c with present := true } := by
  have hcap : (d.queueMap.getOrCreate c).queueCapacity = d.queueMap.queueCapacity :=
    FIFOQueueMap.queueCapacity_getOrCreate d.queueMap c
  refine ⟨⟨h.running, hcap.trans h.queueCapacity, h.uniform.getOrCreate c, h.timeout,
    fun hd => h.stale (dispatches_of_createClient hd)⟩, ?_⟩
  have hpresent : ((d.createClient c).queueMap.get c).isSome = true :=
    FIFOQueueMap.get_getOrCreate_self d.queueMap c
  simp only [viewOf, hpresent, createClient_queueOf]
  rfl

theorem deleteClient_step (h : Sound n timeout d l) (c : String) :
    Sound n timeout (d.deleteClient c) l
      ∧ viewOf (d.deleteClient c) c = { viewOf d c with present := false, queue := [] } := by
  refine ⟨⟨h.running, h.queueCapacity, h.uniform.remove c, h.timeout, h.stale⟩, ?_⟩
  have habsent : ((d.deleteClient c).queueMap.get c).isSome = false := by
    simp [ServerDispatcher.deleteClient, FIFOQueueMap.get, FIFOQueueMap.remove]
  simp only [viewOf, habsent, deleteClient_queueOf, if_pos]
  rfl

theorem clearPending_step (h : Sound n timeout d l) (c : String) :
    Sound n timeout
        { d with pendingRequestState := d.pendingRequestState.clearClientPendingRequest c } l
      ∧ viewOf { d with pendingRequestState := d.pendingRequestState.clearClientPendingRequest c } c
        = { viewOf d c with slot := "" } := by
  refine ⟨⟨h.running, h.queueCapacity, h.uniform, h.timeout, h.stale⟩, ?_⟩
  have hslot : slotOf
      { d with pendingRequestState := d.pendingRequestState.clearClientPendingRequest c } c
        = "" := by
    rw [slotOf, ServerState.clientState_clear, if_pos rfl]
    rfl
  simp only [viewOf, hslot]
  rfl

/-- A push is refused by a missing or a full queue, and noticed later otherwise. -/
theorem sendRequest_step (h : Sound n timeout d l) (c : String) (req : RequestBundle) :
    Sound n timeout (match d.sendRequest c req with | .error _ => d | .ok d' => d') (c :: l)
      ∧ viewOf (match d.sendRequest c req with | .error _ => d | .ok d' => d') c
        = (viewOf d c).step n timeout (.sendRequest c req) := by
  -- what a refused push leaves, counted as one more unnoticed
  have hsame : Sound n timeout d (c :: l) :=
    ⟨h.running, h.queueCapacity, h.uniform, h.timeout, fun _ => by simp⟩
  cases hget : d.queueMap.get c with
  | none =>
      have habsent : (viewOf d c).present = false := by simp [viewOf, hget]
      simp only [ServerDispatcher.sendRequest, hget]
      exact ⟨hsame, by simp [ClientView.step, habsent]⟩
  | some r =>
      have hpresent : (viewOf d c).present = true := by simp [viewOf, hget]
      have hlen : (viewOf d c).queue.length = (d.queueMap.deref r).elements.length := by
        simp [viewOf, queueOf, FIFOQueueMap.contents_of_get hget]
      -- all queues have the capacity of the map they were made by
      have hcap : (d.queueMap.deref r).capacity = n := (h.uniform c r hget).trans h.queueCapacity
      by_cases hfull : (d.queueMap.deref r).elements.length ≥ n ∧ n > 0
      · have hrefused : d.sendRequest c req = .error FIFOClientQueue.fullError := by
          simp [ServerDispatcher.sendRequest, hget, ServerDispatcher.pushTo, FIFOClientQueue.push,
            hcap, hfull]
        rw [hrefused]
        refine ⟨hsame, ?_⟩
        rw [ClientView.step, if_pos (Or.inr (by rw [hlen]; exact hfull))]
      · obtain ⟨d', hd⟩ : ∃ d', d.pushTo c r req = .ok d' := by
          simp [ServerDispatcher.pushTo, FIFOClientQueue.push, hcap, hfull]
        have hsent : d.sendRequest c req = .ok d' := by
          rw [ServerDispatcher.sendRequest, hget]; exact hd
        rw [hsent]
        dsimp only
        have hq := pushTo_queueOf hget hd c
        rw [if_pos rfl] at hq
        have hpushed := pushTo_pushed hd
        have huniform : d'.queueMap.Uniform := fun x r' hr' => by
          rw [hpushed.capacity, hpushed.queueCapacity]
          exact h.uniform x r' ((hpushed.get x).symm.trans hr')
        refine ⟨⟨hpushed.status.trans h.running, hpushed.queueCapacity.trans h.queueCapacity,
          huniform, hpushed.timeout.trans h.timeout, fun _ => by simp⟩, ?_⟩
        have hroom : ¬ ((viewOf d c).present = false
            ∨ (viewOf d c).queue.length ≥ n ∧ n > 0) := by
          rw [hpresent, hlen]
          rintro (hp | hf)
          · exact absurd hp (by simp)
          · exact hfull hf
        rw [ClientView.step, if_neg hroom]
        simp only [viewOf, hpushed.get c, hq, slotOf, hpushed.pending,
          isActive_congr (congrFun hpushed.contexts c), framesTo, hpushed.written, reportsFor,
          hpushed.canceled, List.map_append, List.map_cons, List.map_nil]

/-- **An event of a client does to its view what the view's own step does.** -/
theorem onEvent_step {e : ServerDispatcher.Event} (h : Sound n timeout d l)
    (hcalm : TimerCalm d l e) :
    Sound n timeout (d.onEvent e) (unnoticed l e)
      ∧ viewOf (d.onEvent e) e.clientID = (viewOf d e.clientID).step n timeout e := by
  unfold ServerDispatcher.onEvent
  rw [if_pos h.running]
  cases e with
  | createClient c => exact createClient_step h c
  | deleteClient c => exact deleteClient_step h c
  | clearPending c => exact clearPending_step h c
  | sendRequest c req => exact sendRequest_step h c req
  | completeRequest c rid =>
      refine ⟨h.untouched (completeRequest_untouched d c rid)
        ((completeRequest_status d c rid).trans h.running) (fun hd => ?_),
        viewOf_completeRequest d c rid⟩
      exact h.stale (dispatches_of_completeRequest hd)
  | select sel write =>
      obtain ⟨hview, hrun, hdone⟩ := select_step h hcalm
      refine ⟨h.untouched (messagePump_untouched d false sel write) hrun (fun hd => ?_), hview⟩
      rw [hdone] at hd
      exact absurd hd (by simp)

/-- The pushes of one client that were not noticed are among all that were not. -/
theorem mem_unnoticed {X : String} (hl : ∀ x ∈ l', x = X ∧ x ∈ l)
    {e : ServerDispatcher.Event} (he : e.clientID ≠ X) :
    ∀ x ∈ l', x = X ∧ x ∈ unnoticed l e := by
  intro x hx
  obtain ⟨rfl, hmem⟩ := hl x hx
  refine ⟨rfl, ?_⟩
  cases e with
  | createClient c => exact hmem
  | deleteClient c => exact hmem
  | clearPending c => exact hmem
  | sendRequest c req => exact List.mem_cons_of_mem c hmem
  | completeRequest c rid => exact hmem
  | select sel write =>
      cases sel with
      | request c => exact List.mem_filter.mpr ⟨hmem, decide_eq_true (Ne.symm he)⟩
      | timer c => exact hmem
      | ready c => exact List.mem_filter.mpr ⟨hmem, decide_eq_true (Ne.symm he)⟩

theorem mem_unnoticed_self {X : String} (hl : ∀ x ∈ l', x = X ∧ x ∈ l)
    {e : ServerDispatcher.Event} (he : e.clientID = X) :
    ∀ x ∈ unnoticed l' e, x = X ∧ x ∈ unnoticed l e := by
  intro x hx
  cases e with
  | createClient c => exact hl x hx
  | deleteClient c => exact hl x hx
  | clearPending c => exact hl x hx
  | sendRequest c req =>
      rcases List.mem_cons.mp hx with hc | hold
      · exact ⟨hc.trans he, by rw [hc]; exact List.mem_cons_self⟩
      · exact ⟨(hl x hold).1, List.mem_cons_of_mem c (hl x hold).2⟩
  | completeRequest c rid => exact hl x hx
  | select sel write =>
      cases sel with
      | request c =>
          obtain ⟨hold, hne⟩ := List.mem_filter.mp hx
          exact ⟨(hl x hold).1, List.mem_filter.mpr ⟨(hl x hold).2, hne⟩⟩
      | timer c => exact hl x hx
      | ready c =>
          obtain ⟨hold, hne⟩ := List.mem_filter.mp hx
          exact ⟨(hl x hold).1, List.mem_filter.mpr ⟨(hl x hold).2, hne⟩⟩

/-- Whether a timer event is calm can be seen from its client and the unnoticed pushes. -/
theorem timerCalm_of_view {e : ServerDispatcher.Event} (h : TimerCalm d l e)
    (hl : l = [] → l' = []) (hv : viewOf d' e.clientID = viewOf d e.clientID) :
    TimerCalm d' l' e := by
  cases e with
  | select sel write =>
      cases sel with
      | request c => trivial
      | timer c =>
          obtain ⟨hnil, hhead⟩ := h
          have hslot : slotOf d' c = slotOf d c := congrArg ClientView.slot hv
          have hq : (queueOf d' c).map Posted.bundle = (queueOf d c).map Posted.bundle :=
            congrArg ClientView.queue hv
          refine ⟨hl hnil, fun hs he => ?_⟩
          rw [hslot] at hs
          rw [he, List.map_nil] at hq
          exact hhead hs (List.map_eq_nil_iff.mp hq.symm)
      | ready c => trivial
  | createClient c => trivial
  | deleteClient c => trivial
  | clearPending c => trivial
  | sendRequest c req => trivial
  | completeRequest c rid => trivial

/-- The events that name a client. -/
def eventsOf (X : String) (es : List ServerDispatcher.Event) : List ServerDispatcher.Event :=
  es.filter (fun e => e.clientID = X)

/--
Two runs side by side, one with all events and one with those of `X`: an event
of `X` moves both views the same way, and any other event moves neither.
-/
theorem onEvents_view {X : String} (es : List ServerDispatcher.Event)
    (h : Sound n timeout d l) (h' : Sound n timeout d' l') (hv : viewOf d' X = viewOf d X)
    (hl : ∀ x ∈ l', x = X ∧ x ∈ l) (hcalm : Calm d l es) :
    viewOf (d.onEvents es) X = viewOf (d'.onEvents (eventsOf X es)) X
      ∧ (d.onEvents es).status = .running := by
  -- on the events, both runs started anywhere as long as they agree on `X`
  induction es generalizing d d' l l' with
  | nil => exact ⟨hv.symm, h.running⟩
  | cons e es ih =>
      obtain ⟨hnow, hlater⟩ := hcalm
      obtain ⟨hsound, hstep⟩ := onEvent_step h hnow
      by_cases he : e.clientID = X
      · have hfilter : eventsOf X (e :: es) = e :: eventsOf X es := by
          simp [eventsOf, he]
        have hnil : l = [] → l' = [] := by
          intro hn
          refine List.eq_nil_iff_forall_not_mem.mpr (fun x hx => ?_)
          have hmem := (hl x hx).2
          rw [hn] at hmem
          exact absurd hmem (by simp)
        -- the run of `X` alone has fewer pushes to notice, and the same pending request
        have hnow' : TimerCalm d' l' e :=
          timerCalm_of_view hnow hnil (by rw [he]; exact hv)
        obtain ⟨hsound', hstep'⟩ := onEvent_step h' hnow'
        rw [hfilter]
        refine ih hsound hsound' ?_ (mem_unnoticed_self hl he) hlater
        rw [he] at hstep hstep'
        rw [hstep, hstep', hv]
      · have hfilter : eventsOf X (e :: es) = eventsOf X es := by
          simp [eventsOf, he]
        rw [hfilter]
        refine ih hsound h' ?_ (mem_unnoticed hl he) hlater
        rw [viewOf_onEvent_ne d (Ne.symm he)]
        exact hv

end

/-! ## Isolation -/

/-- A client gets the frames and cancellations it would get without the other clients. -/
def ServedAlone (n : Nat) (timeout : Int) (es : List ServerDispatcher.Event) (X : String) : Prop :=
  (framesTo ((ServerDispatcher.start n timeout).onEvents es) X).map Posted.bundle
      = (framesTo ((ServerDispatcher.start n timeout).onEvents (eventsOf X es)) X).map Posted.bundle
    ∧ (reportsFor ((ServerDispatcher.start n timeout).onEvents es) X).map
          (fun x => (x.request.bundle, x.err))
      = (reportsFor ((ServerDispatcher.start n timeout).onEvents (eventsOf X es)) X).map
          (fun x => (x.request.bundle, x.err))

/--
**Clients are served as if alone** when timer events are calm, and the pump never
looks at the head of an empty queue.
-/
theorem clients_served_alone {n : Nat} {timeout : Int} {es : List ServerDispatcher.Event}
    (h : Calm (.start n timeout) [] es) :
    (∀ X, ServedAlone n timeout es X)
      ∧ ((ServerDispatcher.start n timeout).onEvents es).status = .running := by
  have hstart := sound_start n timeout
  have hview := fun X => onEvents_view (X := X) es hstart hstart rfl (by simp) h
  refine ⟨fun X => ⟨?_, ?_⟩, (hview "").2⟩
  · exact congrArg ClientView.frames (hview X).1
  · exact congrArg ClientView.reports (hview X).1

/-- Client `x` sends and is answered while client `y` times out. -/
theorem answer_and_timeout_apart :
    ∃ es, Calm (.start 0 30) [] es ∧ (∀ X, ServedAlone 0 30 es X)
      ∧ framesTo ((ServerDispatcher.start 0 30).onEvents es) "y" ≠ []
      ∧ reportsFor ((ServerDispatcher.start 0 30).onEvents es) "y" ≠ [] := by
  let es : List ServerDispatcher.Event :=
    [.createClient "x", .createClient "y", .sendRequest "y" (heartbeatBundle "1"),
      .select (.request "y") none, .sendRequest "x" (heartbeatBundle "2"),
      .select (.request "x") none, .completeRequest "x" "2", .select (.ready "x") none,
      .select (.timer "y") none]
  have hcalm : Calm (.start 0 30) [] es := by decide
  exact ⟨es, hcalm, (clients_served_alone hcalm).1, by decide, by decide⟩

/--
**A timer event acts on what another client left behind.** Client `x` was ready
with an empty queue, and a push for it is waiting to be noticed when `y` times
out. Then `y` is sent its next request ahead of time; without one, the server
crashes. Alone, `y` sees neither.
-/
theorem timer_event_of_another_client :
    (∃ es, ¬ ServedAlone 0 30 es "y")
      ∧ ∃ es, ((ServerDispatcher.start 0 30).onEvents es).status = .crashed
        ∧ ((ServerDispatcher.start 0 30).onEvents (eventsOf "y" es)).status = .running := by
  let ready : List ServerDispatcher.Event :=
    [.sendRequest "x" (heartbeatBundle "3"), .select (.request "x") none,
      .completeRequest "x" "3", .select (.ready "x") none,
      .sendRequest "x" (heartbeatBundle "4"), .select (.timer "y") none]
  refine ⟨⟨[.createClient "x", .createClient "y", .sendRequest "y" (heartbeatBundle "1"),
      .select (.request "y") none, .sendRequest "y" (heartbeatBundle "2")] ++ ready, ?_⟩,
    [.createClient "x", .createClient "y", .sendRequest "y" (heartbeatBundle "1"),
      .select (.request "y") none] ++ ready, rfl, rfl⟩
  rintro ⟨hframes, _⟩
  have hlen := congrArg List.length hframes
  exact absurd hlen (by decide)

end OcppGo.Proof
