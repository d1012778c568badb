import OcppGo.Ocppj.Server
import OcppGo.Proof.ServerSlots

/-!
# Replies complete what the server has pending

The server keeps a client's requests in one map and its pending request in
another, and `CompleteRequest` compares the two before it pops. It has three ways
to give up: no queue for the client, nothing queued, or another request at the
head. `ParseMessage` has checked the id against the pending slot by then, so all
three would mean that slot and queue disagree.

They never do as long as each operation runs undivided. `SlotHead` is the
invariant; it holds for all clients at once, whichever of them an operation is
about, and also in the state in which a pump that cannot signal is left.
-/

namespace OcppGo.Proof

open OcppGo.Lib OcppGo.Ocppj

variable {d d' : ServerDispatcher} {c x : String}

/-! ## The pump -/

/-- Also when the pump then hangs on its own signal. -/
theorem SlotHeadAt.cancelRequest (h : SlotHeadAt d x) (bounded : Bool) (c : String) (p : Posted)
    (code : ErrorCode) (text : String) : SlotHeadAt (d.cancelRequest bounded c p code text) x := by
  have hdone := h.completeRequest c p.id
  unfold ServerDispatcher.cancelRequest
  split
  · exact hdone.congr rfl rfl
  · exact hdone.congr rfl rfl

theorem SlotHeadAt.onSelect (h : SlotHeadAt d x) (bounded : Bool) (sel : ServerSelect) :
    SlotHeadAt (d.onSelect bounded sel) x := by
  cases sel with
  | request c =>
      simp only [ServerDispatcher.onSelect, ServerDispatcher.onRequest]
      split
      · exact h.congr rfl rfl
      · exact h.congr rfl rfl
  | timer c =>
      have hctx : SlotHeadAt (d.cancelContext c) x := h.change cancelContext_change
      simp only [ServerDispatcher.onSelect, ServerDispatcher.onTimer]
      split
      · unfold ServerDispatcher.cancelTimedOut
        split
        · exact hctx.congr rfl rfl
        · split
          · exact hctx.congr rfl rfl
          · exact hctx.cancelRequest bounded c _ _ _
      · exact hctx
  | ready c =>
      have hctx : SlotHeadAt (d.cancelContext c) x := h.change cancelContext_change
      exact hctx.congr rfl rfl

theorem SlotHeadAt.dispatchNextRequest (h : SlotHeadAt d x) (bounded : Bool) (c : String)
    (write : Option String) : SlotHeadAt (d.dispatchNextRequest bounded c write) x := by
  unfold ServerDispatcher.dispatchNextRequest
  split
  · exact h.congr rfl rfl
  · rename_i r hr
    split
    · exact h.congr rfl rfl
    · rename_i p hp
      -- the head is marked; a failed write then takes both the mark and the head away
      have hmark := h.change (mark_change (c := c) (p := p) (by rw [queueOf_of_peek hr hp]; rfl))
      dsimp only
      split
      · rename_i text
        exact (hmark.cancelRequest bounded c p InternalError text).congr rfl rfl
      · split
        · exact hmark.congr rfl rfl
        · exact hmark.congr rfl rfl

/-- **An iteration keeps filled slots at the head**, whether or not its own signals wait. -/
theorem SlotHeadAt.messagePump (h : SlotHeadAt d x) (bounded : Bool) (sel : ServerSelect)
    (write : Option String) : SlotHeadAt (d.messagePump bounded sel write) x := by
  have hsel := h.onSelect bounded sel
  unfold ServerDispatcher.messagePump ServerDispatcher.dispatchIfReady
  split
  · exact hsel.dispatchNextRequest bounded sel.clientID write
  · exact hsel

theorem SlotHeadAt.pump {sel : ServerSelect} {write : Option String} (h : SlotHeadAt d x)
    (hd : d.pump sel write = some d') : SlotHeadAt d' x := by
  unfold ServerDispatcher.pump at hd
  split at hd
  · obtain ⟨d₁, hrec, rfl⟩ := Option.map_eq_some_iff.mp hd
    obtain ⟨⟨requests, timers, rfl⟩, _⟩ := receive_eq hrec
    have htoken : SlotHeadAt { d with
        requestChannel := requests, readyForDispatch := tokensLeft d sel, timerC := timers } x :=
      h.congr rfl rfl
    exact htoken.messagePump _ sel write
  · exact absurd hd (by simp)

theorem SlotHead.pump {sel : ServerSelect} {write : Option String} (h : SlotHead d)
    (hd : d.pump sel write = some d') : SlotHead d' :=
  fun x => SlotHeadAt.pump (h x) hd

/-! ## The other operations -/

theorem SlotHead.disconnected (h : SlotHead d) (c : String) :
    SlotHead (Server.onClientDisconnected d c) := by
  refine h.clear (c := c) (fun x hx => ?_) (fun x => ?_)
  · show queueOf (d.deleteClient c) x = _
    rw [deleteClient_queueOf, if_neg hx]
  · exact cleared_slotOf (d.deleteClient c) c x

theorem SlotHead.sendRequest {cfg : ServerConfig} {uid : String} {request : Payload}
    (h : SlotHead d) (hd : Server.sendRequest cfg d c uid request = .ok d') : SlotHead d' := by
  obtain ⟨r, req, hget, _, hpush⟩ := Server.sendRequest_ok hd
  refine h.append (pushTo_queueOf hget hpush) (fun x => ?_)
  rw [slotOf, (pushTo_pushed hpush).pending, slotOf]

theorem SlotHead.parseFrame {cfg : ServerConfig} {data : List UInt8} {r : Server.Received}
    (h : SlotHead d) (hd : Server.parseFrame cfg d c data = (d', r)) : SlotHead d' := by
  obtain ⟨hqueues, _, _, hslots⟩ := Server.parseFrame_frame hd
  refine h.congr (fun x => ?_) (fun x => ?_)
  · rw [queueOf, hqueues, queueOf]
  · rw [slotOf, hslots x, slotOf]

theorem SlotHead.ocppMessageHandler {cfg : ServerConfig} {data : List UInt8} (h : SlotHead d) :
    SlotHead (Server.ocppMessageHandler cfg d c data).1 := by
  unfold Server.ocppMessageHandler
  split
  · rename_i d₁ calls hparse
    exact h.parseFrame hparse
  · rename_i d₁ m hparse
    have h₁ := h.parseFrame hparse
    rw [Server.handleMessage_fst]
    split
    · exact h₁
    · exact h₁.completeRequest c _

/-- **Preserved by every operation.** -/
theorem slotHead_perform {cfg : ServerConfig} {op : Server.Operation} (h : SlotHead d)
    (hact : Server.perform cfg d op = some d') : SlotHead d' := by
  unfold Server.perform at hact
  split at hact
  · exact absurd hact (by simp)
  · cases op with
    | onClientConnected c =>
        cases hact
        exact h.congr (fun x => createClient_queueOf d c x) (fun _ => rfl)
    | onClientDisconnected c =>
        cases hact
        exact h.disconnected c
    | sendRequest c uid request =>
        dsimp only at hact
        split at hact
        · exact absurd hact (by simp)
        · split at hact
          · cases hact
            exact h
          · rename_i d₁ hd
            cases hact
            exact h.sendRequest hd
    | messagePump sel write => exact h.pump hact
    | deadlineExceeded c ctx =>
        obtain ⟨waiting, expired, rfl⟩ := deadlineExceeded_eq hact
        exact h.congr (fun _ => rfl) (fun _ => rfl)
    | notifyTimeout c =>
        obtain ⟨expired, timers, rfl⟩ := notifyTimeout_eq hact
        exact h.congr (fun _ => rfl) (fun _ => rfl)
    | ocppMessageHandler c data =>
        cases hact
        exact h.ocppMessageHandler

theorem slotHead_reachable {cfg : ServerConfig} (h : Reachable (Server.operations cfg) d) :
    SlotHead d := by
  refine Reachable.invariant (P := SlotHead) ?_ ?_ h
  · rintro s rfl
    exact slotHead_start _ _
  · intro s op s' _ hs hact
    exact slotHead_perform hs hact

/-! ## What follows for replies -/

/-- A head with the id at hand passes all three checks of `CompleteRequest`. -/
theorem completeRequestError_of_head {p : Posted} {rest : List Posted}
    (h : queueOf d c = p :: rest) : d.completeRequestError c p.id = none := by
  obtain ⟨r, hget, hpeek⟩ := get_of_head h
  simp only [ServerDispatcher.completeRequestError, hget, hpeek, ne_eq, not_true_eq_false,
    if_false]

/--
**Queues and pending state agree for every client.** Between `Start` and `Stop`,
with undivided operations, a client with a pending request has a queue whose head
carries the pending id. So `CompleteRequest`, called by `ocppMessageHandler` for
a reply that `ParseMessage` returned, takes none of its error branches.
-/
theorem server_dispatcher_coherent {cfg : ServerConfig}
    (h : Reachable (Server.operations cfg) d) (c : String) :
    (d.pendingRequestState.hasPendingRequest c = true →
        ∃ r p, d.queueMap.get c = some r ∧ (d.queueMap.deref r).peek = some p
          ∧ p.id = (d.pendingRequestState.clientState c).requestID)
      ∧ ∀ (data : List UInt8) (d₁ : ServerDispatcher) (m : Message) (id : String),
          Server.parseFrame cfg d c data = (d₁, .message m) → Server.replyId m = some id →
          d₁.completeRequestError c id = none := by
  have hslot := slotHead_reachable h
  refine ⟨?_, ?_⟩
  · intro hpending
    rw [ServerState.hasPendingRequest_eq, ClientState.hasPendingRequest_iff] at hpending
    obtain ⟨p, rest, hq, hid⟩ := hslot c hpending
    obtain ⟨r, hget, hpeek⟩ := get_of_head hq
    exact ⟨r, p, hget, hpeek, hid⟩
  · intro data d₁ m id hparse hid
    obtain ⟨hne, hpending⟩ := Server.parseFrame_message hparse hid
    obtain ⟨p, rest, hq, hpid⟩ := hslot c (by rw [slotOf, hpending]; exact hne)
    have hqueues := (Server.parseFrame_frame hparse).1
    have hq₁ : queueOf d₁ c = p :: rest := by rw [queueOf, hqueues]; exact hq
    have hpid : p.id = id := hpid.trans hpending
    rw [← hpid]
    exact completeRequestError_of_head hq₁

/--
A request to "cp" is outstanding when "cp" disconnects and comes back; the next
request is dispatched, and the pending id is that of the head.
-/
theorem server_dispatcher_coherent_reconnected :
    ∃ d, (Server.operations heartbeatServer).run (.start 0 30)
        [.onClientConnected "cp", .sendRequest "cp" "1" heartbeatRequest,
          .messagePump (.request "cp") none, .onClientDisconnected "cp",
          .messagePump (.request "cp") none, .onClientConnected "cp",
          .sendRequest "cp" "2" heartbeatRequest, .messagePump (.request "cp") none] = some d
      ∧ d.pendingRequestState.hasPendingRequest "cp" = true
      ∧ ∃ r p, d.queueMap.get "cp" = some r ∧ (d.queueMap.deref r).peek = some p
        ∧ p.id = (d.pendingRequestState.clientState "cp").requestID := by
  have hrun : ∃ d, (Server.operations heartbeatServer).run (.start 0 30)
      [.onClientConnected "cp", .sendRequest "cp" "1" heartbeatRequest,
        .messagePump (.request "cp") none, .onClientDisconnected "cp",
        .messagePump (.request "cp") none, .onClientConnected "cp",
        .sendRequest "cp" "2" heartbeatRequest, .messagePump (.request "cp") none] = some d
      ∧ d.pendingRequestState.hasPendingRequest "cp" = true := ⟨_, rfl, rfl⟩
  obtain ⟨d, hd, hpending⟩ := hrun
  have hr : Reachable (Server.operations heartbeatServer) d := Reachable.run (.init rfl) _ hd
  exact ⟨d, hd, hpending, (server_dispatcher_coherent hr "cp").1 hpending⟩

end OcppGo.Proof
