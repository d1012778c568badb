import OcppGo.Proof.CentralCallbacks
import OcppGo.Proof.ServerChanges
import OcppGo.Proof.ServerLocality

/-!
# Frames that claim to be replies

A peer may send any JSON array whose first element reads as `CALL_RESULT` or
`CALL_ERROR`. `ParseMessage` looks at the id only after the array has turned out
long enough and the id to be a non-empty string, and then compares it with the
pending id of the client the frame came from. A frame that fails one of these
tests is dropped: either nothing is reported, or an error without an id, which
nobody is told about.

The server therefore answers for one client at a time. Whatever a frame does, it
does to the queue, the pending request and the callbacks of its sender, and a
reply does it only under the sender's own pending id.
-/

namespace OcppGo.Proof

open OcppGo.Ocppj

/-- The first element reads as the type id of a reply. -/
def IsReply (arr : List Json) : Prop :=
  ∃ n : Number, arr[0]? = some (.num n) ∧ (n.toInt64 = CALL_RESULT ∨ n.toInt64 = CALL_ERROR)

/-- The second element is the pending id. -/
def NamesPending (st : ClientState Payload) (arr : List Json) : Prop :=
  st.requestID ≠ "" ∧ arr[1]? = some (.str st.requestID)

/-! ## Parsing -/

/-- Reported to nobody: dropped silently, or with an error that carries no id. -/
inductive Unreported (endpoint : Endpoint) : Parsed → Prop where
  | discarded : Unreported endpoint .discarded
  | failed (err : OcppError) : err.messageId = "" → Unreported endpoint (.failed err)
  /-- An endpoint without a dialect cannot even name the error. -/
  | panicked : endpoint.dialect = .unset → Unreported endpoint .panicked

theorem formatViolation_unreported (endpoint : Endpoint) (text : String) :
    Unreported endpoint (endpoint.formatViolation text "") := by
  unfold Endpoint.formatViolation
  split
  · rename_i hnone
    refine .panicked ?_
    unfold Endpoint.formatErrorType at hnone
    split at hnone
    · exact absurd hnone (by simp)
    · exact absurd hnone (by simp)
    · assumption
  · exact .failed _ rfl

theorem getPendingRequest_ne {st : ClientState Payload} {id : String} (h : st.requestID ≠ id) :
    st.getPendingRequest id = none := by
  unfold ClientState.getPendingRequest
  rw [if_pos h]

/-- **A reply under any id but the pending one is not reported to anybody.** -/
theorem parseMessage_stray {endpoint : Endpoint} {lib : Library} {arr : List Json}
    {st : ClientState Payload} (hreply : IsReply arr) (hid : ¬ NamesPending st arr) :
    Unreported endpoint (endpoint.parseMessage lib arr st) := by
  obtain ⟨n, hn, htype⟩ := hreply
  unfold Endpoint.parseMessage
  split
  · rename_i arr0 arr1 arr2 rest
    cases hn
    dsimp only
    split
    · rename_i uid
      split
      · rename_i hempty
        rw [hempty]
        exact formatViolation_unreported endpoint _
      · rename_i hne
        -- the id is usable, so it is compared with the pending one
        have hother : st.requestID ≠ uid := by
          rintro rfl
          exact hid ⟨hne, rfl⟩
        have hcall : n.toInt64 ≠ CALL := by
          rcases htype with h | h <;> rw [h] <;> decide
        rw [if_neg hcall]
        split
        · rw [Endpoint.parseCallResult, getPendingRequest_ne hother]
          exact .discarded
        · rename_i hresult
          rw [if_pos (htype.resolve_left hresult)]
          unfold Endpoint.parseCallError
          rw [getPendingRequest_ne hother]
          exact .discarded
    · exact formatViolation_unreported endpoint _
  · exact formatViolation_unreported endpoint _

/-! ## The server -/

section

variable {cfg : ServerConfig} {d : ServerDispatcher} {y : String} {data : List UInt8}

/-- The hook replaces everything about an error but its id. -/
theorem hookedError_messageId (cfg : ClientConfig) (err : OcppError) (data : List UInt8)
    (arr : List Json) : (Client.hookedError cfg err data arr).messageId = err.messageId := by
  unfold Client.hookedError
  split
  · rfl
  · split
    · rfl
    · rfl

/-- What is left of a frame that is reported to nobody: a slot for its sender. -/
theorem parseFrame_unreported {arr : List Json} (harr : cfg.lib.unmarshalArray data = .ok arr)
    (h : Unreported cfg.endpoint
      (cfg.endpoint.parseMessage cfg.lib arr (d.pendingRequestState.clientState y))) :
    ∃ status, Server.parseFrame cfg d y data
        = ({ d with
              pendingRequestState := (d.pendingRequestState.getClientState y).1
              status := status }, .done [])
      ∧ (cfg.endpoint.dialect ≠ .unset → status = d.status) := by
  change Unreported cfg.endpoint
    (cfg.endpoint.parseMessage cfg.lib arr (d.pendingRequestState.getClientState y).2) at h
  unfold Server.parseFrame
  rw [harr]
  dsimp only
  split
  · rename_i hp
    rw [hp] at h
    cases h with
    | panicked hunset => exact ⟨.crashed, rfl, fun hset => absurd hunset hset⟩
  · rename_i err hp
    rw [hp] at h
    cases h with
    | failed _ hempty =>
        -- the hook may replace the error, but not the id it is reported under
        have hhook : (Client.hookedError (cfg.forClient y) err data arr).messageId = "" := by
          rw [hookedError_messageId]
          exact hempty
        rw [if_neg (not_not.mpr hhook)]
        exact ⟨d.status, rfl, fun _ => rfl⟩
  · exact ⟨d.status, rfl, fun _ => rfl⟩
  · rename_i m hp
    rw [hp] at h
    cases h

/-- **A reply under any id but its sender's pending one has no effect.** -/
theorem ocppMessageHandler_stray {arr : List Json}
    (harr : cfg.lib.unmarshalArray data = .ok arr) (hreply : IsReply arr)
    (hid : ¬ NamesPending (d.pendingRequestState.clientState y) arr) :
    ∃ status, Server.ocppMessageHandler cfg d y data
        = ({ d with
              pendingRequestState := (d.pendingRequestState.getClientState y).1
              status := status }, [])
      ∧ (cfg.endpoint.dialect ≠ .unset → status = d.status) := by
  obtain ⟨status, hparse, hstatus⟩ :=
    parseFrame_unreported (d := d) (y := y) harr (parseMessage_stray hreply hid)
  refine ⟨status, ?_, hstatus⟩
  rw [Server.ocppMessageHandler, hparse]

/-- Handling a frame reads or completes the sender's slot, and no other. -/
theorem ocppMessageHandler_others {d' : ServerDispatcher} {calls : List HandlerCall} {x : String}
    (h : Server.ocppMessageHandler cfg d y data = (d', calls)) (hx : x ≠ y) :
    queueOf d' x = queueOf d x
      ∧ d'.pendingRequestState.clientState x = d.pendingRequestState.clientState x := by
  unfold Server.ocppMessageHandler at h
  split at h
  · rename_i d₁ calls₁ hparse
    obtain ⟨hqueues, _, _, hslots⟩ := Server.parseFrame_frame hparse
    cases h
    exact ⟨by rw [queueOf, hqueues, queueOf], hslots x⟩
  · rename_i d₁ m hparse
    obtain ⟨hqueues, _, _, hslots⟩ := Server.parseFrame_frame hparse
    have hq : queueOf d₁ x = queueOf d x := by rw [queueOf, hqueues, queueOf]
    have hd : d' = (Server.handleMessage d₁ y m).1 := by rw [h]
    rw [hd, Server.handleMessage_fst]
    split
    · exact ⟨hq, hslots x⟩
    · rename_i id _
      refine ⟨((completeRequest_elsewhere d₁ y id).queue x hx).trans hq, ?_⟩
      unfold ServerDispatcher.completeRequest
      split
      · exact hslots x
      · exact (ServerState.clientState_delete_ne _ id hx).trans (hslots x)

end

/-! ## The callbacks -/

/-- The calls of client `x`'s callbacks, in order. -/
def callsFor (s : CentralSystem) (x : String) : List CallbackCall :=
  s.invoked.filter (fun call => call.clientID = x)

/-- A handler takes callbacks of its own client only. -/
theorem invokeNext_others {s : CentralSystem} {x y : String} (hx : x ≠ y) (rid : Option String)
    (result : Except OcppError Payload) :
    (s.invokeNext y rid result).callbackQueue.queued x = s.callbackQueue.queued x
      ∧ callsFor (s.invokeNext y rid result) x = callsFor s x := by
  unfold CentralSystem.invokeNext
  split
  · exact ⟨rfl, rfl⟩
  · rename_i callback callbackQueue hdeq
    have hput : callbackQueue.queued x = s.callbackQueue.queued x := by
      unfold CallbackQueue.dequeue at hdeq
      split at hdeq
      · exact absurd hdeq (by simp)
      · cases hdeq
        exact CallbackQueue.queued_put_ne _ _ hx
    exact ⟨hput, by simp [callsFor, Ne.symm hx]⟩

theorem handlerCalls_others {x y : String} (hx : x ≠ y) (calls : List HandlerCall)
    (s : CentralSystem) :
    (calls.foldl (CentralSystem.handlerCall y) s).callbackQueue.queued x
        = s.callbackQueue.queued x
      ∧ callsFor (calls.foldl (CentralSystem.handlerCall y) s) x = callsFor s x := by
  induction calls generalizing s with
  | nil => exact ⟨rfl, rfl⟩
  | cons call calls ih =>
      have hcall : (CentralSystem.handlerCall y s call).callbackQueue.queued x
            = s.callbackQueue.queued x
          ∧ callsFor (CentralSystem.handlerCall y s call) x = callsFor s x := by
        cases call with
        | requestHandler _ _ _ => exact ⟨rfl, rfl⟩
        | responseHandler p id => exact invokeNext_others hx _ _
        | errorHandler err details => exact invokeNext_others hx _ _
        | write e => exact ⟨rfl, rfl⟩
      obtain ⟨hq, hc⟩ := ih (CentralSystem.handlerCall y s call)
      exact ⟨hq.trans hcall.1, hc.trans hcall.2⟩

/--
**A frame affects its sender only, and a reply only under the sender's pending
id.** Whatever client `y` sends, the queue, the pending request and the callbacks
of every other client stay. If the frame reads as a reply, then a change to `y`'s
queue or pending request, or a call of a handler, means that it named `y`'s
pending id. Under any other id nothing changes but the entry `GetClientState`
makes, no handler is called and nothing is written.

The last part is about a server that has a dialect. Without one, `ParseMessage`
panics where it would report an error.
-/
theorem frame_affects_its_sender_only {cfg : CentralSystemConfig} {s : CentralSystem}
    {y : String} {data : List UInt8} {d : ServerDispatcher} {calls : List HandlerCall}
    (h : Server.ocppMessageHandler cfg.server s.dispatcher y data = (d, calls)) :
    (∀ x, x ≠ y →
        queueOf d x = queueOf s.dispatcher x
          ∧ d.pendingRequestState.clientState x = s.dispatcher.pendingRequestState.clientState x
          ∧ (s.ocppMessageHandler cfg y data).callbackQueue.queued x = s.callbackQueue.queued x
          ∧ callsFor (s.ocppMessageHandler cfg y data) x = callsFor s x)
      ∧ ∀ arr, cfg.server.lib.unmarshalArray data = .ok arr → IsReply arr →
        (queueOf d y ≠ queueOf s.dispatcher y
            ∨ d.pendingRequestState.clientState y ≠ s.dispatcher.pendingRequestState.clientState y
            ∨ calls ≠ [] →
          NamesPending (s.dispatcher.pendingRequestState.clientState y) arr)
        ∧ (¬ NamesPending (s.dispatcher.pendingRequestState.clientState y) arr →
          calls = [] ∧ ∃ status,
            d = { s.dispatcher with
                  pendingRequestState := (s.dispatcher.pendingRequestState.getClientState y).1
                  status := status }
            ∧ (cfg.server.endpoint.dialect ≠ .unset → status = s.dispatcher.status)) := by
  refine ⟨?_, ?_⟩
  · intro x hx
    obtain ⟨hq, hs⟩ := ocppMessageHandler_others h hx
    obtain ⟨hcq, hcalls⟩ := handlerCalls_others hx
      (Server.ocppMessageHandler cfg.server s.dispatcher y data).2
      { s with dispatcher := (Server.ocppMessageHandler cfg.server s.dispatcher y data).1 }
    exact ⟨hq, hs, hcq, hcalls⟩
  · intro arr harr hreply
    have hstray : ¬ NamesPending (s.dispatcher.pendingRequestState.clientState y) arr →
        calls = [] ∧ ∃ status,
          d = { s.dispatcher with
                pendingRequestState := (s.dispatcher.pendingRequestState.getClientState y).1
                status := status }
          ∧ (cfg.server.endpoint.dialect ≠ .unset → status = s.dispatcher.status) := by
      intro hid
      obtain ⟨status, heq, hstatus⟩ := ocppMessageHandler_stray harr hreply hid
      rw [h] at heq
      cases heq
      exact ⟨rfl, status, rfl, hstatus⟩
    refine ⟨?_, hstray⟩
    intro heffect
    by_contra hid
    obtain ⟨rfl, status, rfl, _⟩ := hstray hid
    rcases heffect with hq | hs | hc
    · exact hq rfl
    · exact hs (ServerState.clientState_getClientState _ y y)
    · exact hc rfl

/--
Request "1" to client "a" is outstanding, and client "b" sends a result for it:
no handler is called, and "a" still has its request queued.
-/
theorem forged_reply_ignored :
    ∃ d s calls, (Server.operations heartbeatServer).run (.start 0 30)
        [.onClientConnected "a", .onClientConnected "b", .sendRequest "a" "1" heartbeatRequest,
          .messagePump (.request "a") none] = some d
      ∧ (d.pendingRequestState.clientState "a").requestID = "1"
      ∧ Server.ocppMessageHandler heartbeatServer d "b" (resultFrame "1") = (s, calls)
      ∧ calls = [] ∧ queueOf s "a" = queueOf d "a" := by
  have hrun : ∃ d, (Server.operations heartbeatServer).run (.start 0 30)
      [.onClientConnected "a", .onClientConnected "b", .sendRequest "a" "1" heartbeatRequest,
        .messagePump (.request "a") none] = some d
      ∧ (d.pendingRequestState.clientState "a").requestID = "1"
      ∧ (d.pendingRequestState.clientState "b").requestID = "" := by
    refine ⟨_, rfl, ?_, ?_⟩ <;> rfl
  obtain ⟨d, hd, ha, hb⟩ := hrun
  let s : CentralSystem :=
    { CentralSystem.start (centralSystem heartbeatServer) with dispatcher := d }
  have hframe : Server.ocppMessageHandler (centralSystem heartbeatServer).server s.dispatcher "b"
      (resultFrame "1") = Server.ocppMessageHandler heartbeatServer d "b" (resultFrame "1") := rfl
  have hfact := frame_affects_its_sender_only hframe
  have hreply : IsReply [.num (.ofInt 3), .str "1", .obj []] := ⟨.ofInt 3, rfl, Or.inl rfl⟩
  have hstray := (hfact.2 _ rfl hreply).2 (fun hnames => hnames.1 hb)
  exact ⟨d, _, _, hd, ha, rfl, hstray.1, (hfact.1 "a" (by decide)).1⟩

end OcppGo.Proof
