import OcppGo.Ocppj.Link
import OcppGo.Ocppj.Marshal
import OcppGo.Proof.IncomingReplies

/-!
# No answer to an answer

`ocppMessageHandler` sends an error back whenever `ParseMessage` fails with an id,
and it does not ask what kind of frame failed. An answer that names the pending id
and turns out malformed is therefore answered, under that id. The other side may
have a request of its own outstanding under the same id, since the two sides do not
agree on ids, and takes the error for the answer to it.

`Fits` is what a frame must carry for this not to happen: under the pending id, a
result that decodes as the response of the pending request, or an error with a
description and a known code. Then nothing is written, whatever the state, and
nothing on either wire was written because of an answer.
-/

namespace OcppGo.Proof

open OcppGo.Ocppj Lib

/-- The third element is a valid response of the pending request. -/
def ResultFits (endpoint : Endpoint) (lib : Library) (st : ClientState Payload) (arr2 : Json) :
    Prop :=
  ∀ request profile, st.pendingRequest = some request →
    endpoint.getProfileForFeature request.featureName = some profile →
    ∃ p, profile.parseResponse request.featureName arr2 (Endpoint.parseRawJson lib) = .ok p
      ∧ CallResult.validate lib ⟨CALL_RESULT, st.requestID, p⟩ = []

/-- There is a description, and the third element is no unknown code. -/
def ErrorFits (lib : Library) (st : ClientState Payload) (arr2 : Json) (rest : List Json) : Prop :=
  rest ≠ [] ∧ ∀ code, arr2 = .str code →
    CallError.validate lib ⟨CALL_ERROR, st.requestID, code, "", none⟩ = []

/-- A reply under the pending id is well-formed; other frames are not asked for anything. -/
def Fits (endpoint : Endpoint) (lib : Library) (st : ClientState Payload) (arr : List Json) :
    Prop :=
  ∀ n arr2 rest, arr = .num n :: .str st.requestID :: arr2 :: rest →
    (n.toInt64 = CALL_RESULT → ResultFits endpoint lib st arr2)
      ∧ (n.toInt64 = CALL_ERROR → ErrorFits lib st arr2 rest)

/-! ## Parsing -/

section

variable {endpoint : Endpoint} {lib : Library} {st : ClientState Payload}

theorem Unreported.messageId_eq {r : Parsed} {err : OcppError} (hr : Unreported endpoint r)
    (h : r = .failed err) : err.messageId = "" := by
  subst h
  cases hr with
  | failed _ hempty => exact hempty

theorem parseCallResult_fits {arr2 : Json} {err : OcppError}
    (hfits : ResultFits endpoint lib st arr2) :
    endpoint.parseCallResult lib st.requestID arr2 st ≠ .failed err := by
  intro h
  unfold Endpoint.parseCallResult at h
  split at h
  · exact absurd h (by simp)
  · exact absurd h (by simp)
  · rename_i request hget
    split at h
    · exact absurd h (by simp)
    · rename_i profile hprofile
      obtain ⟨p, hp, hvalid⟩ :=
        hfits request profile (ClientState.getPendingRequest_eq_some hget).2 hprofile
      simp only [hp, hvalid] at h
      exact absurd h (by simp)

theorem parseCallError_fits {arr2 : Json} {rest : List Json} {err : OcppError}
    (hfits : ErrorFits lib st arr2 rest)
    (h : endpoint.parseCallError lib st.requestID arr2 rest st = .failed err) :
    err.messageId = "" := by
  unfold Endpoint.parseCallError at h
  split at h
  · exact absurd h (by simp)
  · split at h
    · exact absurd rfl hfits.1
    · split at h
      · rename_i code
        dsimp only at h
        split at h
        · exact absurd h (by simp)
        · rename_i hinvalid
          -- description and details are not validated
          exact absurd (hfits.2 code rfl) hinvalid
      · -- the source puts an empty code where the id belongs, so nobody is told
        exact (formatViolation_unreported endpoint _).messageId_eq h

/-- **Parsing a reply that fits never fails under an id.** -/
theorem parseMessage_fits {arr : List Json} {err : OcppError} (hreply : IsReply arr)
    (hfits : Fits endpoint lib st arr) (h : endpoint.parseMessage lib arr st = .failed err) :
    err.messageId = "" := by
  by_cases hid : NamesPending st arr
  · obtain ⟨n, hn, htype⟩ := hreply
    have hcall : n.toInt64 ≠ CALL := by
      rcases htype with h | h <;> rw [h] <;> decide
    match arr, hn, hid.2 with
    | [_, _], rfl, rfl =>
        exact (formatViolation_unreported endpoint _).messageId_eq h
    | _ :: _ :: arr2 :: rest, rfl, rfl =>
        obtain ⟨hresult, herror⟩ := hfits n arr2 rest rfl
        simp only [Endpoint.parseMessage, if_neg hid.1, if_neg hcall] at h
        split at h
        · rename_i ht
          exact absurd h (parseCallResult_fits (hresult ht))
        · rename_i ht
          rw [if_pos (htype.resolve_left ht)] at h
          exact parseCallError_fits (herror (htype.resolve_left ht)) h
  · exact (parseMessage_stray hreply hid).messageId_eq h

end

/-! ## Handling -/

/-- The client writes for an error that has an id, and for nothing else. -/
theorem client_write {cfg : ClientConfig} {c : Client} {data : List UInt8} {frame : CallError}
    (h : .write frame ∈ (c.ocppMessageHandler cfg data).2) :
    ∃ arr err, cfg.lib.unmarshalArray data = .ok arr
      ∧ cfg.endpoint.parseMessage cfg.lib arr c.dispatcher.pendingRequestState = .failed err
      ∧ err.messageId ≠ "" := by
  unfold Client.ocppMessageHandler at h
  split at h
  · exact absurd h (by simp)
  · rename_i arr harr
    split at h
    case h_2 =>
      rename_i err hparse
      refine ⟨arr, err, harr, hparse, ?_⟩
      intro hempty
      dsimp only at h
      rw [hookedError_messageId, if_neg (not_not.mpr hempty)] at h
      exact absurd h (by simp)
    all_goals exact absurd h (by simp)

/-- So does the server. -/
theorem server_write {cfg : ServerConfig} {d : ServerDispatcher} {y : String} {data : List UInt8}
    {frame : CallError} (h : .write frame ∈ (Server.ocppMessageHandler cfg d y data).2) :
    ∃ arr err, cfg.lib.unmarshalArray data = .ok arr
      ∧ cfg.endpoint.parseMessage cfg.lib arr (d.pendingRequestState.clientState y) = .failed err
      ∧ err.messageId ≠ "" := by
  unfold Server.ocppMessageHandler at h
  split at h
  · rename_i d' calls hparse
    unfold Server.parseFrame at hparse
    split at hparse
    · cases hparse
      exact absurd h (by simp)
    · rename_i arr harr
      dsimp only at hparse
      split at hparse
      · cases hparse
        exact absurd h (by simp)
      · rename_i err hfailed
        refine ⟨arr, err, harr, hfailed, ?_⟩
        intro hempty
        rw [hookedError_messageId, if_neg (not_not.mpr hempty)] at hparse
        cases hparse
        exact absurd h (by simp)
      · cases hparse
        exact absurd h (by simp)
      · cases hparse
  · rename_i d' m hparse
    cases m <;> exact absurd h (by simp [Server.handleMessage])

theorem client_writes_nothing {cfg : ClientConfig} {c : Client} {data : List UInt8}
    {arr : List Json} (harr : cfg.lib.unmarshalArray data = .ok arr) (hreply : IsReply arr)
    (hfits : Fits cfg.endpoint cfg.lib c.dispatcher.pendingRequestState arr) (frame : CallError) :
    .write frame ∉ (c.ocppMessageHandler cfg data).2 := by
  intro h
  obtain ⟨arr', err, harr', hfailed, hid⟩ := client_write h
  cases harr.symm.trans harr'
  exact hid (parseMessage_fits hreply hfits hfailed)

theorem server_writes_nothing {cfg : ServerConfig} {d : ServerDispatcher} {y : String}
    {data : List UInt8} {arr : List Json} (harr : cfg.lib.unmarshalArray data = .ok arr)
    (hreply : IsReply arr)
    (hfits : Fits cfg.endpoint cfg.lib (d.pendingRequestState.clientState y) arr)
    (frame : CallError) : .write frame ∉ (Server.ocppMessageHandler cfg d y data).2 := by
  intro h
  obtain ⟨arr', err, harr', hfailed, hid⟩ := server_write h
  cases harr.symm.trans harr'
  exact hid (parseMessage_fits hreply hfits hfailed)

/-! ## Two sides -/

/-- A reply that is delivered fits the pending request of the side it is delivered to. -/
def AnswersFit (cfg : LinkConfig) (s : Link) : Link.Action → Prop
  | .serverReceives => ∀ frame arr, s.toServer.head? = some frame →
      cfg.server.lib.unmarshalArray frame.data = .ok arr → IsReply arr →
      Fits cfg.server.endpoint cfg.server.lib
        (s.server.pendingRequestState.clientState cfg.clientID) arr
  | .clientReceives => ∀ frame arr, s.toClient.head? = some frame →
      cfg.client.lib.unmarshalArray frame.data = .ok arr → IsReply arr →
      Fits cfg.client.endpoint cfg.client.lib s.client.dispatcher.pendingRequestState arr
  | _ => True

/-- The frame was not written because of a reply; `lib` is the library of its writer. -/
def Unprovoked (lib : Library) (f : Frame) : Prop :=
  ∀ data arr, f.cause = some data → lib.unmarshalArray data = .ok arr → ¬ IsReply arr

/-- What goes over the two wires is unprovoked. -/
def WiresUnprovoked (cfg : LinkConfig) (s : Link) : Prop :=
  (∀ f ∈ s.toServer, Unprovoked cfg.client.lib f) ∧ ∀ f ∈ s.toClient, Unprovoked cfg.server.lib f

/-- A wire that gets one more frame without a cause, or frames their handler wrote. -/
theorem unprovoked_append {lib : Library} {fs gs : List Frame}
    (hfs : ∀ f ∈ fs, Unprovoked lib f) (hgs : ∀ f ∈ gs, Unprovoked lib f) :
    ∀ f ∈ fs ++ gs, Unprovoked lib f := by
  intro f hf
  rcases List.mem_append.mp hf with h | h
  · exact hfs f h
  · exact hgs f h

theorem unprovoked_bare (lib : Library) (data : List UInt8) :
    ∀ f ∈ [({ data := data, cause := none } : Frame)], Unprovoked lib f := by
  intro f hf data' arr hcause
  rw [List.mem_singleton.mp hf] at hcause
  exact absurd hcause (by simp)

/-- Calls that write nothing for replies put nothing provoked on the wire. -/
theorem unprovoked_written {lib : Library} {data : List UInt8} {calls : List HandlerCall}
    (h : ∀ arr, lib.unmarshalArray data = .ok arr → IsReply arr →
      ∀ frame, .write frame ∉ calls) :
    ∀ f ∈ Link.written lib data calls, Unprovoked lib f := by
  intro f hf data' arr hcause harr hreply
  obtain ⟨hdata, frame, hframe⟩ := Link.mem_written hf
  cases hdata.symm.trans hcause
  exact h arr harr hreply frame hframe

theorem wiresUnprovoked_step {cfg : LinkConfig} {s s' : Link} {a : Link.Action}
    (h : WiresUnprovoked cfg s) (hok : AnswersFit cfg s a) (hact : Link.act cfg s a = some s') :
    WiresUnprovoked cfg s' := by
  obtain ⟨hserver, hclient⟩ := h
  cases Link.act_wireStep hact with
  | idle hs hc => exact ⟨hs ▸ hserver, hc ▸ hclient⟩
  | clientWrites data hs hc =>
      exact ⟨hs ▸ unprovoked_append hserver (unprovoked_bare _ data), hc ▸ hclient⟩
  | serverWrites data hs hc =>
      exact ⟨hs ▸ hserver, hc ▸ unprovoked_append hclient (unprovoked_bare _ data)⟩
  | serverReceives frame hwire hc =>
      rw [hwire] at hserver
      refine ⟨fun f hf => hserver f (List.mem_cons_of_mem frame hf), ?_⟩
      rw [hc]
      refine unprovoked_append hclient (unprovoked_written fun arr harr hreply => ?_)
      exact server_writes_nothing harr hreply (hok frame arr (by rw [hwire]; rfl) harr hreply)
  | clientReceives frame hwire hs =>
      rw [hwire] at hclient
      refine ⟨?_, fun f hf => hclient f (List.mem_cons_of_mem frame hf)⟩
      rw [hs]
      refine unprovoked_append hserver (unprovoked_written fun arr harr hreply => ?_)
      exact client_writes_nothing harr hreply (hok frame arr (by rw [hwire]; rfl) harr hreply)

theorem wiresUnprovoked_reachable {cfg : LinkConfig} {s : Link}
    (h : ReachableWhile (Link.machine cfg) (AnswersFit cfg) s) : WiresUnprovoked cfg s := by
  refine ReachableWhile.invariant (P := WiresUnprovoked cfg) ?_ ?_ h
  · rintro s rfl
    exact ⟨fun f hf => absurd hf (by simp [Link.start]),
      fun f hf => absurd hf (by simp [Link.start])⟩
  · intro s a s' _ hs hok hact
    exact wiresUnprovoked_step hs hok hact

/--
**Replies are not answered.** From any state, neither side writes a frame for a reply
that fits. So when the two sides are connected and every reply delivered between them
fits, no error frame that went back over a wire was ever written for a reply.
-/
theorem replies_not_answered (cfg : LinkConfig) :
    (∀ (c : Client) (data : List UInt8) (arr : List Json),
        cfg.client.lib.unmarshalArray data = .ok arr → IsReply arr →
        Fits cfg.client.endpoint cfg.client.lib c.dispatcher.pendingRequestState arr →
        ∀ frame, .write frame ∉ (c.ocppMessageHandler cfg.client data).2)
      ∧ (∀ (d : ServerDispatcher) (y : String) (data : List UInt8) (arr : List Json),
        cfg.server.lib.unmarshalArray data = .ok arr → IsReply arr →
        Fits cfg.server.endpoint cfg.server.lib (d.pendingRequestState.clientState y) arr →
        ∀ frame, .write frame ∉ (Server.ocppMessageHandler cfg.server d y data).2)
      ∧ ∀ s : Link, ReachableWhile (Link.machine cfg) (AnswersFit cfg) s →
        (∀ f ∈ s.toServer, Unprovoked cfg.client.lib f)
          ∧ ∀ f ∈ s.toClient, Unprovoked cfg.server.lib f :=
  ⟨fun _ _ _ => client_writes_nothing, fun _ _ _ _ => server_writes_nothing,
    fun _ => wiresUnprovoked_reachable⟩

/-! ## Two runs -/

/-- Two sides that know heartbeats, and read and write JSON. -/
def heartbeatLink : LinkConfig where
  client :=
    { endpoint := heartbeatEndpoint, lib := heartbeatJson, validationEnabled := true,
      invalidMessageHook := none, timeout := 30, queueCapacity := 0 }
  server := { heartbeatServer with lib := heartbeatJson }
  clientID := "cp"

/-- Both sides send a request, and their generators happen to give the same id. -/
def bothWaiting : List Link.Action :=
  [.client (.sendRequest "1" heartbeatRequest), .client (.messagePump .request none),
    .server (.sendRequest "cp" "1" heartbeatRequest), .server (.messagePump (.request "cp") none)]

/-- A heartbeat confirmation under the id of the pending heartbeat fits. -/
theorem fits_heartbeat {st : ClientState Payload}
    (hst : st = { requestID := "1", pendingRequest := some heartbeatRequest }) :
    Fits heartbeatEndpoint heartbeatJson st [.num (.ofInt 3), .str "1", .obj []] := by
  subst hst
  rintro n arr2 rest heq
  cases heq
  refine ⟨fun _ => ?_, fun hn => absurd hn (by decide)⟩
  rintro request profile hrequest hprofile
  cases hrequest
  cases hprofile
  exact ⟨_, rfl, rfl⟩

/-- The client answers properly: the server is done with its request, and writes nothing. -/
theorem proper_answer_not_answered :
    ∃ s s', (Link.machine heartbeatLink).run (Link.start heartbeatLink)
        (bothWaiting ++ [.clientWrites (resultFrame "1")]) = some s
      ∧ Link.act heartbeatLink s .serverReceives = some s'
      ∧ (s'.server.pendingRequestState.clientState "cp").requestID = ""
      ∧ (∀ frame, .write frame ∉
        (Server.ocppMessageHandler heartbeatLink.server s.server "cp" (resultFrame "1")).2)
      ∧ (∀ frame, .write frame ∉
        (s.client.ocppMessageHandler heartbeatLink.client (resultFrame "1")).2)
      ∧ ∀ f ∈ s'.toClient, Unprovoked heartbeatJson f := by
  -- nothing is received before the answer, so no step before it is asked for anything
  let chk : Link → Link.Action → Bool := fun _ a =>
    match a with
    | .serverReceives | .clientReceives => false
    | _ => true
  have hchk : ∀ s a, chk s a = true → AnswersFit heartbeatLink s a := by
    intro s a h
    cases a <;> trivial
  have hrun : ∃ s s', (Link.machine heartbeatLink).runWhile chk (Link.start heartbeatLink)
        (bothWaiting ++ [.clientWrites (resultFrame "1")]) = some s
      ∧ (Link.machine heartbeatLink).run (Link.start heartbeatLink)
        (bothWaiting ++ [.clientWrites (resultFrame "1")]) = some s
      ∧ Link.act heartbeatLink s .serverReceives = some s'
      ∧ (s'.server.pendingRequestState.clientState "cp").requestID = ""
      ∧ s.toServer = [{ data := resultFrame "1", cause := none }]
      ∧ s.server.pendingRequestState.clientState "cp"
        = { requestID := "1", pendingRequest := some heartbeatRequest }
      ∧ s.client.dispatcher.pendingRequestState
        = { requestID := "1", pendingRequest := some heartbeatRequest } :=
    ⟨_, _, rfl, rfl, rfl, rfl, rfl, rfl, rfl⟩
  obtain ⟨s, s', hs, hplain, hact, hdone, hwire, hslot, hclient⟩ := hrun
  have hread : heartbeatJson.unmarshalArray (resultFrame "1")
      = .ok [.num (.ofInt 3), .str "1", .obj []] := rfl
  have hreply : IsReply [.num (.ofInt 3), .str "1", .obj []] := ⟨.ofInt 3, rfl, Or.inl rfl⟩
  have hok : AnswersFit heartbeatLink s .serverReceives := by
    intro frame arr hframe harr _
    rw [hwire] at hframe
    cases hframe
    cases hread.symm.trans harr
    exact fits_heartbeat hslot
  have hreach : ReachableWhile (Link.machine heartbeatLink) (AnswersFit heartbeatLink) s :=
    ReachableWhile.runWhile hchk (.init rfl) _ hs
  exact ⟨s, s', hplain, hact, hdone,
    (replies_not_answered heartbeatLink).2.1 s.server "cp" _ _ hread hreply (fits_heartbeat hslot),
    (replies_not_answered heartbeatLink).1 s.client _ _ hread hreply (fits_heartbeat hclient),
    ((replies_not_answered heartbeatLink).2.2 s' (.tail hreach hok hact)).2⟩

/-- `[3,"1",[]]`: a confirmation is an object, not an array. -/
def malformedResult : List UInt8 := ascii "[3,\"1\",[]]"

set_option maxRecDepth 5000 in
/--
The client answers request "1" of the server with `malformedResult`. The server's
complaint comes back under the same id, and the client, which waits for the answer
to a request "1" of its own, takes the complaint for it.
-/
theorem malformed_answer_comes_back :
    ∃ s f s', (Link.machine heartbeatLink).run (Link.start heartbeatLink)
        (bothWaiting ++ [.clientWrites malformedResult, .serverReceives]) = some s
      ∧ s.client.dispatcher.pendingRequestState.requestID = "1"
      ∧ s.toClient = [f] ∧ f.cause = some malformedResult
      ∧ (∃ arr, heartbeatJson.unmarshalArray malformedResult = .ok arr ∧ IsReply arr)
      ∧ Link.act heartbeatLink s .clientReceives = some s'
      ∧ s'.client.dispatcher.pendingRequestState.requestID = ""
      ∧ s'.client.answered = ["1"] := by
  refine ⟨_, _, _, rfl, rfl, rfl, rfl, ⟨_, rfl, .ofInt 3, rfl, Or.inl rfl⟩, rfl, rfl, rfl⟩

end OcppGo.Proof
