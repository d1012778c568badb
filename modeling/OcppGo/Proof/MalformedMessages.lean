import OcppGo.Ocppj.Server
import OcppGo.Proof.IncomingReplies
import OcppGo.Proof.MessageGrammar

/-!
# Malformed messages are answered

A frame that `ParseMessage` refuses under an id is answered with a `CALL_ERROR` of
that id. The answer is a message like any other: it is created with the id of the
frame and the code the parser or the hook chose, and validated. An id beyond 36
characters, or a code of the hook's own, makes it invalid, and then nothing goes
out at all.

The parser's own codes are all known, so a frame is answered exactly if its id fits
and the hook keeps to the known codes, or if nothing is validated.
-/

namespace OcppGo.Proof

open OcppGo.Ocppj

section

variable {endpoint : Endpoint} {lib : Library} {st : ClientState Payload} {arr : List Json}
  {err : OcppError}

theorem formatViolation_code {d i : String} (h : endpoint.formatViolation d i = .failed err) :
    isErrorCodeValid err.code = true := by
  have h16 : isErrorCodeValid FormatViolationV16 = true := by decide
  have h2 : isErrorCodeValid FormatViolationV2 = true := by decide
  unfold Endpoint.formatViolation Endpoint.formatErrorType at h
  cases hd : endpoint.dialect with
  | unset =>
      rw [hd] at h
      cases h
  | V16 =>
      rw [hd] at h
      cases h
      exact h16
  | V2 =>
      rw [hd] at h
      cases h
      exact h2

/-- **The errors of the parser have known codes.** -/
theorem parseMessage_code (h : endpoint.parseMessage lib arr st = .failed err) :
    isErrorCodeValid err.code = true := by
  rcases parseMessage_header endpoint lib arr st with
    ⟨_, d, i, hd⟩ | ⟨x, id, arr2, rest, rfl, hid⟩
  · exact formatViolation_code (hd.symm.trans h)
  rw [parseMessage_eq hid] at h
  split at h
  · have hout := parseCall_outcome endpoint lib id arr2 rest
    rw [h] at hout
    cases hout with
    | violation d _ hr => exact formatViolation_code hr.symm
    | failed err' hcode hr => cases hr; exact hcode
    | parsed _ _ _ _ _ _ _ _ _ _ hr => cases hr
  split at h
  · have hout := parseCallResult_outcome endpoint lib id arr2 st
    rw [h] at hout
    cases hout with
    | violation d _ _ _ _ _ _ _ hr => exact formatViolation_code hr.symm
    | failed err' _ hcode hr => cases hr; exact hcode
    | discarded _ hr => cases hr
    | panicked _ _ hr => cases hr
    | parsed _ _ _ _ _ _ _ _ hr => cases hr
  split at h
  · have hout := parseCallError_outcome endpoint lib id arr2 rest st
    rw [h] at hout
    cases hout with
    | violation d i _ _ hr => exact formatViolation_code hr.symm
    | failed err' _ hcode hr => cases hr; exact hcode
    | discarded _ hr => cases hr
    | parsed _ _ _ _ _ _ _ _ hr => cases hr
  · cases h
    exact show isErrorCodeValid MessageTypeNotSupported = true by decide

end

/-- The id fits into an answer, and the hook, if it changes the error, uses a known code. -/
def Answerable (cfg : ClientConfig) (err : OcppError) (data : List UInt8) (arr : List Json) :
    Prop :=
  err.messageId.length ≤ 36 ∧
    ∀ hook ∈ cfg.invalidMessageHook, ∀ err2 ∈ hook err data arr,
      isErrorCodeValid err2.code = true

/-- The calls of a handler that answers under this id: one frame is written. -/
def AnsweredUnder (id : String) (calls : List HandlerCall) : Prop :=
  ∃ frame : CallError, calls = [.write frame] ∧ frame.uniqueId = id
    ∧ frame.messageTypeId = CALL_ERROR

section

variable {cfg : ClientConfig} {err : OcppError} {data : List UInt8} {arr : List Json}
  {e : Encoding} {escapeHTML : Bool}

theorem hookedError_code_iff (hcode : isErrorCodeValid err.code = true) :
    isErrorCodeValid (Client.hookedError cfg err data arr).code = true ↔
      ∀ hook ∈ cfg.invalidMessageHook, ∀ err2 ∈ hook err data arr,
        isErrorCodeValid err2.code = true := by
  unfold Client.hookedError
  cases hhook : cfg.invalidMessageHook with
  | none => simp [hcode]
  | some hook =>
      cases herr2 : hook err data arr with
      | none => simp [hcode, herr2]
      | some err2 => simp [herr2]

/-- An error is written if it passes validation, and nothing is written otherwise. -/
theorem sendError_answers_iff (hlib : cfg.lib.marshal = e.marshalJSON escapeHTML) {id : String}
    {code : ErrorCode} (description : String) :
    AnsweredUnder id (Client.sendError cfg id code description none) ↔
      (cfg.validationEnabled = true → Short id ∧ isErrorCodeValid code = true) := by
  have hvalid := @callError_validate_iff cfg.lib id code description none
  have hmarshal : ∀ c : CallError, ∃ data, cfg.lib.marshal (.callError c) = .ok data := by
    intro c
    rw [hlib]
    exact ⟨_, rfl⟩
  unfold Client.sendError Endpoint.createCallError
  dsimp only
  cases henabled : cfg.validationEnabled with
  | false =>
      obtain ⟨data, hdata⟩ := hmarshal ⟨CALL_ERROR, id, code, description, none⟩
      simp only [hdata]
      exact ⟨fun _ h => absurd h (by simp), fun _ => ⟨_, rfl, rfl, rfl⟩⟩
  | true =>
      cases herrors : CallError.validate cfg.lib ⟨CALL_ERROR, id, code, description, none⟩ with
      | nil =>
          obtain ⟨data, hdata⟩ := hmarshal ⟨CALL_ERROR, id, code, description, none⟩
          simp only [hdata]
          exact ⟨fun _ _ => hvalid.mp herrors, fun _ => ⟨_, rfl, rfl, rfl⟩⟩
      | cons x xs =>
          refine ⟨fun h => ?_, fun h => ?_⟩
          · obtain ⟨frame, hcalls, _⟩ := h
            exact absurd hcalls (by simp)
          · rw [hvalid.mpr (h rfl)] at herrors
            exact absurd herrors (by simp)

/-- The answer of a handler that found this error. -/
theorem hookedError_answers_iff (hlib : cfg.lib.marshal = e.marshalJSON escapeHTML)
    (hid : err.messageId ≠ "") (hcode : isErrorCodeValid err.code = true) :
    AnsweredUnder err.messageId (Client.sendError cfg err.messageId
        (Client.hookedError cfg err data arr).code
        (Client.hookedError cfg err data arr).description none) ↔
      (cfg.validationEnabled = true → Answerable cfg err data arr) := by
  rw [sendError_answers_iff hlib, hookedError_code_iff hcode]
  exact ⟨fun h hv => ⟨(h hv).1.2, (h hv).2⟩, fun h hv => ⟨⟨hid, (h hv).1⟩, (h hv).2⟩⟩

end

/--
**When a malformed message is answered**, by a client and by a server: for an error of
the parser that has an id, one error is written under it, exactly if the answer passes
validation or nothing is validated.
-/
theorem malformed_message_answered (e : Encoding) (escapeHTML : Bool) (data : List UInt8)
    (arr : List Json) (err : OcppError) (hid : err.messageId ≠ "") :
    (∀ (cfg : ClientConfig) (c : Client), cfg.lib.marshal = e.marshalJSON escapeHTML →
      cfg.lib.unmarshalArray data = .ok arr →
      cfg.endpoint.parseMessage cfg.lib arr c.dispatcher.pendingRequestState = .failed err →
      (AnsweredUnder err.messageId (c.ocppMessageHandler cfg data).2 ↔
        (cfg.validationEnabled = true → Answerable cfg err data arr))) ∧
    (∀ (cfg : ServerConfig) (d : ServerDispatcher) (clientID : String),
      cfg.lib.marshal = e.marshalJSON escapeHTML → cfg.lib.unmarshalArray data = .ok arr →
      cfg.endpoint.parseMessage cfg.lib arr (d.pendingRequestState.getClientState clientID).2
        = .failed err →
      (AnsweredUnder err.messageId (Server.ocppMessageHandler cfg d clientID data).2 ↔
        (cfg.validationEnabled = true → Answerable (cfg.forClient clientID) err data arr))) := by
  constructor
  · intro cfg c hlib hdata hparse
    have hmessageId := hookedError_messageId cfg err data arr
    simp only [Client.ocppMessageHandler, hdata, hparse, hmessageId, if_pos hid]
    exact hookedError_answers_iff hlib hid (parseMessage_code hparse)
  · intro cfg d clientID hlib hdata hparse
    have hmessageId := hookedError_messageId (cfg.forClient clientID) err data arr
    have hmarshal : (cfg.forClient clientID).lib.marshal = e.marshalJSON escapeHTML := hlib
    simp only [Server.ocppMessageHandler, Server.parseFrame, hdata, hparse, hmessageId, if_pos hid]
    exact hookedError_answers_iff hmarshal hid (parseMessage_code hparse)

/-- A client and a server that know heartbeats, and validate what they send. -/
def strictClient (hook : Option (OcppError → List UInt8 → List Json → Option OcppError)) :
    ClientConfig where
  endpoint := heartbeatEndpoint
  lib := heartbeatJson
  validationEnabled := true
  invalidMessageHook := hook
  timeout := 30
  queueCapacity := 0

def strictServer (hook : Option (String → OcppError → List UInt8 → List Json → Option OcppError)) :
    ServerConfig where
  endpoint := heartbeatEndpoint
  lib := heartbeatJson
  validationEnabled := true
  invalidMessageHook := hook
  timeout := 30
  queueCapacity := 0

/-- `[2,"id","Reset",{}]`, of a feature they do not know. -/
def unknownFeature (id : String) : List UInt8 := ascii ("[2,\"" ++ id ++ "\",\"Reset\",\x7b\x7d]")

/-- What the parser says about it. -/
def unsupported (id : String) : OcppError :=
  newError NotSupported "Unsupported feature Reset" id

/--
Both answer a request they do not know, and the client's hook has its own words for it.
Under an id of 37 characters the condition does not hold, and neither answers.
-/
theorem unknown_feature_answered :
    AnsweredUnder "7" (Client.ocppMessageHandler
      (strictClient (some fun _ _ _ => some (newError InternalError "no" "")))
      (.start (strictClient none)) (unknownFeature "7")).2 ∧
    AnsweredUnder "7" (Server.ocppMessageHandler (strictServer none)
      (.start 0 30) "CS1" (unknownFeature "7")).2 ∧
    ¬ AnsweredUnder longId (Client.ocppMessageHandler (strictClient none)
      (.start (strictClient none)) (unknownFeature longId)).2 := by
  obtain ⟨hclient, hserver⟩ := malformed_message_answered digitEncoding true (unknownFeature "7")
    [.num (.ofInt 2), .str "7", .str "Reset", .obj []] (unsupported "7") (by decide)
  obtain ⟨hlong, _⟩ := malformed_message_answered digitEncoding true (unknownFeature longId)
    [.num (.ofInt 2), .str longId, .str "Reset", .obj []] (unsupported longId) (by decide)
  refine ⟨(hclient _ _ rfl rfl rfl).mpr fun _ => ⟨by decide, ?_⟩,
    (hserver _ _ _ rfl rfl rfl).mpr fun _ => ⟨by decide, ?_⟩, fun h => ?_⟩
  · intro hook hhook err2 herr2
    cases hhook
    cases herr2
    rfl
  · intro hook hhook
    cases hhook
  · have hshort := ((hlong _ _ rfl rfl rfl).mp h rfl).1
    exact absurd hshort (by decide)

/--
Nothing is written under an id of 37 characters, nor after a hook that reports a
code of its own.
-/
theorem malformed_message_unanswered :
    heartbeatEndpoint.parseMessage heartbeatJson
        [.num (.ofInt 2), .str longId, .str "Reset", .obj []] .new
      = .failed (unsupported longId) ∧
    (Client.ocppMessageHandler (strictClient none) (.start (strictClient none))
      (unknownFeature longId)).2 = [] ∧
    (Server.ocppMessageHandler (strictServer none) (.start 0 30) "CS1"
      (unknownFeature longId)).2 = [] ∧
    (Client.ocppMessageHandler
      (strictClient (some fun _ _ _ => some (newError "Unknown" "no" "")))
      (.start (strictClient none)) (unknownFeature "7")).2 = [] ∧
    (Server.ocppMessageHandler
      (strictServer (some fun _ _ _ _ => some (newError "Unknown" "no" "")))
      (.start 0 30) "CS1" (unknownFeature "7")).2 = [] :=
  ⟨rfl, rfl, rfl, rfl, rfl⟩

end OcppGo.Proof
