import OcppGo.Ocppj.Marshal

/-!
# A message sent is the message received

Three marshalers write arrays of different lengths, and one parser reads them,
with checks of its own on lengths, element types, profiles, the pending request
and the tags of the result. A message that `CreateCall`, `CreateCallResult` or
`CreateCallError` let through passes them all at the other end.

What the payload's own encoding does is a hypothesis, `ReadBack`: its tree, read
as JSON and decoded with the registered type, gives the payload again. The rest of
the frame needs none, since any string and any JSON value survive the text.
-/

namespace OcppGo.Proof

open OcppGo.Ocppj Encoding

/-- A message of one of the three constructors, with validation enabled. -/
inductive Created (endpoint : Endpoint) (lib : Library) : Message → Prop where
  | call (uid : String) (request : Payload) {c : Call} :
      endpoint.createCall lib true uid request = .ok c → Created endpoint lib (.call c)
  | callResult (uid : String) (confirmation : Payload) {c : CallResult} :
      endpoint.createCallResult lib true confirmation uid = .ok c →
      Created endpoint lib (.callResult c)
  | callError (uid : String) (code : ErrorCode) (description : String) (details : Option Json)
      {c : CallError} :
      Endpoint.createCallError lib true uid code description details = .ok c →
      Created endpoint lib (.callError c)

/-- The payload has the type registered for its feature. -/
def Registered (endpoint : Endpoint) (typeOf : Feature → GoType) (p : Payload) : Prop :=
  ∀ profile feature, endpoint.getProfileForFeature p.featureName = some profile →
    profile.features p.featureName = some feature → p.goType = typeOf feature

/-- `encoding/json` decodes the payload's encoding, through a tree, back to the payload. -/
def ReadBack (lib : Library) (e : Encoding) (p : Payload) : Prop :=
  ∃ tree read, e.encodePayload p = .ok tree ∧ e.reread tree = some read ∧ read ≠ .null
    ∧ lib.decode p.goType read = .ok p

/-- What a message has to carry to come back unchanged. -/
def Transmissible (endpoint : Endpoint) (lib : Library) (e : Encoding) : Message → Prop
  | .call c => Registered endpoint Feature.requestType c.payload ∧ ReadBack lib e c.payload
  | .callResult c => Registered endpoint Feature.responseType c.payload ∧ ReadBack lib e c.payload
  | .callError c => ∀ details, c.errorDetails = some details → e.IsValue details

/-- A reply is expected: its id is pending, with a request of its payload's feature. -/
def Expected (st : ClientState Payload) : Message → Prop
  | .call _ => True
  | .callResult c => ∃ request, st.getPendingRequest c.uniqueId = some (some request)
      ∧ request.featureName = c.payload.featureName
  | .callError c => ∃ request, st.getPendingRequest c.uniqueId = some request

/-- The message as the other end sees it: missing details have become an empty object. -/
def received : Message → Message
  | .callError c => .callError { c with errorDetails := some (detailsOrEmpty c.errorDetails) }
  | m => m

/-! ## The elements of a frame -/

section

variable {endpoint : Endpoint} {lib : Library} {e : Encoding} {escapeHTML : Bool}

/-- A feature that a profile is found for has an entry in it. -/
theorem feature_of_profile {name : String} {profile : Profile}
    (h : endpoint.getProfileForFeature name = some profile) :
    ∃ feature, profile.features name = some feature := by
  unfold Endpoint.getProfileForFeature at h
  have hsupports := List.find?_some h
  exact Option.isSome_iff_exists.mp hsupports

/-- A tree that is not `nil` is decoded as it is. -/
theorem parseRawJson_eq {raw : Json} (h : raw ≠ .null) (type : GoType) :
    Endpoint.parseRawJson lib raw type = lib.decode type raw := by
  unfold Endpoint.parseRawJson
  split
  · exact absurd rfl h
  · rfl

theorem rereadElements_str {s : String} {xs xs' : List Json}
    (hxs : e.rereadElements xs = some xs') :
    e.rereadElements (.str s :: xs) = some (.str s :: xs') := by
  rw [rereadElements, reread, hxs]

/-- The type id and the unique id that every frame starts with. -/
theorem rereadElements_header {t : MessageType} (ht : 0 ≤ t ∧ t < 10) {uid : String}
    {xs xs' : List Json} (hxs : e.rereadElements xs = some xs') :
    e.rereadElements (.num (.ofInt t) :: .str uid :: xs)
      = some (.num (.ofInt t) :: .str uid :: xs') := by
  obtain ⟨k, rfl⟩ := Int.eq_ofNat_of_zero_le ht.1
  have hdigit := e.digits k (Int.ofNat_lt.mp ht.2)
  rw [rereadElements, reread, hdigit, rereadElements_str hxs]
  rfl

theorem rereadElements_singleton {x x' : Json} (hx : e.reread x = some x') :
    e.rereadElements [x] = some [x'] := by
  rw [rereadElements, hx]
  rfl

/-! ## One message at a time -/

/-- What is read of a call: everything but the payload as it was. -/
theorem call_read {uid action : String} {request : Payload} {tree read : Json}
    (hencode : e.encodePayload request = .ok tree) (hreread : e.reread tree = some read) :
    ∃ data, e.marshalCall escapeHTML ⟨CALL, uid, action, request⟩ = .ok data
      ∧ e.parseRawJsonMessage data = .ok [.num (.ofInt CALL), .str uid, .str action, read] := by
  have hfields : e.rereadElements [.num (.ofInt CALL), .str uid, .str action, tree]
      = some [.num (.ofInt CALL), .str uid, .str action, read] :=
    rereadElements_header (by decide) (rereadElements_str (rereadElements_singleton hreread))
  refine ⟨_, ?_, parseRawJsonMessage_jsonMarshal escapeHTML hfields⟩
  rw [marshalCall, hencode]
  rfl

theorem call_roundTrip {uid : String} {request : Payload} {c : Call}
    (hcreate : endpoint.createCall lib true uid request = .ok c)
    (htype : Registered endpoint Feature.requestType c.payload) (hback : ReadBack lib e c.payload)
    (st : ClientState Payload) :
    ∃ data arr, e.marshalCall escapeHTML c = .ok data ∧ e.parseRawJsonMessage data = .ok arr
      ∧ endpoint.parseMessage lib arr st = .parsed (.call c) := by
  have hvalid := Endpoint.createCall_valid hcreate
  obtain ⟨rfl, profile, hprofile⟩ := Endpoint.createCall_ok hcreate
  obtain ⟨tree, read, hencode, hreread, hnull, hdecode⟩ := hback
  obtain ⟨feature, hfeature⟩ := feature_of_profile hprofile
  obtain ⟨data, hdata, harr⟩ := call_read hencode hreread
  refine ⟨data, _, hdata, harr, ?_⟩
  have hid : uid ≠ "" := (call_validate_iff.mp hvalid).1.1
  have hparse : profile.parseRequest request.featureName read (Endpoint.parseRawJson lib)
      = .ok request := by
    simp only [Profile.parseRequest, hfeature]
    rw [parseRawJson_eq hnull, ← htype profile feature hprofile hfeature, hdecode]
  simp only [Endpoint.parseMessage, if_neg hid, show (Number.ofInt CALL).toInt64 = CALL by decide,
    if_pos, Endpoint.parseCall, hprofile, hparse, hvalid]

theorem callResult_roundTrip {uid : String} {confirmation : Payload} {c : CallResult}
    (hcreate : endpoint.createCallResult lib true confirmation uid = .ok c)
    (htype : Registered endpoint Feature.responseType c.payload) (hback : ReadBack lib e c.payload)
    {st : ClientState Payload} {request : Payload}
    (hpending : st.getPendingRequest c.uniqueId = some (some request))
    (hfeature : request.featureName = c.payload.featureName) :
    ∃ data arr, e.marshalCallResult escapeHTML c = .ok data ∧ e.parseRawJsonMessage data = .ok arr
      ∧ endpoint.parseMessage lib arr st = .parsed (.callResult c) := by
  obtain ⟨rfl, hvalid, profile, hprofile⟩ := Endpoint.createCallResult_ok hcreate
  obtain ⟨tree, read, hencode, hreread, hnull, hdecode⟩ := hback
  obtain ⟨feature, hentry⟩ := feature_of_profile hprofile
  have hfields : e.rereadElements [.num (.ofInt CALL_RESULT), .str uid, tree]
      = some [.num (.ofInt CALL_RESULT), .str uid, read] :=
    rereadElements_header (by decide) (rereadElements_singleton hreread)
  refine ⟨_, _, ?_, parseRawJsonMessage_jsonMarshal escapeHTML hfields, ?_⟩
  · rw [marshalCallResult, hencode]
    rfl
  · have hid : uid ≠ "" := (callResult_validate_iff.mp hvalid).1.1
    have hparse : profile.parseResponse confirmation.featureName read (Endpoint.parseRawJson lib)
        = .ok confirmation := by
      simp only [Profile.parseResponse, hentry]
      rw [parseRawJson_eq hnull, ← htype profile feature hprofile hentry, hdecode]
    simp only [Endpoint.parseMessage, if_neg hid,
      show (Number.ofInt CALL_RESULT).toInt64 = CALL_RESULT by decide,
      show (CALL_RESULT = CALL) = False by decide, if_pos, if_false,
      Endpoint.parseCallResult, hpending, hfeature, hprofile, hparse, hvalid]

theorem callError_roundTrip {uid : String} {code : ErrorCode} {description : String}
    {details : Option Json} {c : CallError}
    (hcreate : Endpoint.createCallError lib true uid code description details = .ok c)
    (hdetails : ∀ details, c.errorDetails = some details → e.IsValue details)
    {st : ClientState Payload} {request : Option Payload}
    (hpending : st.getPendingRequest c.uniqueId = some request) :
    ∃ data arr, e.marshalCallError escapeHTML c = .ok data ∧ e.parseRawJsonMessage data = .ok arr
      ∧ endpoint.parseMessage lib arr st = .parsed
        (.callError { c with errorDetails := some (detailsOrEmpty c.errorDetails) }) := by
  obtain ⟨rfl, hvalid⟩ := Endpoint.createCallError_ok hcreate
  have hvalue : e.IsValue (detailsOrEmpty details) := by
    unfold detailsOrEmpty
    split
    · exact ⟨List.Pairwise.nil, trivial⟩
    · exact ⟨List.Pairwise.nil, trivial⟩
    · exact hdetails _ rfl
  have hfields : e.rereadElements [.num (.ofInt CALL_ERROR), .str uid, .str code,
        .str description, detailsOrEmpty details]
      = some [.num (.ofInt CALL_ERROR), .str uid, .str code, .str description,
        detailsOrEmpty details] :=
    rereadElements_header (by decide) (rereadElements_str (rereadElements_str
      (rereadElements_singleton (reread_of_isValue hvalue))))
  refine ⟨_, _, ?_, parseRawJsonMessage_jsonMarshal escapeHTML hfields, ?_⟩
  · rw [marshalCallError, ocppMessageToJson_cons]
  · have hid : uid ≠ "" := (callError_validate_iff.mp hvalid).1.1
    simp only [Endpoint.parseMessage, if_neg hid,
      show (Number.ofInt CALL_ERROR).toInt64 = CALL_ERROR by decide,
      show (CALL_ERROR = CALL) = False by decide, show (CALL_ERROR = CALL_RESULT) = False by decide,
      if_pos, if_false, Endpoint.parseCallError, hpending, List.head?_cons]
    -- the details are not part of what is validated
    rw [show CallError.validate lib
      ⟨CALL_ERROR, uid, code, description, some (detailsOrEmpty details)⟩ = [] from hvalid]

/--
**A message is received as it was created**, whether HTML is escaped or not: of
the same kind, with every field the same, but for missing details.
-/
theorem message_roundTrip {m : Message} (hcreated : Created endpoint lib m)
    (hsendable : Transmissible endpoint lib e m) {st : ClientState Payload}
    (hexpected : Expected st m) (escapeHTML : Bool) :
    ∃ data arr, e.marshalJSON escapeHTML m = .ok data ∧ e.parseRawJsonMessage data = .ok arr
      ∧ endpoint.parseMessage lib arr st = .parsed (received m) := by
  cases hcreated with
  | call uid request hcreate => exact call_roundTrip hcreate hsendable.1 hsendable.2 st
  | callResult uid confirmation hcreate =>
      obtain ⟨request, hpending, hfeature⟩ := hexpected
      exact callResult_roundTrip hcreate hsendable.1 hsendable.2 hpending hfeature
  | callError uid code description details hcreate =>
      obtain ⟨request, hpending⟩ := hexpected
      exact callError_roundTrip hcreate hsendable hpending

end

/-- A heartbeat confirmation without its time. -/
def heartbeatConfirmation : Payload :=
  { goType := heartbeat.responseType, featureName := heartbeat.name, body := .obj [] }

/-- The slot of a sender that waits for the answer to its heartbeat. -/
def awaitingHeartbeat : ClientState Payload :=
  { requestID := "1", pendingRequest := some heartbeatRequest }

/-- The endpoint knows no other type for a payload of the heartbeat feature. -/
theorem registered_heartbeat {typeOf : Feature → GoType} {p : Payload}
    (hname : p.featureName = heartbeat.name) (htype : p.goType = typeOf heartbeat) :
    Registered heartbeatEndpoint typeOf p := by
  intro profile feature hprofile hfeature
  rw [hname] at hprofile hfeature
  cases hprofile
  cases hfeature
  exact htype

/-- A heartbeat, its confirmation, and a refusal whose description needs escapes. -/
theorem heartbeat_roundTrip :
    (∃ data arr, digitEncoding.marshalJSON true (.call ⟨CALL, "1", "Heartbeat", heartbeatRequest⟩)
        = .ok data ∧ digitEncoding.parseRawJsonMessage data = .ok arr
      ∧ heartbeatEndpoint.parseMessage heartbeatJson arr .new
        = .parsed (.call ⟨CALL, "1", "Heartbeat", heartbeatRequest⟩))
    ∧ (∃ data arr, digitEncoding.marshalJSON false
        (.callResult ⟨CALL_RESULT, "1", heartbeatConfirmation⟩)
        = .ok data ∧ digitEncoding.parseRawJsonMessage data = .ok arr
      ∧ heartbeatEndpoint.parseMessage heartbeatJson arr awaitingHeartbeat
        = .parsed (.callResult ⟨CALL_RESULT, "1", heartbeatConfirmation⟩))
    ∧ (∃ data arr, digitEncoding.marshalJSON true
        (.callError ⟨CALL_ERROR, "1", GenericError, "<no \"clock\">\n", none⟩)
        = .ok data ∧ digitEncoding.parseRawJsonMessage data = .ok arr
      ∧ heartbeatEndpoint.parseMessage heartbeatJson arr awaitingHeartbeat
        = .parsed (.callError
          ⟨CALL_ERROR, "1", GenericError, "<no \"clock\">\n", some (.obj [])⟩)) :=
  ⟨message_roundTrip (.call "1" heartbeatRequest rfl)
      ⟨registered_heartbeat rfl rfl, .obj [], .obj [], rfl, rfl, by simp, rfl⟩ trivial true,
    message_roundTrip (.callResult "1" heartbeatConfirmation rfl)
      ⟨registered_heartbeat rfl rfl, .obj [], .obj [], rfl, rfl, by simp, rfl⟩
      ⟨heartbeatRequest, rfl, rfl⟩ false,
    message_roundTrip (.callError "1" GenericError "<no \"clock\">\n" none rfl)
      (fun _ h => absurd h (by simp))
      ⟨some heartbeatRequest, rfl⟩ true⟩

end OcppGo.Proof
