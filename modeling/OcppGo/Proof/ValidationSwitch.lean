import OcppGo.Proof.MessageGrammar

/-!
# Sending without validation

`SetMessageValidation(false)` makes `CreateCall` and `CreateCallResult` skip the
tags of what they create. `ParseMessage` does not look at the switch: it validates
every message, so what one side sends unvalidated, the other side refuses, with
the same library and the same setting.

A message that meets its tags is received as it was sent, since creating it without
validation gives what creating it with validation would. No other message is received.
-/

namespace OcppGo.Proof

open OcppGo.Ocppj Encoding

section

variable {endpoint receiver : Endpoint} {lib : Library} {e : Encoding} {uid : String}

/-- Without validation a supported request always becomes a call. -/
theorem createCall_unvalidated {request : Payload} {c : Call}
    (h : endpoint.createCall lib false uid request = .ok c) (hvalid : c.validate lib = []) :
    endpoint.createCall lib true uid request = .ok c := by
  obtain ⟨rfl, profile, hprofile⟩ := Endpoint.createCall_ok h
  simp only [Endpoint.createCall, hprofile, hvalid]

theorem createCallResult_unvalidated {confirmation : Payload} {c : CallResult}
    (h : endpoint.createCallResult lib false confirmation uid = .ok c) :
    c = ⟨CALL_RESULT, uid, confirmation⟩ ∧
      (c.validate lib = [] → endpoint.createCallResult lib true confirmation uid = .ok c) := by
  unfold Endpoint.createCallResult at h ⊢
  split at h
  · cases h
  · cases h
    exact ⟨rfl, fun hvalid => by simp only [hvalid]⟩

/-- Creating looks at the profiles of an endpoint and at nothing else. -/
theorem createCall_profiles (h : receiver.profiles = endpoint.profiles) (v : Bool)
    (request : Payload) :
    receiver.createCall lib v uid request = endpoint.createCall lib v uid request := by
  simp only [Endpoint.createCall, Endpoint.getProfileForFeature, h]

theorem createCallResult_profiles (h : receiver.profiles = endpoint.profiles) (v : Bool)
    (confirmation : Payload) :
    receiver.createCallResult lib v confirmation uid
      = endpoint.createCallResult lib v confirmation uid := by
  simp only [Endpoint.createCallResult, Endpoint.getProfileForFeature, h]

theorem registered_profiles (h : receiver.profiles = endpoint.profiles)
    {typeOf : Feature → GoType} {p : Payload} (hp : Registered endpoint typeOf p) :
    Registered receiver typeOf p := by
  intro profile feature hprofile
  refine hp profile feature ?_
  rw [← hprofile, Endpoint.getProfileForFeature, Endpoint.getProfileForFeature, h]

/-- A message that is returned meets its tags. -/
theorem parsed_call_valid {arr : List Json} {st : ClientState Payload} {c : Call}
    (h : receiver.parseMessage lib arr st = .parsed (.call c)) :
    Short c.uniqueId ∧ Short c.action ∧ lib.payloadErrors c.payload = [] := by
  have hframe : CallFrame receiver lib (cutType arr) c :=
    (parseMessage_parsed_iff receiver lib st arr (.call c)).mp h
  generalize cutType arr = cut at hframe
  cases hframe with
  | mk _ hid haction _ hp => exact ⟨hid, haction, hp.2⟩

theorem parsed_callResult_valid {arr : List Json} {st : ClientState Payload} {c : CallResult}
    (h : receiver.parseMessage lib arr st = .parsed (.callResult c)) :
    Short c.uniqueId ∧ lib.payloadErrors c.payload = [] := by
  have hframe : ResultFrame receiver lib st (cutType arr) c :=
    (parseMessage_parsed_iff receiver lib st arr (.callResult c)).mp h
  generalize cutType arr = cut at hframe
  cases hframe with
  | mk _ hid _ _ hp => exact ⟨hid, hp.2⟩

/--
**When what is sent without validation is received**, by an endpoint with the same
profiles: exactly if it meets its tags all the same.
-/
theorem unvalidated_message_received (hprofiles : receiver.profiles = endpoint.profiles)
    (huid : uid ≠ "") (escapeHTML : Bool) :
    (∀ (request : Payload) (c : Call), endpoint.createCall lib false uid request = .ok c →
      Registered endpoint Feature.requestType request → ReadBack lib e request →
      ∀ st, (∃ data arr, e.marshalCall escapeHTML c = .ok data
          ∧ e.parseRawJsonMessage data = .ok arr
          ∧ receiver.parseMessage lib arr st = .parsed (.call c) ∧ c.payload = request) ↔
        uid.length ≤ 36 ∧ Short request.featureName ∧ lib.payloadErrors request = []) ∧
    (∀ (confirmation : Payload) (c : CallResult),
      endpoint.createCallResult lib false confirmation uid = .ok c →
      Registered endpoint Feature.responseType confirmation → ReadBack lib e confirmation →
      ∀ st request, st.getPendingRequest uid = some (some request) →
        request.featureName = confirmation.featureName →
        ((∃ data arr, e.marshalCallResult escapeHTML c = .ok data
            ∧ e.parseRawJsonMessage data = .ok arr
            ∧ receiver.parseMessage lib arr st = .parsed (.callResult c)
            ∧ c.payload = confirmation) ↔
          uid.length ≤ 36 ∧ lib.payloadErrors confirmation = [])) := by
  constructor
  · intro request c hcreate htype hback st
    obtain ⟨rfl, _⟩ := Endpoint.createCall_ok hcreate
    constructor
    · rintro ⟨data, arr, _, _, hparse, _⟩
      obtain ⟨hid, hname, hpayload⟩ := parsed_call_valid hparse
      exact ⟨hid.2, hname, hpayload⟩
    · rintro ⟨hlength, hname, hpayload⟩
      have hvalid := call_validate_iff.mpr ⟨⟨huid, hlength⟩, hname, hpayload⟩
      have hreceiver := (createCall_profiles hprofiles true request).trans
        (createCall_unvalidated hcreate hvalid)
      obtain ⟨data, arr, hdata, harr, hparse⟩ :=
        call_roundTrip hreceiver (registered_profiles hprofiles htype) hback st
      exact ⟨data, arr, hdata, harr, hparse, rfl⟩
  · intro confirmation c hcreate htype hback st request hpending hfeature
    obtain ⟨rfl, hvalidated⟩ := createCallResult_unvalidated hcreate
    constructor
    · rintro ⟨data, arr, _, _, hparse, _⟩
      obtain ⟨hid, hpayload⟩ := parsed_callResult_valid hparse
      exact ⟨hid.2, hpayload⟩
    · rintro ⟨hlength, hpayload⟩
      have hvalid := callResult_validate_iff.mpr ⟨⟨huid, hlength⟩, hpayload⟩
      have hreceiver := (createCallResult_profiles hprofiles true confirmation).trans
        (hvalidated hvalid)
      obtain ⟨data, arr, hdata, harr, hparse⟩ :=
        callResult_roundTrip hreceiver (registered_profiles hprofiles htype) hback hpending
          hfeature
      exact ⟨data, arr, hdata, harr, hparse, rfl⟩

end

/--
A heartbeat and its confirmation, sent unvalidated, arrive; a heartbeat under an id of 37
characters does not.
-/
theorem unvalidated_heartbeat_received :
    (∃ data arr,
      digitEncoding.marshalCall true ⟨CALL, "1", "Heartbeat", heartbeatRequest⟩ = .ok data
      ∧ digitEncoding.parseRawJsonMessage data = .ok arr
      ∧ heartbeatEndpoint.parseMessage heartbeatJson arr .new
        = .parsed (.call ⟨CALL, "1", "Heartbeat", heartbeatRequest⟩)) ∧
    (∃ data arr, digitEncoding.marshalCallResult true ⟨CALL_RESULT, "1", heartbeatConfirmation⟩
        = .ok data
      ∧ digitEncoding.parseRawJsonMessage data = .ok arr
      ∧ heartbeatEndpoint.parseMessage heartbeatJson arr awaitingHeartbeat
        = .parsed (.callResult ⟨CALL_RESULT, "1", heartbeatConfirmation⟩)) ∧
    ¬ (∃ data arr, digitEncoding.marshalCall true ⟨CALL, longId, "Heartbeat", heartbeatRequest⟩
        = .ok data
      ∧ digitEncoding.parseRawJsonMessage data = .ok arr
      ∧ heartbeatEndpoint.parseMessage heartbeatJson arr .new
        = .parsed (.call ⟨CALL, longId, "Heartbeat", heartbeatRequest⟩)) := by
  have hback : ∀ p : Payload, p = heartbeatRequest ∨ p = heartbeatConfirmation →
      ReadBack heartbeatJson digitEncoding p := by
    rintro p (rfl | rfl) <;> exact ⟨.obj [], .obj [], rfl, rfl, by simp, rfl⟩
  have hprofiles : heartbeatEndpoint.profiles = heartbeatEndpoint.profiles := rfl
  have hname : Short heartbeatRequest.featureName := ⟨by decide, by decide⟩
  obtain ⟨hcall, hresult⟩ :=
    @unvalidated_message_received _ _ heartbeatJson digitEncoding "1" hprofiles (by decide) true
  obtain ⟨hlong, _⟩ :=
    @unvalidated_message_received _ _ heartbeatJson digitEncoding longId hprofiles (by decide) true
  obtain ⟨data, arr, hdata, harr, hparse, _⟩ := (hcall heartbeatRequest _ rfl
    (registered_heartbeat rfl rfl) (hback _ (Or.inl rfl)) .new).mpr ⟨by decide, hname, rfl⟩
  obtain ⟨data', arr', hdata', harr', hparse', _⟩ := (hresult heartbeatConfirmation _ rfl
    (registered_heartbeat rfl rfl) (hback _ (Or.inr rfl)) awaitingHeartbeat heartbeatRequest
    rfl rfl).mpr ⟨by decide, rfl⟩
  refine ⟨⟨data, arr, hdata, harr, hparse⟩, ⟨data', arr', hdata', harr', hparse'⟩, ?_⟩
  rintro ⟨data, arr, hdata, harr, hparse⟩
  have hlength := ((hlong heartbeatRequest _ rfl (registered_heartbeat rfl rfl)
    (hback _ (Or.inl rfl)) .new).mp ⟨data, arr, hdata, harr, hparse, rfl⟩).1
  exact absurd hlength (by decide)

/-- The `Authorize` feature of OCPP 1.6, its response left out. -/
def authorize : Feature :=
  { name := "Authorize", requestType := "core.AuthorizeRequest",
    responseType := "core.AuthorizeConfirmation" }

def authorizeEndpoint : Endpoint := { dialect := .V16, profiles := [.new "core" [authorize]] }

def authorizeRequest (idTag : String) : Payload :=
  { goType := authorize.requestType, featureName := authorize.name
    body := .obj [("idTag", .str idTag)] }

/-- `encoding/json` and the validator on this request: the tag is `required`. -/
def authorizeJson : Library where
  unmarshalArray := digitEncoding.parseRawJsonMessage
  decode := fun type raw => .ok { goType := type, featureName := authorize.name, body := raw }
  marshal := digitEncoding.marshalJSON true
  tags := reportedTags
  payloadErrors := fun p =>
    match p.body with
    | .obj [("idTag", .str "")] => [⟨"required", "Call.Payload.IdTag", "", .string ""⟩]
    | _ => []
  validationErrorText := fun _ => ""
  sprint := fun _ => ""

/--
A request without its tag, and a heartbeat under an id of 37 characters: both are
created and encoded with validation switched off, both encode and decode, and both
are refused at the other end.
-/
theorem unvalidated_message_refused :
    ReadBack authorizeJson digitEncoding (authorizeRequest "") ∧
    authorizeEndpoint.createCall authorizeJson false "1" (authorizeRequest "")
      = .ok ⟨CALL, "1", "Authorize", authorizeRequest ""⟩ ∧
    (∃ data arr, digitEncoding.marshalCall true ⟨CALL, "1", "Authorize", authorizeRequest ""⟩
        = .ok data
      ∧ digitEncoding.parseRawJsonMessage data = .ok arr
      ∧ authorizeEndpoint.parseMessage authorizeJson arr .new
        = .failed (newError OccurrenceConstraintViolation
          "Field Call.Payload.IdTag required but not found for feature Authorize" "1")) ∧
    heartbeatEndpoint.createCall heartbeatJson false longId heartbeatRequest
      = .ok ⟨CALL, longId, "Heartbeat", heartbeatRequest⟩ ∧
    (∃ data arr, digitEncoding.marshalCall true ⟨CALL, longId, "Heartbeat", heartbeatRequest⟩
        = .ok data
      ∧ digitEncoding.parseRawJsonMessage data = .ok arr
      ∧ heartbeatEndpoint.parseMessage heartbeatJson arr .new
        = .failed (newError PropertyConstraintViolation
          "Field Call.UniqueId must be maximum 36, but was 37 for feature Heartbeat" longId)) := by
  refine ⟨⟨_, _, rfl, rfl, by simp, rfl⟩, rfl, ⟨_, _, rfl, rfl, rfl⟩, rfl,
    ⟨_, _, rfl, rfl, rfl⟩⟩

end OcppGo.Proof
