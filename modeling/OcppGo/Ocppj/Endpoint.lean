import OcppGo.Ocppj.Message
import OcppGo.Ocppj.State

/-!
# Parsing and creating messages

`Endpoint` of `ocppj/ocppj.go`. `parseMessage` looks at the pending slot it is
given: a `CALL_RESULT` or `CALL_ERROR` whose id is not the pending one is
discarded without an error, and a result is decoded with the response type of
the *pending* request's feature. The two inversion lemmas at the end say exactly
what is known about a reply, and about a call, that came through.
-/

namespace OcppGo.Ocppj

/-- `ocpp.Dialect`; the zero value is what an endpoint has before `SetDialect`. -/
inductive Dialect where
  | unset
  | V16
  | V2
deriving Repr, DecidableEq

structure Endpoint where
  dialect : Dialect
  profiles : List Profile

/-- How a call of `ParseMessage` ends. -/
inductive Parsed where
  /-- A nil dereference, or `FormatErrorType` without a dialect. -/
  | panicked
  | failed (err : OcppError)
  /-- Neither a message nor an error. -/
  | discarded
  | parsed (m : Message)

/-- A Go `error` value, by the cases callers tell apart. -/
inductive GoError where
  | plain (text : String)
  | validation (errors : List FieldError)
  | ocpp (err : OcppError)

namespace Endpoint

/-- `FormatErrorType`; `none` is its panic. -/
def formatErrorType (endpoint : Endpoint) : Option ErrorCode :=
  match endpoint.dialect with
  | .V16 => some FormatViolationV16
  | .V2 => some FormatViolationV2
  | .unset => none

/-- `GetProfileForFeature`: the first profile that supports the feature. -/
def getProfileForFeature (endpoint : Endpoint) (featureName : String) : Option Profile :=
  endpoint.profiles.find? (fun p => p.supportsFeature featureName)

/-- `parseRawJsonRequest` and `parseRawJsonConfirmation`: a missing payload is `{}`. -/
def parseRawJson (lib : Library) (raw : Json) (type : GoType) : Except String Payload :=
  match raw with
  | .null => lib.decode type (.obj [])
  | raw => lib.decode type raw

/-- Return the endpoint's format violation. -/
def formatViolation (endpoint : Endpoint) (description messageId : String) : Parsed :=
  match endpoint.formatErrorType with
  | none => .panicked
  | some code => .failed (newError code description messageId)

/-- The `CALL` branch of `ParseMessage`; `rest` is `arr[3:]`. -/
def parseCall (endpoint : Endpoint) (lib : Library) (uniqueId : String) (arr2 : Json)
    (rest : List Json) : Parsed :=
  match rest with
  | [arr3] =>
      match arr2 with
      | .str action =>
          match endpoint.getProfileForFeature action with
          | none => .failed (newError NotSupported ("Unsupported feature " ++ action) uniqueId)
          | some profile =>
              match profile.parseRequest action arr3 (parseRawJson lib) with
              | .error text => endpoint.formatViolation text uniqueId
              | .ok request =>
                  let call : Call :=
                    { messageTypeId := CALL, uniqueId := uniqueId, action := action,
                      payload := request }
                  match call.validate lib with
                  | [] => .parsed (.call call)
                  | errors => .failed (errorFromValidation lib errors uniqueId action)
      | arr2 =>
          endpoint.formatViolation
            ("Invalid element " ++ lib.sprint arr2 ++ " at 2, expected action (string)") uniqueId
  | _ => endpoint.formatViolation "Invalid Call message. Expected array length 4" uniqueId

/-- The `CALL_RESULT` branch. -/
def parseCallResult (endpoint : Endpoint) (lib : Library) (uniqueId : String) (arr2 : Json)
    (pendingRequestState : ClientState Payload) : Parsed :=
  match pendingRequestState.getPendingRequest uniqueId with
  | none => .discarded
  -- a nil request is pending: its feature name is read
  | some none => .panicked
  | some (some request) =>
      match endpoint.getProfileForFeature request.featureName with
      -- `profile.ParseResponse` of a nil profile
      | none => .panicked
      | some profile =>
          match profile.parseResponse request.featureName arr2 (parseRawJson lib) with
          | .error text => endpoint.formatViolation text uniqueId
          | .ok confirmation =>
              let callResult : CallResult :=
                { messageTypeId := CALL_RESULT, uniqueId := uniqueId, payload := confirmation }
              match callResult.validate lib with
              | [] => .parsed (.callResult callResult)
              | errors => .failed (errorFromValidation lib errors uniqueId request.featureName)

/-- The `CALL_ERROR` branch; `rest` is `arr[3:]`. -/
def parseCallError (endpoint : Endpoint) (lib : Library) (uniqueId : String) (arr2 : Json)
    (rest : List Json) (pendingRequestState : ClientState Payload) : Parsed :=
  match pendingRequestState.getPendingRequest uniqueId with
  | none => .discarded
  | some _ =>
      match rest with
      | [] =>
          endpoint.formatViolation "Invalid Call Error message. Expected array length >= 4" uniqueId
      | arr3 :: rest =>
          match arr2 with
          | .str rawErrorCode =>
              let callError : CallError :=
                { messageTypeId := CALL_ERROR, uniqueId := uniqueId, errorCode := rawErrorCode,
                  errorDescription := match arr3 with
                    | .str v => v
                    | _ => ""
                  errorDetails := rest.head? }
              match callError.validate lib with
              | [] => .parsed (.callError callError)
              | errors => .failed (errorFromValidation lib errors uniqueId "")
          | arr2 =>
              -- the source passes `rawErrorCode`, empty here, where an id belongs
              endpoint.formatViolation
                ("Invalid element " ++ lib.sprint arr2
                  ++ " at 2, expected rawErrorCode (string)") ""

/-- `ParseMessage`. -/
def parseMessage (endpoint : Endpoint) (lib : Library) (arr : List Json)
    (pendingRequestState : ClientState Payload) : Parsed :=
  match arr with
  | arr0 :: arr1 :: arr2 :: rest =>
      match arr0 with
      | .num rawTypeId =>
          match arr1 with
          | .str uniqueId =>
              if uniqueId = "" then
                endpoint.formatViolation "Invalid unique ID, cannot be empty" uniqueId
              -- the type is compared only now, after the conversion to an integer
              else if rawTypeId.toInt64 = CALL then
                endpoint.parseCall lib uniqueId arr2 rest
              else if rawTypeId.toInt64 = CALL_RESULT then
                endpoint.parseCallResult lib uniqueId arr2 pendingRequestState
              else if rawTypeId.toInt64 = CALL_ERROR then
                endpoint.parseCallError lib uniqueId arr2 rest pendingRequestState
              else
                .failed (newError MessageTypeNotSupported
                  ("Invalid message type ID " ++ toString rawTypeId.toInt64) uniqueId)
          | arr1 =>
              endpoint.formatViolation
                ("Invalid element " ++ lib.sprint arr1 ++ " at 1, expected unique ID (string)") ""
      | arr0 =>
          endpoint.formatViolation
            ("Invalid element " ++ lib.sprint arr0 ++ " at 0, expected message type (int)") ""
  | _ => endpoint.formatViolation "Invalid message. Expected array length >= 3" ""

/--
`CreateCall`, given the id `messageIdGenerator` returned.

The generator runs only after the feature was found, and before validation.
-/
def createCall (endpoint : Endpoint) (lib : Library) (validationEnabled : Bool)
    (uniqueId : String) (request : Payload) : Except GoError Call :=
  match endpoint.getProfileForFeature request.featureName with
  | none =>
      .error (.plain ("Couldn't create Call for unsupported action " ++ request.featureName))
  | some _ =>
      let call : Call :=
        { messageTypeId := CALL, uniqueId := uniqueId, action := request.featureName,
          payload := request }
      match validationEnabled, call.validate lib with
      | true, e :: es => .error (.validation (e :: es))
      | _, _ => .ok call

/-- `CreateCallResult`. -/
def createCallResult (endpoint : Endpoint) (lib : Library) (validationEnabled : Bool)
    (confirmation : Payload) (uniqueId : String) : Except GoError CallResult :=
  match endpoint.getProfileForFeature confirmation.featureName with
  | none =>
      .error (.ocpp (newError NotSupported
        ("couldn't create Call Result for unsupported action " ++ confirmation.featureName)
        uniqueId))
  | some _ =>
      let callResult : CallResult :=
        { messageTypeId := CALL_RESULT, uniqueId := uniqueId, payload := confirmation }
      match validationEnabled, callResult.validate lib with
      | true, e :: es => .error (.validation (e :: es))
      | _, _ => .ok callResult

/-- `CreateCallError`. -/
def createCallError (lib : Library) (validationEnabled : Bool) (uniqueId : String)
    (code : ErrorCode) (description : String) (details : Option Json) : Except GoError CallError :=
  let callError : CallError :=
    { messageTypeId := CALL_ERROR, uniqueId := uniqueId, errorCode := code,
      errorDescription := description, errorDetails := details }
  match validationEnabled, callError.validate lib with
  | true, e :: es => .error (.validation (e :: es))
  | _, _ => .ok callError

/-! ## What a created message carries -/

theorem createCall_ok {endpoint : Endpoint} {lib : Library} {v : Bool} {uid : String}
    {request : Payload} {call : Call} (h : endpoint.createCall lib v uid request = .ok call) :
    call = { messageTypeId := CALL, uniqueId := uid, action := request.featureName,
             payload := request }
      ∧ ∃ profile, endpoint.getProfileForFeature request.featureName = some profile := by
  unfold createCall at h
  split at h
  · exact absurd h (by simp)
  · rename_i profile hp
    dsimp only at h
    split at h
    · exact absurd h (by simp)
    · injection h with h
      exact ⟨h.symm, profile, hp⟩

/-- The check all three end with, with validation enabled. -/
theorem validated_ok {α : Type} {errors : List FieldError} {m m' : α}
    (h : (match true, errors with
      | true, e :: es => Except.error (GoError.validation (e :: es))
      | _, _ => Except.ok m) = .ok m') : errors = [] ∧ m' = m := by
  cases errors with
  | nil =>
      cases h
      exact ⟨rfl, rfl⟩
  | cons e es => exact absurd h (by simp)

theorem createCall_valid {endpoint : Endpoint} {lib : Library} {uid : String}
    {request : Payload} {call : Call} (h : endpoint.createCall lib true uid request = .ok call) :
    call.validate lib = [] := by
  unfold createCall at h
  split at h
  · exact absurd h (by simp)
  · obtain ⟨hvalid, rfl⟩ := validated_ok h
    exact hvalid

theorem createCallResult_ok {endpoint : Endpoint} {lib : Library} {uid : String}
    {confirmation : Payload} {callResult : CallResult}
    (h : endpoint.createCallResult lib true confirmation uid = .ok callResult) :
    callResult = { messageTypeId := CALL_RESULT, uniqueId := uid, payload := confirmation }
      ∧ callResult.validate lib = []
      ∧ ∃ profile, endpoint.getProfileForFeature confirmation.featureName = some profile := by
  unfold createCallResult at h
  split at h
  · exact absurd h (by simp)
  · rename_i profile hprofile
    obtain ⟨hvalid, rfl⟩ := validated_ok h
    exact ⟨rfl, hvalid, profile, hprofile⟩

theorem createCallError_ok {lib : Library} {uid : String} {code : ErrorCode} {description : String}
    {details : Option Json} {callError : CallError}
    (h : createCallError lib true uid code description details = .ok callError) :
    callError = { messageTypeId := CALL_ERROR, uniqueId := uid, errorCode := code,
                  errorDescription := description, errorDetails := details }
      ∧ callError.validate lib = [] := by
  obtain ⟨hvalid, rfl⟩ := validated_ok h
  exact ⟨rfl, hvalid⟩

/-! ## What is known about a reply that was not discarded -/

theorem formatViolation_ne_parsed {endpoint : Endpoint} {d i : String} {m : Message} :
    endpoint.formatViolation d i ≠ .parsed m := by
  unfold formatViolation
  split <;> simp

/-- A call that got through is valid, and its payload was decoded with its feature's type. -/
structure CallOk (endpoint : Endpoint) (lib : Library) (call : Call) : Prop where
  valid : call.validate lib = []
  decoded : ∃ profile feature raw, endpoint.getProfileForFeature call.action = some profile
    ∧ profile.features call.action = some feature
    ∧ parseRawJson lib raw feature.requestType = .ok call.payload

theorem parseCall_parsed {endpoint : Endpoint} {lib : Library} {uid : String} {arr2 : Json}
    {rest : List Json} {m : Message} (h : endpoint.parseCall lib uid arr2 rest = .parsed m) :
    ∃ c, m = .call c ∧ CallOk endpoint lib c := by
  unfold parseCall at h
  split at h
  · split at h
    · split at h
      · exact absurd h (by simp)
      · rename_i profile hprofile
        split at h
        · exact absurd h formatViolation_ne_parsed
        · rename_i request hrequest
          dsimp only at h
          split at h
          · rename_i hvalid
            cases h
            refine ⟨_, rfl, hvalid, ?_⟩
            unfold Profile.parseRequest at hrequest
            split at hrequest
            · exact absurd hrequest (by simp)
            · rename_i feature hfeature
              exact ⟨profile, feature, _, hprofile, hfeature, hrequest⟩
          · exact absurd h (by simp)
    · exact absurd h formatViolation_ne_parsed
  · exact absurd h formatViolation_ne_parsed

/-- A result that got through answers the pending id, with a payload of that request's type. -/
theorem parseCallResult_parsed {endpoint : Endpoint} {lib : Library} {uid : String}
    {arr2 : Json} {st : ClientState Payload} {m : Message}
    (h : endpoint.parseCallResult lib uid arr2 st = .parsed m) :
    ∃ request profile feature p, m = .callResult ⟨CALL_RESULT, uid, p⟩
      ∧ st.requestID = uid ∧ st.pendingRequest = some request
      ∧ endpoint.getProfileForFeature request.featureName = some profile
      ∧ profile.features request.featureName = some feature
      ∧ parseRawJson lib arr2 feature.responseType = .ok p := by
  unfold parseCallResult at h
  split at h
  · exact absurd h (by simp)
  · exact absurd h (by simp)
  · rename_i request hget
    obtain ⟨hid, hreq⟩ := ClientState.getPendingRequest_eq_some hget
    split at h
    · exact absurd h (by simp)
    · rename_i profile hprofile
      split at h
      · exact absurd h formatViolation_ne_parsed
      · rename_i p hp
        unfold Profile.parseResponse at hp
        split at hp
        · exact absurd hp (by simp)
        · rename_i feature hfeature
          dsimp only at h
          split at h
          · injection h with h
            exact ⟨request, profile, feature, p, h.symm, hid, hreq, hprofile, hfeature, hp⟩
          · exact absurd h (by simp)

/-- An error that got through answers the pending id. -/
theorem parseCallError_parsed {endpoint : Endpoint} {lib : Library} {uid : String}
    {arr2 : Json} {rest : List Json} {st : ClientState Payload} {m : Message}
    (h : endpoint.parseCallError lib uid arr2 rest st = .parsed m) :
    ∃ c, m = .callError c ∧ c.uniqueId = uid ∧ st.requestID = uid := by
  unfold parseCallError at h
  split at h
  · exact absurd h (by simp)
  · rename_i r hget
    obtain ⟨hid, _⟩ := ClientState.getPendingRequest_eq_some hget
    split at h
    · exact absurd h formatViolation_ne_parsed
    · split at h
      · dsimp only at h
        split at h
        · injection h with h
          exact ⟨_, h.symm, rfl, hid⟩
        · exact absurd h (by simp)
      · exact absurd h formatViolation_ne_parsed

/-- A message comes from one of the three branches. -/
theorem parseMessage_branch {endpoint : Endpoint} {lib : Library} {arr : List Json}
    {st : ClientState Payload} {m : Message}
    (h : endpoint.parseMessage lib arr st = .parsed m) :
    ∃ uid arr2 rest, uid ≠ "" ∧ arr[2]? = some arr2
      ∧ (endpoint.parseCall lib uid arr2 rest = .parsed m
        ∨ endpoint.parseCallResult lib uid arr2 st = .parsed m
        ∨ endpoint.parseCallError lib uid arr2 rest st = .parsed m) := by
  unfold parseMessage at h
  split at h
  · rename_i arr0 arr1 arr2 rest
    split at h
    · split at h
      · rename_i uid
        split at h
        · exact absurd h formatViolation_ne_parsed
        · rename_i hne
          refine ⟨uid, arr2, rest, hne, rfl, ?_⟩
          split at h
          · exact Or.inl h
          · split at h
            · exact Or.inr (Or.inl h)
            · split at h
              · exact Or.inr (Or.inr h)
              · exact absurd h (by simp)
      · exact absurd h formatViolation_ne_parsed
    · exact absurd h formatViolation_ne_parsed
  · exact absurd h formatViolation_ne_parsed

/-- What `ParseMessage` promises about each kind of message it returns. -/
def ReplyOk (endpoint : Endpoint) (lib : Library) (arr : List Json) (st : ClientState Payload) :
    Message → Prop
  | .call _ => True
  | .callResult c =>
      c.uniqueId ≠ "" ∧ st.requestID = c.uniqueId
        ∧ ∃ request profile feature raw, st.pendingRequest = some request
          ∧ arr[2]? = some raw
          ∧ endpoint.getProfileForFeature request.featureName = some profile
          ∧ profile.features request.featureName = some feature
          ∧ parseRawJson lib raw feature.responseType = .ok c.payload
  | .callError c => c.uniqueId ≠ "" ∧ st.requestID = c.uniqueId

/-- **Every reply `ParseMessage` returns answers the pending request.** -/
theorem parseMessage_parsed {endpoint : Endpoint} {lib : Library} {arr : List Json}
    {st : ClientState Payload} {m : Message}
    (h : endpoint.parseMessage lib arr st = .parsed m) : ReplyOk endpoint lib arr st m := by
  obtain ⟨uid, arr2, rest, hne, harr2, hcall | hresult | herror⟩ := parseMessage_branch h
  · obtain ⟨c, rfl, _⟩ := parseCall_parsed hcall
    trivial
  · obtain ⟨request, profile, feature, p, rfl, hid, hreq, hprofile, hfeature, hp⟩ :=
      parseCallResult_parsed hresult
    exact ⟨hne, hid, request, profile, feature, arr2, hreq, harr2, hprofile, hfeature, hp⟩
  · obtain ⟨c, rfl, hcid, hid⟩ := parseCallError_parsed herror
    exact ⟨by rw [hcid]; exact hne, by rw [hcid]; exact hid⟩

/-- **Every call `ParseMessage` returns is valid, with a payload of its feature.** -/
theorem parseMessage_call {endpoint : Endpoint} {lib : Library} {arr : List Json}
    {st : ClientState Payload} {call : Call}
    (h : endpoint.parseMessage lib arr st = .parsed (.call call)) : CallOk endpoint lib call := by
  obtain ⟨uid, arr2, rest, _, _, hcall | hresult | herror⟩ := parseMessage_branch h
  · obtain ⟨c, heq, hok⟩ := parseCall_parsed hcall
    cases heq
    exact hok
  · obtain ⟨_, _, _, _, heq, _⟩ := parseCallResult_parsed hresult
    cases heq
  · obtain ⟨_, heq, _⟩ := parseCallError_parsed herror
    cases heq

end Endpoint

/-! ## A concrete endpoint -/

/-- The `Heartbeat` feature of OCPP 1.6. -/
def heartbeat : Feature :=
  { name := "Heartbeat", requestType := "core.HeartbeatRequest",
    responseType := "core.HeartbeatConfirmation" }

/-- An OCPP 1.6 endpoint with a core profile that knows heartbeats. -/
def heartbeatEndpoint : Endpoint :=
  { dialect := .V16, profiles := [.new "core" [heartbeat]] }

/-- A heartbeat request, which has no fields. -/
def heartbeatRequest : Payload :=
  { goType := heartbeat.requestType, featureName := heartbeat.name, body := .obj [] }

/-- The bytes of a text without characters beyond ASCII. -/
def ascii (s : String) : List UInt8 := s.toList.map (fun c => UInt8.ofNat c.toNat)

/-- `[3,"id",{}]` -/
def resultFrame (id : String) : List UInt8 := ascii ("[3,\"" ++ id ++ "\",\x7b\x7d]")

/-- The validator's reports, tag by tag, up to the first that is not met. -/
def reportedTags : MessageTags where
  typeId := fun field expected actual =>
    if actual = 0 then [⟨"required", field, "", .int actual⟩]
    else if actual ≠ expected then [⟨"eq", field, toString expected, .int actual⟩]
    else []
  short := fun field value =>
    if value = "" then [⟨"required", field, "", .string value⟩]
    else if 36 < value.length then [⟨"max", field, "36", .string value⟩]
    else []
  errorCode := fun field code =>
    if isErrorCodeValid code then [] else [⟨"errorCode", field, "", .string code⟩]
  typeId_eq := by
    intro field n hn
    rw [if_neg hn, if_neg (not_not.mpr rfl)]
  short_required := fun _ => rfl
  short_max := by
    intro field value hlong
    have hne : value ≠ "" := by
      rintro rfl
      exact absurd hlong (by decide)
    rw [if_neg hne, if_pos hlong]
  short_met := by
    intro field value hne hshort
    rw [if_neg hne, if_neg (Nat.not_lt.mpr hshort)]
  errorCode_unknown := by
    intro field code hcode
    rw [hcode]
    rfl
  errorCode_met := by
    intro field code hcode
    rw [if_pos hcode]

/--
`encoding/json` and the validator on heartbeats: results are read for the ids
"1", "2" and "3", calls are written with an empty payload, and a payload without
tags has no field errors.
-/
def heartbeatLibrary : Library where
  unmarshalArray := fun data =>
    match ["1", "2", "3"].find? (fun id => data == resultFrame id) with
    | some id => .ok [.num (.ofInt 3), .str id, .obj []]
    | none => .error "invalid character"
  decode := fun type raw => .ok { goType := type, featureName := heartbeat.name, body := raw }
  marshal := fun m =>
    match m with
    | .call c =>
        .ok (ascii ("[2,\"" ++ c.uniqueId ++ "\",\"" ++ c.action ++ "\",\x7b\x7d]"))
    | _ => .error "unsupported"
  tags := reportedTags
  payloadErrors := fun _ => []
  validationErrorText := fun _ => ""
  sprint := fun _ => ""

end OcppGo.Ocppj
