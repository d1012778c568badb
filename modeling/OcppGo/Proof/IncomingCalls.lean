import OcppGo.IncomingRequests
import OcppGo.Ocppj.Marshal

/-!
# Every accepted call is answered once

A reply can be refused before it is written: its payload is invalid, cannot be encoded,
or belongs to no profile, or the error code a handler chose is unknown. Then nothing went
out, and `HandleFailedResponseError` reports an error of its own, once. The report always
has a known code and no details, so it is never refused itself.

A write that failed is followed by the same report. So there are two attempts at most,
and a second one only after the first failed.

What remains is that the code gets there at all. `Role.covers` compares the three tables
of a role, case by case.
-/

namespace OcppGo.Proof

open OcppGo.Ocppj

/-- A frame that replies to a request: a result or an error under its id, and valid. -/
def RepliesTo (lib : Library) (requestId : String) : Message → Prop
  | .call _ => False
  | .callResult c => c.uniqueId = requestId ∧ c.validate lib = []
  | .callError c => c.uniqueId = requestId ∧ c.validate lib = []

/-- An attempt to write such a frame. -/
structure ReplyAttempt (s : Sender) (requestId : String) (a : Attempt) : Prop where
  reply : RepliesTo s.lib requestId a.frame
  marshalled : s.lib.marshal a.frame = .ok a.jsonMessage
  outcome : ∃ n, a.err = s.network n

/-- One attempt, or a second one after the first failed. -/
inductive Replied (s : Sender) (requestId : String) : List Attempt → Prop where
  | once {a : Attempt} : ReplyAttempt s requestId a → Replied s requestId [a]
  | again {a b : Attempt} : ReplyAttempt s requestId a → a.err ≠ none →
      ReplyAttempt s requestId b → Replied s requestId [a, b]

/-! ## One reply -/

section

variable {s : Sender} {requestId : String} {attempts : List Attempt}

/-- An error `HandleFailedResponseError` can report. -/
def Reportable (s : Sender) (err : GoError) : Prop :=
  ∀ requestID featureName, isErrorCodeValid (s.responseErr requestID err featureName).code = true

/-- How an attempt to reply ends: refused, written, or not written. -/
inductive Sent (s : Sender) (requestId : String) (attempts : List Attempt) :
    List Attempt × Option GoError → Prop where
  | refused {err : GoError} : Reportable s err → Sent s requestId attempts (attempts, some err)
  | written {a : Attempt} : ReplyAttempt s requestId a → a.err = none →
      Sent s requestId attempts (attempts ++ [a], none)
  | failed {a : Attempt} {err : GoError} : ReplyAttempt s requestId a → a.err ≠ none →
      Reportable s err → Sent s requestId attempts (attempts ++ [a], some err)

theorem generic_valid : isErrorCodeValid GenericError = true := by decide

theorem violationOf_code {e : FieldError} {i f : String} {err : OcppError}
    (h : violationOf e i f = some err) : isErrorCodeValid err.code = true := by
  have hoccurrence : isErrorCodeValid OccurrenceConstraintViolation = true := by decide
  have hproperty : isErrorCodeValid PropertyConstraintViolation = true := by decide
  unfold violationOf at h
  split at h
  · cases h
    exact hoccurrence
  all_goals cases h
  all_goals exact hproperty

/-- The errors made of field errors have known codes. -/
theorem errorFromValidation_code {lib : Library} (errors : List FieldError) (i feature : String) :
    isErrorCodeValid (errorFromValidation lib errors i feature).code = true := by
  unfold errorFromValidation
  split
  · rename_i err herr
    obtain ⟨e, _, he⟩ := List.exists_of_findSome?_eq_some herr
    exact violationOf_code he
  · exact generic_valid

theorem reportable_validation (s : Sender) (errors : List FieldError) :
    Reportable s (.validation errors) :=
  fun requestID featureName => errorFromValidation_code errors requestID featureName

theorem reportable_ocpp (s : Sender) {err : OcppError} (h : isErrorCodeValid err.code = true) :
    Reportable s (.ocpp err) := fun _ _ => h

theorem write_sent {frame : Message} (hreply : RepliesTo s.lib requestId frame) :
    Sent s requestId attempts (s.write attempts requestId frame) := by
  unfold Sender.write
  split
  · exact .refused (reportable_ocpp s generic_valid)
  · rename_i jsonMessage hmarshal
    dsimp only
    have hattempt : ReplyAttempt s requestId
        { frame := frame, jsonMessage := jsonMessage, err := s.network attempts.length } :=
      ⟨hreply, hmarshal, attempts.length, rfl⟩
    cases herr : s.network attempts.length with
    | none =>
        rw [herr] at hattempt
        exact .written hattempt rfl
    | some text =>
        rw [herr] at hattempt
        exact .failed hattempt (by simp) (reportable_ocpp s generic_valid)

/-- A result is written, or refused for a reason that can be reported. -/
theorem sendResponse_sent (hvalid : s.validationEnabled = true) (response : Payload) :
    Sent s requestId attempts (s.sendResponse attempts requestId response) := by
  unfold Sender.sendResponse
  rw [hvalid]
  split
  · rename_i err herr
    refine .refused ?_
    unfold Endpoint.createCallResult at herr
    split at herr
    · cases herr
      exact reportable_ocpp s (show isErrorCodeValid NotSupported = true by decide)
    · dsimp only at herr
      split at herr
      · cases herr
        exact reportable_validation s _
      · cases herr
  · rename_i callResult hok
    obtain ⟨rfl, hvalid, _⟩ := Endpoint.createCallResult_ok hok
    exact write_sent ⟨rfl, hvalid⟩

/-- So is an error. -/
theorem sendError_sent (hvalid : s.validationEnabled = true) (code : ErrorCode)
    (description : String) :
    Sent s requestId attempts (s.sendError attempts requestId code description none) := by
  unfold Sender.sendError
  rw [hvalid]
  split
  · rename_i err herr
    refine .refused ?_
    unfold Endpoint.createCallError at herr
    dsimp only at herr
    split at herr
    · cases herr
      exact reportable_validation s _
    · cases herr
  · rename_i callError hok
    obtain ⟨rfl, hvalid⟩ := Endpoint.createCallError_ok hok
    exact write_sent ⟨rfl, hvalid⟩

/-- An error with a known code is not refused. -/
theorem sendError_known (attempts : List Attempt) (hvalid : s.validationEnabled = true)
    (hmarshal : ∀ c : CallError, ∃ data, s.lib.marshal (.callError c) = .ok data)
    (hid : Short requestId) {code : ErrorCode}
    (hcode : isErrorCodeValid code = true) (description : String) :
    ∃ a, ReplyAttempt s requestId a
      ∧ (s.sendError attempts requestId code description none).1 = attempts ++ [a] := by
  let callError : CallError :=
    { messageTypeId := CALL_ERROR, uniqueId := requestId, errorCode := code,
      errorDescription := description, errorDetails := none }
  have hempty : callError.validate s.lib = [] := callError_validate_iff.mpr ⟨hid, hcode⟩
  have hcreate : Endpoint.createCallError s.lib true requestId code description none
      = .ok callError := by
    unfold Endpoint.createCallError
    dsimp only
    rw [show CallError.validate s.lib ⟨CALL_ERROR, requestId, code, description, none⟩ = []
      from hempty]
  obtain ⟨data, hdata⟩ := hmarshal callError
  refine ⟨{ frame := .callError callError, jsonMessage := data,
            err := s.network attempts.length }, ⟨⟨rfl, hempty⟩, hdata, _, rfl⟩, ?_⟩
  rw [Sender.sendError, hvalid, hcreate]
  simp only [Sender.write, hdata]

end

/-! ## The reply, and the report in its place -/

section

variable {s : Sender} {requestId : String}

/-- What it takes for a report to go out: the id is one of an accepted call. -/
structure CanReport (s : Sender) (requestId : String) : Prop where
  validation : s.validationEnabled = true
  marshals : ∀ c : CallError, ∃ data, s.lib.marshal (.callError c) = .ok data
  id : Short requestId

theorem CanReport.sendError (h : CanReport s requestId) {code : ErrorCode}
    (hcode : isErrorCodeValid code = true) (description : String) :
    Replied s requestId (s.sendError [] requestId code description none).1 := by
  obtain ⟨a, ha, heq⟩ := sendError_known [] h.validation h.marshals h.id hcode description
  rw [heq]
  exact .once ha

/-- **A reply and its report**: what every path of `sendResponse` comes down to. -/
theorem CanReport.reportFailure (h : CanReport s requestId)
    {sent : List Attempt × Option GoError} (hsent : Sent s requestId [] sent)
    (featureName : String) :
    Replied s requestId (s.reportFailure requestId featureName sent) := by
  cases hsent with
  | refused hreport =>
      obtain ⟨b, hb, heq⟩ := sendError_known [] h.validation h.marshals h.id
        (hreport requestId featureName) _
      rw [Sender.reportFailure, Sender.handleFailedResponseError, heq]
      exact .once hb
  | written ha _ => exact .once ha
  | failed ha hfailed hreport =>
      obtain ⟨b, hb, heq⟩ := sendError_known ([] ++ [_]) h.validation h.marshals h.id
        (hreport requestId featureName) _
      rw [Sender.reportFailure, Sender.handleFailedResponseError, heq]
      exact .again ha hfailed hb

end

/-! ## The roles -/

section

variable {role : Role} {lib : Library} {network : Nat → Option String} {requestId : String}

theorem sendResponse_replied (h : CanReport (role.sender lib network) requestId) (peer : String)
    (confirmation : Option Payload) (err : Option GoError) :
    Replied (role.sender lib network) requestId
      (role.sendResponse lib network peer confirmation err requestId) := by
  unfold Role.sendResponse
  cases err with
  | some err =>
      refine h.reportFailure ?_ ""
      split <;> exact sendError_sent h.validation _ _
  | none =>
      cases confirmation with
      | none => exact h.sendError generic_valid _
      | some confirmation =>
          exact h.reportFailure (sendResponse_sent h.validation confirmation) _

end

/-! ## The tables -/

/-- The case's handler is the one its profile requires, and its type the one its profile decodes. -/
def covers (role : Role) (c : ActionCase) : Bool :=
  match role.endpoint.getProfileForFeature c.action with
  | none => false
  | some profile =>
      (profile.features c.action).any (fun feature => feature.requestType = c.requestType)
        && role.required.lookup profile.name == some c.handler

/-- In all four roles, every case is covered. -/
theorem roles_covered : ∀ role ∈ Role.all, role.cases.all (covers role) = true := by
  decide +kernel

theorem covered_case {role : Role} (hrole : role ∈ Role.all) {c : ActionCase}
    (hc : c ∈ role.cases) {profile : Profile}
    (hprofile : role.endpoint.getProfileForFeature c.action = some profile) {feature : Feature}
    (hfeature : profile.features c.action = some feature) :
    feature.requestType = c.requestType
      ∧ role.required.lookup profile.name = some c.handler := by
  have hcovers := List.all_eq_true.mp (roles_covered role hrole) c hc
  unfold covers at hcovers
  rw [hprofile] at hcovers
  dsimp only at hcovers
  rw [hfeature, Bool.and_eq_true] at hcovers
  exact ⟨of_decide_eq_true hcovers.1, eq_of_beq hcovers.2⟩

/-- `encoding/json` decodes into a value of the type it is given. -/
def DecodesTyped (lib : Library) : Prop :=
  ∀ type raw p, lib.decode type raw = .ok p → p.goType = type

theorem parseRawJson_goType {lib : Library} (hdecode : DecodesTyped lib) {raw : Json}
    {type : GoType} {p : Payload} (h : Endpoint.parseRawJson lib raw type = .ok p) :
    p.goType = type := by
  unfold Endpoint.parseRawJson at h
  split at h
  · exact hdecode type _ p h
  · exact hdecode type _ p h

section

variable {role : Role} {lib : Library} {call : Call} {network : Nat → Option String}

theorem notSupportedError_replied (h : CanReport (role.sender lib network) call.uniqueId) :
    Replied (role.sender lib network) call.uniqueId
      (role.notSupportedError lib network call.uniqueId call.action) :=
  h.sendError (show isErrorCodeValid NotSupported = true by decide) _

/-- **A call whose required handler is registered does not panic.** -/
theorem callHandler_replied (hrole : role ∈ Role.all) (hdecode : DecodesTyped lib)
    (hreport : CanReport (role.sender lib network) call.uniqueId) {profile : Profile}
    {feature : Feature} {raw : Json}
    (hprofile : role.endpoint.getProfileForFeature call.action = some profile)
    (hfeature : profile.features call.action = some feature)
    (hraw : Endpoint.parseRawJson lib raw feature.requestType = .ok call.payload)
    {handlers : Handler → Option HandlerFunc}
    (hrequired : ∀ handler, role.required.lookup profile.name = some handler →
      (handlers handler).isNone = false) (peer : String) :
    ∃ attempts, role.callHandler lib network handlers peer call.payload call.uniqueId
        call.action = some attempts
      ∧ Replied (role.sender lib network) call.uniqueId attempts := by
  unfold Role.callHandler
  split
  · exact ⟨_, rfl, notSupportedError_replied hreport⟩
  · rename_i c hc
    have hfound := List.find?_some hc
    have haction : c.action = call.action := of_decide_eq_true hfound
    rw [← haction] at hprofile hfeature
    obtain ⟨htype, hlookup⟩ := covered_case hrole (List.mem_of_find?_eq_some hc) hprofile hfeature
    -- the tables agree: the type assertion holds and the handler is there
    have hgo : call.payload.goType = c.requestType :=
      (parseRawJson_goType hdecode hraw).trans htype
    rw [if_neg (not_not.mpr hgo)]
    cases hhandler : handlers c.handler with
    | none => exact absurd (hrequired c.handler hlookup) (by simp [hhandler])
    | some handler => exact ⟨_, rfl, sendResponse_replied hreport peer _ _⟩

theorem handleIncomingRequest_replied (hrole : role ∈ Role.all) (hdecode : DecodesTyped lib)
    (hcall : Endpoint.CallOk role.endpoint lib call)
    (hreport : CanReport (role.sender lib network) call.uniqueId)
    (handlers : Handler → Option HandlerFunc) (peer : String) :
    ∃ attempts, role.handleIncomingRequest lib network handlers peer call.payload call.uniqueId
        call.action = some attempts
      ∧ Replied (role.sender lib network) call.uniqueId attempts := by
  obtain ⟨profile, feature, raw, hprofile, hfeature, hraw⟩ := hcall.decoded
  have hnext := fun (hrequired : ∀ handler, role.required.lookup profile.name = some handler →
      (handlers handler).isNone = false) =>
    callHandler_replied hrole hdecode hreport hprofile hfeature hraw hrequired peer
  unfold Role.handleIncomingRequest
  rw [hprofile]
  dsimp only
  split
  · rename_i hnone
    exact hnext (fun handler h => absurd (hnone.symm.trans h) (by simp))
  · rename_i handler hsome
    split
    · exact ⟨_, rfl, notSupportedError_replied hreport⟩
    · rename_i hset
      refine hnext (fun handler' h => ?_)
      cases hsome.symm.trans h
      exact Bool.eq_false_iff.mpr hset

end

/-! ## What was written -/

/-- The attempts that succeeded. -/
def successes (attempts : List Attempt) : List Attempt :=
  attempts.filter (fun a => a.err.isNone)

section

variable {s : Sender} {requestId : String} {attempts : List Attempt}

theorem Replied.attempt (h : Replied s requestId attempts) :
    ∀ a ∈ attempts, ReplyAttempt s requestId a := by
  intro c hc
  cases h with
  | once ha =>
      rw [List.mem_singleton.mp hc]
      exact ha
  | again ha _ hb =>
      rcases List.mem_pair.mp hc with rfl | rfl
      · exact ha
      · exact hb

theorem Replied.length_le (h : Replied s requestId attempts) : attempts.length ≤ 2 := by
  cases h <;> simp

/-- The first of two attempts failed. -/
theorem Replied.successes_le (h : Replied s requestId attempts) :
    (successes attempts).length ≤ 1 := by
  cases h with
  | once _ => exact List.length_filter_le _ _
  | @again a b _ hfailed _ =>
      have hnone : ¬ a.err.isNone = true := by
        rw [Option.isNone_iff_eq_none]
        exact hfailed
      rw [successes, List.filter_cons_of_neg (p := fun a : Attempt => a.err.isNone) hnone]
      exact List.length_filter_le _ _

/-- When no write fails there is no second attempt. -/
theorem Replied.reliable (h : Replied s requestId attempts) (hall : ∀ n, s.network n = none) :
    ∃ a, attempts = [a] ∧ a.err = none := by
  have herr : ∀ a, ReplyAttempt s requestId a → a.err = none := by
    intro a ha
    obtain ⟨n, hn⟩ := ha.outcome
    exact hn.trans (hall n)
  cases h with
  | once ha => exact ⟨_, rfl, herr _ ha⟩
  | again ha hfailed _ => exact absurd (herr _ ha) hfailed

end

/--
**Every accepted call is answered once.** Whatever handlers are registered and whatever
they return: every frame a role tries to write is a result or a valid error under the id
of the call, at most two are tried, and at most one of them is written. When no write
fails, exactly one is tried.
-/
theorem every_call_answered_once {role : Role} (hrole : role ∈ Role.all) {lib : Library}
    {e : Encoding} {escapeHTML : Bool} (hjson : lib.marshal = e.marshalJSON escapeHTML)
    (hdecode : DecodesTyped lib) {arr : List Json} {st : ClientState Payload} {call : Call}
    (hcall : role.endpoint.parseMessage lib arr st = .parsed (.call call))
    (handlers : Handler → Option HandlerFunc) (network : Nat → Option String) (peer : String) :
    ∃ attempts, role.handleIncomingRequest lib network handlers peer call.payload call.uniqueId
        call.action = some attempts
      ∧ (∀ a ∈ attempts, RepliesTo lib call.uniqueId a.frame
          ∧ lib.marshal a.frame = .ok a.jsonMessage)
      ∧ attempts.length ≤ 2 ∧ (successes attempts).length ≤ 1
      ∧ ((∀ n, network n = none) → ∃ a, attempts = [a] ∧ a.err = none) := by
  have hok := Endpoint.parseMessage_call hcall
  have hid : Short call.uniqueId := by
    have hvalid := hok.valid
    simp only [Call.validate, List.append_eq_nil_iff] at hvalid
    exact lib.tags.short_iff.mp hvalid.1.1.2
  have hreport : CanReport (role.sender lib network) call.uniqueId :=
    ⟨rfl, fun c => ⟨_, congrFun hjson (.callError c)⟩, hid⟩
  obtain ⟨attempts, hattempts, hreplied⟩ :=
    handleIncomingRequest_replied hrole hdecode hok hreport handlers peer
  refine ⟨attempts, hattempts, fun a ha => ?_, hreplied.length_le, hreplied.successes_le,
    hreplied.reliable⟩
  obtain ⟨hreply, hmarshalled, _⟩ := hreplied.attempt a ha
  exact ⟨hreply, hmarshalled⟩

/-- A handler that refuses with a code nobody knows. -/
def refusing : HandlerFunc := fun _ _ => (none, some (.ocpp (newError "Busy" "try later" "")))

/-- A heartbeat reaches a central system whose handler answers with an unknown code. -/
theorem unknown_code_answered :
    ∃ a, Role.centralSystem.handleIncomingRequest heartbeatJson (fun _ => none)
        (fun _ => some refusing) "cp" heartbeatRequest "7" "Heartbeat" = some [a]
      ∧ a.err = none ∧ RepliesTo heartbeatJson "7" a.frame := by
  have hdecode : DecodesTyped heartbeatJson := by
    intro type raw p h
    cases raw with
    | obj fields =>
        cases h
        rfl
    | _ => cases h
  have hrole : Role.centralSystem ∈ Role.all := by simp [Role.all]
  have hcall : Role.centralSystem.endpoint.parseMessage heartbeatJson
      [.num (.ofInt 2), .str "7", .str "Heartbeat", .obj []] .new
      = .parsed (.call ⟨CALL, "7", "Heartbeat", heartbeatRequest⟩) := by rfl
  obtain ⟨attempts, hattempts, hreplies, _, _, hall⟩ := every_call_answered_once hrole
    (e := digitEncoding) rfl hdecode hcall (fun _ => some refusing) (fun _ => none) "cp"
  obtain ⟨a, rfl, ha⟩ := hall (fun _ => rfl)
  exact ⟨a, hattempts, ha, (hreplies a List.mem_cons_self).1⟩

end OcppGo.Proof
