import OcppGo.Proof.IncomingCalls
import OcppGo.SendChecks

/-!
# Requests the peer has a handler for

`SendRequestAsync` of each role lets through the features of a list, and
`handleIncomingRequest` of the role at the other end has a case for each feature of
another. The lists are written down in four files, apart from each other and from the
profiles.

They agree. What one role may send, the other passes to a handler, the one whose
absence it would have reported; what the one may not send, the other does not support.
The synchronous `SendRequest` asks only for a profile, and lets through what its peer
answers with an error.
-/

namespace OcppGo.Proof

open OcppGo.Ocppj

/-- A role that sends requests, and the one it is connected to. -/
structure Peering where
  sender : Role
  config : (String → Bool) → PeerConfig
  receiver : Role

namespace Peering

/-- What the sender checks, with the profiles it was made with. -/
def cfg (p : Peering) : PeerConfig :=
  p.config fun featureName => (p.sender.endpoint.getProfileForFeature featureName).isSome

/-- Who talks to whom. -/
def all : List Peering :=
  [⟨.chargePoint, chargePointConfig, .centralSystem⟩,
    ⟨.centralSystem, centralSystemConfig, .chargePoint⟩,
    ⟨.chargingStation, chargingStationConfig, .csms⟩,
    ⟨.csms, csmsConfig, .chargingStation⟩]

/-- What may be sent is supported by the sender and has a case, and every case may be sent. -/
def tablesAgree (p : Peering) : Bool :=
  p.cfg.asyncFeatures.all (fun featureName =>
      p.cfg.supported featureName
        && (p.receiver.cases.find? fun c => c.action = featureName).isSome)
    && p.receiver.cases.all fun c => p.cfg.asyncFeatures.contains c.action

end Peering

theorem tables_agree : ∀ p ∈ Peering.all, p.tablesAgree = true := by
  decide +kernel

theorem receiver_mem_all : ∀ p ∈ Peering.all, p.receiver ∈ Role.all := by
  intro p hp
  simp only [Peering.all, List.mem_cons, List.not_mem_nil, or_false] at hp
  rcases hp with rfl | rfl | rfl | rfl <;> simp [Role.all]

section

variable {p : Peering} {featureName : String}

/-- The checks of `SendRequestAsync` pass exactly for the features of the receiver's cases. -/
theorem sendable_iff (hp : p ∈ Peering.all) :
    sendRequestAsyncError p.cfg featureName = none
      ↔ (p.receiver.cases.find? fun c => c.action = featureName).isSome = true := by
  have hagree := tables_agree p hp
  unfold Peering.tablesAgree at hagree
  rw [Bool.and_eq_true, List.all_eq_true, List.all_eq_true] at hagree
  obtain ⟨hsent, hcases⟩ := hagree
  unfold sendRequestAsyncError sendRequestError
  constructor
  · intro hnone
    have hmem : featureName ∈ p.cfg.asyncFeatures := by
      by_contra hnot
      split at hnone
      · exact absurd hnone (by simp)
      · exact absurd hnone (by simp [hnot])
    exact (Bool.and_eq_true_iff.mp (hsent featureName hmem)).2
  · intro hsome
    obtain ⟨c, hc⟩ := Option.isSome_iff_exists.mp hsome
    have hfound := List.find?_some hc
    have haction : c.action = featureName := of_decide_eq_true hfound
    have hmem : featureName ∈ p.cfg.asyncFeatures := by
      rw [← haction]
      exact List.contains_iff_mem.mp (hcases c (List.mem_of_find?_eq_some hc))
    have hsupported := (Bool.and_eq_true_iff.mp (hsent featureName hmem)).1
    simp [hsupported, hmem]

end

section

variable {role : Role} {lib : Library} {call : Call} {handlers : Handler → Option HandlerFunc}
  {network : Nat → Option String} {peer : String}

/-- The reply of a role that has a handler for the action, or none. -/
def replyOfHandler (role : Role) (lib : Library) (network : Nat → Option String) (peer : String)
    (call : Call) : Option HandlerFunc → List Attempt
  | none => role.notSupportedError lib network call.uniqueId call.action
  | some handler =>
      role.sendResponse lib network peer (handler call.action call.payload).1
        (handler call.action call.payload).2 call.uniqueId

/-- A case is carried out by its handler, and the missing handler is noticed before. -/
theorem handleIncomingRequest_case (hrole : role ∈ Role.all) (hdecode : DecodesTyped lib)
    (hcall : Endpoint.CallOk role.endpoint lib call) {c : ActionCase}
    (hc : (role.cases.find? fun c => c.action = call.action) = some c) :
    role.handleIncomingRequest lib network handlers peer call.payload call.uniqueId call.action
      = some (replyOfHandler role lib network peer call (handlers c.handler)) := by
  obtain ⟨profile, feature, raw, hprofile, hfeature, hraw⟩ := hcall.decoded
  have hfound := List.find?_some hc
  have haction : c.action = call.action := of_decide_eq_true hfound
  obtain ⟨htype, hlookup⟩ :=
    covered_case hrole (List.mem_of_find?_eq_some hc) (haction ▸ hprofile) (haction ▸ hfeature)
  have hgo : call.payload.goType = c.requestType :=
    (parseRawJson_goType hdecode hraw).trans htype
  unfold Role.handleIncomingRequest Role.callHandler replyOfHandler
  simp only [hprofile, hlookup, hc, if_neg (not_not.mpr hgo)]
  cases handlers c.handler with
  | none => rfl
  | some handler => rfl

/-- Without a case the action is not supported, whether or not the handler is there. -/
theorem handleIncomingRequest_no_case (hcall : Endpoint.CallOk role.endpoint lib call)
    (hc : (role.cases.find? fun c => c.action = call.action) = none) :
    role.handleIncomingRequest lib network handlers peer call.payload call.uniqueId call.action
      = some (role.notSupportedError lib network call.uniqueId call.action) := by
  obtain ⟨profile, feature, raw, hprofile, hfeature, hraw⟩ := hcall.decoded
  unfold Role.handleIncomingRequest Role.callHandler
  simp only [hprofile, hc]
  split
  · rfl
  · split
    · rfl
    · rfl

end

/--
**A request that `SendRequestAsync` lets through is handled by the peer.** There is one
handler its reply depends on; any other request the peer's endpoint knows is answered as
not supported, whatever handlers there are.
-/
theorem sent_requests_have_handlers {p : Peering} (hp : p ∈ Peering.all) {lib : Library}
    (hdecode : DecodesTyped lib) {arr : List Json} {st : ClientState Payload} {call : Call}
    (hcall : p.receiver.endpoint.parseMessage lib arr st = .parsed (.call call)) :
    (sendRequestAsyncError p.cfg call.action = none →
      ∃ h : Handler, ∀ handlers network peer,
        p.receiver.handleIncomingRequest lib network handlers peer call.payload call.uniqueId
            call.action
          = some (replyOfHandler p.receiver lib network peer call (handlers h)))
    ∧ (sendRequestAsyncError p.cfg call.action ≠ none →
      ∀ handlers network peer,
        p.receiver.handleIncomingRequest lib network handlers peer call.payload call.uniqueId
            call.action
          = some (p.receiver.notSupportedError lib network call.uniqueId call.action)) := by
  have hok := Endpoint.parseMessage_call hcall
  constructor
  · intro hnone
    obtain ⟨c, hc⟩ := Option.isSome_iff_exists.mp ((sendable_iff hp).mp hnone)
    refine ⟨c.handler, ?_⟩
    intro handlers network peer
    exact handleIncomingRequest_case (receiver_mem_all p hp) hdecode hok hc
  · intro hrefused handlers network peer
    have hc : (p.receiver.cases.find? fun c => c.action = call.action) = none := by
      rw [← Option.not_isSome_iff_eq_none]
      exact fun hsome => hrefused ((sendable_iff hp).mpr hsome)
    exact handleIncomingRequest_no_case hok hc

/-- A charge point's heartbeat has a handler; a central system may not send one. -/
theorem heartbeat_has_handler :
    sendRequestAsyncError (Peering.cfg ⟨.chargePoint, chargePointConfig, .centralSystem⟩)
        "Heartbeat" = none
      ∧ (∃ h : Handler, ∀ handlers network peer,
        Role.centralSystem.handleIncomingRequest heartbeatJson network handlers peer
            heartbeatRequest "7" "Heartbeat"
          = some (replyOfHandler .centralSystem heartbeatJson network peer
              ⟨CALL, "7", "Heartbeat", heartbeatRequest⟩ (handlers h)))
      ∧ ∀ handlers network peer,
        Role.chargePoint.handleIncomingRequest heartbeatJson network handlers peer
            heartbeatRequest "7" "Heartbeat"
          = some (Role.chargePoint.notSupportedError heartbeatJson network "7" "Heartbeat") := by
  have hdecode : DecodesTyped heartbeatJson := by
    intro type raw p h
    cases raw with
    | obj fields =>
        cases h
        rfl
    | _ => cases h
  have hsend : sendRequestAsyncError
      (Peering.cfg ⟨.chargePoint, chargePointConfig, .centralSystem⟩) "Heartbeat" = none := by
    decide
  have hcall : Role.centralSystem.endpoint.parseMessage heartbeatJson
      [.num (.ofInt 2), .str "7", .str "Heartbeat", .obj []] .new
      = .parsed (.call ⟨CALL, "7", "Heartbeat", heartbeatRequest⟩) := by rfl
  have hback : Role.chargePoint.endpoint.parseMessage heartbeatJson
      [.num (.ofInt 2), .str "7", .str "Heartbeat", .obj []] .new
      = .parsed (.call ⟨CALL, "7", "Heartbeat", heartbeatRequest⟩) := by rfl
  refine ⟨hsend, ?_, ?_⟩
  · exact (sent_requests_have_handlers
      (p := ⟨.chargePoint, chargePointConfig, .centralSystem⟩) (by simp [Peering.all]) hdecode
      hcall).1 hsend
  · exact (sent_requests_have_handlers
      (p := ⟨.centralSystem, centralSystemConfig, .chargePoint⟩) (by simp [Peering.all]) hdecode
      hback).2 (by decide)

end OcppGo.Proof
