import OcppGo.Lib.Object
import OcppGo.Ocppj.State

/-!
# The pending state as its users see it

`serverState` of `ocppj/state.go` behind its methods. `HasPendingRequests` ranges
over the map, so the map's keys are kept with it here: a client gets one with its
first `AddPendingRequest` or `GetClientState`, and loses it when it is cleared.
-/

namespace OcppGo.Ocppj

open Lib

/-- `serverState` with the keys of its map, in the order a `range` visits them. -/
structure ServerStateMap (ρ : Type) where
  state : ServerState ρ
  keys : List String
  mem_keys : ∀ c, c ∈ keys ↔ (state.pendingRequestState c).isSome = true

namespace ServerStateMap

variable {ρ : Type}

/-- `NewServerState`. -/
def new : ServerStateMap ρ where
  state := .new
  keys := []
  mem_keys := by simp [ServerState.new]

/-- Store a client's state under its key. -/
def set (m : ServerStateMap ρ) (clientID : String) (st : ClientState ρ) : ServerStateMap ρ where
  state := m.state.set clientID st
  keys := if clientID ∈ m.keys then m.keys else m.keys ++ [clientID]
  mem_keys := by
    intro c
    by_cases hc : c = clientID
    · subst hc
      split <;> simp_all [ServerState.set]
    · have hkeep := m.mem_keys c
      split <;> simp_all [ServerState.set]

def addPendingRequest (m : ServerStateMap ρ) (clientID requestID : String) (req : ρ) :
    ServerStateMap ρ :=
  m.set clientID ((m.state.clientState clientID).addPendingRequest requestID req)

def deletePendingRequest (m : ServerStateMap ρ) (clientID requestID : String) :
    ServerStateMap ρ :=
  match m.state.pendingRequestState clientID with
  | none => m
  | some st => m.set clientID (st.deletePendingRequest requestID)

/-- The client's state, created when absent. -/
def getClientState (m : ServerStateMap ρ) (clientID : String) :
    ServerStateMap ρ × ClientState ρ :=
  (m.set clientID (m.state.clientState clientID), m.state.clientState clientID)

def hasPendingRequests (m : ServerStateMap ρ) : Bool :=
  m.keys.any fun c => (m.state.pendingRequestState c).any ClientState.hasPendingRequest

def clearClientPendingRequest (m : ServerStateMap ρ) (clientID : String) : ServerStateMap ρ where
  state := m.state.clearClientPendingRequest clientID
  keys := m.keys.filter (· ≠ clientID)
  mem_keys := by
    intro c
    by_cases hc : c = clientID
    · subst hc
      simp [ServerState.clearClientPendingRequest]
    · simp [ServerState.clearClientPendingRequest, hc, m.mem_keys c]

def clearAllPendingRequests (_ : ServerStateMap ρ) : ServerStateMap ρ := .new

/-- A call on the state; `getPendingRequest` goes through `GetClientState`. -/
inductive Operation (ρ : Type) where
  | addPendingRequest (clientID requestID : String) (req : ρ)
  | deletePendingRequest (clientID requestID : String)
  | getPendingRequest (clientID requestID : String)
  | hasPendingRequest (clientID : String)
  | hasPendingRequests
  | clearClientPendingRequest (clientID : String)
  | clearAllPendingRequests

inductive Answer (ρ : Type) where
  | done
  /-- `none` is the false flag; the inner option is the interface value. -/
  | request (r : Option (Option ρ))
  | flag (b : Bool)
deriving Repr, DecidableEq

def call (m : ServerStateMap ρ) : Operation ρ → Option (Answer ρ × ServerStateMap ρ)
  | .addPendingRequest c id req => some (.done, m.addPendingRequest c id req)
  | .deletePendingRequest c id => some (.done, m.deletePendingRequest c id)
  | .getPendingRequest c id =>
      some (.request ((m.getClientState c).2.getPendingRequest id), (m.getClientState c).1)
  | .hasPendingRequest c => some (.flag (m.state.hasPendingRequest c), m)
  | .hasPendingRequests => some (.flag m.hasPendingRequests, m)
  | .clearClientPendingRequest c => some (.done, m.clearClientPendingRequest c)
  | .clearAllPendingRequests => some (.done, m.clearAllPendingRequests)

/-- A pending state, from `NewServerState` on. -/
def object : Object (ServerStateMap ρ) (Operation ρ) (Answer ρ) where
  new := new
  call := call

/-! ## The client states after a call -/

variable (m : ServerStateMap ρ) (c id : String)

@[simp] theorem state_add (req : ρ) :
    (m.addPendingRequest c id req).state = m.state.addPendingRequest c id req := rfl

@[simp] theorem state_delete :
    (m.deletePendingRequest c id).state = m.state.deletePendingRequest c id := by
  unfold deletePendingRequest ServerState.deletePendingRequest
  cases m.state.pendingRequestState c <;> rfl

@[simp] theorem state_get : (m.getClientState c).1.state = (m.state.getClientState c).1 := rfl

@[simp] theorem state_clear :
    (m.clearClientPendingRequest c).state = m.state.clearClientPendingRequest c := rfl

/-- Some client has a request pending. -/
theorem hasPendingRequests_iff :
    m.hasPendingRequests = true ↔ ∃ c, m.state.hasPendingRequest c = true := by
  simp only [hasPendingRequests, List.any_eq_true]
  constructor
  · rintro ⟨c, -, hc⟩
    refine ⟨c, ?_⟩
    unfold ServerState.hasPendingRequest
    cases hst : m.state.pendingRequestState c with
    | none => simp [hst] at hc
    | some st => simpa [hst] using hc
  · rintro ⟨c, hc⟩
    unfold ServerState.hasPendingRequest at hc
    cases hst : m.state.pendingRequestState c with
    | none => simp [hst] at hc
    | some st => exact ⟨c, (m.mem_keys c).mpr (by simp [hst]), by simpa [hst] using hc⟩

end ServerStateMap

end OcppGo.Ocppj
