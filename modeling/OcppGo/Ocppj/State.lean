import Mathlib.Logic.Function.Basic

/-!
# Pending request state

`clientState` and `serverState` of `ocppj/state.go`. A client has a single
pending slot, and the empty string is what marks it free: adding a request with
an empty id, or while the slot is taken, is silently ignored.

Deleting only resets the id. The request stays behind in the slot, so
`getPendingRequest` with the empty id would still return it; callers never ask,
because `ParseMessage` rejects empty ids first.
-/

namespace OcppGo.Ocppj

/-- `clientState`: the slot's id, `""` when free, and the request last stored. -/
structure ClientState (ρ : Type) where
  requestID : String
  pendingRequest : Option ρ
deriving Repr, DecidableEq

namespace ClientState

variable {ρ : Type}

/-- `NewClientState`. -/
def new : ClientState ρ := { requestID := "", pendingRequest := none }

def addPendingRequest (s : ClientState ρ) (requestID : String) (req : ρ) : ClientState ρ :=
  if requestID ≠ "" ∧ s.requestID = "" then
    { requestID := requestID, pendingRequest := some req }
  else s

/-- `none` is the false flag; the inner option is the stored interface value. -/
def getPendingRequest (s : ClientState ρ) (requestID : String) : Option (Option ρ) :=
  if s.requestID ≠ requestID then none else some s.pendingRequest

def deletePendingRequest (s : ClientState ρ) (requestID : String) : ClientState ρ :=
  if s.requestID ≠ requestID then s else { s with requestID := "" }

def clearPendingRequests (s : ClientState ρ) : ClientState ρ := { s with requestID := "" }

def hasPendingRequest (s : ClientState ρ) : Bool := s.requestID != ""

@[simp] theorem new_requestID : (new : ClientState ρ).requestID = "" := rfl

theorem hasPendingRequest_iff {s : ClientState ρ} :
    s.hasPendingRequest = true ↔ s.requestID ≠ "" := by
  simp [hasPendingRequest]

theorem addPendingRequest_of_pending {s : ClientState ρ} (h : s.requestID ≠ "")
    (id : String) (req : ρ) : s.addPendingRequest id req = s := by
  unfold addPendingRequest
  rw [if_neg (fun hc => h hc.2)]

theorem addPendingRequest_of_free {s : ClientState ρ} {id : String} (h : s.requestID = "")
    (hid : id ≠ "") (req : ρ) :
    s.addPendingRequest id req = { requestID := id, pendingRequest := some req } := by
  unfold addPendingRequest
  rw [if_pos ⟨hid, h⟩]

/-- A free slot takes a usable id, and nothing else changes one. -/
theorem addPendingRequest_requestID (s : ClientState ρ) (id : String) (req : ρ) :
    (s.addPendingRequest id req).requestID
      = if id ≠ "" ∧ s.requestID = "" then id else s.requestID := by
  unfold addPendingRequest
  split <;> rfl

/-- Adding a request with a usable id always leaves the slot taken. -/
theorem addPendingRequest_ne {s : ClientState ρ} {id : String} (hid : id ≠ "") (req : ρ) :
    (s.addPendingRequest id req).requestID ≠ "" := by
  by_cases h : s.requestID = ""
  · rw [addPendingRequest_of_free h hid]; exact hid
  · rw [addPendingRequest_of_pending h]; exact h

theorem deletePendingRequest_self {s : ClientState ρ} {id : String} (h : s.requestID = id) :
    (s.deletePendingRequest id).requestID = "" := by
  unfold deletePendingRequest
  rw [if_neg (fun hc => hc h)]

theorem deletePendingRequest_ne {s : ClientState ρ} {id : String} (h : s.requestID ≠ id) :
    s.deletePendingRequest id = s := by
  unfold deletePendingRequest
  rw [if_pos h]

/-- A slot survives a delete only by not being the one deleted. -/
theorem deletePendingRequest_requestID (s : ClientState ρ) (id : String) :
    (s.deletePendingRequest id).requestID = if s.requestID = id then "" else s.requestID := by
  by_cases h : s.requestID = id
  · rw [deletePendingRequest_self h, if_pos h]
  · rw [deletePendingRequest_ne h, if_neg h]

theorem getPendingRequest_eq_some {s : ClientState ρ} {id : String} {r : Option ρ}
    (h : s.getPendingRequest id = some r) : s.requestID = id ∧ s.pendingRequest = r := by
  unfold getPendingRequest at h
  split at h
  · exact absurd h (by simp)
  · rename_i hid
    exact ⟨not_not.mp hid, Option.some.inj h⟩

end ClientState

/-- `serverState`: one slot for each client that ever needed one. -/
structure ServerState (ρ : Type) where
  pendingRequestState : String → Option (ClientState ρ)

namespace ServerState

variable {ρ : Type}

/-- `NewServerState`. -/
def new : ServerState ρ := { pendingRequestState := fun _ => none }

/-- The slot `getOrCreateState` returns. -/
def clientState (d : ServerState ρ) (clientID : String) : ClientState ρ :=
  (d.pendingRequestState clientID).getD .new

def set (d : ServerState ρ) (clientID : String) (state : ClientState ρ) : ServerState ρ :=
  { pendingRequestState := Function.update d.pendingRequestState clientID (some state) }

def addPendingRequest (d : ServerState ρ) (clientID requestID : String) (req : ρ) :
    ServerState ρ :=
  d.set clientID ((d.clientState clientID).addPendingRequest requestID req)

def deletePendingRequest (d : ServerState ρ) (clientID requestID : String) : ServerState ρ :=
  match d.pendingRequestState clientID with
  | none => d
  | some state => d.set clientID (state.deletePendingRequest requestID)

/-- Returns the client's slot, creating it in the map when absent. -/
def getClientState (d : ServerState ρ) (clientID : String) : ServerState ρ × ClientState ρ :=
  (d.set clientID (d.clientState clientID), d.clientState clientID)

def hasPendingRequest (d : ServerState ρ) (clientID : String) : Bool :=
  match d.pendingRequestState clientID with
  | none => false
  | some state => state.hasPendingRequest

def clearClientPendingRequest (d : ServerState ρ) (clientID : String) : ServerState ρ :=
  { pendingRequestState := Function.update d.pendingRequestState clientID none }

def clearAllPendingRequests (_ : ServerState ρ) : ServerState ρ := .new

@[simp] theorem clientState_new (c : String) : (new : ServerState ρ).clientState c = .new := rfl

@[simp] theorem clientState_set_self (d : ServerState ρ) (c : String) (st : ClientState ρ) :
    (d.set c st).clientState c = st := by
  simp [clientState, set]

@[simp] theorem clientState_set_ne (d : ServerState ρ) {c c' : String} (st : ClientState ρ)
    (h : c' ≠ c) : (d.set c st).clientState c' = d.clientState c' := by
  simp [clientState, set, h]

theorem hasPendingRequest_eq (d : ServerState ρ) (c : String) :
    d.hasPendingRequest c = (d.clientState c).hasPendingRequest := by
  unfold hasPendingRequest clientState
  cases d.pendingRequestState c <;> rfl

theorem clientState_add (d : ServerState ρ) (c c' id : String) (req : ρ) :
    (d.addPendingRequest c id req).clientState c'
      = if c' = c then (d.clientState c).addPendingRequest id req else d.clientState c' := by
  unfold addPendingRequest
  by_cases h : c' = c
  · subst h; simp
  · simp [h]

theorem clientState_delete (d : ServerState ρ) (c c' id : String) :
    ((d.deletePendingRequest c id).clientState c').requestID
      = if c' = c then ((d.clientState c).deletePendingRequest id).requestID
        else (d.clientState c').requestID := by
  unfold deletePendingRequest
  cases hd : d.pendingRequestState c with
  | none =>
      by_cases h : c' = c
      · subst h
        simp [clientState, hd, ClientState.deletePendingRequest_requestID]
      · simp [h]
  | some st =>
      by_cases h : c' = c
      · subst h; simp [clientState, hd, set]
      · simp [h]

theorem clientState_delete_ne (d : ServerState ρ) {c c' : String} (id : String) (h : c' ≠ c) :
    (d.deletePendingRequest c id).clientState c' = d.clientState c' := by
  unfold deletePendingRequest
  split
  · rfl
  · exact clientState_set_ne d _ h

theorem clientState_clear (d : ServerState ρ) (c c' : String) :
    (d.clearClientPendingRequest c).clientState c'
      = if c' = c then .new else d.clientState c' := by
  unfold clearClientPendingRequest clientState
  by_cases h : c' = c
  · subst h; simp
  · simp [h]

/-- Reading a client's slot changes no slot's contents. -/
theorem clientState_getClientState (d : ServerState ρ) (c c' : String) :
    (d.getClientState c).1.clientState c' = d.clientState c' := by
  unfold getClientState
  by_cases h : c' = c
  · subst h; simp
  · simp [h]

end ServerState

end OcppGo.Ocppj
