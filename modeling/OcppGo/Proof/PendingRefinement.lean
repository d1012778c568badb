import OcppGo.Ocppj.StateCalls

/-!
# The pending state is a map of pairs

What the pending state is for: a client has at most one pending request, under an
id that is not empty. The code marks a free slot by the empty id and leaves the
last request in it, so asking a free slot for the empty id finds the request that
was deleted. That question apart, every answer is the map's.
-/

namespace OcppGo.Proof

open OcppGo.Lib OcppGo.Ocppj

variable {ρ : Type}

/-- A pending request. -/
structure PendingPair (ρ : Type) where
  requestID : String
  request : ρ
  nonempty : requestID ≠ ""

/-- What a client's pair answers to an id. -/
def answerOf (o : Option (PendingPair ρ)) (id : String) : Option (Option ρ) :=
  match o with
  | some p => if p.requestID = id then some (some p.request) else none
  | none => none

/-- A client's pair after a delete. -/
def deletedFrom (o : Option (PendingPair ρ)) (id : String) : Option (PendingPair ρ) :=
  match o with
  | some p => if p.requestID = id then none else some p
  | none => none

open Classical in
/-- What the pending state is kept for: for every client a pending request, or none. -/
noncomputable def pendingMap :
    Object (String → Option (PendingPair ρ)) (ServerStateMap.Operation ρ)
      (ServerStateMap.Answer ρ) where
  new := fun _ => none
  call ref
    | .addPendingRequest c id req =>
        some (.done,
          match ref c with
          | some _ => ref
          | none => if h : id ≠ "" then Function.update ref c (some ⟨id, req, h⟩) else ref)
    | .deletePendingRequest c id =>
        some (.done, Function.update ref c (deletedFrom (ref c) id))
    | .getPendingRequest c id =>
        some (.request (answerOf (ref c) id), ref)
    | .hasPendingRequest c => some (.flag (ref c).isSome, ref)
    | .hasPendingRequests => some (.flag (decide (∃ c, (ref c).isSome = true)), ref)
    | .clearClientPendingRequest c => some (.done, Function.update ref c none)
    | .clearAllPendingRequests => some (.done, fun _ => none)

/-- A client's slot holds this pair, or is free. -/
inductive SlotHolds (st : ClientState ρ) : Option (PendingPair ρ) → Prop where
  | free : st.requestID = "" → SlotHolds st none
  | pending (p : PendingPair ρ) :
      st.requestID = p.requestID → st.pendingRequest = some p.request → SlotHolds st (some p)

/-- Every slot holds what the map says. -/
def SlotsHold (m : ServerStateMap ρ) (ref : String → Option (PendingPair ρ)) : Prop :=
  ∀ c, SlotHolds (m.state.clientState c) (ref c)

/-- A free slot is not asked for the empty id. -/
def namesRequest (m : ServerStateMap ρ) : ServerStateMap.Operation ρ → Bool
  | .getPendingRequest c id => id != "" || m.state.hasPendingRequest c
  | _ => true

/-! ## One slot -/

section

variable {st : ClientState ρ} {o : Option (PendingPair ρ)} {id : String}

theorem slotHolds_new : SlotHolds (.new : ClientState ρ) none := .free rfl

theorem SlotHolds.has (h : SlotHolds st o) : st.hasPendingRequest = o.isSome := by
  cases h with
  | free hid => simp [ClientState.hasPendingRequest, hid]
  | pending p hid _ => simp [ClientState.hasPendingRequest, hid, p.nonempty]

theorem SlotHolds.add_free (h : SlotHolds st none) (hid : id ≠ "") (req : ρ) :
    SlotHolds (st.addPendingRequest id req) (some ⟨id, req, hid⟩) := by
  cases h with
  | free hfree =>
      rw [ClientState.addPendingRequest_of_free hfree hid]
      exact .pending ⟨id, req, hid⟩ rfl rfl

theorem SlotHolds.add_empty (h : SlotHolds st o) (req : ρ) :
    SlotHolds (st.addPendingRequest "" req) o := by
  rw [ClientState.addPendingRequest, if_neg (fun hc => hc.1 rfl)]
  exact h

theorem SlotHolds.add_pending {p : PendingPair ρ} (h : SlotHolds st (some p)) (req : ρ) :
    SlotHolds (st.addPendingRequest id req) (some p) := by
  cases h with
  | pending _ hid hreq =>
      rw [ClientState.addPendingRequest_of_pending (by rw [hid]; exact p.nonempty)]
      exact .pending p hid hreq

/-- A delete frees the slot of that id, and no other; a free slot stays free. -/
theorem SlotHolds.delete (h : SlotHolds st o) (id : String) :
    SlotHolds (st.deletePendingRequest id) (deletedFrom o id) := by
  cases h with
  | free hid =>
      refine .free ?_
      rw [ClientState.deletePendingRequest_requestID, hid]
      split <;> rfl
  | pending p hid hreq =>
      simp only [deletedFrom]
      by_cases hp : p.requestID = id
      · rw [if_pos hp]
        exact .free (ClientState.deletePendingRequest_self (hid.trans hp))
      · rw [if_neg hp, ClientState.deletePendingRequest_ne (by rwa [hid])]
        exact .pending p hid hreq

/-- The answer for an id that is not empty, or from a slot that is taken. -/
theorem SlotHolds.get (h : SlotHolds st o) (hid : id ≠ "" ∨ st.hasPendingRequest = true) :
    st.getPendingRequest id = answerOf o id := by
  cases h with
  | free hfree =>
      have hne : id ≠ "" := hid.resolve_right (by simp [ClientState.hasPendingRequest, hfree])
      simp [ClientState.getPendingRequest, answerOf, hfree, hne.symm]
  | pending p hp hreq =>
      by_cases he : p.requestID = id
      · simp [ClientState.getPendingRequest, answerOf, hp, hreq, he]
      · simp [ClientState.getPendingRequest, answerOf, hp, he]

end

/-! ## All slots -/

section

variable {m : ServerStateMap ρ} {ref : String → Option (PendingPair ρ)} {c id : String}

/-- The slot of one client changes together with its pair. -/
theorem SlotsHold.update {m' : ServerStateMap ρ} {o : Option (PendingPair ρ)} (h : SlotsHold m ref)
    (hother : ∀ c', c' ≠ c → m'.state.clientState c' = m.state.clientState c')
    (hself : SlotHolds (m'.state.clientState c) o) : SlotsHold m' (Function.update ref c o) := by
  intro c'
  by_cases hc : c' = c
  · subst hc
    rw [Function.update_self]
    exact hself
  · rw [Function.update_of_ne hc, hother c' hc]
    exact h c'

/-- The slot of one client changes, and its pair does not. -/
theorem SlotsHold.keep {m' : ServerStateMap ρ} (h : SlotsHold m ref)
    (hother : ∀ c', c' ≠ c → m'.state.clientState c' = m.state.clientState c')
    (hself : SlotHolds (m'.state.clientState c) (ref c)) : SlotsHold m' ref := by
  have hupdated := h.update hother hself
  rwa [Function.update_eq_self] at hupdated

theorem SlotsHold.add (h : SlotsHold m ref) (c id : String) (req : ρ) :
    SlotsHold (m.addPendingRequest c id req)
      (match ref c with
      | some _ => ref
      | none => if h : id ≠ "" then Function.update ref c (some ⟨id, req, h⟩) else ref) := by
  have hother : ∀ c', c' ≠ c →
      (m.addPendingRequest c id req).state.clientState c' = m.state.clientState c' :=
    fun c' hc => by rw [ServerStateMap.state_add, ServerState.clientState_add, if_neg hc]
  have hself : (m.addPendingRequest c id req).state.clientState c
      = (m.state.clientState c).addPendingRequest id req := by
    rw [ServerStateMap.state_add, ServerState.clientState_add, if_pos rfl]
  have hslot := h c
  cases hc : ref c with
  | some p =>
      refine h.keep hother ?_
      rw [hself, hc]
      exact (hc ▸ hslot).add_pending req
  | none =>
      rw [hc] at hslot
      by_cases hid : id = ""
      · subst hid
        simp only [ne_eq, not_true_eq_false, dite_false]
        refine h.keep hother ?_
        rw [hself, hc]
        exact hslot.add_empty req
      · simp only [ne_eq, hid, not_false_eq_true, dite_true]
        refine h.update hother ?_
        rw [hself]
        exact hslot.add_free hid req

/-- The slot a delete leaves, whether the client had one or not. -/
theorem slotHolds_delete {o : Option (PendingPair ρ)}
    (h : SlotHolds ((m.state.clientState c).deletePendingRequest id) o) :
    SlotHolds ((m.deletePendingRequest c id).state.clientState c) o := by
  rw [ServerStateMap.state_delete]
  unfold ServerState.deletePendingRequest
  cases hst : m.state.pendingRequestState c with
  | some st =>
      simp only [ServerState.clientState_set_self]
      simpa [ServerState.clientState, hst] using h
  | none =>
      have hnew : m.state.clientState c = .new := by simp [ServerState.clientState, hst]
      simp only [hnew] at h ⊢
      cases h with
      | free _ => exact .free rfl
      | pending p hid _ =>
          rw [ClientState.deletePendingRequest_requestID] at hid
          exact absurd hid.symm (by simpa using p.nonempty)

theorem SlotsHold.delete (h : SlotsHold m ref) (c id : String) :
    SlotsHold (m.deletePendingRequest c id)
      (Function.update ref c (deletedFrom (ref c) id)) := by
  refine h.update (fun c' hc => ?_) (slotHolds_delete ((h c).delete id))
  rw [ServerStateMap.state_delete, ServerState.clientState_delete_ne _ _ hc]

theorem SlotsHold.get (h : SlotsHold m ref) (c : String) :
    SlotsHold (m.getClientState c).1 ref := by
  intro c'
  rw [ServerStateMap.state_get, ServerState.clientState_getClientState]
  exact h c'

theorem SlotsHold.clear (h : SlotsHold m ref) (c : String) :
    SlotsHold (m.clearClientPendingRequest c) (Function.update ref c none) := by
  refine h.update (fun c' hc => ?_) ?_
  · rw [ServerStateMap.state_clear, ServerState.clientState_clear, if_neg hc]
  · rw [ServerStateMap.state_clear, ServerState.clientState_clear, if_pos rfl]
    exact slotHolds_new

theorem SlotsHold.has (h : SlotsHold m ref) (c : String) :
    m.state.hasPendingRequest c = (ref c).isSome := by
  rw [ServerState.hasPendingRequest_eq]
  exact (h c).has

open Classical in
theorem SlotsHold.hasAny (h : SlotsHold m ref) :
    m.hasPendingRequests = decide (∃ c, (ref c).isSome = true) := by
  rw [Bool.eq_iff_iff, ServerStateMap.hasPendingRequests_iff, decide_eq_true_iff]
  simp only [h.has]

theorem slotsHold_new : SlotsHold (.new : ServerStateMap ρ) fun _ => none :=
  fun _ => slotHolds_new

/-- **The slots simulate the map**, call by call. -/
theorem slotsHold_simulates :
    (ServerStateMap.object : Object _ (ServerStateMap.Operation ρ) _).Simulates pendingMap
      (fun m op => namesRequest m op = true) SlotsHold := by
  intro m ref op h hok
  cases op with
  | addPendingRequest c id req => exact ⟨.done, _, _, rfl, rfl, h.add c id req⟩
  | deletePendingRequest c id => exact ⟨.done, _, _, rfl, rfl, h.delete c id⟩
  | getPendingRequest c id =>
      have hasked : id ≠ "" ∨ (m.state.clientState c).hasPendingRequest = true := by
        rw [← ServerState.hasPendingRequest_eq]
        simpa [namesRequest] using hok
      refine ⟨_, _, _, rfl, ?_, h.get c⟩
      simp only [pendingMap, ServerStateMap.getClientState, (h c).get hasked]
  | hasPendingRequest c =>
      refine ⟨_, _, _, rfl, ?_, h⟩
      simp only [pendingMap, h.has c]
  | hasPendingRequests =>
      refine ⟨_, _, _, rfl, ?_, h⟩
      simp only [pendingMap, h.hasAny]
  | clearClientPendingRequest c => exact ⟨.done, _, _, rfl, rfl, h.clear c⟩
  | clearAllPendingRequests => exact ⟨.done, _, _, rfl, rfl, slotsHold_new⟩

end

/-! ## What was deleted stays deleted -/

/-- The call deletes or clears this request, or finds it absent. -/
def forgets (c id : String) : ServerStateMap.Operation ρ → Bool
  | .deletePendingRequest c' id' => c' == c && id' == id
  | .clearClientPendingRequest c' => c' == c
  | .clearAllPendingRequests => true
  | _ => false

/-- The client has no pair of this id. -/
def Forgotten (c id : String) (ref : String → Option (PendingPair ρ)) : Prop :=
  ∀ p, ref c = some p → p.requestID ≠ id

section

variable {c id : String} {ref ref' : String → Option (PendingPair ρ)}
  {op : ServerStateMap.Operation ρ} {r : ServerStateMap.Answer ρ}

/-- A client's pair goes, or stays what it was. -/
theorem Forgotten.update (h : Forgotten c id ref) {c' : String} {o : Option (PendingPair ρ)}
    (ho : ∀ p, o = some p → ref c' = some p) : Forgotten c id (Function.update ref c' o) := by
  intro p hp
  by_cases hc : c = c'
  · subst hc
    rw [Function.update_self] at hp
    exact h p (ho p hp)
  · rw [Function.update_of_ne hc] at hp
    exact h p hp

theorem deletedFrom_eq_some {o : Option (PendingPair ρ)} {p : PendingPair ρ}
    (h : deletedFrom o id = some p) : o = some p ∧ p.requestID ≠ id := by
  unfold deletedFrom at h
  split at h
  · split at h
    · exact absurd h (by simp)
    · rename_i hne
      cases h
      exact ⟨rfl, hne⟩
  · exact absurd h (by simp)

theorem forgotten_call (hop : forgets c id op = true)
    (hcall : pendingMap.call ref op = some (r, ref')) : Forgotten c id ref' := by
  cases op with
  | deletePendingRequest c' id' =>
      obtain ⟨rfl, rfl⟩ : c' = c ∧ id' = id := by simpa [forgets] using hop
      cases hcall
      intro p hp
      rw [Function.update_self] at hp
      exact (deletedFrom_eq_some hp).2
  | clearClientPendingRequest c' =>
      obtain rfl : c' = c := by simpa [forgets] using hop
      cases hcall
      intro p hp
      simp at hp
  | clearAllPendingRequests =>
      cases hcall
      intro p hp
      cases hp
  | _ => exact absurd hop (by simp [forgets])

/-- Only adding it brings a request back. -/
theorem Forgotten.call (h : Forgotten c id ref)
    (hadd : ∀ req, op ≠ .addPendingRequest c id req)
    (hcall : pendingMap.call ref op = some (r, ref')) : Forgotten c id ref' := by
  cases op with
  | addPendingRequest c' id' req =>
      cases hcall
      split
      · exact h
      · split
        · intro p hp
          by_cases hc : c = c'
          · subst hc
            rw [Function.update_self] at hp
            cases hp
            exact fun he => hadd req (by rw [← he])
          · rw [Function.update_of_ne hc] at hp
            exact h p hp
        · exact h
  | deletePendingRequest c' id' =>
      cases hcall
      exact h.update fun p hp => (deletedFrom_eq_some hp).1
  | clearClientPendingRequest c' =>
      cases hcall
      exact h.update fun p hp => by cases hp
  | clearAllPendingRequests =>
      cases hcall
      intro p hp
      cases hp
  | _ =>
      cases hcall
      exact h

theorem Forgotten.get (h : Forgotten c id ref) :
    pendingMap.call ref (.getPendingRequest c id) = some (.request none, ref) := by
  have hnone : answerOf (ref c) id = none := by
    cases hp : ref c with
    | none => rfl
    | some p => rw [answerOf, if_neg (h p hp)]
  simp only [pendingMap, hnone]

end

/--
**The pending state refines a map of pairs**, as long as no free slot is asked for the
empty id: every sequence of calls gives the map's answers. After a call that deletes or
clears a request, it is not returned again unless it is added again.
-/
theorem pending_state_refines_map (ops : List (ServerStateMap.Operation ρ))
    (hops : ServerStateMap.object.Meets (fun m op => namesRequest m op = true) .new ops) :
    ∃ answers m ref, ServerStateMap.object.run .new ops = some (answers, m) ∧
      pendingMap.run (fun _ => none) ops = some (answers, ref) ∧
      (∀ c, SlotHolds (m.state.clientState c) (ref c)) ∧
      ∀ before op after c id, ops = before ++ op :: after → forgets c id op = true →
        (∀ req, .addPendingRequest c id req ∉ after) →
        namesRequest m (.getPendingRequest c id) = true →
        ∃ m', m.call (.getPendingRequest c id) = some (.request none, m') := by
  obtain ⟨answers, m, ref, hm, href, h⟩ := slotsHold_simulates.run slotsHold_new ops hops
  refine ⟨answers, m, ref, hm, href, h, ?_⟩
  intro before op after c id heq hop hadd hasked
  -- the map forgot the request at `op`, and nothing in `after` brings it back
  rw [heq] at href
  obtain ⟨_, ref₁, _, -, hrest⟩ := Object.run_append href
  obtain ⟨⟨r, ref₂⟩, hcall, hrest⟩ := Option.bind_eq_some_iff.mp hrest
  obtain ⟨⟨rs, ref₃⟩, hafter, hend⟩ := Option.map_eq_some_iff.mp hrest
  cases hend
  have hforgotten : Forgotten c id ref₃ := Object.run_invariant
    (fun op' hop' t r t' ht hc => ht.call (fun req he => hadd req (he ▸ hop')) hc)
    (forgotten_call hop hcall) hafter
  obtain ⟨answer, m', ref', hans, hans', -⟩ := slotsHold_simulates m ref₃ _ h hasked
  rw [hforgotten.get] at hans'
  cases hans'
  exact ⟨m', hans⟩

/-- A request is added, found, deleted and cleared, for two clients. -/
def pendingCalls : List (ServerStateMap.Operation Nat) :=
  [.addPendingRequest "CS1" "1" 7, .addPendingRequest "CS1" "2" 8, .addPendingRequest "CS2" "" 9,
    .getPendingRequest "CS1" "1", .getPendingRequest "CS1" "", .hasPendingRequests,
    .deletePendingRequest "CS1" "1", .getPendingRequest "CS1" "1", .hasPendingRequest "CS1"]

theorem deleted_request_not_returned :
    ServerStateMap.object.Meets (fun m op => namesRequest m op = true) .new pendingCalls ∧
      ∃ answers m ref, ServerStateMap.object.run .new pendingCalls = some (answers, m) ∧
        pendingMap.run (fun _ => none) pendingCalls = some (answers, ref) ∧
        answers = [.done, .done, .done, .request (some (some 7)), .request none, .flag true,
          .done, .request none, .flag false] ∧
        ∃ m', m.call (.getPendingRequest "CS1" "1") = some (.request none, m') := by
  have hmeets : ServerStateMap.object.Meets (fun m op => namesRequest m op = true) .new
      pendingCalls := by
    simp only [pendingCalls, Object.Meets, ServerStateMap.object, ServerStateMap.call,
      Option.some.injEq, Prod.mk.injEq, and_imp, forall_eq', forall_apply_eq_imp_iff]
    decide
  obtain ⟨answers, m, ref, hm, href, -, hforgotten⟩ :=
    pending_state_refines_map pendingCalls hmeets
  refine ⟨hmeets, answers, m, ref, hm, href, ?_, ?_⟩
  · have hanswers := congrArg (Option.map Prod.fst) hm
    exact (Option.some.inj hanswers).symm
  · refine hforgotten (pendingCalls.take 6) (.deletePendingRequest "CS1" "1")
      (pendingCalls.drop 7) "CS1" "1" rfl rfl ?_ rfl
    intro req hreq
    simp [pendingCalls] at hreq

/-- Asked for the empty id, a slot returns the request that was deleted from it. -/
theorem deleted_request_returned_for_empty_id :
    ∃ m, ServerStateMap.object.run (.new : ServerStateMap Nat)
        [.addPendingRequest "CS1" "1" 7, .deletePendingRequest "CS1" "1",
          .getPendingRequest "CS1" ""] = some ([.done, .done, .request (some (some 7))], m) ∧
      ∃ ref, pendingMap.run (fun _ => none)
        [.addPendingRequest "CS1" "1" 7, .deletePendingRequest "CS1" "1",
          .getPendingRequest "CS1" ""] = some ([.done, .done, .request none], ref) := by
  exact ⟨_, rfl, _, rfl⟩

end OcppGo.Proof
