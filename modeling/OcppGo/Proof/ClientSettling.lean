import OcppGo.Proof.ClientTransmission

/-!
# The life of the pending request

`CompleteRequest` peeks, compares, pops, deletes and signals without a lock
around the whole, and both the reader and the pump call it. A goroutine is
*settling* a request from the moment it decides that the request is over (the
reader finds the id pending, the pump finds something pending after a tick or
sees `Write` fail) until it has deleted the pending slot.

If the two never settle at once, and the pump marks a request only while it is
still the head, the life of the pending request is a cycle of phases, and the
book stays balanced: the requests removed from the queue are those reported, and
those their remover is about to report.
-/

namespace OcppGo.Proof

open OcppGo.Lib OcppGo.Ocppj

/-- From the decision to complete up to `DeletePendingRequest`. -/
def settling : Completing → Bool
  | .peek | .pop | .delete => true
  | .ready => false

def readerSettling : ReaderPC → Bool
  | .completing _ _ c => settling c
  | _ => false

def pumpSettling : PumpPC → Bool
  | .peekTimeout => true
  | .failed _ _ c => settling c
  | .timedOut _ c => settling c
  | _ => false

/-- The next operation is the send on `readyForDispatch`. -/
def signaling : Completing → Bool
  | .ready => true
  | _ => false

def readerSignaling : ReaderPC → Bool
  | .completing _ _ c => signaling c
  | _ => false

def pumpSignaling : PumpPC → Bool
  | .failed _ _ c => signaling c
  | .timedOut _ c => signaling c
  | _ => false

/-- Everything `SendRequest` ever accepted. -/
def acceptedRequests (s : ClientSteps) : List Posted := s.popped ++ s.requestQueue.elements

/-- What the pump needs for its next operation, whose `Write` would return `w`. -/
def PumpUndisturbed (s : ClientSteps) (w : Option String) : PumpPC → Prop
  | .addPending p => s.requestQueue.peek = some p
  | .hasPending => readerSettling s.reader = false
  | .write p => w ≠ none →
      readerSettling s.reader = false ∧ s.pendingRequestState.requestID = p.id
  | _ => True

/-- What a call needs for its next operation. -/
def CallUndisturbed (s : ClientSteps) : Option CallPC → Prop
  | some (.push req) => req.call.uniqueId ∉ (acceptedRequests s).map Posted.id
  | _ => True

/--
The reader and the pump settle requests one at a time.

* The pump decides on a timeout, or takes an error from `Write`, only while the
  reader is not settling, and in the second case only while the request is still
  pending; the reader matches a reply only while the pump is not settling.
* The pump marks a request only while it is still the head of the queue.
* Accepted requests have distinct, non-empty ids, and nobody else calls
  `CompleteRequest`.
-/
def Undisturbed (s : ClientSteps) : ClientSteps.Action → Prop
  | .pump w => PumpUndisturbed s w s.pump
  | .receive id _ => s.pendingRequestState.requestID = id → pumpSettling s.pump = false
  | .call (.sendRequest req) => req.call.uniqueId ≠ ""
  | .call (.completeRequest _) => False
  | .caller t => CallUndisturbed s s.callers[t]?
  | _ => True

theorem Undisturbed.ids {s : ClientSteps} {a : ClientSteps.Action} (h : Undisturbed s a) :
    ∀ req, a = .call (.sendRequest req) → req.call.uniqueId ≠ "" := by
  rintro req rfl
  exact h

/-! ## The phases of the pending request -/

/-- Which `CompleteRequest` the pump is in, and how far. -/
def pumpAt : PumpPC → Option (String × Completing)
  | .failed p _ c => some (p.id, c)
  | .timedOut p c => some (p.id, c)
  | _ => none

theorem settling_of_not_owes {c : Completing} (h : owes c = false) : settling c = true := by
  cases c <;> first | rfl | exact absurd h (by simp [owes])

theorem pumpSettling_of_at {pc : PumpPC} {id : String} {c : Completing}
    (h : pumpAt pc = some (id, c)) : pumpSettling pc = settling c := by
  cases pc <;> first | (cases h; rfl) | exact absurd h (by simp [pumpAt])

theorem pumpOwes_of_at {pc : PumpPC} {id : String} {c : Completing}
    (h : pumpAt pc = some (id, c)) : pumpOwes pc = owes c := by
  cases pc <;> first | (cases h; rfl) | exact absurd h (by simp [pumpAt])

theorem pumpSignaling_of_at {pc : PumpPC} {id : String} {c : Completing}
    (h : pumpAt pc = some (id, c)) : pumpSignaling pc = signaling c := by
  cases pc <;> first | (cases h; rfl) | exact absurd h (by simp [pumpAt])

theorem pumpOwes_of_none {pc : PumpPC} (h : pumpAt pc = none) : pumpOwes pc = false := by
  cases pc <;> first | rfl | exact absurd h (by simp [pumpAt])

/-- The slot holds the id of the head, which was written or is about to be. -/
structure Marked (s : ClientSteps) (q : Posted) : Prop where
  head : s.requestQueue.peek = some q
  id : s.pendingRequestState.requestID = q.id
  taken : q.id ≠ ""
  issued : sent s q ∨ s.pump = .write q

/-- Where the pending request stands. -/
inductive Phase (s : ClientSteps) : Prop where
  /-- Nothing is pending. -/
  | free : s.pendingRequestState.requestID = "" → readerSettling s.reader = false →
      pumpSettling s.pump = false → Phase s
  /-- The head is pending, and nobody has decided on it. -/
  | waiting (q : Posted) : Marked s q → readerSettling s.reader = false →
      pumpSettling s.pump = false → Phase s
  /-- The reader is about to remove it. -/
  | reader (q : Posted) (kind : Reply) (c : Completing) : Marked s q →
      s.reader = .completing q.id kind c → owes c = false → pumpSettling s.pump = false → Phase s
  /-- The pump is about to remove it. -/
  | pump (q : Posted) : Marked s q → readerSettling s.reader = false →
      pumpSettling s.pump = true →
      (∀ id c, pumpAt s.pump = some (id, c) → id = q.id ∧ owes c = false) → Phase s
  /-- The reader has removed it, and still has to free the slot. -/
  | readerPopped (id : String) (kind : Reply) : s.reader = .completing id kind .delete →
      s.pendingRequestState.requestID = id → id ≠ "" → pumpSettling s.pump = false → Phase s
  /-- The pump has. -/
  | pumpPopped (id : String) : pumpAt s.pump = some (id, .delete) →
      s.pendingRequestState.requestID = id → id ≠ "" → readerSettling s.reader = false → Phase s

/-- The write of the pump's request leaves it, and every request written before, written. -/
theorem sent_of_write {s s' : ClientSteps} {p q : Posted} (hpc : s.pump = .write p)
    (hw : s'.written = s.written ++ [p]) (hi : sent s q ∨ s.pump = .write q) : sent s' q := by
  rw [sent, hw, List.map_append, List.mem_append]
  rcases hi with hi | hi
  · exact Or.inl hi
  · rw [hpc] at hi
    cases hi
    exact Or.inr (List.mem_singleton.mpr rfl)

/-- A mark stays while the head, the slot and the pump's write do. -/
theorem Marked.keep {s s' : ClientSteps} {q : Posted} (h : Marked s q)
    (hq : s'.requestQueue.peek = some q)
    (hslot : s'.pendingRequestState = s.pendingRequestState)
    (hs : sent s q ∨ s.pump = .write q → sent s' q ∨ s'.pump = .write q) : Marked s' q where
  head := hq
  id := by rw [hslot]; exact h.id
  taken := h.taken
  issued := hs h.issued

/-- A phase outlives every step of a goroutine that is not settling. -/
theorem Phase.keep {s s' : ClientSteps} (h : Phase s)
    (hslot : s'.pendingRequestState = s.pendingRequestState)
    (hmark : ∀ q, Marked s q → Marked s' q)
    (hr : s'.reader = s.reader
      ∨ readerSettling s.reader = false ∧ readerSettling s'.reader = false)
    (hp : s'.pump = s.pump
      ∨ pumpSettling s.pump = false ∧ pumpSettling s'.pump = false) : Phase s' := by
  have hrs : readerSettling s'.reader = readerSettling s.reader := by
    rcases hr with hr | ⟨h₁, h₂⟩
    · rw [hr]
    · rw [h₁, h₂]
  -- neither goroutine starts or stops settling
  have hps : pumpSettling s'.pump = pumpSettling s.pump := by
    rcases hp with hp | ⟨h₁, h₂⟩
    · rw [hp]
    · rw [h₁, h₂]
  cases h with
  | free h₁ h₂ h₃ => exact .free (by rw [hslot]; exact h₁) (hrs.trans h₂) (hps.trans h₃)
  | waiting q h₁ h₂ h₃ => exact .waiting q (hmark q h₁) (hrs.trans h₂) (hps.trans h₃)
  | reader q kind c h₁ h₂ h₃ h₄ =>
      refine .reader q kind c (hmark q h₁) ?_ h₃ (hps.trans h₄)
      rcases hr with hr | ⟨hr, _⟩
      · rw [hr]; exact h₂
      · rw [h₂] at hr
        exact absurd hr (by simp [readerSettling, settling_of_not_owes h₃])
  | pump q h₁ h₂ h₃ h₄ =>
      refine .pump q (hmark q h₁) (hrs.trans h₂) (hps.trans h₃) ?_
      rcases hp with hp | ⟨hp, _⟩
      · rw [hp]; exact h₄
      · rw [h₃] at hp; exact absurd hp (by simp)
  | readerPopped id kind h₁ h₂ h₃ h₄ =>
      refine .readerPopped id kind ?_ (by rw [hslot]; exact h₂) h₃ (hps.trans h₄)
      rcases hr with hr | ⟨hr, _⟩
      · rw [hr]; exact h₁
      · rw [h₁] at hr; exact absurd hr (by simp [readerSettling, settling])
  | pumpPopped id h₁ h₂ h₃ h₄ =>
      refine .pumpPopped id ?_ (by rw [hslot]; exact h₂) h₃ (hrs.trans h₄)
      rcases hp with hp | ⟨hp, _⟩
      · rw [hp]; exact h₁
      · rw [pumpSettling_of_at h₁] at hp
        exact absurd hp (by simp [settling])

/-- The pump settles nothing while it is inert or dispatching. -/
theorem not_settling_of_inert {pc : PumpPC} (h : inert pc = true) : pumpSettling pc = false := by
  cases pc <;> first | rfl | exact absurd h (by simp [inert])

theorem Marked.mem {s : ClientSteps} {q : Posted} (h : Marked s q) :
    q ∈ s.requestQueue.elements := List.mem_of_mem_head? h.head

/-- What the phase says of a reader that is settling. -/
theorem Phase.of_reader {s : ClientSteps} {id : String} {kind : Reply} {c : Completing}
    (h : Phase s) (hpc : s.reader = .completing id kind c) (hc : settling c = true) :
    pumpSettling s.pump = false
      ∧ ((∃ q, Marked s q ∧ q.id = id ∧ owes c = false)
        ∨ (c = .delete ∧ s.pendingRequestState.requestID = id ∧ id ≠ "")) := by
  have hrs : readerSettling s.reader = true := by rw [hpc]; exact hc
  cases h with
  | reader q kind' c' hm hr ho hp =>
      rw [hpc] at hr
      cases hr
      exact ⟨hp, Or.inl ⟨q, hm, rfl, ho⟩⟩
  | readerPopped id' kind' hr hid hne hp =>
      rw [hpc] at hr
      cases hr
      exact ⟨hp, Or.inr ⟨rfl, hid, hne⟩⟩
  | free _ hr _ => rw [hrs] at hr; exact absurd hr (by simp)
  | waiting q _ hr _ => rw [hrs] at hr; exact absurd hr (by simp)
  | pump q _ hr _ _ => rw [hrs] at hr; exact absurd hr (by simp)
  | pumpPopped id' _ _ _ hr => rw [hrs] at hr; exact absurd hr (by simp)

/-- And of a pump that is. -/
theorem Phase.of_pump {s : ClientSteps} {id : String} {c : Completing} (h : Phase s)
    (hat : pumpAt s.pump = some (id, c)) (hc : settling c = true) :
    readerSettling s.reader = false
      ∧ ((∃ q, Marked s q ∧ q.id = id ∧ owes c = false)
        ∨ (c = .delete ∧ s.pendingRequestState.requestID = id ∧ id ≠ "")) := by
  have hps : pumpSettling s.pump = true := by rw [pumpSettling_of_at hat]; exact hc
  cases h with
  | pump q hm hr _ hq =>
      obtain ⟨hid, ho⟩ := hq id c hat
      exact ⟨hr, Or.inl ⟨q, hm, hid.symm, ho⟩⟩
  | pumpPopped id' hat' hid hne hr =>
      rw [hat] at hat'
      cases hat'
      exact ⟨hr, Or.inr ⟨rfl, hid, hne⟩⟩
  | free _ _ hp => rw [hps] at hp; exact absurd hp (by simp)
  | waiting q _ _ hp => rw [hps] at hp; exact absurd hp (by simp)
  | reader q _ _ _ _ _ hp => rw [hps] at hp; exact absurd hp (by simp)
  | readerPopped id' _ _ _ _ hp => rw [hps] at hp; exact absurd hp (by simp)

theorem Phase.of_peekTimeout {s : ClientSteps} (h : Phase s) (hpc : s.pump = .peekTimeout) :
    ∃ q, Marked s q ∧ readerSettling s.reader = false := by
  have hps : pumpSettling s.pump = true := by rw [hpc]; rfl
  cases h with
  | pump q hm hr _ _ => exact ⟨q, hm, hr⟩
  | pumpPopped _ hat _ _ _ => rw [hpc] at hat; exact absurd hat (by simp [pumpAt])
  | free _ _ hp => rw [hps] at hp; exact absurd hp (by simp)
  | waiting _ _ _ hp => rw [hps] at hp; exact absurd hp (by simp)
  | reader _ _ _ _ _ _ hp => rw [hps] at hp; exact absurd hp (by simp)
  | readerPopped _ _ _ _ _ hp => rw [hps] at hp; exact absurd hp (by simp)

/-- Before the pop, the request a settling reader removes is the head. -/
theorem Phase.reader_head {s : ClientSteps} {id : String} {kind : Reply} {c : Completing}
    (h : Phase s) (hpc : s.reader = .completing id kind c) (hc : owes c = false) :
    ∃ q, Marked s q ∧ q.id = id ∧ pumpSettling s.pump = false := by
  obtain ⟨hp, ⟨q, hm, hid, _⟩ | ⟨rfl, _, _⟩⟩ := h.of_reader hpc (settling_of_not_owes hc)
  · exact ⟨q, hm, hid, hp⟩
  · exact absurd hc (by simp [owes])

theorem Phase.pump_head {s : ClientSteps} {id : String} {c : Completing} (h : Phase s)
    (hat : pumpAt s.pump = some (id, c)) (hc : owes c = false) :
    ∃ q, Marked s q ∧ q.id = id ∧ readerSettling s.reader = false := by
  obtain ⟨hr, ⟨q, hm, hid, _⟩ | ⟨rfl, _, _⟩⟩ := h.of_pump hat (settling_of_not_owes hc)
  · exact ⟨q, hm, hid, hr⟩
  · exact absurd hc (by simp [owes])

/-- With the slot free, whoever owes a token is about to send it. -/
theorem Phase.reader_owes_nothing {s : ClientSteps} (h : Phase s)
    (hfree : s.pendingRequestState.requestID = "") (hr : readerSignaling s.reader = false) :
    readerOwes s.reader = false := by
  cases hpc : s.reader with
  | completing rid kind c =>
      cases c with
      | delete =>
          obtain ⟨_, ⟨_, _, _, ho⟩ | ⟨_, hid, hne⟩⟩ := h.of_reader hpc rfl
          · exact absurd ho (by simp [owes])
          · exact absurd (hid.symm.trans hfree) hne
      | ready => rw [hpc] at hr; exact absurd hr (by simp [readerSignaling, signaling])
      | _ => rfl
  | _ => rfl

theorem Phase.pump_owes_nothing {s : ClientSteps} (h : Phase s)
    (hfree : s.pendingRequestState.requestID = "") (hp : pumpSignaling s.pump = false) :
    pumpOwes s.pump = false := by
  cases hat : pumpAt s.pump with
  | none => exact pumpOwes_of_none hat
  | some x =>
      obtain ⟨rid, c⟩ := x
      rw [pumpOwes_of_at hat]
      cases c with
      | delete =>
          obtain ⟨_, ⟨_, _, _, ho⟩ | ⟨_, hid, hne⟩⟩ := h.of_pump hat rfl
          · exact absurd ho (by simp [owes])
          · exact absurd (hid.symm.trans hfree) hne
      | ready => rw [pumpSignaling_of_at hat] at hp; exact absurd hp (by simp [signaling])
      | _ => rfl

/-- One operation of a `CompleteRequest` by the reader carries the phase on. -/
theorem Phase.readerCompletes {s s₁ : ClientSteps} {id : String} {kind : Reply}
    {c : Completing} {r : Option Completing} (h : Phase s)
    (hpc : s.reader = .completing id kind c) (hc : CompleteMove s id c s₁ r) :
    Phase { s₁ with reader := readerAfter id kind r } := by
  cases hc with
  | mismatch hne =>
      -- the slot still belongs to the head, so the comparison cannot fail
      obtain ⟨q, hm, hid, _⟩ := h.reader_head hpc rfl
      exact absurd hid (hne q hm.head)
  | found p _ _ =>
      obtain ⟨q, hm, rfl, hp⟩ := h.reader_head hpc rfl
      exact .reader q kind .pop (hm.keep hm.head rfl (fun hi => hi)) rfl rfl hp
  | pop =>
      obtain ⟨q, hm, rfl, hp⟩ := h.reader_head hpc rfl
      exact .readerPopped q.id kind rfl hm.id hm.taken hp
  | delete =>
      obtain ⟨hp, ⟨_, _, _, ho⟩ | ⟨_, hid, _⟩⟩ := h.of_reader hpc rfl
      · exact absurd ho (by simp [owes])
      · exact .free (ClientState.deletePendingRequest_self hid) rfl hp
  | ready _ =>
      refine h.keep rfl (fun q hm => hm.keep hm.head rfl (fun hi => hi)) (Or.inr ⟨?_, rfl⟩)
        (Or.inl rfl)
      rw [hpc]
      rfl

/-- And one by the pump, which goes on at `pc`. -/
theorem Phase.pumpCompletes {s s₁ : ClientSteps} {id : String} {c : Completing}
    {r : Option Completing} {pc : PumpPC} (h : Phase s)
    (hat : pumpAt s.pump = some (id, c)) (hc : CompleteMove s id c s₁ r)
    (hnext : ∀ c', r = some c' → pumpAt pc = some (id, c'))
    (hdone : r = none → pumpSettling pc = false) : Phase { s₁ with pump := pc } := by
  -- the pump completes a request only after its write
  have hissued : ∀ q, Marked s q → sent s q := by
    intro q hm
    refine hm.issued.resolve_right (fun hw => ?_)
    rw [hw] at hat
    exact absurd hat (by simp [pumpAt])
  cases hc with
  | mismatch hne =>
      obtain ⟨q, hm, hid, _⟩ := h.pump_head hat rfl
      exact absurd hid (hne q hm.head)
  | found p _ _ =>
      obtain ⟨q, hm, rfl, hr⟩ := h.pump_head hat rfl
      have hat' := hnext .pop rfl
      refine .pump q (hm.keep hm.head rfl (fun _ => Or.inl (hissued q hm))) hr
        (pumpSettling_of_at hat') ?_
      intro id c' hc'
      cases hat'.symm.trans hc'
      exact ⟨rfl, rfl⟩
  | pop =>
      obtain ⟨q, hm, rfl, hr⟩ := h.pump_head hat rfl
      exact .pumpPopped q.id (hnext .delete rfl) hm.id hm.taken hr
  | delete =>
      obtain ⟨hr, ⟨_, _, _, ho⟩ | ⟨_, hid, _⟩⟩ := h.of_pump hat rfl
      · exact absurd ho (by simp [owes])
      · refine .free (ClientState.deletePendingRequest_self hid) hr ?_
        exact pumpSettling_of_at (hnext .ready rfl)
  | ready _ =>
      refine h.keep rfl (fun q hm => hm.keep hm.head rfl (fun _ => Or.inl (hissued q hm)))
        (Or.inl rfl) (Or.inr ⟨pumpSettling_of_at hat, hdone rfl⟩)

/-- With nobody settling, either nothing is pending or the head is. -/
theorem Phase.quiet {s : ClientSteps} (h : Phase s) (hr : readerSettling s.reader = false)
    (hp : pumpSettling s.pump = false) :
    s.pendingRequestState.requestID = "" ∨ ∃ q, Marked s q := by
  cases h with
  | free h₁ _ _ => exact Or.inl h₁
  | waiting q hm _ _ => exact Or.inr ⟨q, hm⟩
  | reader q _ _ hm _ _ _ => exact Or.inr ⟨q, hm⟩
  | pump q hm _ _ _ => exact Or.inr ⟨q, hm⟩
  | readerPopped _ _ hpc _ _ _ =>
      rw [hpc] at hr; exact absurd hr (by simp [readerSettling, settling])
  | pumpPopped _ hat _ _ _ =>
      rw [pumpSettling_of_at hat] at hp; exact absurd hp (by simp [settling])

/-- Nobody is settling while the slot is free. -/
theorem Phase.idle_of_free {s : ClientSteps} (h : Phase s)
    (hfree : s.pendingRequestState.requestID = "") : readerSettling s.reader = false := by
  cases h with
  | free _ hr _ => exact hr
  | waiting q hm _ _ => exact absurd (hm.id.symm.trans hfree) hm.taken
  | reader q _ _ hm _ _ _ => exact absurd (hm.id.symm.trans hfree) hm.taken
  | pump q hm _ _ _ => exact absurd (hm.id.symm.trans hfree) hm.taken
  | readerPopped _ _ _ hid hne _ => exact absurd (hid.symm.trans hfree) hne
  | pumpPopped _ _ hid hne _ => exact absurd (hid.symm.trans hfree) hne

/-- A pushed request joins behind the head. -/
theorem peek_push {q q' : FIFOClientQueue Posted} {p x : Posted} (h : q.peek = some p)
    (hq : q'.elements = q.elements ++ [x]) : q'.peek = some p := by
  rw [FIFOClientQueue.peek_eq, hq, FIFOClientQueue.cons_tail_of_peek h]
  rfl

section Step

variable {s s' : ClientSteps} {a : ClientSteps.Action}

/-- The pump goes from one place where it settles nothing to another. -/
theorem Phase.pumpMoves (h : Phase s) (hq : s'.requestQueue = s.requestQueue)
    (hslot : s'.pendingRequestState = s.pendingRequestState) (hw : s'.written = s.written)
    (hr : s'.reader = s.reader) (hne : ∀ q, s.pump ≠ .write q)
    (hp : pumpSettling s.pump = false) (hp' : pumpSettling s'.pump = false) : Phase s' := by
  refine h.keep hslot (fun q hm => ?_) (Or.inl hr) (Or.inr ⟨hp, hp'⟩)
  refine hm.keep (by rw [hq]; exact hm.head) hslot (fun hi => Or.inl ?_)
  have hs := hi.resolve_right (hne q)
  rwa [sent, hw]

/-- Another goroutine moves, and leaves head, slot and pump alone. -/
theorem Phase.othersMove (h : Phase s)
    (hq : ∀ q, s.requestQueue.peek = some q → s'.requestQueue.peek = some q)
    (hslot : s'.pendingRequestState = s.pendingRequestState) (hw : s'.written = s.written)
    (hr : s'.reader = s.reader ∨ readerSettling s.reader = false
      ∧ readerSettling s'.reader = false)
    (hp : s'.pump = s.pump) : Phase s' := by
  refine h.keep hslot (fun q hm => ?_) hr (Or.inl hp)
  refine hm.keep (hq q hm.head) hslot (fun hi => ?_)
  rwa [sent, hw, hp]

theorem phase_step (h : Phase s) (hcalls : ∀ rid c, CallPC.completing rid c ∉ s.callers)
    (hids : UsableIds s) (hok : Undisturbed s a) (hm : Move s a s') (halive : s'.pump ≠ .crashed) :
    Phase s' := by
  cases hm with
  | idle _ pc timer n hi hi' _ =>
      refine h.pumpMoves rfl rfl rfl rfl ?_ (not_settling_of_inert hi)
        (not_settling_of_inert hi')
      intro q hpc
      rw [hpc] at hi
      exact absurd hi (by simp [inert])
  | takeReady hpc _ => exact h.pumpMoves rfl rfl rfl rfl (by simp [hpc]) (by rw [hpc]; rfl) rfl
  | seesReady _ hpc _ => exact h.pumpMoves rfl rfl rfl rfl (by simp [hpc]) (by rw [hpc]; rfl) rfl
  | seesRequest _ hpc _ => exact h.pumpMoves rfl rfl rfl rfl (by simp [hpc]) (by rw [hpc]; rfl) rfl
  | crash _ _ _ => exact absurd rfl halive
  | peek _ p hpc _ => exact h.pumpMoves rfl rfl rfl rfl (by simp [hpc]) (by rw [hpc]; rfl) rfl
  | mark w p hpc =>
      have hhead : s.requestQueue.peek = some p := by
        have hu : PumpUndisturbed s w s.pump := hok
        rw [hpc] at hu
        exact hu
      have hid : p.id ≠ "" := hids.held p (by rw [hpc]; rfl)
      by_cases hfree : s.pendingRequestState.requestID = ""
      · refine .waiting p ⟨hhead, ?_, hid, Or.inr rfl⟩ (h.idle_of_free hfree) rfl
        show (s.pendingRequestState.addPendingRequest p.id p.payload).requestID = p.id
        rw [ClientState.addPendingRequest_of_free hfree hid]
      · -- a resend finds the slot taken, and changes nothing
        exact h.pumpMoves rfl (ClientState.addPendingRequest_of_pending hfree _ _) rfl rfl
          (by simp [hpc]) (by rw [hpc]; rfl) rfl
  | write p hpc =>
      exact h.keep rfl
        (fun q hmk => hmk.keep hmk.head rfl (fun hi => Or.inl (sent_of_write hpc rfl hi)))
        (Or.inl rfl) (Or.inr ⟨by rw [hpc]; rfl, rfl⟩)
  | writeFails text p hpc =>
      obtain ⟨hrs, hid⟩ : readerSettling s.reader = false
          ∧ s.pendingRequestState.requestID = p.id := by
        have hu : PumpUndisturbed s (some text) s.pump := hok
        rw [hpc] at hu
        exact hu (by simp)
      -- the failed request is the pending one, and nobody else settles it
      rcases h.quiet hrs (by rw [hpc]; rfl) with hfree | ⟨q, hmk⟩
      · rw [hid] at hfree
        exact absurd hfree (hids.held p (by rw [hpc]; rfl))
      · refine .pump q (hmk.keep hmk.head rfl (fun hi => Or.inl ?_)) hrs rfl ?_
        · exact sent_of_write hpc rfl hi
        · intro id c hat
          cases hat
          exact ⟨hid.symm.trans hmk.id, rfl⟩
  | failed _ p text c s₁ r hpc hc =>
      refine h.pumpCompletes (by rw [hpc]; rfl) hc ?_ ?_
      · rintro c' rfl; rfl
      · rintro rfl; rfl
  | reportFailed _ p text hpc =>
      exact h.pumpMoves rfl rfl rfl rfl (by simp [hpc]) (by rw [hpc]; rfl) rfl
  | seesPending w hpc hne =>
      -- the condition: the reader is not settling when the pump looks
      have hrs : readerSettling s.reader = false := by
        have hu : PumpUndisturbed s w s.pump := hok
        rw [hpc] at hu
        exact hu
      rcases h.quiet hrs (by rw [hpc]; rfl) with hfree | ⟨q, hmk⟩
      · exact absurd hfree hne
      · refine .pump q (hmk.keep hmk.head rfl (fun hi => Or.inl ?_)) hrs rfl ?_
        · exact hi.resolve_right (by simp [hpc])
        · intro id c hat
          exact absurd hat (by simp [pumpAt])
  | peekTimeout _ p hpc hp =>
      obtain ⟨q, hmk, hrs⟩ := h.of_peekTimeout hpc
      refine .pump q (hmk.keep hmk.head rfl (fun hi => Or.inl ?_)) hrs rfl ?_
      · exact hi.resolve_right (by simp [hpc])
      · intro id c hat
        cases hat
        rw [hmk.head] at hp
        cases hp
        exact ⟨rfl, rfl⟩
  | timedOut _ p c s₁ r hpc hc =>
      refine h.pumpCompletes (by rw [hpc]; rfl) hc ?_ ?_
      · rintro c' rfl; rfl
      · rintro rfl; rfl
  | reportTimedOut _ p hpc =>
      exact h.pumpMoves rfl rfl rfl rfl (by simp [hpc]) (by rw [hpc]; rfl) rfl
  | discard id kind => exact h
  | accept id kind hidle hne hid =>
      -- the condition: the pump is not settling when a reply matches
      have hps : pumpSettling s.pump = false := hok hid
      rcases h.quiet (by rw [hidle]; rfl) hps with hfree | ⟨q, hmk⟩
      · exact absurd (hid.symm.trans hfree) hne
      · refine .reader q kind .peek (hmk.keep hmk.head rfl (fun hi => hi)) ?_ rfl hps
        show ReaderPC.completing id kind .peek = .completing q.id kind .peek
        rw [← hid, hmk.id]
  | reader id kind c s₁ r hpc hc => exact h.readerCompletes hpc hc
  | handler id kind hpc =>
      exact h.othersMove (fun _ hq => hq) rfl rfl (Or.inr ⟨by rw [hpc]; rfl, rfl⟩) rfl
  | call op => exact h.othersMove (fun _ hq => hq) rfl rfl (Or.inl rfl) rfl
  | caller t pc pc' timer n paused _ _ =>
      exact h.othersMove (fun _ hq => hq) rfl rfl (Or.inl rfl) rfl
  | push t req q _ hq =>
      exact h.othersMove (fun _ hp => peek_push hp hq) rfl rfl (Or.inl rfl) rfl
  | callerCompletes t id c s₁ r ht _ =>
      exact absurd (List.mem_of_getElem? ht) (hcalls id c)
  | resumeTest t _ _ => exact h.othersMove (fun _ hq => hq) rfl rfl (Or.inl rfl) rfl
  | resumeReady t _ _ => exact h.othersMove (fun _ hq => hq) rfl rfl (Or.inl rfl) rfl
  | timerExpires timer => exact h.othersMove (fun _ hq => hq) rfl rfl (Or.inl rfl) rfl

/-- Only the pump and the reader complete requests. -/
theorem calls_step (h : ∀ rid c, CallPC.completing rid c ∉ s.callers)
    (hno : ∀ rid, a ≠ .call (.completeRequest rid)) (hm : Move s a s') :
    ∀ rid c, CallPC.completing rid c ∉ s'.callers := by
  intro rid c hmem
  rcases hm.mem_callers hmem with hmem | ⟨op, rfl, he⟩ | hby | he | ⟨rid', c', r, hmem, _⟩
  · exact h rid c hmem
  · cases op with
    | completeRequest id => exact hno id rfl
    | sendRequest req => cases he
    | pause => cases he
    | resume => cases he
  · exact absurd hby (by simp [bystander])
  · exact absurd he (by simp)
  · exact h rid' c' hmem

end Step

/-! ## The book -/

/-- What `CompleteRequest(id)` still has to be reported for: nothing before its pop. -/
def dueAt (rid : String) (c : Completing) : List String := if owes c then [rid] else []

theorem mem_dueAt {rid rid' : String} {c : Completing} :
    rid ∈ dueAt rid' c ↔ rid = rid' ∧ owes c = true := by
  cases c <;> simp [dueAt, owes]

def readerDue : ReaderPC → List String
  | .idle => []
  | .completing rid _ c => dueAt rid c
  | .handler rid _ => [rid]

def pumpDue : PumpPC → List String
  | .failed p _ c => dueAt p.id c
  | .reportFailed p _ => [p.id]
  | .timedOut p c => dueAt p.id c
  | .reportTimedOut p => [p.id]
  | _ => []

/-- The ids whose remover is about to report them. -/
def due (s : ClientSteps) : List String := readerDue s.reader ++ pumpDue s.pump

/-- Removed from the queue means reported or due. -/
def Balanced (s : ClientSteps) : Prop :=
  (s.outcomes.map Prod.fst ++ due s).Perm (s.popped.map Posted.id)

/-- What is left to report once `CompleteRequest` returned, or goes on. -/
def dueAfter (rid : String) : Option Completing → List String
  | none => [rid]
  | some c => dueAt rid c

/-- `CompleteRequest` removes what it then has to report. -/
theorem CompleteMove.due {s s₁ : ClientSteps} {rid : String} {c : Completing}
    {r : Option Completing} (h : CompleteMove s rid c s₁ r)
    (hhead : owes c = false → ∃ q, s.requestQueue.peek = some q ∧ q.id = rid) :
    ∃ new, s₁.popped.map Posted.id = s.popped.map Posted.id ++ new
      ∧ dueAfter rid r = dueAt rid c ++ new := by
  cases h with
  | mismatch hne =>
      obtain ⟨q, hq, hid⟩ := hhead rfl
      exact absurd hid (hne q hq)
  | found p _ _ => exact ⟨[], by simp, rfl⟩
  | pop =>
      obtain ⟨q, hq, hid⟩ := hhead rfl
      refine ⟨[rid], ?_, rfl⟩
      show (s.popped ++ s.requestQueue.peek.toList).map Posted.id = _
      rw [hq, List.map_append]
      simp [hid]
  | delete => exact ⟨[], by simp, rfl⟩
  | ready _ => exact ⟨[], by simp, rfl⟩

theorem readerDue_after (rid : String) (kind : Reply) (r : Option Completing) :
    readerDue (readerAfter rid kind r) = dueAfter rid r := by
  cases r <;> rfl

theorem pumpDue_of_inert {pc : PumpPC} (h : inert pc = true) : pumpDue pc = [] := by
  cases pc <;> first | rfl | exact absurd h (by simp [inert])

theorem pumpDue_of_at {pc : PumpPC} {rid : String} {c : Completing}
    (h : pumpAt pc = some (rid, c)) : pumpDue pc = dueAt rid c := by
  cases pc <;> first | (cases h; rfl) | exact absurd h (by simp [pumpAt])

theorem Balanced.frame {s s' : ClientSteps} (h : Balanced s) (ho : s'.outcomes = s.outcomes)
    (hp : s'.popped = s.popped) (hr : readerDue s'.reader = readerDue s.reader)
    (hd : pumpDue s'.pump = pumpDue s.pump) : Balanced s' := by
  rw [Balanced, due, ho, hp, hr, hd]
  exact h

/-- A new entry on both sides, at the end of the reader's part. -/
theorem Balanced.readerPops {s s' : ClientSteps} {new : List String} (h : Balanced s)
    (ho : s'.outcomes = s.outcomes)
    (hp : s'.popped.map Posted.id = s.popped.map Posted.id ++ new)
    (hr : readerDue s'.reader = readerDue s.reader ++ new)
    (hd : s'.pump = s.pump) : Balanced s' := by
  rw [Balanced, due, ho, hp, hr, hd]
  refine List.Perm.trans ?_ (h.append_right new)
  rw [due, List.append_assoc, List.append_assoc, List.append_assoc]
  exact (List.perm_append_comm.append_left _).append_left _

/-- And at the end of the pump's. -/
theorem Balanced.pumpPops {s s' : ClientSteps} {new : List String} (h : Balanced s)
    (ho : s'.outcomes = s.outcomes)
    (hp : s'.popped.map Posted.id = s.popped.map Posted.id ++ new)
    (hr : s'.reader = s.reader)
    (hd : pumpDue s'.pump = pumpDue s.pump ++ new) : Balanced s' := by
  rw [Balanced, due, ho, hp, hr, hd, ← List.append_assoc, ← List.append_assoc]
  rw [Balanced, due, ← List.append_assoc] at h
  exact h.append_right new

/-- The pump reports what it had to. -/
theorem Balanced.pumpReports {s s' : ClientSteps} {rid : String} {o : Outcome} (h : Balanced s)
    (hpc : pumpDue s.pump = [rid]) (ho : s'.outcomes = s.outcomes ++ [(rid, o)])
    (hp : s'.popped = s.popped) (hr : s'.reader = s.reader) (hd : pumpDue s'.pump = []) :
    Balanced s' := by
  rw [Balanced, due, ho, hp, hr, hd, List.map_append, List.append_assoc]
  rw [Balanced, due, hpc] at h
  refine List.Perm.trans ?_ h
  rw [List.append_nil]
  exact List.perm_append_comm.append_left _

/-- The `CompleteRequest` of the pump, which goes on at `pc`. -/
theorem Balanced.pumpCompletes {s s₁ : ClientSteps} {rid : String} {c : Completing}
    {r : Option Completing} {pc : PumpPC} (h : Balanced s) (hphase : Phase s)
    (hat : pumpAt s.pump = some (rid, c)) (hc : CompleteMove s rid c s₁ r)
    (hpc : pumpDue pc = dueAfter rid r) : Balanced { s₁ with pump := pc } := by
  obtain ⟨new, hp, hd⟩ := hc.due (fun ho => by
    obtain ⟨q, hmk, hid, _⟩ := hphase.pump_head hat ho
    exact ⟨q, hmk.head, hid⟩)
  refine h.pumpPops hc.outcomes hp hc.reader ?_
  rw [pumpDue_of_at hat, ← hd]
  exact hpc

/-- And that of the reader. -/
theorem Balanced.readerCompletes {s s₁ : ClientSteps} {rid : String} {kind : Reply}
    {c : Completing} {r : Option Completing} (h : Balanced s) (hphase : Phase s)
    (hpc : s.reader = .completing rid kind c) (hc : CompleteMove s rid c s₁ r) :
    Balanced { s₁ with reader := readerAfter rid kind r } := by
  obtain ⟨new, hp, hd⟩ := hc.due (fun ho => by
    obtain ⟨q, hmk, hid, _⟩ := hphase.reader_head hpc ho
    exact ⟨q, hmk.head, hid⟩)
  refine h.readerPops hc.outcomes hp ?_ hc.pump
  rw [hpc]
  exact (readerDue_after rid kind r).trans hd

theorem balanced_step {s s' : ClientSteps} {a : ClientSteps.Action} (h : Balanced s)
    (hphase : Phase s) (hcalls : ∀ rid c, CallPC.completing rid c ∉ s.callers)
    (hm : Move s a s') : Balanced s' := by
  cases hm with
  | idle _ pc timer n hi hi' _ =>
      exact h.frame rfl rfl rfl (by rw [pumpDue_of_inert hi]; exact pumpDue_of_inert hi')
  | takeReady hpc _ => exact h.frame rfl rfl rfl (by rw [hpc]; rfl)
  | seesReady _ hpc _ => exact h.frame rfl rfl rfl (by rw [hpc]; rfl)
  | seesRequest _ hpc _ => exact h.frame rfl rfl rfl (by rw [hpc]; rfl)
  | crash _ hpc _ => exact h.frame rfl rfl rfl (by rcases hpc with hpc | hpc <;> (rw [hpc]; rfl))
  | peek _ p hpc _ => exact h.frame rfl rfl rfl (by rw [hpc]; rfl)
  | mark _ p hpc => exact h.frame rfl rfl rfl (by rw [hpc]; rfl)
  | write p hpc => exact h.frame rfl rfl rfl (by rw [hpc]; rfl)
  | writeFails text p hpc => exact h.frame rfl rfl rfl (by rw [hpc]; rfl)
  | failed _ p text c s₁ r hpc hc =>
      exact h.pumpCompletes hphase (by rw [hpc]; rfl) hc (by cases r <;> rfl)
  | reportFailed _ p text hpc => exact h.pumpReports (by rw [hpc]; rfl) rfl rfl rfl rfl
  | seesPending _ hpc _ => exact h.frame rfl rfl rfl (by rw [hpc]; rfl)
  | peekTimeout _ p hpc _ => exact h.frame rfl rfl rfl (by rw [hpc]; rfl)
  | timedOut _ p c s₁ r hpc hc =>
      exact h.pumpCompletes hphase (by rw [hpc]; rfl) hc (by cases r <;> rfl)
  | reportTimedOut _ p hpc => exact h.pumpReports (by rw [hpc]; rfl) rfl rfl rfl rfl
  | accept rid kind hidle _ _ => exact h.frame rfl rfl (by rw [hidle]; rfl) rfl
  | reader rid kind c s₁ r hpc hc => exact h.readerCompletes hphase hpc hc
  | handler rid kind hpc =>
      rw [Balanced, due, hpc] at h
      simpa [Balanced, due, readerDue] using h
  | callerCompletes t rid c s₁ r ht _ =>
      exact absurd (List.mem_of_getElem? ht) (hcalls rid c)
  | _ => exact h.frame rfl rfl rfl rfl

/-! ## Distinct ids -/

/-- No two accepted requests share an id. -/
def DistinctIds (s : ClientSteps) : Prop := ((acceptedRequests s).map Posted.id).Nodup

/-- What is popped is remembered. -/
theorem CompleteMove.acceptedRequests {s s₁ : ClientSteps} {rid : String} {c : Completing}
    {r : Option Completing} (h : CompleteMove s rid c s₁ r) :
    acceptedRequests s₁ = acceptedRequests s := by
  cases h with
  | pop =>
      show (s.popped ++ s.requestQueue.peek.toList) ++ s.requestQueue.elements.tail
        = s.popped ++ s.requestQueue.elements
      rw [List.append_assoc, FIFOClientQueue.peek_eq]
      cases s.requestQueue.elements <;> rfl
  | _ => rfl

/-- A step accepts one request at most, and forgets none. -/
theorem Move.acceptedRequests {s s' : ClientSteps} {a : ClientSteps.Action} (h : Move s a s') :
    acceptedRequests s' = acceptedRequests s
      ∨ ∃ t req, a = .caller t ∧ s.callers[t]? = some (.push req)
        ∧ acceptedRequests s'
          = acceptedRequests s ++ [{ seq := s.accepted, bundle := req }] := by
  cases h with
  | failed _ _ _ _ _ _ _ hc => exact Or.inl hc.acceptedRequests
  | timedOut _ _ _ _ _ _ hc => exact Or.inl hc.acceptedRequests
  | reader _ _ _ _ _ _ hc => exact Or.inl hc.acceptedRequests
  | callerCompletes _ _ _ _ _ _ hc => exact Or.inl hc.acceptedRequests
  | push t req q ht hq =>
      refine Or.inr ⟨t, req, rfl, ht, ?_⟩
      show s.popped ++ q.elements = s.popped ++ s.requestQueue.elements ++ _
      rw [hq, List.append_assoc]
  | _ => exact Or.inl rfl

theorem distinctIds_step {s s' : ClientSteps} {a : ClientSteps.Action} (h : DistinctIds s)
    (hok : Undisturbed s a) (hm : Move s a s') : DistinctIds s' := by
  rcases hm.acceptedRequests with heq | ⟨t, req, rfl, ht, heq⟩
  · rw [DistinctIds, heq]
    exact h
  · have hu : CallUndisturbed s s.callers[t]? := hok
    rw [ht] at hu
    rw [DistinctIds, heq, List.map_append, List.nodup_append]
    refine ⟨h, List.pairwise_singleton _ _, ?_⟩
    intro x hx y hy hxy
    have hy : y = req.call.uniqueId := List.mem_singleton.mp hy
    rw [hxy, hy] at hx
    exact hu hx


end OcppGo.Proof
