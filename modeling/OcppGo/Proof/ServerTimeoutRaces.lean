import OcppGo.Proof.ServerStepMoves

/-!
# What the server's timer branch finds

`HasPendingRequest`, `queueMap.Get` and `Peek` are three steps of the pump, and
the branch takes for granted that they speak of the same request. A response or a
disconnection of the same client that comes in between breaks this: `Get` or
`Peek` find nothing, and the process goes down with a nil dereference, or `Peek`
finds the next request, and one that was never written is reported as timed out.

The condition under which the branch is right asks that what was read is still so
when it is acted on. The invariant behind it is about the pending slot of every
client: its id is that of the head of the client's queue, which was written or is
about to be, unless a `CompleteRequest` or a disconnection is already past the
queue and about to empty the slot.
-/

namespace OcppGo.Proof

open OcppGo.Lib OcppGo.Ocppj

/-! ## The condition -/

/-- The id of the request at the head of a queue object. -/
def headID (s : ServerSteps) (r : QueueRef) : Option String :=
  (s.queueMap.deref r).peek.map Posted.id

/-- The id pending for a client. -/
def pendingID (s : ServerSteps) (c : String) : String :=
  (s.pendingRequestState.clientState c).requestID

/-- The client whose queue the pump has looked at, or relies on, and is not done with. -/
def pumpReads : ServerPumpPC → Option String
  | .timeoutGet c _ | .timeoutPeek c _ _ | .dispatchPeek c _ | .addPending c _ => some c
  | _ => none

/-- The call is past the queue, and about to take this id out of the client's slot. -/
def departs (c id : String) : ServerCall → Bool
  | .completing c' id' .delete => c' == c && id' == id
  | .removeSignal c' | .clear c' => c' == c
  | _ => false

def pumpUndisturbed (s : ServerSteps) : ServerPumpPC → Bool
  | .hasPending c => s.calls.all (fun pc => !departs c (pendingID s c) pc)
  | .timedOut _ p (.pop r) | .failed _ p _ (.pop r) => headID s r == some p.id
  | _ => true

def callUndisturbed (s : ServerSteps) : ServerCall → Bool
  | .completing c id (.pop r) => headID s r == some id && pumpReads s.pump != some c
  | .remove c => pumpReads s.pump != some c
  | _ => true

/--
Every `Pop` of `CompleteRequest` removes the request that was compared. While the
pump is between `HasPendingRequest` and `Peek`, or between `Get` and
`AddPendingRequest`, nobody pops or removes the queue of the same client. The
timer branch asks `HasPendingRequest` only when nobody is between the removal from
the queue and that from the slot.
-/
def serverUndisturbed (s : ServerSteps) : ServerSteps.Action → Bool
  | .pump _ => pumpUndisturbed s s.pump
  | .call t => (s.calls[t]?).all (callUndisturbed s)
  | _ => true

/-! ## Heads of queues -/

/-- The client's queue, and the request at its head. -/
def HeadAt (m : FIFOQueueMap Posted) (c : String) (r : QueueRef) (p : Posted) : Prop :=
  m.get c = some r ∧ (m.deref r).peek = some p

/-- The queue object is the client's, or nobody's any more. -/
def OwnedBy (m : FIFOQueueMap Posted) (c : String) (r : QueueRef) : Prop :=
  r < m.next ∧ ∀ c', m.get c' = some r → c' = c

/-- What a step can do to the queues. -/
inductive QueuesMove (m : FIFOQueueMap Posted) : FIFOQueueMap Posted → Prop where
  | same : QueuesMove m m
  | store (r : QueueRef) (q : FIFOClientQueue Posted) : QueuesMove m (m.store r q)
  | remove (c : String) : QueuesMove m (m.remove c)
  | create (c : String) : QueuesMove m (m.getOrCreate c)

section Queues

variable {m m' : FIFOQueueMap Posted} {c c' : String} {r r' : QueueRef} {p : Posted}

/-- A write to another queue object leaves the head. -/
theorem HeadAt.store_ne (h : HeadAt m c r p) (hr : r' ≠ r) (q : FIFOClientQueue Posted) :
    HeadAt (m.store r' q) c r p := by
  refine ⟨h.1, ?_⟩
  rw [← h.2]
  simp [FIFOQueueMap.deref, FIFOQueueMap.store, hr.symm]

/-- `Push` leaves every head. -/
theorem HeadAt.push (h : HeadAt m c r p) {q : FIFOClientQueue Posted} {x : Posted}
    (hq : q.elements = (m.deref r').elements ++ [x]) : HeadAt (m.store r' q) c r p := by
  by_cases hr : r' = r
  · subst hr
    have hderef : (m.store r' q).deref r' = q := by simp [FIFOQueueMap.deref, FIFOQueueMap.store]
    have hhead : (m.deref r').elements.head? = some p := h.2
    refine ⟨h.1, ?_⟩
    rw [hderef, FIFOClientQueue.peek_eq, hq, List.head?_append, hhead]
    rfl
  · exact h.store_ne hr q

theorem HeadAt.getOrCreate (h : HeadAt m c r p) (c' : String) :
    HeadAt (m.getOrCreate c') c r p := by
  have hget := FIFOQueueMap.get_getOrCreate_of_some h.1 c'
  refine ⟨hget, ?_⟩
  rw [← h.2, FIFOClientQueue.peek_eq, FIFOClientQueue.peek_eq,
    ← FIFOQueueMap.contents_of_get hget, ← FIFOQueueMap.contents_of_get h.1,
    FIFOQueueMap.contents_getOrCreate]

theorem HeadAt.remove_ne (h : HeadAt m c r p) (hc : c ≠ c') : HeadAt (m.remove c') c r p :=
  ⟨by rw [FIFOQueueMap.get_remove_ne m hc]; exact h.1, h.2⟩

theorem OwnedBy.of_get (h : m.get c = some r) : OwnedBy m c r :=
  ⟨m.lt h, fun _ h' => m.inj h' h⟩

/-- A queue object does not change hands. -/
theorem OwnedBy.step (h : OwnedBy m c r) (hm : QueuesMove m m') : OwnedBy m' c r := by
  cases hm with
  | same => exact h
  | store r' q => exact h
  | remove c₁ =>
      refine ⟨h.1, fun c' hget => ?_⟩
      by_cases hc : c' = c₁
      · subst hc
        exact absurd hget (by simp [FIFOQueueMap.get, FIFOQueueMap.remove])
      · exact h.2 c' (by rwa [FIFOQueueMap.get_remove_ne m hc] at hget)
  | create c₁ =>
      unfold FIFOQueueMap.getOrCreate
      split
      · exact h
      · refine ⟨Nat.lt_succ_of_lt h.1, fun c' hget => ?_⟩
        by_cases hc : c' = c₁
        · subst hc
          have hnext : m.next = r := by simpa [FIFOQueueMap.get, FIFOQueueMap.create] using hget
          exact absurd h.1 (hnext ▸ Nat.lt_irrefl _)
        · exact h.2 c' (by simpa [FIFOQueueMap.get, FIFOQueueMap.create, hc] using hget)

end Queues

/-! ## Where the pending ids come from -/

/-- The queue object an operation of `CompleteRequest` holds. -/
def completingRef : ServerCompleting → Option QueueRef
  | .peek r | .pop r => some r
  | _ => none

/-- The pump's own `CompleteRequest`: client, id, and what is left of it. -/
def pumpCompleting : ServerPumpPC → Option (String × String × ServerCompleting)
  | .timedOut c p k | .failed c p _ k => some (c, p.id, k)
  | _ => none

/-- Whoever completes a request for a client holds a queue of that client. -/
structure RefsOwned (s : ServerSteps) : Prop where
  call : ∀ (t : Nat) (c id : String) (k : ServerCompleting) (r : QueueRef),
    s.calls[t]? = some (.completing c id k) → completingRef k = some r → OwnedBy s.queueMap c r
  pump : ∀ c id k r, pumpCompleting s.pump = some (c, id, k) → completingRef k = some r →
    OwnedBy s.queueMap c r

/-- Some call is about to take the id out of the slot. -/
def CallDeparts (calls : List ServerCall) (c id : String) : Prop :=
  ∃ (t : Nat) (pc : ServerCall), calls[t]? = some pc ∧ departs c id pc = true

/-- The pump is writing the request, or has not removed it after its `Write` failed. -/
def InHand (pc : ServerPumpPC) (c : String) (r : QueueRef) (p : Posted) : Prop :=
  pc = .write c p ∨ ∃ text k, pc = .failed c p text k ∧ (k = .get ∨ completingRef k = some r)

/-- The pending id is on its way out, or belongs to the head of the queue. -/
def SlotBacked (s : ServerSteps) (c : String) : Prop :=
  pendingID s c ≠ "" →
    (CallDeparts s.calls c (pendingID s c)
        ∨ pumpCompleting s.pump = some (c, pendingID s c, .delete))
      ∨ ∃ r p, HeadAt s.queueMap c r p ∧ p.id = pendingID s c
          ∧ ((c, p) ∈ s.sent ∨ InHand s.pump c r p)

/-- What the pump found so far is still so. -/
def ReadsAt (s : ServerSteps) : ServerPumpPC → Prop
  | .timeoutGet c pending =>
      ∃ r p, HeadAt s.queueMap c r p ∧ p.id = pending ∧ (c, p) ∈ s.sent
  | .timeoutPeek c r pending => ∃ p, HeadAt s.queueMap c r p ∧ p.id = pending ∧ (c, p) ∈ s.sent
  | .timedOut c p _ | .reportTimedOut c p => (c, p) ∈ s.sent
  | .dispatchPeek c r => s.queueMap.get c = some r
  | .addPending c p => ∃ r, HeadAt s.queueMap c r p
  | _ => True

/-- What the timer branch relies on. -/
structure TimerSound (s : ServerSteps) : Prop where
  refs : RefsOwned s
  slots : ∀ c, SlotBacked s c
  reads : ReadsAt s s.pump
  /-- What was reported as timed out was written. -/
  reported : ∀ c p, ServerSteps.timedOutReport c p ∈ s.canceled → (c, p) ∈ s.sent

theorem timerSound_start (n : Nat) (timeout : Int) : TimerSound (ServerSteps.start n timeout) where
  refs :=
    { call := by intro t c id k r h; exact absurd h (by simp [ServerSteps.start])
      pump := by intro c id k r h; exact absurd h (by simp [ServerSteps.start, pumpCompleting]) }
  slots := by intro c h; exact absurd rfl h
  reads := trivial
  reported := by intro c p h; exact absurd h (by simp [ServerSteps.start])

section Step

variable {s s' s₁ : ServerSteps} {a : ServerSteps.Action} {c id : String} {k : ServerCompleting}
  {o : Option ServerCompleting}

/-! ## One operation of `CompleteRequest` -/

theorem StepCompletes.queues (hc : StepCompletes s c id k s₁ o) :
    QueuesMove s.queueMap s₁.queueMap := by
  cases hc with
  | pop r => exact .store r _
  | _ => exact .same

/-- Only a `Pop` takes a head away, that of its own client, with the id it completes. -/
theorem StepCompletes.head (hc : StepCompletes s c id k s₁ o)
    (hown : ∀ r, completingRef k = some r → OwnedBy s.queueMap c r)
    (hpop : ∀ r, k = .pop r → headID s r = some id) {c₀ : String} {r₀ : QueueRef} {p : Posted}
    (h : HeadAt s.queueMap c₀ r₀ p) :
    HeadAt s₁.queueMap c₀ r₀ p ∨ c₀ = c ∧ p.id = id ∧ k = .pop r₀ ∧ o = some .delete := by
  cases hc with
  | pop r =>
      by_cases hr : r = r₀
      · subst hr
        have hid := hpop r rfl
        rw [headID, h.2] at hid
        exact Or.inr ⟨(hown r rfl).2 c₀ h.1, Option.some.inj hid, rfl, rfl⟩
      · exact Or.inl (h.store_ne hr _)
  | _ => exact Or.inl h

/-- A slot that is still taken holds the id it held, and not one that was just deleted. -/
theorem StepCompletes.slot (hc : StepCompletes s c id k s₁ o) {c₀ : String}
    (h : pendingID s₁ c₀ ≠ "") :
    pendingID s₁ c₀ = pendingID s c₀ ∧ ¬ (k = .delete ∧ c₀ = c ∧ pendingID s c₀ = id) := by
  cases hc with
  | delete =>
      rw [pendingID, ServerState.clientState_delete] at h ⊢
      by_cases hc₀ : c₀ = c
      · subst hc₀
        rw [if_pos rfl, ClientState.deletePendingRequest_requestID] at h ⊢
        split at h
        · exact absurd rfl h
        · rename_i hne
          rw [if_neg hne]
          exact ⟨rfl, fun hd => hne hd.2.2⟩
      · rw [if_neg hc₀]
        exact ⟨rfl, fun hd => hc₀ hd.2.1⟩
  | noQueue _ => exact ⟨rfl, by simp⟩
  | got r _ => exact ⟨rfl, by simp⟩
  | mismatch r _ => exact ⟨rfl, by simp⟩
  | found r p _ _ => exact ⟨rfl, by simp⟩
  | pop r => exact ⟨rfl, by simp⟩
  | ready _ => exact ⟨rfl, by simp⟩

/-- The queue held next is the client's. -/
theorem StepCompletes.owned (hc : StepCompletes s c id k s₁ o)
    (hown : ∀ r, completingRef k = some r → OwnedBy s.queueMap c r) {k' : ServerCompleting}
    {r : QueueRef} (ho : o = some k') (hr : completingRef k' = some r) :
    OwnedBy s₁.queueMap c r := by
  cases hc with
  | got r' hget =>
      cases ho
      cases hr
      exact .of_get hget
  | found r' p _ _ =>
      cases ho
      cases hr
      exact hown _ rfl
  | noQueue _ => exact absurd ho (by simp)
  | mismatch r' _ => exact absurd ho (by simp)
  | pop r' => cases ho; exact absurd hr (by simp [completingRef])
  | delete => cases ho; exact absurd hr (by simp [completingRef])
  | ready _ => exact absurd ho (by simp)

/-! ## Keeping a slot backed -/

theorem CallDeparts.set {calls : List ServerCall} {t : Nat} {pc pc' : ServerCall}
    (h : CallDeparts calls c id) (ht : calls[t]? = some pc)
    (hpc : departs c id pc = true → departs c id pc' = true) :
    CallDeparts (calls.set t pc') c id := by
  obtain ⟨u, x, hu, hx⟩ := h
  by_cases hut : u = t
  · subst hut
    rw [ht] at hu
    cases hu
    exact ⟨u, pc', List.getElem?_set_self (List.getElem?_eq_some_iff.mp ht).1, hpc hx⟩
  · exact ⟨u, x, by rwa [List.getElem?_set_ne (fun e => hut e.symm)], hx⟩

theorem CallDeparts.kept (h : CallDeparts s.calls c id) (hk : CallsKept s s') :
    CallDeparts s'.calls c id := by
  obtain ⟨u, x, hu, hx⟩ := h
  refine ⟨u, x, hk.forth u x hu ?_, hx⟩
  cases x <;> first | rfl | exact absurd hx (by simp [departs])

/-- A slot stays backed while the evidence for it does, or gives way to a departure. -/
theorem SlotBacked.keep (h : SlotBacked s c)
    (hslot : pendingID s' c ≠ "" → pendingID s' c = pendingID s c)
    (hcall : pendingID s' c ≠ "" → CallDeparts s.calls c (pendingID s c) →
      CallDeparts s'.calls c (pendingID s c))
    (hpump : pendingID s' c ≠ "" → pumpCompleting s.pump = some (c, pendingID s c, .delete) →
      pumpCompleting s'.pump = some (c, pendingID s c, .delete))
    (hhead : ∀ r p, HeadAt s.queueMap c r p → p.id = pendingID s c →
      (c, p) ∈ s.sent ∨ InHand s.pump c r p →
      (CallDeparts s'.calls c p.id ∨ pumpCompleting s'.pump = some (c, p.id, .delete))
        ∨ HeadAt s'.queueMap c r p ∧ ((c, p) ∈ s'.sent ∨ InHand s'.pump c r p)) :
    SlotBacked s' c := by
  intro hne
  have he := hslot hne
  rw [he]
  rcases h (he ▸ hne) with (hdep | hdel) | ⟨r, p, hp, hid, hev⟩
  · exact Or.inl (Or.inl (hcall hne hdep))
  · exact Or.inl (Or.inr (hpump hne hdel))
  · rcases hhead r p hp hid hev with hdep | ⟨hp', hev'⟩
    · exact Or.inl (hid ▸ hdep)
    · exact Or.inr ⟨r, p, hp', hid, hev'⟩

theorem InHand.holding {pc : ServerPumpPC} {r : QueueRef} {p : Posted} (h : InHand pc c r p) :
    holding pc = true := by
  rcases h with rfl | ⟨text, k, rfl, _⟩ <;> rfl

theorem holding_of_completing {pc : ServerPumpPC} {x : String × String × ServerCompleting}
    (h : pumpCompleting pc = some x) : holding pc = true := by
  cases pc <;> first | rfl | exact absurd h (by simp [pumpCompleting])

theorem InHand.completing {pc : ServerPumpPC} {c₀ : String} {r : QueueRef} {p : Posted}
    (h : InHand pc c₀ r p) (hat : pumpCompleting pc = some (c, id, k)) : c₀ = c ∧ p.id = id := by
  rcases h with rfl | ⟨text, k', rfl, _⟩
  · exact absurd hat (by simp [pumpCompleting])
  · simp only [pumpCompleting, Option.some.injEq, Prod.mk.injEq] at hat
    exact ⟨hat.1, hat.2.1⟩

/-- The pump moves on without having had a request in its hands. -/
theorem SlotBacked.idle (h : SlotBacked s c) (hpc : holding s.pump = false)
    (hq : s'.queueMap = s.queueMap) (hp : pendingID s' c = pendingID s c) (hs : s'.sent = s.sent)
    (hk : CallsKept s s') : SlotBacked s' c := by
  have hfree : holding s.pump ≠ true := by rw [hpc]; simp
  refine h.keep (fun _ => hp) (fun _ hd => hd.kept hk) ?_ ?_
  · intro _ hd
    exact absurd (holding_of_completing hd) hfree
  · intro r p hhead _ hev
    rcases hev with hsent | hhand
    · exact Or.inr ⟨hq ▸ hhead, Or.inl (hs ▸ hsent)⟩
    · exact absurd hhand.holding hfree

/-- The pump takes an operation of its own `CompleteRequest`. -/
theorem SlotBacked.pumpCompletes {c₀ : String} {pc' : ServerPumpPC} (h : SlotBacked s c₀)
    (hat : pumpCompleting s.pump = some (c, id, k)) (hc : StepCompletes s c id k s₁ o)
    (hown : ∀ r, completingRef k = some r → OwnedBy s.queueMap c r)
    (hpop : ∀ r, k = .pop r → headID s r = some id)
    (hnext : ∀ k', o = some k' → pumpCompleting pc' = some (c, id, k'))
    (hhand : ∀ r p, HeadAt s.queueMap c₀ r p → InHand s.pump c₀ r p → o ≠ some .delete →
      InHand pc' c₀ r p) :
    SlotBacked { s₁ with pump := pc' } c₀ := by
  refine h.keep (fun hne => (hc.slot hne).1) (fun _ hd => by rwa [← hc.calls] at hd) ?_ ?_
  · intro hne hd
    rw [hat] at hd
    simp only [Option.some.injEq, Prod.mk.injEq] at hd
    exact absurd ⟨hd.2.2, hd.1.symm, hd.2.1.symm⟩ (hc.slot hne).2
  · intro r p hp _ hev
    rcases hc.head hown hpop hp with hp' | ⟨rfl, hid, _, ho⟩
    · rcases hev with hs | hh
      · exact Or.inr ⟨hp', Or.inl (by rw [← hc.sent] at hs; exact hs)⟩
      · by_cases ho : o = some .delete
        · -- the pump removes what it had in its hands
          obtain ⟨hc₀, hid⟩ := hh.completing hat
          subst hc₀
          exact Or.inl (Or.inr (by rw [hid]; exact hnext _ ho))
        · exact Or.inr ⟨hp', Or.inr (hhand r p hp hh ho)⟩
    · exact Or.inl (Or.inr (by rw [hid]; exact hnext _ ho))

/-- A reader takes an operation of `CompleteRequest`. -/
theorem SlotBacked.callCompletes {c₀ : String} {t : Nat} (h : SlotBacked s c₀)
    (ht : s.calls[t]? = some (.completing c id k)) (hc : StepCompletes s c id k s₁ o)
    (hown : ∀ r, completingRef k = some r → OwnedBy s.queueMap c r)
    (hpop : ∀ r, k = .pop r → headID s r = some id) :
    SlotBacked { s₁ with calls := s₁.calls.set t (callNext c id o) } c₀ := by
  refine h.keep (fun hne => (hc.slot hne).1) ?_ (fun _ hd => by rwa [← hc.pump] at hd) ?_
  · intro hne hd
    dsimp only
    rw [hc.calls]
    refine hd.set ht (fun hdep => absurd ?_ (hc.slot hne).2)
    cases k with
    | delete =>
        simp only [departs, Bool.and_eq_true, beq_iff_eq] at hdep
        exact ⟨rfl, hdep.1.symm, hdep.2.symm⟩
    | _ => exact absurd hdep (by simp [departs])
  · intro r p hp _ hev
    rcases hc.head hown hpop hp with hp' | ⟨rfl, hid, _, ho⟩
    · refine Or.inr ⟨hp', ?_⟩
      dsimp only
      rw [hc.sent, hc.pump]
      exact hev
    · refine Or.inl (Or.inl ⟨t, callNext c₀ id o, ?_, by rw [ho]; simp [callNext, departs, hid]⟩)
      dsimp only
      rw [hc.calls]
      exact List.getElem?_set_self (List.getElem?_eq_some_iff.mp ht).1

/-- What the pump holds after a failed `Write` stays in its hands until it is popped. -/
theorem StepCompletes.hand {p : Posted} {text : String}
    (hc : StepCompletes s c p.id k s₁ o) {c₀ : String} {r₀ : QueueRef} {p₀ : Posted}
    (hp : HeadAt s.queueMap c₀ r₀ p₀) (hh : InHand (.failed c p text k) c₀ r₀ p₀)
    (ho : o ≠ some .delete) :
    InHand (pumpNext (fun k' => .failed c p text k') (.reportFailed c p text) o) c₀ r₀ p₀ := by
  rcases hh with hw | ⟨text', k', hk, hat⟩
  · exact absurd hw (by simp)
  · cases hk
    cases hc with
    | noQueue hget => rw [HeadAt, hget] at hp; exact absurd hp.1 (by simp)
    | got r hget =>
        have hr : r = r₀ := by rw [HeadAt, hget] at hp; exact Option.some.inj hp.1
        exact Or.inr ⟨text, _, rfl, Or.inr (by rw [hr]; rfl)⟩
    | mismatch r hne =>
        have hr : r = r₀ := by simpa [completingRef] using hat
        subst hr
        exact absurd rfl (hne p hp.2)
    | found r p' _ _ =>
        have hr : r = r₀ := by simpa [completingRef] using hat
        exact Or.inr ⟨text, _, rfl, Or.inr (by rw [hr]; rfl)⟩
    | pop r => exact absurd rfl ho
    | delete => exact absurd hat (by simp [completingRef])
    | ready _ => exact absurd hat (by simp [completingRef])

/-! ## The step lemmas -/

theorem undisturbed_pop {t : Nat} (hok : serverUndisturbed s (.call t) = true)
    (ht : s.calls[t]? = some (.completing c id k)) {r : QueueRef} (hk : k = .pop r) :
    headID s r = some id ∧ pumpReads s.pump ≠ some c := by
  subst hk
  simpa [serverUndisturbed, ht, callUndisturbed] using hok

theorem undisturbed_remove {t : Nat} (hok : serverUndisturbed s (.call t) = true)
    (ht : s.calls[t]? = some (.remove c)) : pumpReads s.pump ≠ some c := by
  simpa [serverUndisturbed, ht, callUndisturbed] using hok

/-- The queues after a step. -/
theorem StepMove.queues (hm : StepMove s a s') : QueuesMove s.queueMap s'.queueMap := by
  cases hm with
  | idle _ _ _ _ hq => rw [hq]; exact .same
  | write c p _ _ _ hq => rw [hq]; exact .same
  | callMoves t pc pc' _ _ _ _ _ hq => rw [hq]; exact .same
  | timedOut _ c p k s₁ o _ hc => exact hc.queues
  | failed _ c p text k s₁ o _ hc => exact hc.queues
  | callCompletes t c id k s₁ o _ hc => exact hc.queues
  | push t c r req q _ _ => exact .store r q
  | remove t c _ => exact .remove c
  | createClient c => exact .create c
  | _ => exact .same

theorem pendingID_getClientState (s : ServerSteps) (c c₀ : String) :
    pendingID { s with pendingRequestState := (s.pendingRequestState.getClientState c).1 } c₀
      = pendingID s c₀ := by
  rw [pendingID, ServerState.clientState_getClientState]
  rfl

/-- `AddPendingRequest` takes a free slot, and leaves one that is taken. -/
theorem pendingID_addPending (s : ServerSteps) (c c₀ : String) (p : Posted) (pc : ServerPumpPC) :
    pendingID { s with
        pendingRequestState := s.pendingRequestState.addPendingRequest c p.id p.payload
        pump := pc } c₀
      = if c₀ = c ∧ p.id ≠ "" ∧ pendingID s c = "" then p.id else pendingID s c₀ := by
  rw [pendingID, ServerState.clientState_add]
  by_cases hc : c₀ = c
  · subst hc
    rw [if_pos rfl, ClientState.addPendingRequest_requestID]
    simp [pendingID]
  · rw [if_neg hc, if_neg (fun h => hc h.1)]
    rfl

/-- **Every step keeps the slots backed.** -/
theorem slotBacked_step (h : TimerSound s) (hok : serverUndisturbed s a = true)
    (hm : StepMove s a s') (c₀ : String) : SlotBacked s' c₀ := by
  have hback := h.slots c₀
  cases hm with
  | idle _ _ hpc _ hq hp hs _ hk => exact hback.idle hpc hq (by rw [pendingID, hp]; rfl) hs hk
  | seesPending w c hpc _ => exact hback.idle (by rw [hpc]; rfl) rfl rfl rfl (.of_eq rfl)
  | timeoutGet w c pending r hpc _ => exact hback.idle (by rw [hpc]; rfl) rfl rfl rfl (.of_eq rfl)
  | timeoutPeek w c pending r p hpc _ =>
      exact hback.idle (by rw [hpc]; rfl) rfl rfl rfl (.of_eq rfl)
  | timedOut w c p k s₁ o hpc hc =>
      have hat : pumpCompleting s.pump = some (c, p.id, k) := by rw [hpc]; rfl
      refine hback.pumpCompletes hat hc (fun r => h.refs.pump c p.id k r hat) ?_ ?_ ?_
      · rintro r rfl
        simpa [serverUndisturbed, hpc, pumpUndisturbed] using hok
      · rintro k' rfl
        rfl
      · intro r q _ hh _
        rw [hpc] at hh
        rcases hh with hw | ⟨_, _, hf, _⟩
        · exact absurd hw (by simp)
        · exact absurd hf (by simp)
  | reportTimedOut w c p hpc => exact hback.idle (by rw [hpc]; rfl) rfl rfl rfl (.of_eq rfl)
  | commit w c hpc _ => exact hback.idle (by rw [hpc]; rfl) rfl rfl rfl (.of_eq rfl)
  | dispatchGet w c r hpc _ => exact hback.idle (by rw [hpc]; rfl) rfl rfl rfl (.of_eq rfl)
  | dispatchPeek w c r p hpc _ => exact hback.idle (by rw [hpc]; rfl) rfl rfl rfl (.of_eq rfl)
  | mark w c p hpc =>
      have hslot := pendingID_addPending s c c₀ p (.write c p)
      split at hslot
      · -- the slot was free, and is now that of the head
        rename_i hnew
        obtain ⟨rfl, _, _⟩ := hnew
        have hreads := h.reads
        rw [hpc] at hreads
        obtain ⟨r, hp⟩ := hreads
        exact fun _ => Or.inr ⟨r, p, hp, hslot.symm, Or.inr (Or.inl rfl)⟩
      · exact hback.idle (by rw [hpc]; rfl) rfl hslot rfl (.of_eq rfl)
  | write c p s' hpc _ hq hp hs _ _ hk =>
      refine hback.keep (fun _ => by rw [pendingID, hp]; rfl) (fun _ hd => hd.kept hk) ?_ ?_
      · intro _ hd
        rw [hpc] at hd
        exact absurd hd (by simp [pumpCompleting])
      · intro r q hhead _ hev
        refine Or.inr ⟨hq ▸ hhead, Or.inl ?_⟩
        rw [hs]
        rcases hev with hsent | hh
        · exact List.mem_append_left _ hsent
        · rw [hpc] at hh
          rcases hh with hw | ⟨_, _, hf, _⟩
          · cases hw
            exact List.mem_append_right _ (List.mem_singleton.mpr rfl)
          · exact absurd hf (by simp)
  | writeFails text c p hpc =>
      refine hback.keep (fun _ => rfl) (fun _ hd => hd) ?_ ?_
      · intro _ hd
        rw [hpc] at hd
        exact absurd hd (by simp [pumpCompleting])
      · intro r q hhead _ hev
        refine Or.inr ⟨hhead, hev.imp_right (fun hh => ?_)⟩
        rw [hpc] at hh
        rcases hh with hw | ⟨_, _, hf, _⟩
        · cases hw
          exact Or.inr ⟨text, .get, rfl, Or.inl rfl⟩
        · exact absurd hf (by simp)
  | failed w c p text k s₁ o hpc hc =>
      have hat : pumpCompleting s.pump = some (c, p.id, k) := by rw [hpc]; rfl
      refine hback.pumpCompletes hat hc (fun r => h.refs.pump c p.id k r hat) ?_ ?_ ?_
      · rintro r rfl
        simpa [serverUndisturbed, hpc, pumpUndisturbed] using hok
      · rintro k' rfl
        rfl
      · intro r q hhead hh ho
        rw [hpc] at hh
        exact hc.hand hhead hh ho
  | reportFailed w c p text hpc => exact hback.idle (by rw [hpc]; rfl) rfl rfl rfl (.of_eq rfl)
  | crash w hpc =>
      refine hback.idle ?_ rfl rfl rfl (.of_eq rfl)
      rcases hpc with ⟨_, _, hpc, _⟩ | ⟨_, _, _, hpc, _⟩ | ⟨_, _, hpc⟩ <;> rw [hpc] <;> rfl
  | start op =>
      refine hback.keep (fun _ => rfl) ?_ (fun _ hd => hd) (fun r p hp _ hev => Or.inr ⟨hp, hev⟩)
      rintro _ ⟨t, pc, ht, hd⟩
      exact ⟨t, pc, by
        rw [List.getElem?_append_left (List.getElem?_eq_some_iff.mp ht).1]; exact ht, hd⟩
  | callMoves t pc pc' _ ht hon hcalls hpump hq hp hs _ _ =>
      refine hback.keep (fun _ => by rw [pendingID, hp]; rfl) ?_ (fun _ hd => hpump ▸ hd) ?_
      · intro _ hd
        rw [hcalls]
        refine hd.set ht (fun hdep => ?_)
        cases hon with
        | removeSignaled c => exact hdep
        | _ => exact absurd hdep (by simp [departs])
      · intro r p hhead _ hev
        rw [hq, hs, hpump]
        exact Or.inr ⟨hhead, hev⟩
  | push t c r req q ht hq =>
      refine hback.keep (fun _ => rfl) ?_ (fun _ hd => hd)
        (fun r' p hp _ hev => Or.inr ⟨hp.push hq, hev⟩)
      exact fun _ hd => hd.set ht (fun hdep => absurd hdep (by simp [departs]))
  | callCompletes t c id k s₁ o ht hc =>
      exact hback.callCompletes ht hc (fun r => h.refs.call t c id k r ht)
        (fun r hk => (undisturbed_pop hok ht hk).1)
  | remove t c ht =>
      by_cases hc₀ : c₀ = c
      · subst hc₀
        refine fun _ => Or.inl (Or.inl ⟨t, .removeSignal c₀, ?_, by simp [departs]⟩)
        exact List.getElem?_set_self (List.getElem?_eq_some_iff.mp ht).1
      · refine hback.keep (fun _ => rfl) ?_ (fun _ hd => hd)
          (fun r p hp _ hev => Or.inr ⟨hp.remove_ne hc₀, hev⟩)
        exact fun _ hd => hd.set ht (fun hdep => absurd hdep (by simp [departs]))
  | clear t c ht =>
      have hslot : pendingID { s with
            pendingRequestState := s.pendingRequestState.clearClientPendingRequest c
            calls := s.calls.set t .returned } c₀ = if c₀ = c then "" else pendingID s c₀ := by
        rw [pendingID, ServerState.clientState_clear]
        split <;> rfl
      by_cases hc₀ : c₀ = c
      · rw [if_pos hc₀] at hslot
        exact fun hne => absurd hslot hne
      · rw [if_neg hc₀] at hslot
        refine hback.keep (fun _ => hslot) ?_ (fun _ hd => hd)
          (fun r p hp _ hev => Or.inr ⟨hp, hev⟩)
        refine fun _ hd => hd.set ht (fun hdep => ?_)
        simp only [departs, beq_iff_eq] at hdep
        exact absurd hdep.symm hc₀
  | createClient c =>
      exact hback.keep (fun _ => rfl) (fun _ hd => hd) (fun _ hd => hd)
        (fun r p hp _ hev => Or.inr ⟨hp.getOrCreate c, hev⟩)
  | getClientState c =>
      exact hback.keep (fun _ => pendingID_getClientState s c c₀) (fun _ hd => hd) (fun _ hd => hd)
        (fun r p hp _ hev => Or.inr ⟨hp, hev⟩)

theorem completing_of_unburdened {pc : ServerPumpPC} (h : unburdened pc = true) :
    pumpCompleting pc = none := by
  cases pc <;> first | rfl | exact absurd h (by simp [unburdened])

theorem ReadsAt.of_unburdened {pc : ServerPumpPC} (h : unburdened pc = true) : ReadsAt s pc := by
  cases pc <;> trivial

/-- A call that holds a queue held it before, or has just got it. -/
theorem callRef_step (h : RefsOwned s) (hm : StepMove s a s') {t : Nat} {r : QueueRef}
    (ht : s'.calls[t]? = some (.completing c id k)) (hr : completingRef k = some r) :
    s.calls[t]? = some (.completing c id k) ∨ OwnedBy s'.queueMap c r := by
  cases hm with
  | idle _ _ _ _ _ _ _ _ hk => exact Or.inl ((hk.back t _ ht).resolve_right (by simp [callIdle]))
  | write c p _ _ _ _ _ _ _ _ hk =>
      exact Or.inl ((hk.back t _ ht).resolve_right (by simp [callIdle]))
  | start op =>
      rcases getElem?_snoc ht with ht | ⟨_, he⟩
      · exact Or.inl ht
      · cases op <;> cases he
        exact absurd hr (by simp [completingRef])
  | callMoves u pc pc' _ _ hon hcalls =>
      rw [hcalls] at ht
      rcases getElem?_replaced ht with ⟨_, he⟩ | ⟨_, ht⟩
      · subst he
        cases hon
      · exact Or.inl ht
  | push u c' r' req q _ _ =>
      exact Or.inl ((getElem?_replaced ht).resolve_left (by simp)).2
  | callCompletes u c' id' k' s₁ o hu hc =>
      dsimp only at ht
      rw [hc.calls] at ht
      rcases getElem?_replaced ht with ⟨_, he⟩ | ⟨_, ht⟩
      · cases o with
        | none => exact absurd he (by simp [callNext])
        | some k'' =>
            cases he
            exact Or.inr (hc.owned (fun r => h.call u c id k' r hu) rfl hr)
      · exact Or.inl ht
  | remove u c' _ => exact Or.inl ((getElem?_replaced ht).resolve_left (by simp)).2
  | clear u c' _ => exact Or.inl ((getElem?_replaced ht).resolve_left (by simp)).2
  | timedOut _ c' p k' s₁ o _ hc => exact Or.inl (by rw [← hc.calls]; exact ht)
  | failed _ c' p text k' s₁ o _ hc => exact Or.inl (by rw [← hc.calls]; exact ht)
  | _ => exact Or.inl ht

/-- The queue the pump holds after an operation of its own `CompleteRequest`. -/
theorem RefsOwned.pumpNext (h : RefsOwned s) {c' id' : String} {k' : ServerCompleting}
    {pc' : ServerPumpPC} {r : QueueRef} (hat' : pumpCompleting s.pump = some (c', id', k'))
    (hc : StepCompletes s c' id' k' s₁ o)
    (hpc : pumpCompleting pc' = o.map (fun k'' => (c', id', k'')))
    (hat : pumpCompleting pc' = some (c, id, k)) (hr : completingRef k = some r) :
    OwnedBy s₁.queueMap c r := by
  rw [hpc] at hat
  obtain ⟨k'', ho, he⟩ := Option.map_eq_some_iff.mp hat
  cases he
  exact hc.owned (fun r => h.pump c id k' r hat') ho hr

/-- The same for the pump. -/
theorem pumpRef_step (h : RefsOwned s) (hm : StepMove s a s') {r : QueueRef}
    (hat : pumpCompleting s'.pump = some (c, id, k)) (hr : completingRef k = some r) :
    pumpCompleting s.pump = some (c, id, k) ∨ OwnedBy s'.queueMap c r := by
  cases hm with
  | idle _ _ _ hpc =>
      rw [completing_of_unburdened hpc] at hat
      exact absurd hat (by simp)
  | timeoutPeek _ c' pending r' p _ _ =>
      cases hat
      exact absurd hr (by simp [completingRef])
  | timedOut _ c' p k' s₁ o hpc hc =>
      have hown := h.pumpNext (by rw [hpc]; rfl) hc (by cases o <;> rfl) hat hr
      exact Or.inr hown
  | failed _ c' p text k' s₁ o hpc hc =>
      have hown := h.pumpNext (by rw [hpc]; rfl) hc (by cases o <;> rfl) hat hr
      exact Or.inr hown
  | writeFails text c' p _ =>
      cases hat
      exact absurd hr (by simp [completingRef])
  | write c' p _ _ hpc' => rw [hpc'] at hat; exact absurd hat (by simp [pumpCompleting])
  | callMoves u pc pc' _ _ _ _ hp => exact Or.inl (hp ▸ hat)
  | callCompletes u c' id' k' s₁ o _ hc => exact Or.inl (by rw [← hc.pump]; exact hat)
  | seesPending _ c' _ _ => exact absurd hat (by simp [pumpCompleting])
  | timeoutGet _ c' pending r' _ _ => exact absurd hat (by simp [pumpCompleting])
  | reportTimedOut _ c' p _ => exact absurd hat (by simp [pumpCompleting])
  | commit _ c' _ _ => exact absurd hat (by simp [pumpCompleting])
  | dispatchGet _ c' r' _ _ => exact absurd hat (by simp [pumpCompleting])
  | dispatchPeek _ c' r' p _ _ => exact absurd hat (by simp [pumpCompleting])
  | mark _ c' p _ => exact absurd hat (by simp [pumpCompleting])
  | reportFailed _ c' p text _ =>
      exact absurd hat (by simp [ServerSteps.endDispatch, pumpCompleting])
  | crash _ _ => exact absurd hat (by simp [pumpCompleting])
  | _ => exact Or.inl hat

theorem refsOwned_step (h : RefsOwned s) (hm : StepMove s a s') : RefsOwned s' where
  call t c id k r ht hr := by
    rcases callRef_step h hm ht hr with hold | hown
    · exact (h.call t c id k r hold hr).step hm.queues
    · exact hown
  pump c id k r hat hr := by
    rcases pumpRef_step h hm hat hr with hold | hown
    · exact (h.pump c id k r hold hr).step hm.queues
    · exact hown

/-- What the pump found stays so while the queue it looked at does. -/
theorem ReadsAt.keep {pc : ServerPumpPC} (h : ReadsAt s pc) (hs : s'.sent = s.sent)
    (hget : ∀ c r, pumpReads pc = some c → s.queueMap.get c = some r →
      s'.queueMap.get c = some r)
    (hhead : ∀ c r p, pumpReads pc = some c → HeadAt s.queueMap c r p →
      HeadAt s'.queueMap c r p) : ReadsAt s' pc := by
  cases pc with
  | timeoutGet c pending =>
      obtain ⟨r, p, hp, hid, hsent⟩ := h
      exact ⟨r, p, hhead c r p rfl hp, hid, hs ▸ hsent⟩
  | timeoutPeek c r pending =>
      obtain ⟨p, hp, hid, hsent⟩ := h
      exact ⟨p, hhead c r p rfl hp, hid, hs ▸ hsent⟩
  | timedOut c p k =>
      have hsent : (c, p) ∈ s.sent := h
      exact (hs ▸ hsent : (c, p) ∈ s'.sent)
  | reportTimedOut c p =>
      have hsent : (c, p) ∈ s.sent := h
      exact (hs ▸ hsent : (c, p) ∈ s'.sent)
  | dispatchPeek c r => exact hget c r rfl h
  | addPending c p =>
      obtain ⟨r, hp⟩ := h
      exact ⟨r, hhead c r p rfl hp⟩
  | _ => trivial

/-- **Every step keeps what the pump found.** -/
theorem readsAt_step (h : TimerSound s) (hok : serverUndisturbed s a = true)
    (hm : StepMove s a s') : ReadsAt s' s'.pump := by
  have hreads := h.reads
  cases hm with
  | idle _ _ _ hpc => exact .of_unburdened hpc
  | seesPending w c hpc hne =>
      -- nobody is about to empty the slot, so its id is that of a request that was written
      have hcalm : ∀ pc ∈ s.calls, departs c (pendingID s c) pc = false := by
        simpa [serverUndisturbed, hpc, pumpUndisturbed] using hok
      rcases h.slots c hne with (⟨t, pc, ht, hd⟩ | hd) | ⟨r, p, hp, hid, hev⟩
      · rw [hcalm pc (List.mem_of_getElem? ht)] at hd
        exact absurd hd (by simp)
      · rw [hpc] at hd
        exact absurd hd (by simp [pumpCompleting])
      · rcases hev with hsent | hh
        · exact ⟨r, p, hp, hid, hsent⟩
        · have hhold := hh.holding
          rw [hpc] at hhold
          exact absurd hhold (by simp [holding])
  | timeoutGet w c pending r hpc hget =>
      rw [hpc] at hreads
      obtain ⟨r', p, hp, hid, hsent⟩ := hreads
      have hr : r' = r := Option.some.inj (hp.1.symm.trans hget)
      exact ⟨p, hr ▸ hp, hid, hsent⟩
  | timeoutPeek w c pending r p hpc hpeek =>
      rw [hpc] at hreads
      obtain ⟨p', hp, _, hsent⟩ := hreads
      have hpp : p' = p := Option.some.inj (hp.2.symm.trans hpeek)
      exact (hpp ▸ hsent : (c, p) ∈ s.sent)
  | timedOut w c p k s₁ o hpc hc =>
      rw [hpc] at hreads
      have hsent : (c, p) ∈ s₁.sent := by rw [hc.sent]; exact hreads
      cases o with
      | none => exact hsent
      | some k' => exact hsent
  | dispatchGet w c r _ hget => exact hget
  | dispatchPeek w c r p hpc hpeek =>
      rw [hpc] at hreads
      exact ⟨r, hreads, hpeek⟩
  | write c p _ _ hpc' => rw [hpc']; trivial
  | failed w c p text k s₁ o _ _ =>
      cases o with
      | none => trivial
      | some k' => trivial
  | reportTimedOut w c p _ => trivial
  | commit w c _ _ => trivial
  | mark w c p _ => trivial
  | writeFails text c p _ => trivial
  | reportFailed w c p text _ => trivial
  | crash w _ => trivial
  | start op => exact hreads.keep rfl (fun _ _ _ hg => hg) (fun _ _ _ _ hp => hp)
  | callMoves t pc pc' _ _ _ _ hpump hq _ hs _ _ =>
      rw [hpump]
      exact hreads.keep hs (fun _ _ _ hg => hq ▸ hg) (fun _ _ _ _ hp => hq ▸ hp)
  | push t c r req q _ hq =>
      exact hreads.keep rfl (fun _ _ _ hg => hg) (fun _ _ _ _ hp => hp.push hq)
  | callCompletes t c id k s₁ o ht hc =>
      have hget : ∀ c₀ r, s.queueMap.get c₀ = some r → s₁.queueMap.get c₀ = some r := by
        intro c₀ r hg
        cases hc <;> exact hg
      dsimp only
      rw [hc.pump]
      refine hreads.keep hc.sent (fun c₀ r _ hg => hget c₀ r hg) (fun c₀ r p hrd hp => ?_)
      rcases hc.head (fun r => h.refs.call t c id k r ht)
        (fun r hk => (undisturbed_pop hok ht hk).1) hp with hp' | ⟨rfl, _, hk, _⟩
      · exact hp'
      · exact absurd hrd (undisturbed_pop hok ht hk).2
  | remove t c ht =>
      have hfree := undisturbed_remove hok ht
      refine hreads.keep rfl (fun c₀ r hrd hg => ?_) (fun c₀ r p hrd hp => ?_)
      · have hne : c₀ ≠ c := by rintro rfl; exact hfree hrd
        rw [FIFOQueueMap.get_remove_ne s.queueMap hne]
        exact hg
      · exact hp.remove_ne (by rintro rfl; exact hfree hrd)
  | clear t c _ => exact hreads.keep rfl (fun _ _ _ hg => hg) (fun _ _ _ _ hp => hp)
  | createClient c =>
      exact hreads.keep rfl (fun _ _ _ hg => FIFOQueueMap.get_getOrCreate_of_some hg c)
        (fun _ _ _ _ hp => hp.getOrCreate c)
  | getClientState c => exact hreads.keep rfl (fun _ _ _ hg => hg) (fun _ _ _ _ hp => hp)

/-- A report of a timeout is not one of a failed `Write`. -/
theorem timedOutReport_ne_failedReport (c c' : String) (p p' : Posted) (text : String) :
    ServerSteps.timedOutReport c p ≠ ServerSteps.failedReport c' p' text := by
  intro h
  have hcode : GenericError = InternalError := congrArg (fun x => x.err.code) h
  exact absurd hcode (by decide)

theorem reported_step (h : TimerSound s) (hm : StepMove s a s') :
    ∀ c p, ServerSteps.timedOutReport c p ∈ s'.canceled → (c, p) ∈ s'.sent := by
  intro c p hmem
  have hold := h.reported c p
  cases hm with
  | idle _ _ _ _ _ _ hs hcan _ => rw [hs]; exact hold (hcan ▸ hmem)
  | write c' p' _ _ _ _ _ hs hcan _ _ =>
      rw [hs]
      exact List.mem_append_left _ (hold (hcan ▸ hmem))
  | callMoves t pc pc' _ _ _ _ _ _ _ hs hcan _ => rw [hs]; exact hold (hcan ▸ hmem)
  | timedOut _ c' p' k s₁ o _ hc =>
      dsimp only at hmem ⊢
      rw [hc.sent]
      exact hold (hc.canceled ▸ hmem)
  | failed _ c' p' text k s₁ o _ hc =>
      dsimp only at hmem ⊢
      rw [hc.sent]
      exact hold (hc.canceled ▸ hmem)
  | callCompletes t c' id k s₁ o _ hc =>
      dsimp only at hmem ⊢
      rw [hc.sent]
      exact hold (hc.canceled ▸ hmem)
  | reportTimedOut _ c' p' hpc =>
      rcases List.mem_append.mp hmem with hmem | hmem
      · exact hold hmem
      · cases List.mem_singleton.mp hmem
        have hreads := h.reads
        rw [hpc] at hreads
        exact hreads
  | reportFailed _ c' p' text _ =>
      rcases List.mem_append.mp hmem with hmem | hmem
      · exact hold hmem
      · exact absurd (List.mem_singleton.mp hmem) (timedOutReport_ne_failedReport c c' p p' text)
  | _ => exact hold hmem

end Step

theorem timerSound_reachable {n : Nat} {timeout : Int} {s : ServerSteps}
    (h : ReachableWhile (ServerSteps.machine n timeout)
      (fun s a => serverUndisturbed s a = true) s) : TimerSound s := by
  refine ReachableWhile.invariant (P := TimerSound) ?_ ?_ h
  · rintro s rfl
    exact timerSound_start n timeout
  · intro s a s' _ hs hok hact
    have hm := act_stepMove hact
    exact
      { refs := refsOwned_step hs.refs hm
        slots := slotBacked_step hs hok hm
        reads := readsAt_step hs hok hm
        reported := reported_step hs hm }

/-! ## The timer branch -/

/--
**The timer branch cancels the request that was pending**, in every run in which
what was read is acted on while it is still so. After `HasPendingRequest(c)`
returned true, with `pending` the id in the slot, `Get` finds a queue and `Peek` a
bundle with that id, which was written; so nothing nil is dereferenced. And every
request ever reported as timed out was written before.
-/
theorem timer_branch_cancels_pending_request {n : Nat} {timeout : Int} {s : ServerSteps}
    (h : ReachableWhile (ServerSteps.machine n timeout)
      (fun s a => serverUndisturbed s a = true) s) :
    (∀ c pending, s.pump = .timeoutGet c pending →
      ∃ r p, s.queueMap.get c = some r ∧ (s.queueMap.deref r).peek = some p ∧ p.id = pending
        ∧ (c, p) ∈ s.sent
        ∧ ∀ w, s.act (.pump w) = some { s with pump := .timeoutPeek c r pending })
    ∧ (∀ c r pending, s.pump = .timeoutPeek c r pending →
      ∃ p, (s.queueMap.deref r).peek = some p ∧ p.id = pending ∧ (c, p) ∈ s.sent
        ∧ ∀ w, s.act (.pump w) = some { s with pump := .timedOut c p .get })
    ∧ ∀ c p, ServerSteps.timedOutReport c p ∈ s.canceled → (c, p) ∈ s.sent := by
  have hsound := timerSound_reachable h
  have hreads := hsound.reads
  refine ⟨?_, ?_, hsound.reported⟩
  · intro c pending hpc
    rw [hpc] at hreads
    obtain ⟨r, p, hp, hid, hsent⟩ := hreads
    refine ⟨r, p, hp.1, hp.2, hid, hsent, fun w => ?_⟩
    simp only [ServerSteps.act, ServerSteps.pumpStep, hpc, hp.1]
  · intro c r pending hpc
    rw [hpc] at hreads
    obtain ⟨p, hp, hid, hsent⟩ := hreads
    refine ⟨p, hp.2, hid, hsent, fun w => ?_⟩
    simp only [ServerSteps.act, ServerSteps.pumpStep, hpc, hp.2]

/--
Nobody else is busy with "A": the pump asks, and finds the request it wrote. The
answer of "B" comes in meanwhile, and its request has left the queue but not the slot.
-/
theorem lone_timeout_finds_request :
    ∃ s, ReachableWhile (ServerSteps.machine 0 30) (fun s a => serverUndisturbed s a = true) s
      ∧ s.pump = .timeoutGet "A" "1" ∧ s.calls.any (departs "B" "2") = true
      ∧ ∃ r p, s.queueMap.get "A" = some r ∧ (s.queueMap.deref r).peek = some p ∧ p.id = "1"
        ∧ ("A", p) ∈ s.sent
        ∧ ∀ w, s.act (.pump w) = some { s with pump := .timeoutPeek "A" r "1" } := by
  have hrun : ∃ s, (ServerSteps.machine 0 30).runWhile serverUndisturbed (ServerSteps.start 0 30)
        ([.createClient "A", .createClient "B"] ++ ServerSteps.sending 0 "A" "1"
          ++ ServerSteps.dispatching "A" ++ [.pump none] ++ ServerSteps.sending 2 "B" "2"
          ++ ServerSteps.dispatching "B" ++ [.pump none, .call 1, .call 1]
          ++ [.pump none, .select (.timer "A"), .start (.completeRequest "B" "2")]
          ++ [.call 4, .call 4, .call 4, .pump none]) = some s
      ∧ s.pump = .timeoutGet "A" "1" ∧ s.calls.any (departs "B" "2") = true := ⟨_, rfl, rfl, rfl⟩
  obtain ⟨s, hs, hpc, hanswer⟩ := hrun
  have hreach : ReachableWhile (ServerSteps.machine 0 30)
      (fun s a => serverUndisturbed s a = true) s :=
    ReachableWhile.runWhile (fun _ _ h => h) (.init rfl) _ hs
  exact ⟨s, hreach, hpc, hanswer, (timer_branch_cancels_pending_request hreach).1 "A" "1" hpc⟩

/-- A request is written to the only client, and its deadline passes. -/
def timingOutRun : List ServerSteps.Action :=
  .createClient "A" :: ServerSteps.sending 0 "A" "1" ++ ServerSteps.dispatching "A"
    ++ [.pump none, .call 1, .call 1, .pump none, .select (.timer "A")]

/--
After `HasPendingRequest("A")` returned true, "A" disconnects: the queue is gone,
and the pump dereferences nil. Or its response comes in: the pump takes the next
request of "A", which was never written, and reports that one as timed out.
-/
theorem disconnect_or_response_meets_timeout :
    (∃ s, Reachable (ServerSteps.machine 0 30) s ∧ s.pump = .timeoutGet "A" "1"
      ∧ s.act (.pump none) = some { s with pump := .crashed })
    ∧ ∃ s p, Reachable (ServerSteps.machine 0 30) s ∧ p.id = "2"
      ∧ ServerSteps.timedOutReport "A" p ∈ s.canceled ∧ s.sent.map (fun x => x.2.id) = ["1"] := by
  have hcrash : ∃ s, (ServerSteps.machine 0 30).run (ServerSteps.start 0 30)
        (timingOutRun ++ [.pump none, .start (.onClientDisconnected "A"), .call 2]) = some s
      ∧ s.pump = .timeoutGet "A" "1" ∧ s.act (.pump none) = some { s with pump := .crashed } :=
    ⟨_, rfl, rfl, rfl⟩
  have hnext : ∃ s p, (ServerSteps.machine 0 30).run (ServerSteps.start 0 30)
        (timingOutRun ++ [.pump none] ++ ServerSteps.sending 2 "A" "2"
          ++ .start (.completeRequest "A" "1") :: List.replicate 4 (.call 3)
          ++ List.replicate 8 (.pump none)) = some s
      ∧ p.id = "2" ∧ s.canceled = [ServerSteps.timedOutReport "A" p]
      ∧ s.sent.map (fun x => x.2.id) = ["1"] :=
    ⟨_, ⟨1, heartbeatBundle "2"⟩, rfl, rfl, rfl, rfl⟩
  obtain ⟨s₁, hs₁, hpc, hact⟩ := hcrash
  obtain ⟨s₂, p, hs₂, hid, hcan, hsent⟩ := hnext
  exact ⟨⟨s₁, Reachable.run (.init rfl) _ hs₁, hpc, hact⟩,
    s₂, p, Reachable.run (.init rfl) _ hs₂, hid, by rw [hcan]; exact List.mem_singleton.mpr rfl,
    hsent⟩

end OcppGo.Proof
