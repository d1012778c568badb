import OcppGo.Ocppj.ServerSteps
import OcppGo.Lib.Lists

/-!
# What a step of the server dispatcher can be

`StepMove` lists the steps of `OcppGo/Ocppj/ServerSteps.lean` as a relation, one
constructor for each thing that can happen, with its guard and what it leaves;
`act_stepMove` reads the program once. Most invariants read the queues, the pending
state, what was sent and canceled, and where the goroutines stand; for them a step
of the pump without a request in its hands is one constructor. `IdleStep` says
which of these steps it is, and what becomes of the channels and the contexts.
-/

namespace OcppGo.Proof

open OcppGo.Lib OcppGo.Ocppj

/-- The call touches neither queues nor pending state any more. -/
def callIdle : ServerCall → Bool
  | .returned | .refused | .handling _ _ | .waiting _ | .expired _ => true
  | _ => false

/-- Calls that still have to do with queues and pending state stay where they are. -/
structure CallsKept (s s' : ServerSteps) : Prop where
  back : ∀ (t : Nat) (pc : ServerCall), s'.calls[t]? = some pc →
    s.calls[t]? = some pc ∨ callIdle pc = true
  forth : ∀ (t : Nat) (pc : ServerCall), s.calls[t]? = some pc → callIdle pc = false →
    s'.calls[t]? = some pc

/-- The pump is between taking up a request and being through with it. -/
def holding : ServerPumpPC → Bool
  | .write _ _ | .failed _ _ _ _ | .timedOut _ _ _ => true
  | _ => false

/-- The pump has not taken up a request. -/
def unburdened : ServerPumpPC → Bool
  | .reqChan | .select | .requestGet _ | .hasPending _ | .readyGet _ | .test _ => true
  | _ => false

/-- One operation of `CompleteRequest(c, id)`. -/
inductive StepCompletes (s : ServerSteps) (c id : String) :
    ServerCompleting → ServerSteps → Option ServerCompleting → Prop where
  | noQueue : s.queueMap.get c = none → StepCompletes s c id .get s none
  | got (r : QueueRef) : s.queueMap.get c = some r → StepCompletes s c id .get s (some (.peek r))
  | mismatch (r : QueueRef) : (∀ p, (s.queueMap.deref r).peek = some p → p.id ≠ id) →
      StepCompletes s c id (.peek r) s none
  | found (r : QueueRef) (p : Posted) : (s.queueMap.deref r).peek = some p → p.id = id →
      StepCompletes s c id (.peek r) s (some (.pop r))
  | pop (r : QueueRef) :
      StepCompletes s c id (.pop r)
        { s with queueMap := s.queueMap.store r (s.queueMap.deref r).pop } (some .delete)
  | delete :
      StepCompletes s c id .delete
        { s with pendingRequestState := s.pendingRequestState.deletePendingRequest c id }
        (some .ready)
  | ready : s.readyForDispatch = [] →
      StepCompletes s c id .ready { s with readyForDispatch := [c] } none

section Completes

variable {s s₁ : ServerSteps} {c id : String} {k : ServerCompleting} {o : Option ServerCompleting}

/-- `CompleteRequest` moves no program counter but the caller's own. -/
theorem StepCompletes.pump (h : StepCompletes s c id k s₁ o) : s₁.pump = s.pump := by
  cases h <;> rfl

theorem StepCompletes.calls (h : StepCompletes s c id k s₁ o) : s₁.calls = s.calls := by
  cases h <;> rfl

theorem StepCompletes.sent (h : StepCompletes s c id k s₁ o) : s₁.sent = s.sent := by
  cases h <;> rfl

theorem StepCompletes.canceled (h : StepCompletes s c id k s₁ o) : s₁.canceled = s.canceled := by
  cases h <;> rfl

/-- It sends on `readyForDispatch` and on no other channel. -/
theorem StepCompletes.requestChannel (h : StepCompletes s c id k s₁ o) :
    s₁.requestChannel = s.requestChannel := by
  cases h <;> rfl

theorem StepCompletes.timerC (h : StepCompletes s c id k s₁ o) : s₁.timerC = s.timerC := by
  cases h <;> rfl

end Completes

/-- Where the pump stands after an operation of its `CompleteRequest`. -/
def pumpNext (next : ServerCompleting → ServerPumpPC) (done : ServerPumpPC) :
    Option ServerCompleting → ServerPumpPC
  | none => done
  | some k => next k

def callNext (c id : String) : Option ServerCompleting → ServerCall
  | none => .handling c id
  | some k => .completing c id k

/-- A call moves on without touching queues and pending state. -/
inductive CallOnward (s : ServerSteps) : ServerCall → ServerCall → Prop where
  | noQueue (c : String) (req : RequestBundle) : CallOnward s (.sendGet c req) .refused
  | gotQueue (c : String) (req : RequestBundle) (r : QueueRef) : s.queueMap.get c = some r →
      CallOnward s (.sendGet c req) (.push c r req)
  | full (c : String) (r : QueueRef) (req : RequestBundle) :
      CallOnward s (.push c r req) .refused
  | signaled (c : String) : CallOnward s (.signal c) .returned
  | handled (c id : String) : CallOnward s (.handling c id) .returned
  | removeSignaled (c : String) : CallOnward s (.removeSignal c) (.clear c)
  | deadline (c : String) : CallOnward s (.waiting c) (.expired c)
  | timed (c : String) : CallOnward s (.expired c) .returned

/-- The token a call sends on `requestChannel` when it moves on. -/
def sentRequest : ServerCall → List String
  | .signal c | .removeSignal c => [c]
  | _ => []

/-- The token a call sends on `timerC` when it moves on. -/
def sentTimer : ServerCall → List String
  | .expired c => [c]
  | _ => []

/-- The client's context is active no more, and nobody waits for it. -/
structure ContextEnded (s : ServerSteps) (c : String) (calls : List ServerCall)
    (contexts : String → Option (Option Nat)) : Prop where
  own : ∀ t, contexts c ≠ some (some t)
  other : ∀ x, x ≠ c → contexts x = s.clientContextMap x
  ended : ∀ t x, s.clientContextMap c = some (some t) → calls[t]? ≠ some (.waiting x)
  back : ∀ (u : Nat) pc, calls[u]? = some pc → s.calls[u]? = some pc ∨ pc = .returned
  forth : ∀ (u : Nat) pc, s.calls[u]? = some pc → (∀ x, pc ≠ .waiting x) → calls[u]? = some pc

/-- The steps of the pump with no request in its hands. -/
inductive IdleStep (s : ServerSteps) : ServerSteps.Action → ServerSteps → Prop where
  | reqChan (w : Option String) : s.pump = .reqChan →
      IdleStep s (.pump w) { s with pump := .select }
  | takeRequest (c : String) : s.pump = .select → s.requestChannel.head? = some c →
      IdleStep s (.select (.request c))
        { s with requestChannel := s.requestChannel.tail, pump := .requestGet c }
  | takeTimer (c : String) (calls : List ServerCall) (contexts : String → Option (Option Nat)) :
      s.pump = .select → s.timerC.head? = some c → ContextEnded s c calls contexts →
      IdleStep s (.select (.timer c))
        { s with
          calls := calls, clientContextMap := contexts
          timerC := s.timerC.tail, pump := .hasPending c }
  | takeReady (c : String) (calls : List ServerCall) (contexts : String → Option (Option Nat)) :
      s.pump = .select → s.readyForDispatch.head? = some c → ContextEnded s c calls contexts →
      IdleStep s (.select (.ready c))
        { s with
          calls := calls, clientContextMap := contexts
          readyForDispatch := s.readyForDispatch.tail, pump := .readyGet c }
  /-- The client was removed. -/
  | gone (w : Option String) (c : String) (calls : List ServerCall)
      (contexts : String → Option (Option Nat)) :
      s.pump = .requestGet c → s.queueMap.get c = none → ContextEnded s c calls contexts →
      IdleStep s (.pump w)
        { s with
          calls := calls, clientContextMap := contexts, clientQueue := none, pump := .reqChan }
  | requestGet (w : Option String) (c : String) (r : QueueRef) :
      s.pump = .requestGet c → s.queueMap.get c = some r →
      IdleStep s (.pump w)
        { s with clientQueue := some r, rdy := (s.activeContext c).isNone, pump := .test c }
  | nothingPending (w : Option String) (c : String) : s.pump = .hasPending c →
      (s.pendingRequestState.clientState c).requestID = "" →
      IdleStep s (.pump w) { s with pump := .test c }
  | readyGet (w : Option String) (c : String) : s.pump = .readyGet c →
      IdleStep s (.pump w)
        { s with
          clientQueue := s.queueMap.get c
          rdy := (s.queueMap.get c).isSome || s.rdy
          pump := .test c }
  /-- The test after the `select` comes out false. -/
  | leave (w : Option String) (c : String) : s.pump = .test c → s.dispatches = false →
      IdleStep s (.pump w) { s with pump := .reqChan }
  /-- A dispatch finds the client removed. -/
  | dispatchGone (w : Option String) (c : String) : s.pump = .dispatchGet c →
      s.queueMap.get c = none → IdleStep s (.pump w) (s.endDispatch c)

/-- The steps, each with its guard. -/
inductive StepMove (s : ServerSteps) : ServerSteps.Action → ServerSteps → Prop where
  /-- The pump moves on with no request in its hands, and may have taken a token. -/
  | idle (a : ServerSteps.Action) (s' : ServerSteps) : holding s.pump = false →
      unburdened s'.pump = true → s'.queueMap = s.queueMap →
      s'.pendingRequestState = s.pendingRequestState → s'.sent = s.sent →
      s'.canceled = s.canceled → CallsKept s s' → IdleStep s a s' → StepMove s a s'
  | seesPending (w : Option String) (c : String) : s.pump = .hasPending c →
      (s.pendingRequestState.clientState c).requestID ≠ "" →
      StepMove s (.pump w)
        { s with pump := .timeoutGet c (s.pendingRequestState.clientState c).requestID }
  | timeoutGet (w : Option String) (c pending : String) (r : QueueRef) :
      s.pump = .timeoutGet c pending → s.queueMap.get c = some r →
      StepMove s (.pump w) { s with pump := .timeoutPeek c r pending }
  | timeoutPeek (w : Option String) (c pending : String) (r : QueueRef) (p : Posted) :
      s.pump = .timeoutPeek c r pending → (s.queueMap.deref r).peek = some p →
      StepMove s (.pump w) { s with pump := .timedOut c p .get }
  | timedOut (w : Option String) (c : String) (p : Posted) (k : ServerCompleting)
      (s₁ : ServerSteps) (o : Option ServerCompleting) : s.pump = .timedOut c p k →
      StepCompletes s c p.id k s₁ o →
      StepMove s (.pump w)
        { s₁ with pump := pumpNext (fun k' => .timedOut c p k') (.reportTimedOut c p) o }
  | reportTimedOut (w : Option String) (c : String) (p : Posted) :
      s.pump = .reportTimedOut c p →
      StepMove s (.pump w)
        { s with
          canceled := s.canceled ++ [ServerSteps.timedOutReport c p], pump := .test c }
  /-- The test after the `select` comes out true. -/
  | commit (w : Option String) (c : String) : s.pump = .test c → s.dispatches = true →
      StepMove s (.pump w) { s with pump := .dispatchGet c }
  | dispatchGet (w : Option String) (c : String) (r : QueueRef) : s.pump = .dispatchGet c →
      s.queueMap.get c = some r → StepMove s (.pump w) { s with pump := .dispatchPeek c r }
  | dispatchPeek (w : Option String) (c : String) (r : QueueRef) (p : Posted) :
      s.pump = .dispatchPeek c r → (s.queueMap.deref r).peek = some p →
      StepMove s (.pump w) { s with pump := .addPending c p }
  | mark (w : Option String) (c : String) (p : Posted) : s.pump = .addPending c p →
      StepMove s (.pump w)
        { s with
          pendingRequestState := s.pendingRequestState.addPendingRequest c p.id p.payload
          pump := .write c p }
  | write (c : String) (p : Posted) (s' : ServerSteps) : s.pump = .write c p →
      s'.pump = .reqChan → s'.queueMap = s.queueMap →
      s'.pendingRequestState = s.pendingRequestState → s'.sent = s.sent ++ [(c, p)] →
      s'.canceled = s.canceled → s'.readyForDispatch = s.readyForDispatch → CallsKept s s' →
      s' = s.written c p → StepMove s (.pump none) s'
  | writeFails (text : String) (c : String) (p : Posted) : s.pump = .write c p →
      StepMove s (.pump (some text)) { s with pump := .failed c p text .get }
  | failed (w : Option String) (c : String) (p : Posted) (text : String) (k : ServerCompleting)
      (s₁ : ServerSteps) (o : Option ServerCompleting) : s.pump = .failed c p text k →
      StepCompletes s c p.id k s₁ o →
      StepMove s (.pump w)
        { s₁ with pump := pumpNext (fun k' => .failed c p text k') (.reportFailed c p text) o }
  | reportFailed (w : Option String) (c : String) (p : Posted) (text : String) :
      s.pump = .reportFailed c p text →
      StepMove s (.pump w)
        (ServerSteps.endDispatch
          { s with canceled := s.canceled ++ [ServerSteps.failedReport c p text] } c)
  /-- The timer branch, or a dispatch, finds no queue or no request. -/
  | crash (w : Option String) :
      (∃ c pending, s.pump = .timeoutGet c pending ∧ s.queueMap.get c = none)
        ∨ (∃ c r pending, s.pump = .timeoutPeek c r pending ∧ (s.queueMap.deref r).peek = none)
        ∨ (∃ c r, s.pump = .dispatchPeek c r) →
      StepMove s (.pump w) { s with pump := .crashed }
  | start (op : ServerOperation) :
      StepMove s (.start op) { s with calls := s.calls ++ [op.entry] }
  | callMoves (t : Nat) (pc pc' : ServerCall) (s' : ServerSteps) : s.calls[t]? = some pc →
      CallOnward s pc pc' → s'.calls = s.calls.set t pc' → s'.pump = s.pump →
      s'.queueMap = s.queueMap → s'.pendingRequestState = s.pendingRequestState →
      s'.sent = s.sent → s'.canceled = s.canceled →
      s'.readyForDispatch = s.readyForDispatch →
      s' = { s with
        requestChannel := s.requestChannel ++ sentRequest pc
        timerC := s.timerC ++ sentTimer pc
        calls := s.calls.set t pc' } →
      StepMove s (.call t) s'
  | push (t : Nat) (c : String) (r : QueueRef) (req : RequestBundle)
      (q : FIFOClientQueue Posted) : s.calls[t]? = some (.push c r req) →
      q.elements = (s.queueMap.deref r).elements ++ [{ seq := s.accepted, bundle := req }] →
      StepMove s (.call t)
        { s with
          queueMap := s.queueMap.store r q, accepted := s.accepted + 1
          calls := s.calls.set t (.signal c) }
  | callCompletes (t : Nat) (c id : String) (k : ServerCompleting) (s₁ : ServerSteps)
      (o : Option ServerCompleting) : s.calls[t]? = some (.completing c id k) →
      StepCompletes s c id k s₁ o →
      StepMove s (.call t) { s₁ with calls := s₁.calls.set t (callNext c id o) }
  | remove (t : Nat) (c : String) : s.calls[t]? = some (.remove c) →
      StepMove s (.call t)
        { s with
          queueMap := s.queueMap.remove c, calls := s.calls.set t (.removeSignal c) }
  | clear (t : Nat) (c : String) : s.calls[t]? = some (.clear c) →
      StepMove s (.call t)
        { s with
          pendingRequestState := s.pendingRequestState.clearClientPendingRequest c
          calls := s.calls.set t .returned }
  | createClient (c : String) :
      StepMove s (.createClient c) { s with queueMap := s.queueMap.getOrCreate c }
  | getClientState (c : String) :
      StepMove s (.getClientState c)
        { s with pendingRequestState := (s.pendingRequestState.getClientState c).1 }

/-! ## Every step is a move -/

section

variable {s s' : ServerSteps}

theorem CallsKept.of_eq (h : s'.calls = s.calls) : CallsKept s s' where
  back u pc hu := Or.inl (by rw [← h]; exact hu)
  forth u pc hu _ := by rw [h]; exact hu

/-- Only an idle call was moved, to another idle place. -/
theorem CallsKept.set {t : Nat} {pc pc' : ServerCall} (ht : s.calls[t]? = some pc)
    (hpc : callIdle pc = true) (hpc' : callIdle pc' = true)
    (hs : s'.calls = s.calls.set t pc') : CallsKept s s' where
  back u x hu := by
    rw [hs] at hu
    rcases getElem?_replaced hu with ⟨_, rfl⟩ | ⟨_, hu⟩
    · exact Or.inr hpc'
    · exact Or.inl hu
  forth u x hu hx := by
    have hut : u ≠ t := by
      rintro rfl
      rw [ht] at hu
      cases hu
      rw [hpc] at hx
      exact absurd hx (by simp)
    rw [hs, List.getElem?_set_ne (fun e => hut e.symm)]
    exact hu

theorem CallsKept.append {pc : ServerCall} (hpc : callIdle pc = true)
    (hs : s'.calls = s.calls ++ [pc]) : CallsKept s s' where
  back u x hu := by
    rw [hs] at hu
    rcases getElem?_snoc hu with hu | ⟨_, rfl⟩
    · exact Or.inl hu
    · exact Or.inr hpc
  forth u x hu _ := by
    rw [hs, List.getElem?_append_left (List.getElem?_eq_some_iff.mp hu).1]
    exact hu

/-- Cancelling a context ends a goroutine that waits, and changes nothing else. -/
theorem contextEnded_cancelWaiting {c : String} {t : Nat}
    {contexts : String → Option (Option Nat)} (ht : s.clientContextMap c = some (some t))
    (hown : ∀ t, contexts c ≠ some (some t))
    (hother : ∀ x, x ≠ c → contexts x = s.clientContextMap x) :
    ∃ calls, s.cancelWaiting t = { s with calls := calls } ∧ ContextEnded s c calls contexts := by
  unfold ServerSteps.cancelWaiting
  split
  · rename_i x hx
    refine ⟨_, rfl, hown, hother, fun t' y ht' hy => ?_, fun u pc hu => ?_, fun u pc hu hpc => ?_⟩
    · rw [ht] at ht'
      cases ht'
      rcases getElem?_replaced hy with ⟨_, h⟩ | ⟨hne, _⟩
      · cases h
      · exact hne rfl
    · rcases getElem?_replaced hu with ⟨_, rfl⟩ | ⟨_, hu⟩
      · exact Or.inr rfl
      · exact Or.inl hu
    · have hut : t ≠ u := by
        rintro rfl
        rw [hx] at hu
        cases hu
        exact hpc x rfl
      exact (List.getElem?_set_ne hut).trans hu
  · rename_i hx
    refine ⟨_, rfl, hown, hother, fun t' y ht' hy => ?_, fun u pc hu => Or.inl hu,
      fun u pc hu _ => hu⟩
    rw [ht] at ht'
    cases ht'
    exact hx y hy

theorem contextEnded_of_inactive {c : String} {contexts : String → Option (Option Nat)}
    (hc : ∀ t, s.clientContextMap c ≠ some (some t)) (hown : ∀ t, contexts c ≠ some (some t))
    (hother : ∀ x, x ≠ c → contexts x = s.clientContextMap x) :
    ContextEnded s c s.calls contexts where
  own := hown
  other := hother
  ended t _ ht := absurd ht (hc t)
  back _ _ hu := Or.inl hu
  forth _ _ hu _ := hu

theorem activeContext_eq_none {c : String} :
    s.activeContext c = none ↔ ∀ t, s.clientContextMap c ≠ some (some t) := by
  unfold ServerSteps.activeContext
  split
  · rename_i t ht
    simp [ht]
  · rename_i h
    exact ⟨fun _ t ht => h t ht, fun _ => rfl⟩

theorem activeContext_eq_some {c : String} {t : Nat} :
    s.activeContext c = some t ↔ s.clientContextMap c = some (some t) := by
  unfold ServerSteps.activeContext
  split
  · rename_i t' ht
    simp [ht]
  · rename_i h
    exact ⟨fun e => absurd e (by simp), fun e => absurd e (h t)⟩

theorem cancelContext_ended (s : ServerSteps) (c : String) :
    ∃ calls contexts, s.cancelContext c = { s with calls := calls, clientContextMap := contexts }
      ∧ ContextEnded s c calls contexts := by
  unfold ServerSteps.cancelContext
  split
  · rename_i hactive
    have hc := activeContext_eq_none.mp hactive
    exact ⟨s.calls, s.clientContextMap, rfl, contextEnded_of_inactive hc hc fun _ _ => rfl⟩
  · rename_i t hactive
    obtain ⟨calls, hs, hended⟩ := @contextEnded_cancelWaiting s c t
      (Function.update s.clientContextMap c (some none)) (activeContext_eq_some.mp hactive)
      (by simp) fun x hx => Function.update_of_ne hx _ _
    exact ⟨calls, _, by rw [hs], hended⟩

theorem dropContext_ended (s : ServerSteps) (c : String) :
    ∃ calls contexts, s.dropContext c = { s with calls := calls, clientContextMap := contexts }
      ∧ ContextEnded s c calls contexts := by
  unfold ServerSteps.dropContext
  split
  · rename_i hactive
    exact ⟨s.calls, _, rfl, contextEnded_of_inactive (activeContext_eq_none.mp hactive) (by simp)
      fun x hx => Function.update_of_ne hx _ _⟩
  · rename_i t hactive
    obtain ⟨calls, hs, hended⟩ := @contextEnded_cancelWaiting s c t
      (Function.update s.clientContextMap c none) (activeContext_eq_some.mp hactive) (by simp)
      fun x hx => Function.update_of_ne hx _ _
    exact ⟨calls, _, by rw [hs], hended⟩

theorem ContextEnded.kept {c : String} {contexts : String → Option (Option Nat)}
    (h : ContextEnded s c s'.calls contexts) : CallsKept s s' where
  back u pc hu := (h.back u pc hu).imp_right fun e => by rw [e]; rfl
  forth u pc hu hpc := h.forth u pc hu fun x e => by
    rw [e] at hpc
    exact absurd hpc (by simp [callIdle])

theorem complete_stepMove {c id : String} {k : ServerCompleting} {o : Option ServerCompleting}
    (h : s.complete c id k = some (s', o)) : StepCompletes s c id k s' o := by
  cases k with
  | get =>
      simp only [ServerSteps.complete] at h
      split at h
      · rename_i hget
        cases h
        exact .noQueue hget
      · rename_i r hget
        cases h
        exact .got r hget
  | peek r =>
      simp only [ServerSteps.complete] at h
      split at h
      · rename_i hp
        cases h
        exact .mismatch r (fun p hp' => by rw [hp] at hp'; exact absurd hp' (by simp))
      · rename_i p hp
        split at h
        · rename_i hne
          cases h
          exact .mismatch r (fun p' hp' => by rw [hp] at hp'; cases hp'; exact hne)
        · rename_i he
          cases h
          exact .found r p hp (not_not.mp he)
  | pop r => cases h; exact .pop r
  | delete => cases h; exact .delete
  | ready =>
      simp only [ServerSteps.complete] at h
      split at h
      · rename_i hempty
        cases h
        exact .ready hempty
      · exact absurd h (by simp)

theorem select_stepMove {sel : ServerSelect} (h : s.select sel = some s') :
    StepMove s (.select sel) s' := by
  unfold ServerSteps.select at h
  split at h
  · rename_i c hpc
    split at h
    · rename_i hc
      cases h
      exact .idle _ _ (by rw [hpc]; rfl) rfl rfl rfl rfl rfl (.of_eq rfl) (.takeRequest c hpc hc)
    · exact absurd h (by simp)
  · rename_i c hpc
    obtain ⟨calls, contexts, hs, hended⟩ := cancelContext_ended s c
    split at h
    · rename_i hc
      rw [hs] at h
      cases h
      exact .idle _ _ (by rw [hpc]; rfl) rfl rfl rfl rfl rfl hended.kept
        (.takeTimer c calls contexts hpc hc hended)
    · exact absurd h (by simp)
  · rename_i c hpc
    obtain ⟨calls, contexts, hs, hended⟩ := cancelContext_ended s c
    split at h
    · rename_i hc
      rw [hs] at h
      cases h
      exact .idle _ _ (by rw [hpc]; rfl) rfl rfl rfl rfl rfl hended.kept
        (.takeReady c calls contexts hpc hc hended)
    · exact absurd h (by simp)
  · exact absurd h (by simp)

theorem pumpStep_stepMove {write : Option String} (h : s.pumpStep write = some s') :
    StepMove s (.pump write) s' := by
  unfold ServerSteps.pumpStep at h
  split at h
  · rename_i hpc
    cases h
    exact .idle _ _ (by rw [hpc]; rfl) rfl rfl rfl rfl rfl (.of_eq rfl) (.reqChan _ hpc)
  · exact absurd h (by simp)
  · rename_i c hpc
    split at h
    · rename_i hget
      obtain ⟨calls, contexts, hs, hended⟩ := dropContext_ended s c
      rw [hs] at h
      cases h
      exact .idle _ _ (by rw [hpc]; rfl) rfl rfl rfl rfl rfl hended.kept
        (.gone _ c calls contexts hpc hget hended)
    · rename_i r hget
      cases h
      exact .idle _ _ (by rw [hpc]; rfl) rfl rfl rfl rfl rfl (.of_eq rfl)
        (.requestGet _ c r hpc hget)
  · rename_i c hpc
    split at h
    all_goals
      rename_i hpend
      rw [ServerState.hasPendingRequest_eq, ClientState.hasPendingRequest_iff] at hpend
      cases h
    · exact .seesPending _ c hpc hpend
    · exact .idle _ _ (by rw [hpc]; rfl) rfl rfl rfl rfl rfl (.of_eq rfl)
        (.nothingPending _ c hpc (not_not.mp hpend))
  · rename_i c pending hpc
    split at h
    · rename_i hget
      cases h
      exact .crash _ (Or.inl ⟨c, pending, hpc, hget⟩)
    · rename_i r hget
      cases h
      exact .timeoutGet _ c pending r hpc hget
  · rename_i c r pending hpc
    split at h
    · rename_i hpeek
      cases h
      exact .crash _ (Or.inr (Or.inl ⟨c, r, pending, hpc, hpeek⟩))
    · rename_i p hpeek
      cases h
      exact .timeoutPeek _ c pending r p hpc hpeek
  · rename_i c p k hpc
    obtain ⟨⟨s₁, o⟩, ho, rfl⟩ := Option.map_eq_some_iff.mp h
    have hm := StepMove.timedOut write c p k s₁ o hpc (complete_stepMove ho)
    cases o with
    | none => exact hm
    | some k' => exact hm
  · rename_i c p hpc
    cases h
    exact .reportTimedOut _ c p hpc
  · rename_i c hpc
    cases h
    exact .idle _ _ (by rw [hpc]; rfl) rfl rfl rfl rfl rfl (.of_eq rfl) (.readyGet _ c hpc)
  · rename_i c hpc
    split at h
    · rename_i hdisp
      cases h
      exact .commit _ c hpc hdisp
    · rename_i hdisp
      cases h
      exact .idle _ _ (by rw [hpc]; rfl) rfl rfl rfl rfl rfl (.of_eq rfl)
        (.leave _ c hpc (Bool.eq_false_iff.mpr hdisp))
  · rename_i c hpc
    split at h
    · rename_i hget
      cases h
      exact .idle _ _ (by rw [hpc]; rfl) rfl rfl rfl rfl rfl (.of_eq rfl)
        (.dispatchGone _ c hpc hget)
    · rename_i r hget
      cases h
      exact .dispatchGet _ c r hpc hget
  · rename_i c r hpc
    split at h
    · cases h
      exact .crash _ (Or.inr (Or.inr ⟨c, r, hpc⟩))
    · rename_i p hpeek
      cases h
      exact .dispatchPeek _ c r p hpc hpeek
  · rename_i c p hpc
    cases h
    exact .mark _ c p hpc
  · rename_i c p hpc
    cases write with
    | none =>
        cases h
        by_cases htimeout : 0 < s.timeout
        · have hs : s.written c p = _ := if_pos htimeout
          refine .write c p _ hpc ?_ ?_ ?_ ?_ ?_ ?_ (@CallsKept.append s _ (.waiting c) rfl ?_) rfl
          all_goals rw [hs]
        · have hs : s.written c p = _ := if_neg htimeout
          refine .write c p _ hpc ?_ ?_ ?_ ?_ ?_ ?_ (.of_eq ?_) rfl
          all_goals (rw [hs]; rfl)
    | some text =>
        cases h
        exact .writeFails text c p hpc
  · rename_i c p text k hpc
    obtain ⟨⟨s₁, o⟩, ho, rfl⟩ := Option.map_eq_some_iff.mp h
    have hm := StepMove.failed write c p text k s₁ o hpc (complete_stepMove ho)
    cases o with
    | none => exact hm
    | some k' => exact hm
  · rename_i c p text hpc
    cases h
    exact .reportFailed _ c p text hpc
  · exact absurd h (by simp)

theorem callStep_stepMove {t : Nat} {pc : ServerCall} (ht : s.calls[t]? = some pc)
    (h : s.callStep t pc = some s') : StepMove s (.call t) s' := by
  unfold ServerSteps.callStep at h
  split at h
  · exact absurd h (by simp)
  · exact absurd h (by simp)
  · rename_i c req
    split at h
    · cases h
      exact .callMoves t _ _ _ ht (.noQueue c req) rfl rfl rfl rfl rfl rfl rfl
        (by simp [sentRequest, sentTimer, ServerSteps.setCall])
    · rename_i r hget
      cases h
      exact .callMoves t _ _ _ ht (.gotQueue c req r hget) rfl rfl rfl rfl rfl rfl rfl
        (by simp [sentRequest, sentTimer, ServerSteps.setCall])
  · rename_i c r req
    split at h
    · cases h
      exact .callMoves t _ _ _ ht (.full c r req) rfl rfl rfl rfl rfl rfl rfl
        (by simp [sentRequest, sentTimer, ServerSteps.setCall])
    · rename_i q hq
      cases h
      exact .push t c r req q ht (by rw [FIFOClientQueue.push_ok hq])
  · rename_i c
    split at h
    · cases h
      exact .callMoves t _ _ _ ht (.signaled c) rfl rfl rfl rfl rfl rfl rfl
        (by simp [sentRequest, sentTimer, ServerSteps.setCall])
    · exact absurd h (by simp)
  · rename_i c id k
    obtain ⟨⟨s₁, o⟩, ho, rfl⟩ := Option.map_eq_some_iff.mp h
    have hm := StepMove.callCompletes t c id k s₁ o ht (complete_stepMove ho)
    cases o with
    | none => exact hm
    | some k' => exact hm
  · rename_i c id
    cases h
    exact .callMoves t _ _ _ ht (.handled c id) rfl rfl rfl rfl rfl rfl rfl
        (by simp [sentRequest, sentTimer, ServerSteps.setCall])
  · rename_i c
    cases h
    exact .remove t c ht
  · rename_i c
    split at h
    · cases h
      exact .callMoves t _ _ _ ht (.removeSignaled c) rfl rfl rfl rfl rfl rfl rfl
        (by simp [sentRequest, sentTimer, ServerSteps.setCall])
    · exact absurd h (by simp)
  · rename_i c
    cases h
    exact .clear t c ht
  · rename_i c
    cases h
    exact .callMoves t _ _ _ ht (.deadline c) rfl rfl rfl rfl rfl rfl rfl
        (by simp [sentRequest, sentTimer, ServerSteps.setCall])
  · rename_i c
    split at h
    · cases h
      exact .callMoves t _ _ _ ht (.timed c) rfl rfl rfl rfl rfl rfl rfl
        (by simp [sentRequest, sentTimer, ServerSteps.setCall])
    · exact absurd h (by simp)

/-- **Every step is one of the moves.** -/
theorem act_stepMove {a : ServerSteps.Action} (h : s.act a = some s') : StepMove s a s' := by
  unfold ServerSteps.act at h
  split at h
  · exact absurd h (by simp)
  · cases a with
    | select sel => exact select_stepMove h
    | pump write => exact pumpStep_stepMove h
    | start op => cases h; exact .start op
    | call t =>
        obtain ⟨pc, ht, hs⟩ := Option.bind_eq_some_iff.mp h
        exact callStep_stepMove ht hs
    | createClient c => cases h; exact .createClient c
    | getClientState c => cases h; exact .getClientState c

end

end OcppGo.Proof
