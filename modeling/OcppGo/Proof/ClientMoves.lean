import OcppGo.Ocppj.ClientSteps
import OcppGo.Lib.Lists

/-!
# What a step of the client dispatcher can be

`Move` lists the steps of `OcppGo/Ocppj/ClientSteps.lean` as a relation, one
constructor for each thing that can happen, with its guard and the state it
leaves. `act_move` reads the program once; every invariant after it is a case
analysis over `Move` and never unfolds the program again.

Steps that differ only in what they do to the timer, the request channel and the
pause flag are one constructor: no invariant that is proved from `Move` reads those.
-/

namespace OcppGo.Proof

open OcppGo.Lib OcppGo.Ocppj OcppGo.Ocppj.ClientSteps

/-- One operation of `CompleteRequest(id)`: where it stood, what it leaves, and what is left. -/
inductive CompleteMove (s : ClientSteps) (id : String) :
    Completing → ClientSteps → Option Completing → Prop where
  | mismatch : (∀ p, s.requestQueue.peek = some p → p.id ≠ id) → CompleteMove s id .peek s none
  | found (p : Posted) : s.requestQueue.peek = some p → p.id = id →
      CompleteMove s id .peek s (some .pop)
  | pop : CompleteMove s id .pop
      { s with
        requestQueue := s.requestQueue.pop
        popped := s.popped ++ s.requestQueue.peek.toList } (some .delete)
  | delete : CompleteMove s id .delete
      { s with pendingRequestState := s.pendingRequestState.deletePendingRequest id }
      (some .ready)
  | ready : s.readyForDispatch = 0 →
      CompleteMove s id .ready { s with readyForDispatch := 1 } none

/-- `CompleteRequest` moves no program counter but the caller's own. -/
theorem CompleteMove.pump {s s₁ : ClientSteps} {id : String} {c : Completing}
    {r : Option Completing} (h : CompleteMove s id c s₁ r) : s₁.pump = s.pump := by
  cases h <;> rfl

theorem CompleteMove.reader {s s₁ : ClientSteps} {id : String} {c : Completing}
    {r : Option Completing} (h : CompleteMove s id c s₁ r) : s₁.reader = s.reader := by
  cases h <;> rfl

theorem CompleteMove.callers {s s₁ : ClientSteps} {id : String} {c : Completing}
    {r : Option Completing} (h : CompleteMove s id c s₁ r) : s₁.callers = s.callers := by
  cases h <;> rfl

theorem CompleteMove.written {s s₁ : ClientSteps} {id : String} {c : Completing}
    {r : Option Completing} (h : CompleteMove s id c s₁ r) : s₁.written = s.written := by
  cases h <;> rfl

theorem CompleteMove.rdy {s s₁ : ClientSteps} {id : String} {c : Completing}
    {r : Option Completing} (h : CompleteMove s id c s₁ r) : s₁.rdy = s.rdy := by
  cases h <;> rfl

theorem CompleteMove.outcomes {s s₁ : ClientSteps} {id : String} {c : Completing}
    {r : Option Completing} (h : CompleteMove s id c s₁ r) : s₁.outcomes = s.outcomes := by
  cases h <;> rfl

theorem complete_move {s s' : ClientSteps} {id : String} {c : Completing}
    {r : Option Completing} (h : s.complete id c = some (s', r)) : CompleteMove s id c s' r := by
  cases c with
  | peek =>
      simp only [ClientSteps.complete] at h
      split at h
      · rename_i hp
        cases h
        exact .mismatch (fun p hp' => by rw [hp] at hp'; exact absurd hp' (by simp))
      · rename_i p hp
        split at h
        · rename_i hne
          cases h
          exact .mismatch (fun p' hp' => by rw [hp] at hp'; cases hp'; exact hne)
        · rename_i he
          cases h
          exact .found p hp (not_not.mp he)
  | pop => cases h; exact .pop
  | delete => cases h; exact .delete
  | ready =>
      simp only [ClientSteps.complete] at h
      split at h
      · rename_i hlt
        have h0 : s.readyForDispatch = 0 := by omega
        cases h
        rw [h0]
        exact .ready h0
      · exact absurd h (by simp)

/-- Where the pump stands after a `CompleteRequest` operation. -/
def pumpAfter (k : Completing → PumpPC) (done : PumpPC) : Option Completing → PumpPC
  | none => done
  | some c => k c

def readerAfter (id : String) (kind : Reply) : Option Completing → ReaderPC
  | none => .handler id kind
  | some c => .completing id kind c

def callAfter (id : String) : Option Completing → CallPC
  | none => .returned
  | some c => .completing id c

/-- On its way to a write: the pump has seen `rdy` and not yet written. -/
def dispatching : PumpPC → Bool
  | .isEmpty | .peek | .addPending _ | .write _ => true
  | _ => false

/-- The pump has no request in its hands. -/
def inert : PumpPC → Bool
  | .select | .isPaused | .isEmpty | .stopTimer | .drainTimer | .resetTimer | .hasPending
  | .resetTick => true
  | _ => false

/-- The call neither touches the queue nor the ready channel in its next operation. -/
def bystander : CallPC → Bool
  | .push _ | .completing _ _ | .resumeReady => false
  | _ => true

/-- From where to where a call moves without touching what the invariants read. -/
def onward : CallPC → CallPC → Bool
  | .push _, .refused | .signal, .returned
  | .pauseStop, .pauseDrain | .pauseStop, .pauseReset | .pauseDrain, .pauseReset
  | .pauseReset, .pauseSet | .pauseSet, .returned
  | .resumeSet, .resumeTest | .resumeTest, .resumeReset | .resumeReset, .returned => true
  | _, _ => false

theorem bystander_of_onward {pc pc' : CallPC} (h : onward pc pc' = true) :
    bystander pc' = true := by
  cases pc' <;> first | rfl | (cases pc <;> exact absurd h (by simp [onward]))

/-- The steps, each with its guard. -/
inductive Move (s : ClientSteps) : Action → ClientSteps → Prop where
  /-- The pump moves on without looking at a request. -/
  | idle (a : Action) (pc : PumpPC) (timer : Timer) (requestChannel : Nat) :
      inert s.pump = true → inert pc = true → dispatching pc = false →
      Move s a { s with pump := pc, timer := timer, requestChannel := requestChannel }
  | takeReady : s.pump = .select → 0 < s.readyForDispatch →
      Move s (.select .ready)
        { s with
          readyForDispatch := s.readyForDispatch - 1, rdy := true, pump := .isPaused }
  | seesReady (w : Option String) : s.pump = .isPaused → s.rdy = true →
      Move s (.pump w) { s with pump := .isEmpty }
  | seesRequest (w : Option String) : s.pump = .isEmpty → s.requestQueue.elements ≠ [] →
      Move s (.pump w) { s with pump := .peek }
  | crash (w : Option String) : s.pump = .peek ∨ s.pump = .peekTimeout →
      s.requestQueue.peek = none → Move s (.pump w) { s with pump := .crashed }
  | peek (w : Option String) (p : Posted) : s.pump = .peek → s.requestQueue.peek = some p →
      Move s (.pump w) { s with pump := .addPending p }
  | mark (w : Option String) (p : Posted) : s.pump = .addPending p →
      Move s (.pump w)
        { s with
          pendingRequestState := s.pendingRequestState.addPendingRequest p.id p.payload
          pump := .write p }
  | write (p : Posted) : s.pump = .write p →
      Move s (.pump none)
        { s with written := s.written ++ [p], rdy := false, pump := .stopTimer }
  | writeFails (text : String) (p : Posted) : s.pump = .write p →
      Move s (.pump (some text))
        { s with written := s.written ++ [p], pump := .failed p text .peek }
  | failed (w : Option String) (p : Posted) (text : String) (c : Completing) (s₁ : ClientSteps)
      (r : Option Completing) : s.pump = .failed p text c → CompleteMove s p.id c s₁ r →
      Move s (.pump w)
        { s₁ with pump := pumpAfter (fun c' => .failed p text c') (.reportFailed p text) r }
  | reportFailed (w : Option String) (p : Posted) (text : String) :
      s.pump = .reportFailed p text →
      Move s (.pump w)
        { s with
          outcomes := s.outcomes ++ [(p.id, .canceled)], rdy := false, pump := .stopTimer }
  | seesPending (w : Option String) : s.pump = .hasPending →
      s.pendingRequestState.requestID ≠ "" → Move s (.pump w) { s with pump := .peekTimeout }
  | peekTimeout (w : Option String) (p : Posted) : s.pump = .peekTimeout →
      s.requestQueue.peek = some p → Move s (.pump w) { s with pump := .timedOut p .peek }
  | timedOut (w : Option String) (p : Posted) (c : Completing) (s₁ : ClientSteps)
      (r : Option Completing) : s.pump = .timedOut p c → CompleteMove s p.id c s₁ r →
      Move s (.pump w)
        { s₁ with pump := pumpAfter (fun c' => .timedOut p c') (.reportTimedOut p) r }
  | reportTimedOut (w : Option String) (p : Posted) : s.pump = .reportTimedOut p →
      Move s (.pump w)
        { s with outcomes := s.outcomes ++ [(p.id, .canceled)], pump := .resetTick }
  /-- A reply whose id is not the pending one is dropped. -/
  | discard (id : String) (kind : Reply) : Move s (.receive id kind) s
  | accept (id : String) (kind : Reply) : s.reader = .idle → id ≠ "" →
      s.pendingRequestState.requestID = id →
      Move s (.receive id kind) { s with reader := .completing id kind .peek }
  | reader (id : String) (kind : Reply) (c : Completing) (s₁ : ClientSteps)
      (r : Option Completing) : s.reader = .completing id kind c → CompleteMove s id c s₁ r →
      Move s .reader { s₁ with reader := readerAfter id kind r }
  | handler (id : String) (kind : Reply) : s.reader = .handler id kind →
      Move s .reader
        { s with outcomes := s.outcomes ++ [(id, .reply kind)], reader := .idle }
  | call (op : Operation) : Move s (.call op) (s.call op)
  /-- A call moves on without touching what the invariants read. -/
  | caller (t : Nat) (pc pc' : CallPC) (timer : Timer) (requestChannel : Nat) (paused : Bool) :
      s.callers[t]? = some pc → onward pc pc' = true →
      Move s (.caller t)
        { s with
          callers := s.callers.set t pc', timer := timer, requestChannel := requestChannel
          paused := paused }
  | push (t : Nat) (req : RequestBundle) (q : FIFOClientQueue Posted) :
      s.callers[t]? = some (.push req) →
      q.elements = s.requestQueue.elements ++ [{ seq := s.accepted, bundle := req }] →
      Move s (.caller t)
        { s with
          requestQueue := q, accepted := s.accepted + 1, callers := s.callers.set t .signal }
  | callerCompletes (t : Nat) (id : String) (c : Completing) (s₁ : ClientSteps)
      (r : Option Completing) : s.callers[t]? = some (.completing id c) →
      CompleteMove s id c s₁ r →
      Move s (.caller t) { s₁ with callers := s₁.callers.set t (callAfter id r) }
  /-- `Resume` finds nothing pending. -/
  | resumeTest (t : Nat) : s.callers[t]? = some .resumeTest →
      s.pendingRequestState.requestID = "" →
      Move s (.caller t) { s with callers := s.callers.set t .resumeReady }
  | resumeReady (t : Nat) : s.callers[t]? = some .resumeReady → s.readyForDispatch = 0 →
      Move s (.caller t)
        { s with readyForDispatch := 1, callers := s.callers.set t .returned }
  | timerExpires (timer : Timer) : Move s .timerExpires { s with timer := timer }

theorem select_move {s s' : ClientSteps} {sel : ClientDispatcher.Select}
    (h : s.select sel = some s') : Move s (.select sel) s' := by
  unfold ClientSteps.select at h
  split at h
  · rename_i hpc
    split at h
    · cases h; exact .idle _ _ s.timer _ (by rw [hpc]; rfl) rfl rfl
    · exact absurd h (by simp)
  · rename_i hpc
    split at h
    · cases h; exact .idle _ _ _ s.requestChannel (by rw [hpc]; rfl) rfl rfl
    · exact absurd h (by simp)
  · rename_i hpc
    split at h
    · rename_i hpos
      cases h
      exact .takeReady hpc hpos
    · exact absurd h (by simp)
  · exact absurd h (by simp)

theorem pumpStep_move {s s' : ClientSteps} {write : Option String}
    (h : s.pumpStep write = some s') : Move s (.pump write) s' := by
  -- the pump goes on to `pc` with at most its timer changed
  have hidle : ∀ (pc : PumpPC) (timer : Timer), inert s.pump = true → inert pc = true →
      dispatching pc = false → Move s (.pump write) { s with pump := pc, timer := timer } :=
    fun pc timer h₁ h₂ h₃ => .idle _ pc timer s.requestChannel h₁ h₂ h₃
  unfold ClientSteps.pumpStep at h
  split at h <;> rename_i hpc
  · exact absurd h (by simp)
  · -- `isPaused`
    split at h
    · cases h; exact hidle _ s.timer (by rw [hpc]; rfl) rfl rfl
    · split at h
      · rename_i hrdy
        cases h; exact .seesReady _ hpc hrdy
      · cases h; exact hidle _ s.timer (by rw [hpc]; rfl) rfl rfl
  · -- `isEmpty`
    split at h
    · cases h; exact hidle _ s.timer (by rw [hpc]; rfl) rfl rfl
    · rename_i hne
      cases h
      refine .seesRequest _ hpc ?_
      rw [FIFOClientQueue.isEmpty_eq] at hne
      intro he
      exact hne (by rw [he]; rfl)
  · -- `peek`
    split at h
    · rename_i hp
      cases h; exact .crash _ (Or.inl hpc) hp
    · rename_i p hp
      cases h; exact .peek _ p hpc hp
  · cases h; exact .mark _ _ hpc
  · cases write with
    | none => cases h; exact .write _ hpc
    | some text => cases h; exact .writeFails text _ hpc
  · -- `failed`
    obtain ⟨⟨s₁, r⟩, hr, rfl⟩ := Option.map_eq_some_iff.mp h
    have hm := Move.failed write _ _ _ s₁ r hpc (complete_move hr)
    cases r with
    | none => exact hm
    | some c' => exact hm
  · cases h; exact .reportFailed _ _ _ hpc
  · -- `stopTimer`
    split at h
    · cases h; exact hidle _ _ (by rw [hpc]; rfl) rfl rfl
    · cases h; exact hidle _ s.timer (by rw [hpc]; rfl) rfl rfl
  · -- `drainTimer`
    split at h
    · cases h; exact hidle _ _ (by rw [hpc]; rfl) rfl rfl
    · exact absurd h (by simp)
  · cases h; exact hidle _ _ (by rw [hpc]; rfl) rfl rfl
  · -- `hasPending`
    split at h
    · rename_i hpend
      cases h; exact .seesPending _ hpc (ClientState.hasPendingRequest_iff.mp hpend)
    · cases h; exact hidle _ s.timer (by rw [hpc]; rfl) rfl rfl
  · -- `peekTimeout`
    split at h
    · rename_i hp
      cases h; exact .crash _ (Or.inr hpc) hp
    · rename_i p hp
      cases h; exact .peekTimeout _ p hpc hp
  · -- `timedOut`
    obtain ⟨⟨s₁, r⟩, hr, rfl⟩ := Option.map_eq_some_iff.mp h
    have hm := Move.timedOut write _ _ s₁ r hpc (complete_move hr)
    cases r with
    | none => exact hm
    | some c' => exact hm
  · cases h; exact .reportTimedOut _ _ hpc
  · cases h; exact hidle _ _ (by rw [hpc]; rfl) rfl rfl
  · exact absurd h (by simp)

theorem receive_move {s s' : ClientSteps} {id : String} {kind : Reply}
    (h : s.receive id kind = some s') : Move s (.receive id kind) s' := by
  unfold ClientSteps.receive at h
  split at h
  · rename_i hidle
    split at h
    · rename_i hid
      split at h
      · cases h; exact .discard id kind
      · rename_i r hr
        cases h
        exact .accept id kind hidle hid (ClientState.getPendingRequest_eq_some hr).1
    · exact absurd h (by simp)
  · exact absurd h (by simp)

theorem readerStep_move {s s' : ClientSteps} (h : s.readerStep = some s') :
    Move s .reader s' := by
  unfold ClientSteps.readerStep at h
  split at h <;> rename_i hpc
  · exact absurd h (by simp)
  · obtain ⟨⟨s₁, r⟩, hr, rfl⟩ := Option.map_eq_some_iff.mp h
    have hm := Move.reader _ _ _ s₁ r hpc (complete_move hr)
    cases r with
    | none => exact hm
    | some c' => exact hm
  · cases h; exact .handler _ _ hpc

theorem callerStep_move {s s' : ClientSteps} {t : Nat} {pc : CallPC}
    (hpc : s.callers[t]? = some pc) (h : s.callerStep t pc = some s') :
    Move s (.caller t) s' := by
  -- the call goes on to `pc'` with at most the timer, a token or the flag changed
  have hby : ∀ (pc' : CallPC) (timer : Timer) (n : Nat) (paused : Bool), onward pc pc' = true →
      Move s (.caller t)
        { s with
          callers := s.callers.set t pc', timer := timer, requestChannel := n
          paused := paused } :=
    fun pc' timer n paused hb => .caller t pc pc' timer n paused hpc hb
  unfold ClientSteps.callerStep at h
  split at h
  · exact absurd h (by simp)
  · exact absurd h (by simp)
  · -- `push`
    split at h
    · cases h; exact hby _ s.timer s.requestChannel s.paused rfl
    · rename_i q hq
      cases h
      exact .push t _ q hpc (by rw [FIFOClientQueue.push_ok hq])
  · split at h
    · cases h; exact hby _ s.timer _ s.paused rfl
    · exact absurd h (by simp)
  · -- `completing`
    obtain ⟨⟨s₁, r⟩, hr, rfl⟩ := Option.map_eq_some_iff.mp h
    have hm := Move.callerCompletes t _ _ s₁ r hpc (complete_move hr)
    cases r with
    | none => exact hm
    | some c' => exact hm
  · split at h
    · cases h; exact hby _ _ s.requestChannel s.paused rfl
    · cases h; exact hby _ s.timer s.requestChannel s.paused rfl
  · split at h
    · cases h; exact hby _ _ s.requestChannel s.paused rfl
    · exact absurd h (by simp)
  · cases h; exact hby _ _ s.requestChannel s.paused rfl
  · cases h; exact hby _ s.timer s.requestChannel _ rfl
  · cases h; exact hby _ s.timer s.requestChannel _ rfl
  · -- `resumeTest`
    split at h
    · cases h; exact hby _ s.timer s.requestChannel s.paused rfl
    · rename_i hpend
      cases h
      refine .resumeTest t hpc ?_
      by_contra hne
      exact hpend (ClientState.hasPendingRequest_iff.mpr hne)
  · cases h; exact hby _ _ s.requestChannel s.paused rfl
  · -- `resumeReady`
    split at h
    · rename_i hlt
      have h0 : s.readyForDispatch = 0 := by omega
      cases h
      rw [h0]
      exact .resumeReady t hpc h0
    · exact absurd h (by simp)

/-- **Every step is one of the moves, and happens in a process that has not crashed.** -/
theorem act_move {s s' : ClientSteps} {a : Action} (h : s.act a = some s') :
    s.pump ≠ .crashed ∧ Move s a s' := by
  unfold ClientSteps.act at h
  split at h
  · exact absurd h (by simp)
  · rename_i hpc
    refine ⟨hpc, ?_⟩
    cases a with
    | select sel => exact select_move h
    | pump write => exact pumpStep_move h
    | receive id kind => exact receive_move h
    | reader => exact readerStep_move h
    | call op => cases h; exact .call op
    | caller t =>
        obtain ⟨pc, hc, hs⟩ := Option.bind_eq_some_iff.mp h
        exact callerStep_move hc hs
    | timerExpires =>
        obtain ⟨timer, _, rfl⟩ := Option.map_eq_some_iff.mp h
        exact .timerExpires timer

/-- From where to where a call can move. -/
inductive CallerNext : CallPC → CallPC → Prop where
  | onward {pc pc' : CallPC} : onward pc pc' = true → CallerNext pc pc'
  | push (req : RequestBundle) : CallerNext (.push req) .signal
  | completes (id : String) (c : Completing) (r : Option Completing) :
      CallerNext (.completing id c) (callAfter id r)
  | resumeTest : CallerNext .resumeTest .resumeReady
  | resumeReady : CallerNext .resumeReady .returned

/-- **A call stands where it stood, has just started, or has moved.** -/
theorem Move.caller_at {s s' : ClientSteps} {a : Action} (h : Move s a s') {t : Nat}
    {pc' : CallPC} (ht : s'.callers[t]? = some pc') :
    s.callers[t]? = some pc' ∨ (∃ op, a = .call op ∧ pc' = Operation.entry op)
      ∨ ∃ pc, s.callers[t]? = some pc ∧ CallerNext pc pc' := by
  have hset : ∀ {u : Nat} {pc pc₁ : CallPC}, s.callers[u]? = some pc → CallerNext pc pc₁ →
      (s.callers.set u pc₁)[t]? = some pc' →
      s.callers[t]? = some pc' ∨ ∃ pc, s.callers[t]? = some pc ∧ CallerNext pc pc' := by
    intro u pc pc₁ hu hnext hs
    rcases getElem?_replaced hs with ⟨rfl, rfl⟩ | ⟨_, hs⟩
    · exact Or.inr ⟨pc, hu, hnext⟩
    · exact Or.inl hs
  cases h with
  | failed _ _ _ _ _ _ _ hc => exact Or.inl (hc.callers ▸ ht)
  | timedOut _ _ _ _ _ _ hc => exact Or.inl (hc.callers ▸ ht)
  | reader _ _ _ _ _ _ hc => exact Or.inl (hc.callers ▸ ht)
  | call op =>
      rcases getElem?_snoc ht with ht | ⟨_, he⟩
      · exact Or.inl ht
      · exact Or.inr (Or.inl ⟨op, rfl, he⟩)
  | caller u pc pc₁ _ _ _ hu hon => exact (hset hu (.onward hon) ht).imp_right Or.inr
  | push u req q hu _ => exact (hset hu (.push req) ht).imp_right Or.inr
  | callerCompletes u id c s₁ r hu hc =>
      rw [hc.callers] at ht
      exact (hset hu (.completes id c r) ht).imp_right Or.inr
  | resumeTest u hu _ => exact (hset hu .resumeTest ht).imp_right Or.inr
  | resumeReady u hu _ => exact (hset hu .resumeReady ht).imp_right Or.inr
  | _ => exact Or.inl ht

/-- Where a call can stand after a step. -/
theorem Move.mem_callers {s s' : ClientSteps} {a : Action} (h : Move s a s') {pc : CallPC}
    (hm : pc ∈ s'.callers) :
    pc ∈ s.callers ∨ (∃ op, a = .call op ∧ pc = Operation.entry op) ∨ bystander pc = true
      ∨ pc = .resumeReady
      ∨ ∃ id c r, CallPC.completing id c ∈ s.callers ∧ pc = callAfter id r := by
  obtain ⟨t, ht⟩ := List.mem_iff_getElem?.mp hm
  rcases h.caller_at ht with hold | hstart | ⟨pc₀, hold, hnext⟩
  · exact Or.inl (List.mem_of_getElem? hold)
  · exact Or.inr (Or.inl hstart)
  · refine Or.inr (Or.inr ?_)
    cases hnext with
    | onward hon => exact Or.inl (bystander_of_onward hon)
    | push req => exact Or.inl rfl
    | completes id c r => exact Or.inr (Or.inr ⟨id, c, r, List.mem_of_getElem? hold, rfl⟩)
    | resumeTest => exact Or.inr (Or.inl rfl)
    | resumeReady => exact Or.inl rfl

end OcppGo.Proof
