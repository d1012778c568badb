import OcppGo.Proof.ClientSettling

/-!
# One outcome for each request

A response that meets a timeout has reader and pump past the comparison in
`CompleteRequest` for the same request: the second pop takes a request that was
never sent, and the one that was sent is reported twice, as answered and as
canceled.

Kept apart, they do no harm. If in addition requests are marked in silence only,
whoever removes a request from the queue is alone with the ready channel, so
nothing keeps it from reporting what it removed.
-/

namespace OcppGo.Proof

open OcppGo.Lib OcppGo.Ocppj

/-- What the pump needs for its next operation, whose `Write` would return `w`. -/
def PumpExclusive (s : ClientSteps) (w : Option String) : PumpPC → Prop
  | .addPending _ => Silent s
  | .hasPending => readerSettling s.reader = false
  | .write p => w ≠ none →
      readerSettling s.reader = false ∧ s.pendingRequestState.requestID = p.id
  | _ => True

/-- What a call needs for its next operation. -/
def CallExclusive (s : ClientSteps) : Option CallPC → Prop
  | some (.push req) => req.call.uniqueId ∉ (acceptedRequests s).map Posted.id
  | some .resumeTest => readerSignaling s.reader = false ∧ pumpSignaling s.pump = false
  | _ => True

/--
The reader and the pump complete requests one at a time.

* The pump decides on a timeout, or takes an error from `Write`, only while the
  reader is not settling, and in the second case only while the request is still
  pending; the reader matches a reply only while the pump is not settling.
* The pump marks requests in silent states, and `Resume` does not look for a
  pending request between a `DeletePendingRequest` and the signal after it.
* Accepted requests have distinct, non-empty ids, and nobody else calls
  `CompleteRequest`.
-/
def Exclusive (s : ClientSteps) : ClientSteps.Action → Prop
  | .pump w => PumpExclusive s w s.pump
  | .receive id _ => s.pendingRequestState.requestID = id → pumpSettling s.pump = false
  | .call (.sendRequest req) => req.call.uniqueId ≠ ""
  | .call (.completeRequest _) => False
  | .caller t => CallExclusive s s.callers[t]?
  | _ => True

instance (s : ClientSteps) (w : Option String) : ∀ pc, Decidable (PumpExclusive s w pc)
  | .addPending _ => inferInstanceAs (Decidable (Silent s))
  | .hasPending => inferInstanceAs (Decidable (readerSettling s.reader = false))
  | .write p => inferInstanceAs (Decidable (w ≠ none →
      readerSettling s.reader = false ∧ s.pendingRequestState.requestID = p.id))
  | .select | .isPaused | .isEmpty | .peek | .failed _ _ _ | .reportFailed _ _ | .stopTimer
  | .drainTimer | .resetTimer | .peekTimeout | .timedOut _ _ | .reportTimedOut _ | .resetTick
  | .crashed => .isTrue trivial

instance (s : ClientSteps) : ∀ pc, Decidable (CallExclusive s pc)
  | some (.push req) =>
      inferInstanceAs (Decidable (req.call.uniqueId ∉ (acceptedRequests s).map Posted.id))
  | some .resumeTest => inferInstanceAs
      (Decidable (readerSignaling s.reader = false ∧ pumpSignaling s.pump = false))
  | none | some .returned | some .refused | some .signal | some (.completing _ _) | some .pauseStop
  | some .pauseDrain | some .pauseReset | some .pauseSet | some .resumeSet | some .resumeReset
  | some .resumeReady => .isTrue trivial

instance (s : ClientSteps) : ∀ a, Decidable (Exclusive s a)
  | .pump w => inferInstanceAs (Decidable (PumpExclusive s w s.pump))
  | .receive id _ => inferInstanceAs
      (Decidable (s.pendingRequestState.requestID = id → pumpSettling s.pump = false))
  | .call (.sendRequest req) => inferInstanceAs (Decidable (req.call.uniqueId ≠ ""))
  | .call (.completeRequest _) => inferInstanceAs (Decidable False)
  | .caller t => inferInstanceAs (Decidable (CallExclusive s s.callers[t]?))
  | .select _ | .reader | .timerExpires | .call .pause | .call .resume => .isTrue trivial

theorem Exclusive.silentDispatch {s : ClientSteps} {a : ClientSteps.Action}
    (h : Exclusive s a) : SilentDispatch s a := by
  cases a with
  | pump w =>
      intro hm
      cases hpc : s.pump with
      | addPending p =>
          have hex : PumpExclusive s w s.pump := h
          rw [hpc] at hex
          exact hex
      | _ => rw [hpc] at hm; exact absurd hm (by simp [marking])
  | call op =>
      cases op with
      | sendRequest req => exact h
      | completeRequest id => exact h.elim
      | pause => trivial
      | resume => trivial
  | select sel => trivial
  | receive id kind => trivial
  | reader => trivial
  | caller t => trivial
  | timerExpires => trivial

/-- A marked request was marked in silence, which has not been broken since. -/
theorem Marked.silent {s : ClientSteps} {q : Posted} (h : Marked s q) (ho : Once s) :
    Silent s := by
  rcases h.issued with hs | hw
  · exact (ho.outstanding q h.mem hs).1
  · exact (ho.marked q hw q h.mem rfl).1

/-- Only the request being written can be marked during a dispatch. -/
theorem Marked.dispatching {s : ClientSteps} {q : Posted} (h : Marked s q) (ho : Once s)
    (hd : dispatching s.pump = true) : s.pump = .write q := by
  rcases h.issued with hs | hw
  · exact absurd hs (ho.fresh hd q h.mem)
  · exact hw

/-! ## The invariant -/

/-- Whoever owes a ready token is alone with the channel: the send cannot wait. -/
structure Alone (s : ClientSteps) : Prop where
  reader : readerOwes s.reader = true → s.readyForDispatch = 0
    ∧ pumpOwes s.pump = false ∧ ∀ pc ∈ s.callers, callOwes pc = false
  pump : pumpOwes s.pump = true → s.readyForDispatch = 0
    ∧ readerOwes s.reader = false ∧ ∀ pc ∈ s.callers, callOwes pc = false

theorem Alone.nobody {s : ClientSteps} (hr : readerOwes s.reader = false)
    (hp : pumpOwes s.pump = false) : Alone s where
  reader := fun h => by rw [hr] at h; exact absurd h (by simp)
  pump := fun h => by rw [hp] at h; exact absurd h (by simp)

theorem Alone.frame {s s' : ClientSteps} (h : Alone s)
    (ht : s'.readyForDispatch = s.readyForDispatch)
    (hr : readerOwes s'.reader = true → readerOwes s.reader = true)
    (hp : pumpOwes s'.pump = true → pumpOwes s.pump = true)
    (hc : (∀ pc ∈ s.callers, callOwes pc = false) → ∀ pc ∈ s'.callers, callOwes pc = false) :
    Alone s' where
  reader := by
    intro ho
    obtain ⟨h₁, h₂, h₃⟩ := h.reader (hr ho)
    refine ⟨ht.trans h₁, Bool.eq_false_iff.mpr (fun hp' => ?_), hc h₃⟩
    rw [hp hp'] at h₂
    exact absurd h₂ (by simp)
  pump := by
    intro ho
    obtain ⟨h₁, h₂, h₃⟩ := h.pump (hp ho)
    refine ⟨ht.trans h₁, Bool.eq_false_iff.mpr (fun hr' => ?_), hc h₃⟩
    rw [hr hr'] at h₂
    exact absurd h₂ (by simp)

structure Orderly (s : ClientSteps) : Prop where
  phase : Phase s
  alone : Alone s
  /-- The queue does not run empty between `IsEmpty` and `Peek`. -/
  peeking : s.pump = .peek → s.requestQueue.elements ≠ []
  /-- Nor does the head change between `Peek` and `AddPendingRequest`. -/
  adding : ∀ p, s.pump = .addPending p → s.requestQueue.peek = some p
  alive : s.pump ≠ .crashed
  calls : ∀ id c, CallPC.completing id c ∉ s.callers

theorem orderly_start (n : Nat) (timeout : Int) : Orderly (ClientSteps.start n timeout) where
  phase := .free rfl rfl rfl
  alone := .nobody rfl rfl
  peeking := by intro h; exact absurd h (by simp [ClientSteps.start])
  adding := by intro p h; exact absurd h (by simp [ClientSteps.start])
  alive := by simp [ClientSteps.start]
  calls := by simp [ClientSteps.start]

/-- Every `Peek` of the pump finds a request. -/
theorem Orderly.no_crash {s : ClientSteps} (h : Orderly s)
    (hpc : s.pump = .peek ∨ s.pump = .peekTimeout) : s.requestQueue.peek ≠ none := by
  intro hnone
  rcases hpc with hpc | hpc
  · refine h.peeking hpc ?_
    exact List.head?_eq_none_iff.mp hnone
  · obtain ⟨q, hm, _⟩ := h.phase.of_peekTimeout hpc
    rw [hm.head] at hnone
    exact absurd hnone (by simp)

section Step

variable {s s' : ClientSteps} {a : ClientSteps.Action}

/-- What is marked in silence is marked at the head of the queue. -/
theorem Exclusive.undisturbed (h : Orderly s) (hok : Exclusive s a) : Undisturbed s a := by
  cases a with
  | pump w =>
      have hex : PumpExclusive s w s.pump := hok
      show PumpUndisturbed s w s.pump
      cases hpc : s.pump with
      | addPending p => exact h.adding p hpc
      | hasPending => rw [hpc] at hex; exact hex
      | write p => rw [hpc] at hex; exact hex
      | _ => trivial
  | call op => cases op <;> exact hok
  | receive id kind => exact hok
  | caller t =>
      have hex : CallExclusive s s.callers[t]? := hok
      show CallUndisturbed s s.callers[t]?
      cases hpc : s.callers[t]? with
      | none => trivial
      | some pc =>
          rw [hpc] at hex
          cases pc with
          | push req => exact hex
          | _ => trivial
  | select sel => trivial
  | reader => trivial
  | timerExpires => trivial


/-- The pump goes where it owes nothing, the rest stays. -/
theorem Alone.pumpMoves (h : Alone s) (ht : s'.readyForDispatch = s.readyForDispatch)
    (hr : s'.reader = s.reader) (hp : pumpOwes s'.pump = false) (hc : s'.callers = s.callers) :
    Alone s' := by
  refine h.frame ht ?_ ?_ ?_
  · rw [hr]; exact id
  · intro hp'; rw [hp] at hp'; exact absurd hp' (by simp)
  · rw [hc]; exact id

/-- The reader does. -/
theorem Alone.readerMoves (h : Alone s) (ht : s'.readyForDispatch = s.readyForDispatch)
    (hr : readerOwes s'.reader = false) (hp : s'.pump = s.pump) (hc : s'.callers = s.callers) :
    Alone s' := by
  refine h.frame ht ?_ ?_ ?_
  · intro hr'; rw [hr] at hr'; exact absurd hr' (by simp)
  · rw [hp]; exact id
  · rw [hc]; exact id

/-- A call does. -/
theorem Alone.callMoves (h : Alone s) (ht : s'.readyForDispatch = s.readyForDispatch)
    (hr : s'.reader = s.reader) (hp : s'.pump = s.pump)
    (hc : (∀ pc ∈ s.callers, callOwes pc = false) → ∀ pc ∈ s'.callers, callOwes pc = false) :
    Alone s' := by
  refine h.frame ht ?_ ?_ hc
  · rw [hr]; exact id
  · rw [hp]; exact id

/-- The `CompleteRequest` of the pump pops in silence and signals alone. -/
theorem Orderly.alone_pumpCompletes (h : Orderly s) (hone : Once s) {rid : String}
    {c : Completing} {s₁ : ClientSteps} {r : Option Completing} {pc : PumpPC}
    (hat : pumpAt s.pump = some (rid, c)) (hc : CompleteMove s rid c s₁ r)
    (hnext : ∀ c', r = some c' → pumpAt pc = some (rid, c'))
    (hdone : r = none → pumpOwes pc = false) : Alone { s₁ with pump := pc } := by
  cases hc with
  | mismatch _ => exact h.alone.pumpMoves rfl rfl (hdone rfl) rfl
  | found p _ _ => exact h.alone.pumpMoves rfl rfl (pumpOwes_of_at (hnext .pop rfl)) rfl
  | pop =>
      -- the popped request was marked in silence, so nobody else owes a token
      obtain ⟨q, hmk, _, _⟩ := h.phase.pump_head hat rfl
      have hs := hmk.silent hone
      refine ⟨fun hr => ?_, fun _ => ⟨hs.token, hs.reader, hs.callers⟩⟩
      exact absurd (hs.reader.symm.trans hr) (by simp)
  | delete =>
      refine h.alone.frame rfl id (fun _ => ?_) id
      rw [pumpOwes_of_at hat]
      rfl
  | ready _ =>
      obtain ⟨_, hr, _⟩ := h.alone.pump (by rw [pumpOwes_of_at hat]; rfl)
      exact .nobody hr (hdone rfl)

/-- So does that of the reader. -/
theorem Orderly.alone_readerCompletes (h : Orderly s) (hone : Once s) {rid : String}
    {kind : Reply} {c : Completing} {s₁ : ClientSteps} {r : Option Completing}
    (hpc : s.reader = .completing rid kind c) (hc : CompleteMove s rid c s₁ r) :
    Alone { s₁ with reader := readerAfter rid kind r } := by
  cases hc with
  | mismatch _ => exact h.alone.readerMoves rfl rfl rfl rfl
  | found p _ _ => exact h.alone.readerMoves rfl rfl rfl rfl
  | pop =>
      -- as for the pump: the popped request was marked in silence
      obtain ⟨q, hmk, _, _⟩ := h.phase.reader_head hpc rfl
      have hs := hmk.silent hone
      refine ⟨fun _ => ⟨hs.token, hs.pump, hs.callers⟩, fun hp => ?_⟩
      exact absurd (hs.pump.symm.trans hp) (by simp)
  | delete =>
      refine h.alone.frame rfl (fun _ => ?_) id id
      rw [hpc]
      rfl
  | ready _ =>
      obtain ⟨_, hp, _⟩ := h.alone.reader (by rw [hpc]; rfl)
      exact .nobody rfl hp

theorem alone_step (h : Orderly s) (hone : Once s) (hok : Exclusive s a) (hm : Move s a s') :
    Alone s' := by
  cases hm with
  | idle _ pc timer n _ hi' _ => exact h.alone.pumpMoves rfl rfl (owes_of_inert hi') rfl
  | takeReady _ hpos =>
      refine .nobody (Bool.eq_false_iff.mpr (fun ho => ?_)) rfl
      have := (h.alone.reader ho).1
      omega
  | seesReady _ _ _ => exact h.alone.pumpMoves rfl rfl rfl rfl
  | seesRequest _ _ _ => exact h.alone.pumpMoves rfl rfl rfl rfl
  | crash _ _ _ => exact h.alone.pumpMoves rfl rfl rfl rfl
  | peek _ p _ _ => exact h.alone.pumpMoves rfl rfl rfl rfl
  | mark _ p _ => exact h.alone.pumpMoves rfl rfl rfl rfl
  | write p _ => exact h.alone.pumpMoves rfl rfl rfl rfl
  | writeFails text p _ => exact h.alone.pumpMoves rfl rfl rfl rfl
  | failed _ p text c s₁ r hpc hc =>
      refine h.alone_pumpCompletes hone (by rw [hpc]; rfl) hc ?_ ?_
      · rintro c' rfl; rfl
      · rintro rfl; rfl
  | reportFailed _ p text _ => exact h.alone.pumpMoves rfl rfl rfl rfl
  | seesPending _ _ _ => exact h.alone.pumpMoves rfl rfl rfl rfl
  | peekTimeout _ p _ _ => exact h.alone.pumpMoves rfl rfl rfl rfl
  | timedOut _ p c s₁ r hpc hc =>
      refine h.alone_pumpCompletes hone (by rw [hpc]; rfl) hc ?_ ?_
      · rintro c' rfl; rfl
      · rintro rfl; rfl
  | reportTimedOut _ p _ => exact h.alone.pumpMoves rfl rfl rfl rfl
  | discard id kind => exact h.alone
  | accept rid kind _ _ _ => exact h.alone.readerMoves rfl rfl rfl rfl
  | reader rid kind c s₁ r hpc hc => exact h.alone_readerCompletes hone hpc hc
  | handler rid kind _ => exact h.alone.readerMoves rfl rfl rfl rfl
  | call op => exact h.alone.callMoves rfl rfl rfl (callers_call_silent op)
  | caller t pc pc' timer n paused _ hon =>
      have hby := bystander_of_onward hon
      exact h.alone.callMoves rfl rfl rfl
        (fun hc => callers_set_silent hc (callOwes_of_bystander hby))
  | push t req q _ _ => exact h.alone.callMoves rfl rfl rfl (fun hc => callers_set_silent hc rfl)
  | callerCompletes t rid c s₁ r ht _ =>
      exact absurd (List.mem_of_getElem? ht) (h.calls rid c)
  | resumeTest t ht hfree =>
      obtain ⟨hrs, hps⟩ : readerSignaling s.reader = false ∧ pumpSignaling s.pump = false := by
        have hex : CallExclusive s s.callers[t]? := hok
        rw [ht] at hex
        exact hex
      exact .nobody (h.phase.reader_owes_nothing hfree hrs) (h.phase.pump_owes_nothing hfree hps)
  | resumeReady t ht _ =>
      -- a `Resume` with a token to send means that nobody else has one
      have hmem := List.mem_of_getElem? ht
      refine .nobody (Bool.eq_false_iff.mpr (fun ho => ?_)) (Bool.eq_false_iff.mpr (fun ho => ?_))
      · exact absurd ((h.alone.reader ho).2.2 _ hmem) (by simp [callOwes])
      · exact absurd ((h.alone.pump ho).2.2 _ hmem) (by simp [callOwes])
  | timerExpires timer => exact h.alone.callMoves rfl rfl rfl (fun hc => hc)

/-- Nobody pops while the pump is between `IsEmpty` and `AddPendingRequest`. -/
theorem Orderly.no_pop (h : Orderly s) (hone : Once s) (hd : dispatching s.pump = true)
    (hw : ∀ q, s.pump ≠ .write q) {rid : String} {kind : Reply} {c : Completing}
    (hpc : s.reader = .completing rid kind c) : owes c = true := by
  by_contra ho
  obtain ⟨q, hmk, _, _⟩ := h.phase.reader_head hpc (by simpa using ho)
  exact hw q (hmk.dispatching hone hd)

theorem position_step (h : Orderly s) (hone : Once s) (hm : Move s a s') :
    (s'.pump = .peek → s'.requestQueue.elements ≠ [])
      ∧ (∀ p, s'.pump = .addPending p → s'.requestQueue.peek = some p)
      ∧ s'.pump ≠ .crashed := by
  -- the pump is at neither place afterwards
  have haway : s'.pump ≠ .peek → (∀ p, s'.pump ≠ .addPending p) → s'.pump ≠ .crashed →
      (s'.pump = .peek → s'.requestQueue.elements ≠ [])
        ∧ (∀ p, s'.pump = .addPending p → s'.requestQueue.peek = some p)
        ∧ s'.pump ≠ .crashed :=
    fun h₁ h₂ h₃ => ⟨fun hp => absurd hp h₁, fun p hp => absurd hp (h₂ p), h₃⟩
  have hstay : s'.requestQueue = s.requestQueue → s'.pump = s.pump →
      (s'.pump = .peek → s'.requestQueue.elements ≠ [])
        ∧ (∀ p, s'.pump = .addPending p → s'.requestQueue.peek = some p)
        ∧ s'.pump ≠ .crashed := by
    intro hq hp
    rw [hq, hp]
    exact ⟨h.peeking, h.adding, h.alive⟩
  cases hm with
  | idle _ pc timer n _ hi' hd =>
      refine haway ?_ ?_ ?_
      · rintro rfl; exact absurd hi' (by simp [inert])
      · rintro p rfl; exact absurd hi' (by simp [inert])
      · rintro rfl; exact absurd hi' (by simp [inert])
  | seesRequest _ _ hne => exact ⟨fun _ => hne, fun p hp => absurd hp (by simp), by simp⟩
  | crash _ hpc hnone => exact absurd hnone (h.no_crash hpc)
  | peek _ p _ hp =>
      refine ⟨fun hp => absurd hp (by simp), ?_, by simp⟩
      intro p' hp'
      cases hp'
      exact hp
  | takeReady _ _ => exact haway (by simp) (by simp) (by simp)
  | seesReady _ _ _ => exact haway (by simp) (by simp) (by simp)
  | mark _ p _ => exact haway (by simp) (by simp) (by simp)
  | write p _ => exact haway (by simp) (by simp) (by simp)
  | writeFails text p _ => exact haway (by simp) (by simp) (by simp)
  | failed _ p text c s₁ r _ _ =>
      cases r <;> exact haway (by simp [pumpAfter]) (by simp [pumpAfter]) (by simp [pumpAfter])
  | reportFailed _ p text _ => exact haway (by simp) (by simp) (by simp)
  | seesPending _ _ _ => exact haway (by simp) (by simp) (by simp)
  | peekTimeout _ p _ _ => exact haway (by simp) (by simp) (by simp)
  | timedOut _ p c s₁ r _ _ =>
      cases r <;> exact haway (by simp [pumpAfter]) (by simp [pumpAfter]) (by simp [pumpAfter])
  | reportTimedOut _ p _ => exact haway (by simp) (by simp) (by simp)
  | reader rid kind c s₁ r hpc hc =>
      cases hc with
      | pop =>
          refine haway ?_ ?_ h.alive
          · intro hp
            have hd := h.no_pop hone (by rw [show s.pump = .peek from hp]; rfl)
              (by rw [show s.pump = .peek from hp]; simp) hpc
            exact absurd hd (by simp [owes])
          · intro p hp
            have hd := h.no_pop hone (by rw [show s.pump = .addPending p from hp]; rfl)
              (by rw [show s.pump = .addPending p from hp]; simp) hpc
            exact absurd hd (by simp [owes])
      | _ => exact hstay rfl rfl
  | push t req q _ hq =>
      refine ⟨fun hp => ?_, fun p hp => peek_push (h.adding p hp) hq, h.alive⟩
      show q.elements ≠ []
      rw [hq]
      simp
  | callerCompletes t rid c s₁ r ht _ => exact absurd (List.mem_of_getElem? ht) (h.calls rid c)
  | _ => exact hstay rfl rfl

theorem orderly_step (h : Orderly s) (hone : Once s) (hids : UsableIds s) (hok : Exclusive s a)
    (hm : Move s a s') : Orderly s' := by
  obtain ⟨h₁, h₂, h₃⟩ := position_step h hone hm
  refine ⟨phase_step h.phase h.calls hids (hok.undisturbed h) hm h₃, alone_step h hone hok hm,
    h₁, h₂, h₃, calls_step h.calls ?_ hm⟩
  rintro rid rfl
  exact hok

end Step

theorem orderly_reachable {n : Nat} {timeout : Int} {s : ClientSteps}
    (h : ReachableWhile (ClientSteps.machine n timeout) Exclusive s) : Orderly s := by
  refine ReachableWhile.invariant (P := Orderly) ?_ ?_ h
  · intro s hs
    rw [show s = ClientSteps.start n timeout from hs]
    exact orderly_start n timeout
  · intro s a s' hr hord hok hact
    obtain ⟨hids, hone⟩ := once_reachable (hr.mono (fun _ _ h => h.silentDispatch))
    exact orderly_step hord hone hids hok (act_move hact).2

/-- Everything a run that keeps the two apart maintains. -/
theorem balanced_reachable {n : Nat} {timeout : Int} {s : ClientSteps}
    (h : ReachableWhile (ClientSteps.machine n timeout) Exclusive s) :
    Balanced s ∧ DistinctIds s := by
  refine ReachableWhile.invariant (P := fun s => Balanced s ∧ DistinctIds s) ?_ ?_ h
  · intro s hs
    rw [show s = ClientSteps.start n timeout from hs]
    exact ⟨List.Perm.refl _, List.nodup_nil⟩
  · intro s a s' hr ⟨hb, hd⟩ hok hact
    have hm := (act_move hact).2
    have hord := orderly_reachable hr
    exact ⟨balanced_step hb hord.phase hord.calls hm, distinctIds_step hd (hok.undisturbed hord) hm⟩

/-! ## What is due is delivered -/

section Delivery

variable {n : Nat} {timeout : Int} {s : ClientSteps}

/-- `k` steps of one goroutine, with nobody else moving, report `rid`. -/
def Reports (n : Nat) (timeout : Int) (s : ClientSteps) (a : ClientSteps.Action) (rid : String)
    (k : Nat) : Prop :=
  ∃ s', (ClientSteps.machine n timeout).run s (List.replicate k a) = some s'
    ∧ rid ∈ s'.outcomes.map Prod.fst

theorem Reports.step (s₁ : ClientSteps) {a : ClientSteps.Action} {rid : String} {k : Nat}
    (hact : s.act a = some s₁) (h : Reports n timeout s₁ a rid k) :
    Reports n timeout s a rid (k + 1) := by
  obtain ⟨s', hrun, hmem⟩ := h
  refine ⟨s', ?_, hmem⟩
  rw [List.replicate_succ, Machine.run]
  show (s.act a).bind _ = some s'
  rw [hact]
  exact hrun

theorem act_reader (h : s.pump ≠ .crashed) : s.act .reader = s.readerStep := by
  unfold ClientSteps.act
  split
  · rename_i hpc; exact absurd hpc h
  · rfl

theorem act_pump (h : s.pump ≠ .crashed) (w : Option String) :
    s.act (.pump w) = s.pumpStep w := by
  unfold ClientSteps.act
  split
  · rename_i hpc; exact absurd hpc h
  · rfl

theorem reports_of_handler {rid : String} {kind : Reply} (halive : s.pump ≠ .crashed)
    (hpc : s.reader = .handler rid kind) : Reports n timeout s .reader rid 1 := by
  refine Reports.step _ (by rw [act_reader halive, ClientSteps.readerStep, hpc]) ?_
  exact ⟨_, rfl, by simp⟩

theorem reports_of_ready {rid : String} {kind : Reply} (halive : s.pump ≠ .crashed)
    (hpc : s.reader = .completing rid kind .ready) (h0 : s.readyForDispatch = 0) :
    Reports n timeout s .reader rid 2 := by
  let s₁ : ClientSteps := { s with readyForDispatch := 1, reader := .handler rid kind }
  have hs₁ : s₁.reader = .handler rid kind := rfl
  refine Reports.step s₁ ?_ (reports_of_handler halive hs₁)
  rw [act_reader halive, ClientSteps.readerStep, hpc]
  simp [ClientSteps.complete, h0, s₁]

/-- The reader delivers what it owes, in three steps at most. -/
theorem reader_reports {rid : String} (halive : s.pump ≠ .crashed) (halone : Alone s)
    (hdue : rid ∈ readerDue s.reader) : ∃ k ≤ 3, Reports n timeout s .reader rid k := by
  cases hpc : s.reader with
  | idle => rw [hpc] at hdue; exact absurd hdue (by simp [readerDue])
  | handler rid' kind =>
      rw [hpc] at hdue
      cases List.mem_singleton.mp hdue
      exact ⟨1, by omega, reports_of_handler halive hpc⟩
  | completing rid' kind c =>
      rw [hpc] at hdue
      cases c with
      | peek => exact absurd hdue (by simp [readerDue, dueAt, owes])
      | pop => exact absurd hdue (by simp [readerDue, dueAt, owes])
      | ready =>
          cases List.mem_singleton.mp hdue
          have h0 := (halone.reader (by rw [hpc]; rfl)).1
          exact ⟨2, by omega, reports_of_ready halive hpc h0⟩
      | delete =>
          cases List.mem_singleton.mp hdue
          have h0 := (halone.reader (by rw [hpc]; rfl)).1
          let s₁ : ClientSteps := { s with
            pendingRequestState := s.pendingRequestState.deletePendingRequest rid
            reader := .completing rid kind .ready }
          have hs₁ : s₁.reader = .completing rid kind .ready := rfl
          refine ⟨3, by omega, Reports.step s₁ ?_ (reports_of_ready halive hs₁ h0)⟩
          rw [act_reader halive, ClientSteps.readerStep, hpc]
          rfl

theorem reports_of_reportFailed {p : Posted} {text : String}
    (hpc : s.pump = .reportFailed p text) : Reports n timeout s (.pump none) p.id 1 := by
  refine Reports.step _ (by rw [act_pump (by simp [hpc]), ClientSteps.pumpStep, hpc]) ?_
  exact ⟨_, rfl, by simp⟩

theorem reports_of_reportTimedOut {p : Posted} (hpc : s.pump = .reportTimedOut p) :
    Reports n timeout s (.pump none) p.id 1 := by
  refine Reports.step _ (by rw [act_pump (by simp [hpc]), ClientSteps.pumpStep, hpc]) ?_
  exact ⟨_, rfl, by simp⟩

/-- The same for either place where the pump calls `CompleteRequest`. -/
theorem pump_reports {rid : String} (next : Completing → PumpPC) (done : PumpPC)
    (hnext : ∀ (s : ClientSteps) (c : Completing), s.pump = next c →
      s.act (.pump none) = s.pumpComplete rid c next done)
    (hdone : ∀ s : ClientSteps, s.pump = done → Reports n timeout s (.pump none) rid 1)
    {c : Completing} (hpc : s.pump = next c) (hdue : owes c = true)
    (h0 : s.readyForDispatch = 0) : ∃ k ≤ 3, Reports n timeout s (.pump none) rid k := by
  have hready : ∀ s : ClientSteps, s.pump = next .ready → s.readyForDispatch = 0 →
      Reports n timeout s (.pump none) rid 2 := by
    intro s hpc h0
    refine Reports.step { s with readyForDispatch := 1, pump := done } ?_ (hdone _ rfl)
    rw [hnext s .ready hpc]
    simp [ClientSteps.pumpComplete, ClientSteps.complete, h0]
  cases c with
  | peek => exact absurd hdue (by simp [owes])
  | pop => exact absurd hdue (by simp [owes])
  | ready => exact ⟨2, by omega, hready s hpc h0⟩
  | delete =>
      refine ⟨3, by omega, Reports.step _ (hnext s .delete hpc) (hready _ ?_ ?_)⟩
      · rfl
      · exact h0

/-- The pump delivers what it owes, in three steps at most. -/
theorem pump_delivers {rid : String} (halone : Alone s) (hdue : rid ∈ pumpDue s.pump) :
    ∃ k ≤ 3, Reports n timeout s (.pump none) rid k := by
  cases hpc : s.pump with
  | reportFailed p text =>
      rw [hpc] at hdue
      cases List.mem_singleton.mp hdue
      exact ⟨1, by omega, reports_of_reportFailed hpc⟩
  | reportTimedOut p =>
      rw [hpc] at hdue
      cases List.mem_singleton.mp hdue
      exact ⟨1, by omega, reports_of_reportTimedOut hpc⟩
  | failed p text c =>
      rw [hpc] at hdue
      obtain ⟨rfl, ho⟩ := mem_dueAt.mp hdue
      have h0 := (halone.pump (by rw [hpc]; exact ho)).1
      refine pump_reports (fun c' => .failed p text c') (.reportFailed p text) ?_
        (fun s hs => reports_of_reportFailed hs) hpc ho h0
      intro s c hs
      rw [act_pump (by simp [hs]), ClientSteps.pumpStep, hs]
  | timedOut p c =>
      rw [hpc] at hdue
      obtain ⟨rfl, ho⟩ := mem_dueAt.mp hdue
      have h0 := (halone.pump (by rw [hpc]; exact ho)).1
      refine pump_reports (fun c' => .timedOut p c') (.reportTimedOut p) ?_
        (fun s hs => reports_of_reportTimedOut hs) hpc ho h0
      intro s c hs
      rw [act_pump (by simp [hs]), ClientSteps.pumpStep, hs]
  | _ => rw [hpc] at hdue; exact absurd hdue (by simp [pumpDue])

end Delivery

/--
**Exactly one outcome for each request, when reader and pump keep apart.**

No accepted request is reported twice, as answered, failed or canceled. And
whatever was removed from the queue has been reported already, or is reported
within three more steps of the goroutine that removed it, which nobody can block.
-/
theorem one_outcome_per_request {n : Nat} {timeout : Int} {s : ClientSteps}
    (h : ReachableWhile (ClientSteps.machine n timeout) Exclusive s) :
    (∀ p ∈ acceptedRequests s, (s.outcomes.map Prod.fst).count p.id ≤ 1)
      ∧ ∀ p ∈ s.popped, p.id ∈ s.outcomes.map Prod.fst
        ∨ (∃ k ≤ 3, Reports n timeout s .reader p.id k)
        ∨ ∃ k ≤ 3, Reports n timeout s (.pump none) p.id k := by
  obtain ⟨hbal, hdist⟩ := balanced_reachable h
  have hord := orderly_reachable h
  -- the removed ids are distinct, so the reported ones among them are
  have hpopped : (s.popped.map Posted.id).Nodup := by
    refine List.Nodup.sublist ?_ hdist
    exact (List.sublist_append_left _ _).map _
  have hnodup := (hbal.nodup_iff.mpr hpopped).sublist (List.sublist_append_left _ _)
  refine ⟨fun p _ => List.nodup_iff_count.mp hnodup p.id, fun p hp => ?_⟩
  have hmem : p.id ∈ s.outcomes.map Prod.fst ++ due s :=
    hbal.mem_iff.mpr (List.mem_map_of_mem hp)
  rcases List.mem_append.mp hmem with hout | hdue
  · exact Or.inl hout
  · rcases List.mem_append.mp hdue with hr | hp
    · exact Or.inr (Or.inl (reader_reports hord.alive hord.alone hr))
    · exact Or.inr (Or.inr (pump_delivers hord.alone hp))

/-- One heartbeat answered, the next timed out. -/
theorem answered_and_timed_out :
    ∃ s, ReachableWhile (ClientSteps.machine 0 defaultMessageTimeout) Exclusive s
      ∧ s.popped.map Posted.id = ["1", "2"]
      ∧ s.outcomes = [("1", .reply .response), ("2", .canceled)]
      ∧ (∀ p ∈ acceptedRequests s, (s.outcomes.map Prod.fst).count p.id ≤ 1)
      ∧ ∀ p ∈ s.popped, p.id ∈ s.outcomes.map Prod.fst
        ∨ (∃ k ≤ 3, Reports 0 defaultMessageTimeout s .reader p.id k)
        ∨ ∃ k ≤ 3, Reports 0 defaultMessageTimeout s (.pump none) p.id k := by
  have hrun : ∃ s, (ClientSteps.machine 0 defaultMessageTimeout).runWhile
      (fun s a => decide (Exclusive s a)) (ClientSteps.start 0 defaultMessageTimeout)
      (ClientSteps.sending 0 "1" ++ ClientSteps.dispatching .request
        ++ ClientSteps.answering "1" ++ ClientSteps.sending 1 "2"
        ++ ClientSteps.dispatching .ready ++ ClientSteps.tick
        ++ ClientSteps.timingOut) = some s
      ∧ s.popped.map Posted.id = ["1", "2"]
      ∧ s.outcomes = [("1", .reply .response), ("2", .canceled)] := ⟨_, rfl, rfl, rfl⟩
  obtain ⟨s, hs, hp, ho⟩ := hrun
  have hr : ReachableWhile (ClientSteps.machine 0 defaultMessageTimeout) Exclusive s :=
    ReachableWhile.runWhile (fun _ _ hc => of_decide_eq_true hc) (.init rfl) _ hs
  exact ⟨s, hr, hp, ho, one_outcome_per_request hr⟩

/--
A response that meets a timeout: reader and pump both find `"1"` at the head and
both pop. The pump's pop takes `"2"`, which was never written. In the end `"1"`
is reported as canceled and as answered, and nobody is left to report `"2"`.
-/
theorem race_loses_a_request :
    ∃ s, Reachable (ClientSteps.machine 0 defaultMessageTimeout) s
      ∧ s.outcomes = [("1", .canceled), ("1", .reply .response)]
      ∧ s.popped.map Posted.id = ["1", "2"] ∧ s.written.map Posted.id = ["1"]
      ∧ s.requestQueue.elements = [] ∧ due s = []
      ∧ ¬ ∀ p ∈ acceptedRequests s, (s.outcomes.map Prod.fst).count p.id ≤ 1 := by
  have hrun : ∃ s, (ClientSteps.machine 0 defaultMessageTimeout).run
      (ClientSteps.start 0 defaultMessageTimeout)
      (ClientSteps.sending 0 "1" ++ ClientSteps.dispatching .request
        ++ ClientSteps.sending 1 "2" ++ ClientSteps.tick
        ++ List.replicate 3 (.pump none)
        ++ [.receive "1" .response, .reader, .reader]
        ++ List.replicate 5 (.pump none) ++ [.pump none, .select .ready]
        ++ List.replicate 3 .reader) = some s
      ∧ s.outcomes = [("1", .canceled), ("1", .reply .response)]
      ∧ s.popped.map Posted.id = ["1", "2"] ∧ s.written.map Posted.id = ["1"]
      ∧ s.requestQueue.elements = [] ∧ due s = [] := ⟨_, rfl, rfl, rfl, rfl, rfl, rfl⟩
  obtain ⟨s, hs, ho, hp, hw, hq, hd⟩ := hrun
  refine ⟨s, Reachable.run (.init rfl) _ hs, ho, hp, hw, hq, hd, fun hall => ?_⟩
  have hmem : "1" ∈ s.popped.map Posted.id := by rw [hp]; simp
  obtain ⟨p, hp, hid⟩ := List.mem_map.mp hmem
  have hcount := hall p (List.mem_append_left _ hp)
  rw [ho, hid] at hcount
  exact absurd hcount (by decide)

end OcppGo.Proof
