import OcppGo.Proof.ClientOrder

/-!
# How often a request is written

The head of the queue stays queued while its answer is awaited. What keeps the
pump from writing it again is the `rdy` flag, and that flag is raised by any
token on `readyForDispatch`, whoever sent it. `Resume` sends one whenever nothing
is pending, also when the flag is up already. Such a surplus token, read after
the next dispatch, has the pump write the outstanding head a second time.

Surplus tokens are the only way. Call a state `Silent` when no ready token is
unread and no `CompleteRequest` or `Resume` has one left to send. If the pump
marks requests as pending only in silent states, then silence lasts as long as
the marked request is queued: the slot is taken, so `Resume` sends nothing, and
`CompleteRequest` pops before it signals.
-/

namespace OcppGo.Proof

open OcppGo.Lib OcppGo.Ocppj

/-- `CompleteRequest` has popped and still has its token to send. -/
def owes : Completing → Bool
  | .delete | .ready => true
  | .peek | .pop => false

def pumpOwes : PumpPC → Bool
  | .failed _ _ c => owes c
  | .timedOut _ c => owes c
  | _ => false

def readerOwes : ReaderPC → Bool
  | .completing _ _ c => owes c
  | _ => false

def callOwes : CallPC → Bool
  | .completing _ c => owes c
  | .resumeReady => true
  | _ => false

/-- No ready token is unread, and nobody has one left to send. -/
structure Silent (s : ClientSteps) : Prop where
  token : s.readyForDispatch = 0
  pump : pumpOwes s.pump = false
  reader : readerOwes s.reader = false
  callers : ∀ pc ∈ s.callers, callOwes pc = false

instance (s : ClientSteps) : Decidable (Silent s) :=
  decidable_of_iff (s.readyForDispatch = 0 ∧ pumpOwes s.pump = false
      ∧ readerOwes s.reader = false ∧ ∀ pc ∈ s.callers, callOwes pc = false)
    ⟨fun ⟨h₁, h₂, h₃, h₄⟩ => ⟨h₁, h₂, h₃, h₄⟩, fun h => ⟨h.token, h.pump, h.reader, h.callers⟩⟩

/-- The pump is about to mark a request as pending. -/
def marking : PumpPC → Bool
  | .addPending _ => true
  | _ => false

/-- The pump handles a failed `Write`; `rdy` is not lowered yet. -/
def failing : PumpPC → Bool
  | .failed _ _ _ | .reportFailed _ _ => true
  | _ => false

/-- `AddPendingRequest` happens in silent states only, and request ids are not empty. -/
def SilentDispatch (s : ClientSteps) : ClientSteps.Action → Prop
  | .pump _ => marking s.pump = true → Silent s
  | .call (.sendRequest req) => req.call.uniqueId ≠ ""
  | _ => True

instance (s : ClientSteps) : ∀ a, Decidable (SilentDispatch s a)
  | .pump _ => inferInstanceAs (Decidable (marking s.pump = true → Silent s))
  | .call (.sendRequest req) => inferInstanceAs (Decidable (req.call.uniqueId ≠ ""))
  | .call (.completeRequest _) | .call .pause | .call .resume => .isTrue trivial
  | .select _ | .receive _ _ | .reader | .caller _ | .timerExpires => .isTrue trivial

/-! ## Silence lasts until the marked request is popped -/

theorem owes_of_inert {pc : PumpPC} (h : inert pc = true) : pumpOwes pc = false := by
  cases pc <;> first | rfl | exact absurd h (by simp [inert])

/-- Until it owes a token, `CompleteRequest` either pops or changes nothing. -/
theorem CompleteMove.pops_or_same {s s₁ : ClientSteps} {id : String} {c : Completing}
    {r : Option Completing} (h : CompleteMove s id c s₁ r) (hc : owes c = false) :
    s₁.requestQueue.elements = s.requestQueue.elements.tail
      ∨ s₁ = s ∧ ∀ c', r = some c' → owes c' = false := by
  cases h with
  | mismatch _ => exact Or.inr ⟨rfl, fun _ h => absurd h (by simp)⟩
  | found p _ _ => exact Or.inr ⟨rfl, fun c' h => by cases h; rfl⟩
  | pop => exact Or.inl rfl
  | delete => exact absurd hc (by simp [owes])
  | ready _ => exact absurd hc (by simp [owes])

theorem callers_set_silent {l : List CallPC} {t : Nat} {pc : CallPC}
    (h : ∀ pc ∈ l, callOwes pc = false) (hpc : callOwes pc = false) :
    ∀ pc' ∈ l.set t pc, callOwes pc' = false := by
  intro pc' hm
  rcases List.mem_or_eq_of_mem_set hm with hm | rfl
  · exact h pc' hm
  · exact hpc

theorem callers_call_silent {l : List CallPC} (op : Operation)
    (h : ∀ pc ∈ l, callOwes pc = false) :
    ∀ pc ∈ l ++ [ClientSteps.Operation.entry op], callOwes pc = false := by
  intro pc hm
  rcases List.mem_append.mp hm with hm | hm
  · exact h pc hm
  · rw [List.mem_singleton.mp hm]
    cases op <;> rfl

theorem callOwes_of_bystander {pc : CallPC} (h : bystander pc = true) : callOwes pc = false := by
  cases pc <;> first | rfl | exact absurd h (by simp [bystander])

/-- The pump goes where it owes nothing, the rest stays. -/
theorem Silent.pumpMoves {s s' : ClientSteps} (h : Silent s)
    (ht : s'.readyForDispatch = s.readyForDispatch) (hp : pumpOwes s'.pump = false)
    (hr : s'.reader = s.reader) (hc : s'.callers = s.callers) : Silent s' where
  token := ht.trans h.token
  pump := hp
  reader := by rw [hr]; exact h.reader
  callers := by rw [hc]; exact h.callers

/-- A step of somebody's `CompleteRequest`, who owes what the operation owes. -/
theorem CompleteMove.pops_or_silent {s s₁ s' : ClientSteps} {id : String} {c : Completing}
    {r : Option Completing} (h : CompleteMove s id c s₁ r)
    (hq : s'.requestQueue = s₁.requestQueue)
    (hslot : s'.pendingRequestState = s₁.pendingRequestState) (hc : Silent s → owes c = false)
    (hnext : s₁ = s → (∀ c', r = some c' → owes c' = false) → Silent s → Silent s') :
    s'.requestQueue.elements = s.requestQueue.elements.tail
      ∨ (Silent s → s.pendingRequestState.requestID ≠ "" →
          Silent s' ∧ s'.pendingRequestState.requestID ≠ "") := by
  by_cases ho : owes c = true
  · exact Or.inr (fun hs _ => absurd (hc hs) (by simp [ho]))
  · rcases h.pops_or_same (by simpa using ho) with hpop | ⟨hsame, hr⟩
    · exact Or.inl (by rw [hq]; exact hpop)
    · refine Or.inr (fun hs hne => ⟨hnext hsame hr hs, ?_⟩)
      rw [hslot, hsame]
      exact hne

/-- **A step pops, or does not break the silence while the slot is taken.** -/
theorem Move.pops_or_silent {s s' : ClientSteps} {a : ClientSteps.Action} (h : Move s a s') :
    s'.requestQueue.elements = s.requestQueue.elements.tail
      ∨ (Silent s → s.pendingRequestState.requestID ≠ "" →
          Silent s' ∧ s'.pendingRequestState.requestID ≠ "") := by
  cases h with
  | idle _ pc timer n _ hi' _ =>
      exact Or.inr (fun hs hne => ⟨hs.pumpMoves rfl (owes_of_inert hi') rfl rfl, hne⟩)
  | takeReady _ hpos => exact Or.inr (fun hs _ => absurd hs.token (by omega))
  | seesReady _ _ _ => exact Or.inr (fun hs hne => ⟨hs.pumpMoves rfl rfl rfl rfl, hne⟩)
  | seesRequest _ _ _ => exact Or.inr (fun hs hne => ⟨hs.pumpMoves rfl rfl rfl rfl, hne⟩)
  | crash _ _ _ => exact Or.inr (fun hs hne => ⟨hs.pumpMoves rfl rfl rfl rfl, hne⟩)
  | peek _ p _ _ => exact Or.inr (fun hs hne => ⟨hs.pumpMoves rfl rfl rfl rfl, hne⟩)
  | mark _ p _ =>
      refine Or.inr (fun hs hne => ⟨hs.pumpMoves rfl rfl rfl rfl, ?_⟩)
      -- a taken slot ignores `AddPendingRequest`
      show (s.pendingRequestState.addPendingRequest p.id p.payload).requestID ≠ ""
      rw [ClientState.addPendingRequest_of_pending hne p.id p.payload]
      exact hne
  | write p _ => exact Or.inr (fun hs hne => ⟨hs.pumpMoves rfl rfl rfl rfl, hne⟩)
  | writeFails text p _ => exact Or.inr (fun hs hne => ⟨hs.pumpMoves rfl rfl rfl rfl, hne⟩)
  | failed _ p text c s₁ r hpc hc =>
      refine hc.pops_or_silent rfl rfl (fun hs => ?_) ?_
      · have hp := hs.pump
        rwa [hpc] at hp
      · rintro rfl hr hs
        refine hs.pumpMoves rfl ?_ rfl rfl
        cases r with
        | none => rfl
        | some c' => exact hr c' rfl
  | reportFailed _ p text _ => exact Or.inr (fun hs hne => ⟨hs.pumpMoves rfl rfl rfl rfl, hne⟩)
  | seesPending _ _ _ => exact Or.inr (fun hs hne => ⟨hs.pumpMoves rfl rfl rfl rfl, hne⟩)
  | peekTimeout _ p _ _ => exact Or.inr (fun hs hne => ⟨hs.pumpMoves rfl rfl rfl rfl, hne⟩)
  | timedOut _ p c s₁ r hpc hc =>
      refine hc.pops_or_silent rfl rfl (fun hs => ?_) ?_
      · have hp := hs.pump
        rwa [hpc] at hp
      · rintro rfl hr hs
        refine hs.pumpMoves rfl ?_ rfl rfl
        cases r with
        | none => rfl
        | some c' => exact hr c' rfl
  | reportTimedOut _ p _ => exact Or.inr (fun hs hne => ⟨hs.pumpMoves rfl rfl rfl rfl, hne⟩)
  | discard id kind => exact Or.inr (fun hs hne => ⟨hs, hne⟩)
  | accept id kind _ _ _ =>
      exact Or.inr (fun hs hne => ⟨⟨hs.token, hs.pump, rfl, hs.callers⟩, hne⟩)
  | reader id kind c s₁ r hpc hc =>
      refine hc.pops_or_silent rfl rfl (fun hs => ?_) ?_
      · have hr := hs.reader
        rwa [hpc] at hr
      · rintro rfl hr hs
        refine ⟨hs.token, hs.pump, ?_, hs.callers⟩
        cases r with
        | none => rfl
        | some c' => exact hr c' rfl
  | handler id kind _ =>
      exact Or.inr (fun hs hne => ⟨⟨hs.token, hs.pump, rfl, hs.callers⟩, hne⟩)
  | call op =>
      exact Or.inr (fun hs hne =>
        ⟨⟨hs.token, hs.pump, hs.reader, callers_call_silent op hs.callers⟩, hne⟩)
  | caller t pc pc' timer n paused _ hon =>
      have hby := bystander_of_onward hon
      exact Or.inr (fun hs hne => ⟨⟨hs.token, hs.pump, hs.reader,
        callers_set_silent hs.callers (callOwes_of_bystander hby)⟩, hne⟩)
  | push t req q _ _ =>
      exact Or.inr (fun hs hne =>
        ⟨⟨hs.token, hs.pump, hs.reader, callers_set_silent hs.callers rfl⟩, hne⟩)
  | callerCompletes t id c s₁ r ht hc =>
      refine hc.pops_or_silent rfl rfl (fun hs => hs.callers _ (List.mem_of_getElem? ht)) ?_
      rintro rfl hr hs
      refine ⟨hs.token, hs.pump, hs.reader, callers_set_silent hs.callers ?_⟩
      cases r with
      | none => rfl
      | some c' => exact hr c' rfl
  | resumeTest t _ hfree => exact Or.inr (fun _ hne => absurd hfree hne)
  | resumeReady t ht _ =>
      refine Or.inr (fun hs _ => absurd (hs.callers _ (List.mem_of_getElem? ht)) ?_)
      simp [callOwes]
  | timerExpires timer =>
      exact Or.inr (fun hs hne => ⟨⟨hs.token, hs.pump, hs.reader, hs.callers⟩, hne⟩)

/-! ## Request ids -/

/-- No request the pump can meet has an empty id. -/
structure UsableIds (s : ClientSteps) : Prop where
  queue : ∀ p ∈ s.requestQueue.elements, p.id ≠ ""
  held : ∀ p, held s.pump = some p → p.id ≠ ""
  callers : ∀ req, CallPC.push req ∈ s.callers → req.call.uniqueId ≠ ""

theorem usableIds_start (n : Nat) (timeout : Int) : UsableIds (ClientSteps.start n timeout) where
  queue := by intro p hp; simp [ClientSteps.start] at hp
  held := by intro p hp; simp [ClientSteps.start, Proof.held] at hp
  callers := by intro req hm; simp [ClientSteps.start] at hm

/-- A `SendRequest` about to push was so before the step, or was just called. -/
theorem Move.mem_push {s s' : ClientSteps} {a : ClientSteps.Action} (h : Move s a s')
    {req : RequestBundle} (hm : CallPC.push req ∈ s'.callers) :
    CallPC.push req ∈ s.callers ∨ a = .call (.sendRequest req) := by
  rcases h.mem_callers hm with hm | ⟨op, rfl, he⟩ | hby | he | ⟨id, c, r, _, he⟩
  · exact Or.inl hm
  · cases op with
    | sendRequest req' => cases he; exact Or.inr rfl
    | completeRequest id => cases he
    | pause => cases he
    | resume => cases he
  · exact absurd hby (by simp [bystander])
  · exact absurd he (by simp)
  · cases r <;> exact absurd he (by simp [callAfter])

theorem usableIds_step {s s' : ClientSteps} {a : ClientSteps.Action} (h : UsableIds s)
    (hok : ∀ req, a = .call (.sendRequest req) → req.call.uniqueId ≠ "") (hm : Move s a s') :
    UsableIds s' where
  queue := by
    intro p hp
    rcases hm.effect.mem_queue hp with hp | ⟨_, hc⟩
    · exact h.queue p hp
    · exact h.callers _ hc
  held := by
    intro p hp
    cases hm.effect with
    | quiet _ _ _ _ hh => exact h.held p (hh ▸ hp)
    | push _ _ _ _ _ _ hh => exact h.held p (hh ▸ hp)
    | pop _ _ _ _ hh => exact h.held p (hh ▸ hp)
    | peek q hq _ _ _ _ _ hh =>
        rw [hh] at hp
        cases hp
        exact h.queue _ (List.mem_of_mem_head? hq)
    | write _ _ _ _ _ _ hh => rw [hh] at hp; exact absurd hp (by simp)
  callers := by
    intro req hc
    rcases hm.mem_push hc with hc | rfl
    · exact h.callers req hc
    · exact hok req rfl

/-! ## Written once -/

/-- A frame of this request has been passed to `network.Write`. -/
def sent (s : ClientSteps) (p : Posted) : Prop := p.seq ∈ s.written.map Posted.seq

theorem sent_iff {s : ClientSteps} {p : Posted} :
    sent s p ↔ ∃ w ∈ s.written, w.seq = p.seq := by
  simp [sent]

structure Once (s : ClientSteps) : Prop where
  nodup : (s.written.map Posted.seq).Nodup
  /-- While a written request is queued, nothing can raise `rdy`. -/
  outstanding : ∀ q ∈ s.requestQueue.elements, sent s q →
    Silent s ∧ s.pendingRequestState.requestID ≠ "" ∧ (s.rdy = false ∨ failing s.pump = true)
  /-- A dispatch only starts when nothing queued was written. -/
  fresh : dispatching s.pump = true → ∀ q ∈ s.requestQueue.elements, ¬ sent s q
  /-- The request in the pump's hands was not written yet. -/
  unsent : ∀ p, held s.pump = some p → ¬ sent s p
  /-- What is marked and about to be written was marked in silence. -/
  marked : ∀ p, s.pump = .write p → ∀ q ∈ s.requestQueue.elements, q.seq = p.seq →
    Silent s ∧ s.pendingRequestState.requestID ≠ ""

theorem once_start (n : Nat) (timeout : Int) : Once (ClientSteps.start n timeout) where
  nodup := List.nodup_nil
  outstanding := by intro q hq; simp [ClientSteps.start] at hq
  fresh := by intro _ q hq; simp [ClientSteps.start] at hq
  unsent := by intro p hp; simp [ClientSteps.start, held] at hp
  marked := by intro p hp; simp [ClientSteps.start] at hp

/-- A pop takes the only queued request that can be written or held. -/
theorem Ordered.tail_unsent {s : ClientSteps} (ho : Ordered s) {q : Posted}
    (hq : q ∈ s.requestQueue.elements.tail) :
    ¬ sent s q ∧ ∀ p, held s.pump = some p → q.seq ≠ p.seq := by
  have hmem := List.mem_of_mem_tail hq
  refine ⟨fun hs => ?_, fun p hh hk => ?_⟩
  · obtain ⟨w, hw, hk⟩ := sent_iff.mp hs
    exact ho.queue.head_notMem_tail (ho.written_is_head hmem hw hk) hq
  · have hhead := ho.is_head hmem (fun x hx => hk ▸ (ho.heldBetween p hh).2.2 x hx)
    exact ho.queue.head_notMem_tail hhead hq

/-- What was pushed a moment ago cannot have been written. -/
theorem Ordered.new_unsent {s : ClientSteps} (ho : Ordered s) {q : Posted}
    (hq : q.seq = s.accepted) : ¬ sent s q := by
  intro hs
  obtain ⟨w, hw, hk⟩ := sent_iff.mp hs
  have := ho.writtenBound w hw
  omega

/-- The invariant survives every step that neither writes, peeks, marks nor raises `rdy`. -/
theorem Once.frame {s s' : ClientSteps} {a : ClientSteps.Action} (h : Once s) (ho : Ordered s)
    (hm : Move s a s') (hw : s'.written = s.written)
    (hd : dispatching s'.pump = true → dispatching s.pump = true)
    (hh : ∀ p, held s'.pump = some p → held s.pump = some p)
    (hmk : ∀ p, s'.pump = .write p → s.pump = .write p)
    (hf : s.rdy = false ∨ failing s.pump = true → s'.rdy = false ∨ failing s'.pump = true) :
    Once s' := by
  have hsent : ∀ q, sent s' q ↔ sent s q := fun q => by simp [sent, hw]
  -- what was pushed by this step was not written yet
  have hold : ∀ q ∈ s'.requestQueue.elements, sent s q → q ∈ s.requestQueue.elements := by
    intro q hq hs
    rcases hm.effect.mem_queue hq with hq | ⟨hq, _⟩
    · exact hq
    · exact absurd hs (ho.new_unsent hq)
  refine ⟨by rw [hw]; exact h.nodup, ?_, ?_, ?_, ?_⟩
  · intro q hq hs
    rw [hsent] at hs
    rcases hm.pops_or_silent with hpop | hkeep
    · rw [hpop] at hq
      exact absurd hs (ho.tail_unsent hq).1
    · obtain ⟨h₁, h₂, h₃⟩ := h.outstanding q (hold q hq hs) hs
      obtain ⟨h₄, h₅⟩ := hkeep h₁ h₂
      exact ⟨h₄, h₅, hf h₃⟩
  · intro hd' q hq hs
    rw [hsent] at hs
    exact h.fresh (hd hd') q (hold q hq hs) hs
  · intro p hp hs
    exact h.unsent p (hh p hp) ((hsent p).mp hs)
  · intro p hp q hq hk
    have hp := hmk p hp
    have hheld : held s.pump = some p := by rw [hp]; rfl
    rcases hm.pops_or_silent with hpop | hkeep
    · rw [hpop] at hq
      exact absurd hk ((ho.tail_unsent hq).2 p hheld)
    · rcases hm.effect.mem_queue hq with hq | ⟨hq, _⟩
      · obtain ⟨h₁, h₂⟩ := h.marked p hp q hq hk
        exact hkeep h₁ h₂
      · have := (ho.heldBetween p hheld).1
        omega

/-- A frame of `p` joins the written ones, from the pump's hands. -/
theorem Once.write {s s' : ClientSteps} {p : Posted} (h : Once s) (hpc : s.pump = .write p)
    (hw : s'.written = s.written ++ [p]) (hq : s'.requestQueue = s.requestQueue)
    (hd : dispatching s'.pump = false) (hh : held s'.pump = none)
    (hs : Silent s → Silent s')
    (hslot : s'.pendingRequestState = s.pendingRequestState)
    (hf : s'.rdy = false ∨ failing s'.pump = true) : Once s' := by
  -- nothing queued was written before this
  have hfresh := h.fresh (by rw [hpc]; rfl)
  refine ⟨?_, ?_, ?_, ?_, ?_⟩
  · rw [hw, List.map_append, List.nodup_append]
    refine ⟨h.nodup, List.pairwise_singleton _ _, ?_⟩
    intro a ha b hb hab
    have hb : b = p.seq := by simpa using hb
    rw [hab, hb] at ha
    exact h.unsent p (by rw [hpc]; rfl) ha
  · intro q hqm hs'
    rw [hq] at hqm
    -- the only queued request that counts as written is the one just written
    have hs' : q.seq ∈ s.written.map Posted.seq ∨ q.seq = p.seq := by
      simpa only [sent, hw, List.map_append, List.map_cons, List.map_nil, List.mem_append,
        List.mem_singleton] using hs'
    rcases hs' with hs' | hk
    · exact absurd hs' (hfresh q hqm)
    · obtain ⟨h₁, h₂⟩ := h.marked p hpc q hqm hk
      exact ⟨hs h₁, by rw [hslot]; exact h₂, hf⟩
  · intro hd'; rw [hd] at hd'; exact absurd hd' (by simp)
  · intro p' hp'; rw [hh] at hp'; exact absurd hp' (by simp)
  · intro p' hp'; rw [hp'] at hd; exact absurd hd (by simp [dispatching])

theorem failing_of_inert {pc : PumpPC} (h : inert pc = true) : failing pc = false := by
  cases pc <;> first | rfl | exact absurd h (by simp [inert])

/-- A move of another goroutine. -/
theorem Once.othersMove {s s' : ClientSteps} {a : ClientSteps.Action} (h : Once s)
    (ho : Ordered s) (hm : Move s a s') (hw : s'.written = s.written) (hp : s'.pump = s.pump)
    (hr : s'.rdy = s.rdy) : Once s' := by
  refine h.frame ho hm hw ?_ ?_ ?_ ?_ <;> rw [hp]
  · exact id
  · exact fun _ => id
  · exact fun _ => id
  · rw [hr]; exact id

/-- A move of the pump that leaves the dispatch aside. -/
theorem Once.pumpMoves {s s' : ClientSteps} {a : ClientSteps.Action} (h : Once s)
    (ho : Ordered s) (hm : Move s a s') (hw : s'.written = s.written)
    (hd : dispatching s'.pump = false) (hh : held s'.pump = none)
    (hf : s.rdy = false ∨ failing s.pump = true → s'.rdy = false ∨ failing s'.pump = true) :
    Once s' := by
  refine h.frame ho hm hw ?_ ?_ ?_ hf
  · intro hd'; rw [hd] at hd'; exact absurd hd' (by simp)
  · intro p hp; rw [hh] at hp; exact absurd hp (by simp)
  · intro p hp; rw [hp] at hd; exact absurd hd (by simp [dispatching])

/-- A step of the pump on the way to a dispatch, with nothing queued that was written. -/
theorem Once.dispatchMoves {s s' : ClientSteps} (h : Once s)
    (hnone : ∀ q ∈ s.requestQueue.elements, ¬ sent s q) (hw : s'.written = s.written)
    (hq : s'.requestQueue = s.requestQueue) (hh : ∀ p, held s'.pump = some p → ¬ sent s p)
    (hm : ∀ p, s'.pump = .write p → Silent s' ∧ s'.pendingRequestState.requestID ≠ "") :
    Once s' := by
  have hnone' : ∀ q ∈ s'.requestQueue.elements, ¬ sent s' q := by
    rw [hq]
    simpa only [sent, hw] using hnone
  refine ⟨by rw [hw]; exact h.nodup, fun q hq hs => absurd hs (hnone' q hq), fun _ => hnone', ?_,
    fun p hp _ _ _ => hm p hp⟩
  simpa only [sent, hw] using hh

/-- **One step of a run that marks in silence keeps every written request single.** -/
theorem once_step {s s' : ClientSteps} {a : ClientSteps.Action} (h : Once s) (ho : Ordered s)
    (hids : UsableIds s) (hok : SilentDispatch s a) (hm : Move s a s') : Once s' := by
  have hmove := hm
  cases hm with
  | idle _ pc timer n hi hi' hd =>
      refine h.pumpMoves ho hmove rfl hd (held_of_inert hi') (fun hf => ?_)
      rw [failing_of_inert hi] at hf
      exact Or.inl (hf.resolve_right (by simp))
  | takeReady _ hpos =>
      -- an unread token rules out that anything queued was written
      have hnone : ∀ q ∈ s.requestQueue.elements, ¬ sent s q := fun q hq hs =>
        absurd (h.outstanding q hq hs).1.token (by omega)
      exact h.dispatchMoves hnone rfl rfl (fun p hp => absurd hp (by simp [held]))
        (fun p hp => absurd hp (by simp))
  | seesReady _ hpc hrdy =>
      have hnone : ∀ q ∈ s.requestQueue.elements, ¬ sent s q := by
        intro q hq hs
        rcases (h.outstanding q hq hs).2.2 with hr | hf
        · rw [hrdy] at hr; exact absurd hr (by simp)
        · rw [hpc] at hf; exact absurd hf (by simp [failing])
      exact h.dispatchMoves hnone rfl rfl (fun p hp => absurd hp (by simp [held]))
        (fun p hp => absurd hp (by simp))
  | seesRequest _ hpc _ =>
      exact h.dispatchMoves (h.fresh (by rw [hpc]; rfl)) rfl rfl
        (fun p hp => absurd hp (by simp [held])) (fun p hp => absurd hp (by simp))
  | crash _ hpc _ =>
      refine h.pumpMoves ho hmove rfl rfl rfl (fun hf => ?_)
      rcases hpc with hpc | hpc <;> rw [hpc] at hf <;>
        exact Or.inl (hf.resolve_right (by simp [failing]))
  | peek _ p hpc hp =>
      have hnone := h.fresh (by rw [hpc]; rfl)
      refine h.dispatchMoves hnone rfl rfl ?_ (fun p hp => absurd hp (by simp))
      intro p' hp'
      cases hp'
      exact hnone p (List.mem_of_mem_head? hp)
  | mark _ p hpc =>
      have hheld : held s.pump = some p := by rw [hpc]; rfl
      refine h.dispatchMoves (h.fresh (by rw [hpc]; rfl)) rfl rfl ?_ ?_
      · intro p' hp'
        cases hp'
        exact h.unsent p hheld
      · intro p' hp'
        cases hp'
        have hs : Silent s := hok (by rw [hpc]; rfl)
        exact ⟨hs.pumpMoves rfl rfl rfl rfl,
          ClientState.addPendingRequest_ne (hids.held p hheld) _⟩
  | write p hpc =>
      exact h.write hpc rfl rfl rfl rfl
        (fun hs => hs.pumpMoves rfl rfl rfl rfl) rfl (Or.inl rfl)
  | writeFails text p hpc =>
      exact h.write hpc rfl rfl rfl rfl
        (fun hs => hs.pumpMoves rfl rfl rfl rfl) rfl (Or.inr rfl)
  | failed _ p text c s₁ r hpc hc =>
      refine h.pumpMoves ho hmove hc.written ?_ ?_ (fun _ => Or.inr ?_) <;> cases r <;> rfl
  | reportFailed _ p text _ => exact h.pumpMoves ho hmove rfl rfl rfl (fun _ => Or.inl rfl)
  | seesPending _ hpc _ =>
      refine h.pumpMoves ho hmove rfl rfl rfl (fun hf => ?_)
      rw [hpc] at hf
      exact Or.inl (hf.resolve_right (by simp [failing]))
  | peekTimeout _ p hpc _ =>
      refine h.pumpMoves ho hmove rfl rfl rfl (fun hf => ?_)
      rw [hpc] at hf
      exact Or.inl (hf.resolve_right (by simp [failing]))
  | timedOut _ p c s₁ r hpc hc =>
      refine h.pumpMoves ho hmove hc.written (by cases r <;> rfl) (by cases r <;> rfl)
        (fun hf => ?_)
      rw [hpc] at hf
      exact Or.inl (hc.rdy.trans (hf.resolve_right (by simp [failing])))
  | reportTimedOut _ p hpc =>
      refine h.pumpMoves ho hmove rfl rfl rfl (fun hf => ?_)
      rw [hpc] at hf
      exact Or.inl (hf.resolve_right (by simp [failing]))
  | reader id kind c s₁ r _ hc => exact h.othersMove ho hmove hc.written hc.pump hc.rdy
  | callerCompletes t id c s₁ r _ hc => exact h.othersMove ho hmove hc.written hc.pump hc.rdy
  | _ => exact h.othersMove ho hmove rfl rfl rfl

theorem once_reachable {n : Nat} {timeout : Int} {s : ClientSteps}
    (h : ReachableWhile (ClientSteps.machine n timeout) SilentDispatch s) :
    UsableIds s ∧ Once s := by
  refine ReachableWhile.invariant (P := fun s => UsableIds s ∧ Once s) ?_ ?_ h
  · intro s hs
    rw [show s = ClientSteps.start n timeout from hs]
    exact ⟨usableIds_start n timeout, once_start n timeout⟩
  · intro s a s' hr ⟨hids, honce⟩ hok hact
    have hm := (act_move hact).2
    exact ⟨usableIds_step hids (fun req ha => by subst ha; exact hok) hm,
      once_step honce (ordered_reachable hr.reachable) hids hok hm⟩

/--
**Each accepted request is written at most once**, in every run that marks
requests as pending in silent states only.

The pushes accepted by `SendRequest` are numbered; the claim is that no number
occurs twice among the frames passed to `network.Write`.
-/
theorem written_at_most_once {n : Nat} {timeout : Int} {s : ClientSteps}
    (h : ReachableWhile (ClientSteps.machine n timeout) SilentDispatch s) (k : Nat) :
    (s.written.map Posted.seq).count k ≤ 1 :=
  List.nodup_iff_count.mp (once_reachable h).2.nodup k

/-- A heartbeat sent while disconnected, written once the connection is back. -/
theorem heartbeat_written_once :
    ∃ s, ReachableWhile (ClientSteps.machine 0 defaultMessageTimeout) SilentDispatch s
      ∧ s.written.map Posted.seq = [0] ∧ (s.written.map Posted.seq).count 0 ≤ 1 := by
  have hrun : ∃ s, (ClientSteps.machine 0 defaultMessageTimeout).runWhile
      (fun s a => decide (SilentDispatch s a)) (ClientSteps.start 0 defaultMessageTimeout)
      (ClientSteps.pausing 0 ++ ClientSteps.sending 1 "1" ++ ClientSteps.resuming 2
        ++ ClientSteps.dispatching .ready) = some s
      ∧ s.written.map Posted.seq = [0] := ⟨_, rfl, rfl⟩
  obtain ⟨s, hs, hw⟩ := hrun
  have hr : ReachableWhile (ClientSteps.machine 0 defaultMessageTimeout) SilentDispatch s :=
    ReachableWhile.runWhile (fun _ _ hc => of_decide_eq_true hc) (.init rfl) _ hs
  exact ⟨s, hr, hw, written_at_most_once hr 0⟩

/--
Without the condition a request goes out twice: the token `Resume` sent with
nothing pending is still unread when the next request is dispatched, and the
pump, reading it, writes the same head again.
-/
theorem resume_writes_twice :
    ∃ s, Reachable (ClientSteps.machine 0 defaultMessageTimeout) s
      ∧ s.accepted = 1 ∧ s.written.map Posted.id = ["1", "1"]
      ∧ ¬ (s.written.map Posted.seq).count 0 ≤ 1 := by
  have hrun : ∃ s, (ClientSteps.machine 0 defaultMessageTimeout).run
      (ClientSteps.start 0 defaultMessageTimeout)
      (ClientSteps.pausing 0 ++ ClientSteps.resuming 1 ++ ClientSteps.sending 2 "1"
        ++ ClientSteps.dispatching .request ++ ClientSteps.dispatching .ready) = some s
      ∧ s.accepted = 1 ∧ s.written.map Posted.id = ["1", "1"]
      ∧ s.written.map Posted.seq = [0, 0] := ⟨_, rfl, rfl, rfl, rfl⟩
  obtain ⟨s, hs, ha, hid, hw⟩ := hrun
  refine ⟨s, Reachable.run (.init rfl) _ hs, ha, hid, ?_⟩
  rw [hw]
  decide

end OcppGo.Proof
