import OcppGo.Proof.ServerTimeoutRaces

/-!
# What is on its way to the server's pump

The pump learns that a client can be served by an id in `requestChannel` or in
`readyForDispatch`. Between the operation that makes a token necessary and the
send there are steps of other goroutines, so a token counts as coming from the
moment its sender can do nothing but send it: after `Push` in `SendRequest`, and
after `Pop` in `CompleteRequest`. This module says, for each kind of token, for the
pending slots, the pump's contexts and the queues, what one step can do to it.
-/

namespace OcppGo.Proof

open OcppGo.Lib OcppGo.Ocppj

/-- `CompleteRequest` for this client has done its `Pop`, and not yet its send. -/
def sendsReady (c : String) : ServerCall → Bool
  | .completing c' _ .delete | .completing c' _ .ready => c' == c
  | _ => false

/-- The same for the pump's own `CompleteRequest`. -/
def pumpSendsReady (c : String) : ServerPumpPC → Bool
  | .timedOut c' _ .delete | .timedOut c' _ .ready => c' == c
  | .failed c' _ _ .delete | .failed c' _ _ .ready => c' == c
  | _ => false

/-- A ready token of the client is in the channel, or will be. -/
def ReadyComing (s : ServerSteps) (c : String) : Prop :=
  c ∈ s.readyForDispatch ∨ s.calls.any (sendsReady c) = true ∨ pumpSendsReady c s.pump = true

/-- `SendRequest` for this client has done its `Push`, and not yet its send. -/
def sendsRequest (c : String) : ServerCall → Bool
  | .signal c' => c' == c
  | _ => false

/-- A request token of the client is in the channel, or will be. -/
def RequestComing (s : ServerSteps) (c : String) : Prop :=
  c ∈ s.requestChannel ∨ s.calls.any (sendsRequest c) = true

/-- `onClientDisconnected` for this client has removed the queue, and not yet cleared the slot. -/
def leaves (c : String) : ServerCall → Bool
  | .removeSignal c' | .clear c' => c' == c
  | _ => false

section Step

variable {s s' s₁ : ServerSteps} {a : ServerSteps.Action} {c id : String} {k : ServerCompleting}
  {o : Option ServerCompleting}

/-- Whether some call is still at work is not changed by steps that move idle calls only. -/
theorem CallsKept.any (hk : CallsKept s s') {P : ServerCall → Bool}
    (hP : ∀ pc, P pc = true → callIdle pc = false) : s'.calls.any P = s.calls.any P := by
  rw [Bool.eq_iff_iff, List.any_eq_true, List.any_eq_true]
  constructor
  · rintro ⟨pc, hmem, hpc⟩
    obtain ⟨t, ht⟩ := List.mem_iff_getElem?.mp hmem
    rcases hk.back t pc ht with hold | hidle
    · exact ⟨pc, List.mem_of_getElem? hold, hpc⟩
    · rw [hP pc hpc] at hidle
      exact absurd hidle (by simp)
  · rintro ⟨pc, hmem, hpc⟩
    obtain ⟨t, ht⟩ := List.mem_iff_getElem?.mp hmem
    exact ⟨pc, List.mem_of_getElem? (hk.forth t pc ht (hP pc hpc)), hpc⟩

theorem sendsReady_busy : ∀ pc, sendsReady c pc = true → callIdle pc = false := by
  intro pc h
  cases pc <;> first | rfl | exact absurd h (by simp [sendsReady])

theorem sendsRequest_busy : ∀ pc, sendsRequest c pc = true → callIdle pc = false := by
  intro pc h
  cases pc <;> first | rfl | exact absurd h (by simp [sendsRequest])

theorem leaves_busy : ∀ pc, leaves c pc = true → callIdle pc = false := by
  intro pc h
  cases pc <;> first | rfl | exact absurd h (by simp [leaves])

/-! ## Ready tokens -/

/-- A call past its `Pop` stays so until its token is in the channel. -/
theorem StepCompletes.sends {c₀ : String} (hc : StepCompletes s c id k s₁ o)
    (h : sendsReady c₀ (.completing c id k) = true) :
    c₀ ∈ s₁.readyForDispatch ∨ sendsReady c₀ (callNext c id o) = true := by
  cases hc with
  | delete => exact Or.inr h
  | ready _ => exact Or.inl (List.mem_singleton.mpr (beq_iff_eq.mp h).symm)
  | _ => exact absurd h (by simp [sendsReady])

theorem StepCompletes.readyForDispatch_mono {c₀ : String} (hc : StepCompletes s c id k s₁ o)
    (h : c₀ ∈ s.readyForDispatch) : c₀ ∈ s₁.readyForDispatch := by
  cases hc with
  | ready hempty => rw [hempty] at h; exact absurd h (by simp)
  | _ => exact h

/-- The pump's own `CompleteRequest` goes the same way. -/
theorem ReadyComing.pumpCompletes {c₀ : String} {pc' : ServerPumpPC}
    (h : ReadyComing s c₀) (hc : StepCompletes s c id k s₁ o)
    (hat : pumpSendsReady c₀ s.pump = sendsReady c₀ (.completing c id k))
    (hat' : pumpSendsReady c₀ pc' = sendsReady c₀ (callNext c id o)) :
    ReadyComing { s₁ with pump := pc' } c₀ := by
  rcases h with hmem | hcall | hpump
  · exact Or.inl (hc.readyForDispatch_mono hmem)
  · exact Or.inr (Or.inl (by rw [← hc.calls] at hcall; exact hcall))
  · rcases hc.sends (hat ▸ hpump) with hmem | hnext
    · exact Or.inl hmem
    · exact Or.inr (Or.inr (hat' ▸ hnext))

theorem pumpSendsReady_timedOut {c₀ : String} {p : Posted} :
    pumpSendsReady c₀ (.timedOut c p k) = sendsReady c₀ (.completing c p.id k) := by
  cases k <;> rfl

theorem pumpSendsReady_failed {c₀ : String} {p : Posted} {text : String} :
    pumpSendsReady c₀ (.failed c p text k) = sendsReady c₀ (.completing c p.id k) := by
  cases k <;> rfl

theorem pumpSendsReady_of_not_holding {pc : ServerPumpPC} (h : holding pc = false) :
    pumpSendsReady c pc = false := by
  cases pc <;> first | rfl | exact absurd h (by simp [holding])

theorem pumpSendsReady_of_unburdened {pc : ServerPumpPC} (h : unburdened pc = true) :
    pumpSendsReady c pc = false := by
  cases pc <;> first | rfl | exact absurd h (by simp [unburdened])

/-- The pump moves on, and its own ready token was not among those coming. -/
theorem ReadyComing.keep (h : ReadyComing s c) (hpump : pumpSendsReady c s.pump = false)
    (hmem : c ∈ s.readyForDispatch → c ∈ s'.readyForDispatch) (hk : CallsKept s s') :
    ReadyComing s' c := by
  rcases h with h | h | h
  · exact Or.inl (hmem h)
  · exact Or.inr (Or.inl (by rw [hk.any sendsReady_busy]; exact h))
  · rw [hpump] at h
    exact absurd h (by simp)

/-- A call moves on, and is not past its `Pop`. -/
theorem ReadyComing.keepCall {t : Nat} {pc pc' : ServerCall} (h : ReadyComing s c)
    (ht : s.calls[t]? = some pc) (hpc : sendsReady c pc = false)
    (hcalls : s'.calls = s.calls.set t pc') (hpump : s'.pump = s.pump)
    (hready : s'.readyForDispatch = s.readyForDispatch) : ReadyComing s' c := by
  rcases h with h | h | h
  · exact Or.inl (hready ▸ h)
  · refine Or.inr (Or.inl ?_)
    rw [hcalls]
    exact any_set h ht (fun he => absurd he (by rw [hpc]; simp))
  · exact Or.inr (Or.inr (hpump ▸ h))

/-- **A ready token stays on its way until the pump takes it.** -/
theorem ReadyComing.step (h : ReadyComing s c) (hm : StepMove s a s') :
    ReadyComing s' c ∨ s.pump = .select ∧ s'.pump = .readyGet c ∧ s'.activeContext c = none := by
  cases hm with
  | idle _ _ hpc _ _ _ _ _ hk hidle =>
      have hpump := pumpSendsReady_of_not_holding (c := c) hpc
      cases hidle with
      | takeReady c' calls contexts hsel hhead hended =>
          by_cases hc : c = c'
          · subst hc
            exact Or.inr ⟨hsel, rfl, activeContext_eq_none.mpr hended.own⟩
          · refine Or.inl (h.keep hpump (fun hmem => ?_) hk)
            obtain ⟨rest, hrest⟩ := List.head?_eq_some_iff.mp hhead
            simpa [hrest, hc] using hmem
      | _ => exact Or.inl (h.keep hpump id hk)
  | write c' p s' hpc _ _ _ _ _ hready hk =>
      exact Or.inl (h.keep (by rw [hpc]; rfl) (by rw [hready]; exact id) hk)
  | timedOut w c' p k s₁ o hpc hc =>
      refine Or.inl (h.pumpCompletes hc (by rw [hpc]; exact pumpSendsReady_timedOut) ?_)
      cases o with
      | none => rfl
      | some k' => exact pumpSendsReady_timedOut
  | failed w c' p text k s₁ o hpc hc =>
      refine Or.inl (h.pumpCompletes hc (by rw [hpc]; exact pumpSendsReady_failed) ?_)
      cases o with
      | none => rfl
      | some k' => exact pumpSendsReady_failed
  | start op =>
      refine Or.inl (h.imp_right (Or.imp_left fun hcall => ?_))
      rw [List.any_append, hcall, Bool.true_or]
  | callMoves t pc pc' _ ht hon hcalls hpump _ _ _ _ hready =>
      exact Or.inl (h.keepCall ht (by cases hon <;> rfl) hcalls hpump hready)
  | push t c' r req q ht _ => exact Or.inl (h.keepCall ht rfl rfl rfl rfl)
  | callCompletes t c' id k s₁ o ht hc =>
      rcases h with hmem | hcall | hpump
      · exact Or.inl (Or.inl (hc.readyForDispatch_mono hmem))
      · by_cases hself : sendsReady c (.completing c' id k) = true
        · refine Or.inl ((hc.sends hself).imp_right fun hnext => Or.inl ?_)
          dsimp only
          rw [hc.calls, List.any_eq_true]
          exact ⟨_, List.mem_set (List.getElem?_eq_some_iff.mp ht).1 _, hnext⟩
        · refine Or.inl (Or.inr (Or.inl ?_))
          dsimp only
          rw [hc.calls]
          exact any_set hcall ht (fun he => absurd he hself)
      · exact Or.inl (Or.inr (Or.inr (by rw [← hc.pump] at hpump; exact hpump)))
  | remove t c' ht => exact Or.inl (h.keepCall ht rfl rfl rfl rfl)
  | clear t c' ht => exact Or.inl (h.keepCall ht rfl rfl rfl rfl)
  | createClient c' => exact Or.inl h
  | getClientState c' => exact Or.inl h
  | crash w hpc =>
      refine Or.inl (h.keep ?_ id (.of_eq rfl))
      rcases hpc with ⟨_, _, hpc, _⟩ | ⟨_, _, _, hpc, _⟩ | ⟨_, _, hpc⟩ <;> rw [hpc] <;> rfl
  | seesPending w c' hpc _ => exact Or.inl (h.keep (by rw [hpc]; rfl) id (.of_eq rfl))
  | timeoutGet w c' pending r hpc _ => exact Or.inl (h.keep (by rw [hpc]; rfl) id (.of_eq rfl))
  | timeoutPeek w c' pending r p hpc _ => exact Or.inl (h.keep (by rw [hpc]; rfl) id (.of_eq rfl))
  | reportTimedOut w c' p hpc => exact Or.inl (h.keep (by rw [hpc]; rfl) id (.of_eq rfl))
  | commit w c' hpc _ => exact Or.inl (h.keep (by rw [hpc]; rfl) id (.of_eq rfl))
  | dispatchGet w c' r hpc _ => exact Or.inl (h.keep (by rw [hpc]; rfl) id (.of_eq rfl))
  | dispatchPeek w c' r p hpc _ => exact Or.inl (h.keep (by rw [hpc]; rfl) id (.of_eq rfl))
  | mark w c' p hpc => exact Or.inl (h.keep (by rw [hpc]; rfl) id (.of_eq rfl))
  | writeFails text c' p hpc => exact Or.inl (h.keep (by rw [hpc]; rfl) id (.of_eq rfl))
  | reportFailed w c' p text hpc => exact Or.inl (h.keep (by rw [hpc]; rfl) id (.of_eq rfl))

/-- Where a ready token comes from: it was on its way, or the request has just been popped. -/
theorem StepCompletes.sends_of {c₀ : String} (hc : StepCompletes s c id k s₁ o)
    (h : c₀ ∈ s₁.readyForDispatch ∨ sendsReady c₀ (callNext c id o) = true) :
    (c₀ ∈ s.readyForDispatch ∨ sendsReady c₀ (.completing c id k) = true)
      ∨ c₀ = c ∧ ∃ r, k = .pop r := by
  cases hc with
  | pop r =>
      rcases h with h | h
      · exact Or.inl (Or.inl h)
      · exact Or.inr ⟨(beq_iff_eq.mp h).symm, r, rfl⟩
  | delete => exact Or.inl h
  | ready hempty =>
      refine Or.inl (Or.inr (beq_iff_eq.mpr ?_))
      rcases h with h | h
      · exact (List.mem_singleton.mp h).symm
      · exact absurd h (by simp [callNext, sendsReady])
  | noQueue _ => exact Or.inl (h.imp_right fun e => absurd e (by simp [callNext, sendsReady]))
  | got r _ => exact Or.inl (h.imp_right fun e => absurd e (by simp [callNext, sendsReady]))
  | mismatch r _ => exact Or.inl (h.imp_right fun e => absurd e (by simp [callNext, sendsReady]))
  | found r p _ _ => exact Or.inl (h.imp_right fun e => absurd e (by simp [callNext, sendsReady]))

/-- Somebody pops a queue for the client in this step. -/
def PopsFor (s : ServerSteps) (a : ServerSteps.Action) (c : String) (r : QueueRef) : Prop :=
  (∃ t id, a = .call t ∧ s.calls[t]? = some (.completing c id (.pop r)))
    ∨ ∃ w id, a = .pump w ∧ pumpCompleting s.pump = some (c, id, .pop r)

theorem PopsFor.queueMap {r : QueueRef} (h : PopsFor s a c r) (hm : StepMove s a s') :
    s'.queueMap = s.queueMap.store r (s.queueMap.deref r).pop := by
  rcases h with ⟨t, id, rfl, ht⟩ | ⟨w, id, rfl, hat⟩
  · cases hm with
    | callCompletes u c' id' k s₁ o hu hc =>
        rw [ht] at hu
        cases hu
        cases hc
        rfl
    | callMoves u pc pc' _ hu hon _ =>
        rw [ht] at hu
        cases hu
        cases hon
    | idle _ _ _ _ _ _ _ _ _ hidle => cases hidle
    | push u c' r₁ req q hu _ => rw [ht] at hu; cases hu
    | remove u c' hu => rw [ht] at hu; cases hu
    | clear u c' hu => rw [ht] at hu; cases hu
  · have hhold := holding_of_completing hat
    cases hm with
    | timedOut _ c' p k s₁ o hpc hc =>
        rw [hpc] at hat
        cases hat
        cases hc
        rfl
    | failed _ c' p text k s₁ o hpc hc =>
        rw [hpc] at hat
        cases hat
        cases hc
        rfl
    | idle _ _ hpc => rw [hpc] at hhold; exact absurd hhold (by simp)
    | crash _ hpc =>
        rcases hpc with ⟨_, _, hpc, _⟩ | ⟨_, _, _, hpc, _⟩ | ⟨_, _, hpc⟩ <;> rw [hpc] at hhold <;>
          exact absurd hhold (by simp [holding])
    | seesPending _ c' hpc _ => rw [hpc] at hat; cases hat
    | timeoutGet _ c' pending r' hpc _ => rw [hpc] at hat; cases hat
    | timeoutPeek _ c' pending r' p hpc _ => rw [hpc] at hat; cases hat
    | reportTimedOut _ c' p hpc => rw [hpc] at hat; cases hat
    | commit _ c' hpc _ => rw [hpc] at hat; cases hat
    | dispatchGet _ c' r' hpc _ => rw [hpc] at hat; cases hat
    | dispatchPeek _ c' r' p hpc _ => rw [hpc] at hat; cases hat
    | mark _ c' p hpc => rw [hpc] at hat; cases hat
    | write c' p _ hpc => rw [hpc] at hat; cases hat
    | writeFails text c' p hpc => rw [hpc] at hat; cases hat
    | reportFailed _ c' p text hpc => rw [hpc] at hat; cases hat

/-- Where the pump's own ready token comes from. -/
theorem readyComing_of_pumpCompletes {c₀ : String} {pc' : ServerPumpPC} {w : Option String}
    (hc : StepCompletes s c id k s₁ o) (hpump : pumpCompleting s.pump = some (c, id, k))
    (hat : pumpSendsReady c₀ s.pump = sendsReady c₀ (.completing c id k))
    (hat' : pumpSendsReady c₀ pc' = sendsReady c₀ (callNext c id o))
    (h : ReadyComing { s₁ with pump := pc' } c₀) :
    ReadyComing s c₀ ∨ ∃ r, PopsFor s (.pump w) c₀ r := by
  have hout : (c₀ ∈ s₁.readyForDispatch ∨ sendsReady c₀ (callNext c id o) = true)
      ∨ s.calls.any (sendsReady c₀) = true := by
    rcases h with h | h | h
    · exact Or.inl (Or.inl h)
    · exact Or.inr (by rw [← hc.calls]; exact h)
    · exact Or.inl (Or.inr (hat' ▸ h))
  rcases hout with hout | hcalls
  · rcases hc.sends_of hout with (hmem | hsends) | ⟨rfl, r, rfl⟩
    · exact Or.inl (Or.inl hmem)
    · exact Or.inl (Or.inr (Or.inr (hat ▸ hsends)))
    · exact Or.inr ⟨r, Or.inr ⟨w, id, rfl, hpump⟩⟩
  · exact Or.inl (Or.inr (Or.inl hcalls))

/-- **A ready token comes from a `Pop` for its client.** -/
theorem readyComing_of_step (hm : StepMove s a s') (h : ReadyComing s' c) :
    ReadyComing s c ∨ ∃ r, PopsFor s a c r := by
  have hkeep : s'.readyForDispatch ⊆ s.readyForDispatch →
      (s'.calls.any (sendsReady c) = true → s.calls.any (sendsReady c) = true) →
      (pumpSendsReady c s'.pump = true → pumpSendsReady c s.pump = true) → ReadyComing s c :=
    fun hready hcalls hpump => h.imp (fun e => hready e) (Or.imp hcalls hpump)
  cases hm with
  | idle _ _ _ hpc' _ _ _ _ hk hidle =>
      refine Or.inl (hkeep ?_ (by rw [hk.any sendsReady_busy]; exact id) ?_)
      · cases hidle with
        | takeReady c' calls contexts _ _ _ => exact List.tail_subset _
        | _ => exact fun _ e => e
      · rw [pumpSendsReady_of_unburdened hpc']
        exact fun e => absurd e (by simp)
  | write c' p s' _ hpc' _ _ _ _ hready hk =>
      refine Or.inl (hkeep (by rw [hready]; exact fun _ e => e)
        (by rw [hk.any sendsReady_busy]; exact id) ?_)
      rw [hpc']
      exact fun e => absurd e (by simp [pumpSendsReady])
  | timedOut w c' p k s₁ o hpc hc =>
      refine readyComing_of_pumpCompletes hc (by rw [hpc]; rfl)
        (by rw [hpc]; exact pumpSendsReady_timedOut) ?_ h
      cases o with
      | none => rfl
      | some k' => exact pumpSendsReady_timedOut
  | failed w c' p text k s₁ o hpc hc =>
      refine readyComing_of_pumpCompletes hc (by rw [hpc]; rfl)
        (by rw [hpc]; exact pumpSendsReady_failed) ?_ h
      cases o with
      | none => rfl
      | some k' => exact pumpSendsReady_failed
  | start op =>
      refine Or.inl (hkeep (fun _ e => e) (fun hcalls => ?_) id)
      rw [List.any_append, Bool.or_eq_true] at hcalls
      refine hcalls.resolve_right ?_
      cases op <;> simp [ServerOperation.entry, sendsReady]
  | callMoves t pc pc' _ ht hon hcalls hpump _ _ _ _ hready =>
      refine Or.inl (hkeep (by rw [hready]; exact fun _ e => e) (fun hany => ?_)
        (by rw [hpump]; exact id))
      rw [hcalls] at hany
      exact (any_of_set hany).resolve_right (by cases hon <;> simp [sendsReady])
  | push t c' r req q _ _ =>
      exact Or.inl (hkeep (fun _ e => e)
        (fun hany => (any_of_set hany).resolve_right (by simp [sendsReady])) id)
  | callCompletes t c' id k s₁ o ht hc =>
      have hout : (c ∈ s₁.readyForDispatch ∨ sendsReady c (callNext c' id o) = true)
          ∨ s.calls.any (sendsReady c) = true ∨ pumpSendsReady c s.pump = true := by
        rcases h with h | h | h
        · exact Or.inl (Or.inl h)
        · dsimp only at h
          rw [hc.calls] at h
          rcases any_of_set h with h | h
          · exact Or.inr (Or.inl h)
          · exact Or.inl (Or.inr h)
        · exact Or.inr (Or.inr (by rw [← hc.pump]; exact h))
      rcases hout with hout | hold
      · rcases hc.sends_of hout with (hmem | hsends) | ⟨rfl, r, rfl⟩
        · exact Or.inl (Or.inl hmem)
        · exact Or.inl (Or.inr (Or.inl
            (List.any_eq_true.mpr ⟨_, List.mem_of_getElem? ht, hsends⟩)))
        · exact Or.inr ⟨r, Or.inl ⟨t, id, rfl, ht⟩⟩
      · exact Or.inl (Or.inr hold)
  | remove t c' _ =>
      exact Or.inl (hkeep (fun _ e => e)
        (fun hany => (any_of_set hany).resolve_right (by simp [sendsReady])) id)
  | clear t c' _ =>
      exact Or.inl (hkeep (fun _ e => e)
        (fun hany => (any_of_set hany).resolve_right (by simp [sendsReady])) id)
  | createClient c' => exact Or.inl h
  | getClientState c' => exact Or.inl h
  | reportFailed w c' p text _ =>
      exact Or.inl (hkeep (fun _ e => e) id
        fun e => absurd e (by simp [ServerSteps.endDispatch, pumpSendsReady]))
  | _ => exact Or.inl (hkeep (fun _ e => e) id fun e => absurd e (by simp [pumpSendsReady]))

/-! ## Request tokens -/

/-- A call moves on, and owes no request token or sends it. -/
theorem RequestComing.keepCall {t : Nat} {pc pc' : ServerCall} (h : RequestComing s c)
    (ht : s.calls[t]? = some pc) (hcalls : s'.calls = s.calls.set t pc')
    (hchan : s'.requestChannel = s.requestChannel ++ sentRequest pc) : RequestComing s' c := by
  rw [RequestComing, hchan]
  rcases h with h | h
  · exact Or.inl (List.mem_append_left _ h)
  · by_cases hpc : sendsRequest c pc = true
    · cases pc with
      | signal c' =>
          cases beq_iff_eq.mp hpc
          exact Or.inl (List.mem_append_right _ (List.mem_singleton.mpr rfl))
      | _ => exact absurd hpc (by simp [sendsRequest])
    · exact Or.inr (by rw [hcalls]; exact any_set h ht (fun he => absurd he hpc))

theorem RequestComing.keep (h : RequestComing s c) (hchan : s'.requestChannel = s.requestChannel)
    (hk : CallsKept s s') : RequestComing s' c := by
  rw [RequestComing, hchan, hk.any sendsRequest_busy]
  exact h

theorem written_requestChannel (s : ServerSteps) (c : String) (p : Posted) :
    (s.written c p).requestChannel = s.requestChannel := by
  unfold ServerSteps.written
  dsimp only
  split
  · rfl
  · rfl

/-- **A request token stays on its way until the pump takes it.** -/
theorem RequestComing.step (h : RequestComing s c) (hm : StepMove s a s') :
    RequestComing s' c
      ∨ s.pump = .select ∧ s'.pump = .requestGet c
        ∧ s'.clientContextMap = s.clientContextMap := by
  cases hm with
  | idle _ _ _ _ _ _ _ _ hk hidle =>
      cases hidle with
      | takeRequest c' hsel hhead =>
          by_cases hc : c = c'
          · subst hc
            exact Or.inr ⟨hsel, rfl, rfl⟩
          · refine Or.inl (h.imp_left fun hmem => ?_)
            obtain ⟨rest, hrest⟩ := List.head?_eq_some_iff.mp hhead
            simpa [hrest, hc] using hmem
      | _ => exact Or.inl (h.keep rfl hk)
  | write c' p s' _ _ _ _ _ _ _ hk hs' =>
      exact Or.inl (h.keep (by rw [hs', written_requestChannel]) hk)
  | timedOut w c' p k s₁ o _ hc => exact Or.inl (h.keep hc.requestChannel (.of_eq hc.calls))
  | failed w c' p text k s₁ o _ hc => exact Or.inl (h.keep hc.requestChannel (.of_eq hc.calls))
  | start op =>
      exact Or.inl (h.imp_right fun hcall => by rw [List.any_append, hcall, Bool.true_or])
  | callMoves t pc pc' _ ht hon hcalls _ _ _ _ _ _ hs' =>
      exact Or.inl (h.keepCall ht hcalls (by rw [hs']))
  | callCompletes t c' id k s₁ o ht hc =>
      have hcalls : s₁.calls.set t (callNext c' id o) = s.calls.set t (callNext c' id o) := by
        rw [hc.calls]
      exact Or.inl (h.keepCall ht hcalls (hc.requestChannel.trans (List.append_nil _).symm))
  | push t c' r req q ht _ => exact Or.inl (h.keepCall ht rfl (List.append_nil _).symm)
  | remove t c' ht => exact Or.inl (h.keepCall ht rfl (List.append_nil _).symm)
  | clear t c' ht => exact Or.inl (h.keepCall ht rfl (List.append_nil _).symm)
  | _ => exact Or.inl h

/-! ## Pending slots -/

theorem StepCompletes.pending (hc : StepCompletes s c id k s₁ o) (c₀ : String) :
    pendingID s₁ c₀ = pendingID s c₀ ∨ c₀ = c ∧ o = some .ready := by
  cases hc with
  | delete =>
      by_cases hc₀ : c₀ = c
      · exact Or.inr ⟨hc₀, rfl⟩
      · exact Or.inl (by rw [pendingID, ServerState.clientState_delete, if_neg hc₀]; rfl)
  | _ => exact Or.inl rfl

/-- **A slot is emptied on the way to a ready token, or by a disconnection.** -/
theorem pendingID_step (hm : StepMove s a s') (h : pendingID s c ≠ "") :
    pendingID s' c = pendingID s c ∨ ReadyComing s' c ∨ s.calls.any (leaves c) = true := by
  cases hm with
  | idle _ _ _ _ _ hp => exact Or.inl (by rw [pendingID, hp]; rfl)
  | write c' p _ _ _ _ hp => exact Or.inl (by rw [pendingID, hp]; rfl)
  | callMoves t pc pc' _ _ _ _ _ _ hp => exact Or.inl (by rw [pendingID, hp]; rfl)
  | mark w c' p hpc =>
      left
      rw [pendingID_addPending, if_neg]
      rintro ⟨rfl, _, hfree⟩
      exact h hfree
  | timedOut w c' p k s₁ o _ hc =>
      refine (hc.pending c).imp_right ?_
      rintro ⟨rfl, rfl⟩
      exact Or.inl (Or.inr (Or.inr (by simp [pumpNext, pumpSendsReady])))
  | failed w c' p text k s₁ o _ hc =>
      refine (hc.pending c).imp_right ?_
      rintro ⟨rfl, rfl⟩
      exact Or.inl (Or.inr (Or.inr (by simp [pumpNext, pumpSendsReady])))
  | callCompletes t c' id k s₁ o ht hc =>
      refine (hc.pending c).imp_right ?_
      rintro ⟨rfl, rfl⟩
      refine Or.inl (Or.inr (Or.inl (List.any_eq_true.mpr ⟨callNext c id (some .ready), ?_, ?_⟩)))
      · dsimp only
        rw [hc.calls]
        exact List.mem_set (List.getElem?_eq_some_iff.mp ht).1 _
      · exact beq_self_eq_true c
  | clear t c' ht =>
      by_cases hc : c = c'
      · subst hc
        exact Or.inr (Or.inr (List.any_eq_true.mpr
          ⟨_, List.mem_of_getElem? ht, beq_self_eq_true c⟩))
      · left
        rw [pendingID, ServerState.clientState_clear, if_neg hc]
        rfl
  | getClientState c' => exact Or.inl (pendingID_getClientState s c' c)
  | _ => exact Or.inl rfl

/-! ## Contexts -/

theorem activeContext_congr (h : s'.clientContextMap c = s.clientContextMap c) :
    s'.activeContext c = s.activeContext c := by
  rw [ServerSteps.activeContext, h]
  rfl

theorem StepCompletes.clientContextMap (hc : StepCompletes s c id k s₁ o) :
    s₁.clientContextMap = s.clientContextMap := by
  cases hc <;> rfl

theorem StepCompletes.rdy (hc : StepCompletes s c id k s₁ o) : s₁.rdy = s.rdy := by
  cases hc <;> rfl

theorem StepCompletes.clientQueue (hc : StepCompletes s c id k s₁ o) :
    s₁.clientQueue = s.clientQueue := by
  cases hc <;> rfl

theorem ContextEnded.context {calls : List ServerCall} {contexts : String → Option (Option Nat)}
    (h : ContextEnded s c calls contexts) (c₀ : String) :
    contexts c₀ = s.clientContextMap c₀ ∨ ∀ t, contexts c₀ ≠ some (some t) := by
  by_cases hc : c₀ = c
  · subst hc
    exact Or.inr h.own
  · exact Or.inl (h.other c₀ hc)

theorem endDispatch_context (s : ServerSteps) (c c₀ : String) :
    (s.endDispatch c).clientContextMap c₀ = s.clientContextMap c₀
      ∨ ∀ t, (s.endDispatch c).clientContextMap c₀ ≠ some (some t) := by
  by_cases hc : c₀ = c
  · subst hc
    exact Or.inr (by simp [ServerSteps.endDispatch])
  · exact Or.inl (Function.update_of_ne hc _ _)

/-- **A context becomes active by a `Write` for its client.** -/
theorem clientContextMap_step (hm : StepMove s a s') (c : String) :
    (s'.clientContextMap c = s.clientContextMap c ∨ ∀ t, s'.clientContextMap c ≠ some (some t))
      ∨ ∃ p, s.pump = .write c p ∧ s' = s.written c p := by
  cases hm with
  | idle _ _ _ _ _ _ _ _ _ hidle =>
      left
      cases hidle with
      | takeTimer c' calls contexts _ _ hended => exact hended.context c
      | takeReady c' calls contexts _ _ hended => exact hended.context c
      | gone w c' calls contexts _ _ hended => exact hended.context c
      | dispatchGone w c' _ _ => exact endDispatch_context s c' c
      | _ => exact Or.inl rfl
  | write c' p s' hpc _ _ _ _ _ _ _ hs' =>
      by_cases hc : c = c'
      · subst hc
        exact Or.inr ⟨p, hpc, hs'⟩
      · refine Or.inl (Or.inl ?_)
        rw [hs', ServerSteps.written]
        dsimp only
        split
        · exact Function.update_of_ne hc _ _
        · exact Function.update_of_ne hc _ _
  | callMoves t pc pc' _ _ _ _ _ _ _ _ _ _ hs' => exact Or.inl (Or.inl (by rw [hs']))
  | timedOut w c' p k s₁ o _ hc =>
      exact Or.inl (Or.inl (congrFun hc.clientContextMap c))
  | failed w c' p text k s₁ o _ hc =>
      exact Or.inl (Or.inl (congrFun hc.clientContextMap c))
  | callCompletes t c' id k s₁ o _ hc =>
      exact Or.inl (Or.inl (congrFun hc.clientContextMap c))
  | reportFailed w c' p text _ => exact Or.inl (endDispatch_context _ c' c)
  | _ => exact Or.inl (Or.inl rfl)

theorem activeContext_step (hm : StepMove s a s') (h : s'.activeContext c ≠ none) :
    s.activeContext c ≠ none ∨ ∃ p, s.pump = .write c p := by
  rcases clientContextMap_step hm c with (hsame | hended) | ⟨p, hpc, _⟩
  · left
    intro hnone
    exact h (activeContext_eq_none.mpr fun t => hsame ▸ activeContext_eq_none.mp hnone t)
  · exact absurd (activeContext_eq_none.mpr hended) h
  · exact Or.inr ⟨p, hpc⟩

/-! ## Queues that are pushed onto -/

/-- A call that is about to push was so before, or has just got the queue. -/
theorem push_step {c : String} {r : QueueRef} {req : RequestBundle} (hm : StepMove s a s')
    (h : ServerCall.push c r req ∈ s'.calls) :
    ServerCall.push c r req ∈ s.calls ∨ s.queueMap.get c = some r := by
  obtain ⟨t, ht⟩ := List.mem_iff_getElem?.mp h
  have hold : s.calls[t]? = some (.push c r req) → ServerCall.push c r req ∈ s.calls :=
    List.mem_of_getElem?
  cases hm with
  | idle _ _ _ _ _ _ _ _ hk =>
      exact Or.inl (hold ((hk.back t _ ht).resolve_right (by simp [callIdle])))
  | write c p _ _ _ _ _ _ _ _ hk =>
      exact Or.inl (hold ((hk.back t _ ht).resolve_right (by simp [callIdle])))
  | start op =>
      rcases getElem?_snoc ht with ht | ⟨_, he⟩
      · exact Or.inl (hold ht)
      · cases op <;> cases he
  | callMoves u pc pc' _ _ hon hcalls =>
      rw [hcalls] at ht
      rcases getElem?_replaced ht with ⟨_, he⟩ | ⟨_, ht⟩
      · subst he
        cases hon with
        | gotQueue _ _ _ hget => exact Or.inr hget
      · exact Or.inl (hold ht)
  | push u c' r' req' q _ _ =>
      exact Or.inl (hold ((getElem?_replaced ht).resolve_left (by simp)).2)
  | callCompletes u c' id' k' s₁ o hu hc =>
      dsimp only at ht
      rw [hc.calls] at ht
      refine Or.inl (hold ((getElem?_replaced ht).resolve_left ?_).2)
      cases o <;> simp [callNext]
  | remove u c' _ => exact Or.inl (hold ((getElem?_replaced ht).resolve_left (by simp)).2)
  | clear u c' _ => exact Or.inl (hold ((getElem?_replaced ht).resolve_left (by simp)).2)
  | timedOut _ c' p k' s₁ o _ hc => exact Or.inl (hold (by rw [← hc.calls]; exact ht))
  | failed _ c' p text k' s₁ o _ hc => exact Or.inl (hold (by rw [← hc.calls]; exact ht))
  | _ => exact Or.inl h

/-- A call that is about to push got its queue from the map. -/
def PushesOwned (s : ServerSteps) : Prop :=
  ∀ c r req, ServerCall.push c r req ∈ s.calls → OwnedBy s.queueMap c r

theorem pushesOwned_step (h : PushesOwned s) (hm : StepMove s a s') : PushesOwned s' := by
  intro c r req hp
  rcases push_step hm hp with hold | hget
  · exact (h c r req hold).step hm.queues
  · exact (OwnedBy.of_get hget).step hm.queues

theorem pushesOwned_reachable {n : Nat} {timeout : Int}
    (h : Reachable (ServerSteps.machine n timeout) s) : PushesOwned s := by
  refine Reachable.invariant (P := PushesOwned) ?_ ?_ h
  · rintro s rfl c r req hp
    exact absurd hp (by simp [ServerSteps.start])
  · intro s a s' _ hp hact
    exact pushesOwned_step hp (act_stepMove hact)

/-! ## Queues -/

theorem get_of_contents (h : s.queueMap.contents c ≠ []) : ∃ r, s.queueMap.get c = some r := by
  cases hget : s.queueMap.get c with
  | none => exact absurd (FIFOQueueMap.contents_of_get_none hget) h
  | some r => exact ⟨r, rfl⟩

/-- A client without a queue gets one by connecting. -/
theorem get_step (hm : StepMove s a s') (h : s.queueMap.get c = none) :
    s'.queueMap.get c = none ∨ a = .createClient c := by
  cases hm with
  | idle _ _ _ _ hq => exact Or.inl (by rw [hq]; exact h)
  | write c' p _ _ _ hq => exact Or.inl (by rw [hq]; exact h)
  | callMoves t pc pc' _ _ _ _ _ hq => exact Or.inl (by rw [hq]; exact h)
  | timedOut w c' p k s₁ o _ hc => left; cases hc <;> exact h
  | failed w c' p text k s₁ o _ hc => left; cases hc <;> exact h
  | callCompletes t c' id k s₁ o _ hc => left; cases hc <;> exact h
  | remove t c' _ =>
      left
      by_cases hc : c = c'
      · subst hc
        simp [FIFOQueueMap.get, FIFOQueueMap.remove]
      · rw [FIFOQueueMap.get_remove_ne s.queueMap hc]
        exact h
  | createClient c' =>
      by_cases hc : c = c'
      · subst hc
        exact Or.inr rfl
      · exact Or.inl (by rw [FIFOQueueMap.get_getOrCreate_ne s.queueMap hc]; exact h)
  | _ => exact Or.inl h

/-- A queue stays the client's until it is removed. -/
theorem QueuesMove.get {m m' : FIFOQueueMap Posted} (h : QueuesMove m m') {r : QueueRef}
    (hget : m.get c = some r) : m'.get c = some r ∨ m'.get c = none := by
  cases h with
  | same => exact Or.inl hget
  | store r' q => exact Or.inl hget
  | remove c' =>
      by_cases hc : c = c'
      · subst hc
        exact Or.inr (by simp [FIFOQueueMap.get, FIFOQueueMap.remove])
      · exact Or.inl (by rw [FIFOQueueMap.get_remove_ne m hc]; exact hget)
  | create c' => exact Or.inl (FIFOQueueMap.get_getOrCreate_of_some hget c')

theorem contents_pop_ne_nil {m : FIFOQueueMap Posted} {r : QueueRef}
    (h : (m.store r (m.deref r).pop).contents c ≠ []) : m.contents c ≠ [] := by
  by_cases hr : m.get c = some r
  · rw [FIFOQueueMap.contents_store_self hr] at h
    rw [FIFOQueueMap.contents_of_get hr]
    intro hnil
    exact h (by rw [FIFOClientQueue.elements_pop, hnil]; rfl)
  · rwa [FIFOQueueMap.contents_store_of_ne hr] at h

theorem StepCompletes.contents_ne_nil {c₀ : String} (hc : StepCompletes s c id k s₁ o)
    (h : s₁.queueMap.contents c₀ ≠ []) : s.queueMap.contents c₀ ≠ [] := by
  cases hc with
  | pop r => exact contents_pop_ne_nil h
  | _ => exact h

/-- **What is queued for a client was queued before, or its request token is coming.** -/
theorem contents_step (hown : PushesOwned s) (hm : StepMove s a s')
    (h : s'.queueMap.contents c ≠ []) : s.queueMap.contents c ≠ [] ∨ RequestComing s' c := by
  cases hm with
  | idle _ _ _ _ hq => exact Or.inl (hq ▸ h)
  | write c' p _ _ _ hq => exact Or.inl (hq ▸ h)
  | callMoves t pc pc' _ _ _ _ _ hq => exact Or.inl (hq ▸ h)
  | timedOut w c' p k s₁ o _ hc => exact Or.inl (hc.contents_ne_nil h)
  | failed w c' p text k s₁ o _ hc => exact Or.inl (hc.contents_ne_nil h)
  | callCompletes t c' id k s₁ o _ hc => exact Or.inl (hc.contents_ne_nil h)
  | push t c' r req q ht _ =>
      by_cases hr : s.queueMap.get c = some r
      · -- the client the queue belongs to is the one the call is for
        have hc := (hown c' r req (List.mem_of_getElem? ht)).2 c hr
        subst hc
        refine Or.inr (Or.inr (List.any_eq_true.mpr ⟨.signal c, ?_, beq_self_eq_true c⟩))
        exact List.mem_set (List.getElem?_eq_some_iff.mp ht).1 _
      · exact Or.inl (by rwa [FIFOQueueMap.contents_store_of_ne hr] at h)
  | remove t c' _ =>
      left
      by_cases hc : c = c'
      · subst hc
        exact absurd (FIFOQueueMap.contents_remove_self s.queueMap c) h
      · rwa [FIFOQueueMap.contents_remove_ne s.queueMap hc] at h
  | createClient c' => exact Or.inl (by rwa [FIFOQueueMap.contents_getOrCreate] at h)
  | _ => exact Or.inl h

/-! ## Disconnections under way -/

/-- Whoever is between `Remove` and the clear of the slot left no queue behind. -/
def Departed (s : ServerSteps) : Prop :=
  ∀ c, s.calls.any (leaves c) = true → s.queueMap.get c = none

theorem leaves_step (hm : StepMove s a s') (h : s'.calls.any (leaves c) = true) :
    s.calls.any (leaves c) = true ∨ s'.queueMap.get c = none := by
  cases hm with
  | idle _ _ _ _ _ _ _ _ hk => exact Or.inl (by rwa [hk.any leaves_busy] at h)
  | write c' p _ _ _ _ _ _ _ _ hk => exact Or.inl (by rwa [hk.any leaves_busy] at h)
  | timedOut w c' p k s₁ o _ hc => exact Or.inl (by rw [← hc.calls]; exact h)
  | failed w c' p text k s₁ o _ hc => exact Or.inl (by rw [← hc.calls]; exact h)
  | start op =>
      rw [List.any_append, Bool.or_eq_true] at h
      refine Or.inl (h.resolve_right ?_)
      cases op <;> simp [ServerOperation.entry, leaves]
  | callMoves t pc pc' _ ht hon hcalls =>
      rw [hcalls] at h
      refine Or.inl ((any_of_set h).elim (fun e => e) fun hpc' => ?_)
      cases hon with
      | removeSignaled c' => exact List.any_eq_true.mpr ⟨_, List.mem_of_getElem? ht, hpc'⟩
      | _ => exact absurd hpc' (by simp [leaves])
  | push t c' r req q _ _ => exact Or.inl ((any_of_set h).resolve_right (by simp [leaves]))
  | callCompletes t c' id k s₁ o _ hc =>
      dsimp only at h
      rw [hc.calls] at h
      exact Or.inl ((any_of_set h).resolve_right (by cases o <;> simp [callNext, leaves]))
  | remove t c' _ =>
      refine (any_of_set h).imp_right fun hpc => ?_
      cases beq_iff_eq.mp hpc
      simp [FIFOQueueMap.get, FIFOQueueMap.remove]
  | clear t c' _ => exact Or.inl ((any_of_set h).resolve_right (by simp [leaves]))
  | _ => exact Or.inl h

/-- It stays so while nobody reconnects before the slot is cleared. -/
theorem departed_step (h : Departed s) (hm : StepMove s a s')
    (hok : ∀ c, a = .createClient c → s.queueMap.get c = none →
      s.calls.any (leaves c) = false) : Departed s' := by
  intro c hc
  rcases leaves_step hm hc with hold | hnone
  · rcases get_step hm (h c hold) with hget | rfl
    · exact hget
    · rw [hok c rfl (h c hold)] at hold
      exact absurd hold (by simp)
  · exact hnone

/-! ## Ids -/

/-- The call would push a request with an empty id. -/
def unnamed : ServerCall → Bool
  | .sendGet _ req | .push _ _ req => req.call.uniqueId == ""
  | _ => false

/-- Every request that is to be sent has an id. -/
structure IdsNamed (s : ServerSteps) : Prop where
  calls : s.calls.any unnamed = false
  queues : ∀ r, ∀ p ∈ (s.queueMap.deref r).elements, p.id ≠ ""
  pump : ∀ c p, s.pump = .addPending c p → p.id ≠ ""

theorem unnamed_busy : ∀ pc, unnamed pc = true → callIdle pc = false := by
  intro pc h
  cases pc <;> first | rfl | exact absurd h (by simp [unnamed])

theorem unnamed_step (h : s.calls.any unnamed = false) (hm : StepMove s a s')
    (hok : ∀ c req, a = .start (.sendRequest c req) → req.call.uniqueId ≠ "") :
    s'.calls.any unnamed = false := by
  rw [Bool.eq_false_iff] at h ⊢
  intro h'
  refine h ?_
  cases hm with
  | idle _ _ _ _ _ _ _ _ hk => rwa [hk.any unnamed_busy] at h'
  | write c' p _ _ _ _ _ _ _ _ hk => rwa [hk.any unnamed_busy] at h'
  | timedOut w c' p k s₁ o _ hc => rw [← hc.calls]; exact h'
  | failed w c' p text k s₁ o _ hc => rw [← hc.calls]; exact h'
  | start op =>
      rw [List.any_append, Bool.or_eq_true] at h'
      refine h'.resolve_right ?_
      cases op with
      | sendRequest c req => simpa [ServerOperation.entry, unnamed] using hok c req rfl
      | _ => simp [ServerOperation.entry, unnamed]
  | callMoves t pc pc' _ ht hon hcalls =>
      rw [hcalls] at h'
      refine (any_of_set h').elim (fun e => e) fun hpc' => ?_
      cases hon with
      | gotQueue c' req r _ => exact List.any_eq_true.mpr ⟨_, List.mem_of_getElem? ht, hpc'⟩
      | _ => exact absurd hpc' (by simp [unnamed])
  | push t c' r req q _ _ => exact (any_of_set h').resolve_right (by simp [unnamed])
  | callCompletes t c' id k s₁ o _ hc =>
      dsimp only at h'
      rw [hc.calls] at h'
      exact (any_of_set h').resolve_right (by cases o <;> simp [callNext, unnamed])
  | remove t c' _ => exact (any_of_set h').resolve_right (by simp [unnamed])
  | clear t c' _ => exact (any_of_set h').resolve_right (by simp [unnamed])
  | _ => exact h'

theorem StepCompletes.mem_queue (hc : StepCompletes s c id k s₁ o) {r : QueueRef} {p : Posted}
    (h : p ∈ (s₁.queueMap.deref r).elements) : p ∈ (s.queueMap.deref r).elements := by
  cases hc with
  | pop r' =>
      by_cases hr : r = r'
      · subst hr
        refine List.mem_of_mem_tail (?_ : p ∈ (s.queueMap.deref r).elements.tail)
        simpa [FIFOQueueMap.deref, FIFOQueueMap.store] using h
      · simpa [FIFOQueueMap.deref, FIFOQueueMap.store, hr] using h
  | _ => exact h

/-- What is in a queue object was there, or is what a call has just pushed onto it. -/
theorem mem_queue_step (hm : StepMove s a s') {r : QueueRef} {p : Posted}
    (h : p ∈ (s'.queueMap.deref r).elements) :
    p ∈ (s.queueMap.deref r).elements
      ∨ ∃ c req, .push c r req ∈ s.calls ∧ p = { seq := s.accepted, bundle := req } := by
  cases hm with
  | idle _ _ _ _ hq => exact Or.inl (hq ▸ h)
  | write c' p _ _ _ hq => exact Or.inl (hq ▸ h)
  | callMoves t pc pc' _ _ _ _ _ hq => exact Or.inl (hq ▸ h)
  | timedOut w c' p k s₁ o _ hc => exact Or.inl (hc.mem_queue h)
  | failed w c' p text k s₁ o _ hc => exact Or.inl (hc.mem_queue h)
  | callCompletes t c' id k s₁ o _ hc => exact Or.inl (hc.mem_queue h)
  | push t c' r' req q ht hq =>
      by_cases hr : r = r'
      · subst hr
        have hel : p ∈ q.elements := by simpa [FIFOQueueMap.deref, FIFOQueueMap.store] using h
        rw [hq, List.mem_append, List.mem_singleton] at hel
        exact hel.imp_right fun he => ⟨c', req, List.mem_of_getElem? ht, he⟩
      · exact Or.inl (by simpa [FIFOQueueMap.deref, FIFOQueueMap.store, hr] using h)
  | createClient c' =>
      left
      rcases FIFOQueueMap.deref_getOrCreate s.queueMap c' r with hsame | hnew
      · exact hsame ▸ h
      · dsimp only at h
        rw [hnew] at h
        exact absurd h (by simp)
  | _ => exact Or.inl h

/-- The pump takes up the head of a queue object. -/
theorem addPending_step (hm : StepMove s a s') {p : Posted} (h : s'.pump = .addPending c p) :
    s.pump = .addPending c p
      ∨ ∃ r, s.pump = .dispatchPeek c r ∧ (s.queueMap.deref r).peek = some p := by
  cases hm with
  | idle _ _ _ hpc => rw [h] at hpc; exact absurd hpc (by simp [unburdened])
  | write c' p _ _ hpc => rw [h] at hpc; exact absurd hpc (by simp)
  | callMoves t pc pc' _ _ _ _ hpump => exact Or.inl (hpump ▸ h)
  | timedOut w c' p k s₁ o _ hc => exact absurd h (by cases o <;> simp [pumpNext])
  | failed w c' p text k s₁ o _ hc => exact absurd h (by cases o <;> simp [pumpNext])
  | callCompletes t c' id k s₁ o _ hc => exact Or.inl (by rw [← hc.pump]; exact h)
  | dispatchPeek w c' r p' hpc hpeek => cases h; exact Or.inr ⟨r, hpc, hpeek⟩
  | start op => exact Or.inl h
  | push t c' r req q _ _ => exact Or.inl h
  | remove t c' _ => exact Or.inl h
  | clear t c' _ => exact Or.inl h
  | createClient c' => exact Or.inl h
  | getClientState c' => exact Or.inl h
  | reportFailed w c' p' text _ => exact absurd h (by simp [ServerSteps.endDispatch])
  | _ => exact absurd h (by simp)

/-- The pump gets to `Write` by marking the request as pending. -/
theorem write_step (hm : StepMove s a s') {p : Posted} (h : s'.pump = .write c p) :
    s.pump = .write c p
      ∨ s.pump = .addPending c p ∧ (p.id ≠ "" → pendingID s' c ≠ "") := by
  cases hm with
  | idle _ _ _ hpc => rw [h] at hpc; exact absurd hpc (by simp [unburdened])
  | write c' p _ _ hpc => rw [h] at hpc; exact absurd hpc (by simp)
  | callMoves t pc pc' _ _ _ _ hpump => exact Or.inl (hpump ▸ h)
  | timedOut w c' p k s₁ o _ hc => exact absurd h (by cases o <;> simp [pumpNext])
  | failed w c' p text k s₁ o _ hc => exact absurd h (by cases o <;> simp [pumpNext])
  | callCompletes t c' id k s₁ o _ hc => exact Or.inl (by rw [← hc.pump]; exact h)
  | mark w c' p' hpc =>
      cases h
      refine Or.inr ⟨hpc, fun hid => ?_⟩
      rw [pendingID_addPending]
      split
      · exact hid
      · rename_i hfree
        exact fun hslot => hfree ⟨rfl, hid, hslot⟩
  | start op => exact Or.inl h
  | push t c' r req q _ _ => exact Or.inl h
  | remove t c' _ => exact Or.inl h
  | clear t c' _ => exact Or.inl h
  | createClient c' => exact Or.inl h
  | getClientState c' => exact Or.inl h
  | reportFailed w c' p' text _ => exact absurd h (by simp [ServerSteps.endDispatch])
  | _ => exact absurd h (by simp)

theorem idsNamed_step (h : IdsNamed s) (hm : StepMove s a s')
    (hok : ∀ c req, a = .start (.sendRequest c req) → req.call.uniqueId ≠ "") : IdsNamed s' where
  calls := unnamed_step h.calls hm hok
  queues r p hp := by
    rcases mem_queue_step hm hp with hold | ⟨c, req, hmem, rfl⟩
    · exact h.queues r p hold
    · intro hid
      refine absurd h.calls (Bool.ne_false_iff.mpr (List.any_eq_true.mpr ⟨_, hmem, ?_⟩))
      exact beq_iff_eq.mpr hid
  pump c p hp := by
    rcases addPending_step hm hp with hold | ⟨r, _, hpeek⟩
    · exact h.pump c p hold
    · exact h.queues r p (List.mem_of_mem_head? hpeek)

theorem idsNamed_start (n : Nat) (timeout : Int) : IdsNamed (ServerSteps.start n timeout) where
  calls := rfl
  queues r p hp := absurd hp (by simp [ServerSteps.start, FIFOQueueMap.new, FIFOQueueMap.deref])
  pump c p hp := absurd hp (by simp [ServerSteps.start])

end Step

end OcppGo.Proof
