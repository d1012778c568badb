import OcppGo.Proof.ServerTransmission

/-!
# Whose deadline a timeout report belongs to

`timerC` carries client ids. When the pump reads one, it cancels whatever request of
that client is pending, and cannot tell whose deadline had passed. A dispatch that
comes between the deadline and the reading makes the next request pay for the
deadline of the last one.

The record says which context was made for which dispatch, and which contexts reached
their deadlines. If the pump dispatches for a client only when no expiry of that
client is unread, neither in the channel nor in the hands of the goroutine that is
about to send it, then an expiry on its way is always that of the client's last
dispatch. With `OcppGo/Proof/ServerTimeoutRaces.lean`, the request the timer branch
cancels is the one that was written last.
-/

namespace OcppGo.Proof

open OcppGo.Lib OcppGo.Ocppj

/-! ## The record -/

inductive DeadlineEvent where
  /-- `dispatchNextRequest` made context `t` for this request. -/
  | dispatched (c : String) (p : Posted) (t : Nat)
  /-- Context `t` reached its deadline before it was canceled. -/
  | expired (t : Nat)

def deadlineEvents (s : ServerSteps) (a : ServerSteps.Action) (_ : ServerSteps) :
    List DeadlineEvent :=
  match a with
  | .pump none =>
      match s.pump with
      | .write c p => if 0 < s.timeout then [.dispatched c p s.calls.length] else []
      | _ => []
  | .call t =>
      match s.calls[t]? with
      | some (.waiting _) => [.expired t]
      | _ => []
  | _ => []

/-- A started dispatcher, with the record. -/
def recordedDeadlines (n : Nat) (timeout : Int) :
    Machine (Recorded ServerSteps DeadlineEvent) ServerSteps.Action :=
  (ServerSteps.machine n timeout).recording deadlineEvents

/-- What was dispatched for this client, and the context made for it. -/
def DeadlineEvent.dispatchFor (c : String) : DeadlineEvent → Option (Posted × Nat)
  | .dispatched c' p t => if c' = c then some (p, t) else none
  | .expired _ => none

def lastDispatch (log : List DeadlineEvent) (c : String) : Option (Posted × Nat) :=
  (log.filterMap (DeadlineEvent.dispatchFor c)).getLast?

/-- The context made for this request by its own dispatch reached its deadline. -/
def OwnDeadline (log : List DeadlineEvent) (c : String) (p : Posted) : Prop :=
  ∃ t, .dispatched c p t ∈ log ∧ .expired t ∈ log

/-- The cancellation reported is that of a timeout. -/
def TimedOut (x : Cancellation) : Prop :=
  x.err = newError GenericError "Request timed out" x.request.id

/-! ## The condition -/

/-- The goroutine is about to report the deadline of a context of this client. -/
def isExpired (c : String) : ServerCall → Bool
  | .expired c' => c' == c
  | _ => false

/--
The pump dispatches for a client only when no expiry of that client is unread, and
what was read is acted on while it is still so.
-/
def expiriesRead (s : ServerSteps) (a : ServerSteps.Action) : Bool :=
  serverUndisturbed s a &&
    match a, s.pump with
    | .pump _, .test c => !s.dispatches || !s.timerC.contains c && !s.calls.any (isExpired c)
    | _, _ => true

/-! ## Expiries on their way -/

/-- The pump is in the timer branch for this client. -/
def inTimerBranch (c : String) : ServerPumpPC → Bool
  | .hasPending c' | .timeoutGet c' _ | .timeoutPeek c' _ _ | .timedOut c' _ _
  | .reportTimedOut c' _ => c' == c
  | _ => false

/-- An expiry of the client is on its way, or is what the pump acts on. -/
def ExpiryComing (s : ServerSteps) (c : String) : Prop :=
  c ∈ s.timerC ∨ s.calls.any (isExpired c) = true ∨ inTimerBranch c s.pump = true

/-- The client the pump is dispatching a request for. -/
def dispatchesFor : ServerPumpPC → Option String
  | .dispatchGet c | .dispatchPeek c _ | .addPending c _ | .write c _ => some c
  | _ => none

/-- No context is active for the client the pump has canceled it for. -/
def ContextGone (s : ServerSteps) : Prop :=
  match s.pump with
  | .hasPending c | .timeoutGet c _ | .timeoutPeek c _ _ | .timedOut c _ _
  | .reportTimedOut c _ | .readyGet c | .dispatchGet c | .dispatchPeek c _ | .addPending c _
  | .write c _ | .failed c _ _ _ | .reportFailed c _ _ => s.activeContext c = none
  | .test c => s.rdy = true → s.activeContext c = none
  | .reqChan | .select | .requestGet _ | .crashed => True

section Step

variable {s s' : ServerSteps} {a : ServerSteps.Action} {c : String} {log : List DeadlineEvent}
  {p : Posted} {r : QueueRef}

theorem any_of_back {calls calls' : List ServerCall} {P : ServerCall → Bool}
    (hback : ∀ (u : Nat) pc, calls'[u]? = some pc → calls[u]? = some pc ∨ pc = .returned)
    (hP : P .returned = false) (h : calls'.any P = true) : calls.any P = true := by
  obtain ⟨pc, hmem, hpc⟩ := List.any_eq_true.mp h
  obtain ⟨u, hu⟩ := List.mem_iff_getElem?.mp hmem
  rcases hback u pc hu with hold | rfl
  · exact List.any_eq_true.mpr ⟨pc, List.mem_of_getElem? hold, hpc⟩
  · rw [hP] at hpc
    exact absurd hpc (by simp)

theorem written_timerC (s : ServerSteps) (c : String) (p : Posted) :
    (s.written c p).timerC = s.timerC := by
  unfold ServerSteps.written
  dsimp only
  split
  · rfl
  · rfl

/-- After a `Write` there may be one more goroutine that waits. -/
theorem written_calls (s : ServerSteps) (c : String) (p : Posted) :
    (s.written c p).calls = s.calls ∨ (s.written c p).calls = s.calls ++ [.waiting c] := by
  unfold ServerSteps.written
  dsimp only
  split
  · exact Or.inr rfl
  · exact Or.inl rfl

theorem expiryComing_idle (h : ExpiryComing s' c) (hidle : IdleStep s a s') :
    ExpiryComing s c := by
  have hback : ∀ {c' : String} {calls : List ServerCall} {contexts : String → Option (Option Nat)},
      ContextEnded s c' calls contexts → calls.any (isExpired c) = true →
        s.calls.any (isExpired c) = true :=
    fun hended => any_of_back hended.back rfl
  cases hidle with
  | takeTimer c' calls contexts _ hhead hended =>
      rcases h with h | h | h
      · exact Or.inl (List.mem_of_mem_tail h)
      · exact Or.inr (Or.inl (hback hended h))
      · cases beq_iff_eq.mp h
        exact Or.inl (List.mem_of_mem_head? hhead)
  | takeReady c' calls contexts _ _ hended =>
      rcases h with h | h | h
      · exact Or.inl h
      · exact Or.inr (Or.inl (hback hended h))
      · exact absurd h (by simp [inTimerBranch])
  | gone w c' calls contexts _ _ hended =>
      rcases h with h | h | h
      · exact Or.inl h
      · exact Or.inr (Or.inl (hback hended h))
      · exact absurd h (by simp [inTimerBranch])
  | dispatchGone w c' _ _ =>
      exact h.imp_right (Or.imp_right fun e => absurd e (by simp [ServerSteps.endDispatch,
        inTimerBranch]))
  | _ => exact h.imp_right (Or.imp_right fun e => absurd e (by simp [inTimerBranch]))

/-- A call moves on to something other than the send of an expiry. -/
theorem ExpiryComing.of_set {t : Nat} {pc : ServerCall} (h : ExpiryComing s' c)
    (htimer : s'.timerC = s.timerC) (hcalls : s'.calls = s.calls.set t pc)
    (hpc : isExpired c pc = false) (hpump : s'.pump = s.pump) : ExpiryComing s c := by
  refine h.imp (fun e => htimer ▸ e) (Or.imp (fun e => ?_) fun e => hpump ▸ e)
  rw [hcalls] at e
  exact (any_of_set e).resolve_right (by rw [hpc]; simp)

/-- A goroutine comes to the send of an expiry by its deadline, and sends what it came with. -/
theorem expiryComing_onward {t : Nat} {pc pc' : ServerCall} (h : ExpiryComing s' c)
    (ht : s.calls[t]? = some pc) (hon : CallOnward s pc pc') (hcalls : s'.calls = s.calls.set t pc')
    (hpump : s'.pump = s.pump) (htimer : s'.timerC = s.timerC ++ sentTimer pc) :
    ExpiryComing s c ∨ s.calls[t]? = some (.waiting c) := by
  cases hon with
  | deadline c' =>
      by_cases hc : c' = c
      · subst hc
        exact Or.inr ht
      · exact Or.inl (h.of_set (htimer.trans (List.append_nil _)) hcalls
          (by simpa [isExpired] using hc) hpump)
  | timed c' =>
      left
      by_cases hc : c' = c
      · subst hc
        exact Or.inr (Or.inl (List.any_eq_true.mpr
          ⟨_, List.mem_of_getElem? ht, beq_self_eq_true c'⟩))
      · refine h.imp (fun e => ?_) (Or.imp (fun e => ?_) fun e => hpump ▸ e)
        · rw [htimer] at e
          exact (List.mem_append.mp e).resolve_right (by simpa [sentTimer, eq_comm] using hc)
        · rw [hcalls] at e
          exact (any_of_set e).resolve_right (by simp [isExpired])
  | _ => exact Or.inl (h.of_set (htimer.trans (List.append_nil _)) hcalls rfl hpump)

/-- The goroutine that a `Write` may start waits for a deadline yet to come. -/
theorem expiryComing_written {p : Posted} {x : String} (h : ExpiryComing (s.written x p) c)
    (hpump : inTimerBranch c (s.written x p).pump = false) : ExpiryComing s c := by
  rcases h with h | h | h
  · exact Or.inl (by rwa [written_timerC] at h)
  · refine Or.inr (Or.inl ?_)
    rcases written_calls s x p with he | he
    · rwa [he] at h
    · rw [he, List.any_append, Bool.or_eq_true] at h
      exact h.resolve_right (by simp [isExpired])
  · rw [hpump] at h
    exact absurd h (by simp)

/-- **An expiry comes from a deadline of a context of the client.** -/
theorem expiryComing_step (hm : StepMove s a s') (h : ExpiryComing s' c) :
    ExpiryComing s c ∨ ∃ t, a = .call t ∧ s.calls[t]? = some (.waiting c) := by
  -- only the pump moves, and it was in the timer branch before if it is there now
  have hpumps : s'.timerC = s.timerC → s'.calls = s.calls →
      (inTimerBranch c s'.pump = true → inTimerBranch c s.pump = true) → ExpiryComing s c :=
    fun htimer hcalls hpump => h.imp (fun e => htimer ▸ e) (Or.imp (fun e => hcalls ▸ e) hpump)
  cases hm with
  | idle _ _ _ _ _ _ _ _ _ hidle => exact Or.inl (expiryComing_idle h hidle)
  | seesPending w c' hpc _ => exact Or.inl (hpumps rfl rfl fun e => by rw [hpc]; exact e)
  | timeoutGet w c' pending r' hpc _ => exact Or.inl (hpumps rfl rfl fun e => by rw [hpc]; exact e)
  | timeoutPeek w c' pending r' p' hpc _ =>
      exact Or.inl (hpumps rfl rfl fun e => by rw [hpc]; exact e)
  | timedOut w c' p' k s₁ o hpc hc =>
      refine Or.inl (hpumps hc.timerC hc.calls fun e => ?_)
      rw [hpc]
      cases o <;> exact e
  | write c' p' s' hpc hpc' _ _ _ _ _ _ hs' =>
      subst hs'
      exact Or.inl (expiryComing_written h (by rw [hpc']; rfl))
  | failed w c' p' text k s₁ o hpc hc =>
      refine Or.inl (hpumps hc.timerC hc.calls fun e => ?_)
      exact absurd e (by cases o <;> simp [pumpNext, inTimerBranch])
  | start op =>
      left
      refine h.imp_right (Or.imp_left fun e => ?_)
      rw [List.any_append, Bool.or_eq_true] at e
      refine e.resolve_right ?_
      cases op <;> simp [ServerOperation.entry, isExpired]
  | callMoves t pc pc' _ ht hon hcalls hpump _ _ _ _ _ hs' =>
      exact (expiryComing_onward h ht hon hcalls hpump (by rw [hs'])).imp_right
        fun hw => ⟨t, rfl, hw⟩
  | push t c' r' req q _ _ => exact Or.inl (h.of_set rfl rfl rfl rfl)
  | callCompletes t c' id k s₁ o _ hc =>
      have hcalls : s₁.calls.set t (callNext c' id o) = s.calls.set t (callNext c' id o) := by
        rw [hc.calls]
      exact Or.inl (h.of_set hc.timerC hcalls (by cases o <;> rfl) hc.pump)
  | remove t c' _ => exact Or.inl (h.of_set rfl rfl rfl rfl)
  | clear t c' _ => exact Or.inl (h.of_set rfl rfl rfl rfl)
  | createClient c' => exact Or.inl h
  | getClientState c' => exact Or.inl h
  | reportFailed w c' p' text _ =>
      exact Or.inl (hpumps rfl rfl fun e =>
        absurd e (by simp [ServerSteps.endDispatch, inTimerBranch]))
  | _ => exact Or.inl (hpumps rfl rfl fun e => absurd e (by simp [inTimerBranch]))

/-! ## Contexts and the goroutines that wait for them -/

theorem ContextGone.keep (h : ContextGone s) (hpump : s'.pump = s.pump) (hrdy : s'.rdy = s.rdy)
    (hctx : s'.clientContextMap = s.clientContextMap) : ContextGone s' := by
  have hactive : ∀ c, s'.activeContext c = s.activeContext c :=
    fun c => activeContext_congr (congrFun hctx c)
  unfold ContextGone at h ⊢
  rw [hpump, hrdy]
  cases hpc : s.pump <;> rw [hpc] at h <;> simp only [hactive] <;> exact h

theorem contextGone_idle (h : ContextGone s) (hidle : IdleStep s a s') : ContextGone s' := by
  unfold ContextGone at h
  cases hidle with
  | takeTimer c' calls contexts _ _ hended => exact activeContext_eq_none.mpr hended.own
  | takeReady c' calls contexts _ _ hended => exact activeContext_eq_none.mpr hended.own
  | requestGet w c' r' _ _ => exact fun hrdy => Option.isNone_iff_eq_none.mp hrdy
  | nothingPending w c' hpc _ => rw [hpc] at h; exact fun _ => h
  | readyGet w c' hpc => rw [hpc] at h; exact fun _ => h
  | _ => trivial

theorem dispatches_rdy (h : s.dispatches = true) : s.rdy = true := by
  unfold ServerSteps.dispatches at h
  split at h
  · exact absurd h (by simp)
  · exact (Bool.and_eq_true_iff.mp h).1

/-- A canceled context stays so while the pump is busy with the client. -/
theorem contextGone_step (h : ContextGone s) (hm : StepMove s a s') : ContextGone s' := by
  have hold := h
  unfold ContextGone at h
  cases hm with
  | idle _ _ _ _ _ _ _ _ _ hidle => exact contextGone_idle hold hidle
  | seesPending w c' hpc _ => rw [hpc] at h; exact h
  | timeoutGet w c' pending r' hpc _ => rw [hpc] at h; exact h
  | timeoutPeek w c' pending r' p' hpc _ => rw [hpc] at h; exact h
  | timedOut w c' p' k s₁ o hpc hc =>
      rw [hpc] at h
      have hactive := (hc.activeContext c').trans h
      cases o <;> exact hactive
  | reportTimedOut w c' p' hpc => rw [hpc] at h; exact fun _ => h
  | commit w c' hpc hdisp => rw [hpc] at h; exact h (dispatches_rdy hdisp)
  | dispatchGet w c' r' hpc _ => rw [hpc] at h; exact h
  | dispatchPeek w c' r' p' hpc _ => rw [hpc] at h; exact h
  | mark w c' p' hpc => rw [hpc] at h; exact h
  | write c' p' s' _ hpc' => unfold ContextGone; rw [hpc']; trivial
  | writeFails text c' p' hpc => rw [hpc] at h; exact h
  | failed w c' p' text k s₁ o hpc hc =>
      rw [hpc] at h
      have hactive := (hc.activeContext c').trans h
      cases o <;> exact hactive
  | reportFailed w c' p' text _ => trivial
  | crash w _ => trivial
  | callMoves t pc pc' _ _ _ _ _ _ _ _ _ _ hs' => subst hs'; exact hold.keep rfl rfl rfl
  | callCompletes t c' id k s₁ o _ hc => exact hold.keep hc.pump hc.rdy hc.clientContextMap
  | start op => exact hold.keep rfl rfl rfl
  | push t c' r' req q _ _ => exact hold.keep rfl rfl rfl
  | remove t c' _ => exact hold.keep rfl rfl rfl
  | clear t c' _ => exact hold.keep rfl rfl rfl
  | createClient c' => exact hold.keep rfl rfl rfl
  | getClientState c' => exact hold.keep rfl rfl rfl

theorem ContextGone.of_dispatchesFor (h : ContextGone s) (hc : dispatchesFor s.pump = some c) :
    s.activeContext c = none := by
  unfold ContextGone at h
  cases hpc : s.pump <;> rw [hpc] at h hc <;> first | (cases hc; exact h) | cases hc

/-- A goroutine that waits does so for the context the pump has stored. -/
def WaitsForStored (s : ServerSteps) : Prop :=
  ∀ c (t : Nat), s.calls[t]? = some (.waiting c) → s.clientContextMap c = some (some t)

theorem WaitsForStored.ended {c' : String} {calls : List ServerCall}
    {contexts : String → Option (Option Nat)} (h : WaitsForStored s)
    (hended : ContextEnded s c' calls contexts) {t : Nat} (ht : calls[t]? = some (.waiting c)) :
    contexts c = some (some t) := by
  have hold := h c t ((hended.back t _ ht).resolve_right (by simp))
  by_cases hc : c = c'
  · subst hc
    exact absurd ht (hended.ended t c hold)
  · rw [hended.other c hc]
    exact hold

/-- The zero context replaces no active one. -/
theorem WaitsForStored.endDispatch {c' : String} (h : WaitsForStored s)
    (hgone : s.activeContext c' = none) {t : Nat} (ht : s.calls[t]? = some (.waiting c)) :
    (s.endDispatch c').clientContextMap c = some (some t) := by
  have hold := h c t ht
  have hc : c ≠ c' := by
    rintro rfl
    exact activeContext_eq_none.mp hgone t hold
  exact (Function.update_of_ne hc _ _).trans hold

theorem waitsForStored_step (h : WaitsForStored s) (hgone : ContextGone s) (hm : StepMove s a s') :
    WaitsForStored s' := by
  intro c t ht
  have hcall : ∀ {u : Nat} {pc : ServerCall}, s'.calls = s.calls.set u pc → pc ≠ .waiting c →
      s'.clientContextMap = s.clientContextMap → s'.clientContextMap c = some (some t) := by
    intro u pc hcalls hpc hctx
    rw [hcalls] at ht
    rcases getElem?_replaced ht with ⟨_, he⟩ | ⟨_, hu⟩
    · exact absurd he.symm hpc
    · rw [hctx]
      exact h c t hu
  cases hm with
  | idle _ _ _ _ _ _ _ _ _ hidle =>
      cases hidle with
      | takeTimer c' calls contexts _ _ hended => exact h.ended hended ht
      | takeReady c' calls contexts _ _ hended => exact h.ended hended ht
      | gone w c' calls contexts _ _ hended => exact h.ended hended ht
      | dispatchGone w c' hpc _ =>
          exact h.endDispatch (hgone.of_dispatchesFor (by rw [hpc]; rfl)) ht
      | _ => exact h c t ht
  | write c' p' s' hpc _ _ _ _ _ _ _ hs' =>
      have hnone : s.activeContext c' = none := hgone.of_dispatchesFor (by rw [hpc]; rfl)
      subst hs'
      unfold ServerSteps.written at ht ⊢
      dsimp only at ht ⊢
      split at ht
      · rename_i htimeout
        rw [if_pos htimeout]
        rcases getElem?_snoc ht with hold | ⟨rfl, he⟩
        · have hc : c ≠ c' := by
            rintro rfl
            exact activeContext_eq_none.mp hnone t (h c t hold)
          exact (Function.update_of_ne hc _ _).trans (h c t hold)
        · cases he
          exact Function.update_self _ _ _
      · rename_i htimeout
        rw [if_neg htimeout]
        exact h.endDispatch hnone ht
  | reportFailed w c' p' text hpc =>
      have hnone : s.activeContext c' = none := by
        unfold ContextGone at hgone
        rw [hpc] at hgone
        exact hgone
      exact h.endDispatch hnone ht
  | timedOut w c' p' k s₁ o _ hc =>
      dsimp only at ht ⊢
      rw [hc.clientContextMap]
      exact h c t (by rw [← hc.calls]; exact ht)
  | failed w c' p' text k s₁ o _ hc =>
      dsimp only at ht ⊢
      rw [hc.clientContextMap]
      exact h c t (by rw [← hc.calls]; exact ht)
  | start op =>
      rcases getElem?_snoc ht with hold | ⟨_, he⟩
      · exact h c t hold
      · cases op <;> cases he
  | callMoves u pc pc' _ _ hon hcalls _ _ _ _ _ _ hs' =>
      exact hcall hcalls (by cases hon <;> simp) (by rw [hs'])
  | push u c' r' req q _ _ => exact hcall rfl (by simp) rfl
  | callCompletes u c' id k s₁ o _ hc =>
      have hcalls : s₁.calls.set u (callNext c' id o) = s.calls.set u (callNext c' id o) := by
        rw [hc.calls]
      exact hcall hcalls (by cases o <;> simp [callNext]) hc.clientContextMap
  | remove u c' _ => exact hcall rfl (by simp) rfl
  | clear u c' _ => exact hcall rfl (by simp) rfl
  | _ => exact h c t ht

/-! ## The last dispatch for a client -/

theorem lastDispatch_append_nil {events : List DeadlineEvent}
    (h : events.filterMap (DeadlineEvent.dispatchFor c) = []) :
    lastDispatch (log ++ events) c = lastDispatch log c := by
  rw [lastDispatch, List.filterMap_append, h, List.append_nil, lastDispatch]

theorem lastDispatch_mem {t : Nat} (h : lastDispatch log c = some (p, t)) :
    .dispatched c p t ∈ log := by
  obtain ⟨e, he, hpt⟩ := List.mem_filterMap.mp (List.mem_of_getLast? h)
  cases e with
  | dispatched c' p' t' =>
      simp only [DeadlineEvent.dispatchFor] at hpt
      split at hpt
      · rename_i hc
        cases hpt
        exact hc ▸ he
      · exact absurd hpt (by simp)
  | expired t' => exact absurd hpt (by simp [DeadlineEvent.dispatchFor])

/-- **The last dispatch for a client changes by a `Write` for it.** -/
theorem lastDispatch_step (log : List DeadlineEvent) (s : ServerSteps) (a : ServerSteps.Action)
    (s' : ServerSteps) (c : String) :
    lastDispatch (log ++ deadlineEvents s a s') c = lastDispatch log c
      ∨ ∃ p, a = .pump none ∧ s.pump = .write c p ∧ 0 < s.timeout
        ∧ lastDispatch (log ++ deadlineEvents s a s') c = some (p, s.calls.length) := by
  cases a with
  | pump w =>
      cases w with
      | none =>
          cases hpc : s.pump with
          | write c' p =>
              by_cases htimeout : 0 < s.timeout
              · have hev : deadlineEvents s (.pump none) s'
                    = [.dispatched c' p s.calls.length] := by
                  simp [deadlineEvents, hpc, htimeout]
                rw [hev]
                by_cases hc : c' = c
                · subst hc
                  refine Or.inr ⟨p, rfl, rfl, htimeout, ?_⟩
                  simp [lastDispatch, DeadlineEvent.dispatchFor]
                · exact Or.inl (lastDispatch_append_nil (by
                    simp [DeadlineEvent.dispatchFor, hc]))
              · refine Or.inl (lastDispatch_append_nil ?_)
                simp [deadlineEvents, hpc, htimeout]
          | _ => exact Or.inl (lastDispatch_append_nil (by simp [deadlineEvents, hpc]))
      | some text => exact Or.inl (lastDispatch_append_nil (by simp [deadlineEvents]))
  | call t =>
      refine Or.inl (lastDispatch_append_nil ?_)
      simp only [deadlineEvents]
      split
      · rfl
      · rfl
  | _ => exact Or.inl (lastDispatch_append_nil (by simp [deadlineEvents]))

theorem lastDispatch_write (hpc : s.pump = .write c p) (htimeout : 0 < s.timeout) :
    lastDispatch (log ++ deadlineEvents s (.pump none) s') c = some (p, s.calls.length) := by
  simp [lastDispatch, deadlineEvents, hpc, htimeout, DeadlineEvent.dispatchFor]

/-- A goroutine that waits did so before, or was started by a `Write`. -/
theorem waiting_step (hm : StepMove s a s') {t : Nat} (ht : s'.calls[t]? = some (.waiting c)) :
    s.calls[t]? = some (.waiting c)
      ∨ ∃ p, a = .pump none ∧ s.pump = .write c p ∧ t = s.calls.length := by
  have hcall : ∀ {u : Nat} {pc : ServerCall}, s'.calls = s.calls.set u pc → pc ≠ .waiting c →
      s.calls[t]? = some (.waiting c) := by
    intro u pc hcalls hpc
    rw [hcalls] at ht
    rcases getElem?_replaced ht with ⟨_, he⟩ | ⟨_, hu⟩
    · exact absurd he.symm hpc
    · exact hu
  cases hm with
  | idle _ _ _ _ _ _ _ _ _ hidle =>
      left
      cases hidle with
      | takeTimer c' calls contexts _ _ hended =>
          exact (hended.back t _ ht).resolve_right (by simp)
      | takeReady c' calls contexts _ _ hended =>
          exact (hended.back t _ ht).resolve_right (by simp)
      | gone w c' calls contexts _ _ hended =>
          exact (hended.back t _ ht).resolve_right (by simp)
      | _ => exact ht
  | write c' p' s' hpc _ _ _ _ _ _ _ hs' =>
      rw [hs'] at ht
      rcases written_calls s c' p' with he | he
      · exact Or.inl (he ▸ ht)
      · rw [he] at ht
        rcases getElem?_snoc ht with hold | ⟨htlen, hcc⟩
        · exact Or.inl hold
        · cases hcc
          exact Or.inr ⟨p', rfl, hpc, htlen⟩
  | timedOut w c' p' k s₁ o _ hc => exact Or.inl (by rw [← hc.calls]; exact ht)
  | failed w c' p' text k s₁ o _ hc => exact Or.inl (by rw [← hc.calls]; exact ht)
  | start op =>
      rcases getElem?_snoc ht with hold | ⟨_, he⟩
      · exact Or.inl hold
      · cases op <;> cases he
  | callMoves u pc pc' _ _ hon hcalls => exact Or.inl (hcall hcalls (by cases hon <;> simp))
  | push u c' r' req q _ _ => exact Or.inl (hcall rfl (by simp))
  | callCompletes u c' id k s₁ o _ hc =>
      have hcalls : s₁.calls.set u (callNext c' id o) = s.calls.set u (callNext c' id o) := by
        rw [hc.calls]
      exact Or.inl (hcall hcalls (by cases o <;> simp [callNext]))
  | remove u c' _ => exact Or.inl (hcall rfl (by simp))
  | clear u c' _ => exact Or.inl (hcall rfl (by simp))
  | _ => exact Or.inl ht

/-! ## What was sent -/

theorem sent_step (hm : StepMove s a s') :
    s'.sent = s.sent
      ∨ ∃ c p, a = .pump none ∧ s.pump = .write c p ∧ s'.sent = s.sent ++ [(c, p)] := by
  cases hm with
  | idle _ _ _ _ _ _ hs => exact Or.inl hs
  | write c' p' _ hpc _ _ _ hs => exact Or.inr ⟨c', p', rfl, hpc, hs⟩
  | callMoves u pc pc' _ _ _ _ _ _ _ hs => exact Or.inl hs
  | timedOut w c' p' k s₁ o _ hc => exact Or.inl hc.sent
  | failed w c' p' text k s₁ o _ hc => exact Or.inl hc.sent
  | callCompletes u c' id k s₁ o _ hc => exact Or.inl hc.sent
  | _ => exact Or.inl rfl

/-- What was sent was passed to `Write`. -/
theorem sent_written {n : Nat} {timeout : Int} {t : Recorded ServerSteps QueueEvent}
    (h : Reachable (recordedQueues n timeout) t) :
    ∀ c p, (c, p) ∈ t.state.sent → .written c p ∈ t.log := by
  refine Reachable.invariant
    (P := fun t => ∀ c p, (c, p) ∈ t.state.sent → QueueEvent.written c p ∈ t.log) ?_ ?_ h
  · rintro ⟨s, log⟩ ⟨hs, _⟩ c p hsent
    cases hs
    exact absurd hsent (by simp)
  · rintro t a t' _ hold hact c p hsent
    obtain ⟨hact, hlog⟩ := Machine.recording_act hact
    rw [hlog]
    rcases sent_step (act_stepMove hact) with hs | ⟨c', p', rfl, hpc, hs⟩
    · exact List.mem_append_left _ (hold c p (hs ▸ hsent))
    · rw [hs, List.mem_append, List.mem_singleton] at hsent
      rcases hsent with hsent | he
      · exact List.mem_append_left _ (hold c p hsent)
      · cases he
        refine List.mem_append_right _ ?_
        simp [queueEvents, pumpEvents, hpc]

/-- A head of a queue that was sent was so before, or is what the pump has just written. -/
theorem sent_head_step {n : Nat} {timeout : Int} (h : Reachable (ServerSteps.machine n timeout) s)
    (hact : s.act a = some s') (hhead : HeadAt s'.queueMap c r p) (hsent : (c, p) ∈ s'.sent) :
    HeadAt s.queueMap c r p
      ∧ ((c, p) ∈ s.sent ∨ a = .pump none ∧ s.pump = .write c p) := by
  have hcases : (c, p) ∈ s.sent ∨ a = .pump none ∧ s.pump = .write c p := by
    rcases sent_step (act_stepMove hact) with hs | ⟨c', p', rfl, hpc, hs⟩
    · exact Or.inl (hs ▸ hsent)
    · rw [hs, List.mem_append, List.mem_singleton] at hsent
      rcases hsent with hsent | he
      · exact Or.inl hsent
      · cases he
        exact Or.inr ⟨rfl, hpc⟩
  obtain ⟨log, hlog⟩ := h.recorded queueEvents
  obtain ⟨hc, hw⟩ := chronicled_reachable hlog
  have hwritten : Written (log ++ queueEvents s a s') p := by
    rcases hcases with hsent | ⟨rfl, hpc⟩
    · exact Written.append ⟨c, sent_written hlog c p hsent⟩
    · exact ⟨c, List.mem_append_right _ (by simp [queueEvents, pumpEvents, hpc])⟩
  exact ⟨(outstanding_step hc hw hact ⟨hhead, hwritten⟩).1, hcases⟩

end Step

/-! ## Expiries belong to the last dispatch -/

/-- The request the timer branch is canceling. -/
def timesOut : ServerPumpPC → Option (String × Posted)
  | .timedOut c p _ | .reportTimedOut c p => some (c, p)
  | _ => none

structure OwnExpiries (s : ServerSteps) (log : List DeadlineEvent) : Prop where
  timeout : 0 < s.timeout
  gone : ContextGone s
  stored : WaitsForStored s
  waiting : ∀ c (t : Nat), s.calls[t]? = some (.waiting c) →
    ∃ p, lastDispatch log c = some (p, t)
  coming : ∀ c, ExpiryComing s c → ∃ p t, lastDispatch log c = some (p, t) ∧ .expired t ∈ log
  read : ∀ c, dispatchesFor s.pump = some c → ¬ ExpiryComing s c
  /-- The head of a queue, once written, is the last request dispatched. -/
  head : ∀ c r p, HeadAt s.queueMap c r p → (c, p) ∈ s.sent → ∃ t, lastDispatch log c = some (p, t)
  writing : ∀ c p, s.pump = .write c p → ∀ r x, HeadAt s.queueMap c r x → (c, x) ∈ s.sent → x = p
  branch : ∀ c p, timesOut s.pump = some (c, p) → ∃ t, lastDispatch log c = some (p, t)
  reported : ∀ x ∈ s.canceled, TimedOut x → OwnDeadline log x.clientID x.request

section Own

variable {s s' : ServerSteps} {a : ServerSteps.Action} {c : String} {log : List DeadlineEvent}
  {p : Posted} {r : QueueRef}

/-- While a context of the client is stored, the pump writes nothing for it. -/
theorem OwnExpiries.not_writing (h : OwnExpiries s log) {t : Nat}
    (ht : s.calls[t]? = some (.waiting c)) : dispatchesFor s.pump ≠ some c := fun hc =>
  activeContext_eq_none.mp (h.gone.of_dispatchesFor hc) t (h.stored c t ht)

/-- The last dispatch stays the last while the pump does not write for the client. -/
theorem lastDispatch_keep (hpc : dispatchesFor s.pump ≠ some c) :
    lastDispatch (log ++ deadlineEvents s a s') c = lastDispatch log c := by
  rcases lastDispatch_step log s a s' c with hsame | ⟨p, _, hwrite, _⟩
  · exact hsame
  · rw [hwrite] at hpc
    exact absurd rfl hpc

theorem waiting_own_step (h : OwnExpiries s log) (hm : StepMove s a s') {t : Nat}
    (ht : s'.calls[t]? = some (.waiting c)) :
    ∃ p, lastDispatch (log ++ deadlineEvents s a s') c = some (p, t) := by
  rcases waiting_step hm ht with hold | ⟨p, rfl, hpc, rfl⟩
  · obtain ⟨p, hp⟩ := h.waiting c t hold
    exact ⟨p, (lastDispatch_keep (h.not_writing hold)).trans hp⟩
  · exact ⟨p, lastDispatch_write hpc h.timeout⟩

theorem coming_own_step (h : OwnExpiries s log) (hm : StepMove s a s')
    (hcoming : ExpiryComing s' c) :
    ∃ p t, lastDispatch (log ++ deadlineEvents s a s') c = some (p, t)
      ∧ .expired t ∈ log ++ deadlineEvents s a s' := by
  rcases expiryComing_step hm hcoming with hold | ⟨t, rfl, ht⟩
  · obtain ⟨p, t, hlast, hexpired⟩ := h.coming c hold
    exact ⟨p, t, (lastDispatch_keep fun hc => h.read c hc hold).trans hlast,
      List.mem_append_left _ hexpired⟩
  · obtain ⟨p, hp⟩ := h.waiting c t ht
    exact ⟨p, t, (lastDispatch_keep (h.not_writing ht)).trans hp,
      List.mem_append_right _ (by simp [deadlineEvents, ht])⟩

theorem dispatchesFor_of_unburdened {pc : ServerPumpPC} (h : unburdened pc = true) :
    dispatchesFor pc = none := by
  cases pc <;> first | rfl | exact absurd h (by simp [unburdened])

/-- The pump takes up a dispatch at the test after the `select`. -/
theorem dispatchesFor_step (hm : StepMove s a s') (h : dispatchesFor s'.pump = some c) :
    dispatchesFor s.pump = some c
      ∨ s.pump = .test c ∧ s.dispatches = true ∧ ∃ w, a = .pump w := by
  cases hm with
  | idle _ _ _ hpc =>
      rw [dispatchesFor_of_unburdened hpc] at h
      cases h
  | commit w c' hpc hdisp => cases h; exact Or.inr ⟨hpc, hdisp, w, rfl⟩
  | dispatchGet w c' r' hpc _ => cases h; exact Or.inl (by rw [hpc]; rfl)
  | dispatchPeek w c' r' p' hpc _ => cases h; exact Or.inl (by rw [hpc]; rfl)
  | mark w c' p' hpc => cases h; exact Or.inl (by rw [hpc]; rfl)
  | write c' p' _ _ hpc' => rw [hpc'] at h; cases h
  | timedOut w c' p' k s₁ o _ _ => cases o <;> cases h
  | failed w c' p' text k s₁ o _ _ => cases o <;> cases h
  | callMoves t pc pc' _ _ _ _ hpump => exact Or.inl (hpump ▸ h)
  | callCompletes t c' id k s₁ o _ hc => exact Or.inl (by rw [← hc.pump]; exact h)
  | start op => exact Or.inl h
  | push t c' r' req q _ _ => exact Or.inl h
  | remove t c' _ => exact Or.inl h
  | clear t c' _ => exact Or.inl h
  | createClient c' => exact Or.inl h
  | getClientState c' => exact Or.inl h
  | _ => cases h

theorem read_own_step (h : OwnExpiries s log) (hok : expiriesRead s a = true)
    (hm : StepMove s a s') (hc : dispatchesFor s'.pump = some c) : ¬ ExpiryComing s' c := by
  intro hcoming
  rcases expiryComing_step hm hcoming with hold | ⟨t, rfl, ht⟩
  · rcases dispatchesFor_step hm hc with hdisp | ⟨hpc, hdisp, w, rfl⟩
    · exact h.read c hdisp hold
    · have hread : c ∉ s.timerC ∧ s.calls.any (isExpired c) = false := by
        have hok := (Bool.and_eq_true_iff.mp hok).2
        simpa [hpc, hdisp] using hok
      rcases hold with hmem | hcall | hbranch
      · exact hread.1 hmem
      · rw [hread.2] at hcall
        exact absurd hcall (by simp)
      · rw [hpc] at hbranch
        exact absurd hbranch (by simp [inTimerBranch])
  · rcases dispatchesFor_step hm hc with hdisp | ⟨_, _, w, ha⟩
    · exact h.not_writing ht hdisp
    · exact absurd ha (by simp)

theorem head_own_step {n : Nat} {timeout : Int} (h : OwnExpiries s log)
    (hr : Reachable (ServerSteps.machine n timeout) s) (hact : s.act a = some s')
    (hhead : HeadAt s'.queueMap c r p) (hsent : (c, p) ∈ s'.sent) :
    ∃ t, lastDispatch (log ++ deadlineEvents s a s') c = some (p, t) := by
  obtain ⟨hold, hsent | ⟨rfl, hpc⟩⟩ := sent_head_step hr hact hhead hsent
  · obtain ⟨t, ht⟩ := h.head c r p hold hsent
    rcases lastDispatch_step log s a s' c with hsame | ⟨p', _, hpc, _, hnew⟩
    · exact ⟨t, hsame.trans ht⟩
    · -- written again, with a context of its own
      cases h.writing c p' hpc r p hold hsent
      exact ⟨_, hnew⟩
  · exact ⟨_, lastDispatch_write hpc h.timeout⟩

theorem writing_own_step {n : Nat} {timeout : Int} (h : OwnExpiries s log) (hsound : TimerSound s)
    (hr : Reachable (ServerSteps.machine n timeout) s) (hact : s.act a = some s')
    (hpc : s'.pump = .write c p) {x : Posted} (hhead : HeadAt s'.queueMap c r x)
    (hsent : (c, x) ∈ s'.sent) : x = p := by
  obtain ⟨hold, hsent⟩ := sent_head_step hr hact hhead hsent
  rcases write_step (act_stepMove hact) hpc with hwrite | ⟨hadd, _⟩
  · rcases hsent with hsent | ⟨_, hx⟩
    · exact h.writing c p hwrite r x hold hsent
    · rw [hwrite] at hx
      cases hx
      rfl
  · have hreads := hsound.reads
    rw [hadd] at hreads
    obtain ⟨r', hp⟩ := hreads
    cases Option.some.inj (hp.1.symm.trans hold.1)
    exact Option.some.inj (hold.2.symm.trans hp.2)

theorem timesOut_of_unburdened {pc : ServerPumpPC} (h : unburdened pc = true) :
    timesOut pc = none := by
  cases pc <;> first | rfl | exact absurd h (by simp [unburdened])

/-- The timer branch takes up the head of a queue. -/
theorem timesOut_step (hm : StepMove s a s') (h : timesOut s'.pump = some (c, p)) :
    timesOut s.pump = some (c, p)
      ∨ ∃ r pending, s.pump = .timeoutPeek c r pending ∧ (s.queueMap.deref r).peek = some p := by
  cases hm with
  | idle _ _ _ hpc =>
      rw [timesOut_of_unburdened hpc] at h
      cases h
  | timeoutPeek w c' pending r' p' hpc hpeek => cases h; exact Or.inr ⟨r', pending, hpc, hpeek⟩
  | timedOut w c' p' k s₁ o hpc _ =>
      left
      rw [hpc]
      cases o <;> exact h
  | write c' p' _ _ hpc' => rw [hpc'] at h; cases h
  | failed w c' p' text k s₁ o _ _ => cases o <;> cases h
  | callMoves t pc pc' _ _ _ _ hpump => exact Or.inl (hpump ▸ h)
  | callCompletes t c' id k s₁ o _ hc => exact Or.inl (by rw [← hc.pump]; exact h)
  | start op => exact Or.inl h
  | push t c' r' req q _ _ => exact Or.inl h
  | remove t c' _ => exact Or.inl h
  | clear t c' _ => exact Or.inl h
  | createClient c' => exact Or.inl h
  | getClientState c' => exact Or.inl h
  | _ => cases h

theorem branch_own_step (h : OwnExpiries s log) (hsound : TimerSound s) (hm : StepMove s a s')
    (hp : timesOut s'.pump = some (c, p)) :
    ∃ t, lastDispatch (log ++ deadlineEvents s a s') c = some (p, t) := by
  rcases timesOut_step hm hp with hold | ⟨r, pending, hpc, hpeek⟩
  · obtain ⟨t, ht⟩ := h.branch c p hold
    refine ⟨t, (lastDispatch_keep ?_).trans ht⟩
    cases hpc : s.pump <;> rw [hpc] at hold <;> simp [timesOut, dispatchesFor] at hold ⊢
  · have hreads := hsound.reads
    rw [hpc] at hreads
    obtain ⟨p', hhead, _, hsent⟩ := hreads
    cases Option.some.inj (hhead.2.symm.trans hpeek)
    obtain ⟨t, ht⟩ := h.head c r p hhead hsent
    exact ⟨t, (lastDispatch_keep (by rw [hpc]; simp [dispatchesFor])).trans ht⟩

theorem OwnDeadline.append {events : List DeadlineEvent} (h : OwnDeadline log c p) :
    OwnDeadline (log ++ events) c p := by
  obtain ⟨t, hdisp, hexpired⟩ := h
  exact ⟨t, List.mem_append_left _ hdisp, List.mem_append_left _ hexpired⟩

/-- **A timeout is reported for the last request dispatched, whose context has expired.** -/
theorem reported_own_step (h : OwnExpiries s log) (hm : StepMove s a s') {x : Cancellation}
    (hx : x ∈ s'.canceled) (hto : TimedOut x) :
    OwnDeadline (log ++ deadlineEvents s a s') x.clientID x.request := by
  have hold : x ∈ s.canceled → OwnDeadline (log ++ deadlineEvents s a s') x.clientID x.request :=
    fun hmem => (h.reported x hmem hto).append
  cases hm with
  | idle _ _ _ _ _ _ _ hcan => exact hold (hcan ▸ hx)
  | write c' p' _ _ _ _ _ _ hcan => exact hold (hcan ▸ hx)
  | callMoves t pc pc' _ _ _ _ _ _ _ _ hcan => exact hold (hcan ▸ hx)
  | timedOut w c' p' k s₁ o _ hc => exact hold (hc.canceled ▸ hx)
  | failed w c' p' text k s₁ o _ hc => exact hold (hc.canceled ▸ hx)
  | callCompletes t c' id k s₁ o _ hc => exact hold (hc.canceled ▸ hx)
  | reportTimedOut w c' p' hpc =>
      rcases List.mem_append.mp hx with hmem | hmem
      · exact hold hmem
      · cases List.mem_singleton.mp hmem
        obtain ⟨t, ht⟩ := h.branch c' p' (by rw [hpc]; rfl)
        have hbranch : ExpiryComing s c' :=
          Or.inr (Or.inr (by rw [hpc]; exact beq_self_eq_true c'))
        obtain ⟨p'', t', hlast, hexpired⟩ := h.coming c' hbranch
        rw [ht] at hlast
        cases hlast
        exact OwnDeadline.append ⟨t, lastDispatch_mem ht, hexpired⟩
  | reportFailed w c' p' text _ =>
      rcases List.mem_append.mp hx with hmem | hmem
      · exact hold hmem
      · cases List.mem_singleton.mp hmem
        have hcode : InternalError = GenericError := congrArg (fun e => e.code) hto
        exact absurd hcode (by decide)
  | _ => exact hold hx

end Own

theorem ownExpiries_start (n : Nat) {timeout : Int} (h : 0 < timeout) :
    OwnExpiries (ServerSteps.start n timeout) [] where
  timeout := h
  gone := trivial
  stored c t ht := absurd ht (by simp [ServerSteps.start])
  waiting c t ht := absurd ht (by simp [ServerSteps.start])
  coming c hc := by
    rcases hc with hc | hc | hc
    · exact absurd hc (by simp [ServerSteps.start])
    · exact absurd hc (by simp [ServerSteps.start])
    · exact absurd hc (by simp [ServerSteps.start, inTimerBranch])
  read c hc := absurd hc (by simp [ServerSteps.start, dispatchesFor])
  head c r p hhead := absurd hhead.1 (by simp [ServerSteps.start, FIFOQueueMap.new,
    FIFOQueueMap.get])
  writing c p hpc := absurd hpc (by simp [ServerSteps.start])
  branch c p hc := absurd hc (by simp [ServerSteps.start, timesOut])
  reported x hx := absurd hx (by simp [ServerSteps.start])

theorem ownExpiries_reachable {n : Nat} {timeout : Int} {t : Recorded ServerSteps DeadlineEvent}
    (htimeout : 0 < timeout)
    (h : ReachableWhile (recordedDeadlines n timeout)
      (fun t a => expiriesRead t.state a = true) t) : OwnExpiries t.state t.log := by
  refine ReachableWhile.invariant (P := fun t => OwnExpiries t.state t.log) ?_ ?_ h
  · rintro ⟨s, log⟩ ⟨hs, hlog⟩
    cases hs
    cases hlog
    exact ownExpiries_start n htimeout
  · rintro t a t' hreach hown hok hact
    have hrun : ReachableWhile (ServerSteps.machine n timeout)
        (fun s a => expiriesRead s a = true) t.state :=
      @ReachableWhile.of_recording _ _ _ (fun s a => expiriesRead s a = true) _ _ _ hreach
    have hsound := timerSound_reachable
      (hrun.mono fun s a hok => (Bool.and_eq_true_iff.mp hok).1)
    have hr := hrun.reachable
    obtain ⟨hact, hlog⟩ := Machine.recording_act hact
    have hm := act_stepMove hact
    rw [hlog]
    exact
      { timeout := timeout_step hm ▸ hown.timeout
        gone := contextGone_step hown.gone hm
        stored := waitsForStored_step hown.stored hown.gone hm
        waiting := fun c t ht => waiting_own_step hown hm ht
        coming := fun c hc => coming_own_step hown hm hc
        read := fun c hc => read_own_step hown hok hm hc
        head := fun c r p hhead hsent => head_own_step hown hr hact hhead hsent
        writing := fun c p hpc r x hhead hsent =>
          writing_own_step hown hsound hr hact hpc hhead hsent
        branch := fun c p hp => branch_own_step hown hsound hm hp
        reported := fun x hx hto => reported_own_step hown hm hx hto }

/--
**A timeout is reported only for a request whose own deadline has passed**, in every
run in which the pump dispatches for a client only when no expiry of that client is
unread, and in which what the pump read is acted on while it is still so.
-/
theorem timeout_of_own_request {n : Nat} {timeout : Int} (htimeout : 0 < timeout)
    {t : Recorded ServerSteps DeadlineEvent}
    (h : ReachableWhile (recordedDeadlines n timeout)
      (fun t a => expiriesRead t.state a = true) t)
    {x : Cancellation} (hx : x ∈ t.state.canceled) (hto : TimedOut x) :
    OwnDeadline t.log x.clientID x.request :=
  (ownExpiries_reachable htimeout h).reported x hx hto

/-- One client answers, the other lets its first request time out. -/
theorem timed_out_and_answered :
    ∃ t x, ReachableWhile (recordedDeadlines 0 30) (fun t a => expiriesRead t.state a = true) t
      ∧ t.state.canceled = [x] ∧ TimedOut x ∧ x.clientID = "b" ∧ x.request.id = "2"
      ∧ OwnDeadline t.log x.clientID x.request := by
  have hrun : ∃ t x, (recordedDeadlines 0 30).runWhile (fun t a => expiriesRead t.state a)
      ⟨ServerSteps.start 0 30, []⟩
      ([.createClient "a", .createClient "b"] ++ ServerSteps.sending 0 "a" "1"
        ++ ServerSteps.sending 1 "b" "2" ++ ServerSteps.sending 2 "b" "3"
        ++ ServerSteps.dispatching "a" ++ [.pump none]
        ++ ServerSteps.dispatching "b" ++ [.pump none] ++ ServerSteps.answering 5 "a" "1"
        ++ [.call 4, .call 4] ++ [.pump none, .select (.ready "a"), .pump none, .pump none]
        ++ ServerSteps.timingOut "b" ++ ServerSteps.dispatching "b" ++ [.pump none]) = some t
      ∧ t.state.canceled = [x] ∧ TimedOut x ∧ x.clientID = "b" ∧ x.request.id = "2" :=
    ⟨_, _, rfl, rfl, rfl, rfl, rfl⟩
  obtain ⟨t, x, ht, hcanceled, hto, hclient, hid⟩ := hrun
  have hinit : ReachableWhile (recordedDeadlines 0 30)
      (fun t a => expiriesRead t.state a = true) ⟨ServerSteps.start 0 30, []⟩ := .init ⟨rfl, rfl⟩
  have hr := hinit.runWhile (fun _ _ hc => hc) _ ht
  have hx : x ∈ t.state.canceled := by
    rw [hcanceled]
    exact List.mem_cons_self
  exact ⟨t, x, hr, hcanceled, hto, hclient, hid, timeout_of_own_request (by decide) hr hx hto⟩

/-- Of two contexts only the first has expired, and the second was made for the second request. -/
theorem not_ownDeadline {log : List DeadlineEvent} {c : String} {p q : Posted} {t u : Nat}
    (hlog : log = [.dispatched c p t, .expired t, .dispatched c q u]) (hpq : p ≠ q) (htu : t ≠ u) :
    ¬ OwnDeadline log c q := by
  rintro ⟨v, hdisp, hexpired⟩
  rw [hlog] at hdisp hexpired
  simp only [List.mem_cons, DeadlineEvent.dispatched.injEq, DeadlineEvent.expired.injEq,
    reduceCtorEq, List.not_mem_nil, or_false, false_or] at hdisp hexpired
  rcases hdisp with ⟨_, he, _⟩ | ⟨_, _, he⟩
  · exact hpq he.symm
  · exact htu (hexpired.symm.trans he)

/--
**An expiry cancels the next request.** The deadline of request "1" passes, but
its answer is read first: the pump dispatches request "2" and then takes the old
expiry for that of "2". The expiry may wait in the channel, or still be in the hands
of the goroutine that sends it. The same happens with an expiry left from an earlier
connection.
-/
theorem expiry_cancels_next_request :
    (∃ t, Reachable (recordedDeadlines 0 30) t
        ∧ t.state.canceled = [ServerSteps.timedOutReport "cp" (postedHeartbeat 1 "2")]
        ∧ ¬ OwnDeadline t.log "cp" (postedHeartbeat 1 "2"))
      ∧ (∃ t, Reachable (recordedDeadlines 0 30) t
        ∧ t.state.canceled = [ServerSteps.timedOutReport "cp" (postedHeartbeat 1 "2")]
        ∧ ¬ OwnDeadline t.log "cp" (postedHeartbeat 1 "2"))
      ∧ ∃ t, Reachable (recordedDeadlines 0 30) t
        ∧ t.state.canceled = [ServerSteps.timedOutReport "cp" (postedHeartbeat 1 "2")]
        ∧ ¬ OwnDeadline t.log "cp" (postedHeartbeat 1 "2") := by
  -- request "1" was dispatched, with call 1 waiting for its deadline
  let first : List ServerSteps.Action := [.createClient "cp"] ++ ServerSteps.sending 0 "cp" "1"
    ++ ServerSteps.dispatching "cp" ++ [.pump none]
  have hrun : ∀ as, (∃ t, (recordedDeadlines 0 30).run ⟨ServerSteps.start 0 30, []⟩
        (first ++ as) = some t
      ∧ t.state.canceled = [ServerSteps.timedOutReport "cp" (postedHeartbeat 1 "2")]
      ∧ t.log = [.dispatched "cp" (postedHeartbeat 0 "1") 1, .expired 1,
        .dispatched "cp" (postedHeartbeat 1 "2") 4]) →
      ∃ t, Reachable (recordedDeadlines 0 30) t
        ∧ t.state.canceled = [ServerSteps.timedOutReport "cp" (postedHeartbeat 1 "2")]
        ∧ ¬ OwnDeadline t.log "cp" (postedHeartbeat 1 "2") := by
    rintro as ⟨t, ht, hcanceled, hlog⟩
    have hinit : Reachable (recordedDeadlines 0 30) ⟨ServerSteps.start 0 30, []⟩ :=
      .init ⟨rfl, rfl⟩
    exact ⟨t, hinit.run _ ht, hcanceled, not_ownDeadline hlog (by decide) (by decide)⟩
  let answered : List ServerSteps.Action := ServerSteps.sending 2 "cp" "2"
    ++ ServerSteps.answering 3 "cp" "1" ++ [.pump none, .select (.ready "cp")]
    ++ List.replicate 6 (.pump none)
  refine ⟨hrun ([.call 1, .call 1] ++ answered ++ ServerSteps.timingOut "cp") ⟨_, rfl, rfl, rfl⟩,
    hrun ([.call 1] ++ answered ++ [.call 1] ++ ServerSteps.timingOut "cp") ⟨_, rfl, rfl, rfl⟩,
    hrun ([.call 1, .call 1] ++ ServerSteps.disconnecting 2 "cp"
      ++ [.pump none, .select (.request "cp"), .pump none, .createClient "cp"]
      ++ ServerSteps.sending 3 "cp" "2" ++ ServerSteps.dispatching "cp" ++ [.pump none]
      ++ ServerSteps.timingOut "cp") ⟨_, rfl, rfl, rfl⟩⟩

end OcppGo.Proof
