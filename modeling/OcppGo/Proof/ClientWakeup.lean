import OcppGo.Proof.ClientTransmission

/-!
# The client's pump never sleeps through a request

The pump waits on three channels, and a queued request moves only when it reads
a token. Tokens are read and thrown away while the dispatcher is paused, and a
request token is thrown away while `rdy` is down. So it has to be shown that
whenever the pump settles down at its `select` with something it could send,
somebody still has a token for it.

Two facts carry this. While `rdy` is down, or about to be lowered, a request is
pending or a ready token is on its way (`Due`): only the pump's own read raises
the flag, and a slot is freed only by a `CompleteRequest` that signals next. And
the pump goes back to its `select` for one of three reasons: it was paused, its
flag was down, or the queue was empty. The first reason is undone by a `Resume`,
the last by a `SendRequest`, and both of them signal afterwards (`Asked`).
-/

namespace OcppGo.Proof

open OcppGo.Lib OcppGo.Ocppj OcppGo.Ocppj.ClientSteps

/-- A ready token is in the channel, or somebody will send one. -/
inductive Due (s : ClientSteps) : Prop where
  | token : 0 < s.readyForDispatch → Due s
  | pump : pumpOwes s.pump = true → Due s
  | reader : readerOwes s.reader = true → Due s
  | caller (pc : CallPC) : pc ∈ s.callers → callOwes pc = true → Due s

/-- A call that has let the pump's reason for waiting lapse, and has not told it yet. -/
def asks : CallPC → Bool
  | .signal | .resumeTest => true
  | _ => false

/-- A request token is in the channel, or a call is about to wake the pump. -/
inductive Asked (s : ClientSteps) : Prop where
  | token : 0 < s.requestChannel → Asked s
  | caller (pc : CallPC) : pc ∈ s.callers → asks pc = true → Asked s

/-- A request is pending, or a ready token is due. -/
def Engaged (s : ClientSteps) : Prop := s.pendingRequestState.requestID ≠ "" ∨ Due s

/-- `rdy` is down, or will be before the pump selects again. -/
def Committed (s : ClientSteps) : Prop :=
  s.rdy = false ∨ (∃ p, s.pump = .write p) ∨ failing s.pump = true

/-- The pump arms its timer after a dispatch. -/
def arming : PumpPC → Bool
  | .stopTimer | .drainTimer | .resetTimer => true
  | _ => false

/-! ## What keeps the pump engaged -/

/-- Another call's program counter stays in the list when call `t` moves. -/
theorem mem_set_of_ne {l : List CallPC} {t : Nat} {pc pc₀ pc' : CallPC} (hm : pc ∈ l)
    (ht : l[t]? = some pc₀) (hne : pc ≠ pc₀) : pc ∈ l.set t pc' := by
  obtain ⟨i, hi⟩ := List.mem_iff_getElem?.mp hm
  refine List.mem_iff_getElem?.mpr ⟨i, ?_⟩
  rw [List.getElem?_set_ne (fun h => hne (by rw [← h, ht] at hi; exact (Option.some.inj hi).symm))]
  exact hi

theorem self_mem_set {l : List CallPC} {t : Nat} {pc₀ : CallPC} (pc' : CallPC)
    (ht : l[t]? = some pc₀) : pc' ∈ l.set t pc' := by
  have hlt : t < l.length := (List.getElem?_eq_some_iff.mp ht).1
  exact List.mem_iff_getElem?.mpr ⟨t, by simp [hlt]⟩

/-- Who owes a token before an operation of `CompleteRequest` owes it after, or has sent it. -/
theorem CompleteMove.owed {s s₁ : ClientSteps} {id : String} {c : Completing}
    {r : Option Completing} (h : CompleteMove s id c s₁ r) (hc : owes c = true) :
    0 < s₁.readyForDispatch ∨ ∃ c', r = some c' ∧ owes c' = true := by
  cases h with
  | mismatch _ => exact absurd hc (by simp [owes])
  | found p _ _ => exact absurd hc (by simp [owes])
  | pop => exact Or.inr ⟨_, rfl, rfl⟩
  | delete => exact Or.inr ⟨_, rfl, rfl⟩
  | ready _ => exact Or.inl Nat.one_pos

/-- Tokens are only added. -/
theorem CompleteMove.token {s s₁ : ClientSteps} {id : String} {c : Completing}
    {r : Option Completing} (h : CompleteMove s id c s₁ r) (ht : 0 < s.readyForDispatch) :
    0 < s₁.readyForDispatch := by
  cases h with
  | ready _ => exact Nat.one_pos
  | _ => exact ht

/-- The slot survives, or the operation that freed it still has to signal. -/
theorem CompleteMove.slot {s s₁ : ClientSteps} {id : String} {c : Completing}
    {r : Option Completing} (h : CompleteMove s id c s₁ r)
    (hslot : s.pendingRequestState.requestID ≠ "") :
    s₁.pendingRequestState.requestID ≠ "" ∨ ∃ c', r = some c' ∧ owes c' = true := by
  cases h with
  | delete => exact Or.inr ⟨_, rfl, rfl⟩
  | _ => exact Or.inl hslot

/--
One operation of a `CompleteRequest` keeps the pump engaged, when whoever runs it
owes what is left of it, and everybody else who owes a token still does.
-/
theorem CompleteMove.engaged {s s₁ s' : ClientSteps} {id : String} {c : Completing}
    {r : Option Completing} (h : CompleteMove s id c s₁ r) (he : Engaged s)
    (hslot : s'.pendingRequestState = s₁.pendingRequestState)
    (htok : s'.readyForDispatch = s₁.readyForDispatch)
    (hself : ∀ c', r = some c' → owes c' = true → Due s')
    (hp : pumpOwes s.pump = true → owes c = true ∨ Due s')
    (hr : readerOwes s.reader = true → owes c = true ∨ Due s')
    (hc : ∀ pc ∈ s.callers, callOwes pc = true → owes c = true ∨ Due s') : Engaged s' := by
  have hgoes : owes c = true ∨ Due s' → Engaged s' := by
    rintro (ho | hd)
    · rcases h.owed ho with ht | ⟨c', hr, ho'⟩
      · exact Or.inr (.token (by rw [htok]; exact ht))
      · exact Or.inr (hself c' hr ho')
    · exact Or.inr hd
  rcases he with he | he
  · rcases h.slot he with hk | ⟨c', hr, ho⟩
    · exact Or.inl (by rw [hslot]; exact hk)
    · exact Or.inr (hself c' hr ho)
  · cases he with
    | token ht => exact Or.inr (.token (by rw [htok]; exact h.token ht))
    | pump ho => exact hgoes (hp ho)
    | reader ho => exact hgoes (hr ho)
    | caller pc hm ho => exact hgoes (hc pc hm ho)

/-- Everybody who owes a token stays where they are. -/
theorem Engaged.mono {s s' : ClientSteps} (h : Engaged s)
    (hslot : s.pendingRequestState.requestID ≠ "" → s'.pendingRequestState.requestID ≠ "")
    (ht : s'.readyForDispatch = s.readyForDispatch)
    (hp : pumpOwes s.pump = true → pumpOwes s'.pump = true)
    (hr : readerOwes s.reader = true → readerOwes s'.reader = true)
    (hc : ∀ pc ∈ s.callers, callOwes pc = true → pc ∈ s'.callers) : Engaged s' := by
  rcases h with h | h
  · exact Or.inl (hslot h)
  · cases h with
    | token h => exact Or.inr (.token (by rw [ht]; exact h))
    | pump h => exact Or.inr (.pump (hp h))
    | reader h => exact Or.inr (.reader (hr h))
    | caller pc hm h => exact Or.inr (.caller pc (hc pc hm h) h)

/-- A pump that owes nothing moves alone. -/
theorem Engaged.pumpMoves {s s' : ClientSteps} (h : Engaged s)
    (hslot : s'.pendingRequestState = s.pendingRequestState)
    (ht : s'.readyForDispatch = s.readyForDispatch) (hp : pumpOwes s.pump = false)
    (hr : s'.reader = s.reader) (hc : s'.callers = s.callers) : Engaged s' := by
  refine h.mono (fun hne => by rw [hslot]; exact hne) ht (fun ho => ?_) (fun ho => ?_) ?_
  · exact absurd ho (by simp [hp])
  · rw [hr]; exact ho
  · intro pc hm _
    rw [hc]; exact hm

/-- A call that owes nothing moves alone. -/
theorem Engaged.callMoves {s s' : ClientSteps} {t : Nat} {pc₀ pc' : CallPC} (h : Engaged s)
    (ht : s.callers[t]? = some pc₀) (hpc : callOwes pc₀ = false)
    (hslot : s'.pendingRequestState = s.pendingRequestState)
    (htok : s'.readyForDispatch = s.readyForDispatch) (hp : s'.pump = s.pump)
    (hr : s'.reader = s.reader) (hc : s'.callers = s.callers.set t pc') : Engaged s' := by
  refine h.mono (fun hne => by rw [hslot]; exact hne) htok (fun ho => ?_) (fun ho => ?_) ?_
  · rw [hp]; exact ho
  · rw [hr]; exact ho
  · intro pc hm ho
    rw [hc]
    refine mem_set_of_ne hm ht ?_
    rintro rfl
    exact absurd ho (by simp [hpc])

theorem callOwes_of_onward {pc pc' : CallPC} (h : onward pc pc' = true) : callOwes pc = false := by
  cases pc <;> first | rfl | (cases pc' <;> exact absurd h (by simp [onward]))

/-- A `CompleteRequest` run by the pump. -/
theorem CompleteMove.engaged_pump {s s₁ : ClientSteps} {id : String} {c : Completing}
    {r : Option Completing} {k : Completing → PumpPC} {done : PumpPC}
    (h : CompleteMove s id c s₁ r) (he : Engaged s) (hpc : pumpOwes s.pump = owes c)
    (hk : ∀ c', pumpOwes (k c') = owes c') : Engaged { s₁ with pump := pumpAfter k done r } := by
  refine h.engaged he rfl rfl ?_ (fun ho => Or.inl (hpc ▸ ho)) (fun ho => Or.inr (.reader ?_)) ?_
  · rintro c' rfl ho
    exact .pump ((hk c').trans ho)
  · rw [← h.reader] at ho
    exact ho
  · intro pc hm ho
    rw [← h.callers] at hm
    exact Or.inr (.caller pc hm ho)

/--
**Once engaged, the pump stays engaged until it takes a ready token itself.**
-/
theorem Move.engaged {s s' : ClientSteps} {a : ClientSteps.Action} (h : Move s a s')
    (he : Engaged s) : Engaged s' ∨ (s'.pump = .isPaused ∧ s'.rdy = true) := by
  cases h with
  | idle _ pc timer n hi _ _ => exact Or.inl (he.pumpMoves rfl rfl (owes_of_inert hi) rfl rfl)
  | takeReady _ _ => exact Or.inr ⟨rfl, rfl⟩
  | seesReady _ hpc _ => exact Or.inl (he.pumpMoves rfl rfl (by rw [hpc]; rfl) rfl rfl)
  | seesRequest _ hpc _ => exact Or.inl (he.pumpMoves rfl rfl (by rw [hpc]; rfl) rfl rfl)
  | crash _ hpc _ =>
      refine Or.inl (he.pumpMoves rfl rfl ?_ rfl rfl)
      rcases hpc with hpc | hpc <;> rw [hpc] <;> rfl
  | peek _ p hpc _ => exact Or.inl (he.pumpMoves rfl rfl (by rw [hpc]; rfl) rfl rfl)
  | mark _ p hpc =>
      refine Or.inl (he.mono (fun hne => ?_) rfl (fun ho => ?_) id (fun _ hm _ => hm))
      · show (s.pendingRequestState.addPendingRequest p.id p.payload).requestID ≠ ""
        rw [ClientState.addPendingRequest_of_pending hne]
        exact hne
      · rw [hpc] at ho
        exact absurd ho (by simp [pumpOwes])
  | write p hpc => exact Or.inl (he.pumpMoves rfl rfl (by rw [hpc]; rfl) rfl rfl)
  | writeFails text p hpc => exact Or.inl (he.pumpMoves rfl rfl (by rw [hpc]; rfl) rfl rfl)
  | failed _ p text c s₁ r hpc hc =>
      exact Or.inl (hc.engaged_pump he (by rw [hpc]; rfl) (fun _ => rfl))
  | reportFailed _ p text hpc => exact Or.inl (he.pumpMoves rfl rfl (by rw [hpc]; rfl) rfl rfl)
  | seesPending _ hpc _ => exact Or.inl (he.pumpMoves rfl rfl (by rw [hpc]; rfl) rfl rfl)
  | peekTimeout _ p hpc _ => exact Or.inl (he.pumpMoves rfl rfl (by rw [hpc]; rfl) rfl rfl)
  | timedOut _ p c s₁ r hpc hc =>
      exact Or.inl (hc.engaged_pump he (by rw [hpc]; rfl) (fun _ => rfl))
  | reportTimedOut _ p hpc => exact Or.inl (he.pumpMoves rfl rfl (by rw [hpc]; rfl) rfl rfl)
  | discard id kind => exact Or.inl he
  | accept id kind hidle _ hid =>
      refine Or.inl (he.mono (fun hne => hne) rfl (fun ho => ho) (fun ho => ?_) (fun _ hm _ => hm))
      rw [hidle] at ho
      exact absurd ho (by simp [readerOwes])
  | reader id kind c s₁ r hpc hc =>
      refine Or.inl (hc.engaged he rfl rfl ?_ (fun ho => Or.inr (.pump ?_))
        (fun ho => Or.inl ?_) ?_)
      · rintro c' rfl ho
        exact .reader ho
      · rw [← hc.pump] at ho
        exact ho
      · rwa [hpc] at ho
      · intro pc hm ho
        rw [← hc.callers] at hm
        exact Or.inr (.caller pc hm ho)
  | handler id kind hpc =>
      refine Or.inl (he.mono (fun hne => hne) rfl (fun ho => ho) (fun ho => ?_) (fun _ hm _ => hm))
      rw [hpc] at ho
      exact absurd ho (by simp [readerOwes])
  | call op =>
      exact Or.inl (he.mono (fun hne => hne) rfl (fun ho => ho) (fun ho => ho)
        (fun _ hm _ => List.mem_append_left _ hm))
  | caller t pc pc' timer n paused ht hon =>
      exact Or.inl (he.callMoves ht (callOwes_of_onward hon) rfl rfl rfl rfl rfl)
  | push t req q ht _ => exact Or.inl (he.callMoves ht rfl rfl rfl rfl rfl rfl)
  | callerCompletes t id c s₁ r ht hc =>
      have ht₁ : s₁.callers[t]? = some (.completing id c) := by rw [hc.callers]; exact ht
      refine Or.inl (hc.engaged he rfl rfl ?_ (fun ho => Or.inr (.pump ?_))
        (fun ho => Or.inr (.reader ?_)) ?_)
      · rintro c' rfl ho
        exact .caller _ (self_mem_set _ ht₁) ho
      · rw [← hc.pump] at ho
        exact ho
      · rw [← hc.reader] at ho
        exact ho
      · -- call `t` itself, or one that stays where it is
        intro pc hm ho
        rw [← hc.callers] at hm
        by_cases hpc : pc = .completing id c
        · subst hpc
          exact Or.inl ho
        · exact Or.inr (.caller pc (mem_set_of_ne hm ht₁ hpc) ho)
  | resumeTest t ht _ => exact Or.inl (he.callMoves ht rfl rfl rfl rfl rfl rfl)
  | resumeReady t ht _ => exact Or.inl (Or.inr (.token Nat.one_pos))
  | timerExpires timer =>
      exact Or.inl (he.mono (fun hne => hne) rfl (fun ho => ho) (fun ho => ho) (fun _ hm _ => hm))

/-- Whatever commits the pump engages it: either it was committed before, or it just marked. -/
theorem Move.committed {s s' : ClientSteps} {a : ClientSteps.Action} (h : Move s a s')
    (hids : UsableIds s) (hc : Committed s') : Committed s ∨ Engaged s' := by
  -- the flag alone tells, unless the pump is between `AddPendingRequest` and lowering it
  have hflag : (∀ p, s'.pump ≠ .write p) → failing s'.pump = false → s'.rdy = s.rdy →
      Committed s := by
    intro hw hf hr
    rcases hc with hc | ⟨p, hp⟩ | hc
    · exact Or.inl (hr ▸ hc)
    · exact absurd hp (hw p)
    · exact absurd hc (by simp [hf])
  have hsame : s'.pump = s.pump → s'.rdy = s.rdy → Committed s := by
    intro hp hr
    unfold Committed at hc ⊢
    rwa [hp, hr] at hc
  cases h with
  | idle _ pc timer n _ hi _ =>
      refine Or.inl (hflag ?_ (failing_of_inert hi) rfl)
      rintro p rfl
      exact absurd hi (by simp [inert])
  | takeReady _ _ =>
      rcases hc with hc | ⟨p, hp⟩ | hc
      · exact absurd hc (by simp)
      · exact absurd hp (by simp)
      · exact absurd hc (by simp [failing])
  | mark _ p hpc =>
      refine Or.inr (Or.inl ?_)
      exact ClientState.addPendingRequest_ne (hids.held p (by rw [hpc]; rfl)) _
  | write p hpc => exact Or.inl (Or.inr (Or.inl ⟨p, hpc⟩))
  | writeFails text p hpc => exact Or.inl (Or.inr (Or.inl ⟨p, hpc⟩))
  | failed _ p text c s₁ r hpc _ => exact Or.inl (Or.inr (Or.inr (by rw [hpc]; rfl)))
  | reportFailed _ p text hpc => exact Or.inl (Or.inr (Or.inr (by rw [hpc]; rfl)))
  | timedOut _ p c s₁ r _ hcm =>
      refine Or.inl (hflag ?_ ?_ hcm.rdy)
      · intro q
        cases r <;> simp [pumpAfter]
      · cases r <;> rfl
  | reader id kind c s₁ r _ hcm => exact Or.inl (hsame hcm.pump hcm.rdy)
  | callerCompletes t id c s₁ r _ hcm => exact Or.inl (hsame hcm.pump hcm.rdy)
  | discard | accept | handler | call | caller | push | resumeTest | resumeReady | timerExpires =>
      exact Or.inl (hsame rfl rfl)
  | _ => exact Or.inl (hflag (by simp) rfl rfl)

/-! ## Why the pump waits -/

/-- What an operation of the pump leaves alone, and where it may go. -/
structure PumpTurn (s s' : ClientSteps) : Prop where
  callers : s'.callers = s.callers
  paused : s'.paused = s.paused
  request : s'.requestChannel = s.requestChannel
  queue : s'.requestQueue.elements ≠ [] → s.requestQueue.elements ≠ []
  /-- It selects again because it is paused, not ready, or has nothing to send. -/
  returns : s'.pump = .select →
    s.paused = true ∨ s.rdy = false ∨ s.requestQueue.elements = [] ∨ arming s.pump = true
  /-- It arms the timer only with its flag down. -/
  lowers : arming s'.pump = true → s'.rdy = false ∨ (arming s.pump = true ∧ s'.rdy = s.rdy)

/-- An operation that changes neither flag nor queue, and goes on to somewhere in between. -/
theorem PumpTurn.onward {s s' : ClientSteps} (hc : s'.callers = s.callers)
    (hp : s'.paused = s.paused) (hr : s'.requestChannel = s.requestChannel)
    (hq : s'.requestQueue.elements ≠ [] → s.requestQueue.elements ≠ [])
    (hsel : s'.pump ≠ .select) (ha : arming s'.pump = false) : PumpTurn s s' :=
  ⟨hc, hp, hr, hq, fun h => absurd h hsel, fun h => absurd h (by simp [ha])⟩

/-- The pump is back at its `select`. -/
theorem PumpTurn.back {s : ClientSteps} {timer : Timer}
    (h : s.paused = true ∨ s.rdy = false ∨ s.requestQueue.elements = [] ∨ arming s.pump = true) :
    PumpTurn s { s with timer := timer, pump := .select } :=
  ⟨rfl, rfl, rfl, id, fun _ => h, fun ha => absurd ha (by simp [arming])⟩

theorem CompleteMove.frame {s s₁ : ClientSteps} {id : String} {c : Completing}
    {r : Option Completing} (h : CompleteMove s id c s₁ r) :
    s₁.paused = s.paused ∧ s₁.requestChannel = s.requestChannel
      ∧ (s₁.requestQueue.elements ≠ [] → s.requestQueue.elements ≠ []) := by
  cases h with
  | pop =>
      refine ⟨rfl, rfl, fun hne he => hne ?_⟩
      simp [he]
  | _ => exact ⟨rfl, rfl, fun hne => hne⟩

/-- A `CompleteRequest` of the pump stays inside the iteration. -/
theorem CompleteMove.pumpTurn {s s₁ : ClientSteps} {id : String} {c : Completing}
    {r : Option Completing} {k : Completing → PumpPC} {done : PumpPC}
    (h : CompleteMove s id c s₁ r) (hk : ∀ c', k c' ≠ .select ∧ arming (k c') = false)
    (hdone : done ≠ .select ∧ arming done = false) :
    PumpTurn s { s₁ with pump := pumpAfter k done r } := by
  obtain ⟨hp, hr, hq⟩ := h.frame
  cases r with
  | none => exact .onward h.callers hp hr hq hdone.1 hdone.2
  | some c' => exact .onward h.callers hp hr hq (hk c').1 (hk c').2

theorem pumpStep_turn {s s' : ClientSteps} {write : Option String}
    (h : s.pumpStep write = some s') : PumpTurn s s' := by
  unfold ClientSteps.pumpStep at h
  split at h <;> rename_i hpc
  · exact absurd h (by simp)
  · -- `isPaused`
    split at h
    · rename_i hpaused
      cases h
      exact .back (Or.inl hpaused)
    · split at h
      · cases h
        exact .onward rfl rfl rfl id (by simp) rfl
      · rename_i hrdy
        cases h
        exact .back (Or.inr (Or.inl (by simpa using hrdy)))
  · -- `isEmpty`
    split at h
    · rename_i hempty
      cases h
      exact .back (Or.inr (Or.inr (Or.inl (by simpa using hempty))))
    · cases h
      exact .onward rfl rfl rfl id (by simp) rfl
  · -- `peek`
    split at h <;> cases h <;> exact .onward rfl rfl rfl id (by simp) rfl
  · cases h
    exact .onward rfl rfl rfl id (by simp) rfl
  · -- `write`: a successful one lowers the flag
    cases write with
    | none =>
        cases h
        exact ⟨rfl, rfl, rfl, id, fun hs => absurd hs (by simp), fun _ => Or.inl rfl⟩
    | some text =>
        cases h
        exact .onward rfl rfl rfl id (by simp) rfl
  · -- `failed`
    obtain ⟨⟨s₁, r⟩, hr, rfl⟩ := Option.map_eq_some_iff.mp h
    rename_i p text c
    have ht : PumpTurn s { s₁ with
        pump := pumpAfter (fun c' => .failed p text c') (.reportFailed p text) r } :=
      (complete_move hr).pumpTurn (fun _ => ⟨by simp, rfl⟩) ⟨by simp, rfl⟩
    cases r <;> exact ht
  · cases h
    exact ⟨rfl, rfl, rfl, id, fun hs => absurd hs (by simp), fun _ => Or.inl rfl⟩
  · -- `stopTimer`
    have harm : arming s.pump = true := by rw [hpc]; rfl
    split at h <;> cases h <;>
      exact ⟨rfl, rfl, rfl, id, fun hs => absurd hs (by simp), fun _ => Or.inr ⟨harm, rfl⟩⟩
  · -- `drainTimer`
    have harm : arming s.pump = true := by rw [hpc]; rfl
    split at h
    · cases h
      exact ⟨rfl, rfl, rfl, id, fun hs => absurd hs (by simp), fun _ => Or.inr ⟨harm, rfl⟩⟩
    · exact absurd h (by simp)
  · -- `resetTimer`
    cases h
    exact .back (Or.inr (Or.inr (Or.inr (by rw [hpc]; rfl))))
  · -- `hasPending`
    split at h <;> cases h <;> exact .onward rfl rfl rfl id (by simp) rfl
  · -- `peekTimeout`
    split at h <;> cases h <;> exact .onward rfl rfl rfl id (by simp) rfl
  · -- `timedOut`
    obtain ⟨⟨s₁, r⟩, hr, rfl⟩ := Option.map_eq_some_iff.mp h
    rename_i p c
    have ht : PumpTurn s { s₁ with
        pump := pumpAfter (fun c' => .timedOut p c') (.reportTimedOut p) r } :=
      (complete_move hr).pumpTurn (fun _ => ⟨by simp, rfl⟩) ⟨by simp, rfl⟩
    cases r <;> exact ht
  · cases h
    exact .onward rfl rfl rfl id (by simp) rfl
  · cases h
    exact .onward rfl rfl rfl id (by simp) rfl
  · exact absurd h (by simp)

/-- What an operation of a call does about the pump's reasons to wait. -/
structure CallTurn (s s' : ClientSteps) : Prop where
  pump : s'.pump = s.pump
  rdy : s'.rdy = s.rdy
  /-- A wake-up under way stays so, until the call has found the pump engaged. -/
  asked : Asked s → Asked s' ∨ Engaged s'
  /-- A pause ends by a `Resume` that is not done. -/
  resumed : s'.paused = false → s.paused = false ∨ Asked s'
  /-- The queue fills by a `SendRequest` that is not done. -/
  pushed : s'.requestQueue.elements ≠ [] → s.requestQueue.elements ≠ [] ∨ Asked s'

/-- Calls in other places keep what they had to say. -/
theorem Asked.set {s s' : ClientSteps} {t : Nat} {pc pc' : CallPC} (h : Asked s)
    (ht : s.callers[t]? = some pc) (hpc : asks pc = false)
    (hr : s'.requestChannel = s.requestChannel) (hc : s'.callers = s.callers.set t pc') :
    Asked s' := by
  cases h with
  | token h => exact .token (by rw [hr]; exact h)
  | caller pc₀ hm h =>
      refine .caller pc₀ ?_ h
      rw [hc]
      refine mem_set_of_ne hm ht ?_
      rintro rfl
      exact absurd h (by simp [hpc])

/-- A call that neither resumes nor pushes. -/
theorem CallTurn.aside {s s' : ClientSteps} {t : Nat} {pc pc' : CallPC}
    (ht : s.callers[t]? = some pc) (hpc : asks pc = false) (hp : s'.pump = s.pump)
    (hrdy : s'.rdy = s.rdy) (hr : s'.requestChannel = s.requestChannel)
    (hpause : s'.paused = s.paused ∨ s'.paused = true)
    (hq : s'.requestQueue.elements ≠ [] → s.requestQueue.elements ≠ [])
    (hc : s'.callers = s.callers.set t pc') : CallTurn s s' where
  pump := hp
  rdy := hrdy
  asked := fun h => Or.inl (h.set ht hpc hr hc)
  resumed := by
    intro hf
    rcases hpause with he | he
    · exact Or.inl (he ▸ hf)
    · exact absurd hf (by simp [he])
  pushed := fun h => Or.inl (hq h)

/-- A call that has just let a reason lapse. -/
theorem CallTurn.asking {s s' : ClientSteps} {t : Nat} {pc pc' : CallPC}
    (ht : s.callers[t]? = some pc) (hpc : asks pc' = true) (hp : s'.pump = s.pump)
    (hrdy : s'.rdy = s.rdy) (hc : s'.callers = s.callers.set t pc') : CallTurn s s' := by
  have hnew : Asked s' := .caller pc' (by rw [hc]; exact self_mem_set pc' ht) hpc
  exact ⟨hp, hrdy, fun _ => Or.inl hnew, fun _ => Or.inr hnew, fun _ => Or.inr hnew⟩

theorem callerStep_turn {s s' : ClientSteps} {t : Nat} {pc : CallPC}
    (ht : s.callers[t]? = some pc) (h : s.callerStep t pc = some s') : CallTurn s s' := by
  unfold ClientSteps.callerStep at h
  split at h
  · exact absurd h (by simp)
  · exact absurd h (by simp)
  · -- `push`
    split at h
    · cases h
      exact .aside ht rfl rfl rfl rfl (Or.inl rfl) id rfl
    · cases h
      exact .asking ht rfl rfl rfl rfl
  · -- `signal`
    split at h
    · cases h
      exact ⟨rfl, rfl, fun _ => Or.inl (.token (Nat.succ_pos _)), fun hp => Or.inl hp,
        fun hq => Or.inl hq⟩
    · exact absurd h (by simp)
  · -- `completing`
    obtain ⟨⟨s₁, r⟩, hr, rfl⟩ := Option.map_eq_some_iff.mp h
    have hm := complete_move hr
    obtain ⟨hp, hch, hq⟩ := hm.frame
    have hcal := hm.callers
    cases r with
    | none =>
        exact .aside ht rfl hm.pump hm.rdy hch (Or.inl hp) hq
          (by show s₁.callers.set t _ = _; rw [hcal])
    | some c' =>
        exact .aside ht rfl hm.pump hm.rdy hch (Or.inl hp) hq
          (by show s₁.callers.set t _ = _; rw [hcal])
  · split at h <;> cases h <;> exact .aside ht rfl rfl rfl rfl (Or.inl rfl) id rfl
  · split at h
    · cases h
      exact .aside ht rfl rfl rfl rfl (Or.inl rfl) id rfl
    · exact absurd h (by simp)
  · cases h
    exact .aside ht rfl rfl rfl rfl (Or.inl rfl) id rfl
  · -- `pauseSet`
    cases h
    exact .aside ht rfl rfl rfl rfl (Or.inr rfl) id rfl
  · -- `resumeSet`: the flag is down before the pump is told
    cases h
    exact .asking ht rfl rfl rfl rfl
  · -- `resumeTest`: something is pending, or a ready token follows
    split at h
    · rename_i hpend
      cases h
      exact ⟨rfl, rfl, fun _ => Or.inr (Or.inl (ClientState.hasPendingRequest_iff.mp hpend)),
        fun hp => Or.inl hp, fun hq => Or.inl hq⟩
    · cases h
      exact ⟨rfl, rfl,
        fun _ => Or.inr (Or.inr (.caller .resumeReady (self_mem_set .resumeReady ht) rfl)),
        fun hp => Or.inl hp, fun hq => Or.inl hq⟩
  · cases h
    exact .aside ht rfl rfl rfl rfl (Or.inl rfl) id rfl
  · split at h
    · cases h
      exact .aside ht rfl rfl rfl rfl (Or.inl rfl) id rfl
    · exact absurd h (by simp)

/-- A step of the reader, a new call or a deadline: nothing the pump waits for. -/
structure Aside (s s' : ClientSteps) : Prop where
  pump : s'.pump = s.pump
  rdy : s'.rdy = s.rdy
  paused : s'.paused = s.paused
  request : s'.requestChannel = s.requestChannel
  callers : ∀ pc ∈ s.callers, pc ∈ s'.callers
  queue : s'.requestQueue.elements ≠ [] → s.requestQueue.elements ≠ []

theorem Aside.asked {s s' : ClientSteps} (h : Aside s s') (ha : Asked s) : Asked s' := by
  cases ha with
  | token ht => exact .token (by rw [h.request]; exact ht)
  | caller pc hm ho => exact .caller pc (h.callers pc hm) ho

theorem receive_aside {s s' : ClientSteps} {id : String} {kind : Reply}
    (h : s.receive id kind = some s') : Aside s s' := by
  unfold ClientSteps.receive at h
  split at h
  · split at h
    · split at h <;> cases h <;> exact ⟨rfl, rfl, rfl, rfl, fun _ hm => hm, fun hq => hq⟩
    · exact absurd h (by simp)
  · exact absurd h (by simp)

theorem readerStep_aside {s s' : ClientSteps} (h : s.readerStep = some s') : Aside s s' := by
  unfold ClientSteps.readerStep at h
  split at h
  · exact absurd h (by simp)
  · obtain ⟨⟨s₁, r⟩, hr, rfl⟩ := Option.map_eq_some_iff.mp h
    have hm := complete_move hr
    obtain ⟨hp, hch, hq⟩ := hm.frame
    have hc : ∀ pc ∈ s.callers, pc ∈ s₁.callers := fun pc hm' => by rw [hm.callers]; exact hm'
    cases r <;> exact ⟨hm.pump, hm.rdy, hp, hch, hc, hq⟩
  · cases h
    exact ⟨rfl, rfl, rfl, rfl, fun _ hm => hm, fun hq => hq⟩

/-- The pump leaves its `select` with whatever it read. -/
theorem select_leaves {s s' : ClientSteps} {sel : ClientDispatcher.Select}
    (h : s.select sel = some s') : s'.pump = .isPaused ∨ s'.pump = .hasPending := by
  unfold ClientSteps.select at h
  split at h
  · split at h
    · cases h; exact Or.inl rfl
    · exact absurd h (by simp)
  · split at h
    · cases h; exact Or.inr rfl
    · exact absurd h (by simp)
  · split at h
    · cases h; exact Or.inl rfl
    · exact absurd h (by simp)
  · exact absurd h (by simp)

/-! ## The invariant -/

/-- Why a waiting pump will be woken when there is something to send. -/
structure Wakeful (s : ClientSteps) : Prop where
  /-- A pump that is not ready waits for a reply or a token. -/
  owed : Committed s → Engaged s
  /-- One that could send something has been asked to, or is engaged. -/
  asked : s.pump = .select → s.paused = false → s.requestQueue.elements ≠ [] →
    Engaged s ∨ Asked s
  /-- The flag is down while the timer is armed. -/
  lowered : arming s.pump = true → s.rdy = false

theorem wakeful_start (n : Nat) (timeout : Int) : Wakeful (ClientSteps.start n timeout) where
  owed := by
    rintro (h | ⟨p, h⟩ | h)
    · exact absurd h (by simp [ClientSteps.start])
    · exact absurd h (by simp [ClientSteps.start])
    · exact absurd h (by simp [ClientSteps.start, failing])
  asked := fun _ _ h => absurd rfl h
  lowered := fun h => absurd h (by simp [ClientSteps.start, arming])

/-- Engagement carries over to a pump that did not take a ready token. -/
theorem Wakeful.engaged_of_committed {s s' : ClientSteps} {a : ClientSteps.Action}
    (h : Wakeful s) (hm : Move s a s') (hc : Committed s) (hp : s'.pump = .select) :
    Engaged s' := by
  rcases hm.engaged (h.owed hc) with he | ⟨hpc, _⟩
  · exact he
  · rw [hp] at hpc
    exact absurd hpc (by simp)

theorem wakeful_owed {s s' : ClientSteps} {a : ClientSteps.Action} (h : Wakeful s)
    (hids : UsableIds s) (hm : Move s a s') (hc : Committed s') : Engaged s' := by
  rcases hm.committed hids hc with hc' | he
  · rcases hm.engaged (h.owed hc') with he | ⟨hpc, hrdy⟩
    · exact he
    · -- the pump that raised its flag is not committed
      rcases hc with hc | ⟨p, hp⟩ | hc
      · exact absurd hc (by simp [hrdy])
      · exact absurd hp (by simp [hpc])
      · exact absurd hc (by simp [hpc, failing])
  · exact he

/-- The pump comes back to its `select`. -/
theorem PumpTurn.asked {s s' : ClientSteps} {a : ClientSteps.Action} (ht : PumpTurn s s')
    (h : Wakeful s) (hm : Move s a s') (hp : s'.pump = .select) (hpaused : s'.paused = false)
    (hq : s'.requestQueue.elements ≠ []) : Engaged s' := by
  rcases ht.returns hp with hr | hr | hr | hr
  · rw [ht.paused, hr] at hpaused
    exact absurd hpaused (by simp)
  · exact h.engaged_of_committed hm (Or.inl hr) hp
  · exact absurd hr (ht.queue hq)
  · exact h.engaged_of_committed hm (Or.inl (h.lowered hr)) hp

/-- Somebody else moves while the pump waits. -/
theorem Wakeful.othersMove {s s' : ClientSteps} {a : ClientSteps.Action} (h : Wakeful s)
    (hm : Move s a s') (hpump : s'.pump = s.pump)
    (hask : Asked s → Asked s' ∨ Engaged s')
    (hpaused : s'.paused = false → s.paused = false ∨ Asked s')
    (hqueue : s'.requestQueue.elements ≠ [] → s.requestQueue.elements ≠ [] ∨ Asked s')
    (hp : s'.pump = .select) (hf : s'.paused = false) (hq : s'.requestQueue.elements ≠ []) :
    Engaged s' ∨ Asked s' := by
  rcases hpaused hf with hf' | ha
  · rcases hqueue hq with hq' | ha
    · rcases h.asked (hpump ▸ hp) hf' hq' with he | ha
      · rcases hm.engaged he with he | ⟨hpc, _⟩
        · exact Or.inl he
        · rw [hp] at hpc
          exact absurd hpc (by simp)
      · rcases hask ha with ha | he
        · exact Or.inr ha
        · exact Or.inl he
    · exact Or.inr ha
  · exact Or.inr ha

theorem wakeful_aside {s s' : ClientSteps} {a : ClientSteps.Action} (h : Wakeful s)
    (hids : UsableIds s) (hm : Move s a s') (ha : Aside s s') : Wakeful s' where
  owed := wakeful_owed h hids hm
  asked := h.othersMove hm ha.pump (fun hask => Or.inl (ha.asked hask))
    (fun hf => Or.inl (ha.paused ▸ hf)) (fun hq => Or.inl (ha.queue hq))
  lowered := by rw [ha.pump, ha.rdy]; exact h.lowered

/-- **Preserved by every step.** -/
theorem wakeful_step {s s' : ClientSteps} {a : ClientSteps.Action} (h : Wakeful s)
    (hids : UsableIds s) (hact : s.act a = some s') : Wakeful s' := by
  have hm := (act_move hact).2
  unfold ClientSteps.act at hact
  split at hact
  · exact absurd hact (by simp)
  · cases a with
    | select sel =>
        -- having read something, the pump is neither waiting nor arming its timer
        rcases select_leaves hact with hpc | hpc
        · exact ⟨wakeful_owed h hids hm, fun hp => absurd hp (by simp [hpc]),
            fun harm => absurd harm (by simp [hpc, arming])⟩
        · exact ⟨wakeful_owed h hids hm, fun hp => absurd hp (by simp [hpc]),
            fun harm => absurd harm (by simp [hpc, arming])⟩
    | pump write =>
        have ht := pumpStep_turn hact
        refine ⟨wakeful_owed h hids hm, fun hp hf hq => Or.inl (ht.asked h hm hp hf hq), ?_⟩
        intro harm
        rcases ht.lowers harm with hr | ⟨harm', hr⟩
        · exact hr
        · rw [hr]
          exact h.lowered harm'
    | receive id kind => exact wakeful_aside h hids hm (receive_aside hact)
    | reader => exact wakeful_aside h hids hm (readerStep_aside hact)
    | call op =>
        cases hact
        exact wakeful_aside h hids hm
          ⟨rfl, rfl, rfl, rfl, fun _ hc => List.mem_append_left _ hc, fun hq => hq⟩
    | caller t =>
        obtain ⟨pc, ht, hs⟩ := Option.bind_eq_some_iff.mp hact
        have hc := callerStep_turn ht hs
        refine ⟨wakeful_owed h hids hm,
          h.othersMove hm hc.pump hc.asked hc.resumed hc.pushed, ?_⟩
        rw [hc.pump, hc.rdy]
        exact h.lowered
    | timerExpires =>
        obtain ⟨timer, _, rfl⟩ := Option.map_eq_some_iff.mp hact
        exact wakeful_aside h hids hm ⟨rfl, rfl, rfl, rfl, fun _ hc => hc, fun hq => hq⟩

/-- Requests are made under usable ids. -/
def UsableCall (_ : ClientSteps) : ClientSteps.Action → Prop
  | .call (.sendRequest req) => req.call.uniqueId ≠ ""
  | _ => True

instance (s : ClientSteps) : ∀ a, Decidable (UsableCall s a)
  | .call (.sendRequest req) => inferInstanceAs (Decidable (req.call.uniqueId ≠ ""))
  | .call (.completeRequest _) | .call .pause | .call .resume => .isTrue trivial
  | .select _ | .pump _ | .receive _ _ | .reader | .caller _ | .timerExpires => .isTrue trivial

theorem wakeful_reachable {n : Nat} {timeout : Int} {s : ClientSteps}
    (h : ReachableWhile (ClientSteps.machine n timeout) UsableCall s) :
    UsableIds s ∧ Wakeful s := by
  refine ReachableWhile.invariant (P := fun s => UsableIds s ∧ Wakeful s) ?_ ?_ h
  · intro s hs
    rw [show s = ClientSteps.start n timeout from hs]
    exact ⟨usableIds_start n timeout, wakeful_start n timeout⟩
  · intro s a s' _ ⟨hids, hw⟩ hok hact
    have hm := (act_move hact).2
    refine ⟨usableIds_step hids ?_ hm, wakeful_step hw hids hact⟩
    rintro req rfl
    exact hok

/-- Inside a `SendRequest`, a `CompleteRequest` or a `Resume`. -/
def underWay : CallPC → Bool
  | .push _ | .signal | .completing _ _
  | .resumeSet | .resumeTest | .resumeReset | .resumeReady => true
  | .returned | .refused | .pauseStop | .pauseDrain | .pauseReset | .pauseSet => false

/-- The pump waits on empty channels, and nobody is about to send on one. -/
structure Asleep (s : ClientSteps) : Prop where
  pump : s.pump = .select
  requestChannel : s.requestChannel = 0
  readyForDispatch : s.readyForDispatch = 0
  /-- No `CompleteRequest` of the reader is in progress. -/
  reader : ∀ id kind c, s.reader ≠ .completing id kind c
  /-- Nor any call but a `Pause`. -/
  callers : ∀ pc ∈ s.callers, underWay pc = false

/-- Nobody owes a sleeping pump a token. -/
theorem Asleep.not_due {s : ClientSteps} (h : Asleep s) : ¬ Due s := by
  intro hd
  cases hd with
  | token ht =>
      have := h.readyForDispatch
      omega
  | pump ho =>
      rw [h.pump] at ho
      exact absurd ho (by simp [pumpOwes])
  | reader ho =>
      cases hr : s.reader with
      | completing id kind c => exact h.reader id kind c hr
      | idle => rw [hr] at ho; exact absurd ho (by simp [readerOwes])
      | handler id kind => rw [hr] at ho; exact absurd ho (by simp [readerOwes])
  | caller pc hm ho =>
      have := h.callers pc hm
      cases pc <;> simp_all [underWay, callOwes]

theorem Asleep.not_asked {s : ClientSteps} (h : Asleep s) : ¬ Asked s := by
  intro ha
  cases ha with
  | token ht =>
      have := h.requestChannel
      omega
  | caller pc hm ho =>
      have := h.callers pc hm
      cases pc <;> simp_all [underWay, asks]

/-- While the pump sleeps, unpaused and with nothing pending, nothing is queued. -/
theorem Asleep.queue_nil {s : ClientSteps} (h : Asleep s) (hw : Wakeful s)
    (hpaused : s.paused = false) (hfree : s.pendingRequestState.hasPendingRequest = false) :
    s.requestQueue.elements = [] := by
  by_contra hne
  rcases hw.asked h.pump hpaused hne with (hslot | hd) | ha
  · rw [ClientState.hasPendingRequest_iff.mpr hslot] at hfree
    exact absurd hfree (by simp)
  · exact h.not_due hd
  · exact h.not_asked ha

/--
**No wake-up is lost.** Between `Start` and `Stop`, with usable request ids, there
is no reachable state in which the pump waits at its `select` with both token
channels empty, no `SendRequest`, `CompleteRequest` or `Resume` is in progress,
the dispatcher is not paused, nothing is pending, and a request is queued.
-/
theorem client_no_lost_wakeup {n : Nat} {timeout : Int} {s : ClientSteps}
    (h : ReachableWhile (ClientSteps.machine n timeout) UsableCall s) :
    ¬ (Asleep s ∧ s.paused = false ∧ s.pendingRequestState.hasPendingRequest = false
        ∧ s.requestQueue.isEmpty = false) := by
  rintro ⟨hsleep, hpaused, hfree, hqueue⟩
  have hnil := hsleep.queue_nil (wakeful_reachable h).2 hpaused hfree
  rw [FIFOClientQueue.isEmpty_eq, hnil] at hqueue
  exact absurd hqueue (by simp)

/--
A request sent during a pause: the pump reads its token and drops it, so after
`Resume` it waits with the request channel empty. It is not asleep all the same.
-/
theorem client_no_lost_wakeup_resumed :
    ∃ s, (ClientSteps.machine 0 30).runWhile (fun s a => decide (UsableCall s a)) (.start 0 30)
        (pausing 0 ++ sending 1 "1" ++ [.select .request, .pump none] ++ resuming 2) = some s
      ∧ (s.pump = .select ∧ s.requestChannel = 0 ∧ s.paused = false
        ∧ s.pendingRequestState.hasPendingRequest = false ∧ s.requestQueue.isEmpty = false)
      ∧ ¬ Asleep s := by
  have hrun : ∃ s, (ClientSteps.machine 0 30).runWhile (fun s a => decide (UsableCall s a))
        (.start 0 30)
        (pausing 0 ++ sending 1 "1" ++ [.select .request, .pump none] ++ resuming 2) = some s
      ∧ (s.pump = .select ∧ s.requestChannel = 0 ∧ s.paused = false
        ∧ s.pendingRequestState.hasPendingRequest = false
        ∧ s.requestQueue.isEmpty = false) := ⟨_, rfl, rfl, rfl, rfl, rfl, rfl⟩
  obtain ⟨s, hs, hstate⟩ := hrun
  have hr : ReachableWhile (ClientSteps.machine 0 30) UsableCall s :=
    ReachableWhile.runWhile (fun _ _ hc => of_decide_eq_true hc) (.init rfl) _ hs
  refine ⟨s, hs, hstate, fun hsleep => client_no_lost_wakeup hr ⟨hsleep, ?_⟩⟩
  exact hstate.2.2

end OcppGo.Proof
