import OcppGo.Ocppj.ServerLocks
import OcppGo.Proof.ServerStepMoves

/-!
# The server's pump and the senders that hold its lock

A sender waits for room in a channel that only the pump drains, and keeps the read
lock meanwhile. The pump asks for the write lock at every operation of the pending
state. When both happen at once each waits for the other: 21 `SendRequest` calls,
while the pump is before `AddPendingRequest`, stop the dispatcher for ever.

They cannot meet as long as there is room for everyone inside. The senders under
the read lock are counted for each channel, and with the ids already in the
channel they have to fit its capacity whenever the pump is at such an operation.
-/

namespace OcppGo.Proof

open OcppGo.Lib OcppGo.Ocppj

/-- The goroutine is about to send on this channel. -/
def aims (s : ServerSteps) (ch : ServerChannel) : ServerGoroutine → Bool
  | .call t => decide ((s.calls[t]?).bind ServerCall.target = some ch)
  | _ => false

/-- How many goroutines with the read lock are about to send on this channel. -/
def inside (l : ServerLocks) (ch : ServerChannel) : Nat :=
  l.mutex.readers.countP (aims l.steps ch)

/-- Everyone who holds the read lock will find room. -/
def RoomForAll (l : ServerLocks) : Prop :=
  ∀ ch : ServerChannel, (l.steps.channel ch).length + inside l ch ≤ ch.capacity

/-- The step takes the pump to an operation of the pending state. -/
def entersLock (s : ServerSteps) : ServerSteps.Action → Bool
  | .select (.timer _) => true
  | .pump _ =>
      match s.pump with
      | .dispatchPeek _ _ | .timedOut _ _ (.pop _) | .failed _ _ _ (.pop _) => true
      | _ => false
  | _ => false

/--
The pump goes to an operation of the pending state only while there is room for
everyone who holds the read lock, and as long as it is there a sender takes the
read lock only if there is room for one more.
-/
def SendersFit (l : ServerLocks) : ServerLocks.Action → Prop
  | .rlock g =>
      l.steps.pump.needsLock = true →
        ∀ ch : ServerChannel, aims l.steps ch g = true →
          (l.steps.channel ch).length + inside l ch < ch.capacity
  | .lock _ => True
  | .step a => entersLock l.steps a = true → RoomForAll l

instance (P : ServerChannel → Prop) [DecidablePred P] : Decidable (∀ ch, P ch) :=
  decidable_of_iff (P .requestChannel ∧ P .timerC)
    ⟨fun h ch => match ch with
      | .requestChannel => h.1
      | .timerC => h.2,
    fun h => ⟨h _, h _⟩⟩

instance (l : ServerLocks) : Decidable (RoomForAll l) :=
  inferInstanceAs (Decidable
    (∀ ch : ServerChannel, (l.steps.channel ch).length + inside l ch ≤ ch.capacity))

instance (l : ServerLocks) : ∀ a, Decidable (SendersFit l a)
  | .rlock g => inferInstanceAs (Decidable (l.steps.pump.needsLock = true →
      ∀ ch : ServerChannel, aims l.steps ch g = true →
        (l.steps.channel ch).length + inside l ch < ch.capacity))
  | .lock _ => .isTrue trivial
  | .step a => inferInstanceAs (Decidable (entersLock l.steps a = true → RoomForAll l))

/-! ## What a step does to the channels -/

/-- Calls that are about to send stay where they are. -/
def SendersKept (s s' : ServerSteps) : Prop :=
  ∀ (t : Nat) (pc : ServerCall), s.calls[t]? = some pc → pc.target ≠ none →
    s'.calls[t]? = some pc

/-- A step of the dispatcher, as far as the channels and the lock are concerned. -/
inductive Traffic (s : ServerSteps) : ServerSteps.Action → ServerSteps → Prop where
  /-- A call moves, and adds to the channel it was about to send on. -/
  | call (t : Nat) (pc pc' : ServerCall) (s' : ServerSteps) : s.calls[t]? = some pc →
      s'.calls = s.calls.set t pc' → s'.pump = s.pump →
      (∀ ch, (s'.channel ch).length
        = (s.channel ch).length + if pc.target = some ch then 1 else 0) →
      Traffic s (.call t) s'
  | other (a : ServerSteps.Action) (s' : ServerSteps) : (∀ t, a ≠ .call t) →
      (∀ ch, (s'.channel ch).length ≤ (s.channel ch).length) → SendersKept s s' →
      (s'.pump.needsLock = true → s.pump.needsLock = true ∨ entersLock s a = true) →
      Traffic s a s'

section Steps

variable {s s' s₁ : ServerSteps}

theorem SendersKept.of_eq (h : s'.calls = s.calls) : SendersKept s s' := by
  intro t pc ht _
  rw [h]
  exact ht

theorem SendersKept.append {pc : ServerCall} (h : s'.calls = s.calls ++ [pc]) :
    SendersKept s s' := by
  intro t x ht _
  rw [h, List.getElem?_append_left (List.getElem?_eq_some_iff.mp ht).1]
  exact ht

/-- Only a goroutine that waits for its deadline is ended by a cancellation. -/
theorem cancelWaiting_senders (s : ServerSteps) (t : Nat) : SendersKept s (s.cancelWaiting t) := by
  intro u x hu hx
  unfold ServerSteps.cancelWaiting
  split
  · rename_i c ht
    have hut : u ≠ t := by
      rintro rfl
      rw [ht] at hu
      cases hu
      exact hx rfl
    dsimp only [ServerSteps.setCall]
    rw [List.getElem?_set_ne (fun e => hut e.symm)]
    exact hu
  · exact hu

theorem cancelContext_senders (s : ServerSteps) (c : String) :
    SendersKept s (s.cancelContext c) := by
  unfold ServerSteps.cancelContext
  split
  · exact .of_eq rfl
  · exact cancelWaiting_senders s _

theorem dropContext_senders (s : ServerSteps) (c : String) : SendersKept s (s.dropContext c) := by
  unfold ServerSteps.dropContext
  split
  · exact .of_eq rfl
  · exact cancelWaiting_senders s _

/-- The pump moves without taking anything from a channel. -/
theorem Traffic.pumpMoves {write : Option String} (hr : s'.requestChannel = s.requestChannel)
    (ht : s'.timerC = s.timerC) (hk : SendersKept s s')
    (hpc : s'.pump.needsLock = true → entersLock s (.pump write) = true) :
    Traffic s (.pump write) s' := by
  refine .other _ s' (by simp) (fun ch => ?_) hk (fun h => Or.inr (hpc h))
  cases ch with
  | requestChannel => exact le_of_eq (congrArg List.length hr)
  | timerC => exact le_of_eq (congrArg List.length ht)

/-- The same, to where it needs no lock. -/
theorem Traffic.onward {write : Option String} (hr : s'.requestChannel = s.requestChannel)
    (ht : s'.timerC = s.timerC) (hk : SendersKept s s') (hpc : s'.pump.needsLock = false) :
    Traffic s (.pump write) s' :=
  .pumpMoves hr ht hk (fun hlock => absurd (hpc.symm.trans hlock) (by simp))

/-- The slot is emptied after a `Pop`. -/
theorem StepCompletes.delete_next {c id : String} {k : ServerCompleting}
    (hc : StepCompletes s c id k s₁ (some .delete)) : ∃ r, k = .pop r := by
  cases hc with
  | pop r => exact ⟨r, rfl⟩

/-- In a `CompleteRequest` of its own the pump needs the lock after the `Pop`. -/
theorem pumpComplete_traffic {write : Option String} {c id : String} {k : ServerCompleting}
    {next : ServerCompleting → ServerPumpPC} {done : ServerPumpPC}
    (hdone : done.needsLock = false) (hnext : ∀ k', (next k').needsLock = true → k' = .delete)
    (hpop : ∀ r, k = .pop r → entersLock s (.pump write) = true)
    (h : s.pumpComplete c id k next done = some s') : Traffic s (.pump write) s' := by
  obtain ⟨⟨s₁, o⟩, ho, rfl⟩ := Option.map_eq_some_iff.mp h
  have hc := complete_stepMove ho
  cases o with
  | none => exact .onward hc.requestChannel hc.timerC (.of_eq hc.calls) hdone
  | some k' =>
      refine .pumpMoves hc.requestChannel hc.timerC (.of_eq hc.calls) (fun hlock => ?_)
      have hk' := hnext k' hlock
      subst hk'
      obtain ⟨r, hk⟩ := hc.delete_next
      exact hpop r hk

theorem pumpStep_traffic {write : Option String} (h : s.pumpStep write = some s') :
    Traffic s (.pump write) s' := by
  unfold ServerSteps.pumpStep at h
  split at h
  · cases h
    exact .onward rfl rfl (.of_eq rfl) rfl
  · exact absurd h (by simp)
  · rename_i c hpc
    split at h
    · cases h
      obtain ⟨calls, contexts, hs, _⟩ := dropContext_ended s c
      have hk := dropContext_senders s c
      rw [hs] at hk ⊢
      exact .onward rfl rfl hk rfl
    · cases h
      exact .onward rfl rfl (.of_eq rfl) rfl
  · split at h
    · cases h
      exact .onward rfl rfl (.of_eq rfl) rfl
    · cases h
      exact .onward rfl rfl (.of_eq rfl) rfl
  · split at h
    · cases h
      exact .onward rfl rfl (.of_eq rfl) rfl
    · cases h
      exact .onward rfl rfl (.of_eq rfl) rfl
  · split at h
    · cases h
      exact .onward rfl rfl (.of_eq rfl) rfl
    · cases h
      exact .onward rfl rfl (.of_eq rfl) rfl
  · rename_i c p k hpc
    refine pumpComplete_traffic rfl (fun k' hlock => ?_) (fun r hk => ?_) h
    · cases k' <;> first | rfl | exact absurd hlock (by simp [ServerPumpPC.needsLock])
    · rw [entersLock, hpc, hk]
  · cases h
    exact .onward rfl rfl (.of_eq rfl) rfl
  · cases h
    exact .onward rfl rfl (.of_eq rfl) rfl
  · split at h
    · cases h
      exact .onward rfl rfl (.of_eq rfl) rfl
    · cases h
      exact .onward rfl rfl (.of_eq rfl) rfl
  · split at h
    · cases h
      exact .onward rfl rfl (.of_eq rfl) rfl
    · cases h
      exact .onward rfl rfl (.of_eq rfl) rfl
  · rename_i c r hpc
    split at h
    · cases h
      exact .onward rfl rfl (.of_eq rfl) rfl
    · cases h
      exact .pumpMoves rfl rfl (.of_eq rfl) (fun _ => by rw [entersLock, hpc])
  · cases h
    exact .onward rfl rfl (.of_eq rfl) rfl
  · rename_i c p hpc
    cases write with
    | none =>
        cases h
        unfold ServerSteps.written
        dsimp only
        split
        · exact .onward rfl rfl (.append rfl) rfl
        · exact .onward rfl rfl (.of_eq rfl) rfl
    | some text =>
        cases h
        exact .onward rfl rfl (.of_eq rfl) rfl
  · rename_i c p text k hpc
    refine pumpComplete_traffic rfl (fun k' hlock => ?_) (fun r hk => ?_) h
    · cases k' <;> first | rfl | exact absurd hlock (by simp [ServerPumpPC.needsLock])
    · rw [entersLock, hpc, hk]
  · cases h
    exact .onward rfl rfl (.of_eq rfl) rfl
  · exact absurd h (by simp)

theorem select_traffic {sel : ServerSelect} (h : s.select sel = some s') :
    Traffic s (.select sel) s' := by
  unfold ServerSteps.select at h
  split at h
  · split at h
    · cases h
      refine .other _ _ (by simp) (fun ch => ?_) (.of_eq rfl) (by simp [ServerPumpPC.needsLock])
      cases ch with
      | requestChannel => exact le_trans (le_of_eq List.length_tail) (Nat.sub_le _ _)
      | timerC => exact le_refl _
    · exact absurd h (by simp)
  · rename_i c _
    split at h
    · cases h
      obtain ⟨calls, contexts, hs, _⟩ := cancelContext_ended s c
      have hk := cancelContext_senders s c
      rw [hs] at hk ⊢
      refine .other _ _ (by simp) (fun ch => ?_) hk (fun _ => Or.inr rfl)
      cases ch with
      | requestChannel => exact le_refl _
      | timerC => exact le_trans (le_of_eq List.length_tail) (Nat.sub_le _ _)
    · exact absurd h (by simp)
  · rename_i c _
    split at h
    · cases h
      obtain ⟨calls, contexts, hs, _⟩ := cancelContext_ended s c
      have hk := cancelContext_senders s c
      rw [hs] at hk ⊢
      refine .other _ _ (by simp) (fun ch => ?_) hk (by simp [ServerPumpPC.needsLock])
      cases ch <;> exact le_refl _
    · exact absurd h (by simp)
  · exact absurd h (by simp)

/-- A call moves without touching the channels. -/
theorem Traffic.callMoves {t : Nat} {pc pc' : ServerCall} (ht : s.calls[t]? = some pc)
    (hpc : pc.target = none) (hcalls : s'.calls = s.calls.set t pc') (hpump : s'.pump = s.pump)
    (hr : s'.requestChannel = s.requestChannel) (htimer : s'.timerC = s.timerC) :
    Traffic s (.call t) s' := by
  refine .call t pc pc' s' ht hcalls hpump (fun ch => ?_)
  rw [hpc, if_neg (by simp), Nat.add_zero]
  cases ch with
  | requestChannel => exact congrArg List.length hr
  | timerC => exact congrArg List.length htimer

theorem callStep_traffic {t : Nat} {pc : ServerCall} (ht : s.calls[t]? = some pc)
    (h : s.callStep t pc = some s') : Traffic s (.call t) s' := by
  unfold ServerSteps.callStep at h
  split at h
  · exact absurd h (by simp)
  · exact absurd h (by simp)
  · split at h
    · cases h
      exact .callMoves ht rfl rfl rfl rfl rfl
    · cases h
      exact .callMoves ht rfl rfl rfl rfl rfl
  · split at h
    · cases h
      exact .callMoves ht rfl rfl rfl rfl rfl
    · cases h
      exact .callMoves ht rfl rfl rfl rfl rfl
  · split at h
    · cases h
      refine .call t _ _ _ ht rfl rfl (fun ch => ?_)
      cases ch <;> simp [ServerSteps.channel, ServerSteps.setCall, ServerCall.target]
    · exact absurd h (by simp)
  · obtain ⟨⟨s₁, o⟩, ho, rfl⟩ := Option.map_eq_some_iff.mp h
    have hc := complete_stepMove ho
    have hset : ∀ pc', s₁.calls.set t pc' = s.calls.set t pc' := fun _ => by rw [hc.calls]
    cases o with
    | none => exact .callMoves ht rfl (hset _) hc.pump hc.requestChannel hc.timerC
    | some k' => exact .callMoves ht rfl (hset _) hc.pump hc.requestChannel hc.timerC
  · cases h
    exact .callMoves ht rfl rfl rfl rfl rfl
  · cases h
    exact .callMoves ht rfl rfl rfl rfl rfl
  · split at h
    · cases h
      refine .call t _ _ _ ht rfl rfl (fun ch => ?_)
      cases ch <;> simp [ServerSteps.channel, ServerSteps.setCall, ServerCall.target]
    · exact absurd h (by simp)
  · cases h
    exact .callMoves ht rfl rfl rfl rfl rfl
  · cases h
    exact .callMoves ht rfl rfl rfl rfl rfl
  · split at h
    · cases h
      refine .call t _ _ _ ht rfl rfl (fun ch => ?_)
      cases ch <;> simp [ServerSteps.channel, ServerSteps.setCall, ServerCall.target]
    · exact absurd h (by simp)

/-- **Only senders add to the channels.** -/
theorem act_traffic {a : ServerSteps.Action} (h : s.act a = some s') : Traffic s a s' := by
  have hquiet : ∀ a s', (∀ t, a ≠ ServerSteps.Action.call t) → s'.pump = s.pump →
      s'.requestChannel = s.requestChannel → s'.timerC = s.timerC → SendersKept s s' →
      Traffic s a s' := by
    intro a s' ha hpump hr htimer hk
    refine .other a s' ha (fun ch => ?_) hk (fun hl => Or.inl (hpump ▸ hl))
    cases ch with
    | requestChannel => exact le_of_eq (congrArg List.length hr)
    | timerC => exact le_of_eq (congrArg List.length htimer)
  unfold ServerSteps.act at h
  split at h
  · exact absurd h (by simp)
  · cases a with
    | select sel => exact select_traffic h
    | pump write => exact pumpStep_traffic h
    | call t =>
        obtain ⟨pc, ht, hs⟩ := Option.bind_eq_some_iff.mp h
        exact callStep_traffic ht hs
    | start op => cases h; exact hquiet _ _ (by simp) rfl rfl rfl (.append rfl)
    | createClient c => cases h; exact hquiet _ _ (by simp) rfl rfl rfl (.of_eq rfl)
    | getClientState c => cases h; exact hquiet _ _ (by simp) rfl rfl rfl (.of_eq rfl)

end Steps

/-! ## The senders inside -/

/-- What keeps the pump and the senders apart. -/
structure SendersInside (l : ServerLocks) : Prop where
  /-- Whoever has the read lock is at a send. -/
  sending : ∀ g ∈ l.mutex.readers, ∃ (t : Nat) (pc : ServerCall),
    g = .call t ∧ l.steps.calls[t]? = some pc ∧ pc.target ≠ none
  nodup : l.mutex.readers.Nodup
  room : l.steps.pump.needsLock = true → RoomForAll l

theorem sendersInside_start (n : Nat) (timeout : Int) :
    SendersInside (ServerLocks.start n timeout) where
  sending := by intro g hg; exact absurd hg (by simp [ServerLocks.start, RWMutex.new])
  nodup := List.nodup_nil
  room := by intro h; exact absurd h (by simp [ServerLocks.start, ServerSteps.start,
    ServerPumpPC.needsLock])

section Locks

variable {l l' : ServerLocks} {a : ServerSteps.Action}

/-- A channel is aimed at by the same goroutines when none of them has moved. -/
theorem inside_congr {s s' : ServerSteps} {readers : List ServerGoroutine} (ch : ServerChannel)
    (h : ∀ g ∈ readers, ∃ t, g = .call t ∧ s'.calls[t]? = s.calls[t]?) :
    readers.countP (aims s' ch) = readers.countP (aims s ch) := by
  refine List.countP_congr (fun g hg => ?_)
  obtain ⟨t, rfl, ht⟩ := h g hg
  rw [aims, aims, ht]

/-- The readers stay where they are, and no channel gets longer. -/
theorem SendersInside.quiet (h : SendersInside l)
    (hreaders : l'.mutex.readers = l.mutex.readers)
    (hlen : ∀ ch, (l'.steps.channel ch).length ≤ (l.steps.channel ch).length)
    (hkept : ∀ g ∈ l.mutex.readers, ∃ (t : Nat) (pc : ServerCall),
      g = .call t ∧ pc.target ≠ none ∧ l.steps.calls[t]? = some pc
        ∧ l'.steps.calls[t]? = some pc)
    (hroom : l'.steps.pump.needsLock = true → RoomForAll l) : SendersInside l' where
  sending g hg := by
    obtain ⟨t, pc, he, htarget, _, ht⟩ := hkept g (hreaders ▸ hg)
    exact ⟨t, pc, he, ht, htarget⟩
  nodup := by rw [hreaders]; exact h.nodup
  room hlock ch := by
    have hsame : inside l' ch = inside l ch := by
      rw [inside, inside, hreaders]
      refine inside_congr ch (fun g hg => ?_)
      obtain ⟨t, pc, he, _, ht, ht'⟩ := hkept g hg
      exact ⟨t, he, ht'.trans ht.symm⟩
    rw [hsame]
    exact le_trans (Nat.add_le_add_right (hlen ch) _) (hroom hlock ch)

/-- A step of the dispatcher that is not a send. -/
theorem SendersInside.step (h : SendersInside l) (hok : SendersFit l (.step a))
    (hreaders : l'.mutex.readers = l.mutex.readers) (ht : Traffic l.steps a l'.steps)
    (hquiet : ∀ (t : Nat) (pc : ServerCall), a = .call t → l.steps.calls[t]? = some pc →
      pc.target = none) : SendersInside l' := by
  cases ht with
  | call t pc pc' _ hpc hcalls hpump hlen =>
      have hnone := hquiet t pc rfl hpc
      refine h.quiet hreaders (fun ch => ?_) (fun g hg => ?_) (fun hl => h.room (hpump ▸ hl))
      · rw [hlen ch, hnone, if_neg (by simp), Nat.add_zero]
      · obtain ⟨u, x, he, hu, hx⟩ := h.sending g hg
        have hut : u ≠ t := by
          rintro rfl
          rw [hpc] at hu
          cases hu
          exact hx hnone
        refine ⟨u, x, he, hx, hu, ?_⟩
        rw [hcalls, List.getElem?_set_ne (fun e => hut e.symm)]
        exact hu
  | other _ _ _ hlen hkept hlock =>
      refine h.quiet hreaders hlen (fun g hg => ?_) (fun hl => (hlock hl).elim h.room hok)
      obtain ⟨u, x, he, hu, hx⟩ := h.sending g hg
      exact ⟨u, x, he, hx, hu, hkept u x hu hx⟩

/-- A sender is through, and gives the read lock back. -/
theorem SendersInside.send (h : SendersInside l) {t : Nat} {s' : ServerSteps}
    (hin : .call t ∈ l.mutex.readers) (ht : Traffic l.steps (.call t) s') :
    SendersInside { steps := s', mutex := l.mutex.runlock (.call t) } := by
  cases ht with
  | other _ _ ha => exact absurd rfl (ha t)
  | call _ pc pc' _ hpc hcalls hpump hlen =>
      have hstay : ∀ g ∈ l.mutex.readers.erase (.call t), ∃ (u : Nat) (x : ServerCall),
          g = .call u ∧ x.target ≠ none ∧ l.steps.calls[u]? = some x ∧ s'.calls[u]? = some x := by
        intro g hg
        obtain ⟨hne, hg⟩ := h.nodup.mem_erase_iff.mp hg
        obtain ⟨u, x, rfl, hu, hx⟩ := h.sending g hg
        have hut : u ≠ t := by
          rintro rfl
          exact hne rfl
        refine ⟨u, x, rfl, hx, hu, ?_⟩
        rw [hcalls, List.getElem?_set_ne (fun e => hut e.symm)]
        exact hu
      constructor
      · intro g hg
        obtain ⟨u, x, he, hx, _, hu⟩ := hstay g hg
        exact ⟨u, x, he, hu, hx⟩
      · exact h.nodup.erase _
      · intro hlock ch
        have hroom := h.room (hpump ▸ hlock) ch
        have hsame : (l.mutex.readers.erase (.call t)).countP (aims s' ch)
            = (l.mutex.readers.erase (.call t)).countP (aims l.steps ch) := by
          refine inside_congr ch (fun g hg => ?_)
          obtain ⟨u, x, he, _, hu, hu'⟩ := hstay g hg
          exact ⟨u, he, hu'.trans hu.symm⟩
        have haim : aims l.steps ch (.call t) = decide (pc.target = some ch) := by
          rw [aims, hpc]
          rfl
        -- the id that came into the channel is one sender less inside
        have hcount := (List.perm_cons_erase hin).countP_eq (aims l.steps ch)
        rw [List.countP_cons, haim, ← hsame] at hcount
        rw [inside, hcount] at hroom
        show (s'.channel ch).length + (l.mutex.readers.erase (.call t)).countP (aims s' ch)
          ≤ ch.capacity
        rw [hlen ch]
        by_cases htarget : pc.target = some ch
        · simp only [htarget, if_true, decide_true] at hroom ⊢
          omega
        · simp only [htarget, if_false, decide_false, Bool.false_eq_true] at hroom ⊢
          omega

/-- The read lock is kept by calls that are at a send. -/
theorem lockUse_reading {s : ServerSteps} {g : ServerGoroutine}
    (h : s.lockUse a = .reading g) :
    ∃ (t : Nat) (pc : ServerCall), a = .call t ∧ g = .call t ∧ s.calls[t]? = some pc
      ∧ pc.target ≠ none := by
  cases a with
  | call t =>
      simp only [ServerSteps.lockUse] at h
      split at h
      · exact absurd h (by simp)
      · rename_i pc ht
        split at h
        · rename_i htarget
          cases h
          refine ⟨t, pc, rfl, rfl, ht, ?_⟩
          intro hnone
          rw [hnone] at htarget
          exact absurd htarget (by simp)
        · split at h <;> exact absurd h (by simp)
  | pump w =>
      simp only [ServerSteps.lockUse] at h
      split at h
      · exact absurd h (by simp)
      · split at h <;> exact absurd h (by simp)
  | select sel => exact absurd h (by simp [ServerSteps.lockUse])
  | start op => exact absurd h (by simp [ServerSteps.lockUse])
  | createClient c => exact absurd h (by simp [ServerSteps.lockUse])
  | getClientState c => exact absurd h (by simp [ServerSteps.lockUse])

/-- A call at a send is under the read lock. -/
theorem target_of_lockUse {s : ServerSteps} (h : ∀ g, s.lockUse a ≠ .reading g) :
    ∀ (t : Nat) (pc : ServerCall), a = .call t → s.calls[t]? = some pc → pc.target = none := by
  rintro t pc rfl ht
  cases htarget : pc.target with
  | none => rfl
  | some ch => exact absurd (by simp [ServerSteps.lockUse, ht, htarget]) (h (.call t))

/-- A sender takes the read lock. -/
theorem SendersInside.rlock (h : SendersInside l) {g : ServerGoroutine}
    (hok : SendersFit l (.rlock g)) (huse : l.steps.lockUse g.next = .reading g)
    (hout : g ∉ l.mutex.readers) :
    SendersInside { l with mutex := { l.mutex with readers := g :: l.mutex.readers } } where
  sending g' hg' := by
    rcases List.mem_cons.mp hg' with rfl | hg'
    · obtain ⟨t, pc, _, rfl, ht, htarget⟩ := lockUse_reading huse
      exact ⟨t, pc, rfl, ht, htarget⟩
    · exact h.sending g' hg'
  nodup := List.nodup_cons.mpr ⟨hout, h.nodup⟩
  room hlock ch := by
    have hroom := h.room hlock ch
    show (l.steps.channel ch).length + (g :: l.mutex.readers).countP (aims l.steps ch)
      ≤ ch.capacity
    rw [List.countP_cons]
    split
    · rename_i haim
      exact hok hlock ch haim
    · exact hroom

/-- **Every step keeps the pump and the senders apart.** -/
theorem sendersInside_step {b : ServerLocks.Action} (h : SendersInside l)
    (hok : SendersFit l b) (hact : l.act b = some l') : SendersInside l' := by
  cases b with
  | rlock g =>
      simp only [ServerLocks.act] at hact
      split at hact
      · rename_i hg
        obtain ⟨m, hm, rfl⟩ := Option.map_eq_some_iff.mp hact
        obtain ⟨_, rfl⟩ := RWMutex.rlock_eq hm
        exact h.rlock hok hg.1 hg.2
      · exact absurd hact (by simp)
  | lock g =>
      simp only [ServerLocks.act] at hact
      split at hact
      · obtain ⟨m, hm, rfl⟩ := Option.map_eq_some_iff.mp hact
        obtain ⟨_, rfl⟩ := RWMutex.announce_eq hm
        exact ⟨h.sending, h.nodup, h.room⟩
      · exact absurd hact (by simp)
  | step a =>
      simp only [ServerLocks.act] at hact
      split at hact
      · rename_i huse
        obtain ⟨s', hs, rfl⟩ := Option.map_eq_some_iff.mp hact
        exact h.step hok rfl (act_traffic hs) (target_of_lockUse (by rw [huse]; simp))
      · rename_i huse
        split at hact
        · obtain ⟨s', hs, rfl⟩ := Option.map_eq_some_iff.mp hact
          exact h.step hok rfl (act_traffic hs) (target_of_lockUse (by rw [huse]; simp))
        · exact absurd hact (by simp)
      · rename_i g huse
        split at hact
        · rename_i hin
          obtain ⟨s', hs, rfl⟩ := Option.map_eq_some_iff.mp hact
          obtain ⟨t, pc, rfl, rfl, _, _⟩ := lockUse_reading huse
          exact h.send hin (act_traffic hs)
        · exact absurd hact (by simp)
      · rename_i g huse
        split at hact
        · obtain ⟨s', hs, rfl⟩ := Option.map_eq_some_iff.mp hact
          exact h.step hok rfl (act_traffic hs) (target_of_lockUse (by rw [huse]; simp))
        · exact absurd hact (by simp)

theorem sendersInside_reachable {n : Nat} {timeout : Int}
    (h : ReachableWhile (ServerLocks.machine n timeout) SendersFit l) : SendersInside l := by
  refine ReachableWhile.invariant (P := SendersInside) ?_ ?_ h
  · rintro l rfl
    exact sendersInside_start n timeout
  · intro l b l' _ hl hok hact
    exact sendersInside_step hl hok hact

end Locks

/--
**The pump never waits for a sender that waits for the pump**, in every run in
which the senders that hold the read lock fit into their channels whenever the
pump is at an operation of the pending state.
-/
theorem pump_and_senders_never_deadlock {n : Nat} {timeout : Int} {l : ServerLocks}
    (h : ReachableWhile (ServerLocks.machine n timeout) SendersFit l) :
    ¬ (l.PumpWaits ∧ ∃ t ch, l.SendWaits t ch) := by
  rintro ⟨⟨hlock, _⟩, t, ch, hin, htarget, hfull⟩
  have hroom := (sendersInside_reachable h).room hlock ch
  have hpos : 0 < inside l ch :=
    List.countP_pos_iff.mpr ⟨_, hin, by rw [aims, htarget]; exact decide_eq_true rfl⟩
  omega

/-- A sender is inside while the pump is before `AddPendingRequest`, and finds room. -/
theorem sender_inside_has_room :
    ∃ l, ReachableWhile (ServerLocks.machine 0 30) SendersFit l
      ∧ l.PumpWaits ∧ .call 1 ∈ l.mutex.readers ∧ ¬ (l.PumpWaits ∧ ∃ t ch, l.SendWaits t ch) := by
  have hrun : ∃ l, (ServerLocks.machine 0 30).runWhile (fun l b => decide (SendersFit l b))
        (ServerLocks.start 0 30)
        (.step (.createClient "A") :: ServerLocks.pushing 0 "A" "1" ++ [.step (.call 0)]
          ++ ServerLocks.takingUp "A" ++ ServerLocks.pushing 1 "A" "2" ++ [.lock .pump]) = some l
      ∧ l.steps.pump.needsLock = true ∧ l.mutex.readers = [.call 1] := ⟨_, rfl, rfl, rfl⟩
  obtain ⟨l, hl, hlock, hreaders⟩ := hrun
  have hreach : ReachableWhile (ServerLocks.machine 0 30) SendersFit l :=
    ReachableWhile.runWhile (fun _ _ h => of_decide_eq_true h) (.init rfl) _ hl
  refine ⟨l, hreach, ⟨hlock, fun hh => ?_⟩, ?_, pump_and_senders_never_deadlock hreach⟩
  · rw [RWMutex.Holds, hreaders] at hh
    exact absurd hh.2 (by simp)
  · rw [hreaders]
    exact List.mem_singleton.mpr rfl

/-- Twenty requests wait in the channel while the pump takes up the first one. -/
def crowdedRun : List ServerLocks.Action :=
  .step (.createClient "A") :: ServerLocks.pushing 0 "A" "0" ++ [.step (.call 0)]
    ++ ServerLocks.takingUp "A"
    ++ (List.range 20).flatMap fun k =>
      ServerLocks.pushing (k + 1) "A" "1" ++ [.step (.call (k + 1))]

/--
The next `SendRequest` has the read lock and finds the channel full. The pump is
in `AddPendingRequest` and waits for the write lock. Neither can go on.
-/
theorem crowd_of_senders_stops_pump :
    ∃ l, Reachable (ServerLocks.machine 0 30) l
      ∧ l.PumpWaits ∧ l.SendWaits 21 .requestChannel
      ∧ l.act (.step (.call 21)) = none ∧ (∀ w, l.act (.step (.pump w)) = none)
      ∧ ∀ sel, l.act (.step (.select sel)) = none := by
  have hrun : ∃ l, (ServerLocks.machine 0 30).run (ServerLocks.start 0 30)
        (crowdedRun ++ ServerLocks.pushing 21 "A" "2" ++ [.lock .pump]) = some l
      ∧ l.steps.pump.needsLock = true ∧ l.mutex.readers = [.call 21]
      ∧ (l.steps.calls[21]?).bind ServerCall.target = some .requestChannel
      ∧ l.steps.requestChannel.length = 20
      ∧ l.act (.step (.call 21)) = none ∧ (∀ w, l.act (.step (.pump w)) = none)
      ∧ ∀ sel, l.act (.step (.select sel)) = none := by
    refine ⟨_, rfl, rfl, rfl, rfl, rfl, rfl, fun _ => rfl, ?_⟩
    intro sel
    cases sel <;> rfl
  obtain ⟨l, hl, hlock, hreaders, htarget, hlen, hcall, hpump, hsel⟩ := hrun
  refine ⟨l, Reachable.run (.init rfl) _ hl, ⟨hlock, fun hh => ?_⟩, ⟨?_, htarget, ?_⟩, hcall,
    hpump, hsel⟩
  · rw [RWMutex.Holds, hreaders] at hh
    exact absurd hh.2 (by simp)
  · rw [hreaders]
    exact List.mem_singleton.mpr rfl
  · exact le_of_eq hlen.symm

end OcppGo.Proof
