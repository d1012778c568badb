import OcppGo.Proof.ClientMoves
import OcppGo.Lib.Stamped

/-!
# Requests are written in the order they were pushed

The pump reads the head of the queue, marks it pending and writes it in three
separate steps, while other goroutines may pop in between: the request it is
about to write need not be in the queue any more. What survives is an ordering.
Stamps grow along the queue, the request the pump holds is stamped no later than
anything still queued, and nothing written so far is stamped later than it.

`Effect` says once what a step can do to the queue, the written frames and the
request in the pump's hands. Every invariant that only reads those follows from
it without looking at the program again.
-/

namespace OcppGo.Proof

open OcppGo.Lib OcppGo.Ocppj

/-- The request the pump has read and not yet written. -/
def held : PumpPC → Option Posted
  | .addPending p => some p
  | .write p => some p
  | _ => none

/-- What a step does to the queue, the written frames and the held request. -/
inductive Effect (s s' : ClientSteps) : Prop where
  | quiet : s'.requestQueue = s.requestQueue → s'.accepted = s.accepted →
      s'.written = s.written → s'.popped = s.popped → held s'.pump = held s.pump → Effect s s'
  | push (req : RequestBundle) : CallPC.push req ∈ s.callers →
      s'.requestQueue.elements
        = s.requestQueue.elements ++ [{ seq := s.accepted, bundle := req }] →
      s'.accepted = s.accepted + 1 → s'.written = s.written → s'.popped = s.popped →
      held s'.pump = held s.pump → Effect s s'
  | pop : s'.requestQueue.elements = s.requestQueue.elements.tail →
      s'.accepted = s.accepted → s'.written = s.written →
      s'.popped = s.popped ++ s.requestQueue.peek.toList →
      held s'.pump = held s.pump → Effect s s'
  | peek (p : Posted) : s.requestQueue.peek = some p → s'.requestQueue = s.requestQueue →
      s'.accepted = s.accepted → s'.written = s.written → s'.popped = s.popped →
      held s.pump = none → held s'.pump = some p → Effect s s'
  | write (p : Posted) : held s.pump = some p → s'.requestQueue = s.requestQueue →
      s'.accepted = s.accepted → s'.written = s.written ++ [p] → s'.popped = s.popped →
      held s'.pump = none → Effect s s'

/-- One operation of `CompleteRequest` leaves the queue alone or pops its head. -/
theorem CompleteMove.effect {s s₁ s' : ClientSteps} {id : String} {c : Completing}
    {r : Option Completing} (h : CompleteMove s id c s₁ r)
    (hq : s'.requestQueue = s₁.requestQueue) (ha : s'.accepted = s₁.accepted)
    (hw : s'.written = s₁.written) (hp : s'.popped = s₁.popped)
    (hh : held s'.pump = held s.pump) : Effect s s' := by
  cases h with
  | mismatch => exact .quiet hq ha hw hp hh
  | found => exact .quiet hq ha hw hp hh
  | pop => exact .pop (by rw [hq]; rfl) ha hw hp hh
  | delete => exact .quiet hq ha hw hp hh
  | ready => exact .quiet hq ha hw hp hh

/-- No request is held while the pump is inert. -/
theorem held_of_inert {pc : PumpPC} (h : inert pc = true) : held pc = none := by
  cases pc <;> first | rfl | exact absurd h (by simp [inert])

/-- What is queued after a step was queued before or is stamped anew. -/
theorem Effect.mem_queue {s s' : ClientSteps} (h : Effect s s') {p : Posted}
    (hp : p ∈ s'.requestQueue.elements) :
    p ∈ s.requestQueue.elements
      ∨ p.seq = s.accepted ∧ CallPC.push p.bundle ∈ s.callers := by
  cases h with
  | quiet hq => rw [hq] at hp; exact Or.inl hp
  | push req hm hq =>
      rw [hq] at hp
      rcases List.mem_append.mp hp with hp | hp
      · exact Or.inl hp
      · rw [List.mem_singleton.mp hp]
        exact Or.inr ⟨rfl, hm⟩
  | pop hq => rw [hq] at hp; exact Or.inl (List.mem_of_mem_tail hp)
  | peek _ _ hq => rw [hq] at hp; exact Or.inl hp
  | write _ _ hq => rw [hq] at hp; exact Or.inl hp

/-- **Every step has one of the five effects.** -/
theorem Move.effect {s s' : ClientSteps} {a : ClientSteps.Action} (h : Move s a s') :
    Effect s s' := by
  cases h with
  | idle _ pc timer n hi hi' _ =>
      exact .quiet rfl rfl rfl rfl (by rw [held_of_inert hi, held_of_inert hi'])
  | takeReady hpc _ => exact .quiet rfl rfl rfl rfl (by rw [hpc]; rfl)
  | seesReady _ hpc _ => exact .quiet rfl rfl rfl rfl (by rw [hpc]; rfl)
  | seesRequest _ hpc _ => exact .quiet rfl rfl rfl rfl (by rw [hpc]; rfl)
  | crash _ hpc _ =>
      rcases hpc with hpc | hpc
      · exact .quiet rfl rfl rfl rfl (by rw [hpc]; rfl)
      · exact .quiet rfl rfl rfl rfl (by rw [hpc]; rfl)
  | peek _ p hpc hp => exact .peek p hp rfl rfl rfl rfl (by rw [hpc]; rfl) rfl
  | mark _ p hpc => exact .quiet rfl rfl rfl rfl (by rw [hpc]; rfl)
  | write p hpc => exact .write p (by rw [hpc]; rfl) rfl rfl rfl rfl rfl
  | writeFails _ p hpc => exact .write p (by rw [hpc]; rfl) rfl rfl rfl rfl rfl
  | failed _ p text c s₁ r hpc hc =>
      refine hc.effect rfl rfl rfl rfl ?_
      rw [hpc]
      cases r <;> rfl
  | reportFailed _ p text hpc => exact .quiet rfl rfl rfl rfl (by rw [hpc]; rfl)
  | seesPending _ hpc _ => exact .quiet rfl rfl rfl rfl (by rw [hpc]; rfl)
  | peekTimeout _ p hpc _ => exact .quiet rfl rfl rfl rfl (by rw [hpc]; rfl)
  | timedOut _ p c s₁ r hpc hc =>
      refine hc.effect rfl rfl rfl rfl ?_
      rw [hpc]
      cases r <;> rfl
  | reportTimedOut _ p hpc => exact .quiet rfl rfl rfl rfl (by rw [hpc]; rfl)
  | discard id kind => exact .quiet rfl rfl rfl rfl rfl
  | accept id kind _ _ _ => exact .quiet rfl rfl rfl rfl rfl
  | reader id kind c s₁ r _ hc => exact hc.effect rfl rfl rfl rfl (by rw [hc.pump])
  | handler id kind _ => exact .quiet rfl rfl rfl rfl rfl
  | call op => exact .quiet rfl rfl rfl rfl rfl
  | caller t pc pc' timer n paused _ _ => exact .quiet rfl rfl rfl rfl rfl
  | push t req q ht hq => exact .push req (List.mem_of_getElem? ht) hq rfl rfl rfl rfl
  | callerCompletes t id c s₁ r _ hc => exact hc.effect rfl rfl rfl rfl (by rw [hc.pump])
  | resumeTest t _ _ => exact .quiet rfl rfl rfl rfl rfl
  | resumeReady t _ _ => exact .quiet rfl rfl rfl rfl rfl
  | timerExpires timer => exact .quiet rfl rfl rfl rfl rfl

/-! ## The ordering invariant -/

structure Ordered (s : ClientSteps) : Prop where
  /-- Stamps grow along the queue. -/
  queue : Increasing Posted.seq s.requestQueue.elements
  /-- Queued stamps were handed out. -/
  queueBound : ∀ p ∈ s.requestQueue.elements, p.seq < s.accepted
  /-- Frames were written in the order of their stamps. -/
  written : s.written.Pairwise (fun a b => a.seq ≤ b.seq)
  /-- Written stamps were handed out. -/
  writtenBound : ∀ w ∈ s.written, w.seq < s.accepted
  /-- Nothing written overtook anything still queued. -/
  before : ∀ w ∈ s.written, ∀ p ∈ s.requestQueue.elements, w.seq ≤ p.seq
  /-- The held request comes after the written ones and before the queued ones. -/
  heldBetween : ∀ p, held s.pump = some p → p.seq < s.accepted
    ∧ (∀ w ∈ s.written, w.seq ≤ p.seq) ∧ ∀ q ∈ s.requestQueue.elements, p.seq ≤ q.seq

theorem ordered_start (n : Nat) (timeout : Int) : Ordered (ClientSteps.start n timeout) where
  queue := increasing_nil
  queueBound := by intro p hp; simp [ClientSteps.start] at hp
  written := List.Pairwise.nil
  writtenBound := by intro w hw; simp [ClientSteps.start] at hw
  before := by intro w hw; simp [ClientSteps.start] at hw
  heldBetween := by intro p hp; simp [ClientSteps.start, held] at hp

/-- Requests may leave the queue; what the pump holds has to lie in between. -/
theorem Ordered.shrink {s s' : ClientSteps} (h : Ordered s)
    (hq : s'.requestQueue.elements <:+ s.requestQueue.elements)
    (ha : s'.accepted = s.accepted) (hw : s'.written = s.written)
    (hh : ∀ p, held s'.pump = some p → p.seq < s.accepted
      ∧ (∀ w ∈ s.written, w.seq ≤ p.seq) ∧ ∀ q ∈ s.requestQueue.elements, p.seq ≤ q.seq) :
    Ordered s' where
  queue := h.queue.suffix hq
  queueBound := fun p hp => by rw [ha]; exact h.queueBound p (hq.subset hp)
  written := by rw [hw]; exact h.written
  writtenBound := by rw [hw, ha]; exact h.writtenBound
  before := fun w hm p hp => h.before w (hw ▸ hm) p (hq.subset hp)
  heldBetween := fun p hp => by
    obtain ⟨h₁, h₂, h₃⟩ := hh p hp
    rw [ha, hw]
    exact ⟨h₁, h₂, fun q hm => h₃ q (hq.subset hm)⟩

/-- The stamp of an accepted request is larger than every stamp handed out so far. -/
theorem Ordered.push {s s' : ClientSteps} {req : RequestBundle} (h : Ordered s)
    (hq : s'.requestQueue.elements
      = s.requestQueue.elements ++ [{ seq := s.accepted, bundle := req }])
    (ha : s'.accepted = s.accepted + 1) (hw : s'.written = s.written)
    (hh : held s'.pump = held s.pump) : Ordered s' := by
  -- what is queued is old, or carries the stamp handed out now
  have hmem : ∀ p ∈ s'.requestQueue.elements,
      p ∈ s.requestQueue.elements ∨ p.seq = s.accepted := by
    intro p hp
    rw [hq] at hp
    rcases List.mem_append.mp hp with hold | hnew
    · exact Or.inl hold
    · exact Or.inr (by rw [List.mem_singleton.mp hnew])
  refine ⟨?_, ?_, ?_, ?_, ?_, ?_⟩
  · rw [hq]; exact h.queue.snoc h.queueBound
  · intro p hp
    rcases hmem p hp with hp | hp
    · have := h.queueBound p hp; omega
    · omega
  · rw [hw]; exact h.written
  · intro w hm
    rw [hw] at hm
    have := h.writtenBound w hm; omega
  · intro w hm p hp
    rw [hw] at hm
    rcases hmem p hp with hp | hp
    · exact h.before w hm p hp
    · have := h.writtenBound w hm; omega
  · intro p hp
    rw [hh] at hp
    obtain ⟨h1, h2, h3⟩ := h.heldBetween p hp
    refine ⟨by omega, by rw [hw]; exact h2, ?_⟩
    intro q hm
    rcases hmem q hm with hm | hm
    · exact h3 q hm
    · omega

/-- The held request is written: it lies after the written and before the queued ones. -/
theorem Ordered.write {s s' : ClientSteps} {p : Posted} (h : Ordered s)
    (hp : held s.pump = some p) (hq : s'.requestQueue = s.requestQueue)
    (ha : s'.accepted = s.accepted) (hw : s'.written = s.written ++ [p])
    (hh : held s'.pump = none) : Ordered s' := by
  obtain ⟨h1, h2, h3⟩ := h.heldBetween p hp
  -- what is written is old, or the request that was held
  have hmem : ∀ w ∈ s'.written, w ∈ s.written ∨ w = p := by
    intro w hm
    rw [hw] at hm
    rcases List.mem_append.mp hm with hm | hm
    · exact Or.inl hm
    · exact Or.inr (List.mem_singleton.mp hm)
  refine ⟨?_, ?_, ?_, ?_, ?_, ?_⟩
  · rw [hq]; exact h.queue
  · rw [hq, ha]; exact h.queueBound
  · rw [hw]
    refine List.pairwise_append.mpr ⟨h.written, List.pairwise_singleton _ _, ?_⟩
    intro a hm b hb
    rw [List.mem_singleton.mp hb]
    exact h2 a hm
  · intro w hm
    rw [ha]
    rcases hmem w hm with hm | hm
    · exact h.writtenBound w hm
    · rw [hm]; exact h1
  · intro w hm q hqm
    rw [hq] at hqm
    rcases hmem w hm with hm | hm
    · exact h.before w hm q hqm
    · rw [hm]; exact h3 q hqm
  · intro p' hp'
    rw [hh] at hp'
    exact absurd hp' (by simp)

/-- **The ordering is preserved by every effect.** -/
theorem ordered_effect {s s' : ClientSteps} (h : Ordered s) (he : Effect s s') : Ordered s' := by
  cases he with
  | quiet hq ha hw _ hh =>
      refine h.shrink (by simp only [hq, List.suffix_rfl]) ha hw (fun p hp => h.heldBetween p ?_)
      rw [← hh]; exact hp
  | push req _ hq ha hw _ hh => exact h.push hq ha hw hh
  | pop hq ha hw _ hh =>
      refine h.shrink (by rw [hq]; exact List.tail_suffix _) ha hw (fun p hp => h.heldBetween p ?_)
      rw [← hh]; exact hp
  | peek p hp hq ha hw _ _ hh =>
      -- the head is before the rest of the queue and after everything written
      have hpm : p ∈ s.requestQueue.elements := List.mem_of_mem_head? hp
      refine h.shrink (by simp only [hq, List.suffix_rfl]) ha hw (fun p' hp' => ?_)
      rw [hh] at hp'
      cases hp'
      exact ⟨h.queueBound p hpm, fun w hm => h.before w hm p hpm,
        fun q hm => h.queue.head_le hp hm⟩
  | write p hp hq ha hw _ hh => exact h.write hp hq ha hw hh

theorem ordered_reachable {n : Nat} {timeout : Int} {s : ClientSteps}
    (h : Reachable (ClientSteps.machine n timeout) s) : Ordered s := by
  refine h.invariant ?_ ?_
  · intro s hs
    rw [show s = ClientSteps.start n timeout from hs]
    exact ordered_start n timeout
  · intro s a s' _ hinv hact
    exact ordered_effect hinv (act_move hact).2.effect

/-- A queued request stamped no later than every queued one is the head. -/
theorem Ordered.is_head {s : ClientSteps} {p : Posted} (h : Ordered s)
    (hq : p ∈ s.requestQueue.elements) (hle : ∀ q ∈ s.requestQueue.elements, p.seq ≤ q.seq) :
    s.requestQueue.peek = some p := by
  obtain ⟨q, hp⟩ : ∃ q, s.requestQueue.elements.head? = some q := by
    cases he : s.requestQueue.elements with
    | nil => rw [he] at hq; simp at hq
    | cons x xs => exact ⟨x, rfl⟩
  rw [FIFOClientQueue.peek_eq, hp, h.queue.eq_head hp hq (hle q (List.mem_of_mem_head? hp))]

/-- A request that is written and still queued is the head. -/
theorem Ordered.written_is_head {s : ClientSteps} {p w : Posted} (h : Ordered s)
    (hq : p ∈ s.requestQueue.elements) (hw : w ∈ s.written) (hk : w.seq = p.seq) :
    s.requestQueue.peek = some p :=
  h.is_head hq (fun q hm => hk ▸ h.before w hw q hm)

/--
**Order and a single outstanding request, under any interleaving.**

Whatever the goroutines do, a request pushed earlier is written earlier: no write
of the later one precedes a write of the earlier one. And of the requests still
in the queue, only the head can have been written.
-/
theorem written_in_push_order {n : Nat} {timeout : Int} {s : ClientSteps}
    (h : Reachable (ClientSteps.machine n timeout) s) :
    (∀ (i j : Nat) (a b : Posted), s.written[i]? = some a → s.written[j]? = some b →
        a.seq < b.seq → i < j)
      ∧ ∀ p ∈ s.requestQueue.elements, p ∈ s.written → s.requestQueue.peek = some p := by
  have hord := ordered_reachable h
  refine ⟨?_, fun p hq hw => hord.written_is_head hq hw rfl⟩
  intro i j a b ha hb hlt
  by_contra hij
  rcases Nat.lt_or_ge j i with hji | hge
  · -- the later stamp written first would break the sortedness of the frames
    obtain ⟨hi, rfl⟩ := List.getElem?_eq_some_iff.mp ha
    obtain ⟨hj, rfl⟩ := List.getElem?_eq_some_iff.mp hb
    have := List.pairwise_iff_getElem.mp hord.written j i hj hi hji
    omega
  · have : i = j := by omega
    subst this
    rw [ha] at hb
    cases hb
    omega

/-- Two heartbeats, the second written once the first was answered. -/
theorem two_heartbeats_in_order :
    ∃ s, Reachable (ClientSteps.machine 0 defaultMessageTimeout) s
      ∧ s.written.map Posted.seq = [0, 1]
      ∧ (∀ (i j : Nat) (a b : Posted), s.written[i]? = some a → s.written[j]? = some b →
          a.seq < b.seq → i < j)
      ∧ ∀ p ∈ s.requestQueue.elements, p ∈ s.written → s.requestQueue.peek = some p := by
  have hrun : ∃ s, (ClientSteps.machine 0 defaultMessageTimeout).run
      (ClientSteps.start 0 defaultMessageTimeout)
      (ClientSteps.sending 0 "1" ++ ClientSteps.dispatching .request
        ++ ClientSteps.sending 1 "2" ++ ClientSteps.answering "1"
        ++ ClientSteps.dispatching .ready) = some s ∧ s.written.map Posted.seq = [0, 1] :=
    ⟨_, rfl, rfl⟩
  obtain ⟨s, hs, hw⟩ := hrun
  have hr : Reachable (ClientSteps.machine 0 defaultMessageTimeout) s :=
    Reachable.run (.init rfl) _ hs
  exact ⟨s, hr, hw, written_in_push_order hr⟩

end OcppGo.Proof
