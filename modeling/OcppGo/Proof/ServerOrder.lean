import OcppGo.Proof.ServerTokens
import OcppGo.Lib.Stamped

/-!
# The server writes the requests of a queue in the order they were pushed

One pump serves all clients. It gets a queue from the map, reads the head, marks it
pending and writes it, in four separate steps, while other goroutines push, pop,
remove the queue from the map or put another one in its place. What happens to the
queue objects and to the network is recorded: every push that was accepted, every
pop that found an element, every call of `Write`.

Of a queue object the record says all there is to know: what was pushed is what was
popped, followed by what is queued. So when the pump reads a head, everything pushed
before it is popped already, and nothing pushed after it was ever read before it.
-/

namespace OcppGo.Proof

open OcppGo.Lib OcppGo.Ocppj

/-! ## The record -/

inductive QueueEvent where
  | pushed (r : QueueRef) (p : Posted)
  | popped (r : QueueRef) (p : Posted)
  /-- `network.Write`, whether it failed or not. -/
  | written (c : String) (p : Posted)

/-- What an operation of `CompleteRequest` does to a queue. -/
def completeEvents (s : ServerSteps) : ServerCompleting → List QueueEvent
  | .pop r => (s.queueMap.deref r).peek.toList.map (.popped r)
  | _ => []

def pumpEvents (s : ServerSteps) : ServerPumpPC → List QueueEvent
  | .timedOut _ _ k | .failed _ _ _ k => completeEvents s k
  | .write c p => [.written c p]
  | _ => []

def callEvents (s : ServerSteps) : ServerCall → List QueueEvent
  | .push _ r req =>
      match (s.queueMap.deref r).push { seq := s.accepted, bundle := req } with
      | .ok _ => [.pushed r { seq := s.accepted, bundle := req }]
      | .error _ => []
  | .completing _ _ k => completeEvents s k
  | _ => []

def queueEvents (s : ServerSteps) (a : ServerSteps.Action) (_ : ServerSteps) : List QueueEvent :=
  match a with
  | .pump _ => pumpEvents s s.pump
  | .call t => (s.calls[t]?).toList.flatMap (callEvents s)
  | _ => []

/-- What was pushed onto this queue object. -/
def QueueEvent.pushedOnto (r : QueueRef) : QueueEvent → Option Posted
  | .pushed r' p => if r' = r then some p else none
  | _ => none

/-- What was popped from it. -/
def QueueEvent.poppedFrom (r : QueueRef) : QueueEvent → Option Posted
  | .popped r' p => if r' = r then some p else none
  | _ => none

/-- The stamp a push was given. -/
def QueueEvent.stamp : QueueEvent → Option Nat
  | .pushed _ p => some p.seq
  | _ => none

section Record

variable {log : List QueueEvent} {r r' : QueueRef} {p q : Posted}

theorem mem_pushedOnto : p ∈ log.filterMap (QueueEvent.pushedOnto r) ↔ .pushed r p ∈ log := by
  refine List.mem_filterMap.trans ⟨?_, fun h => ⟨_, h, by simp [QueueEvent.pushedOnto]⟩⟩
  rintro ⟨e, he, hp⟩
  cases e with
  | pushed r' p' =>
      simp only [QueueEvent.pushedOnto] at hp
      split at hp
      · rename_i hr
        cases hp
        exact hr ▸ he
      · exact absurd hp (by simp)
  | _ => exact absurd hp (by simp [QueueEvent.pushedOnto])

theorem mem_poppedFrom : p ∈ log.filterMap (QueueEvent.poppedFrom r) ↔ .popped r p ∈ log := by
  refine List.mem_filterMap.trans ⟨?_, fun h => ⟨_, h, by simp [QueueEvent.poppedFrom]⟩⟩
  rintro ⟨e, he, hp⟩
  cases e with
  | popped r' p' =>
      simp only [QueueEvent.poppedFrom] at hp
      split at hp
      · rename_i hr
        cases hp
        exact hr ▸ he
      · exact absurd hp (by simp)
  | _ => exact absurd hp (by simp [QueueEvent.poppedFrom])

/-- Pushes are stamped in the order they are made. -/
def StampsGrow (log : List QueueEvent) : Prop :=
  log.Pairwise fun e e' => ∀ m, e.stamp = some m → ∀ n, e'.stamp = some n → m < n

theorem StampsGrow.increasing (h : StampsGrow log) (r : QueueRef) :
    Increasing Posted.seq (log.filterMap (QueueEvent.pushedOnto r)) := by
  have hstamp : ∀ (e : QueueEvent) (p : Posted), e.pushedOnto r = some p →
      e.stamp = some p.seq := by
    intro e p he
    cases e with
    | pushed r' p' =>
        simp only [QueueEvent.pushedOnto] at he
        split at he
        · cases he
          rfl
        · exact absurd he (by simp)
    | _ => exact absurd he (by simp [QueueEvent.pushedOnto])
  refine List.pairwise_filterMap.mpr (List.Pairwise.imp ?_ h)
  intro e e' hlt p hp q hq
  exact hlt _ (hstamp e p hp) _ (hstamp e' q hq)

/-- A request is pushed onto one queue only. -/
theorem StampsGrow.same_queue (h : StampsGrow log) (hp : .pushed r p ∈ log)
    (hq : .pushed r' p ∈ log) : r = r' := by
  obtain ⟨i, hi, hpi⟩ := List.getElem_of_mem hp
  obtain ⟨j, hj, hqj⟩ := List.getElem_of_mem hq
  have hlt := List.pairwise_iff_getElem.mp h
  rcases Nat.lt_trichotomy i j with hij | rfl | hij
  · exact absurd (hlt i j hi hj hij p.seq (by rw [hpi]; rfl) p.seq (by rw [hqj]; rfl))
      (Nat.lt_irrefl _)
  · rw [hpi] at hqj
    cases hqj
    rfl
  · exact absurd (hlt j i hj hi hij p.seq (by rw [hqj]; rfl) p.seq (by rw [hpi]; rfl))
      (Nat.lt_irrefl _)

theorem StampsGrow.of_positions (h : StampsGrow log) {i j : Nat} (hij : i < j)
    (hp : log[i]? = some (.pushed r p)) (hq : log[j]? = some (.pushed r' q)) :
    p.seq < q.seq := by
  obtain ⟨hi, hpi⟩ := List.getElem?_eq_some_iff.mp hp
  obtain ⟨hj, hqj⟩ := List.getElem?_eq_some_iff.mp hq
  exact List.pairwise_iff_getElem.mp h i j hi hj hij _ (by rw [hpi]; rfl) _ (by rw [hqj]; rfl)

end Record

/-! ## What a step does -/

/-- The request the pump has read and not yet written. -/
def carried : ServerPumpPC → Option Posted
  | .addPending _ p => some p
  | .write _ p => some p
  | _ => none

/-- What is queued in each queue object. -/
def queued (s : ServerSteps) (r : QueueRef) : List Posted := (s.queueMap.deref r).elements

/-- What a step does to the queue objects and the request in the pump's hands, with its events. -/
inductive QueueEffect (s s' : ServerSteps) : List QueueEvent → Prop where
  /-- A queue object may be made, at an unused address. -/
  | quiet : (∀ r, queued s' r = queued s r ∨ s.queueMap.next ≤ r ∧ queued s' r = []) →
      s'.accepted = s.accepted → (∀ p, carried s'.pump = some p → carried s.pump = some p) →
      QueueEffect s s' []
  | push (c : String) (r : QueueRef) (req : RequestBundle) : .push c r req ∈ s.calls →
      queued s' = Function.update (queued s) r
        (queued s r ++ [{ seq := s.accepted, bundle := req }]) →
      s'.accepted = s.accepted + 1 → s'.pump = s.pump →
      QueueEffect s s' [.pushed r { seq := s.accepted, bundle := req }]
  | pop (r : QueueRef) : queued s' = Function.update (queued s) r (queued s r).tail →
      s'.accepted = s.accepted → (∀ p, carried s'.pump = some p → carried s.pump = some p) →
      QueueEffect s s' ((queued s r).head?.toList.map (.popped r))
  | peek (r : QueueRef) (p : Posted) : (queued s r).head? = some p → queued s' = queued s →
      s'.accepted = s.accepted → carried s'.pump = some p → QueueEffect s s' []
  | write (c : String) (p : Posted) : carried s.pump = some p → queued s' = queued s →
      s'.accepted = s.accepted → carried s'.pump = none → QueueEffect s s' [.written c p]

section Step

variable {s s' s₁ : ServerSteps} {a : ServerSteps.Action}

theorem queued_store (m : FIFOQueueMap Posted) (r : QueueRef) (q : FIFOClientQueue Posted) :
    (fun r' => ((m.store r q).deref r').elements)
      = Function.update (fun r' => (m.deref r').elements) r q.elements := by
  funext r'
  by_cases hr : r' = r
  · subst hr
    simp [FIFOQueueMap.deref, FIFOQueueMap.store]
  · simp [FIFOQueueMap.deref, FIFOQueueMap.store, hr]

theorem QueueEffect.same (hq : s'.queueMap = s.queueMap) (ha : s'.accepted = s.accepted)
    (hp : ∀ p, carried s'.pump = some p → carried s.pump = some p) : QueueEffect s s' [] :=
  .quiet (fun r => Or.inl (by rw [queued, hq]; rfl)) ha hp

/-- Whoever calls it, `CompleteRequest` pops the head of a queue or leaves all queues alone. -/
theorem complete_effect {c id : String} {k : ServerCompleting} {o : Option ServerCompleting}
    (h : StepCompletes s c id k s₁ o) (hq : s'.queueMap = s₁.queueMap)
    (ha : s'.accepted = s.accepted)
    (hp : ∀ p, carried s'.pump = some p → carried s.pump = some p) :
    QueueEffect s s' (completeEvents s k) := by
  cases h with
  | pop r =>
      refine .pop r ?_ ha hp
      unfold queued
      rw [hq, queued_store]
      rfl
  | _ => exact .same hq ha hp

theorem StepCompletes.accepted {c id : String} {k : ServerCompleting}
    {o : Option ServerCompleting} (h : StepCompletes s c id k s₁ o) :
    s₁.accepted = s.accepted := by
  cases h <;> rfl

theorem IdleStep.accepted (h : IdleStep s a s') : s'.accepted = s.accepted := by
  cases h <;> rfl

theorem written_accepted (s : ServerSteps) (c : String) (p : Posted) :
    (s.written c p).accepted = s.accepted := by
  unfold ServerSteps.written
  dsimp only
  split
  · rfl
  · rfl

theorem carried_of_unburdened {pc : ServerPumpPC} (h : unburdened pc = true) :
    carried pc = none := by
  cases pc <;> first | rfl | exact absurd h (by simp [unburdened])

theorem pumpEvents_of_not_holding {pc : ServerPumpPC} (h : holding pc = false) :
    pumpEvents s pc = [] := by
  cases pc <;> first | rfl | exact absurd h (by simp [holding])

theorem pumpStep_effect {write : Option String} (h : s.pumpStep write = some s') :
    QueueEffect s s' (pumpEvents s s.pump) := by
  cases pumpStep_stepMove h with
  | idle _ _ hpc hpc' hq _ _ _ _ hidle =>
      rw [pumpEvents_of_not_holding hpc]
      exact .same hq hidle.accepted (by rw [carried_of_unburdened hpc']; simp)
  | seesPending _ c hpc => rw [hpc]; exact .same rfl rfl (by simp [carried])
  | timeoutGet _ c pending r hpc => rw [hpc]; exact .same rfl rfl (by simp [carried])
  | timeoutPeek _ c pending r p hpc => rw [hpc]; exact .same rfl rfl (by simp [carried])
  | timedOut _ c p k s₁ o hpc hc =>
      rw [hpc]
      exact complete_effect hc rfl hc.accepted (by cases o <;> simp [pumpNext, carried])
  | reportTimedOut _ c p hpc => rw [hpc]; exact .same rfl rfl (by simp [carried])
  | commit _ c hpc => rw [hpc]; exact .same rfl rfl (by simp [carried])
  | dispatchGet _ c r hpc => rw [hpc]; exact .same rfl rfl (by simp [carried])
  | dispatchPeek _ c r p hpc hp => rw [hpc]; exact .peek r p hp rfl rfl rfl
  | mark _ c p hpc => rw [hpc]; exact .same rfl rfl (by rw [hpc]; exact fun _ he => he)
  | write c p _ hpc hpc' hq _ _ _ _ _ hs' =>
      rw [hpc]
      exact .write c p (by rw [hpc]; rfl) (by unfold queued; rw [hq])
        (by rw [hs', written_accepted]) (by rw [hpc']; rfl)
  | writeFails text c p hpc => rw [hpc]; exact .write c p (by rw [hpc]; rfl) rfl rfl rfl
  | failed _ c p text k s₁ o hpc hc =>
      rw [hpc]
      exact complete_effect hc rfl hc.accepted (by cases o <;> simp [pumpNext, carried])
  | reportFailed _ c p text hpc =>
      rw [hpc]
      exact .same rfl rfl (by simp [ServerSteps.endDispatch, carried])
  | crash _ hpc =>
      rcases hpc with ⟨c, pending, hpc, _⟩ | ⟨c, r, pending, hpc, _⟩ | ⟨c, r, hpc⟩
      all_goals
        rw [hpc]
        exact .same rfl rfl (by simp [carried])

theorem callStep_effect {t : Nat} {pc : ServerCall} (ht : s.calls[t]? = some pc)
    (h : s.callStep t pc = some s') : QueueEffect s s' (callEvents s pc) := by
  unfold ServerSteps.callStep at h
  split at h
  · exact absurd h (by simp)
  · exact absurd h (by simp)
  · split at h
    · cases h; exact .same rfl rfl (fun _ he => he)
    · cases h; exact .same rfl rfl (fun _ he => he)
  · rename_i c r req
    unfold callEvents
    split at h
    · rename_i hfull
      cases h
      simp only [hfull]
      exact .same rfl rfl (fun _ he => he)
    · rename_i q hq
      cases h
      simp only [hq]
      refine .push c r req (List.mem_of_getElem? ht) ?_ rfl rfl
      rw [FIFOClientQueue.push_ok hq]
      exact queued_store s.queueMap r _
  · split at h
    · cases h; exact .same rfl rfl (fun _ he => he)
    · exact absurd h (by simp)
  · rename_i c id k
    obtain ⟨⟨s₁, o⟩, ho, rfl⟩ := Option.map_eq_some_iff.mp h
    have hc := complete_stepMove ho
    cases o with
    | none => exact complete_effect hc rfl hc.accepted (fun _ he => by rw [← hc.pump]; exact he)
    | some k' => exact complete_effect hc rfl hc.accepted (fun _ he => by rw [← hc.pump]; exact he)
  · cases h; exact .same rfl rfl (fun _ he => he)
  · rename_i c
    cases h
    exact .quiet (fun r => Or.inl rfl) rfl (fun _ he => he)
  · split at h
    · cases h; exact .same rfl rfl (fun _ he => he)
    · exact absurd h (by simp)
  · cases h; exact .same rfl rfl (fun _ he => he)
  · cases h; exact .same rfl rfl (fun _ he => he)
  · split at h
    · cases h; exact .same rfl rfl (fun _ he => he)
    · exact absurd h (by simp)

/-- A queue made for a client is empty, and its address was not in use. -/
theorem queued_getOrCreate (m : FIFOQueueMap Posted) (c : String) (r : QueueRef) :
    ((m.getOrCreate c).deref r).elements = (m.deref r).elements
      ∨ m.next ≤ r ∧ ((m.getOrCreate c).deref r).elements = [] := by
  unfold FIFOQueueMap.getOrCreate
  split
  · exact Or.inl rfl
  · by_cases hr : r = m.next
    · subst hr
      exact Or.inr ⟨Nat.le_refl _, by simp [FIFOQueueMap.deref, FIFOQueueMap.create]⟩
    · exact Or.inl (by simp [FIFOQueueMap.deref, FIFOQueueMap.create, hr])

/-- **What any step does to the queues, and what it reports.** -/
theorem act_effect (h : s.act a = some s') : QueueEffect s s' (queueEvents s a s') := by
  unfold ServerSteps.act at h
  split at h
  · exact absurd h (by simp)
  · cases a with
    | select sel =>
        cases select_stepMove h with
        | idle _ _ _ hpc' hq _ _ _ _ hidle =>
            exact .same hq hidle.accepted (by rw [carried_of_unburdened hpc']; simp)
    | pump write => exact pumpStep_effect h
    | start op => cases h; exact .same rfl rfl (fun _ he => he)
    | call t =>
        obtain ⟨pc, ht, hs⟩ := Option.bind_eq_some_iff.mp h
        simpa [queueEvents, ht] using callStep_effect ht hs
    | createClient c =>
        cases h
        exact .quiet (queued_getOrCreate s.queueMap c) rfl (fun _ he => he)
    | getClientState c => cases h; exact .same rfl rfl (fun _ he => he)

theorem QueuesMove.next_le {m m' : FIFOQueueMap Posted} (h : QueuesMove m m') :
    m.next ≤ m'.next := by
  cases h with
  | create c =>
      unfold FIFOQueueMap.getOrCreate
      split
      · exact Nat.le_refl _
      · exact Nat.le_succ _
  | _ => exact Nat.le_refl _

end Step

/-! ## The record tells what is queued -/

structure Chronicled (s : ServerSteps) (log : List QueueEvent) : Prop where
  /-- What was pushed is what was popped, followed by what is queued. -/
  fifo : ∀ r, log.filterMap (QueueEvent.pushedOnto r)
    = log.filterMap (QueueEvent.poppedFrom r) ++ queued s r
  /-- Only queue objects that exist were pushed onto. -/
  exist : ∀ r p, .pushed r p ∈ log → r < s.queueMap.next
  /-- Stamps were handed out. -/
  bound : ∀ r p, .pushed r p ∈ log → p.seq < s.accepted
  grow : StampsGrow log

section Chronicle

variable {s s' : ServerSteps} {log events : List QueueEvent} {r : QueueRef} {p q : Posted}

/-- A queue object that was never pushed onto is empty. -/
theorem Chronicled.unused (h : Chronicled s log) (hr : s.queueMap.next ≤ r) :
    log.filterMap (QueueEvent.pushedOnto r) = []
      ∧ log.filterMap (QueueEvent.poppedFrom r) = [] := by
  have hnil : log.filterMap (QueueEvent.pushedOnto r) = [] := by
    refine List.eq_nil_iff_forall_not_mem.mpr fun p hp => ?_
    exact absurd (h.exist r p (mem_pushedOnto.mp hp)) (Nat.not_lt.mpr hr)
  have hfifo := h.fifo r
  rw [hnil] at hfifo
  exact ⟨hnil, (List.append_eq_nil_iff.mp hfifo.symm).1⟩

/-- Events that are no pushes leave the stamps. -/
theorem StampsGrow.append (h : StampsGrow log) (hev : ∀ e ∈ events, e.stamp = none) :
    StampsGrow (log ++ events) := by
  refine List.pairwise_append.mpr ⟨h, List.pairwise_of_forall_mem_list ?_, ?_⟩
  · intro e he e' _ m hm
    rw [hev e he] at hm
    cases hm
  · intro e _ e' he' m _ n hn
    rw [hev e' he'] at hn
    cases hn

theorem Chronicled.push (h : Chronicled s log) {req : RequestBundle} {r₀ : QueueRef}
    (hr₀ : r₀ < s.queueMap.next)
    (hq : queued s' = Function.update (queued s) r₀
      (queued s r₀ ++ [{ seq := s.accepted, bundle := req }]))
    (ha : s'.accepted = s.accepted + 1) (hnext : s.queueMap.next ≤ s'.queueMap.next) :
    Chronicled s' (log ++ [.pushed r₀ { seq := s.accepted, bundle := req }]) where
  fifo r := by
    rw [List.filterMap_append, List.filterMap_append, h.fifo r, hq]
    by_cases hr : r = r₀
    · subst hr
      simp [QueueEvent.pushedOnto, QueueEvent.poppedFrom]
    · simp [QueueEvent.pushedOnto, QueueEvent.poppedFrom, hr, Ne.symm hr]
  exist r p hp := by
    rcases List.mem_append.mp hp with hold | hnew
    · exact Nat.lt_of_lt_of_le (h.exist r p hold) hnext
    · cases List.mem_singleton.mp hnew
      exact Nat.lt_of_lt_of_le hr₀ hnext
  bound r p hp := by
    rw [ha]
    rcases List.mem_append.mp hp with hold | hnew
    · exact Nat.lt_succ_of_lt (h.bound r p hold)
    · cases List.mem_singleton.mp hnew
      exact Nat.lt_succ_self _
  grow := by
    refine List.pairwise_append.mpr ⟨h.grow, List.pairwise_singleton _ _, ?_⟩
    -- every stamp in the record is smaller than the one handed out now
    intro e he e' he' m hm n hn
    cases List.mem_singleton.mp he'
    cases hn
    cases e with
    | pushed r p =>
        cases hm
        exact h.bound r p he
    | _ => cases hm

/-- An event without a stamp is no push. -/
theorem pushed_old (hev : ∀ e ∈ events, e.stamp = none) (hp : .pushed r p ∈ log ++ events) :
    .pushed r p ∈ log := by
  rcases List.mem_append.mp hp with hold | hnew
  · exact hold
  · exact absurd (hev _ hnew) (by simp [QueueEvent.stamp])

/-- Without a push, only what is queued has to be accounted for. -/
theorem Chronicled.keep (h : Chronicled s log) (hev : ∀ e ∈ events, e.stamp = none)
    (hfifo : ∀ r, log.filterMap (QueueEvent.pushedOnto r)
      = (log ++ events).filterMap (QueueEvent.poppedFrom r) ++ queued s' r)
    (ha : s'.accepted = s.accepted) (hnext : s.queueMap.next ≤ s'.queueMap.next) :
    Chronicled s' (log ++ events) where
  fifo r := by
    have hnone : events.filterMap (QueueEvent.pushedOnto r) = [] := by
      refine List.eq_nil_iff_forall_not_mem.mpr fun p hp => ?_
      exact absurd (hev _ (mem_pushedOnto.mp hp)) (by simp [QueueEvent.stamp])
    rw [List.filterMap_append, hnone, List.append_nil]
    exact hfifo r
  exist r p hp := Nat.lt_of_lt_of_le (h.exist r p (pushed_old hev hp)) hnext
  bound r p hp := ha ▸ h.bound r p (pushed_old hev hp)
  grow := h.grow.append hev

theorem chronicled_step (h : Chronicled s log) (hrefs : PushesOwned s)
    (hnext : s.queueMap.next ≤ s'.queueMap.next) (heff : QueueEffect s s' events) :
    Chronicled s' (log ++ events) := by
  cases heff with
  | quiet hq ha _ =>
      refine h.keep (by simp) (fun r => ?_) ha hnext
      rw [List.append_nil]
      rcases hq r with hsame | ⟨hr, hnew⟩
      · rw [hsame]
        exact h.fifo r
      · rw [hnew, (h.unused hr).1, (h.unused hr).2]
        rfl
  | push c r req hcall hq ha _ => exact h.push (hrefs c r req hcall).1 hq ha hnext
  | pop r₀ hq ha _ =>
      refine h.keep (by simp [QueueEvent.stamp]) (fun r => ?_) ha hnext
      rw [List.filterMap_append, h.fifo r, hq, List.append_assoc]
      by_cases hr : r = r₀
      · subst hr
        cases hqueue : queued s r with
        | nil => simp
        | cons x xs => simp [QueueEvent.poppedFrom]
      · simp [Function.update_of_ne hr, QueueEvent.poppedFrom, Ne.symm hr]
  | peek r p _ hq ha _ =>
      refine h.keep (by simp) (fun r => ?_) ha hnext
      rw [List.append_nil, hq]
      exact h.fifo r
  | write c p _ hq ha _ =>
      refine h.keep (by simp [QueueEvent.stamp]) (fun r => ?_) ha hnext
      have hnone : [QueueEvent.written c p].filterMap (QueueEvent.poppedFrom r) = [] := rfl
      rw [List.filterMap_append, hq, hnone, List.append_nil]
      exact h.fifo r

/-! ## A request at the head -/

/-- It was pushed, and is not popped. -/
theorem Chronicled.head (h : Chronicled s log) (hp : (queued s r).head? = some p) :
    .pushed r p ∈ log ∧ .popped r p ∉ log := by
  have hqueued : p ∈ queued s r := List.mem_of_head? hp
  have hfifo := h.fifo r
  have hinc := h.grow.increasing r
  refine ⟨mem_pushedOnto.mp ?_, fun hpop => ?_⟩
  · rw [hfifo]
    exact List.mem_append_right _ hqueued
  · -- it would have to stand before itself
    rw [hfifo] at hinc
    have hlt := (List.pairwise_append.mp hinc).2.2 p (mem_poppedFrom.mpr hpop) p hqueued
    exact absurd hlt (Nat.lt_irrefl _)

/-- What was pushed before it is popped. -/
theorem Chronicled.before_head (h : Chronicled s log) (hp : (queued s r).head? = some p)
    (hq : .pushed r q ∈ log) (hlt : q.seq < p.seq) : .popped r q ∈ log := by
  have hfifo := h.fifo r
  have hsuffix : queued s r <:+ log.filterMap (QueueEvent.pushedOnto r) := by
    rw [hfifo]
    exact List.suffix_append _ _
  have hmem := mem_pushedOnto.mpr hq
  rw [hfifo] at hmem
  rcases List.mem_append.mp hmem with hpop | hqueued
  · exact mem_poppedFrom.mp hpop
  · have hle := ((h.grow.increasing r).suffix hsuffix).head_le hp hqueued
    omega

end Chronicle

/-! ## Writes follow the order of the pushes -/

/-- What was pushed onto the same queue before this request is among what was popped by then. -/
def Cleared (log done : List QueueEvent) (p : Posted) : Prop :=
  ∀ r q, .pushed r p ∈ log → .pushed r q ∈ log → q.seq < p.seq → .popped r q ∈ done

structure WrittenInOrder (s : ServerSteps) (log : List QueueEvent) : Prop where
  /-- The request in the pump's hands is next, and was not overtaken. -/
  hand : ∀ p, carried s.pump = some p → p.seq < s.accepted ∧ Cleared log log p
    ∧ ∀ c r q, .written c q ∈ log → .pushed r p ∈ log → .pushed r q ∈ log → q.seq ≤ p.seq
  bound : ∀ c p, .written c p ∈ log → p.seq < s.accepted
  cleared : ∀ (k : Nat) c p, log[k]? = some (.written c p) → Cleared log (log.take k) p
  order : ∀ (k m : Nat) c c' r p q, log[k]? = some (.written c p) →
    log[m]? = some (.written c' q) → .pushed r p ∈ log → .pushed r q ∈ log → p.seq < q.seq → k < m

section Writes

variable {s s' : ServerSteps} {log events : List QueueEvent} {r : QueueRef} {p q : Posted}

/-- Later pushes are of later requests, so they do not matter to this one. -/
theorem Cleared.mono {done done' : List QueueEvent} (h : Cleared log done p)
    (hp : p.seq < s.accepted)
    (hold : ∀ r q, .pushed r q ∈ log ++ events → q.seq < s.accepted → .pushed r q ∈ log)
    (hdone : done ⊆ done') : Cleared (log ++ events) done' p := by
  intro r q hpush hq hlt
  exact hdone (h r q (hold r p hpush hp) (hold r q hq (by omega)) hlt)

/-- Steps that write nothing and take up no request. -/
theorem WrittenInOrder.keep (h : WrittenInOrder s log) (ha : s.accepted ≤ s'.accepted)
    (hold : ∀ r q, .pushed r q ∈ log ++ events → q.seq < s.accepted → .pushed r q ∈ log)
    (hev : ∀ c p, .written c p ∉ events)
    (hpump : ∀ p, carried s'.pump = some p → carried s.pump = some p) :
    WrittenInOrder s' (log ++ events) := by
  have hwritten : ∀ c p, .written c p ∈ log ++ events → .written c p ∈ log := by
    intro c p hw
    exact (List.mem_append.mp hw).resolve_right (hev c p)
  have hat : ∀ (k : Nat) c p, (log ++ events)[k]? = some (.written c p) →
      log[k]? = some (.written c p) ∧ (log ++ events).take k = log.take k := by
    intro k c p hk
    rcases Nat.lt_or_ge k log.length with hlt | hge
    · rw [List.getElem?_append_left hlt] at hk
      exact ⟨hk, List.take_append_of_le_length (Nat.le_of_lt hlt)⟩
    · rw [List.getElem?_append_right hge] at hk
      exact absurd (List.mem_of_getElem? hk) (hev c p)
  refine ⟨?_, ?_, ?_, ?_⟩
  · intro p hp
    obtain ⟨hbound, hclear, hover⟩ := h.hand p (hpump p hp)
    refine ⟨by omega, hclear.mono hbound hold (List.subset_append_left _ _), ?_⟩
    intro c r q hw hpush hq
    have hw := hwritten c q hw
    exact hover c r q hw (hold r p hpush hbound) (hold r q hq (h.bound c q hw))
  · intro c p hw
    have := h.bound c p (hwritten c p hw)
    omega
  · intro k c p hk
    obtain ⟨hk, htake⟩ := hat k c p hk
    rw [htake]
    exact (h.cleared k c p hk).mono (h.bound c p (List.mem_of_getElem? hk)) hold
      (List.Subset.refl _)
  · intro k m c c' r p q hk hm hp hq hlt
    have hk := (hat k c p hk).1
    have hm := (hat m c' q hm).1
    exact h.order k m c c' r p q hk hm (hold r p hp (h.bound c p (List.mem_of_getElem? hk)))
      (hold r q hq (h.bound c' q (List.mem_of_getElem? hm))) hlt

/-- The pump reads a head: it is next, and no later one can have been read before it. -/
theorem WrittenInOrder.peek (h : WrittenInOrder s log) (hc : Chronicled s log)
    (hp : (queued s r).head? = some p) (ha : s'.accepted = s.accepted)
    (hpump : carried s'.pump = some p) : WrittenInOrder s' log := by
  obtain ⟨hpush, hpop⟩ := hc.head hp
  refine ⟨?_, fun c q hw => ha ▸ h.bound c q hw, h.cleared, h.order⟩
  intro p' hp'
  cases hpump.symm.trans hp'
  refine ⟨ha ▸ hc.bound r p hpush, ?_, ?_⟩
  · intro r' q hpush' hq hlt
    cases hc.grow.same_queue hpush hpush'
    exact hc.before_head hp hq hlt
  · intro c r' q hw hpush' hq
    cases hc.grow.same_queue hpush hpush'
    -- otherwise it was popped before the later one was written
    by_contra hlt
    obtain ⟨k, hk⟩ := List.mem_iff_getElem?.mp hw
    have hgone := h.cleared k c q hk r p hq hpush (by omega)
    exact hpop (List.mem_of_mem_take hgone)

/-- The pump writes the request in its hands. -/
theorem WrittenInOrder.write (h : WrittenInOrder s log) {c : String}
    (hp : carried s.pump = some p) (ha : s'.accepted = s.accepted)
    (hpump : carried s'.pump = none) : WrittenInOrder s' (log ++ [.written c p]) := by
  obtain ⟨hbound, hclear, hover⟩ := h.hand p hp
  have hold : ∀ r q, .pushed r q ∈ log ++ [.written c p] → .pushed r q ∈ log :=
    fun r q hq => pushed_old (by simp [QueueEvent.stamp]) hq
  have hold' : ∀ r q, .pushed r q ∈ log ++ [.written c p] → q.seq < s.accepted →
      .pushed r q ∈ log := fun r q hq _ => hold r q hq
  refine ⟨?_, ?_, ?_, ?_⟩
  · intro q hq
    rw [hpump] at hq
    cases hq
  · intro c' q hw
    rw [ha]
    rcases List.mem_append.mp hw with hw | hw
    · exact h.bound c' q hw
    · cases List.mem_singleton.mp hw
      exact hbound
  · intro k c' q hk
    rcases getElem?_snoc hk with hk | ⟨rfl, he⟩
    · have hlt := (List.getElem?_eq_some_iff.mp hk).1
      rw [List.take_append_of_le_length (Nat.le_of_lt hlt)]
      exact (h.cleared k c' q hk).mono (h.bound c' q (List.mem_of_getElem? hk)) hold'
        (List.Subset.refl _)
    · cases he
      rw [List.take_left]
      exact hclear.mono hbound hold' (List.Subset.refl _)
  · intro k m c₁ c₂ r p₁ p₂ hk hm hp₁ hp₂ hlt
    rcases getElem?_snoc hk with hk | ⟨rfl, he⟩
    · rcases getElem?_snoc hm with hm | ⟨rfl, _⟩
      · exact h.order k m c₁ c₂ r p₁ p₂ hk hm (hold r p₁ hp₁) (hold r p₂ hp₂) hlt
      · exact (List.getElem?_eq_some_iff.mp hk).1
    · cases he
      rcases getElem?_snoc hm with hm | ⟨_, he⟩
      · have hle := hover c₂ r p₂ (List.mem_of_getElem? hm) (hold r p hp₁) (hold r p₂ hp₂)
        omega
      · cases he
        exact absurd hlt (Nat.lt_irrefl _)

theorem writtenInOrder_step (h : WrittenInOrder s log) (hc : Chronicled s log)
    (heff : QueueEffect s s' events) : WrittenInOrder s' (log ++ events) := by
  cases heff with
  | quiet _ ha hpump =>
      exact h.keep (by omega) (fun r q hq _ => pushed_old (by simp) hq) (by simp) hpump
  | push c r req _ _ ha hpump =>
      refine h.keep (by omega) ?_ (by simp) (fun p hp => hpump ▸ hp)
      intro r' q hq hlt
      rcases List.mem_append.mp hq with hold | hnew
      · exact hold
      · cases List.mem_singleton.mp hnew
        exact absurd hlt (Nat.lt_irrefl _)
  | pop r _ ha hpump =>
      exact h.keep (by omega) (fun r q hq _ => pushed_old (by simp [QueueEvent.stamp]) hq)
        (by simp) hpump
  | peek r p hp _ ha hpump =>
      rw [List.append_nil]
      exact h.peek hc hp ha hpump
  | write c p hp _ ha hpump => exact h.write hp ha hpump

end Writes

/-- A started dispatcher, with the record. -/
def recordedQueues (n : Nat) (timeout : Int) :
    Machine (Recorded ServerSteps QueueEvent) ServerSteps.Action :=
  (ServerSteps.machine n timeout).recording queueEvents

theorem chronicled_reachable {n : Nat} {timeout : Int} {t : Recorded ServerSteps QueueEvent}
    (h : Reachable (recordedQueues n timeout) t) :
    Chronicled t.state t.log ∧ WrittenInOrder t.state t.log := by
  refine Reachable.invariant
    (P := fun t => Chronicled t.state t.log ∧ WrittenInOrder t.state t.log) ?_ ?_ h
  · rintro ⟨s, log⟩ ⟨hs, hlog⟩
    cases hs
    cases hlog
    refine ⟨⟨fun r => rfl, by simp, by simp, List.Pairwise.nil⟩, ⟨?_, by simp, by simp, by simp⟩⟩
    intro p hp
    cases hp
  · rintro t a t' hreach ⟨hc, hw⟩ hact
    obtain ⟨hact, hlog⟩ := Machine.recording_act hact
    have heff := act_effect hact
    have hrefs := pushesOwned_reachable (ReachableWhile.of_recording hreach)
    rw [hlog]
    exact ⟨chronicled_step hc hrefs (act_stepMove hact).queues.next_le heff,
      writtenInOrder_step hw hc heff⟩

/--
**The requests of a queue are written in the order they were pushed.** Of two requests
pushed onto one queue object, the first is popped before the second is written for the
first time, and every write of the first comes before every write of the second.
-/
theorem server_writes_in_push_order {n : Nat} {timeout : Int}
    {t : Recorded ServerSteps QueueEvent} (hreach : Reachable (recordedQueues n timeout) t)
    {r : QueueRef} {p q : Posted} {i j : Nat} (hij : i < j)
    (hp : t.log[i]? = some (.pushed r p)) (hq : t.log[j]? = some (.pushed r q))
    {c : String} {k : Nat} (hwrite : t.log[k]? = some (.written c q)) :
    (∃ m, m < k ∧ t.log[m]? = some (.popped r p))
      ∧ ∀ c' m, t.log[m]? = some (.written c' p) → m < k := by
  obtain ⟨hc, hw⟩ := chronicled_reachable hreach
  have hlt := hc.grow.of_positions hij hp hq
  have hpush := List.mem_of_getElem? hp
  have hpush' := List.mem_of_getElem? hq
  constructor
  · have hpopped := hw.cleared k c q hwrite r p hpush' hpush hlt
    obtain ⟨m, hm⟩ := List.mem_iff_getElem?.mp hpopped
    have hmk : m < k := by
      have := (List.getElem?_eq_some_iff.mp hm).1
      rw [List.length_take] at this
      omega
    exact ⟨m, hmk, by rwa [List.getElem?_take_of_lt hmk] at hm⟩
  · intro c' m hm
    exact hw.order m k c' c r p q hm hwrite hpush hpush' hlt

/-- Two requests are sent to one client; the first is written and answered, then the second. -/
def twoRequestsRun : List ServerSteps.Action :=
  [.createClient "a"] ++ ServerSteps.sending 0 "a" "1" ++ ServerSteps.sending 1 "a" "2"
    ++ ServerSteps.dispatching "a" ++ [.pump none] ++ ServerSteps.answering 2 "a" "1"
    ++ [.pump none, .select (.ready "a")] ++ List.replicate 6 (.pump none)

/-- The requests of `twoRequestsRun`, as they were queued. -/
def postedHeartbeat (n : Nat) (id : String) : Posted := { seq := n, bundle := heartbeatBundle id }

theorem two_requests_written_in_order :
    ∃ t : Recorded ServerSteps QueueEvent, Reachable (recordedQueues 10 0) t
      ∧ t.log = [.pushed 0 (postedHeartbeat 0 "1"), .pushed 0 (postedHeartbeat 1 "2"),
        .written "a" (postedHeartbeat 0 "1"), .popped 0 (postedHeartbeat 0 "1"),
        .written "a" (postedHeartbeat 1 "2")]
      ∧ (∃ m, m < 4 ∧ t.log[m]? = some (.popped 0 (postedHeartbeat 0 "1")))
      ∧ ∀ c' m, t.log[m]? = some (.written c' (postedHeartbeat 0 "1")) → m < 4 := by
  have hrun : ∃ t, (recordedQueues 10 0).run ⟨ServerSteps.start 10 0, []⟩ twoRequestsRun = some t
      ∧ t.log = [.pushed 0 (postedHeartbeat 0 "1"), .pushed 0 (postedHeartbeat 1 "2"),
        .written "a" (postedHeartbeat 0 "1"), .popped 0 (postedHeartbeat 0 "1"),
        .written "a" (postedHeartbeat 1 "2")] := ⟨_, rfl, rfl⟩
  obtain ⟨t, hs, hlog⟩ := hrun
  have hinit : Reachable (recordedQueues 10 0) ⟨ServerSteps.start 10 0, []⟩ := .init ⟨rfl, rfl⟩
  have hreach := hinit.run _ hs
  exact ⟨t, hreach, hlog, server_writes_in_push_order hreach (show 0 < 1 by decide)
    (by rw [hlog]; rfl) (by rw [hlog]; rfl) (by rw [hlog]; rfl)⟩

end OcppGo.Proof
