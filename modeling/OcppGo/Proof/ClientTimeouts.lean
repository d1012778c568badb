import OcppGo.Proof.ClientOutcomes

/-!
# Which request the client cancels on a timeout

The timer branch of the pump asks three questions one after the other: whether a
request is pending, which request is the head of the queue, and, inside
`CompleteRequest`, which one is the head now. A response that comes in between
the first two removes the pending request. Then the pump either finds nothing at
all and dereferences a nil call, or takes the next request, which was never
written, and reports that one as timed out.

With reader and pump settling one at a time the three answers are about the same
request. To say that it reached the network, the runs here record the requests
for which `network.Write` returned no error.
-/

namespace OcppGo.Proof

open OcppGo.Lib OcppGo.Ocppj

/-- What a step hands to the network without an error. -/
def transmitted (s : ClientSteps) (a : ClientSteps.Action) (_ : ClientSteps) : List Posted :=
  match s.pump, a with
  | .write p, .pump none => [p]
  | _, _ => []

/-- A reply to this request got through `ParseMessage`. -/
def Answered (s : ClientSteps) (rid : String) : Prop :=
  (∃ kind, (rid, Outcome.reply kind) ∈ s.outcomes)
    ∨ (∃ kind c, s.reader = .completing rid kind c) ∨ ∃ kind, s.reader = .handler rid kind

/-- The request the timer branch is about to cancel, or has canceled. -/
def timingOut : PumpPC → Option Posted
  | .timedOut p _ => some p
  | .reportTimedOut p => some p
  | _ => none

/-- Being written, or just refused by the network. -/
def writing : PumpPC → Option Posted
  | .write p => some p
  | .failed p _ c => if owes c then none else some p
  | _ => none

/-- The slot carries the id of the head. -/
def IsPending (s : ClientSteps) (q : Posted) : Prop :=
  s.requestQueue.peek = some q ∧ s.pendingRequestState.requestID = q.id ∧ q.id ≠ ""

/-- What the timer branch relies on. -/
structure Timely (t : Recorded ClientSteps Posted) : Prop where
  ids : UsableIds t.state
  calls : ∀ rid c, CallPC.completing rid c ∉ t.state.callers
  phase : Phase t.state
  balanced : Balanced t.state
  distinct : DistinctIds t.state
  /-- A pending request was transmitted, unless the pump is not done with writing it. -/
  delivered : ∀ q, IsPending t.state q → q ∈ t.log ∨ writing t.state.pump = some q
  /-- What is being canceled was transmitted. -/
  canceled : ∀ p, timingOut t.state.pump = some p → p ∈ t.log

theorem timely_start (n : Nat) (timeout : Int) : Timely ⟨ClientSteps.start n timeout, []⟩ where
  ids := usableIds_start n timeout
  calls := by simp [ClientSteps.start]
  phase := .free rfl rfl rfl
  balanced := List.Perm.refl _
  distinct := List.nodup_nil
  delivered := by rintro q ⟨hq, _, _⟩; exact absurd hq (by simp [ClientSteps.start])
  canceled := by intro p hp; exact absurd hp (by simp [ClientSteps.start, timingOut])

theorem writing_of_inert {pc : PumpPC} (h : inert pc = true) : writing pc = none := by
  cases pc <;> first | rfl | exact absurd h (by simp [inert])

theorem timingOut_of_inert {pc : PumpPC} (h : inert pc = true) : timingOut pc = none := by
  cases pc <;> first | rfl | exact absurd h (by simp [inert])

section Book

variable {s : ClientSteps}

/-- What was reported, or is about to be, is no longer queued. -/
theorem Balanced.popped (h : Balanced s) {rid : String}
    (hrid : rid ∈ s.outcomes.map Prod.fst ∨ rid ∈ due s) : rid ∈ s.popped.map Posted.id :=
  h.mem_iff.mp (List.mem_append.mpr hrid)

/-- No id is both removed and queued. -/
theorem DistinctIds.not_popped (h : DistinctIds s) {q : Posted}
    (hq : q ∈ s.requestQueue.elements) : q.id ∉ s.popped.map Posted.id := by
  intro hp
  rw [DistinctIds, acceptedRequests, List.map_append, List.nodup_append] at h
  exact h.2.2 _ hp _ (List.mem_map_of_mem hq) rfl

/-- The head does not share its id with a request behind it. -/
theorem DistinctIds.head_ne (h : DistinctIds s) {m q : Posted} (hm : s.requestQueue.peek = some m)
    (hq : q ∈ s.requestQueue.elements.tail) : q.id ≠ m.id := by
  intro he
  rw [DistinctIds, acceptedRequests, List.map_append] at h
  have hqueue := (List.nodup_append.mp h).2.1
  rw [FIFOClientQueue.cons_tail_of_peek hm, List.map_cons, List.nodup_cons] at hqueue
  exact hqueue.1 (he ▸ List.mem_map_of_mem hq)

/-- A slot without its request in the queue belongs to one being removed. -/
theorem Phase.popped_of_empty (h : Phase s) (hb : Balanced s)
    (hq : s.requestQueue.elements = []) (hne : s.pendingRequestState.requestID ≠ "") :
    s.pendingRequestState.requestID ∈ s.popped.map Posted.id := by
  have hnone : ∀ q, ¬ Marked s q := by
    intro q hm
    have hmem := hm.mem
    rw [hq] at hmem
    exact absurd hmem (by simp)
  cases h with
  | free hfree _ _ => exact absurd hfree hne
  | waiting q hm _ _ => exact absurd hm (hnone q)
  | reader q _ _ hm _ _ _ => exact absurd hm (hnone q)
  | pump q hm _ _ _ => exact absurd hm (hnone q)
  | readerPopped rid kind hr hid _ _ =>
      refine hb.popped (Or.inr (List.mem_append_left _ ?_))
      rw [hr, hid]
      exact mem_dueAt.mpr ⟨rfl, rfl⟩
  | pumpPopped rid hat hid _ _ =>
      refine hb.popped (Or.inr (List.mem_append_right _ ?_))
      rw [pumpDue_of_at hat, hid]
      exact mem_dueAt.mpr ⟨rfl, rfl⟩

/-- **Whatever the timer branch cancels was not answered.** -/
theorem not_answered (hphase : Phase s) (hb : Balanced s) (hd : DistinctIds s) {p : Posted}
    (hp : timingOut s.pump = some p) : ¬ Answered s p.id := by
  -- removed and reported once, so nothing else is due for the same id
  have hnodup : (s.outcomes.map Prod.fst ++ due s).Nodup := by
    refine hb.nodup_iff.mpr ?_
    rw [DistinctIds, acceptedRequests, List.map_append] at hd
    exact (List.nodup_append.mp hd).1
  have hsettled : p.id ∈ pumpDue s.pump → ¬ Answered s p.id := by
    intro hdue
    have hpopped := hb.popped (Or.inr (List.mem_append_right _ hdue))
    have hreader : p.id ∉ readerDue s.reader := by
      intro hr
      exact (List.nodup_append.mp (List.nodup_append.mp hnodup).2.1).2.2 _ hr _ hdue rfl
    rintro (⟨kind, hout⟩ | ⟨kind, c, hr⟩ | ⟨kind, hr⟩)
    · exact (List.nodup_append.mp hnodup).2.2 _ (List.mem_map_of_mem hout) _
        (List.mem_append_right _ hdue) rfl
    · rw [hr] at hreader
      cases ho : owes c with
      | true => exact hreader (mem_dueAt.mpr ⟨rfl, ho⟩)
      | false =>
          obtain ⟨m, hm, hid, _⟩ := hphase.reader_head hr ho
          exact hd.not_popped hm.mem (hid ▸ hpopped)
    · rw [hr] at hreader
      exact hreader (List.mem_singleton.mpr rfl)
  have hbefore : ∀ c, pumpAt s.pump = some (p.id, c) → owes c = false → ¬ Answered s p.id := by
    intro c hat ho
    obtain ⟨m, hm, hid, hrs⟩ := hphase.pump_head hat ho
    have hqueued := hd.not_popped hm.mem
    rw [hid] at hqueued
    rintro (⟨kind, hout⟩ | ⟨kind, c', hr⟩ | ⟨kind, hr⟩)
    · exact hqueued (hb.popped (Or.inl (List.mem_map_of_mem hout)))
    · cases ho' : owes c' with
      | true =>
          refine hqueued (hb.popped (Or.inr (List.mem_append_left _ ?_)))
          rw [hr]
          exact mem_dueAt.mpr ⟨rfl, ho'⟩
      | false =>
          rw [hr] at hrs
          exact absurd hrs (by simp [readerSettling, settling_of_not_owes ho'])
    · refine hqueued (hb.popped (Or.inr (List.mem_append_left _ ?_)))
      rw [hr]
      exact List.mem_singleton.mpr rfl
  cases hpc : s.pump with
  | timedOut p' c =>
      rw [hpc] at hp
      cases hp
      cases ho : owes c with
      | true => exact hsettled (by rw [hpc]; exact mem_dueAt.mpr ⟨rfl, ho⟩)
      | false => exact hbefore c (by rw [hpc]; rfl) ho
  | reportTimedOut p' =>
      rw [hpc] at hp
      cases hp
      exact hsettled (by rw [hpc]; exact List.mem_singleton.mpr rfl)
  | _ => rw [hpc] at hp; exact absurd hp (by simp [timingOut])

end Book

section Step

variable {s s' : ClientSteps} {a : ClientSteps.Action} {log : List Posted}

/-- Once the request in the slot is popped, no queued request is pending. -/
theorem not_pending_of_pop {m q : Posted} (hp : IsPending s' q) (hm : Marked s m)
    (hd : DistinctIds s) (hq : s'.requestQueue = s.requestQueue.pop)
    (hslot : s'.pendingRequestState = s.pendingRequestState) : False := by
  obtain ⟨hhead, hid, _⟩ := hp
  rw [hq] at hhead
  rw [hslot, hm.id] at hid
  exact hd.head_ne hm.head (List.mem_of_mem_head? hhead) hid.symm

/-- A slot that outlives a delete was taken before, by the same request. -/
theorem IsPending.of_delete {rid : String} {q : Posted}
    (h : IsPending s' q) (hq : s'.requestQueue = s.requestQueue)
    (hslot : s'.pendingRequestState = s.pendingRequestState.deletePendingRequest rid) :
    IsPending s q := by
  obtain ⟨hhead, hid, hne⟩ := h
  rw [hq] at hhead
  rw [hslot, ClientState.deletePendingRequest_requestID] at hid
  split at hid
  · exact absurd hid.symm hne
  · exact ⟨hhead, hid, hne⟩

/-- An operation of `CompleteRequest` that does not pop leaves what is pending pending. -/
theorem CompleteMove.pending_back {s₁ : ClientSteps} {rid : String} {c : Completing}
    {r : Option Completing} (hc : CompleteMove s rid c s₁ r) (hd : DistinctIds s)
    (hmk : owes c = false → ∃ m, Marked s m) (hq : s'.requestQueue = s₁.requestQueue)
    (hslot : s'.pendingRequestState = s₁.pendingRequestState) :
    ∀ q, IsPending s' q → IsPending s q := by
  intro q hp
  cases hc with
  | mismatch _ => rwa [IsPending, hq, hslot] at hp
  | found p _ _ => rwa [IsPending, hq, hslot] at hp
  | pop =>
      obtain ⟨m, hm⟩ := hmk rfl
      exact (not_pending_of_pop hp hm hd hq hslot).elim
  | delete => exact hp.of_delete hq hslot
  | ready _ => rwa [IsPending, hq, hslot] at hp

/-- The failed write is over once the pump gives up on it or has popped it. -/
theorem CompleteMove.failed_writing {s₁ : ClientSteps} {p q : Posted} {text : String}
    {c : Completing} {r : Option Completing} (hc : CompleteMove s p.id c s₁ r)
    (hq : IsPending s q) (hw : writing (.failed p text c) = some q) :
    (∃ c', r = some c' ∧ owes c' = false) ∨ c = .pop := by
  cases hc with
  | mismatch hne =>
      cases hw
      exact absurd rfl (hne _ hq.1)
  | found p' _ _ => exact Or.inl ⟨.pop, rfl, rfl⟩
  | pop => exact Or.inr rfl
  | delete => exact absurd hw (by simp [writing, owes])
  | ready _ => exact absurd hw (by simp [writing, owes])

/-- A step keeps every pending request transmitted, or in the pump's hands. -/
theorem delivered_step (h : Timely ⟨s, log⟩) (hok : Undisturbed s a) (hm : Move s a s') :
    ∀ q, IsPending s' q → q ∈ log ++ transmitted s a s' ∨ writing s'.pump = some q := by
  -- what is pending was so before, and the write in hand is done or still in hand
  have hsame : (∀ q, IsPending s' q → IsPending s q) →
      (∀ q, writing s.pump = some q → q ∈ transmitted s a s' ∨ writing s'.pump = some q) →
      ∀ q, IsPending s' q → q ∈ log ++ transmitted s a s' ∨ writing s'.pump = some q := by
    intro hback hw q hq
    rcases h.delivered q (hback q hq) with hlog | hwr
    · exact Or.inl (List.mem_append_left _ hlog)
    · exact (hw q hwr).imp_left (List.mem_append_right _)
  have hidle : writing s.pump = none → (∀ q, IsPending s' q → IsPending s q) →
      ∀ q, IsPending s' q → q ∈ log ++ transmitted s a s' ∨ writing s'.pump = some q := by
    intro hn hback
    refine hsame hback (fun q hq => ?_)
    rw [hn] at hq
    exact absurd hq (by simp)
  cases hm with
  | idle _ pc timer n hi _ _ => exact hidle (writing_of_inert hi) (fun _ hq => hq)
  | takeReady hpc _ => exact hidle (by rw [hpc]; rfl) (fun _ hq => hq)
  | seesReady _ hpc _ => exact hidle (by rw [hpc]; rfl) (fun _ hq => hq)
  | seesRequest _ hpc _ => exact hidle (by rw [hpc]; rfl) (fun _ hq => hq)
  | crash _ hpc _ =>
      refine hidle ?_ (fun _ hq => hq)
      rcases hpc with hpc | hpc <;> (rw [hpc]; rfl)
  | peek _ p hpc _ => exact hidle (by rw [hpc]; rfl) (fun _ hq => hq)
  | mark w p hpc =>
      have hhead : s.requestQueue.peek = some p := by
        have hu : PumpUndisturbed s w s.pump := hok
        rw [hpc] at hu
        exact hu
      rintro q ⟨hq, hid, hne⟩
      by_cases hfree : s.pendingRequestState.requestID = ""
      · -- the slot was free, so it was given to the head
        rw [hhead] at hq
        cases hq
        exact Or.inr rfl
      · have hpend : IsPending s q := by
          refine ⟨hq, ?_, hne⟩
          rwa [ClientState.addPendingRequest_of_pending hfree] at hid
        rcases h.delivered q hpend with hlog | hwr
        · exact Or.inl (List.mem_append_left _ hlog)
        · rw [hpc] at hwr
          exact absurd hwr (by simp [writing])
  | write p hpc =>
      refine hsame (fun _ hq => hq) (fun q hq => Or.inl ?_)
      rw [hpc] at hq
      cases hq
      simp [transmitted, hpc]
  | writeFails text p hpc =>
      refine hsame (fun _ hq => hq) (fun q hq => Or.inr ?_)
      rw [hpc] at hq
      cases hq
      rfl
  | failed _ p text c s₁ r hpc hc =>
      have hmk : owes c = false → ∃ m, Marked s m := by
        intro ho
        obtain ⟨m, hm, _, _⟩ := h.phase.pump_head (by rw [hpc]; rfl) ho
        exact ⟨m, hm⟩
      intro q hq
      have hq₀ : IsPending s q := hc.pending_back h.distinct hmk rfl rfl q hq
      rcases h.delivered q hq₀ with hlog | hwr
      · exact Or.inl (List.mem_append_left _ hlog)
      · have hwr' : writing (.failed p text c) = some q := by rw [← hpc]; exact hwr
        rcases hc.failed_writing hq₀ hwr' with ⟨c', rfl, ho⟩ | rfl
        · have hpq : p = q := by
            simp only [writing] at hwr'
            split at hwr'
            · exact absurd hwr' (by simp)
            · exact Option.some.inj hwr'
          exact Or.inr (by simp [pumpAfter, writing, ho, hpq])
        · cases hc with
          | pop =>
              obtain ⟨m, hm⟩ := hmk rfl
              exact (not_pending_of_pop hq hm h.distinct rfl rfl).elim
  | reportFailed _ p text hpc => exact hidle (by rw [hpc]; rfl) (fun _ hq => hq)
  | seesPending _ hpc _ => exact hidle (by rw [hpc]; rfl) (fun _ hq => hq)
  | peekTimeout _ p hpc _ => exact hidle (by rw [hpc]; rfl) (fun _ hq => hq)
  | timedOut _ p c s₁ r hpc hc =>
      refine hidle (by rw [hpc]; rfl) (hc.pending_back h.distinct (fun ho => ?_) rfl rfl)
      obtain ⟨m, hm, _, _⟩ := h.phase.pump_head (by rw [hpc]; rfl) ho
      exact ⟨m, hm⟩
  | reportTimedOut _ p hpc => exact hidle (by rw [hpc]; rfl) (fun _ hq => hq)
  | reader rid kind c s₁ r hpc hc =>
      refine hsame (hc.pending_back h.distinct (fun ho => ?_) rfl rfl) (fun q hq => Or.inr ?_)
      · obtain ⟨m, hm, _, _⟩ := h.phase.reader_head hpc ho
        exact ⟨m, hm⟩
      · show writing s₁.pump = some q
        rw [hc.pump]
        exact hq
  | push t req q' ht hq =>
      have hfresh : req.call.uniqueId ∉ (acceptedRequests s).map Posted.id := by
        have hu : CallUndisturbed s s.callers[t]? := hok
        rw [ht] at hu
        exact hu
      refine hsame ?_ (fun q hq => Or.inr hq)
      rintro q ⟨hhead, hid, hne⟩
      cases hp : s.requestQueue.peek with
      | some m =>
          have hsame : q'.peek = some q := hhead
          rw [peek_push hp hq] at hsame
          cases hsame
          exact ⟨hp, hid, hne⟩
      | none =>
          -- the slot of a request just removed cannot carry a fresh id
          have hempty : s.requestQueue.elements = [] := List.head?_eq_none_iff.mp hp
          have hslot : s.pendingRequestState.requestID ≠ "" := by rw [hid]; exact hne
          have hpopped := h.phase.popped_of_empty h.balanced hempty hslot
          have hqq : q = { seq := s.accepted, bundle := req } := by
            rw [FIFOClientQueue.peek_eq, hq, hempty] at hhead
            exact (Option.some.inj hhead).symm
          rw [hid, hqq] at hpopped
          refine absurd ?_ hfresh
          rw [acceptedRequests, List.map_append]
          exact List.mem_append_left _ hpopped
  | callerCompletes t rid c s₁ r ht _ => exact absurd (List.mem_of_getElem? ht) (h.calls rid c)
  | _ => exact hsame (fun _ hq => hq) (fun q hq => Or.inr hq)

/-- What the timer branch takes from the queue is the pending request, which was transmitted. -/
theorem canceled_step (h : Timely ⟨s, log⟩) (hm : Move s a s') :
    ∀ p, timingOut s'.pump = some p → p ∈ log ++ transmitted s a s' := by
  intro p hp
  refine List.mem_append_left _ ?_
  have hnot : timingOut s'.pump = none → p ∈ log := by
    intro hn
    rw [hn] at hp
    exact absurd hp (by simp)
  have hstay : s'.pump = s.pump → p ∈ log := by
    intro he
    rw [he] at hp
    exact h.canceled p hp
  cases hm with
  | idle _ pc timer n _ hi _ => exact hnot (timingOut_of_inert hi)
  | takeReady _ _ => exact hnot rfl
  | seesReady _ _ _ => exact hnot rfl
  | seesRequest _ _ _ => exact hnot rfl
  | crash _ _ _ => exact hnot rfl
  | peek _ q _ _ => exact hnot rfl
  | mark _ q _ => exact hnot rfl
  | write q _ => exact hnot rfl
  | writeFails text q _ => exact hnot rfl
  | failed _ q text c s₁ r _ _ => exact hnot (by cases r <;> rfl)
  | reportFailed _ q text _ => exact hnot rfl
  | seesPending _ _ _ => exact hnot rfl
  | peekTimeout _ q hpc hq =>
      -- nobody has touched the head since the slot was seen taken
      obtain ⟨m, hmk, _⟩ := h.phase.of_peekTimeout hpc
      have hqm : q = m := by
        rw [hmk.head] at hq
        exact (Option.some.inj hq).symm
      cases hp
      rcases h.delivered m ⟨hmk.head, hmk.id, hmk.taken⟩ with hlog | hwr
      · rw [hqm]
        exact hlog
      · rw [hpc] at hwr
        exact absurd hwr (by simp [writing])
  | timedOut _ q c s₁ r hpc _ =>
      refine h.canceled p ?_
      rw [hpc]
      cases r <;> exact hp
  | reportTimedOut _ q _ => exact hnot rfl
  | reader rid kind c s₁ r _ hc => exact hstay hc.pump
  | callerCompletes t rid c s₁ r _ hc => exact hstay hc.pump
  | _ => exact hstay rfl

theorem timely_step (h : Timely ⟨s, log⟩) (hok : Undisturbed s a) (hm : Move s a s')
    (halive : s'.pump ≠ .crashed) : Timely ⟨s', log ++ transmitted s a s'⟩ where
  ids := usableIds_step h.ids hok.ids hm
  calls := by
    refine calls_step h.calls ?_ hm
    rintro rid rfl
    exact hok
  phase := phase_step h.phase h.calls h.ids hok hm halive
  balanced := balanced_step h.balanced h.phase h.calls hm
  distinct := distinctIds_step h.distinct hok hm
  delivered := delivered_step h hok hm
  canceled := canceled_step h hm

end Step

/-- Runs of the dispatcher that record what was transmitted. -/
def transmissions (n : Nat) (timeout : Int) :
    Machine (Recorded ClientSteps Posted) ClientSteps.Action :=
  (ClientSteps.machine n timeout).recording transmitted

theorem transmissions_start (n : Nat) (timeout : Int) :
    (transmissions n timeout).init ⟨ClientSteps.start n timeout, []⟩ := ⟨rfl, rfl⟩

theorem timely_reachable {n : Nat} {timeout : Int} {t : Recorded ClientSteps Posted}
    (h : ReachableWhile (transmissions n timeout) (fun t a => Undisturbed t.state a) t) :
    t.state.pump ≠ .crashed → Timely t := by
  refine ReachableWhile.invariant (P := fun t => t.state.pump ≠ .crashed → Timely t) ?_ ?_ h
  · rintro ⟨s, log⟩ ⟨hs, hlog⟩ _
    have hs : s = ClientSteps.start n timeout := hs
    have hlog : log = [] := hlog
    rw [hs, hlog]
    exact timely_start n timeout
  · rintro ⟨s, log⟩ a ⟨s', log'⟩ _ ht hok hact halive
    obtain ⟨hact, hlog⟩ := Machine.recording_act hact
    obtain ⟨hpc, hm⟩ := act_move hact
    have hlog : log' = log ++ transmitted s a s' := hlog
    rw [hlog]
    exact timely_step (ht hpc) hok hm halive

/--
**A timeout cancels the pending request**, in every run in which reader and pump
settle requests one at a time and requests are marked at the head of the queue.

Once `HasPendingRequest` returned true, `Peek` finds the request whose id is in
the slot. What the pump then completes and reports to `onRequestCancel` was
written to the network without an error, and no reply to it was let through.
-/
theorem timeout_cancels_pending_request {n : Nat} {timeout : Int}
    {t : Recorded ClientSteps Posted}
    (h : ReachableWhile (transmissions n timeout) (fun t a => Undisturbed t.state a) t) :
    (t.state.pump = .peekTimeout →
        ∃ p, t.state.requestQueue.peek = some p
          ∧ p.id = t.state.pendingRequestState.requestID ∧ p ∈ t.log)
      ∧ ∀ p, (t.state.pump = .reportTimedOut p ∨ ∃ c, t.state.pump = .timedOut p c) →
          p ∈ t.log ∧ ¬ Answered t.state p.id := by
  have ht := timely_reachable h
  constructor
  · intro hpc
    have ht := ht (by rw [hpc]; simp)
    obtain ⟨q, hmk, _⟩ := ht.phase.of_peekTimeout hpc
    refine ⟨q, hmk.head, hmk.id.symm, ?_⟩
    refine (ht.delivered q ⟨hmk.head, hmk.id, hmk.taken⟩).resolve_right ?_
    rw [hpc]
    simp [writing]
  · intro p hp
    have htiming : timingOut t.state.pump = some p := by
      rcases hp with hp | ⟨c, hp⟩ <;> (rw [hp]; rfl)
    have ht := ht (by intro hc; rw [hc] at htiming; exact absurd htiming (by simp [timingOut]))
    exact ⟨ht.canceled p htiming, not_answered ht.phase ht.balanced ht.distinct htiming⟩

/-- Where reader and pump exclude each other, they do not disturb each other. -/
theorem undisturbed_of_exclusive {n : Nat} {timeout : Int} {t : Recorded ClientSteps Posted}
    (h : ReachableWhile (transmissions n timeout) (fun t a => Exclusive t.state a) t) :
    ReachableWhile (transmissions n timeout) (fun t a => Undisturbed t.state a) t :=
  h.of_reached (fun _ _ hr hok => hok.undisturbed (orderly_reachable hr.of_recording))

/-- The first of two requests was answered, the second is about to be reported as timed out. -/
theorem second_request_times_out :
    ∃ t p, ReachableWhile (transmissions 0 30) (fun t a => Undisturbed t.state a) t
      ∧ t.state.pump = .reportTimedOut p ∧ p.id = "2"
      ∧ p ∈ t.log ∧ ¬ Answered t.state p.id := by
  have hrun : ∃ t p, (transmissions 0 30).runWhile (fun t a => decide (Exclusive t.state a))
      ⟨ClientSteps.start 0 30, []⟩
      (ClientSteps.sending 0 "1" ++ ClientSteps.dispatching .request
        ++ ClientSteps.answering "1" ++ ClientSteps.sending 1 "2"
        ++ ClientSteps.dispatching .ready ++ ClientSteps.tick
        ++ List.replicate 6 (.pump none)) = some t
      ∧ t.state.pump = .reportTimedOut p ∧ p.id = "2" := ⟨_, _, rfl, rfl, rfl⟩
  obtain ⟨t, p, hs, hpc, hid⟩ := hrun
  have hr : ReachableWhile (transmissions 0 30) (fun t a => Exclusive t.state a) t :=
    ReachableWhile.runWhile (fun _ _ hc => of_decide_eq_true hc)
      (.init (transmissions_start 0 30)) _ hs
  have hr := undisturbed_of_exclusive hr
  exact ⟨t, p, hr, hpc, hid, (timeout_cancels_pending_request hr).2 p (Or.inl hpc)⟩

/--
A response comes in after `HasPendingRequest` returned true. With nothing else
queued `Peek` finds nothing, and the pump's next operation is a nil dereference;
with a second request queued that one, never written, is reported as timed out.
-/
theorem response_meets_timeout :
    (∃ t, Reachable (transmissions 0 30) t
      ∧ t.state.pump = .peekTimeout ∧ t.state.requestQueue.peek = none
      ∧ ∃ s', t.state.act (.pump none) = some s' ∧ s'.pump = .crashed)
    ∧ ∃ t p, Reachable (transmissions 0 30) t
      ∧ t.state.pump = .reportTimedOut p ∧ p.id = "2" ∧ t.log.map Posted.id = ["1"] := by
  constructor
  · have hrun : ∃ t, (transmissions 0 30).run ⟨ClientSteps.start 0 30, []⟩
        (ClientSteps.sending 0 "1" ++ ClientSteps.dispatching .request ++ ClientSteps.tick
          ++ .pump none :: ClientSteps.answering "1") = some t
        ∧ t.state.pump = .peekTimeout ∧ t.state.requestQueue.peek = none
        ∧ ∃ s', t.state.act (.pump none) = some s' ∧ s'.pump = .crashed :=
      ⟨_, rfl, rfl, rfl, _, rfl, rfl⟩
    obtain ⟨t, hs, hrest⟩ := hrun
    exact ⟨t, Reachable.run (.init (transmissions_start 0 30)) _ hs, hrest⟩
  · have hrun : ∃ t p, (transmissions 0 30).run ⟨ClientSteps.start 0 30, []⟩
        (ClientSteps.sending 0 "1" ++ ClientSteps.dispatching .request
          ++ ClientSteps.sending 1 "2" ++ ClientSteps.tick
          ++ .pump none :: .receive "1" .response :: List.replicate 3 .reader
          ++ List.replicate 5 (.pump none)) = some t
        ∧ t.state.pump = .reportTimedOut p ∧ p.id = "2" ∧ t.log.map Posted.id = ["1"] :=
      ⟨_, _, rfl, rfl, rfl, rfl⟩
    obtain ⟨t, p, hs, hrest⟩ := hrun
    exact ⟨t, p, Reachable.run (.init (transmissions_start 0 30)) _ hs, hrest⟩

end OcppGo.Proof
