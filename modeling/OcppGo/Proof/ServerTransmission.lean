import OcppGo.Proof.ServerOrder

/-!
# How often the server writes a request

The head of a client's queue stays queued while its answer is awaited. What keeps
the pump from writing it again is the client's timeout context: a request token is
passed over while the context is active. With no timeout set there is no context,
and the next request token has the outstanding head written again. With one, the
timer branch and a failed `Write` clear the context and also send a ready token, so
the client counts as ready twice: the request token dispatches the next request, and
the ready token dispatches it again. A `CompleteRequest` that signals late has the
same effect.

Surplus ready tokens are the only way. If the pump dispatches for a client only when
none of its ready tokens is in the channel or on its way, then none comes up as long
as the written request is queued: a `Pop` has to come first, and what it takes off
the client's queue is that request.
-/

namespace OcppGo.Proof

open OcppGo.Lib OcppGo.Ocppj

/-! ## The condition -/

/-- The pump has decided to dispatch for this client, and not yet read its queue. -/
def pumpLooks (c : String) : ServerPumpPC → Bool
  | .dispatchGet c' | .dispatchPeek c' _ => c' == c
  | _ => false

def callInTurn (s : ServerSteps) : ServerCall → Bool
  | .completing c _ (.pop r) => (s.queueMap.get c).all (· == r) && !pumpLooks c s.pump
  | _ => true

def pumpInTurn (s : ServerSteps) : ServerPumpPC → Bool
  | .test c =>
      !s.dispatches || !s.readyForDispatch.contains c && !s.calls.any (sendsReady c)
  | _ => true

/--
The pump dispatches for a client only when none of its ready tokens is in the
channel or on its way. A reader's `CompleteRequest` takes nothing from a queue that
was replaced, and nothing between the pump's decision to dispatch for the client and
its `Peek`. A client is not created again before its pending request was cleared,
and requests have usable ids.
-/
def writesInTurn (s : ServerSteps) : ServerSteps.Action → Bool
  | .start (.sendRequest _ req) => req.call.uniqueId != ""
  | .createClient c => (s.queueMap.get c).isSome || !s.calls.any (leaves c)
  | .call t => (s.calls[t]?).all (callInTurn s)
  | .pump _ => pumpInTurn s s.pump
  | .select _ | .start _ | .getClientState _ => true

/-! ## What was written -/

/-- The request passed to `Write`. -/
def QueueEvent.request : QueueEvent → Option Posted
  | .written _ p => some p
  | _ => none

/-- The request was passed to `Write`. -/
def Written (log : List QueueEvent) (p : Posted) : Prop :=
  ∃ c, QueueEvent.written c p ∈ log

section Record

variable {s s' : ServerSteps} {log events : List QueueEvent} {r r' : QueueRef} {p q : Posted}
  {c : String}

theorem written_iff : Written log p ↔ p ∈ log.filterMap QueueEvent.request := by
  rw [List.mem_filterMap]
  constructor
  · rintro ⟨c, h⟩
    exact ⟨_, h, rfl⟩
  · rintro ⟨e, he, hp⟩
    cases e with
    | written c q => cases hp; exact ⟨c, he⟩
    | _ => exact absurd hp (by simp [QueueEvent.request])

theorem Written.append (h : Written log p) : Written (log ++ events) p := by
  obtain ⟨c, hc⟩ := h
  exact ⟨c, List.mem_append_left _ hc⟩

theorem Written.of_append (h : Written (log ++ events) p) :
    Written log p ∨ ∃ c, .written c p ∈ events := by
  obtain ⟨c, hc⟩ := h
  rcases List.mem_append.mp hc with hold | hnew
  · exact Or.inl ⟨c, hold⟩
  · exact Or.inr ⟨c, hnew⟩

theorem Chronicled.pushed (h : Chronicled s log) (hp : p ∈ queued s r) : .pushed r p ∈ log := by
  refine mem_pushedOnto.mp ?_
  rw [h.fifo r]
  exact List.mem_append_right _ hp

/-- A request is queued in one queue object only. -/
theorem Chronicled.same_queue (h : Chronicled s log) (hp : p ∈ queued s r)
    (hp' : .pushed r' p ∈ log) : r = r' :=
  h.grow.same_queue (h.pushed hp) hp'

theorem Chronicled.increasing (h : Chronicled s log) (r : QueueRef) :
    Increasing Posted.seq (queued s r) := by
  refine (h.grow.increasing r).suffix ?_
  rw [h.fifo r]
  exact List.suffix_append _ _

/-- Everything queued before a request whose predecessors were popped is gone. -/
theorem Chronicled.head_of_cleared (h : Chronicled s log) (hp : p ∈ queued s r)
    (hclear : Cleared log log p) : (queued s r).head? = some p := by
  cases hq : queued s r with
  | nil => rw [hq] at hp; exact absurd hp (by simp)
  | cons x xs =>
      have hx : (queued s r).head? = some x := by rw [hq]; rfl
      by_cases he : p = x
      · rw [he]; rfl
      · -- the head would have been popped
        have hlt : x.seq < p.seq := by
          refine Nat.lt_of_not_le fun hle => he ?_
          exact (h.increasing r).eq_head hx hp hle
        exact absurd (hclear r x (h.pushed hp) (h.head hx).1 hlt) (h.head hx).2

/-- **Behind the head of a queue nothing was written.** -/
theorem tail_unwritten (hc : Chronicled s log) (hw : WrittenInOrder s log)
    (hp : p ∈ (queued s r).tail) : ¬ Written log p := by
  rintro ⟨c, hmem⟩
  have hqueued := List.mem_of_mem_tail hp
  obtain ⟨k, hk⟩ := List.mem_iff_getElem?.mp hmem
  have hclear := hw.cleared k c p hk
  have hhead := hc.head_of_cleared hqueued fun r' q hpush hq hlt =>
    List.mem_of_mem_take (hclear r' q hpush hq hlt)
  exact (hc.increasing r).head_notMem_tail hhead hp

/-- The request in the pump's hands is the head of its queue, or was popped. -/
theorem carried_head (hc : Chronicled s log) (hw : WrittenInOrder s log)
    (hp : carried s.pump = some p) (hmem : p ∈ queued s r) : (queued s r).head? = some p :=
  hc.head_of_cleared hmem (hw.hand p hp).2.1

theorem stamp_unwritten (hw : WrittenInOrder s log) (hp : s.accepted ≤ p.seq) :
    ¬ Written log p := by
  rintro ⟨c, hmem⟩
  exact absurd (hw.bound c p hmem) (Nat.not_lt.mpr hp)

end Record

/-! ## Outstanding requests -/

/-- The head of the client's queue was passed to `Write`. -/
def OutstandingAt (s : ServerSteps) (log : List QueueEvent) (c : String) (r : QueueRef)
    (p : Posted) : Prop :=
  HeadAt s.queueMap c r p ∧ Written log p

section Outstanding

variable {s s' : ServerSteps} {log : List QueueEvent} {a : ServerSteps.Action} {r : QueueRef}
  {p : Posted} {c : String}

/-- A queue a client has is the one it had, or unused so far. -/
theorem QueuesMove.get_of {m m' : FIFOQueueMap Posted} (h : QueuesMove m m')
    (hget : m'.get c = some r) : m.get c = some r ∨ m.next ≤ r := by
  cases h with
  | same => exact Or.inl hget
  | store r' q => exact Or.inl hget
  | remove c' =>
      by_cases hc : c = c'
      · subst hc
        exact absurd hget (by simp [FIFOQueueMap.get, FIFOQueueMap.remove])
      · exact Or.inl (by rwa [FIFOQueueMap.get_remove_ne m hc] at hget)
  | create c' =>
      unfold FIFOQueueMap.getOrCreate at hget
      split at hget
      · exact Or.inl hget
      · by_cases hc : c = c'
        · subst hc
          have hnext : m.next = r := by simpa [FIFOQueueMap.get, FIFOQueueMap.create] using hget
          exact Or.inr (Nat.le_of_eq hnext)
        · exact Or.inl (by simpa [FIFOQueueMap.get, FIFOQueueMap.create, hc] using hget)

theorem head_of_pushed {l : List Posted} {x : Posted} (h : (l ++ [x]).head? = some p) :
    l.head? = some p ∨ p = x := by
  cases l with
  | nil => exact Or.inr (Option.some.inj h).symm
  | cons y ys => exact Or.inl h

/-- Only the pump writes. -/
theorem written_event {c' : String} (h : .written c' p ∈ queueEvents s a s') :
    s.pump = .write c' p ∧ ∃ w, a = .pump w := by
  cases a with
  | pump w =>
      refine ⟨?_, w, rfl⟩
      have hpump : .written c' p ∈ pumpEvents s s.pump := h
      cases hpc : s.pump with
      | write c₁ p₁ =>
          rw [hpc] at hpump
          cases List.mem_singleton.mp hpump
          rfl
      | timedOut c₁ p₁ k =>
          rw [hpc] at hpump
          exact absurd hpump (by cases k <;> simp [pumpEvents, completeEvents])
      | failed c₁ p₁ text k =>
          rw [hpc] at hpump
          exact absurd hpump (by cases k <;> simp [pumpEvents, completeEvents])
      | _ => rw [hpc] at hpump; exact absurd hpump (by simp [pumpEvents])
  | call t =>
      obtain ⟨pc, _, hpc⟩ := List.mem_flatMap.mp h
      cases pc with
      | push c₁ r₁ req =>
          simp only [callEvents] at hpc
          split at hpc <;> exact absurd hpc (by simp)
      | completing c₁ id k =>
          exact absurd hpc (by cases k <;> simp [callEvents, completeEvents])
      | _ => exact absurd hpc (by simp [callEvents])
  | _ => exact absurd h (by simp [queueEvents])

/-- A written head of a queue was its head before: heads change to unwritten ones. -/
theorem written_head_step (hc : Chronicled s log) (hw : WrittenInOrder s log)
    (hact : s.act a = some s') (hhead : (queued s' r).head? = some p)
    (hwritten : Written (log ++ queueEvents s a s') p) :
    (queued s r).head? = some p
      ∧ (Written log p ∨ ∃ c', s.pump = .write c' p ∧ ∃ w, a = .pump w) := by
  have heff := act_effect hact
  have hwritten := hwritten.of_append
  refine ⟨?_, hwritten.imp_right fun ⟨c', hmem⟩ => ⟨c', written_event hmem⟩⟩
  generalize queueEvents s a s' = events at heff hwritten
  cases heff with
  | quiet hq _ _ =>
      rcases hq r with hsame | ⟨_, hnil⟩
      · rw [← hsame]; exact hhead
      · rw [hnil] at hhead; exact absurd hhead (by simp)
  | push c₁ r₁ req _ hq _ _ =>
      rw [hq] at hhead
      by_cases hr : r = r₁
      · subst hr
        rw [Function.update_self] at hhead
        rcases head_of_pushed hhead with hold | rfl
        · exact hold
        · rcases hwritten with hwritten | ⟨c', hmem⟩
          · exact absurd hwritten (stamp_unwritten hw (Nat.le_refl _))
          · exact absurd hmem (by simp)
      · rwa [Function.update_of_ne hr] at hhead
  | pop r₁ hq _ _ =>
      rw [hq] at hhead
      by_cases hr : r = r₁
      · subst hr
        rw [Function.update_self] at hhead
        rcases hwritten with hwritten | ⟨c', hmem⟩
        · exact absurd hwritten (tail_unwritten hc hw (List.mem_of_mem_head? hhead))
        · exact absurd hmem (by simp)
      · rwa [Function.update_of_ne hr] at hhead
  | peek r₁ p₁ _ hq _ _ => rwa [hq] at hhead
  | write c₁ p₁ _ hq _ _ => rwa [hq] at hhead

/-- A client's queue that holds something is the one it had. -/
theorem get_of_step (hc : Chronicled s log) (hm : StepMove s a s') (hp : p ∈ queued s r)
    (hget : s'.queueMap.get c = some r) : s.queueMap.get c = some r := by
  rcases hm.queues.get_of hget with hsame | hnext
  · exact hsame
  · exact absurd (hc.exist r p (hc.pushed hp)) (Nat.not_lt.mpr hnext)

/-- **A request becomes outstanding by being written.** -/
theorem outstanding_step (hc : Chronicled s log) (hw : WrittenInOrder s log)
    (hact : s.act a = some s') (h : OutstandingAt s' (log ++ queueEvents s a s') c r p) :
    HeadAt s.queueMap c r p ∧ (Written log p ∨ ∃ c', s.pump = .write c' p ∧ ∃ w, a = .pump w) := by
  obtain ⟨hhead, hwritten⟩ := written_head_step hc hw hact h.1.2 h.2
  exact ⟨⟨get_of_step hc (act_stepMove hact) (List.mem_of_mem_head? hhead) h.1.1, hhead⟩, hwritten⟩

/-- What a client has queued, and was accepted before, it had queued before. -/
theorem mem_contents_step (hc : Chronicled s log) (hm : StepMove s a s')
    (hp : p.seq < s.accepted) (h : p ∈ s'.queueMap.contents c) : p ∈ s.queueMap.contents c := by
  obtain ⟨r, hget⟩ := get_of_contents (List.ne_nil_of_mem h)
  rw [FIFOQueueMap.contents_of_get hget] at h
  rcases mem_queue_step hm h with hold | ⟨c', req, _, rfl⟩
  · rw [FIFOQueueMap.contents_of_get (get_of_step hc hm hold hget)]
    exact hold
  · exact absurd hp (Nat.lt_irrefl _)

end Outstanding

/-! ## Where the pump can be while a request is outstanding -/

/-- The pump's own `CompleteRequest` is about to take off the outstanding request. -/
def Completes (r : QueueRef) (p p₀ : Posted) : ServerCompleting → Prop
  | .get => p₀ = p
  | .peek r' => r' = r ∧ p₀ = p
  | .pop r' => r' = r
  | .delete | .ready => False

/--
The client's context is active, or the pump is in the branch that ends the request.
It is not on its way to a dispatch for the client.
-/
def Serving (s : ServerSteps) (c : String) (r : QueueRef) (p : Posted) : Prop :=
  match s.pump with
  | .hasPending c' | .timeoutGet c' _ => c' = c ∨ s.activeContext c ≠ none
  | .timeoutPeek c' r' _ => c' = c ∧ r' = r ∨ c' ≠ c ∧ s.activeContext c ≠ none
  | .timedOut c' p₀ k | .failed c' p₀ _ k =>
      c' = c ∧ Completes r p p₀ k ∨ c' ≠ c ∧ s.activeContext c ≠ none
  | .test c' => s.activeContext c ≠ none ∧ (c' = c → s.rdy = false)
  | .readyGet c' | .dispatchGet c' | .dispatchPeek c' _ | .addPending c' _ | .write c' _
  | .reportTimedOut c' _ | .reportFailed c' _ _ => c' ≠ c ∧ s.activeContext c ≠ none
  | .reqChan | .select | .requestGet _ => s.activeContext c ≠ none
  | .crashed => True

section Serving

variable {s s' s₁ : ServerSteps} {a : ServerSteps.Action} {c : String} {r : QueueRef} {p : Posted}

theorem Serving.keep (h : Serving s c r p) (hpump : s'.pump = s.pump) (hrdy : s'.rdy = s.rdy)
    (hctx : s'.clientContextMap = s.clientContextMap) : Serving s' c r p := by
  unfold Serving at h ⊢
  rw [hpump, hrdy, activeContext_congr (congrFun hctx c)]
  exact h

theorem ContextEnded.active {c' : String} {calls : List ServerCall}
    {contexts : String → Option (Option Nat)} (h : ContextEnded s c' calls contexts) (hne : c' ≠ c)
    (hs : s'.clientContextMap = contexts) (hactive : s.activeContext c ≠ none) :
    s'.activeContext c ≠ none := by
  have hsame : s'.activeContext c = s.activeContext c :=
    activeContext_congr (by rw [hs]; exact h.other c hne.symm)
  rwa [hsame]

theorem endDispatch_active {c' : String} (hne : c' ≠ c) (hactive : s.activeContext c ≠ none) :
    (s.endDispatch c').activeContext c ≠ none := by
  rwa [activeContext_congr (s := s) (Function.update_of_ne hne.symm _ _)]

theorem serving_idle (h : Serving s c r p) (hhead : HeadAt s.queueMap c r p)
    (hready : ¬ ReadyComing s c) (hslot : pendingID s c ≠ "") (hidle : IdleStep s a s') :
    Serving s' c r p := by
  unfold Serving at h
  cases hidle with
  | reqChan w hpc => rw [hpc] at h; exact h
  | takeRequest c' hpc _ => rw [hpc] at h; exact h
  | takeTimer c' calls contexts hpc _ hended =>
      rw [hpc] at h
      by_cases hc : c' = c
      · exact Or.inl hc
      · exact Or.inr (hended.active hc rfl h)
  | takeReady c' calls contexts hpc hmem hended =>
      rw [hpc] at h
      have hc : c' ≠ c := by
        rintro rfl
        exact hready (Or.inl (List.mem_of_mem_head? hmem))
      exact ⟨hc, hended.active hc rfl h⟩
  | gone w c' calls contexts hpc hget hended =>
      rw [hpc] at h
      have hc : c' ≠ c := by
        rintro rfl
        rw [hhead.1] at hget
        exact absurd hget (by simp)
      exact hended.active hc rfl h
  | requestGet w c' r' hpc _ =>
      rw [hpc] at h
      refine ⟨h, ?_⟩
      rintro rfl
      exact Option.isNone_eq_false_iff.mpr (Option.isSome_iff_ne_none.mpr h)
  | nothingPending w c' hpc hnone =>
      rw [hpc] at h
      have hc : c' ≠ c := by
        rintro rfl
        exact hslot hnone
      exact ⟨h.resolve_left hc, fun e => absurd e hc⟩
  | readyGet w c' hpc =>
      rw [hpc] at h
      exact ⟨h.2, fun e => absurd e h.1⟩
  | leave w c' hpc _ => rw [hpc] at h; exact h.1
  | dispatchGone w c' hpc _ => rw [hpc] at h; exact endDispatch_active h.1 h.2

/-- What the pump's own `CompleteRequest` does next, for this client or for another. -/
theorem serving_completes {c' : String} {p₀ : Posted} {k : ServerCompleting}
    {o : Option ServerCompleting} (hc : StepCompletes s c' p₀.id k s₁ o)
    (hhead : HeadAt s.queueMap c r p) (hhead' : HeadAt s₁.queueMap c r p)
    (hinc : Increasing Posted.seq (queued s r))
    (h : c' = c ∧ Completes r p p₀ k ∨ c' ≠ c ∧ s.activeContext c ≠ none) :
    (∃ k', o = some k' ∧ (c' = c ∧ Completes r p p₀ k' ∨ c' ≠ c ∧ s.activeContext c ≠ none))
      ∨ o = none ∧ c' ≠ c ∧ s.activeContext c ≠ none := by
  rcases h with ⟨rfl, hk⟩ | hother
  · left
    cases hc with
    | noQueue hget => rw [hhead.1] at hget; exact absurd hget (by simp)
    | got r' hget =>
        have hr : r' = r := Option.some.inj (hget.symm.trans hhead.1)
        exact ⟨_, rfl, Or.inl ⟨rfl, hr, hk⟩⟩
    | mismatch r' hne =>
        obtain ⟨rfl, rfl⟩ := hk
        exact absurd rfl (hne p₀ hhead.2)
    | found r' p' _ _ => exact ⟨_, rfl, Or.inl ⟨rfl, hk.1⟩⟩
    | pop r' =>
        -- the request would be gone
        cases hk
        have htail : (queued s r).tail.head? = some p := by
          have hpeek := hhead'.2
          rw [show (s.queueMap.store r (s.queueMap.deref r).pop).deref r
            = (s.queueMap.deref r).pop by simp [FIFOQueueMap.deref, FIFOQueueMap.store]] at hpeek
          exact hpeek
        exact absurd (List.mem_of_mem_head? htail) (hinc.head_notMem_tail hhead.2)
    | delete => exact hk.elim
    | ready _ => exact hk.elim
  · cases o with
    | none => exact Or.inr ⟨rfl, hother⟩
    | some k' => exact Or.inl ⟨k', rfl, Or.inr hother⟩

theorem StepCompletes.activeContext {c' id : String} {k : ServerCompleting}
    {o : Option ServerCompleting} (hc : StepCompletes s c' id k s₁ o) (c : String) :
    s₁.activeContext c = s.activeContext c :=
  activeContext_congr (congrFun hc.clientContextMap c)

/-- **The pump does not come to a dispatch for the client** while its request is outstanding. -/
theorem serving_step (h : Serving s c r p) (hhead : HeadAt s.queueMap c r p)
    (hhead' : HeadAt s'.queueMap c r p) (hinc : Increasing Posted.seq (queued s r))
    (hready : ¬ ReadyComing s c) (hslot : pendingID s c ≠ "") (hm : StepMove s a s') :
    Serving s' c r p := by
  have hold := h
  unfold Serving at h
  cases hm with
  | idle _ _ _ _ _ _ _ _ _ hidle => exact serving_idle hold hhead hready hslot hidle
  | seesPending w c' hpc _ => rw [hpc] at h; exact h
  | timeoutGet w c' pending r' hpc hget =>
      rw [hpc] at h
      by_cases hc : c' = c
      · subst hc
        exact Or.inl ⟨rfl, Option.some.inj (hget.symm.trans hhead.1)⟩
      · exact Or.inr ⟨hc, h.resolve_left hc⟩
  | timeoutPeek w c' pending r' p' hpc hpeek =>
      rw [hpc] at h
      refine h.imp_left ?_
      rintro ⟨hc, rfl⟩
      exact ⟨hc, Option.some.inj (hpeek.symm.trans hhead.2)⟩
  | timedOut w c' p₀ k s₁ o hpc hc =>
      rw [hpc] at h
      rcases serving_completes hc hhead hhead' hinc h with ⟨k', rfl, hnext⟩ | ⟨rfl, hne, hactive⟩
      · rw [← hc.activeContext c] at hnext
        exact hnext
      · rw [← hc.activeContext c] at hactive
        exact ⟨hne, hactive⟩
  | reportTimedOut w c' p' hpc =>
      rw [hpc] at h
      exact ⟨h.2, fun e => absurd e h.1⟩
  | commit w c' hpc hdisp =>
      rw [hpc] at h
      refine ⟨fun hc => ?_, h.1⟩
      rw [ServerSteps.dispatches, h.2 hc] at hdisp
      split at hdisp <;> exact absurd hdisp (by simp)
  | dispatchGet w c' r' hpc _ => rw [hpc] at h; exact h
  | dispatchPeek w c' r' p' hpc _ => rw [hpc] at h; exact h
  | mark w c' p' hpc => rw [hpc] at h; exact h
  | write c' p' s' hpc hpc' _ _ _ _ _ _ hs' =>
      rw [hpc] at h
      unfold Serving
      rw [hpc', hs', activeContext_congr (s := s)]
      · exact h.2
      · rw [ServerSteps.written]
        dsimp only
        split
        · exact Function.update_of_ne h.1.symm _ _
        · exact Function.update_of_ne h.1.symm _ _
  | writeFails text c' p' hpc => rw [hpc] at h; exact Or.inr h
  | failed w c' p₀ text k s₁ o hpc hc =>
      rw [hpc] at h
      rcases serving_completes hc hhead hhead' hinc h with ⟨k', rfl, hnext⟩ | ⟨rfl, hne, hactive⟩
      · rw [← hc.activeContext c] at hnext
        exact hnext
      · rw [← hc.activeContext c] at hactive
        exact ⟨hne, hactive⟩
  | reportFailed w c' p' text hpc => rw [hpc] at h; exact endDispatch_active h.1 h.2
  | crash w _ => trivial
  | callMoves t pc pc' _ _ _ _ _ _ _ _ _ _ hs' => subst hs'; exact hold.keep rfl rfl rfl
  | callCompletes t c' id k s₁ o _ hc => exact hold.keep hc.pump hc.rdy hc.clientContextMap
  | start op => exact hold.keep rfl rfl rfl
  | push t c' r' req q _ _ => exact hold.keep rfl rfl rfl
  | remove t c' _ => exact hold.keep rfl rfl rfl
  | clear t c' _ => exact hold.keep rfl rfl rfl
  | createClient c' => exact hold.keep rfl rfl rfl
  | getClientState c' => exact hold.keep rfl rfl rfl

end Serving

/-! ## What the pump has taken up -/

/-- No request of the client is outstanding. -/
def Vacant (s : ServerSteps) (log : List QueueEvent) (c : String) : Prop :=
  ∀ r p, ¬ OutstandingAt s log c r p

/-- The pump has read an unwritten head of a queue of the client. -/
structure TakenUp (s : ServerSteps) (log : List QueueEvent) (c : String) (p : Posted) : Prop where
  vacant : Vacant s log c
  unwritten : ¬ Written log p
  home : ∃ r, .pushed r p ∈ log ∧ OwnedBy s.queueMap c r
  /-- While it is queued, no ready token is coming. -/
  quiet : p ∈ s.queueMap.contents c → ¬ ReadyComing s c

/-- What the pump's decision to dispatch rests on. -/
def CommittedTo (s : ServerSteps) (log : List QueueEvent) : ServerPumpPC → Prop
  | .dispatchGet c => Vacant s log c ∧ ¬ ReadyComing s c
  | .dispatchPeek c r => (Vacant s log c ∧ ¬ ReadyComing s c) ∧ OwnedBy s.queueMap c r
      ∧ ∀ p, (queued s r).head? = some p → ¬ Written log p
  | .addPending c p => TakenUp s log c p
  | .write c p => TakenUp s log c p ∧ (p ∈ s.queueMap.contents c → pendingID s c ≠ "")
  | _ => True

/-- At most one request of a client is outstanding, and only new ones are dispatched. -/
structure OneOutstanding (s : ServerSteps) (log : List QueueEvent) : Prop where
  outstanding : ∀ c r p, OutstandingAt s log c r p →
    ¬ ReadyComing s c ∧ pendingID s c ≠ "" ∧ Serving s c r p
  committed : CommittedTo s log s.pump
  nodup : (log.filterMap QueueEvent.request).Nodup
  timeout : 0 < s.timeout
  departed : Departed s
  named : IdsNamed s

section CommittedTo

variable {s s' : ServerSteps} {log : List QueueEvent} {a : ServerSteps.Action} {c : String}
  {r : QueueRef} {p : Posted}

theorem Vacant.step (h : Vacant s log c) (hc : Chronicled s log) (hw : WrittenInOrder s log)
    (hact : s.act a = some s') (hpc : ∀ c' p, s.pump ≠ .write c' p) :
    Vacant s' (log ++ queueEvents s a s') c := by
  intro r p hout
  obtain ⟨hhead, hwritten | ⟨c', hpump, _⟩⟩ := outstanding_step hc hw hact hout
  · exact h r p ⟨hhead, hwritten⟩
  · exact hpc c' p hpump

/-- A reader that pops for a client pops its queue, and the pump has not just decided to look. -/
theorem inTurn_pop {t : Nat} {id : String} (hok : writesInTurn s (.call t) = true)
    (ht : s.calls[t]? = some (.completing c id (.pop r))) :
    (∀ r', s.queueMap.get c = some r' → r' = r) ∧ pumpLooks c s.pump = false := by
  simp only [writesInTurn, ht, Option.all_some, callInTurn, Bool.and_eq_true,
    Bool.not_eq_true'] at hok
  refine ⟨fun r' hget => ?_, hok.2⟩
  rw [hget] at hok
  exact beq_iff_eq.mp hok.1

/-- While the pump looks at a client's queue, no ready token of that client comes up. -/
theorem quiet_step (h : ¬ ReadyComing s c) (hok : writesInTurn s a = true) (hm : StepMove s a s')
    (hlooks : pumpLooks c s.pump = true) : ¬ ReadyComing s' c := by
  intro hready
  rcases readyComing_of_step hm hready with hold | ⟨r, ⟨t, id, rfl, ht⟩ | ⟨w, id, _, hpump⟩⟩
  · exact h hold
  · rw [(inTurn_pop hok ht).2] at hlooks
    exact absurd hlooks (by simp)
  · cases hpc : s.pump with
    | dispatchGet c' => rw [hpc] at hpump; exact absurd hpump (by simp [pumpCompleting])
    | dispatchPeek c' r' => rw [hpc] at hpump; exact absurd hpump (by simp [pumpCompleting])
    | _ => rw [hpc] at hlooks; exact absurd hlooks (by simp [pumpLooks])

/-- A request the pump has in its hands is popped by whoever makes a ready token necessary. -/
theorem quiet_taken (h : p ∈ s.queueMap.contents c → ¬ ReadyComing s c) (hc : Chronicled s log)
    (hw : WrittenInOrder s log) (hp : carried s.pump = some p) (hok : writesInTurn s a = true)
    (hm : StepMove s a s') (hmem : p ∈ s'.queueMap.contents c) : ¬ ReadyComing s' c := by
  intro hready
  have hold := mem_contents_step hc hm (hw.hand p hp).1 hmem
  rcases readyComing_of_step hm hready with hcoming | ⟨r, hpops⟩
  · exact h hold hcoming
  · have hq := hpops.queueMap hm
    rcases hpops with ⟨t, id, rfl, ht⟩ | ⟨w, id, _, hpump⟩
    · obtain ⟨r', hget⟩ := get_of_contents (List.ne_nil_of_mem hold)
      cases (inTurn_pop hok ht).1 r' hget
      rw [FIFOQueueMap.contents_of_get hget] at hold
      rw [hq, FIFOQueueMap.contents_store_self hget] at hmem
      exact (hc.increasing _).head_notMem_tail (carried_head hc hw hp hold) hmem
    · cases hpc : s.pump with
      | addPending c' p' => rw [hpc] at hpump; exact absurd hpump (by simp [pumpCompleting])
      | write c' p' => rw [hpc] at hpump; exact absurd hpump (by simp [pumpCompleting])
      | _ => rw [hpc] at hp; exact absurd hp (by simp [carried])

theorem TakenUp.step (h : TakenUp s log c p) (hc : Chronicled s log) (hw : WrittenInOrder s log)
    (hp : carried s.pump = some p) (hok : writesInTurn s a = true) (hact : s.act a = some s')
    (hpc : ∀ w, a = .pump w → ∀ c' p', s.pump ≠ .write c' p') :
    TakenUp s' (log ++ queueEvents s a s') c p where
  vacant r q hout := by
    obtain ⟨hhead, hwritten | ⟨c', hpump, w, rfl⟩⟩ := outstanding_step hc hw hact hout
    · exact h.vacant r q ⟨hhead, hwritten⟩
    · exact hpc w rfl c' q hpump
  unwritten hwritten := by
    rcases hwritten.of_append with hold | ⟨c', hmem⟩
    · exact h.unwritten hold
    · obtain ⟨hpump, w, rfl⟩ := written_event hmem
      exact hpc w rfl c' p hpump
  home := by
    obtain ⟨r, hpush, hown⟩ := h.home
    exact ⟨r, List.mem_append_left _ hpush, hown.step (act_stepMove hact).queues⟩
  quiet hmem := quiet_taken h.quiet hc hw hp hok (act_stepMove hact) hmem

/-- A slot stays taken while no ready token is coming and the client has its queue. -/
theorem slot_step (hdep : Departed s) (hget : s.queueMap.get c = some r)
    (hslot : pendingID s c ≠ "") (hm : StepMove s a s') (hready : ¬ ReadyComing s' c) :
    pendingID s' c ≠ "" := by
  rcases pendingID_step hm hslot with hsame | hcoming | hleaves
  · rwa [hsame]
  · exact absurd hcoming hready
  · rw [hdep c hleaves] at hget
    exact absurd hget (by simp)

/-- The other goroutines leave what the pump rests on. -/
theorem committed_keep (h : OneOutstanding s log) (hc : Chronicled s log)
    (hw : WrittenInOrder s log) (hok : writesInTurn s a = true) (hact : s.act a = some s')
    (hpump : s'.pump = s.pump) (ha : ∀ w, a ≠ .pump w) :
    CommittedTo s' (log ++ queueEvents s a s') s'.pump := by
  have hm := act_stepMove hact
  have hcomm := h.committed
  rw [hpump]
  cases hpc : s.pump with
  | dispatchGet c =>
      rw [hpc] at hcomm
      exact ⟨hcomm.1.step hc hw hact (by simp [hpc]),
        quiet_step hcomm.2 hok hm (by rw [hpc]; exact beq_self_eq_true c)⟩
  | dispatchPeek c r =>
      rw [hpc] at hcomm
      obtain ⟨⟨hvacant, hquiet⟩, hown, hhead⟩ := hcomm
      refine ⟨⟨hvacant.step hc hw hact (by simp [hpc]),
        quiet_step hquiet hok hm (by rw [hpc]; exact beq_self_eq_true c)⟩,
        hown.step hm.queues, fun p hp hwritten => ?_⟩
      obtain ⟨hold, hwritten | ⟨c', hwrite, _⟩⟩ := written_head_step hc hw hact hp hwritten
      · exact hhead p hold hwritten
      · rw [hpc] at hwrite
        exact absurd hwrite (by simp)
  | addPending c p =>
      rw [hpc] at hcomm
      exact TakenUp.step hcomm hc hw (by rw [hpc]; rfl) hok hact fun w hw' => absurd hw' (ha w)
  | write c p =>
      rw [hpc] at hcomm
      have htaken := hcomm.1.step hc hw (by rw [hpc]; rfl) hok hact fun w hw' => absurd hw' (ha w)
      refine ⟨htaken, fun hmem => ?_⟩
      have hold := mem_contents_step hc hm (hw.hand p (by rw [hpc]; rfl)).1 hmem
      obtain ⟨r, hget⟩ := get_of_contents (List.ne_nil_of_mem hold)
      exact slot_step h.departed hget (hcomm.2 hold) hm (htaken.quiet hmem)
  | _ => trivial

theorem committed_of_unburdened {pc : ServerPumpPC} (h : unburdened pc = true) :
    CommittedTo s log pc := by
  cases pc <;> trivial

/-- The pump decides to dispatch for a client without an outstanding request. -/
theorem vacant_of_dispatches (h : OneOutstanding s log) (hpc : s.pump = .test c)
    (hdisp : s.dispatches = true) : Vacant s log c := by
  intro r p hout
  have hserving := (h.outstanding c r p hout).2.2
  rw [Serving, hpc] at hserving
  rw [ServerSteps.dispatches, hserving.2 rfl] at hdisp
  split at hdisp <;> exact absurd hdisp (by simp)

/-- **Every step keeps what the pump rests on.** -/
theorem committed_step (h : OneOutstanding s log) (hc : Chronicled s log)
    (hw : WrittenInOrder s log) (hok : writesInTurn s a = true) (hact : s.act a = some s') :
    CommittedTo s' (log ++ queueEvents s a s') s'.pump := by
  have hcomm := h.committed
  cases hm : act_stepMove hact with
  | idle _ _ _ hpc' => exact committed_of_unburdened hpc'
  | commit w c hpc hdisp =>
      have hvacant := vacant_of_dispatches h hpc hdisp
      have hquiet : ¬ ReadyComing s c := by
        have htokens : c ∉ s.readyForDispatch ∧ s.calls.any (sendsReady c) = false := by
          simpa [writesInTurn, hpc, pumpInTurn, hdisp] using hok
        rintro (hmem | hcall | hpump)
        · exact htokens.1 hmem
        · rw [htokens.2] at hcall
          exact absurd hcall (by simp)
        · rw [hpc] at hpump
          exact absurd hpump (by simp [pumpSendsReady])
      refine ⟨hvacant.step hc hw hact (by simp [hpc]), fun hready => ?_⟩
      rcases readyComing_of_step (act_stepMove hact) hready with
        hold | ⟨r, ⟨t, id, ha, _⟩ | ⟨w', id, _, hpump⟩⟩
      · exact hquiet hold
      · exact absurd ha (by simp)
      · rw [hpc] at hpump
        exact absurd hpump (by simp [pumpCompleting])
  | dispatchGet w c r hpc hget =>
      rw [hpc] at hcomm
      have hlooks : pumpLooks c s.pump = true := by rw [hpc]; exact beq_self_eq_true c
      refine ⟨⟨hcomm.1.step hc hw hact (by simp [hpc]),
        quiet_step hcomm.2 hok (act_stepMove hact) hlooks⟩, .of_get hget, fun p hp hwritten => ?_⟩
      obtain ⟨hold, hwritten | ⟨c', hwrite, _⟩⟩ := written_head_step hc hw hact hp hwritten
      · exact hcomm.1 r p ⟨⟨hget, hold⟩, hwritten⟩
      · rw [hpc] at hwrite
        exact absurd hwrite (by simp)
  | dispatchPeek w c r p hpc hpeek =>
      rw [hpc] at hcomm
      obtain ⟨⟨hvacant, hquiet⟩, hown, hhead⟩ := hcomm
      have hlooks : pumpLooks c s.pump = true := by rw [hpc]; exact beq_self_eq_true c
      refine ⟨hvacant.step hc hw hact (by simp [hpc]), fun hwritten => ?_, ?_,
        fun _ => quiet_step hquiet hok (act_stepMove hact) hlooks⟩
      · obtain ⟨hold, hwritten | ⟨c', hwrite, _⟩⟩ := written_head_step hc hw hact hpeek hwritten
        · exact hhead p hold hwritten
        · rw [hpc] at hwrite
          exact absurd hwrite (by simp)
      · exact ⟨r, List.mem_append_left _ (hc.head hpeek).1, hown⟩
  | mark w c p hpc =>
      rw [hpc] at hcomm
      have htaken := TakenUp.step hcomm hc hw (by rw [hpc]; rfl) hok hact (by simp [hpc])
      refine ⟨htaken, fun _ => ?_⟩
      rcases write_step (act_stepMove hact) rfl with hold | ⟨_, hslot⟩
      · rw [hpc] at hold
        exact absurd hold (by simp)
      · exact hslot (h.named.pump c p hpc)
  | write c p s' _ hpc' => rw [hpc']; trivial
  | timedOut w c p k s₁ o _ _ => cases o <;> trivial
  | failed w c p text k s₁ o _ _ => cases o <;> trivial
  | seesPending w c _ _ => trivial
  | timeoutGet w c pending r _ _ => trivial
  | timeoutPeek w c pending r p _ _ => trivial
  | reportTimedOut w c p _ => trivial
  | writeFails text c p _ => trivial
  | reportFailed w c p text _ => trivial
  | crash w _ => trivial
  | start op => exact committed_keep h hc hw hok hact rfl (by simp)
  | callMoves t pc pc' _ _ _ _ hpump => exact committed_keep h hc hw hok hact hpump (by simp)
  | push t c r req q _ _ => exact committed_keep h hc hw hok hact rfl (by simp)
  | callCompletes t c id k s₁ o _ hcomp =>
      exact committed_keep h hc hw hok hact hcomp.pump (by simp)
  | remove t c _ => exact committed_keep h hc hw hok hact rfl (by simp)
  | clear t c _ => exact committed_keep h hc hw hok hact rfl (by simp)
  | createClient c => exact committed_keep h hc hw hok hact rfl (by simp)
  | getClientState c => exact committed_keep h hc hw hok hact rfl (by simp)

/-! ## Outstanding requests stay alone -/

/-- A `Pop` for the client takes its outstanding request. -/
theorem ready_outstanding (h : OneOutstanding s log) (hc : Chronicled s log)
    (hout : OutstandingAt s log c r p) (hhead' : HeadAt s'.queueMap c r p)
    (hok : writesInTurn s a = true) (hm : StepMove s a s') : ¬ ReadyComing s' c := by
  intro hready
  obtain ⟨hquiet, _, hserving⟩ := h.outstanding c r p hout
  rcases readyComing_of_step hm hready with hold | ⟨r₀, hpops⟩
  · exact hquiet hold
  · have hq := hpops.queueMap hm
    have hr : r₀ = r := by
      rcases hpops with ⟨t, id, rfl, ht⟩ | ⟨w, id, _, hpump⟩
      · exact ((inTurn_pop hok ht).1 r hout.1.1).symm
      · unfold Serving at hserving
        cases hpc : s.pump with
        | timedOut c' p₀ k =>
            rw [hpc] at hpump hserving
            cases hpump
            exact (hserving.resolve_right fun e => e.1 rfl).2
        | failed c' p₀ text k =>
            rw [hpc] at hpump hserving
            cases hpump
            exact (hserving.resolve_right fun e => e.1 rfl).2
        | _ => rw [hpc] at hpump; exact absurd hpump (by simp [pumpCompleting])
    subst hr
    have htail : (queued s r₀).tail.head? = some p := by
      have hpeek := hhead'.2
      rw [hq, show (s.queueMap.store r₀ (s.queueMap.deref r₀).pop).deref r₀
        = (s.queueMap.deref r₀).pop by simp [FIFOQueueMap.deref, FIFOQueueMap.store]] at hpeek
      exact hpeek
    exact (hc.increasing r₀).head_notMem_tail hout.1.2 (List.mem_of_mem_head? htail)

/-- The pump writes: the request becomes the outstanding one of its client. -/
theorem outstanding_written {c' : String} {w : Option String} (h : OneOutstanding s log)
    (hc : Chronicled s log) (hhead : HeadAt s.queueMap c r p) (hpump : s.pump = .write c' p)
    (hact : s.act (.pump w) = some s') :
    ¬ ReadyComing s' c ∧ pendingID s' c ≠ "" ∧ Serving s' c r p := by
  have hm := act_stepMove hact
  have hcomm := h.committed
  rw [hpump] at hcomm
  obtain ⟨htaken, hslot⟩ := hcomm
  have hqueued : p ∈ queued s r := List.mem_of_mem_head? hhead.2
  -- the queue it heads is one of the client it is written for
  obtain ⟨r₁, hpush, hown⟩ := htaken.home
  cases hc.same_queue hqueued hpush
  cases hown.2 c hhead.1
  have hmem : p ∈ s.queueMap.contents c := by
    rw [FIFOQueueMap.contents_of_get hhead.1]
    exact hqueued
  have hready : ¬ ReadyComing s' c := by
    intro hready
    rcases readyComing_of_step hm hready with hold | ⟨r₀, ⟨t, id, ha, _⟩ | ⟨_, id, _, hat⟩⟩
    · exact htaken.quiet hmem hold
    · exact absurd ha (by simp)
    · rw [hpump] at hat
      exact absurd hat (by simp [pumpCompleting])
  refine ⟨hready, slot_step h.departed hhead.1 (hslot hmem) hm hready, ?_⟩
  have hstep : s.pumpStep w = some s' := by simpa [ServerSteps.act, hpump] using hact
  rw [ServerSteps.pumpStep, hpump] at hstep
  cases w with
  | none =>
      cases hstep
      rw [Serving, ServerSteps.written, if_pos h.timeout]
      simp [ServerSteps.activeContext]
  | some text =>
      cases hstep
      exact Or.inl ⟨rfl, rfl⟩

/-- **An outstanding request stays alone.** -/
theorem outstanding_alone_step (h : OneOutstanding s log) (hc : Chronicled s log)
    (hw : WrittenInOrder s log) (hok : writesInTurn s a = true) (hact : s.act a = some s')
    (hout : OutstandingAt s' (log ++ queueEvents s a s') c r p) :
    ¬ ReadyComing s' c ∧ pendingID s' c ≠ "" ∧ Serving s' c r p := by
  have hm := act_stepMove hact
  obtain ⟨hhead, hwritten | ⟨c', hpump, w, rfl⟩⟩ := outstanding_step hc hw hact hout
  · have hold : OutstandingAt s log c r p := ⟨hhead, hwritten⟩
    obtain ⟨hquiet, hslot, hserving⟩ := h.outstanding c r p hold
    have hready := ready_outstanding h hc hold hout.1 hok hm
    exact ⟨hready, slot_step h.departed hhead.1 hslot hm hready,
      serving_step hserving hhead hout.1 (hc.increasing r) hquiet hslot hm⟩
  · exact outstanding_written h hc hhead hpump hact

/-! ## Every request is written at most once -/

theorem carried_unwritten (h : OneOutstanding s log) (hp : carried s.pump = some p) :
    ¬ Written log p := by
  have hcomm := h.committed
  cases hpc : s.pump with
  | addPending c q =>
      rw [hpc] at hp hcomm
      cases hp
      exact hcomm.unwritten
  | write c q =>
      rw [hpc] at hp hcomm
      cases hp
      exact hcomm.1.unwritten
  | _ => rw [hpc] at hp; exact absurd hp (by simp [carried])

theorem nodup_step (h : OneOutstanding s log) (hact : s.act a = some s') :
    ((log ++ queueEvents s a s').filterMap QueueEvent.request).Nodup := by
  have heff := act_effect hact
  generalize queueEvents s a s' = events at heff
  rw [List.filterMap_append]
  cases heff with
  | write c p hp _ _ _ =>
      have hone : [QueueEvent.written c p].filterMap QueueEvent.request = [p] := rfl
      rw [hone, ← List.concat_eq_append]
      exact List.Nodup.concat (fun hmem => carried_unwritten h hp (written_iff.mpr hmem)) h.nodup
  | pop r _ _ _ =>
      have hnone : ((queued s r).head?.toList.map (QueueEvent.popped r)).filterMap
          QueueEvent.request = [] := by
        cases (queued s r).head? <;> rfl
      rw [hnone, List.append_nil]
      exact h.nodup
  | quiet _ _ _ => rw [List.filterMap_nil, List.append_nil]; exact h.nodup
  | push c r req _ _ _ _ =>
      have hnone : [QueueEvent.pushed r { seq := s.accepted, bundle := req }].filterMap
          QueueEvent.request = [] := rfl
      rw [hnone, List.append_nil]
      exact h.nodup
  | peek r p _ _ _ _ => rw [List.filterMap_nil, List.append_nil]; exact h.nodup

/-- Nobody sets the timeout of a running dispatcher. -/
theorem timeout_step (hm : StepMove s a s') : s'.timeout = s.timeout := by
  cases hm with
  | idle _ _ _ _ _ _ _ _ _ hidle => cases hidle <;> rfl
  | write c p _ _ _ _ _ _ _ _ _ hs' =>
      rw [hs', ServerSteps.written]
      dsimp only
      split
      · rfl
      · rfl
  | callMoves t pc pc' _ _ _ _ _ _ _ _ _ _ hs' => rw [hs']
  | timedOut w c p k s₁ o _ hc => cases hc <;> rfl
  | failed w c p text k s₁ o _ hc => cases hc <;> rfl
  | callCompletes t c id k s₁ o _ hc => cases hc <;> rfl
  | _ => rfl

end CommittedTo

theorem oneOutstanding_start (n : Nat) {timeout : Int} (h : 0 < timeout) :
    OneOutstanding (ServerSteps.start n timeout) [] where
  outstanding c r p hout := absurd hout.1.1 (by simp [ServerSteps.start, FIFOQueueMap.new,
    FIFOQueueMap.get])
  committed := trivial
  nodup := List.nodup_nil
  timeout := h
  departed c hc := absurd hc (by simp [ServerSteps.start])
  named := idsNamed_start n timeout

theorem oneOutstanding_reachable {n : Nat} {timeout : Int} {t : Recorded ServerSteps QueueEvent}
    (htimeout : 0 < timeout)
    (h : ReachableWhile (recordedQueues n timeout) (fun t a => writesInTurn t.state a = true) t) :
    OneOutstanding t.state t.log := by
  refine ReachableWhile.invariant (P := fun t => OneOutstanding t.state t.log) ?_ ?_ h
  · rintro ⟨s, log⟩ ⟨hs, hlog⟩
    cases hs
    cases hlog
    exact oneOutstanding_start n htimeout
  · rintro t a t' hreach hone hok hact
    obtain ⟨hc, hw⟩ := chronicled_reachable hreach.reachable
    obtain ⟨hact, hlog⟩ := Machine.recording_act hact
    have hm := act_stepMove hact
    rw [hlog]
    refine
      { outstanding := fun c r p => outstanding_alone_step hone hc hw hok hact
        committed := committed_step hone hc hw hok hact
        nodup := nodup_step hone hact
        timeout := timeout_step hm ▸ hone.timeout
        departed := departed_step hone.departed hm ?_
        named := idsNamed_step hone.named hm ?_ }
    · rintro c rfl hget
      simpa [writesInTurn, hget] using hok
    · rintro c req rfl
      exact bne_iff_ne.mp hok

/--
**Every request is passed to `Write` at most once**, with a positive timeout and as
long as the pump dispatches for a client only when none of its ready tokens is left.
In other words, when the pump decides to dispatch for a client, the head of the
client's queue was not passed to `Write` yet.
-/
theorem server_writes_at_most_once {n : Nat} {timeout : Int} (htimeout : 0 < timeout)
    {t : Recorded ServerSteps QueueEvent}
    (h : ReachableWhile (recordedQueues n timeout) (fun t a => writesInTurn t.state a = true) t) :
    (t.log.filterMap QueueEvent.request).Nodup
      ∧ ∀ c, t.state.pump = .dispatchGet c → Vacant t.state t.log c := by
  have hone := oneOutstanding_reachable htimeout h
  refine ⟨hone.nodup, fun c hpc => ?_⟩
  have hcomm := hone.committed
  rw [hpc] at hcomm
  exact hcomm.1

/-- Two clients: one answers its requests in turn, the other lets one time out. -/
def servedInTurn : List ServerSteps.Action :=
  [.createClient "a", .createClient "b"] ++ ServerSteps.sending 0 "a" "1"
    ++ ServerSteps.sending 1 "a" "2" ++ ServerSteps.sending 2 "b" "3"
    -- "1" is written, its context is call 3; the token of "2" is passed over
    ++ ServerSteps.dispatching "a" ++ [.pump none]
    ++ [.pump none, .select (.request "a"), .pump none, .pump none]
    -- "3" is written, its context is call 4
    ++ ServerSteps.dispatching "b" ++ [.pump none]
    -- "1" is answered, and "2" written
    ++ ServerSteps.answering 5 "a" "1" ++ [.pump none, .select (.ready "a")]
    ++ List.replicate 6 (.pump none)
    -- "3" times out
    ++ [.call 4, .call 4, .pump none, .select (.timer "b")] ++ List.replicate 10 (.pump none)

theorem two_requests_written_once :
    ∃ t, ReachableWhile (recordedQueues 0 30) (fun t a => writesInTurn t.state a = true) t
      ∧ t.log.filterMap QueueEvent.request
        = [postedHeartbeat 0 "1", postedHeartbeat 2 "3", postedHeartbeat 1 "2"]
      ∧ (t.log.filterMap QueueEvent.request).Nodup := by
  have hrun : ∃ t, (recordedQueues 0 30).runWhile (fun t a => writesInTurn t.state a)
      ⟨ServerSteps.start 0 30, []⟩ servedInTurn = some t
      ∧ t.log.filterMap QueueEvent.request
        = [postedHeartbeat 0 "1", postedHeartbeat 2 "3", postedHeartbeat 1 "2"] :=
    ⟨_, rfl, rfl⟩
  obtain ⟨t, ht, hlog⟩ := hrun
  have hinit : ReachableWhile (recordedQueues 0 30) (fun t a => writesInTurn t.state a = true)
      ⟨ServerSteps.start 0 30, []⟩ := .init ⟨rfl, rfl⟩
  have hr := hinit.runWhile (fun _ _ hc => hc) _ ht
  exact ⟨t, hr, hlog, (server_writes_at_most_once (by decide) hr).1⟩

/--
**An outstanding request is written again.** Without a timeout the next request token
does it. With one, a request that times out leaves the client ready twice: the token
of the next request dispatches it, and the ready token dispatches it again.
-/
theorem outstanding_request_written_again :
    (∃ t, Reachable (recordedQueues 0 0) t
        ∧ t.log.filterMap QueueEvent.request = [postedHeartbeat 0 "1", postedHeartbeat 0 "1"])
      ∧ ∃ t, Reachable (recordedQueues 0 30) t
        ∧ t.log.filterMap QueueEvent.request
          = [postedHeartbeat 0 "1", postedHeartbeat 1 "2", postedHeartbeat 1 "2"] := by
  have hreach : ∀ (timeout : Int) (run : List ServerSteps.Action) (requests : List Posted),
      (∃ t, (recordedQueues 0 timeout).run ⟨ServerSteps.start 0 timeout, []⟩ run = some t
        ∧ t.log.filterMap QueueEvent.request = requests) →
      ∃ t, Reachable (recordedQueues 0 timeout) t
        ∧ t.log.filterMap QueueEvent.request = requests := by
    rintro timeout run requests ⟨t, ht, hlog⟩
    have hinit : Reachable (recordedQueues 0 timeout) ⟨ServerSteps.start 0 timeout, []⟩ :=
      .init ⟨rfl, rfl⟩
    exact ⟨t, hinit.run _ ht, hlog⟩
  let first : List ServerSteps.Action := [.createClient "cp"] ++ ServerSteps.sending 0 "cp" "1"
    ++ ServerSteps.dispatching "cp" ++ [.pump none]
  refine ⟨hreach 0 (first ++ ServerSteps.sending 1 "cp" "2" ++ ServerSteps.dispatching "cp"
      ++ [.pump none]) _ ⟨_, rfl, rfl⟩,
    hreach 30 (first ++ ServerSteps.sending 2 "cp" "2" ++ [.call 1, .call 1]
      -- the timer branch cancels "1", and is not ready for the next
      ++ [.pump none, .select (.timer "cp")] ++ List.replicate 10 (.pump none)
      ++ ServerSteps.dispatching "cp" ++ [.pump none, .pump none, .select (.ready "cp")]
      ++ List.replicate 6 (.pump none)) _ ⟨_, rfl, rfl⟩⟩

end OcppGo.Proof
