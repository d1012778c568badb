import OcppGo.Ocppj.Server

/-!
# Queue, pending slot and timer of the client dispatcher agree

A dispatch marks the head of the queue pending and arms the timer with the
response timeout. Everything that happens next changes one of the three: a reply
or a cancellation pops the head and frees its slot, `Pause` parks the timer on
its long tick, `Resume` arms it again, and the deadline may pass at any moment.

What holds between the calls is that a taken slot carries the head's id, and
that outside a pause its timer runs with the response timeout, or ran out and
left a tick the pump has yet to read. The second part needs to know that the
pump is never caught draining a channel nothing will be sent on: a timer that
is not armed still has its tick.
-/

namespace OcppGo.Proof

open OcppGo.Lib OcppGo.Ocppj

/-- A taken slot carries the id of the head of the queue. -/
def SlotIsHead (d : ClientDispatcher) : Prop :=
  d.pendingRequestState.requestID ≠ "" →
    ∃ p : Posted, d.requestQueue.peek = some p ∧ p.id = d.pendingRequestState.requestID

/-- The deadline passed and its tick was not read. -/
def Expired (t : Timer) : Prop := t.armed = none ∧ t.tick = true

/-- The agreement of queue, slot and timer. -/
structure Coherent (d : ClientDispatcher) : Prop where
  /-- Whoever answers the pending id answers the head. -/
  head : SlotIsHead d
  /-- Outside a pause, a pending request is being timed. -/
  timed : d.paused = false → d.pendingRequestState.requestID ≠ "" →
    d.timer.armed = some d.timeout ∨ Expired d.timer
  /-- Stopping the timer never waits for a tick that will not come. -/
  drains : d.status = .running → d.timer.armed ≠ none ∨ Expired d.timer

variable {d d' : ClientDispatcher}

/-- With a free slot only the timer is left to check. -/
theorem Coherent.of_free (hfree : d.pendingRequestState.requestID = "")
    (hdrains : d.status = .running → d.timer.armed ≠ none ∨ Expired d.timer) : Coherent d where
  head := fun hne => absurd hfree hne
  timed := fun _ hne => absurd hfree hne
  drains := hdrains

/-- Where the queue only grew at its end and the rest is as it was. -/
theorem Coherent.append (h : Coherent d) {tail : List Posted}
    (hq : d'.requestQueue.elements = d.requestQueue.elements ++ tail)
    (hs : d'.pendingRequestState = d.pendingRequestState) (ht : d'.timer = d.timer)
    (htime : d'.timeout = d.timeout) (hp : d'.paused = d.paused) (hst : d'.status = d.status) :
    Coherent d' where
  head := by
    intro hne
    rw [hs] at hne ⊢
    obtain ⟨p, hpeek, hid⟩ := h.head hne
    refine ⟨p, ?_, hid⟩
    rw [FIFOClientQueue.peek_eq, hq, FIFOClientQueue.cons_tail_of_peek hpeek]
    rfl
  timed := by rw [hs, ht, htime, hp]; exact h.timed
  drains := by rw [hst, ht]; exact h.drains

/-- A step that touches none of the fields involved. -/
theorem Coherent.congr (h : Coherent d) (hq : d'.requestQueue = d.requestQueue)
    (hs : d'.pendingRequestState = d.pendingRequestState) (ht : d'.timer = d.timer)
    (htime : d'.timeout = d.timeout) (hp : d'.paused = d.paused) (hst : d'.status = d.status) :
    Coherent d' := by
  have hq' : d'.requestQueue.elements = d.requestQueue.elements ++ [] := by
    rw [hq, List.append_nil]
  exact h.append hq' hs ht htime hp hst

/-! ## Completing and cancelling the head -/

/-- Deleting the head's id always frees the slot. -/
theorem SlotIsHead.delete {p : Posted} (h : SlotIsHead d) (hp : d.requestQueue.peek = some p) :
    (d.pendingRequestState.deletePendingRequest p.id).requestID = "" := by
  rw [ClientState.deletePendingRequest_requestID]
  split
  · rfl
  · rename_i hne
    -- a slot that is not the head's can only be a free one
    by_contra hbusy
    obtain ⟨p', hp', hid⟩ := h hbusy
    rw [hp] at hp'
    cases hp'
    exact hne hid.symm

/-- Completing the id of the head pops it, frees the slot and signals the pump. -/
theorem completeRequest_of_peek {p : Posted} (hp : d.requestQueue.peek = some p) :
    d.completeRequest p.id
      = { d.popRequest p.id with readyForDispatch := d.readyForDispatch + 1 } := by
  unfold ClientDispatcher.completeRequest ClientDispatcher.matchesHead
  rw [hp]
  exact if_pos (beq_self_eq_true _)

theorem coherent_completeRequest (h : Coherent d) (requestId : String) :
    Coherent (d.completeRequest requestId) := by
  by_cases hm : d.matchesHead requestId = true
  · unfold ClientDispatcher.matchesHead at hm
    split at hm
    · exact absurd hm (by simp)
    · rename_i p hp
      have hid : p.id = requestId := by simpa using hm
      rw [← hid, completeRequest_of_peek hp]
      exact .of_free (h.head.delete hp) h.drains
  · unfold ClientDispatcher.completeRequest
    rw [if_neg hm]
    exact h

/-- Cancelling the head frees the slot and touches no timer. -/
theorem cancelRequest_frame {p : Posted} (h : SlotIsHead d) (hp : d.requestQueue.peek = some p)
    (code : ErrorCode) (text : String) :
    (d.cancelRequest p code text).pendingRequestState.requestID = ""
      ∧ (d.cancelRequest p code text).timer = d.timer := by
  have hfree := h.delete hp
  unfold ClientDispatcher.cancelRequest
  split
  · exact ⟨hfree, rfl⟩
  · rw [completeRequest_of_peek hp]
    exact ⟨hfree, rfl⟩

/-! ## The pump -/

/-- A timer that drains can be armed with the response timeout. -/
theorem coherent_armTimeout (hhead : SlotIsHead d)
    (hdrains : d.timer.armed ≠ none ∨ Expired d.timer) : Coherent d.armTimeout := by
  have hstop : d.timer.stopAndDrain ≠ none := by
    unfold Timer.stopAndDrain
    split
    · exact Option.some_ne_none _
    · rename_i harmed
      rcases hdrains with hne | ⟨_, htick⟩
      · exact absurd harmed hne
      · rw [if_pos htick]
        exact Option.some_ne_none _
  unfold ClientDispatcher.armTimeout
  split
  · rename_i hnone
    exact absurd hnone hstop
  · exact ⟨hhead, fun _ _ => Or.inl rfl, fun _ => Or.inl (Option.some_ne_none _)⟩

/-- Marking the head pending, before it is written. -/
theorem SlotIsHead.addPending {p : Posted} (h : SlotIsHead d)
    (hp : d.requestQueue.peek = some p) :
    SlotIsHead { d with
      pendingRequestState := d.pendingRequestState.addPendingRequest p.id p.payload
      written := d.written ++ [p] } := by
  intro hne
  dsimp only at hne ⊢
  rw [ClientState.addPendingRequest_requestID] at hne ⊢
  split
  · exact ⟨p, hp, rfl⟩
  · -- a resend leaves the slot as it was
    rename_i hkeep
    rw [if_neg hkeep] at hne
    exact h hne

/-- The head's slot is taken before the write, and free again if the write fails. -/
theorem dispatchNextRequest_frame {p : Posted} (h : Coherent d) (hrun : d.status = .running)
    (hp : d.requestQueue.peek = some p) (write : Option String) :
    SlotIsHead (d.dispatchNextRequest write)
      ∧ (d.dispatchNextRequest write).timer = d.timer
      ∧ ((d.dispatchNextRequest write).status ≠ .running →
          (d.dispatchNextRequest write).pendingRequestState.requestID = "") := by
  have hadd := h.head.addPending hp
  unfold ClientDispatcher.dispatchNextRequest
  rw [hp]
  cases write with
  | none => exact ⟨hadd, rfl, fun hst => absurd hrun hst⟩
  | some text =>
      obtain ⟨hfree, htimer⟩ := cancelRequest_frame hadd hp InternalError text
      exact ⟨fun hne => absurd hfree hne, htimer, fun _ => hfree⟩

theorem coherent_dispatchIfReady {write : Option String} (h : Coherent d) :
    Coherent (d.dispatchIfReady write) := by
  unfold ClientDispatcher.dispatchIfReady
  split
  · exact h
  · rename_i hrun
    split
    · exact h
    · split
      · rename_i hready
        -- the queue was just seen to be non-empty, so there is a head to dispatch
        obtain ⟨p, hp⟩ : ∃ p, d.requestQueue.peek = some p := by
          cases hq : d.requestQueue.elements with
          | nil => simp [hq] at hready
          | cons p rest => exact ⟨p, by rw [FIFOClientQueue.peek_eq, hq]; rfl⟩
        have hrun := not_not.mp hrun
        obtain ⟨hhead, htimer, hfree⟩ := dispatchNextRequest_frame h hrun hp write
        dsimp only
        split
        · exact coherent_armTimeout hhead (by rw [htimer]; exact h.drains hrun)
        · rename_i hst
          exact .of_free (hfree hst) (fun hst' => absurd hst' hst)
      · exact h

/-- Whatever was pending when the tick was read no longer is. -/
theorem cancelTimedOut_free (h : SlotIsHead d) :
    d.cancelTimedOut.pendingRequestState.requestID = "" := by
  unfold ClientDispatcher.cancelTimedOut
  split
  · rename_i hpending
    obtain ⟨p, hp, _⟩ := h (ClientState.hasPendingRequest_iff.mp hpending)
    rw [hp]
    exact (cancelRequest_frame h hp _ _).1
  · rename_i hpending
    by_contra hbusy
    exact hpending (ClientState.hasPendingRequest_iff.mpr hbusy)

/-- The timer branch: the slot is free, and the long tick runs. -/
theorem coherent_onTimeout (h : SlotIsHead d) : Coherent d.onTimeout := by
  have hfree := cancelTimedOut_free h
  unfold ClientDispatcher.onTimeout
  split
  · exact .of_free hfree (fun _ => Or.inl (Option.some_ne_none _))
  · rename_i hst
    exact .of_free hfree (fun hst' => absurd hst' hst)

/-- **One iteration of the pump keeps the agreement**, whichever channel it reads. -/
theorem coherent_messagePump {sel : ClientDispatcher.Select} {write : Option String}
    (h : Coherent d) (hd : d.messagePump sel write = some d') : Coherent d' := by
  unfold ClientDispatcher.messagePump at hd
  cases sel with
  | request =>
      dsimp only at hd
      split at hd
      · cases hd
        exact coherent_dispatchIfReady (h.congr rfl rfl rfl rfl rfl rfl)
      · exact absurd hd (by simp)
  | timer =>
      dsimp only at hd
      split at hd
      · cases hd
        exact coherent_dispatchIfReady (coherent_onTimeout h.head)
      · exact absurd hd (by simp)
  | ready =>
      dsimp only at hd
      split at hd
      · cases hd
        exact coherent_dispatchIfReady (h.congr rfl rfl rfl rfl rfl rfl)
      · exact absurd hd (by simp)

/-! ## The other calls -/

theorem coherent_sendRequest {req : RequestBundle} (h : Coherent d)
    (hd : d.sendRequest req = .ok d') : Coherent d' := by
  unfold ClientDispatcher.sendRequest at hd
  split at hd
  · exact absurd hd (by simp)
  · rename_i q hq
    cases hd
    have hq := FIFOClientQueue.push_ok hq
    exact h.append (by rw [hq]) rfl rfl rfl rfl rfl

theorem coherent_pause (h : Coherent d) (hd : d.pause = some d') : Coherent d' := by
  unfold ClientDispatcher.pause at hd
  split at hd
  · exact absurd hd (by simp)
  · cases hd
    exact ⟨h.head, fun hp => absurd hp (by simp), fun _ => Or.inl (Option.some_ne_none _)⟩

/-- `Resume` arms the timer exactly when something is pending. -/
theorem coherent_resume (h : Coherent d) : Coherent d.resume := by
  unfold ClientDispatcher.resume
  split
  · exact ⟨h.head, fun _ _ => Or.inl rfl, fun _ => Or.inl (Option.some_ne_none _)⟩
  · rename_i hpending
    refine .of_free ?_ h.drains
    by_contra hbusy
    exact hpending (ClientState.hasPendingRequest_iff.mpr hbusy)

theorem coherent_timerExpires {t : Timer} (h : Coherent d) (ht : d.timer.expire = some t) :
    Coherent { d with timer := t } := by
  have hexp : Expired t := by
    unfold Timer.expire at ht
    split at ht
    · cases ht
      exact ⟨rfl, rfl⟩
    · exact absurd ht (by simp)
  exact ⟨h.head, fun _ _ => Or.inr hexp, fun _ => Or.inr hexp⟩

theorem coherent_init (queue : FIFOClientQueue Posted) (timeout : Int) :
    Coherent (ClientDispatcher.start queue timeout) :=
  .of_free rfl (fun _ => Or.inl (Option.some_ne_none _))

/-- **Preserved by every step.** -/
theorem coherent_step {a : ClientDispatcher.Action} (h : Coherent d)
    (hact : d.act a = some d') : Coherent d' := by
  unfold ClientDispatcher.act at hact
  split at hact
  · exact absurd hact (by simp)
  · cases a with
    | sendRequest req =>
        dsimp only at hact
        split at hact
        · exact absurd hact (by simp)
        · split at hact
          · cases hact
            exact h
          · rename_i d₁ hd
            cases hact
            exact coherent_sendRequest h hd
    | completeRequest requestId =>
        cases hact
        exact coherent_completeRequest h requestId
    | pause => exact coherent_pause h hact
    | resume =>
        cases hact
        exact coherent_resume h
    | timerExpires =>
        obtain ⟨t, ht, rfl⟩ := Option.map_eq_some_iff.mp hact
        exact coherent_timerExpires h ht
    | messagePump sel write =>
        dsimp only at hact
        split at hact
        · exact coherent_messagePump h hact
        · exact absurd hact (by simp)

theorem coherent_reachable (h : Reachable ClientDispatcher.machine d) : Coherent d := by
  refine Reachable.invariant (P := Coherent) ?_ ?_ h
  · rintro s ⟨queue, timeout, rfl⟩
    exact coherent_init queue timeout
  · intro s a s' _ hs hact
    exact coherent_step hs hact

/-! ## What follows for replies -/

/-- A parsed reply names the id in the slot, which is not empty. -/
theorem pending_of_replyId {endpoint : Endpoint} {lib : Library} {arr : List Json}
    {st : ClientState Payload} {m : Message} {id : String}
    (hm : endpoint.parseMessage lib arr st = .parsed m) (hid : Server.replyId m = some id) :
    id ≠ "" ∧ st.requestID = id := by
  have hok := Endpoint.parseMessage_parsed hm
  cases m with
  | call c => exact absurd hid (by simp [Server.replyId])
  | callResult c =>
      cases hid
      exact ⟨hok.1, hok.2.1⟩
  | callError c =>
      cases hid
      exact hok

/--
**The pending slot, the queue and the timer stay coherent.** In every state
reached between `Start` and `Stop`, a pending id is the id of the head; so a
reply that `ParseMessage` accepts makes `CompleteRequest` pop that request and
free the slot. And while the dispatcher is not paused, a pending request has its
response timeout running, or expired with the tick still to be read.
-/
theorem client_dispatcher_coherent (h : Reachable ClientDispatcher.machine d) :
    (d.pendingRequestState.hasPendingRequest = true →
        ∃ p : Posted, d.requestQueue.peek = some p ∧ p.id = d.pendingRequestState.requestID)
      ∧ (∀ (endpoint : Endpoint) (lib : Library) (arr : List Json) (m : Message) (id : String),
          endpoint.parseMessage lib arr d.pendingRequestState = .parsed m →
          Server.replyId m = some id →
          ∃ p : Posted, d.requestQueue.peek = some p ∧ p.id = id
            ∧ (d.completeRequest id).requestQueue = d.requestQueue.pop
            ∧ (d.completeRequest id).pendingRequestState.hasPendingRequest = false)
      ∧ (d.paused = false → d.pendingRequestState.hasPendingRequest = true →
          d.timer.armed = some d.timeout ∨ (d.timer.armed = none ∧ d.timer.tick = true)) := by
  have hc := coherent_reachable h
  refine ⟨?_, ?_, ?_⟩
  · intro hpending
    exact hc.head (ClientState.hasPendingRequest_iff.mp hpending)
  · intro endpoint lib arr m id hm hid
    obtain ⟨hne, hslot⟩ := pending_of_replyId hm hid
    obtain ⟨p, hp, hpid⟩ := hc.head (by rw [hslot]; exact hne)
    have hpid : p.id = id := by rw [hpid, hslot]
    have hfree := hc.head.delete hp
    subst hpid
    rw [completeRequest_of_peek hp]
    refine ⟨p, hp, rfl, rfl, ?_⟩
    simp only [ClientState.hasPendingRequest, ClientDispatcher.popRequest, hfree, bne_self_eq_false]
  · intro hpaused hpending
    exact hc.timed hpaused (ClientState.hasPendingRequest_iff.mp hpending)

/-- A request written, then a pause, a resume, and the deadline: its tick is still unread. -/
theorem client_dispatcher_coherent_resumed :
    ∃ d, ClientDispatcher.machine.run (.start (.new 0) 30)
        [.sendRequest (heartbeatBundle "1"), .messagePump .request none, .pause, .resume,
          .timerExpires] = some d
      ∧ d.paused = false ∧ d.pendingRequestState.hasPendingRequest = true
      ∧ (d.timer.armed = some d.timeout ∨ (d.timer.armed = none ∧ d.timer.tick = true)) := by
  have hrun : ∃ d, ClientDispatcher.machine.run (.start (.new 0) 30)
      [.sendRequest (heartbeatBundle "1"), .messagePump .request none, .pause, .resume,
        .timerExpires] = some d
      ∧ d.paused = false ∧ d.pendingRequestState.hasPendingRequest = true := ⟨_, rfl, rfl, rfl⟩
  obtain ⟨d, hd, hpaused, hpending⟩ := hrun
  have hr : Reachable ClientDispatcher.machine d := Reachable.run (.init ⟨_, _, rfl⟩) _ hd
  exact ⟨d, hd, hpaused, hpending, (client_dispatcher_coherent hr).2.2 hpaused hpending⟩

end OcppGo.Proof
