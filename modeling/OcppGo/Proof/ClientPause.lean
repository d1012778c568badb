import OcppGo.Proof.ClientCoherence

/-!
# What happens between a pause and the next resume

`Pause` raises a flag and parks the timer on its long tick. The pump looks at the
flag only after its `select`, so the branch of the timer is taken whether or not
the dispatcher is paused: once the long tick runs out, the request that waits for
the connection to come back is canceled as timed out. The same happens at once
when `Pause` finds a timer that runs and still has an old tick in its channel,
because stopping a running timer does not empty the channel.

If neither happens the dispatcher is frozen: a paused dispatcher with a pending
request has no tick to read, and without one no iteration of the pump reaches the
queue, the network or the cancel callback.
-/

namespace OcppGo.Proof

open OcppGo.Lib OcppGo.Ocppj

/--
The timer leaves a paused request alone. Its long tick does not run out while a
request is pending, and `Pause` does not find an unread tick behind a running
timer.
-/
def Parked (d : ClientDispatcher) : ClientDispatcher.Action → Prop
  | .timerExpires => d.paused = true → d.pendingRequestState.hasPendingRequest = false
  | .pause => d.pendingRequestState.hasPendingRequest = true → d.timer.tick = true →
      d.timer.armed = none
  | _ => True

instance (d : ClientDispatcher) : ∀ a, Decidable (Parked d a)
  | .timerExpires => inferInstanceAs
      (Decidable (d.paused = true → d.pendingRequestState.hasPendingRequest = false))
  | .pause => inferInstanceAs (Decidable (d.pendingRequestState.hasPendingRequest = true →
      d.timer.tick = true → d.timer.armed = none))
  | .sendRequest _ | .completeRequest _ | .resume | .messagePump _ _ => .isTrue trivial

/-- While a request waits out a pause, there is no tick to read. -/
def NoTick (d : ClientDispatcher) : Prop :=
  d.paused = true → d.pendingRequestState.hasPendingRequest = true → d.timer.tick = false

/-- What the calls of `SendRequest` and `CompleteRequest` alone make of queue and stamp. -/
def callsOnly (q : FIFOClientQueue Posted × Nat) :
    ClientDispatcher.Action → FIFOClientQueue Posted × Nat
  | .sendRequest req =>
      match q.1.push { seq := q.2, bundle := req } with
      | .error _ => q
      | .ok q' => (q', q.2 + 1)
  | .completeRequest requestId =>
      match q.1.peek with
      | none => q
      | some p => if p.id = requestId then (q.1.pop, q.2) else q
  | _ => q

/-- A step that writes nothing, cancels nothing, and leaves the queue to the calls. -/
structure Frozen (a : ClientDispatcher.Action) (d d' : ClientDispatcher) : Prop where
  written : d'.written = d.written
  canceled : d'.canceled = d.canceled
  queue : (d'.requestQueue, d'.accepted) = callsOnly (d.requestQueue, d.accepted) a
  paused : d'.paused = true

variable {d d' : ClientDispatcher}

/-- A paused dispatcher dispatches nothing. -/
theorem dispatchIfReady_paused (hp : d.paused = true) (write : Option String) :
    d.dispatchIfReady write = d := by
  unfold ClientDispatcher.dispatchIfReady
  rw [hp]
  split <;> rfl

/-- Without a pending request the branch of the timer only starts it anew. -/
theorem onTimeout_free (hfree : d.pendingRequestState.hasPendingRequest = false)
    (hrun : d.status = .running) :
    d.onTimeout = { d with timer := d.timer.reset defaultTimeoutTick } := by
  have hc : d.cancelTimedOut = d := by
    unfold ClientDispatcher.cancelTimedOut
    rw [hfree]
    rfl
  unfold ClientDispatcher.onTimeout
  rw [hc, if_pos hrun]

/-- An iteration of a paused pump takes a token or a tick, and that is all. -/
theorem messagePump_paused {sel : ClientDispatcher.Select} {write : Option String}
    (hp : d.paused = true) (hn : NoTick d) (hrun : d.status = .running)
    (hd : d.messagePump sel write = some d') :
    ∃ (requests ready : Nat) (timer : Timer) (rdy : Bool),
      d' = { d with
        requestChannel := requests, readyForDispatch := ready, timer := timer, rdy := rdy }
        ∧ (d.pendingRequestState.hasPendingRequest = true → timer = d.timer) := by
  unfold ClientDispatcher.messagePump at hd
  cases sel with
  | request =>
      dsimp only at hd
      split at hd
      · cases hd
        refine ⟨d.requestChannel - 1, d.readyForDispatch, d.timer, d.rdy, ?_, fun _ => rfl⟩
        exact dispatchIfReady_paused (d := { d with requestChannel := d.requestChannel - 1 }) hp
          write
      · exact absurd hd (by simp)
  | timer =>
      dsimp only at hd
      split at hd
      · rename_i htick
        cases hd
        -- the tick is there, so the slot is free
        have hfree : d.pendingRequestState.hasPendingRequest = false := by
          by_contra hbusy
          rw [hn hp (by simpa using hbusy)] at htick
          exact absurd htick (by simp)
        have hbody := onTimeout_free (d := { d with timer := { d.timer with tick := false } })
          hfree hrun
        rw [hbody]
        refine ⟨d.requestChannel, d.readyForDispatch,
          { armed := some defaultTimeoutTick, tick := false }, d.rdy, ?_, ?_⟩
        · exact dispatchIfReady_paused
            (d := { d with timer := { armed := some defaultTimeoutTick, tick := false } }) hp write
        · intro hbusy
          exact absurd (hbusy.symm.trans hfree) (by simp)
      · exact absurd hd (by simp)
  | ready =>
      dsimp only at hd
      split at hd
      · cases hd
        refine ⟨d.requestChannel, d.readyForDispatch - 1, d.timer, true, ?_, fun _ => rfl⟩
        exact dispatchIfReady_paused (d := { d with
          readyForDispatch := d.readyForDispatch - 1, rdy := true }) hp write
      · exact absurd hd (by simp)

/-- `CompleteRequest` does to the queue what it does on its own, and never takes a slot. -/
theorem completeRequest_queue (d : ClientDispatcher) (requestId : String) :
    ((d.completeRequest requestId).requestQueue, (d.completeRequest requestId).accepted)
        = callsOnly (d.requestQueue, d.accepted) (.completeRequest requestId)
      ∧ ((d.completeRequest requestId).pendingRequestState.hasPendingRequest = true →
          d.pendingRequestState.hasPendingRequest = true) := by
  have hslot : (d.pendingRequestState.deletePendingRequest requestId).hasPendingRequest = true →
      d.pendingRequestState.hasPendingRequest = true := by
    intro h
    rw [ClientState.hasPendingRequest_iff, ClientState.deletePendingRequest_requestID] at h
    rw [ClientState.hasPendingRequest_iff]
    split at h
    · exact absurd rfl h
    · exact h
  unfold ClientDispatcher.completeRequest ClientDispatcher.matchesHead callsOnly
  cases hp : d.requestQueue.peek with
  | none => exact ⟨rfl, id⟩
  | some p =>
      dsimp only
      by_cases hid : p.id = requestId
      · rw [if_pos hid, if_pos (beq_iff_eq.mpr hid)]
        exact ⟨rfl, hslot⟩
      · rw [if_neg hid, if_neg (by simpa using hid)]
        exact ⟨rfl, id⟩

theorem pause_eq (hd : d.pause = some d') :
    ∃ t, d.timer.stopAndDrain = some t
      ∧ d' = { d with timer := t.reset defaultTimeoutTick, paused := true } := by
  unfold ClientDispatcher.pause at hd
  split at hd
  · exact absurd hd (by simp)
  · rename_i t ht
    cases hd
    exact ⟨t, ht, rfl⟩

/-- A paused dispatcher after `Pause` has an empty tick channel, if the call did its work. -/
theorem noTick_pause (hok : Parked d .pause) (hd : d.pause = some d') : NoTick d' := by
  obtain ⟨t, ht, rfl⟩ := pause_eq hd
  intro _ hbusy
  show t.tick = false
  unfold Timer.stopAndDrain at ht
  split at ht
  · rename_i x harmed
    cases ht
    -- a running timer whose tick was read, by the condition
    by_contra htick
    have hnone := hok hbusy (by simpa using htick)
    rw [harmed] at hnone
    exact absurd hnone (by simp)
  · split at ht
    · cases ht; rfl
    · exact absurd ht (by simp)

/-- Whatever the paused dispatcher does, it stays frozen, and no tick appears. -/
theorem frozen_step {a : ClientDispatcher.Action} (hp : d.paused = true) (hn : NoTick d)
    (hok : Parked d a) (ha : a ≠ .resume) (hact : d.act a = some d') :
    Frozen a d d' ∧ NoTick d' := by
  unfold ClientDispatcher.act at hact
  split at hact
  · exact absurd hact (by simp)
  · cases a with
    | sendRequest req =>
        dsimp only at hact
        split at hact
        · exact absurd hact (by simp)
        · unfold ClientDispatcher.sendRequest at hact
          cases hq : d.requestQueue.push { seq := d.accepted, bundle := req } with
          | error text =>
              rw [hq] at hact
              cases hact
              exact ⟨⟨rfl, rfl, by simp only [callsOnly, hq], hp⟩, hn⟩
          | ok q =>
              rw [hq] at hact
              cases hact
              exact ⟨⟨rfl, rfl, by simp only [callsOnly, hq], hp⟩, hn⟩
    | completeRequest requestId =>
        cases hact
        obtain ⟨hqueue, hslot⟩ := completeRequest_queue d requestId
        have hframe : (d.completeRequest requestId).written = d.written
            ∧ (d.completeRequest requestId).canceled = d.canceled
            ∧ (d.completeRequest requestId).paused = d.paused
            ∧ (d.completeRequest requestId).timer = d.timer := by
          unfold ClientDispatcher.completeRequest
          split
          · exact ⟨rfl, rfl, rfl, rfl⟩
          · exact ⟨rfl, rfl, rfl, rfl⟩
        obtain ⟨hw, hc, hpaused, ht⟩ := hframe
        refine ⟨⟨hw, hc, hqueue, hpaused.trans hp⟩, fun _ hbusy => ?_⟩
        rw [ht]
        exact hn hp (hslot hbusy)
    | pause =>
        refine ⟨?_, noTick_pause hok hact⟩
        obtain ⟨t, _, rfl⟩ := pause_eq hact
        exact ⟨rfl, rfl, rfl, rfl⟩
    | resume => exact absurd rfl ha
    | timerExpires =>
        obtain ⟨t, ht, rfl⟩ := Option.map_eq_some_iff.mp hact
        refine ⟨⟨rfl, rfl, rfl, hp⟩, fun _ hbusy => ?_⟩
        exact absurd (hbusy.symm.trans (hok hp)) (by simp)
    | messagePump sel write =>
        dsimp only at hact
        split at hact
        · rename_i hrun
          obtain ⟨n, m, t, rdy, rfl, ht⟩ := messagePump_paused hp hn hrun hact
          refine ⟨⟨rfl, rfl, rfl, hp⟩, fun _ hbusy => ?_⟩
          show t.tick = false
          rw [ht hbusy]
          exact hn hp hbusy
        · exact absurd hact (by simp)

/-- **A stretch without `Resume` leaves the dispatcher as `Pause` found it**, the calls apart. -/
theorem frozen_stretch {as : List ClientDispatcher.Action} (hp : d.paused = true)
    (hn : NoTick d) (hs : Stretch ClientDispatcher.machine Parked d as d')
    (hno : ClientDispatcher.Action.resume ∉ as) :
    d'.written = d.written ∧ d'.canceled = d.canceled
      ∧ (d'.requestQueue, d'.accepted) = as.foldl callsOnly (d.requestQueue, d.accepted) := by
  induction hs with
  | nil s => exact ⟨rfl, rfl, rfl⟩
  | cons hok hact hrest ih =>
      rw [List.mem_cons, not_or] at hno
      obtain ⟨hf, hn'⟩ := frozen_step hp hn hok (fun h => hno.1 h.symm) hact
      obtain ⟨hw, hc, hq⟩ := ih hf.paused hn' hno.2
      refine ⟨hw.trans hf.written, hc.trans hf.canceled, ?_⟩
      rw [hq, hf.queue, List.foldl_cons]

/--
**Between a `Pause` and the next `Resume` the dispatcher is frozen**, in every run
in which the timer leaves paused requests alone: nothing is passed to
`network.Write`, nothing is reported as canceled, and the queue is what the calls
of `SendRequest` and `CompleteRequest` made of it. The stretch may start anywhere.
-/
theorem pause_freezes {d₀ : ClientDispatcher} {as : List ClientDispatcher.Action}
    (hok : Parked d₀ .pause) (hpause : ClientDispatcher.machine.act d₀ .pause = some d)
    (hs : Stretch ClientDispatcher.machine Parked d as d')
    (hno : ClientDispatcher.Action.resume ∉ as) :
    d'.written = d.written ∧ d'.canceled = d.canceled
      ∧ (d'.requestQueue, d'.accepted) = as.foldl callsOnly (d.requestQueue, d.accepted) := by
  have hd : d₀.pause = some d := by
    have hact : d₀.act .pause = some d := hpause
    unfold ClientDispatcher.act at hact
    split at hact
    · exact absurd hact (by simp)
    · exact hact
  have hp : d.paused = true := by
    obtain ⟨t, _, rfl⟩ := pause_eq hd
    rfl
  exact frozen_stretch hp (noTick_pause hok hd) hs hno

/-- One request written, the next one queued. -/
def oneWrittenOneQueued : List ClientDispatcher.Action :=
  [.sendRequest (heartbeatBundle "1"), .messagePump .request none,
    .sendRequest (heartbeatBundle "2")]

/-- A reply comes in and a request is sent, while the pump swallows its tokens. -/
def repliedWhilePaused : List ClientDispatcher.Action :=
  [.messagePump .request none, .completeRequest "1", .sendRequest (heartbeatBundle "3"),
    .messagePump .ready none, .messagePump .request none]

theorem paused_until_resumed :
    ∃ d₀ d d', ReachableWhile ClientDispatcher.machine Parked d₀
      ∧ ClientDispatcher.machine.act d₀ .pause = some d
      ∧ Stretch ClientDispatcher.machine Parked d repliedWhilePaused d'
      ∧ d'.written.map Posted.id = ["1"] ∧ d'.canceled.length = 0
      ∧ d'.requestQueue.elements.map Posted.id = ["2", "3"] := by
  have hrun : ∃ d₀ d d',
      ClientDispatcher.machine.runWhile (fun d a => decide (Parked d a)) (.start (.new 0) 30)
          oneWrittenOneQueued = some d₀
        ∧ ClientDispatcher.machine.act d₀ .pause = some d ∧ Parked d₀ .pause
        ∧ ClientDispatcher.machine.runWhile (fun d a => decide (Parked d a)) d
            repliedWhilePaused = some d'
        ∧ d.written.map Posted.id = ["1"] ∧ d.canceled.length = 0
        ∧ ((repliedWhilePaused.foldl callsOnly (d.requestQueue, d.accepted)).1.elements.map
            Posted.id) = ["2", "3"] := by
    refine ⟨_, _, _, rfl, rfl, ?_, rfl, rfl, rfl, rfl⟩
    intro _ htick
    exact absurd htick (by decide)
  obtain ⟨d₀, d, d', h₀, hpause, hok, hd', hw, hc, hq⟩ := hrun
  have hs : Stretch ClientDispatcher.machine Parked d repliedWhilePaused d' :=
    Stretch.runWhile (fun _ _ h => of_decide_eq_true h) hd'
  obtain ⟨hw', hc', hq'⟩ := pause_freezes hok hpause hs (by simp [repliedWhilePaused])
  refine ⟨d₀, d, d', ?_, hpause, hs, by rw [hw', hw], by rw [hc', hc], ?_⟩
  · exact ReachableWhile.runWhile (fun _ _ h => of_decide_eq_true h) (.init ⟨_, _, rfl⟩) _ h₀
  · rw [← hq, ← hq']

/--
The long tick runs out in the middle of a pause: the pending request is canceled
as timed out and leaves the queue, though nothing was received.
-/
theorem pause_ends_in_timeout :
    ∃ d₀ d d', Reachable ClientDispatcher.machine d₀
      ∧ ClientDispatcher.machine.act d₀ .pause = some d
      ∧ ClientDispatcher.machine.run d [.timerExpires, .messagePump .timer none] = some d'
      ∧ d'.paused = true
      ∧ d.canceled.length = 0 ∧ d'.canceled.map Canceled.requestID = ["1"]
      ∧ d.requestQueue.elements.map Posted.id = ["1", "2"]
      ∧ d'.requestQueue.elements.map Posted.id = ["2"] := by
  have hrun : ∃ d₀ d d',
      ClientDispatcher.machine.run (.start (.new 0) 30) oneWrittenOneQueued = some d₀
        ∧ ClientDispatcher.machine.act d₀ .pause = some d
        ∧ ClientDispatcher.machine.run d [.timerExpires, .messagePump .timer none] = some d'
        ∧ d'.paused = true
        ∧ d.canceled.length = 0 ∧ d'.canceled.map Canceled.requestID = ["1"]
        ∧ d.requestQueue.elements.map Posted.id = ["1", "2"]
        ∧ d'.requestQueue.elements.map Posted.id = ["2"] :=
    ⟨_, _, _, rfl, rfl, rfl, rfl, rfl, rfl, rfl, rfl⟩
  obtain ⟨d₀, d, d', h₀, hrest⟩ := hrun
  exact ⟨d₀, d, d', Reachable.run (.init ⟨_, _, rfl⟩) _ h₀, hrest⟩

end OcppGo.Proof
