import OcppGo.ChargePointLocks
import OcppGo.Proof.ChargePointCallbacks

/-!
# A sender, the pump and the locks between them

`SendRequest` of the charge point holds two locks while it waits for room in
`requestChannel`: the callback mutex and a read lock of the dispatcher. The pump,
which would make room, can be waiting for either. A `Pause` that waits for the
sender keeps the pump out of `reqChan` and `IsPaused`. And when a burst of write
failures has filled `errorHandler`, the pump waits for `asyncCallbackHandler`,
which waits for the callback mutex.

The callback mutex lets one sender in at a time, so at most one has the read lock.
If it goes to wait only while the pump is at its `select`, and the pump then takes
the request token first, the pump is never held up.
-/

namespace OcppGo.Proof

open OcppGo.Lib OcppGo.Ocppj OcppGo.ChargePointLocks

/-- Where the pump would make room. -/
def atSelect : PumpPC → Bool
  | .select => true
  | _ => false

/-- Somebody waits for room in `requestChannel`. -/
def someoneBlocked (l : ChargePointLocks) : Bool :=
  l.station.client.requestChannel != 0 && !l.mutex.readers.isEmpty

/--
A sender takes the read lock with `requestChannel` full only while the pump is at
its `select`. As long as a sender waits there, the `select` takes no ready token
and no tick, and nobody calls `Lock`.
-/
def RequestsFirst (l : ChargePointLocks) : ChargePointLocks.Action → Prop
  | .rlock _ => l.station.client.requestChannel ≠ 0 → atSelect l.station.client.pump = true
  | .lock _ => someoneBlocked l = false
  | .step (.client (.select sel)) => sel ≠ .request → someoneBlocked l = false
  | _ => True

instance (l : ChargePointLocks) : ∀ b, Decidable (RequestsFirst l b)
  | .rlock _ => inferInstanceAs (Decidable
      (l.station.client.requestChannel ≠ 0 → atSelect l.station.client.pump = true))
  | .lock _ => inferInstanceAs (Decidable (someoneBlocked l = false))
  | .step (.client (.select sel)) =>
      inferInstanceAs (Decidable (sel ≠ .request → someoneBlocked l = false))
  | .step (.client (.pump _)) | .step (.client (.receive _ _)) | .step (.client .reader)
  | .step (.client (.call _)) | .step (.client (.caller _)) | .step (.client .timerExpires)
  | .step (.trySend _ _ _) | .step .finishTry | .step (.take _) | .step .deliver
  | .reqChan | .isRunning _ => .isTrue trivial

/-! ## What a step does to the request channel -/

/-- The call is between its `Push` and its return. -/
def midSend : CallPC → Bool
  | .push _ | .signal => true
  | _ => false

/-- A step of the client, as far as the request channel is concerned. -/
inductive RequestTraffic (c : ClientSteps) : ClientSteps.Action → ClientSteps → Prop where
  | send (t : Nat) (c' : ClientSteps) : c.callers[t]? = some .signal → c.requestChannel = 0 →
      c'.requestChannel = 1 → c'.callers = c.callers.set t .returned →
      RequestTraffic c (.caller t) c'
  | take (c' : ClientSteps) : c'.requestChannel = c.requestChannel - 1 →
      c'.callers = c.callers → RequestTraffic c (.select .request) c'
  | other (a : ClientSteps.Action) (c' : ClientSteps) : a ≠ .select .request →
      c'.requestChannel = c.requestChannel →
      (∀ t : Nat, c.callers[t]? = some .signal → a ≠ .caller t ∧ c'.callers[t]? = some .signal) →
      ((∀ sel, a ≠ .select sel) → c.pump = .select → c'.pump = .select) → RequestTraffic c a c'

section Client

variable {c c' : ClientSteps}

/-- A call that is not at its send moves. -/
theorem RequestTraffic.callerMoves {t : Nat} {pc pc' : CallPC} (ht : c.callers[t]? = some pc)
    (hpc : pc ≠ .signal) (hcallers : c'.callers = c.callers.set t pc')
    (hr : c'.requestChannel = c.requestChannel) (hp : c'.pump = c.pump) :
    RequestTraffic c (.caller t) c' := by
  refine .other _ c' (by simp) hr (fun u hu => ?_) (fun _ hsel => hp.trans hsel)
  have hut : u ≠ t := by
    rintro rfl
    rw [ht] at hu
    exact hpc (Option.some.inj hu)
  refine ⟨fun he => hut (by cases he; rfl), ?_⟩
  rw [hcallers, List.getElem?_set_ne (fun e => hut e.symm)]
  exact hu

/-- Nobody sends, and the calls stay where they are. -/
theorem RequestTraffic.quiet {a : ClientSteps.Action} (ha : a ≠ .select .request)
    (hcall : ∀ t, a ≠ .caller t) (hr : c'.requestChannel = c.requestChannel)
    (hc : c'.callers = c.callers)
    (hp : (∀ sel, a ≠ .select sel) → c.pump = .select → c'.pump = .select) :
    RequestTraffic c a c' :=
  .other a c' ha hr (fun t ht => ⟨hcall t, by rw [hc]; exact ht⟩) hp

theorem CompleteMove.requestChannel {id : String} {k : Completing} {r : Option Completing}
    (h : CompleteMove c id k c' r) : c'.requestChannel = c.requestChannel := by
  cases h <;> rfl

theorem callerStep_requests {t : Nat} {pc : CallPC} (ht : c.callers[t]? = some pc)
    (h : c.callerStep t pc = some c') : RequestTraffic c (.caller t) c' := by
  cases pc with
  | returned => exact absurd h (by simp [ClientSteps.callerStep])
  | refused => exact absurd h (by simp [ClientSteps.callerStep])
  | push req =>
      simp only [ClientSteps.callerStep] at h
      split at h <;> cases h <;> exact .callerMoves ht (by simp) rfl rfl rfl
  | signal =>
      simp only [ClientSteps.callerStep] at h
      split at h
      · rename_i hroom
        have hempty : c.requestChannel = 0 := by omega
        cases h
        exact .send t _ ht hempty (by rw [hempty]; rfl) rfl
      · exact absurd h (by simp)
  | completing id k =>
      obtain ⟨⟨c₁, r⟩, hr, rfl⟩ := Option.map_eq_some_iff.mp h
      have hc := complete_move hr
      have hset : ∀ pc', c₁.callers.set t pc' = c.callers.set t pc' :=
        fun _ => by rw [hc.callers]
      cases r with
      | none => exact .callerMoves ht (by simp) (hset _) hc.requestChannel hc.pump
      | some k' => exact .callerMoves ht (by simp) (hset _) hc.requestChannel hc.pump
  | pauseStop =>
      simp only [ClientSteps.callerStep] at h
      split at h <;> cases h <;> exact .callerMoves ht (by simp) rfl rfl rfl
  | pauseDrain =>
      simp only [ClientSteps.callerStep] at h
      split at h
      · cases h
        exact .callerMoves ht (by simp) rfl rfl rfl
      · exact absurd h (by simp)
  | pauseReset => cases h; exact .callerMoves ht (by simp) rfl rfl rfl
  | pauseSet => cases h; exact .callerMoves ht (by simp) rfl rfl rfl
  | resumeSet => cases h; exact .callerMoves ht (by simp) rfl rfl rfl
  | resumeTest =>
      simp only [ClientSteps.callerStep] at h
      split at h <;> cases h <;> exact .callerMoves ht (by simp) rfl rfl rfl
  | resumeReset => cases h; exact .callerMoves ht (by simp) rfl rfl rfl
  | resumeReady =>
      simp only [ClientSteps.callerStep] at h
      split at h
      · cases h
        exact .callerMoves ht (by simp) rfl rfl rfl
      · exact absurd h (by simp)

/-- The pump adds nothing to the channel, and leaves its `select` through it alone. -/
theorem pumpStep_requests {write : Option String} (h : c.pumpStep write = some c') :
    RequestTraffic c (.pump write) c' := by
  have hpump : c.pump ≠ .select := by
    intro hpc
    rw [ClientSteps.pumpStep, hpc] at h
    exact absurd h (by simp)
  -- its own `CompleteRequest` sends on another channel
  have hcomplete : ∀ {id : String} {k : Completing} {next : Completing → PumpPC} {done : PumpPC},
      c.pumpComplete id k next done = some c' →
      c'.callers = c.callers ∧ c'.requestChannel = c.requestChannel := by
    intro id k next done hs
    obtain ⟨⟨c₁, r⟩, hr, rfl⟩ := Option.map_eq_some_iff.mp hs
    have hc := complete_move hr
    cases r with
    | none => exact ⟨hc.callers, hc.requestChannel⟩
    | some k' => exact ⟨hc.callers, hc.requestChannel⟩
  have hcallers : c'.callers = c.callers ∧ c'.requestChannel = c.requestChannel := by
    unfold ClientSteps.pumpStep at h
    repeat' split at h
    all_goals first
      | exact hcomplete h
      | (cases h; done)
      | (cases h; exact ⟨rfl, rfl⟩)
  exact .quiet (by simp) (by simp) hcallers.2 hcallers.1 (fun _ hpc => absurd hpc hpump)

theorem select_requests {sel : ClientDispatcher.Select} (h : c.select sel = some c') :
    RequestTraffic c (.select sel) c' := by
  unfold ClientSteps.select at h
  split at h
  · split at h
    · cases h
      exact .take _ rfl rfl
    · exact absurd h (by simp)
  · split at h
    · cases h
      exact .quiet (by simp) (by simp) rfl rfl (fun hsel => absurd rfl (hsel _))
    · exact absurd h (by simp)
  · split at h
    · cases h
      exact .quiet (by simp) (by simp) rfl rfl (fun hsel => absurd rfl (hsel _))
    · exact absurd h (by simp)
  · exact absurd h (by simp)

/-- **Only a sender adds to the request channel, and only the `select` takes from it.** -/
theorem act_requests {a : ClientSteps.Action} (h : c.act a = some c') : RequestTraffic c a c' := by
  unfold ClientSteps.act at h
  split at h
  · exact absurd h (by simp)
  · cases a with
    | select sel => exact select_requests h
    | pump write => exact pumpStep_requests h
    | caller t =>
        obtain ⟨pc, ht, hs⟩ := Option.bind_eq_some_iff.mp h
        exact callerStep_requests ht hs
    | receive id kind =>
        simp only [ClientSteps.receive] at h
        repeat' split at h
        all_goals first
          | (cases h; done)
          | (cases h; exact .quiet (by simp) (by simp) rfl rfl (fun _ hpc => hpc))
    | reader =>
        simp only [ClientSteps.readerStep] at h
        split at h
        · exact absurd h (by simp)
        · obtain ⟨⟨c₁, r⟩, hr, rfl⟩ := Option.map_eq_some_iff.mp h
          have hc := complete_move hr
          cases r with
          | none =>
              exact .quiet (by simp) (by simp) hc.requestChannel hc.callers
                (fun _ hpc => hc.pump.trans hpc)
          | some k' =>
              exact .quiet (by simp) (by simp) hc.requestChannel hc.callers
                (fun _ hpc => hc.pump.trans hpc)
        · cases h
          exact .quiet (by simp) (by simp) rfl rfl (fun _ hpc => hpc)
    | call op =>
        cases h
        refine .other _ _ (by simp) rfl (fun t ht => ⟨by simp, ?_⟩) (fun _ hpc => hpc)
        rw [ClientSteps.call, List.getElem?_append_left (List.getElem?_eq_some_iff.mp ht).1]
        exact ht
    | timerExpires =>
        obtain ⟨timer, _, rfl⟩ := Option.map_eq_some_iff.mp h
        exact .quiet (by simp) (by simp) rfl rfl (fun _ hpc => hpc)

theorem midSend_of_onward {pc pc' : CallPC} (h : onward pc pc' = true) :
    midSend pc' = false := by
  cases pc' <;> first | rfl | (cases pc <;> exact absurd h (by simp [onward]))

/-- Nothing but a call of `SendRequest` comes to be between a `Push` and its return. -/
theorem Move.midSend_at {a : ClientSteps.Action} (h : Move c a c') {t : Nat} {pc' : CallPC}
    (ht : c'.callers[t]? = some pc') (hpc' : midSend pc' = true)
    (ha : ∀ req, a ≠ .call (.sendRequest req)) :
    ∃ pc, c.callers[t]? = some pc ∧ midSend pc = true := by
  rcases h.caller_at ht with hold | ⟨op, rfl, rfl⟩ | ⟨pc, hold, hnext⟩
  · exact ⟨pc', hold, hpc'⟩
  · cases op with
    | sendRequest req => exact absurd rfl (ha req)
    | completeRequest id => exact absurd hpc' (by simp [ClientSteps.Operation.entry, midSend])
    | pause => exact absurd hpc' (by simp [ClientSteps.Operation.entry, midSend])
    | resume => exact absurd hpc' (by simp [ClientSteps.Operation.entry, midSend])
  · cases hnext with
    | onward hon =>
        rw [midSend_of_onward hon] at hpc'
        exact absurd hpc' (by simp)
    | push req => exact ⟨.push req, hold, rfl⟩
    | completes id k r => cases r <;> exact absurd hpc' (by simp [callAfter, midSend])
    | resumeTest => exact absurd hpc' (by simp [midSend])
    | resumeReady => exact absurd hpc' (by simp [midSend])

end Client

/-! ## The charge point's own steps -/

section Station

variable {cfg : PeerConfig} {s s' : ChargePoint} {a : ChargePoint.Action}

/-- Everyone in `SendRequest` is in the `TryQueue` that holds the callback mutex. -/
def InTryQueue (s : ChargePoint) : Prop :=
  ∀ (t : Nat) (pc : CallPC), s.client.callers[t]? = some pc → midSend pc = true →
    ∃ rid, s.trying = some (t, rid)

/-- `TryQueue` begins: nobody else is in `SendRequest`. -/
theorem InTryQueue.trySend {async : Bool} {req : RequestBundle} {err : Option String}
    (h : InTryQueue s) (hact : s.trySend cfg async req err = some s') : InTryQueue s' := by
  unfold ChargePoint.trySend at hact
  split at hact
  · cases hact
    exact h
  · split at hact
    · exact absurd hact (by simp)
    · rename_i hfree
      have hnobody : ∀ (t : Nat) (pc : CallPC), s.client.callers[t]? = some pc →
          midSend pc = false := by
        intro t pc ht
        cases hpc : midSend pc with
        | false => rfl
        | true =>
            obtain ⟨rid, htry⟩ := h t pc ht hpc
            rw [hfree] at htry
            exact absurd htry (by simp)
      cases hact
      intro t pc ht hpc
      have hcallers : t = s.client.callers.length := by
        cases err with
        | none =>
            rcases getElem?_snoc ht with ht | ⟨hl, _⟩
            · exact absurd (hnobody t pc ht) (by simp [hpc])
            · exact hl
        | some text =>
            rcases getElem?_snoc ht with ht | ⟨hl, _⟩
            · exact absurd (hnobody t pc ht) (by simp [hpc])
            · exact hl
      exact ⟨req.call.uniqueId, by rw [hcallers]⟩

/-- `TryQueue` ends: its `SendRequest` has returned. -/
theorem InTryQueue.finishTry (h : InTryQueue s) (hact : s.finishTry = some s') :
    InTryQueue s' := by
  unfold ChargePoint.finishTry at hact
  split at hact
  · exact absurd hact (by simp)
  · rename_i t rid htry
    have hover : ∀ {pc : CallPC}, s.client.callers[t]? = some pc → midSend pc = false →
        ∀ (u : Nat) (x : CallPC), s.client.callers[u]? = some x → midSend x = true → False := by
      intro pc hpc hmid u x hu hx
      obtain ⟨rid', htry'⟩ := h u x hu hx
      rw [htry] at htry'
      cases htry'
      rw [hpc] at hu
      cases hu
      exact absurd (hmid.symm.trans hx) (by simp)
    split at hact
    · rename_i hpc
      cases hact
      exact fun u x hu hx => (hover hpc rfl u x hu hx).elim
    · rename_i hpc
      cases hact
      exact fun u x hu hx => (hover hpc rfl u x hu hx).elim
    · exact absurd hact (by simp)

theorem take_keeps {kind : Reply} (hact : s.take kind = some s') :
    s'.client = s.client ∧ s'.trying = s.trying := by
  unfold ChargePoint.take at hact
  split at hact
  · cases hact
    exact ⟨rfl, rfl⟩
  · exact absurd hact (by simp)

theorem deliver_keeps (hact : s.deliver = some s') :
    s'.client = s.client ∧ s'.trying = s.trying := by
  unfold ChargePoint.deliver at hact
  split at hact
  · split at hact
    · cases hact
      exact ⟨rfl, rfl⟩
    · cases hact
      exact ⟨rfl, rfl⟩
  · exact absurd hact (by simp)

theorem InTryQueue.step (h : InTryQueue s) (hact : s.act cfg a = some s') : InTryQueue s' := by
  have hkeeps : s'.client = s.client ∧ s'.trying = s.trying → InTryQueue s' := by
    rintro ⟨hc, htry⟩
    rw [InTryQueue, hc, htry]
    exact h
  cases a with
  | trySend async req err => exact h.trySend hact
  | finishTry => exact h.finishTry hact
  | client a =>
      obtain ⟨hc, ha, hsame⟩ := clientStep_cases hact
      intro t pc ht hpc
      obtain ⟨pc₀, ht₀, hpc₀⟩ := (act_move hc).2.midSend_at ht hpc ha
      rw [hsame.trying]
      exact h t pc₀ ht₀ hpc₀
  | take kind => exact hkeeps (take_keeps hact)
  | deliver => exact hkeeps (deliver_keeps hact)

/-- A step that is not the client's leaves the channel, the pump and the senders alone. -/
theorem station_requests (hact : s.act cfg a = some s') :
    (∃ b, a = .client b ∧ RequestTraffic s.client b s'.client)
      ∨ s'.client.requestChannel = s.client.requestChannel ∧ s'.client.pump = s.client.pump
        ∧ ∀ t : Nat, s.client.callers[t]? = some .signal →
          s'.client.callers[t]? = some .signal := by
  have hkeeps : s'.client = s.client →
      s'.client.requestChannel = s.client.requestChannel ∧ s'.client.pump = s.client.pump
        ∧ ∀ t : Nat, s.client.callers[t]? = some .signal →
          s'.client.callers[t]? = some .signal := by
    intro hc
    rw [hc]
    exact ⟨rfl, rfl, fun _ ht => ht⟩
  cases a with
  | client b => exact Or.inl ⟨b, rfl, act_requests (clientStep_cases hact).1⟩
  | trySend async req err =>
      refine Or.inr ?_
      simp only [ChargePoint.act, ChargePoint.trySend] at hact
      split at hact
      · cases hact
        exact hkeeps rfl
      · split at hact
        · exact absurd hact (by simp)
        · cases hact
          have happend : ∀ (pc : CallPC) (t : Nat), s.client.callers[t]? = some .signal →
              (s.client.callers ++ [pc])[t]? = some .signal := by
            intro pc t ht
            rw [List.getElem?_append_left (List.getElem?_eq_some_iff.mp ht).1]
            exact ht
          cases err with
          | none => exact ⟨rfl, rfl, happend _⟩
          | some text => exact ⟨rfl, rfl, happend _⟩
  | finishTry =>
      refine Or.inr (hkeeps ?_)
      simp only [ChargePoint.act, ChargePoint.finishTry] at hact
      split at hact
      · exact absurd hact (by simp)
      · split at hact
        · cases hact
          rfl
        · cases hact
          rfl
        · exact absurd hact (by simp)
  | take kind => exact Or.inr (hkeeps (take_keeps hact).1)
  | deliver => exact Or.inr (hkeeps (deliver_keeps hact).1)

end Station

/-! ## The sender inside -/

/-- What keeps the pump from waiting for a sender. -/
structure SenderInside (l : ChargePointLocks) : Prop where
  trying : InTryQueue l.station
  /-- The read lock is kept during a send only. -/
  sending : ∀ g ∈ l.mutex.readers, ∃ t, g = .call t ∧ l.callAt t = some .signal
  nodup : l.mutex.readers.Nodup
  capacity : l.station.client.requestChannel ≤ 1
  /-- A sender waits for a pump that waits for nobody. -/
  blocked : someoneBlocked l = true →
    l.station.client.pump = .select ∧ l.mutex.writer = none

theorem senderInside_start (n : Nat) (timeout : Int) :
    SenderInside (ChargePointLocks.start n timeout) where
  trying := by
    intro t pc h
    exact absurd h (by simp [ChargePointLocks.start, ChargePoint.start, ClientSteps.start])
  sending := by intro g hg; exact absurd hg (by simp [ChargePointLocks.start, RWMutex.new])
  nodup := List.nodup_nil
  capacity := Nat.zero_le 1
  blocked := by intro h; exact absurd h (by simp [someoneBlocked, ChargePointLocks.start,
    ChargePoint.start, ClientSteps.start])

theorem someoneBlocked_iff {l : ChargePointLocks} :
    someoneBlocked l = true ↔ l.station.client.requestChannel ≠ 0 ∧ l.mutex.readers ≠ [] := by
  simp [someoneBlocked]

section Locks

variable {l l' : ChargePointLocks}

/-- Two goroutines at their send are the same one. -/
theorem SenderInside.alone (h : SenderInside l) {t u : Nat} (ht : l.callAt t = some .signal)
    (hu : l.callAt u = some .signal) : u = t := by
  obtain ⟨rid, hrid⟩ := h.trying t _ ht rfl
  obtain ⟨rid', hrid'⟩ := h.trying u _ hu rfl
  rw [hrid] at hrid'
  cases hrid'
  rfl

/-- The charge point does not move. -/
theorem SenderInside.still (h : SenderInside l) (hs : l'.station = l.station)
    (hreaders : l'.mutex.readers = l.mutex.readers)
    (hw : someoneBlocked l = true → l'.mutex.writer = none) : SenderInside l' := by
  have hblocked : someoneBlocked l' = someoneBlocked l := by
    rw [someoneBlocked, hs, hreaders]
    rfl
  refine ⟨?_, ?_, ?_, ?_, ?_⟩
  · rw [hs]
    exact h.trying
  · rw [hreaders]
    intro g hg
    obtain ⟨t, he, ht⟩ := h.sending g hg
    exact ⟨t, he, by rw [callAt, hs]; exact ht⟩
  · rw [hreaders]
    exact h.nodup
  · rw [hs]
    exact h.capacity
  · intro hb
    rw [hblocked] at hb
    exact ⟨hs ▸ (h.blocked hb).1, hw hb⟩

/-- A step of the charge point that is not a send. -/
theorem SenderInside.quiet (h : SenderInside l) {cfg : PeerConfig} {a : ChargePoint.Action}
    (hok : RequestsFirst l (.step a)) (hact : l.station.act cfg a = some l'.station)
    (hquiet : ∀ t, a = .client (.caller t) → l.callAt t ≠ some .signal)
    (hreaders : l'.mutex.readers = l.mutex.readers)
    (hw : l'.mutex.writer = l.mutex.writer ∨ l'.mutex.writer = none) : SenderInside l' := by
  -- it is enough that the senders stay, the channel does not fill up and the pump is not led away
  suffices hstay : (∀ t, l.callAt t = some .signal → l'.callAt t = some .signal)
      ∧ l'.station.client.requestChannel ≤ l.station.client.requestChannel
      ∧ (someoneBlocked l = true → l'.station.client.requestChannel ≠ 0 →
        l'.station.client.pump = .select) by
    obtain ⟨hcalls, hchannel, hpump⟩ := hstay
    refine ⟨h.trying.step hact, ?_, by rw [hreaders]; exact h.nodup,
      le_trans hchannel h.capacity, ?_⟩
    · rw [hreaders]
      intro g hg
      obtain ⟨t, he, ht⟩ := h.sending g hg
      exact ⟨t, he, hcalls t ht⟩
    · intro hb
      rw [someoneBlocked_iff, hreaders] at hb
      have hbefore : someoneBlocked l = true :=
        someoneBlocked_iff.mpr ⟨by omega, hb.2⟩
      refine ⟨hpump hbefore hb.1, ?_⟩
      rcases hw with hw | hw
      · rw [hw]
        exact (h.blocked hbefore).2
      · exact hw
  rcases station_requests hact with ⟨b, rfl, htraffic⟩ | ⟨hchannel, hpump, hcalls⟩
  · cases htraffic with
    | send t _ ht => exact absurd ht (hquiet t rfl)
    | take _ hchannel hcallers =>
        have hcap := h.capacity
        refine ⟨fun t ht => ?_, by omega, fun _ hne => absurd hchannel (by omega)⟩
        rw [callAt, hcallers]
        exact ht
    | other _ _ hsel hchannel hcalls hpump =>
        refine ⟨fun t ht => (hcalls t ht).2, le_of_eq hchannel, fun hb _ => ?_⟩
        refine hpump (fun sel he => ?_) (h.blocked hb).1
        subst he
        have hfree : someoneBlocked l = false := hok (fun he => hsel (by rw [he]))
        exact absurd (hfree.symm.trans hb) (by simp)
  · exact ⟨hcalls, le_of_eq hchannel, fun hb _ => hpump.trans (h.blocked hb).1⟩

/-- The sender is through, and nobody has the read lock. -/
theorem SenderInside.send (h : SenderInside l) {cfg : PeerConfig} {t : Nat} {s' : ChargePoint}
    (hact : l.station.act cfg (.client (.caller t)) = some s')
    (ht : l.callAt t = some .signal) :
    SenderInside { l with station := s', mutex := l.mutex.runlock (.call t) } := by
  have hempty : l.mutex.readers.erase (.call t) = [] := by
    rw [List.eq_nil_iff_forall_not_mem]
    intro g hg
    obtain ⟨hne, hg⟩ := h.nodup.mem_erase_iff.mp hg
    obtain ⟨u, rfl, hu⟩ := h.sending g hg
    exact hne (by rw [h.alone ht hu])
  refine ⟨h.trying.step hact, ?_, h.nodup.erase _, ?_, ?_⟩
  · intro g hg
    have hg' : g ∈ l.mutex.readers.erase (.call t) := hg
    rw [hempty] at hg'
    exact absurd hg' (by simp)
  · rcases station_requests hact with ⟨b, hb, htraffic⟩ | ⟨hchannel, _, _⟩
    · cases hb
      cases htraffic with
      | send _ _ _ _ hone => exact le_of_eq hone
      | other _ _ _ hchannel => exact hchannel ▸ h.capacity
    · exact hchannel ▸ h.capacity
  · intro hb
    exact absurd hempty (someoneBlocked_iff.mp hb).2

/-- What a step of the charge point does with the lock. -/
inductive LockStep (l : ChargePointLocks) : ChargePoint.Action → ChargePointLocks → Prop where
  | quiet (a : ChargePoint.Action) (l' : ChargePointLocks) :
      (∀ t, a = .client (.caller t) → l.callAt t ≠ some .signal) →
      l'.mutex.readers = l.mutex.readers →
      l'.mutex.writer = l.mutex.writer ∨ l'.mutex.writer = none → LockStep l a l'
  | send (t : Nat) (s' : ChargePoint) : l.callAt t = some .signal →
      .call t ∈ l.mutex.readers →
      LockStep l (.client (.caller t))
        { l with station := s', mutex := l.mutex.runlock (.call t) }

theorem step_lockStep {cfg : PeerConfig} {a : ChargePoint.Action} (h : l.step cfg a = some l') :
    l.station.act cfg a = some l'.station ∧ LockStep l a l' := by
  have hplain : (∀ t, a = .client (.caller t) → l.callAt t ≠ some .signal) →
      l.plain cfg a = some l' → l.station.act cfg a = some l'.station ∧ LockStep l a l' := by
    intro ha hs
    obtain ⟨s', hs', rfl⟩ := Option.map_eq_some_iff.mp hs
    exact ⟨hs', .quiet a _ ha rfl (Or.inl rfl)⟩
  unfold ChargePointLocks.step at h
  split at h
  · split at h
    · obtain ⟨s', hs, rfl⟩ := Option.map_eq_some_iff.mp h
      exact ⟨hs, .quiet _ _ (by simp) rfl (Or.inl rfl)⟩
    · exact absurd h (by simp)
  · split at h
    · exact absurd h (by simp)
    · exact hplain (by simp) h
  · rename_i t
    split at h
    · exact absurd h (by simp)
    · rename_i req ht
      split at h
      · refine hplain (fun u hu => ?_) h
        cases hu
        rw [ht]
        simp
      · exact absurd h (by simp)
    · rename_i ht
      split at h
      · rename_i hin
        obtain ⟨s', hs, rfl⟩ := Option.map_eq_some_iff.mp h
        exact ⟨hs, .send t s' ht hin⟩
      · exact absurd h (by simp)
    · rename_i pc _ hne ht
      have hquiet : ∀ u, ChargePoint.Action.client (.caller t) = .client (.caller u) →
          l.callAt u ≠ some .signal := by
        intro u hu hs
        cases hu
        rw [ht] at hs
        exact hne (Option.some.inj hs)
      split at h
      · split at h
        · obtain ⟨s', hs, rfl⟩ := Option.map_eq_some_iff.mp h
          refine ⟨hs, .quiet _ _ hquiet ?_ ?_⟩
          · dsimp only
            split <;> rfl
          · dsimp only
            split
            · exact Or.inr rfl
            · exact Or.inl rfl
        · exact absurd h (by simp)
      · exact hplain hquiet h
  · rename_i hcaller
    exact hplain (fun t he => absurd he (hcaller t)) h

/-- **Every step keeps the pump free for the sender.** -/
theorem senderInside_step {cfg : PeerConfig} {b : ChargePointLocks.Action} (h : SenderInside l)
    (hok : RequestsFirst l b) (hact : l.act cfg b = some l') : SenderInside l' := by
  cases b with
  | reqChan =>
      simp only [ChargePointLocks.act] at hact
      split at hact
      · cases hact
        exact h.still rfl rfl (fun hb => (h.blocked hb).2)
      · exact absurd hact (by simp)
  | isRunning t =>
      simp only [ChargePointLocks.act] at hact
      split at hact
      · cases hact
        exact h.still rfl rfl (fun hb => (h.blocked hb).2)
      · exact absurd hact (by simp)
  | rlock t =>
      simp only [ChargePointLocks.act] at hact
      split at hact
      · rename_i ht
        split at hact
        · exact absurd hact (by simp)
        · rename_i hout
          obtain ⟨m, hm, rfl⟩ := Option.map_eq_some_iff.mp hact
          obtain ⟨hfree, rfl⟩ := RWMutex.rlock_eq hm
          refine ⟨h.trying, ?_, List.nodup_cons.mpr ⟨hout, h.nodup⟩, h.capacity, ?_⟩
          · intro g hg
            rcases List.mem_cons.mp hg with rfl | hg
            · exact ⟨t, rfl, ht⟩
            · exact h.sending g hg
          · intro hb
            refine ⟨?_, hfree⟩
            have hsel := hok (someoneBlocked_iff.mp hb).1
            cases hpc : l.station.client.pump <;> rw [hpc] at hsel <;>
              first | rfl | exact absurd hsel (by simp [atSelect])
      · exact absurd hact (by simp)
  | lock t =>
      simp only [ChargePointLocks.act] at hact
      split at hact
      · obtain ⟨m, hm, rfl⟩ := Option.map_eq_some_iff.mp hact
        obtain ⟨_, rfl⟩ := RWMutex.announce_eq hm
        refine h.still rfl rfl (fun hb => ?_)
        exact absurd (hok.symm.trans hb) (by simp)
      · exact absurd hact (by simp)
  | step a =>
      obtain ⟨hs, hlock⟩ := step_lockStep hact
      cases hlock with
      | quiet _ _ hquiet hreaders hw => exact h.quiet hok hs hquiet hreaders hw
      | send t s' ht _ => exact h.send hs ht

theorem senderInside_reachable {cfg : PeerConfig} {n : Nat} {timeout : Int}
    (h : ReachableWhile (ChargePointLocks.machine cfg n timeout) RequestsFirst l) :
    SenderInside l := by
  refine ReachableWhile.invariant (P := SenderInside) ?_ ?_ h
  · rintro l rfl
    exact senderInside_start n timeout
  · intro l b l' _ hl hok hact
    exact senderInside_step hl hok hact

/-- At its `select`, with no writer about, the pump waits for nobody. -/
theorem pump_waits_for_nobody (hpump : l.station.client.pump = .select)
    (hw : l.mutex.writer = none) (g : StationGoroutine) : ¬ WaitsFor l .pump g := by
  intro hwait
  cases hwait with
  | reqChan w _ _ h => rw [hw] at h; exact absurd h (by simp)
  | isPaused w _ h => rw [hw] at h; exact absurd h (by simp)
  | readers w r h _ => rw [hw] at h; exact absurd h (by simp)
  | reportFailed p text h _ => rw [hpump] at h; exact absurd h (by simp)
  | reportTimedOut p h _ => rw [hpump] at h; exact absurd h (by simp)

end Locks

/--
**No sender waits for a pump that waits for the sender**, in every run in which
senders go to wait only while the pump is at its `select`, the `select` serves
them first, and nobody calls `Lock` meanwhile.
-/
theorem sender_never_deadlocks {cfg : PeerConfig} {n : Nat} {timeout : Int}
    {l : ChargePointLocks}
    (h : ReachableWhile (ChargePointLocks.machine cfg n timeout) RequestsFirst l) :
    ¬ l.Deadlocked := by
  rintro ⟨t, ⟨hin, ht, hfull⟩, hcycle⟩
  have hne : l.mutex.readers ≠ [] := List.ne_nil_of_mem hin
  obtain ⟨hpump, hw⟩ := (senderInside_reachable h).blocked
    (someoneBlocked_iff.mpr ⟨by omega, hne⟩)
  -- the sender waits for the pump, and the pump for nobody
  obtain ⟨g, hfirst, hrest⟩ := Relation.TransGen.head'_iff.mp hcycle
  have hg : g = .pump := by
    cases hfirst with
    | isRunning _ req w hpush => rw [ht] at hpush; exact absurd hpush (by simp)
    | rlock _ w _ hout => exact absurd hin hout
    | lock _ pc w hpc hlock =>
        rw [ht] at hpc
        cases hpc
        exact absurd hlock (by simp [CallPC.atLock])
    | readers _ r hwriter => rw [hw] at hwriter; exact absurd hwriter (by simp)
    | requestChannel _ _ => rfl
  subst hg
  rcases Relation.ReflTransGen.cases_head hrest with he | ⟨g, hnext, _⟩
  · exact absurd he (by simp)
  · exact pump_waits_for_nobody hpump hw g hnext

/-- A second request waits for room while the pump is at its `select`. -/
theorem second_sender_waits_for_select :
    ∃ l, ReachableWhile (ChargePointLocks.machine (chargePointConfig (fun _ => true)) 0 30)
        RequestsFirst l
      ∧ l.SendBlocked 1 ∧ ¬ l.Deadlocked := by
  have hrun : ∃ l, (ChargePointLocks.machine (chargePointConfig (fun _ => true)) 0 30).runWhile
        (fun l b => decide (RequestsFirst l b)) (ChargePointLocks.start 0 30)
        (.reqChan :: ChargePointLocks.pushing 0 "1" ++ ChargePointLocks.sent 0
          ++ ChargePointLocks.pushing 1 "2") = some l
      ∧ l.mutex.readers = [.call 1] ∧ l.callAt 1 = some .signal
      ∧ l.station.client.requestChannel = 1 := ⟨_, rfl, rfl, rfl, rfl⟩
  obtain ⟨l, hl, hreaders, hcall, hchannel⟩ := hrun
  have hreach : ReachableWhile (ChargePointLocks.machine (chargePointConfig (fun _ => true)) 0 30)
      RequestsFirst l :=
    ReachableWhile.runWhile (fun _ _ h => of_decide_eq_true h) (.init rfl) _ hl
  refine ⟨l, hreach, ⟨?_, hcall, le_of_eq hchannel.symm⟩, sender_never_deadlocks hreach⟩
  rw [hreaders]
  exact List.mem_singleton.mpr rfl

/-- Two requests, and a `Pause` while the second waits for room. -/
def pausedWhileSending : List ChargePointLocks.Action :=
  ChargePointLocks.pushing 0 "1" ++ ChargePointLocks.sent 0 ++ ChargePointLocks.pushing 1 "2"
    ++ [.step (.client (.call .pause)), .lock 2]

/-- The network refuses every message. -/
def failureBurst : List ChargePointLocks.Action :=
  ChargePointLocks.pushing 0 "1" ++ ChargePointLocks.sent 0 ++ ChargePointLocks.failing .request
    ++ ChargePointLocks.reporting ++ ChargePointLocks.pushing 1 "2" ++ ChargePointLocks.sent 1
    ++ ChargePointLocks.pushing 2 "3" ++ [.step (.take .error)]
    ++ ChargePointLocks.failing .ready ++ ChargePointLocks.reporting
    ++ ChargePointLocks.failing .ready

/--
Both ways round. In the first state the pump is before `reqChan`, behind a `Pause`
that waits for the sender of "2". In the second three writes have failed: one
cancellation is with `asyncCallbackHandler`, which waits for the callback mutex of
the sender of "3"; one fills `errorHandler`; and the pump waits to add the third.
-/
theorem sender_holds_what_pump_needs :
    (∃ l, Reachable (ChargePointLocks.machine (chargePointConfig (fun _ => true)) 0 30) l
      ∧ l.mutex.writer = some (.call 2) ∧ l.Deadlocked)
    ∧ ∃ l, Reachable (ChargePointLocks.machine (chargePointConfig (fun _ => true)) 0 30) l
      ∧ l.mutex.writer = none ∧ l.Deadlocked := by
  have hpause : ∃ l, (ChargePointLocks.machine (chargePointConfig (fun _ => true)) 0 30).run
        (ChargePointLocks.start 0 30) pausedWhileSending = some l
      ∧ l.mutex.readers = [.call 1] ∧ l.mutex.writer = some (.call 2)
      ∧ l.callAt 1 = some .signal ∧ l.station.client.requestChannel = 1
      ∧ l.station.client.pump = .select ∧ l.selecting = false :=
    ⟨_, rfl, rfl, rfl, rfl, rfl, rfl, rfl⟩
  have hburst : ∃ l p, (ChargePointLocks.machine (chargePointConfig (fun _ => true)) 0 30).run
        (ChargePointLocks.start 0 30) failureBurst = some l
      ∧ l.mutex.readers = [.call 2] ∧ l.mutex.writer = none
      ∧ l.callAt 2 = some .signal ∧ l.station.client.requestChannel = 1
      ∧ l.station.client.pump = .reportFailed p "broken pipe"
      ∧ l.station.errorHandler.isSome = true ∧ l.station.received.isSome = true
      ∧ l.station.trying = some (2, "3") :=
    ⟨_, ⟨2, heartbeatBundle "3"⟩, rfl, rfl, rfl, rfl, rfl, rfl, rfl, rfl, rfl⟩
  obtain ⟨l₁, hl₁, hreaders₁, hwriter₁, hcall₁, hchannel₁, hpump₁, hsel₁⟩ := hpause
  obtain ⟨l₂, p, hl₂, hreaders₂, hwriter₂, hcall₂, hchannel₂, hpump₂, herr₂, hrecv₂, htry₂⟩ :=
    hburst
  have hin₁ : .call 1 ∈ l₁.mutex.readers := by rw [hreaders₁]; exact List.mem_singleton.mpr rfl
  have hin₂ : .call 2 ∈ l₂.mutex.readers := by rw [hreaders₂]; exact List.mem_singleton.mpr rfl
  have hblocked₁ : l₁.SendBlocked 1 := ⟨hin₁, hcall₁, le_of_eq hchannel₁.symm⟩
  have hblocked₂ : l₂.SendBlocked 2 := ⟨hin₂, hcall₂, le_of_eq hchannel₂.symm⟩
  refine ⟨⟨l₁, Reachable.run (.init rfl) _ hl₁, hwriter₁, 1, hblocked₁, ?_⟩,
    l₂, Reachable.run (.init rfl) _ hl₂, hwriter₂, 2, hblocked₂, ?_⟩
  · -- sender, pump, `Pause`, sender
    exact .head (.requestChannel 1 hblocked₁)
      (.head (.reqChan _ hpump₁ hsel₁ hwriter₁) (.single (.readers _ _ hwriter₁ hin₁)))
  · -- sender, pump, `asyncCallbackHandler`, sender
    exact .head (.requestChannel 2 hblocked₂)
      (.head (.reportFailed p _ hpump₂ herr₂) (.single (.dequeue 2 _ hrecv₂ htry₂)))

end OcppGo.Proof
