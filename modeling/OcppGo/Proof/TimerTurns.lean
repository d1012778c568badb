import OcppGo.Lib.SharedTimer
import OcppGo.Ocppj.ClientLocks
import OcppGo.Proof.ClientMoves

/-!
# Who drains the timer

`Pause` and the pump both stop the dispatcher's timer and drain it when it has expired,
and the pump's `select` receives its ticks. `d.mutex` keeps one `Pause` from another. It
does not keep the pump from a `Pause`: when the pump has taken a tick and not yet set the
timer again, the `Stop` of a `Pause` is false, and there is nothing to drain. The pump goes
on to `IsPaused`, for which it needs the mutex, and the `Pause` waits for the tick of the
next day.

Each of them is a user of a shared timer. What has to be excluded is what breaks their
turns.
-/

namespace OcppGo.Proof

open OcppGo.Lib OcppGo.Ocppj

/-- What the pump does with the timer next; a crashed one does not set it again. -/
def pumpUse : PumpPC → TimerUse
  | .drainTimer => .draining
  | .resetTimer | .hasPending | .peekTimeout | .timedOut _ _ | .reportTimedOut _ | .resetTick
  | .crashed => .resetting
  | _ => .idle

/-- What a call does with the timer next. -/
def callUse : CallPC → TimerUse
  | .pauseDrain => .draining
  | .pauseReset => .resetting
  | _ => .idle

def useOf (callers : List CallPC) (t : Nat) : TimerUse :=
  match callers[t]? with
  | some pc => callUse pc
  | none => .idle

/-- The timer as the pump, which is user `none`, and the calls share it. -/
def sharedTimer (s : ClientSteps) : SharedTimer (Option Nat) where
  armed := s.timer.armed.isSome
  tick := s.timer.tick
  use
    | none => pumpUse s.pump
    | some t => useOf s.callers t

/-- In its critical section, past the `Lock`. -/
def holdsLock : CallPC → Bool
  | .pauseDrain | .pauseReset | .pauseSet => true
  | _ => false

/-- A step leaves the shared timer alone, or is a turn of one of its users. -/
def TurnOrSame (s s' : ClientSteps) : Prop :=
  sharedTimer s' = sharedTimer s ∨ SharedTimer.Turn (sharedTimer s) (sharedTimer s')

section

variable {s s' : ClientSteps} {t : Nat} {pc : CallPC}

/-! ## Where the users stand after a step -/

theorem sharedTimer_pump (hcallers : s'.callers = s.callers) :
    sharedTimer s' =
      { armed := s'.timer.armed.isSome, tick := s'.timer.tick
        use := Function.update (sharedTimer s).use none (pumpUse s'.pump) } := by
  have huse : (sharedTimer s').use
      = Function.update (sharedTimer s).use none (pumpUse s'.pump) := by
    funext i
    cases i with
    | none => rw [Function.update_self]; rfl
    | some u =>
        rw [Function.update_of_ne (by simp)]
        exact congrArg (useOf · u) hcallers
  rw [← huse]
  rfl

theorem sharedTimer_caller {pc' : CallPC} (ht : s.callers[t]? = some pc)
    (hpump : s'.pump = s.pump) (hcallers : s'.callers = s.callers.set t pc') :
    sharedTimer s' =
      { armed := s'.timer.armed.isSome, tick := s'.timer.tick
        use := Function.update (sharedTimer s).use (some t) (callUse pc') } := by
  have huse : (sharedTimer s').use
      = Function.update (sharedTimer s).use (some t) (callUse pc') := by
    funext i
    cases i with
    | none =>
        rw [Function.update_of_ne (by simp)]
        exact congrArg pumpUse hpump
    | some u =>
        by_cases hu : u = t
        · subst hu
          rw [Function.update_self]
          change useOf s'.callers u = _
          rw [useOf, hcallers, List.getElem?_set_self (List.getElem?_eq_some_iff.mp ht).1]
        · rw [Function.update_of_ne (by simpa using hu)]
          change useOf s'.callers u = useOf s.callers u
          rw [useOf, useOf, hcallers, List.getElem?_set_ne (fun e => hu e.symm)]
  rw [← huse]
  rfl

/-- Neither the timer nor what anyone does with it next has changed. -/
theorem sharedTimer_same (htimer : s'.timer = s.timer) (hpump : pumpUse s'.pump = pumpUse s.pump)
    (hcallers : ∀ t, useOf s'.callers t = useOf s.callers t) : sharedTimer s' = sharedTimer s := by
  have huse : (sharedTimer s').use = (sharedTimer s).use := by
    funext i
    cases i with
    | none => exact hpump
    | some t => exact hcallers t
  unfold sharedTimer at huse ⊢
  simp only at huse
  rw [htimer, huse]

/-! ## The pump -/

theorem CompleteMove.timer {id : String} {c : Completing} {r : Option Completing}
    (h : CompleteMove s id c s' r) : s'.timer = s.timer := by
  cases h <;> rfl

/-- The pump takes its turn. -/
theorem pump_turn {u : SharedTimer (Option Nat)} (hturn : SharedTimer.Turn (sharedTimer s) u)
    (hcallers : s'.callers = s.callers)
    (hu : { armed := s'.timer.armed.isSome, tick := s'.timer.tick
            use := Function.update (sharedTimer s).use none (pumpUse s'.pump) } = u) :
    TurnOrSame s s' :=
  Or.inr (by rw [sharedTimer_pump hcallers, hu]; exact hturn)

/-- A `CompleteRequest` of the pump, during which it uses the timer as before. -/
theorem pumpComplete_same {id : String} {c : Completing} {next : Completing → PumpPC}
    {done : PumpPC} (hnext : ∀ c', pumpUse (next c') = pumpUse s.pump)
    (hdone : pumpUse done = pumpUse s.pump) (h : s.pumpComplete id c next done = some s') :
    s'.callers = s.callers ∧ TurnOrSame s s' := by
  obtain ⟨⟨s₁, r⟩, hr, rfl⟩ := Option.map_eq_some_iff.mp h
  have hmove := complete_move hr
  have hcallers := hmove.callers
  cases r with
  | none =>
      exact ⟨hcallers, Or.inl (sharedTimer_same hmove.timer hdone fun t => by simp [hcallers])⟩
  | some c' =>
      exact ⟨hcallers, Or.inl (sharedTimer_same hmove.timer (hnext c') fun t => by simp [hcallers])⟩

theorem pumpStep_timer {write : Option String}
    (hturn : s.pump = .stopTimer → s.timer.armed = none → ∀ t, useOf s.callers t = .idle)
    (h : s.pumpStep write = some s') : s'.callers = s.callers ∧ TurnOrSame s s' := by
  -- most steps only move the pump on, away from the timer or within one use of it
  have hsame : ∀ {s' : ClientSteps}, s'.callers = s.callers → s'.timer = s.timer →
      pumpUse s'.pump = pumpUse s.pump → s'.callers = s.callers ∧ TurnOrSame s s' :=
    fun hc ht hp => ⟨hc, Or.inl (sharedTimer_same ht hp fun t => by rw [hc])⟩
  unfold ClientSteps.pumpStep at h
  split at h <;> rename_i hpc
  · exact absurd h (by simp)
  · -- `isPaused`
    split at h
    · cases h; exact hsame rfl rfl (by rw [hpc]; rfl)
    · split at h <;> (cases h; exact hsame rfl rfl (by rw [hpc]; rfl))
  · split at h <;> (cases h; exact hsame rfl rfl (by rw [hpc]; rfl))
  · -- `peek`
    split at h
    · cases h; exact ⟨rfl, pump_turn (.leave none) rfl rfl⟩
    · cases h; exact hsame rfl rfl (by rw [hpc]; rfl)
  · cases h; exact hsame rfl rfl (by rw [hpc]; rfl)
  · split at h <;> (cases h; exact hsame rfl rfl (by rw [hpc]; rfl))
  · exact pumpComplete_same (fun c' => by rw [hpc]; rfl) (by rw [hpc]; rfl) h
  · cases h; exact hsame rfl rfl (by rw [hpc]; rfl)
  · -- `stopTimer`
    split at h
    · cases h; exact ⟨rfl, pump_turn (.stop none) rfl rfl⟩
    · rename_i harmed
      cases h
      have hidle : ∀ i, (sharedTimer s).use i = .idle := by
        intro i
        cases i with
        | none => exact congrArg pumpUse hpc
        | some t => exact hturn hpc harmed t
      exact ⟨rfl, pump_turn (.stopFails none (by simp [sharedTimer, harmed]) hidle) rfl rfl⟩
  · -- `drainTimer`
    split at h
    · cases h; exact ⟨rfl, pump_turn (.drain none (by simp [sharedTimer, hpc, pumpUse])) rfl rfl⟩
    · exact absurd h (by simp)
  · cases h; exact ⟨rfl, pump_turn (.reset none) rfl rfl⟩
  · split at h <;> (cases h; exact hsame rfl rfl (by rw [hpc]; rfl))
  · split at h <;> (cases h; exact hsame rfl rfl (by rw [hpc]; rfl))
  · exact pumpComplete_same (fun c' => by rw [hpc]; rfl) (by rw [hpc]; rfl) h
  · cases h; exact hsame rfl rfl (by rw [hpc]; rfl)
  · cases h; exact ⟨rfl, pump_turn (.reset none) rfl rfl⟩
  · exact absurd h (by simp)

/-! ## The calls -/

/-- What the next operation of a call does to the timer, and to its place under the lock. -/
inductive CallerTimer (timer : Timer) : CallPC → Timer → CallPC → Prop where
  | stop : CallerTimer timer .pauseStop { timer with armed := none } .pauseReset
  | stopFails : timer.armed = none → CallerTimer timer .pauseStop timer .pauseDrain
  | drain : CallerTimer timer .pauseDrain { timer with tick := false } .pauseReset
  | pauseReset (duration : Int) :
      CallerTimer timer .pauseReset (timer.reset duration) .pauseSet
  | pauseSet : CallerTimer timer .pauseSet timer .returned
  | resumeReset (duration : Int) :
      CallerTimer timer .resumeReset (timer.reset duration) .returned
  | resumeSet : CallerTimer timer .resumeSet timer .resumeTest
  /-- Elsewhere. -/
  | other {pc pc' : CallPC} : pc.underLock = false → holdsLock pc' = false →
      CallerTimer timer pc timer pc'

theorem callerStep_timer (h : s.callerStep t pc = some s') :
    s'.pump = s.pump ∧ ∃ pc', s'.callers = s.callers.set t pc' ∧
      CallerTimer s.timer pc s'.timer pc' := by
  unfold ClientSteps.callerStep at h
  split at h
  · exact absurd h (by simp)
  · exact absurd h (by simp)
  · split at h <;> (cases h; exact ⟨rfl, _, rfl, .other rfl rfl⟩)
  · split at h
    · cases h; exact ⟨rfl, _, rfl, .other rfl rfl⟩
    · exact absurd h (by simp)
  · -- `completing`
    obtain ⟨⟨s₁, r⟩, hr, rfl⟩ := Option.map_eq_some_iff.mp h
    have hmove := complete_move hr
    have hset : ∀ pc', s₁.callers.set t pc' = s.callers.set t pc' :=
      fun _ => by rw [hmove.callers]
    cases r with
    | none => exact ⟨hmove.pump, _, hset _, hmove.timer ▸ .other rfl rfl⟩
    | some c' => exact ⟨hmove.pump, _, hset _, hmove.timer ▸ .other rfl rfl⟩
  · -- `pauseStop`
    split at h
    · cases h; exact ⟨rfl, _, rfl, .stop⟩
    · rename_i harmed
      cases h; exact ⟨rfl, _, rfl, .stopFails harmed⟩
  · split at h
    · cases h; exact ⟨rfl, _, rfl, .drain⟩
    · exact absurd h (by simp)
  · cases h; exact ⟨rfl, _, rfl, .pauseReset _⟩
  · cases h; exact ⟨rfl, _, rfl, .pauseSet⟩
  · cases h; exact ⟨rfl, _, rfl, .resumeSet⟩
  · split at h <;> (cases h; exact ⟨rfl, _, rfl, .other rfl rfl⟩)
  · cases h; exact ⟨rfl, _, rfl, .resumeReset _⟩
  · split at h
    · cases h; exact ⟨rfl, _, rfl, .other rfl rfl⟩
    · exact absurd h (by simp)

/-- Only an operation under the lock, and not the last, leaves a call under the lock. -/
theorem CallerTimer.of_holdsLock {timer timer' : Timer} {pc' : CallPC}
    (h : CallerTimer timer pc timer' pc') (hpc' : holdsLock pc' = true) :
    pc.underLock = true ∧ pc.atUnlock = false := by
  cases h with
  | stop => exact ⟨rfl, rfl⟩
  | stopFails _ => exact ⟨rfl, rfl⟩
  | drain => exact ⟨rfl, rfl⟩
  | pauseReset _ => exact ⟨rfl, rfl⟩
  | pauseSet => exact absurd hpc' (by simp [holdsLock])
  | resumeReset _ => exact absurd hpc' (by simp [holdsLock])
  | resumeSet => exact absurd hpc' (by simp [holdsLock])
  | other _ hout => exact absurd hpc' (by simp [hout])

theorem callUse_of_underLock (h : pc.underLock = false) : callUse pc = .idle := by
  cases pc <;> first | rfl | exact absurd h (by simp [CallPC.underLock])

theorem callUse_of_holdsLock (h : holdsLock pc = false) : callUse pc = .idle := by
  cases pc <;> first | rfl | exact absurd h (by simp [holdsLock])

/-- The next operation of a call is a turn, or leaves the timer alone. -/
theorem CallerTimer.turn {pc' : CallPC} (h : CallerTimer s.timer pc s'.timer pc')
    (ht : s.callers[t]? = some pc) (hpump : s'.pump = s.pump)
    (hcallers : s'.callers = s.callers.set t pc')
    (hturn : pc = .pauseStop → s.timer.armed = none → ∀ i, (sharedTimer s).use i = .idle) :
    TurnOrSame s s' := by
  have hshared := sharedTimer_caller ht hpump hcallers
  have huse : (sharedTimer s).use (some t) = callUse pc := by
    change useOf s.callers t = _
    rw [useOf, ht]
  -- the timer is as it was, and the call is elsewhere before and after
  have hsame : s'.timer = s.timer → callUse pc = .idle → callUse pc' = .idle →
      TurnOrSame s s' := by
    intro htimer hold hnew
    refine Or.inl ?_
    rw [hshared, htimer, hnew, ← hold, ← huse, Function.update_eq_self]
    rfl
  unfold TurnOrSame
  rw [hshared]
  generalize htimer : s'.timer = timer' at h
  cases h with
  | stop => exact Or.inr (.stop (some t))
  | stopFails harmed =>
      exact Or.inr (.stopFails (some t) (by simp [sharedTimer, harmed]) (hturn rfl harmed))
  | drain => exact Or.inr (.drain (some t) huse)
  | pauseReset duration => exact Or.inr (.reset (some t))
  | resumeReset duration => exact Or.inr (.reset (some t))
  | pauseSet => rw [← htimer, ← hshared]; exact hsame htimer rfl rfl
  | resumeSet => rw [← htimer, ← hshared]; exact hsame htimer rfl rfl
  | other hpc hpc' =>
      rw [← htimer, ← hshared]
      exact hsame htimer (callUse_of_underLock hpc) (callUse_of_holdsLock hpc')

/-! ## Everyone else -/

theorem callUse_entry (op : Operation) : callUse (ClientSteps.Operation.entry op) = .idle := by
  cases op <;> rfl

theorem holdsLock_entry (op : Operation) : holdsLock (ClientSteps.Operation.entry op) = false := by
  cases op <;> rfl

/-- The calls after a step of anyone but a call: at most one has started. -/
inductive CallsStand (s s' : ClientSteps) : Prop where
  | same : s'.callers = s.callers → CallsStand s s'
  | started (op : Operation) : s'.callers = s.callers ++ [ClientSteps.Operation.entry op] →
      CallsStand s s'

theorem CallsStand.useOf (h : CallsStand s s') (t : Nat) :
    useOf s'.callers t = useOf s.callers t := by
  cases h with
  | same hc => rw [hc]
  | started op hc =>
      unfold Proof.useOf
      rw [hc]
      by_cases hlt : t < s.callers.length
      · rw [List.getElem?_append_left hlt]
      · have hnone : s.callers[t]? = none := List.getElem?_eq_none (by omega)
        rw [hnone]
        split
        · rename_i pc hpc
          rcases getElem?_snoc hpc with hold | ⟨_, rfl⟩
          · rw [hnone] at hold
            exact absurd hold (by simp)
          · exact callUse_entry op
        · rfl

/-- A step of anyone but a call is a turn, or leaves the timer alone. -/
theorem act_turn {a : ClientSteps.Action} (h : s.act a = some s') (hcall : ∀ t, a ≠ .caller t)
    (hstop : (∃ w, a = .pump w) → s.pump = .stopTimer → s.timer.armed = none →
      ∀ t, useOf s.callers t = .idle)
    (htake : a = .select .timer → ∀ t, useOf s.callers t ≠ .draining) :
    CallsStand s s' ∧ TurnOrSame s s' := by
  -- the timer is untouched, and the pump stays where it is
  have hsame : ∀ {s' : ClientSteps}, CallsStand s s' → s'.timer = s.timer →
      pumpUse s'.pump = pumpUse s.pump → CallsStand s s' ∧ TurnOrSame s s' :=
    fun hc ht hp => ⟨hc, Or.inl (sharedTimer_same ht hp hc.useOf)⟩
  unfold ClientSteps.act at h
  split at h
  · exact absurd h (by simp)
  · cases a with
    | pump write =>
        obtain ⟨hc, hturn⟩ := pumpStep_timer (hstop ⟨write, rfl⟩) h
        exact ⟨.same hc, hturn⟩
    | caller t => exact absurd rfl (hcall t)
    | call op =>
        cases h
        exact hsame (.started op rfl) rfl rfl
    | timerExpires =>
        obtain ⟨timer, hexpire, rfl⟩ := Option.map_eq_some_iff.mp h
        refine ⟨.same rfl, Or.inr ?_⟩
        unfold Timer.expire at hexpire
        split at hexpire
        · cases hexpire
          exact .expire
        · exact absurd hexpire (by simp)
    | select sel =>
        simp only [ClientSteps.select] at h
        split at h <;> rename_i hpc
        · split at h
          · cases h; exact hsame (.same rfl) rfl (by rw [hpc]; rfl)
          · exact absurd h (by simp)
        · split at h
          · cases h
            have hfree : ∀ i, (sharedTimer s).use i ≠ .draining := by
              intro i
              cases i with
              | none => simp [sharedTimer, hpc, pumpUse]
              | some t => exact htake rfl t
            exact ⟨.same rfl, pump_turn (.take none hfree) rfl rfl⟩
          · exact absurd h (by simp)
        · split at h
          · cases h; exact hsame (.same rfl) rfl (by rw [hpc]; rfl)
          · exact absurd h (by simp)
        · exact absurd h (by simp)
    | receive id kind =>
        simp only [ClientSteps.receive] at h
        repeat' split at h
        all_goals first
          | (cases h; done)
          | (cases h; exact hsame (.same rfl) rfl rfl)
    | reader =>
        simp only [ClientSteps.readerStep] at h
        split at h
        · exact absurd h (by simp)
        · obtain ⟨⟨s₁, r⟩, hr, rfl⟩ := Option.map_eq_some_iff.mp h
          have hmove := complete_move hr
          have hpump : pumpUse s₁.pump = pumpUse s.pump := by rw [hmove.pump]
          cases r with
          | none => exact hsame (.same hmove.callers) hmove.timer hpump
          | some c' => exact hsame (.same hmove.callers) hmove.timer hpump
        · cases h
          exact hsame (.same rfl) rfl rfl

end

/-! ## Under the mutex -/

/--
A `Pause` whose `Stop` is false finds the pump elsewhere, and a pump whose `Stop` is false
finds every `Pause` elsewhere; and the pump takes no tick that a `Pause` is about to drain.
-/
def inTurn (l : ClientLocks) : ClientLocks.Action → Bool
  | .step (.caller t) =>
      match l.steps.callers[t]? with
      | some .pauseStop => l.steps.timer.armed.isSome || pumpUse l.steps.pump == .idle
      | _ => true
  | .step (.pump _) =>
      match l.steps.pump with
      | .stopTimer =>
          l.steps.timer.armed.isSome || l.steps.callers.all fun pc => callUse pc == .idle
      | _ => true
  | .step (.select .timer) => l.steps.callers.all fun pc => callUse pc != .draining
  | _ => true

/-- Whoever is in a critical section of `Pause` holds the lock, and the timer is shared in turn. -/
structure TimerShared (l : ClientLocks) : Prop where
  lock : ∀ (t : Nat) (pc : CallPC), l.steps.callers[t]? = some pc → holdsLock pc = true →
    l.mutex.Holds t
  sound : (sharedTimer l.steps).Sound

section

variable {l l' : ClientLocks} {t : Nat} {pc : CallPC}

theorem timerShared_start (queueCapacity : Nat) (timeout : Int) :
    TimerShared (.start queueCapacity timeout) where
  lock _ _ h := nomatch h
  sound := by
    have hidle : ∀ i, (sharedTimer (.start queueCapacity timeout)).use i ≠ .draining := by
      intro i
      cases i with
      | none => simp [sharedTimer, ClientSteps.start, pumpUse]
      | some t => simp [sharedTimer, ClientSteps.start, useOf]
    exact ⟨fun i h => absurd h (hidle i), fun i _ h => absurd h (hidle i), fun _ => Or.inl rfl⟩

theorem TurnOrSame.sound {s s' : ClientSteps} (h : TurnOrSame s s') (hs : (sharedTimer s).Sound) :
    (sharedTimer s').Sound := by
  rcases h with hsame | hturn
  · rw [hsame]
    exact hs
  · exact hs.turn hturn

/-- Whoever gets into the mutex meets nobody past a `Lock`. -/
theorem TimerShared.setMutex {m : RWMutex Nat} (h : TimerShared l)
    (hfree : l.mutex.writer = none) : TimerShared { l with mutex := m } where
  lock t pc ht hpc := by
    have hheld := (h.lock t pc ht hpc).1
    rw [hfree] at hheld
    exact absurd hheld (by simp)
  sound := h.sound

/-- A step of anyone but a call. -/
theorem TimerShared.plain {a : ClientSteps.Action} {selecting : Bool} {s' : ClientSteps}
    (h : TimerShared l) (hs : l.steps.act a = some s') (hcall : ∀ t, a ≠ .caller t)
    (hstop : (∃ w, a = .pump w) → l.steps.pump = .stopTimer → l.steps.timer.armed = none →
      ∀ t, useOf l.steps.callers t = .idle)
    (htake : a = .select .timer → ∀ t, useOf l.steps.callers t ≠ .draining) :
    TimerShared { l with steps := s', selecting := selecting } := by
  obtain ⟨hstand, hturn⟩ := act_turn hs hcall hstop htake
  refine ⟨?_, hturn.sound h.sound⟩
  intro t pc ht hpc
  cases hstand with
  | same hc => exact h.lock t pc (by rw [← hc]; exact ht) hpc
  | started op hc =>
      simp only [hc] at ht
      rcases getElem?_snoc ht with ht | ⟨_, rfl⟩
      · exact h.lock t pc ht hpc
      · rw [holdsLock_entry] at hpc
        exact absurd hpc (by simp)

/-- A call moves, and has the lock where it needs it. -/
theorem TimerShared.moveCaller {m : RWMutex Nat} {s' : ClientSteps} (h : TimerShared l)
    (ht : l.steps.callers[t]? = some pc) (hs : l.steps.act (.caller t) = some s')
    (hidle : pc = .pauseStop → l.steps.timer.armed = none →
      ∀ i, (sharedTimer l.steps).use i = .idle)
    (hown : pc.underLock = true → pc.atUnlock = false → m.Holds t)
    (hothers : ∀ u, u ≠ t → l.mutex.Holds u → m.Holds u) :
    TimerShared { l with steps := s', mutex := m } := by
  unfold ClientSteps.act at hs
  split at hs
  · exact absurd hs (by simp)
  · simp only [ht, Option.bind_some] at hs
    obtain ⟨hpump, pc', hcallers, htimer⟩ := callerStep_timer hs
    refine ⟨?_, (htimer.turn ht hpump hcallers hidle).sound h.sound⟩
    intro u pcu hu hpcu
    simp only [hcallers] at hu
    rcases getElem?_replaced hu with ⟨rfl, rfl⟩ | ⟨hne, hu⟩
    · obtain ⟨hunder, hunlock⟩ := htimer.of_holdsLock hpcu
      exact hown hunder hunlock
    · exact hothers u hne (h.lock u pcu hu hpcu)

/-- Whoever holds the lock is the only call at the timer. -/
theorem TimerShared.use_idle (h : TimerShared l) (hheld : l.mutex.Holds t)
    (ht : l.steps.callers[t]? = some .pauseStop) (u : Nat) :
    useOf l.steps.callers u = .idle := by
  unfold useOf
  split
  · rename_i pcu hu
    cases hpcu : holdsLock pcu with
    | false => exact callUse_of_holdsLock hpcu
    | true =>
        have hsame : u = t :=
          Option.some.inj ((h.lock u pcu hu hpcu).1.symm.trans hheld.1)
        subst hsame
        rw [ht] at hu
        cases hu
        rfl
  · rfl

/-- The next operation of a call. -/
theorem TimerShared.caller (h : TimerShared l) (ht : l.steps.callers[t]? = some pc)
    (hturn : inTurn l (.step (.caller t)) = true) (hs : l.callerStep t pc = some l') :
    TimerShared l' := by
  unfold ClientLocks.callerStep ClientLocks.plain at hs
  split at hs
  · rename_i hunder
    split at hs
    · rename_i hheld
      obtain ⟨_, hl, rfl⟩ := Option.map_eq_some_iff.mp hs
      obtain ⟨s', hact, rfl⟩ := Option.map_eq_some_iff.mp hl
      refine h.moveCaller ht hact ?_ ?_ ?_
      · rintro rfl harmed i
        cases i with
        | none =>
            have hpump : pumpUse l.steps.pump = .idle := by simpa [inTurn, ht, harmed] using hturn
            exact hpump
        | some u => exact h.use_idle hheld ht u
      · intro _ hunlock
        rw [hunlock]
        exact hheld
      · intro u hne hu
        exact absurd (Option.some.inj (hu.1.symm.trans hheld.1)) hne
    · exact absurd hs (by simp)
  · rename_i hunder
    split at hs
    · split at hs
      · rename_i hreader
        obtain ⟨_, hl, rfl⟩ := Option.map_eq_some_iff.mp hs
        obtain ⟨s', hact, rfl⟩ := Option.map_eq_some_iff.mp hl
        exact h.moveCaller ht hact (by simp) (fun hu => absurd hu hunder)
          (fun u _ hu => absurd hreader hu.not_mem)
      · exact absurd hs (by simp)
    · obtain ⟨s', hact, rfl⟩ := Option.map_eq_some_iff.mp hs
      exact h.moveCaller ht hact (fun he => absurd (by rw [he]; rfl) hunder)
        (fun hu => absurd hu hunder) (fun _ _ hu => hu)

theorem useOf_idle {callers : List CallPC} (h : (callers.all fun pc => callUse pc == .idle) = true)
    (t : Nat) : useOf callers t = .idle := by
  unfold useOf
  split
  · rename_i pc hpc
    simpa using List.all_eq_true.mp h pc (List.mem_of_getElem? hpc)
  · rfl

theorem useOf_ne_draining {callers : List CallPC}
    (h : (callers.all fun pc => callUse pc != .draining) = true) (t : Nat) :
    useOf callers t ≠ .draining := by
  unfold useOf
  split
  · rename_i pc hpc
    simpa using List.all_eq_true.mp h pc (List.mem_of_getElem? hpc)
  · simp

theorem TimerShared.step {a : ClientSteps.Action} (h : TimerShared l)
    (hturn : inTurn l (.step a) = true) (hs : l.step a = some l') : TimerShared l' := by
  cases a with
  | select sel =>
      simp only [ClientLocks.step] at hs
      split at hs
      · obtain ⟨_, hl, rfl⟩ := Option.map_eq_some_iff.mp hs
        obtain ⟨s', hact, rfl⟩ := Option.map_eq_some_iff.mp hl
        refine h.plain hact (by simp) (by simp) ?_
        rintro ⟨⟩ t
        exact useOf_ne_draining hturn t
      · exact absurd hs (by simp)
  | pump write =>
      simp only [ClientLocks.step] at hs
      split at hs
      · exact absurd hs (by simp)
      · obtain ⟨s', hact, rfl⟩ := Option.map_eq_some_iff.mp hs
        refine h.plain hact (by simp) ?_ (by simp)
        intro _ hpc harmed
        exact useOf_idle (by simpa [inTurn, hpc, harmed] using hturn)
  | caller t =>
      obtain ⟨pc, ht, hs⟩ := Option.bind_eq_some_iff.mp hs
      exact h.caller ht hturn hs
  | receive id kind =>
      obtain ⟨s', hact, rfl⟩ := Option.map_eq_some_iff.mp hs
      exact h.plain hact (by simp) (by simp) (by simp)
  | reader =>
      obtain ⟨s', hact, rfl⟩ := Option.map_eq_some_iff.mp hs
      exact h.plain hact (by simp) (by simp) (by simp)
  | call op =>
      obtain ⟨s', hact, rfl⟩ := Option.map_eq_some_iff.mp hs
      exact h.plain hact (by simp) (by simp) (by simp)
  | timerExpires =>
      obtain ⟨s', hact, rfl⟩ := Option.map_eq_some_iff.mp hs
      exact h.plain hact (by simp) (by simp) (by simp)

theorem timerShared_step {a : ClientLocks.Action} (h : TimerShared l)
    (hturn : inTurn l a = true) (hs : l.act a = some l') : TimerShared l' := by
  cases a with
  | reqChan =>
      simp only [ClientLocks.act] at hs
      split at hs
      · cases hs
        exact ⟨h.lock, h.sound⟩
      · exact absurd hs (by simp)
  | rlock t =>
      simp only [ClientLocks.act] at hs
      split at hs
      · split at hs
        · exact absurd hs (by simp)
        · obtain ⟨m, hm, rfl⟩ := Option.map_eq_some_iff.mp hs
          exact h.setMutex (RWMutex.rlock_eq hm).1
      · exact absurd hs (by simp)
  | lock t =>
      simp only [ClientLocks.act] at hs
      split at hs
      · obtain ⟨m, hm, rfl⟩ := Option.map_eq_some_iff.mp hs
        exact h.setMutex (RWMutex.announce_eq hm).1
      · exact absurd hs (by simp)
  | step a => exact h.step hturn hs

theorem timerShared_reachable {queueCapacity : Nat} {timeout : Int}
    (h : ReachableWhile (ClientLocks.machine queueCapacity timeout)
      (fun l a => inTurn l a = true) l) : TimerShared l :=
  ReachableWhile.invariant (P := TimerShared)
    (by rintro _ rfl; exact timerShared_start queueCapacity timeout)
    (fun _ _ _ _ hP hok hs => timerShared_step hP hok hs) h

end

/--
**Nobody waits for a tick that is gone**, if the pump and the calls of `Pause` take turns:
in every such run, whoever is between a `Stop` that was false and its receive finds the
tick in the channel.
-/
theorem timer_drains_never_block {queueCapacity : Nat} {timeout : Int} {l : ClientLocks}
    (h : ReachableWhile (ClientLocks.machine queueCapacity timeout)
      (fun l a => inTurn l a = true) l) :
    (l.steps.pump = .drainTimer → l.steps.timer.tick = true) ∧
      ∀ t : Nat, l.steps.callers[t]? = some .pauseDrain →
        l.mutex.Holds t ∧ l.steps.timer.tick = true := by
  have hshared := timerShared_reachable h
  refine ⟨?_, ?_⟩
  · intro hpump
    exact hshared.sound.tick none (congrArg pumpUse hpump)
  · intro t ht
    refine ⟨hshared.lock t _ ht rfl, hshared.sound.tick (some t) ?_⟩
    change useOf l.steps.callers t = .draining
    rw [useOf, ht]
    rfl

/-- A request is sent, and dispatched by the pump, which is back in its `select`. -/
def requestPending : List ClientLocks.Action :=
  [.step (.call (.sendRequest (heartbeatBundle "1"))), .step (.caller 0), .rlock 0,
    .step (.caller 0), .reqChan, .step (.select .request)] ++
    List.replicate 7 (.step (.pump none)) ++ [.reqChan]

/-- Call 1 is a `Pause`, up to its `Stop`. -/
def pauseStops : List ClientLocks.Action := [.step (.call .pause), .lock 1, .step (.caller 1)]

/-- The timer expires, and a `Pause` that comes at once finds the tick. -/
theorem pause_finds_tick :
    ∃ l, (ClientLocks.machine 10 30).runWhile inTurn (.start 10 30)
        (requestPending ++ [.step .timerExpires] ++ pauseStops) = some l ∧
      l.steps.callers[1]? = some .pauseDrain ∧ l.mutex.Holds 1 ∧ l.steps.timer.tick = true := by
  have hrun : ∃ l, (ClientLocks.machine 10 30).runWhile inTurn (.start 10 30)
        (requestPending ++ [.step .timerExpires] ++ pauseStops) = some l ∧
      l.steps.callers[1]? = some .pauseDrain :=
    ⟨_, rfl, rfl⟩
  obtain ⟨l, hl, hpause⟩ := hrun
  obtain ⟨-, htick⟩ :=
    timer_drains_never_block (ReachableWhile.runWhile (fun _ _ h => h) (.init rfl) _ hl)
  exact ⟨l, hl, hpause, htick 1 hpause⟩

/--
The pump has taken the tick when the `Pause` comes: its `Stop` is false, and there is no
tick. The pump cancels the request and sets the timer to a day; now it waits at `IsPaused`
for the mutex, and the `Pause`, which holds it, for the tick.
-/
theorem pause_waits_for_taken_tick :
    ∃ l l', (ClientLocks.machine 10 30).run (.start 10 30)
        (requestPending ++ [.step .timerExpires, .step (.select .timer)] ++ pauseStops) = some l ∧
      l.steps.callers[1]? = some .pauseDrain ∧ l.mutex.Holds 1 ∧ l.steps.timer.tick = false ∧
      (ClientLocks.machine 10 30).run l (List.replicate 8 (.step (.pump none))) = some l' ∧
      l'.steps.timer.armed = some defaultTimeoutTick ∧ l'.act (.step (.caller 1)) = none ∧
      l'.act (.step (.pump none)) = none :=
  ⟨_, _, rfl, rfl, ⟨rfl, rfl⟩, rfl, rfl, rfl, rfl, rfl⟩

end OcppGo.Proof
