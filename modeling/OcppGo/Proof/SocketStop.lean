import OcppGo.Proof.SocketClientMoves

/-!
# After `Stop`

`Stop` lowers the flag and closes `reconnectC`, so that a goroutine that waits to
reconnect gives up. The signal misses an attempt that is past its wait, one that waits
on a channel which has been replaced, and every attempt before the first connection,
when there is no channel yet. Each of them connects after `Stop` has returned.

While `Stop` is called only when every attempt in progress waits on the current
channel, and no wait ends by its timer once it runs, the client is sealed: nobody is in
`Start`, and whoever comes to wait finds the channel closed.
-/

namespace OcppGo.Proof

open OcppGo.Lib OcppGo.Ws

/-! ## The condition -/

def stops : Thread → Bool
  | .stopping _ => true
  | _ => false

/-- Closing the current `reconnectC` would end this attempt, if it is one. -/
def interruptible (s : Client) : Thread → Bool
  | .starting _ _ => false
  | .waiting rc => rc.isSome && rc == s.reconnectC
  | .retry | .reporting _ _ .retry => s.reconnectC.isSome
  | _ => true

/-- The wait may end by its timer: the channel is not closed. -/
def undecided (s : Client) : Thread → Bool
  | .waiting rc => (rc.bind fun rc => s.reconnectCs[rc]?).all fun x => !x.closed
  | _ => true

/--
`Stop` is called only when it can interrupt every attempt in progress. While it runs no
call of `Start` is made and no wait ends by its timer, nor does one whose channel is closed.
-/
def stopInTime (s : ClientRun) : ClientRun.Action → Bool
  | .stop => s.threads.all (interruptible s.client)
  | .start _ | .startWithRetries _ => s.threads.all fun pc => !stops pc
  | .thread t .timer =>
      (s.threads[t]?).all fun pc =>
        undecided s.client pc && s.threads.all fun pc' => !stops pc'
  | _ => true

/-- The user asks for a connection. -/
def callsStart : ClientRun.Action → Bool
  | .start _ | .startWithRetries _ => true
  | _ => false

/-! ## A sealed client -/

/-- Goroutines that exist only once a connection was made. -/
def hasConnected : Thread → Bool
  | .starting _ .connect | .starting _ .spawn => true
  | .writePump | .loop _ | .select _ _ | .sendData _ | .sendPing _ | .sendClose _ => true
  | .closing _ _ _ | .reporting _ _ (.closure _ _) => true
  | _ => false

/-- There is a `reconnectC` from the first connection on. -/
def Equipped (s : ClientRun) : Prop :=
  ∀ pc ∈ s.threads, hasConnected pc = true → s.client.reconnectC.isSome = true

/-- The goroutine is no attempt, or finds the current `reconnectC` before it makes one. -/
def Heard (s : Client) : Thread → Prop
  | .starting _ _ => False
  | .waiting rc => rc.isSome = true ∧ rc = s.reconnectC
  | .retry | .reporting _ _ .retry => s.reconnectC.isSome = true
  | pc => hasConnected pc = true → s.reconnectC.isSome = true

/-- The flag is down once `Stop` is past its lock, the channel closed once it has signalled. -/
structure Sealed (locked signalled : Bool) (s : ClientRun) : Prop where
  heard : ∀ pc ∈ s.threads, Heard s.client pc
  down : locked = true → s.client.connected = false
  closed : signalled = true → ∀ rc, s.client.reconnectC = some rc →
    ∃ x, s.client.reconnectCs[rc]? = some x ∧ x.closed = true

def pastLock : Stopping → Bool
  | .lock => false
  | _ => true

def pastSignal : Stopping → Bool
  | .testErrC | .closeErrC | .resetErrC => true
  | _ => false

section

variable {s s' : Client} {ev : Client.Event} {pc pc' : Thread} {new : List Thread}

theorem Onward.wasConnected (ho : Onward s ev pc pc') (h : hasConnected pc' = true) :
    hasConnected pc = true := by
  cases ho with
  | dialFailed caller err =>
      cases caller <;> exact absurd h (by simp [hasConnected, Client.afterFailedStart])
  | unreported text next _ => cases next <;> exact h
  | reportTested text next e _ => cases next <;> exact h
  | reportRead text next => cases next <;> exact h
  | notified c cause => rfl
  | _ => exact h

theorem Heard.congr (h : Heard s pc) (hrc : s'.reconnectC = s.reconnectC) : Heard s' pc := by
  unfold Heard at h ⊢
  rw [hrc]
  exact h

/-- What `Stop` can interrupt when it is called. -/
theorem Heard.of_interruptible (h : interruptible s pc = true)
    (he : hasConnected pc = true → s.reconnectC.isSome = true) : Heard s pc := by
  unfold Heard
  split
  · exact absurd h (by simp [interruptible])
  · simpa [interruptible] using h
  · exact h
  · exact h
  · exact he

/-- Only a call of `Stop` is in `Stop`. -/
theorem Onward.stops (ho : Onward s ev pc pc') (h : stops pc' = true) : stops pc = true := by
  cases ho with
  | dialFailed caller err =>
      cases caller <;> exact absurd h (by simp [Proof.stops, Client.afterFailedStart])
  | unreported text next _ => cases next <;> exact absurd h (by simp [Proof.stops, Next.thread])
  | notified c cause => cases cause <;> exact absurd h (by simp [Proof.stops, Client.afterClosure])
  | _ => first | rfl | exact absurd h (by simp [Proof.stops])

theorem Stepped.stops (hs : Stepped s ev pc s' pc' new) :
    (stops pc' = true → stops pc = true) ∧ ∀ x ∈ new, stops x = false := by
  cases hs with
  | onward _ _ ho => exact ⟨ho.stops, by simp⟩
  | spawn caller =>
      exact ⟨by cases caller <;> simp [Proof.stops, Client.afterStart], by simp [Proof.stops]⟩
  | report text next e x x' _ _ =>
      exact ⟨by cases next <;> simp [Proof.stops, Next.thread], by simp⟩
  | _ => simp [Proof.stops]

/-- A goroutine other than one whose wait is over by its timer. -/
theorem Onward.heard (ho : Onward s ev pc pc') (h : Heard s pc)
    (htimer : ∀ rc, pc = .waiting rc → ev ≠ .timer) : Heard s pc' := by
  cases ho with
  | parsed caller => exact h.elim
  | dialled caller => exact h.elim
  | dialFailed caller err => exact h.elim
  | unreported text next _ => cases next <;> exact h
  | reportTested text next e _ => cases next <;> exact h
  | reportRead text next => cases next <;> exact h
  | notified c cause =>
      cases cause with
      | stopped => exact fun h => absurd h (by simp [hasConnected, Client.afterClosure])
      | _ => exact h rfl
  | retries => exact ⟨h, rfl⟩
  | timer rc he => exact absurd he (htimer rc rfl)
  | _ => first | exact h | exact fun h => absurd h (by simp [hasConnected])

end

section

variable {s : ClientRun} {client : Client} {t : Nat} {pc pc' : Thread} {new : List Thread}
  {ev : Client.Event} {locked signalled : Bool}

/-! ## Steps of a sealed client -/

/-- A step that leaves the fields alone, or lowers the flag. -/
theorem Sealed.keep (h : Sealed locked signalled s)
    (hrc : client.reconnectC = s.client.reconnectC)
    (hrcs : client.reconnectCs = s.client.reconnectCs)
    (hdown : client.connected = s.client.connected ∨ client.connected = false)
    (hpc' : Heard s.client pc') :
    Sealed locked signalled { client := client, threads := s.threads.set t pc' ++ [] } where
  heard x hx := by
    rcases mem_threads hx with hx | rfl | hx
    · exact (h.heard x hx).congr hrc
    · exact hpc'.congr hrc
    · exact absurd hx (by simp)
  down hl := by
    rcases hdown with hsame | hlow
    · exact hsame.trans (h.down hl)
    · exact hlow
  closed hs rc hcur := by
    rw [hrcs]
    exact h.closed hs rc (hrc ▸ hcur)

/-- Closing `reconnectC` leaves no channel open that was closed. -/
theorem Sealed.signal (h : Sealed locked signalled s) {rc : Nat} {x : Chan Unit}
    (hcur : s.client.reconnectC = some rc) (hx : s.client.reconnectCs[rc]? = some x) :
    Sealed locked true
      { client := { s.client with
          reconnectCs := s.client.reconnectCs.set rc { x with closed := true } }
        threads := s.threads.set t (.stopping .testErrC) ++ [] } where
  heard y hy := by
    rcases mem_threads hy with hy | rfl | hy
    · exact (h.heard y hy).congr rfl
    · exact fun h => absurd h (by simp [hasConnected])
    · exact absurd hy (by simp)
  down := h.down
  closed _ rc' hcur' := by
    cases hcur.symm.trans hcur'
    exact ⟨_, List.getElem?_set_self (List.getElem?_eq_some_iff.mp hx).1, rfl⟩

theorem Sealed.weaken (h : Sealed locked signalled s) {locked' signalled' : Bool}
    (hl : locked' = true → locked = true) (hs : signalled' = true → signalled = true) :
    Sealed locked' signalled' s :=
  ⟨h.heard, fun he => h.down (hl he), fun he => h.closed (hs he)⟩

theorem heard_next {text : String} {r : Reporting} {next : Next}
    (h : Heard s.client (.reporting text r next)) : Heard s.client next.thread := by
  cases next <;> exact h

/-- A sealed client stays sealed, as long as no wait ends by its timer. -/
theorem Sealed.step (h : Sealed locked signalled s) (hpc : s.threads[t]? = some pc)
    (htimer : ∀ rc, pc = .waiting rc → ev ≠ .timer)
    (hs : Stepped s.client ev pc client pc' new) :
    Sealed locked signalled { client := client, threads := s.threads.set t pc' ++ new } := by
  have hheard := h.heard pc (List.mem_of_getElem? hpc)
  have hother : ∀ {x : Thread}, hasConnected x = false →
      (hasConnected x = true → s.client.reconnectC.isSome = true) := by
    intro x hx hx'
    rw [hx] at hx'
    cases hx'
  cases hs with
  | onward _ _ ho => exact h.keep rfl rfl (Or.inl rfl) (ho.heard hheard htimer)
  | panics _ p _ => exact h.keep rfl rfl (Or.inl rfl) (hother rfl)
  | assign caller => exact hheard.elim
  | makeReconnectC caller => exact hheard.elim
  | connect caller => exact hheard.elim
  | spawn caller => exact hheard.elim
  | stopPanics k x _ _ _ _ => exact h.keep rfl rfl (Or.inr rfl) (hother rfl)
  | stopUnsaid _ => exact h.keep rfl rfl (Or.inr rfl) (hother rfl)
  | stop k x closeC _ _ _ _ => exact h.keep rfl rfl (Or.inr rfl) (hother rfl)
  | closeReconnectC rc x hcur hx _ => exact (h.signal hcur hx).weaken id (fun _ => rfl)
  | closeErrC e x _ _ _ => exact h.keep rfl rfl (Or.inl rfl) (hother rfl)
  | resetErrC => exact h.keep rfl rfl (Or.inl rfl) (hother rfl)
  | write data k x outQueue _ _ => exact h.keep rfl rfl (Or.inl rfl) (hother rfl)
  | report text next e x x' _ _ => exact h.keep rfl rfl (Or.inl rfl) (heard_next hheard)
  | takeData c k x outQueue _ _ => exact h.keep rfl rfl (Or.inl rfl) hheard
  | takeClose c k x closeC _ _ => exact h.keep rfl rfl (Or.inl rfl) hheard
  | takeForceClose c k x err rest _ _ => exact h.keep rfl rfl (Or.inl rfl) hheard
  | disconnect c cause => exact h.keep rfl rfl (Or.inr rfl) hheard
  | cleanup c cause k x _ => exact h.keep rfl rfl (Or.inl rfl) hheard
  | forceClose err k x _ => exact h.keep rfl rfl (Or.inl rfl) (hother rfl)

/-- A call that is no attempt is made. -/
theorem Sealed.call (h : Sealed locked signalled s) (hpc : Heard s.client pc) :
    Sealed locked signalled { s with threads := s.threads ++ [pc] } where
  heard x hx := by
    rcases List.mem_append.mp hx with hx | hx
    · exact h.heard x hx
    · rw [List.mem_singleton.mp hx]
      exact hpc
  down := h.down
  closed := h.closed

/-- The user looks at the errors. -/
theorem Sealed.fields (h : Sealed locked signalled s)
    (hrc : client.reconnectC = s.client.reconnectC)
    (hrcs : client.reconnectCs = s.client.reconnectCs)
    (hconn : client.connected = s.client.connected) :
    Sealed locked signalled { s with client := client } where
  heard x hx := (h.heard x hx).congr hrc
  down hl := hconn.trans (h.down hl)
  closed hs rc hcur := by
    rw [hrcs]
    exact h.closed hs rc (hrc ▸ hcur)

/-- `Stop` itself moves on: past its lock the flag is down, past its close the channel is closed. -/
theorem Sealed.advance {p p' : Stopping} (h : Sealed (pastLock p) (pastSignal p) s)
    (hpc : s.threads[t]? = some (.stopping p))
    (hs : Stepped s.client ev (.stopping p) client (.stopping p') new) :
    Sealed (pastLock p') (pastSignal p')
      { client := client, threads := s.threads.set t (.stopping p') ++ new } := by
  have hstep := h.step hpc (by simp) hs
  cases hs with
  | onward _ _ ho =>
      cases ho with
      | notConnected hdown => exact ⟨hstep.heard, fun _ => hdown, hstep.closed⟩
      | noReconnectC hnone =>
          refine ⟨hstep.heard, hstep.down, fun _ rc hcur => ?_⟩
          rw [hnone] at hcur
          cases hcur
      | hasReconnectC rc _ => exact hstep
      | hasErrC e _ => exact hstep
  | stopUnsaid _ => exact ⟨hstep.heard, fun _ => rfl, hstep.closed⟩
  | stop k x closeC _ _ _ _ => exact ⟨hstep.heard, fun _ => rfl, hstep.closed⟩
  | closeReconnectC rc x hcur hx _ => exact h.signal hcur hx
  | closeErrC e x _ _ _ => exact hstep

/-! ## Runs -/

theorem equipped_thread (h : Equipped s) (hpc : s.threads[t]? = some pc)
    (hs : Stepped s.client ev pc client pc' new) :
    Equipped { client := client, threads := s.threads.set t pc' ++ new } := by
  have hat := h pc (List.mem_of_getElem? hpc)
  -- the field is never reset, so only what is new has to be looked at
  have hkeep : (s.client.reconnectC.isSome = true → client.reconnectC.isSome = true) →
      (hasConnected pc' = true → client.reconnectC.isSome = true) →
      (∀ x ∈ new, hasConnected x = true → client.reconnectC.isSome = true) →
      Equipped { client := client, threads := s.threads.set t pc' ++ new } := by
    intro hrc hpc' hnew x hx hcon
    rcases mem_threads hx with hx | rfl | hx
    · exact hrc (h x hx hcon)
    · exact hpc' hcon
    · exact hnew x hx hcon
  cases hs with
  | onward _ _ ho => exact hkeep id (fun hc => hat (ho.wasConnected hc)) (by simp)
  | makeReconnectC caller => exact hkeep (fun _ => rfl) (fun _ => rfl) (by simp)
  | connect caller => exact hkeep id (fun _ => hat rfl) (by simp)
  | spawn caller =>
      refine hkeep id (fun hc => ?_) (fun _ _ _ => hat rfl)
      cases caller <;> exact absurd hc (by simp [hasConnected, Client.afterStart])
  | report text next e x x' _ _ =>
      refine hkeep id (fun hc => hat ?_) (by simp)
      cases next <;> exact hc
  | takeData c k x outQueue _ _ => exact hkeep id (fun _ => hat rfl) (by simp)
  | takeClose c k x closeC _ _ => exact hkeep id (fun _ => hat rfl) (by simp)
  | takeForceClose c k x err rest _ _ => exact hkeep id (fun _ => hat rfl) (by simp)
  | disconnect c cause => exact hkeep id (fun _ => hat rfl) (by simp)
  | cleanup c cause k x _ => exact hkeep id (fun _ => hat rfl) (by simp)
  | _ => exact hkeep id (by simp [hasConnected]) (by simp)

theorem stopping_of_stops (h : stops pc = true) : ∃ p, pc = .stopping p := by
  cases pc with
  | stopping p => exact ⟨p, rfl⟩
  | _ => cases h

/-- Whoever is in `Stop` has sealed the client as far as it has come. -/
structure StopsSeal (s : ClientRun) : Prop where
  equipped : Equipped s
  stopping : ∀ p, .stopping p ∈ s.threads → Sealed (pastLock p) (pastSignal p) s

theorem stopsSeal_call (h : StopsSeal s) {a : ClientRun.Action} (ha : a.entry = some pc)
    (hok : stopInTime s a = true) : StopsSeal { s with threads := s.threads ++ [pc] } where
  equipped x hx hcon := by
    rcases List.mem_append.mp hx with hx | hx
    · exact h.equipped x hx hcon
    · rw [List.mem_singleton.mp hx] at hcon
      cases a <;> cases ha <;> exact absurd hcon (by simp [hasConnected])
  stopping p hp := by
    cases a with
    | start valid | startWithRetries valid =>
        cases ha
        -- nobody is in `Stop`
        have hold : .stopping p ∈ s.threads := by simpa using hp
        have hnone := List.all_eq_true.mp hok _ hold
        exact absurd hnone (by simp [stops])
    | stop =>
        cases ha
        rcases List.mem_append.mp hp with hp | hp
        · exact (h.stopping p hp).call (fun hc => absurd hc (by simp [hasConnected]))
        · cases List.mem_singleton.mp hp
          have hsealed : Sealed false false s :=
            ⟨fun x hx => Heard.of_interruptible (List.all_eq_true.mp hok x hx) (h.equipped x hx),
              by simp, by simp⟩
          exact hsealed.call (fun hc => absurd hc (by simp [hasConnected]))
    | write data =>
        cases ha
        have hold : .stopping p ∈ s.threads := by simpa using hp
        exact (h.stopping p hold).call (fun hc => absurd hc (by simp [hasConnected]))
    | errors => cases ha
    | receiveError e => cases ha
    | thread t ev => cases ha

theorem stopsSeal_thread (h : StopsSeal s) (hpc : s.threads[t]? = some pc)
    (hok : stopInTime s (.thread t ev) = true) (hs : Stepped s.client ev pc client pc' new) :
    StopsSeal { client := client, threads := s.threads.set t pc' ++ new } where
  equipped := equipped_thread h.equipped hpc hs
  stopping p hp := by
    rcases mem_threads hp with hp | hp | hp
    · refine (h.stopping p hp).step hpc ?_ hs
      -- no wait ends by its timer while somebody is in `Stop`
      rintro rc rfl rfl
      have hnone := (by simpa [stopInTime, hpc] using hok : _ ∧ ∀ x ∈ s.threads, stops x = false).2
      exact absurd (hnone _ hp) (by simp [stops])
    · subst hp
      obtain ⟨p₀, rfl⟩ := stopping_of_stops (hs.stops.1 rfl)
      exact (h.stopping p₀ (List.mem_of_getElem? hpc)).advance hpc hs
    · exact absurd (hs.stops.2 _ hp) (by simp [stops])

theorem stopsSeal_reachable
    (h : ReachableWhile ClientRun.machine (fun s a => stopInTime s a = true) s) :
    StopsSeal s := by
  refine ReachableWhile.invariant (P := StopsSeal) ?_ ?_ h
  · rintro s rfl
    exact ⟨fun x hx => absurd hx (by simp [ClientRun.start]),
      fun p hp => absurd hp (by simp [ClientRun.start])⟩
  · intro s a s' _ hseal hok hact
    cases (act_runMove hact).1 with
    | errors _ =>
        exact ⟨hseal.equipped, fun p hp => (hseal.stopping p hp).fields rfl rfl rfl⟩
    | errorsAgain => exact hseal
    | receiveError e x x' _ _ =>
        exact ⟨hseal.equipped, fun p hp => (hseal.stopping p hp).fields rfl rfl rfl⟩
    | call _ pc hentry => exact stopsSeal_call hseal hentry hok
    | thread t ev pc client pc' new hpc hs => exact stopsSeal_thread hseal hpc hok hs

/-- Without a call of `Start`, a client that `Stop` has sealed stays so. -/
theorem Sealed.act {s' : ClientRun} {a : ClientRun.Action} (h : Sealed true true s)
    (hok : stopInTime s a = true) (hstart : callsStart a = false) (hact : s.act a = some s') :
    Sealed true true s' := by
  cases (act_runMove hact).1 with
  | errors _ => exact h.fields rfl rfl rfl
  | errorsAgain => exact h
  | receiveError e x x' _ _ => exact h.fields rfl rfl rfl
  | call _ pc hentry =>
      refine h.call ?_
      cases a with
      | start valid | startWithRetries valid => exact absurd hstart (by simp [callsStart])
      | stop | write data =>
          cases hentry
          exact fun hc => absurd hc (by simp [hasConnected])
      | errors | receiveError e | thread t ev => cases hentry
  | thread t ev pc client pc' new hpc hs =>
      refine h.step hpc ?_ hs
      -- whoever waits, waits on a closed channel
      rintro rc rfl rfl
      obtain ⟨hsome, hcur⟩ := h.heard _ (List.mem_of_getElem? hpc)
      obtain ⟨rc, rfl⟩ := Option.isSome_iff_exists.mp hsome
      obtain ⟨x, hx, hclosed⟩ := h.closed rfl rc hcur.symm
      exact absurd hok (by simp [stopInTime, hpc, undecided, hx, hclosed])

theorem Sealed.stretch {s' : ClientRun} {as : List ClientRun.Action}
    (hs : Stretch ClientRun.machine
      (fun s a => stopInTime s a = true ∧ callsStart a = false) s as s') :
    Sealed true true s → Sealed true true s' := by
  induction hs with
  | nil s => exact id
  | cons hok hact _ ih => exact fun h => ih (h.act hok.1 hok.2 hact)

/-- The call of `Stop` that is goroutine `t` returns with this step. -/
def StopReturns (s : ClientRun) (t : Nat) (s' : ClientRun) : Prop :=
  (∃ p, s.threads[t]? = some (.stopping p)) ∧ s'.threads[t]? = some .returned
    ∧ s'.client.panic = none

/--
**`Stop` is final**, in runs whose steps all meet the condition: once it has returned,
the client is not connected until the user calls `Start` or `StartWithRetries`.
-/
theorem stop_is_final {s' s'' : ClientRun} {as : List ClientRun.Action}
    (h : ReachableWhile ClientRun.machine (fun s a => stopInTime s a = true) s)
    (hact : s.act (.thread t ev) = some s') (hret : StopReturns s t s')
    (hrun : Stretch ClientRun.machine
      (fun s a => stopInTime s a = true ∧ callsStart a = false) s' as s'') :
    s''.client.connected = false := by
  obtain ⟨⟨p, hp⟩, hend, hpanic⟩ := hret
  have hsealed := (stopsSeal_reachable h).stopping p (List.mem_of_getElem? hp)
  have hfinal : Sealed true true s' := by
    cases (act_runMove hact).1 with
    | call _ _ hentry => cases hentry
    | thread _ _ pc client pc' new hpc hs =>
        cases hp.symm.trans hpc
        have hstep := hsealed.step hpc (by simp) hs
        cases (getElem?_stepped hpc).symm.trans hend
        cases hs with
        | onward _ _ ho => cases ho with | noErrC _ => exact hstep
        | panics _ _ _ => cases hpanic
        | stopPanics k x _ _ _ _ => cases hpanic
        | resetErrC => exact hstep
  exact (hfinal.stretch hrun).down rfl

end

/-- A connection is lost, and `Stop` is about to return while its writer waits to reconnect. -/
def stoppedWhileWaiting : List ClientRun.Action :=
  ClientRun.connecting 0 ++ ClientRun.pumping 1 2 ++ ClientRun.losing 1
    ++ .stop :: ClientRun.going 3 3

theorem stop_ends_waiting :
    ∃ s s' s'', ReachableWhile ClientRun.machine (fun s a => stopInTime s a = true) s
      ∧ StopReturns s 3 s' ∧ s.threads[1]? = some (.waiting (some 0))
      ∧ ClientRun.machine.run s' [.thread 1 .signal] = some s''
      ∧ s''.threads[1]? = some .returned ∧ s''.client.connected = false := by
  have hrun : ∃ s s' s'',
      ClientRun.machine.runWhile stopInTime ClientRun.start stoppedWhileWaiting = some s
      ∧ s.act (.thread 3 .go) = some s'
      ∧ s.threads[3]? = some (.stopping .testErrC) ∧ s'.threads[3]? = some .returned
      ∧ s'.client.panic = none ∧ s.threads[1]? = some (.waiting (some 0))
      ∧ stopInTime s' (.thread 1 .signal) = true
      ∧ s'.act (.thread 1 .signal) = some s''
      ∧ ClientRun.machine.run s' [.thread 1 .signal] = some s''
      ∧ s''.threads[1]? = some .returned :=
    ⟨_, _, _, rfl, rfl, rfl, rfl, rfl, rfl, rfl, rfl, rfl, rfl⟩
  obtain ⟨s, s', s'', hs, hact, hp, hend, hpanic, hwait, hok, hsignal, hrun, hgone⟩ := hrun
  have hreach : ReachableWhile ClientRun.machine (fun s a => stopInTime s a = true) s :=
    ReachableWhile.runWhile (fun _ _ h => h) (.init rfl) _ hs
  have hret : StopReturns s 3 s' := ⟨⟨_, hp⟩, hend, hpanic⟩
  exact ⟨s, s', s'', hreach, hret, hwait, hrun, hgone,
    stop_is_final hreach hact hret (.cons ⟨hok, rfl⟩ hsignal (.nil _))⟩

/-- `Stop` returns while the writer of a lost connection dials. -/
def stoppedWhileDialling : List ClientRun.Action :=
  ClientRun.connecting 0 ++ ClientRun.pumping 1 2 ++ ClientRun.losing 1
    ++ .thread 1 .timer :: ClientRun.going 1 1 ++ .stop :: ClientRun.going 3 4

/-- `Stop` returns while `StartWithRetries` waits, and no connection was ever made. -/
def stoppedBeforeConnected : List ClientRun.Action :=
  .startWithRetries true :: ClientRun.going 0 1 ++ .thread 0 (.fails "refused")
    :: ClientRun.going 0 1 ++ .stop :: ClientRun.going 1 3

/-- Both attempts connect after `Stop` has returned, and nobody has called `Start`. -/
theorem stop_misses_attempt :
    (∃ s s', Reachable ClientRun.machine s ∧ s.threads[3]? = some .returned
      ∧ s.threads[1]? = some (.starting .handleReconnection .dial)
      ∧ ClientRun.machine.run s (ClientRun.going 1 5) = some s' ∧ s'.client.connected = true)
    ∧ ∃ s s', Reachable ClientRun.machine s ∧ s.threads[1]? = some .returned
      ∧ s.threads[0]? = some (.waiting none)
      ∧ ClientRun.machine.run s (ClientRun.reconnecting 0) = some s'
      ∧ s'.client.connected = true := by
  have hdial : ∃ s s', ClientRun.machine.run ClientRun.start stoppedWhileDialling = some s
      ∧ s.threads[3]? = some .returned
      ∧ s.threads[1]? = some (.starting .handleReconnection .dial)
      ∧ ClientRun.machine.run s (ClientRun.going 1 5) = some s'
      ∧ s'.client.connected = true := ⟨_, _, rfl, rfl, rfl, rfl, rfl⟩
  have hfirst : ∃ s s', ClientRun.machine.run ClientRun.start stoppedBeforeConnected = some s
      ∧ s.threads[1]? = some .returned ∧ s.threads[0]? = some (.waiting none)
      ∧ ClientRun.machine.run s (ClientRun.reconnecting 0) = some s'
      ∧ s'.client.connected = true := ⟨_, _, rfl, rfl, rfl, rfl, rfl⟩
  obtain ⟨s₁, s₁', hs₁, hrest₁⟩ := hdial
  obtain ⟨s₂, s₂', hs₂, hrest₂⟩ := hfirst
  exact ⟨⟨s₁, s₁', Reachable.run (.init rfl) _ hs₁, hrest₁⟩,
    s₂, s₂', Reachable.run (.init rfl) _ hs₂, hrest₂⟩

end OcppGo.Proof
