import OcppGo.Ws.Client
import OcppGo.Lib.Lists

/-!
# What a step of the websocket client can be

The steps of `OcppGo/Ws/Client.lean` as relations. `Onward` lists those that only
move a goroutine on, each with the fields it read; `Stepped` adds those that change
the client, and `PanicCause` says what takes the process down. `act_runMove` reads
the program once.
-/

namespace OcppGo.Proof

open OcppGo.Lib OcppGo.Ws

/-- A goroutine moves on and changes nothing. -/
inductive Onward (s : Client) (ev : Client.Event) : Thread → Thread → Prop where
  | parsed (caller : Caller) :
      Onward s ev (.starting caller (.parse true)) (.starting caller .dial)
  | dialled (caller : Caller) : Onward s ev (.starting caller .dial) (.starting caller .assign)
  | dialFailed (caller : Caller) (err : String) :
      Onward s ev (.starting caller .dial) (Client.afterFailedStart err caller)
  | notConnected : s.connected = false →
      Onward s ev (.stopping .lock) (.stopping .testReconnectC)
  | noReconnectC : s.reconnectC = none →
      Onward s ev (.stopping .testReconnectC) (.stopping .testErrC)
  | hasReconnectC (rc : Nat) : s.reconnectC = some rc →
      Onward s ev (.stopping .testReconnectC) (.stopping .closeReconnectC)
  | noErrC : s.errC = none → Onward s ev (.stopping .testErrC) .returned
  | hasErrC (e : Nat) : s.errC = some e → Onward s ev (.stopping .testErrC) (.stopping .closeErrC)
  | writeChecked (data : List UInt8) : s.connected = true →
      Onward s ev (.writing data .check) (.writing data .read)
  | writeRefused (data : List UInt8) : Onward s ev (.writing data .check) .refused
  | writeRead (data : List UInt8) :
      Onward s ev (.writing data .read) (.writing data (.send s.webSocket))
  | unreported (text : String) (next : Next) : s.errC = none →
      Onward s ev (.reporting text .test next) next.thread
  | reportTested (text : String) (next : Next) (e : Nat) : s.errC = some e →
      Onward s ev (.reporting text .test next) (.reporting text .read next)
  | reportRead (text : String) (next : Next) :
      Onward s ev (.reporting text .read next) (.reporting text (.send s.errC) next)
  | writePump (c : Nat) : s.webSocket = some c → Onward s ev .writePump (.loop c)
  | selects (c : Nat) : Onward s ev (.loop c) (.select c s.webSocket)
  | ticks (c : Nat) (k : Option Nat) : Onward s ev (.select c k) (.sendPing c)
  | queueClosed (c k : Nat) : Onward s ev (.select c (some k)) (.sendData c)
  | closeClosed (c k : Nat) : Onward s ev (.select c (some k)) (.sendClose c)
  | forceClosed (c k : Nat) :
      Onward s ev (.select c (some k)) (.closing c (.forced none) .disconnect)
  | sentData (c : Nat) : Onward s ev (.sendData c) (.loop c)
  | dataFailed (c : Nat) (text : String) :
      Onward s ev (.sendData c) (.reporting text .test (.closure c .failed))
  | sentPing (c : Nat) : Onward s ev (.sendPing c) (.loop c)
  | pingFailed (c : Nat) (text : String) :
      Onward s ev (.sendPing c) (.reporting text .test (.closure c .failed))
  | sentClose (c : Nat) : Onward s ev (.sendClose c) (.closing c .stopped .disconnect)
  | closeFailed (c : Nat) (text : String) :
      Onward s ev (.sendClose c) (.reporting text .test (.closure c .stopped))
  | cleanupRead (c : Nat) (cause : Cause) (k : Nat) : s.webSocket = some k →
      Onward s ev (.closing c cause .read) (.closing c cause (.close k))
  | notified (c : Nat) (cause : Cause) :
      Onward s ev (.closing c cause .notify) (Client.afterClosure cause)
  | retries : Onward s ev .retry (.waiting s.reconnectC)
  | timer (rc : Option Nat) : ev = .timer →
      Onward s ev (.waiting rc) (.starting .handleReconnection (.parse true))
  | signal (rc : Nat) : Onward s ev (.waiting (some rc)) .returned
  | reconnected : Onward s ev .reconnected .returned
  | readPump (c : Nat) : s.webSocket = some c → Onward s ev .readPump (.reading c)
  | received (c : Nat) : Onward s ev (.reading c) (.handling c)
  | readReported (c : Nat) (err text : String) :
      Onward s ev (.reading c) (.reporting text .test (.forceClose ⟨c, err⟩))
  | readFailed (c : Nat) (err : String) : Onward s ev (.reading c) (.readFailed ⟨c, err⟩)
  | handled (c : Nat) : Onward s ev (.handling c) (.reading c)
  | handleFailed (c : Nat) (text : String) :
      Onward s ev (.handling c) (.reporting text .test (.read c))
  | forceRead (err : ReadError) : Onward s ev (.readFailed err) (.forceClose err s.webSocket)

/-- What takes the process down, `Stop`'s critical section apart. -/
inductive PanicCause (s : Client) : Thread → Panic → Prop where
  | badURL (caller : Caller) : PanicCause s (.starting caller (.parse false)) .nilDereference
  | noReconnectC : s.reconnectC = none → PanicCause s (.stopping .closeReconnectC) .nilChannel
  | reconnectC (rc : Nat) (x : Chan Unit) : s.reconnectC = some rc →
      s.reconnectCs[rc]? = some x → x.closed = true →
      PanicCause s (.stopping .closeReconnectC) .closedChannel
  | noErrC : s.errC = none → PanicCause s (.stopping .closeErrC) .nilChannel
  | errC (e : Nat) (x : Chan String) : s.errC = some e → s.errCs[e]? = some x →
      x.closed = true → PanicCause s (.stopping .closeErrC) .closedChannel
  | write (data : List UInt8) (k : Nat) (x : ClientSocket) : s.sockets[k]? = some x →
      x.outQueue.closed = true → PanicCause s (.writing data (.send (some k))) .closedChannel
  | report (text : String) (next : Next) (e : Nat) (x : Chan String) : s.errCs[e]? = some x →
      x.closed = true → PanicCause s (.reporting text (.send (some e)) next) .closedChannel
  | noSocket (pc : Thread) : PanicCause s pc .nilDereference
  | cleanup (c : Nat) (cause : Cause) (k : Nat) (x : ClientSocket) : s.sockets[k]? = some x →
      x.outQueue.closed = true ∨ x.closeC.closed = true →
      PanicCause s (.closing c cause (.close k)) .closedChannel
  | forceClose (err : ReadError) (k : Nat) (x : ClientSocket) : s.sockets[k]? = some x →
      x.forceCloseC.closed = true → PanicCause s (.forceClose err (some k)) .closedChannel

/-- One operation: the client afterwards, where the goroutine goes, and who it starts. -/
inductive Stepped (s : Client) (ev : Client.Event) :
    Thread → Client → Thread → List Thread → Prop where
  | onward (pc pc' : Thread) : Onward s ev pc pc' → Stepped s ev pc s pc' []
  | panics (pc : Thread) (p : Panic) : PanicCause s pc p →
      Stepped s ev pc { s with panic := some p } .returned []
  | assign (caller : Caller) :
      Stepped s ev (.starting caller .assign)
        { s with sockets := s.sockets ++ [.new], webSocket := some s.sockets.length }
        (.starting caller .makeReconnectC) []
  | makeReconnectC (caller : Caller) :
      Stepped s ev (.starting caller .makeReconnectC)
        { s with
          reconnectCs := s.reconnectCs ++ [.make 0], reconnectC := some s.reconnectCs.length }
        (.starting caller .connect) []
  | connect (caller : Caller) :
      Stepped s ev (.starting caller .connect) { s with connected := true }
        (.starting caller .spawn) []
  | spawn (caller : Caller) :
      Stepped s ev (.starting caller .spawn) s (Client.afterStart caller) [.writePump, .readPump]
  /-- `Stop` finds `closeC` closed; the flag is down by then. -/
  | stopPanics (k : Nat) (x : ClientSocket) : s.connected = true → s.webSocket = some k →
      s.sockets[k]? = some x → x.closeC.closed = true →
      Stepped s ev (.stopping .lock)
        { s with connected := false, panic := some .closedChannel } .returned []
  /-- It finds no room in it. -/
  | stopUnsaid : s.connected = true →
      Stepped s ev (.stopping .lock) { s with connected := false } (.stopping .testReconnectC) []
  | stop (k : Nat) (x : ClientSocket) (closeC : Chan CloseError) : s.connected = true →
      s.webSocket = some k → s.sockets[k]? = some x → closeC.closed = x.closeC.closed →
      Stepped s ev (.stopping .lock)
        (Client.setSocket { s with connected := false } k { x with closeC := closeC })
        (.stopping .testReconnectC) []
  | closeReconnectC (rc : Nat) (x : Chan Unit) : s.reconnectC = some rc →
      s.reconnectCs[rc]? = some x → x.closed = false →
      Stepped s ev (.stopping .closeReconnectC)
        { s with reconnectCs := s.reconnectCs.set rc { x with closed := true } }
        (.stopping .testErrC) []
  | closeErrC (e : Nat) (x : Chan String) : s.errC = some e → s.errCs[e]? = some x →
      x.closed = false →
      Stepped s ev (.stopping .closeErrC)
        { s with errCs := s.errCs.set e { x with closed := true } } (.stopping .resetErrC) []
  | resetErrC : Stepped s ev (.stopping .resetErrC) { s with errC := none } .returned []
  | write (data : List UInt8) (k : Nat) (x : ClientSocket) (outQueue : Chan (List UInt8)) :
      s.sockets[k]? = some x → outQueue.closed = x.outQueue.closed →
      Stepped s ev (.writing data (.send (some k)))
        (s.setSocket k { x with outQueue := outQueue }) .returned []
  | report (text : String) (next : Next) (e : Nat) (x x' : Chan String) :
      s.errCs[e]? = some x → x'.closed = x.closed →
      Stepped s ev (.reporting text (.send (some e)) next) { s with errCs := s.errCs.set e x' }
        next.thread []
  | takeData (c k : Nat) (x : ClientSocket) (outQueue : Chan (List UInt8)) :
      s.sockets[k]? = some x → outQueue.closed = x.outQueue.closed →
      Stepped s ev (.select c (some k)) (s.setSocket k { x with outQueue := outQueue })
        (.sendData c) []
  | takeClose (c k : Nat) (x : ClientSocket) (closeC : Chan CloseError) :
      s.sockets[k]? = some x → closeC.closed = x.closeC.closed →
      Stepped s ev (.select c (some k)) (s.setSocket k { x with closeC := closeC })
        (.sendClose c) []
  | takeForceClose (c k : Nat) (x : ClientSocket) (err : ReadError) (rest : List ReadError) :
      s.sockets[k]? = some x → x.forceCloseC.items = err :: rest →
      Stepped s ev (.select c (some k))
        (s.setSocket k { x with forceCloseC := { x.forceCloseC with items := rest } })
        (.closing c (.forced (some err)) .disconnect) []
  | disconnect (c : Nat) (cause : Cause) :
      Stepped s ev (.closing c cause .disconnect) { s with connected := false }
        (.closing c cause .read) []
  | cleanup (c : Nat) (cause : Cause) (k : Nat) (x : ClientSocket) : s.sockets[k]? = some x →
      Stepped s ev (.closing c cause (.close k))
        (s.setSocket k
          { x with
            outQueue := { x.outQueue with closed := true }
            closeC := { x.closeC with closed := true } })
        (.closing c cause .notify) []
  | forceClose (err : ReadError) (k : Nat) (x : ClientSocket) : s.sockets[k]? = some x →
      Stepped s ev (.forceClose err (some k))
        (s.setSocket k
          { x with forceCloseC := { x.forceCloseC with items := x.forceCloseC.items ++ [err] } })
        .returned []

/-- A step of the client, by a goroutine or by the user. -/
inductive RunMove (s : ClientRun) : ClientRun.Action → ClientRun → Prop where
  | errors : s.client.errC = none →
      RunMove s .errors
        { s with client := { s.client with
          errCs := s.client.errCs ++ [.make 1], errC := some s.client.errCs.length } }
  | errorsAgain : RunMove s .errors s
  | receiveError (e : Nat) (x x' : Chan String) : s.client.errCs[e]? = some x →
      x'.closed = x.closed →
      RunMove s (.receiveError e)
        { s with client := { s.client with errCs := s.client.errCs.set e x' } }
  | call (a : ClientRun.Action) (pc : Thread) : a.entry = some pc →
      RunMove s a { s with threads := s.threads ++ [pc] }
  | thread (t : Nat) (ev : Client.Event) (pc : Thread) (client : Client) (pc' : Thread)
      (new : List Thread) : s.threads[t]? = some pc → Stepped s.client ev pc client pc' new →
      RunMove s (.thread t ev) { client := client, threads := s.threads.set t pc' ++ new }

/-! ## Every step is a move -/

section

variable {s : Client} {ev : Client.Event} {o : Client.Outcome}

theorem startStep_stepped {caller : Caller} {pc : Starting}
    (h : s.startStep caller pc ev = some o) :
    Stepped s ev (.starting caller pc) o.client o.next o.spawned := by
  unfold Client.startStep at h
  split at h
  · rename_i valid
    cases valid with
    | true => cases h; exact .onward _ _ (.parsed caller)
    | false => cases h; exact .panics _ _ (.badURL caller)
  · cases h; exact .onward _ _ (.dialled caller)
  · rename_i err
    cases h
    exact .onward _ _ (.dialFailed caller err)
  · cases h; exact .assign caller
  · cases h; exact .makeReconnectC caller
  · cases h; exact .connect caller
  · cases h; exact .spawn caller
  · exact absurd h (by simp)

theorem disconnect_stepped :
    Stepped s ev (.stopping .lock) s.disconnect.client s.disconnect.next s.disconnect.spawned := by
  unfold Client.disconnect
  split
  · rename_i hconn
    dsimp only
    split
    · exact .stopUnsaid hconn
    · rename_i k x hkx
      obtain ⟨k', hk, hx⟩ := Option.bind_eq_some_iff.mp hkx
      obtain ⟨x', hx', he⟩ := Option.map_eq_some_iff.mp hx
      cases he
      split
      · rename_i closeC hsend
        rw [Chan.sent_eq hsend]
        exact .stop k x _ hconn hk hx' rfl
      · exact .stopUnsaid hconn
      · rename_i hsend
        exact .stopPanics k x hconn hk hx' (Chan.closed_of_panics hsend)
  · rename_i hconn
    exact .onward _ _ (.notConnected (by simpa using hconn))

theorem stopStep_stepped {pc : Stopping} (h : s.stopStep pc = some o) :
    Stepped s ev (.stopping pc) o.client o.next o.spawned := by
  unfold Client.stopStep at h
  split at h
  · cases h
    exact disconnect_stepped
  · split at h
    · rename_i hrc
      cases h
      exact .onward _ _ (.noReconnectC hrc)
    · rename_i rc hrc
      cases h
      exact .onward _ _ (.hasReconnectC rc hrc)
  · split at h
    · rename_i hrc
      cases h
      exact .panics _ _ (.noReconnectC hrc)
    · rename_i rc hrc
      obtain ⟨x, hx, rfl⟩ := Option.map_eq_some_iff.mp h
      split
      · rename_i hclose
        exact .panics _ _ (.reconnectC rc x hrc hx (Chan.closed_of_close hclose))
      · rename_i x' hclose
        obtain ⟨hopen, rfl⟩ := Chan.close_eq hclose
        exact .closeReconnectC rc x hrc hx hopen
  · split at h
    · rename_i he
      cases h
      exact .onward _ _ (.noErrC he)
    · rename_i e he
      cases h
      exact .onward _ _ (.hasErrC e he)
  · split at h
    · rename_i he
      cases h
      exact .panics _ _ (.noErrC he)
    · rename_i e he
      obtain ⟨x, hx, rfl⟩ := Option.map_eq_some_iff.mp h
      split
      · rename_i hclose
        exact .panics _ _ (.errC e x he hx (Chan.closed_of_close hclose))
      · rename_i x' hclose
        obtain ⟨hopen, rfl⟩ := Chan.close_eq hclose
        exact .closeErrC e x he hx hopen
  · cases h
    exact .resetErrC

theorem writeStep_stepped {data : List UInt8} {pc : Writing} (h : s.writeStep data pc = some o) :
    Stepped s ev (.writing data pc) o.client o.next o.spawned := by
  unfold Client.writeStep at h
  split at h
  · split at h
    · rename_i hconn
      cases h
      exact .onward _ _ (.writeChecked data hconn)
    · cases h
      exact .onward _ _ (.writeRefused data)
  · cases h
    exact .onward _ _ (.writeRead data)
  · exact absurd h (by simp)
  · rename_i k
    obtain ⟨x, hx, hs⟩ := Option.bind_eq_some_iff.mp h
    split at hs
    · exact absurd hs (by simp)
    · rename_i hsend
      cases hs
      exact .panics _ _ (.write data k x hx (Chan.closed_of_panics hsend))
    · rename_i outQueue hsend
      cases hs
      rw [Chan.sent_eq hsend]
      exact .write data k x _ hx rfl

theorem reportStep_stepped {text : String} {next : Next} {pc : Reporting}
    (h : s.reportStep text next pc = some o) :
    Stepped s ev (.reporting text pc next) o.client o.next o.spawned := by
  unfold Client.reportStep at h
  split at h
  · split at h
    · rename_i he
      cases h
      exact .onward _ _ (.unreported text next he)
    · rename_i e he
      cases h
      exact .onward _ _ (.reportTested text next e he)
  · cases h
    exact .onward _ _ (.reportRead text next)
  · exact absurd h (by simp)
  · rename_i e
    obtain ⟨x, hx, hs⟩ := Option.bind_eq_some_iff.mp h
    split at hs
    · exact absurd hs (by simp)
    · rename_i hsend
      cases hs
      exact .panics _ _ (.report text next e x hx (Chan.closed_of_panics hsend))
    · rename_i x' hsend
      cases hs
      rw [Chan.sent_eq hsend]
      exact .report text next e x _ hx rfl

theorem selectStep_stepped {c k : Nat} {x : ClientSocket} (hx : s.sockets[k]? = some x)
    (h : s.selectStep c k x ev = some o) :
    Stepped s ev (.select c (some k)) o.client o.next o.spawned := by
  unfold Client.selectStep at h
  split at h
  · split at h
    · exact absurd h (by simp)
    · cases h
      exact .onward _ _ (.queueClosed c k)
    · rename_i data outQueue hrecv
      cases h
      rw [(Chan.value_eq hrecv).2]
      exact .takeData c k x _ hx rfl
  · split at h
    · exact absurd h (by simp)
    · cases h
      exact .onward _ _ (.closeClosed c k)
    · rename_i err closeC hrecv
      cases h
      rw [(Chan.value_eq hrecv).2]
      exact .takeClose c k x _ hx rfl
  · split at h
    · exact absurd h (by simp)
    · cases h
      exact .onward _ _ (.forceClosed c k)
    · rename_i err forceCloseC hrecv
      cases h
      obtain ⟨hitems, heq⟩ := Chan.value_eq hrecv
      rw [heq]
      exact .takeForceClose c k x err _ hx hitems
  · exact absurd h (by simp)

theorem closeStep_stepped {c : Nat} {cause : Cause} {pc : Closing}
    (h : s.closeStep c cause pc = some o) :
    Stepped s ev (.closing c cause pc) o.client o.next o.spawned := by
  unfold Client.closeStep at h
  split at h
  · cases h
    exact .disconnect c cause
  · split at h
    · cases h
      exact .panics _ _ (.noSocket _)
    · rename_i k hk
      cases h
      exact .onward _ _ (.cleanupRead c cause k hk)
  · rename_i k
    obtain ⟨x, hx, rfl⟩ := Option.map_eq_some_iff.mp h
    unfold Client.cleanup
    split
    · rename_i outQueue closeC hout hclose
      rw [(Chan.close_eq hout).2, (Chan.close_eq hclose).2]
      exact .cleanup c cause k x hx
    · rename_i hnot
      refine .panics _ _ (.cleanup c cause k x hx ?_)
      -- one of the two closes is the second of its channel
      cases hout : x.outQueue.close with
      | none => exact Or.inl (Chan.closed_of_close hout)
      | some outQueue =>
          cases hclose : x.closeC.close with
          | none => exact Or.inr (Chan.closed_of_close hclose)
          | some closeC => exact absurd hclose (hnot outQueue closeC hout)
  · cases h
    exact .onward _ _ (.notified c cause)

theorem step_stepped {pc : Thread} (h : s.step ev pc = some o) :
    Stepped s ev pc o.client o.next o.spawned := by
  unfold Client.step at h
  split at h
  · exact absurd h (by simp)
  · exact absurd h (by simp)
  · exact startStep_stepped h
  · exact stopStep_stepped h
  · exact writeStep_stepped h
  · exact reportStep_stepped h
  · split at h
    · cases h
      exact .panics _ _ (.noSocket _)
    · rename_i c hc
      cases h
      exact .onward _ _ (.writePump c hc)
  · rename_i c
    cases h
    exact .onward _ _ (.selects c)
  · rename_i c k
    split at h
    · cases h
      exact .onward _ _ (.ticks c k)
    · obtain ⟨k, rfl, hk⟩ := Option.bind_eq_some_iff.mp h
      obtain ⟨x, hx, hs⟩ := Option.bind_eq_some_iff.mp hk
      exact selectStep_stepped hx hs
  · rename_i c
    split at h
    · cases h; exact .onward _ _ (.sentData c)
    · cases h; exact .onward _ _ (.dataFailed c _)
    · exact absurd h (by simp)
  · rename_i c
    split at h
    · cases h; exact .onward _ _ (.sentPing c)
    · cases h; exact .onward _ _ (.pingFailed c _)
    · exact absurd h (by simp)
  · rename_i c
    split at h
    · cases h; exact .onward _ _ (.sentClose c)
    · cases h; exact .onward _ _ (.closeFailed c _)
    · exact absurd h (by simp)
  · exact closeStep_stepped h
  · cases h
    exact .onward _ _ .retries
  · rename_i rc
    split at h
    · cases h; exact .onward _ _ (.timer rc rfl)
    · obtain ⟨rc, rfl, hrc⟩ := Option.bind_eq_some_iff.mp h
      obtain ⟨x, hx, hs⟩ := Option.bind_eq_some_iff.mp hrc
      split at hs
      · cases hs; exact .onward _ _ (.signal rc)
      · exact absurd hs (by simp)
    · exact absurd h (by simp)
  · cases h
    exact .onward _ _ .reconnected
  · split at h
    · cases h
      exact .panics _ _ (.noSocket _)
    · rename_i c hc
      cases h
      exact .onward _ _ (.readPump c hc)
  · rename_i c
    split at h
    · cases h; exact .onward _ _ (.received c)
    · rename_i err unexpected
      split at h
      · cases h; exact .onward _ _ (.readReported c err _)
      · cases h; exact .onward _ _ (.readFailed c err)
    · exact absurd h (by simp)
  · rename_i c
    split at h
    · cases h; exact .onward _ _ (.handled c)
    · cases h; exact .onward _ _ (.handleFailed c _)
    · exact absurd h (by simp)
  · rename_i err
    cases h
    exact .onward _ _ (.forceRead err)
  · rename_i err k
    obtain ⟨k, rfl, hk⟩ := Option.bind_eq_some_iff.mp h
    obtain ⟨x, hx, hs⟩ := Option.bind_eq_some_iff.mp hk
    split at hs
    · exact absurd hs (by simp)
    · rename_i hsend
      cases hs
      exact .panics _ _ (.forceClose err k x hx (Chan.closed_of_panics hsend))
    · rename_i forceCloseC hsend
      cases hs
      rw [Chan.sent_eq hsend]
      exact .forceClose err k x hx

end

/-- **Every step is one of the moves**, and comes before any panic. -/
theorem act_runMove {s s' : ClientRun} {a : ClientRun.Action} (h : s.act a = some s') :
    RunMove s a s' ∧ s.client.panic = none := by
  unfold ClientRun.act at h
  split at h
  · exact absurd h (by simp)
  · rename_i hpanic
    refine ⟨?_, hpanic⟩
    split at h
    · cases h
      unfold Client.errors
      split
      · exact .errorsAgain
      · rename_i he
        exact .errors he
    · rename_i e
      obtain ⟨client, hc, rfl⟩ := Option.map_eq_some_iff.mp h
      obtain ⟨x, hx, hs⟩ := Option.bind_eq_some_iff.mp hc
      split at hs
      · rename_i text x' hrecv
        cases hs
        rw [(Chan.value_eq hrecv).2]
        exact .receiveError e x _ hx rfl
      · exact absurd hs (by simp)
    · rename_i t ev
      obtain ⟨pc, hpc, hs⟩ := Option.bind_eq_some_iff.mp h
      obtain ⟨o, ho, rfl⟩ := Option.map_eq_some_iff.mp hs
      exact .thread t ev pc _ _ _ hpc (step_stepped ho)
    · obtain ⟨pc, hpc, rfl⟩ := Option.map_eq_some_iff.mp h
      exact .call _ pc hpc

/-- A goroutine stands where it stood, where the step took it, or was just started. -/
theorem mem_stepped {threads new : List Thread} {t : Nat} {pc' x : Thread}
    (h : x ∈ threads.set t pc' ++ new) :
    (∃ u, u ≠ t ∧ threads[u]? = some x) ∨ x = pc' ∨ x ∈ new := by
  rcases List.mem_append.mp h with h | h
  · obtain ⟨u, hu⟩ := List.mem_iff_getElem?.mp h
    rcases getElem?_replaced hu with ⟨_, rfl⟩ | ⟨hne, hu⟩
    · exact Or.inr (Or.inl rfl)
    · exact Or.inl ⟨u, hne, hu⟩
  · exact Or.inr (Or.inr h)

theorem mem_threads {threads new : List Thread} {t : Nat} {pc' x : Thread}
    (h : x ∈ threads.set t pc' ++ new) : x ∈ threads ∨ x = pc' ∨ x ∈ new :=
  (mem_stepped h).imp_left fun ⟨_, _, hu⟩ => List.mem_of_getElem? hu

theorem mem_moved {threads new : List Thread} {t : Nat} {pc' x : Thread}
    (h : x ∈ threads.set t pc' ++ new) : x ∈ threads ∨ x ∈ pc' :: new := by
  rcases mem_threads h with h | rfl | h
  · exact Or.inl h
  · exact Or.inr List.mem_cons_self
  · exact Or.inr (List.mem_cons_of_mem _ h)

/-- Where a goroutine stands after its own step. -/
theorem getElem?_stepped {threads new : List Thread} {t : Nat} {pc pc' : Thread}
    (h : threads[t]? = some pc) : (threads.set t pc' ++ new)[t]? = some pc' := by
  have hlt := (List.getElem?_eq_some_iff.mp h).1
  rw [List.getElem?_append_left (by rw [List.length_set]; exact hlt)]
  exact List.getElem?_set_self hlt

end OcppGo.Proof
