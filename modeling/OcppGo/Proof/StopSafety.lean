import OcppGo.Proof.SocketRegistry
import OcppGo.Ws.StopConnection

/-!
# Stopping connections that close

A call that is about to send on `closeC` of a socket needs it open. `stopConnections`
found the socket in the map and has kept the read lock since, so the socket's cleanup,
which closes the channel, still waits. `StopConnection` has released the lock: the cleanup
may come between its lookup and its send, and then the send panics.

So this order of a cleanup and a send is what has to be excluded. Nothing else closes a
socket: in any other step an open socket stays open.
-/

namespace OcppGo.Proof

open OcppGo.Lib OcppGo.Ws

section

variable {s s' : Server} {k j : Nat} {x y z : WebSocket}

/-! ## What closes a socket -/

/-- A socket is still open when another one is replaced, or itself by an open one. -/
theorem notClosed_setSocket (hk : s.sockets[k]? = some x) (hx : x.writePump ≠ .closed)
    (hz : j = k → z.writePump ≠ .closed) :
    ∃ y, (s.setSocket j z).sockets[k]? = some y ∧ y.writePump ≠ .closed := by
  by_cases hjk : j = k
  · subst hjk
    exact ⟨z, setSocket_self hk, hz rfl⟩
  · exact ⟨x, (setSocket_ne (Ne.symm hjk)).trans hk, hx⟩

theorem notClosed_callStep {t : Nat} {c : Call} (hk : s.sockets[k]? = some x)
    (hx : x.writePump ≠ .closed) (hs : s.callStep t c = some s') :
    ∃ y, s'.sockets[k]? = some y ∧ y.writePump ≠ .closed := by
  cases c with
  | accepting id =>
      simp only [Server.callStep] at hs
      split at hs
      · cases hs
        unfold Server.register
        split
        · exact ⟨x, hk, hx⟩
        · have hlt := (List.getElem?_eq_some_iff.mp hk).1
          exact ⟨x, (List.getElem?_append_left hlt).trans hk, hx⟩
      · exact absurd hs (by simp)
  | writing id data =>
      simp only [Server.callStep, Option.map_eq_some_iff] at hs
      obtain ⟨m, -, rfl⟩ := hs
      split
      · exact ⟨x, hk, hx⟩
      · exact ⟨x, hk, hx⟩
  | sending j data =>
      obtain ⟨z, hj, hs⟩ := Option.bind_eq_some_iff.mp hs
      split at hs
      · exact absurd hs (by simp)
      · cases hs
        exact ⟨x, hk, hx⟩
      · cases hs
        refine notClosed_setSocket hk hx ?_
        rintro rfl
        rw [hk] at hj
        cases hj
        exact hx
  | returned r => exact absurd hs (by simp [Server.callStep])

theorem notClosed_pumpStep {ev : Server.Event} (hk : s.sockets[k]? = some x)
    (hx : x.writePump ≠ .closed) (hown : j = k → ev ≠ .cleanup)
    (hs : s.pumpStep j ev z = some s') :
    ∃ y, s'.sockets[k]? = some y ∧ y.writePump ≠ .closed := by
  unfold Server.pumpStep at hs
  split at hs
  · split at hs
    · exact absurd hs (by simp)
    · cases hs
      exact notClosed_setSocket hk hx fun _ => by simp
    · cases hs
      exact notClosed_setSocket hk hx fun _ => by simp
  · cases hs
    exact notClosed_setSocket hk hx fun _ => by simp
  · cases hs
    exact notClosed_setSocket hk hx fun _ => by simp
  · split at hs
    · exact absurd hs (by simp)
    · cases hs
      exact notClosed_setSocket hk hx fun _ => by simp
    · cases hs
      exact notClosed_setSocket hk hx fun _ => by simp only; split <;> simp
  · cases hs
    exact notClosed_setSocket hk hx fun _ => by simp only; split <;> simp
  · split at hs
    · cases hs
      unfold Server.cleanupConnection
      split
      · exact notClosed_setSocket hk hx fun e => absurd rfl (hown e)
      · exact ⟨x, hk, hx⟩
    · exact absurd hs (by simp)
  · exact absurd hs (by simp)

/-- **Only its own cleanup closes a socket.** -/
theorem socket_step {a : Server.Action} (hs : s.act a = some s') (hk : s.sockets[k]? = some x)
    (hx : x.writePump ≠ .closed) (ha : a ≠ .writePump k .cleanup) :
    ∃ y, s'.sockets[k]? = some y ∧ y.writePump ≠ .closed := by
  unfold Server.act at hs
  split at hs
  · exact absurd hs (by simp)
  · cases a with
    | wsHandler id =>
        cases hs
        exact ⟨x, hk, hx⟩
    | write id data =>
        cases hs
        exact ⟨x, hk, hx⟩
    | lock g =>
        simp only at hs
        split at hs
        · obtain ⟨m, -, rfl⟩ := Option.map_eq_some_iff.mp hs
          exact ⟨x, hk, hx⟩
        · exact absurd hs (by simp)
    | call t =>
        obtain ⟨c, -, hs⟩ := Option.bind_eq_some_iff.mp hs
        exact notClosed_callStep hk hx hs
    | writePump j ev =>
        obtain ⟨z, -, hs⟩ := Option.bind_eq_some_iff.mp hs
        refine notClosed_pumpStep hk hx ?_ hs
        rintro rfl rfl
        exact ha rfl
    | readPump j err =>
        obtain ⟨z, hj, hs⟩ := Option.bind_eq_some_iff.mp hs
        unfold Server.readError at hs
        split at hs
        · split at hs
          · exact absurd hs (by simp)
          · cases hs
            exact ⟨x, hk, hx⟩
          · cases hs
            refine notClosed_setSocket hk hx ?_
            rintro rfl
            rw [hk] at hj
            cases hj
            exact hx
        · exact absurd hs (by simp)

/-- An open socket stays open, but for its own cleanup. -/
theorem openSocket_step {a : Server.Action} (h : Registry s) (hs : s.act a = some s')
    (ha : a ≠ .writePump k .cleanup) (hopen : ∃ x, s.sockets[k]? = some x ∧ OpenSocket x) :
    ∃ x, s'.sockets[k]? = some x ∧ OpenSocket x := by
  obtain ⟨x, hk, hx⟩ := hopen
  obtain ⟨y, hk', hy⟩ := socket_step hs hk hx.notClosed ha
  exact ⟨y, hk', ((registry_step h hs).entered hk' hy).1⟩

/-- A writer that has cleaned up receives nothing. -/
theorem notClosed_of_close (hk : s.sockets[k]? = some x)
    (hs : s.act (.writePump k .close) = some s') : x.writePump ≠ .closed := by
  intro hclosed
  unfold Server.act at hs
  split at hs
  · exact absurd hs (by simp)
  · simp only [hk, Option.bind_some, Server.pumpStep, hclosed] at hs
    exact absurd hs (by simp)

theorem OpenSocket.setCloseC {c : Chan CloseError} (h : OpenSocket x) (hc : c.closed = false) :
    OpenSocket { x with closeC := c } where
  outQueue := h.outQueue
  closeC := hc
  cleanups := h.cleanups
  notClosed := h.notClosed
  notQueueClosed := h.notQueueClosed

/-- What is sent or received on `closeC` leaves the map as it is. -/
theorem Registry.setCloseC {c : Chan CloseError} (h : Registry s) (hk : s.sockets[k]? = some x)
    (hx : OpenSocket x) (hc : c.closed = false) :
    Registry (s.setSocket k { x with closeC := c }) :=
  h.setSocket hk rfl (fun hu => hu.setCloseC hc) (fun hd => absurd hd.closed hx.notClosed)
    (h.forceCloseC k x hk)

theorem openSocket_setCloseC {c : Chan CloseError} (hk : s.sockets[k]? = some x)
    (hc : c.closed = false) (hopen : ∃ y, s.sockets[j]? = some y ∧ OpenSocket y) :
    ∃ y, (s.setSocket k { x with closeC := c }).sockets[j]? = some y ∧ OpenSocket y := by
  obtain ⟨y, hj, hy⟩ := hopen
  obtain ⟨y', hj', -, hy'⟩ := openSocket_setSocket (y := { x with closeC := c }) hk rfl
    (fun hu => hu.setCloseC hc) hj hy
  exact ⟨y', hj', hy'⟩

/-- Whoever is listed is in the map, and open. -/
theorem openSocket_entered (h : Registry s) (hk : k ∈ StoppableServer.entered s) :
    ∃ x, s.sockets[k]? = some x ∧ OpenSocket x := by
  obtain ⟨-, hmap⟩ := List.mem_filter.mp hk
  split at hmap
  · rename_i x hx
    obtain ⟨y, hy, -, hopen⟩ := h.entry x.id k (by simpa using hmap)
    exact ⟨y, hy, hopen⟩
  · exact absurd hmap (by simp)

end

/-! ## The calls -/

/-- The sockets on which a call is still to send. -/
def targets : Stop → List Nat
  | .sending k _ => [k]
  | .stopping ks => ks
  | _ => []

/-- A cleanup comes when no `StopConnection` is between its lookup and its send on the socket. -/
def sentFirst (s : StoppableServer) : StoppableServer.Action → Bool
  | .server (.writePump k .cleanup) =>
      s.stops.all fun
        | .sending j _ => j != k
        | _ => true
  | _ => true

/-- Whoever is about to send on a socket finds it open. -/
structure TargetsOpen (s : StoppableServer) : Prop where
  registry : Registry s.server
  target : ∀ st ∈ s.stops, ∀ k ∈ targets st, ∃ x, s.server.sockets[k]? = some x ∧ OpenSocket x

section

variable {s s' : StoppableServer} {t k : Nat} {st next : Stop} {a : Server.Action}

theorem targetsOpen_start : TargetsOpen .start where
  registry := registry_start
  target _ h := nomatch h

/-- A call moves on to sends on open sockets. -/
theorem TargetsOpen.setStop (h : TargetsOpen s)
    (hnext : ∀ k ∈ targets next, ∃ x, s.server.sockets[k]? = some x ∧ OpenSocket x) :
    TargetsOpen (s.setStop t next) where
  registry := h.registry
  target st hst := by
    rcases List.mem_or_eq_of_mem_set hst with hst | rfl
    · exact h.target st hst
    · exact hnext

/-- One call more, at its start. -/
theorem TargetsOpen.newStop (h : TargetsOpen s) (hnone : targets st = []) :
    TargetsOpen { s with stops := s.stops ++ [st] } where
  registry := h.registry
  target st' hst k hk := by
    rcases List.mem_append.mp hst with hst | hst
    · exact h.target st' hst k hk
    · cases List.mem_singleton.mp hst
      rw [hnone] at hk
      exact absurd hk List.not_mem_nil

/-- The cleanup of a socket waits for `stopConnections`, and comes after the sends. -/
theorem targets_not_cleaned (hfirst : sentFirst s (.server a) = true)
    (hlock : ¬ (StoppableServer.exclusive s.server a && s.readLocked) = true)
    (hst : st ∈ s.stops) (hk : k ∈ targets st) : a ≠ .writePump k .cleanup := by
  rintro rfl
  have hread : s.readLocked = false := by simpa [StoppableServer.exclusive] using hlock
  cases st with
  | sending j closeError =>
      cases List.mem_singleton.mp hk
      have hne := List.all_eq_true.mp hfirst _ hst
      exact absurd hne (by simp)
  | stopping ks => exact absurd (List.any_eq_false.mp hread _ hst) (by simp)
  | finding id closeError => exact absurd hk List.not_mem_nil
  | locking => exact absurd hk List.not_mem_nil
  | returned err => exact absurd hk List.not_mem_nil

/-- A step of the server that closes none of the targets. -/
theorem TargetsOpen.serverAct {server : Server} (h : TargetsOpen s)
    (ha : ∀ st ∈ s.stops, ∀ k ∈ targets st, a ≠ .writePump k .cleanup)
    (hs : s.server.act a = some server) : TargetsOpen { s with server := server } where
  registry := registry_step h.registry hs
  target st hst k hk := openSocket_step h.registry hs (ha st hst k hk) (h.target st hst k hk)

/-- What a call does to `closeC` of an open socket. -/
theorem TargetsOpen.setCloseC {x : WebSocket} {c : Chan CloseError} (h : TargetsOpen s)
    (hk : s.server.sockets[k]? = some x) (hx : OpenSocket x) (hc : c.closed = false) :
    TargetsOpen { s with server := s.server.setSocket k { x with closeC := c } } where
  registry := h.registry.setCloseC hk hx hc
  target st hst j hj := openSocket_setCloseC hk hc (h.target st hst j hj)

theorem TargetsOpen.serverStep (h : TargetsOpen s) (hfirst : sentFirst s (.server a) = true)
    (hs : s.serverStep a = some s') : TargetsOpen s' := by
  unfold StoppableServer.serverStep at hs
  split at hs
  · exact absurd hs (by simp)
  · rename_i hlock
    obtain ⟨server, hact, rfl⟩ := Option.map_eq_some_iff.mp hs
    split at hact
    · -- a close error is received
      rename_i k
      obtain ⟨x, hk, hact⟩ := Option.bind_eq_some_iff.mp hact
      split at hact
      · exact absurd hact (by simp)
      · exact h.serverAct (fun _ _ _ _ => by simp) hact
      · rename_i closeError closeC hrecv
        have hpump : x.writePump ≠ .closed :=
          notClosed_of_close (x := { x with closeC := closeC }) (setSocket_self hk) hact
        have hx : OpenSocket x := (h.registry.entered hk hpump).1
        rcases Chan.recv_open hx.closeC with hnone | ⟨e, c, hvalue, hc⟩
        · rw [hnone] at hrecv
          exact absurd hrecv (by simp)
        · rw [hvalue] at hrecv
          cases hrecv
          exact (h.setCloseC hk hx hc).serverAct (fun _ _ _ _ => by simp) hact
    · exact h.serverAct (fun st hst k hk => targets_not_cleaned hfirst hlock hst hk) hact

/-- A send on an open socket does not panic. -/
theorem sendClose_open {x : WebSocket} {closeError : CloseError}
    (hk : s.server.sockets[k]? = some x) (hx : OpenSocket x)
    (hs : s.sendClose t k closeError next = some s') :
    s' = StoppableServer.setStop
      { s with
        server := s.server.setSocket k
          { x with closeC := { x.closeC with items := x.closeC.items ++ [closeError] } } }
      t next := by
  unfold StoppableServer.sendClose at hs
  rw [hk, Option.bind_some] at hs
  split at hs
  · exact absurd hs (by simp)
  · rename_i hpanic
    exact absurd (Chan.closed_of_panics hpanic) (by simp [hx.closeC])
  · rename_i closeC hsent
    cases hs
    rw [Chan.sent_eq hsent]

theorem TargetsOpen.sendClose {closeError : CloseError} (h : TargetsOpen s)
    (hopen : ∃ x, s.server.sockets[k]? = some x ∧ OpenSocket x)
    (hnext : ∀ k ∈ targets next, ∃ x, s.server.sockets[k]? = some x ∧ OpenSocket x)
    (hs : s.sendClose t k closeError next = some s') : TargetsOpen s' := by
  obtain ⟨x, hk, hx⟩ := hopen
  rw [sendClose_open hk hx hs]
  exact (h.setCloseC hk hx (by simpa using hx.closeC)).setStop
    (fun j hj => openSocket_setCloseC hk (by simpa using hx.closeC) (hnext j hj))

theorem TargetsOpen.stopStep (h : TargetsOpen s) (hst : st ∈ s.stops)
    (hs : s.stopStep t k st = some s') : TargetsOpen s' := by
  unfold StoppableServer.stopStep at hs
  split at hs
  · split at hs
    · exact absurd hs (by simp)
    · split at hs
      · cases hs
        exact h.setStop fun _ hk => absurd hk List.not_mem_nil
      · rename_i j hj
        cases hs
        refine h.setStop fun k hk => ?_
        cases List.mem_singleton.mp hk
        obtain ⟨x, hx, -, hopen⟩ := h.registry.entry _ _ hj
        exact ⟨x, hx, hopen⟩
  · exact h.sendClose (h.target _ hst _ (List.mem_singleton.mpr rfl))
      (fun _ hk => absurd hk List.not_mem_nil) hs
  · split at hs
    · exact absurd hs (by simp)
    · cases hs
      exact h.setStop fun k hk => openSocket_entered h.registry hk
  · cases hs
    exact h.setStop fun _ hk => absurd hk List.not_mem_nil
  · split at hs
    · rename_i hk
      refine h.sendClose (h.target _ hst k hk) ?_ hs
      intro j hj
      exact h.target _ hst j (List.mem_of_mem_erase hj)
    · exact absurd hs (by simp)
  · exact absurd hs (by simp)

theorem targetsOpen_step {a : StoppableServer.Action} (h : TargetsOpen s)
    (hfirst : sentFirst s a = true) (hs : s.act a = some s') : TargetsOpen s' := by
  unfold StoppableServer.act at hs
  rw [if_neg (by simp [h.registry.running])] at hs
  cases a with
  | server a => exact h.serverStep hfirst hs
  | stopConnection id closeError =>
      cases hs
      exact h.newStop rfl
  | stopConnections =>
      cases hs
      exact h.newStop rfl
  | stop t k =>
      obtain ⟨st, hst, hs⟩ := Option.bind_eq_some_iff.mp hs
      exact h.stopStep (List.mem_of_getElem? hst) hs

theorem targetsOpen_reachable
    (h : ReachableWhile StoppableServer.machine (fun s a => sentFirst s a = true) s) :
    TargetsOpen s :=
  ReachableWhile.invariant (P := TargetsOpen) (by rintro _ rfl; exact targetsOpen_start)
    (fun _ _ _ _ hP hok hs => targetsOpen_step hP hok hs) h

/-! ## What `StopConnection` does -/

theorem setStop_self (st : Stop) (ht : s.stops[t]? = some next) :
    (s.setStop t st).stops[t]? = some st :=
  List.getElem?_set_self (List.getElem?_eq_some_iff.mp ht).1

/-- The lookup ends the call with the error, or finds the socket under the id. -/
theorem stop_finds {id : String} {closeError : CloseError} (h : TargetsOpen s)
    (ht : s.stops[t]? = some (.finding id closeError)) (hs : s.act (.stop t k) = some s') :
    s.server.connections id = none ∧
        s'.stops[t]? = some (.returned (some (StoppableServer.noConnectionError id))) ∨
      ∃ j, s.server.connections id = some j ∧ s'.stops[t]? = some (.sending j closeError) := by
  rw [StoppableServer.act, if_neg (by simp [h.registry.running])] at hs
  simp only [ht, Option.bind_some, StoppableServer.stopStep] at hs
  split at hs
  · exact absurd hs (by simp)
  · split at hs
    · rename_i hnone
      cases hs
      exact Or.inl ⟨hnone, setStop_self _ ht⟩
    · rename_i j hj
      cases hs
      exact Or.inr ⟨j, hj, setStop_self _ ht⟩

/-- The send delivers the close error, and ends the call without an error. -/
theorem stop_delivers {j : Nat} {closeError : CloseError} (h : TargetsOpen s)
    (ht : s.stops[t]? = some (.sending j closeError)) (hs : s.act (.stop t k) = some s') :
    s'.stops[t]? = some (.returned none) ∧
      ∃ x y, s.server.sockets[j]? = some x ∧ s'.server.sockets[j]? = some y ∧
        y.closeC.closed = false ∧ y.closeC.items = x.closeC.items ++ [closeError] := by
  obtain ⟨x, hj, hx⟩ := h.target _ (List.mem_of_getElem? ht) j (List.mem_singleton.mpr rfl)
  rw [StoppableServer.act, if_neg (by simp [h.registry.running])] at hs
  simp only [ht, Option.bind_some, StoppableServer.stopStep] at hs
  rw [sendClose_open hj hx hs]
  exact ⟨setStop_self _ ht, x, _, hj, setSocket_self hj, hx.closeC, rfl⟩

end

/--
**`StopConnection` is safe**, if no socket is cleaned up between its lookup and its send:
in every such run the server does not crash, and whoever is about to send finds `closeC`
open, `stopConnections` too. So `StopConnection` returns its error when no socket is
entered under the id, or delivers the close error to the one that is.
-/
theorem stop_connection_safe {s : StoppableServer}
    (h : ReachableWhile StoppableServer.machine (fun s a => sentFirst s a = true) s) :
    s.server.crashed = false ∧
    (∀ st ∈ s.stops, ∀ k ∈ targets st,
      ∃ x, s.server.sockets[k]? = some x ∧ x.closeC.closed = false) ∧
    (∀ t k id closeError s', s.stops[t]? = some (.finding id closeError) →
      s.act (.stop t k) = some s' →
      s.server.connections id = none ∧
          s'.stops[t]? = some (.returned (some (StoppableServer.noConnectionError id))) ∨
        ∃ j, s.server.connections id = some j ∧ s'.stops[t]? = some (.sending j closeError)) ∧
    ∀ t k j closeError s', s.stops[t]? = some (.sending j closeError) →
      s.act (.stop t k) = some s' →
      s'.stops[t]? = some (.returned none) ∧
        ∃ x y, s.server.sockets[j]? = some x ∧ s'.server.sockets[j]? = some y ∧
          y.closeC.closed = false ∧ y.closeC.items = x.closeC.items ++ [closeError] := by
  have hopen := targetsOpen_reachable h
  refine ⟨hopen.registry.running, ?_, ?_, ?_⟩
  · intro st hst k hk
    obtain ⟨x, hx, hsocket⟩ := hopen.target st hst k hk
    exact ⟨x, hx, hsocket.closeC⟩
  · intro t k id closeError s' ht hs
    exact stop_finds hopen ht hs
  · intro t k j closeError s' ht hs
    exact stop_delivers hopen ht hs

/-- A charge point connects, and a `StopConnection` finds it. -/
def stopFindsSocket : List StoppableServer.Action :=
  [.server (.wsHandler "CS1"), .server (.lock (.call 0)), .server (.call 0),
    .stopConnection "CS1" ⟨1001, "going away"⟩, .stop 0 0]

/-- The connection breaks, and the socket is cleaned up. -/
def connectionBreaks : List StoppableServer.Action :=
  [.server (.readPump 0 "EOF"), .server (.writePump 0 .forceClose),
    .server (.lock (.writePump 0)), .server (.writePump 0 .cleanup)]

/--
The close error is sent before the cleanup, and a second `StopConnection` gets the error.
Then the charge point is back, and `stopConnections` is about to stop it.
-/
def stoppedInOrder : List StoppableServer.Action :=
  stopFindsSocket ++ [.stop 0 0] ++ connectionBreaks ++
    [.stopConnection "CS1" ⟨1001, "going away"⟩, .stop 1 0,
      .server (.wsHandler "CS1"), .server (.lock (.call 1)), .server (.call 1),
      .stopConnections, .stop 2 0]

theorem stopped_in_order_safe :
    ∃ s, StoppableServer.machine.runWhile sentFirst .start stoppedInOrder = some s ∧
      s.stops = [.returned none, .returned (some (StoppableServer.noConnectionError "CS1")),
        .stopping [1]] ∧
      s.server.crashed = false ∧ ∃ x, s.server.sockets[1]? = some x ∧ x.closeC.closed = false := by
  have hrun : ∃ s, StoppableServer.machine.runWhile sentFirst .start stoppedInOrder = some s ∧
      s.stops = [.returned none, .returned (some (StoppableServer.noConnectionError "CS1")),
        .stopping [1]] :=
    ⟨_, rfl, rfl⟩
  obtain ⟨s, hs, hstops⟩ := hrun
  obtain ⟨hrunning, htargets, -, -⟩ :=
    stop_connection_safe (ReachableWhile.runWhile (fun _ _ h => h) (.init rfl) _ hs)
  exact ⟨s, hs, hstops, hrunning,
    htargets (.stopping [1]) (by simp [hstops]) 1 (List.mem_singleton.mpr rfl)⟩

/-- The cleanup comes between the lookup and the send: `StopConnection` takes the process down. -/
theorem stop_sends_on_closed_channel :
    ∃ s, StoppableServer.machine.run .start (stopFindsSocket ++ connectionBreaks) = some s ∧
      s.stops = [.sending 0 ⟨1001, "going away"⟩] ∧
      (∃ x, s.server.sockets[0]? = some x ∧ x.closeC.closed = true) ∧
      ∃ s', s.act (.stop 0 0) = some s' ∧ s'.server.crashed = true :=
  ⟨_, rfl, rfl, ⟨_, rfl, rfl⟩, _, rfl, rfl⟩

end OcppGo.Proof
