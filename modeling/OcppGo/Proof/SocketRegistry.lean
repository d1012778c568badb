import OcppGo.Lib.Lists
import OcppGo.Ws.Server

/-!
# The map of open sockets

`cleanupConnection` closes a socket's queues and deletes the map's entry by id.
Both would be wrong if the entry under the id belonged to a newer socket, or if a
`Write` that looked the socket up were still to send on its queue.

A socket's entry is made when the socket is, and only its own cleanup removes it:
an id that is taken is refused until then. So every socket is either entered
under its id with everything open, or was cleaned up, once. A `Write` keeps the
read lock from the lookup to the send, and the cleanup waits for it.
-/

namespace OcppGo.Proof

open OcppGo.Lib OcppGo.Ws

/-- The socket as `wsHandler` made it, but for the traffic. -/
structure OpenSocket (x : WebSocket) : Prop where
  outQueue : x.outQueue.closed = false
  closeC : x.closeC.closed = false
  cleanups : x.cleanups = 0
  notClosed : x.writePump ≠ .closed
  notQueueClosed : x.writePump ≠ .queueClosed

/-- `cleanupConnection` has run for the socket, once. -/
structure CleanedUp (x : WebSocket) : Prop where
  closed : x.writePump = .closed
  cleanups : x.cleanups = 1

/-- What holds of the map in every state. -/
structure Registry (s : Server) : Prop where
  running : s.crashed = false
  socket : ∀ k x, s.sockets[k]? = some x →
    OpenSocket x ∧ s.connections x.id = some k ∨ CleanedUp x
  forceCloseC : ∀ (k : Nat) (x : WebSocket), s.sockets[k]? = some x → x.forceCloseC.closed = false
  entry : ∀ id k, s.connections id = some k →
    ∃ x, s.sockets[k]? = some x ∧ x.id = id ∧ OpenSocket x
  sending : ∀ t k data, s.calls[t]? = some (.sending k data) →
    Goroutine.call t ∈ s.connMutex.readers ∧ ∃ x, s.sockets[k]? = some x ∧ OpenSocket x

section

variable {s s' : Server} {k : Nat} {x y : WebSocket}

theorem registry_start : Registry Server.start where
  running := rfl
  socket _ _ h := nomatch h
  forceCloseC _ _ h := nomatch h
  entry _ _ h := nomatch h
  sending _ _ _ h := nomatch h

theorem openSocket_new (id : String) : OpenSocket (.new id) where
  outQueue := rfl
  closeC := rfl
  cleanups := rfl
  notClosed := by simp [WebSocket.new]
  notQueueClosed := by simp [WebSocket.new]

/-- Whoever is not cleaned up is entered under its id. -/
theorem Registry.entered (h : Registry s) (hk : s.sockets[k]? = some x)
    (hx : x.writePump ≠ .closed) : OpenSocket x ∧ s.connections x.id = some k :=
  (h.socket k x hk).resolve_right fun hc => hx hc.closed

/-! ## Steps that leave the map alone -/

theorem setSocket_self (hk : s.sockets[k]? = some x) :
    (s.setSocket k y).sockets[k]? = some y :=
  List.getElem?_set_self (List.getElem?_eq_some_iff.mp hk).1

theorem setSocket_ne {j : Nat} (hj : j ≠ k) :
    (s.setSocket k y).sockets[j]? = s.sockets[j]? :=
  List.getElem?_set_ne (fun e => hj e.symm)

/-- An open socket is found again after a replacement that keeps it so. -/
theorem openSocket_setSocket {j : Nat} {z : WebSocket} (hk : s.sockets[k]? = some x)
    (hid : y.id = x.id) (hkeep : OpenSocket x → OpenSocket y) (hj : s.sockets[j]? = some z)
    (hz : OpenSocket z) :
    ∃ z', (s.setSocket k y).sockets[j]? = some z' ∧ z'.id = z.id ∧ OpenSocket z' := by
  by_cases hjk : j = k
  · subst hjk
    rw [hk] at hj
    cases hj
    exact ⟨y, setSocket_self hk, hid, hkeep hz⟩
  · exact ⟨z, by rw [setSocket_ne hjk]; exact hj, rfl, hz⟩

/-- A socket moves on without being closed. -/
theorem Registry.setSocket (h : Registry s) (hk : s.sockets[k]? = some x) (hid : y.id = x.id)
    (hkeep : OpenSocket x → OpenSocket y) (hdone : CleanedUp x → CleanedUp y)
    (hforce : y.forceCloseC.closed = false) : Registry (s.setSocket k y) where
  running := h.running
  socket j z hj := by
    rcases getElem?_replaced hj with ⟨rfl, rfl⟩ | ⟨_, hj⟩
    · rcases h.socket j x hk with ⟨hu, hc⟩ | hc
      · exact Or.inl ⟨hkeep hu, by rw [hid]; exact hc⟩
      · exact Or.inr (hdone hc)
    · exact h.socket j z hj
  forceCloseC j z hj := by
    rcases getElem?_replaced hj with ⟨rfl, rfl⟩ | ⟨_, hj⟩
    · exact hforce
    · exact h.forceCloseC j z hj
  entry id j hc := by
    obtain ⟨z, hj, hzid, hz⟩ := h.entry id j hc
    obtain ⟨z', hj', hid', hz'⟩ := openSocket_setSocket hk hid hkeep hj hz
    exact ⟨z', hj', hid'.trans hzid, hz'⟩
  sending t j data ht := by
    obtain ⟨hr, z, hj, hz⟩ := h.sending t j data ht
    obtain ⟨z', hj', _, hz'⟩ := openSocket_setSocket hk hid hkeep hj hz
    exact ⟨hr, z', hj', hz'⟩

/-- The writer moves on from a place before its cleanup. -/
theorem Registry.setWritePump {p : WritePump} (h : Registry s) (hk : s.sockets[k]? = some x)
    (hx : x.writePump ≠ .closed) (hp : p ≠ .closed) (hp' : p ≠ .queueClosed) :
    Registry (s.setSocket k { x with writePump := p }) :=
  h.setSocket hk rfl
    (fun hu =>
      { outQueue := hu.outQueue, closeC := hu.closeC, cleanups := hu.cleanups
        notClosed := hp, notQueueClosed := hp' })
    (fun hc => absurd hc.closed hx) (h.forceCloseC k x hk)

/-- Who reads is what matters of the lock. -/
theorem Registry.setMutex {m : RWMutex Goroutine} (h : Registry s)
    (hm : m.readers = s.connMutex.readers) : Registry { s with connMutex := m } where
  running := h.running
  socket := h.socket
  forceCloseC := h.forceCloseC
  entry := h.entry
  sending t j data ht := by
    obtain ⟨hr, hx⟩ := h.sending t j data ht
    exact ⟨by rw [hm]; exact hr, hx⟩

/-- One call more, at its start. -/
theorem Registry.newCall {c : Call} (h : Registry s) (hc : ∀ j data, c ≠ .sending j data) :
    Registry { s with calls := s.calls ++ [c] } where
  running := h.running
  socket := h.socket
  forceCloseC := h.forceCloseC
  entry := h.entry
  sending t j data ht := by
    rcases getElem?_snoc ht with ht | ⟨_, rfl⟩
    · exact h.sending t j data ht
    · exact absurd rfl (hc j data)

/-- A call returns, its own read lock released or not. -/
theorem Registry.setCall {m : RWMutex Goroutine} {t : Nat} {r : Option String} (h : Registry s)
    (hm : ∀ u, u ≠ t → Goroutine.call u ∈ s.connMutex.readers → Goroutine.call u ∈ m.readers) :
    Registry ({ s with connMutex := m }.setCall t (.returned r)) where
  running := h.running
  socket := h.socket
  forceCloseC := h.forceCloseC
  entry := h.entry
  sending u j data hu := by
    rcases getElem?_replaced hu with ⟨_, hd⟩ | ⟨hut, hu⟩
    · exact absurd hd (by simp)
    · obtain ⟨hr, hx⟩ := h.sending u j data hu
      exact ⟨hm u hut hr, hx⟩

/-- `Write` has found its socket, and keeps the read lock. -/
theorem Registry.lookup {t : Nat} {id : String} {data : List UInt8} (h : Registry s)
    (hc : s.connections id = some k) :
    Registry ({ s with
      connMutex := { s.connMutex with
        readers := .call t :: s.connMutex.readers } }.setCall t (.sending k data)) where
  running := h.running
  socket := h.socket
  forceCloseC := h.forceCloseC
  entry := h.entry
  sending u j data' hu := by
    rcases getElem?_replaced hu with ⟨rfl, hd⟩ | ⟨_, hu⟩
    · cases hd
      obtain ⟨x, hk, _, hx⟩ := h.entry id k hc
      exact ⟨List.mem_cons_self, x, hk, hx⟩
    · obtain ⟨hr, hx⟩ := h.sending u j data' hu
      exact ⟨List.mem_cons_of_mem _ hr, hx⟩

/-! ## Steps that change the map -/

/-- An id that is free gets the new socket. -/
theorem Registry.enter {id : String} (h : Registry s) (hfree : s.connections id = none) :
    Registry { s with
      connections := Function.update s.connections id (some s.sockets.length)
      sockets := s.sockets ++ [WebSocket.new id] } where
  running := h.running
  socket j z hj := by
    rcases getElem?_snoc hj with hj | ⟨rfl, rfl⟩
    · rcases h.socket j z hj with ⟨hu, hc⟩ | hc
      · have hne : z.id ≠ id := fun e => by
          rw [e, hfree] at hc
          exact absurd hc (by simp)
        exact Or.inl ⟨hu, by rw [← hc]; exact Function.update_of_ne hne _ _⟩
      · exact Or.inr hc
    · exact Or.inl ⟨openSocket_new id, Function.update_self _ _ _⟩
  forceCloseC j z hj := by
    rcases getElem?_snoc hj with hj | ⟨_, rfl⟩
    · exact h.forceCloseC j z hj
    · rfl
  entry id' j hc := by
    by_cases hid : id' = id
    · subst hid
      have hj : j = s.sockets.length := by simpa using hc.symm
      subst hj
      exact ⟨.new id', List.getElem?_concat_length, rfl, openSocket_new id'⟩
    · simp only [Function.update_of_ne hid] at hc
      obtain ⟨z, hj, hzid, hz⟩ := h.entry id' j hc
      exact ⟨z, (List.getElem?_append_left (List.getElem?_eq_some_iff.mp hj).1).trans hj, hzid, hz⟩
  sending t j data ht := by
    obtain ⟨hr, z, hj, hz⟩ := h.sending t j data ht
    exact ⟨hr, z, (List.getElem?_append_left (List.getElem?_eq_some_iff.mp hj).1).trans hj, hz⟩

/-- The socket after its cleanup. -/
def cleanedUp (x : WebSocket) : WebSocket :=
  { x with
    outQueue := { x.outQueue with closed := true }
    closeC := { x.closeC with closed := true }
    writePump := .closed
    cleanups := x.cleanups + 1 }

/-- Neither `close` of a cleanup panics. -/
theorem cleanupConnection_eq (hx : OpenSocket x) :
    s.cleanupConnection k x =
      { s with
        connections := Function.update s.connections x.id none
        connMutex := s.connMutex.unlock }.setSocket k (cleanedUp x) := by
  simp only [Server.cleanupConnection, Chan.close_open hx.outQueue, Chan.close_open hx.closeC]
  rfl

/-- The cleanup of an entered socket removes its entry, and nobody is about to send on it. -/
theorem Registry.cleanupConnection {g : Goroutine} (h : Registry s)
    (hk : s.sockets[k]? = some x) (hx : x.writePump ≠ .closed) (hlock : s.connMutex.Holds g) :
    Registry (s.cleanupConnection k x) := by
  obtain ⟨hu, hown⟩ := h.entered hk hx
  rw [cleanupConnection_eq hu]
  have hclean : CleanedUp (cleanedUp x) := ⟨rfl, by rw [cleanedUp, hu.cleanups]⟩
  constructor
  case running => exact h.running
  case socket =>
    intro j z hj
    rcases getElem?_replaced hj with ⟨rfl, rfl⟩ | ⟨hjk, hj⟩
    · exact Or.inr hclean
    · rcases h.socket j z hj with ⟨hz, hc⟩ | hc
      · -- another socket's entry is under another id
        have hne : z.id ≠ x.id := fun e => by
          rw [e, hown] at hc
          exact hjk (Option.some.inj hc).symm
        exact Or.inl ⟨hz, by rw [← hc]; exact Function.update_of_ne hne _ _⟩
      · exact Or.inr hc
  case forceCloseC =>
    intro j z hj
    rcases getElem?_replaced hj with ⟨rfl, rfl⟩ | ⟨_, hj⟩
    · exact h.forceCloseC j x hk
    · exact h.forceCloseC j z hj
  case entry =>
    intro id j hc
    by_cases hid : id = x.id
    · subst hid
      exact absurd hc (by simp [Server.setSocket])
    · have hc₀ : s.connections id = some j := by
        rw [← hc]
        exact (Function.update_of_ne hid _ _).symm
      obtain ⟨z, hj, hzid, hz⟩ := h.entry id j hc₀
      have hjk : j ≠ k := fun e => by
        rw [e, hk] at hj
        cases hj
        exact hid hzid.symm
      exact ⟨z, by rw [setSocket_ne hjk]; exact hj, hzid, hz⟩
  case sending =>
    intro t j data ht
    exact absurd (h.sending t j data ht).1 hlock.not_mem

/-! ## All steps -/

theorem Registry.callStep {t : Nat} {c : Call} (h : Registry s) (ht : s.calls[t]? = some c)
    (hs : s.callStep t c = some s') : Registry s' := by
  cases c with
  | accepting id =>
      simp only [Server.callStep] at hs
      split at hs
      · cases hs
        unfold Server.register
        split
        · exact h.setCall fun _ _ hr => hr
        · rename_i hfree
          exact (h.enter hfree).setCall fun _ _ hr => hr
      · exact absurd hs (by simp)
  | writing id data =>
      simp only [Server.callStep, Option.map_eq_some_iff] at hs
      obtain ⟨m, hm, rfl⟩ := hs
      obtain ⟨_, rfl⟩ := RWMutex.rlock_eq hm
      cases hc : s.connections id with
      | none => exact h.setCall fun _ _ hr => hr
      | some k => exact h.lookup hc
  | sending k data =>
      obtain ⟨_, x, hk, hx⟩ := h.sending t k data ht
      simp only [Server.callStep, hk, Option.bind_some] at hs
      rcases Chan.send_open hx.outQueue data with hsend | ⟨outQueue, hsend, hopen⟩
      · rw [hsend] at hs
        exact absurd hs (by simp)
      · rw [hsend] at hs
        cases hs
        have hset : Registry (s.setSocket k { x with outQueue := outQueue }) :=
          h.setSocket hk rfl
            (fun hu =>
              { outQueue := hopen, closeC := hu.closeC, cleanups := hu.cleanups
                notClosed := hu.notClosed, notQueueClosed := hu.notQueueClosed })
            (fun hc => absurd hc.closed hx.notClosed) (h.forceCloseC k x hk)
        exact hset.setCall fun u hut hr => RWMutex.mem_readers_runlock hr (by simpa using hut)
  | returned r => exact absurd hs (by simp [Server.callStep])

theorem Registry.pumpStep {ev : Server.Event} (h : Registry s) (hk : s.sockets[k]? = some x)
    (hs : s.pumpStep k ev x = some s') : Registry s' := by
  unfold Server.pumpStep at hs
  split at hs
  · -- data
    rename_i hpc
    have hx : x.writePump ≠ .closed := by simp [hpc]
    have hu : OpenSocket x := (h.entered hk hx).1
    rcases Chan.recv_open hu.outQueue with hrecv | ⟨data, outQueue, hrecv, hopen⟩
    · rw [hrecv] at hs
      exact absurd hs (by simp)
    · rw [hrecv] at hs
      cases hs
      exact h.setSocket hk rfl
        (fun hu =>
          { outQueue := hopen, closeC := hu.closeC, cleanups := hu.cleanups
            notClosed := by simp, notQueueClosed := by simp })
        (fun hc => absurd hc.closed hx) (h.forceCloseC k x hk)
  · rename_i hpc
    cases hs
    exact h.setWritePump hk (by simp [hpc]) (by simp) (by simp)
  · rename_i hpc
    cases hs
    exact h.setWritePump hk (by simp [hpc]) (by simp) (by simp)
  · -- a forced close
    rename_i hpc
    have hx : x.writePump ≠ .closed := by simp [hpc]
    rcases Chan.recv_open (h.forceCloseC k x hk) with hrecv | ⟨err, forceCloseC, hrecv, hopen⟩
    · rw [hrecv] at hs
      exact absurd hs (by simp)
    · rw [hrecv] at hs
      cases hs
      exact h.setSocket hk rfl
        (fun hu =>
          { outQueue := hu.outQueue, closeC := hu.closeC, cleanups := hu.cleanups
            notClosed := by simp only; split <;> simp
            notQueueClosed := by simp only; split <;> simp })
        (fun hc => absurd hc.closed hx) hopen
  · rename_i hpc
    cases hs
    exact h.setWritePump hk (by simp [hpc]) (by split <;> simp) (by split <;> simp)
  · rename_i hpc
    split at hs
    · rename_i hlock
      cases hs
      exact h.cleanupConnection hk (by simp [hpc]) hlock
    · exact absurd hs (by simp)
  · exact absurd hs (by simp)

theorem Registry.readError {err : String} (h : Registry s) (hk : s.sockets[k]? = some x)
    (hs : s.readError k err x = some s') : Registry s' := by
  unfold Server.readError at hs
  split at hs
  · rcases Chan.send_open (h.forceCloseC k x hk) (some err) with hsend | ⟨c, hsend, hopen⟩
    · rw [hsend] at hs
      exact absurd hs (by simp)
    · rw [hsend] at hs
      cases hs
      exact h.setSocket hk rfl (fun hu => { hu with }) (fun hc => { hc with }) hopen
  · exact absurd hs (by simp)

theorem registry_step {a : Server.Action} (h : Registry s) (hs : s.act a = some s') :
    Registry s' := by
  unfold Server.act at hs
  rw [if_neg (by simp [h.running])] at hs
  cases a with
  | wsHandler id =>
      cases hs
      exact h.newCall fun _ _ e => by cases e
  | write id data =>
      cases hs
      exact h.newCall fun _ _ e => by cases e
  | lock g =>
      simp only at hs
      split at hs
      · obtain ⟨m, hm, rfl⟩ := Option.map_eq_some_iff.mp hs
        obtain ⟨_, rfl⟩ := RWMutex.announce_eq hm
        exact h.setMutex rfl
      · exact absurd hs (by simp)
  | call t =>
      obtain ⟨c, ht, hs⟩ := Option.bind_eq_some_iff.mp hs
      exact h.callStep ht hs
  | writePump k ev =>
      obtain ⟨x, hk, hs⟩ := Option.bind_eq_some_iff.mp hs
      exact h.pumpStep hk hs
  | readPump k err =>
      obtain ⟨x, hk, hs⟩ := Option.bind_eq_some_iff.mp hs
      exact h.readError hk hs

theorem registry_reachable (h : Reachable Server.machine s) : Registry s :=
  Reachable.invariant (P := Registry) (by rintro _ rfl; exact registry_start)
    (fun _ _ _ _ hP hs => registry_step hP hs) h

/-- Two sockets with one id are not open at once. -/
theorem Registry.entered_unique {j : Nat} (h : Registry s) (hk : s.sockets[k]? = some x)
    (hj : s.sockets[j]? = some y) (hx : x.writePump ≠ .closed) (hy : y.writePump ≠ .closed)
    (hid : x.id = y.id) : k = j := by
  have hck := (h.entered hk hx).2
  have hcj := (h.entered hj hy).2
  rw [hid, hcj] at hck
  exact (Option.some.inj hck).symm

/-- A second connection under an id is refused, and leaves everything else as it was. -/
theorem Registry.duplicate {t : Nat} {id : String} (h : Registry s)
    (ht : s.calls[t]? = some (.accepting id)) (hc : s.connections id = some k)
    (hs : s.act (.call t) = some s') :
    s'.connections = s.connections ∧ s'.sockets = s.sockets ∧
      s'.calls[t]? = some (.returned (some (Server.duplicateError id))) := by
  rw [Server.act, if_neg (by simp [h.running])] at hs
  simp only [ht, Option.bind_some, Server.callStep] at hs
  split at hs
  · cases hs
    simp only [Server.register, hc]
    exact ⟨rfl, rfl, List.getElem?_set_self (List.getElem?_eq_some_iff.mp ht).1⟩
  · exact absurd hs (by simp)

/-- A cleanup finds its socket entered, and removes that entry. -/
theorem Registry.own_entry (h : Registry s) (hs : s.act (.writePump k .cleanup) = some s') :
    ∃ x, s.sockets[k]? = some x ∧ x.cleanups = 0 ∧ s.connections x.id = some k ∧
      s'.connections = Function.update s.connections x.id none := by
  rw [Server.act, if_neg (by simp [h.running])] at hs
  obtain ⟨x, hk, hs⟩ := Option.bind_eq_some_iff.mp hs
  unfold Server.pumpStep at hs
  split at hs
  case h_6 hpc _ =>
    split at hs
    · cases hs
      obtain ⟨hu, hown⟩ := h.entered hk (by simp [hpc])
      rw [cleanupConnection_eq hu]
      exact ⟨x, hk, hu.cleanups, hown, rfl⟩
    · exact absurd hs (by simp)
  all_goals simp_all

/--
**The map holds the open sockets.** In every state the socket under an id carries
it and was not cleaned up; an id has one socket that is not cleaned up at
most; and no `Write` is about to send on a closed queue. A duplicate is refused
without a change of the map, and a cleanup, of which each socket sees one at most,
removes the socket's own entry and nothing else.
-/
theorem map_holds_open_sockets (h : Reachable Server.machine s) :
    s.crashed = false ∧
    (∀ id k, s.connections id = some k → ∃ x, s.sockets[k]? = some x ∧ x.id = id ∧
      x.outQueue.closed = false ∧ x.closeC.closed = false ∧ x.cleanups = 0) ∧
    (∀ (k j : Nat) (x y : WebSocket), s.sockets[k]? = some x → s.sockets[j]? = some y →
      x.cleanups = 0 → y.cleanups = 0 → x.id = y.id → k = j) ∧
    (∀ (k : Nat) (x : WebSocket), s.sockets[k]? = some x →
      x.cleanups ≤ 1 ∧ x.writePump ≠ .queueClosed) ∧
    (∀ (t k : Nat) (data : List UInt8), s.calls[t]? = some (.sending k data) →
      ∃ x, s.sockets[k]? = some x ∧ x.outQueue.closed = false) ∧
    (∀ (t : Nat) (id : String) (s' : Server), s.calls[t]? = some (.accepting id) →
      s.connections id ≠ none → s.act (.call t) = some s' →
      s'.connections = s.connections ∧ s'.sockets = s.sockets ∧
        s'.calls[t]? = some (.returned (some (Server.duplicateError id)))) ∧
    (∀ k s', s.act (.writePump k .cleanup) = some s' →
      ∃ x, s.sockets[k]? = some x ∧ x.cleanups = 0 ∧ s.connections x.id = some k ∧
        s'.connections = Function.update s.connections x.id none) := by
  have hreg : Registry s := registry_reachable h
  have hfresh : ∀ (k : Nat) (x : WebSocket), s.sockets[k]? = some x → x.cleanups = 0 →
      x.writePump ≠ .closed := by
    intro k x hk h0 hclosed
    rcases hreg.socket k x hk with ⟨hu, _⟩ | hc
    · exact hu.notClosed hclosed
    · exact absurd (h0.symm.trans hc.cleanups) (by decide)
  refine ⟨hreg.running, ?_, ?_, ?_, ?_, ?_, ?_⟩
  · intro id k hc
    obtain ⟨x, hk, hid, hx⟩ := hreg.entry id k hc
    exact ⟨x, hk, hid, hx.outQueue, hx.closeC, hx.cleanups⟩
  · intro k j x y hk hj hx hy hid
    exact hreg.entered_unique hk hj (hfresh k x hk hx) (hfresh j y hj hy) hid
  · intro k x hk
    rcases hreg.socket k x hk with ⟨hu, _⟩ | hc
    · exact ⟨by rw [hu.cleanups]; exact Nat.zero_le 1, hu.notQueueClosed⟩
    · exact ⟨Nat.le_of_eq hc.cleanups, by simp [hc.closed]⟩
  · intro t k data ht
    obtain ⟨_, x, hk, hx⟩ := hreg.sending t k data ht
    exact ⟨x, hk, hx.outQueue⟩
  · intro t id s' ht htaken hs
    obtain ⟨k, hc⟩ := Option.ne_none_iff_exists'.mp htaken
    exact hreg.duplicate ht hc hs
  · intro k s' hs
    exact hreg.own_entry hs

end

/--
A charge point connects, a duplicate of it is refused, and its connection breaks
while a `Write` waits at its queue. The cleanup comes after that send. The charge
point connects again, and a `Write` finds its new socket.
-/
def reconnecting : List Server.Action :=
  [.wsHandler "CS1", .lock (.call 0), .call 0, .wsHandler "CS1", .lock (.call 1), .call 1,
    .write "CS1" [1], .call 2, .readPump 0 "EOF", .writePump 0 .forceClose,
    .lock (.writePump 0), .call 2, .writePump 0 .cleanup,
    .wsHandler "CS1", .lock (.call 3), .call 3, .write "CS1" [2], .call 4]

theorem reconnected_socket_is_open :
    ∃ s, Server.machine.run .start reconnecting = some s ∧ s.connections "CS1" = some 1 ∧
      s.calls[1]? = some (.returned (some (Server.duplicateError "CS1"))) ∧
      s.calls[4]? = some (.sending 1 [2]) ∧
      (∃ x, s.sockets[0]? = some x ∧ x.cleanups = 1) ∧
      ∃ x, s.sockets[1]? = some x ∧ x.outQueue.closed = false := by
  have hrun : ∃ s, Server.machine.run .start reconnecting = some s ∧
      s.connections "CS1" = some 1 ∧
      s.calls[1]? = some (.returned (some (Server.duplicateError "CS1"))) ∧
      s.calls[4]? = some (.sending 1 [2]) ∧ (∃ x, s.sockets[0]? = some x ∧ x.cleanups = 1) :=
    ⟨_, rfl, rfl, rfl, rfl, _, rfl, rfl⟩
  obtain ⟨s, hs, hc, hdup, hcall, hold⟩ := hrun
  have hreach : Reachable Server.machine s := Reachable.run (.init rfl) _ hs
  obtain ⟨_, _, _, _, hsending, _, _⟩ := map_holds_open_sockets hreach
  exact ⟨s, hs, hc, hdup, hcall, hold, hsending 4 1 [2] hcall⟩

end OcppGo.Proof
