import OcppGo.Proof.SocketRegistry
import OcppGo.Ws.ServerTraffic

/-!
# What becomes of written messages

`Write` returns nil when it has put the data into the queue of a socket, long before
the data is written to a connection. A connection that ends takes with it what its
queue holds and what its writer was writing.

Each socket has a queue of its own and one writer, which takes a message, writes it,
and only then takes the next. So a connection is given the messages queued for it, in
that order, from the first to some message: two at most are lost, because the queue
has room for one and the writer holds one. And because the lookup and the send happen
under one read lock, a message never ends up with another client.
-/

namespace OcppGo.Proof

open OcppGo.Lib OcppGo.Ws

/-! ## What a step does -/

/-- The parts of the server the record is about, and the record. -/
structure TrafficView where
  sockets : List WebSocket
  calls : List Call
  arguments : List (Option (String × List UInt8))
  queued : List Queued
  lines : Nat → Conveyor (List UInt8)

def trafficView (t : ServerTraffic) : TrafficView where
  sockets := t.server.sockets
  calls := t.server.calls
  arguments := t.arguments
  queued := t.queued
  lines := t.lines

/-- The first operation of a call, and what it was asked for. -/
inductive Entry : Call → Option (String × List UInt8) → Prop where
  | accepting (id : String) : Entry (.accepting id) none
  | writing (id : String) (data : List UInt8) : Entry (.writing id data) (some (id, data))

/-- A step, as far as the record is concerned. -/
inductive TrafficMove (v : TrafficView) : TrafficView → Prop where
  | rest : TrafficMove v v
  | call {c : Call} {arg : Option (String × List UInt8)} : Entry c arg →
      TrafficMove v { v with calls := v.calls ++ [c], arguments := v.arguments ++ [arg] }
  | enter {n : Nat} {id : String} : v.calls[n]? = some (.accepting id) →
      TrafficMove v
        { v with sockets := v.sockets ++ [.new id], calls := v.calls.set n (.returned none) }
  | refuse {n : Nat} {c : Call} {arg : Option (String × List UInt8)} {err : String} :
      Entry c arg → v.calls[n]? = some c →
      TrafficMove v { v with calls := v.calls.set n (.returned (some err)) }
  | find {n k : Nat} {data : List UInt8} {x : WebSocket} :
      v.calls[n]? = some (.writing x.id data) → v.sockets[k]? = some x →
      TrafficMove v { v with calls := v.calls.set n (.sending k data) }
  | send {n k : Nat} {data : List UInt8} {x : WebSocket} {q : Chan (List UInt8)} :
      v.calls[n]? = some (.sending k data) → v.sockets[k]? = some x →
      x.outQueue.send data = .sent q →
      TrafficMove v
        { v with
          sockets := v.sockets.set k { x with outQueue := q }
          calls := v.calls.set n (.returned none)
          queued := v.queued ++ [{ call := n, socket := k, data := data }] }
  | take {k : Nat} {data : List UInt8} {x : WebSocket} {q : Chan (List UInt8)} :
      v.sockets[k]? = some x → x.writePump = .select → x.outQueue.recv = .value data q →
      TrafficMove v
        { v with
          sockets := v.sockets.set k { x with outQueue := q, writePump := .writing }
          lines := Function.update v.lines k ((v.lines k).take data) }
  | deliver {k : Nat} {x : WebSocket} : v.sockets[k]? = some x →
      TrafficMove v
        { v with
          sockets := v.sockets.set k { x with writePump := .select }
          lines := Function.update v.lines k (v.lines k).deliver }
  /-- The socket moves on, and its queue is closed at most. -/
  | move {k : Nat} {x y : WebSocket} : v.sockets[k]? = some x → y.id = x.id →
      y.outQueue.items = x.outQueue.items → y.outQueue.capacity = x.outQueue.capacity →
      (y.writePump = .select → x.writePump = .select) →
      TrafficMove v { v with sockets := v.sockets.set k y }

section

variable {t t' : ServerTraffic} {s' : Server} {n k : Nat} {x : WebSocket}

/-- Only a send is recorded. -/
theorem noteCall_eq {c : Call} (hn : t.server.calls[n]? = some c)
    (hc : ∀ k data, c ≠ .sending k data) : t.noteCall n = t := by
  unfold ServerTraffic.noteCall
  rw [hn]
  split
  · rename_i k data hsome
    exact absurd (Option.some.inj hsome) (hc k data)
  · rfl

theorem callStep_trafficMove {c : Call} (h : Registry t.server)
    (hn : t.server.calls[n]? = some c) (hs : t.server.callStep n c = some s') :
    TrafficMove (trafficView t) (trafficView { t.noteCall n with server := s' }) := by
  cases c with
  | accepting id =>
      rw [noteCall_eq hn fun _ _ e => by cases e]
      simp only [Server.callStep] at hs
      split at hs
      · cases hs
        unfold Server.register
        split
        · exact .refuse (.accepting id) hn
        · exact .enter hn
      · exact absurd hs (by simp)
  | writing id data =>
      rw [noteCall_eq hn fun _ _ e => by cases e]
      simp only [Server.callStep, Option.map_eq_some_iff] at hs
      obtain ⟨m, _, rfl⟩ := hs
      cases hc : t.server.connections id with
      | none => exact .refuse (.writing id data) hn
      | some k =>
          obtain ⟨x, hk, rfl, _⟩ := h.entry id k hc
          exact .find hn hk
  | sending k data =>
      obtain ⟨_, x, hk, hx⟩ := h.sending n k data hn
      simp only [Server.callStep, hk, Option.bind_some] at hs
      rcases Chan.send_open hx.outQueue data with hsend | ⟨q, hsend, _⟩
      · rw [hsend] at hs
        exact absurd hs (by simp)
      · rw [hsend] at hs
        cases hs
        simp only [ServerTraffic.noteCall, hn, hk, hsend]
        exact .send hn hk hsend
  | returned r => exact absurd hs (by simp [Server.callStep])

theorem pumpStep_trafficMove {ev : Server.Event} (h : Registry t.server)
    (hk : t.server.sockets[k]? = some x) (hs : t.server.pumpStep k ev x = some s') :
    TrafficMove (trafficView t) (trafficView { t.note (.writePump k ev) with server := s' }) := by
  unfold Server.pumpStep at hs
  split at hs
  · -- data
    rename_i hpc
    have hu : OpenSocket x := (h.entered hk (by simp [hpc])).1
    rcases Chan.recv_open hu.outQueue with hrecv | ⟨data, q, hrecv, _⟩
    · rw [hrecv] at hs
      exact absurd hs (by simp)
    · rw [hrecv] at hs
      cases hs
      simp only [ServerTraffic.note, ServerTraffic.noteTaken, hk, hrecv]
      exact .take hk hpc hrecv
  · cases hs
    exact .move hk rfl rfl rfl (by simp)
  · cases hs
    exact .move hk rfl rfl rfl (by simp)
  · -- a forced close
    rename_i hpc
    rcases Chan.recv_open (h.forceCloseC k x hk) with hrecv | ⟨err, forceCloseC, hrecv, _⟩
    · rw [hrecv] at hs
      exact absurd hs (by simp)
    · rw [hrecv] at hs
      cases hs
      exact .move hk rfl rfl rfl (fun _ => hpc)
  · rename_i failed _
    cases hs
    cases failed with
    | false => exact .deliver hk
    | true => exact .move hk rfl rfl rfl (by simp)
  · rename_i hpc
    split at hs
    · cases hs
      have hu : OpenSocket x := (h.entered hk (by simp [hpc])).1
      rw [cleanupConnection_eq hu]
      exact .move hk rfl rfl rfl (by simp [cleanedUp])
    · exact absurd hs (by simp)
  · exact absurd hs (by simp)

theorem readError_trafficMove {err : String} (h : Registry t.server)
    (hk : t.server.sockets[k]? = some x) (hs : t.server.readError k err x = some s') :
    TrafficMove (trafficView t) (trafficView { t with server := s' }) := by
  unfold Server.readError at hs
  split at hs
  · rcases Chan.send_open (h.forceCloseC k x hk) (some err) with hsend | ⟨c, hsend, _⟩
    · rw [hsend] at hs
      exact absurd hs (by simp)
    · rw [hsend] at hs
      cases hs
      exact .move hk rfl rfl rfl id
  · exact absurd hs (by simp)

theorem act_trafficMove {a : Server.Action} (h : Registry t.server) (hact : t.act a = some t') :
    TrafficMove (trafficView t) (trafficView t') := by
  obtain ⟨s', hs, rfl⟩ := Option.map_eq_some_iff.mp hact
  unfold Server.act at hs
  rw [if_neg (by simp [h.running])] at hs
  cases a with
  | wsHandler id =>
      cases hs
      exact .call (.accepting id)
  | write id data =>
      cases hs
      exact .call (.writing id data)
  | lock g =>
      simp only at hs
      split at hs
      · obtain ⟨m, _, rfl⟩ := Option.map_eq_some_iff.mp hs
        exact .rest
      · exact absurd hs (by simp)
  | call n =>
      obtain ⟨c, hn, hs⟩ := Option.bind_eq_some_iff.mp hs
      exact callStep_trafficMove h hn hs
  | writePump k ev =>
      obtain ⟨x, hk, hs⟩ := Option.bind_eq_some_iff.mp hs
      exact pumpStep_trafficMove h hk hs
  | readPump k err =>
      obtain ⟨x, hk, hs⟩ := Option.bind_eq_some_iff.mp hs
      exact readError_trafficMove h hk hs

end

/-! ## Every message is accounted for -/

def outQueues (sockets : List WebSocket) : List (Chan (List UInt8)) :=
  sockets.map WebSocket.outQueue

/-- The queues and the writers behind them. -/
structure LinesAccounted (v : TrafficView) : Prop where
  lines : Conveyors 1 (outQueues v.sockets) v.lines (dataFor v.queued)
  idle : ∀ (k : Nat) (x : WebSocket), v.sockets[k]? = some x → x.writePump = .select →
    (v.lines k).carrying = none

section

variable {v v' : TrafficView} {k n : Nat} {x y : WebSocket} {queued : List Queued}

theorem dataFor_snoc_self {data : List UInt8} :
    dataFor (queued ++ [{ call := n, socket := k, data := data }]) k
      = dataFor queued k ++ [data] := by
  simp [dataFor, List.filter_append]

theorem dataFor_snoc_ne {m : Queued} (hk : m.socket ≠ k) :
    dataFor (queued ++ [m]) k = dataFor queued k := by
  simp [dataFor, List.filter_append, hk]

theorem outQueues_get {sockets : List WebSocket} (hk : sockets[k]? = some x) :
    (outQueues sockets)[k]? = some x.outQueue := by
  rw [outQueues, List.getElem?_map, hk]
  rfl

theorem outQueues_set {sockets : List WebSocket} :
    outQueues (sockets.set k y) = (outQueues sockets).set k y.outQueue := List.map_set

/-- The writers after one of them moved. -/
theorem LinesAccounted.idle_set (h : LinesAccounted v) {lines : Nat → Conveyor (List UInt8)}
    (hlines : ∀ j, j ≠ k → lines j = v.lines j)
    (hidle : y.writePump = .select → (lines k).carrying = none) (j : Nat) (z : WebSocket)
    (hj : (v.sockets.set k y)[j]? = some z) (hz : z.writePump = .select) :
    (lines j).carrying = none := by
  rcases getElem?_replaced hj with ⟨rfl, rfl⟩ | ⟨hjk, hj⟩
  · exact hidle hz
  · rw [hlines j hjk]
    exact h.idle j z hj hz

theorem linesAccounted_start : LinesAccounted (trafficView .start) where
  lines := Conveyors.none_yet
  idle _ _ hk := nomatch hk

theorem linesAccounted_move (h : LinesAccounted v) (hm : TrafficMove v v') :
    LinesAccounted v' := by
  cases hm with
  | rest => exact h
  | call _ => exact ⟨h.lines, h.idle⟩
  | refuse _ _ => exact ⟨h.lines, h.idle⟩
  | find _ _ => exact ⟨h.lines, h.idle⟩
  | enter _ =>
      constructor
      case lines =>
        have hqueues : ∀ id,
            outQueues (v.sockets ++ [.new id]) = outQueues v.sockets ++ [.make 1] := by
          intro id
          rw [outQueues, List.map_append]
          rfl
        simp only [hqueues]
        exact h.lines.enter
      case idle =>
        intro j z hj hz
        rcases getElem?_snoc hj with hj | ⟨rfl, rfl⟩
        · exact h.idle j z hj hz
        · -- its number was not used before
          have hunused := h.lines.unused v.sockets.length (by rw [outQueues, List.length_map])
          change (v.lines v.sockets.length).carrying = none
          rw [hunused.1]
          rfl
  | send _ hk hsend =>
      constructor
      case lines =>
        rw [outQueues_set]
        exact h.lines.send (outQueues_get hk) hsend
          (fun j hj => dataFor_snoc_ne fun e => hj e.symm) dataFor_snoc_self
      case idle => exact h.idle_set (fun _ _ => rfl) fun hx => h.idle _ _ hk hx
  | take hk hpc hrecv =>
      constructor
      case lines =>
        rw [outQueues_set]
        exact h.lines.take (outQueues_get hk) (h.idle _ _ hk hpc) hrecv
      case idle => exact h.idle_set (fun j hj => Function.update_of_ne hj _ _) (by simp)
  | deliver hk =>
      constructor
      case lines =>
        rw [outQueues_set]
        have hline := h.lines.keep (outQueues_get hk) rfl rfl
        exact hline.deliver (List.getElem?_set_self
          (List.getElem?_eq_some_iff.mp (outQueues_get hk)).1)
      case idle =>
        refine h.idle_set (fun j hj => Function.update_of_ne hj _ _) fun _ => ?_
        simp only [Function.update_self, Conveyor.deliver]
  | move hk _ hitems hcapacity hpc =>
      constructor
      case lines =>
        rw [outQueues_set]
        exact h.lines.keep (outQueues_get hk) hitems hcapacity
      case idle => exact h.idle_set (fun _ _ => rfl) fun hy => h.idle _ _ hk (hpc hy)

end

/-! ## Every message goes where it was addressed -/

/-- Sockets stay where they are, under their ids. -/
def KeepsIds (sockets sockets' : List WebSocket) : Prop :=
  ∀ (k : Nat) (x : WebSocket), sockets[k]? = some x → ∃ x', sockets'[k]? = some x' ∧ x'.id = x.id

/-- The call was one of `Write`, to the client of this socket and with this data. -/
def Addressed (v : TrafficView) (m : Queued) : Prop :=
  ∃ x, v.sockets[m.socket]? = some x ∧ v.arguments[m.call]? = some (some (x.id, m.data))

/-- What a call that is under way was asked for. -/
def Asks (v : TrafficView) (n : Nat) : Call → Prop
  | .accepting _ => v.arguments[n]? = some none
  | .writing id data => v.arguments[n]? = some (some (id, data))
  | .sending k data => Addressed v { call := n, socket := k, data := data }
  | .returned _ => True

structure Traced (v : TrafficView) : Prop where
  length : v.arguments.length = v.calls.length
  calls : ∀ (n : Nat) (c : Call), v.calls[n]? = some c → Asks v n c
  /-- `Write` does not return nil without a send. -/
  sent : ∀ (n : Nat) (id : String) (data : List UInt8), v.arguments[n]? = some (some (id, data)) →
    v.calls[n]? = some (.returned none) → ∃ m ∈ v.queued, m.call = n
  queued : ∀ m ∈ v.queued, v.calls[m.call]? = some (.returned none) ∧ Addressed v m
  once : (v.queued.map Queued.call).Nodup

section

variable {v v' : TrafficView} {k n : Nat} {x y : WebSocket} {c c' : Call}

theorem keepsIds_refl (sockets : List WebSocket) : KeepsIds sockets sockets :=
  fun _ x hx => ⟨x, hx, rfl⟩

theorem keepsIds_set (hk : v.sockets[k]? = some x) (hid : y.id = x.id) :
    KeepsIds v.sockets (v.sockets.set k y) := by
  intro j z hj
  by_cases hjk : j = k
  · subst hjk
    cases hk.symm.trans hj
    exact ⟨y, List.getElem?_set_self (List.getElem?_eq_some_iff.mp hk).1, hid⟩
  · exact ⟨z, (List.getElem?_set_ne fun e => hjk e.symm).trans hj, rfl⟩

theorem Addressed.congr {m : Queued} (h : Addressed v m)
    (hsockets : KeepsIds v.sockets v'.sockets)
    (harguments : ∀ (n : Nat) arg, v.arguments[n]? = some arg → v'.arguments[n]? = some arg) :
    Addressed v' m := by
  obtain ⟨x, hx, harg⟩ := h
  obtain ⟨x', hx', hid⟩ := hsockets _ _ hx
  refine ⟨x', hx', ?_⟩
  rw [hid]
  exact harguments _ _ harg

/-- Arguments and ids stay. -/
theorem Asks.congr (h : Asks v n c) (hsockets : KeepsIds v.sockets v'.sockets)
    (harguments : ∀ (n : Nat) arg, v.arguments[n]? = some arg → v'.arguments[n]? = some arg) :
    Asks v' n c := by
  cases c with
  | accepting id => exact harguments _ _ h
  | writing id data => exact harguments _ _ h
  | sending k data => exact Addressed.congr h hsockets harguments
  | returned err => trivial

theorem Entry.asks {arg : Option (String × List UInt8)} (he : Entry c arg) :
    Asks v n c ↔ v.arguments[n]? = some arg := by
  cases he with
  | accepting id => exact Iff.rfl
  | writing id data => exact Iff.rfl

theorem traced_start : Traced (trafficView .start) where
  length := rfl
  calls _ _ hn := nomatch hn
  sent _ _ _ hn := nomatch hn
  queued _ hm := nomatch hm
  once := List.nodup_nil

/-- A send is of a call that returned by it. -/
theorem Traced.call_ne (h : Traced v) (hn : v.calls[n]? = some c) (hc : c ≠ .returned none) :
    ∀ m ∈ v.queued, m.call ≠ n := by
  rintro m hm rfl
  cases hn.symm.trans (h.queued m hm).1
  exact hc rfl

/-- One call moves on, and sends nothing. -/
theorem Traced.setCall (h : Traced v) (hn : v.calls[n]? = some c) (hc : c ≠ .returned none)
    (hasks : Asks v n c') (hreturned : c' = .returned none → v.arguments[n]? = some none) :
    Traced { v with calls := v.calls.set n c' } := by
  constructor
  case length => exact h.length.trans List.length_set.symm
  case calls =>
    intro u d hu
    rcases getElem?_replaced hu with ⟨rfl, rfl⟩ | ⟨_, hu⟩
    · exact hasks.congr (keepsIds_refl _) fun _ _ ha => ha
    · exact (h.calls u d hu).congr (keepsIds_refl _) fun _ _ ha => ha
  case sent =>
    intro u id data harg hu
    rcases getElem?_replaced hu with ⟨rfl, hret⟩ | ⟨_, hu⟩
    · exact absurd (harg.symm.trans (hreturned hret.symm)) (by simp)
    · exact h.sent u id data harg hu
  case queued =>
    intro m hm
    obtain ⟨hret, haddressed⟩ := h.queued m hm
    exact ⟨(List.getElem?_set_ne (h.call_ne hn hc m hm).symm).trans hret, haddressed⟩
  case once => exact h.once

/-- A socket is replaced by one of the same id, or a new one is entered. -/
theorem Traced.setSockets (h : Traced v) {sockets : List WebSocket}
    {lines : Nat → Conveyor (List UInt8)}
    (hsockets : KeepsIds v.sockets sockets) :
    Traced { v with sockets := sockets, lines := lines } where
  length := h.length
  calls u d hu := (h.calls u d hu).congr hsockets fun _ _ ha => ha
  sent := h.sent
  queued m hm := (h.queued m hm).imp_right fun ha => ha.congr hsockets fun _ _ ha => ha
  once := h.once

theorem Traced.call (h : Traced v) {arg : Option (String × List UInt8)} (he : Entry c arg) :
    Traced { v with calls := v.calls ++ [c], arguments := v.arguments ++ [arg] } := by
  have hold : ∀ (n : Nat) a, v.arguments[n]? = some a → (v.arguments ++ [arg])[n]? = some a :=
    fun _ _ ha => getElem?_snoc_left ha
  constructor
  case length =>
    simp only [List.length_append, List.length_singleton]
    rw [h.length]
  case calls =>
    intro u d hu
    rcases getElem?_snoc hu with hu | ⟨rfl, rfl⟩
    · exact (h.calls u d hu).congr (keepsIds_refl _) hold
    · refine he.asks.mpr ?_
      change (v.arguments ++ [arg])[v.calls.length]? = some arg
      rw [← h.length]
      exact List.getElem?_concat_length
  case sent =>
    intro u id data harg hu
    rcases getElem?_snoc hu with hu | ⟨_, hret⟩
    · rcases getElem?_snoc harg with harg | ⟨hlen, _⟩
      · exact h.sent u id data harg hu
      · have hlt := (List.getElem?_eq_some_iff.mp hu).1
        rw [← h.length] at hlt
        omega
    · -- it has just been called
      subst hret
      cases he
  case queued =>
    intro m hm
    exact (h.queued m hm).imp getElem?_snoc_left fun ha => ha.congr (keepsIds_refl _) hold
  case once => exact h.once

/-- The send of `Write` is recorded under its own call, which had none. -/
theorem Traced.send (h : Traced v) {data : List UInt8}
    (hn : v.calls[n]? = some (.sending k data)) :
    Traced
      { v with
        calls := v.calls.set n (.returned none)
        queued := v.queued ++ [{ call := n, socket := k, data := data }] } := by
  have hne := h.call_ne hn (by simp)
  constructor
  case length => exact h.length.trans List.length_set.symm
  case calls =>
    intro u d hu
    rcases getElem?_replaced hu with ⟨rfl, rfl⟩ | ⟨_, hu⟩
    · trivial
    · exact (h.calls u d hu).congr (keepsIds_refl _) fun _ _ ha => ha
  case sent =>
    intro u id d harg hu
    rcases getElem?_replaced hu with ⟨rfl, _⟩ | ⟨_, hu⟩
    · exact ⟨_, List.mem_append_right _ (List.mem_singleton_self _), rfl⟩
    · obtain ⟨m, hm, hcall⟩ := h.sent u id d harg hu
      exact ⟨m, List.mem_append_left _ hm, hcall⟩
  case queued =>
    intro m hm
    rcases List.mem_append.mp hm with hm | hm
    · exact (h.queued m hm).imp_left (List.getElem?_set_ne (hne m hm).symm).trans
    · obtain rfl := List.mem_singleton.mp hm
      exact ⟨List.getElem?_set_self (List.getElem?_eq_some_iff.mp hn).1, h.calls n _ hn⟩
  case once =>
    refine nodup_map_snoc h.once ?_
    intro hmem
    obtain ⟨m, hm, hcall⟩ := List.mem_map.mp hmem
    exact hne m hm hcall

theorem traced_move (h : Traced v) (hm : TrafficMove v v') : Traced v' := by
  cases hm with
  | rest => exact h
  | call he => exact h.call he
  | @enter n _ hn =>
      have hreturned : Asks v n (.returned none) := trivial
      exact (h.setCall hn (by simp) hreturned fun _ => h.calls _ _ hn).setSockets
        fun _ x hx => ⟨x, getElem?_snoc_left hx, rfl⟩
  | refuse he hn =>
      refine h.setCall hn ?_ trivial (by simp)
      rintro rfl
      cases he
  | find hn hk => exact h.setCall hn (by simp) ⟨_, hk, h.calls _ _ hn⟩ (by simp)
  | send hn hk _ => exact (h.send hn).setSockets (keepsIds_set hk rfl)
  | take hk _ _ => exact h.setSockets (keepsIds_set hk rfl)
  | deliver hk => exact h.setSockets (keepsIds_set hk rfl)
  | move hk hid _ _ _ => exact h.setSockets (keepsIds_set hk hid)

end

/-! ## The server as a transport -/

theorem traffic_registry {t : ServerTraffic} (h : Reachable ServerTraffic.machine t) :
    Registry t.server := by
  refine Reachable.invariant (P := fun t => Registry t.server) ?_ ?_ h
  · intro t ht
    rw [show t = ServerTraffic.start from ht]
    exact registry_start
  · intro t a t' _ hreg hact
    obtain ⟨s', hs, rfl⟩ := Option.map_eq_some_iff.mp hact
    exact registry_step hreg hs

theorem traffic_invariant {t : ServerTraffic} (h : Reachable ServerTraffic.machine t) :
    LinesAccounted (trafficView t) ∧ Traced (trafficView t) := by
  refine Reachable.invariant
    (P := fun t => LinesAccounted (trafficView t) ∧ Traced (trafficView t)) ?_ ?_ h
  · intro t ht
    rw [show t = ServerTraffic.start from ht]
    exact ⟨linesAccounted_start, traced_start⟩
  · intro t a t' hr hinv hact
    have hmove := act_trafficMove (traffic_registry hr) hact
    exact ⟨linesAccounted_move hinv.1 hmove, traced_move hinv.2 hmove⟩

/-- What the server does with the messages given to `Write`. -/
structure Transports (t : ServerTraffic) : Prop where
  /-- A connection gets what was queued for it, in order, from the first message on. -/
  inOrder : ∀ (k : Nat) (x : WebSocket), t.server.sockets[k]? = some x →
    (t.lines k).delivered <+: dataFor t.queued k
  /-- The last two are all that can be missing. -/
  lost : ∀ (k : Nat) (x : WebSocket), t.server.sockets[k]? = some x →
    (dataFor t.queued k).length ≤ (t.lines k).delivered.length + 2
  /-- While the writer waits for more, only what is in the queue is missing. -/
  waiting : ∀ (k : Nat) (x : WebSocket), t.server.sockets[k]? = some x → x.writePump = .select →
    (t.lines k).delivered ++ x.outQueue.items = dataFor t.queued k
  /-- What is queued was written to the client whose socket it is. -/
  addressed : ∀ m ∈ t.queued, ∃ x, t.server.sockets[m.socket]? = some x
    ∧ t.arguments[m.call]? = some (some (x.id, m.data))
  /-- `Write` returns nil if and only if it queued the data. -/
  accepted : ∀ (n : Nat) (id : String) (data : List UInt8),
    t.arguments[n]? = some (some (id, data)) →
      (t.server.calls[n]? = some (.returned none) ↔ ∃ m ∈ t.queued, m.call = n)
  /-- No call queues its data twice. -/
  once : (t.queued.map Queued.call).Nodup

theorem Traced.accepted_iff {v : TrafficView} (h : Traced v) {n : Nat} {id : String}
    {data : List UInt8} (harg : v.arguments[n]? = some (some (id, data))) :
    v.calls[n]? = some (.returned none) ↔ ∃ m ∈ v.queued, m.call = n := by
  constructor
  · exact h.sent n id data harg
  · rintro ⟨m, hm, rfl⟩
    exact (h.queued m hm).1

/-- **The server is an ordered transport to each client that loses two messages at most.** -/
theorem server_transports {t : ServerTraffic} (h : Reachable ServerTraffic.machine t) :
    Transports t := by
  obtain ⟨haccounted, htraced⟩ := traffic_invariant h
  constructor
  case inOrder =>
    intro k x hk
    exact (haccounted.lines.account k _ (outQueues_get hk)).in_order
  case lost =>
    intro k x hk
    have hqueue := outQueues_get hk
    exact (haccounted.lines.account k _ hqueue).length_le (haccounted.lines.fits k _ hqueue)
  case waiting =>
    intro k x hk hselect
    have haccount := haccounted.lines.account k _ (outQueues_get hk)
    unfold Conveyor.Accounts at haccount
    rw [haccounted.idle k x hk hselect] at haccount
    exact haccount
  case addressed => exact fun m hm => (htraced.queued m hm).2
  case accepted =>
    intro n id data harg
    exact htraced.accepted_iff harg
  case once => exact htraced.once

/-- A client connects, as call `n`. -/
def socketConnects (n : Nat) (id : String) : List Server.Action :=
  [.wsHandler id, .lock (.call n), .call n]

/-- `Write`, as call `n`, finds the socket and puts the data into its queue. -/
def socketWrites (n : Nat) (id : String) (data : List UInt8) : List Server.Action :=
  [.write id data, .call n, .call n]

/-- Two clients; the connection of the first breaks at its second message, and a third is queued. -/
def twoMessagesLost : List Server.Action :=
  socketConnects 0 "first" ++ socketConnects 1 "second"
    ++ socketWrites 2 "first" [1] ++ socketWrites 3 "second" [2]
    ++ [.writePump 0 .data, .writePump 0 (.wrote false)]
    ++ socketWrites 4 "first" [3]
    ++ [.writePump 0 .data, .writePump 0 (.wrote true)]
    ++ socketWrites 5 "first" [4]
    ++ [.writePump 1 .data, .writePump 1 (.wrote false)]

/-- All writes were accepted, and two messages to the first client are lost. -/
theorem two_messages_lost :
    ∃ t, ServerTraffic.machine.run .start twoMessagesLost = some t ∧ Transports t
      ∧ dataFor t.queued 0 = [[1], [3], [4]] ∧ (t.lines 0).delivered = [[1]]
      ∧ dataFor t.queued 1 = [[2]] ∧ (t.lines 1).delivered = [[2]] := by
  have hrun : ∃ t, ServerTraffic.machine.run .start twoMessagesLost = some t
      ∧ dataFor t.queued 0 = [[1], [3], [4]] ∧ (t.lines 0).delivered = [[1]]
      ∧ dataFor t.queued 1 = [[2]] ∧ (t.lines 1).delivered = [[2]] :=
    ⟨_, rfl, rfl, rfl, rfl, rfl⟩
  obtain ⟨t, ht, hrest⟩ := hrun
  have hr : Reachable ServerTraffic.machine t := Reachable.run (.init rfl) _ ht
  exact ⟨t, ht, server_transports hr, hrest⟩

end OcppGo.Proof
