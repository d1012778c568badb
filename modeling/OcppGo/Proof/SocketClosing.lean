import OcppGo.Proof.SocketRegistry

/-!
# A closing socket and the `Write` calls under the lock

`Write` waits for room in a socket's queue and keeps the read lock of `connMutex`
meanwhile. The queue has one place, and the goroutine that empties it is the one
that asks for the write lock when the connection ends. A second `Write` to a
socket that is about to close waits for ever, and everybody who needs the lock
waits with it.

As in the dispatcher, nobody waits as long as there is room for everyone inside:
the data in a closing socket's queue and the `Write` calls that are about to add
to it have to fit the queue.
-/

namespace OcppGo.Proof

open OcppGo.Lib OcppGo.Ws

/-- The call is about to send on the queue of socket `k`. -/
def sendsTo (k : Nat) : Call → Bool
  | .sending j _ => j == k
  | _ => false

/-- What the queue of socket `k` holds, and what is about to be added to it. -/
def load (s : Server) (k : Nat) (x : WebSocket) : Nat :=
  x.outQueue.items.length + s.calls.countP (sendsTo k)

/-- Everyone about to send on the queue of socket `k` will find room. -/
def RoomAt (s : Server) (k : Nat) : Prop :=
  ∀ x ∈ s.sockets[k]?, load s k x ≤ x.outQueue.capacity

/-- A `Write` that looks its socket up finds room for one more if the socket is closing. -/
def LookupFits (s : Server) : Call → Prop
  | .writing id _ =>
      ∀ k ∈ s.connections id, ∀ x ∈ s.sockets[k]?, x.writePump = .cleanup →
        load s k x < x.outQueue.capacity
  | _ => True

/--
A socket's writer goes to its cleanup only while there is room for everyone who is
about to send to the socket, and as long as it is there a `Write` looks the socket
up only if there is room for one more.
-/
def WritersFit (s : Server) : Server.Action → Prop
  | .writePump k .close | .writePump k .forceClose | .writePump k (.wrote true) => RoomAt s k
  | .call t => ∀ c ∈ s.calls[t]?, LookupFits s c
  | _ => True

instance (s : Server) (k : Nat) : Decidable (RoomAt s k) :=
  inferInstanceAs (Decidable (∀ x ∈ s.sockets[k]?, load s k x ≤ x.outQueue.capacity))

instance (s : Server) : DecidablePred (LookupFits s)
  | .writing id _ => inferInstanceAs (Decidable (∀ k ∈ s.connections id, ∀ x ∈ s.sockets[k]?,
      x.writePump = .cleanup → load s k x < x.outQueue.capacity))
  | .accepting _ | .sending _ _ | .returned _ => .isTrue trivial

instance (s : Server) : DecidablePred (WritersFit s)
  | .writePump k .close | .writePump k .forceClose | .writePump k (.wrote true) =>
      inferInstanceAs (Decidable (RoomAt s k))
  | .call t => inferInstanceAs (Decidable (∀ c ∈ s.calls[t]?, LookupFits s c))
  | .writePump _ .data | .writePump _ .ping | .writePump _ (.wrote false)
  | .writePump _ .cleanup => .isTrue trivial
  | .wsHandler _ | .write _ _ | .lock _ | .readPump _ _ => .isTrue trivial

/-- A `Write` with the read lock waits for a writer that waits for the lock. -/
def SocketFrozen (s : Server) : Prop :=
  ∃ (t k : Nat) (data : List UInt8) (x : WebSocket),
    s.calls[t]? = some (.sending k data) ∧ .call t ∈ s.connMutex.readers ∧
      s.sockets[k]? = some x ∧ x.outQueue.send data = .blocks ∧ x.writePump = .cleanup

/-- Whoever is about to send to a closing socket will find room. -/
def ClosingFits (s : Server) : Prop :=
  ∀ (k : Nat) (x : WebSocket), s.sockets[k]? = some x → x.writePump = .cleanup →
    load s k x ≤ x.outQueue.capacity

section

variable {s s' : Server} {k : Nat} {x y : WebSocket}

theorem closingFits_start : ClosingFits Server.start := by
  intro k x h
  exact absurd h (by simp [Server.start])

/-! ## Calls -/

/-- A call that was not about to send moves to another such place. -/
theorem ClosingFits.moveCall {t : Nat} {c c' : Call} (h : ClosingFits s)
    (ht : s.calls[t]? = some c) (hc : ∀ k, sendsTo k c = false) (hc' : ∀ k, sendsTo k c' = false) :
    ClosingFits (s.setCall t c') := by
  intro k x hk hx
  have hcount := countP_replaced (sendsTo k) ht c'
  rw [hc k, hc' k] at hcount
  have hold : load s k x ≤ x.outQueue.capacity := h k x hk hx
  unfold load at hold ⊢
  dsimp only [Server.setCall]
  omega

/-- `Write` has found its socket, where there is room. -/
theorem ClosingFits.lookup {t : Nat} {id : String} {data : List UInt8} (h : ClosingFits s)
    (ht : s.calls[t]? = some (.writing id data))
    (hroom : ∀ x, s.sockets[k]? = some x → x.writePump = .cleanup →
      load s k x < x.outQueue.capacity) :
    ClosingFits (s.setCall t (.sending k data)) := by
  intro j x hj hx
  have hcount := countP_replaced (sendsTo j) ht (.sending k data)
  have hold : load s j x ≤ x.outQueue.capacity := h j x hj hx
  by_cases hjk : k = j
  · subst hjk
    have hone := hroom x hj hx
    simp only [sendsTo, beq_self_eq_true, if_true] at hcount
    unfold load at hone ⊢
    dsimp only [Server.setCall]
    simp only [Bool.false_eq_true, if_false] at hcount
    omega
  · have hother : (k == j) = false := beq_false_of_ne hjk
    simp only [sendsTo, hother, Bool.false_eq_true, if_false] at hcount
    unfold load at hold ⊢
    dsimp only [Server.setCall]
    omega

/-- What a call added to the queue it is no longer about to add. -/
theorem ClosingFits.send {t : Nat} {data : List UInt8} {r : Option String} {q : Chan (List UInt8)}
    (h : ClosingFits s) (ht : s.calls[t]? = some (.sending k data)) (hk : s.sockets[k]? = some x)
    (hsend : x.outQueue.send data = .sent q) :
    ClosingFits ((s.setSocket k { x with outQueue := q }).setCall t (.returned r)) := by
  intro j z hj hz
  have hcount := countP_replaced (sendsTo j) ht (.returned r)
  rcases getElem?_replaced hj with ⟨rfl, rfl⟩ | ⟨hjk, hj⟩
  · have hold : load s j x ≤ x.outQueue.capacity := h j x hk hz
    obtain rfl := Chan.sent_eq hsend
    simp only [sendsTo, beq_self_eq_true, if_true, Bool.false_eq_true, if_false] at hcount
    unfold load at hold ⊢
    dsimp only [Server.setCall, Server.setSocket]
    rw [List.length_append, List.length_singleton]
    omega
  · have hold : load s j z ≤ z.outQueue.capacity := h j z hj hz
    have hother : (k == j) = false := beq_false_of_ne (fun e => hjk e.symm)
    simp only [sendsTo, hother, Bool.false_eq_true, if_false] at hcount
    unfold load at hold ⊢
    dsimp only [Server.setCall, Server.setSocket]
    omega

/-! ## Sockets -/

/-- A socket moves on, with no more in its queue; if it closes now, there is room. -/
theorem ClosingFits.setSocket (h : ClosingFits s) (hk : s.sockets[k]? = some x)
    (hcap : y.outQueue.capacity = x.outQueue.capacity)
    (hlen : y.outQueue.items.length ≤ x.outQueue.items.length)
    (hroom : y.writePump = .cleanup → x.writePump = .cleanup ∨ RoomAt s k) :
    ClosingFits (s.setSocket k y) := by
  intro j z hj hz
  rcases getElem?_replaced hj with ⟨rfl, rfl⟩ | ⟨_, hj⟩
  · have hold : load s j x ≤ x.outQueue.capacity :=
      (hroom hz).elim (h j x hk) (fun hr => hr x hk)
    unfold load at hold ⊢
    dsimp only [Server.setSocket]
    omega
  · exact h j z hj hz

/-- A socket that is not closing takes a place of its own. -/
theorem ClosingFits.newSocket (h : ClosingFits s) (hy : y.writePump ≠ .cleanup) :
    ClosingFits { s with sockets := s.sockets ++ [y] } := by
  intro j z hj hz
  rcases getElem?_snoc hj with hj | ⟨_, rfl⟩
  · exact h j z hj hz
  · exact absurd hz hy

/-! ## All steps -/

theorem ClosingFits.callStep {t : Nat} {c : Call} (h : ClosingFits s)
    (ht : s.calls[t]? = some c) (hok : WritersFit s (.call t))
    (hs : s.callStep t c = some s') : ClosingFits s' ∨ s'.crashed = true := by
  cases c with
  | accepting id =>
      simp only [Server.callStep] at hs
      split at hs
      · cases hs
        refine Or.inl ?_
        unfold Server.register
        split
        · exact h.moveCall ht (fun _ => rfl) (fun _ => rfl)
        · exact (h.newSocket (by simp [WebSocket.new])).moveCall ht (fun _ => rfl) (fun _ => rfl)
      · exact absurd hs (by simp)
  | writing id data =>
      simp only [Server.callStep, Option.map_eq_some_iff] at hs
      obtain ⟨m, hm, rfl⟩ := hs
      cases hc : s.connections id with
      | none => exact Or.inl (h.moveCall ht (fun _ => rfl) (fun _ => rfl))
      | some k => exact Or.inl (h.lookup ht (hok _ ht k hc))
  | sending k data =>
      obtain ⟨x, hk, hs⟩ := Option.bind_eq_some_iff.mp hs
      split at hs
      · exact absurd hs (by simp)
      · cases hs
        exact Or.inr rfl
      · rename_i q hsend
        cases hs
        exact Or.inl (h.send ht hk hsend)
  | returned r => exact absurd hs (by simp [Server.callStep])

theorem ClosingFits.pumpStep {ev : Server.Event} (h : ClosingFits s)
    (hk : s.sockets[k]? = some x) (hok : WritersFit s (.writePump k ev))
    (hs : s.pumpStep k ev x = some s') : ClosingFits s' ∨ s'.crashed = true := by
  unfold Server.pumpStep at hs
  split at hs
  · -- data leaves the queue
    split at hs
    · exact absurd hs (by simp)
    · cases hs
      exact Or.inl (h.setSocket hk rfl le_rfl (by simp))
    · rename_i data q hrecv
      cases hs
      obtain ⟨hitems, hq⟩ := Chan.value_eq hrecv
      have hcapacity : q.capacity = x.outQueue.capacity := by rw [hq]
      refine Or.inl (h.setSocket hk hcapacity ?_ (by simp))
      rw [hitems]
      exact Nat.le_succ _
  · cases hs
    exact Or.inl (h.setSocket hk rfl le_rfl (by simp))
  · cases hs
    exact Or.inl (h.setSocket hk rfl le_rfl (fun _ => Or.inr hok))
  · split at hs
    · exact absurd hs (by simp)
    · cases hs
      exact Or.inl (h.setSocket hk rfl le_rfl (fun _ => Or.inr hok))
    · cases hs
      exact Or.inl (h.setSocket hk rfl le_rfl (fun _ => Or.inr hok))
  · rename_i failed _
    cases hs
    cases failed with
    | true => exact Or.inl (h.setSocket hk rfl le_rfl (fun _ => Or.inr hok))
    | false => exact Or.inl (h.setSocket hk rfl le_rfl (by simp))
  · split at hs
    · cases hs
      unfold Server.cleanupConnection
      split
      · rename_i q _ hq _
        refine Or.inl ?_
        obtain ⟨_, rfl⟩ := Chan.close_eq hq
        have hset : ClosingFits { s with
            connections := Function.update s.connections x.id none
            connMutex := s.connMutex.unlock } := h
        exact hset.setSocket hk rfl le_rfl (by simp)
      · exact Or.inr rfl
    · exact absurd hs (by simp)
  · exact absurd hs (by simp)

theorem ClosingFits.readError {err : String} (h : ClosingFits s) (hk : s.sockets[k]? = some x)
    (hs : s.readError k err x = some s') : ClosingFits s' ∨ s'.crashed = true := by
  unfold Server.readError at hs
  split at hs
  · split at hs
    · exact absurd hs (by simp)
    · cases hs
      exact Or.inr rfl
    · cases hs
      exact Or.inl (h.setSocket hk rfl le_rfl (fun hz => Or.inl hz))
  · exact absurd hs (by simp)

theorem closingFits_step {a : Server.Action} (h : ClosingFits s) (hok : WritersFit s a)
    (hs : s.act a = some s') : ClosingFits s' ∨ s'.crashed = true := by
  have hcall : ∀ c : Call, (∀ k, sendsTo k c = false) →
      ClosingFits { s with calls := s.calls ++ [c] } := by
    intro c hc k x hk hx
    have hold := h k x hk hx
    unfold load at hold ⊢
    rw [List.countP_append, List.countP_singleton, hc k]
    exact hold
  unfold Server.act at hs
  split at hs
  · exact absurd hs (by simp)
  · cases a with
    | wsHandler id =>
        cases hs
        exact Or.inl (hcall _ fun _ => rfl)
    | write id data =>
        cases hs
        exact Or.inl (hcall _ fun _ => rfl)
    | lock g =>
        simp only at hs
        split at hs
        · obtain ⟨m, _, rfl⟩ := Option.map_eq_some_iff.mp hs
          exact Or.inl h
        · exact absurd hs (by simp)
    | call t =>
        obtain ⟨c, ht, hs⟩ := Option.bind_eq_some_iff.mp hs
        exact h.callStep ht hok hs
    | writePump k ev =>
        obtain ⟨x, hk, hs⟩ := Option.bind_eq_some_iff.mp hs
        exact h.pumpStep hk hok hs
    | readPump k err =>
        obtain ⟨x, hk, hs⟩ := Option.bind_eq_some_iff.mp hs
        exact h.readError hk hs

theorem closingFits_reachable (h : ReachableWhile Server.machine WritersFit s) :
    ClosingFits s := by
  refine ReachableWhile.invariant (P := ClosingFits) ?_ ?_ h
  · rintro _ rfl
    exact closingFits_start
  · intro s a s' hreach hP hok hs
    refine (closingFits_step hP hok hs).resolve_right (fun hcrash => ?_)
    have hrunning := (registry_step (registry_reachable hreach.reachable) hs).running
    rw [hrunning] at hcrash
    exact absurd hcrash (by simp)

/--
**A closing connection does not freeze the server**, as long as the `Write` calls
to it fit its queue.
-/
theorem closing_connection_never_freezes (h : ReachableWhile Server.machine WritersFit s) :
    ¬ SocketFrozen s := by
  rintro ⟨t, k, data, x, ht, _, hk, hfull, hx⟩
  have hroom := closingFits_reachable h k x hk hx
  have hcount : 0 < s.calls.countP (sendsTo k) :=
    List.countP_pos_iff.mpr ⟨_, List.mem_of_getElem? ht, by simp [sendsTo]⟩
  have hopen : x.outQueue.closed = false :=
    ((registry_reachable h.reachable).entered hk (by simp [hx])).1.outQueue
  unfold load at hroom
  have hless : x.outQueue.items.length < x.outQueue.capacity := by omega
  simp [Chan.send, hopen, hless] at hfull

end

/-- A `Write` waits at its queue while the connection breaks: there is room for it. -/
theorem write_to_closing_socket :
    ∃ s x, Server.machine.runWhile (fun s a => decide (WritersFit s a)) .start
        [.wsHandler "CS1", .lock (.call 0), .call 0, .write "CS1" [1], .call 1,
          .readPump 0 "EOF", .writePump 0 .forceClose, .lock (.writePump 0)] = some s ∧
      s.calls[1]? = some (.sending 0 [1]) ∧ s.sockets[0]? = some x ∧ x.writePump = .cleanup ∧
      ¬ SocketFrozen s := by
  have hrun : ∃ s x, Server.machine.runWhile (fun s a => decide (WritersFit s a)) .start
        [.wsHandler "CS1", .lock (.call 0), .call 0, .write "CS1" [1], .call 1,
          .readPump 0 "EOF", .writePump 0 .forceClose, .lock (.writePump 0)] = some s ∧
      s.calls[1]? = some (.sending 0 [1]) ∧ s.sockets[0]? = some x ∧ x.writePump = .cleanup :=
    ⟨_, _, rfl, rfl, rfl, rfl⟩
  obtain ⟨s, x, hs, hcall, hsocket, hpump⟩ := hrun
  exact ⟨s, x, hs, hcall, hsocket, hpump, closing_connection_never_freezes
    (ReachableWhile.runWhile (fun _ _ h => of_decide_eq_true h) (.init rfl) _ hs)⟩

/--
Two `Write` calls to one socket as its connection breaks: the first fills the
queue, the second waits. From then on neither it nor the writer has a step, and a
`Write` to another client does not get the lock.
-/
theorem second_write_freezes_server :
    ∃ s, Server.machine.run .start
        [.wsHandler "CS1", .lock (.call 0), .call 0, .write "CS1" [1], .call 1, .call 1,
          .write "CS1" [2], .call 2, .readPump 0 "EOF", .writePump 0 .forceClose,
          .lock (.writePump 0), .write "CS2" [3]] = some s ∧
      SocketFrozen s ∧ s.act (.call 2) = none ∧ (∀ ev, s.act (.writePump 0 ev) = none) ∧
      s.act (.call 3) = none := by
  have hrun : ∃ s x, Server.machine.run .start
        [.wsHandler "CS1", .lock (.call 0), .call 0, .write "CS1" [1], .call 1, .call 1,
          .write "CS1" [2], .call 2, .readPump 0 "EOF", .writePump 0 .forceClose,
          .lock (.writePump 0), .write "CS2" [3]] = some s ∧
      s.calls[2]? = some (.sending 0 [2]) ∧ .call 2 ∈ s.connMutex.readers ∧
      s.sockets[0]? = some x ∧ x.outQueue.send [2] = .blocks ∧ x.writePump = .cleanup ∧
      s.act (.call 2) = none ∧ (∀ ev, s.act (.writePump 0 ev) = none) ∧ s.act (.call 3) = none := by
    refine ⟨_, _, rfl, rfl, by decide, rfl, rfl, rfl, rfl, fun ev => ?_, rfl⟩
    cases ev <;> rfl
  obtain ⟨s, x, hs, hcall, hreads, hsocket, hfull, hpump, hcallStuck, hpumpStuck, hother⟩ := hrun
  exact ⟨s, hs, ⟨2, 0, [2], x, hcall, hreads, hsocket, hfull, hpump⟩, hcallStuck, hpumpStuck,
    hother⟩

end OcppGo.Proof
