import OcppGo.Connections
import OcppGo.Lib.Lists
import OcppGo.Proof.ServerChanges

/-!
# The registry of sockets and the dispatcher's queues

A client is connected for the websocket server from the moment its socket is in
the map, and for the dispatcher from the moment it has a queue. Handlers carry
the news from one to the other, so the two can only be compared when none is
outstanding.

The handlers of one socket do not come in a fixed order with those of the next.
A charge point whose socket was removed may be registered again before the old
socket's disconnect handler has run; that handler then deletes the queue which
the new socket's handler found in place. And a socket may be closed before its
own new-client handler has run, which then creates a queue nobody deletes.

When a socket is registered only after its predecessor is done, and closed only
after it was announced, each id has at most one socket that is not done, and its
stage says what the two maps hold.
-/

namespace OcppGo.Proof

open OcppGo.Lib OcppGo.Ocppj

/-- The dispatcher has a queue for the id. -/
def hasQueue (s : Connections) (id : String) : Bool :=
  (s.server.dispatcher.queueMap.get id).isSome

/-- No handler call is outstanding for the socket. -/
def settled (x : Socket) : Bool :=
  x.announced && (x.stage == .open || x.stage == .closed)

/-- No handler call is outstanding at all. -/
def Quiescent (s : Connections) : Prop := ∀ x ∈ s.sockets, settled x = true

/--
A socket is registered only while no handler call for its id is outstanding, and
closed only once it was announced.
-/
def OneAtATime (s : Connections) : Connections.Action → Prop
  | .wsHandler id => ∀ x ∈ s.sockets, x.id = id → settled x = true
  | .cleanupConnection k => ∀ x ∈ s.sockets[k]?, x.announced = true
  | _ => True

instance (s : Connections) : ∀ a, Decidable (OneAtATime s a)
  | .wsHandler id =>
      inferInstanceAs (Decidable (∀ x ∈ s.sockets, x.id = id → settled x = true))
  | .cleanupConnection k => inferInstanceAs (Decidable (∀ x ∈ s.sockets[k]?, x.announced = true))
  | .newClientHandler _ | .deleteClient _ | .clearPending _ | .server _ => .isTrue trivial

/-! ## The stages of a socket -/

/-- All handler calls for the socket have returned, and there will be no more. -/
def finished (x : Socket) : Prop := x.announced = true ∧ x.stage = .closed

/-- What the two maps hold while socket `k` is not done. -/
inductive Live (s : Connections) (k : Nat) (x : Socket) : Prop where
  | opening : x.announced = false → x.stage = .open → s.connections x.id = some k → Live s k x
  | connected : x.announced = true → x.stage = .open → s.connections x.id = some k →
      hasQueue s x.id = true → Live s k x
  | removed : x.announced = true → x.stage = .removed → s.connections x.id = none → Live s k x
  | deleted : x.announced = true → x.stage = .deleted → s.connections x.id = none →
      hasQueue s x.id = false → Live s k x

/-- The sockets under an id: all done, or all but one. -/
inductive SocketPhase (s : Connections) (id : String) : Prop where
  | idle : (∀ x ∈ s.sockets, x.id = id → finished x) → s.connections id = none →
      hasQueue s id = false → SocketPhase s id
  | busy (k : Nat) (x : Socket) : s.sockets[k]? = some x → x.id = id →
      (∀ i y, s.sockets[i]? = some y → y.id = id → i = k ∨ finished y) → Live s k x →
      SocketPhase s id

section

variable {cfg : ServerConfig} {s s' : Connections} {id : String} {k : Nat} {x y : Socket}

/-- Whoever is not done is the one socket the phase speaks of. -/
theorem SocketPhase.live (h : SocketPhase s id) (hk : s.sockets[k]? = some x) (hid : x.id = id)
    (hx : ¬ finished x) :
    Live s k x ∧ ∀ i y, s.sockets[i]? = some y → y.id = id → i = k ∨ finished y := by
  cases h with
  | idle hall _ _ => exact absurd (hall x (List.mem_of_getElem? hk) hid) hx
  | busy j y hj _ hothers hlive =>
      have hkj : k = j := (hothers k x hk hid).resolve_right hx
      subst hkj
      rw [hk] at hj
      cases hj
      exact ⟨hlive, hothers⟩

theorem hasQueue_congr (h : s'.server.dispatcher.queueMap.get id
    = s.server.dispatcher.queueMap.get id) : hasQueue s' id = hasQueue s id := by
  rw [hasQueue, h, hasQueue]

theorem Live.congr (h : Live s k x) (hc : s'.connections x.id = s.connections x.id)
    (hq : hasQueue s' x.id = hasQueue s x.id) : Live s' k x := by
  cases h with
  | opening ha hs hconn => exact .opening ha hs (hc.trans hconn)
  | connected ha hs hconn hqueue => exact .connected ha hs (hc.trans hconn) (hq.trans hqueue)
  | removed ha hs hconn => exact .removed ha hs (hc.trans hconn)
  | deleted ha hs hconn hqueue => exact .deleted ha hs (hc.trans hconn) (hq.trans hqueue)

/-- The phase of an id depends on its own sockets and its own entries. -/
theorem SocketPhase.congr (h : SocketPhase s id)
    (hs : ∀ (i : Nat) (z : Socket), z.id = id →
      (s'.sockets[i]? = some z ↔ s.sockets[i]? = some z))
    (hc : s'.connections id = s.connections id) (hq : hasQueue s' id = hasQueue s id) :
    SocketPhase s' id := by
  cases h with
  | idle hall hconn hqueue =>
      refine .idle (fun x hx hid => ?_) (hc.trans hconn) (hq.trans hqueue)
      obtain ⟨i, hi⟩ := List.mem_iff_getElem?.mp hx
      exact hall x (List.mem_of_getElem? ((hs i x hid).mp hi)) hid
  | busy k x hk hid hothers hlive =>
      subst hid
      exact .busy k x ((hs k x rfl).mpr hk) rfl
        (fun i y hi hy => hothers i y ((hs i y hy).mp hi) hy) (hlive.congr hc hq)

/-- A socket of another id moves on. -/
theorem getElem?_set_other {l : List Socket} (hk : l[k]? = some x) (hid : x.id ≠ id)
    (hy : y.id = x.id) (i : Nat) (z : Socket) (hz : z.id = id) :
    (l.set k y)[i]? = some z ↔ l[i]? = some z := by
  by_cases hik : k = i
  · subst hik
    have hlt : k < l.length := (List.getElem?_eq_some_iff.mp hk).1
    rw [List.getElem?_set_self hlt, hk]
    constructor
    · intro h
      cases h
      exact absurd (hy ▸ hz) hid
    · intro h
      cases h
      exact absurd hz hid
  · rw [List.getElem?_set_ne hik]

/-- The socket of number `k` moves on; the others of its id are done as before. -/
theorem others_set {l : List Socket} (hothers : ∀ i z, l[i]? = some z → z.id = id →
      i = k ∨ finished z) (i : Nat) (z : Socket) (hi : (l.set k y)[i]? = some z) (hz : z.id = id) :
    i = k ∨ finished z := by
  by_cases hik : k = i
  · exact Or.inl hik.symm
  · rw [List.getElem?_set_ne hik] at hi
    exact hothers i z hi hz

/-- A step about socket `k` leaves the phases of other ids alone. -/
theorem SocketPhase.other (h : SocketPhase s id) (hk : s.sockets[k]? = some x)
    (hs : s'.sockets = s.sockets.set k y) (hid : x.id ≠ id) (hy : y.id = x.id)
    (hc : s'.connections id = s.connections id) (hq : hasQueue s' id = hasQueue s id) :
    SocketPhase s' id :=
  h.congr (fun i z hz => by rw [hs]; exact getElem?_set_other hk hid hy i z hz) hc hq

/-- Socket `k` moves on and is still not done. -/
theorem SocketPhase.own (hk : s.sockets[k]? = some x) (hs : s'.sockets = s.sockets.set k y)
    (hy : y.id = x.id)
    (hothers : ∀ i z, s.sockets[i]? = some z → z.id = x.id → i = k ∨ finished z)
    (hlive : Live s' k y) : SocketPhase s' x.id := by
  have hlt : k < s.sockets.length := (List.getElem?_eq_some_iff.mp hk).1
  refine .busy k y ?_ hy (fun i z hi hz => ?_) hlive
  · rw [hs, List.getElem?_set_self hlt]
  · rw [hs] at hi
    exact others_set hothers i z hi hz

/-! ## What the steps do to the queues -/

theorem get_onClientConnected (d : ServerDispatcher) (c : String) :
    ((Server.onClientConnected d c).queueMap.get c).isSome = true
      ∧ ∀ x, x ≠ c → (Server.onClientConnected d c).queueMap.get x = d.queueMap.get x :=
  ⟨FIFOQueueMap.get_getOrCreate_self d.queueMap c,
    fun _ hx => FIFOQueueMap.get_getOrCreate_ne d.queueMap hx⟩

theorem get_deleteClient (d : ServerDispatcher) (c : String) :
    (d.deleteClient c).queueMap.get c = none
      ∧ ∀ x, x ≠ c → (d.deleteClient c).queueMap.get x = d.queueMap.get x := by
  refine ⟨?_, fun x hx => FIFOQueueMap.get_remove_ne d.queueMap hx⟩
  simp [ServerDispatcher.deleteClient, FIFOQueueMap.get, FIFOQueueMap.remove]

/-- Steps that are not taken for a socket neither create nor delete a queue. -/
theorem get_ownStep {a : Server.Action} {t t' : Server} (ha : Connections.ownStep a = true)
    (h : Server.act cfg t a = some t') (c : String) :
    t'.dispatcher.queueMap.get c = t.dispatcher.queueMap.get c := by
  unfold Server.act at h
  split at h
  · exact absurd h (by simp)
  · cases a with
    | onClientConnected c => exact absurd ha (by simp [Connections.ownStep])
    | deleteClient c => exact absurd ha (by simp [Connections.ownStep])
    | clearPending c => exact absurd ha (by simp [Connections.ownStep])
    | getQueue c uid request =>
        cases h
        unfold Server.getQueue
        split <;> rfl
    | push j =>
        dsimp only at h
        unfold Server.push at h
        split at h
        · exact absurd h (by simp)
        · split at h
          · cases h
            rfl
          · rename_i d hd
            cases h
            exact (pushTo_pushed hd).get c
    | messagePump sel write =>
        obtain ⟨d, hd, rfl⟩ := Option.map_eq_some_iff.mp h
        unfold ServerDispatcher.pump at hd
        split at hd
        · obtain ⟨d₁, hrec, rfl⟩ := Option.map_eq_some_iff.mp hd
          obtain ⟨⟨requests, timers, rfl⟩, _⟩ := receive_eq hrec
          exact (messagePump_untouched _ _ sel write).get c
        · exact absurd hd (by simp)
    | deadlineExceeded c ctx =>
        obtain ⟨d, hd, rfl⟩ := Option.map_eq_some_iff.mp h
        obtain ⟨waiting, expired, rfl⟩ := deadlineExceeded_eq hd
        rfl
    | notifyTimeout c =>
        obtain ⟨d, hd, rfl⟩ := Option.map_eq_some_iff.mp h
        obtain ⟨expired, timers, rfl⟩ := notifyTimeout_eq hd
        rfl
    | parseFrame y data =>
        cases h
        unfold Server.receiveFrame
        split
        · rename_i d calls hparse
          exact congrArg (fun m => m.get c) (Server.parseFrame_frame hparse).1
        · rename_i d m hparse
          exact congrArg (fun m => m.get c) (Server.parseFrame_frame hparse).1
    | handleMessage j =>
        dsimp only at h
        unfold Server.handle at h
        split at h
        · exact absurd h (by simp)
        · cases h
          dsimp only
          rw [Server.handleMessage_fst]
          split
          · rfl
          · exact (completeRequest_untouched _ _ _).get c

/-! ## The invariant -/

theorem socketPhase_start (cfg : ServerConfig) (id : String) :
    SocketPhase (Connections.start cfg) id :=
  .idle (fun x hx => absurd hx (by simp [Connections.start])) rfl rfl

/-- A socket is registered, or turned away. -/
theorem socketPhase_wsHandler (h : ∀ id, SocketPhase s id) {new : String}
    (hok : ∀ x ∈ s.sockets, x.id = new → settled x = true) (id : String) :
    SocketPhase (s.wsHandler new) id := by
  unfold Connections.wsHandler
  split
  · exact h id
  · rename_i hfree
    by_cases hid : id = new
    · subst hid
      -- a settled socket with no entry is done
      have hall : ∀ x ∈ s.sockets, x.id = id → finished x := by
        intro x hx hxid
        obtain ⟨i, hi⟩ := List.mem_iff_getElem?.mp hx
        by_contra hnot
        have hset := hok x hx hxid
        subst hxid
        cases ((h _).live hi rfl hnot).1 with
        | opening ha _ _ => simp [settled, ha] at hset
        | connected _ _ hconn _ => rw [hfree] at hconn; exact absurd hconn (by simp)
        | removed ha hs _ => simp [settled, ha, hs] at hset
        | deleted ha hs _ _ => simp [settled, ha, hs] at hset
      refine .busy s.sockets.length { id := id, announced := false, stage := .open }
        List.getElem?_concat_length rfl (fun i z hi hz => ?_)
        (.opening rfl rfl (Function.update_self id _ s.connections))
      rcases getElem?_snoc hi with hold | ⟨hlast, _⟩
      · exact Or.inr (hall z (List.mem_of_getElem? hold) hz)
      · exact Or.inl hlast
    · refine (h id).congr (fun i z hz => ⟨fun hi => ?_, fun hi => ?_⟩)
        (Function.update_of_ne hid _ _) rfl
      · rcases getElem?_snoc hi with hold | ⟨_, rfl⟩
        · exact hold
        · exact absurd hz.symm hid
      · exact (List.getElem?_append_left (List.getElem?_eq_some_iff.mp hi).1).trans hi

/-- The steps that end in `notify`: what the server did, and to which queues. -/
theorem notify_cases {a : Server.Action} (h : s.notify cfg a k y = some s') :
    ∃ t, Server.act cfg s.server a = some t
      ∧ s' = { s with server := t, sockets := s.sockets.set k y } := by
  obtain ⟨t, ht, rfl⟩ := Option.map_eq_some_iff.mp h
  exact ⟨t, ht, rfl⟩

/-- The new-client handler runs: its socket was opening, and has a queue now. -/
theorem socketPhase_newClientHandler (h : ∀ id, SocketPhase s id) (hk : s.sockets[k]? = some x)
    (hx : x.announced = false)
    (hs : s.notify cfg (.onClientConnected x.id) k { x with announced := true } = some s')
    (id : String) : SocketPhase s' id := by
  obtain ⟨t, ht, rfl⟩ := notify_cases hs
  unfold Server.act at ht
  split at ht
  · exact absurd ht (by simp)
  · cases ht
    obtain ⟨hself, hne⟩ := get_onClientConnected s.server.dispatcher x.id
    by_cases hid : id = x.id
    · subst hid
      have hnot : ¬ finished x := fun hf => by rw [hf.1] at hx; exact absurd hx (by simp)
      obtain ⟨hlive, hothers⟩ := (h x.id).live hk rfl hnot
      refine .own hk rfl rfl hothers ?_
      cases hlive with
      | opening _ hstage hconn => exact .connected rfl hstage hconn hself
      | connected ha _ _ _ => rw [ha] at hx; exact absurd hx (by simp)
      | removed ha _ _ => rw [ha] at hx; exact absurd hx (by simp)
      | deleted ha _ _ _ => rw [ha] at hx; exact absurd hx (by simp)
    · exact (h id).other hk rfl (Ne.symm hid) rfl rfl (hasQueue_congr (hne id hid))

/-- A socket is closed: it was announced, so it was connected. -/
theorem socketPhase_cleanupConnection (h : ∀ id, SocketPhase s id) (hk : s.sockets[k]? = some x)
    (ha : x.announced = true) (hx : x.stage = .open) (id : String) :
    SocketPhase { s with
      connections := Function.update s.connections x.id none
      sockets := s.sockets.set k { x with stage := .removed } } id := by
  by_cases hid : id = x.id
  · subst hid
    have hnot : ¬ finished x := fun hf => by rw [hf.2] at hx; exact absurd hx (by simp)
    obtain ⟨_, hothers⟩ := (h x.id).live hk rfl hnot
    exact .own hk rfl rfl hothers (.removed ha rfl (Function.update_self ..))
  · exact (h id).other hk rfl (Ne.symm hid) rfl (Function.update_of_ne hid _ _) rfl

/-- `DeleteClient` in the disconnect handler. -/
theorem socketPhase_deleteClient (h : ∀ id, SocketPhase s id) (hk : s.sockets[k]? = some x)
    (hx : x.stage = .removed)
    (hs : s.notify cfg (.deleteClient x.id) k { x with stage := .deleted } = some s')
    (id : String) : SocketPhase s' id := by
  obtain ⟨t, ht, rfl⟩ := notify_cases hs
  unfold Server.act at ht
  split at ht
  · exact absurd ht (by simp)
  · cases ht
    obtain ⟨hself, hne⟩ := get_deleteClient s.server.dispatcher x.id
    by_cases hid : id = x.id
    · subst hid
      have hnot : ¬ finished x := fun hf => by rw [hf.2] at hx; exact absurd hx (by simp)
      obtain ⟨hlive, hothers⟩ := (h x.id).live hk rfl hnot
      refine .own hk rfl rfl hothers ?_
      have hqueue : hasQueue { s with
          server := { s.server with
            dispatcher := s.server.dispatcher.deleteClient x.id
            leaving := s.server.leaving ++ [x.id] }
          sockets := s.sockets.set k { x with stage := .deleted } } x.id = false := by
        rw [hasQueue, hself]
        rfl
      cases hlive with
      | opening _ hstage _ => rw [hstage] at hx; exact absurd hx (by simp)
      | connected _ hstage _ _ => rw [hstage] at hx; exact absurd hx (by simp)
      | removed ha _ hconn => exact .deleted ha rfl hconn hqueue
      | deleted _ hstage _ _ => rw [hstage] at hx; exact absurd hx (by simp)
    · exact (h id).other hk rfl (Ne.symm hid) rfl rfl (hasQueue_congr (hne id hid))

/-- The disconnect handler returns, and the socket is done. -/
theorem socketPhase_clearPending (h : ∀ id, SocketPhase s id) (hk : s.sockets[k]? = some x)
    (hx : x.stage = .deleted)
    (hs : s.notify cfg (.clearPending x.id) k { x with stage := .closed } = some s')
    (id : String) : SocketPhase s' id := by
  obtain ⟨t, ht, rfl⟩ := notify_cases hs
  have hget : t.dispatcher.queueMap = s.server.dispatcher.queueMap := by
    unfold Server.act at ht
    split at ht
    · exact absurd ht (by simp)
    · dsimp only at ht
      split at ht
      · cases ht
        rfl
      · exact absurd ht (by simp)
  have hqueue : ∀ c, hasQueue { s with
      server := t, sockets := s.sockets.set k { x with stage := .closed } } c = hasQueue s c :=
    fun c => hasQueue_congr (by rw [hget])
  by_cases hid : id = x.id
  · subst hid
    have hnot : ¬ finished x := fun hf => by rw [hf.2] at hx; exact absurd hx (by simp)
    obtain ⟨hlive, hothers⟩ := (h x.id).live hk rfl hnot
    cases hlive with
    | opening _ hstage _ => rw [hstage] at hx; exact absurd hx (by simp)
    | connected _ hstage _ _ => rw [hstage] at hx; exact absurd hx (by simp)
    | removed _ hstage _ => rw [hstage] at hx; exact absurd hx (by simp)
    | deleted ha _ hconn hq =>
        refine .idle (fun z hz hzid => ?_) hconn ((hqueue x.id).trans hq)
        obtain ⟨i, hi⟩ := List.mem_iff_getElem?.mp hz
        by_cases hik : k = i
        · subst hik
          have hlt : k < s.sockets.length := (List.getElem?_eq_some_iff.mp hk).1
          rw [List.getElem?_set_self hlt] at hi
          cases hi
          exact ⟨ha, rfl⟩
        · rw [List.getElem?_set_ne hik] at hi
          exact (hothers i z hi hzid).resolve_left (Ne.symm hik)
  · exact (h id).other hk rfl (Ne.symm hid) rfl rfl (hqueue id)

/-- **Preserved by every step that waits for its turn.** -/
theorem socketPhase_step {a : Connections.Action} (h : ∀ id, SocketPhase s id)
    (hok : OneAtATime s a) (hact : Connections.act cfg s a = some s') (id : String) :
    SocketPhase s' id := by
  cases a with
  | wsHandler new =>
      cases hact
      exact socketPhase_wsHandler h hok id
  | newClientHandler k =>
      simp only [Connections.act] at hact
      split at hact
      · exact absurd hact (by simp)
      · rename_i x hk
        split at hact
        · exact absurd hact (by simp)
        · rename_i hx
          exact socketPhase_newClientHandler h hk (by simpa using hx) hact id
  | cleanupConnection k =>
      simp only [Connections.act] at hact
      split at hact
      · exact absurd hact (by simp)
      · rename_i x hk
        split at hact
        · rename_i hx
          cases hact
          exact socketPhase_cleanupConnection h hk (hok x hk) hx id
        · exact absurd hact (by simp)
  | deleteClient k =>
      simp only [Connections.act] at hact
      split at hact
      · exact absurd hact (by simp)
      · rename_i x hk
        split at hact
        · rename_i hx
          exact socketPhase_deleteClient h hk hx hact id
        · exact absurd hact (by simp)
  | clearPending k =>
      simp only [Connections.act] at hact
      split at hact
      · exact absurd hact (by simp)
      · rename_i x hk
        split at hact
        · rename_i hx
          exact socketPhase_clearPending h hk hx hact id
        · exact absurd hact (by simp)
  | server a =>
      simp only [Connections.act] at hact
      split at hact
      · rename_i ha
        obtain ⟨t, ht, rfl⟩ := Option.map_eq_some_iff.mp hact
        exact (h id).congr (fun _ _ _ => Iff.rfl) rfl (hasQueue_congr (get_ownStep ha ht id))
      · exact absurd hact (by simp)

theorem socketPhase_reachable (h : ReachableWhile (Connections.machine cfg) OneAtATime s) :
    ∀ id, SocketPhase s id := by
  refine ReachableWhile.invariant (P := fun s => ∀ id, SocketPhase s id) ?_ ?_ h
  · rintro s rfl
    exact socketPhase_start cfg
  · intro s a s' _ hs hok hact
    exact socketPhase_step hs hok hact

/--
**Registry and dispatcher agree**, whenever no handler call is outstanding: in
runs that register a socket only when the handlers of its id's earlier sockets
have returned, and close one only when it was announced, an id has a queue
exactly when it has an entry.
-/
theorem registry_agrees_with_dispatcher
    (h : ReachableWhile (Connections.machine cfg) OneAtATime s) (hq : Quiescent s)
    (id : String) :
    (s.server.dispatcher.queueMap.get id).isSome = true ↔ (s.connections id).isSome = true := by
  have hphase := socketPhase_reachable h id
  change hasQueue s id = true ↔ _
  cases hphase with
  | idle _ hconn hqueue =>
      rw [hconn, hqueue]
      simp
  | busy k x hk hid _ hlive =>
      have hset := hq x (List.mem_of_getElem? hk)
      subst hid
      cases hlive with
      | opening ha _ _ => simp [settled, ha] at hset
      | connected _ _ hconn hqueue =>
          rw [hconn, hqueue]
          simp
      | removed ha hs _ => simp [settled, ha, hs] at hset
      | deleted ha hs _ _ => simp [settled, ha, hs] at hset

end

/-- A socket is registered and announced. -/
def opening (id : String) (k : Nat) : List Connections.Action :=
  [.wsHandler id, .newClientHandler k]

/-- A socket is closed and its disconnect handler runs. -/
def closing (k : Nat) : List Connections.Action :=
  [.cleanupConnection k, .deleteClient k, .clearPending k]

/-- A charge point that leaves and comes back, one handler after the other. -/
theorem registry_agrees_after_reconnect :
    ∃ s, ReachableWhile (Connections.machine heartbeatServer) OneAtATime s ∧ Quiescent s
      ∧ s.connections "cp" = some 1
      ∧ (s.server.dispatcher.queueMap.get "cp").isSome = true := by
  have hrun : ∃ s, (Connections.machine heartbeatServer).runWhile
      (fun s a => decide (OneAtATime s a)) (.start heartbeatServer)
      (opening "cp" 0 ++ closing 0 ++ opening "cp" 1) = some s
      ∧ s.sockets = [⟨"cp", true, .closed⟩, ⟨"cp", true, .open⟩]
      ∧ s.connections "cp" = some 1 := ⟨_, rfl, rfl, rfl⟩
  obtain ⟨s, hs, hsockets, hconn⟩ := hrun
  have hr : ReachableWhile (Connections.machine heartbeatServer) OneAtATime s :=
    ReachableWhile.runWhile (fun _ _ hc => of_decide_eq_true hc) (.init rfl) _ hs
  have hq : Quiescent s := by
    rw [Quiescent, hsockets]
    decide
  exact ⟨s, hr, hq, hconn, (registry_agrees_with_dispatcher hr hq "cp").mpr (by rw [hconn]; rfl)⟩

/--
**Without the order they part.** A charge point reconnects while the disconnect
handler of its old socket is still to run: it ends up connected, and without a
queue. And a socket closed before it was announced leaves a queue behind.
-/
theorem reconnect_leaves_registry_apart :
    (∃ s, Reachable (Connections.machine heartbeatServer) s ∧ Quiescent s
        ∧ (s.connections "cp").isSome = true
        ∧ s.server.dispatcher.queueMap.get "cp" = none)
      ∧ ∃ s, Reachable (Connections.machine heartbeatServer) s ∧ Quiescent s
        ∧ s.connections "cp" = none
        ∧ (s.server.dispatcher.queueMap.get "cp").isSome = true := by
  refine ⟨?_, ?_⟩
  · have hrun : ∃ s, (Connections.machine heartbeatServer).run (.start heartbeatServer)
        (opening "cp" 0 ++ [.cleanupConnection 0] ++ opening "cp" 1
          ++ [.deleteClient 0, .clearPending 0]) = some s
        ∧ s.sockets = [⟨"cp", true, .closed⟩, ⟨"cp", true, .open⟩]
        ∧ (s.connections "cp").isSome = true
        ∧ s.server.dispatcher.queueMap.get "cp" = none := ⟨_, rfl, rfl, rfl, rfl⟩
    obtain ⟨s, hs, hsockets, hstate⟩ := hrun
    refine ⟨s, Reachable.run (.init rfl) _ hs, ?_, hstate⟩
    rw [Quiescent, hsockets]
    decide
  · have hrun : ∃ s, (Connections.machine heartbeatServer).run (.start heartbeatServer)
        ([.wsHandler "cp"] ++ closing 0 ++ [.newClientHandler 0]) = some s
        ∧ s.sockets = [⟨"cp", true, .closed⟩]
        ∧ s.connections "cp" = none
        ∧ (s.server.dispatcher.queueMap.get "cp").isSome = true := ⟨_, rfl, rfl, rfl, rfl⟩
    obtain ⟨s, hs, hsockets, hstate⟩ := hrun
    refine ⟨s, Reachable.run (.init rfl) _ hs, ?_, hstate⟩
    rw [Quiescent, hsockets]
    decide

end OcppGo.Proof
