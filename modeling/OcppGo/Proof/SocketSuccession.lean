import OcppGo.Proof.SocketClientMoves

/-!
# A connection and its successor

The pumps of a connection find their channels through `client.webSocket`, which the
next successful `Start` replaces. A reader that is still in the message handler then,
and meets the end of its connection afterwards, reports it to the writer of the next
one, which tears down a connection that works.

While the field is replaced only after the readers have found their channel, a reader's
connection is the current one as long as it reads. A writer may select on the channels
of a later connection than its own, but never on those of an earlier one.
-/

namespace OcppGo.Proof

open OcppGo.Lib OcppGo.Ws

/-! ## The condition -/

/-- The reader has still to find the channel for its error. -/
def stillReads : Thread → Bool
  | .reading _ | .handling _ | .readFailed _ => true
  | .reporting _ _ (.forceClose _) | .reporting _ _ (.read _) => true
  | _ => false

/-- The goroutine is about to replace `client.webSocket`. -/
def assigns : Thread → Bool
  | .starting _ .assign => true
  | _ => false

/-- `Start` replaces `client.webSocket` only after every reader has found its channel. -/
def readersDone (s : ClientRun) : ClientRun.Action → Bool
  | .thread t _ =>
      (s.threads[t]?).all fun pc => !assigns pc || s.threads.all (fun pc' => !stillReads pc')
  | _ => true

/-! ## Whose errors these are -/

/-- The current connection is this one or a later one. -/
def ReachedBy (s : Client) (c : Nat) : Prop := ∃ w, s.webSocket = some w ∧ c ≤ w

/-- A pump and what it holds belong to its own connection; a writer may look at a later one. -/
def Attached (s : Client) : Thread → Prop
  | .reading c | .handling c | .reporting _ _ (.read c) => s.webSocket = some c
  | .readFailed err | .reporting _ _ (.forceClose err) => s.webSocket = some err.connection
  | .forceClose err k => k = some err.connection
  | .loop c | .sendData c | .sendPing c | .sendClose c => ReachedBy s c
  | .select c k => ReachedBy s c ∧ ∃ w, k = some w ∧ c ≤ w
  | .closing c cause _ | .reporting _ _ (.closure c cause) =>
      ∀ err, cause = .forced (some err) → c ≤ err.connection
  | _ => True

structure OwnErrors (s : ClientRun) : Prop where
  current : ∀ w, s.client.webSocket = some w → w < s.client.sockets.length
  sockets : ∀ (k : Nat) x, s.client.sockets[k]? = some x →
    ∀ err ∈ x.forceCloseC.items, err.connection = k
  threads : ∀ pc ∈ s.threads, Attached s.client pc

section

variable {s s' : Client} {ev : Client.Event} {pc pc' : Thread} {new : List Thread}

theorem Attached.congr (h : Attached s pc) (hw : s'.webSocket = s.webSocket) :
    Attached s' pc := by
  unfold Attached ReachedBy at h ⊢
  rw [hw]
  exact h

/-- A later connection takes over; no reader of an earlier one is left. -/
theorem Attached.assign (h : Attached s pc) (hdone : stillReads pc = false) {w : Nat}
    (hw : s'.webSocket = some w) (hle : ∀ c, s.webSocket = some c → c ≤ w) :
    Attached s' pc := by
  have hreach : ∀ c, ReachedBy s c → ReachedBy s' c := by
    rintro c ⟨c', hc', hcc'⟩
    exact ⟨w, hw, Nat.le_trans hcc' (hle c' hc')⟩
  unfold Attached at h ⊢
  split <;> simp_all [stillReads]

theorem Attached.next {text : String} {pc : Reporting} {next : Next}
    (h : Attached s (.reporting text pc next)) : Attached s next.thread := by
  cases next with
  | retry => trivial
  | _ => exact h

theorem Onward.attached (ho : Onward s ev pc pc') (h : Attached s pc) : Attached s pc' := by
  cases ho with
  | dialFailed caller err => cases caller <;> trivial
  | unreported text next _ => exact h.next
  | reportTested text next e _ => cases next <;> exact h
  | reportRead text next => cases next <;> exact h
  | writePump c hc => exact ⟨c, hc, Nat.le_refl c⟩
  | selects c => exact ⟨h, h⟩
  | ticks c k => exact h.1
  | queueClosed c k => exact h.1
  | closeClosed c k => exact h.1
  | forceClosed c k => simp [Attached]
  | sentData c => exact h
  | dataFailed c text => simp [Attached]
  | sentPing c => exact h
  | pingFailed c text => simp [Attached]
  | sentClose c => simp [Attached]
  | closeFailed c text => simp [Attached]
  | cleanupRead c cause k _ => exact h
  | notified c cause => cases cause <;> trivial
  | readPump c hc => exact hc
  | received c => exact h
  | readReported c err text => exact h
  | readFailed c err => exact h
  | handled c => exact h
  | handleFailed c text => exact h
  | forceRead err => exact h
  | _ => trivial

end

section

variable {s : ClientRun} {client : Client} {t : Nat} {pc pc' : Thread} {new : List Thread}
  {ev : Client.Event}

/-- Every step but the assignment leaves the current connection. -/
theorem OwnErrors.keep (h : OwnErrors s) (hw : client.webSocket = s.client.webSocket)
    (hlen : client.sockets.length = s.client.sockets.length)
    (hsockets : ∀ (k : Nat) x, client.sockets[k]? = some x →
      ∀ err ∈ x.forceCloseC.items, err.connection = k)
    (hpc' : Attached s.client pc') (hnew : ∀ x ∈ new, Attached s.client x) :
    OwnErrors { client := client, threads := s.threads.set t pc' ++ new } where
  current w hcur := by
    rw [hlen]
    exact h.current w (hw ▸ hcur)
  sockets := hsockets
  threads x hx := by
    rcases mem_threads hx with hx | rfl | hx
    · exact (h.threads x hx).congr hw
    · exact hpc'.congr hw
    · exact (hnew x hx).congr hw

/-- A socket is changed; what is new in its channel is its own. -/
theorem OwnErrors.setSocket (h : OwnErrors s) {k : Nat} {x x' : ClientSocket}
    (hx : s.client.sockets[k]? = some x)
    (hitems : ∀ err ∈ x'.forceCloseC.items, err ∈ x.forceCloseC.items ∨ err.connection = k)
    (i : Nat) (y : ClientSocket) (hy : (s.client.sockets.set k x')[i]? = some y) :
    ∀ err ∈ y.forceCloseC.items, err.connection = i := by
  intro err herr
  rcases getElem?_replaced hy with ⟨rfl, rfl⟩ | ⟨_, hy⟩
  · rcases hitems err herr with hold | hown
    · exact h.sockets i x hx err hold
    · exact hown
  · exact h.sockets i y hy err herr

theorem OwnErrors.assign (h : OwnErrors s) {caller : Caller}
    (hdone : ∀ pc ∈ s.threads, stillReads pc = false) :
    OwnErrors
      { client := { s.client with
          sockets := s.client.sockets ++ [.new]
          webSocket := some s.client.sockets.length }
        threads := s.threads.set t (.starting caller .makeReconnectC) ++ [] } where
  current w hw := by
    cases hw
    simp
  sockets k x hx err herr := by
    rcases getElem?_snoc hx with hx | ⟨_, rfl⟩
    · exact h.sockets k x hx err herr
    · exact absurd herr (by simp [ClientSocket.new, Chan.make])
  threads x hx := by
    rcases mem_threads hx with hx | rfl | hx
    · exact (h.threads x hx).assign (hdone x hx) rfl
        (fun c hc => Nat.le_of_lt (h.current c hc))
    · trivial
    · exact absurd hx (by simp)

theorem ownErrors_thread (h : OwnErrors s) (hpc : s.threads[t]? = some pc)
    (hok : readersDone s (.thread t ev) = true) (hs : Stepped s.client ev pc client pc' new) :
    OwnErrors { client := client, threads := s.threads.set t pc' ++ new } := by
  have hat : Attached s.client pc := h.threads pc (List.mem_of_getElem? hpc)
  cases hs with
  | onward _ _ ho => exact h.keep rfl rfl h.sockets (ho.attached hat) (by simp)
  | panics _ p _ => exact h.keep rfl rfl h.sockets trivial (by simp)
  | assign caller =>
      refine h.assign fun x hx => ?_
      have hall := (by simpa [readersDone, hpc, assigns] using hok : ∀ x ∈ s.threads,
        stillReads x = false)
      exact hall x hx
  | makeReconnectC caller => exact h.keep rfl rfl h.sockets trivial (by simp)
  | connect caller => exact h.keep rfl rfl h.sockets trivial (by simp)
  | spawn caller =>
      refine h.keep rfl rfl h.sockets ?_ (by simp [Attached])
      cases caller <;> trivial
  | stopPanics k x _ _ _ _ => exact h.keep rfl rfl h.sockets trivial (by simp)
  | stopUnsaid _ => exact h.keep rfl rfl h.sockets trivial (by simp)
  | stop k x closeC _ _ hx _ =>
      exact h.keep rfl (by simp [Client.setSocket]) (h.setSocket hx fun err he => Or.inl he) trivial
        (by simp)
  | closeReconnectC rc x _ _ _ => exact h.keep rfl rfl h.sockets trivial (by simp)
  | closeErrC e x _ _ _ => exact h.keep rfl rfl h.sockets trivial (by simp)
  | resetErrC => exact h.keep rfl rfl h.sockets trivial (by simp)
  | write data k x outQueue hx _ =>
      exact h.keep rfl (by simp [Client.setSocket]) (h.setSocket hx fun err he => Or.inl he) trivial
        (by simp)
  | report text next e x x' _ _ => exact h.keep rfl rfl h.sockets hat.next (by simp)
  | takeData c k x outQueue hx _ =>
      exact h.keep rfl (by simp [Client.setSocket]) (h.setSocket hx fun err he => Or.inl he) hat.1
        (by simp)
  | takeClose c k x closeC hx _ =>
      exact h.keep rfl (by simp [Client.setSocket]) (h.setSocket hx fun err he => Or.inl he) hat.1
        (by simp)
  | takeForceClose c k x err rest hx hitems =>
      refine h.keep rfl (by simp [Client.setSocket])
        (h.setSocket hx fun e he => Or.inl (hitems ▸ List.mem_cons_of_mem _ he)) ?_ (by simp)
      -- the error is that of the connection selected on, and that one is not earlier
      intro e he
      cases he
      obtain ⟨_, w, hw, hcw⟩ := hat
      cases hw
      rw [h.sockets k x hx err (by rw [hitems]; exact List.mem_cons_self)]
      exact hcw
  | disconnect c cause => exact h.keep rfl rfl h.sockets hat (by simp)
  | cleanup c cause k x hx =>
      exact h.keep rfl (by simp [Client.setSocket]) (h.setSocket hx fun err he => Or.inl he) hat
        (by simp)
  | forceClose err k x hx =>
      refine h.keep rfl (by simp [Client.setSocket]) (h.setSocket hx fun e he => ?_) trivial
        (by simp)
      rcases List.mem_append.mp he with he | he
      · exact Or.inl he
      · rw [List.mem_singleton.mp he]
        exact Or.inr (Option.some.inj hat).symm

theorem ownErrors_reachable
    (h : ReachableWhile ClientRun.machine (fun s a => readersDone s a = true) s) :
    OwnErrors s := by
  refine ReachableWhile.invariant (P := OwnErrors) ?_ ?_ h
  · rintro s rfl
    exact ⟨by simp [ClientRun.start, Client.new], by simp [ClientRun.start, Client.new],
      by simp [ClientRun.start]⟩
  · intro s a s' _ hown hok hact
    cases (act_runMove hact).1 with
    | errors _ => exact ⟨hown.current, hown.sockets, fun x hx => (hown.threads x hx).congr rfl⟩
    | errorsAgain => exact hown
    | receiveError e x x' _ _ =>
        exact ⟨hown.current, hown.sockets, fun x hx => (hown.threads x hx).congr rfl⟩
    | call _ pc hentry =>
        refine ⟨hown.current, hown.sockets, fun x hx => ?_⟩
        rcases List.mem_append.mp hx with hx | hx
        · exact hown.threads x hx
        · rw [List.mem_singleton.mp hx]
          cases a <;> cases hentry <;> trivial
    | thread t ev pc client pc' new hpc hs => exact ownErrors_thread hown hpc hok hs

/--
**A dead connection spares its successor**, while the readers are done before the socket
is replaced. An error read on a connection is only ever in the channel of that connection,
or about to be sent there, and no writer tears its connection down because of an error on
an earlier one.
-/
theorem dead_connection_spares_successor
    (h : ReachableWhile ClientRun.machine (fun s a => readersDone s a = true) s) :
    (∀ (k : Nat) x, s.client.sockets[k]? = some x →
        ∀ err ∈ x.forceCloseC.items, err.connection = k)
      ∧ (∀ err k, .forceClose err (some k) ∈ s.threads → k = err.connection)
      ∧ ∀ c err pc, .closing c (.forced (some err)) pc ∈ s.threads → ¬ err.connection < c := by
  have hown := ownErrors_reachable h
  refine ⟨hown.sockets, ?_, ?_⟩
  · intro err k hk
    exact Option.some.inj (hown.threads _ hk)
  · intro c err pc hpc
    exact Nat.not_lt.mpr (hown.threads _ hpc err rfl)

end

/-- Two connections in a row; the reader of the first fails before the second is made. -/
def succession : List ClientRun.Action :=
  ClientRun.connecting 0 ++ ClientRun.pumping 1 2 ++ ClientRun.losing 1
    ++ [.thread 2 (.readFails "closed" false)] ++ ClientRun.going 2 1
    ++ ClientRun.going 2 1 ++ ClientRun.reconnecting 1

theorem successor_unharmed :
    ∃ s, ReachableWhile ClientRun.machine (fun s a => readersDone s a = true) s
      ∧ s.client.connected = true ∧ s.client.webSocket = some 1
      ∧ s.client.sockets.map (fun x => x.forceCloseC.items) = [[⟨0, "closed"⟩], []]
      ∧ (∀ (k : Nat) x, s.client.sockets[k]? = some x →
        ∀ err ∈ x.forceCloseC.items, err.connection = k)
      ∧ (∀ err k, .forceClose err (some k) ∈ s.threads → k = err.connection)
      ∧ ∀ c err pc, .closing c (.forced (some err)) pc ∈ s.threads → ¬ err.connection < c := by
  have hrun : ∃ s, ClientRun.machine.runWhile readersDone ClientRun.start succession = some s
      ∧ s.client.connected = true ∧ s.client.webSocket = some 1
      ∧ s.client.sockets.map (fun x => x.forceCloseC.items) = [[⟨0, "closed"⟩], []] :=
    ⟨_, rfl, rfl, rfl, rfl⟩
  obtain ⟨s, hs, hconn, hcur, hitems⟩ := hrun
  have hreach : ReachableWhile ClientRun.machine (fun s a => readersDone s a = true) s :=
    ReachableWhile.runWhile (fun _ _ h => h) (.init rfl) _ hs
  exact ⟨s, hreach, hconn, hcur, hitems, dead_connection_spares_successor hreach⟩

/-- The handler of a message on the first connection returns after the second was made. -/
def slowHandler : List ClientRun.Action :=
  ClientRun.connecting 0 ++ ClientRun.pumping 1 2 ++ ClientRun.going 2 1 ++ ClientRun.losing 1
    ++ ClientRun.reconnecting 1 ++ ClientRun.pumping 3 4
    ++ ClientRun.going 2 1 ++ [.thread 2 (.readFails "closed" false)] ++ ClientRun.going 2 2

/--
The error of connection 0 arrives in the channel of connection 1, whose writer tears it
down and closes its channels.
-/
theorem slow_handler_kills_successor :
    ∃ s s', Reachable ClientRun.machine s ∧ s.client.connected = true
      ∧ s.client.sockets.map (fun x => x.forceCloseC.items) = [[], [⟨0, "closed"⟩]]
      ∧ ClientRun.machine.run s (.thread 3 .forceClose :: ClientRun.going 3 3) = some s'
      ∧ .closing 1 (.forced (some ⟨0, "closed"⟩)) .notify ∈ s'.threads
      ∧ s'.client.connected = false
      ∧ s'.client.sockets.map (fun x => x.outQueue.closed) = [true, true] := by
  have hrun : ∃ s s', ClientRun.machine.run ClientRun.start slowHandler = some s
      ∧ s.client.connected = true
      ∧ s.client.sockets.map (fun x => x.forceCloseC.items) = [[], [⟨0, "closed"⟩]]
      ∧ ClientRun.machine.run s (.thread 3 .forceClose :: ClientRun.going 3 3) = some s'
      ∧ s'.threads[3]? = some (.closing 1 (.forced (some ⟨0, "closed"⟩)) .notify)
      ∧ s'.client.connected = false
      ∧ s'.client.sockets.map (fun x => x.outQueue.closed) = [true, true] :=
    ⟨_, _, rfl, rfl, rfl, rfl, rfl, rfl, rfl⟩
  obtain ⟨s, s', hs, hconn, hitems, hs', hpc, hdown, hclosed⟩ := hrun
  exact ⟨s, s', Reachable.run (.init rfl) _ hs, hconn, hitems, hs', List.mem_of_getElem? hpc,
    hdown, hclosed⟩

end OcppGo.Proof
