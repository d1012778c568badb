import OcppGo.Proof.SocketStop

/-!
# No operation on a closed channel

Four kinds of channels are closed: `cleanup` closes `outQueue` and `closeC` of a socket,
`Stop` closes `reconnectC` and `errC`. Several goroutines send on them or close them, and
the checks they make before do not hold at the time of the operation.

The condition keeps the checks valid. One goroutine at a time owns the connection, from
the dial to the cleanup; the queue is not closed under a `Write`; one `Stop` follows a
connection, and it does not close `errC` under a report. Then every channel operated on is
open: the current socket while its owner uses it, the current `reconnectC` until `Stop`
has closed it, and the current `errC` until then as well.
-/

namespace OcppGo.Proof

open OcppGo.Lib OcppGo.Ws

/-! ## The condition -/

/-- The goroutine makes, uses or replaces a connection. -/
def owns : Thread → Bool
  | .starting _ _ => true
  | .writePump | .loop _ | .select _ _ | .sendData _ | .sendPing _ | .sendClose _ => true
  | .closing _ _ _ | .retry | .waiting _ => true
  | .reporting _ _ (.closure _ _) | .reporting _ _ .retry => true
  | _ => false

/-- `Write` is past its check. -/
def writePending : Thread → Bool
  | .writing _ .read | .writing _ (.send _) => true
  | _ => false

/-- `error` is past its check. -/
def reportPending : Thread → Bool
  | .reporting _ .read _ | .reporting _ (.send _) _ => true
  | _ => false

/-- `Stop` has closed `errC` and not yet reset the field. -/
def resets : Thread → Bool
  | .stopping .resetErrC => true
  | _ => false

/-- What has to be so before the goroutine's next operation. -/
def threadOrderly (s : ClientRun) : Thread → Bool
  | .closing _ _ (.close _) => s.threads.all fun pc => !writePending pc
  | .stopping .closeErrC => s.threads.all fun pc => !reportPending pc
  | .reporting _ .test _ => s.threads.all fun pc => !resets pc
  | _ => true

/--
`Start` is called only when nobody owns a connection, and `Stop` only when no other call
of it runs and the current `reconnectC` is open. `cleanup` closes the queue when no `Write`
is past its check, `Stop` closes `errC` when no report is past its own, and no report makes
its check between that close and the reset of the field.
-/
def orderly (s : ClientRun) : ClientRun.Action → Bool
  | .start _ | .startWithRetries _ => s.threads.all fun pc => !owns pc
  | .stop =>
      s.threads.all (fun pc => !stops pc)
        && (s.client.reconnectC.bind fun rc => s.client.reconnectCs[rc]?).all fun x => !x.closed
  | .thread t _ => (s.threads[t]?).all (threadOrderly s)
  | _ => true

/-! ## Goroutines before and after a step -/

section Threads

variable {threads new : List Thread} {t : Nat} {pc pc' x : Thread} {q : Thread → Bool}

theorem mem_called (h : x ∈ threads ++ [pc]) : x ∈ threads ∨ x = pc :=
  (List.mem_append.mp h).imp_right List.mem_singleton.mp

/-- The others stay where they are. -/
theorem exists_stepped (hpc : threads[t]? = some pc) (h : ∃ x ∈ threads, q x = true)
    (hq : q pc = true → ∃ x ∈ pc' :: new, q x = true) :
    ∃ x ∈ threads.set t pc' ++ new, q x = true := by
  obtain ⟨x, hx, hqx⟩ := h
  obtain ⟨u, hu⟩ := List.mem_iff_getElem?.mp hx
  by_cases hut : u = t
  · subst hut
    cases hpc.symm.trans hu
    obtain ⟨y, hy, hqy⟩ := hq hqx
    refine ⟨y, ?_, hqy⟩
    rcases List.mem_cons.mp hy with rfl | hy
    · exact List.mem_of_getElem? (getElem?_stepped hpc)
    · exact List.mem_append_right _ hy
  · refine ⟨x, List.mem_append_left _ (List.mem_of_getElem? (i := u) ?_), hqx⟩
    rw [List.getElem?_set_ne (fun e => hut e.symm)]
    exact hu

/-- One of a kind stays one, if the step makes no more of them than it was. -/
theorem count_stepped (h : threads.countP q ≤ 1) (hpc : threads[t]? = some pc)
    (hq : (pc' :: new).countP q ≤ [pc].countP q) : (threads.set t pc' ++ new).countP q ≤ 1 := by
  have hset := countP_replaced q hpc pc'
  rw [List.countP_append]
  simp only [List.countP_cons, List.countP_nil] at hq
  omega

end Threads

/-! ## The socket in use -/

/-- There is a socket, and it is to be cleaned up by this goroutine. -/
def usesSocket : Thread → Bool
  | .starting _ .makeReconnectC | .starting _ .connect | .starting _ .spawn => true
  | .writePump | .loop _ | .select _ _ | .sendData _ | .sendPing _ | .sendClose _ => true
  | .reporting _ _ (.closure _ _) => true
  | .closing _ _ .disconnect | .closing _ _ .read | .closing _ _ (.close _) => true
  | _ => false

/-- The flag may be up. -/
def isLive : Thread → Bool
  | .starting _ .spawn => true
  | .writePump | .loop _ | .select _ _ | .sendData _ | .sendPing _ | .sendClose _ => true
  | .reporting _ _ (.closure _ _) | .closing _ _ .disconnect => true
  | _ => false

def CurrentOpen (s : Client) : Prop :=
  ∃ k x, s.webSocket = some k ∧ s.sockets[k]? = some x
    ∧ x.outQueue.closed = false ∧ x.closeC.closed = false

structure SocketsInOrder (s : ClientRun) : Prop where
  owner : s.threads.countP owns ≤ 1
  used : ∀ pc ∈ s.threads, usesSocket pc = true → CurrentOpen s.client
  aimed : ∀ c cause k, .closing c cause (.close k) ∈ s.threads → s.client.webSocket = some k
  live : s.client.connected = true → ∃ pc ∈ s.threads, isLive pc = true
  writes : ∀ pc ∈ s.threads, writePending pc = true → ∃ pc' ∈ s.threads, usesSocket pc' = true
  sends : ∀ data k, .writing data (.send k) ∈ s.threads → k = s.client.webSocket
  force : ∀ (k : Nat) x, s.client.sockets[k]? = some x → x.forceCloseC.closed = false

section Sockets

variable {s : ClientRun} {client : Client} {t : Nat} {pc pc' : Thread} {new : List Thread}
  {ev : Client.Event}

theorem uses_of_live (h : isLive pc = true) : usesSocket pc = true := by
  unfold isLive at h
  split at h <;> first | rfl | cases h

theorem owns_of_uses (h : usesSocket pc = true) : owns pc = true := by
  unfold usesSocket at h
  split at h <;> first | rfl | cases h

/-- Where a goroutine moves on, the use of the socket goes with it. -/
theorem Onward.uses {s : Client} (ho : Onward s ev pc pc') :
    usesSocket pc' = usesSocket pc ∧ isLive pc' = isLive pc
      ∧ (owns pc' = true → owns pc = true) := by
  cases ho with
  | dialFailed caller err =>
      cases caller <;> simp [usesSocket, isLive, owns, Client.afterFailedStart]
  | unreported text next _ => cases next <;> simp [usesSocket, isLive, owns, Next.thread]
  | reportTested text next e _ => cases next <;> simp [usesSocket, isLive, owns]
  | reportRead text next => cases next <;> simp [usesSocket, isLive, owns]
  | notified c cause => cases cause <;> simp [usesSocket, isLive, owns, Client.afterClosure]
  | _ => simp [usesSocket, isLive, owns]

/-- The same for a `Write`, and for the socket a cleanup has read. -/
theorem Onward.pending {s : Client} (ho : Onward s ev pc pc') :
    (writePending pc' = true → writePending pc = true ∨ s.connected = true)
      ∧ (∀ c cause k, pc' = .closing c cause (.close k) → s.webSocket = some k)
      ∧ ∀ data k, pc' = .writing data (.send k) → k = s.webSocket := by
  cases ho with
  | dialFailed caller err => cases caller <;> simp [writePending, Client.afterFailedStart]
  | writeChecked data hconn => simp [writePending, hconn]
  | writeRead data => simp [writePending]
  | unreported text next _ => cases next <;> simp [writePending, Next.thread]
  | cleanupRead c cause k hk => simp [writePending, hk]
  | notified c cause => cases cause <;> simp [writePending, Client.afterClosure]
  | _ => simp [writePending]

/--
A step that leaves the current socket and does not close its channels. The use of the
socket stays with the goroutine or goes to one it starts.
-/
theorem SocketsInOrder.carry (h : SocketsInOrder s) (hpc : s.threads[t]? = some pc)
    (hw : client.webSocket = s.client.webSocket)
    (hopen : CurrentOpen s.client → CurrentOpen client)
    (hforce : ∀ (k : Nat) x, client.sockets[k]? = some x → x.forceCloseC.closed = false)
    (hcount : (pc' :: new).countP owns ≤ [pc].countP owns)
    (huses : ∀ x ∈ pc' :: new, usesSocket x = true → usesSocket pc = true)
    (huser : usesSocket pc = true → ∃ x ∈ pc' :: new, usesSocket x = true)
    (hlive : client.connected = true → (∃ x ∈ pc' :: new, isLive x = true)
      ∨ s.client.connected = true ∧ isLive pc = false)
    (hwrite : ∀ x ∈ pc' :: new, writePending x = true →
      writePending pc = true ∨ s.client.connected = true)
    (haim : ∀ c cause k, .closing c cause (.close k) ∈ pc' :: new → s.client.webSocket = some k)
    (hsend : ∀ data k, .writing data (.send k) ∈ pc' :: new → k = s.client.webSocket) :
    SocketsInOrder { client := client, threads := s.threads.set t pc' ++ new } := by
  have hat := List.mem_of_getElem? hpc
  refine ⟨count_stepped h.owner hpc hcount, ?_, ?_, ?_, ?_, ?_, hforce⟩
  · intro x hx hux
    rcases mem_moved hx with hx | hx
    · exact hopen (h.used x hx hux)
    · exact hopen (h.used pc hat (huses x hx hux))
  · intro c cause k hk
    rw [hw]
    rcases mem_moved hk with hk | hk
    · exact h.aimed c cause k hk
    · exact haim c cause k hk
  · intro hup
    rcases hlive hup with ⟨x, hx, hl⟩ | ⟨hwas, hnot⟩
    · refine ⟨x, ?_, hl⟩
      rcases List.mem_cons.mp hx with rfl | hx
      · exact List.mem_of_getElem? (getElem?_stepped hpc)
      · exact List.mem_append_right _ hx
    · exact exists_stepped hpc (h.live hwas) (by simp [hnot])
  · intro x hx hwx
    have hused : ∃ y ∈ s.threads, usesSocket y = true := by
      have hup : s.client.connected = true → ∃ y ∈ s.threads, usesSocket y = true := by
        intro hup
        obtain ⟨y, hy, hl⟩ := h.live hup
        exact ⟨y, hy, uses_of_live hl⟩
      rcases mem_moved hx with hx | hx
      · exact h.writes x hx hwx
      · exact (hwrite x hx hwx).elim (h.writes pc hat) hup
    exact exists_stepped hpc hused huser
  · intro data k hk
    rw [hw]
    rcases mem_moved hk with hk | hk
    · exact h.sends data k hk
    · exact hsend data k hk

/-- The same, when no goroutine is started. -/
theorem SocketsInOrder.keep (h : SocketsInOrder s) (hpc : s.threads[t]? = some pc)
    (hw : client.webSocket = s.client.webSocket)
    (hopen : CurrentOpen s.client → CurrentOpen client)
    (hforce : ∀ (k : Nat) x, client.sockets[k]? = some x → x.forceCloseC.closed = false)
    (huses : usesSocket pc' = usesSocket pc) (howns : owns pc' = true → owns pc = true)
    (hlive : client.connected = true →
      isLive pc' = true ∨ s.client.connected = true ∧ isLive pc = false)
    (hwrite : writePending pc' = true → writePending pc = true ∨ s.client.connected = true)
    (haim : ∀ c cause k, pc' = .closing c cause (.close k) → s.client.webSocket = some k)
    (hsend : ∀ data k, pc' = .writing data (.send k) → k = s.client.webSocket) :
    SocketsInOrder { client := client, threads := s.threads.set t pc' ++ [] } := by
  refine h.carry hpc hw hopen hforce ?_ (by simp [huses]) (by simp [huses]) (by simpa using hlive)
    (by simpa using hwrite) (fun c cause k hk => haim c cause k (List.mem_singleton.mp hk).symm)
    (fun data k hk => hsend data k (List.mem_singleton.mp hk).symm)
  simp only [List.countP_cons, List.countP_nil]
  split
  · rename_i ho
    simp [howns ho]
  · omega

/-- The flag needs no attention where a goroutine stays live, or stays not. -/
theorem live_of_eq {connected : Bool} (h : isLive pc' = isLive pc) (hup : connected = true) :
    isLive pc' = true ∨ connected = true ∧ isLive pc = false := by
  cases hl : isLive pc with
  | true => exact Or.inl (h.trans hl)
  | false => exact Or.inr ⟨hup, rfl⟩

/-- The channels of a socket are as open as they were. -/
structure SameClosed (x x' : ClientSocket) : Prop where
  outQueue : x'.outQueue.closed = x.outQueue.closed
  closeC : x'.closeC.closed = x.closeC.closed
  forceCloseC : x'.forceCloseC.closed = x.forceCloseC.closed

theorem CurrentOpen.set {c c' : Client} {k : Nat} {x x' : ClientSocket} (h : CurrentOpen c)
    (hx : c.sockets[k]? = some x) (hsame : SameClosed x x') (hw : c'.webSocket = c.webSocket)
    (hsockets : c'.sockets = c.sockets.set k x') : CurrentOpen c' := by
  obtain ⟨i, y, hi, hy, hout, hclose⟩ := h
  by_cases hik : i = k
  · subst hik
    cases hx.symm.trans hy
    refine ⟨i, x', hw.trans hi, ?_, hsame.outQueue.trans hout, hsame.closeC.trans hclose⟩
    rw [hsockets]
    exact List.getElem?_set_self (List.getElem?_eq_some_iff.mp hx).1
  · refine ⟨i, y, hw.trans hi, ?_, hout, hclose⟩
    rw [hsockets, List.getElem?_set_ne (fun e => hik e.symm)]
    exact hy

theorem force_set {sockets : List ClientSocket} {k : Nat} {x x' : ClientSocket}
    (h : ∀ (i : Nat) y, sockets[i]? = some y → y.forceCloseC.closed = false)
    (hx : sockets[k]? = some x) (hsame : x'.forceCloseC.closed = x.forceCloseC.closed) :
    ∀ (i : Nat) y, (sockets.set k x')[i]? = some y → y.forceCloseC.closed = false := by
  intro i y hy
  rcases getElem?_replaced hy with ⟨_, rfl⟩ | ⟨_, hy⟩
  · exact hsame.trans (h k x hx)
  · exact h i y hy

/-- A value goes into or out of a channel of a socket. -/
theorem SocketsInOrder.transfer (h : SocketsInOrder s) (hpc : s.threads[t]? = some pc) {k : Nat}
    {x x' : ClientSocket} (hx : s.client.sockets[k]? = some x) (hsame : SameClosed x x')
    (huses : usesSocket pc' = usesSocket pc) (howns : owns pc' = true → owns pc = true)
    (hlive : isLive pc' = isLive pc) (hwrite : writePending pc' = false)
    (haim : ∀ c cause k, pc' ≠ .closing c cause (.close k)) :
    SocketsInOrder
      { client := s.client.setSocket k x', threads := s.threads.set t pc' ++ [] } := by
  refine h.keep hpc rfl (fun ho => ho.set hx hsame rfl rfl) (force_set h.force hx hsame.forceCloseC)
    huses howns (live_of_eq hlive) (by simp [hwrite])
    (fun c cause k he => absurd he (haim c cause k)) ?_
  rintro data k rfl
  exact absurd hwrite (by simp [writePending])

/-- Besides the owner nobody uses a socket. -/
theorem SocketsInOrder.others (h : SocketsInOrder s) (hpc : s.threads[t]? = some pc)
    (howns : owns pc = true) {u : Nat} (hu : u ≠ t) {x : Thread} (hx : s.threads[u]? = some x) :
    usesSocket x = false := by
  by_contra hux
  exact hu (position_unique h.owner hx hpc (owns_of_uses (by simpa using hux)) howns)

/-- Between two connections the flag is down. -/
theorem SocketsInOrder.down (h : SocketsInOrder s) (hpc : s.threads[t]? = some pc)
    (howns : owns pc = true) (hnot : isLive pc = false) : s.client.connected = false := by
  by_contra hup
  obtain ⟨x, hx, hl⟩ := h.live (by simpa using hup)
  obtain ⟨u, hu⟩ := List.mem_iff_getElem?.mp hx
  by_cases hut : u = t
  · subst hut
    cases hpc.symm.trans hu
    rw [hnot] at hl
    cases hl
  · exact absurd (uses_of_live hl) (by simp [h.others hpc howns hut hu])

/-- The owner makes a socket or is done with one, while no `Write` is past its check. -/
theorem SocketsInOrder.replace (h : SocketsInOrder s) (hpc : s.threads[t]? = some pc)
    (howns : owns pc = true) (hnot : isLive pc = false)
    (hwrites : ∀ x ∈ s.threads, writePending x = false)
    (hconn : client.connected = s.client.connected)
    (hforce : ∀ (k : Nat) x, client.sockets[k]? = some x → x.forceCloseC.closed = false)
    (hused : usesSocket pc' = true → CurrentOpen client) (hwrite : writePending pc' = false)
    (haim : ∀ c cause k, pc' ≠ .closing c cause (.close k)) :
    SocketsInOrder { client := client, threads := s.threads.set t pc' ++ [] } := by
  have hpending : ∀ x ∈ s.threads.set t pc' ++ [], writePending x = false := by
    intro x hx
    rcases mem_threads hx with hx | rfl | hx
    · exact hwrites x hx
    · exact hwrite
    · exact absurd hx (by simp)
  refine ⟨count_stepped h.owner hpc ?_, ?_, ?_, ?_, ?_, ?_, hforce⟩
  · simp only [List.countP_cons, List.countP_nil, howns]
    split <;> simp
  · intro x hx hux
    rcases mem_stepped hx with ⟨u, hut, hu⟩ | rfl | hx
    · exact absurd hux (by simp [h.others hpc howns hut hu])
    · exact hused hux
    · exact absurd hx (by simp)
  · intro c cause k hk
    rcases mem_stepped hk with ⟨u, hut, hu⟩ | hk | hk
    · exact absurd (h.others hpc howns hut hu) (by simp [usesSocket])
    · exact absurd hk.symm (haim c cause k)
    · exact absurd hk (by simp)
  · intro hup
    rw [hconn, h.down hpc howns hnot] at hup
    cases hup
  · intro x hx hw
    rw [hpending x hx] at hw
    cases hw
  · intro data k hk
    exact absurd (hpending _ hk) (by simp [writePending])

/-- Before there is a socket no `Write` passes its check. -/
theorem SocketsInOrder.no_writes (h : SocketsInOrder s) (hpc : s.threads[t]? = some pc)
    (howns : owns pc = true) (hnot : usesSocket pc = false) :
    ∀ x ∈ s.threads, writePending x = false := by
  intro x hx
  by_contra hw
  obtain ⟨y, hy, huy⟩ := h.writes x hx (by simpa using hw)
  obtain ⟨u, hu⟩ := List.mem_iff_getElem?.mp hy
  by_cases hut : u = t
  · subst hut
    cases hpc.symm.trans hu
    rw [hnot] at huy
    cases huy
  · exact absurd huy (by simp [h.others hpc howns hut hu])

theorem socketsInOrder_thread (h : SocketsInOrder s) (hpc : s.threads[t]? = some pc)
    (hok : threadOrderly s pc = true) (hs : Stepped s.client ev pc client pc' new)
    (hpanic : client.panic = none) :
    SocketsInOrder { client := client, threads := s.threads.set t pc' ++ new } := by
  cases hs with
  | onward _ _ ho =>
      obtain ⟨huses, hlive, howns⟩ := ho.uses
      obtain ⟨hwrite, haim, hsend⟩ := ho.pending
      exact h.keep hpc rfl id h.force huses howns (live_of_eq hlive) hwrite haim hsend
  | panics _ p _ => cases hpanic
  | stopPanics k x _ _ _ _ => cases hpanic
  | assign caller =>
      refine h.replace hpc rfl rfl (h.no_writes hpc rfl rfl) rfl ?_ ?_ rfl (by simp)
      · intro k x hx
        rcases getElem?_snoc hx with hx | ⟨_, rfl⟩
        · exact h.force k x hx
        · rfl
      · exact fun _ => ⟨_, .new, rfl, List.getElem?_concat_length, rfl, rfl⟩
  | makeReconnectC caller =>
      exact h.keep hpc rfl id h.force rfl id (live_of_eq rfl) (by simp [writePending]) (by simp)
        (by simp)
  | connect caller =>
      exact h.keep hpc rfl id h.force rfl id (fun _ => Or.inl rfl) (by simp [writePending])
        (by simp) (by simp)
  | spawn caller =>
      refine h.carry hpc rfl id h.force ?_ (fun _ _ _ => rfl) ?_ ?_ ?_ ?_ ?_
      · cases caller <;> decide
      · exact fun _ => ⟨.writePump, by simp, rfl⟩
      · exact fun _ => Or.inl ⟨.writePump, by simp, rfl⟩
      · cases caller <;> simp [writePending, Client.afterStart]
      · cases caller <;> simp [Client.afterStart]
      · cases caller <;> simp [Client.afterStart]
  | stopUnsaid _ =>
      exact h.keep hpc rfl id h.force rfl (by simp [owns]) (by simp) (by simp [writePending])
        (by simp) (by simp)
  | stop k x closeC _ _ hx hclosed =>
      have hsame : SameClosed x { x with closeC := closeC } := ⟨rfl, hclosed, rfl⟩
      exact h.keep hpc rfl (fun ho => ho.set hx hsame rfl rfl) (force_set h.force hx rfl) rfl
        (by simp [owns]) (by simp [Client.setSocket]) (by simp [writePending]) (by simp) (by simp)
  | closeReconnectC rc x _ _ _ =>
      exact h.keep hpc rfl id h.force rfl id (live_of_eq rfl) (by simp [writePending]) (by simp)
        (by simp)
  | closeErrC e x _ _ _ =>
      exact h.keep hpc rfl id h.force rfl id (live_of_eq rfl) (by simp [writePending]) (by simp)
        (by simp)
  | resetErrC =>
      exact h.keep hpc rfl id h.force rfl id (live_of_eq rfl) (by simp [writePending]) (by simp)
        (by simp)
  | write data k x outQueue hx hclosed =>
      exact h.transfer hpc hx ⟨hclosed, rfl, rfl⟩ rfl id rfl rfl (by simp)
  | report text next e x x' _ _ =>
      refine h.keep hpc rfl id h.force ?_ ?_ (live_of_eq ?_) ?_ ?_ ?_
      all_goals cases next
      all_goals simp [usesSocket, owns, isLive, writePending, Next.thread]
  | takeData c k x outQueue hx hclosed =>
      exact h.transfer hpc hx ⟨hclosed, rfl, rfl⟩ rfl id rfl rfl (by simp)
  | takeClose c k x closeC hx hclosed =>
      exact h.transfer hpc hx ⟨rfl, hclosed, rfl⟩ rfl id rfl rfl (by simp)
  | takeForceClose c k x err rest hx _ =>
      exact h.transfer hpc hx ⟨rfl, rfl, rfl⟩ rfl id rfl rfl (by simp)
  | disconnect c cause =>
      exact h.keep hpc rfl id h.force rfl id (by simp) (by simp [writePending]) (by simp) (by simp)
  | cleanup c cause k x hx =>
      have hwrites : ∀ y ∈ s.threads, writePending y = false := by
        simpa [threadOrderly] using hok
      exact h.replace hpc rfl rfl hwrites rfl (force_set h.force hx rfl) (by simp [usesSocket]) rfl
        (by simp)
  | forceClose err k x hx =>
      exact h.transfer hpc hx ⟨rfl, rfl, rfl⟩ rfl id rfl rfl (by simp)

end Sockets

/-! ## The channels `Stop` closes -/

def ReconnectClosed (s : Client) (rc : Nat) : Prop :=
  ∃ x, s.reconnectCs[rc]? = some x ∧ x.closed = true

def ErrClosed (s : Client) (e : Nat) : Prop := ∃ x, s.errCs[e]? = some x ∧ x.closed = true

structure SignalsInOrder (s : ClientRun) : Prop where
  /-- One `Stop` runs at a time. -/
  one : s.threads.countP stops ≤ 1
  /-- The current `reconnectC` is open until it has closed it. -/
  reconnectC : ∀ p, .stopping p ∈ s.threads → pastSignal p = false →
    ∀ rc, s.client.reconnectC = some rc → ¬ ReconnectClosed s.client rc
  /-- The field holds a closed `errC` only until it is reset. -/
  errC : ∀ e, s.client.errC = some e → ErrClosed s.client e → ∃ pc ∈ s.threads, resets pc = true
  /-- What a report found in the field is open. -/
  reads : ∀ text next, .reporting text .read next ∈ s.threads →
    ∀ e, s.client.errC = some e → ¬ ErrClosed s.client e
  sends : ∀ text e next, .reporting text (.send (some e)) next ∈ s.threads →
    ¬ ErrClosed s.client e

section Signals

variable {s : ClientRun} {client : Client} {t : Nat} {pc pc' : Thread} {new : List Thread}
  {ev : Client.Event}

/-- A channel is changed, and is as open as it was. -/
theorem closed_set {α : Type} {cs : List (Chan α)} {i : Nat} {x x' : Chan α}
    (hx : cs[i]? = some x) (hsame : x'.closed = x.closed) {j : Nat}
    (h : ∃ y, (cs.set i x')[j]? = some y ∧ y.closed = true) :
    ∃ y, cs[j]? = some y ∧ y.closed = true := by
  obtain ⟨y, hy, hclosed⟩ := h
  rcases getElem?_replaced hy with ⟨rfl, rfl⟩ | ⟨_, hy⟩
  · exact ⟨x, hx, hsame.symm.trans hclosed⟩
  · exact ⟨y, hy, hclosed⟩

/-- A new channel is open. -/
theorem closed_snoc {α : Type} {cs : List (Chan α)} {n j : Nat}
    (h : ∃ y, (cs ++ [Chan.make n])[j]? = some y ∧ y.closed = true) :
    ∃ y, cs[j]? = some y ∧ y.closed = true := by
  obtain ⟨y, hy, hclosed⟩ := h
  rcases getElem?_snoc hy with hy | ⟨_, rfl⟩
  · exact ⟨y, hy, hclosed⟩
  · cases hclosed

/-- Steps that close no channel, and by which no `Stop` comes to an end. -/
theorem SignalsInOrder.keep (h : SignalsInOrder s) (hpc : s.threads[t]? = some pc)
    (hrc : ∀ rc, client.reconnectC = some rc → ReconnectClosed client rc →
      s.client.reconnectC = some rc ∧ ReconnectClosed s.client rc)
    (herrC : client.errC = s.client.errC)
    (herr : ∀ e, ErrClosed client e → ErrClosed s.client e)
    (hcount : (pc' :: new).countP stops ≤ [pc].countP stops)
    (hstop : ∀ p, .stopping p ∈ pc' :: new → pastSignal p = false →
      ∃ p₀, pc = .stopping p₀ ∧ pastSignal p₀ = false)
    (hresets : resets pc = true → resets pc' = true)
    (hread : ∀ text next, .reporting text .read next ∈ pc' :: new →
      ∀ e, s.client.errC = some e → ¬ ErrClosed s.client e)
    (hsend : ∀ text e next, .reporting text (.send (some e)) next ∈ pc' :: new →
      ¬ ErrClosed s.client e) :
    SignalsInOrder { client := client, threads := s.threads.set t pc' ++ new } := by
  refine ⟨count_stepped h.one hpc hcount, ?_, ?_, ?_, ?_⟩
  · intro p hp hpast rc hcur hclosed
    obtain ⟨hcur, hclosed⟩ := hrc rc hcur hclosed
    rcases mem_moved hp with hp | hp
    · exact h.reconnectC p hp hpast rc hcur hclosed
    · obtain ⟨p₀, rfl, hpast₀⟩ := hstop p hp hpast
      exact h.reconnectC p₀ (List.mem_of_getElem? hpc) hpast₀ rc hcur hclosed
  · intro e hcur hclosed
    refine exists_stepped hpc (h.errC e (herrC ▸ hcur) (herr e hclosed)) fun hr => ?_
    exact ⟨pc', List.mem_cons_self, hresets hr⟩
  · intro text next hx e hcur hclosed
    rcases mem_moved hx with hx | hx
    · exact h.reads text next hx e (herrC ▸ hcur) (herr e hclosed)
    · exact hread text next hx e (herrC ▸ hcur) (herr e hclosed)
  · intro text e next hx hclosed
    rcases mem_moved hx with hx | hx
    · exact h.sends text e next hx (herr e hclosed)
    · exact hsend text e next hx (herr e hclosed)

/-- Steps of goroutines that are not in `Stop`, and go to no report past its check. -/
theorem SignalsInOrder.pass (h : SignalsInOrder s) (hpc : s.threads[t]? = some pc)
    (hrc : client.reconnectC = s.client.reconnectC)
    (hrcs : client.reconnectCs = s.client.reconnectCs)
    (herrC : client.errC = s.client.errC)
    (herr : ∀ e, ErrClosed client e → ErrClosed s.client e)
    (hstops : ∀ x ∈ pc' :: new, stops x = false)
    (hreports : ∀ x ∈ pc' :: new, reportPending x = false) (hresets : resets pc = false) :
    SignalsInOrder { client := client, threads := s.threads.set t pc' ++ new } := by
  refine h.keep hpc ?_ herrC herr ?_ ?_ (by simp [hresets]) ?_ ?_
  · rintro rc hcur ⟨x, hx, hclosed⟩
    exact ⟨hrc ▸ hcur, x, hrcs ▸ hx, hclosed⟩
  · rw [List.countP_eq_zero.mpr (by simpa using hstops)]
    exact Nat.zero_le _
  · intro p hp _
    exact absurd (hstops _ hp) (by simp [stops])
  · intro text next hx
    exact absurd (hreports _ hx) (by simp [reportPending])
  · intro text e next hx
    exact absurd (hreports _ hx) (by simp [reportPending])

/-- After a report a goroutine is neither in `Stop` nor in another report. -/
theorem next_quiet (next : Next) :
    stops next.thread = false ∧ reportPending next.thread = false := by
  cases next <;> exact ⟨rfl, rfl⟩

theorem signals_onward (h : SignalsInOrder s) (hpc : s.threads[t]? = some pc)
    (hok : threadOrderly s pc = true) (ho : Onward s.client ev pc pc') :
    SignalsInOrder { s with threads := s.threads.set t pc' ++ [] } := by
  have hat := List.mem_of_getElem? hpc
  cases ho with
  | dialFailed caller err =>
      cases caller
      all_goals exact h.pass hpc rfl rfl rfl (fun _ he => he) (by simp [stops,
        Client.afterFailedStart]) (by simp [reportPending, Client.afterFailedStart]) rfl
  | notConnected _ =>
      exact h.keep hpc (fun rc hcur hc => ⟨hcur, hc⟩) rfl (fun _ he => he) (by decide)
        (fun p _ _ => ⟨_, rfl, rfl⟩) (by simp [resets]) (by simp) (by simp)
  | hasReconnectC rc _ =>
      exact h.keep hpc (fun rc hcur hc => ⟨hcur, hc⟩) rfl (fun _ he => he) (by decide)
        (fun p _ _ => ⟨_, rfl, rfl⟩) (by simp [resets]) (by simp) (by simp)
  | noReconnectC _ =>
      exact h.keep hpc (fun rc hcur hc => ⟨hcur, hc⟩) rfl (fun _ he => he) (by decide)
        (fun p _ _ => ⟨_, rfl, rfl⟩) (by simp [resets]) (by simp) (by simp)
  | noErrC _ =>
      exact h.pass hpc rfl rfl rfl (fun _ he => he) (by simp [stops]) (by simp [reportPending]) rfl
  | hasErrC e _ =>
      exact h.keep hpc (fun rc hcur hc => ⟨hcur, hc⟩) rfl (fun _ he => he) (by decide)
        (by simp [pastSignal]) (by simp [resets]) (by simp) (by simp)
  | unreported text next _ =>
      exact h.pass hpc rfl rfl rfl (fun _ he => he) (by simp [(next_quiet next).1])
        (by simp [(next_quiet next).2]) rfl
  | reportTested text next e _ =>
      refine h.keep hpc (fun rc hcur hc => ⟨hcur, hc⟩) rfl (fun _ he => he) (by simp [stops])
        (by simp) (by simp [resets]) ?_ (by simp)
      -- the field holds a closed channel only while somebody is about to reset it
      intro text' next' _ e hcur hclosed
      obtain ⟨x, hx, hr⟩ := h.errC e hcur hclosed
      have hnone : ∀ y ∈ s.threads, resets y = false := by simpa [threadOrderly] using hok
      rw [hnone x hx] at hr
      cases hr
  | reportRead text next =>
      refine h.keep hpc (fun rc hcur hc => ⟨hcur, hc⟩) rfl (fun _ he => he) (by simp [stops])
        (by simp) (by simp [resets]) (by simp) ?_
      intro text' e next' hx
      obtain ⟨_, he, _⟩ : text' = text ∧ some e = s.client.errC ∧ next' = next := by
        simpa using hx
      exact h.reads text next hat e he.symm
  | notified c cause =>
      cases cause
      all_goals exact h.pass hpc rfl rfl rfl (fun _ he => he) (by simp [stops,
        Client.afterClosure]) (by simp [reportPending, Client.afterClosure]) rfl
  | _ =>
      exact h.pass hpc rfl rfl rfl (fun _ he => he) (by simp [stops]) (by simp [reportPending]) rfl

/-- Once the only `Stop` is past its signal, nobody has still to signal. -/
theorem SignalsInOrder.signalled (h : SignalsInOrder s) {p p' : Thread}
    (hpc : s.threads[t]? = some p) (hp : stops p = true)
    (hp' : ∀ q, p' = .stopping q → pastSignal q = true) {q : Stopping}
    (hq : .stopping q ∈ s.threads.set t p' ++ []) : pastSignal q = true := by
  rcases mem_stepped hq with ⟨u, hut, hu⟩ | hq | hq
  · exact absurd (position_unique h.one hu hpc rfl hp) hut
  · exact hp' q hq.symm
  · exact absurd hq (by simp)

/-- `Stop` closes the current `reconnectC`, and is past its signal then. -/
theorem SignalsInOrder.signal (h : SignalsInOrder s)
    (hpc : s.threads[t]? = some (.stopping .closeReconnectC)) {rc : Nat} {x : Chan Unit} :
    SignalsInOrder
      { client := { s.client with reconnectCs := s.client.reconnectCs.set rc x }
        threads := s.threads.set t (.stopping .testErrC) ++ [] } where
  one := count_stepped h.one hpc (by decide)
  reconnectC p hp hpast := by
    have hpast' := h.signalled hpc rfl (by rintro q ⟨⟩; rfl) hp
    rw [hpast'] at hpast
    cases hpast
  errC e hcur hclosed := exists_stepped hpc (h.errC e hcur hclosed) (by simp [resets])
  reads text next hx := by
    rcases mem_threads hx with hx | hx | hx
    · exact h.reads text next hx
    · cases hx
    · exact absurd hx (by simp)
  sends text e next hx := by
    rcases mem_threads hx with hx | hx | hx
    · exact h.sends text e next hx
    · cases hx
    · exact absurd hx (by simp)

/-- `Stop` closes `errC` or resets the field, while no report is past its check or finds one. -/
theorem SignalsInOrder.errorsEnd (h : SignalsInOrder s) {p p' : Thread}
    (hpc : s.threads[t]? = some p) (hp : stops p = true)
    (hp' : ∀ q, p' = .stopping q → pastSignal q = true) (hcount : reportPending p' = false)
    (herrC : ∀ e, client.errC = some e → resets p' = true)
    (hreads : ∀ text next, .reporting text .read next ∈ s.threads → client.errC = none)
    (hsends : ∀ text e next, .reporting text (.send (some e)) next ∈ s.threads →
      ¬ ErrClosed client e) :
    SignalsInOrder { client := client, threads := s.threads.set t p' ++ [] } := by
  refine ⟨count_stepped h.one hpc ?_, ?_, ?_, ?_, ?_⟩
  · simp only [List.countP_cons, List.countP_nil, hp]
    split <;> simp
  · intro q hq hpast
    rw [h.signalled hpc hp hp' hq] at hpast
    cases hpast
  · intro e hcur _
    exact ⟨p', List.mem_of_getElem? (getElem?_stepped hpc), herrC e hcur⟩
  · intro text next hx e hcur
    rcases mem_moved hx with hx | hx
    · rw [hreads text next hx] at hcur
      cases hcur
    · rw [← List.mem_singleton.mp hx] at hcount
      cases hcount
  · intro text e next hx
    rcases mem_moved hx with hx | hx
    · exact hsends text e next hx
    · rw [← List.mem_singleton.mp hx] at hcount
      cases hcount

theorem signalsInOrder_thread (h : SignalsInOrder s) (hpc : s.threads[t]? = some pc)
    (hok : threadOrderly s pc = true) (hs : Stepped s.client ev pc client pc' new)
    (hpanic : client.panic = none) :
    SignalsInOrder { client := client, threads := s.threads.set t pc' ++ new } := by
  cases hs with
  | onward _ _ ho => exact signals_onward h hpc hok ho
  | panics _ p _ => cases hpanic
  | stopPanics k x _ _ _ _ => cases hpanic
  | makeReconnectC caller =>
      refine h.keep hpc ?_ rfl (fun _ he => he) (by simp [stops]) (by simp) (by simp [resets])
        (by simp) (by simp)
      -- the new channel is open
      rintro rc hcur ⟨x, hx, hclosed⟩
      cases hcur
      rw [List.getElem?_concat_length] at hx
      cases hx
      cases hclosed
  | spawn caller =>
      refine h.pass hpc rfl rfl rfl (fun _ he => he) ?_ ?_ rfl
      · cases caller <;> simp [stops, Client.afterStart]
      · cases caller <;> simp [reportPending, Client.afterStart]
  | stopUnsaid _ =>
      exact h.keep hpc (fun rc hcur hc => ⟨hcur, hc⟩) rfl (fun _ he => he) (by decide)
        (fun p _ _ => ⟨_, rfl, rfl⟩) (by simp [resets]) (by simp) (by simp)
  | stop k x closeC _ _ _ _ =>
      exact h.keep hpc (fun rc hcur hc => ⟨hcur, hc⟩) rfl (fun _ he => he) (by decide)
        (fun p _ _ => ⟨_, rfl, rfl⟩) (by simp [resets]) (by simp) (by simp)
  | closeReconnectC rc x _ _ _ => exact h.signal hpc
  | closeErrC e x _ _ _ =>
      have hnone : ∀ y ∈ s.threads, reportPending y = false := by simpa [threadOrderly] using hok
      refine h.errorsEnd hpc rfl (by rintro q ⟨⟩; rfl) rfl (fun _ _ => rfl) ?_ ?_
      · intro text next hx
        exact absurd (hnone _ hx) (by simp [reportPending])
      · intro text e next hx
        exact absurd (hnone _ hx) (by simp [reportPending])
  | resetErrC =>
      exact h.errorsEnd hpc rfl (by simp) rfl (by simp) (fun _ _ _ => rfl) h.sends
  | report text next e x x' hx hclosed =>
      exact h.pass hpc rfl rfl rfl (fun _ he => closed_set hx hclosed he)
        (by simp [(next_quiet next).1]) (by simp [(next_quiet next).2]) rfl
  | _ =>
      exact h.pass hpc rfl rfl rfl (fun _ he => he) (by simp [stops]) (by simp [reportPending]) rfl

end Signals

/-! ## Runs -/

structure InOrder (s : ClientRun) : Prop where
  sockets : SocketsInOrder s
  signals : SignalsInOrder s

section

variable {s : ClientRun} {client : Client} {t : Nat} {pc pc' : Thread} {new : List Thread}
  {ev : Client.Event}

/-- Whatever takes the process down, it is no closed channel. -/
theorem InOrder.cause (h : InOrder s) (hpc : s.threads[t]? = some pc) {p : Panic}
    (hp : PanicCause s.client pc p) : p ≠ .closedChannel := by
  have hat := List.mem_of_getElem? hpc
  cases hp with
  | reconnectC rc x hcur hx hclosed =>
      exact absurd ⟨x, hx, hclosed⟩ (h.signals.reconnectC _ hat rfl rc hcur)
  | errC e x hcur hx hclosed =>
      -- whoever is about to reset the field would be a second call of `Stop`
      obtain ⟨y, hy, hr⟩ := h.signals.errC e hcur ⟨x, hx, hclosed⟩
      obtain ⟨u, hu⟩ := List.mem_iff_getElem?.mp hy
      have hstop : stops y = true := by
        unfold resets at hr
        split at hr
        · rfl
        · cases hr
      have hut := position_unique h.signals.one hu hpc hstop rfl
      subst hut
      cases hpc.symm.trans hu
      cases hr
  | write data k x hx hclosed =>
      obtain ⟨y, hy, huses⟩ := h.sockets.writes _ hat rfl
      obtain ⟨i, z, hi, hz, hopen, _⟩ := h.sockets.used y hy huses
      have hk := h.sockets.sends data (some k) hat
      rw [hi] at hk
      cases hk
      cases hz.symm.trans hx
      rw [hopen] at hclosed
      cases hclosed
  | report text next e x hx hclosed =>
      exact absurd ⟨x, hx, hclosed⟩ (h.signals.sends text e next hat)
  | cleanup c cause k x hx hclosed =>
      obtain ⟨i, z, hi, hz, hout, hclose⟩ := h.sockets.used _ hat rfl
      cases hi.symm.trans (h.sockets.aimed c cause k hat)
      cases hz.symm.trans hx
      rw [hout, hclose] at hclosed
      exact absurd hclosed (by simp)
  | forceClose err k x hx hclosed =>
      rw [h.sockets.force k x hx] at hclosed
      cases hclosed
  | _ => simp

theorem InOrder.panic (h : InOrder s) (hpc : s.threads[t]? = some pc)
    (hs : Stepped s.client ev pc client pc' new) (hnone : s.client.panic = none) :
    client.panic ≠ some .closedChannel := by
  cases hs with
  | panics _ p hp => exact fun he => h.cause hpc hp (Option.some.inj he)
  | stopPanics k x hup hk hx hclosed =>
      obtain ⟨y, hy, hl⟩ := h.sockets.live hup
      obtain ⟨i, z, hi, hz, _, hopen⟩ := h.sockets.used y hy (uses_of_live hl)
      cases hi.symm.trans hk
      cases hz.symm.trans hx
      rw [hopen] at hclosed
      cases hclosed
  | _ => simp [Client.setSocket, hnone]

theorem SocketsInOrder.call (h : SocketsInOrder s) {a : ClientRun.Action}
    (ha : a.entry = some pc) (hok : orderly s a = true) :
    SocketsInOrder { s with threads := s.threads ++ [pc] } := by
  have hpc : usesSocket pc = false ∧ isLive pc = false ∧ writePending pc = false := by
    cases a <;> cases ha <;> exact ⟨rfl, rfl, rfl⟩
  have howner : (s.threads ++ [pc]).countP owns ≤ 1 := by
    rw [List.countP_append]
    cases a with
    | start valid | startWithRetries valid =>
        cases ha
        have hnone : s.threads.countP owns = 0 := by
          simpa [orderly, List.countP_eq_zero] using hok
        simp [hnone, owns]
    | stop | write data =>
        cases ha
        exact h.owner
    | errors | receiveError e | thread t ev => cases ha
  refine ⟨howner, ?_, ?_, ?_, ?_, ?_, h.force⟩
  · intro x hx hux
    rcases mem_called hx with hx | rfl
    · exact h.used x hx hux
    · rw [hpc.1] at hux
      cases hux
  · intro c cause k hk
    rcases mem_called hk with hk | rfl
    · exact h.aimed c cause k hk
    · exact absurd hpc.1 (by simp [usesSocket])
  · intro hup
    obtain ⟨x, hx, hl⟩ := h.live hup
    exact ⟨x, List.mem_append_left _ hx, hl⟩
  · intro x hx hw
    rcases mem_called hx with hx | rfl
    · obtain ⟨y, hy, huy⟩ := h.writes x hx hw
      exact ⟨y, List.mem_append_left _ hy, huy⟩
    · rw [hpc.2.2] at hw
      cases hw
  · intro data k hk
    rcases mem_called hk with hk | rfl
    · exact h.sends data k hk
    · exact absurd hpc.2.2 (by simp [writePending])

theorem SignalsInOrder.call (h : SignalsInOrder s) {a : ClientRun.Action}
    (ha : a.entry = some pc) (hok : orderly s a = true) :
    SignalsInOrder { s with threads := s.threads ++ [pc] } := by
  have hpc : reportPending pc = false := by
    cases a <;> cases ha <;> rfl
  -- a call of `Stop` is the only one, and finds its channel open
  have hstop : (s.threads ++ [pc]).countP stops ≤ 1 ∧ ∀ p, pc = .stopping p →
      ∀ rc, s.client.reconnectC = some rc → ¬ ReconnectClosed s.client rc := by
    rw [List.countP_append]
    cases a with
    | start valid | startWithRetries valid | write data =>
        cases ha
        exact ⟨h.one, by simp⟩
    | stop =>
        cases ha
        obtain ⟨hnone, hopen⟩ := Bool.and_eq_true_iff.mp hok
        have hzero : s.threads.countP stops = 0 := by simpa [List.countP_eq_zero] using hnone
        rw [hzero]
        refine ⟨by decide, ?_⟩
        rintro p _ rc hcur ⟨x, hx, hclosed⟩
        simp [hcur, hx, hclosed] at hopen
    | errors | receiveError e | thread t ev => cases ha
  refine ⟨hstop.1, ?_, ?_, ?_, ?_⟩
  · intro p hp hpast
    rcases mem_called hp with hp | hp
    · exact h.reconnectC p hp hpast
    · exact hstop.2 p hp.symm
  · intro e hcur hclosed
    obtain ⟨x, hx, hr⟩ := h.errC e hcur hclosed
    exact ⟨x, List.mem_append_left _ hx, hr⟩
  · intro text next hx
    rcases mem_called hx with hx | rfl
    · exact h.reads text next hx
    · cases hpc
  · intro text e next hx
    rcases mem_called hx with hx | rfl
    · exact h.sends text e next hx
    · cases hpc

/-- The user asks for the errors; a channel made for them is open. -/
theorem SignalsInOrder.errors (h : SignalsInOrder s) :
    SignalsInOrder { s with client := { s.client with
      errCs := s.client.errCs ++ [.make 1], errC := some s.client.errCs.length } } := by
  have hopen : ∀ e, ErrClosed { s.client with
      errCs := s.client.errCs ++ [.make 1], errC := some s.client.errCs.length } e →
      ErrClosed s.client e ∧ e < s.client.errCs.length := by
    intro e he
    obtain ⟨x, hx, hclosed⟩ := closed_snoc he
    exact ⟨⟨x, hx, hclosed⟩, (List.getElem?_eq_some_iff.mp hx).1⟩
  refine ⟨h.one, h.reconnectC, ?_, ?_, ?_⟩
  · intro e hcur hclosed
    cases hcur
    exact absurd (hopen _ hclosed).2 (Nat.lt_irrefl _)
  · intro text next _ e hcur hclosed
    cases hcur
    exact absurd (hopen _ hclosed).2 (Nat.lt_irrefl _)
  · intro text e next hx hclosed
    exact h.sends text e next hx (hopen e hclosed).1

/-- The user takes an error. -/
theorem SignalsInOrder.receive (h : SignalsInOrder s) {e : Nat} {x x' : Chan String}
    (hx : s.client.errCs[e]? = some x) (hclosed : x'.closed = x.closed) :
    SignalsInOrder { s with client := { s.client with errCs := s.client.errCs.set e x' } } :=
  ⟨h.one, h.reconnectC, fun i hcur hc => h.errC i hcur (closed_set hx hclosed hc),
    fun text next hr i hcur hc => h.reads text next hr i hcur (closed_set hx hclosed hc),
    fun text i next hr hc => h.sends text i next hr (closed_set hx hclosed hc)⟩

theorem inOrder_act {s' : ClientRun} {a : ClientRun.Action} (h : InOrder s)
    (hok : orderly s a = true) (hact : s.act a = some s') :
    s'.client.panic ≠ some .closedChannel ∧ (s'.client.panic = none → InOrder s') := by
  obtain ⟨hmove, hnone⟩ := act_runMove hact
  cases hmove with
  | errors _ =>
      refine ⟨by simp [hnone], fun _ => ⟨?_, h.signals.errors⟩⟩
      exact ⟨h.sockets.owner, h.sockets.used, h.sockets.aimed, h.sockets.live, h.sockets.writes,
        h.sockets.sends, h.sockets.force⟩
  | errorsAgain => exact ⟨by simp [hnone], fun _ => h⟩
  | receiveError e x x' hx hclosed =>
      refine ⟨by simp [hnone], fun _ => ⟨?_, h.signals.receive hx hclosed⟩⟩
      exact ⟨h.sockets.owner, h.sockets.used, h.sockets.aimed, h.sockets.live, h.sockets.writes,
        h.sockets.sends, h.sockets.force⟩
  | call _ pc hentry =>
      exact ⟨by simp [hnone], fun _ => ⟨h.sockets.call hentry hok, h.signals.call hentry hok⟩⟩
  | thread t ev pc client pc' new hpc hs =>
      have hthread : threadOrderly s pc = true := by simpa [orderly, hpc] using hok
      exact ⟨h.panic hpc hs hnone, fun hp =>
        ⟨socketsInOrder_thread h.sockets hpc hthread hs hp,
          signalsInOrder_thread h.signals hpc hthread hs hp⟩⟩

/--
**No channel is operated on after its close**, in runs whose steps all meet the condition:
no step sends on a closed channel or closes one again.
-/
theorem no_closed_channel_used
    (h : ReachableWhile ClientRun.machine (fun s a => orderly s a = true) s) :
    s.client.panic ≠ some .closedChannel := by
  have hinv := ReachableWhile.invariant
    (P := fun s => s.client.panic ≠ some .closedChannel ∧ (s.client.panic = none → InOrder s))
    ?_ ?_ h
  · exact hinv.1
  · rintro s rfl
    refine ⟨by simp [ClientRun.start, Client.new], fun _ => ⟨?_, ?_⟩⟩
    · exact ⟨by simp [ClientRun.start], by simp [ClientRun.start], by simp [ClientRun.start],
        by simp [ClientRun.start, Client.new], by simp [ClientRun.start],
        by simp [ClientRun.start], by simp [ClientRun.start, Client.new]⟩
    · exact ⟨by simp [ClientRun.start], by simp [ClientRun.start],
        by simp [ClientRun.start, Client.new], by simp [ClientRun.start],
        by simp [ClientRun.start]⟩
  · intro s a s' _ hinv hok hact
    exact inOrder_act (hinv.2 (act_runMove hact).2) hok hact

end

/-- A message is written, the connection is lost and cleaned up, and the user stops the client. -/
def orderlyRun : List ClientRun.Action :=
  ClientRun.connecting 0 ++ ClientRun.pumping 1 2 ++ .write [1] :: ClientRun.going 3 3
    ++ .thread 1 .data :: ClientRun.going 1 2 ++ ClientRun.losing 1
    ++ .errors :: .stop :: ClientRun.going 4 6

theorem orderly_run_uses_open_channels :
    ∃ s, ReachableWhile ClientRun.machine (fun s a => orderly s a = true) s
      ∧ s.client.sockets.map (fun x => (x.outQueue.closed, x.closeC.closed)) = [(true, true)]
      ∧ s.client.reconnectCs.map Chan.closed = [true] ∧ s.client.errCs.map Chan.closed = [true]
      ∧ s.client.panic ≠ some .closedChannel := by
  have hrun : ∃ s, ClientRun.machine.runWhile orderly ClientRun.start orderlyRun = some s
      ∧ s.client.sockets.map (fun x => (x.outQueue.closed, x.closeC.closed)) = [(true, true)]
      ∧ s.client.reconnectCs.map Chan.closed = [true]
      ∧ s.client.errCs.map Chan.closed = [true] := ⟨_, rfl, rfl, rfl, rfl⟩
  obtain ⟨s, hs, hsockets, hrcs, herrs⟩ := hrun
  have hreach : ReachableWhile ClientRun.machine (fun s a => orderly s a = true) s :=
    ReachableWhile.runWhile (fun _ _ h => h) (.init rfl) _ hs
  exact ⟨s, hreach, hsockets, hrcs, herrs, no_closed_channel_used hreach⟩

/-- `Stop` is called twice. -/
def stopTwice : List ClientRun.Action :=
  ClientRun.connecting 0 ++ .stop :: ClientRun.going 3 4 ++ .stop :: ClientRun.going 4 3

/-- The connection is lost between the check of a `Write` and its send. -/
def writeToLost : List ClientRun.Action :=
  ClientRun.connecting 0 ++ ClientRun.pumping 1 2 ++ .write [1] :: ClientRun.going 3 2
    ++ ClientRun.losing 1 ++ ClientRun.going 3 1

/-- `Stop` closes `errC` while a failed ping is reported. -/
def reportToClosed : List ClientRun.Action :=
  ClientRun.connecting 0 ++ ClientRun.pumping 1 2
    ++ [.errors, .thread 1 .ping, .thread 1 (.fails "broken pipe")] ++ ClientRun.going 1 2
    ++ .stop :: ClientRun.going 3 5 ++ ClientRun.going 1 1

/-- A second `Stop`, a `Write` and a report each take the process down. -/
theorem closed_channels_used :
    (∃ s, ClientRun.machine.run ClientRun.start stopTwice = some s
      ∧ s.client.panic = some .closedChannel)
    ∧ (∃ s, ClientRun.machine.run ClientRun.start writeToLost = some s
      ∧ s.client.panic = some .closedChannel)
    ∧ ∃ s, ClientRun.machine.run ClientRun.start reportToClosed = some s
      ∧ s.client.panic = some .closedChannel :=
  ⟨⟨_, rfl, rfl⟩, ⟨_, rfl, rfl⟩, _, rfl, rfl⟩

end OcppGo.Proof
