import OcppGo.Proof.SocketChannels
import OcppGo.Proof.SocketTraffic
import OcppGo.Ws.ClientTraffic

/-!
# What becomes of messages the client writes

The client's `writePump` keeps the connection it started with, but takes the queue
from the client's field at every turn. After another `Start` the field holds the new
socket, and a writer that is still alive writes what is meant for the new connection
to the old one.

`Start` is therefore called only when no connection is being made or used. The
writers that reconnect by themselves do keep to this: they call `Start` after the
cleanup and return afterwards. One writer at a time is left, its connection is the
one in the field, and the queue it takes from is open. Then the client loses two
messages of each connection at most, as the server does, whatever `Stop`, `Write`,
the network and the handlers do.
-/

namespace OcppGo.Proof

open OcppGo.Lib OcppGo.Ws

/-- `Start` is called only when nobody owns a connection. -/
def startsAlone (s : ClientRun) : ClientRun.Action → Bool
  | .start _ | .startWithRetries _ => s.threads.all fun pc => !owns pc
  | _ => true

/-! ## What a step does to the queues -/

def clientQueues (s : Client) : List (Chan (List UInt8)) :=
  s.sockets.map ClientSocket.outQueue

/-- Nothing goes into a queue or out of it. -/
inductive KeepsQueues (queues : List (Chan (List UInt8))) : List (Chan (List UInt8)) → Prop where
  | same : KeepsQueues queues queues
  | enter : KeepsQueues queues (queues ++ [.make 1])
  | set {k : Nat} {c c' : Chan (List UInt8)} : queues[k]? = some c → c'.items = c.items →
      c'.capacity = c.capacity → KeepsQueues queues (queues.set k c')

/-- A step of a goroutine, as far as the queues and the record are concerned. -/
inductive LineStep (t : ClientTraffic) (n : Nat) (ev : Client.Event) :
    Thread → Client → Thread → List Thread → ClientTraffic → Prop where
  | send {data : List UInt8} {k : Nat} {x : ClientSocket} {q : Chan (List UInt8)} :
      t.run.client.sockets[k]? = some x → x.outQueue.send data = .sent q →
      LineStep t n ev (.writing data (.send (some k)))
        (t.run.client.setSocket k { x with outQueue := q }) .returned []
        { t with queued := t.queued ++ [{ call := n, socket := k, data := data }] }
  | take {c k : Nat} {x : ClientSocket} {data : List UInt8} {q : Chan (List UInt8)} :
      t.run.client.sockets[k]? = some x → x.outQueue.recv = .value data q →
      LineStep t n ev (.select c (some k)) (t.run.client.setSocket k { x with outQueue := q })
        (.sendData c) [] (t.setLine c ((t.lines c).take data))
  | takeNothing {c k : Nat} {x : ClientSocket} :
      t.run.client.sockets[k]? = some x → x.outQueue.recv = .closed →
      LineStep t n ev (.select c (some k)) t.run.client (.sendData c) []
        (t.setLine c ((t.lines c).take []))
  | deliver {c : Nat} :
      LineStep t n ev (.sendData c) t.run.client (.loop c) [] (t.setLine c (t.lines c).deliver)
  | keep {pc : Thread} {client : Client} {pc' : Thread} {new : List Thread} :
      Stepped t.run.client ev pc client pc' new →
      KeepsQueues (clientQueues t.run.client) (clientQueues client) →
      (∀ c, pc = .sendData c → pc' ≠ .loop c) →
      (∀ data k, pc = .writing data (.send (some k)) → client.panic ≠ none) →
      LineStep t n ev pc client pc' new t

section Steps

variable {s : Client} {client : Client} {ev : Client.Event} {pc pc' : Thread} {new : List Thread}
  {k : Nat} {x y : ClientSocket}

theorem clientQueues_get (hk : s.sockets[k]? = some x) :
    (clientQueues s)[k]? = some x.outQueue := by
  rw [clientQueues, List.getElem?_map, hk]
  rfl

theorem clientQueues_set :
    clientQueues (s.setSocket k y) = (clientQueues s).set k y.outQueue := List.map_set

theorem KeepsQueues.setSocket (hk : s.sockets[k]? = some x)
    (hitems : y.outQueue.items = x.outQueue.items)
    (hcapacity : y.outQueue.capacity = x.outQueue.capacity) :
    KeepsQueues (clientQueues s) (clientQueues (s.setSocket k y)) := by
  rw [clientQueues_set]
  exact .set (clientQueues_get hk) hitems hcapacity

/-- Only a `Write` and a `writePump` in its `select` touch what is queued. -/
theorem Stepped.keepsQueues (hs : Stepped s ev pc client pc' new)
    (hwrite : ∀ data k, pc ≠ .writing data (.send (some k)))
    (hselect : ∀ c k, pc ≠ .select c (some k)) :
    KeepsQueues (clientQueues s) (clientQueues client) := by
  cases hs with
  | onward _ _ _ => exact .same
  | panics _ _ _ => exact .same
  | assign caller =>
      have hqueues : (s.sockets ++ [ClientSocket.new]).map ClientSocket.outQueue
          = clientQueues s ++ [.make 1] := by
        rw [List.map_append]
        rfl
      unfold clientQueues
      rw [hqueues]
      exact .enter
  | makeReconnectC _ => exact .same
  | connect _ => exact .same
  | spawn _ => exact .same
  | stopPanics _ _ _ _ _ _ => exact .same
  | stopUnsaid _ => exact .same
  | stop k x closeC _ _ hx _ =>
      exact KeepsQueues.setSocket (s := { s with connected := false }) hx rfl rfl
  | closeReconnectC _ _ _ _ _ => exact .same
  | closeErrC _ _ _ _ _ => exact .same
  | resetErrC => exact .same
  | write data k _ _ _ _ => exact absurd rfl (hwrite data k)
  | report _ _ _ _ _ _ _ => exact .same
  | takeData c k _ _ _ _ => exact absurd rfl (hselect c k)
  | takeClose c k _ _ _ _ => exact absurd rfl (hselect c k)
  | takeForceClose c k _ _ _ _ _ => exact absurd rfl (hselect c k)
  | disconnect _ _ => exact .same
  | cleanup c cause k x hx => exact .setSocket hx rfl rfl
  | forceClose err k x hx => exact .setSocket hx rfl rfl

end Steps

section

variable {t : ClientTraffic} {n : Nat} {ev : Client.Event} {o : Client.Outcome}

theorem write_lineStep {data : List UInt8} {k : Nat}
    (ho : t.run.client.step ev (.writing data (.send (some k))) = some o) :
    LineStep t n ev (.writing data (.send (some k))) o.client o.next o.spawned
      (t.noteThread n ev (.writing data (.send (some k)))) := by
  have hstepped := step_stepped ho
  obtain ⟨x, hx, hs⟩ := Option.bind_eq_some_iff.mp ho
  simp only [ClientTraffic.noteThread, ClientTraffic.noteSend, hx]
  split at hs
  · exact absurd hs (by simp)
  · rename_i hsend
    cases hs
    rw [hsend]
    exact .keep hstepped .same (by simp) (by simp [Client.panics])
  · rename_i q hsend
    cases hs
    rw [hsend]
    exact .send hx hsend

theorem select_lineStep {c k : Nat}
    (ho : t.run.client.step ev (.select c (some k)) = some o) :
    LineStep t n ev (.select c (some k)) o.client o.next o.spawned
      (t.noteThread n ev (.select c (some k))) := by
  have hstepped := step_stepped ho
  unfold Client.step at ho
  simp only [ClientTraffic.noteThread]
  cases ev with
  | ping =>
      cases ho
      exact .keep hstepped .same (by simp) (by simp)
  | data =>
      simp only [Option.bind_some] at ho
      obtain ⟨x, hx, hs⟩ := Option.bind_eq_some_iff.mp ho
      simp only [Client.selectStep] at hs
      simp only [ClientTraffic.noteTaken, hx, if_true]
      split at hs
      · exact absurd hs (by simp)
      · rename_i hrecv
        cases hs
        rw [hrecv]
        exact .takeNothing hx hrecv
      · rename_i data q hrecv
        cases hs
        rw [hrecv]
        exact .take hx hrecv
  | close =>
      simp only [Option.bind_some] at ho
      obtain ⟨x, hx, hs⟩ := Option.bind_eq_some_iff.mp ho
      simp only [Client.selectStep] at hs
      split at hs
      · exact absurd hs (by simp)
      · cases hs
        exact .keep hstepped .same (by simp) (by simp)
      · cases hs
        exact .keep hstepped (.setSocket hx rfl rfl) (by simp) (by simp)
  | forceClose =>
      simp only [Option.bind_some] at ho
      obtain ⟨x, hx, hs⟩ := Option.bind_eq_some_iff.mp ho
      simp only [Client.selectStep] at hs
      split at hs
      · exact absurd hs (by simp)
      · cases hs
        exact .keep hstepped .same (by simp) (by simp)
      · cases hs
        exact .keep hstepped (.setSocket hx rfl rfl) (by simp) (by simp)
  | _ =>
      simp only [Option.bind_some] at ho
      obtain ⟨x, hx, hs⟩ := Option.bind_eq_some_iff.mp ho
      exact absurd hs (by simp [Client.selectStep])

theorem sendData_lineStep {c : Nat} (ho : t.run.client.step ev (.sendData c) = some o) :
    LineStep t n ev (.sendData c) o.client o.next o.spawned (t.noteThread n ev (.sendData c)) := by
  have hstepped := step_stepped ho
  unfold Client.step at ho
  simp only [ClientTraffic.noteThread]
  cases ev with
  | go =>
      cases ho
      exact .deliver
  | fails err =>
      cases ho
      exact .keep hstepped .same (by simp [Client.goes]) (by simp)
  | _ => exact absurd ho (by simp)

theorem step_lineStep {pc : Thread} (ho : t.run.client.step ev pc = some o) :
    LineStep t n ev pc o.client o.next o.spawned (t.noteThread n ev pc) := by
  have hother : (∀ data k, pc ≠ .writing data (.send (some k))) →
      (∀ c k, pc ≠ .select c (some k)) → (∀ c, pc ≠ .sendData c) →
      LineStep t n ev pc o.client o.next o.spawned t := by
    intro hwrite hselect hsend
    have hstepped := step_stepped ho
    exact .keep hstepped (hstepped.keepsQueues hwrite hselect)
      (fun c e => absurd e (hsend c)) (fun data k e => absurd e (hwrite data k))
  unfold ClientTraffic.noteThread
  split
  · exact write_lineStep ho
  · exact select_lineStep ho
  · exact sendData_lineStep ho
  · rename_i hwrite hselect hsend
    exact hother hwrite hselect hsend

end

/-! ## One writer, on the connection in the field -/

/-- The socket in the field, with its queue open. -/
def Current (s : Client) (c : Nat) : Prop :=
  s.webSocket = some c ∧ ∃ x, s.sockets[c]? = some x ∧ x.outQueue.closed = false

/-- What a goroutine that owns the connection may rely on. -/
def OwnerOk (s : Client) (lines : Nat → Conveyor (List UInt8)) : Thread → Prop
  | .starting _ .makeReconnectC | .starting _ .connect | .starting _ .spawn | .writePump =>
      ∃ c, Current s c ∧ (lines c).carrying = none
  | .loop c | .sendPing c => Current s c ∧ (lines c).carrying = none
  | .select c k => k = some c ∧ Current s c ∧ (lines c).carrying = none
  | .sendData c => Current s c
  | _ => True

structure OneWriter (t : ClientTraffic) : Prop where
  owner : t.run.threads.countP owns ≤ 1
  ok : ∀ pc ∈ t.run.threads, OwnerOk t.run.client t.lines pc
  lines : Conveyors 1 (clientQueues t.run.client) t.lines (dataFor t.queued)

section Owner

variable {s client : Client} {lines : Nat → Conveyor (List UInt8)} {ev : Client.Event}
  {pc pc' : Thread} {new : List Thread} {c k : Nat} {x y : ClientSocket}

/-- Who does not own a connection relies on nothing. -/
theorem ownerOk_of_not_owns (h : owns pc = false) : OwnerOk s lines pc := by
  unfold OwnerOk
  split <;> trivial

theorem OwnerOk.mono (h : OwnerOk s lines pc) (hcurrent : ∀ c, Current s c → Current client c) :
    OwnerOk client lines pc := by
  unfold OwnerOk at h ⊢
  split
  · obtain ⟨c, hc, hidle⟩ := h
    exact ⟨c, hcurrent c hc, hidle⟩
  · obtain ⟨c, hc, hidle⟩ := h
    exact ⟨c, hcurrent c hc, hidle⟩
  · obtain ⟨c, hc, hidle⟩ := h
    exact ⟨c, hcurrent c hc, hidle⟩
  · obtain ⟨c, hc, hidle⟩ := h
    exact ⟨c, hcurrent c hc, hidle⟩
  · exact ⟨hcurrent _ h.1, h.2⟩
  · exact ⟨hcurrent _ h.1, h.2⟩
  · exact ⟨h.1, hcurrent _ h.2.1, h.2.2⟩
  · exact hcurrent _ h
  · trivial

theorem Current.setSocket (h : Current s c) (hk : s.sockets[k]? = some x)
    (hclosed : y.outQueue.closed = x.outQueue.closed) : Current (s.setSocket k y) c := by
  obtain ⟨hw, z, hz, hopen⟩ := h
  refine ⟨hw, ?_⟩
  by_cases hck : c = k
  · subst hck
    cases hk.symm.trans hz
    exact ⟨y, List.getElem?_set_self (List.getElem?_eq_some_iff.mp hk).1, hclosed.trans hopen⟩
  · exact ⟨z, (List.getElem?_set_ne fun e => hck e.symm).trans hz, hopen⟩

/-- Two steps change which socket is current and open, and the owner takes both. -/
theorem Stepped.current (hs : Stepped s ev pc client pc' new)
    (hassign : ∀ caller, pc ≠ .starting caller .assign)
    (hcleanup : ∀ c cause k, pc ≠ .closing c cause (.close k)) (h : Current s c) :
    Current client c := by
  cases hs with
  | assign caller => exact absurd rfl (hassign caller)
  | cleanup d cause k _ _ => exact absurd rfl (hcleanup d cause k)
  | stop k x closeC _ _ hx _ =>
      have hdown : Current { s with connected := false } c := h
      exact hdown.setSocket hx rfl
  | write data k x q hx hclosed => exact h.setSocket hx hclosed
  | takeData d k x q hx hclosed => exact h.setSocket hx hclosed
  | takeClose d k x closeC hx _ => exact h.setSocket hx rfl
  | takeForceClose d k x err rest hx _ => exact h.setSocket hx rfl
  | forceClose err k x hx => exact h.setSocket hx rfl
  | _ => exact h

/-- Nobody becomes an owner but by taking over. -/
theorem Stepped.owns_le (hs : Stepped s ev pc client pc' new) :
    (pc' :: new).countP owns ≤ [pc].countP owns := by
  have hone : ∀ {q q' : Thread}, (owns q' = true → owns q = true) →
      [q'].countP owns ≤ [q].countP owns := by
    intro q q' himp
    simp only [List.countP_cons, List.countP_nil]
    split
    · rename_i ho
      simp [himp ho]
    · omega
  cases hs with
  | onward _ _ ho => exact hone ho.uses.2.2
  | spawn caller => cases caller <;> decide
  | report text next e _ _ _ _ => cases next <;> exact hone (by simp [owns, Next.thread])
  | _ => exact hone (by simp [owns])

/-- Where the owner goes, it finds what it relies on. -/
theorem Onward.ownerOk (ho : Onward s ev pc pc') (h : OwnerOk s lines pc)
    (hdata : ∀ c, pc = .sendData c → pc' ≠ .loop c) : OwnerOk s lines pc' := by
  cases ho with
  | dialFailed caller err => cases caller <;> trivial
  | unreported text next _ => cases next <;> trivial
  | reportTested text next e _ => cases next <;> trivial
  | reportRead text next => cases next <;> trivial
  | notified c cause => cases cause <;> trivial
  | writePump c hw =>
      obtain ⟨d, hd, hidle⟩ := h
      obtain rfl : d = c := Option.some.inj (hd.1.symm.trans hw)
      exact ⟨hd, hidle⟩
  | selects c => exact ⟨h.1.1, h.1, h.2⟩
  | ticks c k => exact h.2
  | queueClosed c k => exact h.2.1
  | sentData c => exact absurd rfl (hdata c rfl)
  | sentPing c => exact h
  | _ => trivial

end Owner

section

variable {t : ClientTraffic} {client : Client} {n : Nat} {ev : Client.Event} {pc pc' : Thread}
  {new : List Thread}

/-- After a step of the owner the others still rely on nothing. -/
theorem OneWriter.owner_step (h : OneWriter t) (hpc : t.run.threads[n]? = some pc)
    (howns : owns pc = true) {lines : Nat → Conveyor (List UInt8)}
    (hok : ∀ q ∈ pc' :: new, OwnerOk client lines q) :
    ∀ q ∈ t.run.threads.set n pc' ++ new, OwnerOk client lines q := by
  intro q hq
  rcases mem_stepped hq with ⟨u, hun, hu⟩ | rfl | hq
  · refine ownerOk_of_not_owns ?_
    by_contra hown
    exact hun (position_unique h.owner hu hpc (by simpa using hown) howns)
  · exact hok q List.mem_cons_self
  · exact hok q (List.mem_cons_of_mem _ hq)

/-- A step that leaves the queues alone. -/
theorem OneWriter.keep (h : OneWriter t) (hpc : t.run.threads[n]? = some pc)
    (hs : Stepped t.run.client ev pc client pc' new)
    (hdata : ∀ c, pc = .sendData c → pc' ≠ .loop c) :
    ∀ q ∈ t.run.threads.set n pc' ++ new, OwnerOk client t.lines q := by
  have hmine := h.ok pc (List.mem_of_getElem? hpc)
  by_cases howns : owns pc = true
  · refine h.owner_step hpc howns ?_
    intro q hq
    by_cases hassign : ∃ caller, pc = .starting caller .assign
    · -- the new socket's line is a new one
      obtain ⟨caller, rfl⟩ := hassign
      cases hs with
      | onward _ _ ho => cases ho
      | panics _ _ _ =>
          obtain rfl := List.mem_singleton.mp hq
          trivial
      | assign _ =>
          obtain rfl := List.mem_singleton.mp hq
          refine ⟨t.run.client.sockets.length, ⟨rfl, .new, List.getElem?_concat_length, rfl⟩, ?_⟩
          have hunused := h.lines.unused t.run.client.sockets.length
            (by rw [clientQueues, List.length_map])
          rw [hunused.1]
          rfl
    by_cases hcleanup : ∃ c cause k, pc = .closing c cause (.close k)
    · obtain ⟨c, cause, k, rfl⟩ := hcleanup
      cases hs with
      | onward _ _ ho => cases ho
      | panics _ _ _ =>
          obtain rfl := List.mem_singleton.mp hq
          trivial
      | cleanup _ _ _ x hx =>
          obtain rfl := List.mem_singleton.mp hq
          trivial
    have hcurrent : ∀ c, Current t.run.client c → Current client c := fun c =>
      hs.current (fun caller e => hassign ⟨caller, e⟩)
        fun d cause k e => hcleanup ⟨d, cause, k, e⟩
    cases hs with
    | onward _ _ ho =>
        obtain rfl := List.mem_singleton.mp hq
        exact ho.ownerOk hmine hdata
    | spawn caller =>
        simp only [List.mem_cons, List.not_mem_nil, or_false] at hq
        rcases hq with rfl | rfl | rfl
        · cases caller <;> trivial
        · exact hmine
        · trivial
    | makeReconnectC caller =>
        obtain rfl := List.mem_singleton.mp hq
        exact hmine
    | connect caller =>
        obtain rfl := List.mem_singleton.mp hq
        exact hmine
    | takeData c k x q hx hclosed =>
        obtain rfl := List.mem_singleton.mp hq
        exact hcurrent c hmine.2.1
    | report text next _ _ _ _ _ =>
        obtain rfl := List.mem_singleton.mp hq
        cases next <;> trivial
    | assign caller => exact absurd ⟨caller, rfl⟩ hassign
    | _ =>
        obtain rfl := List.mem_singleton.mp hq
        trivial
  · -- nothing the owner relies on changes
    have hcurrent : ∀ c, Current t.run.client c → Current client c := by
      intro c
      refine hs.current ?_ ?_
      · rintro caller rfl
        exact howns rfl
      · rintro d cause k rfl
        exact howns rfl
    intro q hq
    rcases mem_threads hq with hq | hq
    · exact (h.ok q hq).mono hcurrent
    · refine ownerOk_of_not_owns ?_
      have hcount := hs.owns_le
      have hzero : [pc].countP owns = 0 := by simp [howns]
      have hnone : (pc' :: new).countP owns = 0 := by omega
      have hmem : q ∈ pc' :: new := by
        rcases hq with rfl | hq
        · exact List.mem_cons_self
        · exact List.mem_cons_of_mem _ hq
      simpa using (List.countP_eq_zero.mp hnone) q hmem

end

/-! ## The queues of the client -/

section

variable {t t' : ClientTraffic} {client : Client} {n : Nat} {ev : Client.Event}
  {pc pc' : Thread} {new : List Thread}

theorem KeepsQueues.conveyors {queues queues' : List (Chan (List UInt8))}
    {lines : Nat → Conveyor (List UInt8)} {put : Nat → List (List UInt8)}
    (h : KeepsQueues queues queues') (hlines : Conveyors 1 queues lines put) :
    Conveyors 1 queues' lines put := by
  cases h with
  | same => exact hlines
  | enter => exact hlines.enter
  | set hk hitems hcapacity => exact hlines.keep hk hitems hcapacity

/-- **A step of any goroutine keeps the queues accounted for.** -/
theorem OneWriter.lineStep (h : OneWriter t) (hpc : t.run.threads[n]? = some pc)
    (hs : LineStep t n ev pc client pc' new t') :
    OneWriter
      { t' with run := { client := client, threads := t.run.threads.set n pc' ++ new } } := by
  have hmine := h.ok pc (List.mem_of_getElem? hpc)
  cases hs with
  | keep hstepped hqueues hdata _ =>
      exact ⟨count_stepped h.owner hpc hstepped.owns_le, h.keep hpc hstepped hdata,
        hqueues.conveyors h.lines⟩
  | send hx hsend =>
      have hclosed := congrArg Chan.closed (Chan.sent_eq hsend)
      constructor
      case owner => exact count_stepped h.owner hpc (by simp [owns])
      case ok =>
        intro q hq
        rcases mem_stepped hq with ⟨u, _, hu⟩ | rfl | hq
        · exact (h.ok q (List.mem_of_getElem? hu)).mono fun c hc => hc.setSocket hx hclosed
        · trivial
        · exact absurd hq List.not_mem_nil
      case lines =>
        rw [clientQueues_set]
        exact h.lines.send (clientQueues_get hx) hsend
          (fun j hj => dataFor_snoc_ne fun e => hj e.symm) dataFor_snoc_self
  | take hx hrecv =>
      obtain ⟨hk, hcurrent, hidle⟩ := hmine
      obtain rfl := Option.some.inj hk
      have hclosed := congrArg Chan.closed (Chan.value_eq hrecv).2
      constructor
      case owner => exact count_stepped h.owner hpc (by simp [owns])
      case ok =>
        refine h.owner_step hpc rfl ?_
        intro q hq
        obtain rfl := List.mem_singleton.mp hq
        exact hcurrent.setSocket hx hclosed
      case lines =>
        rw [clientQueues_set]
        exact h.lines.take (clientQueues_get hx) hidle hrecv
  | takeNothing hx hrecv =>
      -- the queue of the connection in the field is open
      obtain ⟨hk, ⟨_, y, hy, hopen⟩, _⟩ := hmine
      obtain rfl := Option.some.inj hk
      cases hx.symm.trans hy
      rcases Chan.recv_open hopen with hblocks | ⟨_, _, hvalue, _⟩
      · exact absurd (hrecv.symm.trans hblocks) (by simp)
      · exact absurd (hrecv.symm.trans hvalue) (by simp)
  | deliver =>
      rename_i c
      have hcurrent : Current t.run.client c := hmine
      constructor
      case owner => exact count_stepped h.owner hpc (by simp [owns])
      case ok =>
        refine h.owner_step hpc rfl ?_
        intro q hq
        obtain rfl := List.mem_singleton.mp hq
        refine ⟨hcurrent, ?_⟩
        simp only [ClientTraffic.setLine, Function.update_self, Conveyor.deliver]
      case lines =>
        obtain ⟨_, x, hx, _⟩ := hcurrent
        exact h.lines.deliver (clientQueues_get hx)

end

/-! ## Every accepted message is queued once -/

/-- Where the goroutine of a call of `Write` may stand. -/
def WriteAt (t : ClientTraffic) (w : Nat × List UInt8) (pc : Thread) : Prop :=
  (∃ p, pc = .writing w.2 p) ∨ pc = .refused ∨ pc = .returned ∧ ∃ m ∈ t.queued, m.call = w.1

structure WritesTraced (t : ClientTraffic) : Prop where
  writing : ∀ (n : Nat) (data : List UInt8) (p : Writing),
    t.run.threads[n]? = some (.writing data p) → (n, data) ∈ t.written
  written : ∀ w ∈ t.written, ∃ pc, t.run.threads[w.1]? = some pc ∧ WriteAt t w pc
  queued : ∀ m ∈ t.queued,
    t.run.threads[m.call]? = some .returned ∧ (m.call, m.data) ∈ t.written
  once : (t.queued.map Queued.call).Nodup

/-- A goroutine enters `Write` by a call only, and leaves it by a send or without success. -/
structure KeepsWrite (pc pc' : Thread) (new : List Thread) : Prop where
  alive : pc ≠ .returned ∧ pc ≠ .refused
  stays : ∀ data p, pc = .writing data p → (∃ p', pc' = .writing data p') ∨ pc' = .refused
  back : ∀ data p, pc' = .writing data p → ∃ p', pc = .writing data p'
  new : ∀ q ∈ new, ∀ data p, q ≠ .writing data p

section

variable {t t' : ClientTraffic} {client : Client} {n : Nat} {ev : Client.Event}
  {pc pc' : Thread} {new : List Thread}

theorem Onward.keepsWrite {s : Client} (ho : Onward s ev pc pc') : KeepsWrite pc pc' [] := by
  cases ho with
  | dialFailed caller err =>
      cases caller <;> exact ⟨by simp, by simp, by simp [Client.afterFailedStart], by simp⟩
  | unreported text next _ =>
      cases next <;> exact ⟨by simp, by simp, by simp [Next.thread], by simp⟩
  | notified c cause =>
      cases cause <;> exact ⟨by simp, by simp, by simp [Client.afterClosure], by simp⟩
  | _ => exact ⟨by simp, by simp, by simp, by simp⟩

theorem Stepped.keepsWrite {s : Client} (hs : Stepped s ev pc client pc' new)
    (hpanic : client.panic = none) (hsend : ∀ data k, pc ≠ .writing data (.send (some k))) :
    KeepsWrite pc pc' new := by
  cases hs with
  | onward _ _ ho => exact ho.keepsWrite
  | panics _ _ _ => cases hpanic
  | spawn caller => cases caller <;> exact ⟨by simp, by simp, by simp [Client.afterStart], by simp⟩
  | write data k _ _ _ _ => exact absurd rfl (hsend data k)
  | report text next _ _ _ _ _ =>
      cases next <;> exact ⟨by simp, by simp, by simp [Next.thread], by simp⟩
  | _ => exact ⟨by simp, by simp, by simp, by simp⟩

/-- The goroutines after a step of one of them that sends nothing. -/
theorem WritesTraced.keep (h : WritesTraced t) (hpc : t.run.threads[n]? = some pc)
    {lines : Nat → Conveyor (List UInt8)} (hk : KeepsWrite pc pc' new) :
    WritesTraced
      { t with
        run := { client := client, threads := t.run.threads.set n pc' ++ new }
        lines := lines } := by
  constructor
  case writing =>
    intro u data p hu
    rcases getElem?_moved hu with ⟨_, hu⟩ | ⟨rfl, hq⟩ | hq
    · exact h.writing u data p hu
    · obtain ⟨p', rfl⟩ := hk.back data p hq.symm
      exact h.writing u data p' hpc
    · exact absurd rfl (hk.new _ hq data p)
  case written =>
    intro w hw
    obtain ⟨q, hq, hat⟩ := h.written w hw
    by_cases hwn : w.1 = n
    · subst hwn
      cases hpc.symm.trans hq
      rcases hat with ⟨p, hp⟩ | hp | ⟨hp, _⟩
      · exact ⟨pc', getElem?_stepped hpc, (hk.stays _ p hp).imp_right .inl⟩
      · exact absurd hp hk.alive.2
      · exact absurd hp hk.alive.1
    · exact ⟨q, getElem?_unmoved hwn hq, hat⟩
  case queued =>
    intro m hm
    obtain ⟨hreturned, hmem⟩ := h.queued m hm
    refine ⟨getElem?_unmoved ?_ hreturned, hmem⟩
    rintro rfl
    cases hpc.symm.trans hreturned
    exact hk.alive.1 rfl
  case once => exact h.once

theorem WritesTraced.send (h : WritesTraced t) {data : List UInt8} {k : Nat}
    (hpc : t.run.threads[n]? = some (.writing data (.send (some k)))) :
    WritesTraced
      { t with
        run := { client := client, threads := t.run.threads.set n .returned ++ [] }
        queued := t.queued ++ [{ call := n, socket := k, data := data }] } := by
  -- who has sent is not in `Write` any more
  have hnot : ∀ m ∈ t.queued, m.call ≠ n := by
    rintro m hm rfl
    cases hpc.symm.trans (h.queued m hm).1
  constructor
  case writing =>
    intro u data' p hu
    rcases getElem?_moved hu with ⟨_, hu⟩ | ⟨_, hq⟩ | hq
    · exact h.writing u data' p hu
    · cases hq
    · exact absurd hq List.not_mem_nil
  case written =>
    intro w hw
    obtain ⟨q, hq, hat⟩ := h.written w hw
    by_cases hwn : w.1 = n
    · refine ⟨.returned, by rw [hwn]; exact getElem?_stepped hpc, .inr (.inr ⟨rfl, ?_⟩)⟩
      exact ⟨_, List.mem_append_right _ (List.mem_singleton_self _), hwn.symm⟩
    · refine ⟨q, getElem?_unmoved hwn hq, hat.imp_right (.imp_right fun hsent => ?_)⟩
      obtain ⟨hp, m, hm, hcall⟩ := hsent
      exact ⟨hp, m, List.mem_append_left _ hm, hcall⟩
  case queued =>
    intro m hm
    rcases List.mem_append.mp hm with hm | hm
    · obtain ⟨hreturned, hmem⟩ := h.queued m hm
      exact ⟨getElem?_unmoved (hnot m hm) hreturned, hmem⟩
    · obtain rfl := List.mem_singleton.mp hm
      exact ⟨getElem?_stepped hpc, h.writing n data _ hpc⟩
  case once =>
    refine nodup_map_snoc h.once ?_
    intro hmem
    obtain ⟨m, hm, hcall⟩ := List.mem_map.mp hmem
    exact hnot m hm hcall

theorem WritesTraced.lineStep (h : WritesTraced t) (hpc : t.run.threads[n]? = some pc)
    (hs : LineStep t n ev pc client pc' new t') (hpanic : client.panic = none) :
    WritesTraced
      { t' with run := { client := client, threads := t.run.threads.set n pc' ++ new } } := by
  cases hs with
  | send _ _ => exact h.send hpc
  | take _ _ => exact h.keep hpc ⟨by simp, by simp, by simp, by simp⟩
  | takeNothing _ _ => exact h.keep hpc ⟨by simp, by simp, by simp, by simp⟩
  | deliver => exact h.keep hpc ⟨by simp, by simp, by simp, by simp⟩
  | keep hstepped _ _ hdown =>
      exact h.keep hpc (hstepped.keepsWrite hpanic fun data k e => hdown data k e hpanic)

end

/-! ## The client as a transport -/

section

variable {t t' : ClientTraffic} {a : ClientRun.Action}

theorem oneWriter_start : OneWriter .start where
  owner := Nat.zero_le 1
  ok _ hpc := nomatch hpc
  lines := Conveyors.none_yet

theorem writesTraced_start : WritesTraced .start where
  writing _ _ _ hn := nomatch hn
  written _ hw := nomatch hw
  queued _ hm := nomatch hm
  once := List.nodup_nil

/-- A call enters; only `Start` makes an owner. -/
theorem OneWriter.call (h : OneWriter t) {pc : Thread} (hentry : a.entry = some pc)
    (halone : startsAlone t.run a = true) :
    OneWriter { t with run := { t.run with threads := t.run.threads ++ [pc] } } := by
  have hok : OwnerOk t.run.client t.lines pc := by
    cases a <;> cases hentry <;> trivial
  constructor
  case owner =>
    change (t.run.threads ++ [pc]).countP owns ≤ 1
    rw [List.countP_append]
    by_cases howns : owns pc = true
    · -- nobody else owns a connection then
      have hnobody : t.run.threads.countP owns = 0 := by
        rw [List.countP_eq_zero]
        intro q hq
        have hall : t.run.threads.all (fun q => !owns q) = true := by
          cases a <;> cases hentry <;> first | exact halone | exact absurd howns (by simp [owns])
        simpa using List.all_eq_true.mp hall q hq
      rw [hnobody]
      simp [howns]
    · have howner := h.owner
      simp only [List.countP_cons, List.countP_nil, howns]
      simpa using howner
  case ok =>
    intro q hq
    rcases mem_called hq with hq | rfl
    · exact h.ok q hq
    · exact hok
  case lines => exact h.lines

/-- A call that is not one of `Write` enters. -/
theorem WritesTraced.call (h : WritesTraced t) {pc : Thread}
    (hpc : ∀ data p, pc ≠ .writing data p) :
    WritesTraced { t with run := { t.run with threads := t.run.threads ++ [pc] } } := by
  constructor
  case writing =>
    intro u data p hu
    rcases getElem?_snoc hu with hu | ⟨_, hq⟩
    · exact h.writing u data p hu
    · exact absurd hq.symm (hpc data p)
  case written =>
    intro w hw
    obtain ⟨q, hq, hat⟩ := h.written w hw
    exact ⟨q, getElem?_snoc_left hq, hat⟩
  case queued => exact fun m hm => (h.queued m hm).imp_left getElem?_snoc_left
  case once => exact h.once

/-- `Write` is called, as the next goroutine. -/
theorem WritesTraced.write (h : WritesTraced t) (data : List UInt8) :
    WritesTraced
      { t with
        run := { t.run with threads := t.run.threads ++ [.writing data .check] }
        written := t.written ++ [(t.run.threads.length, data)] } := by
  constructor
  case writing =>
    intro u data' p hu
    rcases getElem?_snoc hu with hu | ⟨rfl, hq⟩
    · exact List.mem_append_left _ (h.writing u data' p hu)
    · cases hq
      exact List.mem_append_right _ (List.mem_singleton_self _)
  case written =>
    intro w hw
    rcases List.mem_append.mp hw with hw | hw
    · obtain ⟨q, hq, hat⟩ := h.written w hw
      exact ⟨q, getElem?_snoc_left hq, hat⟩
    · obtain rfl := List.mem_singleton.mp hw
      exact ⟨_, List.getElem?_concat_length, .inl ⟨_, rfl⟩⟩
  case queued =>
    exact fun m hm => (h.queued m hm).imp getElem?_snoc_left (List.mem_append_left _)
  case once => exact h.once

theorem note_call {pc : Thread} (hentry : a.entry = some pc) :
    (∃ data, a = .write data) ∨ t.note a = t ∧ ∀ data p, pc ≠ .writing data p := by
  cases a with
  | write data => exact .inl ⟨data, rfl⟩
  | start valid =>
      cases hentry
      exact .inr ⟨rfl, by simp⟩
  | startWithRetries valid =>
      cases hentry
      exact .inr ⟨rfl, by simp⟩
  | stop =>
      cases hentry
      exact .inr ⟨rfl, by simp⟩
  | errors => cases hentry
  | receiveError e => cases hentry
  | thread n ev => cases hentry

/-- The steps of a client, with the record they leave. -/
theorem clientTraffic_step (h : OneWriter t)
    (htraced : t.run.client.panic = none → WritesTraced t) (halone : startsAlone t.run a = true)
    (hact : t.act a = some t') :
    OneWriter t' ∧ (t'.run.client.panic = none → WritesTraced t') := by
  obtain ⟨s, hs, rfl⟩ := Option.map_eq_some_iff.mp hact
  have hnone : t.run.client.panic = none := (act_runMove hs).2
  have htraced := htraced hnone
  unfold ClientRun.act at hs
  rw [hnone] at hs
  cases hentry : a.entry with
  | some pc =>
      have hcalled : s = { t.run with threads := t.run.threads ++ [pc] } := by
        cases a <;> cases hentry <;> exact (Option.some.inj hs).symm
      subst hcalled
      have hwriter := h.call hentry halone
      rcases note_call (t := t) hentry with ⟨data, rfl⟩ | ⟨hnote, hpc⟩
      · cases hentry
        exact ⟨⟨hwriter.owner, hwriter.ok, hwriter.lines⟩, fun _ => htraced.write data⟩
      · rw [hnote]
        exact ⟨hwriter, fun _ => htraced.call hpc⟩
  | none =>
      cases a with
      | errors =>
          cases hs
          have hcurrent : ∀ c, Current t.run.client c → Current t.run.client.errors c := by
            intro c hc
            unfold Client.errors
            split
            · exact hc
            · exact hc
          have hqueues : clientQueues t.run.client.errors = clientQueues t.run.client := by
            unfold Client.errors
            split <;> rfl
          refine ⟨⟨h.owner, fun pc hpc => (h.ok pc hpc).mono hcurrent, ?_⟩, fun _ => ?_⟩
          · change Conveyors 1 (clientQueues t.run.client.errors) t.lines (dataFor t.queued)
            rw [hqueues]
            exact h.lines
          · exact ⟨htraced.writing, htraced.written, htraced.queued, htraced.once⟩
      | receiveError e =>
          obtain ⟨client, hc, rfl⟩ := Option.map_eq_some_iff.mp hs
          obtain ⟨x, hx, hc⟩ := Option.bind_eq_some_iff.mp hc
          split at hc
          · cases hc
            refine ⟨⟨h.owner, fun pc hpc => (h.ok pc hpc).mono fun c hc => hc, h.lines⟩,
              fun _ => ?_⟩
            exact ⟨htraced.writing, htraced.written, htraced.queued, htraced.once⟩
          · exact absurd hc (by simp)
      | thread n ev =>
          obtain ⟨pc, hpc, hs⟩ := Option.bind_eq_some_iff.mp hs
          obtain ⟨o, ho, rfl⟩ := Option.map_eq_some_iff.mp hs
          have hline := step_lineStep (t := t) (n := n) ho
          have hnote : t.note (.thread n ev) = t.noteThread n ev pc := by
            simp only [ClientTraffic.note, hpc]
          rw [hnote]
          exact ⟨h.lineStep hpc hline, fun hpanic => htraced.lineStep hpc hline hpanic⟩
      | start valid => cases hentry
      | startWithRetries valid => cases hentry
      | stop => cases hentry
      | write data => cases hentry

theorem clientTraffic_invariant
    (h : ReachableWhile ClientTraffic.machine (fun t a => startsAlone t.run a = true) t) :
    OneWriter t ∧ (t.run.client.panic = none → WritesTraced t) := by
  refine h.invariant
    (P := fun t => OneWriter t ∧ (t.run.client.panic = none → WritesTraced t)) ?_ ?_
  · intro t ht
    rw [show t = ClientTraffic.start from ht]
    exact ⟨oneWriter_start, fun _ => writesTraced_start⟩
  · intro t a t' _ hinv halone hact
    exact clientTraffic_step hinv.1 hinv.2 halone hact

/-- What the client does with the messages given to `Write`. -/
structure ClientTransports (t : ClientTraffic) : Prop where
  /-- A connection gets what was queued for it, in order, from the first message on. -/
  inOrder : ∀ (c : Nat) (x : ClientSocket), t.run.client.sockets[c]? = some x →
    (t.lines c).delivered <+: dataFor t.queued c
  /-- The last two are all that can be missing. -/
  lost : ∀ (c : Nat) (x : ClientSocket), t.run.client.sockets[c]? = some x →
    (dataFor t.queued c).length ≤ (t.lines c).delivered.length + 2
  /-- What is queued was given to `Write`, and no call queues its data twice. -/
  queued : t.run.client.panic = none →
    (∀ m ∈ t.queued, (m.call, m.data) ∈ t.written) ∧ (t.queued.map Queued.call).Nodup
  /-- `Write` returns nil if and only if it queued the data. -/
  accepted : t.run.client.panic = none → ∀ w ∈ t.written,
    (t.run.threads[w.1]? = some .returned ↔ ∃ m ∈ t.queued, m.call = w.1)

theorem WritesTraced.accepted_iff (h : WritesTraced t) {w : Nat × List UInt8}
    (hw : w ∈ t.written) :
    t.run.threads[w.1]? = some .returned ↔ ∃ m ∈ t.queued, m.call = w.1 := by
  constructor
  · intro hreturned
    obtain ⟨pc, hget, hat⟩ := h.written w hw
    cases hreturned.symm.trans hget
    rcases hat with ⟨p, hp⟩ | hp | ⟨_, hsent⟩
    · cases hp
    · cases hp
    · exact hsent
  · rintro ⟨m, hm, hcall⟩
    rw [← hcall]
    exact (h.queued m hm).1

/--
**The client is an ordered transport over each of its connections that loses two messages
at most**, as long as `Start` is not called while a connection is made or used.
-/
theorem client_transports
    (h : ReachableWhile ClientTraffic.machine (fun t a => startsAlone t.run a = true) t) :
    ClientTransports t := by
  obtain ⟨hwriter, htraced⟩ := clientTraffic_invariant h
  constructor
  case inOrder =>
    intro c x hc
    exact (hwriter.lines.account c _ (clientQueues_get hc)).in_order
  case lost =>
    intro c x hc
    have hqueue := clientQueues_get hc
    exact (hwriter.lines.account c _ hqueue).length_le (hwriter.lines.fits c _ hqueue)
  case queued =>
    intro hpanic
    exact ⟨fun m hm => ((htraced hpanic).queued m hm).2, (htraced hpanic).once⟩
  case accepted =>
    intro hpanic w hw
    exact (htraced hpanic).accepted_iff hw

end

/--
A message goes out; the next one breaks the connection. The client reconnects by itself,
and a third message goes out over the new connection.
-/
def messageLostReconnecting : List ClientRun.Action :=
  ClientRun.connecting 0 ++ ClientRun.pumping 1 2
    ++ .write [1] :: ClientRun.going 3 3 ++ .thread 1 .data :: ClientRun.going 1 2
    ++ .write [2] :: ClientRun.going 4 3
    ++ [.thread 1 .data, .thread 1 (.fails "broken pipe")] ++ ClientRun.going 1 6
    ++ ClientRun.reconnecting 1 ++ ClientRun.pumping 5 6
    ++ .write [3] :: ClientRun.going 7 3 ++ .thread 5 .data :: ClientRun.going 5 1

theorem message_lost_reconnecting :
    ∃ t, ClientTraffic.machine.runWhile (fun t a => startsAlone t.run a) .start
        messageLostReconnecting = some t
      ∧ ClientTransports t ∧ t.run.client.panic = none
      ∧ dataFor t.queued 0 = [[1], [2]] ∧ (t.lines 0).delivered = [[1]]
      ∧ dataFor t.queued 1 = [[3]] ∧ (t.lines 1).delivered = [[3]] := by
  have hrun : ∃ t, ClientTraffic.machine.runWhile (fun t a => startsAlone t.run a) .start
        messageLostReconnecting = some t
      ∧ t.run.client.panic = none
      ∧ dataFor t.queued 0 = [[1], [2]] ∧ (t.lines 0).delivered = [[1]]
      ∧ dataFor t.queued 1 = [[3]] ∧ (t.lines 1).delivered = [[3]] :=
    ⟨_, rfl, rfl, rfl, rfl, rfl, rfl⟩
  obtain ⟨t, ht, hrest⟩ := hrun
  have hr : ReachableWhile ClientTraffic.machine (fun t a => startsAlone t.run a = true) t :=
    ReachableWhile.runWhile (fun _ _ hok => hok) (.init rfl) _ ht
  exact ⟨t, ht, client_transports hr, hrest⟩

/--
Stopped and started again at once, the old writer takes the new connection's message
and writes it to the old connection.
-/
theorem old_writer_takes_message :
    ∃ t, Reachable ClientTraffic.machine t ∧ dataFor t.queued 1 = [[1]]
      ∧ (t.lines 1).delivered = [] ∧ (t.lines 0).delivered = [[1]] ∧ ¬ ClientTransports t := by
  have hrun : ∃ t, ClientTraffic.machine.run .start
        (ClientRun.connecting 0 ++ ClientRun.going 1 1 ++ .stop :: ClientRun.going 3 4
          ++ ClientRun.connecting 4 ++ .write [1] :: ClientRun.going 7 3
          ++ [.thread 1 .go, .thread 1 .data, .thread 1 .go]) = some t
      ∧ (∃ x, t.run.client.sockets[0]? = some x) ∧ dataFor t.queued 0 = []
      ∧ dataFor t.queued 1 = [[1]] ∧ (t.lines 1).delivered = []
      ∧ (t.lines 0).delivered = [[1]] := ⟨_, rfl, ⟨_, rfl⟩, rfl, rfl, rfl, rfl⟩
  obtain ⟨t, ht, ⟨x, hx⟩, hold, hnew, hnone, hdelivered⟩ := hrun
  refine ⟨t, Reachable.run (.init rfl) _ ht, hnew, hnone, hdelivered, fun htransports => ?_⟩
  have hprefix := htransports.inOrder 0 x hx
  rw [hold, hdelivered] at hprefix
  exact absurd hprefix (by simp)

end OcppGo.Proof
