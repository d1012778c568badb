import OcppGo.Proof.ServerTokens

/-!
# No request waits for a wake-up that never comes

The server pump sleeps in its `select` until a channel holds a client id. A
request that is queued and not outstanding is therefore safe only as long as a
request token or a ready token of its client is still to be read. The pump reads
a request token without dispatching when the client's context is active: it
counts on the request that context was made for, whose end will bring a ready
token.

That reasoning fails when the context outlives the connection it was made in. The
pump drops the context of a client it finds without a queue. When the client
reconnects first, the pump finds the new queue and an old context, which stands
for no request (`reconnect_strands_request`). The same happens when the client
reconnects after the pump has marked a request as pending and before it has stored
the context of that request.

`Woken` is what holds otherwise, between any two operations: a queued request has
a token coming, waits for the outstanding one, or is what the pump is about to
take up; and a context that is active, or about to be, stands for an outstanding
request or has its ready token coming.
-/

namespace OcppGo.Proof

open OcppGo.Lib OcppGo.Ocppj

/-! ## The condition -/

/-- The pump is between `AddPendingRequest` for this client and storing its context. -/
def isWriting (c : String) : ServerPumpPC → Bool
  | .write c' _ => c' == c
  | _ => false

/-- The client's context is active, or about to be. -/
def occupied (s : ServerSteps) (c : String) : Bool :=
  (s.activeContext c).isSome || isWriting c s.pump

/--
A client connects anew only when its old connection has left nothing: the pump
has dropped its context and is not about to store one, and its pending request was
cleared. Requests are sent with usable ids.
-/
def nothingLeft (s : ServerSteps) : ServerSteps.Action → Bool
  | .createClient c =>
      (s.queueMap.get c).isSome || (!occupied s c && !s.calls.any (leaves c))
  | .start (.sendRequest _ req) => req.call.uniqueId != ""
  | _ => true

/-! ## What the pump has still to notice -/

/-- A request of the client is outstanding, or its ready token is coming. -/
def ServerEngaged (s : ServerSteps) (c : String) : Prop :=
  pendingID s c ≠ "" ∨ ReadyComing s c

/-- The pump is about to look at the client's queue, or to take up its head. -/
def PumpComing (s : ServerSteps) (c : String) : Prop :=
  match s.pump with
  | .requestGet c' => c' = c ∧ s.activeContext c = none
  | .readyGet c' | .dispatchGet c' | .addPending c' _ => c' = c
  | .test c' => c' = c ∧ s.rdy = true ∧ s.clientQueue = s.queueMap.get c
  | .dispatchPeek c' r => c' = c ∧ s.queueMap.get c = some r
  | .crashed => True
  | _ => False

/-- What is queued for the client will be noticed. -/
def Noticed (s : ServerSteps) (c : String) : Prop :=
  ServerEngaged s c ∨ (s.activeContext c = none ∧ RequestComing s c) ∨ PumpComing s c

structure Woken (s : ServerSteps) : Prop where
  noticed : ∀ c, s.queueMap.contents c ≠ [] → Noticed s c
  /-- A context stands for a request. -/
  standing : ∀ c, occupied s c = true → s.queueMap.get c ≠ none → ServerEngaged s c
  departed : Departed s
  owned : PushesOwned s
  named : IdsNamed s

theorem woken_start (n : Nat) (timeout : Int) : Woken (ServerSteps.start n timeout) where
  noticed c h := absurd rfl h
  standing c h :=
    absurd h (by simp [occupied, isWriting, ServerSteps.activeContext, ServerSteps.start])
  departed c h := absurd h (by simp [ServerSteps.start])
  owned c r req h := absurd h (by simp [ServerSteps.start])
  named := idsNamed_start n timeout

section Step

variable {s s' : ServerSteps} {a : ServerSteps.Action} {c : String}

/-- The outstanding request ends with a ready token, or with the connection. -/
theorem ServerEngaged.step (h : ServerEngaged s c) (hm : StepMove s a s') :
    ServerEngaged s' c ∨ (s'.pump = .readyGet c ∧ s'.activeContext c = none)
      ∨ s.calls.any (leaves c) = true := by
  rcases h with hslot | hready
  · rcases pendingID_step hm hslot with hsame | hready | hleaves
    · exact Or.inl (Or.inl (hsame ▸ hslot))
    · exact Or.inl (Or.inr hready)
    · exact Or.inr (Or.inr hleaves)
  · rcases hready.step hm with hready | ⟨_, htaken⟩
    · exact Or.inl (Or.inr hready)
    · exact Or.inr (Or.inl htaken)

/-! ## Contexts stand for requests -/

theorem occupied_iff :
    occupied s c = true ↔ s.activeContext c ≠ none ∨ ∃ p, s.pump = .write c p := by
  rw [occupied, Bool.or_eq_true, Option.isSome_iff_ne_none]
  refine or_congr_right ⟨fun h => ?_, fun ⟨p, hpc⟩ => by rw [hpc]; exact beq_self_eq_true c⟩
  cases hpc : s.pump with
  | write c' p =>
      rw [hpc] at h
      exact ⟨p, by rw [beq_iff_eq.mp h]⟩
  | _ => rw [hpc] at h; exact absurd h (by simp [isWriting])

theorem occupied_step (hm : StepMove s a s') (h : occupied s' c = true) :
    occupied s c = true
      ∨ ∃ p, s.pump = .addPending c p ∧ (p.id ≠ "" → pendingID s' c ≠ "") := by
  rcases occupied_iff.mp h with hactive | ⟨p, hwrite⟩
  · exact Or.inl (occupied_iff.mpr (activeContext_step hm hactive))
  · rcases write_step hm hwrite with hold | hmark
    · exact Or.inl (occupied_iff.mpr (Or.inr ⟨p, hold⟩))
    · exact Or.inr ⟨p, hmark⟩

theorem nothingLeft_create (hok : nothingLeft s (.createClient c) = true)
    (hget : s.queueMap.get c = none) :
    occupied s c = false ∧ s.calls.any (leaves c) = false := by
  simpa [nothingLeft, hget] using hok

theorem standing_step (h : Woken s) (hok : nothingLeft s a = true) (hm : StepMove s a s')
    (hocc : occupied s' c = true) (hget' : s'.queueMap.get c ≠ none) : ServerEngaged s' c := by
  rcases occupied_step hm hocc with hold | ⟨p, hpc, hslot⟩
  · have hget : s.queueMap.get c ≠ none := by
      intro hnone
      rcases get_step hm hnone with hnone' | rfl
      · exact hget' hnone'
      · rw [(nothingLeft_create hok hnone).1] at hold
        exact absurd hold (by simp)
    rcases (h.standing c hold hget).step hm with hans | ⟨hpc, hended⟩ | hleaves
    · exact hans
    · -- the pump has taken the ready token, and canceled the context
      rcases occupied_iff.mp hocc with hactive | ⟨p, hwrite⟩
      · exact absurd hended hactive
      · rw [hpc] at hwrite
        exact absurd hwrite (by simp)
    · exact absurd (h.departed c hleaves) hget
  · exact Or.inl (hslot (h.named.pump c p hpc))

/-! ## The pump on its way to a request -/

theorem PumpComing.keep (h : PumpComing s c) (hpump : s'.pump = s.pump) (hrdy : s'.rdy = s.rdy)
    (hqueue : s'.clientQueue = s.clientQueue) (hctx : s'.clientContextMap = s.clientContextMap)
    (hget : s'.queueMap.get c = s.queueMap.get c) : PumpComing s' c := by
  unfold PumpComing ServerSteps.activeContext at h ⊢
  rw [hpump, hrdy, hqueue, hctx, hget]
  exact h

theorem pumpComing_idle (h : PumpComing s c) (hqueued : s.queueMap.contents c ≠ [])
    (hidle : IdleStep s a s') : PumpComing s' c := by
  obtain ⟨r, hget⟩ := get_of_contents hqueued
  cases hidle with
  | requestGet w c' r' hpc hget' =>
      rw [PumpComing, hpc] at h
      obtain ⟨rfl, hctx⟩ := h
      exact ⟨rfl, by rw [hctx]; rfl, hget'.symm⟩
  | readyGet w c' hpc =>
      rw [PumpComing, hpc] at h
      cases h
      exact ⟨rfl, by rw [hget]; rfl, rfl⟩
  | leave w c' hpc hdisp =>
      rw [PumpComing, hpc] at h
      obtain ⟨rfl, hrdy, hqueue⟩ := h
      -- the queue tested is the client's, and it is not empty
      rw [ServerSteps.dispatches, hqueue, hget] at hdisp
      rw [FIFOQueueMap.contents_of_get hget] at hqueued
      simp [hrdy, hqueued] at hdisp
  | gone w c' calls contexts hpc hget' hended =>
      rw [PumpComing, hpc] at h
      rw [← h.1, hget'] at hget
      exact absurd hget (by simp)
  | dispatchGone w c' hpc hget' =>
      rw [PumpComing, hpc] at h
      rw [← h, hget'] at hget
      exact absurd hget (by simp)
  | reqChan w hpc => rw [PumpComing, hpc] at h; exact h.elim
  | takeRequest c' hpc _ => rw [PumpComing, hpc] at h; exact h.elim
  | takeTimer c' calls contexts hpc _ _ => rw [PumpComing, hpc] at h; exact h.elim
  | takeReady c' calls contexts hpc _ _ => rw [PumpComing, hpc] at h; exact h.elim
  | nothingPending w c' hpc _ => rw [PumpComing, hpc] at h; exact h.elim

/-- **The pump does not turn away from a queued request** before it is marked pending. -/
theorem pumpComing_step (h : PumpComing s c) (hnamed : IdsNamed s)
    (hqueued : s.queueMap.contents c ≠ []) (hqueued' : s'.queueMap.contents c ≠ [])
    (hm : StepMove s a s') : PumpComing s' c ∨ ServerEngaged s' c := by
  have hget : s'.queueMap.get c = s.queueMap.get c := by
    obtain ⟨r, hr⟩ := get_of_contents hqueued
    obtain ⟨r', hr'⟩ := get_of_contents hqueued'
    rcases hm.queues.get hr with hsame | hnone
    · rw [hsame, hr]
    · rw [hr'] at hnone
      exact absurd hnone (by simp)
  cases hm with
  | idle _ _ _ _ _ _ _ _ _ hidle => exact Or.inl (pumpComing_idle h hqueued hidle)
  | commit w c' hpc _ => rw [PumpComing, hpc] at h; exact Or.inl h.1
  | dispatchGet w c' r hpc hr =>
      rw [PumpComing, hpc] at h
      cases h
      exact Or.inl ⟨rfl, hr⟩
  | dispatchPeek w c' r p hpc _ => rw [PumpComing, hpc] at h; exact Or.inl h.1
  | mark w c' p hpc =>
      rw [PumpComing, hpc] at h
      cases h
      have hm : StepMove s (.pump w) _ := .mark w c p hpc
      rcases write_step hm rfl with hw | ⟨_, hslot⟩
      · rw [hpc] at hw
        exact absurd hw (by simp)
      · exact Or.inr (Or.inl (hslot (hnamed.pump c p hpc)))
  | crash w _ => exact Or.inl trivial
  | callMoves t pc pc' _ _ _ _ _ _ _ _ _ _ hs' =>
      subst hs'
      exact Or.inl (h.keep rfl rfl rfl rfl hget)
  | callCompletes t c' id k s₁ o _ hc =>
      exact Or.inl (h.keep hc.pump hc.rdy hc.clientQueue hc.clientContextMap hget)
  | start op => exact Or.inl (h.keep rfl rfl rfl rfl hget)
  | push t c' r req q _ _ => exact Or.inl (h.keep rfl rfl rfl rfl hget)
  | remove t c' _ => exact Or.inl (h.keep rfl rfl rfl rfl hget)
  | clear t c' _ => exact Or.inl (h.keep rfl rfl rfl rfl hget)
  | createClient c' => exact Or.inl (h.keep rfl rfl rfl rfl hget)
  | getClientState c' => exact Or.inl (h.keep rfl rfl rfl rfl hget)
  | seesPending w c' hpc _ => rw [PumpComing, hpc] at h; exact h.elim
  | timeoutGet w c' pending r hpc _ => rw [PumpComing, hpc] at h; exact h.elim
  | timeoutPeek w c' pending r p hpc _ => rw [PumpComing, hpc] at h; exact h.elim
  | timedOut w c' p k s₁ o hpc _ => rw [PumpComing, hpc] at h; exact h.elim
  | reportTimedOut w c' p hpc => rw [PumpComing, hpc] at h; exact h.elim
  | write c' p _ hpc => rw [PumpComing, hpc] at h; exact h.elim
  | writeFails text c' p hpc => rw [PumpComing, hpc] at h; exact h.elim
  | failed w c' p text k s₁ o hpc _ => rw [PumpComing, hpc] at h; exact h.elim
  | reportFailed w c' p text hpc => rw [PumpComing, hpc] at h; exact h.elim

/-! ## Every queued request is noticed -/

/-- A request token coming is enough, since an active context stands for a request. -/
theorem noticed_of_token
    (hstand : occupied s c = true → s.queueMap.get c ≠ none → ServerEngaged s c)
    (hqueued : s.queueMap.contents c ≠ []) (htoken : RequestComing s c) : Noticed s c := by
  cases hactive : s.activeContext c with
  | none => exact Or.inr (Or.inl ⟨hactive, htoken⟩)
  | some t =>
      obtain ⟨r, hget⟩ := get_of_contents hqueued
      refine Or.inl (hstand (occupied_iff.mpr (Or.inl ?_)) ?_)
      · rw [hactive]; simp
      · rw [hget]; simp

theorem noticed_step (h : Woken s) (hok : nothingLeft s a = true) (hm : StepMove s a s')
    (hqueued' : s'.queueMap.contents c ≠ []) : Noticed s' c := by
  have hstand := standing_step (c := c) h hok hm
  rcases contents_step h.owned hm hqueued' with hqueued | htoken
  · rcases h.noticed c hqueued with hans | ⟨hctx, htoken⟩ | hpump
    · rcases hans.step hm with hans | ⟨hpc, _⟩ | hleaves
      · exact Or.inl hans
      · exact Or.inr (Or.inr (by rw [PumpComing, hpc]))
      · obtain ⟨r, hget⟩ := get_of_contents hqueued
        rw [h.departed c hleaves] at hget
        exact absurd hget (by simp)
    · rcases htoken.step hm with htoken | ⟨_, hpc, hsame⟩
      · exact noticed_of_token hstand hqueued' htoken
      · refine Or.inr (Or.inr ?_)
        rw [PumpComing, hpc]
        exact ⟨rfl, by rw [← hctx, ServerSteps.activeContext, hsame]; rfl⟩
    · rcases pumpComing_step hpump h.named hqueued hqueued' hm with hpump | hans
      · exact Or.inr (Or.inr hpump)
      · exact Or.inl hans
  · exact noticed_of_token hstand hqueued' htoken

end Step

section

variable {n : Nat} {timeout : Int} {s : ServerSteps}

theorem woken_reachable
    (h : ReachableWhile (ServerSteps.machine n timeout) (fun s a => nothingLeft s a = true) s) :
    Woken s := by
  refine ReachableWhile.invariant (P := Woken) ?_ ?_ h
  · rintro s rfl
    exact woken_start n timeout
  · intro s a s' _ hs hok hact
    have hm := act_stepMove hact
    refine
      { noticed := fun c => noticed_step hs hok hm
        standing := fun c => standing_step hs hok hm
        departed := departed_step hs.departed hm ?_
        owned := pushesOwned_step hs.owned hm
        named := idsNamed_step hs.named hm ?_ }
    · rintro c rfl hget
      exact (nothingLeft_create hok hget).2
    · rintro c req rfl
      exact bne_iff_ne.mp hok

/-! ## Stranded requests -/

/-- The call has returned, or waits for a deadline. -/
def callSettled : ServerCall → Bool
  | .returned | .refused | .waiting _ => true
  | _ => false

/--
A request of client `c` nobody will send: the pump waits in its `select`, no
operation is in progress, no channel names the client and no context of it is
active, but it is connected, has a request queued and none pending.
-/
structure Stranded (s : ServerSteps) (c : String) : Prop where
  pump : s.pump = .select
  idle : s.calls.all callSettled = true
  requestChannel : c ∉ s.requestChannel
  readyForDispatch : c ∉ s.readyForDispatch
  timerC : c ∉ s.timerC
  context : s.activeContext c = none
  connected : (s.queueMap.get c).isSome = true
  queued : s.queueMap.contents c ≠ []
  free : s.pendingRequestState.hasPendingRequest c = false

theorem not_any_of_settled (h : s.calls.all callSettled = true) {P : ServerCall → Bool}
    (hP : ∀ pc, callSettled pc = true → P pc = false) : s.calls.any P ≠ true := by
  intro hany
  obtain ⟨pc, hmem, hpc⟩ := List.any_eq_true.mp hany
  rw [hP pc (List.all_eq_true.mp h pc hmem)] at hpc
  exact absurd hpc (by simp)

/-- While the pump sleeps and nobody is about to wake it, nothing is queued in vain. -/
theorem Woken.contents_nil {c : String} (h : Woken s) (hpump : s.pump = .select)
    (hidle : s.calls.all callSettled = true) (hrequest : c ∉ s.requestChannel)
    (hready : c ∉ s.readyForDispatch)
    (hfree : s.pendingRequestState.hasPendingRequest c = false) : s.queueMap.contents c = [] := by
  by_contra hqueued
  have hquiet : ∀ P : ServerCall → Bool, (∀ pc, callSettled pc = true → P pc = false) →
      s.calls.any P ≠ true := fun P => not_any_of_settled hidle
  have hslot : pendingID s c = "" := by
    by_contra hslot
    rw [ServerState.hasPendingRequest_eq, ClientState.hasPendingRequest_iff.mpr hslot] at hfree
    exact absurd hfree (by simp)
  rcases h.noticed c hqueued with
    (hpending | hchan | hcall | hsends) | ⟨_, hchan | hcall⟩ | hcoming
  · exact hpending hslot
  · exact hready hchan
  · exact hquiet _ (fun pc hpc => by cases pc <;> first | rfl | cases hpc) hcall
  · rw [hpump] at hsends
    exact absurd hsends (by simp [pumpSendsReady])
  · exact hrequest hchan
  · exact hquiet _ (fun pc hpc => by cases pc <;> first | rfl | cases hpc) hcall
  · rw [PumpComing, hpump] at hcoming
    exact hcoming

/--
**No request is stranded** in a run in which clients connect only when their old
connection has left nothing behind, whatever the timeout and however the
operations interleave.
-/
theorem server_no_lost_wakeup
    (h : ReachableWhile (ServerSteps.machine n timeout) (fun s a => nothingLeft s a = true) s)
    (c : String) : ¬ Stranded s c := fun hstranded =>
  hstranded.queued ((woken_reachable h).contents_nil hstranded.pump hstranded.idle
    hstranded.requestChannel hstranded.readyForDispatch hstranded.free)

end

/-- A client comes back after the pump has seen it gone; its next request waits for nothing. -/
theorem reconnected_client_woken :
    ∃ s, ReachableWhile (ServerSteps.machine 0 30) (fun s a => nothingLeft s a = true) s
      ∧ (s.queueMap.contents "cp").map Posted.id = ["2"] ∧ ¬ Stranded s "cp" := by
  have hrun : ∃ s, (ServerSteps.machine 0 30).runWhile nothingLeft (.start 0 30)
      ([.createClient "cp"] ++ ServerSteps.sending 0 "cp" "1" ++ ServerSteps.dispatching "cp"
        ++ [.pump none] ++ ServerSteps.disconnecting 2 "cp"
        ++ [.pump none, .select (.request "cp"), .pump none, .createClient "cp"]
        ++ ServerSteps.sending 3 "cp" "2" ++ [.pump none]) = some s
      ∧ (s.queueMap.contents "cp").map Posted.id = ["2"] := ⟨_, rfl, rfl⟩
  obtain ⟨s, hs, hqueued⟩ := hrun
  have hr : ReachableWhile (ServerSteps.machine 0 30) (fun s a => nothingLeft s a = true) s :=
    ReachableWhile.runWhile (fun _ _ hc => hc) (.init rfl) _ hs
  exact ⟨s, hr, hqueued, server_no_lost_wakeup hr "cp"⟩

/-- What is seen of a server in which "cp" is stranded with request "2". -/
theorem stranded_of_observed {s : ServerSteps} (hpump : s.pump = .select)
    (hidle : s.calls.all callSettled = true)
    (hchannels : s.requestChannel = [] ∧ s.readyForDispatch = [] ∧ s.timerC = [])
    (hcontext : s.activeContext "cp" = none)
    (hconnected : (s.queueMap.get "cp").isSome = true)
    (hqueued : (s.queueMap.contents "cp").map Posted.id = ["2"])
    (hfree : s.pendingRequestState.hasPendingRequest "cp" = false) : Stranded s "cp" where
  pump := hpump
  idle := hidle
  requestChannel := by rw [hchannels.1]; simp
  readyForDispatch := by rw [hchannels.2.1]; simp
  timerC := by rw [hchannels.2.2]; simp
  context := hcontext
  connected := hconnected
  queued := by
    intro hnil
    rw [hnil] at hqueued
    exact absurd hqueued (by simp)
  free := hfree

/--
**A fast reconnect strands a request.** A client disconnects with a request
outstanding and is back before the pump has read the token of the disconnect. The
next request finds the old context active; its expiry finds nothing pending, and
nothing is left to read. Likewise when the slot is cleared only after the client
is back and its next request was dispatched, and when the client is back between
`AddPendingRequest` and `Write` for its old request.
-/
theorem reconnect_strands_request :
    (∃ s, Reachable (ServerSteps.machine 0 30) s ∧ Stranded s "cp"
        ∧ (s.queueMap.contents "cp").map Posted.id = ["2"])
      ∧ (∃ s, Reachable (ServerSteps.machine 0 30) s ∧ Stranded s "cp"
        ∧ (s.queueMap.contents "cp").map Posted.id = ["2"])
      ∧ ∃ s, Reachable (ServerSteps.machine 0 30) s ∧ Stranded s "cp"
        ∧ (s.queueMap.contents "cp").map Posted.id = ["2"] := by
  have hstranded : ∀ run : List ServerSteps.Action,
      (∃ s, (ServerSteps.machine 0 30).run (.start 0 30) run = some s ∧ Stranded s "cp"
        ∧ (s.queueMap.contents "cp").map Posted.id = ["2"]) →
      ∃ s, Reachable (ServerSteps.machine 0 30) s ∧ Stranded s "cp"
        ∧ (s.queueMap.contents "cp").map Posted.id = ["2"] := by
    rintro run ⟨s, hs, hend⟩
    exact ⟨s, Reachable.run (.init rfl) _ hs, hend⟩
  -- the first request is marked pending, and about to be written
  let marked : List ServerSteps.Action := [.createClient "cp"]
    ++ ServerSteps.sending 0 "cp" "1" ++ ServerSteps.dispatching "cp"
  refine ⟨hstranded (marked ++ [.pump none] ++ ServerSteps.disconnecting 2 "cp"
      ++ [.createClient "cp"] ++ ServerSteps.passingOver "cp"
      ++ ServerSteps.sending 3 "cp" "2" ++ ServerSteps.passingOver "cp"
      ++ ServerSteps.expiring 1 "cp")
      ⟨_, rfl, stranded_of_observed rfl rfl ⟨rfl, rfl, rfl⟩ rfl rfl rfl rfl, rfl⟩,
    hstranded (marked ++ [.pump none, .start (.onClientDisconnected "cp"), .call 2, .call 2]
      ++ [.pump none, .select (.request "cp"), .pump none, .createClient "cp"]
      ++ ServerSteps.sending 3 "cp" "2" ++ ServerSteps.dispatching "cp" ++ [.pump none, .call 2]
      ++ ServerSteps.expiring 4 "cp")
      ⟨_, rfl, stranded_of_observed rfl rfl ⟨rfl, rfl, rfl⟩ rfl rfl rfl rfl, rfl⟩,
    hstranded (marked ++ ServerSteps.disconnecting 1 "cp" ++ [.createClient "cp", .pump none]
      ++ ServerSteps.passingOver "cp" ++ ServerSteps.sending 3 "cp" "2"
      ++ ServerSteps.passingOver "cp" ++ ServerSteps.expiring 2 "cp")
      ⟨_, rfl, stranded_of_observed rfl rfl ⟨rfl, rfl, rfl⟩ rfl rfl rfl rfl, rfl⟩⟩

end OcppGo.Proof
