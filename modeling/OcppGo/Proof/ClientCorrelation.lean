import OcppGo.Ocppj.Client

/-!
# Replies reach a handler only for the request they answer

The client keeps three records of its outstanding request: the head of the
queue, the pending slot, and what it passed to the network. They are updated at
different moments, so the invariant says how they agree between calls: a taken
slot holds the head's id and payload, and the head has been written. Ids are
never given out twice, so an id that was answered or cancelled is no longer
queued, and cannot be the pending one.
-/

namespace OcppGo.Proof

open OcppGo.Lib OcppGo.Ocppj

/-- A taken pending slot describes the head of the queue, which has been written. -/
def PendingIsHead (d : ClientDispatcher) : Prop :=
  d.pendingRequestState.requestID ≠ "" →
    ∃ p : Posted, d.requestQueue.peek = some p
      ∧ p.id = d.pendingRequestState.requestID
      ∧ d.pendingRequestState.pendingRequest = some p.payload
      ∧ p ∈ d.written

/--
The joint invariant of the queue, the slot, the written frames and the outcomes,
relative to the ids given out and the ids answered so far.
-/
structure Correlated (issued answered : List String) (d : ClientDispatcher) : Prop where
  /-- The slot agrees with the queue. -/
  pending : PendingIsHead d
  /-- No id is queued twice. -/
  nodup : (d.requestQueue.elements.map Posted.id).Nodup
  /-- Queued ids came from the generator. -/
  queued : ∀ p ∈ d.requestQueue.elements, p.id ≠ "" ∧ p.id ∈ issued
  /-- A queued request has no outcome yet. -/
  unanswered : ∀ p ∈ d.requestQueue.elements, p.id ∉ answered
  /-- Nor was it cancelled. -/
  uncanceled : ∀ p ∈ d.requestQueue.elements, ∀ x ∈ d.canceled, x.requestID ≠ p.id
  /-- Outcomes were given to ids from the generator only. -/
  answeredIssued : ∀ i ∈ answered, i ∈ issued
  /-- Likewise cancellations. -/
  canceledIssued : ∀ x ∈ d.canceled, x.requestID ∈ issued

variable {issued answered : List String} {d d' : ClientDispatcher}

/-- The invariant reads four fields only. -/
theorem Correlated.congr (h : Correlated issued answered d)
    (hq : d'.requestQueue.elements = d.requestQueue.elements)
    (hs : d'.pendingRequestState = d.pendingRequestState)
    (hw : d'.written = d.written) (hc : d'.canceled = d.canceled) :
    Correlated issued answered d' where
  pending := by
    intro hne
    rw [hs] at hne ⊢
    obtain ⟨p, h1, h2, h3, h4⟩ := h.pending hne
    refine ⟨p, ?_, h2, h3, by rw [hw]; exact h4⟩
    rw [FIFOClientQueue.peek_eq, hq]
    exact h1
  nodup := by rw [hq]; exact h.nodup
  queued := by rw [hq]; exact h.queued
  unanswered := by rw [hq]; exact h.unanswered
  uncanceled := by rw [hq, hc]; exact h.uncanceled
  answeredIssued := h.answeredIssued
  canceledIssued := by rw [hc]; exact h.canceledIssued

/-! ## Completing the head -/

/--
**Popping the head and freeing its slot keeps the invariant**, when the popped
id is all that the outcomes gain.
-/
theorem Correlated.pop {p : Posted} {answered' : List String}
    (h : Correlated issued answered d) (hp : d.requestQueue.peek = some p)
    (hq : d'.requestQueue.elements = d.requestQueue.elements.tail)
    (hs : d'.pendingRequestState = d.pendingRequestState.deletePendingRequest p.id)
    (ha : ∀ i ∈ answered', i ∈ answered ∨ i = p.id)
    (hc : ∀ x ∈ d'.canceled, x ∈ d.canceled ∨ x.requestID = p.id) :
    Correlated issued answered' d' := by
  have hcons := FIFOClientQueue.cons_tail_of_peek hp
  have hpmem : p ∈ d.requestQueue.elements := by rw [hcons]; exact List.mem_cons_self ..
  have htail : ∀ x ∈ d'.requestQueue.elements, x ∈ d.requestQueue.elements := by
    intro x hx
    rw [hq] at hx
    exact List.mem_of_mem_tail hx
  have hnd := h.nodup
  rw [hcons, List.map_cons, List.nodup_cons] at hnd
  -- nothing left in the queue shares the popped id
  have hne : ∀ x ∈ d'.requestQueue.elements, x.id ≠ p.id := by
    intro x hx he
    rw [hq] at hx
    exact hnd.1 (he ▸ List.mem_map_of_mem hx)
  refine ⟨?_, ?_, ?_, ?_, ?_, ?_, ?_⟩
  · -- the slot is free: it was either free already or held exactly the head's id
    intro hbusy
    exfalso
    rw [hs, ClientState.deletePendingRequest_requestID] at hbusy
    split at hbusy
    · exact hbusy rfl
    · rename_i hid
      obtain ⟨p', h1, h2, _, _⟩ := h.pending hbusy
      rw [hp] at h1
      cases h1
      exact hid h2.symm
  · rw [hq]; exact hnd.2
  · intro x hx; exact h.queued x (htail x hx)
  · intro x hx hi
    rcases ha _ hi with hi | hi
    · exact h.unanswered x (htail x hx) hi
    · exact hne x hx hi
  · intro x hx y hy he
    rcases hc y hy with hy | hy
    · exact h.uncanceled x (htail x hx) y hy he
    · exact hne x hx (by rw [← he, hy])
  · intro i hi
    rcases ha i hi with hi | hi
    · exact h.answeredIssued i hi
    · rw [hi]; exact (h.queued p hpmem).2
  · intro x hx
    rcases hc x hx with hx | hx
    · exact h.canceledIssued x hx
    · rw [hx]; exact (h.queued p hpmem).2

/-- `matchesHead` is the test for the head's id. -/
theorem matchesHead_iff {id : String} :
    d.matchesHead id = true ↔ ∃ p, d.requestQueue.peek = some p ∧ p.id = id := by
  unfold ClientDispatcher.matchesHead
  cases hp : d.requestQueue.peek with
  | none => simp
  | some p => simp

/-- Completing the head's own id, as a response does. -/
theorem correlated_completeRequest {p : Posted} (h : Correlated issued answered d)
    (hp : d.requestQueue.peek = some p) :
    Correlated issued (answered ++ [p.id]) (d.completeRequest p.id) := by
  have hm : d.matchesHead p.id = true := matchesHead_iff.mpr ⟨p, hp, rfl⟩
  unfold ClientDispatcher.completeRequest
  rw [if_pos hm]
  refine h.pop hp rfl rfl ?_ (fun x hx => Or.inl hx)
  intro i hi
  rcases List.mem_append.mp hi with hi | hi
  · exact Or.inl hi
  · exact Or.inr (List.mem_singleton.mp hi)

/-- Cancelling the head, as a timeout or a failed write does. -/
theorem correlated_cancelRequest {p : Posted} {code : ErrorCode} {text : String}
    (h : Correlated issued answered d) (hp : d.requestQueue.peek = some p) :
    Correlated issued answered (d.cancelRequest p code text) := by
  have hm : d.matchesHead p.id = true := matchesHead_iff.mpr ⟨p, hp, rfl⟩
  unfold ClientDispatcher.cancelRequest
  split
  · exact h.pop hp rfl rfl (fun i hi => Or.inl hi) (fun x hx => Or.inl hx)
  · unfold ClientDispatcher.completeRequest
    rw [if_pos hm]
    refine h.pop hp rfl rfl (fun i hi => Or.inl hi) ?_
    intro x hx
    rcases List.mem_append.mp hx with hx | hx
    · exact Or.inl hx
    · exact Or.inr (by rw [List.mem_singleton.mp hx])

/-! ## One iteration of the pump -/

/-- Marking the head pending and writing it. -/
theorem correlated_addPending {p : Posted} (h : Correlated issued answered d)
    (hp : d.requestQueue.peek = some p) :
    Correlated issued answered { d with
      pendingRequestState := d.pendingRequestState.addPendingRequest p.id p.payload
      written := d.written ++ [p] } where
  pending := by
    have hpmem : p ∈ d.requestQueue.elements := by
      rw [FIFOClientQueue.cons_tail_of_peek hp]; exact List.mem_cons_self ..
    intro hne
    by_cases hfree : d.pendingRequestState.requestID = ""
    · dsimp only
      rw [ClientState.addPendingRequest_of_free hfree (h.queued p hpmem).1]
      exact ⟨p, hp, rfl, rfl, List.mem_append_right _ (List.mem_singleton.mpr rfl)⟩
    · -- a second dispatch of the outstanding head leaves the slot as it was
      dsimp only
      rw [ClientState.addPendingRequest_of_pending hfree]
      obtain ⟨p', h1, h2, h3, h4⟩ := h.pending hfree
      exact ⟨p', h1, h2, h3, List.mem_append_left _ h4⟩
  nodup := h.nodup
  queued := h.queued
  unanswered := h.unanswered
  uncanceled := h.uncanceled
  answeredIssued := h.answeredIssued
  canceledIssued := h.canceledIssued

theorem correlated_dispatchNextRequest (write : Option String)
    (h : Correlated issued answered d) :
    Correlated issued answered (d.dispatchNextRequest write) := by
  unfold ClientDispatcher.dispatchNextRequest
  split
  · exact h.congr rfl rfl rfl rfl
  · rename_i p hp
    -- marked and written first, whether or not the write then fails
    have hadd := correlated_addPending h hp
    cases write with
    | none => exact hadd
    | some text => exact correlated_cancelRequest hadd hp

theorem correlated_armTimeout (h : Correlated issued answered d) :
    Correlated issued answered d.armTimeout := by
  unfold ClientDispatcher.armTimeout
  split <;> exact h.congr rfl rfl rfl rfl

theorem correlated_dispatchIfReady {write : Option String}
    (h : Correlated issued answered d) :
    Correlated issued answered (d.dispatchIfReady write) := by
  unfold ClientDispatcher.dispatchIfReady
  split
  · exact h
  · split
    · exact h
    · split
      · have hd := correlated_dispatchNextRequest write h
        dsimp only
        split
        · exact correlated_armTimeout hd
        · exact hd
      · exact h

theorem correlated_cancelTimedOut (h : Correlated issued answered d) :
    Correlated issued answered d.cancelTimedOut := by
  unfold ClientDispatcher.cancelTimedOut
  split
  · split
    · exact h.congr rfl rfl rfl rfl
    · rename_i p hp
      exact correlated_cancelRequest h hp
  · exact h

theorem correlated_onTimeout (h : Correlated issued answered d) :
    Correlated issued answered d.onTimeout := by
  have hcancel := correlated_cancelTimedOut h
  unfold ClientDispatcher.onTimeout
  split
  · exact hcancel.congr rfl rfl rfl rfl
  · exact hcancel

/-- **One iteration of `messagePump` keeps the invariant**, whichever branch is taken. -/
theorem correlated_messagePump {sel : ClientDispatcher.Select} {write : Option String}
    (h : Correlated issued answered d) (hd : d.messagePump sel write = some d') :
    Correlated issued answered d' := by
  unfold ClientDispatcher.messagePump at hd
  cases sel with
  | request =>
      dsimp only at hd
      split at hd
      · cases hd
        exact correlated_dispatchIfReady (h.congr rfl rfl rfl rfl)
      · exact absurd hd (by simp)
  | timer =>
      dsimp only at hd
      split at hd
      · cases hd
        exact correlated_dispatchIfReady (correlated_onTimeout (h.congr rfl rfl rfl rfl))
      · exact absurd hd (by simp)
  | ready =>
      dsimp only at hd
      split at hd
      · cases hd
        exact correlated_dispatchIfReady (h.congr rfl rfl rfl rfl)
      · exact absurd hd (by simp)

/-! ## The other steps -/

/-- A request with a fresh id joins the end of the queue. -/
theorem correlated_push {uid : String} {req : RequestBundle}
    (h : Correlated issued answered d) (huid : uid ≠ "") (hfresh : uid ∉ issued)
    (hreq : req.call.uniqueId = uid) (hd : d.sendRequest req = .ok d') :
    Correlated (issued ++ [uid]) answered d' := by
  unfold ClientDispatcher.sendRequest at hd
  split at hd
  · exact absurd hd (by simp)
  · rename_i q hq
    cases hd
    have hq := FIFOClientQueue.push_ok hq
    subst hq
    have hid : ({ seq := d.accepted, bundle := req } : Posted).id = uid := hreq
    -- every id in use was given out before, so none is the new one
    have hmem : ∀ p ∈ d.requestQueue.elements ++ [{ seq := d.accepted, bundle := req }],
        p ∈ d.requestQueue.elements ∨ p.id = uid := by
      intro p hp
      rcases List.mem_append.mp hp with hp | hp
      · exact Or.inl hp
      · exact Or.inr (by rw [List.mem_singleton.mp hp]; exact hid)
    refine ⟨?_, ?_, ?_, ?_, ?_, ?_, ?_⟩
    · -- the head does not move when the queue grows behind it
      intro hne
      obtain ⟨p, h1, h2, h3, h4⟩ := h.pending hne
      refine ⟨p, ?_, h2, h3, h4⟩
      have := FIFOClientQueue.cons_tail_of_peek h1
      simp only [FIFOClientQueue.peek_eq]
      rw [this]; rfl
    · rw [List.map_append, List.nodup_append]
      refine ⟨h.nodup, by simp, ?_⟩
      intro a ha b hb hab
      obtain ⟨p, hp, rfl⟩ := List.mem_map.mp ha
      simp only [List.map_cons, List.map_nil, List.mem_singleton] at hb
      rw [hb, hid] at hab
      exact hfresh (hab ▸ (h.queued p hp).2)
    · intro p hp
      rcases hmem p hp with hp | hp
      · exact ⟨(h.queued p hp).1, List.mem_append_left _ (h.queued p hp).2⟩
      · rw [hp]; exact ⟨huid, List.mem_append_right _ (List.mem_singleton.mpr rfl)⟩
    · intro p hp hi
      rcases hmem p hp with hp | hp
      · exact h.unanswered p hp hi
      · exact hfresh (hp ▸ h.answeredIssued _ hi)
    · intro p hp x hx he
      rcases hmem p hp with hp | hp
      · exact h.uncanceled p hp x hx he
      · exact hfresh (by rw [← hp, ← he]; exact h.canceledIssued x hx)
    · intro i hi; exact List.mem_append_left _ (h.answeredIssued i hi)
    · intro x hx; exact List.mem_append_left _ (h.canceledIssued x hx)

/-- An id the generator gave out for a call that was never queued changes nothing. -/
theorem Correlated.issue (h : Correlated issued answered d) (uid : String) :
    Correlated (issued ++ [uid]) answered d where
  pending := h.pending
  nodup := h.nodup
  queued := fun p hp => ⟨(h.queued p hp).1, List.mem_append_left _ (h.queued p hp).2⟩
  unanswered := h.unanswered
  uncanceled := h.uncanceled
  answeredIssued := fun i hi => List.mem_append_left _ (h.answeredIssued i hi)
  canceledIssued := fun x hx => List.mem_append_left _ (h.canceledIssued x hx)

/-- The invariant of a client. -/
def ClientCorrelated (c : Client) : Prop := Correlated c.issued c.answered c.dispatcher

theorem clientCorrelated_sendRequest {cfg : ClientConfig} {c : Client} {uid : String}
    {request : Payload} (h : ClientCorrelated c) (huid : uid ≠ "") (hfresh : uid ∉ c.issued) :
    ClientCorrelated (c.sendRequest cfg uid request) := by
  unfold Client.sendRequest
  split
  · exact h
  · dsimp only
    split
    · exact h.issue uid
    · rename_i call hcall
      obtain ⟨hc, _⟩ := Endpoint.createCall_ok hcall
      split
      · exact h.issue uid
      · split
        · exact h.issue uid
        · rename_i d' hd
          exact correlated_push h huid hfresh (by rw [hc]) hd

/-- A reply that was parsed answers the head of the queue. -/
theorem reply_is_head {id : String} (h : Correlated issued answered d) (hne : id ≠ "")
    (hid : d.pendingRequestState.requestID = id) :
    ∃ p : Posted, d.requestQueue.peek = some p ∧ p.id = id
      ∧ d.pendingRequestState.pendingRequest = some p.payload ∧ p ∈ d.written := by
  subst hid
  exact h.pending hne

theorem clientCorrelated_ocppMessageHandler {cfg : ClientConfig} {c : Client}
    {data : List UInt8} (h : ClientCorrelated c) :
    ClientCorrelated (c.ocppMessageHandler cfg data).1 := by
  unfold Client.ocppMessageHandler
  split
  · exact h
  · split
    · exact Correlated.congr h rfl rfl rfl rfl
    · dsimp only
      split <;> exact h
    · exact h
    · exact h
    · rename_i r hparse
      obtain ⟨hne, hid, _⟩ := Endpoint.parseMessage_parsed hparse
      obtain ⟨p, hp, hpid, _, _⟩ := reply_is_head h hne hid
      rw [← hpid]
      exact correlated_completeRequest h hp
    · rename_i e hparse
      obtain ⟨hne, hid⟩ := Endpoint.parseMessage_parsed hparse
      obtain ⟨p, hp, hpid, _, _⟩ := reply_is_head h hne hid
      rw [← hpid]
      exact correlated_completeRequest h hp

theorem clientCorrelated_start (cfg : ClientConfig) : ClientCorrelated (Client.start cfg) where
  pending := by intro hne; exact absurd rfl hne
  nodup := by simp [Client.start, ClientDispatcher.start]
  queued := by intro p hp; simp [Client.start, ClientDispatcher.start] at hp
  unanswered := by intro p hp; simp [Client.start, ClientDispatcher.start] at hp
  uncanceled := by intro p hp; simp [Client.start, ClientDispatcher.start] at hp
  answeredIssued := by intro i hi; simp [Client.start] at hi
  canceledIssued := by intro x hx; simp [Client.start, ClientDispatcher.start] at hx

/-- **The invariant is preserved by every step.** -/
theorem clientCorrelated_step {cfg : ClientConfig} {c c' : Client} {a : Client.Action}
    (h : ClientCorrelated c) (hs : c.act cfg a = some c') : ClientCorrelated c' := by
  unfold Client.act at hs
  split at hs
  · exact absurd hs (by simp)
  · cases a with
    | sendRequest uid request =>
        dsimp only at hs
        split at hs
        · rename_i hok
          cases hs
          exact clientCorrelated_sendRequest h hok.1 hok.2
        · exact absurd hs (by simp)
    | messagePump sel write =>
        dsimp only at hs
        split at hs
        · obtain ⟨d', hd, rfl⟩ := Option.map_eq_some_iff.mp hs
          exact correlated_messagePump h hd
        · exact absurd hs (by simp)
    | ocppMessageHandler data =>
        cases hs
        exact clientCorrelated_ocppMessageHandler h
    | pause =>
        obtain ⟨d', hd, rfl⟩ := Option.map_eq_some_iff.mp hs
        unfold ClientDispatcher.pause at hd
        split at hd
        · exact absurd hd (by simp)
        · cases hd
          exact Correlated.congr h rfl rfl rfl rfl
    | resume =>
        cases hs
        unfold ClientDispatcher.resume ClientCorrelated
        dsimp only
        split <;> exact Correlated.congr h rfl rfl rfl rfl
    | timerExpires =>
        obtain ⟨t, _, rfl⟩ := Option.map_eq_some_iff.mp hs
        exact Correlated.congr h rfl rfl rfl rfl

/-- The invariant holds in every reachable state. -/
theorem clientCorrelated_reachable {cfg : ClientConfig} {c : Client}
    (h : Reachable (Client.machine cfg) c) : ClientCorrelated c := by
  refine h.invariant ?_ ?_
  · intro s hs
    rw [show s = Client.start cfg from hs]
    exact clientCorrelated_start cfg
  · intro s a s' _ hinv hact
    exact clientCorrelated_step hinv hact

/-! ## What reaches a handler -/

/--
Request `p`, with id `id`, is the outstanding one: the head of the queue, passed
to the network already, and neither answered nor cancelled.
-/
structure Outstanding (c : Client) (id : String) (p : Posted) : Prop where
  head : c.dispatcher.requestQueue.peek = some p
  id_eq : p.id = id
  written : p ∈ c.dispatcher.written
  unanswered : id ∉ c.answered
  uncanceled : ∀ x ∈ c.dispatcher.canceled, x.requestID ≠ id

/-- What has to be true of a handler call made for the frame `data`. -/
def CallCorrelated (cfg : ClientConfig) (c : Client) (data : List UInt8) : HandlerCall → Prop
  | .responseHandler response id =>
      ∃ p, Outstanding c id p
        ∧ ∃ arr raw profile feature, cfg.lib.unmarshalArray data = .ok arr
          ∧ arr[2]? = some raw
          ∧ cfg.endpoint.getProfileForFeature p.payload.featureName = some profile
          ∧ profile.features p.payload.featureName = some feature
          ∧ Endpoint.parseRawJson cfg.lib raw feature.responseType = .ok response
  | .errorHandler err _ => ∃ p, Outstanding c err.messageId p
  | .requestHandler .. => True
  | .write _ => True

theorem outstanding_of_pending {c : Client} {id : String} (h : ClientCorrelated c)
    (hne : id ≠ "") (hid : c.dispatcher.pendingRequestState.requestID = id) :
    ∃ p, Outstanding c id p
      ∧ c.dispatcher.pendingRequestState.pendingRequest = some p.payload := by
  obtain ⟨p, hp, hpid, hpay, hw⟩ := reply_is_head h hne hid
  have hmem : p ∈ c.dispatcher.requestQueue.elements := by
    rw [FIFOClientQueue.cons_tail_of_peek hp]; exact List.mem_cons_self ..
  subst hpid
  exact ⟨p, ⟨hp, rfl, hw, h.unanswered p hmem, h.uncanceled p hmem⟩, hpay⟩

theorem sendError_calls {cfg : ClientConfig} {id code text : String} {details : Option Json}
    {call : HandlerCall} (h : call ∈ Client.sendError cfg id code text details) :
    ∃ frame, call = .write frame := by
  unfold Client.sendError at h
  split at h
  · exact absurd h (by simp)
  · split at h
    · exact absurd h (by simp)
    · exact ⟨_, List.mem_singleton.mp h⟩

/--
**Replies are correlated with requests, against any network.**

Whatever bytes arrive in whatever reachable state, a response or error is handed
to the application only for the outstanding request, and a response was decoded
with the response type of that request's own feature. A late, repeated or
unsolicited reply names an id that is not outstanding, and reaches no handler.
-/
theorem handler_calls_correlated {cfg : ClientConfig} {c : Client}
    (h : Reachable (Client.machine cfg) c) (data : List UInt8) :
    ∀ call ∈ (c.ocppMessageHandler cfg data).2, CallCorrelated cfg c data call := by
  have hinv := clientCorrelated_reachable h
  intro call hcall
  unfold Client.ocppMessageHandler at hcall
  split at hcall
  · exact absurd hcall (by simp)
  · rename_i arr harr
    split at hcall
    · exact absurd hcall (by simp)
    · dsimp only at hcall
      split at hcall
      · obtain ⟨frame, rfl⟩ := sendError_calls hcall
        trivial
      · exact absurd hcall (by simp)
    · exact absurd hcall (by simp)
    · rw [List.mem_singleton.mp hcall]
      trivial
    · rename_i r hparse
      obtain ⟨hne, hid, request, profile, feature, raw, hreq, hraw, hprofile, hfeature, hdec⟩ :=
        Endpoint.parseMessage_parsed hparse
      obtain ⟨p, hout, hpay⟩ := outstanding_of_pending hinv hne hid
      -- the slot's request and the head's payload are the same value
      have hsame : request = p.payload := by
        rw [hreq] at hpay
        exact Option.some.inj hpay
      subst hsame
      rw [List.mem_singleton.mp hcall]
      exact ⟨p, hout, arr, raw, profile, feature, harr, hraw, hprofile, hfeature, hdec⟩
    · rename_i e hparse
      obtain ⟨hne, hid⟩ := Endpoint.parseMessage_parsed hparse
      obtain ⟨p, hout, _⟩ := outstanding_of_pending hinv hne hid
      rw [List.mem_singleton.mp hcall]
      exact ⟨p, hout⟩

/-- A client that knows heartbeats only, with an unbounded queue. -/
def heartbeatClient : ClientConfig where
  endpoint := heartbeatEndpoint
  lib := heartbeatLibrary
  validationEnabled := true
  invalidMessageHook := none
  timeout := defaultMessageTimeout
  queueCapacity := 0

/-- One heartbeat is sent and written; its response is handed on as a confirmation. -/
theorem heartbeat_response_correlated :
    ∃ c, Reachable (Client.machine heartbeatClient) c
      ∧ CallCorrelated heartbeatClient c (resultFrame "1")
          (.responseHandler
            { goType := "core.HeartbeatConfirmation", featureName := "Heartbeat",
              body := .obj [] } "1") := by
  have hrun : ∃ c, (Client.machine heartbeatClient).run (Client.start heartbeatClient)
      [.sendRequest "1" heartbeatRequest, .messagePump .request none] = some c
        ∧ .responseHandler
            { goType := "core.HeartbeatConfirmation", featureName := "Heartbeat",
              body := .obj [] } "1"
          ∈ (c.ocppMessageHandler heartbeatClient (resultFrame "1")).2 :=
    ⟨_, rfl, List.mem_singleton.mpr rfl⟩
  obtain ⟨c, hc, hcall⟩ := hrun
  have hr : Reachable (Client.machine heartbeatClient) c := Reachable.run (.init rfl) _ hc
  exact ⟨c, hr, handler_calls_correlated hr _ _ hcall⟩

end OcppGo.Proof
