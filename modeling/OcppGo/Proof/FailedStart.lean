import OcppGo.Ws.Reconnection

/-!
# A start that fails

`Start` has two ways to fail. When the dial fails, the URL is the only field it has
assigned. When the URL cannot be parsed, there is no URL to copy, and it panics before
it looks at the error.

So a URL that can be parsed is all it takes: `Start` then connects, or returns an error
and leaves the client as it was but for the URL, however often it is called by the
reconnection loop.
-/

namespace OcppGo.Proof

open OcppGo.Lib OcppGo.Ws

variable {υ η : Type}

/-- Everything but the URL is as it was. -/
structure OnlyUrlChanged (s s' : ClientFields υ η) : Prop where
  client : s'.client = s.client
  messageHandler : s'.messageHandler = s.messageHandler
  onDisconnected : s'.onDisconnected = s.onDisconnected
  onReconnected : s'.onReconnected = s.onReconnected
  timeoutConfig : s'.timeoutConfig = s.timeoutConfig
  pumps : s'.pumps = s.pumps

theorem OnlyUrlChanged.refl (s : ClientFields υ η) : OnlyUrlChanged s s :=
  ⟨rfl, rfl, rfl, rfl, rfl, rfl⟩

theorem OnlyUrlChanged.trans {s s' s'' : ClientFields υ η} (h : OnlyUrlChanged s s')
    (h' : OnlyUrlChanged s' s'') : OnlyUrlChanged s s'' where
  client := h'.client.trans h.client
  messageHandler := h'.messageHandler.trans h.messageHandler
  onDisconnected := h'.onDisconnected.trans h.onDisconnected
  onReconnected := h'.onReconnected.trans h.onReconnected
  timeoutConfig := h'.timeoutConfig.trans h.timeoutConfig
  pumps := h'.pumps.trans h.pumps

section

variable {lib : UrlLibrary υ} {s s' : ClientFields υ η} {urlStr : List UInt8} {dial : DialResult}
  {err : StartError}

/-! ## One call of `Start` -/

theorem start_connected (h : s.start lib urlStr dial = .connected s') :
    dial = .connects ∧ lib.parse urlStr = .ok s'.url ∧ s'.client = s.client.connect := by
  unfold ClientFields.start at h
  split at h
  · exact absurd h (by simp)
  · rename_i url hurl
    split at h
    · exact absurd h (by simp)
    · cases h
      exact ⟨rfl, hurl, rfl⟩

theorem start_failed (h : s.start lib urlStr dial = .failed err s') :
    OnlyUrlChanged s s' ∧ lib.parse urlStr = .ok s'.url := by
  unfold ClientFields.start at h
  split at h
  · exact absurd h (by simp)
  · rename_i url hurl
    split at h
    · cases h
      exact ⟨⟨rfl, rfl, rfl, rfl, rfl, rfl⟩, hurl⟩
    · exact absurd h (by simp)

/-- With a URL that can be parsed there are two ways to end. -/
theorem start_returns (s : ClientFields υ η) {url : υ} (hurl : lib.parse urlStr = .ok url)
    (dial : DialResult) :
    (∃ s', s.start lib urlStr dial = .connected s') ∨
      ∃ err s', s.start lib urlStr dial = .failed err s' := by
  unfold ClientFields.start
  rw [hurl]
  cases dial with
  | connects => exact Or.inl ⟨_, rfl⟩
  | fails err resp => exact Or.inr ⟨_, _, rfl⟩

/-! ## The same call in steps -/

/-- The operations of a call of `Start`, as goroutine `t` of a client. -/
def startSteps (lib : UrlLibrary υ) (urlStr : List UInt8) (t : Nat) (dial : DialResult) :
    List ClientRun.Action :=
  match lib.parse urlStr, dial with
  | .error _, _ => [.start false, .thread t .go]
  | .ok _, .connects => ClientRun.connecting t
  | .ok _, .fails err _ => [.start true, .thread t .go, .thread t (.fails err)]

/-- The goroutine that came last takes a step, and the run goes on. -/
theorem run_last {c : Client} {threads : List Thread} {pc : Thread} {ev : Client.Event}
    {o : Client.Outcome} (hrun : c.panic = none) (hstep : c.step ev pc = some o)
    (as : List ClientRun.Action) :
    ClientRun.machine.run { client := c, threads := threads ++ [pc] }
        (.thread threads.length ev :: as)
      = ClientRun.machine.run { client := o.client, threads := threads ++ [o.next] ++ o.spawned }
        as := by
  simp [Machine.run, ClientRun.machine, ClientRun.act, hrun, hstep]

/-- It goes on without starting another one. -/
theorem run_goes {c c' : Client} {threads : List Thread} {pc next : Thread} {ev : Client.Event}
    (hrun : c.panic = none) (hstep : c.step ev pc = some (c'.goes next))
    (as : List ClientRun.Action) :
    ClientRun.machine.run { client := c, threads := threads ++ [pc] }
        (.thread threads.length ev :: as)
      = ClientRun.machine.run { client := c', threads := threads ++ [next] } as := by
  rw [run_last hrun hstep, Client.goes, List.append_nil]

theorem run_start {c : Client} {threads : List Thread} (hrun : c.panic = none) (valid : Bool)
    (as : List ClientRun.Action) :
    ClientRun.machine.run { client := c, threads := threads } (.start valid :: as)
      = ClientRun.machine.run
        { client := c, threads := threads ++ [.starting .start (.parse valid)] } as := by
  simp [Machine.run, ClientRun.machine, ClientRun.act, hrun, ClientRun.Action.entry]

/-- The operations of a `Start` that connects. -/
theorem run_connecting {c : Client} (threads : List Thread) (hrun : c.panic = none) :
    ClientRun.machine.run { client := c, threads := threads }
        (ClientRun.connecting threads.length)
      = some
        { client := c.connect, threads := threads ++ [.returned] ++ [.writePump, .readPump] } := by
  rw [ClientRun.connecting, ClientRun.going, run_start hrun, List.replicate, run_goes hrun rfl,
    List.replicate, run_goes hrun rfl, List.replicate, run_goes hrun rfl]
  -- the fields are assigned one after the other
  refine (run_goes (by exact hrun) (by rfl) _).trans ?_
  refine (run_goes (by exact hrun) (by rfl) _).trans ?_
  refine (run_last (by exact hrun) (by rfl) _).trans ?_
  rfl

/-- What `Start` does in one go, its steps do one by one when nobody interrupts them. -/
theorem startSteps_run (threads : List Thread) (hrun : s.client.panic = none) :
    ∃ r, ClientRun.machine.run { client := s.client, threads := threads }
        (startSteps lib urlStr threads.length dial) = some r ∧
      match s.start lib urlStr dial with
      | .panics => r.client.panic = some .nilDereference
      | .connected s' =>
          r.client = s'.client ∧ r.threads = threads ++ [.returned] ++ [.writePump, .readPump]
      | .failed _ s' => r.client = s'.client ∧ r.threads = threads ++ [.returned] := by
  unfold startSteps ClientFields.start
  cases hparse : lib.parse urlStr with
  | error e =>
      simp only
      rw [run_start hrun, run_last hrun rfl]
      exact ⟨_, rfl, rfl⟩
  | ok url =>
      cases dial with
      | connects => exact ⟨_, run_connecting threads hrun, rfl, rfl⟩
      | fails err resp =>
          simp only
          rw [run_start hrun, run_goes hrun rfl, run_goes hrun rfl]
          exact ⟨_, rfl, rfl, rfl⟩

/-! ## The reconnection loop -/

variable {wrap : Int → Int} {draws : Nat → Int} {b b' : BackOff}

/-- A round that waits ends as its call of `Start` does, and goes on if that has failed. -/
theorem round_timer (s : ClientFields υ η) (b : BackOff) (dial : DialResult) :
    (s.start lib (lib.string s.url) dial = .panics ∧
        s.round wrap lib draws b (.timer dial) = .panics) ∨
      (∃ s', s.round wrap lib draws b (.timer dial) = .connected s') ∨
      ∃ s', OnlyUrlChanged s s' ∧
        s.round wrap lib draws b (.timer dial) =
          match b.failed wrap s.timeoutConfig draws with
          | none => .panics
          | some b' => .waiting s' b' := by
  rw [ClientFields.round]
  cases hstart : s.start lib (lib.string s.url) dial with
  | panics => exact Or.inl ⟨rfl, rfl⟩
  | connected s' => exact Or.inr (Or.inl ⟨s', rfl⟩)
  | failed err s' =>
      obtain ⟨hsame, -⟩ := start_failed hstart
      refine Or.inr (Or.inr ⟨s', hsame, ?_⟩)
      cases hfailed : b.failed wrap s.timeoutConfig draws with
      | none => simp only [hsame.timeoutConfig, hfailed]
      | some b' => simp only [hsame.timeoutConfig, hfailed]

/-- The loop goes on after a failed `Start`, with the next wait. -/
theorem round_waiting {r : Round} (h : s.round wrap lib draws b r = .waiting s' b') :
    OnlyUrlChanged s s' ∧ b.failed wrap s.timeoutConfig draws = some b' := by
  cases r with
  | stop => exact absurd h (by simp [ClientFields.round])
  | timer dial =>
      rcases round_timer s b dial with ⟨-, hround⟩ | ⟨s₁, hround⟩ | ⟨s₁, hsame, hround⟩
      · rw [hround] at h
        exact absurd h (by simp)
      · rw [hround] at h
        exact absurd h (by simp)
      · rw [hround] at h
        split at h
        · exact absurd h (by simp)
        · rename_i b₁ hfailed
          cases h
          exact ⟨hsame, hfailed⟩

theorem round_stopped {r : Round} (h : s.round wrap lib draws b r = .stopped s') : s' = s := by
  cases r with
  | stop =>
      cases h
      rfl
  | timer dial =>
      rcases round_timer s b dial with ⟨-, hround⟩ | ⟨s₁, hround⟩ | ⟨s₁, -, hround⟩
      · rw [hround] at h
        exact absurd h (by simp)
      · rw [hround] at h
        exact absurd h (by simp)
      · rw [hround] at h
        split at h
        · exact absurd h (by simp)
        · exact absurd h (by simp)

/-- `Start` is not what panics in a round that dials a URL which can be parsed. -/
theorem round_panics {url : υ} (hurl : lib.parse (lib.string s.url) = .ok url)
    (h : s.round wrap lib draws b (.timer dial) = .panics) :
    b.failed wrap s.timeoutConfig draws = none := by
  rcases round_timer s b dial with ⟨hstart, -⟩ | ⟨s₁, hround⟩ | ⟨s₁, -, hround⟩
  · rcases start_returns s hurl dial with ⟨s', hs⟩ | ⟨err, s', hs⟩
    · exact absurd (hstart.symm.trans hs) (by simp)
    · exact absurd (hstart.symm.trans hs) (by simp)
  · rw [hround] at h
    exact absurd h (by simp)
  · rw [hround] at h
    split at h
    · assumption
    · exact absurd h (by simp)

theorem startWithRetries_panics {url : υ} (hurl : lib.parse urlStr = .ok url)
    (h : s.startWithRetries wrap lib draws urlStr dial [] = .panics) :
    BackOff.start wrap s.timeoutConfig draws = none := by
  unfold ClientFields.startWithRetries at h
  rcases start_returns s hurl dial with ⟨s', hs⟩ | ⟨err, s', hs⟩
  · rw [hs] at h
    exact absurd h (by simp)
  · rw [hs] at h
    simp only [ClientFields.handleReconnection, (start_failed hs).1.timeoutConfig] at h
    split at h
    · assumption
    · exact absurd h (by simp [ClientFields.rounds])

/-- The loop has not connected: it waits, or was stopped. -/
def Unconnected (s : ClientFields υ η) (r : Reconnection (ClientFields υ η)) : Prop :=
  (∃ b, r = .waiting s b) ∨ r = .stopped s

theorem not_unconnected_panics : ¬ Unconnected s .panics := by
  rintro (⟨b, h⟩ | h)
  · exact absurd h (by simp)
  · exact absurd h (by simp)

theorem not_unconnected_connected : ¬ Unconnected s' (.connected s) := by
  rintro (⟨b, h⟩ | h)
  · exact absurd h (by simp)
  · exact absurd h (by simp)

/-- As long as it has not connected, the loop has changed the URL at most. -/
theorem rounds_unconnected {rs : List Round}
    (h : Unconnected s' (s.rounds wrap lib draws b rs)) : OnlyUrlChanged s s' := by
  induction rs generalizing s b with
  | nil =>
      rcases h with ⟨b', hwait⟩ | hstop
      · cases hwait
        exact .refl _
      · exact absurd hstop (by simp [ClientFields.rounds])
  | cons r rs ih =>
      rw [ClientFields.rounds] at h
      split at h
      · rename_i s₁ b₁ hround
        exact (round_waiting hround).1.trans (ih h)
      · rename_i hnot
        rcases h with ⟨b', hwait⟩ | hstop
        · exact absurd hwait (hnot s' b')
        · rw [round_stopped hstop]
          exact .refl _

theorem handleReconnection_unconnected {rs : List Round}
    (h : Unconnected s' (s.handleReconnection wrap lib draws rs)) : OnlyUrlChanged s s' := by
  unfold ClientFields.handleReconnection at h
  split at h
  · exact absurd h not_unconnected_panics
  · exact rounds_unconnected h

theorem startWithRetries_unconnected {rs : List Round}
    (h : Unconnected s' (s.startWithRetries wrap lib draws urlStr dial rs)) :
    OnlyUrlChanged s s' := by
  unfold ClientFields.startWithRetries at h
  split at h
  · exact absurd h not_unconnected_panics
  · exact absurd h not_unconnected_connected
  · rename_i s₁ hstart
    exact (start_failed hstart).1.trans (handleReconnection_unconnected h)

/-! ## The client of `ocppj` -/

theorem ocppj_start_connected {h : Handlers η} {c c' : OcppjClient υ η} {serverURL : List UInt8}
    (hstart : c.start lib h serverURL dial = .connected c') :
    (c.setHandlers h).start lib (c.fullUrl serverURL) dial = .connected c'.client ∧
      c'.dispatcherStarts = c.dispatcherStarts + 1 := by
  unfold OcppjClient.start at hstart
  split at hstart
  · exact absurd hstart (by simp)
  · rename_i s₁ hs
    cases hstart
    exact ⟨hs, rfl⟩
  · exact absurd hstart (by simp)

theorem ocppj_start_failed {h : Handlers η} {c c' : OcppjClient υ η} {serverURL : List UInt8}
    (hstart : c.start lib h serverURL dial = .failed err c') :
    (c.setHandlers h).start lib (c.fullUrl serverURL) dial = .failed err c'.client ∧
      c'.dispatcherStarts = c.dispatcherStarts := by
  unfold OcppjClient.start at hstart
  split at hstart
  · exact absurd hstart (by simp)
  · exact absurd hstart (by simp)
  · rename_i s₁ hs
    cases hstart
    exact ⟨hs, rfl⟩

theorem ocppj_start_returns (h : Handlers η) {c : OcppjClient υ η} {serverURL : List UInt8}
    {url : υ} (hurl : lib.parse (c.fullUrl serverURL) = .ok url) (dial : DialResult) :
    (∃ c', c.start lib h serverURL dial = .connected c') ∨
      ∃ err c', c.start lib h serverURL dial = .failed err c' := by
  unfold OcppjClient.start
  rcases start_returns (c.setHandlers h) hurl dial with ⟨s', hs⟩ | ⟨err, s', hs⟩
  · rw [hs]
    exact Or.inl ⟨_, rfl⟩
  · rw [hs]
    exact Or.inr ⟨err, _, rfl⟩

end

/--
**A failed start changes nothing but the URL**, exactly if the URL can be parsed: `Start`
then connects, or it returns an error with everything else as it was. Called by
`StartWithRetries` or in a round of the reconnection loop it does not panic either, only
`rand.Intn` may there; and for as long as these have not connected, everything but the URL
is as it was. `Client.Start` of `ocppj` leaves its dispatcher alone when `Start` fails.
-/
theorem failed_start_changes_only_url (lib : UrlLibrary υ) (urlStr : List UInt8)
    (dial : DialResult) :
    ((∀ s : ClientFields υ η,
      (∃ s', s.start lib urlStr dial = .connected s' ∧ s'.client.connected = true) ∨
      ∃ err s', s.start lib urlStr dial = .failed err s' ∧ OnlyUrlChanged s s') ∧
    (∀ (s : ClientFields υ η) wrap draws,
      (s.startWithRetries wrap lib draws urlStr dial [] = .panics →
        BackOff.start wrap s.timeoutConfig draws = none) ∧
      ∀ s' rs, Unconnected s' (s.startWithRetries wrap lib draws urlStr dial rs) →
        OnlyUrlChanged s s') ∧
    (∀ (s : ClientFields υ η) wrap draws,
      (∀ b, lib.string s.url = urlStr → s.round wrap lib draws b (.timer dial) = .panics →
        b.failed wrap s.timeoutConfig draws = none) ∧
      ∀ s' rs, Unconnected s' (s.handleReconnection wrap lib draws rs) →
        OnlyUrlChanged s s') ∧
    ∀ (c : OcppjClient υ η) (h : Handlers η) serverURL, c.fullUrl serverURL = urlStr →
      (∃ c', c.start lib h serverURL dial = .connected c') ∨
        ∃ err c', c.start lib h serverURL dial = .failed err c' ∧
          OnlyUrlChanged (c.setHandlers h) c'.client ∧
          c'.dispatcherStarts = c.dispatcherStarts)
    ↔ ∃ url, lib.parse urlStr = .ok url := by
  constructor
  · rintro ⟨hstart, -⟩
    rcases hstart (.new lib) with ⟨s', hs, -⟩ | ⟨err, s', hs, -⟩
    · exact ⟨_, (start_connected hs).2.1⟩
    · exact ⟨_, (start_failed hs).2⟩
  rintro ⟨url, hurl⟩
  refine ⟨?_, ?_, ?_, ?_⟩
  · intro s
    rcases start_returns s hurl dial with ⟨s', hs⟩ | ⟨err, s', hs⟩
    · exact Or.inl ⟨s', hs, by rw [(start_connected hs).2.2]; rfl⟩
    · exact Or.inr ⟨err, s', hs, (start_failed hs).1⟩
  · intro s wrap draws
    exact ⟨startWithRetries_panics hurl, fun s' rs h => startWithRetries_unconnected h⟩
  · intro s wrap draws
    refine ⟨?_, fun s' rs h => handleReconnection_unconnected h⟩
    rintro b rfl h
    exact round_panics hurl h
  · rintro c h serverURL rfl
    rcases ocppj_start_returns h hurl dial with hc | ⟨err, c', hc⟩
    · exact Or.inl hc
    · obtain ⟨hs, hdispatcher⟩ := ocppj_start_failed hc
      exact Or.inr ⟨err, c', hc, (start_failed hs).1, hdispatcher⟩

/-- `ws://h/CP1`. -/
def chargePointUrl : List UInt8 := [0x77, 0x73, 0x3A, 0x2F, 0x2F, 0x68, 0x2F, 0x43, 0x50, 0x31]

/-- A refused handshake leaves a new client without connection, pumps and dispatcher. -/
theorem refused_handshake_changes_only_url :
    (∃ url, netUrl.parse chargePointUrl = .ok url) ∧
      ∃ err s', (ClientFields.new netUrl : ClientFields Url Unit).start netUrl chargePointUrl
          (.fails "bad handshake" (some ⟨"404 Not Found", 404, ""⟩)) = .failed err s' ∧
        err = .http "bad handshake" "404 Not Found" 404 "" ∧
        s'.client = .new ∧ s'.pumps = 0 := by
  have hurl : ∃ url, netUrl.parse chargePointUrl = .ok url := ⟨_, rfl⟩
  obtain ⟨hstart, -⟩ := (failed_start_changes_only_url (η := Unit) netUrl chargePointUrl
    (.fails "bad handshake" (some ⟨"404 Not Found", 404, ""⟩))).mpr hurl
  refine ⟨hurl, ?_⟩
  rcases hstart (.new netUrl) with ⟨s', hs, -⟩ | ⟨err, s', hs, hsame⟩
  · exact absurd (start_connected hs).1 (by simp)
  · refine ⟨err, s', hs, ?_, hsame.client, hsame.pumps⟩
    cases hs
    rfl

/-- A URL with a bad escape, `ws://h/%`, takes the process down, however the dial would end. -/
theorem unparsable_url_panics :
    (∃ text, netUrl.parse [0x77, 0x73, 0x3A, 0x2F, 0x2F, 0x68, 0x2F, 0x25] = .error text) ∧
      ∀ dial, (ClientFields.new netUrl : ClientFields Url Unit).start netUrl
        [0x77, 0x73, 0x3A, 0x2F, 0x2F, 0x68, 0x2F, 0x25] dial = .panics :=
  ⟨⟨_, rfl⟩, fun _ => rfl⟩

end OcppGo.Proof
