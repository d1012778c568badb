import OcppGo.Proof.FailedStart

/-!
# How long the reconnection loop waits

The first wait is the configured minimum and a random part. The comments on the
constants say that the wait is then doubled `RepeatTimes` times, each time with a new
random part. The loop counts its attempts from one and doubles while the count is below
`RepeatTimes`, which is one time less.

Nothing caps the wait. In 64 bits it is right as long as it fits: `WaitFits` is, for a number
of failed attempts, exactly what the configuration and the random parts have to meet. One
doubling later the wait is negative.
-/

namespace OcppGo.Proof

open OcppGo.Lib OcppGo.Ws

/-! ## The specification -/

/-- The wait after `k` doublings, in exact integers. -/
def specifiedDelay (config : ClientTimeoutConfig) (draws : Nat → Int) : Nat → Int
  | 0 => config.retryBackOffWaitMinimum + draws 0 * second
  | k + 1 => 2 * specifiedDelay config draws k + draws (k + 1) * second

/-- What `rand.Intn(RetryBackOffRandomRange + 1)` may return. -/
def ValidDraws (config : ClientTimeoutConfig) (draws : Nat → Int) : Prop :=
  ∀ i, 0 ≤ draws i ∧ draws i ≤ config.retryBackOffRandomRange

/-- How often the loop has doubled the wait after `n` failed attempts. -/
def doublings (config : ClientTimeoutConfig) (n : Nat) : Nat :=
  min n (config.retryBackOffRepeatTimes - 1).toNat

section

variable {config : ClientTimeoutConfig} {draws : Nat → Int} {wrap : Int → Int} {n k l : Nat}

theorem ValidDraws.range_nonneg (h : ValidDraws config draws) :
    0 ≤ config.retryBackOffRandomRange :=
  Int.le_trans (h 0).1 (h 0).2

/-- The longest random parts. -/
theorem validDraws_longest (config : ClientTimeoutConfig)
    (h : 0 ≤ config.retryBackOffRandomRange) :
    ValidDraws config fun _ => config.retryBackOffRandomRange :=
  fun _ => ⟨h, Int.le_refl _⟩

/-! ## The variables of the loop -/

/-- **The loop's variables after `n` failed attempts**, in exact integers. -/
theorem after_eq (hrange : 0 ≤ config.retryBackOffRandomRange) (n : Nat) :
    BackOff.after id config draws n = some
      { delay := specifiedDelay config draws (doublings config n)
        reconnectionAttempts := n + 1, drawn := doublings config n + 1 } := by
  have hrandom : ∀ k, BackOff.randomPart id config draws k = some (draws k * second) := by
    intro k
    rw [BackOff.randomPart, intn, id, if_pos (by omega)]
    rfl
  induction n with
  | zero =>
      have hnone : doublings config 0 = 0 := Nat.zero_min _
      rw [BackOff.after, BackOff.start, hrandom, hnone]
      rfl
  | succ n ih =>
      rw [BackOff.after, ih, Option.bind_some, BackOff.failed]
      by_cases hlt : ((n : Int) + 1) < config.retryBackOffRepeatTimes
      · -- it doubles: so far it has in every round
        have hn : doublings config n = n := by unfold doublings; omega
        have hsucc : doublings config (n + 1) = n + 1 := by unfold doublings; omega
        rw [if_pos hlt, hn, BackOff.double, hrandom, hsucc]
        simp only [Option.map_some, id, specifiedDelay, Int.mul_comm 2, Int.natCast_succ]
      · -- the count has reached `RepeatTimes`, and stays above it
        have hsame : doublings config (n + 1) = doublings config n := by unfold doublings; omega
        rw [if_neg hlt, hsame]
        simp only [Option.map_some, id, Int.natCast_succ]

/-- The wait that is specified, against the one of one doubling less. -/
theorem specifiedDelay_doublings_iff (hrepeat : 0 ≤ config.retryBackOffRepeatTimes) :
    specifiedDelay config draws (doublings config n)
        = specifiedDelay config draws (min n config.retryBackOffRepeatTimes.toNat) ↔
      (n : Int) < config.retryBackOffRepeatTimes ∨ config.retryBackOffRepeatTimes = 0
        ∨ specifiedDelay config draws (config.retryBackOffRepeatTimes - 1).toNat
          = -(draws config.retryBackOffRepeatTimes.toNat * second) := by
  by_cases hbefore : (n : Int) < config.retryBackOffRepeatTimes
      ∨ config.retryBackOffRepeatTimes = 0
  · have hsame : doublings config n = min n config.retryBackOffRepeatTimes.toNat := by
      unfold doublings
      omega
    rw [hsame, ← or_assoc]
    exact iff_of_true rfl (Or.inl hbefore)
  · have hpos : config.retryBackOffRepeatTimes.toNat
        = (config.retryBackOffRepeatTimes - 1).toNat + 1 := by omega
    have hlast : doublings config n = (config.retryBackOffRepeatTimes - 1).toNat := by
      unfold doublings
      omega
    have hspecified : min n config.retryBackOffRepeatTimes.toNat
        = (config.retryBackOffRepeatTimes - 1).toNat + 1 := by omega
    rw [hlast, hspecified, ← or_assoc, or_iff_right hbefore, hpos, specifiedDelay]
    omega

end

section

variable {υ η : Type} {lib : UrlLibrary υ} {wrap : Int → Int} {draws : Nat → Int}
  {s s' : ClientFields υ η} {b b' : BackOff} {rs : List Round} {n : Nat}

/-- A round that goes on is a failed attempt. -/
theorem rounds_waiting (hb : BackOff.after wrap s.timeoutConfig draws n = some b)
    (h : s.rounds wrap lib draws b rs = .waiting s' b') :
    BackOff.after wrap s.timeoutConfig draws (n + rs.length) = some b' := by
  induction rs generalizing s b n with
  | nil =>
      cases h
      exact hb
  | cons r rs ih =>
      rw [ClientFields.rounds] at h
      split at h
      · rename_i s₁ b₁ hround
        obtain ⟨hsame, hfailed⟩ := round_waiting hround
        have hnext : BackOff.after wrap s₁.timeoutConfig draws (n + 1) = some b₁ := by
          rw [hsame.timeoutConfig, BackOff.after, hb]
          exact hfailed
        have hrest := ih hnext h
        rwa [hsame.timeoutConfig, Nat.add_assoc, Nat.add_comm 1] at hrest
      · rename_i hnot
        exact absurd h (hnot s' b')

/-- One more round. -/
theorem rounds_snoc (r : Round) (h : s.rounds wrap lib draws b rs = .waiting s' b') :
    s.rounds wrap lib draws b (rs ++ [r]) = s'.round wrap lib draws b' r := by
  induction rs generalizing s b with
  | nil =>
      cases h
      rw [List.nil_append, ClientFields.rounds]
      split
      · rename_i hround
        rw [hround, ClientFields.rounds]
      · rfl
  | cons first rs ih =>
      rw [List.cons_append, ClientFields.rounds]
      rw [ClientFields.rounds] at h
      split at h
      · exact ih h
      · rename_i hnot
        exact absurd h (hnot s' b')

theorem handleReconnection_snoc (r : Round)
    (h : s.handleReconnection wrap lib draws rs = .waiting s' b') :
    s.handleReconnection wrap lib draws (rs ++ [r]) = s'.round wrap lib draws b' r := by
  unfold ClientFields.handleReconnection at h ⊢
  split at h
  · exact absurd h (by simp)
  · exact rounds_snoc r h

theorem handleReconnection_waiting (h : s.handleReconnection wrap lib draws rs = .waiting s' b) :
    BackOff.after wrap s.timeoutConfig draws rs.length = some b := by
  unfold ClientFields.handleReconnection at h
  split at h
  · exact absurd h (by simp)
  · rename_i b₀ hstart
    have hrounds := rounds_waiting (n := 0) hstart h
    rwa [Nat.zero_add] at hrounds

end

/-! ## In exact integers -/

/--
**How the back-off follows its specification.** After `n` failed attempts the wait has
been doubled `n` times, at most one time less than `RepeatTimes`. That is what is
specified before the last doubling, if none is configured, or if the last one would
change nothing.
-/
theorem backoff_follows_specification {υ η : Type} (config : ClientTimeoutConfig)
    (draws : Nat → Int) (n : Nat) (hrepeat : 0 ≤ config.retryBackOffRepeatTimes)
    (hdraws : ValidDraws config draws) :
    (∃ b, BackOff.after id config draws n = some b ∧
      b.delay = specifiedDelay config draws (min n (config.retryBackOffRepeatTimes - 1).toNat) ∧
      (b.delay = specifiedDelay config draws (min n config.retryBackOffRepeatTimes.toNat) ↔
        (n : Int) < config.retryBackOffRepeatTimes ∨ config.retryBackOffRepeatTimes = 0
          ∨ specifiedDelay config draws (config.retryBackOffRepeatTimes - 1).toNat
            = -(draws config.retryBackOffRepeatTimes.toNat * second))) ∧
    ∀ (lib : UrlLibrary υ) (s s' : ClientFields υ η) (rs : List Round) (b : BackOff),
      s.timeoutConfig = config → rs.length = n →
      s.handleReconnection id lib draws rs = .waiting s' b →
      b.delay = specifiedDelay config draws (min n (config.retryBackOffRepeatTimes - 1).toNat) := by
  have hafter := @after_eq config draws hdraws.range_nonneg n
  refine ⟨⟨_, hafter, rfl, specifiedDelay_doublings_iff hrepeat⟩, ?_⟩
  rintro lib s s' rs b rfl rfl hwait
  rw [handleReconnection_waiting hwait] at hafter
  cases hafter
  rfl

/-- A client of `ws://h/CP1`. -/
def unreachedClient (config : ClientTimeoutConfig) : ClientFields Url Unit :=
  { ClientFields.new netUrl with
    url := ⟨[0x77, 0x73], [0x68], [0x2F, 0x43, 0x50, 0x31], [0x2F, 0x43, 0x50, 0x31], [], []⟩
    timeoutConfig := config }

/-- The loop after the dial was refused `n` times. -/
def refused (wrap : Int → Int) (config : ClientTimeoutConfig) (draws : Nat → Int) (n : Nat) :
    Reconnection (ClientFields Url Unit) :=
  (unreachedClient config).handleReconnection wrap netUrl draws
    (List.replicate n (.timer (.fails "connection refused" none)))

/-- The loop then waits for as long as its variables say. -/
theorem refused_eq {wrap : Int → Int} {config : ClientTimeoutConfig} {draws : Nat → Int} {n : Nat}
    {b : BackOff} (h : BackOff.after wrap config draws n = some b) :
    refused wrap config draws n = .waiting (unreachedClient config) b := by
  induction n generalizing b with
  | zero =>
      unfold refused ClientFields.handleReconnection
      rw [show BackOff.start wrap (unreachedClient config).timeoutConfig draws = some b from h]
      rfl
  | succ n ih =>
      obtain ⟨b₁, hb₁, hfailed⟩ := Option.bind_eq_some_iff.mp h
      have hstart : (unreachedClient config).start netUrl
          (netUrl.string (unreachedClient config).url) (.fails "connection refused" none)
            = .failed (.dial "connection refused") (unreachedClient config) := rfl
      rw [refused, List.replicate_succ', handleReconnection_snoc _ (ih hb₁), ClientFields.round,
        hstart]
      simp only
      rw [show b₁.failed wrap (unreachedClient config).timeoutConfig draws = some b from hfailed]

/-- With the default configuration and the longest random parts, after four failures. -/
theorem default_backoff_doubles :
    ∃ s b, refused id .new (fun _ => 15) 4 = .waiting s b ∧
      b.delay = specifiedDelay .new (fun _ => 15) (min 4 5) ∧ b.delay = 625 * second := by
  obtain ⟨⟨b, hb, hexact, hspecified⟩, -⟩ := backoff_follows_specification (υ := Url) (η := Unit)
    .new (fun _ => 15) 4 (by decide) (validDraws_longest .new (by decide))
  exact ⟨_, b, refused_eq hb, hspecified.mpr (Or.inl (by decide)), hexact⟩

/-- One doubling is configured, and the second wait is as long as the first. -/
theorem configured_doubling_not_made :
    ∃ s b, refused id ⟨1, 0, second⟩ (fun _ => 0) 1 = .waiting s b ∧ b.delay = second ∧
      specifiedDelay ⟨1, 0, second⟩ (fun _ => 0) (min 1 1) = 2 * second :=
  ⟨_, _, rfl, rfl, rfl⟩

/-! ## In 64 bits -/

/-- The random part of a wait: `time.Duration(r) * time.Second` wraps for the largest draws. -/
def drawnPart (draws : Nat → Int) (k : Nat) : Int := wrap64 (draws k * second)

/-- The wait after `k` doublings with these parts, without a limit. -/
def unlimitedDelay (config : ClientTimeoutConfig) (draws : Nat → Int) : Nat → Int
  | 0 => config.retryBackOffWaitMinimum + drawnPart draws 0
  | k + 1 => 2 * unlimitedDelay config draws k + drawnPart draws (k + 1)

/-- How often the wait is doubled in `n` failed attempts, with a counter of 64 bits. -/
def doublings64 (config : ClientTimeoutConfig) : Nat → Nat
  | 0 => 0
  | n + 1 => doublings64 config n
      + if wrap64 (n + 1) < config.retryBackOffRepeatTimes then 1 else 0

/--
The longest wait in `n` failed attempts fits into 64 bits, so does the argument of
`rand.Intn`, and no random part that has wrapped takes away more than there is.
-/
structure WaitFits (config : ClientTimeoutConfig) (draws : Nat → Int) (n : Nat) : Prop where
  range : config.retryBackOffRandomRange + 1 < 9223372036854775808
  first : 0 ≤ config.retryBackOffWaitMinimum + drawnPart draws 0
  next : ∀ k < doublings64 config n,
    0 ≤ unlimitedDelay config draws k + drawnPart draws (k + 1)
  longest : unlimitedDelay config draws (doublings64 config n) < 9223372036854775808

/-- The waits up to the one after `n` failed attempts: none is negative or shorter than before. -/
def Steady (config : ClientTimeoutConfig) (draws : Nat → Int) (n : Nat) : Prop :=
  ∀ k ≤ n, ∃ b, BackOff.after wrap64 config draws k = some b ∧ 0 ≤ b.delay ∧
    ∀ j < k, ∃ b', BackOff.after wrap64 config draws j = some b' ∧ b'.delay ≤ b.delay

section

variable {config : ClientTimeoutConfig} {draws : Nat → Int} {n k l : Nat}

theorem wrap64_of_lt {x : Int} (hnonneg : 0 ≤ x) (hlt : x < 9223372036854775808) :
    wrap64 x = x := by
  exact Int.bmod_eq_of_le (by omega) (by omega)

theorem drawnPart_bounds (draws : Nat → Int) (k : Nat) :
    -9223372036854775808 ≤ drawnPart draws k ∧ drawnPart draws k < 9223372036854775808 := by
  have hle := @Int.le_bmod (draws k * second) 18446744073709551616 (by decide)
  have hlt := @Int.bmod_lt (draws k * second) 18446744073709551616 (by decide)
  exact ⟨hle, hlt⟩

/-- A sum of which one part is not negative is right if and only if it is in range. -/
theorem wrap64_add_nonneg_iff {e w : Int} (he : 0 ≤ e) (he' : e < 9223372036854775808)
    (hw : -9223372036854775808 ≤ w ∧ w < 9223372036854775808) :
    0 ≤ wrap64 (e + w) ↔ 0 ≤ e + w ∧ e + w < 9223372036854775808 := by
  unfold wrap64
  rw [Int.bmod_def]
  split <;> omega

/-- A doubled wait is no shorter, exactly if nothing is lost to the 64 bits. -/
theorem le_wrap64_double_iff {e w : Int} (he : 0 ≤ e) (he' : e < 9223372036854775808)
    (hw : -9223372036854775808 ≤ w ∧ w < 9223372036854775808) :
    e ≤ wrap64 (wrap64 (e * 2) + w) ↔ 0 ≤ e + w ∧ 2 * e + w < 9223372036854775808 := by
  unfold wrap64
  rw [Int.bmod_add_bmod, Int.bmod_def]
  split <;> omega

theorem wrap64_double {e w : Int} (hnonneg : 0 ≤ 2 * e + w)
    (hlt : 2 * e + w < 9223372036854775808) : wrap64 (wrap64 (e * 2) + w) = 2 * e + w := by
  rw [wrap64, wrap64, Int.bmod_add_bmod, Int.mul_comm]
  exact wrap64_of_lt hnonneg hlt

/-- The waits grow as long as the parts are not too small. -/
theorem WaitFits.delay_mono (h : WaitFits config draws n) (hkl : k ≤ l)
    (hl : l ≤ doublings64 config n) :
    0 ≤ unlimitedDelay config draws k
      ∧ unlimitedDelay config draws k ≤ unlimitedDelay config draws l := by
  induction l generalizing k with
  | zero =>
      obtain rfl := Nat.le_zero.mp hkl
      exact ⟨h.first, Int.le_refl _⟩
  | succ l ih =>
      have hnext := h.next l hl
      have hself := (ih (Nat.le_refl l) (Nat.le_of_succ_le hl)).1
      have hstep : unlimitedDelay config draws l ≤ unlimitedDelay config draws (l + 1) := by
        rw [unlimitedDelay]
        omega
      rcases Nat.le_succ_iff.mp hkl with hk | rfl
      · obtain ⟨hnonneg, hle⟩ := ih hk (Nat.le_of_succ_le hl)
        exact ⟨hnonneg, Int.le_trans hle hstep⟩
      · exact ⟨Int.le_trans hself hstep, Int.le_refl _⟩

theorem doublings64_mono (config : ClientTimeoutConfig) (hkl : k ≤ l) :
    doublings64 config k ≤ doublings64 config l := by
  induction hkl with
  | refl => exact Nat.le_refl _
  | step _ ih => exact Nat.le_trans ih (Nat.le_add_right _ _)

theorem WaitFits.of_le (h : WaitFits config draws n) (hk : k ≤ n) : WaitFits config draws k := by
  have hle := doublings64_mono config hk
  exact ⟨h.range, h.first, fun j hj => h.next j (hj.trans_le hle),
    Int.lt_of_le_of_lt (h.delay_mono hle (Nat.le_refl _)).2 h.longest⟩

theorem randomPart64 (hrange : 0 ≤ config.retryBackOffRandomRange)
    (hlt : config.retryBackOffRandomRange + 1 < 9223372036854775808) (k : Nat) :
    BackOff.randomPart wrap64 config draws k = some (drawnPart draws k) := by
  rw [BackOff.randomPart, wrap64_of_lt (by omega) hlt, intn, if_pos (by omega)]
  rfl

/-- The loop's variables after `n` failed attempts, if all fits. -/
theorem WaitFits.after_eq (hdraws : ValidDraws config draws) (h : WaitFits config draws n) :
    BackOff.after wrap64 config draws n = some
      { delay := unlimitedDelay config draws (doublings64 config n)
        reconnectionAttempts := wrap64 (n + 1), drawn := doublings64 config n + 1 } := by
  have hrandom := @randomPart64 config draws hdraws.range_nonneg h.range
  induction n with
  | zero =>
      have hdelay := wrap64_of_lt h.first h.longest
      rw [BackOff.after, BackOff.start, hrandom, Option.map_some, hdelay]
      rfl
  | succ n ih =>
      have hcount : wrap64 (wrap64 ((n : Int) + 1) + 1) = wrap64 (((n + 1 : Nat) : Int) + 1) :=
        Int.bmod_add_bmod
      rw [BackOff.after, ih (h.of_le (Nat.le_succ n)), Option.bind_some, BackOff.failed]
      by_cases hlt : wrap64 ((n : Int) + 1) < config.retryBackOffRepeatTimes
      · have hsucc : doublings64 config (n + 1) = doublings64 config n + 1 := by
          rw [doublings64, if_pos hlt]
        have hnonneg := (h.delay_mono (Nat.le_refl _) (Nat.le_refl _)).1
        have hlongest := h.longest
        rw [hsucc, unlimitedDelay] at hnonneg hlongest
        rw [if_pos hlt, BackOff.double, hrandom, Option.map_some, Option.map_some,
          wrap64_double hnonneg hlongest, hsucc, hcount]
        rfl
      · have hsame : doublings64 config (n + 1) = doublings64 config n := by
          rw [doublings64, if_neg hlt, Nat.add_zero]
        rw [if_neg hlt, hsame, Option.map_some, hcount]

theorem Steady.of_le (h : Steady config draws n) (hk : k ≤ n) : Steady config draws k :=
  fun j hj => h j (hj.trans hk)

/-- If all fits, the waits are steady. -/
theorem WaitFits.steady (hdraws : ValidDraws config draws) (h : WaitFits config draws n) :
    Steady config draws n := by
  intro k hk
  have hfits := h.of_le hk
  refine ⟨_, hfits.after_eq hdraws, (hfits.delay_mono (Nat.le_refl _) (Nat.le_refl _)).1, ?_⟩
  intro j hj
  exact ⟨_, (hfits.of_le hj.le).after_eq hdraws,
    (hfits.delay_mono (doublings64_mono config hj.le) (Nat.le_refl _)).2⟩

/-- Nothing is drawn from an empty range, so its argument did not wrap. -/
theorem Steady.range (h : Steady config draws n) (hlt : config.retryBackOffRandomRange
    < 9223372036854775808) : config.retryBackOffRandomRange + 1 < 9223372036854775808 := by
  by_contra hge
  have hmax : config.retryBackOffRandomRange = 9223372036854775807 := by omega
  obtain ⟨b, hb, _⟩ := h 0 (Nat.zero_le n)
  rw [BackOff.after, BackOff.start, BackOff.randomPart, hmax] at hb
  cases hb

/-- If the waits are steady, all fits: the first that does not is seen as a shorter one. -/
theorem Steady.fits (hmin : 0 ≤ config.retryBackOffWaitMinimum)
    (hmin' : config.retryBackOffWaitMinimum < 9223372036854775808)
    (hrange : config.retryBackOffRandomRange < 9223372036854775808)
    (hdraws : ValidDraws config draws) (h : Steady config draws n) : WaitFits config draws n := by
  have hlt := h.range hrange
  induction n with
  | zero =>
      obtain ⟨b, hb, hnonneg, _⟩ := h 0 (Nat.le_refl 0)
      rw [BackOff.after, BackOff.start, randomPart64 hdraws.range_nonneg hlt] at hb
      cases hb
      have hfirst := (wrap64_add_nonneg_iff hmin hmin' (drawnPart_bounds draws 0)).mp hnonneg
      exact ⟨hlt, hfirst.1, fun k hk => absurd hk (Nat.not_lt_zero k), hfirst.2⟩
  | succ n ih =>
      have hfits := ih (h.of_le (Nat.le_succ n))
      obtain ⟨b', hb', _, hbefore⟩ := h (n + 1) (Nat.le_refl _)
      obtain ⟨b, hb, hle⟩ := hbefore n (Nat.lt_succ_self n)
      by_cases hcount : wrap64 ((n : Int) + 1) < config.retryBackOffRepeatTimes
      · have hsucc : doublings64 config (n + 1) = doublings64 config n + 1 := by
          rw [doublings64, if_pos hcount]
        rw [hfits.after_eq hdraws] at hb
        cases hb
        rw [BackOff.after, hfits.after_eq hdraws, Option.bind_some, BackOff.failed] at hb'
        simp only [hcount, if_true, BackOff.double, randomPart64 hdraws.range_nonneg hlt,
          Option.map_some, Option.some.injEq] at hb'
        subst hb'
        have hnonneg := (hfits.delay_mono (Nat.le_refl _) (Nat.le_refl _)).1
        have hdoubled := (le_wrap64_double_iff hnonneg hfits.longest
          (drawnPart_bounds draws _)).mp hle
        refine ⟨hlt, hfits.first, fun k hk => ?_, by rw [hsucc, unlimitedDelay]; exact hdoubled.2⟩
        rw [hsucc] at hk
        rcases Nat.lt_succ_iff_lt_or_eq.mp hk with hk | rfl
        · exact hfits.next k hk
        · exact hdoubled.1
      · have hsame : doublings64 config (n + 1) = doublings64 config n := by
          rw [doublings64, if_neg hcount, Nat.add_zero]
        exact ⟨hlt, hfits.first, hsame ▸ hfits.next, hsame ▸ hfits.longest⟩

end

/--
**When the back-off does not wrap**, for a configuration of 64-bit integers: up to `n`
failed attempts every wait is non-negative and no shorter than those before, exactly if
the waits fit. These are the waits of the loop, on every client.
-/
theorem backoff_never_wraps {υ η : Type} (config : ClientTimeoutConfig) (draws : Nat → Int)
    (n : Nat) (hmin : 0 ≤ config.retryBackOffWaitMinimum)
    (hmin64 : config.retryBackOffWaitMinimum < 9223372036854775808)
    (hrange64 : config.retryBackOffRandomRange < 9223372036854775808)
    (hdraws : ValidDraws config draws) :
    (Steady config draws n ↔ WaitFits config draws n) ∧
    ∀ (lib : UrlLibrary υ) (s s' : ClientFields υ η) (rs : List Round) (b : BackOff),
      (s.setTimeoutConfig config).handleReconnection wrap64 lib draws rs = .waiting s' b →
      BackOff.after wrap64 config draws rs.length = some b := by
  refine ⟨⟨fun h => h.fits hmin hmin64 hrange64 hdraws, fun h => h.steady hdraws⟩, ?_⟩
  intro lib s s' rs b hwait
  exact handleReconnection_waiting hwait

/--
With 64 doublings from ten seconds on, the waits are steady up to the one after the third
failure, and no longer up to the one after the thirtieth. The default configuration never
wraps in so many.
-/
theorem ten_seconds_steady :
    (Steady ⟨64, 0, 10 * second⟩ (fun _ => 0) 3 ∧ ¬ Steady ⟨64, 0, 10 * second⟩ (fun _ => 0) 30)
      ∧ Steady .new (fun _ => 15) 30 := by
  have hdraws : ValidDraws ⟨64, 0, 10 * second⟩ (fun _ => 0) :=
    validDraws_longest ⟨64, 0, 10 * second⟩ (by decide)
  have hiff := fun n => (backoff_never_wraps (υ := Url) (η := Unit) ⟨64, 0, 10 * second⟩
    (fun _ => 0) n (by decide) (by decide) (by decide) hdraws).1
  have hnew := (backoff_never_wraps (υ := Url) (η := Unit) .new (fun _ => 15) 30 (by decide)
    (by decide) (by decide) (validDraws_longest .new (by decide))).1
  refine ⟨⟨(hiff 3).mpr ⟨by decide, by decide, by decide, by decide⟩, fun h => ?_⟩,
    hnew.mpr ⟨by decide, by decide, by decide, by decide⟩⟩
  exact absurd ((hiff 30).mp h).longest (by decide)

/-- 64 doublings from ten seconds on: the wait after the thirtieth failure is negative. -/
theorem backoff_wraps :
    ∃ s s' b b', refused wrap64 ⟨64, 0, 10 * second⟩ (fun _ => 0) 29 = .waiting s b ∧
      refused wrap64 ⟨64, 0, 10 * second⟩ (fun _ => 0) 30 = .waiting s' b' ∧
      0 < b.delay ∧ b'.delay < 0 :=
  ⟨_, _, ⟨5368709120000000000, 30, 30⟩, ⟨-7709325833709551616, 31, 31⟩,
    refused_eq (by decide +kernel), refused_eq (by decide +kernel), by decide, by decide⟩

end OcppGo.Proof
