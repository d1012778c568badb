import Mathlib.Logic.Function.Basic

/-!
# A timer with several users

`time.Timer` of Go up to 1.22: `Stop` is false once the timer has expired, whether or not
its tick was received; the channel holds one tick at most; `Reset` arms the timer again. A
user that wants to set it anew calls `Stop`, receives the tick if that was false, and calls
`Reset`.

This is right as long as nobody else receives. With several users one may wait for a tick
that another has taken. They do not if a user whose `Stop` is false finds all others
elsewhere, and nobody takes a tick that somebody is about to receive.
-/

namespace OcppGo.Lib

variable {ι : Type*}

/-- What a user of the timer does next. -/
inductive TimerUse where
  /-- Nothing that concerns the timer, or its first operation on it. -/
  | idle
  /-- Receive the tick, after a `Stop` that was false. -/
  | draining
  /-- Call `Reset`, after a `Stop` or a receive. -/
  | resetting
deriving Repr, DecidableEq

structure SharedTimer (ι : Type*) where
  armed : Bool
  /-- There is a tick in the channel. -/
  tick : Bool
  use : ι → TimerUse

namespace SharedTimer

/-- A step in which the users take turns. -/
inductive Turn [DecidableEq ι] (s : SharedTimer ι) : SharedTimer ι → Prop where
  | stop (i : ι) : Turn s { s with armed := false, use := Function.update s.use i .resetting }
  | stopFails (i : ι) : s.armed = false → (∀ j, s.use j = .idle) →
      Turn s { s with use := Function.update s.use i .draining }
  | drain (i : ι) : s.use i = .draining →
      Turn s { s with tick := false, use := Function.update s.use i .resetting }
  /-- A tick is received for its own sake. -/
  | take (i : ι) : (∀ j, s.use j ≠ .draining) →
      Turn s { s with tick := false, use := Function.update s.use i .resetting }
  | reset (i : ι) : Turn s { s with armed := true, use := Function.update s.use i .idle }
  | expire : Turn s { s with armed := false, tick := true }
  /-- A user goes, and will not call `Reset`. -/
  | leave (i : ι) : Turn s { s with use := Function.update s.use i .resetting }

/-- Whoever is about to receive a tick finds it. -/
structure Sound (s : SharedTimer ι) : Prop where
  tick : ∀ i, s.use i = .draining → s.tick = true
  /-- Nobody else is about to receive it. -/
  unique : ∀ i j, s.use i = .draining → s.use j = .draining → i = j
  /-- Nobody has to set the timer: it is armed, or has expired with its tick unread. -/
  running : (∀ i, s.use i ≠ .resetting) → s.armed = true ∨ s.tick = true

variable [DecidableEq ι] {s s' : SharedTimer ι}

/-- Whoever drains after another user has moved on drained before. -/
theorem draining_of_update {i j : ι} {u : TimerUse} (hu : u ≠ .draining)
    (h : Function.update s.use i u j = .draining) : j ≠ i ∧ s.use j = .draining := by
  by_cases hj : j = i
  · subst hj
    rw [Function.update_self] at h
    exact absurd h hu
  · rw [Function.update_of_ne hj] at h
    exact ⟨hj, h⟩

/-- A user that does not go to drain leaves the others to it. -/
theorem Sound.draining {i : ι} {u : TimerUse} (h : s.Sound) (hu : u ≠ .draining) :
    (∀ j, Function.update s.use i u j = .draining → s.tick = true) ∧
      ∀ j k, Function.update s.use i u j = .draining → Function.update s.use i u k = .draining →
        j = k :=
  ⟨fun j hj => h.tick j (draining_of_update hu hj).2,
    fun j k hj hk => h.unique j k (draining_of_update hu hj).2 (draining_of_update hu hk).2⟩

/-- Somebody has to set the timer. -/
theorem not_running {i : ι} {P : Prop}
    (h : ∀ j, Function.update s.use i TimerUse.resetting j ≠ .resetting) : P :=
  absurd (Function.update_self i _ s.use) (h i)

/-- **Users that take turns do not wait for each other's ticks.** -/
theorem Sound.turn (h : s.Sound) (ht : Turn s s') : s'.Sound := by
  cases ht with
  | stop i =>
      obtain ⟨htick, hunique⟩ := h.draining (i := i) (u := .resetting) (by simp)
      exact ⟨htick, hunique, fun hnone => not_running hnone⟩
  | stopFails i harmed hidle =>
      -- nobody has to set the timer, so that its tick is there
      have htick : s.tick = true := by
        rcases h.running (fun j => by simp [hidle j]) with hrunning | htick
        · rw [harmed] at hrunning
          exact absurd hrunning (by simp)
        · exact htick
      have honly : ∀ j, Function.update s.use i TimerUse.draining j = .draining → j = i := by
        intro j hj
        by_contra hne
        rw [Function.update_of_ne hne, hidle j] at hj
        exact absurd hj (by simp)
      exact ⟨fun _ _ => htick, fun j k hj hk => (honly j hj).trans (honly k hk).symm,
        fun _ => Or.inr htick⟩
  | drain i hi =>
      have hnone : ∀ j, Function.update s.use i TimerUse.resetting j ≠ .draining := by
        intro j hj
        obtain ⟨hne, hdrain⟩ := draining_of_update (by simp) hj
        exact hne (h.unique j i hdrain hi)
      exact ⟨fun j hj => absurd hj (hnone j), fun j _ hj => absurd hj (hnone j),
        fun hreset => not_running hreset⟩
  | take i hfree =>
      have hnone : ∀ j, Function.update s.use i TimerUse.resetting j ≠ .draining :=
        fun j hj => hfree j (draining_of_update (by simp) hj).2
      exact ⟨fun j hj => absurd hj (hnone j), fun j _ hj => absurd hj (hnone j),
        fun hreset => not_running hreset⟩
  | reset i =>
      obtain ⟨htick, hunique⟩ := h.draining (i := i) (u := .idle) (by simp)
      exact ⟨htick, hunique, fun _ => Or.inl rfl⟩
  | expire => exact ⟨fun _ _ => rfl, h.unique, fun _ => Or.inr rfl⟩
  | leave i =>
      obtain ⟨htick, hunique⟩ := h.draining (i := i) (u := .resetting) (by simp)
      exact ⟨htick, hunique, fun hnone => not_running hnone⟩

end SharedTimer

end OcppGo.Lib
