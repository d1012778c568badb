import Mathlib.Init

/-!
# Machines and their runs

A machine is a set of initial states and a partial step function: `act s a` is
the state after action `a`, and `none` when `a` cannot happen in `s`. A run is
any sequence of actions, so every interleaving of the parties that take actions
is a run.

`ReachableWhile M ok` collects the states reached by runs all of whose steps
meet a condition `ok` on the state before the step and the action taken. The
unconditional notion is the case where `ok` always holds, so one induction rule
serves both.
-/

namespace OcppGo.Lib

/-- Initial states and a partial step function. -/
structure Machine (σ α : Type*) where
  /-- Where runs start. -/
  init : σ → Prop
  /-- One atomic step; `none` when the action is not enabled. -/
  act : σ → α → Option σ

variable {σ α : Type*} {M : Machine σ α} {ok : σ → α → Prop}

/-- States reached by runs whose every step meets `ok`. -/
inductive ReachableWhile (M : Machine σ α) (ok : σ → α → Prop) : σ → Prop where
  | init {s : σ} : M.init s → ReachableWhile M ok s
  | tail {s s' : σ} {a : α} :
      ReachableWhile M ok s → ok s a → M.act s a = some s' → ReachableWhile M ok s'

/-- States reached by any run at all. -/
def Reachable (M : Machine σ α) : σ → Prop := ReachableWhile M (fun _ _ => True)

/--
**The invariant rule.** What holds initially, and is carried across every step
that meets the condition, holds in every state reached.
-/
theorem ReachableWhile.invariant {P : σ → Prop} (hinit : ∀ s, M.init s → P s)
    (hstep : ∀ s a s', ReachableWhile M ok s → P s → ok s a → M.act s a = some s' → P s')
    {s : σ} (h : ReachableWhile M ok s) : P s := by
  induction h with
  | init hs => exact hinit _ hs
  | tail hr hok hact ih => exact hstep _ _ _ hr ih hok hact

/-- The invariant rule for unconditional runs. -/
theorem Reachable.invariant {P : σ → Prop} (hinit : ∀ s, M.init s → P s)
    (hstep : ∀ s a s', Reachable M s → P s → M.act s a = some s' → P s')
    {s : σ} (h : Reachable M s) : P s :=
  ReachableWhile.invariant hinit (fun s a s' hr hp _ hact => hstep s a s' hr hp hact) h

/-- A condition that follows from another on the states reached admits the same runs. -/
theorem ReachableWhile.of_reached {ok' : σ → α → Prop}
    (hok : ∀ s a, ReachableWhile M ok s → ok s a → ok' s a) {s : σ}
    (h : ReachableWhile M ok s) : ReachableWhile M ok' s := by
  induction h with
  | init hs => exact .init hs
  | tail hr ha hact ih => exact .tail ih (hok _ _ hr ha) hact

/-- A weaker condition admits more runs. -/
theorem ReachableWhile.mono {ok' : σ → α → Prop} (hok : ∀ s a, ok s a → ok' s a)
    {s : σ} (h : ReachableWhile M ok s) : ReachableWhile M ok' s :=
  h.of_reached (fun s a _ ha => hok s a ha)

/-- Conditional runs are runs. -/
theorem ReachableWhile.reachable {s : σ} (h : ReachableWhile M ok s) : Reachable M s :=
  h.mono (fun _ _ _ => trivial)

/-- Carry out a list of actions; `none` as soon as one is not enabled. -/
def Machine.run (M : Machine σ α) : σ → List α → Option σ
  | s, [] => some s
  | s, a :: as => (M.act s a).bind (fun s' => M.run s' as)

/-- A concrete sequence of enabled actions leads to a reachable state. -/
theorem Reachable.run {s s' : σ} (h : Reachable M s) :
    ∀ (as : List α), M.run s as = some s' → Reachable M s' := by
  intro as
  induction as generalizing s with
  | nil =>
      intro hr
      cases hr
      exact h
  | cons a as ih =>
      intro hr
      obtain ⟨t, hact, hrest⟩ := Option.bind_eq_some_iff.mp hr
      exact ih (.tail h trivial hact) hrest

/-- Check a condition before each action of a list, then carry the list out. -/
def Machine.runWhile (M : Machine σ α) (chk : σ → α → Bool) : σ → List α → Option σ
  | s, [] => some s
  | s, a :: as =>
      if chk s a then (M.act s a).bind (fun s' => M.runWhile chk s' as) else none

/-- The same for runs whose every step meets the condition. -/
theorem ReachableWhile.runWhile {chk : σ → α → Bool} (hchk : ∀ s a, chk s a = true → ok s a)
    {s s' : σ} (h : ReachableWhile M ok s) :
    ∀ (as : List α), M.runWhile chk s as = some s' → ReachableWhile M ok s' := by
  intro as
  induction as generalizing s with
  | nil =>
      intro hr
      cases hr
      exact h
  | cons a as ih =>
      intro hr
      rw [Machine.runWhile] at hr
      split at hr
      · rename_i hc
        obtain ⟨t, hact, hrest⟩ := Option.bind_eq_some_iff.mp hr
        exact ih (.tail h (hchk _ _ hc) hact) hrest
      · exact absurd hr (by simp)

/-! ## Stretches of a run -/

/-- From one state to another by these actions, each of which meets `ok`. -/
inductive Stretch (M : Machine σ α) (ok : σ → α → Prop) : σ → List α → σ → Prop where
  | nil (s : σ) : Stretch M ok s [] s
  | cons {s t u : σ} {a : α} {as : List α} :
      ok s a → M.act s a = some t → Stretch M ok t as u → Stretch M ok s (a :: as) u

/-- A concrete sequence of enabled actions that meet the condition is a stretch. -/
theorem Stretch.runWhile {chk : σ → α → Bool} (hchk : ∀ s a, chk s a = true → ok s a)
    {s s' : σ} : ∀ {as : List α}, M.runWhile chk s as = some s' → Stretch M ok s as s' := by
  intro as
  induction as generalizing s with
  | nil =>
      intro hr
      cases hr
      exact .nil _
  | cons a as ih =>
      intro hr
      rw [Machine.runWhile] at hr
      split at hr
      · rename_i hc
        obtain ⟨t, hact, hrest⟩ := Option.bind_eq_some_iff.mp hr
        exact .cons (hchk _ _ hc) hact (ih hrest)
      · exact absurd hr (by simp)

/-! ## Two runs of one machine -/

/-- Related states take the same actions, to states that are related again. -/
def Machine.Respects (M : Machine σ α) (R : σ → σ → Prop) : Prop :=
  ∀ s t a, R s t → Option.Rel R (M.act s a) (M.act t a)

theorem rel_ite {R : σ → σ → Prop} {c : Prop} [Decidable c] {u v u' v' : Option σ}
    (ht : c → Option.Rel R u u') (hf : ¬ c → Option.Rel R v v') :
    Option.Rel R (if c then u else v) (if c then u' else v') := by
  split
  · exact ht ‹_›
  · exact hf ‹_›

/-- From related states a list of actions can be carried out in both or in neither. -/
theorem Machine.Respects.run {R : σ → σ → Prop} (h : M.Respects R) {s t : σ} (hst : R s t) :
    ∀ (as : List α), Option.Rel R (M.run s as) (M.run t as) := by
  intro as
  induction as generalizing s t with
  | nil => exact .some hst
  | cons a as ih =>
      have hrel := h s t a hst
      rw [Machine.run, Machine.run]
      generalize M.act s a = u, M.act t a = v at hrel ⊢
      cases hrel with
      | none => exact .none
      | some hst' => exact ih hst'

/-! ## Machines that keep a record -/

variable {ε : Type*}

/-- A state, and what the steps that led to it had to report. -/
structure Recorded (σ ε : Type*) where
  state : σ
  log : List ε

/-- The same steps, each adding to the record what it reports. -/
def Machine.recording (M : Machine σ α) (report : σ → α → σ → List ε) :
    Machine (Recorded σ ε) α where
  init := fun t => M.init t.state ∧ t.log = []
  act := fun t a => (M.act t.state a).map fun s => ⟨s, t.log ++ report t.state a s⟩

theorem Machine.recording_act {report : σ → α → σ → List ε} {t t' : Recorded σ ε} {a : α}
    (h : (M.recording report).act t a = some t') :
    M.act t.state a = some t'.state ∧ t'.log = t.log ++ report t.state a t'.state := by
  obtain ⟨s, hs, rfl⟩ := Option.map_eq_some_iff.mp h
  exact ⟨hs, rfl⟩

/-- Every run can be recorded. -/
theorem ReachableWhile.recorded (report : σ → α → σ → List ε) {s : σ}
    (h : ReachableWhile M ok s) :
    ∃ log, ReachableWhile (M.recording report) (fun t a => ok t.state a) ⟨s, log⟩ := by
  induction h with
  | init hs => exact ⟨[], .init ⟨hs, rfl⟩⟩
  | @tail s s' a _ hok hact ih =>
      obtain ⟨log, hlog⟩ := ih
      refine ⟨log ++ report s a s', .tail hlog hok ?_⟩
      exact Option.map_eq_some_iff.mpr ⟨s', hact, rfl⟩

/-- Without the record it is a run of the machine. -/
theorem ReachableWhile.of_recording {report : σ → α → σ → List ε} {t : Recorded σ ε}
    (h : ReachableWhile (M.recording report) (fun t a => ok t.state a) t) :
    ReachableWhile M ok t.state := by
  induction h with
  | init hs => exact .init hs.1
  | tail _ hok hact ih => exact .tail ih hok (Machine.recording_act hact).1

end OcppGo.Lib
