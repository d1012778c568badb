import Mathlib.Init

/-!
# Objects and what they refine

An object has a state and answers calls; a call that panics has no answer. Two
objects that answer the same calls are compared by a relation between their
states: if related states give equal answers and stay related, every sequence of
calls gives the same answers on both.

As with runs of a machine, the calls may be restricted by a condition on the
state before the call.
-/

namespace OcppGo.Lib

/-- A first state, and for every call the answer and the state after it; `none` is a panic. -/
structure Object (σ ω ρ : Type*) where
  new : σ
  call : σ → ω → Option (ρ × σ)

namespace Object

variable {σ τ ω ρ : Type*} {O : Object σ ω ρ} {A : Object τ ω ρ} {ok : σ → ω → Prop}
  {R : σ → τ → Prop}

/-- All answers to a sequence of calls, and the state after it. -/
def run (O : Object σ ω ρ) : σ → List ω → Option (List ρ × σ)
  | s, [] => some ([], s)
  | s, op :: ops =>
      (O.call s op).bind fun r => (O.run r.2 ops).map fun rs => (r.1 :: rs.1, rs.2)

/-- Every call of the sequence meets the condition when its turn comes. -/
def Meets (O : Object σ ω ρ) (ok : σ → ω → Prop) : σ → List ω → Prop
  | _, [] => True
  | s, op :: ops => ok s op ∧ ∀ r s', O.call s op = some (r, s') → O.Meets ok s' ops

/-- Related states answer a call alike, and are related after it. -/
def Simulates (O : Object σ ω ρ) (A : Object τ ω ρ) (ok : σ → ω → Prop) (R : σ → τ → Prop) :
    Prop :=
  ∀ s a op, R s a → ok s op →
    ∃ r s' a', O.call s op = some (r, s') ∧ A.call a op = some (r, a') ∧ R s' a'

/-- **The refinement rule.** From related states, whole sequences of calls are answered alike. -/
theorem Simulates.run (h : O.Simulates A ok R) {s : σ} {a : τ} (hR : R s a) :
    ∀ ops, O.Meets ok s ops →
      ∃ rs s' a', O.run s ops = some (rs, s') ∧ A.run a ops = some (rs, a') ∧ R s' a' := by
  intro ops
  induction ops generalizing s a with
  | nil => exact fun _ => ⟨[], s, a, rfl, rfl, hR⟩
  | cons op ops ih =>
      rintro ⟨hok, hrest⟩
      obtain ⟨r, s₁, a₁, hs, ha, hR₁⟩ := h s a op hR hok
      obtain ⟨rs, s', a', hs', ha', hR'⟩ := ih hR₁ (hrest r s₁ hs)
      refine ⟨r :: rs, s', a', ?_, ?_, hR'⟩
      · rw [Object.run, hs, Option.bind_some, hs', Option.map_some]
      · rw [Object.run, ha, Option.bind_some, ha', Option.map_some]

/-- A sequence of calls in two parts. -/
theorem run_append {s s' : σ} {ops ops' : List ω} {rs : List ρ}
    (h : O.run s (ops ++ ops') = some (rs, s')) :
    ∃ rs₁ t rs₂, O.run s ops = some (rs₁, t) ∧ O.run t ops' = some (rs₂, s') := by
  induction ops generalizing s rs with
  | nil => exact ⟨[], s, rs, rfl, h⟩
  | cons op ops ih =>
      obtain ⟨r, hcall, hrest⟩ := Option.bind_eq_some_iff.mp h
      obtain ⟨⟨rs', u⟩, hrun, heq⟩ := Option.map_eq_some_iff.mp hrest
      cases heq
      obtain ⟨rs₁, t, rs₂, h₁, h₂⟩ := ih hrun
      refine ⟨r.1 :: rs₁, t, rs₂, ?_, h₂⟩
      rw [run, hcall, Option.bind_some, h₁, Option.map_some]

/-- What every call of a sequence preserves, the sequence preserves. -/
theorem run_invariant {P : σ → Prop} {s s' : σ} {ops : List ω} {rs : List ρ}
    (hcall : ∀ op ∈ ops, ∀ t r t', P t → O.call t op = some (r, t') → P t') (hs : P s)
    (h : O.run s ops = some (rs, s')) : P s' := by
  induction ops generalizing s rs with
  | nil =>
      cases h
      exact hs
  | cons op ops ih =>
      obtain ⟨r, hr, hrest⟩ := Option.bind_eq_some_iff.mp h
      obtain ⟨⟨rs', u⟩, hrun, heq⟩ := Option.map_eq_some_iff.mp hrest
      cases heq
      exact ih (fun op hop => hcall op (List.mem_cons_of_mem _ hop))
        (hcall op List.mem_cons_self s r.1 r.2 hs hr) hrun

/-- A sequence of calls meets the condition that always holds. -/
theorem meets_true (s : σ) (ops : List ω) : O.Meets (fun _ _ => True) s ops := by
  induction ops generalizing s with
  | nil => trivial
  | cons op ops ih => exact ⟨trivial, fun _ s' _ => ih s'⟩

end Object

end OcppGo.Lib
