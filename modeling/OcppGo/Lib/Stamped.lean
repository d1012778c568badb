import Mathlib.Data.List.Pairwise

/-!
# Queues of stamped elements

Elements carry a number, handed out in increasing order as they join at the end
of a queue and never reused. The head is then the smallest, and an element known
to be no larger than the head can only be the head itself. That is all the order
reasoning a FIFO needs: nothing here mentions positions.
-/

namespace OcppGo.Lib

variable {α : Type*} {key : α → Nat} {l : List α}

/-- Stamps strictly grow along the list. -/
def Increasing (key : α → Nat) (l : List α) : Prop := l.Pairwise (fun a b => key a < key b)

theorem increasing_nil : Increasing key [] := List.Pairwise.nil

/-- A larger stamp may join at the end. -/
theorem Increasing.snoc {x : α} (h : Increasing key l) (hx : ∀ a ∈ l, key a < key x) :
    Increasing key (l ++ [x]) := by
  refine List.pairwise_append.mpr ⟨h, List.pairwise_singleton _ _, ?_⟩
  intro a ha b hb
  rw [List.mem_singleton.mp hb]
  exact hx a ha

theorem Increasing.suffix {m : List α} (h : Increasing key l) (hm : m <:+ l) :
    Increasing key m := List.Pairwise.sublist hm.sublist h

/-- The head carries the smallest stamp. -/
theorem Increasing.head_le {p a : α} (h : Increasing key l) (hp : l.head? = some p)
    (ha : a ∈ l) : key p ≤ key a := by
  cases l with
  | nil => simp at hp
  | cons x xs =>
      have hx : x = p := by simpa using hp
      subst hx
      rcases List.mem_cons.mp ha with he | hm
      · exact he ▸ Nat.le_refl _
      · exact Nat.le_of_lt ((List.pairwise_cons.mp h).1 a hm)

/-- Whatever is queued with a stamp no larger than the head's is the head. -/
theorem Increasing.eq_head {p a : α} (h : Increasing key l) (hp : l.head? = some p)
    (ha : a ∈ l) (hle : key a ≤ key p) : a = p := by
  cases l with
  | nil => simp at hp
  | cons x xs =>
      have hx : x = p := by simpa using hp
      subst hx
      rcases List.mem_cons.mp ha with he | hm
      · exact he
      · have := (List.pairwise_cons.mp h).1 a hm
        omega

/-- The head is gone once it is popped. -/
theorem Increasing.head_notMem_tail {p : α} (h : Increasing key l) (hp : l.head? = some p) :
    p ∉ l.tail := by
  cases l with
  | nil => simp
  | cons x xs =>
      have hx : x = p := by simpa using hp
      subst hx
      intro hm
      exact absurd ((List.pairwise_cons.mp h).1 x hm) (Nat.lt_irrefl _)

/-- Stamps tell queued elements apart. -/
theorem Increasing.inj {a b : α} (h : Increasing key l) (ha : a ∈ l) (hb : b ∈ l)
    (hk : key a = key b) : a = b := by
  induction l with
  | nil => simp at ha
  | cons x xs ih =>
      have hx := List.pairwise_cons.mp h
      rcases List.mem_cons.mp ha with ea | ma <;> rcases List.mem_cons.mp hb with eb | mb
      · rw [ea, eb]
      · have hlt := hx.1 b mb
        rw [← ea] at hlt
        omega
      · have hlt := hx.1 a ma
        rw [← eb] at hlt
        omega
      · exact ih hx.2 ma mb

end OcppGo.Lib
