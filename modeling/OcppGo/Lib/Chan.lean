import Mathlib.Init

/-!
# Channels

Buffered channels of Go. A send waits while the buffer is full and panics once
the channel is closed; a receive takes what is buffered, also from a closed
channel, and reports the close when nothing is left; a second close panics.
-/

namespace OcppGo.Lib

variable {α : Type*}

structure Chan (α : Type*) where
  /-- The buffer, oldest first. -/
  items : List α
  capacity : Nat
  closed : Bool

namespace Chan

/-- `make(chan T, capacity)`. -/
def make (capacity : Nat) : Chan α := { items := [], capacity := capacity, closed := false }

inductive Sent (α : Type*) where
  | sent (c : Chan α)
  | blocks
  | panics

def send (c : Chan α) (x : α) : Sent α :=
  if c.closed then .panics
  else if c.items.length < c.capacity then .sent { c with items := c.items ++ [x] }
  else .blocks

inductive Received (α : Type*) where
  | value (x : α) (c : Chan α)
  /-- The zero value and the false flag. -/
  | closed
  | blocks

def recv (c : Chan α) : Received α :=
  match c.items with
  | x :: rest => .value x { c with items := rest }
  | [] => if c.closed then .closed else .blocks

/-- `close`; `none` is the panic. -/
def close (c : Chan α) : Option (Chan α) :=
  if c.closed then none else some { c with closed := true }

/-- An open channel stays open under a send, which does not panic. -/
theorem send_open {c : Chan α} (h : c.closed = false) (x : α) :
    c.send x = .blocks ∨ ∃ c', c.send x = .sent c' ∧ c'.closed = false := by
  unfold send
  by_cases hroom : c.items.length < c.capacity
  · exact Or.inr ⟨{ c with items := c.items ++ [x] }, by simp [h, hroom], h⟩
  · exact Or.inl (by simp [h, hroom])

/-- An open channel stays open under a receive, which does not report a close. -/
theorem recv_open {c : Chan α} (h : c.closed = false) :
    c.recv = .blocks ∨ ∃ x c', c.recv = .value x c' ∧ c'.closed = false := by
  unfold recv
  cases hc : c.items with
  | nil => exact Or.inl (by simp [h])
  | cons x rest => exact Or.inr ⟨x, _, rfl, h⟩

theorem close_open {c : Chan α} (h : c.closed = false) :
    c.close = some { c with closed := true } := by
  unfold close
  rw [h]
  rfl

theorem sent_eq {c c' : Chan α} {x : α} (h : c.send x = .sent c') :
    c' = { c with items := c.items ++ [x] } := by
  unfold send at h
  split at h
  · exact absurd h (by simp)
  · split at h
    · cases h
      rfl
    · exact absurd h (by simp)

theorem closed_of_panics {c : Chan α} {x : α} (h : c.send x = .panics) : c.closed = true := by
  unfold send at h
  split at h
  · assumption
  · split at h
    · exact absurd h (by simp)
    · exact absurd h (by simp)

theorem value_eq {c c' : Chan α} {x : α} (h : c.recv = .value x c') :
    c.items = x :: c'.items ∧ c' = { c with items := c'.items } := by
  unfold recv at h
  split at h
  · rename_i y rest hitems
    cases h
    exact ⟨hitems, rfl⟩
  · split at h
    · exact absurd h (by simp)
    · exact absurd h (by simp)

theorem close_eq {c c' : Chan α} (h : c.close = some c') :
    c.closed = false ∧ c' = { c with closed := true } := by
  unfold close at h
  split at h
  · exact absurd h (by simp)
  · rename_i hc
    cases h
    exact ⟨by simpa using hc, rfl⟩

theorem closed_of_close {c : Chan α} (h : c.close = none) : c.closed = true := by
  unfold close at h
  split at h
  · assumption
  · exact absurd h (by simp)

end Chan

end OcppGo.Lib
