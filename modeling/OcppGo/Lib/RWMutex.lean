import Mathlib.Init

/-!
# Reader-writer locks

`sync.RWMutex` of Go, shared by goroutines with names of any type. A goroutine
that calls `Lock` keeps new readers out at once and holds the lock as soon as the
readers that were in have left. There is one such goroutine at a time: further
ones wait in their call of `Lock`, and keep nobody out.
-/

namespace OcppGo.Lib

variable {γ : Type*}

structure RWMutex (γ : Type*) where
  /-- Who is between `RLock` and `RUnlock`. -/
  readers : List γ
  /-- Whose `Lock` keeps new readers out. -/
  writer : Option γ

namespace RWMutex

def new : RWMutex γ := { readers := [], writer := none }

/-- `RLock`; `none` while it waits. -/
def rlock (m : RWMutex γ) (g : γ) : Option (RWMutex γ) :=
  match m.writer with
  | some _ => none
  | none => some { m with readers := g :: m.readers }

def runlock [DecidableEq γ] (m : RWMutex γ) (g : γ) : RWMutex γ :=
  { m with readers := m.readers.erase g }

/-- The first half of `Lock`; `none` while another writer is ahead. -/
def announce (m : RWMutex γ) (g : γ) : Option (RWMutex γ) :=
  match m.writer with
  | some _ => none
  | none => some { m with writer := some g }

/-- `Lock` has returned. -/
def Holds (m : RWMutex γ) (g : γ) : Prop := m.writer = some g ∧ m.readers = []

def unlock (m : RWMutex γ) : RWMutex γ := { m with writer := none }

instance [DecidableEq γ] (m : RWMutex γ) (g : γ) : Decidable (m.Holds g) :=
  decidable_of_iff (m.writer = some g ∧ m.readers.isEmpty = true)
    (by rw [Holds, List.isEmpty_iff])

theorem rlock_eq {m m' : RWMutex γ} {g : γ} (h : m.rlock g = some m') :
    m.writer = none ∧ m' = { m with readers := g :: m.readers } := by
  unfold rlock at h
  split at h
  · exact absurd h (by simp)
  · rename_i hw
    cases h
    exact ⟨hw, rfl⟩

theorem announce_eq {m m' : RWMutex γ} {g : γ} (h : m.announce g = some m') :
    m.writer = none ∧ m' = { m with writer := some g } := by
  unfold announce at h
  split at h
  · exact absurd h (by simp)
  · rename_i hw
    cases h
    exact ⟨hw, rfl⟩

/-- A reader stays a reader when another one leaves. -/
theorem mem_readers_runlock [DecidableEq γ] {m : RWMutex γ} {g g' : γ} (h : g ∈ m.readers)
    (hne : g ≠ g') : g ∈ (m.runlock g').readers :=
  (List.mem_erase_of_ne hne).mpr h

/-- **Whoever holds the write lock is alone.** -/
theorem Holds.not_mem {m : RWMutex γ} {g g' : γ} (h : m.Holds g) : g' ∉ m.readers := by
  rw [h.2]
  exact List.not_mem_nil

end RWMutex

end OcppGo.Lib
