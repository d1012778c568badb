import Mathlib.Logic.Function.Basic

/-!
# Request queues

`FIFOClientQueue` and `FIFOQueueMap` of `ocppj/queue.go`. The Go queue holds
`interface{}` values, so the model is generic in its element type. Every method
takes the queue's own mutex for its whole body, which is why each is a single
function here and a single step of every machine that calls it.

A Go map hands out a *pointer* to a queue, and the server's pump keeps such a
pointer across iterations, after the map entry may have been removed or
replaced. The map therefore stores references into a heap of queue objects.
-/

namespace OcppGo.Ocppj

/-- `FIFOClientQueue`: a slice with a maximum length, `0` meaning none. -/
structure FIFOClientQueue (α : Type) where
  elements : List α
  capacity : Nat
deriving Repr, DecidableEq

namespace FIFOClientQueue

variable {α : Type}

/-- `NewFIFOClientQueue`. -/
def new (capacity : Nat) : FIFOClientQueue α := { elements := [], capacity := capacity }

/-- The queue in its initial state, keeping its capacity. -/
def init (q : FIFOClientQueue α) : FIFOClientQueue α := { q with elements := [] }

def isFull (q : FIFOClientQueue α) : Bool :=
  decide (q.elements.length ≥ q.capacity ∧ q.capacity > 0)

/-- The error text of a failed `Push`. -/
def fullError : String := "request queue is full, cannot push new element"

/-- Append at the end, unless the queue is full. -/
def push (q : FIFOClientQueue α) (element : α) : Except String (FIFOClientQueue α) :=
  if q.elements.length ≥ q.capacity ∧ q.capacity > 0 then
    .error fullError
  else
    .ok { q with elements := q.elements ++ [element] }

/-- The first element, `none` being Go's `nil`. -/
def peek (q : FIFOClientQueue α) : Option α := q.elements.head?

/-- Remove the first element, if there is one. -/
def pop (q : FIFOClientQueue α) : FIFOClientQueue α := { q with elements := q.elements.tail }

def size (q : FIFOClientQueue α) : Nat := q.elements.length

def isEmpty (q : FIFOClientQueue α) : Bool := q.elements.isEmpty

@[simp] theorem elements_new (n : Nat) : (new n : FIFOClientQueue α).elements = [] := rfl

@[simp] theorem elements_pop (q : FIFOClientQueue α) : q.pop.elements = q.elements.tail := rfl

@[simp] theorem peek_eq (q : FIFOClientQueue α) : q.peek = q.elements.head? := rfl

@[simp] theorem isEmpty_eq (q : FIFOClientQueue α) : q.isEmpty = q.elements.isEmpty := rfl

/-- An accepted push appends exactly its argument. -/
theorem push_ok {q q' : FIFOClientQueue α} {x : α} (h : q.push x = .ok q') :
    q' = { q with elements := q.elements ++ [x] } := by
  unfold push at h
  split at h
  · exact absurd h (by simp)
  · injection h with h
    exact h.symm

/-- The head read before a pop, put back in front, is the old queue. -/
theorem cons_tail_of_peek {q : FIFOClientQueue α} {x : α} (h : q.peek = some x) :
    q.elements = x :: q.elements.tail := by
  simp only [peek_eq] at h
  cases hq : q.elements with
  | nil => rw [hq] at h; simp at h
  | cons y ys =>
      rw [hq] at h
      simp only [List.head?_cons, Option.some.injEq] at h
      rw [h]; rfl

end FIFOClientQueue

/-- A pointer to a queue object. -/
abbrev QueueRef := Nat

/--
`FIFOQueueMap`, together with the queue objects its entries point to.

`next` is the first unused address, so `getOrCreate` never hands out the address
of an object someone may still hold. No two clients share a queue object.
-/
structure FIFOQueueMap (α : Type) where
  data : String → Option QueueRef
  heap : QueueRef → FIFOClientQueue α
  next : QueueRef
  queueCapacity : Nat
  /-- Entries point below the first unused address. -/
  lt : ∀ {c : String} {r : QueueRef}, data c = some r → r < next
  /-- A queue object belongs to one client. -/
  inj : ∀ {c c' : String} {r : QueueRef}, data c = some r → data c' = some r → c = c'

namespace FIFOQueueMap

variable {α : Type}

/-- `NewFIFOQueueMap`. -/
def new (capacity : Nat) : FIFOQueueMap α where
  data := fun _ => none
  heap := fun _ => .new capacity
  next := 0
  queueCapacity := capacity
  lt := by intro c r h; simp at h
  inj := by intro c c' r h; simp at h

def get (m : FIFOQueueMap α) (clientID : String) : Option QueueRef := m.data clientID

/-- The queue object behind a reference. -/
def deref (m : FIFOQueueMap α) (r : QueueRef) : FIFOClientQueue α := m.heap r

/-- Replace the object behind a reference, the effect of a method that writes. -/
def store (m : FIFOQueueMap α) (r : QueueRef) (q : FIFOClientQueue α) : FIFOQueueMap α :=
  { m with heap := Function.update m.heap r q }

/-- Insert a queue made by `NewFIFOClientQueue` at a fresh address. -/
def create (m : FIFOQueueMap α) (clientID : String) : FIFOQueueMap α where
  data := Function.update m.data clientID (some m.next)
  heap := Function.update m.heap m.next (.new m.queueCapacity)
  next := m.next + 1
  queueCapacity := m.queueCapacity
  lt := by
    intro c r hr
    by_cases hc : c = clientID
    · subst hc
      have hnext : m.next = r := by simpa using hr
      exact hnext ▸ Nat.lt_succ_self m.next
    · exact Nat.lt_succ_of_lt (m.lt (c := c) (by simpa [hc] using hr))
  inj := by
    -- the fresh address is above every entry that already exists
    intro c₁ c₂ r h₁ h₂
    by_cases hc₁ : c₁ = clientID <;> by_cases hc₂ : c₂ = clientID
    · rw [hc₁, hc₂]
    · subst hc₁
      have h₃ : m.next = r := by simpa using h₁
      have h₄ : r < m.next := m.lt (c := c₂) (by simpa [hc₂] using h₂)
      exact absurd (h₃ ▸ h₄) (Nat.lt_irrefl _)
    · subst hc₂
      have h₃ : m.next = r := by simpa using h₂
      have h₄ : r < m.next := m.lt (c := c₁) (by simpa [hc₁] using h₁)
      exact absurd (h₃ ▸ h₄) (Nat.lt_irrefl _)
    · exact m.inj (by simpa [hc₁] using h₁) (by simpa [hc₂] using h₂)

def getOrCreate (m : FIFOQueueMap α) (clientID : String) : FIFOQueueMap α :=
  match m.data clientID with
  | some _ => m
  | none => m.create clientID

def remove (m : FIFOQueueMap α) (clientID : String) : FIFOQueueMap α where
  data := Function.update m.data clientID none
  -- the queue lives on for whoever got it before
  heap := m.heap
  next := m.next
  queueCapacity := m.queueCapacity
  lt := by
    intro c r hr
    by_cases hc : c = clientID
    · subst hc; simp at hr
    · exact m.lt (c := c) (by simpa [hc] using hr)
  inj := by
    intro c₁ c₂ r h₁ h₂
    by_cases hc₁ : c₁ = clientID
    · subst hc₁; simp at h₁
    · by_cases hc₂ : c₂ = clientID
      · subst hc₂; simp at h₂
      · exact m.inj (by simpa [hc₁] using h₁) (by simpa [hc₂] using h₂)

/-- What is queued for a client, nothing when it has no queue. -/
def contents (m : FIFOQueueMap α) (clientID : String) : List α :=
  match m.data clientID with
  | none => []
  | some r => (m.heap r).elements

@[simp] theorem contents_new (n : Nat) (c : String) : (new n : FIFOQueueMap α).contents c = [] :=
  rfl

theorem contents_of_get {m : FIFOQueueMap α} {c : String} {r : QueueRef}
    (h : m.get c = some r) : m.contents c = (m.deref r).elements := by
  rw [contents, show m.data c = some r from h]
  rfl

theorem contents_of_get_none {m : FIFOQueueMap α} {c : String} (h : m.get c = none) :
    m.contents c = [] := by
  rw [contents, show m.data c = none from h]

@[simp] theorem get_store (m : FIFOQueueMap α) (r : QueueRef) (q : FIFOClientQueue α)
    (c : String) : (m.store r q).get c = m.get c := rfl

/-- Storing a queue of the same capacity changes no capacity. -/
theorem capacity_store {m : FIFOQueueMap α} {r : QueueRef} {q : FIFOClientQueue α}
    (h : q.capacity = (m.deref r).capacity) (r' : QueueRef) :
    ((m.store r q).deref r').capacity = (m.deref r').capacity := by
  by_cases hr : r' = r
  · subst hr
    simpa [deref, store] using h
  · simp [deref, store, hr]

theorem contents_store_self {m : FIFOQueueMap α} {c : String} {r : QueueRef}
    (h : m.get c = some r) (q : FIFOClientQueue α) : (m.store r q).contents c = q.elements := by
  rw [contents_of_get (show (m.store r q).get c = some r from h)]
  simp [deref, store]

/-- A write to a queue object is seen only by the client it belongs to. -/
theorem contents_store_of_ne {m : FIFOQueueMap α} {c : String} {r : QueueRef}
    (h : m.get c ≠ some r) (q : FIFOClientQueue α) :
    (m.store r q).contents c = m.contents c := by
  cases hr : m.get c with
  | none => rw [contents_of_get_none hr, contents_of_get_none (by rw [get_store]; exact hr)]
  | some r' =>
      have hrr : r' ≠ r := fun he => h (he ▸ hr)
      rw [contents_of_get hr, contents_of_get (show (m.store r q).get c = some r' from hr)]
      simp [deref, store, hrr]

/-- A write to one client's queue is not seen in another's. -/
theorem contents_store_ne {m : FIFOQueueMap α} {c c' : String} {r : QueueRef}
    (h : m.get c = some r) (hne : c' ≠ c) (q : FIFOClientQueue α) :
    (m.store r q).contents c' = m.contents c' :=
  contents_store_of_ne (fun hr => hne (m.inj hr h)) q

theorem get_getOrCreate_of_some {m : FIFOQueueMap α} {c : String} {r : QueueRef}
    (h : m.get c = some r) (c' : String) : (m.getOrCreate c').get c = some r := by
  unfold getOrCreate
  split
  · exact h
  · rename_i hnone
    have hne : c ≠ c' := by
      rintro rfl
      rw [show m.data c = some r from h] at hnone
      exact absurd hnone (by simp)
    simpa [get, create, hne] using h

theorem get_getOrCreate_self (m : FIFOQueueMap α) (c : String) :
    ((m.getOrCreate c).get c).isSome = true := by
  unfold getOrCreate
  split
  · rename_i r hr
    rw [get, hr]
    rfl
  · simp [get, create]

theorem queueCapacity_getOrCreate (m : FIFOQueueMap α) (c : String) :
    (m.getOrCreate c).queueCapacity = m.queueCapacity := by
  unfold getOrCreate
  split
  · rfl
  · rfl

/-- Queue objects stay as they are, or are new. -/
theorem deref_getOrCreate (m : FIFOQueueMap α) (c : String) (r : QueueRef) :
    (m.getOrCreate c).deref r = m.deref r
      ∨ (m.getOrCreate c).deref r = .new m.queueCapacity := by
  unfold getOrCreate
  split
  · exact Or.inl rfl
  · by_cases hr : r = m.next
    · subst hr
      exact Or.inr (by simp [deref, create])
    · exact Or.inl (by simp [deref, create, hr])

theorem get_getOrCreate_ne (m : FIFOQueueMap α) {c c' : String} (h : c' ≠ c) :
    (m.getOrCreate c).get c' = m.get c' := by
  unfold getOrCreate
  split
  · rfl
  · simp [get, create, h]

/-- Every client's queue has the capacity given to the map. -/
def Uniform (m : FIFOQueueMap α) : Prop :=
  ∀ c r, m.get c = some r → (m.deref r).capacity = m.queueCapacity

theorem Uniform.getOrCreate {m : FIFOQueueMap α} (h : m.Uniform) (c : String) :
    (m.getOrCreate c).Uniform := by
  intro c' r hr
  rw [queueCapacity_getOrCreate]
  by_cases hc : c' = c
  · subst hc
    unfold FIFOQueueMap.getOrCreate at hr ⊢
    split at hr
    · exact h c' r hr
    · have hnext : m.next = r := by simpa [get, create] using hr
      subst hnext
      simp [deref, create, FIFOClientQueue.new]
  · rw [get_getOrCreate_ne m hc] at hr
    rcases deref_getOrCreate m c r with hsame | hnew
    · rw [hsame]; exact h c' r hr
    · rw [hnew]; rfl

@[simp] theorem get_remove_ne (m : FIFOQueueMap α) {c c' : String} (h : c' ≠ c) :
    (m.remove c).get c' = m.get c' := by
  simp [get, remove, h]

theorem Uniform.remove {m : FIFOQueueMap α} (h : m.Uniform) (c : String) :
    (m.remove c).Uniform := by
  intro c' r hr
  by_cases hc : c' = c
  · subst hc
    exact absurd hr (by simp [get, FIFOQueueMap.remove])
  · rw [get_remove_ne m hc] at hr
    exact h c' r hr

/-- A new queue holds nothing, like no queue at all. -/
@[simp] theorem contents_getOrCreate (m : FIFOQueueMap α) (c c' : String) :
    (m.getOrCreate c).contents c' = m.contents c' := by
  unfold getOrCreate
  split
  · rfl
  · rename_i hnone
    by_cases hc : c' = c
    · subst hc
      rw [contents_of_get_none hnone]
      simp [contents, create, FIFOClientQueue.new]
    · cases hr : m.data c' with
      | none => simp [contents, create, hc, hr]
      | some r =>
          have hlt : r ≠ m.next := Nat.ne_of_lt (m.lt hr)
          simp [contents, create, hc, hr, hlt]

@[simp] theorem contents_remove_self (m : FIFOQueueMap α) (c : String) :
    (m.remove c).contents c = [] := by
  simp [contents, remove]

@[simp] theorem contents_remove_ne (m : FIFOQueueMap α) {c c' : String} (h : c' ≠ c) :
    (m.remove c).contents c' = m.contents c' := by
  simp [contents, remove, h]

end FIFOQueueMap

end OcppGo.Ocppj
