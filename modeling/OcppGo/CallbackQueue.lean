import Mathlib.Logic.Function.Basic

/-!
# The callback queue

`CallbackQueue` of `internal/callbackqueue`: for each id a list of callbacks,
joined at the end when a request is sent and taken from the front when an
outcome arrives. Nothing but its position ties a callback to its request.

`TryQueue` queues the callback before it tries to send, and takes it off the end
again when sending fails. It holds the mutex all the while, so nothing else
reaches the queue in between.
-/

namespace OcppGo

/-- The lists under each id. An id whose list runs empty is deleted from the map. -/
structure CallbackQueue (κ : Type) where
  callbacks : String → Option (List κ)
  /-- The inconsistency `Dequeue` panics about does not arise. -/
  nonempty : ∀ id l, callbacks id = some l → l ≠ []

namespace CallbackQueue

variable {κ : Type}

def new : CallbackQueue κ where
  callbacks := fun _ => none
  nonempty := by intro id l h; exact absurd h (by simp)

/-- What is queued under an id. -/
def queued (cq : CallbackQueue κ) (id : String) : List κ := (cq.callbacks id).getD []

/-- Store a list under an id, or delete the id. -/
def put (cq : CallbackQueue κ) (id : String) (l : List κ) : CallbackQueue κ where
  callbacks := Function.update cq.callbacks id (if l.isEmpty then none else some l)
  nonempty := by
    intro id' l' h
    by_cases hid : id' = id
    · subst hid
      rw [Function.update_self] at h
      split at h
      · exact absurd h (by simp)
      · rename_i hne
        cases h
        intro he
        exact hne (by rw [he]; rfl)
    · rw [Function.update_of_ne hid] at h
      exact cq.nonempty id' l' h

/-- `TryQueue` before it calls `try`. -/
def append (cq : CallbackQueue κ) (id : String) (callback : κ) : CallbackQueue κ :=
  cq.put id (cq.queued id ++ [callback])

/-- `TryQueue` after `try` failed: pop off the last element. -/
def removeLast (cq : CallbackQueue κ) (id : String) : CallbackQueue κ :=
  cq.put id (cq.queued id).dropLast

/-- `TryQueue`, with the error `try` returned. -/
def tryQueue {ε : Type} (cq : CallbackQueue κ) (id : String) (err : Option ε) (callback : κ) :
    CallbackQueue κ :=
  match err with
  | none => cq.append id callback
  | some _ => (cq.append id callback).removeLast id

/-- `none` is the false flag. -/
def dequeue (cq : CallbackQueue κ) (id : String) : Option (κ × CallbackQueue κ) :=
  match cq.queued id with
  | [] => none
  | callback :: rest => some (callback, cq.put id rest)

@[simp] theorem queued_put_self (cq : CallbackQueue κ) (id : String) (l : List κ) :
    (cq.put id l).queued id = l := by
  cases l <;> simp [queued, put]

@[simp] theorem queued_put_ne (cq : CallbackQueue κ) {id id' : String} (l : List κ)
    (h : id' ≠ id) : (cq.put id l).queued id' = cq.queued id' := by
  simp [queued, put, h]

@[simp] theorem queued_append_self (cq : CallbackQueue κ) (id : String) (cb : κ) :
    (cq.append id cb).queued id = cq.queued id ++ [cb] := by
  simp [append]

theorem queued_append_ne (cq : CallbackQueue κ) {id id' : String} (cb : κ) (h : id' ≠ id) :
    (cq.append id cb).queued id' = cq.queued id' := by
  simp [append, h]

@[simp] theorem queued_removeLast_self (cq : CallbackQueue κ) (id : String) :
    (cq.removeLast id).queued id = (cq.queued id).dropLast := by
  simp [removeLast]

/-- An id without callbacks is not in the map. -/
theorem callbacks_of_queued_nil {cq : CallbackQueue κ} {id : String} (h : cq.queued id = []) :
    cq.callbacks id = none := by
  cases hl : cq.callbacks id with
  | none => rfl
  | some l =>
      rw [queued, hl] at h
      exact absurd h (cq.nonempty id l hl)

/-- A failed `TryQueue` leaves every list as it was. -/
theorem queued_tryQueue_some {ε : Type} (cq : CallbackQueue κ) (id id' : String) (err : ε)
    (cb : κ) : (cq.tryQueue id (some err) cb).queued id' = cq.queued id' := by
  by_cases h : id' = id
  · subst h; simp [tryQueue]
  · simp [tryQueue, removeLast, append, h]

theorem dequeue_cons {cq : CallbackQueue κ} {id : String} {cb : κ} {rest : List κ}
    (h : cq.queued id = cb :: rest) : cq.dequeue id = some (cb, cq.put id rest) := by
  rw [dequeue, h]

end CallbackQueue

end OcppGo
