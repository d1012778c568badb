import OcppGo.CallbackMap

/-!
# The callback queue is a list for every id

What the queue is for needs no map: under every id there is a list of callbacks,
empty to begin with, and a request that could not be sent leaves no trace in it.
The code stores no empty list, so its map has a key exactly where the list has an
element. `TryQueue` and `Dequeue` delete keys under conditions of their own; both
amount to this one.
-/

namespace OcppGo.Proof

open OcppGo.Lib

variable {κ ε : Type}

/-- What the callbacks are kept for: a list under every id. -/
def callbackLists :
    Object (String → List κ) (CallbackMap.Operation κ ε) (CallbackMap.Answer κ ε) where
  new := fun _ => []
  call m
    | .tryQueue id none callback => some (.tried none, Function.update m id (m id ++ [callback]))
    | .tryQueue _ (some err) _ => some (.tried (some err), m)
    | .dequeue id =>
        match m id with
        | [] => some (.dequeued none, m)
        | callback :: rest => some (.dequeued (some callback), Function.update m id rest)

/-- The map's entry for a list. -/
def entryOf (l : List κ) : Option (List κ) := if l.isEmpty then none else some l

/-- The map has exactly the lists that have elements. -/
def Represents (cq : CallbackMap κ) (m : String → List κ) : Prop :=
  ∀ id, cq.callbacks id = entryOf (m id)

section

variable {cq : CallbackMap κ} {m : String → List κ} {id : String} {l : List κ}

theorem entryOf_nil : entryOf ([] : List κ) = none := rfl

theorem entryOf_of_ne (h : l ≠ []) : entryOf l = some l := by
  rw [entryOf, if_neg (by rwa [List.isEmpty_iff])]

theorem entryOf_ne_nil (l : List κ) : entryOf l ≠ some [] := by
  cases l with
  | nil => simp [entryOf_nil]
  | cons callback rest => simp [entryOf_of_ne]

theorem getD_entryOf (l : List κ) : (entryOf l).getD [] = l := by
  cases l with
  | nil => rfl
  | cons callback rest => rfl

theorem Represents.slice (h : Represents cq m) (id : String) : cq.slice id = m id := by
  rw [CallbackMap.slice, h id, getD_entryOf]

/-- An entry is replaced by the one of another list. -/
theorem Represents.update (h : Represents cq m) (id : String) (l : List κ) :
    Represents { callbacks := Function.update cq.callbacks id (entryOf l) }
      (Function.update m id l) := by
  intro id'
  by_cases hid : id' = id
  · subst hid
    simp
  · simp only [Function.update_of_ne hid]
    exact h id'

theorem Represents.store (h : Represents cq m) (id : String) (hl : l ≠ []) :
    Represents (cq.store id l) (Function.update m id l) := by
  have hstored := h.update id l
  rw [entryOf_of_ne hl] at hstored
  exact hstored

theorem Represents.delete (h : Represents cq m) :
    Represents (cq.delete id) (Function.update m id []) := h.update id []

/-- Popping the callback just queued restores the entry, or its absence. -/
theorem popLast_store (cq : CallbackMap κ) (id : String) (l : List κ) (callback : κ) :
    (cq.store id (l ++ [callback])).popLast id
      = { callbacks := Function.update cq.callbacks id (entryOf l) } := by
  have hslice : (cq.store id (l ++ [callback])).slice id = l ++ [callback] := by
    simp [CallbackMap.store, CallbackMap.slice]
  rw [CallbackMap.popLast, hslice, List.dropLast_concat]
  cases l with
  | nil => simp [CallbackMap.store, CallbackMap.slice, CallbackMap.delete, entryOf_nil]
  | cons first rest => simp [CallbackMap.store, CallbackMap.slice, entryOf_of_ne]

/-- A `TryQueue` that fails leaves the map as it was. -/
theorem Represents.tryQueue_failed (h : Represents cq m) (id : String) (err : ε) (callback : κ) :
    cq.tryQueue id (some err) callback = (some err, cq) := by
  simp only [CallbackMap.tryQueue, popLast_store, h.slice id, ← h id, Function.update_eq_self]

theorem represents_new : Represents (.new : CallbackMap κ) fun _ => [] := fun _ => rfl

/-- **The code simulates the lists**, call by call, and never panics. -/
theorem represents_simulates :
    (CallbackMap.object : Object _ (CallbackMap.Operation κ ε) _).Simulates callbackLists
      (fun _ _ => True) Represents := by
  rintro cq m op h -
  cases op with
  | tryQueue id err callback =>
      cases err with
      | none =>
          refine ⟨_, _, _, rfl, rfl, ?_⟩
          have hstored := h.store id (l := m id ++ [callback]) (by simp)
          rw [← h.slice id] at hstored ⊢
          exact hstored
      | some err =>
          refine ⟨.tried (some err), cq, m, ?_, rfl, h⟩
          simp only [CallbackMap.object, CallbackMap.call, h.tryQueue_failed]
  | dequeue id =>
      have hentry := h id
      cases hm : m id with
      | nil =>
          rw [hm, entryOf_nil] at hentry
          refine ⟨.dequeued none, cq, m, ?_, ?_, h⟩
          · simp [CallbackMap.object, CallbackMap.call, CallbackMap.dequeue, hentry]
          · simp [callbackLists, hm]
      | cons callback rest =>
          rw [hm, entryOf_of_ne (by simp)] at hentry
          -- the last callback goes with its key, any other without
          cases rest with
          | nil =>
              refine ⟨.dequeued (some callback), cq.delete id, Function.update m id [], ?_, ?_,
                h.delete⟩
              · simp [CallbackMap.object, CallbackMap.call, CallbackMap.dequeue, hentry]
              · simp [callbackLists, hm]
          | cons next rest =>
              refine ⟨.dequeued (some callback), cq.store id (next :: rest),
                Function.update m id (next :: rest), ?_, ?_, h.store id (by simp)⟩
              · simp [CallbackMap.object, CallbackMap.call, CallbackMap.dequeue, hentry]
              · simp [callbackLists, hm]

/-! ## One id at a time -/

theorem tryQueue_frame {id' : String} (cq : CallbackMap κ) (err : Option ε) (callback : κ)
    (h : id' ≠ id) : (cq.tryQueue id err callback).2.callbacks id' = cq.callbacks id' := by
  cases err with
  | none => exact Function.update_of_ne h _ _
  | some err =>
      simp only [CallbackMap.tryQueue, popLast_store]
      exact Function.update_of_ne h _ _

theorem dequeue_frame {id' : String} {r : Option κ × CallbackMap κ} (hr : cq.dequeue id = some r)
    (h : id' ≠ id) : r.2.callbacks id' = cq.callbacks id' := by
  unfold CallbackMap.dequeue at hr
  split at hr
  · cases hr
    rfl
  · exact absurd hr (by simp)
  · cases hr
    exact Function.update_of_ne h _ _
  · cases hr
    exact Function.update_of_ne h _ _

/-- A call leaves the lists of all other ids alone. -/
theorem call_frame {op : CallbackMap.Operation κ ε} {r : CallbackMap.Answer κ ε}
    {cq' : CallbackMap κ} {id' : String} (hcall : cq.call op = some (r, cq')) (h : id' ≠ op.id) :
    cq'.callbacks id' = cq.callbacks id' := by
  cases op with
  | tryQueue id err callback =>
      cases hcall
      exact tryQueue_frame cq err callback h
  | dequeue id =>
      obtain ⟨r', hr, heq⟩ := Option.map_eq_some_iff.mp hcall
      cases heq
      exact dequeue_frame hr h

end

/--
**The callback queue refines a list for every id.** Every sequence of calls, on any
ids, gives the answers the lists give. No id is mapped to an empty list, so that no
call panics, and a call changes nothing under any other id.
-/
theorem callback_queue_refines_lists (ops : List (CallbackMap.Operation κ ε)) :
    ∃ answers cq m, CallbackMap.object.run .new ops = some (answers, cq) ∧
      callbackLists.run (fun _ => []) ops = some (answers, m) ∧
      (∀ id, cq.slice id = m id) ∧ (∀ id, cq.callbacks id ≠ some []) ∧
      ∀ op : CallbackMap.Operation κ ε, ∃ r cq', cq.call op = some (r, cq') ∧
        ∀ id, id ≠ op.id → cq'.callbacks id = cq.callbacks id := by
  obtain ⟨answers, cq, m, hcq, hm, h⟩ :=
    represents_simulates.run represents_new ops (Object.meets_true _ ops)
  refine ⟨answers, cq, m, hcq, hm, h.slice, ?_, ?_⟩
  · intro id
    rw [h id]
    exact entryOf_ne_nil (m id)
  · intro op
    obtain ⟨r, cq', _, hcall, -, -⟩ := represents_simulates cq m op h trivial
    exact ⟨r, cq', hcall, fun id hid => call_frame hcall hid⟩

/-! ## The queue the other models use -/

/-- The queue as the plain map it is. -/
def toMap (cq : CallbackQueue κ) : CallbackMap κ := { callbacks := cq.callbacks }

theorem represents_toMap (cq : CallbackQueue κ) : Represents (toMap cq) cq.queued := by
  intro id
  cases hid : cq.callbacks id with
  | none => simp [toMap, CallbackQueue.queued, hid, entryOf_nil]
  | some l => simp [toMap, CallbackQueue.queued, hid, entryOf_of_ne (cq.nonempty id l hid)]

theorem toMap_put (cq : CallbackQueue κ) (id : String) (l : List κ) :
    toMap (cq.put id l) = { callbacks := Function.update cq.callbacks id (entryOf l) } := rfl

/-- `TryQueue` there is `TryQueue` here. -/
theorem toMap_tryQueue (cq : CallbackQueue κ) (id : String) (err : Option ε) (callback : κ) :
    toMap (cq.tryQueue id err callback) = ((toMap cq).tryQueue id err callback).2 := by
  have hslice : (toMap cq).slice id = cq.queued id := (represents_toMap cq).slice id
  cases err with
  | none =>
      rw [CallbackQueue.tryQueue, CallbackQueue.append, toMap_put, entryOf_of_ne (by simp),
        CallbackMap.tryQueue, hslice]
      rfl
  | some err =>
      rw [(represents_toMap cq).tryQueue_failed, CallbackQueue.tryQueue, CallbackQueue.removeLast,
        toMap_put, CallbackQueue.queued_append_self, List.dropLast_concat, CallbackQueue.append,
        CallbackQueue.put, Function.update_idem, ← represents_toMap cq id]
      simp [toMap]

/-- `Dequeue` there is `Dequeue` here, which does not panic. -/
theorem toMap_dequeue (cq : CallbackQueue κ) (id : String) :
    (toMap cq).dequeue id =
      match cq.dequeue id with
      | none => some (none, toMap cq)
      | some (callback, cq') => some (some callback, toMap cq') := by
  have hentry := represents_toMap cq id
  unfold CallbackQueue.dequeue
  cases hq : cq.queued id with
  | nil =>
      rw [hq, entryOf_nil] at hentry
      simp [CallbackMap.dequeue, hentry]
  | cons callback rest =>
      rw [hq, entryOf_of_ne (by simp)] at hentry
      cases rest with
      | nil =>
          simp only [CallbackMap.dequeue, hentry, toMap_put]
          rfl
      | cons next rest =>
          simp only [CallbackMap.dequeue, hentry, toMap_put]
          rfl

end OcppGo.Proof
