import OcppGo.CallbackQueue
import OcppGo.Lib.Object

/-!
# The callback queue, statement by statement

`OcppGo/CallbackQueue.lean` keeps the lists of the callback queue in a structure
that rules out an empty list under an id, and so leaves out the branch in which
`Dequeue` panics. Here is the same code over a plain map, as it stands in
`internal/callbackqueue`: an absent key reads as the empty slice, `TryQueue`
deletes a key whose slice it has emptied, and `Dequeue` deletes one whose last
callback it takes.
-/

namespace OcppGo

open Lib

/-- The field `callbacks`. -/
structure CallbackMap (κ : Type) where
  callbacks : String → Option (List κ)

namespace CallbackMap

variable {κ ε : Type}

/-- `New`. -/
def new : CallbackMap κ := { callbacks := fun _ => none }

/-- `cq.callbacks[id]`, nil when the key is absent. -/
def slice (cq : CallbackMap κ) (id : String) : List κ := (cq.callbacks id).getD []

/-- `cq.callbacks[id] = l`. -/
def store (cq : CallbackMap κ) (id : String) (l : List κ) : CallbackMap κ :=
  { callbacks := Function.update cq.callbacks id (some l) }

/-- `delete(cq.callbacks, id)`. -/
def delete (cq : CallbackMap κ) (id : String) : CallbackMap κ :=
  { callbacks := Function.update cq.callbacks id none }

/-- `TryQueue` after `try` has failed. -/
def popLast (cq : CallbackMap κ) (id : String) : CallbackMap κ :=
  let cq := cq.store id (cq.slice id).dropLast
  if (cq.slice id).length = 0 then cq.delete id else cq

/-- `TryQueue`, with the error `try` returns: the error, and the map. -/
def tryQueue (cq : CallbackMap κ) (id : String) (err : Option ε) (callback : κ) :
    Option ε × CallbackMap κ :=
  let cq := cq.store id (cq.slice id ++ [callback])
  match err with
  | some err => (some err, cq.popLast id)
  | none => (none, cq)

/-- `Dequeue`: the callback, `none` with the false flag, and the map; no result on panic. -/
def dequeue (cq : CallbackMap κ) (id : String) : Option (Option κ × CallbackMap κ) :=
  match cq.callbacks id with
  | none => some (none, cq)
  -- "Internal CallbackQueue inconsistency"
  | some [] => none
  | some [callback] => some (some callback, cq.delete id)
  | some (callback :: rest) => some (some callback, cq.store id rest)

/-- A call on the queue; `err` is what the function passed to `TryQueue` returns. -/
inductive Operation (κ ε : Type) where
  | tryQueue (id : String) (err : Option ε) (callback : κ)
  | dequeue (id : String)

def Operation.id : Operation κ ε → String
  | .tryQueue id _ _ => id
  | .dequeue id => id

inductive Answer (κ ε : Type) where
  | tried (err : Option ε)
  | dequeued (callback : Option κ)
deriving Repr, DecidableEq

def call (cq : CallbackMap κ) : Operation κ ε → Option (Answer κ ε × CallbackMap κ)
  | .tryQueue id err callback =>
      some (.tried (cq.tryQueue id err callback).1, (cq.tryQueue id err callback).2)
  | .dequeue id => (cq.dequeue id).map fun r => (.dequeued r.1, r.2)

/-- A callback queue, from `New` on. -/
def object : Object (CallbackMap κ) (Operation κ ε) (Answer κ ε) where
  new := new
  call := call

end CallbackMap

end OcppGo
