import OcppGo.Lib.RWMutex
import OcppGo.Ocppj.ServerSteps

/-!
# The server dispatcher under its mutex

`NewDefaultServerDispatcher` hands the dispatcher's own mutex to its
`serverState`, so one `RWMutex` guards both. Every method of the state takes the
write lock. `SendRequest`, `DeleteClient` and `waitForTimeout` take the read lock
and keep it while they send on `requestChannel` or `timerC`, which only the pump
drains. `reqChan` and `IsRunning` take the read lock and give it back at once.

The steps are those of `OcppGo/Ocppj/ServerSteps.lean`, each with the lock it
needs. `DeleteClient` asks `IsRunning` right before it takes the read lock itself;
the two are one here.
-/

namespace OcppGo.Ocppj

open Lib

/-- The channels on which the read lock is kept during a send. -/
inductive ServerChannel where
  | requestChannel
  | timerC
deriving Repr, DecidableEq

namespace ServerChannel

def capacity : ServerChannel → Nat
  | .requestChannel => ServerSteps.requestCapacity
  | .timerC => ServerSteps.timerCapacity

end ServerChannel

/-- What a channel holds. -/
def ServerSteps.channel (s : ServerSteps) : ServerChannel → List String
  | .requestChannel => s.requestChannel
  | .timerC => s.timerC

/-- The channel the goroutine is about to send on. -/
def ServerCall.target : ServerCall → Option ServerChannel
  | .signal _ | .removeSignal _ => some .requestChannel
  | .expired _ => some .timerC
  | _ => none

inductive ServerGoroutine where
  | pump
  | call (t : Nat)
  /-- A reader that asks for the state of a client. -/
  | reader (c : String)
deriving Repr, DecidableEq

/-- How an operation uses the mutex. -/
inductive LockUse where
  | free
  /-- `RLock` and `RUnlock`, with nothing in between that can wait. -/
  | passing
  /-- Under a read lock taken before. -/
  | reading (g : ServerGoroutine)
  /-- Under a write lock taken before. -/
  | writing (g : ServerGoroutine)
deriving Repr, DecidableEq

/-- The pump is at an operation of the pending state. -/
def ServerPumpPC.needsLock : ServerPumpPC → Bool
  | .hasPending _ | .addPending _ _ | .timedOut _ _ .delete | .failed _ _ _ .delete => true
  | _ => false

/-- The call is at an operation of the pending state. -/
def ServerCall.needsLock : ServerCall → Bool
  | .completing _ _ .delete | .clear _ => true
  | _ => false

def ServerSteps.lockUse (s : ServerSteps) : ServerSteps.Action → LockUse
  | .pump _ =>
      match s.pump with
      | .reqChan => .passing
      | pc => if pc.needsLock then .writing .pump else .free
  | .call t =>
      match s.calls[t]? with
      | none => .free
      | some pc =>
          if pc.target.isSome then .reading (.call t)
          else if pc.needsLock then .writing (.call t)
          else .free
  | .createClient _ => .passing
  | .getClientState c => .writing (.reader c)
  | .select _ => .free
  | .start _ => .free

/-- What the goroutine does next. -/
def ServerGoroutine.next : ServerGoroutine → ServerSteps.Action
  | .pump => .pump none
  | .call t => .call t
  | .reader c => .getClientState c

structure ServerLocks where
  steps : ServerSteps
  mutex : RWMutex ServerGoroutine

namespace ServerLocks

def start (queueCapacity : Nat) (timeout : Int) : ServerLocks where
  steps := .start queueCapacity timeout
  mutex := .new

inductive Action where
  | rlock (g : ServerGoroutine)
  /-- A goroutine calls `Lock`; it holds the lock once the readers have left. -/
  | lock (g : ServerGoroutine)
  /-- An operation of the dispatcher, which gives back the lock it needed. -/
  | step (a : ServerSteps.Action)

def act (l : ServerLocks) : Action → Option ServerLocks
  | .rlock g =>
      if l.steps.lockUse g.next = .reading g ∧ g ∉ l.mutex.readers then
        (l.mutex.rlock g).map fun m => { l with mutex := m }
      else none
  | .lock g =>
      if l.steps.lockUse g.next = .writing g then
        (l.mutex.announce g).map fun m => { l with mutex := m }
      else none
  | .step a =>
      match l.steps.lockUse a with
      | .free => (l.steps.act a).map fun s => { l with steps := s }
      | .passing =>
          match l.mutex.writer with
          | none => (l.steps.act a).map fun s => { l with steps := s }
          | some _ => none
      | .reading g =>
          if g ∈ l.mutex.readers then
            (l.steps.act a).map fun s => { steps := s, mutex := l.mutex.runlock g }
          else none
      | .writing g =>
          if l.mutex.Holds g then
            (l.steps.act a).map fun s => { steps := s, mutex := l.mutex.unlock }
          else none

/-- All runs of a started dispatcher, without `Stop`. -/
def machine (queueCapacity : Nat) (timeout : Int) : Machine ServerLocks Action where
  init := fun l => l = start queueCapacity timeout
  act := act

/-- The pump waits for the write lock, in its call of `Lock` or before it. -/
def PumpWaits (l : ServerLocks) : Prop :=
  l.steps.pump.needsLock = true ∧ ¬ l.mutex.Holds .pump

/-- The call holds the read lock and waits for room in a channel. -/
def SendWaits (l : ServerLocks) (t : Nat) (ch : ServerChannel) : Prop :=
  .call t ∈ l.mutex.readers ∧ (l.steps.calls[t]?).bind ServerCall.target = some ch
    ∧ ch.capacity ≤ (l.steps.channel ch).length

/-! ## Some sequences of steps -/

/-- `SendRequest`, as call number `t`, up to its `RLock`. -/
def pushing (t : Nat) (c id : String) : List Action :=
  [.step (.start (.sendRequest c (heartbeatBundle id))), .step (.call t), .step (.call t),
    .rlock (.call t)]

/-- The pump takes the token of a request and goes as far as `AddPendingRequest`. -/
def takingUp (c : String) : List Action :=
  [.step (.pump none), .step (.select (.request c))] ++ List.replicate 4 (.step (.pump none))

end ServerLocks

end OcppGo.Ocppj
