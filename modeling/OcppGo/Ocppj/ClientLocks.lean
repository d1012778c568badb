import OcppGo.Lib.RWMutex
import OcppGo.Ocppj.ClientSteps

/-!
# The client dispatcher under its mutex

The steps of `OcppGo/Ocppj/ClientSteps.lean`, with `d.mutex` on top. `Pause` keeps the
write lock from its first operation to its last, `Resume` only while it clears the flag,
and `SendRequest` has the read lock while it sends on `requestChannel`. The pump takes the
read lock for `reqChan`, before each `select`, and for `IsPaused`, and gives it back at
once. It needs no lock for the timer.
-/

namespace OcppGo.Ocppj

open Lib

/-- Under the write lock. -/
def CallPC.underLock : CallPC → Bool
  | .pauseStop | .pauseDrain | .pauseReset | .pauseSet | .resumeSet => true
  | _ => false

/-- At the first operation under the write lock. -/
def CallPC.atLock : CallPC → Bool
  | .pauseStop | .resumeSet => true
  | _ => false

/-- At the last operation under the write lock. -/
def CallPC.atUnlock : CallPC → Bool
  | .pauseSet | .resumeSet => true
  | _ => false

structure ClientLocks where
  steps : ClientSteps
  /-- `d.mutex`, which calls have by their number. -/
  mutex : RWMutex Nat
  /-- The pump has evaluated `reqChan` and is in its `select`. -/
  selecting : Bool

namespace ClientLocks

def start (queueCapacity : Nat) (timeout : Int) : ClientLocks where
  steps := .start queueCapacity timeout
  mutex := .new
  selecting := false

/-- A step that needs no lock. -/
def plain (l : ClientLocks) (a : ClientSteps.Action) : Option ClientLocks :=
  (l.steps.act a).map fun s => { l with steps := s }

/-- The next operation of call `t`, which stands at `pc`, with the lock it needs. -/
def callerStep (l : ClientLocks) (t : Nat) (pc : CallPC) : Option ClientLocks :=
  if pc.underLock then
    if l.mutex.Holds t then
      (l.plain (.caller t)).map fun l =>
        { l with mutex := if pc.atUnlock then l.mutex.unlock else l.mutex }
    else none
  else
    match pc with
    | .signal =>
        if t ∈ l.mutex.readers then
          (l.plain (.caller t)).map fun l => { l with mutex := l.mutex.runlock t }
        else none
    | _ => l.plain (.caller t)

/-- A step of the dispatcher. -/
def step (l : ClientLocks) (a : ClientSteps.Action) : Option ClientLocks :=
  match a with
  | .select _ =>
      if l.selecting then (l.plain a).map fun l => { l with selecting := false } else none
  | .pump _ =>
      match l.steps.pump, l.mutex.writer with
      -- the `RLock` of `IsPaused` waits
      | .isPaused, some _ => none
      | _, _ => l.plain a
  | .caller t => l.steps.callers[t]?.bind (l.callerStep t)
  | _ => l.plain a

inductive Action where
  /-- The pump evaluates `reqChan`. -/
  | reqChan
  | rlock (t : Nat)
  /-- Call `t` calls `Lock`; it holds the lock once the readers have left. -/
  | lock (t : Nat)
  | step (a : ClientSteps.Action)

def act (l : ClientLocks) : Action → Option ClientLocks
  | .reqChan =>
      match l.steps.pump, l.mutex.writer with
      | .select, none => some { l with selecting := true }
      | _, _ => none
  | .rlock t =>
      match l.steps.callers[t]? with
      | some .signal =>
          if t ∈ l.mutex.readers then none
          else (l.mutex.rlock t).map fun m => { l with mutex := m }
      | _ => none
  | .lock t =>
      if l.steps.callers[t]?.any CallPC.atLock then
        (l.mutex.announce t).map fun m => { l with mutex := m }
      else none
  | .step a => l.step a

/-- All runs of a started dispatcher, without `Stop`. -/
def machine (queueCapacity : Nat) (timeout : Int) : Machine ClientLocks Action where
  init := fun l => l = start queueCapacity timeout
  act := act

end ClientLocks

end OcppGo.Ocppj
