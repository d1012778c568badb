import OcppGo.ChargePoint
import OcppGo.Ocppj.ClientLocks
import Mathlib.Logic.Relation

/-!
# The charge point under its locks

The steps of `OcppGo/ChargePoint.lean`, with the mutex of the client's dispatcher
on top. `SendRequest` keeps the read lock while it sends on `requestChannel`.
`Pause` keeps the write lock from its first operation to its last, `Resume` only
while it clears the flag. The pump takes the read lock twice in each iteration,
for `reqChan` and for `IsPaused`, and gives it back at once; so does `IsRunning`,
which every `SendRequest` asks first. The callback mutex is part of the charge
point's own state: whoever is in `TryQueue` holds it.

`WaitsFor` says which goroutine waits for which. Waits for a ready token or for
the timer are not among them.
-/

namespace OcppGo

open Lib Ocppj

inductive StationGoroutine where
  /-- `messagePump` of the client's dispatcher. -/
  | pump
  /-- The goroutine that reads frames. -/
  | reader
  /-- `asyncCallbackHandler`. -/
  | handler
  /-- A call of the dispatcher's methods, for `SendRequest` inside its `TryQueue`. -/
  | call (t : Nat)
deriving Repr, DecidableEq

structure ChargePointLocks where
  station : ChargePoint
  /-- `d.mutex`. -/
  mutex : RWMutex StationGoroutine
  /-- The pump has evaluated `reqChan` and is in its `select`. -/
  selecting : Bool
  /-- The call `IsRunning` let through last. -/
  admitted : Option Nat

namespace ChargePointLocks

def start (queueCapacity : Nat) (timeout : Int) : ChargePointLocks where
  station := .start queueCapacity timeout
  mutex := .new
  selecting := false
  admitted := none

/-- The place of a call. -/
def callAt (l : ChargePointLocks) (t : Nat) : Option CallPC := l.station.client.callers[t]?

/-- A step that needs no lock. -/
def plain (cfg : PeerConfig) (l : ChargePointLocks) (a : ChargePoint.Action) :
    Option ChargePointLocks :=
  (l.station.act cfg a).map fun s => { l with station := s }

/-- A step of the charge point, with the lock it needs. -/
def step (cfg : PeerConfig) (l : ChargePointLocks) (a : ChargePoint.Action) :
    Option ChargePointLocks :=
  match a with
  | .client (.select _) =>
      if l.selecting then
        (l.station.act cfg a).map fun s => { l with station := s, selecting := false }
      else none
  | .client (.pump _) =>
      match l.station.client.pump, l.mutex.writer with
      -- the `RLock` of `IsPaused` waits
      | .isPaused, some _ => none
      | _, _ => l.plain cfg a
  | .client (.caller t) =>
      match l.callAt t with
      | none => none
      | some (.push _) => if l.admitted = some t then l.plain cfg a else none
      | some .signal =>
          if .call t ∈ l.mutex.readers then
            (l.station.act cfg a).map fun s =>
              { l with station := s, mutex := l.mutex.runlock (.call t) }
          else none
      | some pc =>
          if pc.underLock then
            if l.mutex.Holds (.call t) then
              (l.station.act cfg a).map fun s =>
                { l with
                  station := s, mutex := if pc.atUnlock then l.mutex.unlock else l.mutex }
            else none
          else l.plain cfg a
  | _ => l.plain cfg a

inductive Action where
  /-- The pump evaluates `reqChan`. -/
  | reqChan
  /-- `IsRunning`, asked by call `t`. -/
  | isRunning (t : Nat)
  | rlock (t : Nat)
  /-- Call `t` calls `Lock`; it holds the lock once the readers have left. -/
  | lock (t : Nat)
  | step (a : ChargePoint.Action)

def act (cfg : PeerConfig) (l : ChargePointLocks) : Action → Option ChargePointLocks
  | .reqChan =>
      match l.station.client.pump, l.mutex.writer with
      | .select, none => some { l with selecting := true }
      | _, _ => none
  | .isRunning t =>
      match l.callAt t, l.mutex.writer with
      | some (.push _), none => some { l with admitted := some t }
      | _, _ => none
  | .rlock t =>
      match l.callAt t with
      | some .signal =>
          if .call t ∈ l.mutex.readers then none
          else (l.mutex.rlock (.call t)).map fun m => { l with mutex := m }
      | _ => none
  | .lock t =>
      if (l.callAt t).any CallPC.atLock then
        (l.mutex.announce (.call t)).map fun m => { l with mutex := m }
      else none
  | .step a => l.step cfg a

/-- All runs of one session. -/
def machine (cfg : PeerConfig) (queueCapacity : Nat) (timeout : Int) :
    Machine ChargePointLocks Action where
  init := fun l => l = start queueCapacity timeout
  act := act cfg

/-- The call has the read lock and finds `requestChannel` full. -/
def SendBlocked (l : ChargePointLocks) (t : Nat) : Prop :=
  .call t ∈ l.mutex.readers ∧ l.callAt t = some .signal ∧ 1 ≤ l.station.client.requestChannel

/-- The first goroutine cannot go on before the second has. -/
inductive WaitsFor (l : ChargePointLocks) : StationGoroutine → StationGoroutine → Prop where
  /-- `reqChan` waits behind a writer. -/
  | reqChan (w : StationGoroutine) : l.station.client.pump = .select → l.selecting = false →
      l.mutex.writer = some w → WaitsFor l .pump w
  /-- `IsPaused` waits behind a writer. -/
  | isPaused (w : StationGoroutine) : l.station.client.pump = .isPaused →
      l.mutex.writer = some w → WaitsFor l .pump w
  /-- `IsRunning` waits behind a writer. -/
  | isRunning (t : Nat) (req : RequestBundle) (w : StationGoroutine) :
      l.callAt t = some (.push req) → l.admitted ≠ some t → l.mutex.writer = some w →
      WaitsFor l (.call t) w
  /-- The `RLock` of `SendRequest` waits behind a writer. -/
  | rlock (t : Nat) (w : StationGoroutine) : l.callAt t = some .signal →
      .call t ∉ l.mutex.readers → l.mutex.writer = some w → WaitsFor l (.call t) w
  /-- `Lock` waits behind another writer. -/
  | lock (t : Nat) (pc : CallPC) (w : StationGoroutine) : l.callAt t = some pc →
      pc.atLock = true → l.mutex.writer = some w → w ≠ .call t → WaitsFor l (.call t) w
  /-- `Lock` waits for the readers to leave. -/
  | readers (w r : StationGoroutine) : l.mutex.writer = some w → r ∈ l.mutex.readers →
      WaitsFor l w r
  /-- Only the pump drains `requestChannel`. -/
  | requestChannel (t : Nat) : SendBlocked l t → WaitsFor l (.call t) .pump
  /-- `onRequestCancel` waits for room in `errorHandler`. -/
  | reportFailed (p : Posted) (text : String) : l.station.client.pump = .reportFailed p text →
      l.station.errorHandler.isSome = true → WaitsFor l .pump .handler
  | reportTimedOut (p : Posted) : l.station.client.pump = .reportTimedOut p →
      l.station.errorHandler.isSome = true → WaitsFor l .pump .handler
  /-- The reader's handlers wait for room in their channel. -/
  | readerHandler (id : String) (kind : Reply) : l.station.client.reader = .handler id kind →
      (l.station.channel kind).isSome = true → WaitsFor l .reader .handler
  /-- `Dequeue` waits for the callback mutex. -/
  | dequeue (t : Nat) (rid : String) : l.station.received.isSome = true →
      l.station.trying = some (t, rid) → WaitsFor l .handler (.call t)

/-- A sender that waits for the pump is waited for by the pump. -/
def Deadlocked (l : ChargePointLocks) : Prop :=
  ∃ t, SendBlocked l t ∧ Relation.TransGen (WaitsFor l) (.call t) (.call t)

/-! ## Some sequences of steps -/

/-- `SendRequest` of a heartbeat, as call number `t`, up to its send on `requestChannel`. -/
def pushing (t : Nat) (id : String) : List Action :=
  [.step (.trySend false (heartbeatBundle id) none), .isRunning t, .step (.client (.caller t)),
    .rlock t]

/-- The send, and the return of `TryQueue`. -/
def sent (t : Nat) : List Action := [.step (.client (.caller t)), .step .finishTry]

/-- The pump takes a token and dispatches; its `Write` fails, up to the report. -/
def failing (sel : ClientDispatcher.Select) : List Action :=
  [.reqChan, .step (.client (.select sel))]
    ++ List.replicate 9 (.step (.client (.pump (some "broken pipe"))))

/-- The report, and back to the head of the loop. -/
def reporting : List Action := List.replicate 3 (.step (.client (.pump none)))

end ChargePointLocks

end OcppGo
