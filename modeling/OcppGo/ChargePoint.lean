import OcppGo.CallbackQueue
import OcppGo.SendChecks
import OcppGo.Ocppj.ClientSteps

/-!
# The charge point

`chargePoint` of `ocpp1.6/charge_point.go`, and `chargingStation` of
`ocpp2.0.1/charging_station.go`, which differ in names and in the list of
features `SendRequestAsync` lets through. Both sit on the OCPP-J client, taken
here one operation at a time:

* `SendRequest` and `SendRequestAsync` run `TryQueue` around the client's
  `SendRequest`, holding the callback mutex until it returns;
* the client's response and error handlers and its cancel callback put the
  outcome on one of two channels, each with room for one;
* `asyncCallbackHandler` takes an outcome from either channel, dequeues the next
  callback and invokes it.

A callback is named by the id of the request it was registered with, an outcome
by the id of the request it belongs to. One session: `Stop` is left out.
-/

namespace OcppGo

open Lib Ocppj

/-- The outcome of the request with this id. -/
structure RequestOutcome where
  id : String
  outcome : Outcome
deriving Repr, DecidableEq

/-- A callback was invoked with an outcome. -/
structure Invocation where
  /-- The id of the request the callback was registered with. -/
  callback : String
  result : RequestOutcome
deriving Repr, DecidableEq

structure ChargePoint where
  client : ClientSteps
  callbacks : CallbackQueue String
  /-- The `TryQueue` that holds the mutex: its call of the client's `SendRequest`, its callback. -/
  trying : Option (Nat × String)
  confirmationHandler : Option RequestOutcome
  errorHandler : Option RequestOutcome
  /-- What `asyncCallbackHandler` has received and not yet delivered. -/
  received : Option RequestOutcome
  /-- Every outcome it received, in order. -/
  taken : List RequestOutcome
  /-- Every callback it invoked, in order. -/
  invoked : List Invocation

namespace ChargePoint

/-- `NewChargePoint` and `Start`. -/
def start (queueCapacity : Nat) (timeout : Int) : ChargePoint where
  client := .start queueCapacity timeout
  callbacks := .new
  trying := none
  confirmationHandler := none
  errorHandler := none
  received := none
  taken := []
  invoked := []

/-- The id all callbacks of a station are queued under. -/
def callbackKey : String := "main"

/--
`SendRequest` or `SendRequestAsync`, up to its call of the client's
`SendRequest`. That call may fail before it reaches the dispatcher, with `err`.
-/
def trySend (cfg : PeerConfig) (s : ChargePoint) (async : Bool) (req : RequestBundle)
    (err : Option String) : Option ChargePoint :=
  match if async then sendRequestAsyncError cfg req.call.action
      else sendRequestError cfg req.call.action with
  | some _ => some s
  | none =>
      match s.trying with
      | some _ => none
      | none =>
          some { s with
            callbacks := s.callbacks.append callbackKey req.call.uniqueId
            trying := some (s.client.callers.length, req.call.uniqueId)
            client :=
              match err with
              | none => s.client.call (.sendRequest req)
              | some _ => { s.client with callers := s.client.callers ++ [.refused] } }

/-- The client's `SendRequest` has returned: `TryQueue` undoes its push on an error. -/
def finishTry (s : ChargePoint) : Option ChargePoint :=
  match s.trying with
  | none => none
  | some (t, _) =>
      match s.client.callers[t]? with
      | some .returned => some { s with trying := none }
      | some .refused =>
          some { s with callbacks := s.callbacks.removeLast callbackKey, trying := none }
      | _ => none

/-- Put an outcome on the error channel, as part of a step of the client. -/
def sendErrorOutcome (s : ChargePoint) (r : RequestOutcome) (a : ClientSteps.Action) :
    Option ChargePoint :=
  match s.errorHandler with
  | some _ => none
  | none => (s.client.act a).map fun c => { s with client := c, errorHandler := some r }

/-- The same for the confirmation channel. -/
def sendConfirmation (s : ChargePoint) (r : RequestOutcome) (a : ClientSteps.Action) :
    Option ChargePoint :=
  match s.confirmationHandler with
  | some _ => none
  | none => (s.client.act a).map fun c => { s with client := c, confirmationHandler := some r }

/-- A step of the client; its handlers are sends that wait while their channel is full. -/
def clientStep (s : ChargePoint) (a : ClientSteps.Action) : Option ChargePoint :=
  match a with
  | .call (.sendRequest _) => none
  | .call (.completeRequest _) => none
  | .reader =>
      match s.client.reader with
      | .handler id .response => s.sendConfirmation ⟨id, .reply .response⟩ a
      | .handler id .error => s.sendErrorOutcome ⟨id, .reply .error⟩ a
      | _ => (s.client.act a).map fun c => { s with client := c }
  | .pump _ =>
      match s.client.pump with
      | .reportFailed p _ => s.sendErrorOutcome ⟨p.id, .canceled⟩ a
      | .reportTimedOut p => s.sendErrorOutcome ⟨p.id, .canceled⟩ a
      | _ => (s.client.act a).map fun c => { s with client := c }
  | _ => (s.client.act a).map fun c => { s with client := c }

/-- The channel `asyncCallbackHandler` takes from. -/
def channel (s : ChargePoint) : Reply → Option RequestOutcome
  | .response => s.confirmationHandler
  | .error => s.errorHandler

/-- `asyncCallbackHandler` receives from one of its channels. -/
def take (s : ChargePoint) (kind : Reply) : Option ChargePoint :=
  match s.received, s.channel kind with
  | none, some r =>
      some { s with
        confirmationHandler := if kind = .response then none else s.confirmationHandler
        errorHandler := if kind = .error then none else s.errorHandler
        received := some r
        taken := s.taken ++ [r] }
  | _, _ => none

/-- `asyncCallbackHandler` dequeues the next callback and invokes it. -/
def deliver (s : ChargePoint) : Option ChargePoint :=
  match s.received, s.trying with
  | some r, none =>
      match s.callbacks.dequeue callbackKey with
      | none => some { s with received := none }
      | some (callback, callbacks) =>
          some { s with
            callbacks := callbacks
            received := none
            invoked := s.invoked ++ [{ callback := callback, result := r }] }
  | _, _ => none

inductive Action where
  | trySend (async : Bool) (req : RequestBundle) (err : Option String)
  | finishTry
  | client (a : ClientSteps.Action)
  | take (kind : Reply)
  | deliver

def act (cfg : PeerConfig) (s : ChargePoint) : Action → Option ChargePoint
  | .trySend async req err => s.trySend cfg async req err
  | .finishTry => s.finishTry
  | .client a => s.clientStep a
  | .take kind => s.take kind
  | .deliver => s.deliver

/-- `SendRequest` of a heartbeat, as the client's call number `t`, up to the wait. -/
def sending (t : Nat) (id : String) : List Action :=
  [.trySend false (heartbeatBundle id) none, .client (.caller t),
    .client (.caller t), .finishTry]

/-- All runs of one session. -/
def machine (cfg : PeerConfig) (queueCapacity : Nat) (timeout : Int) :
    Machine ChargePoint Action where
  init := fun s => s = start queueCapacity timeout
  act := act cfg

end ChargePoint

end OcppGo
