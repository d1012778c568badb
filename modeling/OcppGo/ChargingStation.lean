import OcppGo.CallbackQueue
import OcppGo.SendChecks
import OcppGo.Ocppj.Client
import OcppGo.Ocppj.ClientSessions

/-!
# The charging station over several sessions

`chargingStation` of `ocpp2.0.1/charging_station.go` with `Start` and `Stop`.
Its `Stop` stops the OCPP-J client and nothing else: the callbacks that are
queued stay queued, and the goroutine that invokes them goes on waiting for
outcomes. The client's `Stop` closes the dispatcher's channel, and the exiting
pump empties the dispatcher's queue.

Each operation is one step: a call of `SendRequestAsync`, the handling of a frame
up to the callback it leads to, an iteration of the pump with the cancellations
it reports, `Stop`, the return of the pump, `Start`. A callback is named by the
session and the id of the request it was sent with.
-/

namespace OcppGo

open Lib Ocppj

/-- A request that `SendRequestAsync` accepted, and the callback it came with. -/
structure SessionRequest where
  session : Nat
  requestId : String
deriving Repr, DecidableEq

/-- A callback was invoked. -/
structure SessionCall where
  callback : SessionRequest
  /-- The request the result is the outcome of. -/
  requestId : String
  result : Except OcppError Payload

structure ChargingStation where
  client : Client
  lifecycle : Lifecycle
  /-- How often `Start` was called before. -/
  session : Nat
  callbacks : CallbackQueue SessionRequest
  /-- Every request accepted, in order. -/
  accepted : List SessionRequest
  /-- Every callback invoked, in order. -/
  invoked : List SessionCall

namespace ChargingStation

/-- `NewChargingStation` and `Start`. -/
def start (cfg : ClientConfig) : ChargingStation where
  client := .start cfg
  lifecycle := .running
  session := 0
  callbacks := .new
  accepted := []
  invoked := []

/-- The id all callbacks are queued under. -/
def callbackKey : String := "main"

def setDispatcher (s : ChargingStation) (d : ClientDispatcher) : ChargingStation :=
  { s with client := { s.client with dispatcher := d } }

/-- The process is down. -/
def panicked (s : ChargingStation) : ChargingStation :=
  s.setDispatcher { s.client.dispatcher with status := .crashed }

/-! ## Requests -/

/-- The error of the client's `SendRequest` once its dispatcher is stopped. -/
def notStartedError : GoError := .plain "ocppj client is not started, couldn't send request"

/-- `TryQueue` when the client returned an error. -/
def refused (s : ChargingStation) (uniqueId : String) (err : GoError) : ChargingStation :=
  { s with
    callbacks := s.callbacks.tryQueue callbackKey (some err)
      { session := s.session, requestId := uniqueId } }

/-- `TryQueue` around the client's `SendRequest`, given what the id generator would return. -/
def trySend (cfg : ClientConfig) (s : ChargingStation) (uniqueId : String) (request : Payload) :
    ChargingStation :=
  let sent := { s with client := s.client.sendRequest cfg uniqueId request }
  match s.lifecycle with
  | .stopped => s.refused uniqueId notStartedError
  | .running =>
      match s.client.sendRequestError cfg uniqueId request with
      | some err => sent.refused uniqueId err
      | none =>
          let callback : SessionRequest := { session := s.session, requestId := uniqueId }
          { sent with
            callbacks := s.callbacks.tryQueue callbackKey (none : Option GoError) callback
            accepted := s.accepted ++ [callback] }
  | _ =>
      match s.client.sendRequestError cfg uniqueId request with
      | some err => sent.refused uniqueId err
      -- the request was pushed, and its token is sent on the closed channel
      | none => s.panicked

/-- `SendRequestAsync`. -/
def sendRequestAsync (cfg : ClientConfig) (s : ChargingStation) (uniqueId : String)
    (request : Payload) : ChargingStation :=
  let supported := fun featureName => (cfg.endpoint.getProfileForFeature featureName).isSome
  match sendRequestAsyncError (chargingStationConfig supported) request.featureName with
  | some _ => s
  | none => s.trySend cfg uniqueId request

/-! ## Outcomes -/

/-- `asyncCallbackHandler` dequeues a callback and invokes it. Without one, it reports an error. -/
def invokeNext (s : ChargingStation) (requestId : String) (result : Except OcppError Payload) :
    ChargingStation :=
  match s.callbacks.dequeue callbackKey with
  | none => s
  | some (callback, callbacks) =>
      { s with
        callbacks := callbacks
        invoked := s.invoked
          ++ [{ callback := callback, requestId := requestId, result := result }] }

/-- The client's handlers. An incoming request takes no callback, whatever is replied to it. -/
def handlerCall (s : ChargingStation) : HandlerCall → ChargingStation
  | .requestHandler _ _ _ => s
  | .responseHandler response requestId => s.invokeNext requestId (.ok response)
  | .errorHandler err _ => s.invokeNext err.messageId (.error err)
  | .write _ => s

def onRequestTimeout (s : ChargingStation) (c : Canceled) : ChargingStation :=
  s.invokeNext c.requestID (.error c.err)

/-- The client handles a frame. -/
def ocppMessageHandler (cfg : ClientConfig) (s : ChargingStation) (data : List UInt8) :
    ChargingStation :=
  let handled := s.client.ocppMessageHandler cfg data
  handled.2.foldl handlerCall { s with client := handled.1 }

/-- An iteration of the pump, and the cancellations it reports. -/
def messagePump (s : ChargingStation) (sel : ClientDispatcher.Select) (write : Option String) :
    Option ChargingStation :=
  (s.client.dispatcher.messagePump sel write).map fun d =>
    (d.canceled.drop s.client.dispatcher.canceled.length).foldl onRequestTimeout
      (s.setDispatcher d)

/-! ## Sessions -/

/--
`Stop`. It waits for the dispatcher's mutex, which a `SendRequest` without room
for its token holds, and skips the dispatcher once that is stopped.
-/
def stop (s : ChargingStation) : Option ChargingStation :=
  match s.lifecycle with
  | .running =>
      if s.client.dispatcher.requestChannel ≤ 1 then some { s with lifecycle := .closed } else none
  | .stopped => some s
  | _ => some s.panicked

/-- The pump meets the closed channel and returns. -/
def exit (s : ChargingStation) : Option ChargingStation :=
  let d := s.client.dispatcher
  if s.lifecycle = .closed ∧ d.status = .running ∧ d.requestChannel = 0 then
    some { s.setDispatcher { d with requestQueue := d.requestQueue.init } with
      lifecycle := .stopped }
  else none

/-- `Start` once the pump has returned. -/
def restart (s : ChargingStation) : Option ChargingStation :=
  match s.lifecycle with
  | .stopped =>
      some { s.setDispatcher
          { s.client.dispatcher with
            requestChannel := 0
            timer := { armed := some defaultTimeoutTick, tick := false }
            rdy := true } with
        lifecycle := .running
        session := s.session + 1 }
  | _ => none

/-! ## Runs -/

/-- The operations, each of them atomic. -/
inductive Action where
  | start
  | stop
  /-- The pump returns. -/
  | exit
  | sendRequestAsync (uniqueId : String) (request : Payload)
  | messagePump (sel : ClientDispatcher.Select) (write : Option String)
  | ocppMessageHandler (data : List UInt8)
  /-- The connection is lost, or found again. -/
  | pause
  | resume
  /-- The timer's deadline passes. -/
  | timerExpires

/-- One step. The id generator returns neither an empty id nor one it has returned before. -/
def act (cfg : ClientConfig) (s : ChargingStation) (a : Action) : Option ChargingStation :=
  if s.client.dispatcher.status = .crashed then none
  else
    match a with
    | .start => s.restart
    | .stop => s.stop
    | .exit => s.exit
    | .sendRequestAsync uid request =>
        if uid ≠ "" ∧ uid ∉ s.client.issued then some (s.sendRequestAsync cfg uid request)
        else none
    | .messagePump sel write =>
        if s.client.dispatcher.status = .running ∧ s.lifecycle ≠ .stopped then
          s.messagePump sel write
        else none
    | .ocppMessageHandler data => some (s.ocppMessageHandler cfg data)
    | .pause => s.client.dispatcher.pause.map s.setDispatcher
    | .resume => some (s.setDispatcher s.client.dispatcher.resume)
    | .timerExpires =>
        s.client.dispatcher.timer.expire.map fun t =>
          s.setDispatcher { s.client.dispatcher with timer := t }

/-- All runs of a station that was started once. -/
def machine (cfg : ClientConfig) : Machine ChargingStation Action where
  init := fun s => s = start cfg
  act := act cfg

end ChargingStation

end OcppGo
