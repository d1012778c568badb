import OcppGo.CallbackQueue
import OcppGo.SendChecks
import OcppGo.Ocppj.Server

/-!
# The central system

`centralSystem` of `ocpp1.6/central_system.go`, and `csms` of
`ocpp2.0.1/csms.go`. Both register a callback with every request they send, under
the id of the client, and invoke the first callback of a client whenever a
response, an error or a cancellation for that client comes in. They differ in
one place: when a client disconnects, the central system invokes and drops the
callbacks left for it, and the CSMS does not.

Each operation is one step: a call of `SendRequestAsync`, an iteration of the
pump with the cancel callbacks it makes, the handling of a frame, a connect, a
disconnect with the handlers it runs. An iteration that is one step does not
wait in the middle for room in the ready channel.

A callback is named by the stamp of the request it was registered with, so two
registrations never share a name.
-/

namespace OcppGo

open Lib Ocppj

/-- What is fixed when the central system is started. -/
structure CentralSystemConfig where
  peer : PeerConfig
  server : ServerConfig
  /-- The disconnect handler invokes the callbacks that are left. -/
  drains : Bool

/-- `GetProfileForFeature` finds a profile. -/
def hasProfile (server : ServerConfig) (featureName : String) : Bool :=
  (server.endpoint.getProfileForFeature featureName).isSome

/-- The central system of OCPP 1.6, with a handler set by `SetChargePointDisconnectedHandler`. -/
def centralSystem (server : ServerConfig) : CentralSystemConfig where
  peer := centralSystemConfig (hasProfile server)
  server := server
  drains := true

/-- The CSMS of OCPP 2.0.1, with a handler set by `SetChargingStationDisconnectedHandler`. -/
def csms (server : ServerConfig) : CentralSystemConfig where
  peer := csmsConfig (hasProfile server)
  server := server
  drains := false

/-- A request that `SendRequestAsync` accepted, and the callback it came with. -/
structure Registration where
  clientID : String
  callback : Nat
  requestId : String
deriving Repr, DecidableEq

/-- A callback was invoked. -/
structure CallbackCall where
  clientID : String
  callback : Nat
  /-- The request the result is the outcome of; a disconnect is the outcome of none. -/
  requestId : Option String
  /-- `callback(confirmation, nil)` or `callback(nil, err)`. -/
  result : Except OcppError Payload

structure CentralSystem where
  dispatcher : ServerDispatcher
  callbackQueue : CallbackQueue Nat
  /-- Every request accepted, in order. -/
  accepted : List Registration
  /-- Every callback invoked, in order. -/
  invoked : List CallbackCall

namespace CentralSystem

/-- `NewCentralSystem` and `Start`. -/
def start (cfg : CentralSystemConfig) : CentralSystem where
  dispatcher := .start cfg.server.queueCapacity cfg.server.timeout
  callbackQueue := .new
  accepted := []
  invoked := []

/-! ## Requests -/

/-- `SendRequestAsync`, given what the id generator would return, and the error it returns. -/
def sendRequestAsync (cfg : CentralSystemConfig) (s : CentralSystem) (clientId uniqueId : String)
    (request : Payload) : CentralSystem × Option GoError :=
  match sendRequestAsyncError cfg.peer request.featureName with
  | some text => (s, some (.plain text))
  | none =>
      -- the callback is named by the stamp its request will get
      let callback := s.dispatcher.accepted
      match Server.sendRequest cfg.server s.dispatcher clientId uniqueId request with
      | .error err =>
          ({ s with callbackQueue := s.callbackQueue.tryQueue clientId (some err) callback },
            some err)
      | .ok d =>
          ({ s with
              dispatcher := d
              callbackQueue := s.callbackQueue.tryQueue clientId (none : Option GoError) callback
              accepted := s.accepted
                ++ [{ clientID := clientId, callback := callback, requestId := uniqueId }] },
            none)

/-! ## Outcomes -/

/-- Dequeue a callback of the client and invoke it. Without one, an error is reported. -/
def invokeNext (s : CentralSystem) (clientID : String) (requestId : Option String)
    (result : Except OcppError Payload) : CentralSystem :=
  match s.callbackQueue.dequeue clientID with
  | none => s
  | some (callback, callbackQueue) =>
      { s with
        callbackQueue := callbackQueue
        invoked := s.invoked
          ++ [{ clientID := clientID, callback := callback, requestId := requestId,
                result := result }] }

def handleIncomingConfirmation (s : CentralSystem) (clientID : String) (confirmation : Payload)
    (requestId : String) : CentralSystem :=
  s.invokeNext clientID (some requestId) (.ok confirmation)

def handleIncomingError (s : CentralSystem) (clientID : String) (err : OcppError) :
    CentralSystem :=
  s.invokeNext clientID (some err.messageId) (.error err)

def handleCanceledRequest (s : CentralSystem) (c : Cancellation) : CentralSystem :=
  s.invokeNext c.clientID (some c.request.id) (.error c.err)

/-- The server's handlers. An incoming request takes no callback, whatever is replied to it. -/
def handlerCall (clientID : String) (s : CentralSystem) : HandlerCall → CentralSystem
  | .requestHandler _ _ _ => s
  | .responseHandler response requestId => s.handleIncomingConfirmation clientID response requestId
  | .errorHandler err _ => s.handleIncomingError clientID err
  | .write _ => s

/-- The server handles a frame. -/
def ocppMessageHandler (cfg : CentralSystemConfig) (s : CentralSystem) (clientID : String)
    (data : List UInt8) : CentralSystem :=
  let handled := Server.ocppMessageHandler cfg.server s.dispatcher clientID data
  handled.2.foldl (handlerCall clientID) { s with dispatcher := handled.1 }

/-- An iteration of the pump, and the cancel callbacks it makes. -/
def messagePump (s : CentralSystem) (sel : ServerSelect) (write : Option String) :
    Option CentralSystem :=
  match s.dispatcher.receive sel with
  | none => none
  | some d =>
      let d' := d.messagePump false sel write
      some ((d'.canceled.drop d.canceled.length).foldl handleCanceledRequest
        { s with dispatcher := d' })

/-! ## Connections -/

/-- What callbacks are told when their client disconnects. -/
def disconnectedError : OcppError :=
  newError GenericError "client disconnected, no response received from client" ""

/-- The loop of the disconnect handler, for a number of rounds. -/
def drain (s : CentralSystem) (clientID : String) : Nat → CentralSystem
  | 0 => s
  | n + 1 =>
      match s.callbackQueue.dequeue clientID with
      | none => s
      | some _ => (s.invokeNext clientID none (.error disconnectedError)).drain clientID n

/-- The client disconnects; the loop ends when no callback is left. -/
def disconnected (cfg : CentralSystemConfig) (s : CentralSystem) (clientID : String) :
    CentralSystem :=
  let s := { s with dispatcher := Server.onClientDisconnected s.dispatcher clientID }
  if cfg.drains then s.drain clientID (s.callbackQueue.queued clientID).length else s

/-! ## Runs -/

/-- The operations, each of them atomic. -/
inductive Action where
  | connected (clientID : String)
  | disconnected (clientID : String)
  | sendRequestAsync (clientID uniqueId : String) (request : Payload)
  | messagePump (sel : ServerSelect) (write : Option String)
  | deadlineExceeded (clientID : String) (ctx : ContextId)
  | notifyTimeout (clientID : String)
  | ocppMessageHandler (clientID : String) (data : List UInt8)

def act (cfg : CentralSystemConfig) (s : CentralSystem) (a : Action) : Option CentralSystem :=
  if s.dispatcher.status = .crashed then none
  else
    match a with
    | .connected c => some { s with dispatcher := Server.onClientConnected s.dispatcher c }
    | .disconnected c => some (s.disconnected cfg c)
    | .sendRequestAsync c uid request => some (s.sendRequestAsync cfg c uid request).1
    | .messagePump sel write => s.messagePump sel write
    | .deadlineExceeded c ctx =>
        (s.dispatcher.deadlineExceeded c ctx).map (fun d => { s with dispatcher := d })
    | .notifyTimeout c =>
        (s.dispatcher.notifyTimeout c).map (fun d => { s with dispatcher := d })
    | .ocppMessageHandler c data => some (s.ocppMessageHandler cfg c data)

/-- All runs between `Start` and `Stop`. -/
def machine (cfg : CentralSystemConfig) : Machine CentralSystem Action where
  init := fun s => s = start cfg
  act := act cfg

end CentralSystem

end OcppGo
