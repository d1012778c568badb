import OcppGo.Ocppj.ClientDispatcher
import OcppGo.Lib.Run

/-!
# The OCPP-J client

`Client` of `ocppj/client.go` on top of the default dispatcher, between `Start`
and `Stop`. The network is an adversary: `ocppMessageHandler` may be called at
any time with any bytes, so frames can be late, repeated, reordered or invented.
-/

namespace OcppGo.Ocppj

open Lib

/-- What is fixed when the client is started. -/
structure ClientConfig where
  endpoint : Endpoint
  lib : Library
  validationEnabled : Bool
  /-- `invalidMessageHook`, when one is registered. -/
  invalidMessageHook : Option (OcppError → List UInt8 → List Json → Option OcppError)
  timeout : Int
  queueCapacity : Nat

/-- A call `ocppMessageHandler` makes to the application or to the network. -/
inductive HandlerCall where
  | requestHandler (request : Payload) (requestId action : String)
  | responseHandler (response : Payload) (requestId : String)
  | errorHandler (err : OcppError) (details : Option Json)
  /-- `client.Write` of an encoded `CALL_ERROR`. -/
  | write (frame : CallError)

/-- The client, with the ids its generator gave out and those already answered. -/
structure Client where
  dispatcher : ClientDispatcher
  issued : List String
  answered : List String

namespace Client

/-- `NewClient` and `Start`. -/
def start (cfg : ClientConfig) : Client :=
  { dispatcher := .start (.new cfg.queueCapacity) cfg.timeout, issued := [], answered := [] }

/-- `SendError`, as far as the frame it writes. -/
def sendError (cfg : ClientConfig) (requestId : String) (errorCode : ErrorCode)
    (description : String) (details : Option Json) : List HandlerCall :=
  match Endpoint.createCallError cfg.lib cfg.validationEnabled requestId errorCode description
      details with
  | .error _ => []
  | .ok callError =>
      match cfg.lib.marshal (.callError callError) with
      | .error _ => []
      | .ok _ => [.write callError]

/-- The error reported to the peer: the hook's, under the original message id. -/
def hookedError (cfg : ClientConfig) (err : OcppError) (data : List UInt8) (arr : List Json) :
    OcppError :=
  match cfg.invalidMessageHook with
  | none => err
  | some hook =>
      match hook err data arr with
      | none => err
      | some err2 => { err2 with messageId := err.messageId }

/-- `ocppMessageHandler`: the client afterwards, and the calls it made, in order. -/
def ocppMessageHandler (cfg : ClientConfig) (c : Client) (data : List UInt8) :
    Client × List HandlerCall :=
  match cfg.lib.unmarshalArray data with
  | .error _ => (c, [])
  | .ok arr =>
      match cfg.endpoint.parseMessage cfg.lib arr c.dispatcher.pendingRequestState with
      | .panicked => ({ c with dispatcher := { c.dispatcher with status := .crashed } }, [])
      | .failed err =>
          let ocppErr := hookedError cfg err data arr
          -- without an id there is nothing to answer to
          if ocppErr.messageId ≠ "" then
            (c, sendError cfg ocppErr.messageId ocppErr.code ocppErr.description none)
          else (c, [])
      | .discarded => (c, [])
      | .parsed (.call call) => (c, [.requestHandler call.payload call.uniqueId call.action])
      | .parsed (.callResult r) =>
          -- the request leaves the queue before its handler runs
          ({ c with
              dispatcher := c.dispatcher.completeRequest r.uniqueId
              answered := c.answered ++ [r.uniqueId] },
            [.responseHandler r.payload r.uniqueId])
      | .parsed (.callError e) =>
          ({ c with
              dispatcher := c.dispatcher.completeRequest e.uniqueId
              answered := c.answered ++ [e.uniqueId] },
            [.errorHandler (newError e.errorCode e.errorDescription e.uniqueId) e.errorDetails])

/-- `SendRequest`, given what the id generator would return. -/
def sendRequest (cfg : ClientConfig) (c : Client) (uniqueId : String) (request : Payload) :
    Client :=
  match cfg.endpoint.getProfileForFeature request.featureName with
  | none => c
  | some _ =>
      -- from here on the generator has run, whatever becomes of the call
      let c := { c with issued := c.issued ++ [uniqueId] }
      match cfg.endpoint.createCall cfg.lib cfg.validationEnabled uniqueId request with
      | .error _ => c
      | .ok call =>
          match cfg.lib.marshal (.call call) with
          | .error _ => c
          | .ok jsonMessage =>
              match c.dispatcher.sendRequest { call := call, data := jsonMessage } with
              | .error _ => c
              | .ok d => { c with dispatcher := d }

/-- The error `SendRequest` returns, on a started client. -/
def sendRequestError (cfg : ClientConfig) (c : Client) (uniqueId : String) (request : Payload) :
    Option GoError :=
  match cfg.endpoint.createCall cfg.lib cfg.validationEnabled uniqueId request with
  | .error err => some err
  | .ok call =>
      match cfg.lib.marshal (.call call) with
      | .error text => some (.plain text)
      | .ok jsonMessage =>
          match c.dispatcher.sendRequest { call := call, data := jsonMessage } with
          | .error text => some (.plain text)
          | .ok _ => none

/-- The atomic steps of a run. -/
inductive Action where
  | sendRequest (uniqueId : String) (request : Payload)
  | messagePump (sel : ClientDispatcher.Select) (write : Option String)
  | ocppMessageHandler (data : List UInt8)
  | pause
  | resume
  /-- The timer's deadline passes. -/
  | timerExpires

/--
One step. Nothing happens once the process has crashed, and a stuck pump makes
no further iteration. The id generator returns neither an empty id nor one it
has returned before.
-/
def act (cfg : ClientConfig) (c : Client) (a : Action) : Option Client :=
  if c.dispatcher.status = .crashed then none
  else
    match a with
    | .sendRequest uid request =>
        if uid ≠ "" ∧ uid ∉ c.issued then some (c.sendRequest cfg uid request) else none
    | .messagePump sel write =>
        if c.dispatcher.status = .running then
          (c.dispatcher.messagePump sel write).map (fun d => { c with dispatcher := d })
        else none
    | .ocppMessageHandler data => some (c.ocppMessageHandler cfg data).1
    | .pause => c.dispatcher.pause.map (fun d => { c with dispatcher := d })
    | .resume => some { c with dispatcher := c.dispatcher.resume }
    | .timerExpires =>
        c.dispatcher.timer.expire.map
          (fun t => { c with dispatcher := { c.dispatcher with timer := t } })

/-- All runs of one client between `Start` and `Stop`. -/
def machine (cfg : ClientConfig) : Machine Client Action where
  init := fun c => c = start cfg
  act := act cfg

end Client

end OcppGo.Ocppj
