import OcppGo.Ocppj.Endpoint

/-!
# Sending replies

`SendResponse`, `SendError` and `HandleFailedResponseError`, which `client.go` and
`server.go` have in the same words; the server's `clientID` only says which connection
is written to. Every attempt to write is recorded, with what `Write` returned for it:
the network decides that, one attempt at a time.
-/

namespace OcppGo.Ocppj

/-- A call of `Write`. -/
structure Attempt where
  frame : Message
  jsonMessage : List UInt8
  /-- The error it returned. -/
  err : Option String

/-- The side that replies, and its connection to the peer. -/
structure Sender where
  endpoint : Endpoint
  lib : Library
  validationEnabled : Bool
  /-- What the `n`-th `Write` returns. -/
  network : Nat → Option String

namespace Sender

variable (s : Sender) (attempts : List Attempt)

/-- `MarshalJSON` and `Write`, and the error their callers make of a failure. -/
def write (requestId : String) (frame : Message) : List Attempt × Option GoError :=
  match s.lib.marshal frame with
  | .error text => (attempts, some (.ocpp (newError GenericError text requestId)))
  | .ok jsonMessage =>
      let err := s.network attempts.length
      (attempts ++ [{ frame := frame, jsonMessage := jsonMessage, err := err }],
        err.map fun text => .ocpp (newError GenericError text requestId))

/-- `SendResponse`. -/
def sendResponse (requestId : String) (response : Payload) : List Attempt × Option GoError :=
  match s.endpoint.createCallResult s.lib s.validationEnabled response requestId with
  | .error err => (attempts, some err)
  | .ok callResult => s.write attempts requestId (.callResult callResult)

/-- `SendError`. -/
def sendError (requestId : String) (errorCode : ErrorCode) (description : String)
    (details : Option Json) : List Attempt × Option GoError :=
  match Endpoint.createCallError s.lib s.validationEnabled requestId errorCode description
      details with
  | .error err => (attempts, some err)
  | .ok callError => s.write attempts requestId (.callError callError)

/-- The error `HandleFailedResponseError` reports in place of the reply that failed. -/
def responseErr (requestID : String) (err : GoError) (featureName : String) : OcppError :=
  match err with
  | .validation errors => errorFromValidation s.lib errors requestID featureName
  | .ocpp err => err
  | .plain text => newError GenericError text requestID

/-- `HandleFailedResponseError`; what becomes of the report is ignored. -/
def handleFailedResponseError (requestID : String) (err : GoError) (featureName : String) :
    List Attempt :=
  let responseErr := s.responseErr requestID err featureName
  (s.sendError attempts requestID responseErr.code responseErr.description none).1

/-- What callers do with the error of a send: report it, if there is one. -/
def reportFailure (requestID featureName : String) :
    List Attempt × Option GoError → List Attempt
  | (attempts, none) => attempts
  | (attempts, some err) => s.handleFailedResponseError attempts requestID err featureName

end Sender

end OcppGo.Ocppj
