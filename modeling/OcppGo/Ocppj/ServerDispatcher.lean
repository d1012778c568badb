import OcppGo.Ocppj.ClientDispatcher

/-!
# The server dispatcher

`DefaultServerDispatcher` of `ocppj/dispatcher.go`. One pump serves all clients.
Its channels carry client ids, and it decides whether a client may be sent to
from the client's timeout context rather than from its pending request. Three of
its variables outlive an iteration and are shared by all clients: the flag `rdy`,
the queue `clientQueue`, and the map of timeout contexts.

A channel is the list of the ids in it and of those whose senders wait for room.
As on the client side, the pump is the only reader of `readyForDispatch`, so its
own send waits for ever when that channel is full.
-/

namespace OcppGo.Ocppj

open Lib

/-- An active `clientTimeoutContext`, by the number of the goroutine that waits for it. -/
abbrev ContextId := Nat

/-- What `onRequestCancel` is told. -/
structure Cancellation where
  clientID : String
  request : Posted
  err : OcppError

/-- What the pump's `select` received, and from whom. -/
inductive ServerSelect where
  | request (clientID : String)
  | timer (clientID : String)
  | ready (clientID : String)
deriving Repr, DecidableEq

def ServerSelect.clientID : ServerSelect → String
  | .request c => c
  | .timer c => c
  | .ready c => c

structure ServerDispatcher where
  queueMap : FIFOQueueMap Posted
  requestChannel : List String
  readyForDispatch : List String
  timerC : List String
  pendingRequestState : ServerState Payload
  timeout : Int
  /-- The pump's map; the inner `none` is the zero context, which is not active. -/
  clientContextMap : String → Option (Option ContextId)
  rdy : Bool
  clientQueue : Option QueueRef
  /-- The number of the next `waitForTimeout` goroutine. -/
  nextContext : ContextId
  /-- The goroutines in `waitForTimeout` whose context is still live. -/
  waiting : List (String × ContextId)
  /-- Those whose deadline has passed, at the send on `timerC`. -/
  expired : List String
  status : PumpStatus
  /-- How many pushes were accepted, the next stamp. -/
  accepted : Nat
  /-- Everything passed to `network.Write`, in order. -/
  written : List (String × Posted)
  /-- Every cancellation reported, in order. -/
  canceled : List Cancellation

namespace ServerDispatcher

/-- `NewDefaultServerDispatcher` followed by `Start`. -/
def start (queueCapacity : Nat) (timeout : Int) : ServerDispatcher where
  queueMap := .new queueCapacity
  requestChannel := []
  readyForDispatch := []
  timerC := []
  pendingRequestState := .new
  timeout := timeout
  clientContextMap := fun _ => none
  rdy := false
  clientQueue := none
  nextContext := 0
  waiting := []
  expired := []
  status := .running
  accepted := 0
  written := []
  canceled := []

/-- `isActive` of the client's entry; a missing entry is the zero context. -/
def isActive (d : ServerDispatcher) (clientID : String) : Bool :=
  match d.clientContextMap clientID with
  | some (some _) => true
  | _ => false

/-! ## What the other goroutines do -/

/-- `CreateClient` of a running dispatcher. -/
def createClient (d : ServerDispatcher) (clientID : String) : ServerDispatcher :=
  { d with queueMap := d.queueMap.getOrCreate clientID }

/-- `DeleteClient` of a running dispatcher. -/
def deleteClient (d : ServerDispatcher) (clientID : String) : ServerDispatcher :=
  { d with
    queueMap := d.queueMap.remove clientID
    -- the token makes the pump drop the client's context
    requestChannel := d.requestChannel ++ [clientID] }

/-- `SendRequest` after its `Get`: the push onto the queue it got, and the send. -/
def pushTo (d : ServerDispatcher) (clientID : String) (r : QueueRef) (req : RequestBundle) :
    Except String ServerDispatcher :=
  match (d.queueMap.deref r).push { seq := d.accepted, bundle := req } with
  | .error text => .error text
  | .ok q =>
      .ok { d with
        queueMap := d.queueMap.store r q
        accepted := d.accepted + 1
        requestChannel := d.requestChannel ++ [clientID] }

/-- The error of `SendRequest` for a client without a queue. -/
def noClientError (requestID clientID : String) : String :=
  "cannot send request " ++ requestID ++ ", no client " ++ clientID ++ " exists"

/-- `SendRequest` with a network server set. -/
def sendRequest (d : ServerDispatcher) (clientID : String) (req : RequestBundle) :
    Except String ServerDispatcher :=
  match d.queueMap.get clientID with
  | none => .error (noClientError req.call.uniqueId clientID)
  | some r => d.pushTo clientID r req

/-- The head of the client's queue, when `CompleteRequest` would remove it. -/
def matchesHead (d : ServerDispatcher) (clientID requestID : String) : Option QueueRef :=
  match d.queueMap.get clientID with
  | none => none
  | some r =>
      match (d.queueMap.deref r).peek with
      | none => none
      | some p => if p.id ≠ requestID then none else some r

/-- What `CompleteRequest` logs when it gives up, in the order of its checks. -/
def completeRequestError (d : ServerDispatcher) (clientID requestID : String) : Option String :=
  match d.queueMap.get clientID with
  | none =>
      some ("attempting to complete request for client " ++ clientID
        ++ ", but no matching queue found")
  | some r =>
      match (d.queueMap.deref r).peek with
      | none => some "attempting to pop front of queue, but queue is empty"
      | some p =>
          if p.id ≠ requestID then
            some ("internal state mismatch: processing response for " ++ requestID
              ++ " but expected response for " ++ p.id)
          else none

/-- `CompleteRequest`. -/
def completeRequest (d : ServerDispatcher) (clientID requestID : String) : ServerDispatcher :=
  match d.matchesHead clientID requestID with
  | none => d
  | some r =>
      { d with
        queueMap := d.queueMap.store r (d.queueMap.deref r).pop
        pendingRequestState := d.pendingRequestState.deletePendingRequest clientID requestID
        readyForDispatch := d.readyForDispatch ++ [clientID] }

/-- A deadline passes before anybody cancels the context. -/
def deadlineExceeded (d : ServerDispatcher) (clientID : String) (ctx : ContextId) :
    Option ServerDispatcher :=
  if (clientID, ctx) ∈ d.waiting then
    some { d with
      waiting := d.waiting.filter (fun w => w.2 ≠ ctx)
      expired := d.expired ++ [clientID] }
  else none

/-- `waitForTimeout` sends the id, some time after the deadline. -/
def notifyTimeout (d : ServerDispatcher) (clientID : String) : Option ServerDispatcher :=
  if clientID ∈ d.expired then
    some { d with expired := d.expired.erase clientID, timerC := d.timerC ++ [clientID] }
  else none

/-! ## The pump -/

/-- `cancel()` of an active context: its goroutine ends without a token. -/
def cancelGoroutine (d : ServerDispatcher) (clientID : String) : List (String × ContextId) :=
  match d.clientContextMap clientID with
  | some (some ctx) => d.waiting.filter (fun w => w.2 ≠ ctx)
  | _ => d.waiting

/-- Cancel the client's context, if it is active, and store the zero context. -/
def cancelContext (d : ServerDispatcher) (clientID : String) : ServerDispatcher :=
  if d.isActive clientID then
    { d with
      waiting := d.cancelGoroutine clientID
      clientContextMap := Function.update d.clientContextMap clientID (some none) }
  else d

/--
The pump's own `CompleteRequest` and the cancel callback after it. With `bounded`
channels the pump goes no further when it finds an id in the ready channel, be it one
that it sent earlier in the same iteration.
-/
def cancelRequest (d : ServerDispatcher) (bounded : Bool) (clientID : String) (p : Posted)
    (code : ErrorCode) (description : String) : ServerDispatcher :=
  if bounded && !d.readyForDispatch.isEmpty && (d.matchesHead clientID p.id).isSome then
    { d.completeRequest clientID p.id with status := .stuck }
  else
    { d.completeRequest clientID p.id with
      canceled := d.canceled
        ++ [{ clientID := clientID, request := p, err := newError code description p.id }] }

/-- The first branch of the `select`. Without a queue, `clientQueue` becomes nil. -/
def onRequest (d : ServerDispatcher) (clientID : String) : ServerDispatcher :=
  match d.queueMap.get clientID with
  | none =>
      -- the client was removed, and its context goes with it
      { d with
        clientQueue := none
        waiting := d.cancelGoroutine clientID
        clientContextMap := Function.update d.clientContextMap clientID none }
  -- a client the map does not know is as ready as one with the zero context
  | some r => { d with clientQueue := some r, rdy := !d.isActive clientID }

/-- The pending request of the client timed out. -/
def cancelTimedOut (d : ServerDispatcher) (bounded : Bool) (clientID : String) :
    ServerDispatcher :=
  match d.queueMap.get clientID with
  -- `Peek` of a nil queue
  | none => { d with status := .crashed }
  | some r =>
      match (d.queueMap.deref r).peek with
      -- an empty queue gives a bundle without a call, and its id is read
      | none => { d with status := .crashed }
      | some p => d.cancelRequest bounded clientID p GenericError "Request timed out"

/-- The second branch. -/
def onTimer (d : ServerDispatcher) (bounded : Bool) (clientID : String) : ServerDispatcher :=
  -- `rdy` and `clientQueue` keep what an earlier iteration left in them
  if d.pendingRequestState.hasPendingRequest clientID then
    (d.cancelContext clientID).cancelTimedOut bounded clientID
  else d.cancelContext clientID

/-- The third branch. -/
def onReady (d : ServerDispatcher) (clientID : String) : ServerDispatcher :=
  { d.cancelContext clientID with
    -- a missing queue leaves `rdy` as it was
    clientQueue := d.queueMap.get clientID
    rdy := (d.queueMap.get clientID).isSome || d.rdy }

def onSelect (d : ServerDispatcher) (bounded : Bool) : ServerSelect → ServerDispatcher
  | .request c => d.onRequest c
  | .timer c => d.onTimer bounded c
  | .ready c => d.onReady c

/--
`dispatchNextRequest` and what the loop does with the context it returns; `write`
is the error `network.Write` returns.
-/
def dispatchNextRequest (d : ServerDispatcher) (bounded : Bool) (clientID : String)
    (write : Option String) : ServerDispatcher :=
  match d.queueMap.get clientID with
  | none =>
      -- the queue the test looked at may be that of another client
      { d with
        clientContextMap := Function.update d.clientContextMap clientID (some none)
        rdy := false }
  | some r =>
      match (d.queueMap.deref r).peek with
      | none => { d with status := .crashed }
      | some p =>
          -- marked before it is written, whatever the slot held
          let sent := { d with
            pendingRequestState :=
              d.pendingRequestState.addPendingRequest clientID p.id p.payload
            written := d.written ++ [(clientID, p)] }
          match write with
          | some text =>
              { sent.cancelRequest bounded clientID p InternalError text with
                clientContextMap := Function.update d.clientContextMap clientID (some none)
                rdy := false }
          | none =>
              -- with no timeout set the zero context is stored, which counts as inactive
              if 0 < d.timeout then
                { sent with
                  clientContextMap :=
                    Function.update d.clientContextMap clientID (some (some d.nextContext))
                  waiting := d.waiting ++ [(clientID, d.nextContext)]
                  nextContext := d.nextContext + 1
                  rdy := false }
              else
                { sent with
                  clientContextMap := Function.update d.clientContextMap clientID (some none)
                  rdy := false }

/-- The test after the `select`: `rdy && clientQueue != nil && !clientQueue.IsEmpty()`. -/
def dispatches (d : ServerDispatcher) : Bool :=
  match d.clientQueue with
  | none => false
  | some r => d.rdy && !(d.queueMap.deref r).isEmpty

/-- The end of an iteration, unless the pump hangs or the process is gone. -/
def dispatchIfReady (d : ServerDispatcher) (bounded : Bool) (clientID : String)
    (write : Option String) : ServerDispatcher :=
  if d.status = .running ∧ d.dispatches = true then
    d.dispatchNextRequest bounded clientID write
  else d

/--
One iteration of `messagePump`. The `continue` of the first branch needs no case
of its own: `clientQueue` is nil then, and nothing is dispatched.
-/
def messagePump (d : ServerDispatcher) (bounded : Bool) (sel : ServerSelect)
    (write : Option String) : ServerDispatcher :=
  (d.onSelect bounded sel).dispatchIfReady bounded sel.clientID write

/-- The `select` takes an id from one of the channels. -/
def receive (d : ServerDispatcher) : ServerSelect → Option ServerDispatcher
  | .request c =>
      if c ∈ d.requestChannel then
        some { d with requestChannel := d.requestChannel.erase c }
      else none
  | .timer c =>
      if c ∈ d.timerC then some { d with timerC := d.timerC.erase c } else none
  | .ready c =>
      if c ∈ d.readyForDispatch then
        some { d with readyForDispatch := d.readyForDispatch.erase c }
      else none

/-- An iteration with the channels as they are. -/
def pump (d : ServerDispatcher) (sel : ServerSelect) (write : Option String) :
    Option ServerDispatcher :=
  if d.status = .running then
    (d.receive sel).map fun d' => d'.messagePump true sel write
  else none

/-! ## The pump as a function of its events

The same operations with the channels left out: what the pump receives, and when,
is an input.
-/

/-- An operation on the queues or the pending state, or an iteration of the pump. -/
inductive Event where
  | createClient (clientID : String)
  | deleteClient (clientID : String)
  /-- `ClearClientPendingRequest` of the pending state. -/
  | clearPending (clientID : String)
  | sendRequest (clientID : String) (req : RequestBundle)
  | completeRequest (clientID requestID : String)
  | select (sel : ServerSelect) (write : Option String)

/-- The one client an event names. -/
def Event.clientID : Event → String
  | .createClient c => c
  | .deleteClient c => c
  | .clearPending c => c
  | .sendRequest c _ => c
  | .completeRequest c _ => c
  | .select sel _ => sel.clientID

/-- What an event does; nothing happens once the process has crashed. -/
def onEvent (d : ServerDispatcher) (e : Event) : ServerDispatcher :=
  if d.status = .running then
    match e with
    | .createClient c => d.createClient c
    | .deleteClient c => d.deleteClient c
    | .clearPending c =>
        { d with pendingRequestState := d.pendingRequestState.clearClientPendingRequest c }
    | .sendRequest c req =>
        match d.sendRequest c req with
        | .error _ => d
        | .ok d' => d'
    | .completeRequest c rid => d.completeRequest c rid
    | .select sel write => d.messagePump false sel write
  else d

def onEvents (d : ServerDispatcher) (es : List Event) : ServerDispatcher := es.foldl onEvent d

end ServerDispatcher

end OcppGo.Ocppj
