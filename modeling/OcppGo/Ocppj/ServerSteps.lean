import OcppGo.Ocppj.ServerDispatcher
import OcppGo.Lib.Run

/-!
# The server dispatcher, one operation at a time

The same code as in `OcppGo/Ocppj/ServerDispatcher.lean`, with every call of a
method of the queue map, of a queue or of the pending state, and every channel
operation, as a step of its own. The pump and any number of other goroutines take
steps in any order:

* calls of `SendRequest`;
* readers, which call `CompleteRequest` for the replies they let through, with
  whatever id, and then the response or error handler;
* `onClientDisconnected` of `ocppj/server.go`, which deletes the client's queue
  and clears its pending request afterwards;
* the `waitForTimeout` goroutines the pump starts.

The channels are queues with their real capacities, so a send waits while its
channel is full. The dispatcher's mutex is added in
`OcppGo/Ocppj/ServerLocks.lean`.
-/

namespace OcppGo.Ocppj

open Lib

/-- The operations of `CompleteRequest` that are still to be done. -/
inductive ServerCompleting where
  /-- `queueMap.Get`. -/
  | get
  /-- `Peek`, and the comparison with the id. -/
  | peek (r : QueueRef)
  | pop (r : QueueRef)
  /-- `DeletePendingRequest`. -/
  | delete
  /-- The send on `readyForDispatch`. -/
  | ready
deriving Repr, DecidableEq

/-- Where the pump stands. -/
inductive ServerPumpPC where
  /-- The head of the loop: `reqChan()`. -/
  | reqChan
  | select
  /-- The request branch: `queueMap.Get`. -/
  | requestGet (c : String)
  /-- The timer branch: `HasPendingRequest`. -/
  | hasPending (c : String)
  /-- `queueMap.Get`; the code does not know the id that was pending. -/
  | timeoutGet (c pending : String)
  | timeoutPeek (c : String) (r : QueueRef) (pending : String)
  /-- `CompleteRequest` in the timer branch. -/
  | timedOut (c : String) (p : Posted) (k : ServerCompleting)
  | reportTimedOut (c : String) (p : Posted)
  /-- The ready branch: `queueMap.Get`. -/
  | readyGet (c : String)
  /-- After the `select`: the test of `rdy` and `clientQueue`. -/
  | test (c : String)
  /-- `dispatchNextRequest`: `queueMap.Get`. -/
  | dispatchGet (c : String)
  | dispatchPeek (c : String) (r : QueueRef)
  | addPending (c : String) (p : Posted)
  | write (c : String) (p : Posted)
  /-- `CompleteRequest` after a failed `Write`. -/
  | failed (c : String) (p : Posted) (text : String) (k : ServerCompleting)
  | reportFailed (c : String) (p : Posted) (text : String)
  /-- A nil dereference took the process down. -/
  | crashed

/-- Where a goroutine other than the pump stands. -/
inductive ServerCall where
  | returned
  /-- `SendRequest` returned an error, and nothing was queued. -/
  | refused
  /-- `SendRequest`: `queueMap.Get`, `Push`, then the send on `requestChannel`. -/
  | sendGet (c : String) (req : RequestBundle)
  | push (c : String) (r : QueueRef) (req : RequestBundle)
  | signal (c : String)
  /-- `CompleteRequest`, called by a reader. -/
  | completing (c id : String) (k : ServerCompleting)
  /-- The reader after `CompleteRequest`, at the call of the response or error handler. -/
  | handling (c id : String)
  /-- `onClientDisconnected`: `Remove`, the send of `DeleteClient`, then the clear. -/
  | remove (c : String)
  | removeSignal (c : String)
  | clear (c : String)
  /-- `waitForTimeout`, waiting for its context. -/
  | waiting (c : String)
  /-- `waitForTimeout` after the deadline, at the send on `timerC`. -/
  | expired (c : String)

/-- A goroutine is started from outside. -/
inductive ServerOperation where
  | sendRequest (c : String) (req : RequestBundle)
  | completeRequest (c id : String)
  | onClientDisconnected (c : String)

def ServerOperation.entry : ServerOperation → ServerCall
  | .sendRequest c req => .sendGet c req
  | .completeRequest c id => .completing c id .get
  | .onClientDisconnected c => .remove c

structure ServerSteps where
  queueMap : FIFOQueueMap Posted
  pendingRequestState : ServerState Payload
  requestChannel : List String
  readyForDispatch : List String
  timerC : List String
  timeout : Int
  /-- The pump's map; an active context is the number of the call that waits for it. -/
  clientContextMap : String → Option (Option Nat)
  rdy : Bool
  clientQueue : Option QueueRef
  pump : ServerPumpPC
  /-- Every goroutine started so far. -/
  calls : List ServerCall
  /-- How many pushes were accepted, the next stamp. -/
  accepted : Nat
  /-- Everything `network.Write` took without an error, in order. -/
  sent : List (String × Posted)
  /-- Every cancellation reported, in order. -/
  canceled : List Cancellation

namespace ServerSteps

/-- The capacity of `requestChannel`. -/
def requestCapacity : Nat := 20

/-- The capacity of `timerC`. -/
def timerCapacity : Nat := 10

/-- `NewDefaultServerDispatcher` followed by `Start`. -/
def start (queueCapacity : Nat) (timeout : Int) : ServerSteps where
  queueMap := .new queueCapacity
  pendingRequestState := .new
  requestChannel := []
  readyForDispatch := []
  timerC := []
  timeout := timeout
  clientContextMap := fun _ => none
  rdy := false
  clientQueue := none
  pump := .reqChan
  calls := []
  accepted := 0
  sent := []
  canceled := []

def setCall (s : ServerSteps) (t : Nat) (pc : ServerCall) : ServerSteps :=
  { s with calls := s.calls.set t pc }

/-! ## `CompleteRequest` -/

/--
One operation of `CompleteRequest(c, id)`: the state afterwards, and what is left
to do, `none` when the call returns. The whole is `none` while a send waits.
-/
def complete (s : ServerSteps) (c id : String) :
    ServerCompleting → Option (ServerSteps × Option ServerCompleting)
  | .get =>
      match s.queueMap.get c with
      | none => some (s, none)
      | some r => some (s, some (.peek r))
  | .peek r =>
      match (s.queueMap.deref r).peek with
      | none => some (s, none)
      | some p => if p.id ≠ id then some (s, none) else some (s, some (.pop r))
  -- whatever is at the head by now
  | .pop r =>
      some ({ s with queueMap := s.queueMap.store r (s.queueMap.deref r).pop }, some .delete)
  | .delete =>
      some ({ s with
        pendingRequestState := s.pendingRequestState.deletePendingRequest c id }, some .ready)
  -- the channel has room for one token
  | .ready =>
      if s.readyForDispatch = [] then some ({ s with readyForDispatch := [c] }, none) else none

/-! ## The pump -/

/-- `isActive` of the client's context. -/
def activeContext (s : ServerSteps) (c : String) : Option Nat :=
  match s.clientContextMap c with
  | some (some t) => some t
  | _ => none

/-- `cancel()` of a context: its goroutine ends, unless its deadline has passed already. -/
def cancelWaiting (s : ServerSteps) (t : Nat) : ServerSteps :=
  match s.calls[t]? with
  | some (.waiting _) => s.setCall t .returned
  | _ => s

/-- Cancel the client's context, if it is active, and store the zero context. -/
def cancelContext (s : ServerSteps) (c : String) : ServerSteps :=
  match s.activeContext c with
  | none => s
  | some t =>
      { s.cancelWaiting t with
        clientContextMap := Function.update s.clientContextMap c (some none) }

/-- The client was removed, and its context goes with it. -/
def dropContext (s : ServerSteps) (c : String) : ServerSteps :=
  match s.activeContext c with
  | none => { s with clientContextMap := Function.update s.clientContextMap c none }
  | some t =>
      { s.cancelWaiting t with
        clientContextMap := Function.update s.clientContextMap c none }

/-- The pump's `select` takes an id from a channel. -/
def select (s : ServerSteps) (sel : ServerSelect) : Option ServerSteps :=
  match s.pump, sel with
  | .select, .request c =>
      if s.requestChannel.head? = some c then
        some { s with requestChannel := s.requestChannel.tail, pump := .requestGet c }
      else none
  | .select, .timer c =>
      if s.timerC.head? = some c then
        some { s.cancelContext c with timerC := s.timerC.tail, pump := .hasPending c }
      else none
  | .select, .ready c =>
      if s.readyForDispatch.head? = some c then
        some { s.cancelContext c with
          readyForDispatch := s.readyForDispatch.tail, pump := .readyGet c }
      else none
  | _, _ => none

/-- The test after the `select`: `rdy && clientQueue != nil && !clientQueue.IsEmpty()`. -/
def dispatches (s : ServerSteps) : Bool :=
  match s.clientQueue with
  | none => false
  | some r => s.rdy && !(s.queueMap.deref r).isEmpty

/-- The context `dispatchNextRequest` returns is stored, and `rdy` lowered. -/
def endDispatch (s : ServerSteps) (c : String) : ServerSteps :=
  { s with
    clientContextMap := Function.update s.clientContextMap c (some none)
    rdy := false
    pump := .reqChan }

/-- A successful `Write`: with a timeout set, a goroutine waits for it. -/
def written (s : ServerSteps) (c : String) (p : Posted) : ServerSteps :=
  let s := { s with sent := s.sent ++ [(c, p)] }
  if 0 < s.timeout then
    { s with
      clientContextMap := Function.update s.clientContextMap c (some (some s.calls.length))
      calls := s.calls ++ [.waiting c]
      rdy := false
      pump := .reqChan }
  else s.endDispatch c

/-- What `onRequestCancel` is told in the timer branch. -/
def timedOutReport (c : String) (p : Posted) : Cancellation :=
  { clientID := c, request := p, err := newError GenericError "Request timed out" p.id }

/-- What `onRequestCancel` is told after a failed `Write`. -/
def failedReport (c : String) (p : Posted) (text : String) : Cancellation :=
  { clientID := c, request := p, err := newError InternalError text p.id }

/-- Continue a `CompleteRequest` of the pump: `k` while it runs, `done` once it returned. -/
def pumpComplete (s : ServerSteps) (c id : String) (k : ServerCompleting)
    (next : ServerCompleting → ServerPumpPC) (done : ServerPumpPC) : Option ServerSteps :=
  (s.complete c id k).map fun r =>
    match r.2 with
    | none => { r.1 with pump := done }
    | some k' => { r.1 with pump := next k' }

/-- The pump's next operation; `write` is the error `network.Write` returns. -/
def pumpStep (s : ServerSteps) (write : Option String) : Option ServerSteps :=
  match s.pump with
  | .reqChan => some { s with pump := .select }
  | .select => none
  | .requestGet c =>
      match s.queueMap.get c with
      | none => some { s.dropContext c with clientQueue := none, pump := .reqChan }
      -- a client the map does not know is as ready as one with the zero context
      | some r =>
          some { s with
            clientQueue := some r, rdy := (s.activeContext c).isNone, pump := .test c }
  | .hasPending c =>
      if s.pendingRequestState.hasPendingRequest c then
        some { s with
          pump := .timeoutGet c (s.pendingRequestState.clientState c).requestID }
      -- `rdy` and `clientQueue` keep what an earlier iteration left in them
      else some { s with pump := .test c }
  | .timeoutGet c pending =>
      match s.queueMap.get c with
      -- `Peek` of a nil queue
      | none => some { s with pump := .crashed }
      | some r => some { s with pump := .timeoutPeek c r pending }
  | .timeoutPeek c r _ =>
      match (s.queueMap.deref r).peek with
      -- an empty queue gives a bundle without a call, and its id is read
      | none => some { s with pump := .crashed }
      | some p => some { s with pump := .timedOut c p .get }
  | .timedOut c p k => s.pumpComplete c p.id k (fun k' => .timedOut c p k') (.reportTimedOut c p)
  | .reportTimedOut c p =>
      some { s with canceled := s.canceled ++ [timedOutReport c p], pump := .test c }
  | .readyGet c =>
      some { s with
        clientQueue := s.queueMap.get c
        -- a missing queue leaves `rdy` as it was
        rdy := (s.queueMap.get c).isSome || s.rdy
        pump := .test c }
  | .test c =>
      if s.dispatches then some { s with pump := .dispatchGet c }
      else some { s with pump := .reqChan }
  | .dispatchGet c =>
      match s.queueMap.get c with
      -- the queue the test looked at may be that of another client
      | none => some (s.endDispatch c)
      | some r => some { s with pump := .dispatchPeek c r }
  | .dispatchPeek c r =>
      match (s.queueMap.deref r).peek with
      | none => some { s with pump := .crashed }
      | some p => some { s with pump := .addPending c p }
  | .addPending c p =>
      some { s with
        pendingRequestState := s.pendingRequestState.addPendingRequest c p.id p.payload
        pump := .write c p }
  | .write c p =>
      match write with
      | none => some (s.written c p)
      | some text => some { s with pump := .failed c p text .get }
  | .failed c p text k =>
      s.pumpComplete c p.id k (fun k' => .failed c p text k') (.reportFailed c p text)
  | .reportFailed c p text =>
      some (endDispatch { s with canceled := s.canceled ++ [failedReport c p text] } c)
  | .crashed => none

/-! ## The other goroutines -/

/-- The next operation of call `t`, which stands at `pc`. -/
def callStep (s : ServerSteps) (t : Nat) (pc : ServerCall) : Option ServerSteps :=
  match pc with
  | .returned => none
  | .refused => none
  | .sendGet c req =>
      match s.queueMap.get c with
      | none => some (s.setCall t .refused)
      | some r => some (s.setCall t (.push c r req))
  | .push c r req =>
      match (s.queueMap.deref r).push { seq := s.accepted, bundle := req } with
      | .error _ => some (s.setCall t .refused)
      | .ok q =>
          some ({ s with
            queueMap := s.queueMap.store r q, accepted := s.accepted + 1 }.setCall t (.signal c))
  | .signal c =>
      if s.requestChannel.length < requestCapacity then
        some ({ s with requestChannel := s.requestChannel ++ [c] }.setCall t .returned)
      else none
  | .completing c id k =>
      (s.complete c id k).map fun r =>
        match r.2 with
        | none => r.1.setCall t (.handling c id)
        | some k' => r.1.setCall t (.completing c id k')
  | .handling _ _ => some (s.setCall t .returned)
  | .remove c => some ({ s with queueMap := s.queueMap.remove c }.setCall t (.removeSignal c))
  | .removeSignal c =>
      if s.requestChannel.length < requestCapacity then
        some ({ s with requestChannel := s.requestChannel ++ [c] }.setCall t (.clear c))
      else none
  | .clear c =>
      some (setCall { s with
        pendingRequestState := s.pendingRequestState.clearClientPendingRequest c } t .returned)
  -- the deadline passes before anybody cancels the context
  | .waiting c => some (s.setCall t (.expired c))
  | .expired c =>
      if s.timerC.length < timerCapacity then
        some ({ s with timerC := s.timerC ++ [c] }.setCall t .returned)
      else none

/-! ## Runs -/

inductive Action where
  | select (sel : ServerSelect)
  | pump (write : Option String)
  | start (op : ServerOperation)
  | call (t : Nat)
  | createClient (c : String)
  /-- `GetClientState`, by a reader. -/
  | getClientState (c : String)

/-- One step, by any goroutine; nothing happens once the process has crashed. -/
def act (s : ServerSteps) (a : Action) : Option ServerSteps :=
  match s.pump with
  | .crashed => none
  | _ =>
      match a with
      | .select sel => s.select sel
      | .pump write => s.pumpStep write
      | .start op => some { s with calls := s.calls ++ [op.entry] }
      | .call t => s.calls[t]?.bind (s.callStep t)
      | .createClient c => some { s with queueMap := s.queueMap.getOrCreate c }
      | .getClientState c =>
          some { s with pendingRequestState := (s.pendingRequestState.getClientState c).1 }

/-- All runs of a started dispatcher, without `Stop`. -/
def machine (queueCapacity : Nat) (timeout : Int) : Machine ServerSteps Action where
  init := fun s => s = start queueCapacity timeout
  act := act

/-! ## Some sequences of steps -/

/-- `SendRequest`, as call number `t`, runs to its end. -/
def sending (t : Nat) (c id : String) : List Action :=
  [.start (.sendRequest c (heartbeatBundle id)), .call t, .call t, .call t]

/-- A reader completes the head of a queue, as call number `t`. -/
def answering (t : Nat) (c id : String) : List Action :=
  .start (.completeRequest c id) :: List.replicate 5 (.call t)

/-- A disconnection, as call number `t`, runs to its end. -/
def disconnecting (t : Nat) (c : String) : List Action :=
  [.start (.onClientDisconnected c), .call t, .call t, .call t]

/-- The pump takes the token of a request, and goes as far as its `Write`. -/
def dispatching (c : String) : List Action :=
  [.pump none, .select (.request c)] ++ List.replicate 5 (.pump none)

/-- The pump takes a request token, and returns to its `select` without a dispatch. -/
def passingOver (c : String) : List Action :=
  [.pump none, .select (.request c), .pump none, .pump none]

/-- The deadline call `t` waits for passes, and the pump finds nothing pending. -/
def expiring (t : Nat) (c : String) : List Action :=
  [.call t, .call t, .pump none, .select (.timer c), .pump none, .pump none, .pump none]

/-- The pump takes an expiry, and cancels the request it finds pending. -/
def timingOut (c : String) : List Action :=
  [.pump none, .select (.timer c)] ++ List.replicate 10 (.pump none)

end ServerSteps

end OcppGo.Ocppj
