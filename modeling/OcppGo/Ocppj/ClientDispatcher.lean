import OcppGo.Lib.Run
import OcppGo.Ocppj.Queue
import OcppGo.Ocppj.Endpoint

/-!
# The client dispatcher, one call at a time

`DefaultClientDispatcher` of `ocppj/dispatcher.go`, with each method call and
each iteration of `messagePump` as one function. The finer model, in which every
queue, state and channel operation is a step of its own, is in
`OcppGo/Ocppj/ClientSteps.lean`.

The two token channels hold one token each, and a sender waits while its channel
is full. A counter here is the token in the channel plus those of the senders
waiting for room: whenever the pump takes one, a waiting sender's token moves in.
The exception is the pump itself. It is the only receiver of `readyForDispatch`,
so when its own `CompleteRequest` finds the channel full it waits for ever, in
the middle of the iteration; the status `stuck` records that.
-/

namespace OcppGo.Ocppj

open OcppGo.Lib

/-- `RequestBundle`. -/
structure RequestBundle where
  call : Call
  data : List UInt8
deriving Repr, DecidableEq

/-- A heartbeat bundle under the given id. -/
def heartbeatBundle (id : String) : RequestBundle :=
  { call := { messageTypeId := CALL, uniqueId := id, action := heartbeat.name,
              payload := heartbeatRequest }
    data := ascii ("[2,\"" ++ id ++ "\",\"Heartbeat\",\x7b\x7d]") }

/--
A queued bundle, stamped with the number of pushes accepted before it.

The stamp is not in the source. It tells two accepted requests apart even when
every field of their bundles agrees.
-/
structure Posted where
  seq : Nat
  bundle : RequestBundle
deriving Repr, DecidableEq

/-- The id the queued request was created with. -/
def Posted.id (p : Posted) : String := p.bundle.call.uniqueId

/-- The request itself. -/
def Posted.payload (p : Posted) : Payload := p.bundle.call.payload

/-! ## The timer -/

/-- A `time.Timer`, as Go 1.16 has it: a deadline, and a channel with room for one tick. -/
structure Timer where
  /-- The duration it was last armed with, `none` once stopped or expired. -/
  armed : Option Int
  tick : Bool
deriving Repr, DecidableEq

namespace Timer

/-- `Reset`, which leaves an unread tick where it is. -/
def reset (t : Timer) (duration : Int) : Timer := { t with armed := some duration }

/-- `if !timer.Stop() { <-timer.C }`; `none` when the receive would wait for ever. -/
def stopAndDrain (t : Timer) : Option Timer :=
  match t.armed with
  | some _ => some { t with armed := none }
  | none => if t.tick then some { armed := none, tick := false } else none

/-- The deadline passes. -/
def expire (t : Timer) : Option Timer :=
  match t.armed with
  | some _ => some { armed := none, tick := true }
  | none => none

end Timer

/-- `defaultTimeoutTick`, in nanoseconds. -/
def defaultTimeoutTick : Int := 24 * 3600 * 1000000000

/-- `defaultMessageTimeout`. -/
def defaultMessageTimeout : Int := 30 * 1000000000

/-! ## The dispatcher -/

/-- Whether the pump goroutine still makes progress. -/
inductive PumpStatus where
  | running
  /-- Waiting for ever on a channel only it reads. -/
  | stuck
  /-- A nil dereference took the process down. -/
  | crashed
deriving Repr, DecidableEq

/-- What `onRequestCancel` is told. -/
structure Canceled where
  requestID : String
  request : Payload
  err : OcppError
deriving Repr

structure ClientDispatcher where
  requestQueue : FIFOClientQueue Posted
  requestChannel : Nat
  readyForDispatch : Nat
  pendingRequestState : ClientState Payload
  timer : Timer
  paused : Bool
  timeout : Int
  /-- The pump's local flag. -/
  rdy : Bool
  status : PumpStatus
  /-- How many pushes were accepted, the next stamp. -/
  accepted : Nat
  /-- Everything passed to `network.Write`, in order. -/
  written : List Posted
  /-- Every cancellation reported, in order. -/
  canceled : List Canceled

namespace ClientDispatcher

/-- `NewDefaultClientDispatcher` followed by `Start`. -/
def start (queue : FIFOClientQueue Posted) (timeout : Int) : ClientDispatcher where
  requestQueue := queue
  requestChannel := 0
  readyForDispatch := 0
  pendingRequestState := .new
  timer := { armed := some defaultTimeoutTick, tick := false }
  paused := false
  timeout := timeout
  rdy := true
  status := .running
  accepted := 0
  written := []
  canceled := []

/-- `SendRequest` with a network client set. -/
def sendRequest (d : ClientDispatcher) (req : RequestBundle) : Except String ClientDispatcher :=
  match d.requestQueue.push { seq := d.accepted, bundle := req } with
  | .error text => .error text
  | .ok q =>
      .ok { d with
        requestQueue := q, accepted := d.accepted + 1, requestChannel := d.requestChannel + 1 }

/-- Pop the head and free its slot, up to the send on `readyForDispatch`. -/
def popRequest (d : ClientDispatcher) (requestId : String) : ClientDispatcher :=
  { d with
    requestQueue := d.requestQueue.pop
    pendingRequestState := d.pendingRequestState.deletePendingRequest requestId }

/-- Whether `CompleteRequest` gets past its two checks. -/
def matchesHead (d : ClientDispatcher) (requestId : String) : Bool :=
  match d.requestQueue.peek with
  | none => false
  | some p => p.id == requestId

/-- `CompleteRequest`, called from outside the pump. -/
def completeRequest (d : ClientDispatcher) (requestId : String) : ClientDispatcher :=
  if d.matchesHead requestId then
    { d.popRequest requestId with readyForDispatch := d.readyForDispatch + 1 }
  else d

/-- The pump calls `CompleteRequest`, then reports the cancellation. -/
def cancelRequest (d : ClientDispatcher) (p : Posted) (code : ErrorCode) (description : String) :
    ClientDispatcher :=
  if d.matchesHead p.id ∧ 0 < d.readyForDispatch then
    { d.popRequest p.id with status := .stuck }
  else
    { d.completeRequest p.id with
      canceled := d.canceled ++
        [{ requestID := p.id, request := p.payload, err := newError code description p.id }] }

/-- `dispatchNextRequest`; `write` is the error `network.Write` returns. -/
def dispatchNextRequest (d : ClientDispatcher) (write : Option String) : ClientDispatcher :=
  match d.requestQueue.peek with
  | none => { d with status := .crashed }
  | some p =>
      let d := { d with
        pendingRequestState := d.pendingRequestState.addPendingRequest p.id p.payload
        written := d.written ++ [p] }
      match write with
      | none => d
      | some text => d.cancelRequest p InternalError text

/-- The end of a dispatching iteration: `rdy = false` and the response timeout. -/
def armTimeout (d : ClientDispatcher) : ClientDispatcher :=
  match d.timer.stopAndDrain with
  | none => { d with rdy := false, status := .stuck }
  | some t => { d with rdy := false, timer := t.reset d.timeout }

/-- The body of the loop after the `select`. -/
def dispatchIfReady (d : ClientDispatcher) (write : Option String) : ClientDispatcher :=
  if d.status ≠ .running then d
  else if d.paused then d
  else if d.rdy && !d.requestQueue.isEmpty then
    let d := d.dispatchNextRequest write
    if d.status = .running then d.armTimeout else d
  else d

/-- Cancel the head, when the slot says that a request is pending. -/
def cancelTimedOut (d : ClientDispatcher) : ClientDispatcher :=
  if d.pendingRequestState.hasPendingRequest then
    match d.requestQueue.peek with
    | none => { d with status := .crashed }
    | some p => d.cancelRequest p GenericError "Request timed out"
  else d

/-- The timer branch of the `select`, after the tick was received. -/
def onTimeout (d : ClientDispatcher) : ClientDispatcher :=
  if d.cancelTimedOut.status = .running then
    { d.cancelTimedOut with timer := d.cancelTimedOut.timer.reset defaultTimeoutTick }
  else d.cancelTimedOut

/-- The branches of the pump's `select`, the one for a closed channel apart. -/
inductive Select where
  | request
  | timer
  | ready
deriving Repr, DecidableEq

/-- One iteration of `messagePump`; `none` while the chosen channel is empty. -/
def messagePump (d : ClientDispatcher) (sel : Select) (write : Option String) :
    Option ClientDispatcher :=
  match sel with
  | .request =>
      if 0 < d.requestChannel then
        some ({ d with requestChannel := d.requestChannel - 1 }.dispatchIfReady write)
      else none
  | .timer =>
      if d.timer.tick then
        some ({ d with timer := { d.timer with tick := false } }.onTimeout.dispatchIfReady write)
      else none
  | .ready =>
      if 0 < d.readyForDispatch then
        some ({ d with readyForDispatch := d.readyForDispatch - 1, rdy := true
          }.dispatchIfReady write)
      else none

/-- `Pause`; `none` when draining the timer would wait for ever. -/
def pause (d : ClientDispatcher) : Option ClientDispatcher :=
  match d.timer.stopAndDrain with
  | none => none
  | some t => some { d with timer := t.reset defaultTimeoutTick, paused := true }

/-- `Resume`. -/
def resume (d : ClientDispatcher) : ClientDispatcher :=
  if d.pendingRequestState.hasPendingRequest then
    { d with paused := false, timer := d.timer.reset d.timeout }
  else
    { d with paused := false, readyForDispatch := d.readyForDispatch + 1 }

/-! ## Runs of the dispatcher on its own -/

/-- The calls on a started dispatcher, an iteration of its pump, and the passing of a deadline. -/
inductive Action where
  | sendRequest (req : RequestBundle)
  | completeRequest (requestId : String)
  | pause
  | resume
  | timerExpires
  | messagePump (sel : Select) (write : Option String)

/-- Each action as one step; a request has a usable id, and a crash ends the run. -/
def act (d : ClientDispatcher) (a : Action) : Option ClientDispatcher :=
  if d.status = .crashed then none
  else
    match a with
    | .sendRequest req =>
        if req.call.uniqueId = "" then none
        else
          match d.sendRequest req with
          | .error _ => some d
          | .ok d' => some d'
    | .completeRequest requestId => some (d.completeRequest requestId)
    | .pause => d.pause
    | .resume => some d.resume
    | .timerExpires => d.timer.expire.map (fun t => { d with timer := t })
    | .messagePump sel write => if d.status = .running then d.messagePump sel write else none

/-- All runs of one dispatcher between `Start` and `Stop`, whatever is queued at the start. -/
def machine : Machine ClientDispatcher Action where
  init := fun d => ∃ queue timeout, d = start queue timeout
  act := act

end ClientDispatcher

end OcppGo.Ocppj
