import OcppGo.Ocppj.ClientDispatcher
import OcppGo.Lib.Run

/-!
# The client dispatcher, one operation at a time

The same code as in `OcppGo/Ocppj/ClientDispatcher.lean`, with every call of a
queue or state method and every channel operation as a step of its own. Three
kinds of goroutine take steps in any order:

* the **pump**, running `messagePump`;
* the **reader**, which parses one frame after the other and calls
  `CompleteRequest` and then a handler for the replies among them;
* any number of **calls** of `SendRequest`, `CompleteRequest`, `Pause` and
  `Resume` in progress at once.

Where a goroutine stands between two operations is a program counter. The
channels have their real capacity of one here, so a send waits while its channel
is full. The dispatcher's mutex is left out: it only removes interleavings.
`OcppGo/Ocppj/ClientLocks.lean` adds it.
-/

namespace OcppGo.Ocppj

open Lib

/-- The operations of `CompleteRequest` that are still to be done. -/
inductive Completing where
  /-- `Peek`, and the comparison with the id. -/
  | peek
  /-- `Pop`. -/
  | pop
  /-- `DeletePendingRequest`. -/
  | delete
  /-- The send on `readyForDispatch`. -/
  | ready
deriving Repr, DecidableEq

/-- Where the pump stands. -/
inductive PumpPC where
  | select
  /-- After the `select`: `IsPaused`, and the test of `rdy`. -/
  | isPaused
  | isEmpty
  /-- `dispatchNextRequest`: `Peek`. -/
  | peek
  | addPending (p : Posted)
  | write (p : Posted)
  /-- `CompleteRequest` after a failed `Write`. -/
  | failed (p : Posted) (text : String) (c : Completing)
  /-- `onRequestCancel` after a failed `Write`. -/
  | reportFailed (p : Posted) (text : String)
  | stopTimer
  | drainTimer
  | resetTimer
  /-- The timer branch: `HasPendingRequest`. -/
  | hasPending
  | peekTimeout
  /-- `CompleteRequest` in the timer branch. -/
  | timedOut (p : Posted) (c : Completing)
  | reportTimedOut (p : Posted)
  | resetTick
  /-- A nil dereference took the process down. -/
  | crashed

/-- Which handler a reply goes to. -/
inductive Reply where
  | response
  | error
deriving Repr, DecidableEq

/-- Where the reader stands, once `ParseMessage` has let a reply through. -/
inductive ReaderPC where
  | idle
  | completing (id : String) (kind : Reply) (c : Completing)
  /-- The call of `responseHandler` or `errorHandler`. -/
  | handler (id : String) (kind : Reply)

/-- Where a call stands. -/
inductive CallPC where
  | returned
  /-- `SendRequest` returned an error, and nothing was queued. -/
  | refused
  /-- `SendRequest`: `Push`, then the send on `requestChannel`. -/
  | push (req : RequestBundle)
  | signal
  | completing (id : String) (c : Completing)
  /-- `Pause`: `Stop`, the drain, `Reset`, and the flag. -/
  | pauseStop
  | pauseDrain
  | pauseReset
  | pauseSet
  /-- `Resume`: the flag, `HasPendingRequest`, then `Reset` or the send. -/
  | resumeSet
  | resumeTest
  | resumeReset
  | resumeReady

/-- A method call that may be made at any time, by any goroutine. -/
inductive Operation where
  | sendRequest (req : RequestBundle)
  | completeRequest (id : String)
  | pause
  | resume

/-- How a request ended, as the application was told. -/
inductive Outcome where
  | reply (kind : Reply)
  | canceled
deriving Repr, DecidableEq

structure ClientSteps where
  requestQueue : FIFOClientQueue Posted
  pendingRequestState : ClientState Payload
  requestChannel : Nat
  readyForDispatch : Nat
  timer : Timer
  paused : Bool
  timeout : Int
  rdy : Bool
  pump : PumpPC
  reader : ReaderPC
  /-- Every call made so far, in the order they were started. -/
  callers : List CallPC
  /-- How many pushes were accepted, the next stamp. -/
  accepted : Nat
  /-- Everything passed to `network.Write`, in order. -/
  written : List Posted
  /-- Everything removed from the queue, in order. -/
  popped : List Posted
  /-- What the application was told, in order. -/
  outcomes : List (String × Outcome)

namespace ClientSteps

/-- `NewDefaultClientDispatcher` followed by `Start`. -/
def start (queueCapacity : Nat) (timeout : Int) : ClientSteps where
  requestQueue := .new queueCapacity
  pendingRequestState := .new
  requestChannel := 0
  readyForDispatch := 0
  timer := { armed := some defaultTimeoutTick, tick := false }
  paused := false
  timeout := timeout
  rdy := true
  pump := .select
  reader := .idle
  callers := []
  accepted := 0
  written := []
  popped := []
  outcomes := []

/--
One operation of `CompleteRequest(id)`: the state afterwards, and what is left
to do, `none` when the call returns. The whole is `none` while a send waits.
-/
def complete (s : ClientSteps) (id : String) : Completing → Option (ClientSteps × Option Completing)
  -- the queue may have changed since the caller decided that this request is over
  | .peek =>
      match s.requestQueue.peek with
      | none => some (s, none)
      | some p => if p.id ≠ id then some (s, none) else some (s, some .pop)
  | .pop =>
      some ({ s with
        requestQueue := s.requestQueue.pop
        popped := s.popped ++ s.requestQueue.peek.toList }, some .delete)
  | .delete =>
      some ({ s with
        pendingRequestState := s.pendingRequestState.deletePendingRequest id }, some .ready)
  -- the channel has room for one token
  | .ready =>
      if s.readyForDispatch < 1 then
        some ({ s with readyForDispatch := s.readyForDispatch + 1 }, none)
      else none

/-- The pump's `select` takes a token or a tick. -/
def select (s : ClientSteps) (sel : ClientDispatcher.Select) : Option ClientSteps :=
  match s.pump, sel with
  | .select, .request =>
      if 0 < s.requestChannel then
        some { s with requestChannel := s.requestChannel - 1, pump := .isPaused }
      else none
  | .select, .timer =>
      if s.timer.tick then
        some { s with timer := { s.timer with tick := false }, pump := .hasPending }
      else none
  | .select, .ready =>
      if 0 < s.readyForDispatch then
        some { s with
          readyForDispatch := s.readyForDispatch - 1, rdy := true, pump := .isPaused }
      else none
  | _, _ => none

/-- Continue a `CompleteRequest` of the pump: `k` while it runs, `done` once it returned. -/
def pumpComplete (s : ClientSteps) (id : String) (c : Completing) (k : Completing → PumpPC)
    (done : PumpPC) : Option ClientSteps :=
  (s.complete id c).map fun r =>
    match r.2 with
    | none => { r.1 with pump := done }
    | some c' => { r.1 with pump := k c' }

/-- The pump's next operation; `write` is the error `network.Write` returns. -/
def pumpStep (s : ClientSteps) (write : Option String) : Option ClientSteps :=
  match s.pump with
  | .select => none
  | .isPaused =>
      if s.paused then some { s with pump := .select }
      else if s.rdy then some { s with pump := .isEmpty }
      else some { s with pump := .select }
  | .isEmpty =>
      if s.requestQueue.isEmpty then some { s with pump := .select }
      else some { s with pump := .peek }
  | .peek =>
      match s.requestQueue.peek with
      -- popped since `IsEmpty`: the bundle has no call, and its id is read
      | none => some { s with pump := .crashed }
      | some p => some { s with pump := .addPending p }
  | .addPending p =>
      some { s with
        pendingRequestState := s.pendingRequestState.addPendingRequest p.id p.payload
        pump := .write p }
  | .write p =>
      match write with
      | none => some { s with written := s.written ++ [p], rdy := false, pump := .stopTimer }
      -- `rdy` is lowered only after the request was completed
      | some text => some { s with written := s.written ++ [p], pump := .failed p text .peek }
  | .failed p text c => s.pumpComplete p.id c (fun c' => .failed p text c') (.reportFailed p text)
  | .reportFailed p _ =>
      some { s with
        outcomes := s.outcomes ++ [(p.id, .canceled)], rdy := false, pump := .stopTimer }
  | .stopTimer =>
      match s.timer.armed with
      | some _ => some { s with timer := { s.timer with armed := none }, pump := .resetTimer }
      -- the timer fired, and the tick may be taken already
      | none => some { s with pump := .drainTimer }
  | .drainTimer =>
      if s.timer.tick then
        some { s with timer := { s.timer with tick := false }, pump := .resetTimer }
      else none
  | .resetTimer => some { s with timer := s.timer.reset s.timeout, pump := .select }
  | .hasPending =>
      if s.pendingRequestState.hasPendingRequest then some { s with pump := .peekTimeout }
      else some { s with pump := .resetTick }
  | .peekTimeout =>
      match s.requestQueue.peek with
      | none => some { s with pump := .crashed }
      -- the head, whether or not it is the pending request
      | some p => some { s with pump := .timedOut p .peek }
  | .timedOut p c => s.pumpComplete p.id c (fun c' => .timedOut p c') (.reportTimedOut p)
  | .reportTimedOut p =>
      some { s with outcomes := s.outcomes ++ [(p.id, .canceled)], pump := .resetTick }
  | .resetTick =>
      some { s with timer := s.timer.reset defaultTimeoutTick, pump := .isPaused }
  | .crashed => none

/--
`ParseMessage` of a well-formed reply: it gets through when its id, which is not
empty, is the pending one, and is discarded otherwise.
-/
def receive (s : ClientSteps) (id : String) (kind : Reply) : Option ClientSteps :=
  match s.reader with
  | .idle =>
      if id ≠ "" then
        match s.pendingRequestState.getPendingRequest id with
        | none => some s
        | some _ => some { s with reader := .completing id kind .peek }
      else none
  | _ => none

/-- The reader's next operation. -/
def readerStep (s : ClientSteps) : Option ClientSteps :=
  match s.reader with
  | .idle => none
  | .completing id kind c =>
      (s.complete id c).map fun r =>
        match r.2 with
        | none => { r.1 with reader := .handler id kind }
        | some c' => { r.1 with reader := .completing id kind c' }
  | .handler id kind =>
      some { s with outcomes := s.outcomes ++ [(id, .reply kind)], reader := .idle }

/-- Move call `t`. -/
def setCaller (s : ClientSteps) (t : Nat) (pc : CallPC) : ClientSteps :=
  { s with callers := s.callers.set t pc }

/-- The first operation of a call. -/
def Operation.entry : Operation → CallPC
  | .sendRequest req => .push req
  | .completeRequest id => .completing id .peek
  | .pause => .pauseStop
  | .resume => .resumeSet

/-- A call starts. -/
def call (s : ClientSteps) (op : Operation) : ClientSteps :=
  { s with callers := s.callers ++ [Operation.entry op] }

/-- The next operation of call `t`, which stands at `pc`. -/
def callerStep (s : ClientSteps) (t : Nat) (pc : CallPC) : Option ClientSteps :=
  match pc with
  | .returned => none
  | .refused => none
  | .push req =>
      match s.requestQueue.push { seq := s.accepted, bundle := req } with
      | .error _ => some (s.setCaller t .refused)
      | .ok q =>
          some ({ s with requestQueue := q, accepted := s.accepted + 1 }.setCaller t .signal)
  -- the push is visible to the pump before its token is
  | .signal =>
      if s.requestChannel < 1 then
        some ({ s with requestChannel := s.requestChannel + 1 }.setCaller t .returned)
      else none
  | .completing id c =>
      (s.complete id c).map fun r =>
        match r.2 with
        | none => r.1.setCaller t .returned
        | some c' => r.1.setCaller t (.completing id c')
  | .pauseStop =>
      match s.timer.armed with
      | some _ =>
          some ({ s with timer := { s.timer with armed := none } }.setCaller t .pauseReset)
      | none => some (s.setCaller t .pauseDrain)
  | .pauseDrain =>
      if s.timer.tick then
        some ({ s with timer := { s.timer with tick := false } }.setCaller t .pauseReset)
      else none
  | .pauseReset =>
      some ({ s with timer := s.timer.reset defaultTimeoutTick }.setCaller t .pauseSet)
  | .pauseSet => some ({ s with paused := true }.setCaller t .returned)
  | .resumeSet => some ({ s with paused := false }.setCaller t .resumeTest)
  -- nothing pending: a ready token, even if the pump is ready already
  | .resumeTest =>
      if s.pendingRequestState.hasPendingRequest then some (s.setCaller t .resumeReset)
      else some (s.setCaller t .resumeReady)
  | .resumeReset => some ({ s with timer := s.timer.reset s.timeout }.setCaller t .returned)
  | .resumeReady =>
      if s.readyForDispatch < 1 then
        some ({ s with readyForDispatch := s.readyForDispatch + 1 }.setCaller t .returned)
      else none

/-- The steps of a run. -/
inductive Action where
  | select (sel : ClientDispatcher.Select)
  | pump (write : Option String)
  | receive (id : String) (kind : Reply)
  | reader
  | call (op : Operation)
  | caller (t : Nat)
  /-- The timer's deadline passes. -/
  | timerExpires

/-- One step, by any goroutine; nothing happens once the process has crashed. -/
def act (s : ClientSteps) (a : Action) : Option ClientSteps :=
  match s.pump with
  | .crashed => none
  | _ =>
      match a with
      | .select sel => s.select sel
      | .pump write => s.pumpStep write
      | .receive id kind => s.receive id kind
      | .reader => s.readerStep
      | .call op => some (s.call op)
      | .caller t => s.callers[t]?.bind (fun pc => s.callerStep t pc)
      | .timerExpires => s.timer.expire.map (fun t => { s with timer := t })

/-! ## Some sequences of steps -/

/-- `SendRequest`, as call number `t`, runs to its end. -/
def sending (t : Nat) (id : String) : List Action :=
  [.call (.sendRequest (heartbeatBundle id)), .caller t, .caller t]

/-- `Pause`, as call number `t`, stops an armed timer. -/
def pausing (t : Nat) : List Action :=
  [.call .pause, .caller t, .caller t, .caller t]

/-- `Resume`, as call number `t`, runs to its end. -/
def resuming (t : Nat) : List Action :=
  [.call .resume, .caller t, .caller t, .caller t]

/-- The pump takes a token, dispatches with a successful `Write`, and arms its timer. -/
def dispatching (sel : ClientDispatcher.Select) : List Action :=
  .select sel :: List.replicate 7 (.pump none)

/-- The reader takes a response for `id` that answers the head, up to the handler call. -/
def answering (id : String) : List Action :=
  .receive id .response :: List.replicate 5 .reader

/-- The timer expires and the pump takes the tick. -/
def tick : List Action := [.timerExpires, .select .timer]

/-- The pump finds a request pending, completes it and reports it as canceled. -/
def timingOut : List Action := List.replicate 7 (.pump none)

/-- All runs of a started dispatcher, without `Stop`. -/
def machine (queueCapacity : Nat) (timeout : Int) : Machine ClientSteps Action where
  init := fun s => s = start queueCapacity timeout
  act := act

end ClientSteps

end OcppGo.Ocppj
