import OcppGo.Ws.Server

/-!
# The websocket client

`Client` of `ws/websocket.go`, with every read and write of a field of the struct,
every channel operation and every critical section of `mutex` as a step of its own.
Any number of goroutines take steps in any order: calls of `Start`,
`StartWithRetries`, `Stop` and `Write`, and for each connection a `writePump`, which
also reconnects, and a `readPump`.

Channels outlive the fields that point to them. Every socket, every `reconnectC` and
every `errC` ever made is kept in a list, and a goroutine that has evaluated a channel
keeps its number. `none` is the nil channel, on which everything waits for ever.

What the network does is an input: whether a dial, a read or a write fails, and when a
ticker or timer fires. So are the message handler and the callbacks, which may take as
long as they like.
-/

namespace OcppGo.Ws

open Lib

/-- An error of `conn.ReadMessage`, with the number of the connection it was observed on. -/
structure ReadError where
  connection : Nat
  text : String
deriving Repr, DecidableEq

/-- The channels of a connection. -/
structure ClientSocket where
  outQueue : Chan (List UInt8)
  closeC : Chan CloseError
  /-- From `readPump` to `writePump`. -/
  forceCloseC : Chan ReadError

def ClientSocket.new : ClientSocket where
  outQueue := .make 1
  closeC := .make 1
  forceCloseC := .make 1

/-- Who called `Start`. -/
inductive Caller where
  | start
  | startWithRetries
  | handleReconnection
deriving Repr, DecidableEq

inductive Starting where
  /-- `url.Parse`, and the copy of what it returned. -/
  | parse (valid : Bool)
  | dial
  /-- The assignment of `client.webSocket`. -/
  | assign
  | makeReconnectC
  /-- `setConnected(true)`. -/
  | connect
  /-- The two `go` statements. -/
  | spawn
deriving Repr, DecidableEq

inductive Stopping where
  /-- The critical section. -/
  | lock
  | testReconnectC
  | closeReconnectC
  | testErrC
  | closeErrC
  | resetErrC
deriving Repr, DecidableEq

inductive Writing where
  /-- `IsConnected`. -/
  | check
  /-- `client.webSocket.outQueue` is evaluated. -/
  | read
  | send (k : Option Nat)
deriving Repr, DecidableEq

/-- Why a connection is torn down. -/
inductive Cause where
  /-- A close error came through `closeC`. -/
  | stopped
  /-- A message or a ping could not be written. -/
  | failed
  /-- `forceCloseC`; `none` when it was closed. -/
  | forced (err : Option ReadError)
deriving Repr, DecidableEq

/-- `closure` of `writePump`. -/
inductive Closing where
  /-- `setConnected(false)`. -/
  | disconnect
  /-- `ws := client.webSocket`; its connection is closed. -/
  | read
  /-- The critical section of `cleanup`. -/
  | close (k : Nat)
  /-- `onDisconnected`. -/
  | notify
deriving Repr, DecidableEq

/-- `error`. -/
inductive Reporting where
  | test
  /-- `client.errC` is evaluated again. -/
  | read
  | send (e : Option Nat)
deriving Repr, DecidableEq

/-- What follows a call of `error`. -/
inductive Next where
  | closure (c : Nat) (cause : Cause)
  | forceClose (err : ReadError)
  /-- The next `ReadMessage`. -/
  | read (c : Nat)
  /-- The next wait of `handleReconnection`. -/
  | retry
deriving Repr, DecidableEq

/-- Where a goroutine stands; `c` is the connection a pump has taken for its own. -/
inductive Thread where
  | returned
  | starting (caller : Caller) (pc : Starting)
  | stopping (pc : Stopping)
  | writing (data : List UInt8) (pc : Writing)
  /-- `Write` returned an error. -/
  | refused
  /-- `writePump`, just started. -/
  | writePump
  /-- The head of its loop. -/
  | loop (c : Nat)
  /-- In its `select`, on the channels of socket `k`. -/
  | select (c : Nat) (k : Option Nat)
  | sendData (c : Nat)
  | sendPing (c : Nat)
  | sendClose (c : Nat)
  | closing (c : Nat) (cause : Cause) (pc : Closing)
  /-- The head of the loop of `handleReconnection`. -/
  | retry
  /-- In its `select`, on this `reconnectC`. -/
  | waiting (rc : Option Nat)
  /-- `onReconnected`. -/
  | reconnected
  /-- `readPump`, just started. -/
  | readPump
  | reading (c : Nat)
  /-- In `messageHandler`. -/
  | handling (c : Nat)
  /-- `client.webSocket.forceCloseC` is to be evaluated. -/
  | readFailed (err : ReadError)
  | forceClose (err : ReadError) (k : Option Nat)
  | reporting (text : String) (pc : Reporting) (next : Next)
deriving Repr, DecidableEq

def Next.thread : Next → Thread
  | .closure c cause => .closing c cause .disconnect
  | .forceClose err => .readFailed err
  | .read c => .reading c
  | .retry => .retry

/-- A panic that takes the process down. -/
inductive Panic where
  /-- A send on a closed channel, or its second close. -/
  | closedChannel
  /-- A close of the nil channel. -/
  | nilChannel
  | nilDereference
deriving Repr, DecidableEq

structure Client where
  /-- The number of the current socket; `none` the zero value. -/
  webSocket : Option Nat
  connected : Bool
  errC : Option Nat
  reconnectC : Option Nat
  /-- Every socket made so far. -/
  sockets : List ClientSocket
  /-- Every error channel made so far. -/
  errCs : List (Chan String)
  /-- Every `reconnectC` made so far. -/
  reconnectCs : List (Chan Unit)
  panic : Option Panic

namespace Client

/-- `NewClient`. -/
def new : Client where
  webSocket := none
  connected := false
  errC := none
  reconnectC := none
  sockets := []
  errCs := []
  reconnectCs := []
  panic := none

/-- What a goroutine's next operation meets. -/
inductive Event where
  /-- It has one way to go, and does not fail. -/
  | go
  | fails (err : String)
  /-- `ReadMessage` fails; `unexpected` as `IsUnexpectedCloseError` has it. -/
  | readFails (err : String) (unexpected : Bool)
  | data
  | ping
  | close
  | forceClose
  | timer
  | signal
deriving Repr, DecidableEq

/-- An operation: the client afterwards, where the goroutine goes, and who it starts. -/
structure Outcome where
  client : Client
  next : Thread
  spawned : List Thread

def goes (s : Client) (next : Thread) : Outcome := { client := s, next := next, spawned := [] }

def panics (s : Client) (p : Panic) : Outcome :=
  { client := { s with panic := some p }, next := .returned, spawned := [] }

def setSocket (s : Client) (k : Nat) (x : ClientSocket) : Client :=
  { s with sockets := s.sockets.set k x }

/-! ## `Start` -/

/-- Where a failed `Start` leads to. -/
def afterFailedStart (err : String) : Caller → Thread
  | .start => .returned
  | .startWithRetries => .retry
  | .handleReconnection => .reporting ("reconnection failed: " ++ err) .test .retry

def afterStart : Caller → Thread
  | .handleReconnection => .reconnected
  | _ => .returned

def startStep (s : Client) (caller : Caller) : Starting → Event → Option Outcome
  | .parse valid, .go =>
      -- the URL is copied before the error is looked at
      if valid then some (s.goes (.starting caller .dial)) else some (s.panics .nilDereference)
  | .dial, .go => some (s.goes (.starting caller .assign))
  | .dial, .fails err => some (s.goes (afterFailedStart err caller))
  | .assign, .go =>
      some (goes { s with
        sockets := s.sockets ++ [.new], webSocket := some s.sockets.length }
        (.starting caller .makeReconnectC))
  | .makeReconnectC, .go =>
      some (goes { s with
        reconnectCs := s.reconnectCs ++ [.make 0], reconnectC := some s.reconnectCs.length }
        (.starting caller .connect))
  | .connect, .go => some (goes { s with connected := true } (.starting caller .spawn))
  | .spawn, .go =>
      some { client := s, next := afterStart caller, spawned := [.writePump, .readPump] }
  | _, _ => none

/-! ## `Stop` -/

/-- The close error `Stop` sends. -/
def normalClosure : CloseError := { code := 1000, text := "" }

/-- The critical section of `Stop`. -/
def disconnect (s : Client) : Outcome :=
  if s.connected then
    let s := { s with connected := false }
    match s.webSocket.bind fun k => s.sockets[k]?.map fun x => (k, x) with
    | none => s.goes (.stopping .testReconnectC)
    | some (k, x) =>
        match x.closeC.send normalClosure with
        | .sent closeC =>
            (s.setSocket k { x with closeC := closeC }).goes (.stopping .testReconnectC)
        | .blocks => s.goes (.stopping .testReconnectC)
        | .panics => s.panics .closedChannel
  else s.goes (.stopping .testReconnectC)

def stopStep (s : Client) : Stopping → Option Outcome
  | .lock => some s.disconnect
  | .testReconnectC =>
      match s.reconnectC with
      | none => some (s.goes (.stopping .testErrC))
      | some _ => some (s.goes (.stopping .closeReconnectC))
  | .closeReconnectC =>
      match s.reconnectC with
      | none => some (s.panics .nilChannel)
      | some rc =>
          s.reconnectCs[rc]?.map fun x =>
            match x.close with
            | none => s.panics .closedChannel
            | some x =>
                goes { s with reconnectCs := s.reconnectCs.set rc x } (.stopping .testErrC)
  | .testErrC =>
      match s.errC with
      | none => some (s.goes .returned)
      | some _ => some (s.goes (.stopping .closeErrC))
  | .closeErrC =>
      match s.errC with
      | none => some (s.panics .nilChannel)
      | some e =>
          s.errCs[e]?.map fun x =>
            match x.close with
            | none => s.panics .closedChannel
            | some x => goes { s with errCs := s.errCs.set e x } (.stopping .resetErrC)
  | .resetErrC => some (goes { s with errC := none } .returned)

/-! ## `Write` -/

def writeStep (s : Client) (data : List UInt8) : Writing → Option Outcome
  | .check =>
      if s.connected then some (s.goes (.writing data .read)) else some (s.goes .refused)
  | .read => some (s.goes (.writing data (.send s.webSocket)))
  | .send none => none
  | .send (some k) =>
      s.sockets[k]?.bind fun x =>
        match x.outQueue.send data with
        | .blocks => none
        | .panics => some (s.panics .closedChannel)
        | .sent outQueue => some ((s.setSocket k { x with outQueue := outQueue }).goes .returned)

/-! ## `error` -/

def reportStep (s : Client) (text : String) (next : Next) : Reporting → Option Outcome
  | .test =>
      match s.errC with
      | none => some (s.goes next.thread)
      | some _ => some (s.goes (.reporting text .read next))
  | .read => some (s.goes (.reporting text (.send s.errC) next))
  | .send none => none
  | .send (some e) =>
      s.errCs[e]?.bind fun x =>
        match x.send text with
        | .blocks => none
        | .panics => some (s.panics .closedChannel)
        | .sent x => some (goes { s with errCs := s.errCs.set e x } next.thread)

/-! ## `writePump` -/

/-- A branch of the `select`, on the channels of socket `k`. -/
def selectStep (s : Client) (c k : Nat) (x : ClientSocket) : Event → Option Outcome
  | .data =>
      match x.outQueue.recv with
      | .blocks => none
      -- a closed queue hands out an empty message
      | .closed => some (s.goes (.sendData c))
      | .value _ outQueue =>
          some ((s.setSocket k { x with outQueue := outQueue }).goes (.sendData c))
  | .close =>
      match x.closeC.recv with
      | .blocks => none
      | .closed => some (s.goes (.sendClose c))
      | .value _ closeC => some ((s.setSocket k { x with closeC := closeC }).goes (.sendClose c))
  | .forceClose =>
      match x.forceCloseC.recv with
      | .blocks => none
      | .closed => some (s.goes (.closing c (.forced none) .disconnect))
      | .value err forceCloseC =>
          some ((s.setSocket k { x with forceCloseC := forceCloseC }).goes
            (.closing c (.forced (some err)) .disconnect))
  | _ => none

/-- The critical section of `cleanup`. -/
def cleanup (s : Client) (c : Nat) (cause : Cause) (k : Nat) (x : ClientSocket) : Outcome :=
  match x.outQueue.close, x.closeC.close with
  | some outQueue, some closeC =>
      (s.setSocket k { x with outQueue := outQueue, closeC := closeC }).goes
        (.closing c cause .notify)
  | _, _ => s.panics .closedChannel

/-- After `closure`: reconnect, unless the user asked for the end. -/
def afterClosure : Cause → Thread
  | .stopped => .returned
  | _ => .retry

def closeStep (s : Client) (c : Nat) (cause : Cause) : Closing → Option Outcome
  | .disconnect => some (goes { s with connected := false } (.closing c cause .read))
  | .read =>
      match s.webSocket with
      | none => some (s.panics .nilDereference)
      | some k => some (s.goes (.closing c cause (.close k)))
  | .close k => s.sockets[k]?.map (s.cleanup c cause k)
  | .notify => some (s.goes (afterClosure cause))

/-! ## All operations -/

/-- The next operation of a goroutine. -/
def step (s : Client) (ev : Event) : Thread → Option Outcome
  | .returned => none
  | .refused => none
  | .starting caller pc => s.startStep caller pc ev
  | .stopping pc => s.stopStep pc
  | .writing data pc => s.writeStep data pc
  | .reporting text pc next => s.reportStep text next pc
  -- `conn := client.webSocket.connection`
  | .writePump =>
      match s.webSocket with
      | none => some (s.panics .nilDereference)
      | some c => some (s.goes (.loop c))
  | .loop c => some (s.goes (.select c s.webSocket))
  | .select c k =>
      match ev with
      | .ping => some (s.goes (.sendPing c))
      | ev => k.bind fun k => s.sockets[k]?.bind fun x => s.selectStep c k x ev
  | .sendData c =>
      match ev with
      | .go => some (s.goes (.loop c))
      | .fails err =>
          some (s.goes (.reporting ("write failed: " ++ err) .test (.closure c .failed)))
      | _ => none
  | .sendPing c =>
      match ev with
      | .go => some (s.goes (.loop c))
      | .fails err =>
          some (s.goes
            (.reporting ("failed to send ping message: " ++ err) .test (.closure c .failed)))
      | _ => none
  | .sendClose c =>
      match ev with
      | .go => some (s.goes (.closing c .stopped .disconnect))
      | .fails err =>
          some (s.goes
            (.reporting ("failed to write close message: " ++ err) .test (.closure c .stopped)))
      | _ => none
  | .closing c cause pc => s.closeStep c cause pc
  | .retry => some (s.goes (.waiting s.reconnectC))
  | .waiting rc =>
      match ev with
      | .timer => some (s.goes (.starting .handleReconnection (.parse true)))
      | .signal =>
          rc.bind fun rc => s.reconnectCs[rc]?.bind fun x =>
            match x.recv with
            | .closed => some (s.goes .returned)
            | _ => none
      | _ => none
  | .reconnected => some (s.goes .returned)
  | .readPump =>
      match s.webSocket with
      | none => some (s.panics .nilDereference)
      | some c => some (s.goes (.reading c))
  | .reading c =>
      match ev with
      | .go => some (s.goes (.handling c))
      | .readFails err unexpected =>
          if unexpected then
            some (s.goes (.reporting ("read failed: " ++ err) .test (.forceClose ⟨c, err⟩)))
          else some (s.goes (.readFailed ⟨c, err⟩))
      | _ => none
  | .handling c =>
      match ev with
      | .go => some (s.goes (.reading c))
      | .fails err => some (s.goes (.reporting ("handle failed: " ++ err) .test (.read c)))
      | _ => none
  | .readFailed err => some (s.goes (.forceClose err s.webSocket))
  | .forceClose err k =>
      k.bind fun k => s.sockets[k]?.bind fun x =>
        match x.forceCloseC.send err with
        | .blocks => none
        | .panics => some (s.panics .closedChannel)
        | .sent forceCloseC =>
            some ((s.setSocket k { x with forceCloseC := forceCloseC }).goes .returned)

/-- `Errors`. -/
def errors (s : Client) : Client :=
  match s.errC with
  | some _ => s
  | none => { s with errCs := s.errCs ++ [.make 1], errC := some s.errCs.length }

/-- The user takes an error from a channel `Errors` returned. -/
def receiveError (s : Client) (e : Nat) : Option Client :=
  s.errCs[e]?.bind fun x =>
    match x.recv with
    | .value _ x => some { s with errCs := s.errCs.set e x }
    | _ => none

end Client

/-- The client and every goroutine started so far. -/
structure ClientRun where
  client : Client
  threads : List Thread

namespace ClientRun

def start : ClientRun := { client := .new, threads := [] }

inductive Action where
  | start (valid : Bool)
  | startWithRetries (valid : Bool)
  | stop
  | write (data : List UInt8)
  | errors
  | receiveError (e : Nat)
  | thread (t : Nat) (ev : Client.Event)

/-- The first operation of a call. -/
def Action.entry : Action → Option Thread
  | .start valid => some (.starting .start (.parse valid))
  | .startWithRetries valid => some (.starting .startWithRetries (.parse valid))
  | .stop => some (.stopping .lock)
  | .write data => some (.writing data .check)
  | _ => none

/-- One step; nothing happens once the process has panicked. -/
def act (s : ClientRun) (a : Action) : Option ClientRun :=
  match s.client.panic with
  | some _ => none
  | none =>
      match a with
      | .errors => some { s with client := s.client.errors }
      | .receiveError e => (s.client.receiveError e).map fun c => { s with client := c }
      | .thread t ev =>
          s.threads[t]?.bind fun pc => (s.client.step ev pc).map fun o =>
            { client := o.client, threads := s.threads.set t o.next ++ o.spawned }
      | a => a.entry.map fun pc => { s with threads := s.threads ++ [pc] }

/-- All runs of a new client. -/
def machine : Machine ClientRun Action where
  init := fun s => s = start
  act := act

/-! ## Some sequences of steps -/

/-- Goroutine `t` has nothing to wait for, `n` times. -/
def going (t n : Nat) : List Action := List.replicate n (.thread t .go)

/-- `Start`, as goroutine `t`, connects. -/
def connecting (t : Nat) : List Action := .start true :: going t 6

/-- The pumps `w` and `r` of a connection reach their `select` and their first read. -/
def pumping (w r : Nat) : List Action := going w 2 ++ going r 1

/-- The ping of writer `w` fails; it cleans up and waits to reconnect. -/
def losing (w : Nat) : List Action :=
  [.thread w .ping, .thread w (.fails "broken pipe")] ++ going w 6

/-- The wait of `w` is over, and it connects again. -/
def reconnecting (w : Nat) : List Action := .thread w .timer :: going w 6

end ClientRun

end OcppGo.Ws
