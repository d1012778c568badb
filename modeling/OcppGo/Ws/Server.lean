import OcppGo.Lib.Chan
import OcppGo.Lib.RWMutex
import OcppGo.Lib.Run
import Mathlib.Logic.Function.Basic

/-!
# The websocket server

`Server` of `ws/websocket.go`: the map from client ids to open sockets, the
handler that enters them, `Write`, which looks them up, and the goroutines of
each socket: the one that reads reports the end of the connection, the one that
writes removes the socket's entry then. `connMutex` guards the map. `Write` keeps
its read lock while it waits for room in the socket's queue.

What the connection does is an input of the machine: when a read or a write
fails, and when a ping or a close error reaches the goroutine that writes.
-/

namespace OcppGo.Ws

open Lib

/-- Where `writePump` of a socket stands. -/
inductive WritePump where
  | select
  /-- `conn.WriteMessage`, of data or of a pong. -/
  | writing
  /-- In `cleanupConnection`, the connection closed and `connMutex` still to be locked. -/
  | cleanup
  /-- Past the critical section of `cleanupConnection`. -/
  | closed
  /-- Returned from the branch "output queue was closed". -/
  | queueClosed
  /-- Returned on a forced close without an error. -/
  | released
deriving Repr, DecidableEq

/-- `websocket.CloseError`. -/
structure CloseError where
  code : Nat
  text : String
deriving Repr, DecidableEq

structure WebSocket where
  id : String
  outQueue : Chan (List UInt8)
  closeC : Chan CloseError
  /-- From `readPump` to `writePump`, `none` the nil error. -/
  forceCloseC : Chan (Option String)
  /-- `readPump` has not returned. -/
  readPump : Bool
  writePump : WritePump
  /-- How often `cleanupConnection` ran for it. -/
  cleanups : Nat

/-- The socket `wsHandler` makes, its two goroutines just started. -/
def WebSocket.new (id : String) : WebSocket where
  id := id
  outQueue := .make 1
  closeC := .make 1
  forceCloseC := .make 1
  readPump := true
  writePump := .select
  cleanups := 0

/-- Where a call of `wsHandler` or `Write` stands. -/
inductive Call where
  /-- `wsHandler` with an upgraded connection, at `connMutex.Lock`. -/
  | accepting (id : String)
  /-- `Write`, at `connMutex.RLock`. -/
  | writing (id : String) (data : List UInt8)
  /-- `Write`, at its send on the queue of this socket. -/
  | sending (k : Nat) (data : List UInt8)
  /-- Returned, or rejected, with this error. -/
  | returned (err : Option String)

inductive Goroutine where
  | call (t : Nat)
  | writePump (k : Nat)
deriving DecidableEq

structure Server where
  /-- The open sockets, by the number under which they were entered. -/
  connections : String → Option Nat
  /-- Every socket entered so far. -/
  sockets : List WebSocket
  connMutex : RWMutex Goroutine
  /-- Every call made so far. -/
  calls : List Call
  /-- A panic took the process down. -/
  crashed : Bool

namespace Server

/-- `Start`. -/
def start : Server where
  connections := fun _ => none
  sockets := []
  connMutex := .new
  calls := []
  crashed := false

/-- The error of `Write` for an id without a socket. -/
def noSocketError (id : String) : String :=
  "couldn't write to websocket. No socket with id " ++ id ++ " is open"

/-- The error reported for a second connection under an id. -/
def duplicateError (id : String) : String :=
  "client " ++ id ++ " already exists, closing duplicate client"

def setCall (s : Server) (t : Nat) (c : Call) : Server := { s with calls := s.calls.set t c }

def setSocket (s : Server) (k : Nat) (x : WebSocket) : Server :=
  { s with sockets := s.sockets.set k x }

/-- The critical section of `wsHandler`. -/
def register (s : Server) (t : Nat) (id : String) : Server :=
  match s.connections id with
  | some _ =>
      { s with connMutex := s.connMutex.unlock }.setCall t (.returned (some (duplicateError id)))
  | none =>
      { s with
        connections := Function.update s.connections id (some s.sockets.length)
        sockets := s.sockets ++ [WebSocket.new id]
        connMutex := s.connMutex.unlock }.setCall t (.returned none)

/-- The critical section of `cleanupConnection` for socket `k`. -/
def cleanupConnection (s : Server) (k : Nat) (x : WebSocket) : Server :=
  match x.outQueue.close, x.closeC.close with
  | some outQueue, some closeC =>
      { s with
        -- by id, whatever socket is entered under it
        connections := Function.update s.connections x.id none
        connMutex := s.connMutex.unlock }.setSocket k
          { x with
            outQueue := outQueue, closeC := closeC, writePump := .closed
            cleanups := x.cleanups + 1 }
  | _, _ => { s with crashed := true }

/-- The next operation of call `t`. -/
def callStep (s : Server) (t : Nat) : Call → Option Server
  | .accepting id => if s.connMutex.Holds (.call t) then some (s.register t id) else none
  | .writing id data =>
      (s.connMutex.rlock (.call t)).map fun m =>
        match s.connections id with
        -- the deferred `RUnlock` comes with the return
        | none => s.setCall t (.returned (some (noSocketError id)))
        | some k => { s with connMutex := m }.setCall t (.sending k data)
  | .sending k data =>
      s.sockets[k]?.bind fun x =>
        match x.outQueue.send data with
        | .blocks => none
        | .panics => some { s with crashed := true }
        | .sent outQueue =>
            some (({ s with connMutex := s.connMutex.runlock (.call t) }.setSocket k
              { x with outQueue := outQueue }).setCall t (.returned none))
  | .returned _ => none

/-- What a socket's writer meets next. -/
inductive Event where
  /-- Data in the output queue. -/
  | data
  /-- A ping to answer. -/
  | ping
  /-- A close error to send. -/
  | close
  /-- The end of the connection, from `readPump`. -/
  | forceClose
  /-- `conn.WriteMessage` returns. -/
  | wrote (failed : Bool)
  /-- `cleanupConnection` gets the lock. -/
  | cleanup
deriving Repr, DecidableEq

/-- The next operation of the `writePump` of socket `k`. -/
def pumpStep (s : Server) (k : Nat) (ev : Event) (x : WebSocket) : Option Server :=
  match x.writePump, ev with
  | .select, .data =>
      match x.outQueue.recv with
      | .blocks => none
      | .closed => some (s.setSocket k { x with writePump := .queueClosed })
      | .value _ outQueue =>
          some (s.setSocket k { x with outQueue := outQueue, writePump := .writing })
  | .select, .ping => some (s.setSocket k { x with writePump := .writing })
  | .select, .close => some (s.setSocket k { x with writePump := .cleanup })
  | .select, .forceClose =>
      match x.forceCloseC.recv with
      | .blocks => none
      | .closed => some (s.setSocket k { x with writePump := .cleanup })
      | .value err forceCloseC =>
          some (s.setSocket k
            { x with
              forceCloseC := forceCloseC
              writePump := if err.isSome then .cleanup else .released })
  | .writing, .wrote failed =>
      some (s.setSocket k { x with writePump := if failed then .cleanup else .select })
  | .cleanup, .cleanup =>
      if s.connMutex.Holds (.writePump k) then some (s.cleanupConnection k x) else none
  | _, _ => none

/-- `conn.ReadMessage` fails in the `readPump` of socket `k`, which returns. -/
def readError (s : Server) (k : Nat) (err : String) (x : WebSocket) : Option Server :=
  if x.readPump then
    match x.forceCloseC.send (some err) with
    | .blocks => none
    | .panics => some { s with crashed := true }
    | .sent forceCloseC =>
        some (s.setSocket k { x with forceCloseC := forceCloseC, readPump := false })
  else none

/-- The goroutine's next operation is `connMutex.Lock`. -/
def needsLock (s : Server) : Goroutine → Bool
  | .call t =>
      match s.calls[t]? with
      | some (.accepting _) => true
      | _ => false
  | .writePump k =>
      match s.sockets[k]? with
      | some x => x.writePump == .cleanup
      | none => false

inductive Action where
  /-- A client connects. -/
  | wsHandler (id : String)
  | write (id : String) (data : List UInt8)
  /-- A goroutine calls `connMutex.Lock`. -/
  | lock (g : Goroutine)
  | call (t : Nat)
  | writePump (k : Nat) (ev : Event)
  | readPump (k : Nat) (err : String)

def act (s : Server) (a : Action) : Option Server :=
  if s.crashed then none
  else
    match a with
    | .wsHandler id => some { s with calls := s.calls ++ [.accepting id] }
    | .write id data => some { s with calls := s.calls ++ [.writing id data] }
    | .lock g =>
        if s.needsLock g then
          (s.connMutex.announce g).map fun m => { s with connMutex := m }
        else none
    | .call t => s.calls[t]?.bind (s.callStep t)
    | .writePump k ev => s.sockets[k]?.bind (s.pumpStep k ev)
    | .readPump k err => s.sockets[k]?.bind (s.readError k err)

/-- All runs between one `Start` and the next. -/
def machine : Machine Server Action where
  init := fun s => s = start
  act := act

end Server

end OcppGo.Ws
