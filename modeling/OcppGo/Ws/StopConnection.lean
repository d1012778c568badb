import OcppGo.Ws.Server

/-!
# Stopping connections

`StopConnection` and `stopConnections` of `ws/websocket.go`, beside the server they are
called on. Both send a close error to the goroutine that writes on a socket.
`stopConnections`, which `Shutdown` calls, has the read lock for all its sends.
`StopConnection` looks the socket up under the read lock, and sends when it has released
it.

The server's own steps are those of `OcppGo/Ws/Server.lean`, with two exceptions. A close
error comes from `closeC` here, and is no input any more. And whoever has called `Lock`
waits for `stopConnections` as for any other reader.
-/

namespace OcppGo.Ws

open Lib

/-- Where a call of `StopConnection` or `stopConnections` stands. -/
inductive Stop where
  /-- `StopConnection`, at `connMutex.RLock`. -/
  | finding (id : String) (closeError : CloseError)
  /-- `StopConnection`, at its send on `closeC` of this socket; the lock is released. -/
  | sending (k : Nat) (closeError : CloseError)
  /-- `stopConnections`, at `connMutex.RLock`. -/
  | locking
  /-- `stopConnections`, with the read lock and these sockets still to be stopped. -/
  | stopping (ks : List Nat)
  | returned (err : Option String)
deriving Repr, DecidableEq

structure StoppableServer where
  server : Server
  /-- Every call made so far. -/
  stops : List Stop

namespace StoppableServer

def start : StoppableServer where
  server := .start
  stops := []

/-- The error of `StopConnection` for an id without a socket. -/
def noConnectionError (id : String) : String :=
  "couldn't stop websocket connection. No connection with id " ++ id ++ " is open"

/-- `websocket.CloseError{Code: websocket.CloseNormalClosure, Text: ""}`. -/
def normalClosure : CloseError where
  code := 1000
  text := ""

/-- The sockets of the map. -/
def entered (s : Server) : List Nat :=
  (List.range s.sockets.length).filter fun k =>
    match s.sockets[k]? with
    | some x => s.connections x.id == some k
    | none => false

def setStop (s : StoppableServer) (t : Nat) (st : Stop) : StoppableServer :=
  { s with stops := s.stops.set t st }

/-- `closeC <- closeError` on socket `k`, after which call `t` goes on as `next`. -/
def sendClose (s : StoppableServer) (t k : Nat) (closeError : CloseError) (next : Stop) :
    Option StoppableServer :=
  s.server.sockets[k]?.bind fun x =>
    match x.closeC.send closeError with
    | .blocks => none
    | .panics => some { s with server := { s.server with crashed := true } }
    | .sent closeC =>
        some ({ s with server := s.server.setSocket k { x with closeC := closeC } }.setStop t next)

/-- The next operation of call `t`; the map is iterated in any order, and `k` is next in it. -/
def stopStep (s : StoppableServer) (t k : Nat) : Stop → Option StoppableServer
  | .finding id closeError =>
      -- `RLock` returns once no writer is ahead
      if s.server.connMutex.writer.isSome then none
      else
        match s.server.connections id with
        | none => some (s.setStop t (.returned (some (noConnectionError id))))
        | some j => some (s.setStop t (.sending j closeError))
  | .sending j closeError => s.sendClose t j closeError (.returned none)
  | .locking =>
      if s.server.connMutex.writer.isSome then none
      else some (s.setStop t (.stopping (entered s.server)))
  | .stopping [] => some (s.setStop t (.returned none))
  | .stopping ks =>
      if k ∈ ks then s.sendClose t k normalClosure (.stopping (ks.erase k)) else none
  | .returned _ => none

/-- A call of `stopConnections` has the read lock. -/
def readLocked (s : StoppableServer) : Bool :=
  s.stops.any fun
    | .stopping _ => true
    | _ => false

/-- The action is the critical section of a `Lock`. -/
def exclusive (s : Server) : Server.Action → Bool
  | .call t =>
      match s.calls[t]? with
      | some (.accepting _) => true
      | _ => false
  | .writePump _ .cleanup => true
  | _ => false

inductive Action where
  | server (a : Server.Action)
  | stopConnection (id : String) (closeError : CloseError)
  | stopConnections
  | stop (t k : Nat)

/-- The `writePump` of socket `k` receives from `closeC`. -/
def recvClose (s : Server) (k : Nat) : Option Server :=
  s.sockets[k]?.bind fun x =>
    match x.closeC.recv with
    | .blocks => none
    | .closed => s.act (.writePump k .close)
    | .value _ closeC => (s.setSocket k { x with closeC := closeC }).act (.writePump k .close)

def serverStep (s : StoppableServer) (a : Server.Action) : Option StoppableServer :=
  if exclusive s.server a && s.readLocked then none
  else
    (match a with
      | .writePump k .close => recvClose s.server k
      | a => s.server.act a).map fun server => { s with server := server }

def act (s : StoppableServer) (a : Action) : Option StoppableServer :=
  if s.server.crashed then none
  else
    match a with
    | .server a => s.serverStep a
    | .stopConnection id closeError =>
        some { s with stops := s.stops ++ [.finding id closeError] }
    | .stopConnections => some { s with stops := s.stops ++ [.locking] }
    | .stop t k => s.stops[t]?.bind (s.stopStep t k)

def machine : Machine StoppableServer Action where
  init := fun s => s = start
  act := act

end StoppableServer

end OcppGo.Ws
