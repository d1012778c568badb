import OcppGo.Ocppj.Server

/-!
# Sockets and the clients of the dispatcher

`Server` of `ws/websocket.go` under `Server` of `ocppj/server.go`. The websocket
server keeps the open sockets by client id, and refuses a second one under an id
it has. The OCPP-J server learns of them through two handlers, which create and
delete the client's queue.

A socket is registered under the mutex, and its handler is called after the mutex
was released, on the goroutine of the HTTP request. The socket's read and write
goroutines run by then, so it may be closed before its handler was called.
Closing works the same way: the entry is removed under the mutex, and the
disconnect handler called afterwards, on the goroutine of the socket's writer.
-/

namespace OcppGo

open Lib Ocppj

/-- How far `cleanupConnection` got with a socket. -/
inductive Stage where
  /-- It was not called. -/
  | open
  /-- The entry is removed. -/
  | removed
  /-- The disconnect handler has called `DeleteClient`. -/
  | deleted
  /-- The disconnect handler has returned. -/
  | closed
deriving Repr, DecidableEq

/-- A `WebSocket` that was registered. -/
structure Socket where
  id : String
  /-- The new-client handler was called for it and has returned. -/
  announced : Bool
  stage : Stage
deriving Repr, DecidableEq

structure Connections where
  /-- The open sockets, by the number under which they were registered. -/
  connections : String → Option Nat
  /-- Every socket registered so far. -/
  sockets : List Socket
  server : Server

namespace Connections

def start (cfg : ServerConfig) : Connections where
  connections := fun _ => none
  sockets := []
  server := .start cfg

/-- `wsHandler`, up to the end of its critical section. A duplicate is closed at once. -/
def wsHandler (s : Connections) (id : String) : Connections :=
  match s.connections id with
  | some _ => s
  | none =>
      { s with
        connections := Function.update s.connections id (some s.sockets.length)
        sockets := s.sockets ++ [{ id := id, announced := false, stage := .open }] }

/-- The server takes a step, and socket `k` becomes `x`. -/
def notify (cfg : ServerConfig) (s : Connections) (a : Server.Action) (k : Nat) (x : Socket) :
    Option Connections :=
  (Server.act cfg s.server a).map fun t => { s with server := t, sockets := s.sockets.set k x }

/-- The steps of the server that are not taken for a socket. -/
def ownStep : Server.Action → Bool
  | .onClientConnected _ | .deleteClient _ | .clearPending _ => false
  | _ => true

inductive Action where
  | wsHandler (id : String)
  /-- The rest of `wsHandler` for the socket of this number. -/
  | newClientHandler (k : Nat)
  /-- `cleanupConnection`, up to the end of its critical section. -/
  | cleanupConnection (k : Nat)
  /-- The two steps of the disconnect handler. -/
  | deleteClient (k : Nat)
  | clearPending (k : Nat)
  /-- Anything else the server does meanwhile. -/
  | server (a : Server.Action)

def act (cfg : ServerConfig) (s : Connections) : Action → Option Connections
  | .wsHandler id => some (s.wsHandler id)
  | .newClientHandler k =>
      match s.sockets[k]? with
      | none => none
      | some x =>
          if x.announced then none
          else s.notify cfg (.onClientConnected x.id) k { x with announced := true }
  | .cleanupConnection k =>
      match s.sockets[k]? with
      | none => none
      | some x =>
          if x.stage = .open then
            some { s with
              connections := Function.update s.connections x.id none
              sockets := s.sockets.set k { x with stage := .removed } }
          else none
  | .deleteClient k =>
      match s.sockets[k]? with
      | none => none
      | some x =>
          if x.stage = .removed then
            s.notify cfg (.deleteClient x.id) k { x with stage := .deleted }
          else none
  | .clearPending k =>
      match s.sockets[k]? with
      | none => none
      | some x =>
          if x.stage = .deleted then
            s.notify cfg (.clearPending x.id) k { x with stage := .closed }
          else none
  | .server a =>
      if ownStep a then (Server.act cfg s.server a).map fun t => { s with server := t } else none

/-- All runs of the two servers on top of each other, between `Start` and `Stop`. -/
def machine (cfg : ServerConfig) : Machine Connections Action where
  init := fun s => s = start cfg
  act := act cfg

end Connections

end OcppGo
