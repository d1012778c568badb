import OcppGo.Lib.Conveyor
import OcppGo.Ws.Server

/-!
# What the websocket server carries

The server of `OcppGo/Ws/Server.lean` with a record beside it, which it does not
read: what each call was asked for, which socket's queue `Write` put its data into,
and, for each socket, what its `writePump` took from the queue and what
`conn.WriteMessage` was done with. A pong is written without having been taken.
-/

namespace OcppGo.Ws

open Lib

/-- A send of `Write`: the number of the call, the socket, and the data. -/
structure Queued where
  call : Nat
  socket : Nat
  data : List UInt8
deriving Repr, DecidableEq

/-- What was put into the queue of socket `k`. -/
def dataFor (queued : List Queued) (k : Nat) : List (List UInt8) :=
  (queued.filter fun m => m.socket == k).map Queued.data

structure ServerTraffic where
  server : Server
  /-- For each call, the arguments of `Write`; `none` for `wsHandler`. -/
  arguments : List (Option (String × List UInt8))
  /-- Every send on a queue, in order. -/
  queued : List Queued
  /-- The writers, by socket. -/
  lines : Nat → Conveyor (List UInt8)

namespace ServerTraffic

def start : ServerTraffic where
  server := .start
  arguments := []
  queued := []
  lines := fun _ => .start

def setLine (t : ServerTraffic) (k : Nat) (v : Conveyor (List UInt8)) : ServerTraffic :=
  { t with lines := Function.update t.lines k v }

/-- Call `n` goes on: its send, if it comes to one, is recorded. -/
def noteCall (t : ServerTraffic) (n : Nat) : ServerTraffic :=
  match t.server.calls[n]? with
  | some (.sending k data) =>
      match t.server.sockets[k]? with
      | none => t
      | some x =>
          match x.outQueue.send data with
          | .sent _ =>
              { t with queued := t.queued ++ [{ call := n, socket := k, data := data }] }
          | _ => t
  | _ => t

/-- The writer of socket `k` takes the next data from the queue. -/
def noteTaken (t : ServerTraffic) (k : Nat) : ServerTraffic :=
  match t.server.sockets[k]? with
  | none => t
  | some x =>
      match x.outQueue.recv with
      | .value data _ => t.setLine k ((t.lines k).take data)
      | _ => t

/-- What a step adds to the record. -/
def note (t : ServerTraffic) : Server.Action → ServerTraffic
  | .wsHandler _ => { t with arguments := t.arguments ++ [none] }
  | .write id data => { t with arguments := t.arguments ++ [some (id, data)] }
  | .call n => t.noteCall n
  | .writePump k .data => t.noteTaken k
  -- data whose write failed stays with the writer
  | .writePump k (.wrote false) => t.setLine k (t.lines k).deliver
  | _ => t

def act (t : ServerTraffic) (a : Server.Action) : Option ServerTraffic :=
  (t.server.act a).map fun s => { t.note a with server := s }

/-- All runs of the server, with the record. -/
def machine : Machine ServerTraffic Server.Action where
  init := fun t => t = start
  act := act

end ServerTraffic

end OcppGo.Ws
