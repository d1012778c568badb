import OcppGo.Ws.Client
import OcppGo.Ws.ServerTraffic

/-!
# What the websocket client carries

The client of `OcppGo/Ws/Client.lean` with the record of `OcppGo/Ws/ServerTraffic.lean`
beside it. The lines are numbered by the connection a `writePump` writes to, which
it has taken for its own when it started; the queue it takes data from is that of the
socket it finds in the client's field each time it enters its `select`.
-/

namespace OcppGo.Ws

open Lib

structure ClientTraffic where
  run : ClientRun
  /-- The calls of `Write`, with the number of their goroutine. -/
  written : List (Nat × List UInt8)
  /-- Every send on a queue, in order. -/
  queued : List Queued
  /-- What was written to each connection. -/
  lines : Nat → Conveyor (List UInt8)

namespace ClientTraffic

def start : ClientTraffic where
  run := .start
  written := []
  queued := []
  lines := fun _ => .start

def setLine (t : ClientTraffic) (c : Nat) (v : Conveyor (List UInt8)) : ClientTraffic :=
  { t with lines := Function.update t.lines c v }

/-- The send of a `Write`, on the queue of socket `k`. -/
def noteSend (t : ClientTraffic) (n k : Nat) (data : List UInt8) : ClientTraffic :=
  match t.run.client.sockets[k]? with
  | none => t
  | some x =>
      match x.outQueue.send data with
      | .sent _ => { t with queued := t.queued ++ [{ call := n, socket := k, data := data }] }
      | _ => t

/-- The writer of connection `c` takes from the queue of socket `k`. -/
def noteTaken (t : ClientTraffic) (c k : Nat) : ClientTraffic :=
  match t.run.client.sockets[k]? with
  | none => t
  | some x =>
      match x.outQueue.recv with
      | .value data _ => t.setLine c ((t.lines c).take data)
      -- a closed queue hands out an empty message
      | .closed => t.setLine c ((t.lines c).take [])
      | .blocks => t

/-- What a step of goroutine `n` adds to the record. -/
def noteThread (t : ClientTraffic) (n : Nat) (ev : Client.Event) : Thread → ClientTraffic
  | .writing data (.send (some k)) => t.noteSend n k data
  | .select c (some k) => if ev = .data then t.noteTaken c k else t
  -- data whose write failed stays with the writer
  | .sendData c => if ev = .go then t.setLine c (t.lines c).deliver else t
  | _ => t

def note (t : ClientTraffic) : ClientRun.Action → ClientTraffic
  | .write data => { t with written := t.written ++ [(t.run.threads.length, data)] }
  | .thread n ev =>
      match t.run.threads[n]? with
      | some pc => t.noteThread n ev pc
      | none => t
  | _ => t

def act (t : ClientTraffic) (a : ClientRun.Action) : Option ClientTraffic :=
  (t.run.act a).map fun s => { t.note a with run := s }

/-- All runs of a new client, with the record. -/
def machine : Machine ClientTraffic ClientRun.Action where
  init := fun t => t = start
  act := act

end ClientTraffic

end OcppGo.Ws
