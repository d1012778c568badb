import OcppGo.Ocppj.ClientSteps

/-!
# The client dispatcher over several sessions

`Start` and `Stop` of `ocppj/dispatcher.go` around the steps of
`OcppGo/Ocppj/ClientSteps.lean`. `Stop` closes `requestChannel` and returns. The
pump reads what the channel still holds, or whatever else its `select` offers,
until it meets the close; it then empties the queue, sets the channel to nil and
returns. `Start` makes a new channel and a new timer and starts a new pump. All
other fields are those of the session before.

A send on the closed channel panics, and so does closing it again or closing the
nil channel; a send on the nil channel waits for ever.
-/

namespace OcppGo.Ocppj

open Lib

/-- What became of `requestChannel` and of the pump. -/
inductive Lifecycle where
  | running
  /-- `Stop` was called, and the pump has not met the close. -/
  | closed
  /-- The pump has emptied the queue, and is about to set the channel to nil. -/
  | exiting
  /-- The channel is nil and the pump has returned. -/
  | stopped
deriving Repr, DecidableEq

structure ClientSessions where
  steps : ClientSteps
  lifecycle : Lifecycle

namespace ClientSessions

/-- A dispatcher just made and started; calls are numbered after those in the list. -/
def fresh (queueCapacity : Nat) (timeout : Int) (callers : List CallPC) : ClientSessions where
  steps := { ClientSteps.start queueCapacity timeout with callers := callers }
  lifecycle := .running

inductive Action where
  | step (a : ClientSteps.Action)
  | stop
  /-- The pump meets the closed channel, or goes on after that. -/
  | exit
  | start

/-- The process is down. -/
def panicked (s : ClientSessions) : ClientSessions :=
  { s with steps := { s.steps with pump := .crashed } }

/-- Anything the dispatcher's goroutines and callers do, after `Stop` as before. -/
def step (s : ClientSessions) (a : ClientSteps.Action) : Option ClientSessions :=
  let next := (s.steps.act a).map fun steps => { s with steps := steps }
  match s.lifecycle, a with
  | .running, _ => next
  -- tokens sent before the close are still received
  | .closed, .select _ => next
  | .closed, .pump _ => next
  | _, .select _ => none
  | _, .pump _ => none
  | lifecycle, .caller t =>
      match s.steps.callers[t]? with
      | some .signal => if lifecycle = .stopped then none else some s.panicked
      | _ => next
  | _, _ => next

/-- `Stop`. -/
def stop (s : ClientSessions) : ClientSessions :=
  match s.lifecycle with
  | .running => { s with lifecycle := .closed }
  | _ => s.panicked

/-- The end of `messagePump`. -/
def exit (s : ClientSessions) : Option ClientSessions :=
  match s.lifecycle, s.steps.pump with
  | .closed, .select =>
      if s.steps.requestChannel = 0 then
        some
          { steps := { s.steps with requestQueue := s.steps.requestQueue.init }
            lifecycle := .exiting }
      else none
  | .exiting, _ => some { s with lifecycle := .stopped }
  | _, _ => none

/-- `Start` once the pump has returned. What was written, popped and reported is kept by session. -/
def restart (s : ClientSessions) : Option ClientSessions :=
  match s.lifecycle with
  | .stopped =>
      some
        { steps :=
            { s.steps with
              requestChannel := 0
              timer := { armed := some defaultTimeoutTick, tick := false }
              rdy := true
              pump := .select
              accepted := 0
              written := []
              popped := []
              outcomes := [] }
          lifecycle := .running }
  | _ => none

def act (s : ClientSessions) (a : Action) : Option ClientSessions :=
  match s.steps.pump with
  | .crashed => none
  | _ =>
      match a with
      | .step a => s.step a
      | .stop => some s.stop
      | .exit => s.exit
      | .start => s.restart

/-- All runs of one dispatcher, over any number of sessions. -/
def machine (queueCapacity : Nat) (timeout : Int) : Machine ClientSessions Action where
  init := fun s => s = fresh queueCapacity timeout []
  act := act

end ClientSessions

end OcppGo.Ocppj
