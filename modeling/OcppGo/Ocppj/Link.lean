import OcppGo.Ocppj.Server

/-!
# A client and a server connected to each other

One client of `ocppj/client.go`, one server of `ocppj/server.go`, and the frames on
their way between them, in order. Each side handles what arrives with its own
`ocppMessageHandler`, and what the error path of that function writes goes back on
the wire. Everything else a side may write, requests of its pump and answers of its
application, is any bytes at any time.

The two sides choose the ids of their requests independently of each other.
-/

namespace OcppGo.Ocppj

open Lib

/-- A frame on its way. -/
structure Frame where
  data : List UInt8
  /-- The bytes that made `ocppMessageHandler` write the frame, if it did. -/
  cause : Option (List UInt8)

structure LinkConfig where
  client : ClientConfig
  server : ServerConfig
  /-- The id the client is connected under. -/
  clientID : String

structure Link where
  client : Client
  server : ServerDispatcher
  toServer : List Frame
  toClient : List Frame

namespace Link

/-- Both sides are started, and the client is connected. -/
def start (cfg : LinkConfig) : Link where
  client := .start cfg.client
  server := Server.onClientConnected (.start cfg.server.queueCapacity cfg.server.timeout)
    cfg.clientID
  toServer := []
  toClient := []

/-- The frames among the calls of `ocppMessageHandler` for these bytes. -/
def written (lib : Library) (data : List UInt8) (calls : List HandlerCall) : List Frame :=
  calls.filterMap fun call =>
    match call with
    | .write callError =>
        match lib.marshal (.callError callError) with
        | .ok bytes => some { data := bytes, cause := some data }
        | .error _ => none
    | _ => none

/-- The atomic steps of a run. -/
inductive Action where
  /-- The client does something of its own. -/
  | client (a : Client.Action)
  /-- The server does something of its own, or receives a frame of another client. -/
  | server (op : Server.Operation)
  | clientWrites (data : List UInt8)
  | serverWrites (data : List UInt8)
  | serverReceives
  | clientReceives

/-- One step. The two sides get frames from each other off the wire only. -/
def act (cfg : LinkConfig) (s : Link) (a : Action) : Option Link :=
  match a with
  | .client (.ocppMessageHandler _) => none
  | .client a => (Client.act cfg.client s.client a).map fun c => { s with client := c }
  | .server (.ocppMessageHandler clientID data) =>
      if clientID = cfg.clientID then none
      else
        (Server.perform cfg.server s.server (.ocppMessageHandler clientID data)).map
          fun d => { s with server := d }
  | .server op => (Server.perform cfg.server s.server op).map fun d => { s with server := d }
  | .clientWrites data =>
      some { s with toServer := s.toServer ++ [{ data := data, cause := none }] }
  | .serverWrites data =>
      some { s with toClient := s.toClient ++ [{ data := data, cause := none }] }
  | .serverReceives =>
      match s.toServer with
      | [] => none
      | frame :: frames =>
          if s.server.status = .crashed then none
          else
            let handled := Server.ocppMessageHandler cfg.server s.server cfg.clientID frame.data
            some { s with
              server := handled.1
              toServer := frames
              toClient := s.toClient ++ written cfg.server.lib frame.data handled.2 }
  | .clientReceives =>
      match s.toClient with
      | [] => none
      | frame :: frames =>
          if s.client.dispatcher.status = .crashed then none
          else
            let handled := s.client.ocppMessageHandler cfg.client frame.data
            some { s with
              client := handled.1
              toClient := frames
              toServer := s.toServer ++ written cfg.client.lib frame.data handled.2 }

/-- All runs of the two sides. -/
def machine (cfg : LinkConfig) : Machine Link Action where
  init := fun s => s = start cfg
  act := act cfg

/-! ## The frames on the wires -/

/-- A frame written by `ocppMessageHandler` carries the bytes it was written for. -/
theorem mem_written {lib : Library} {data : List UInt8} {calls : List HandlerCall} {f : Frame}
    (h : f ∈ written lib data calls) :
    f.cause = some data ∧ ∃ callError, .write callError ∈ calls := by
  obtain ⟨call, hcall, hf⟩ := List.mem_filterMap.mp h
  split at hf
  · rename_i callError
    split at hf
    · cases hf
      exact ⟨rfl, callError, hcall⟩
    · exact absurd hf (by simp)
  · exact absurd hf (by simp)

/-- What a step does to the wires. -/
inductive WireStep (cfg : LinkConfig) (s s' : Link) : Action → Prop where
  | idle {a : Action} : s'.toServer = s.toServer → s'.toClient = s.toClient → WireStep cfg s s' a
  | clientWrites (data : List UInt8) :
      s'.toServer = s.toServer ++ [{ data := data, cause := none }] → s'.toClient = s.toClient →
      WireStep cfg s s' (.clientWrites data)
  | serverWrites (data : List UInt8) :
      s'.toServer = s.toServer → s'.toClient = s.toClient ++ [{ data := data, cause := none }] →
      WireStep cfg s s' (.serverWrites data)
  | serverReceives (frame : Frame) :
      s.toServer = frame :: s'.toServer →
      s'.toClient = s.toClient ++ written cfg.server.lib frame.data
        (Server.ocppMessageHandler cfg.server s.server cfg.clientID frame.data).2 →
      WireStep cfg s s' .serverReceives
  | clientReceives (frame : Frame) :
      s.toClient = frame :: s'.toClient →
      s'.toServer = s.toServer ++ written cfg.client.lib frame.data
        (s.client.ocppMessageHandler cfg.client frame.data).2 →
      WireStep cfg s s' .clientReceives

theorem act_wireStep {cfg : LinkConfig} {s s' : Link} {a : Action} (h : act cfg s a = some s') :
    WireStep cfg s s' a := by
  unfold act at h
  split at h
  · exact absurd h (by simp)
  · obtain ⟨c, _, rfl⟩ := Option.map_eq_some_iff.mp h
    exact .idle rfl rfl
  · split at h
    · exact absurd h (by simp)
    · obtain ⟨d, _, rfl⟩ := Option.map_eq_some_iff.mp h
      exact .idle rfl rfl
  · obtain ⟨d, _, rfl⟩ := Option.map_eq_some_iff.mp h
    exact .idle rfl rfl
  · cases h
    exact .clientWrites _ rfl rfl
  · cases h
    exact .serverWrites _ rfl rfl
  · split at h
    · exact absurd h (by simp)
    · rename_i frame frames hwire
      split at h
      · exact absurd h (by simp)
      · cases h
        exact .serverReceives frame hwire rfl
  · split at h
    · exact absurd h (by simp)
    · rename_i frame frames hwire
      split at h
      · exact absurd h (by simp)
      · cases h
        exact .clientReceives frame hwire rfl

end Link

end OcppGo.Ocppj
