import OcppGo.Ocppj.Client
import OcppGo.Ocppj.ServerDispatcher
import OcppGo.Lib.Run

/-!
# The OCPP-J server

`Server` of `ocppj/server.go` on top of the default dispatcher, between `Start`
and `Stop`. The server shares its pending request state with the dispatcher, so
its functions here take and return the dispatcher.

Every client may connect, disconnect and send any bytes at any time. In the steps at
the end three functions are taken apart, because another goroutine may run between
their halves: `SendRequest` gets a queue and pushes onto it later, a
disconnect deletes the client and clears its pending request later, and a reply
is parsed against the pending slot and completed later.
-/

namespace OcppGo.Ocppj

open Lib

/-- What is fixed when the server is started. -/
structure ServerConfig where
  endpoint : Endpoint
  lib : Library
  validationEnabled : Bool
  /-- `invalidMessageHook`, when one is registered; it is told which client sent the bytes. -/
  invalidMessageHook : Option (String → OcppError → List UInt8 → List Json → Option OcppError)
  timeout : Int
  queueCapacity : Nat

/-- What the server does with a client's frames, it does as a client of the same configuration. -/
def ServerConfig.forClient (cfg : ServerConfig) (clientID : String) : ClientConfig where
  endpoint := cfg.endpoint
  lib := cfg.lib
  validationEnabled := cfg.validationEnabled
  invalidMessageHook := cfg.invalidMessageHook.map (fun hook => hook clientID)
  timeout := cfg.timeout
  queueCapacity := cfg.queueCapacity

/-- A call of `SendRequest` that got a queue and has not pushed yet. -/
structure Sending where
  clientID : String
  queue : QueueRef
  req : RequestBundle

/-- The server, with the calls between their halves. -/
structure Server where
  dispatcher : ServerDispatcher
  sending : List Sending
  /-- Messages that were parsed and are not handled yet, with their senders. -/
  handling : List (String × Message)
  /-- Clients that were deleted and whose pending request is not cleared yet. -/
  leaving : List String

namespace Server

/-- `NewServer` and `Start`. -/
def start (cfg : ServerConfig) : Server where
  dispatcher := .start cfg.queueCapacity cfg.timeout
  sending := []
  handling := []
  leaving := []

/-! ## Requests -/

/-- `SendRequest`, up to its call of the dispatcher. -/
def createBundle (cfg : ServerConfig) (uniqueId : String) (request : Payload) :
    Except GoError RequestBundle :=
  match cfg.endpoint.createCall cfg.lib cfg.validationEnabled uniqueId request with
  | .error err => .error err
  | .ok call =>
      match cfg.lib.marshal (.call call) with
      | .error text => .error (.plain text)
      | .ok jsonMessage => .ok { call := call, data := jsonMessage }

/-- `SendRequest` as a whole, given what the id generator would return. -/
def sendRequest (cfg : ServerConfig) (d : ServerDispatcher) (clientID uniqueId : String)
    (request : Payload) : Except GoError ServerDispatcher :=
  match createBundle cfg uniqueId request with
  | .error err => .error err
  | .ok req =>
      match d.sendRequest clientID req with
      | .error text => .error (.plain text)
      | .ok d' => .ok d'

/-! ## Frames -/

/-- What is left to do for a frame once it was parsed. -/
inductive Received where
  /-- Nothing; these calls were made. -/
  | done (calls : List HandlerCall)
  | message (m : Message)

/-- `ocppMessageHandler`, as far as `ParseMessage` and its error path. -/
def parseFrame (cfg : ServerConfig) (d : ServerDispatcher) (clientID : String)
    (data : List UInt8) : ServerDispatcher × Received :=
  match cfg.lib.unmarshalArray data with
  | .error _ => (d, .done [])
  | .ok arr =>
      -- `GetClientState` makes a state for a client that has none
      let pending := d.pendingRequestState.getClientState clientID
      let d := { d with pendingRequestState := pending.1 }
      match cfg.endpoint.parseMessage cfg.lib arr pending.2 with
      | .panicked => ({ d with status := .crashed }, .done [])
      | .failed err =>
          let ocppErr := Client.hookedError (cfg.forClient clientID) err data arr
          if ocppErr.messageId ≠ "" then
            (d, .done (Client.sendError (cfg.forClient clientID) ocppErr.messageId ocppErr.code
              ocppErr.description none))
          else (d, .done [])
      | .discarded => (d, .done [])
      | .parsed m => (d, .message m)

/-- The rest of `ocppMessageHandler`, for a message that was parsed. -/
def handleMessage (d : ServerDispatcher) (clientID : String) (m : Message) :
    ServerDispatcher × List HandlerCall :=
  match m with
  | .call call => (d, [.requestHandler call.payload call.uniqueId call.action])
  | .callResult r =>
      (d.completeRequest clientID r.uniqueId, [.responseHandler r.payload r.uniqueId])
  | .callError e =>
      (d.completeRequest clientID e.uniqueId,
        [.errorHandler (newError e.errorCode e.errorDescription e.uniqueId) e.errorDetails])

/-- `ocppMessageHandler`, when nothing else runs meanwhile. -/
def ocppMessageHandler (cfg : ServerConfig) (d : ServerDispatcher) (clientID : String)
    (data : List UInt8) : ServerDispatcher × List HandlerCall :=
  match parseFrame cfg d clientID data with
  | (d, .done calls) => (d, calls)
  | (d, .message m) => handleMessage d clientID m

/-- The request a message is the outcome of. -/
def replyId : Message → Option String
  | .call _ => none
  | .callResult r => some r.uniqueId
  | .callError e => some e.uniqueId

/-! ## Connections -/

/-- `onClientConnected`. -/
def onClientConnected (d : ServerDispatcher) (clientID : String) : ServerDispatcher :=
  d.createClient clientID

/-- The second half of `onClientDisconnected`. -/
def clearPending (d : ServerDispatcher) (clientID : String) : ServerDispatcher :=
  { d with pendingRequestState := d.pendingRequestState.clearClientPendingRequest clientID }

/-- `onClientDisconnected`, up to the application's handler. -/
def onClientDisconnected (d : ServerDispatcher) (clientID : String) : ServerDispatcher :=
  clearPending (d.deleteClient clientID) clientID

/-! ## Runs -/

/-- The atomic steps of a run. -/
inductive Action where
  | onClientConnected (clientID : String)
  | deleteClient (clientID : String)
  | clearPending (clientID : String)
  /-- `SendRequest`, up to the dispatcher's `Get`. -/
  | getQueue (clientID uniqueId : String) (request : Payload)
  /-- The rest of the `SendRequest` at this position. -/
  | push (k : Nat)
  | messagePump (sel : ServerSelect) (write : Option String)
  | deadlineExceeded (clientID : String) (ctx : ContextId)
  | notifyTimeout (clientID : String)
  | parseFrame (clientID : String) (data : List UInt8)
  /-- The rest of `ocppMessageHandler` for the message at this position. -/
  | handleMessage (k : Nat)

/-- `SendRequest` until it holds a queue; without one it returns an error. -/
def getQueue (cfg : ServerConfig) (s : Server) (clientID uniqueId : String) (request : Payload) :
    Server :=
  match createBundle cfg uniqueId request, s.dispatcher.queueMap.get clientID with
  | .ok req, some r =>
      { s with sending := s.sending ++ [{ clientID := clientID, queue := r, req := req }] }
  | _, _ => s

/-- `SendRequest` pushes onto the queue it holds. A full queue refuses. -/
def push (s : Server) (k : Nat) : Option Server :=
  match s.sending[k]? with
  | none => none
  | some x =>
      match s.dispatcher.pushTo x.clientID x.queue x.req with
      | .error _ => some { s with sending := s.sending.eraseIdx k }
      | .ok d =>
          some { s with dispatcher := d, sending := s.sending.eraseIdx k }

/-- A frame is parsed, and the message in it, if any, kept for the second half. -/
def receiveFrame (cfg : ServerConfig) (s : Server) (clientID : String) (data : List UInt8) :
    Server :=
  match parseFrame cfg s.dispatcher clientID data with
  | (d, .done _) => { s with dispatcher := d }
  | (d, .message m) => { s with dispatcher := d, handling := s.handling ++ [(clientID, m)] }

/-- A parsed message is completed and handed to its handler. -/
def handle (s : Server) (k : Nat) : Option Server :=
  match s.handling[k]? with
  | none => none
  | some (clientID, m) =>
      some { s with
        dispatcher := (handleMessage s.dispatcher clientID m).1
        handling := s.handling.eraseIdx k }

/-- One step. Nothing happens once the process has crashed. -/
def act (cfg : ServerConfig) (s : Server) (a : Action) : Option Server :=
  if s.dispatcher.status = .crashed then none
  else
    match a with
    | .onClientConnected c => some { s with dispatcher := onClientConnected s.dispatcher c }
    | .deleteClient c =>
        some { s with dispatcher := s.dispatcher.deleteClient c, leaving := s.leaving ++ [c] }
    | .clearPending c =>
        if c ∈ s.leaving then
          some { s with
            dispatcher := Server.clearPending s.dispatcher c, leaving := s.leaving.erase c }
        else none
    | .getQueue c uid request => some (s.getQueue cfg c uid request)
    | .push k => s.push k
    | .messagePump sel write =>
        (s.dispatcher.pump sel write).map (fun d => { s with dispatcher := d })
    | .deadlineExceeded c ctx =>
        (s.dispatcher.deadlineExceeded c ctx).map (fun d => { s with dispatcher := d })
    | .notifyTimeout c =>
        (s.dispatcher.notifyTimeout c).map (fun d => { s with dispatcher := d })
    | .parseFrame c data => some (s.receiveFrame cfg c data)
    | .handleMessage k => s.handle k

/-! ## Runs of undivided operations -/

/-- The operations, each of them atomic. -/
inductive Operation where
  | onClientConnected (clientID : String)
  | onClientDisconnected (clientID : String)
  | sendRequest (clientID uniqueId : String) (request : Payload)
  | messagePump (sel : ServerSelect) (write : Option String)
  | deadlineExceeded (clientID : String) (ctx : ContextId)
  | notifyTimeout (clientID : String)
  | ocppMessageHandler (clientID : String) (data : List UInt8)

/-- One operation. Request ids are not empty, and a refused request changes nothing. -/
def perform (cfg : ServerConfig) (d : ServerDispatcher) (op : Operation) :
    Option ServerDispatcher :=
  if d.status = .crashed then none
  else
    match op with
    | .onClientConnected c => some (onClientConnected d c)
    | .onClientDisconnected c => some (onClientDisconnected d c)
    | .sendRequest c uid request =>
        if uid = "" then none
        else
          match sendRequest cfg d c uid request with
          | .error _ => some d
          | .ok d' => some d'
    | .messagePump sel write => d.pump sel write
    | .deadlineExceeded c ctx => d.deadlineExceeded c ctx
    | .notifyTimeout c => d.notifyTimeout c
    | .ocppMessageHandler c data => some (ocppMessageHandler cfg d c data).1

/-- All runs of one server between `Start` and `Stop`, an operation at a time. -/
def operations (cfg : ServerConfig) : Machine ServerDispatcher Operation where
  init := fun d => d = .start cfg.queueCapacity cfg.timeout
  act := perform cfg

/-! ## What the halves do -/

theorem createBundle_ok {cfg : ServerConfig} {uid : String} {request : Payload}
    {req : RequestBundle} (h : createBundle cfg uid request = .ok req) :
    req.call.uniqueId = uid := by
  unfold createBundle at h
  split at h
  · exact absurd h (by simp)
  · rename_i call hcall
    split at h
    · exact absurd h (by simp)
    · cases h
      rw [(Endpoint.createCall_ok hcall).1]

/-- An accepted request was pushed, under its id, onto the queue its client has. -/
theorem sendRequest_ok {cfg : ServerConfig} {d d' : ServerDispatcher} {c uid : String}
    {request : Payload} (h : sendRequest cfg d c uid request = .ok d') :
    ∃ r req, d.queueMap.get c = some r ∧ req.call.uniqueId = uid ∧ d.pushTo c r req = .ok d' := by
  unfold sendRequest at h
  split at h
  · exact absurd h (by simp)
  · rename_i req hreq
    split at h
    · exact absurd h (by simp)
    · rename_i d₁ hd
      cases h
      unfold ServerDispatcher.sendRequest at hd
      split at hd
      · exact absurd hd (by simp)
      · rename_i r hr
        exact ⟨r, req, hr, createBundle_ok hreq, hd⟩

/-- Handling a message completes the request it is the outcome of, and does nothing else. -/
theorem handleMessage_fst (d : ServerDispatcher) (c : String) (m : Message) :
    (handleMessage d c m).1
      = match replyId m with
        | none => d
        | some id => d.completeRequest c id := by
  cases m <;> rfl

/-- Parsing a frame creates a slot at most, unless it ends the process. -/
theorem parseFrame_eq {cfg : ServerConfig} {d d' : ServerDispatcher} {c : String}
    {data : List UInt8} {r : Received} (h : parseFrame cfg d c data = (d', r)) :
    ∃ pending status,
      d' = { d with pendingRequestState := pending, status := status }
        ∧ ∀ x, pending.clientState x = d.pendingRequestState.clientState x := by
  have hget := ServerState.clientState_getClientState d.pendingRequestState c
  unfold parseFrame at h
  split at h
  · cases h; exact ⟨_, _, rfl, fun _ => rfl⟩
  · dsimp only at h
    split at h
    · cases h; exact ⟨_, _, rfl, hget⟩
    · split at h
      · cases h; exact ⟨_, _, rfl, hget⟩
      · cases h; exact ⟨_, _, rfl, hget⟩
    · cases h; exact ⟨_, _, rfl, hget⟩
    · cases h; exact ⟨_, _, rfl, hget⟩

theorem parseFrame_frame {cfg : ServerConfig} {d d' : ServerDispatcher} {c : String}
    {data : List UInt8} {r : Received} (h : parseFrame cfg d c data = (d', r)) :
    d'.queueMap = d.queueMap ∧ d'.canceled = d.canceled ∧ d'.accepted = d.accepted
      ∧ ∀ x, d'.pendingRequestState.clientState x = d.pendingRequestState.clientState x := by
  obtain ⟨pending, status, rfl, hpending⟩ := parseFrame_eq h
  exact ⟨rfl, rfl, rfl, hpending⟩

/-- A parsed reply carries the id in its sender's slot. -/
theorem parseFrame_message {cfg : ServerConfig} {d d' : ServerDispatcher} {c id : String}
    {data : List UInt8} {m : Message} (h : parseFrame cfg d c data = (d', .message m))
    (hid : replyId m = some id) :
    id ≠ "" ∧ (d.pendingRequestState.clientState c).requestID = id := by
  unfold parseFrame at h
  split at h
  · exact absurd h (by simp)
  · dsimp only at h
    split at h
    · exact absurd h (by simp)
    · split at h <;> exact absurd h (by simp)
    · exact absurd h (by simp)
    · rename_i m' hm
      have hmm : m' = m := by injection h with _ h; injection h
      subst hmm
      have hok := Endpoint.parseMessage_parsed hm
      cases m' with
      | call _ => exact absurd hid (by simp [replyId])
      | callResult r =>
          cases hid
          exact ⟨hok.1, hok.2.1⟩
      | callError e =>
          cases hid
          exact ⟨hok.1, hok.2⟩

end Server

/-- A server that knows heartbeats only, with unbounded queues. -/
def heartbeatServer : ServerConfig where
  endpoint := heartbeatEndpoint
  lib := heartbeatLibrary
  validationEnabled := true
  invalidMessageHook := none
  timeout := 30
  queueCapacity := 0

end OcppGo.Ocppj
