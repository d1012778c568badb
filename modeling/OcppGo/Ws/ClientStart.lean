import OcppGo.Lib.Url
import OcppGo.Ws.Client

/-!
# Starting the websocket client

`Start` of `ws/websocket.go` as one goroutine runs it, with the fields that
`OcppGo/Ws/Client.lean` leaves out: the URL, the handlers and the timeouts. There the
same call is cut into steps that other goroutines may interrupt. `Client.Start` of
`ocppj/client.go` is on top: it sets the handlers, adds its id to the URL, and starts
its dispatcher once the websocket is connected.

URLs are lists of bytes, as Go's strings are. What `net/url` makes of them is a
parameter, and so is how a dial ends.

The id is at the end of the URL that is dialled, and `wsHandler` of the server takes it
from the path of the request again, if the router leads the request there.
-/

namespace OcppGo.Ws

/-- `net/url`; on malformed input `Parse` returns a nil URL with its error. -/
structure UrlLibrary (υ : Type) where
  parse : List UInt8 → Except String υ
  /-- `URL.String`. -/
  string : υ → List UInt8
  /-- The zero value. -/
  zero : υ

/-- The response of a server that does not upgrade. -/
structure HttpResponse where
  status : String
  statusCode : Nat
  body : String
deriving Repr, DecidableEq

/-- How `dialer.Dial` ends. -/
inductive DialResult where
  | connects
  | fails (err : String) (resp : Option HttpResponse)
deriving Repr, DecidableEq

/-- The error `Start` returns. -/
inductive StartError where
  | dial (err : String)
  /-- `HttpConnectionError`. -/
  | http (message httpStatus : String) (httpCode : Nat) (details : String)
deriving Repr, DecidableEq

/-- `ClientTimeoutConfig`, as far as the back-off reads it; the minimum is in nanoseconds. -/
structure ClientTimeoutConfig where
  retryBackOffRepeatTimes : Int
  retryBackOffRandomRange : Int
  retryBackOffWaitMinimum : Int
deriving Repr, DecidableEq

/-- `time.Second`, in nanoseconds. -/
def second : Int := 1000000000

/-- `NewClientTimeoutConfig`. -/
def ClientTimeoutConfig.new : ClientTimeoutConfig where
  retryBackOffRepeatTimes := 5
  retryBackOffRandomRange := 15
  retryBackOffWaitMinimum := 10 * second

/-- The fields of a client; handlers are values of `η`. -/
structure ClientFields (υ η : Type) where
  client : Client
  url : υ
  messageHandler : Option η
  onDisconnected : Option η
  onReconnected : Option η
  timeoutConfig : ClientTimeoutConfig
  /-- How many goroutines `writePump` and `readPump` were started. -/
  pumps : Nat

/-- The client after the assignments of a successful `Start`. -/
def Client.connect (c : Client) : Client :=
  { c with
    sockets := c.sockets ++ [.new], webSocket := some c.sockets.length
    reconnectCs := c.reconnectCs ++ [.make 0], reconnectC := some c.reconnectCs.length
    connected := true }

/-- How a call of `Start` ends. -/
inductive Started (σ : Type) where
  | panics
  | connected (s : σ)
  | failed (err : StartError) (s : σ)

/-- The error for a failed dial, with the details of the response if there is one. -/
def dialError (err : String) : Option HttpResponse → StartError
  | none => .dial err
  | some resp => .http err resp.status resp.statusCode resp.body

namespace ClientFields

variable {υ η : Type}

/-- `NewClient`. -/
def new (lib : UrlLibrary υ) : ClientFields υ η where
  client := .new
  url := lib.zero
  messageHandler := none
  onDisconnected := none
  onReconnected := none
  timeoutConfig := .new
  pumps := 0

def setTimeoutConfig (s : ClientFields υ η) (config : ClientTimeoutConfig) : ClientFields υ η :=
  { s with timeoutConfig := config }

def start (lib : UrlLibrary υ) (s : ClientFields υ η) (urlStr : List UInt8) (dial : DialResult) :
    Started (ClientFields υ η) :=
  match lib.parse urlStr with
  -- `client.url = *url` comes before the error is looked at
  | .error _ => .panics
  | .ok url =>
      match dial with
      | .fails err resp => .failed (dialError err resp) { s with url := url }
      | .connects =>
          .connected { s with url := url, client := s.client.connect, pumps := s.pumps + 2 }

end ClientFields

/-! ## The client of `ocppj` -/

/-- The methods `ocppMessageHandler`, `onDisconnected` and `onReconnected`. -/
structure Handlers (η : Type) where
  message : η
  disconnected : η
  reconnected : η

structure OcppjClient (υ η : Type) where
  id : List UInt8
  client : ClientFields υ η
  /-- How often `dispatcher.Start` was called. -/
  dispatcherStarts : Nat

namespace OcppjClient

variable {υ η : Type}

def setHandlers (c : OcppjClient υ η) (h : Handlers η) : ClientFields υ η :=
  { c.client with
    messageHandler := some h.message
    onDisconnected := some h.disconnected
    onReconnected := some h.reconnected }

/-- `fmt.Sprintf("%v/%v", serverURL, c.Id)`. -/
def fullUrl (c : OcppjClient υ η) (serverURL : List UInt8) : List UInt8 :=
  serverURL ++ 0x2F :: c.id

def start (lib : UrlLibrary υ) (h : Handlers η) (c : OcppjClient υ η) (serverURL : List UInt8)
    (dial : DialResult) : Started (OcppjClient υ η) :=
  match (c.setHandlers h).start lib (c.fullUrl serverURL) dial with
  | .panics => .panics
  | .connected s =>
      .connected { c with client := s, dispatcherStarts := c.dispatcherStarts + 1 }
  | .failed err s => .failed err { c with client := s }

end OcppjClient

/-! ## The request that arrives -/

/-- `net/url`, on URLs with an authority. -/
def netUrl : UrlLibrary Lib.Url where
  parse s :=
    match Lib.Url.parse s with
    | some u => .ok u
    | none => .error "invalid URL"
  string := Lib.Url.string
  zero := ⟨[], [], [], [], [], []⟩

/-- The id `wsHandler` derives from a request line; the router does not lead every path there. -/
def handlerId (routes : List UInt8 → Bool) (target : List UInt8) : Option (List UInt8) :=
  ((Lib.Url.requestPath target).filter routes).map Lib.Url.base

/-- The id under which the server enters the client that dialled this URL. -/
def registeredId (routes : List UInt8 → Bool) (url : Lib.Url) : Option (List UInt8) :=
  handlerId routes url.requestURI

/-- A Go string as the server's map has it, a character for each byte. -/
def goString (bytes : List UInt8) : String :=
  String.ofList (bytes.map Char.ofUInt8)

end OcppGo.Ws
