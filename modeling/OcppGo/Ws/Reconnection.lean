import OcppGo.Ws.ClientStart

/-!
# Reconnecting

`handleReconnection` and `StartWithRetries` of `ws/websocket.go`: a loop that waits,
calls `Start`, and after a failure doubles the wait and adds a random part, a limited
number of times. How its `select` and its dials end is an input, round by round, and
so are the numbers `rand.Intn` returns.

Integers are exact here, and `wrap` is applied to the result of every operation: it is
the identity where overflow is left out of account, and `wrap64` for the integers of the
code.
-/

namespace OcppGo.Ws

/-- A 64-bit signed integer, in two's complement. -/
def wrap64 (n : Int) : Int := n.bmod 18446744073709551616

/-- `rand.Intn(n)`, whose result is the next of the draws; `none` is its panic. -/
def intn (draws : Nat → Int) (drawn : Nat) (n : Int) : Option Int :=
  if 0 < n then some (draws drawn) else none

/-- The variables of `handleReconnection`. -/
structure BackOff where
  delay : Int
  reconnectionAttempts : Int
  /-- How many numbers were drawn. -/
  drawn : Nat
deriving Repr, DecidableEq

namespace BackOff

variable (wrap : Int → Int) (config : ClientTimeoutConfig) (draws : Nat → Int)

/-- `time.Duration(rand.Intn(RetryBackOffRandomRange + 1)) * time.Second`. -/
def randomPart (drawn : Nat) : Option Int :=
  (intn draws drawn (wrap (config.retryBackOffRandomRange + 1))).map fun r => wrap (r * second)

/-- Before the loop. -/
def start : Option BackOff :=
  (randomPart wrap config draws 0).map fun r =>
    { delay := wrap (config.retryBackOffWaitMinimum + r), reconnectionAttempts := 1, drawn := 1 }

/-- `delay *= 2`, and the random part is added. -/
def double (b : BackOff) : Option BackOff :=
  (randomPart wrap config draws b.drawn).map fun r =>
    { b with delay := wrap (wrap (b.delay * 2) + r), drawn := b.drawn + 1 }

/-- An attempt has failed. -/
def failed (b : BackOff) : Option BackOff :=
  (if b.reconnectionAttempts < config.retryBackOffRepeatTimes then b.double wrap config draws
    else some b).map fun b =>
      { b with reconnectionAttempts := wrap (b.reconnectionAttempts + 1) }

/-- After `n` failed attempts. -/
def after : Nat → Option BackOff
  | 0 => start wrap config draws
  | n + 1 => (after n).bind (failed wrap config draws)

end BackOff

/-- How one round of the loop goes. -/
inductive Round where
  /-- `reconnectC` is closed. -/
  | stop
  /-- The wait is over, and the dial ends like this. -/
  | timer (dial : DialResult)
deriving Repr, DecidableEq

/-- Where the loop has got to. -/
inductive Reconnection (σ : Type) where
  | panics
  | waiting (s : σ) (b : BackOff)
  /-- It returned without a connection. -/
  | stopped (s : σ)
  | connected (s : σ)

namespace ClientFields

variable {υ η : Type} (wrap : Int → Int) (lib : UrlLibrary υ) (draws : Nat → Int)

/-- One round. -/
def round (s : ClientFields υ η) (b : BackOff) : Round → Reconnection (ClientFields υ η)
  | .stop => .stopped s
  | .timer dial =>
      match s.start lib (lib.string s.url) dial with
      | .panics => .panics
      | .connected s => .connected s
      | .failed _ s =>
          match b.failed wrap s.timeoutConfig draws with
          | none => .panics
          | some b => .waiting s b

/-- The loop, as far as the rounds go. -/
def rounds (s : ClientFields υ η) (b : BackOff) : List Round → Reconnection (ClientFields υ η)
  | [] => .waiting s b
  | r :: rs =>
      match s.round wrap lib draws b r with
      | .waiting s b => s.rounds b rs
      | result => result

def handleReconnection (s : ClientFields υ η) (rs : List Round) :
    Reconnection (ClientFields υ η) :=
  match BackOff.start wrap s.timeoutConfig draws with
  | none => .panics
  | some b => s.rounds wrap lib draws b rs

def startWithRetries (s : ClientFields υ η) (urlStr : List UInt8) (dial : DialResult)
    (rs : List Round) : Reconnection (ClientFields υ η) :=
  match s.start lib urlStr dial with
  | .panics => .panics
  | .connected s => .connected s
  | .failed _ s => s.handleReconnection wrap lib draws rs

end ClientFields

end OcppGo.Ws
