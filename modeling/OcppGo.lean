import OcppGo.Proof.CentralCallbacks
import OcppGo.Proof.ChargePointCallbacks
import OcppGo.Proof.ClientCorrelation
import OcppGo.Proof.ServerConservation
import OcppGo.Proof.ServerIsolation
import OcppGo.Proof.ServerTransmission
import OcppGo.Proof.ClientCoherence
import OcppGo.Proof.ClientWakeup
import OcppGo.Proof.ServerCoherence
import OcppGo.Proof.IncomingReplies
import OcppGo.Connections
import OcppGo.Proof.ConnectionRegistry
import OcppGo.Proof.ServerWakeup
import OcppGo.Proof.ServerTimeouts
import OcppGo.Lib.Utf8
import OcppGo.Lib.JsonString
import OcppGo.Ocppj.JsonText
import OcppGo.Ocppj.Marshal
import OcppGo.Proof.MessageRoundTrip
import OcppGo.Ocppj.Link
import OcppGo.Proof.LinkReplies
import OcppGo.IncomingRequests
import OcppGo.Proof.IncomingCalls
import OcppGo.Proof.ClientPause
import OcppGo.Proof.ClientBlocking
import OcppGo.Proof.ClientTimeouts
import OcppGo.Lib.Chan
import OcppGo.Lib.RWMutex
import OcppGo.Ws.Server
import OcppGo.Proof.SocketRegistry
import OcppGo.Ocppj.ClientSessions
import OcppGo.Proof.ClientRestart
import OcppGo.ChargingStation
import OcppGo.Proof.StationSessions
import OcppGo.Ocppj.ServerSteps
import OcppGo.Proof.ServerStepMoves
import OcppGo.Proof.ServerBlocking
import OcppGo.Proof.ServerTimeoutRaces
import OcppGo.Ocppj.ServerLocks
import OcppGo.Proof.ServerLockWaits
import OcppGo.ChargePointLocks
import OcppGo.Proof.ChargePointLockWaits
import OcppGo.Proof.SocketClosing
import OcppGo.Proof.MalformedMessages
import OcppGo.Proof.ValidationSwitch
import OcppGo.Lib.Validator
import OcppGo.Types.ChargingProfiles
import OcppGo.Proof.ChargingSchedules
import OcppGo.Lib.Rounding
import OcppGo.Ocppj.Integers
import OcppGo.Proof.IntegerFields
import OcppGo.Proof.ServerOrder
import OcppGo.Ws.Client
import OcppGo.Proof.SocketClientMoves
import OcppGo.Proof.SocketSuccession
import OcppGo.Proof.SocketStop
import OcppGo.Proof.SocketChannels
import OcppGo.CallbackMap
import OcppGo.Proof.CallbackRefinement
import OcppGo.Ocppj.StateCalls
import OcppGo.Proof.PendingRefinement
import OcppGo.Proof.DateTimeDecoding
import OcppGo.Ws.ClientStart
import OcppGo.Ws.Reconnection
import OcppGo.Lib.Url
import OcppGo.Proof.ClientIdentity
import OcppGo.Proof.FailedStart
import OcppGo.Proof.BackOff
import OcppGo.Ws.StopConnection
import OcppGo.Proof.StopSafety
import OcppGo.Lib.SharedTimer
import OcppGo.Proof.TimerTurns
import OcppGo.Lib.Conveyor
import OcppGo.Proof.SocketClientTraffic
import OcppGo.Proof.PeerRequests
import OcppGo.Proof.Quiescence
