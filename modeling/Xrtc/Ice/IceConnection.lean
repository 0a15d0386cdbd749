import Xrtc.Ice.Stun
import Xrtc.Lib.MachineInt

/-!
# `Xrtc.Ice.IceConnection`: the state of a candidate pair

The data of `rtcserver/src/ice/ice_connection.cpp`, `stun_request.cpp` and
`candidate.h`, and the parts of `IceConnection` that only read the connection.
What it does to the channel through its signals is in
`Xrtc.Ice.IceTransportChannel`.

Times are in milliseconds and signed. Where the source narrows one to an `int`,
the model takes it modulo `2 ^ 32` (`toInt32`), and where it adds to a sending time in
64 bits, modulo `2 ^ 64` (`toInt64`). `rtc::GetNextMovingAverage` works
on doubles, which are exact for these values, so its result is a division of
integers.
-/

set_option autoImplicit false

namespace Xrtc.Ice

open Xrtc.Lib

/-! ### Constants -/

/-- `WEAK_PING_INTERVAL`. -/
def weakPingInterval : Int := 48

/-- `STRONG_PING_INTERVAL`. -/
def strongPingInterval : Int := 480

/-- `STABLING_CONNECTION_PING_INTERVAL`. -/
def stablingConnectionPingInterval : Int := 900

/-- `STABLE_CONNECTION_PING_INTERVAL`. -/
def stableConnectionPingInterval : Int := 2500

/-- `MIN_PINGS_AT_WEAK_PING_INTERVAL`. -/
def minPingsAtWeakPingInterval : Nat := 3

/-- `WEAK_CONNECTION_RECEIVE_TIMEOUT`. -/
def weakConnectionReceiveTimeout : Int := 2500

/-- `CONNECTION_WRITE_CONNECT_FAILS`. -/
def connectionWriteConnectFails : Nat := 5

/-- `CONNECTION_WRITE_CONNECT_TIMEOUT`. -/
def connectionWriteConnectTimeout : Int := 5000

/-- `CONNECTION_WRITE_TIMEOUT`. -/
def connectionWriteTimeout : Int := 15000

/-- `RTT_RATIO`. -/
def rttRatio : Nat := 3

/-- `MIN_RTT`. -/
def minRtt : Int := 100

/-- `MAX_RTT`. -/
def maxRtt : Int := 60000

/-- `ICE_TYPE_PREFERENCE_PRFLX`. -/
def iceTypePreferencePrflx : UInt32 := 110

/-! ### Data -/

/-- `IceParameters`. -/
structure IceParameters where
  iceUfrag : Bytes := []
  icePwd : Bytes := []
  deriving DecidableEq, Repr

/-- `Candidate`, the fields that the connection code reads. -/
structure Candidate where
  address : SocketAddress
  priority : UInt32
  username : Bytes
  password : Bytes
  deriving DecidableEq, Repr

/-- `IceConnection::WriteState`. -/
inductive WriteState where
  | writable
  | writeUnreliable
  | writeInit
  | writeTimeout
  deriving DecidableEq, Repr

/-- The number of a write state in the source's enumeration. -/
def WriteState.toNat : WriteState → Nat
  | .writable => 0
  | .writeUnreliable => 1
  | .writeInit => 2
  | .writeTimeout => 3

/-- `IceCandidatePairState`, the values that are assigned. -/
inductive IceCandidatePairState where
  | waiting
  | inProgress
  | succeeded
  | failed
  deriving DecidableEq, Repr

/-- `IceConnection::SentPing`. -/
structure SentPing where
  id : Bytes
  sentTime : Int
  deriving DecidableEq, Repr

/-- `ConnectionRequest`: its transaction id, its type, and when it was sent. -/
structure StunRequest where
  id : Bytes
  type : UInt16
  ts : Int
  deriving DecidableEq, Repr

/-- `StunRequest::elapsed`, which narrows the difference to an `int`. -/
def StunRequest.elapsed (request : StunRequest) (now : Int) : Int := toInt32 (now - request.ts)

/-- `IceConnection`. `port` is the number of its UDP port, and `requests` is the
map of the `StunRequestManager`, with at most one entry for a transaction id. -/
structure IceConnection where
  port : Nat
  remoteCandidate : Candidate
  writeState : WriteState := .writeInit
  receiving : Bool := false
  selected : Bool := false
  lastPingSent : Int := 0
  lastPingReceived : Int := 0
  lastPingResponseReceived : Int := 0
  lastDataReceived : Int := 0
  numPingsSent : Nat := 0
  pingsSinceLastResponse : List SentPing := []
  requests : List StunRequest := []
  rtt : Int := 3000
  rttSamples : Nat := 0
  state : IceCandidatePairState := .waiting
  deriving DecidableEq, Repr

namespace IceConnection

/-! ### Queries -/

/-- `writable`. -/
def writable (c : IceConnection) : Bool := c.writeState == .writable

/-- `weak`. -/
def weak (c : IceConnection) : Bool := !(c.writable && c.receiving)

/-- `active`. -/
def active (c : IceConnection) : Bool := c.writeState != .writeTimeout

/-- `_miss_response`. -/
def missResponse (c : IceConnection) (now : Int) : Bool :=
  match c.pingsSinceLastResponse with
  | [] => false
  | ping :: _ => decide (toInt32 (2 * c.rtt) < toInt32 (now - ping.sentTime))

/-- `stable`. -/
def stable (c : IceConnection) (now : Int) : Bool :=
  decide (rttRatio + 1 < c.rttSamples) && !c.missResponse now

/-- `last_received`. -/
def lastReceived (c : IceConnection) : Int :=
  max (max c.lastPingReceived c.lastPingResponseReceived) c.lastDataReceived

/-- `receiving_timeout`. -/
def receivingTimeout : Int := weakConnectionReceiveTimeout

/-- The value `update_receiving` computes. -/
def computeReceiving (c : IceConnection) (now : Int) : Bool :=
  if c.lastPingSent < c.lastPingResponseReceived then true
  else decide (0 < c.lastReceived) && decide (now < c.lastReceived + receivingTimeout)

/-- `_too_many_ping_fails`. -/
def tooManyPingFails (c : IceConnection) (maxPings : Nat) (rtt now : Int) : Bool :=
  if c.pingsSinceLastResponse.length < maxPings then false
  else
    match c.pingsSinceLastResponse[maxPings - 1]? with
    | none => false
    | some ping =>
        let expectedResponseTime := toInt32 (ping.sentTime + rtt)
        decide (expectedResponseTime < now)

/-- `_too_long_without_response`. -/
def tooLongWithoutResponse (c : IceConnection) (minTime now : Int) : Bool :=
  match c.pingsSinceLastResponse with
  | [] => false
  | ping :: _ => decide (toInt64 (ping.sentTime + minTime) < now)

/-- The rtt bound `update_state` uses: twice the rtt between `MIN_RTT` and
`MAX_RTT`. -/
def responseBound (c : IceConnection) : Int :=
  let rtt := toInt32 (2 * c.rtt)
  if rtt < minRtt then minRtt else if maxRtt < rtt then maxRtt else rtt

/-- `priority`, given the local candidate. Twice the larger priority is computed in
32 bits. -/
def priority (c : IceConnection) (localCandidate : Candidate) : UInt64 :=
  let g := localCandidate.priority
  let d := c.remoteCandidate.priority
  ((min g d).toUInt64 <<< 32) + (2 * max g d).toUInt64 + (if d < g then 1 else 0)

/-! ### Updates -/

/-- `GetNextMovingAverage` with `RTT_RATIO`, narrowed to an `int`. -/
def nextMovingAverage (prevAverage cur : Int) : Int :=
  Int.tdiv (rttRatio * prevAverage + cur) (rttRatio + 1)

/-- The first half of `received_ping_response`: the rtt, the time of the response,
and no more unanswered pings. -/
def creditResponse (c : IceConnection) (rtt now : Int) : IceConnection :=
  { c with
      rtt := if 0 < c.rttSamples then nextMovingAverage c.rtt rtt else rtt
      rttSamples := c.rttSamples + 1
      lastPingResponseReceived := now
      pingsSinceLastResponse := [] }

/-- `maybe_set_remote_ice_params`. -/
def maybeSetRemoteIceParams (c : IceConnection) (params : IceParameters) : IceConnection :=
  if c.remoteCandidate.username = params.iceUfrag ∧ c.remoteCandidate.password = [] then
    { c with remoteCandidate := { c.remoteCandidate with password := params.icePwd } }
  else c

/-- `StunRequestManager::send`, its map: the request of an id replaces an older one
of the same id. -/
def insertRequest (c : IceConnection) (request : StunRequest) : IceConnection :=
  { c with requests := request :: c.requests.filter (·.id ≠ request.id) }

/-- The lookup of `check_response`. -/
def findRequest (c : IceConnection) (id : Bytes) : Option StunRequest :=
  c.requests.find? (·.id = id)

/-- `StunRequestManager::remove`. -/
def removeRequest (c : IceConnection) (id : Bytes) : IceConnection :=
  { c with requests := c.requests.filter (·.id ≠ id) }

/-- `ping`, without the packet: the ping is noted and its request is outstanding. -/
def notePing (c : IceConnection) (id : Bytes) (now : Int) : IceConnection :=
  { c.insertRequest ⟨id, stunBindingRequest, now⟩ with
      lastPingSent := now
      pingsSinceLastResponse := c.pingsSinceLastResponse ++ [⟨id, now⟩]
      state := .inProgress
      numPingsSent := c.numPingsSent + 1 }

end IceConnection

end Xrtc.Ice
