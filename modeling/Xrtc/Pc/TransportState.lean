import Mathlib.Logic.Function.Basic
import Mathlib.Logic.Function.Iterate
import Xrtc.Ice.IceState
import Xrtc.Pc.PeerConnectionDef
import Xrtc.Pc.SrtpTransport

/-!
# `Xrtc.Pc.TransportState`: the transports of a peer connection

The objects of a `TransportController` with its `IceAgent`: for each name one
`IceTransportChannel`, the `DtlsTransport` above it and the `DtlsSrtpTransport` above
that. `names` are the keys of the two maps of the controller, which are the names of the
channels of the agent. Signals are calls: a method calls the slots of the signal it
raises, in the order they were connected.

The SSL adapter under a `DtlsTransport` is a parameter (`SslAdapter`). It answers its
calls as it likes, each call having a number of its own, and it may raise events before
a call returns. Every adapter that is created is a new session, and only the material it
exports is a function of the session.

`log` and the two counters `calls` and `sessions` are not part of the program. `log`
lists, latest first, what the transports have done.

`updateState` and `IceAgent.updateState` are the two `_update_state`, of
`rtcserver/src/pc/transport_controller.cpp` and `ice/ice_agent.cpp`.
-/

set_option autoImplicit false

namespace Xrtc.Pc

open Xrtc.Lib
open Xrtc.Ice (IceTransportChannel IceTransportState)

/-! ### The adapter -/

/-- An `rtc::SSLStreamAdapter` object. -/
abbrev Session := Nat

/-- An `rtc::RTCCertificate` object. -/
abbrev Certificate := Nat

/-- `rtc::SSLPeerCertificateDigestError`. -/
inductive SSLPeerCertificateDigestError where
  | none
  | unknownAlgorithm
  | invalidLength
  | verificationFailed
  deriving DecidableEq, Repr

/-- The result of the last `Read` of an event, the one that does not succeed. -/
inductive ReadEnd where
  | block
  | eos
  | error
  deriving DecidableEq, Repr

/-- An event of the adapter: `SE_OPEN`, `SE_READ` with what the reads end in, and
`SE_CLOSE` with its error code. -/
structure SslEvent where
  opened : Bool := false
  read : Option ReadEnd := none
  closed : Option Int := none
  deriving DecidableEq, Repr

/-- `rtc::SSLStreamAdapter` and libsrtp. The number is the number of the call. -/
structure SslAdapter where
  create : Nat → Bool
  setPeerCertificateDigest : Nat → SSLPeerCertificateDigestError
  setDtlsSrtpCryptoSuites : Nat → Bool
  /-- `StartSSL`, with the events raised in it. -/
  startSSL : Nat → List SslEvent × Int
  /-- The events that a packet in the queue of the adapter makes it raise. -/
  onRead : Nat → List SslEvent
  getDtlsSrtpCryptoSuite : Nat → Option Int
  /-- `ExportKeyingMaterial` succeeds. -/
  exportKeyingMaterial : Nat → Bool
  /-- The material that a session exports. -/
  material : Session → (len : Nat) → Vector UInt8 len
  srtp : Libsrtp

/-! ### The transports -/

/-- `DtlsTransportState`. -/
inductive DtlsTransportState where
  | new
  | connecting
  | connected
  | closed
  | failed
  deriving DecidableEq, Repr

/-- `DtlsTransport`. Its `_downward` is the stream of the adapter. -/
structure DtlsTransport where
  dtlsState : DtlsTransportState := .new
  receiving : Bool := false
  writable : Bool := false
  dtls : Option Session := none
  cachedClientHello : Bytes := []
  localCertificate : Option Certificate := none
  remoteFingerprintValue : Bytes := []
  remoteFingerprintAlg : Bytes := []
  dtlsActive : Bool := false
  /-- `GetSupportedDtlsSrtpCryptoSuites` of the default options. -/
  srtpCiphers : List Int := [1]
  deriving DecidableEq, Repr

/-- A channel and the two transports above it. RTP and RTCP are multiplexed, and there
is no DTLS transport for RTCP. -/
structure Transport where
  channel : IceTransportChannel := {}
  dtls : DtlsTransport := {}
  srtp : SrtpTransport := {}
  deriving DecidableEq, Repr

/-- Something a transport did. -/
inductive Entry where
  | startSSL (name : Bytes)
  | handlePacket (name : Bytes) (data : Bytes)
  | receivedPacket (name : Bytes) (data : Bytes)
  | readPacket (name : Bytes) (data : Bytes) (ts : Int)
  | closed (name : Bytes)
  | connectionState (state : PeerConnectionState)
  deriving DecidableEq, Repr

/-- `TransportController` with its `IceAgent`, whose `_ice_state` is `iceState`. -/
structure TransportController where
  names : List Bytes := []
  transports : Bytes → Transport := fun _ => {}
  localCertificate : Option Certificate := none
  iceState : IceTransportState := .new
  pcState : PeerConnectionState := .new
  calls : Nat := 0
  sessions : Session := 0
  log : List Entry := []

namespace TransportController

/-- Adds an entry to the record. -/
def push (c : TransportController) (e : Entry) : TransportController := { c with log := e :: c.log }

/-- Counts a call of the adapter. -/
def tick (c : TransportController) : TransportController := { c with calls := c.calls + 1 }

/-- A change of the transport of a name. -/
def modify (c : TransportController) (name : Bytes) (f : Transport → Transport) :
    TransportController :=
  { c with transports := Function.update c.transports name (f (c.transports name)) }

/-- A change of the `DtlsTransport` of a name. -/
def modifyDtls (c : TransportController) (name : Bytes) (f : DtlsTransport → DtlsTransport) :
    TransportController :=
  c.modify name fun t => { t with dtls := f t.dtls }

section

variable (c : TransportController) (name : Bytes) (f : Transport → Transport) (e : Entry)

/-- An event put down does not touch the transports. -/
@[simp] theorem push_transports : (c.push e).transports = c.transports := rfl

/-- Nor their names. -/
@[simp] theorem push_names : (c.push e).names = c.names := rfl

/-- A tick of the clock does not touch the transports. -/
@[simp] theorem tick_transports : c.tick.transports = c.transports := rfl

/-- Nor their names. -/
@[simp] theorem tick_names : c.tick.names = c.names := rfl

/-- A transport that is modified keeps its name. -/
@[simp] theorem modify_names : (c.modify name f).names = c.names := rfl

/-- The aggregated states are not computed by it. -/
@[simp] theorem modify_iceState : (c.modify name f).iceState = c.iceState := rfl

/-- Neither the ICE one nor that of the connection. -/
@[simp] theorem modify_pcState : (c.modify name f).pcState = c.pcState := rfl

/-- The transport itself is modified. -/
@[simp] theorem modify_self : (c.modify name f).transports name = f (c.transports name) :=
  Function.update_self ..

/-- Every other one is left alone. -/
theorem modify_of_ne {other : Bytes} (h : other ≠ name) :
    (c.modify name f).transports other = c.transports other :=
  Function.update_of_ne h ..

end

/-! ### The aggregated states -/

/-- `ice_state_counts[state]`. -/
def iceStateCount (c : TransportController) (state : IceTransportState) : Nat :=
  c.names.countP fun name => (c.transports name).channel.state = state

/-- `dtls_state_counts[state]`. -/
def dtlsStateCount (c : TransportController) (state : DtlsTransportState) : Nat :=
  c.names.countP fun name => (c.transports name).dtls.dtlsState = state

/-- The state that `TransportController::_update_state` computes. -/
def computePcState (c : TransportController) : PeerConnectionState :=
  let totalConnected := c.iceStateCount .connected + c.dtlsStateCount .connected
  let totalDtlsConnecting := c.dtlsStateCount .connecting
  let totalFailed := c.iceStateCount .failed + c.dtlsStateCount .failed
  let totalClosed := c.iceStateCount .closed + c.dtlsStateCount .closed
  let totalNew := c.iceStateCount .new + c.dtlsStateCount .new
  let totalIceChecking := c.iceStateCount .checking
  let totalIceDisconnected := c.iceStateCount .disconnected
  let totalIceCompleted := c.iceStateCount .completed
  let totalTransports := c.names.length * 2
  if totalFailed > 0 then .failed
  else if totalIceDisconnected > 0 then .disconnected
  else if totalNew + totalClosed = totalTransports then .new
  else if totalIceChecking + totalDtlsConnecting + totalNew > 0 then .connecting
  else if totalConnected + totalIceCompleted + totalClosed = totalTransports then .connected
  else .new

/-- `TransportController::_update_state`. -/
def updateState (c : TransportController) : TransportController :=
  let pcState := c.computePcState
  if c.pcState ≠ pcState then { c with pcState }.push (.connectionState pcState) else c

section

variable (c : TransportController)

/-- The aggregation reads the transports and changes none. -/
@[simp] theorem updateState_transports : c.updateState.transports = c.transports := by
  unfold updateState
  dsimp only
  split <;> rfl

/-- It keeps the list of them. -/
@[simp] theorem updateState_names : c.updateState.names = c.names := by
  unfold updateState
  dsimp only
  split <;> rfl

/-- The ICE state is aggregated apart from it. -/
@[simp] theorem updateState_iceState : c.updateState.iceState = c.iceState := by
  unfold updateState
  dsimp only
  split <;> rfl

/-- The state of the connection is the computed one behind it, whether or not it was signalled. -/
theorem updateState_pcState : c.updateState.pcState = c.computePcState := by
  unfold updateState
  dsimp only
  split
  · rfl
  · rename_i h
    exact not_not.mp h

end

end TransportController

/-- The state that `IceAgent::_update_state` computes. -/
def IceAgent.computeIceState (c : TransportController) : IceTransportState :=
  let totalIceNew := c.iceStateCount .new
  let totalIceChecking := c.iceStateCount .checking
  let totalIceConnected := c.iceStateCount .connected
  let totalIceCompleted := c.iceStateCount .completed
  let totalIceFailed := c.iceStateCount .failed
  let totalIceDisconnected := c.iceStateCount .disconnected
  let totalIceClosed := c.iceStateCount .closed
  let totalIce := c.names.length
  if totalIceFailed > 0 then .failed
  else if totalIceDisconnected > 0 then .disconnected
  else if totalIceNew + totalIceClosed = totalIce then .new
  else if totalIceNew + totalIceChecking > 0 then .checking
  else if totalIceCompleted + totalIceClosed = totalIce then .completed
  else if totalIceConnected + totalIceCompleted + totalIceClosed = totalIce then .connected
  else .new

/-- `signal_ice_state`. The controller has connected `_on_ice_state` to it once for each
transport. -/
def IceAgent.signalIceState (c : TransportController) : TransportController :=
  TransportController.updateState^[c.names.length] c

/-- `IceAgent::_update_state`. -/
def IceAgent.updateState (c : TransportController) : TransportController :=
  let iceState := IceAgent.computeIceState c
  if c.iceState ≠ iceState then
    -- the connected state is not skipped
    let c :=
      if c.iceState = .checking ∧ iceState = .completed then IceAgent.signalIceState c else c
    IceAgent.signalIceState { c with iceState }
  else c

end Xrtc.Pc
