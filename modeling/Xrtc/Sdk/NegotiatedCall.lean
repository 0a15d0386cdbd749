import Xrtc.Rtp.RtpUtils
import Xrtc.Sdk.RtcpReceiver
import Xrtc.Sdk.Signaling
import Xrtc.Sdk.VideoCall

/-!
# `Xrtc.Sdk.NegotiatedCall`: a call behind its transport

The model of `OnReadPacket` of `xrtcsdk/xrtc/rtc/pc/transport_controller.cpp`, of
`OnRtcpPacketReceived`, `OnIceState` and the observer of `peer_connection.cpp`, and of
`DeliverRtcp` of `video/video_send_stream.cpp`. It puts `Xrtc.Sdk.Signaling`, `Xrtc.Sdk.VideoCall`
and `Xrtc.Sdk.RtcpReceiver` together: an answer makes the video stream, and what the network
brings is parsed and answered.

The sender and the receiver of a module read the same clock. Each has its own readings here,
`clock` and `receiverClock`, as any other object may read the clock between two of them.
-/

set_option autoImplicit false

namespace Xrtc.Sdk

open Xrtc.Ice (IceTransportState)
open Xrtc.Lib
open Xrtc.Rtp

/-- What `SignalNetworkInfo` is raised with. -/
structure NetworkInfo where
  rttMs : Nat
  packetsLost : Int
  fractionLost : UInt8
  jitter : UInt32
  deriving DecidableEq, Repr

/-- A connection that has answered with video: the call, the receiver of its module, and what
`SignalNetworkInfo` was raised with so far. -/
structure NegotiatedCall where
  call : VideoCall
  rtcpReceiver : RTCPReceiver
  networkInfo : List NetworkInfo := []

namespace NegotiatedCall

/-- `OnNetworkInfo` and `OnNackReceived`, the calls of the observer. -/
def observe (s : NegotiatedCall) : ObserverCall → Option NegotiatedCall
  | .onNetworkInfo rttMs packetsLost fractionLost jitter =>
      some
        { s with networkInfo := s.networkInfo ++ [⟨rttMs, packetsLost, fractionLost, jitter⟩] }
  | .onNackReceived _ packetIds => do
      let call ← s.call.onNackReceived packetIds
      return { s with call }

/-- The calls of the observer in a record, in order. -/
def observerCalls (log : List FeedbackEntry) : List ObserverCall :=
  log.filterMap fun
    | .observer _ call => some call
    | .handled _ => none

variable (receiverClock : Clock)

/-- `DeliverRtcp` and `IncomingRtcpPacket`. The receiver does not look at the connection, so the
calls of the observer can follow its work. -/
def deliverRtcp (s : NegotiatedCall) (packet : Bytes) : Option NegotiatedCall :=
  let receiver := { s.rtcpReceiver with log := [] }
  let (_, rtcpReceiver) := receiver.incomingRtcpPacket receiverClock packet
  (observerCalls rtcpReceiver.log).foldlM observe { s with rtcpReceiver }

/-- `OnRtcpPacketReceived`. -/
def onRtcpPacketReceived (s : NegotiatedCall) (data : Bytes) : Option NegotiatedCall :=
  if s.call.pc.videoSendStream.isSome then s.deliverRtcp receiverClock data else some s

/-- `OnReadPacket`. Nobody has connected `SignalRtpPacketReceived`. -/
def onReadPacket (s : NegotiatedCall) (data : Bytes) : Option NegotiatedCall :=
  match SdkRtpUtils.inferRtpPacketType data with
  | .unknown => some s
  | .rtcp => s.onRtcpPacketReceived receiverClock data
  | .rtp => some s

/-- `OnIceState`. -/
def onIceState (s : NegotiatedCall) (iceState : IceTransportState) : NegotiatedCall :=
  { s with call := { s.call with pc := s.call.pc.onIceState iceState } }

/-! ### Runs -/

/-- What happens to a call from outside: an image to send, a datagram, a task of the module
that is due, and a state of ICE. -/
inductive Event where
  | image (frame : MediaFrame) (captureTimeMs : Int) (idr : Bool)
  | datagram (data : Bytes)
  | task (index : Nat)
  | iceState (iceState : IceTransportState)

variable (clock : Clock) (rand : Nat → Int → Int → Int)

/-- The state after an event, if it is defined. -/
def step (fuel : Nat) (s : NegotiatedCall) : Event → Option NegotiatedCall
  | .image frame captureTimeMs idr => do
      let call ← s.call.sendEncodedImage clock rand fuel frame captureTimeMs idr
      return { s with call }
  | .datagram data => s.onReadPacket receiverClock data
  | .task index => do
      let call ← s.call.fireTask clock rand fuel index
      return { s with call }
  | .iceState iceState => some (s.onIceState iceState)

/-- `CreateAnswer` with video. `CreateVideoSendStream` takes the ssrc of the module from the
first stream of the section, and makes the connection the observer. -/
def start (fuel : Nat) (pc : Signaling) (options : RTCOfferAnswerOptions) (streamId : Bytes)
    (random : AnswerRandom) : Option NegotiatedCall := do
  let (_, answered) := pc.createAnswer { options with sendVideo := true } streamId random
  let call ← VideoCall.start clock rand fuel answered.toPeerConnection random.videoSsrc
  return { call, rtcpReceiver := .new (createRtpRtcpModule random.videoSsrc) true }

end NegotiatedCall

end Xrtc.Sdk
