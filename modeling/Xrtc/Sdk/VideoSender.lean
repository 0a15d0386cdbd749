import Mathlib.Logic.Function.Basic
import Xrtc.Ice.IceState
import Xrtc.Pc.PeerConnectionDef
import Xrtc.Rtp.Nack
import Xrtc.Rtp.RtpFormatH264

/-!
# `Xrtc.Sdk.VideoSender`: sending video and sending it again

The model of the video path of `xrtcsdk/xrtc/rtc/pc/peer_connection.cpp`:
`SendEncodedImage`, `OnNackReceived`, `OnIceState` and the packet cache, and what
`SetRemoteSDP` and `CreateAnswer` set for it, with `VideoSendStream::BuildRtxPacket` of
`video/video_send_stream.cpp`.

Every step gives the packets it hands to `TransportController::SendPacket`, in order. As in
`Xrtc.Rtp`, `none` stands for a call that has no result, which here includes the use of a
packet that could not be built. The reports and what they count are in `Xrtc.Sdk.RtpRtcp`.
-/

set_option autoImplicit false

namespace Xrtc.Sdk

open Xrtc.Lib
open Xrtc.Ice (IceTransportState)
open Xrtc.Pc (PeerConnectionState)
open Xrtc.Rtp

/-- `RtpPacketToSend` with all its header fields. -/
structure RtpPacket extends RtpPacketToSend where
  payloadType : UInt8 := 0
  sequenceNumber : UInt16 := 0
  timestamp : UInt32 := 0
  ssrc : UInt32 := 0
  deriving DecidableEq, Repr

/-- `MediaFrame`, the fields that are sent. Its length is an `int`. -/
structure MediaFrame where
  data : Bytes
  ts : UInt32
  length_lt : data.length < 2 ^ 31

/-! ### `VideoSendStream` -/

/-- `kRtxHeaderSize`. -/
def kRtxHeaderSize : Nat := 2

/-- `VideoSendStreamConfig::Rtp::Rtx`. -/
structure Rtx where
  ssrc : UInt32 := 0
  payloadType : Int := -1
  deriving DecidableEq, Repr

/-- `VideoSendStream`. -/
structure VideoSendStream where
  rtx : Rtx
  rtxSeq : UInt16 := 1000
  deriving DecidableEq, Repr

/-- `BuildRtxPacket`. Without room for the payload it returns a null pointer. -/
def VideoSendStream.buildRtxPacket (s : VideoSendStream) (packet : RtpPacket) :
    Option (RtpPacket × VideoSendStream) := do
  let rtxPacket : RtpPacket :=
    { payloadType := UInt8.ofInt s.rtx.payloadType
      ssrc := s.rtx.ssrc
      sequenceNumber := s.rtxSeq
      marker := packet.marker
      timestamp := packet.timestamp }
  let sent ← rtxPacket.allocatePayload (packet.payload.length + kRtxHeaderSize)
  let sent ← sent.write 0 (writeUInt16 packet.sequenceNumber)
  let sent ← sent.write kRtxHeaderSize packet.payload
  return ({ rtxPacket with toRtpPacketToSend := sent }, { s with rtxSeq := s.rtxSeq + 1 })

/-! ### `PeerConnection` -/

/-- `RTC_PACKET_CACHE_SIZE`. -/
def rtcPacketCacheSize : Nat := 2048

/-- `PeerConnection`, the fields of the video path. The cache has `rtcPacketCacheSize`
slots. -/
structure PeerConnection where
  pcState : PeerConnectionState := .new
  videoPt : UInt8 := 0
  videoRtxPt : UInt8 := 0
  localVideoSsrc : UInt32 := 0
  videoSeq : UInt16 := 1000
  videoCache : Nat → Option RtpPacket := fun _ => none
  videoSendStream : Option VideoSendStream := none

namespace PeerConnection

/-- `SetRemoteSDP`, the payload types of the video codecs of the offer. -/
def setVideoCodecs (pc : PeerConnection) (videoCodecs : List UInt8) : PeerConnection :=
  { pc with
      videoPt := videoCodecs[0]?.getD pc.videoPt
      videoRtxPt := videoCodecs[1]?.getD pc.videoRtxPt }

/-- `CreateVideoSendStream`, with the ssrcs of the first stream of the video section. -/
def createVideoSendStream (pc : PeerConnection) : (ssrcs : List UInt32) → PeerConnection
  | [] => pc
  | [_] => { pc with videoSendStream := some { rtx := {} } }
  | _ :: rtxSsrc :: _ =>
      { pc with videoSendStream := some { rtx := ⟨rtxSsrc, pc.videoRtxPt.toNat⟩ } }

/-- `CreateAnswer`, the video that is sent. -/
def createVideoAnswer (pc : PeerConnection) (localVideoSsrc localVideoRtxSsrc : UInt32) :
    PeerConnection :=
  { pc with localVideoSsrc }.createVideoSendStream [localVideoSsrc, localVideoRtxSsrc]

/-- `AddVideoCache`. -/
def addVideoCache (pc : PeerConnection) (packet : RtpPacket) : PeerConnection :=
  let seq := packet.sequenceNumber
  let index := seq.toNat % rtcPacketCacheSize
  if ∃ cached ∈ pc.videoCache index, cached.sequenceNumber = seq then pc
  else { pc with videoCache := Function.update pc.videoCache index (some packet) }

/-- `FindVideoCache`. -/
def findVideoCache (pc : PeerConnection) (seq : UInt16) : Option RtpPacket :=
  let index := seq.toNat % rtcPacketCacheSize
  (pc.videoCache index).filter fun cached => cached.sequenceNumber = seq

/-- The loop of `SendEncodedImage`, which makes one packet after the other until the
packetizer has no more. Every packet takes at least one unit of its queue. -/
def sendLoop (rtpTimestamp : UInt32) :
    (fuel : Nat) → (packetizer : RtpPacketizerH264) → (pc : PeerConnection) →
      Option (List RtpPacket × PeerConnection)
  | fuel, packetizer, pc =>
      let singlePacket : RtpPacket :=
        { payloadType := pc.videoPt, timestamp := rtpTimestamp, ssrc := pc.localVideoSsrc }
      match packetizer.nextPacket singlePacket.toRtpPacketToSend with
      | none => none
      | some none => some ([], pc)
      | some (some (filled, packetizer)) =>
          match fuel with
          | 0 => none
          | fuel + 1 => do
              let singlePacket : RtpPacket :=
                { singlePacket with toRtpPacketToSend := filled, sequenceNumber := pc.videoSeq }
              let pc := { pc with videoSeq := pc.videoSeq + 1 }.addVideoCache singlePacket
              let (packets, pc) ← sendLoop rtpTimestamp fuel packetizer pc
              return (singlePacket :: packets, pc)

/-- `SendEncodedImage`. -/
def sendEncodedImage (pc : PeerConnection) (frame : MediaFrame) :
    Option (List RtpPacket × PeerConnection) :=
  if pc.pcState ≠ .connected then some ([], pc)
  else do
    let rtpTimestamp := frame.ts * 90
    let packetizer ← RtpPacketizerH264.new frame.data {}
    sendLoop rtpTimestamp packetizer.packets.length packetizer pc

/-- `OnNackReceived`. -/
def onNackReceived (pc : PeerConnection) : (nackList : List UInt16) →
    Option (List RtpPacket × PeerConnection)
  | [] => some ([], pc)
  | nackId :: nackList =>
      match pc.findVideoCache nackId, pc.videoSendStream with
      | some packet, some stream => do
          let (rtxPacket, stream) ← stream.buildRtxPacket packet
          let (packets, pc) ←
            onNackReceived { pc with videoSendStream := some stream } nackList
          return (rtxPacket :: packets, pc)
      | _, _ => onNackReceived pc nackList

/-- `RTCPReceiver::HandleNack`, with the payload of the RTCP packet. -/
def handleNack (pc : PeerConnection) (payload : Bytes) : Option (List RtpPacket × PeerConnection) :=
  match Nack.parse payload with
  | none => some ([], pc)
  | some packetIds => pc.onNackReceived packetIds

/-- `OnIceState`. -/
def onIceState (pc : PeerConnection) (iceState : IceTransportState) : PeerConnection :=
  { pc with
      pcState :=
        match iceState with
        | .new => .new
        | .checking => .connecting
        | .connected | .completed => .connected
        | .disconnected => .disconnected
        | .failed => .failed
        | .closed => .closed }

/-! ### Runs -/

/-- What happens to the video path from outside. -/
inductive Event where
  | remoteSdp (videoCodecs : List UInt8)
  | answer (localVideoSsrc localVideoRtxSsrc : UInt32)
  | iceState (iceState : IceTransportState)
  | image (frame : MediaFrame)
  | nack (payload : Bytes)

/-- The connection and the video packets that `SendEncodedImage` has sent so far, in
order. -/
structure Session where
  pc : PeerConnection := {}
  sent : List RtpPacket := []

def Session.step (s : Session) : Event → Option Session
  | .remoteSdp videoCodecs => some { s with pc := s.pc.setVideoCodecs videoCodecs }
  | .answer localVideoSsrc localVideoRtxSsrc =>
      some { s with pc := s.pc.createVideoAnswer localVideoSsrc localVideoRtxSsrc }
  | .iceState iceState => some { s with pc := s.pc.onIceState iceState }
  | .image frame => do
      let (packets, pc) ← s.pc.sendEncodedImage frame
      return { pc, sent := s.sent ++ packets }
  | .nack payload => do
      let (_, pc) ← s.pc.handleNack payload
      return { s with pc }

end PeerConnection

end Xrtc.Sdk
