import Xrtc.Sdk.RtpRtcp

/-!
# `Xrtc.Sdk.VideoCall`: video with its sender reports

The model of `SendEncodedImage`, `OnNackReceived` and `OnLocalRtcpPacket` of
`xrtcsdk/xrtc/rtc/pc/peer_connection.cpp` together with the RTP module of the video stream,
which `CreateRtpRtcpModule` of `video/video_send_stream.cpp` makes. It puts
`Xrtc.Sdk.VideoSender` and `Xrtc.Sdk.RtpRtcp` together: what is counted, and what is sent.
-/

set_option autoImplicit false

namespace Xrtc.Sdk

open Xrtc.Rtp

/-- `CreateRtpRtcpModule`, with the defaults of `VideoSendStreamConfig`. -/
def createRtpRtcpModule (ssrc : UInt32) : Configuration where
  audio := false
  localMediaSsrc := ssrc
  clockRate := 90000
  rtcpReportIntervalMs := 1000

/-- What is handed to `SendPacket`: a packet of `SendEncodedImage`, one of `OnNackReceived`,
and one of `OnLocalRtcpPacket`. -/
inductive SentPacket where
  | media (packet : RtpPacket)
  | rtx (packet : RtpPacket)
  | rtcp (packet : LocalRtcpPacket)
  deriving DecidableEq, Repr

/-- A connection, the module of its video stream, and all that was handed to `SendPacket`
so far, in order. -/
structure VideoCall where
  pc : PeerConnection
  m : ModuleRtpRtcp
  sent : List SentPacket := []

namespace VideoCall

/-- `OnLocalRtcpPacket`. -/
def onLocalRtcpPacket (pc : PeerConnection) (packet : LocalRtcpPacket) : List SentPacket :=
  if pc.pcState ≠ .connected then [] else [.rtcp packet]

variable (clock : Clock) (rand : Nat → Int → Int → Int)

/-- `SendEncodedImage`. The packets are counted one by one, each before it is sent. -/
def sendEncodedImage (fuel : Nat) (s : VideoCall) (frame : MediaFrame) (captureTimeMs : Int)
    (idr : Bool) : Option VideoCall :=
  if s.pc.pcState ≠ .connected then some s
  else do
    let rtpTimestamp := frame.ts * 90
    let (reports, m) ←
      if s.pc.videoSendStream.isSome then
        s.m.onSendingRtpFrame clock rand fuel rtpTimestamp captureTimeMs idr
      else some ([], s.m)
    let (packets, pc) ← s.pc.sendEncodedImage frame
    return {
      pc
      m :=
        if s.pc.videoSendStream.isSome then
          packets.foldl (fun m packet => m.updateRtpStats packet false false) m
        else m
      sent := s.sent ++ reports.flatMap (onLocalRtcpPacket s.pc) ++ packets.map .media }

/-- `OnNackReceived`. -/
def onNackReceived (s : VideoCall) (nackList : List UInt16) : Option VideoCall := do
  let (packets, pc) ← s.pc.onNackReceived nackList
  return { s with pc, sent := s.sent ++ packets.map .rtx }

/-- The thread runs one of the tasks of the module. -/
def fireTask (fuel : Nat) (s : VideoCall) (index : Nat) : Option VideoCall := do
  let (reports, m) ← s.m.fireTask clock rand fuel index
  return { s with m, sent := s.sent ++ reports.flatMap (onLocalRtcpPacket s.pc) }

/-- What happens to a connection that sends video. -/
inductive Event where
  | image (frame : MediaFrame) (captureTimeMs : Int) (idr : Bool)
  | nack (nackList : List UInt16)
  | task (index : Nat)

def step (fuel : Nat) (s : VideoCall) : Event → Option VideoCall
  | .image frame captureTimeMs idr => s.sendEncodedImage clock rand fuel frame captureTimeMs idr
  | .nack nackList => s.onNackReceived nackList
  | .task index => s.fireTask clock rand fuel index

/-- The constructor of `VideoSendStream`, for a connection. -/
def start (fuel : Nat) (pc : PeerConnection) (ssrc : UInt32) : Option VideoCall := do
  let (reports, m) ← ModuleRtpRtcp.start clock rand fuel (createRtpRtcpModule ssrc) .compound
  return { pc, m, sent := reports.flatMap (onLocalRtcpPacket pc) }

end VideoCall

end Xrtc.Sdk
