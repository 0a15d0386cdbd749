import Xrtc.Rtp.RtcpPacket
import Xrtc.Sdk.RtpRtcp

/-!
# `Xrtc.Sdk.RtcpReceiver`: feedback from the other side

The model of `xrtcsdk/xrtc/rtc/modules/rtp_rtcp/rtcp_receiver.cpp`, and of the round trip
time in `rtp_utils.cpp`. The clock is the one of `Xrtc.Sdk.RtpRtcp`.

A receiver keeps a record of what it does: what its handlers got out of the blocks, and its
calls of the observer, each with the ssrc of the report block or NACK that it is made for.
The loop of `ParseCompoundPacket` returns what happened in each of its rounds.
-/

set_option autoImplicit false

namespace Xrtc.Sdk

open Xrtc.Lib
open Xrtc.Rtp

/-! ### Round trip times -/

/-- `CompactNtp`. -/
def compactNtp (ntpTime : UInt32 × UInt32) : UInt32 := ntpTime.1 <<< 16 ||| ntpTime.2 >>> 16

/-- `webrtc::DivideRoundToNearest`. -/
def divideRoundToNearest (dividend divisor : Nat) : Nat :=
  dividend / divisor + if dividend % divisor > (divisor - 1) / 2 then 1 else 0

/-- `CompactNtpRttToMs`. -/
def compactNtpRttToMs (compactNtpInterval : UInt32) : Nat :=
  if compactNtpInterval > 0x80000000 then 1
  else
    let ms := divideRoundToNearest (compactNtpInterval.toNat * 1000) (1 <<< 16)
    if ms < 1 then 1 else ms

/-! ### The receiver -/

/-- `webrtc::MediaType`. -/
inductive WebrtcMediaType where
  | audio
  | video
  deriving DecidableEq, Repr

/-- A call of `RtpRtcpModuleObserver`. -/
inductive ObserverCall where
  | onNetworkInfo (rttMs : Nat) (packetsLost : Int) (fractionLost : UInt8) (jitter : UInt32)
  | onNackReceived (mediaType : WebrtcMediaType) (packetIds : List UInt16)
  deriving DecidableEq, Repr

/-- A block that a handler has parsed. -/
inductive Handled where
  | receiverReport (rr : ReceiverReport)
  | nack (nack : Nack)
  deriving DecidableEq, Repr

/-- An entry of the record. -/
inductive FeedbackEntry where
  | handled (block : Handled)
  | observer (ssrc : UInt32) (call : ObserverCall)
  deriving DecidableEq, Repr

/-- `RTCPReceiver`, with the readings of the clock it has taken so far and its record. It has
an observer or not, and `last_received_rb_` is nothing before the first report block. -/
structure RTCPReceiver where
  audio : Bool
  hasObserver : Bool
  registeredSsrcs : List UInt32
  numSkippedPackets : UInt32 := 0
  lastReceivedRb : Option Int := none
  readings : Nat := 0
  log : List FeedbackEntry := []
  deriving DecidableEq, Repr

namespace RTCPReceiver

/-- The constructor. -/
def new (config : Configuration) (hasObserver : Bool) : RTCPReceiver where
  audio := config.audio
  hasObserver := hasObserver
  registeredSsrcs := [config.localMediaSsrc]

/-- `++num_skipped_packets_`. -/
def skip (r : RTCPReceiver) : RTCPReceiver :=
  { r with numSkippedPackets := r.numSkippedPackets + 1 }

/-- An entry of the record. -/
def push (r : RTCPReceiver) (e : FeedbackEntry) : RTCPReceiver := { r with log := r.log ++ [e] }

/-- `IsRegisteredSsrc`. -/
def isRegisteredSsrc (r : RTCPReceiver) (ssrc : UInt32) : Bool := r.registeredSsrcs.contains ssrc

/-- The clock is read, for `last_received_rb_`. -/
def received (r : RTCPReceiver) (now : Int) : RTCPReceiver :=
  { r with lastReceivedRb := some now, readings := r.readings + 1 }

variable (clock : Clock)

/-- `HandleReportBlock`. -/
def handleReportBlock (r : RTCPReceiver) (reportBlock : ReportBlock) : RTCPReceiver :=
  -- a report block about another stream
  if !r.isRegisteredSsrc reportBlock.sourceSsrc then r
  else
    let now := clock.reading r.readings
    let r := r.received now
    let sendNtpTime := reportBlock.lastSr
    -- the other side has not seen a sender report before it is set
    if sendNtpTime ≠ 0 then
      let delayNtp := reportBlock.delaySinceLastSr
      let receiveNtpTime := compactNtp (clock.convertTimestampToNtpTime now)
      -- differences of 32-bit integers, which wrap around
      let rttNtp := receiveNtpTime - sendNtpTime - delayNtp
      let rttMs := compactNtpRttToMs rttNtp
      if r.hasObserver then
        r.push (.observer reportBlock.sourceSsrc
          (.onNetworkInfo rttMs reportBlock.cumulativePacketsLost reportBlock.fractionLost
            reportBlock.jitter))
      else r
    else r

/-- `HandleReceiverReport`, once the report is parsed. -/
def handleReports (r : RTCPReceiver) (rr : ReceiverReport) : RTCPReceiver :=
  rr.reportBlocks.foldl (handleReportBlock clock) (r.push (.handled (.receiverReport rr)))

/-- `HandleReceiverReport`. -/
def handleReceiverReport (r : RTCPReceiver) (packet : Bytes) (rtcpBlock : CommonHeader) :
    Traced RTCPReceiver := do
  match ← ReceiverReport.parse packet rtcpBlock with
  | none => return r.skip
  | some rr => return r.handleReports clock rr

/-- `HandleNack`, once the NACK is parsed. -/
def handlePacketIds (r : RTCPReceiver) (nack : Nack) : RTCPReceiver :=
  let r := r.push (.handled (.nack nack))
  if r.hasObserver then
    r.push (.observer nack.mediaSsrc
      (.onNackReceived (if r.audio then .audio else .video) nack.packetIds))
  else r

/-- `HandleNack`. -/
def handleNack (r : RTCPReceiver) (packet : Bytes) (rtcpBlock : CommonHeader) :
    Traced RTCPReceiver := do
  match ← Nack.parseTraced packet rtcpBlock with
  | none => return r.skip
  | some nack => return r.handlePacketIds nack

/-- The `switch` of `ParseCompoundPacket`. Blocks of other types are only logged. -/
def handleBlock (r : RTCPReceiver) (packet : Bytes) (rtcpBlock : CommonHeader) :
    Traced RTCPReceiver :=
  if rtcpBlock.packetType = ReceiverReport.kPacketType then
    r.handleReceiverReport clock packet rtcpBlock
  else if rtcpBlock.packetType = Rtpfb.kPacketType then
    -- of the transport feedback only the generic NACK is known
    if rtcpBlock.countOrFmt = Nack.kFeedbackMessageType then r.handleNack packet rtcpBlock
    else return r.skip
  else return r

/-- A round of the loop of `ParseCompoundPacket`: where the block starts, its header if it
has parsed, and the reads of the packet in this round. -/
structure Round where
  nextBlock : Nat
  header : Option CommonHeader
  accesses : List Access
  deriving Repr

/-- `ParseCompoundPacket`, with the pointer in its loop. `CommonHeader::Parse` leaves the
pointer inside the packet or at its end, so what remains of the packet is never negative. -/
def parseCompoundPacket (r : RTCPReceiver) (packet : Bytes) (nextBlock : Nat)
    (hle : nextBlock ≤ packet.length) : List Round × RTCPReceiver :=
  if nextBlock = packet.length then ([], r)
  else
    let remainingPacketSize := packet.length - nextBlock
    let parsed := CommonHeader.parse packet nextBlock remainingPacketSize
    match hparse : parsed.value with
    -- a packet that does not even start with a block is refused and not counted
    | none => ([⟨nextBlock, none, parsed.accesses⟩], if nextBlock = 0 then r else r.skip)
    | some rtcpBlock =>
        have hnext : nextBlock < rtcpBlock.nextPacket ∧ rtcpBlock.nextPacket ≤ packet.length := by
          have hbounds := CommonHeader.nextPacket_of_parse hparse
          rw [kHeaderSizeBytes] at hbounds
          omega
        let handled := r.handleBlock clock packet rtcpBlock
        let (rounds, r) := handled.value.parseCompoundPacket packet rtcpBlock.nextPacket hnext.2
        (⟨nextBlock, some rtcpBlock, parsed.accesses ++ handled.accesses⟩ :: rounds, r)
termination_by packet.length - nextBlock

/-- `IncomingRtcpPacket`. -/
def incomingRtcpPacket (r : RTCPReceiver) (packet : Bytes) : List Round × RTCPReceiver :=
  if packet.isEmpty then ([], r)
  else r.parseCompoundPacket clock packet 0 (Nat.zero_le _)

end RTCPReceiver

end Xrtc.Sdk
