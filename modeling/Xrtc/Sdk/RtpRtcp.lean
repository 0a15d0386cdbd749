import Xrtc.Lib.MachineInt
import Xrtc.Sdk.VideoSender

/-!
# `Xrtc.Sdk.RtpRtcp`: sender reports

The model of `xrtcsdk/xrtc/rtc/modules/rtp_rtcp/rtp_rtcp_impl.cpp`, `rtcp_sender.cpp`,
`rtcp_packet.cpp`, `rtcp_packet/sender_report.cpp` and of the counters in
`rtp_rtcp_defines.cpp`, for a module that also sends (`receiver_only` is false wherever one
is made).

Times and durations are in microseconds. The clock is the sequence of its readings, and
every call of `CurrentTime` takes the next one, as every draw of `random_` takes the next
random number. A delayed task is posted to a list, and `fireTask` is what the thread does
with one of them.

`RTCPSender` calls back into the module for the time of the next report. If that is zero,
`MaybeSendRTCP` runs while a report is being prepared, and so on, and the number of such
calls inside each other is bounded here (`fuel`). `none` stands for a call without a result:
too many of them, or the use of an optional that is empty.
-/

set_option autoImplicit false

namespace Xrtc.Sdk

open Xrtc.Lib
open Xrtc.Rtp

/-! ### Counters -/

/-- `RtpPacketCounter`. -/
structure RtpPacketCounter where
  headerBytes : UInt64 := 0
  payloadBytes : UInt64 := 0
  paddingBytes : UInt64 := 0
  packets : UInt32 := 0
  deriving DecidableEq, Repr

/-- The counter of one packet. A packet has a header of a fixed size and no padding. -/
def RtpPacketCounter.ofPacket (packet : RtpPacket) : RtpPacketCounter where
  headerBytes := UInt64.ofNat kFixedHeaderSize
  payloadBytes := UInt64.ofNat packet.payload.length
  paddingBytes := 0
  packets := 1

/-- `Add`. -/
def RtpPacketCounter.add (c other : RtpPacketCounter) : RtpPacketCounter where
  headerBytes := c.headerBytes + other.headerBytes
  payloadBytes := c.payloadBytes + other.payloadBytes
  paddingBytes := c.paddingBytes + other.paddingBytes
  packets := c.packets + other.packets

/-- `StreamDataCounter`. -/
structure StreamDataCounter where
  transmitted : RtpPacketCounter := {}
  retransmitted : RtpPacketCounter := {}
  deriving DecidableEq, Repr

/-- `UpdateRtpStats`, for the counter it has chosen. -/
def StreamDataCounter.update (c : StreamDataCounter) (packet : RtpPacket) (isRetransmit : Bool) :
    StreamDataCounter :=
  let counter := RtpPacketCounter.ofPacket packet
  { retransmitted := if isRetransmit then c.retransmitted.add counter else c.retransmitted
    transmitted := c.transmitted.add counter }

/-! ### RTCP packets -/

/-- `IP_PACKET_SIZE`. -/
def ipPacketSize : Nat := 1500

/-- `RtcpPacket::CreateHeader` without padding. -/
def createHeader (countOrFmt : Nat) (packetType : UInt8) (blockLength : UInt16) : Bytes :=
  [0x80 ||| UInt8.ofNat countOrFmt, packetType] ++ writeUInt16 blockLength

/-- `SenderReport`. Report blocks are never added. -/
structure SenderReport where
  senderSsrc : UInt32
  ntpTime : UInt32 × UInt32
  rtpTimestamp : UInt32
  sendPacketCount : UInt32
  sendPacketOctet : UInt32
  deriving DecidableEq, Repr

/-- `BlockLength`. -/
def SenderReport.blockLength (_ : SenderReport) : Nat := 4 + 24

/-- `HeaderLength`. -/
def SenderReport.headerLength (sr : SenderReport) : UInt16 := UInt16.ofNat ((sr.blockLength - 4) / 4)

/-- What `Create` writes. -/
def SenderReport.bytes (sr : SenderReport) : Bytes :=
  createHeader 0 200 sr.headerLength ++ writeUInt32 sr.senderSsrc ++
    writeUInt32 sr.ntpTime.1 ++ writeUInt32 sr.ntpTime.2 ++ writeUInt32 sr.rtpTimestamp ++
    writeUInt32 sr.sendPacketCount ++ writeUInt32 sr.sendPacketOctet

/-- `PacketSender`: the compound packet so far, and the ones given to the callback. -/
structure PacketSender where
  buffer : Bytes := []
  ready : List Bytes := []
  deriving DecidableEq, Repr

/-- `Append`, with `SenderReport::Create`. Its loop goes round at most twice, since
`OnBufferFull` leaves an empty buffer, and fails on one. -/
def PacketSender.append (maxPacketSize : Nat) (s : PacketSender) (sr : SenderReport) : PacketSender :=
  if s.buffer.length + sr.blockLength ≤ maxPacketSize then
    { s with buffer := s.buffer ++ sr.bytes }
  else if s.buffer.length = 0 then s
  else
    let s : PacketSender := { buffer := [], ready := s.ready ++ [s.buffer] }
    if sr.blockLength ≤ maxPacketSize then { s with buffer := sr.bytes } else s

/-- `Send`. -/
def PacketSender.send (s : PacketSender) : List Bytes :=
  if 0 < s.buffer.length then s.ready ++ [s.buffer] else s.ready

/-! ### Report flags -/

/-- `kRtcpReport`. -/
def kRtcpReport : UInt32 := 0x0001

/-- `kRtcpSr`. -/
def kRtcpSr : UInt32 := 0x0002

/-- `kRtcpRr`. -/
def kRtcpRr : UInt32 := 0x0004

/-- `ReportFlag`. -/
structure ReportFlag where
  type : UInt32
  isVolatile : Bool
  deriving DecidableEq, Repr

/-- `SetFlag`. The flags are a set ordered by their types. -/
def setFlag (flags : List ReportFlag) (type : UInt32) : List ReportFlag :=
  if flags.any (·.type == type) then flags
  else flags.takeWhile (·.type < type) ++ ⟨type, true⟩ :: flags.dropWhile (·.type < type)

/-- `ConsumeFlag`, not forced. -/
def consumeFlag (flags : List ReportFlag) (type : UInt32) : Bool × List ReportFlag :=
  match flags.find? (·.type == type) with
  | none => (false, flags)
  | some flag => (true, if flag.isVolatile then flags.filter (·.type != type) else flags)

/-- `AllVolatileFlagsConsumed`. -/
def allVolatileFlagsConsumed (flags : List ReportFlag) : Bool := flags.all fun flag => !flag.isVolatile

/-! ### The sender -/

/-- `webrtc::Clock`: its readings, one after the other, and the conversion to NTP time,
seconds and fractions. -/
structure Clock where
  reading : Nat → Int
  convertTimestampToNtpTime : Int → UInt32 × UInt32

/-- `webrtc::RtcpMode`. -/
inductive RtcpMode where
  | off
  | compound
  | reducedSize
  deriving DecidableEq, Repr

/-- `RtpRtcpInterface::Configuration`, what the sender reads. -/
structure Configuration where
  audio : Bool
  localMediaSsrc : UInt32
  clockRate : Int
  rtcpReportIntervalMs : Int
  deriving DecidableEq, Repr

/-- `kDefaultAudioRtcpIntervalMs`. -/
def kDefaultAudioRtcpIntervalMs : Int := 5000

/-- `kDefaultVideoRtcpIntervalMs`. -/
def kDefaultVideoRtcpIntervalMs : Int := 1000

/-- `RTCP_BEFORE_KEY_FRAME`. -/
def rtcpBeforeKeyFrame : Int := 100 * 1000

/-- `GetReportInterval`. -/
def getReportInterval (reportIntervalMs defaultValue : Int) : Int :=
  if 0 < reportIntervalMs then reportIntervalMs * 1000 else defaultValue * 1000

/-- `Timestamp::ms` and `TimeDelta::ms`, which round to the nearest millisecond. -/
def toMs (time : Int) : Int := (time + 500) / 1000

/-- `RTCPSender`. -/
structure RTCPSender where
  audio : Bool
  ssrc : UInt32
  clockRate : Int
  maxPacketSize : Nat
  reportIntervalMs : Int
  mode : RtcpMode := .off
  reportFlags : List ReportFlag := []
  sending : Bool := false
  lastRtpTimestamp : UInt32 := 0
  lastFrameCaptureTime : Option Int := none
  nextTimeToSendRtcp : Option Int := none
  deriving DecidableEq, Repr

/-- The constructor of `RTCPSender`. -/
def RTCPSender.new (config : Configuration) : RTCPSender where
  audio := config.audio
  ssrc := config.localMediaSsrc
  clockRate := config.clockRate
  maxPacketSize := ipPacketSize - 28
  reportIntervalMs :=
    getReportInterval config.rtcpReportIntervalMs
      (if config.audio then kDefaultAudioRtcpIntervalMs else kDefaultVideoRtcpIntervalMs)

/-- `FeedbackState`. -/
structure FeedbackState where
  packetsSent : UInt32
  mediaBytesSent : UInt64
  deriving DecidableEq, Repr

/-- `BuildSr`. -/
def RTCPSender.buildSr (clock : Clock) (s : RTCPSender) (feedbackState : FeedbackState) (now : Int) :
    Option SenderReport := do
  let lastFrameCaptureTime ← s.lastFrameCaptureTime
  return {
    senderSsrc := s.ssrc
    ntpTime := clock.convertTimestampToNtpTime now
    rtpTimestamp :=
      UInt32.ofInt (s.lastRtpTimestamp.toNat +
        (Int.tdiv (now + 500) 1000 - toMs lastFrameCaptureTime) * Int.tdiv s.clockRate 1000)
    sendPacketCount := feedbackState.packetsSent
    sendPacketOctet := UInt32.ofNat feedbackState.mediaBytesSent.toNat }

/-- The loop of `ComputeCompoundRTCPPacket` over the flags. There is a builder for sender
reports only. -/
def RTCPSender.buildPackets (clock : Clock) (s : RTCPSender) (feedbackState : FeedbackState)
    (now : Int) (flags : List ReportFlag) (sender : PacketSender) : Option PacketSender :=
  flags.foldlM (fun sender flag =>
    if flag.type = kRtcpSr then
      (s.buildSr clock feedbackState now).map (sender.append s.maxPacketSize)
    else some sender) sender

/-! ### The module -/

/-- A task that `ScheduleMaybeSendRtcpAtOrAfterTimestamp` has posted, and its delay. -/
structure DelayedTask where
  executeTime : Int
  delayMs : Int
  deriving DecidableEq, Repr

/-- `ModuleRtpRtcpImpl`, with the tasks it has posted, the readings of the clock and the
random numbers it has taken so far. -/
structure ModuleRtpRtcp where
  rtpStats : StreamDataCounter := {}
  rtxRtpStats : StreamDataCounter := {}
  rtcpSender : RTCPSender
  tasks : List DelayedTask := []
  readings : Nat := 0
  draws : Nat := 0
  deriving DecidableEq, Repr

/-- A packet that `OnLocalRtcpPacket` is called with, and the time its reports carry. -/
structure LocalRtcpPacket where
  time : Int
  data : Bytes
  deriving DecidableEq, Repr

namespace ModuleRtpRtcp

/-- `UpdateRtpStats`. -/
def updateRtpStats (m : ModuleRtpRtcp) (packet : RtpPacket) (isRtx isRetransmit : Bool) :
    ModuleRtpRtcp :=
  if isRtx then { m with rtxRtpStats := m.rtxRtpStats.update packet isRetransmit }
  else { m with rtpStats := m.rtpStats.update packet isRetransmit }

/-- `GetFeedbackState`. -/
def getFeedbackState (m : ModuleRtpRtcp) : FeedbackState where
  packetsSent := m.rtpStats.transmitted.packets + m.rtxRtpStats.transmitted.packets
  mediaBytesSent := m.rtpStats.transmitted.payloadBytes + m.rtxRtpStats.transmitted.payloadBytes

/-- A change of the sender. -/
def withSender (m : ModuleRtpRtcp) (f : RTCPSender → RTCPSender) : ModuleRtpRtcp :=
  { m with rtcpSender := f m.rtcpSender }

/-- `DelayMillisForDuration`. -/
def delayMillisForDuration (duration : Int) : Int := Int.tdiv (duration + 1000 - 1) 1000

/-- `ScheduleMaybeSendRtcpAtOrAfterTimestamp`. -/
def scheduleMaybeSendRtcpAtOrAfterTimestamp (m : ModuleRtpRtcp) (executeTime duration : Int) :
    ModuleRtpRtcp :=
  { m with tasks := m.tasks ++ [⟨executeTime, delayMillisForDuration duration⟩] }

variable (clock : Clock) (rand : Nat → Int → Int → Int)

/-- `CurrentTime`. -/
def currentTime (m : ModuleRtpRtcp) : Int × ModuleRtpRtcp :=
  (clock.reading m.readings, { m with readings := m.readings + 1 })

/-- `SetLastRtpTimestamp`. -/
def setLastRtpTimestamp (m : ModuleRtpRtcp) (rtpTimestamp : UInt32)
    (lastFrameCaptureTime : Option Int) : ModuleRtpRtcp :=
  let m := m.withSender fun s => { s with lastRtpTimestamp := rtpTimestamp }
  match lastFrameCaptureTime with
  | some time => m.withSender fun s => { s with lastFrameCaptureTime := some time }
  | none =>
      let (now, m) := m.currentTime clock
      m.withSender fun s => { s with lastFrameCaptureTime := some now }

/-- `TimeToSendRTCPPacket`. -/
def timeToSendRtcpPacket (m : ModuleRtpRtcp) (sendBeforeKeyframe : Bool) :
    Option (Bool × ModuleRtpRtcp) := do
  let (now, m) := m.currentTime clock
  let now := if !m.rtcpSender.audio && sendBeforeKeyframe then now + rtcpBeforeKeyFrame else now
  let nextTime ← m.rtcpSender.nextTimeToSendRtcp
  return (decide (nextTime ≤ now), m)

section

-- `MaybeSendRTCP`, where it is called while a report is prepared.
variable (maybeSendRtcp : ModuleRtpRtcp → Option (List LocalRtcpPacket × ModuleRtpRtcp))

/-- `ScheduleNextRtcpSend`. -/
def scheduleNextRtcpSend (m : ModuleRtpRtcp) (duration : Int) :
    Option (List LocalRtcpPacket × ModuleRtpRtcp) :=
  if duration = 0 then maybeSendRtcp m
  else
    let (now, m) := m.currentTime clock
    some ([], m.scheduleMaybeSendRtcpAtOrAfterTimestamp (now + duration) duration)

/-- `SetNextRtcpSendEvaluationDuration`. -/
def setNextRtcpSendEvaluationDuration (m : ModuleRtpRtcp) (duration : Int) :
    Option (List LocalRtcpPacket × ModuleRtpRtcp) :=
  let (now, m) := m.currentTime clock
  scheduleNextRtcpSend clock maybeSendRtcp
    (m.withSender fun s => { s with nextTimeToSendRtcp := some (now + duration) }) duration

/-- `SetRTCPStatus`. -/
def setRtcpStatus (m : ModuleRtpRtcp) (mode : RtcpMode) :
    Option (List LocalRtcpPacket × ModuleRtpRtcp) :=
  if mode = .off then some ([], m)
  else do
    let (packets, m) ←
      if m.rtcpSender.mode = .off then
        setNextRtcpSendEvaluationDuration clock maybeSendRtcp m
          (Int.tdiv m.rtcpSender.reportIntervalMs 2)
      else some ([], m)
    return (packets, m.withSender fun s => { s with mode := mode })

/-- `PrepareReport`. -/
def prepareReport (m : ModuleRtpRtcp) : Option (List LocalRtcpPacket × ModuleRtpRtcp) :=
  let flags := (consumeFlag m.rtcpSender.reportFlags kRtcpReport).2
  let flags := setFlag flags (if m.rtcpSender.sending then kRtcpSr else kRtcpRr)
  let minimalIntervalMs := toMs m.rtcpSender.reportIntervalMs
  let timeToNext :=
    rand m.draws (Int.tdiv minimalIntervalMs 2) (Int.tdiv (toInt32 (minimalIntervalMs * 3)) 2)
  let m := { m with draws := m.draws + 1 }.withSender fun s => { s with reportFlags := flags }
  setNextRtcpSendEvaluationDuration clock maybeSendRtcp m (timeToNext * 1000)

/-- The part of `ComputeCompoundRTCPPacket` before the first RTP packet was sent: the return
value, if it returns, and the flags that are left. -/
def withoutRtp (s : RTCPSender) : Option Int × List ReportFlag :=
  let (sendSrFlag, flags) := consumeFlag s.reportFlags kRtcpSr
  let (sendReportFlag, flags) := consumeFlag flags kRtcpReport
  if (sendSrFlag || sendReportFlag) && allVolatileFlagsConsumed flags then (some 0, flags)
  else if s.sending && s.mode == .compound then (some (-1), flags)
  else (none, flags)

/-- The part of `ComputeCompoundRTCPPacket` that builds the packets. The first list are the
packets that were sent while the report was prepared. -/
def computeReports (m : ModuleRtpRtcp) (feedbackState : FeedbackState) :
    Option (Int × List LocalRtcpPacket × ModuleRtpRtcp) := do
  let (now, m) := m.currentTime clock
  let (packets, m) ← prepareReport clock rand maybeSendRtcp m
  let flags := m.rtcpSender.reportFlags
  let sender ← m.rtcpSender.buildPackets clock feedbackState now flags {}
  let m := m.withSender fun s => { s with reportFlags := flags.filter fun flag => !flag.isVolatile }
  return (0, packets ++ sender.send.map (⟨now, ·⟩), m)

/-- `SendRTCP`, with `ComputeCompoundRTCPPacket` and the observer's packets. -/
def sendRtcpWith (m : ModuleRtpRtcp) (feedbackState : FeedbackState) (packetType : UInt32) :
    Option (Int × List LocalRtcpPacket × ModuleRtpRtcp) :=
  let m := m.withSender fun s => { s with reportFlags := setFlag s.reportFlags packetType }
  if m.rtcpSender.lastFrameCaptureTime.isSome then
    computeReports clock rand maybeSendRtcp m feedbackState
  else
    let (ret, flags) := withoutRtp m.rtcpSender
    let m := m.withSender fun s => { s with reportFlags := flags }
    match ret with
    | some ret => some (ret, [], m)
    | none => computeReports clock rand maybeSendRtcp m feedbackState

end

/-- `SendRTCP`. -/
def sendRtcp : (fuel : Nat) → (m : ModuleRtpRtcp) → (feedbackState : FeedbackState) →
    (packetType : UInt32) → Option (Int × List LocalRtcpPacket × ModuleRtpRtcp)
  | 0, _, _, _ => none
  | fuel + 1, m, feedbackState, packetType =>
      let maybeSendRtcp (m : ModuleRtpRtcp) : Option (List LocalRtcpPacket × ModuleRtpRtcp) := do
        let (time, m) ← m.timeToSendRtcpPacket clock false
        if time then
          let (_, packets, m) ← sendRtcp fuel m m.getFeedbackState kRtcpReport
          return (packets, m)
        else return ([], m)
      sendRtcpWith clock rand maybeSendRtcp m feedbackState packetType

/-- The end of `MaybeSendRTCP` and of `OnSendingRtpFrame`: a report if it is time for one. -/
def sendIfTime (fuel : Nat) (m : ModuleRtpRtcp) (sendBeforeKeyframe : Bool) :
    Option (List LocalRtcpPacket × ModuleRtpRtcp) := do
  let (time, m) ← m.timeToSendRtcpPacket clock sendBeforeKeyframe
  if time then
    let (_, packets, m) ← sendRtcp clock rand fuel m m.getFeedbackState kRtcpReport
    return (packets, m)
  else return ([], m)

/-- `MaybeSendRTCP`. -/
def maybeSendRtcp (fuel : Nat) (m : ModuleRtpRtcp) : Option (List LocalRtcpPacket × ModuleRtpRtcp) :=
  m.sendIfTime clock rand fuel false

/-- `OnSendingRtpFrame`. -/
def onSendingRtpFrame (fuel : Nat) (m : ModuleRtpRtcp) (rtpTimestamp : UInt32)
    (captureTimeMs : Int) (forcedReport : Bool) : Option (List LocalRtcpPacket × ModuleRtpRtcp) :=
  let captureTime := if 0 < captureTimeMs then some (captureTimeMs * 1000) else none
  (m.setLastRtpTimestamp clock rtpTimestamp captureTime).sendIfTime clock rand fuel forcedReport

/-- The thread runs one of the tasks. -/
def fireTask (fuel : Nat) (m : ModuleRtpRtcp) (index : Nat) :
    Option (List LocalRtcpPacket × ModuleRtpRtcp) :=
  match m.tasks[index]? with
  | none => some ([], m)
  | some task =>
      let m := { m with tasks := m.tasks.eraseIdx index }
      let (now, m) := m.currentTime clock
      if task.executeTime ≤ now then m.maybeSendRtcp clock rand fuel
      else
        some ([], m.scheduleMaybeSendRtcpAtOrAfterTimestamp task.executeTime
          (task.executeTime - now))

/-- `CreateRtpRtcpModule` and the constructor of `VideoSendStream`: a module, its mode and
that it sends. The constructor of `RTCPSender` reads the clock for the seed. -/
def start (fuel : Nat) (config : Configuration) (mode : RtcpMode) :
    Option (List LocalRtcpPacket × ModuleRtpRtcp) := do
  let m : ModuleRtpRtcp := { rtcpSender := RTCPSender.new config, readings := 1 }
  let (packets, m) ← setRtcpStatus clock (maybeSendRtcp clock rand fuel) m mode
  return (packets, m.withSender fun s => { s with sending := true })

/-! ### Runs -/

/-- What makes the module work: a frame that is sent, and one of its tasks. -/
inductive Event where
  | frame (rtpTimestamp : UInt32) (captureTimeMs : Int) (forcedReport : Bool)
  | task (index : Nat)

/-- A frame. -/
def Event.IsFrame : Event → Prop
  | .frame _ _ _ => True
  | .task _ => False

/-- A key frame. -/
def Event.isKeyFrame : Event → Bool
  | .frame _ _ forcedReport => forcedReport
  | .task _ => false

def handle (fuel : Nat) (m : ModuleRtpRtcp) : Event → Option (List LocalRtcpPacket × ModuleRtpRtcp)
  | .frame rtpTimestamp captureTimeMs forcedReport =>
      m.onSendingRtpFrame clock rand fuel rtpTimestamp captureTimeMs forcedReport
  | .task index => m.fireTask clock rand fuel index

/-- A report, and whether a key frame has triggered it. -/
structure SentReport where
  packet : LocalRtcpPacket
  keyFrame : Bool
  deriving DecidableEq, Repr

/-- A module and the reports that it has sent so far, in order. -/
structure Session where
  m : ModuleRtpRtcp
  reports : List SentReport := []
  deriving DecidableEq, Repr

def Session.step (fuel : Nat) (s : Session) (e : Event) : Option Session := do
  let (packets, m) ← s.m.handle clock rand fuel e
  return { m, reports := s.reports ++ packets.map (⟨·, e.isKeyFrame⟩) }

def Session.start (fuel : Nat) (config : Configuration) (mode : RtcpMode) : Option Session := do
  let (packets, m) ← ModuleRtpRtcp.start clock rand fuel config mode
  return { m, reports := packets.map (⟨·, false⟩) }

end ModuleRtpRtcp

end Xrtc.Sdk
