import Xrtc.Lib.Memory
import Xrtc.Sdk.VideoCall

/-!
# `Xrtc.Sdk.RtpPacketBuffer`: packets in their buffers

The model of `xrtcsdk/xrtc/rtc/modules/rtp_rtcp/rtp_packet.cpp` with the buffer that a packet
is written to and sent from, and of what is done to it: `NextPacket` of
`rtp_format_h264.cpp` (`Xrtc.Rtp.RtpFormatH264` at this type), `BuildRtxPacket` of
`video_send_stream.cpp`, and `SendEncodedImage`, `OnNackReceived` and `OnLocalRtcpPacket` of
`pc/peer_connection.cpp`.

It is `Xrtc.Sdk.VideoCall` one level down. There a packet is its fields and its payload. Here
it is a block of 1500 bytes that is not initialised, and what is handed to `SendPacket` is a
range of bytes. `memory` gives the contents of the blocks, in the order of their allocation.

A write behind the end of the block has no result. The size that the buffer keeps for itself
is never read and is left out.
-/

set_option autoImplicit false

namespace Xrtc.Sdk

open Xrtc.Lib
open Xrtc.Rtp

/-! ### `RtpPacket` -/

/-- `RtpPacket`. -/
structure RtpPacketBuffer where
  marker : Bool
  payloadType : UInt8
  sequenceNumber : UInt16
  timestamp : UInt32
  ssrc : UInt32
  payloadOffset : Nat
  payloadSize : Nat
  paddingSize : Nat
  buffer : Memory

/-- `kRtpVersion`. -/
def kRtpVersion : UInt8 := 2

namespace RtpPacketBuffer

/-- `size`. -/
def size (p : RtpPacketBuffer) : Nat := p.payloadOffset + p.payloadSize + p.paddingSize

/-- `FreeCapacity`. -/
def freeCapacity (p : RtpPacketBuffer) : Nat := kDefaultCapacity - p.size

/-- `payload`. -/
def payload (p : RtpPacketBuffer) : Bytes := p.buffer.read p.payloadOffset p.payloadSize

/-- The bytes from `data` that are sent. -/
def bytes (p : RtpPacketBuffer) : Bytes := p.buffer.read 0 p.size

/-- Bytes written at an offset of the buffer, by `WriteAt` or by a `ByteWriter`. -/
def writeAt (p : RtpPacketBuffer) (offset : Nat) (bytes : Bytes) : RtpPacketBuffer :=
  { p with buffer := p.buffer.write offset bytes }

/-- The constructor, with `Clear`. -/
def new (memory : Memory) : RtpPacketBuffer :=
  { marker := false
    payloadType := 0
    sequenceNumber := 0
    timestamp := 0
    ssrc := 0
    payloadOffset := kFixedHeaderSize
    payloadSize := 0
    paddingSize := 0
    buffer := memory : RtpPacketBuffer }.writeAt 0 [kRtpVersion <<< 6]

/-- `SetMarker`. -/
def setMarker (p : RtpPacketBuffer) (markerBit : Bool) : RtpPacketBuffer :=
  { p with marker := markerBit }.writeAt 1
    [if markerBit then p.buffer 1 ||| 0x80 else p.buffer 1 &&& 0x7F]

/-- `SetPayloadType`. -/
def setPayloadType (p : RtpPacketBuffer) (payloadType : UInt8) : RtpPacketBuffer :=
  { p with payloadType }.writeAt 1 [(p.buffer 1 &&& 0x80) ||| payloadType]

/-- `SetSequenceNumber`. -/
def setSequenceNumber (p : RtpPacketBuffer) (seqNo : UInt16) : RtpPacketBuffer :=
  { p with sequenceNumber := seqNo }.writeAt 2 (writeUInt16 seqNo)

/-- `SetTimestamp`. -/
def setTimestamp (p : RtpPacketBuffer) (ts : UInt32) : RtpPacketBuffer :=
  { p with timestamp := ts }.writeAt 4 (writeUInt32 ts)

/-- `SetSsrc`. -/
def setSsrc (p : RtpPacketBuffer) (ssrc : UInt32) : RtpPacketBuffer :=
  { p with ssrc }.writeAt 8 (writeUInt32 ssrc)

/-- `SetPayloadSize`. Without room it returns a null pointer. -/
def setPayloadSize (p : RtpPacketBuffer) (bytesSize : Nat) : Option RtpPacketBuffer :=
  if kDefaultCapacity < p.payloadOffset + bytesSize then none
  else some { p with payloadSize := bytesSize }

/-- `AllocatePayload`. -/
def allocatePayload (p : RtpPacketBuffer) (payloadSize : Nat) : Option RtpPacketBuffer := do
  let p ← p.setPayloadSize 0
  p.setPayloadSize payloadSize

/-- `memcpy` to the payload at an offset. -/
def write (p : RtpPacketBuffer) (index : Nat) (bytes : Bytes) : Option RtpPacketBuffer :=
  if kDefaultCapacity < p.payloadOffset + index + bytes.length then none
  else some (p.writeAt (p.payloadOffset + index) bytes)

/-- A packet without its buffer, as it is counted. -/
def toRtpPacket (p : RtpPacketBuffer) : RtpPacket where
  marker := p.marker
  payload := p.payload
  payloadType := p.payloadType
  sequenceNumber := p.sequenceNumber
  timestamp := p.timestamp
  ssrc := p.ssrc

end RtpPacketBuffer

/-- The packetizer writes to a buffer as it does to a payload. -/
instance : RtpPacketOps RtpPacketBuffer where
  freeCapacity := RtpPacketBuffer.freeCapacity
  allocatePayload := RtpPacketBuffer.allocatePayload
  setPayloadSize := RtpPacketBuffer.setPayloadSize
  write := RtpPacketBuffer.write
  setMarker := RtpPacketBuffer.setMarker

namespace RtpPacketBuffer

/-- The operation of the class is the method of the buffer. -/
@[simp] theorem ops_freeCapacity (p : RtpPacketBuffer) :
    RtpPacketOps.freeCapacity p = p.freeCapacity := rfl

/-- The same for the payload that is set aside. -/
@[simp] theorem ops_allocatePayload (p : RtpPacketBuffer) :
    RtpPacketOps.allocatePayload p = p.allocatePayload := rfl

/-- The same for its size. -/
@[simp] theorem ops_setPayloadSize (p : RtpPacketBuffer) :
    RtpPacketOps.setPayloadSize p = p.setPayloadSize := rfl

/-- The same for a write into it. -/
@[simp] theorem ops_write (p : RtpPacketBuffer) : RtpPacketOps.write p = p.write := rfl

/-- The same for the marker bit. -/
@[simp] theorem ops_setMarker (p : RtpPacketBuffer) : RtpPacketOps.setMarker p = p.setMarker := rfl

/-! ### `VideoSendStream` -/

/-- `BuildRtxPacket`. -/
def buildRtxPacket (s : VideoSendStream) (memory : Memory) (packet : RtpPacketBuffer) :
    Option (RtpPacketBuffer × VideoSendStream) := do
  let rtxPacket := (new memory).setPayloadType (UInt8.ofInt s.rtx.payloadType)
  let rtxPacket := rtxPacket.setSsrc s.rtx.ssrc
  let rtxPacket := rtxPacket.setSequenceNumber s.rtxSeq
  let rtxPacket := rtxPacket.setMarker packet.marker
  let rtxPacket := rtxPacket.setTimestamp packet.timestamp
  let rtxPacket ← rtxPacket.allocatePayload (packet.payloadSize + kRtxHeaderSize)
  let rtxPacket ← rtxPacket.write 0 (writeUInt16 packet.sequenceNumber)
  let rtxPacket ← rtxPacket.write kRtxHeaderSize packet.payload
  return (rtxPacket, { s with rtxSeq := s.rtxSeq + 1 })

end RtpPacketBuffer

/-! ### `PeerConnection` -/

/-- A connection with its packets in their buffers. `pc` is the connection without its cache.
`allocated` is the number of packets it has constructed. -/
structure BufferedConnection where
  pc : PeerConnection
  videoCache : Nat → Option RtpPacketBuffer := fun _ => none
  allocated : Nat := 0

namespace BufferedConnection

variable (memory : Nat → Memory)

/-- `AddVideoCache`. -/
def addVideoCache (s : BufferedConnection) (packet : RtpPacketBuffer) : BufferedConnection :=
  let seq := packet.sequenceNumber
  let index := seq.toNat % rtcPacketCacheSize
  match s.videoCache index with
  | some cached =>
      if cached.sequenceNumber = seq then s
      else { s with videoCache := Function.update s.videoCache index (some packet) }
  | none => { s with videoCache := Function.update s.videoCache index (some packet) }

/-- `FindVideoCache`. -/
def findVideoCache (s : BufferedConnection) (seq : UInt16) : Option RtpPacketBuffer :=
  let index := seq.toNat % rtcPacketCacheSize
  (s.videoCache index).filter fun cached => cached.sequenceNumber = seq

/-- The loop of `SendEncodedImage`. -/
def sendLoop (rtpTimestamp : UInt32) :
    (fuel : Nat) → (packetizer : RtpPacketizerH264) → (s : BufferedConnection) →
      Option (List RtpPacketBuffer × BufferedConnection)
  | fuel, packetizer, s =>
      let singlePacket := RtpPacketBuffer.new (memory s.allocated)
      let s := { s with allocated := s.allocated + 1 }
      let singlePacket := singlePacket.setPayloadType s.pc.videoPt
      let singlePacket := singlePacket.setTimestamp rtpTimestamp
      let singlePacket := singlePacket.setSsrc s.pc.localVideoSsrc
      match packetizer.nextPacket singlePacket with
      | none => none
      | some none => some ([], s)
      | some (some (singlePacket, packetizer)) =>
          match fuel with
          | 0 => none
          | fuel + 1 => do
              let singlePacket := singlePacket.setSequenceNumber s.pc.videoSeq
              let s := { s with pc := { s.pc with videoSeq := s.pc.videoSeq + 1 } }
              let s := s.addVideoCache singlePacket
              let (packets, s) ← sendLoop rtpTimestamp fuel packetizer s
              return (singlePacket :: packets, s)

/-- `SendEncodedImage`, while the connection is connected. -/
def sendEncodedImage (s : BufferedConnection) (frame : MediaFrame) :
    Option (List RtpPacketBuffer × BufferedConnection) := do
  let rtpTimestamp := frame.ts * 90
  let packetizer ← RtpPacketizerH264.new frame.data {}
  sendLoop memory rtpTimestamp packetizer.packets.length packetizer s

/-- `OnNackReceived`. -/
def onNackReceived (s : BufferedConnection) : (nackList : List UInt16) →
    Option (List RtpPacketBuffer × BufferedConnection)
  | [] => some ([], s)
  | nackId :: nackList =>
      match s.findVideoCache nackId, s.pc.videoSendStream with
      | some packet, some stream => do
          let (rtxPacket, stream) ←
            RtpPacketBuffer.buildRtxPacket stream (memory s.allocated) packet
          let (packets, s) ← onNackReceived
            { s with
                pc := { s.pc with videoSendStream := some stream }
                allocated := s.allocated + 1 } nackList
          return (rtxPacket :: packets, s)
      | _, _ => onNackReceived s nackList

end BufferedConnection

/-! ### A call -/

/-- `Xrtc.Sdk.VideoCall` with the packets in their buffers. `sent` are the arguments of
`SendPacket` so far, in order. -/
structure BufferedCall where
  conn : BufferedConnection
  m : ModuleRtpRtcp
  sent : List Bytes := []

namespace BufferedCall

variable (memory : Nat → Memory) (clock : Clock) (rand : Nat → Int → Int → Int)

/-- `OnLocalRtcpPacket`. -/
def onLocalRtcpPacket (s : BufferedConnection) (packet : LocalRtcpPacket) : List Bytes :=
  if s.pc.pcState ≠ .connected then [] else [packet.data]

/-- `SendEncodedImage`. -/
def sendEncodedImage (fuel : Nat) (s : BufferedCall) (frame : MediaFrame) (captureTimeMs : Int)
    (idr : Bool) : Option BufferedCall :=
  if s.conn.pc.pcState ≠ .connected then some s
  else do
    let rtpTimestamp := frame.ts * 90
    let (reports, m) ←
      if s.conn.pc.videoSendStream.isSome then
        s.m.onSendingRtpFrame clock rand fuel rtpTimestamp captureTimeMs idr
      else some ([], s.m)
    let (packets, conn) ← s.conn.sendEncodedImage memory frame
    return {
      conn
      m :=
        if s.conn.pc.videoSendStream.isSome then
          packets.foldl (fun m packet => m.updateRtpStats packet.toRtpPacket false false) m
        else m
      sent :=
        s.sent ++ reports.flatMap (onLocalRtcpPacket s.conn) ++
          packets.map RtpPacketBuffer.bytes }

/-- `OnNackReceived`. -/
def onNackReceived (s : BufferedCall) (nackList : List UInt16) : Option BufferedCall := do
  let (packets, conn) ← s.conn.onNackReceived memory nackList
  return { s with conn, sent := s.sent ++ packets.map RtpPacketBuffer.bytes }

/-- The thread runs one of the tasks of the module. -/
def fireTask (fuel : Nat) (s : BufferedCall) (index : Nat) : Option BufferedCall := do
  let (reports, m) ← s.m.fireTask clock rand fuel index
  return { s with m, sent := s.sent ++ reports.flatMap (onLocalRtcpPacket s.conn) }

/-- One of the things that happen to a connection that sends video. -/
def step (fuel : Nat) (s : BufferedCall) : VideoCall.Event → Option BufferedCall
  | .image frame captureTimeMs idr =>
      s.sendEncodedImage memory clock rand fuel frame captureTimeMs idr
  | .nack nackList => s.onNackReceived memory nackList
  | .task index => s.fireTask clock rand fuel index

/-- The constructor of `VideoSendStream`, for a connection. -/
def start (fuel : Nat) (pc : PeerConnection) (ssrc : UInt32) : Option BufferedCall := do
  let (reports, m) ← ModuleRtpRtcp.start clock rand fuel (createRtpRtcpModule ssrc) .compound
  return { conn := { pc }, m, sent := reports.flatMap (onLocalRtcpPacket { pc }) }

end BufferedCall

end Xrtc.Sdk
