import Xrtc.Rtp.RtcpPacket
import Xrtc.Sdk.RtpRtcp

/-!
# `Xrtc.Sdk.RtcpCompound`: compound packets in their buffer

The model of `RTCPSender::PacketSender` in `rtcp_sender.cpp`, of `rtcp_packet.cpp` and of
`rtcp_packet/sender_report.cpp`, with the array that the packets are written to. In
`Xrtc.Sdk.RtpRtcp` a compound packet is a byte string that grows.

`buffer_` has `IP_PACKET_SIZE` bytes and holds anything at first. `Create` writes at
`index_`, and calls back with the bytes in front of it where the buffer is full. `none` stands
for a write behind the end of the array.
-/

set_option autoImplicit false

namespace Xrtc.Sdk

open Xrtc.Lib
open Xrtc.Rtp

/-- `SenderReport::kPacketType`. -/
def SenderReport.kPacketType : UInt8 := 200

/-- `SenderReport::kSenderBaseLength`. -/
def SenderReport.kSenderBaseLength : Nat := 24

/-- `PacketSender`, with the packets that its callback was called with. -/
structure PacketBuffer where
  buffer : Bytes
  index : Nat := 0
  ready : List Bytes := []
  length_buffer : buffer.length = ipPacketSize

namespace PacketBuffer

/-- Bytes stored at an offset from `index_`. -/
def put (s : PacketBuffer) (offset : Nat) (bytes : Bytes) : Option PacketBuffer :=
  let pos := s.index + offset
  if h : pos + bytes.length ≤ ipPacketSize then
    some
      { s with
          buffer := s.buffer.take pos ++ bytes ++ s.buffer.drop (pos + bytes.length)
          length_buffer := by
            have hlength := s.length_buffer
            rw [List.length_append, List.length_append, List.length_take, List.length_drop]
            omega }
  else none

/-- `*index += n`. -/
def advance (s : PacketBuffer) (n : Nat) : PacketBuffer := { s with index := s.index + n }

/-- The packet so far, as the callback sees it. -/
def packet (s : PacketBuffer) : Bytes := s.buffer.take s.index

/-- The callback is called, and `index_` is set to zero. -/
def callback (s : PacketBuffer) : PacketBuffer :=
  { s with index := 0, ready := s.ready ++ [s.packet] }

/-- `CreateHeader`. -/
def createHeader (countOrFmt : Nat) (packetType : UInt8) (blockLength : UInt16) (padding : Bool)
    (s : PacketBuffer) : Option PacketBuffer := do
  let kVersionBits := (2 : UInt8) <<< 6
  let paddingBit := if padding then (1 : UInt8) <<< 5 else 0
  let s ← s.put 0 [kVersionBits ||| paddingBit ||| UInt8.ofNat countOrFmt]
  let s ← s.put 1 [packetType]
  let s ← s.put 2 [((blockLength >>> 8) &&& 0xFF).toUInt8]
  let s ← s.put 3 [(blockLength &&& 0xFF).toUInt8]
  return s.advance kHeaderSizeBytes

/-- `OnBufferFull`. A packet that does not fit into an empty buffer cannot be made. -/
def onBufferFull (s : PacketBuffer) : Option PacketBuffer :=
  if s.index = 0 then none else some s.callback

/-- The loop at the start of `Create`: whether there is room for the packet. -/
def makeRoom (blockLength maxLength : Nat) (s : PacketBuffer) : Bool × PacketBuffer :=
  if maxLength < s.index + blockLength then
    match hfull : s.onBufferFull with
    | none => (false, s)
    | some s' =>
        have : s'.index < s.index := by
          rw [onBufferFull] at hfull
          split at hfull
          · cases hfull
          · rename_i hpos
            cases hfull
            exact Nat.pos_of_ne_zero hpos
        makeRoom blockLength maxLength s'
  else (true, s)
termination_by s.index

/-- What `SenderReport::Create` writes where there is room. -/
def write (s : PacketBuffer) (sr : SenderReport) : Option PacketBuffer := do
  let s ← s.createHeader 0 SenderReport.kPacketType sr.headerLength false
  let s ← s.put 0 (writeUInt32 sr.senderSsrc)
  let s ← s.put 4 (writeUInt32 sr.ntpTime.1)
  let s ← s.put 8 (writeUInt32 sr.ntpTime.2)
  let s ← s.put 12 (writeUInt32 sr.rtpTimestamp)
  let s ← s.put 16 (writeUInt32 sr.sendPacketCount)
  let s ← s.put 20 (writeUInt32 sr.sendPacketOctet)
  return s.advance SenderReport.kSenderBaseLength

/-- `SenderReport::Create`. -/
def create (maxLength : Nat) (s : PacketBuffer) (sr : SenderReport) :
    Option (Bool × PacketBuffer) :=
  let (room, s) := s.makeRoom sr.blockLength maxLength
  if room then (s.write sr).map (true, ·) else some (false, s)

/-- `Append`, which does not look at what `Create` returns. -/
def append (maxPacketSize : Nat) (s : PacketBuffer) (sr : SenderReport) : Option PacketBuffer :=
  (s.create maxPacketSize sr).map Prod.snd

/-- `Send`. -/
def send (s : PacketBuffer) : PacketBuffer := if 0 < s.index then s.callback else s

/-- A new sender, whose array holds anything. -/
def new (memory : Vector UInt8 ipPacketSize) : PacketBuffer where
  buffer := memory.toList
  length_buffer := by simp

end PacketBuffer

/-- Sender reports appended in order to a new sender, and sent: the packets that the callback
was called with. -/
def compound (memory : Vector UInt8 ipPacketSize) (maxPacketSize : Nat) (srs : List SenderReport) :
    Option (List Bytes) := do
  let s ← srs.foldlM (PacketBuffer.append maxPacketSize) (PacketBuffer.new memory)
  return s.send.ready

end Xrtc.Sdk
