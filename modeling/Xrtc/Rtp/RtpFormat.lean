import Xrtc.Lib.Bytes
import Xrtc.Lib.MachineInt

/-!
# `Xrtc.Rtp.RtpFormat`: payload limits and splitting

The model of `xrtcsdk/xrtc/rtc/modules/rtp_rtcp/rtp_format.cpp` and of the payload
of a packet in `rtp_packet.cpp`.

`none` stands for a call that has no result: an access out of range, a division by
zero, or a loop that does not end with its counter.
-/

set_option autoImplicit false

namespace Xrtc.Rtp

open Xrtc.Lib

/-! ### Packets -/

/-- `kDefaultCapacity`. -/
def kDefaultCapacity : Nat := 1500

/-- `kFixedHeaderSize`. -/
def kFixedHeaderSize : Nat := 12

/-- `RtpPacketToSend`, without the header fields that the packetizer does not touch. -/
structure RtpPacketToSend where
  capacity : Nat := kDefaultCapacity
  marker : Bool := false
  payload : Bytes := []
  deriving DecidableEq, Repr

namespace RtpPacketToSend

/-- `FreeCapacity`. -/
def freeCapacity (packet : RtpPacketToSend) : Nat :=
  packet.capacity - (kFixedHeaderSize + packet.payload.length)

/-- `SetPayloadSize`. New bytes hold anything, here zero. Without room for them the
source returns a null pointer. -/
def setPayloadSize (packet : RtpPacketToSend) (size : Nat) : Option RtpPacketToSend :=
  if packet.capacity < kFixedHeaderSize + size then none
  else
    some
      { packet with
          payload :=
            packet.payload.take size ++ List.replicate (size - packet.payload.length) 0 }

/-- `AllocatePayload`. -/
def allocatePayload (packet : RtpPacketToSend) (size : Nat) : Option RtpPacketToSend := do
  let packet ← packet.setPayloadSize 0
  packet.setPayloadSize size

/-- `memcpy` to the payload at an offset. -/
def write (packet : RtpPacketToSend) (index : Nat) (bytes : Bytes) : Option RtpPacketToSend :=
  if packet.payload.length < index + bytes.length then none
  else
    some
      { packet with
          payload :=
            packet.payload.take index ++ bytes ++ packet.payload.drop (index + bytes.length) }

/-- `SetMarker`. -/
def setMarker (packet : RtpPacketToSend) (markerBit : Bool) : RtpPacketToSend :=
  { packet with marker := markerBit }

end RtpPacketToSend

/-- The functions of `RtpPacketToSend` that the packetizer calls. A packet is its payload here,
and a buffer with its header in `Xrtc.Sdk.RtpPacketBuffer`. -/
class RtpPacketOps (P : Type) where
  freeCapacity : P → Nat
  allocatePayload : P → Nat → Option P
  setPayloadSize : P → Nat → Option P
  write : P → Nat → Bytes → Option P
  setMarker : P → Bool → P

instance : RtpPacketOps RtpPacketToSend where
  freeCapacity := RtpPacketToSend.freeCapacity
  allocatePayload := RtpPacketToSend.allocatePayload
  setPayloadSize := RtpPacketToSend.setPayloadSize
  write := RtpPacketToSend.write
  setMarker := RtpPacketToSend.setMarker

namespace RtpPacketToSend

/-- The operation of the class is the method of the packet. -/
@[simp] theorem ops_freeCapacity (packet : RtpPacketToSend) :
    RtpPacketOps.freeCapacity packet = packet.freeCapacity := rfl

/-- The same for the payload that is set aside. -/
@[simp] theorem ops_allocatePayload (packet : RtpPacketToSend) :
    RtpPacketOps.allocatePayload packet = packet.allocatePayload := rfl

/-- The same for its size. -/
@[simp] theorem ops_setPayloadSize (packet : RtpPacketToSend) :
    RtpPacketOps.setPayloadSize packet = packet.setPayloadSize := rfl

/-- The same for a write into it. -/
@[simp] theorem ops_write (packet : RtpPacketToSend) :
    RtpPacketOps.write packet = packet.write := rfl

/-- The same for the marker bit. -/
@[simp] theorem ops_setMarker (packet : RtpPacketToSend) :
    RtpPacketOps.setMarker packet = packet.setMarker := rfl

end RtpPacketToSend

/-! ### Splitting -/

/-- `RtpPacketizer::PayloadLimits`. -/
structure PayloadLimits where
  maxPayloadLen : Int := 1200
  singlePacketReductionLen : Int := 0
  firstPacketReductionLen : Int := 0
  lastPacketReductionLen : Int := 0
  deriving DecidableEq, Repr

/-- The size of the next packet in `SplitAboutEqual`, given the number of packets left
and the bytes for each of them. -/
def currentPacketBytes (limits : PayloadLimits) (numPacketsLeft bytesPerPacket : Nat)
    (remainData : Int) (firstPacket : Bool) : Int :=
  let current := toInt32 bytesPerPacket
  let current :=
    if firstPacket then
      if 1 < current - limits.firstPacketReductionLen then current - limits.firstPacketReductionLen
      else 1
    else current
  let current := if remainData < current then remainData else current
  if numPacketsLeft = 2 ∧ current = remainData then current - 1 else current

/-- The loop of `SplitAboutEqual`. The counter of the packets left would wrap around
below zero, where the model has no result. -/
def splitLoop (limits : PayloadLimits) (numLargerPacket : Nat) :
    (numPacketsLeft bytesPerPacket : Nat) → (remainData : Int) → (firstPacket : Bool) →
      Option (List Int)
  | 0, _, remainData, _ => if 0 < remainData then none else some []
  | numPacketsLeft + 1, bytesPerPacket, remainData, firstPacket =>
      if 0 < remainData then
        let bytesPerPacket :=
          if numPacketsLeft + 1 = numLargerPacket then bytesPerPacket + 1 else bytesPerPacket
        let current :=
          currentPacketBytes limits (numPacketsLeft + 1) bytesPerPacket remainData firstPacket
        (splitLoop limits numLargerPacket numPacketsLeft bytesPerPacket (remainData - current)
          false).map (current :: ·)
      else some []

/-- `SplitAboutEqual`. Sums of a `size_t` and an `int` are of type `size_t`. -/
def splitAboutEqual (payloadSize : Nat) (limits : PayloadLimits) : Option (List Int) :=
  if toSizeT (payloadSize + limits.singlePacketReductionLen) ≤ toSizeT limits.maxPayloadLen then
    some [toInt32 payloadSize]
  else if limits.maxPayloadLen - limits.firstPacketReductionLen < 1 ∨
      limits.maxPayloadLen - limits.lastPacketReductionLen < 1 then
    some []
  else
    let totalBytes := toSizeT (payloadSize + limits.firstPacketReductionLen
      + limits.lastPacketReductionLen)
    let max := toSizeT limits.maxPayloadLen
    if max = 0 then none
    else
      let numPacketsLeft := toSizeT (totalBytes + limits.maxPayloadLen - 1) / max
      let numPacketsLeft := if numPacketsLeft = 1 then 2 else numPacketsLeft
      if numPacketsLeft = 0 then none
      else
        splitLoop limits (totalBytes % numPacketsLeft) numPacketsLeft (totalBytes / numPacketsLeft)
          (toInt32 payloadSize) true

end Xrtc.Rtp
