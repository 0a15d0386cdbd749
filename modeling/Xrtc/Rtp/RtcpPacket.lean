import Xrtc.Lib.Traced
import Xrtc.Rtp.Nack

/-!
# `Xrtc.Rtp.RtcpPacket`: the blocks of an RTCP packet

The model of `CommonHeader::Parse`, `ReceiverReport::Parse`, `ReportBlock::Parse` and
`Nack::Parse` of `xrtcsdk/xrtc/rtc/modules/rtp_rtcp/rtcp_packet`, with the reads they make.
A pointer is an offset in the packet that the blocks are parts of.

Padding is announced by a bit of the first byte. `Parse` masks that bit and compares the
result with 1, and what follows for a block with padding is kept here as it stands.
-/

set_option autoImplicit false

namespace Xrtc.Rtp

open Xrtc.Lib

/-! ### The header of a block -/

/-- `CommonHeader::kHeaderSizeBytes`. -/
def kHeaderSizeBytes : Nat := 4

/-- `CommonHeader`. `payload` is the offset of the payload in the packet. -/
structure CommonHeader where
  countOrFmt : UInt8 := 0
  packetType : UInt8 := 0
  paddingSize : UInt32 := 0
  payloadSize : UInt32 := 0
  payload : Nat := 0
  deriving DecidableEq, Repr

namespace CommonHeader

/-- `NextPacket`. -/
def nextPacket (h : CommonHeader) : Nat := h.payload + h.paddingSize.toNat + h.payloadSize.toNat

/-- `Parse`, of the bytes at an offset of the packet. -/
def parse (packet : Bytes) (buffer len : Nat) : Traced (Option CommonHeader) :=
  if len < kHeaderSizeBytes then return none
  else do
    let version := (← Traced.getByte packet buffer) >>> 6
    if version ≠ 2 then return none
    else
      -- the mask leaves 0 or 0x20
      let hasPadding := (← Traced.getByte packet buffer) &&& 0x20 == 1
      let countOrFmt := (← Traced.getByte packet buffer) &&& 0x1F
      let packetType ← Traced.getByte packet (buffer + 1)
      let payloadSize := UInt32.ofNat ((← Traced.getBE16 packet (buffer + 2)).toNat * 4)
      let payload := buffer + kHeaderSizeBytes
      if len < payloadSize.toNat + kHeaderSizeBytes then return none
      else if hasPadding then
        if payloadSize = 0 then return none
        else
          -- the last byte is the size of the padding
          let paddingSize := (← Traced.getByte packet (payload + (payloadSize.toNat - 1))).toUInt32
          if paddingSize = 0 then return none
          else
            -- the difference can wrap around
            return some {
              countOrFmt, packetType, paddingSize, payload
              payloadSize := payloadSize - paddingSize }
      else return some { countOrFmt, packetType, payloadSize, payload }

/-- The test for padding fails for every byte: the mask leaves no bit that 1 has. -/
theorem paddingTest_eq_false (b : UInt8) : (b &&& 0x20 == 1) = false := by
  rw [beq_eq_false_iff_ne]
  intro h
  have hbit := congrArg (fun b : UInt8 => b.toNat.testBit 0) h
  simp [UInt8.toNat_and] at hbit

/-- What `Parse` makes of a block, where there is one. -/
def fromBytes (packet : Bytes) (buffer : Nat) : CommonHeader where
  countOrFmt := packet.getD buffer 0 &&& 0x1F
  packetType := packet.getD (buffer + 1) 0
  payloadSize := UInt32.ofNat ((getBE16 packet (buffer + 2)).toNat * 4)
  payload := buffer + kHeaderSizeBytes

section

variable (packet : Bytes) (buffer len : Nat)

/-- The size of the payload is the length field in words. -/
theorem payloadSize_fromBytes :
    (fromBytes packet buffer).payloadSize.toNat = (getBE16 packet (buffer + 2)).toNat * 4 := by
  have hlt := (getBE16 packet (buffer + 2)).toNat_lt
  show (UInt32.ofNat _).toNat = _
  rw [UInt32.toNat_ofNat', Nat.mod_eq_of_lt (by omega)]

/-- The next block starts behind it. -/
theorem nextPacket_fromBytes :
    (fromBytes packet buffer).nextPacket
      = buffer + ((getBE16 packet (buffer + 2)).toNat * 4 + kHeaderSizeBytes) := by
  unfold nextPacket
  rw [payloadSize_fromBytes]
  show buffer + kHeaderSizeBytes + 0 + _ = _
  omega

/-- `Parse` by its results. The branch for padding is never taken. -/
theorem value_parse :
    (parse packet buffer len).value =
      if len < kHeaderSizeBytes then none
      else if packet.getD buffer 0 >>> 6 ≠ 2 then none
      else if len < (getBE16 packet (buffer + 2)).toNat * 4 + kHeaderSizeBytes then none
      else some (fromBytes packet buffer) := by
  have hsize := payloadSize_fromBytes packet buffer
  unfold fromBytes at hsize
  unfold parse
  split
  · rfl
  · simp only [Traced.value_bind]
    rw [Traced.value_getByte]
    split
    · rfl
    · simp only [Traced.value_bind]
      rw [Traced.value_getByte, Traced.value_getByte, Traced.value_getBE16, hsize,
        paddingTest_eq_false]
      split
      · rfl
      · rfl

variable {packet buffer len} {h : CommonHeader}

/-- A header is accepted with the right version and a block that fits. -/
theorem parse_eq_some (hparse : (parse packet buffer len).value = some h) :
    h = fromBytes packet buffer ∧ packet.getD buffer 0 >>> 6 = 2 ∧
      (getBE16 packet (buffer + 2)).toNat * 4 + kHeaderSizeBytes ≤ len := by
  rw [value_parse] at hparse
  split_ifs at hparse with hheader hversion hpayload
  exact ⟨(Option.some.inj hparse).symm, not_not.mp hversion, by omega⟩

/-- The block is at least its header, and ends where the bytes do or before. -/
theorem nextPacket_of_parse (hparse : (parse packet buffer len).value = some h) :
    buffer + kHeaderSizeBytes ≤ h.nextPacket ∧ h.nextPacket ≤ buffer + len := by
  obtain ⟨rfl, -, hpayload⟩ := parse_eq_some hparse
  rw [nextPacket_fromBytes]
  omega

end

end CommonHeader

/-! ### Receiver reports -/

/-- `ReportBlock`. -/
structure ReportBlock where
  sourceSsrc : UInt32 := 0
  fractionLost : UInt8 := 0
  cumulativePacketsLost : Int := 0
  extendedHighestSequenceNumber : UInt32 := 0
  jitter : UInt32 := 0
  lastSr : UInt32 := 0
  delaySinceLastSr : UInt32 := 0
  deriving DecidableEq, Repr

namespace ReportBlock

/-- `kLength`. -/
def kLength : Nat := 24

/-- `Parse`. The number of lost packets is a signed integer of three bytes. -/
def parse (packet : Bytes) (buffer len : Nat) : Traced (Option ReportBlock) :=
  if len < kLength then return none
  else do
    let sourceSsrc ← Traced.getBE32 packet buffer
    let fractionLost ← Traced.getByte packet (buffer + 4)
    let cumulativePacketsLost :=
      Int.bmod (ofBE (← Traced.getBytes packet (buffer + 5) 3)) (2 ^ 24)
    let extendedHighestSequenceNumber ← Traced.getBE32 packet (buffer + 8)
    let jitter ← Traced.getBE32 packet (buffer + 12)
    let lastSr ← Traced.getBE32 packet (buffer + 16)
    let delaySinceLastSr ← Traced.getBE32 packet (buffer + 20)
    return some {
      sourceSsrc, fractionLost, cumulativePacketsLost, extendedHighestSequenceNumber, jitter
      lastSr, delaySinceLastSr }

end ReportBlock

/-- `ReceiverReport`. -/
structure ReceiverReport where
  senderSsrc : UInt32
  reportBlocks : List ReportBlock
  deriving DecidableEq, Repr

namespace ReceiverReport

/-- `kPacketType`. -/
def kPacketType : UInt8 := 201

/-- `kRrBaseLength`. -/
def kRrBaseLength : Nat := 4

/-- The loop of `Parse` over the report blocks. What `ReportBlock::Parse` returns is not
looked at. -/
def readReportBlocks (packet : Bytes) : (reportCount nextReportBlock : Nat) →
    Traced (List ReportBlock)
  | 0, _ => return []
  | n + 1, nextReportBlock => do
      let reportBlock ← ReportBlock.parse packet nextReportBlock ReportBlock.kLength
      let reportBlocks ← readReportBlocks packet n (nextReportBlock + ReportBlock.kLength)
      return reportBlock.getD {} :: reportBlocks

/-- `Parse`. -/
def parse (packet : Bytes) (header : CommonHeader) : Traced (Option ReceiverReport) :=
  let reportCount := header.countOrFmt.toNat
  if header.payloadSize.toNat < kRrBaseLength + reportCount * ReportBlock.kLength then return none
  else do
    let senderSsrc ← Traced.getBE32 packet header.payload
    let reportBlocks ← readReportBlocks packet reportCount (header.payload + kRrBaseLength)
    return some { senderSsrc, reportBlocks }

end ReceiverReport

/-! ### NACKs -/

/-- `Rtpfb::kPacketType`. -/
def Rtpfb.kPacketType : UInt8 := 205

/-- `Nack`, without the items it is made from. -/
structure Nack where
  senderSsrc : UInt32
  mediaSsrc : UInt32
  packetIds : List UInt16
  deriving DecidableEq, Repr

namespace Nack

/-- `kFeedbackMessageType`. -/
def kFeedbackMessageType : UInt8 := 1

/-- `readItems` with its reads. -/
def readItemsTraced (packet : Bytes) : (nackItems nextNack : Nat) → Traced (List PackedNack)
  | 0, _ => return []
  | n + 1, nextNack => do
      let firstPid ← Traced.getBE16 packet nextNack
      let bitmask ← Traced.getBE16 packet (nextNack + 2)
      let packed ← readItemsTraced packet n (nextNack + kNackItemLength)
      return ⟨firstPid, bitmask⟩ :: packed

/-- `Parse`, with `ParseCommonFeedback`. `parse` is what it computes from the payload for
`packet_ids`. -/
def parseTraced (packet : Bytes) (header : CommonHeader) : Traced (Option Nack) :=
  if header.payloadSize.toNat < kCommonFeedbackLength + kNackItemLength then return none
  else do
    let senderSsrc ← Traced.getBE32 packet header.payload
    let mediaSsrc ← Traced.getBE32 packet (header.payload + 4)
    let nackItems := (header.payloadSize.toNat - kCommonFeedbackLength) / kNackItemLength
    let packed ← readItemsTraced packet nackItems (header.payload + kCommonFeedbackLength)
    return some { senderSsrc, mediaSsrc, packetIds := unpack packed }

end Nack

end Xrtc.Rtp
