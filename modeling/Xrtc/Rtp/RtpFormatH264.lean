import Xrtc.Rtp.RtpFormat

/-!
# `Xrtc.Rtp.RtpFormatH264`: packetizing an H.264 frame

The model of `xrtcsdk/xrtc/rtc/modules/rtp_rtcp/rtp_format_h264.cpp`. The
constructor looks for the NAL units of a frame and queues the units of its packets.
`nextPacket` then makes one packet from the front of the queue: a single NAL unit,
an aggregation packet (STAP-A) or a fragment (FU-A).

Views are the bytes they show. As in `Xrtc.Rtp.RtpFormat`, `none` stands for an
access out of range (also to an empty queue), a subtraction below zero, or a loop
that does not end.

`NextFragmentPacket` keeps a pointer to the unit at the front of the queue, pops the unit, and
then reads it once more. What it finds there is a parameter (`popped`). As long as nothing else
has got the memory, it is the unit (`some`, for `nextPacket` and `drain`). For a queue of which
only the units that are in it can be read, it is nothing (`outOfQueue`).
-/

set_option autoImplicit false

namespace Xrtc.Rtp

open Xrtc.Lib

/-! ### NAL units -/

/-- `kNaluShortStartSequenceSize`. -/
def kNaluShortStartSequenceSize : Nat := 3

/-- `kFuAHeaderSize`. -/
def kFuAHeaderSize : Nat := 2

/-- `kNaluHeaderSize`. -/
def kNaluHeaderSize : Nat := 1

/-- `kLengthFieldSize`. -/
def kLengthFieldSize : Nat := 2

/-- `kFBit | kNriMask`. -/
def fBitAndNriMask : UInt8 := 0xe0

/-- `kTypeMask`. -/
def kTypeMask : UInt8 := 0x1f

/-- `kSBit`. -/
def kSBit : UInt8 := 0x80

/-- `kEBit`. -/
def kEBit : UInt8 := 0x40

/-- `NaluType::kStapA`. -/
def kStapA : UInt8 := 24

/-- `NaluType::kFuA`. -/
def kFuA : UInt8 := 28

/-- `NaluIndex`. -/
structure NaluIndex where
  startOffset : Nat
  payloadStartOffset : Nat
  payloadSize : Nat
  deriving DecidableEq, Repr

/-- `a - b` of two sizes, if it is not below zero. -/
def subSize (a b : Nat) : Option Nat := if a < b then none else some (a - b)

/-- Sets the size of the last NAL unit found, which is the first of the list, to the
distance to an offset. -/
def setLastPayloadSize (offset : Nat) : List NaluIndex → Option (List NaluIndex)
  | [] => some []
  | index :: sequences => do
      let size ← subSize offset index.payloadStartOffset
      return { index with payloadSize := size } :: sequences

/-- The start code at an offset: its index starts one byte earlier if the byte before
it is zero. -/
def startCodeAt (buffer : Bytes) (i : Nat) : Option NaluIndex :=
  if i = 0 then some ⟨i, i + 3, 0⟩
  else do
    let before ← buffer[i - 1]?
    return ⟨if before = 0 then i - 1 else i, i + 3, 0⟩

/-- The loop of `FindNaluIndices`, with the indices found so far, the last one first. -/
def findLoop (buffer : Bytes) (end_ i : Nat) (sequences : List NaluIndex) :
    Option (List NaluIndex) :=
  if i < end_ then do
    let byte2 ← buffer[i + 2]?
    if 1 < byte2 then findLoop buffer end_ (i + 3) sequences
    else if byte2 = 1 then
      let byte0 ← buffer[i]?
      let byte1 ← buffer[i + 1]?
      if byte0 = 0 ∧ byte1 = 0 then
        let index ← startCodeAt buffer i
        let sequences ← setLastPayloadSize index.startOffset sequences
        findLoop buffer end_ (i + 3) (index :: sequences)
      else findLoop buffer end_ (i + 3) sequences
    else findLoop buffer end_ (i + 1) sequences
  else some sequences
termination_by end_ - i

/-- `FindNaluIndices`. -/
def findNaluIndices (buffer : Bytes) : Option (List NaluIndex) :=
  if buffer.length < kNaluShortStartSequenceSize then some []
  else do
    let sequences ← findLoop buffer (buffer.length - kNaluShortStartSequenceSize) 0 []
    let sequences ← setLastPayloadSize buffer.length sequences
    return sequences.reverse

/-- `ArrayView::subview`, which stops at the end of the view. -/
def subview (view : Bytes) (offset size : Nat) : Bytes := (view.drop offset).take size

/-- The NAL units that the constructor takes from a frame. -/
def nalUnits (buffer : Bytes) : Option (List Bytes) := do
  let indices ← findNaluIndices buffer
  return indices.map fun nalu => subview buffer nalu.payloadStartOffset nalu.payloadSize

/-! ### The queue of packet units -/

/-- `RtpPacketizerH264::PacketUnit`. -/
structure PacketUnit where
  sourceFragment : Bytes
  firstFragment : Bool
  lastFragment : Bool
  aggregated : Bool
  header : UInt8
  deriving DecidableEq, Repr

/-- `RtpPacketizerH264`. -/
structure RtpPacketizerH264 where
  limits : PayloadLimits
  inputFragments : List Bytes
  packets : List PacketUnit := []
  numPacketsLeft : Nat := 0
  deriving DecidableEq, Repr

namespace RtpPacketizerH264

/-- `NumPackets`. -/
def numPackets (p : RtpPacketizerH264) : Nat := p.numPacketsLeft

/-- The limits `PacketizeFuA` splits a NAL unit with. -/
def fuALimits (p : RtpPacketizerH264) (fragmentIndex : Nat) : PayloadLimits :=
  let n := p.inputFragments.length
  let limits := { p.limits with maxPayloadLen := p.limits.maxPayloadLen - kFuAHeaderSize }
  let limits :=
    if n ≠ 1 then
      if fragmentIndex = n - 1 then
        { limits with singlePacketReductionLen := limits.lastPacketReductionLen }
      else if fragmentIndex = 0 then
        { limits with singlePacketReductionLen := limits.firstPacketReductionLen }
      else { limits with singlePacketReductionLen := 0 }
    else limits
  let limits :=
    if fragmentIndex ≠ 0 then { limits with firstPacketReductionLen := 0 } else limits
  if fragmentIndex ≠ n - 1 then { limits with lastPacketReductionLen := 0 } else limits

/-- The loop of `PacketizeFuA`: the units of the fragments from an offset on. -/
def fuAUnits (fragment : Bytes) (header : UInt8) (offset : Nat) (first : Bool) :
    List Int → List PacketUnit
  | [] => []
  | size :: sizes =>
      let packetLength := toSizeT size
      ⟨subview fragment offset packetLength, first, sizes.isEmpty, false, header⟩ ::
        fuAUnits fragment header (offset + packetLength) false sizes

/-- `PacketizeFuA`: whether it succeeds, and the packetizer. -/
def packetizeFuA (p : RtpPacketizerH264) (fragmentIndex : Nat) :
    Option (Bool × RtpPacketizerH264) := do
  let fragment ← p.inputFragments[fragmentIndex]?
  let payloadLeft ← subSize fragment.length kNaluHeaderSize
  let payloadSizes ← splitAboutEqual payloadLeft (p.fuALimits fragmentIndex)
  if payloadSizes = [] then return (false, p)
  else
    let header ← fragment.head?
    let units := fuAUnits fragment header kNaluHeaderSize true payloadSizes
    return (true,
      { p with
          packets := p.packets ++ units
          numPacketsLeft := p.numPacketsLeft + payloadSizes.length })

/-- The loop of `PacketizeStapA` over the NAL units from an index on: the units it
queues, and the index where it stops. -/
def stapALoop (p : RtpPacketizerH264) :
    (payloadSizeLeft aggregatedFragment fragmentHeaderLength fragmentIndex : Nat) →
      List Bytes → Option (List PacketUnit × Nat)
  | _, _, _, fragmentIndex, [] => some ([], fragmentIndex)
  | payloadSizeLeft, aggregatedFragment, fragmentHeaderLength, fragmentIndex, fragment :: rest =>
      let n := p.inputFragments.length
      let fragmentSize := fragment.length + fragmentHeaderLength
      let payloadSizeNeeded :=
        if n ≠ 1 ∧ fragmentIndex = n - 1 then
          toSizeT (fragmentSize + p.limits.lastPacketReductionLen)
        else fragmentSize
      if payloadSizeNeeded ≤ payloadSizeLeft then do
        let header ← fragment.head?
        let left ← subSize payloadSizeLeft fragment.length
        let left ← subSize left fragmentHeaderLength
        let nextHeaderLength :=
          if aggregatedFragment = 0 then kLengthFieldSize + (kNaluHeaderSize + kLengthFieldSize)
          else kLengthFieldSize
        let (units, index) ← stapALoop p left (aggregatedFragment + 1) nextHeaderLength
          (fragmentIndex + 1) rest
        return (⟨fragment, aggregatedFragment = 0, false, true, header⟩ :: units, index)
      else some ([], fragmentIndex)

/-- `packets_.back().last_fragment = true`. -/
def markLast : List PacketUnit → Option (List PacketUnit)
  | [] => none
  | [unit] => some [{ unit with lastFragment := true }]
  | unit :: units => do
      let units ← markLast units
      return unit :: units

/-- `PacketizeStapA`: the index of the next NAL unit, and the packetizer. -/
def packetizeStapA (p : RtpPacketizerH264) (fragmentIndex : Nat) :
    Option (Nat × RtpPacketizerH264) := do
  let payloadSizeLeft :=
    if p.inputFragments.length = 1 then
      toSizeT (p.limits.maxPayloadLen - p.limits.singlePacketReductionLen)
    else if fragmentIndex = 0 then
      toSizeT (p.limits.maxPayloadLen - p.limits.firstPacketReductionLen)
    else toSizeT p.limits.maxPayloadLen
  let (units, index) ←
    stapALoop p payloadSizeLeft 0 0 fragmentIndex (p.inputFragments.drop fragmentIndex)
  let packets ← markLast (p.packets ++ units)
  return (index, { p with packets, numPacketsLeft := p.numPacketsLeft + 1 })

/-- What a NAL unit may take to go into a packet without being fragmented. -/
def singlePacketCapacity (p : RtpPacketizerH264) (i : Nat) : Nat :=
  if p.inputFragments.length = 1 then
    toSizeT (p.limits.maxPayloadLen - p.limits.singlePacketReductionLen)
  else if i = 0 then toSizeT (p.limits.maxPayloadLen - p.limits.firstPacketReductionLen)
  else if i + 1 = p.inputFragments.length then
    toSizeT (p.limits.maxPayloadLen - p.limits.lastPacketReductionLen)
  else toSizeT p.limits.maxPayloadLen

/-- The loop of `GeneratePackets` from an index on. Every iteration takes at least one
NAL unit, or the loop does not end. -/
def generateLoop : (fuel : Nat) → (p : RtpPacketizerH264) → (i : Nat) →
    Option (Bool × RtpPacketizerH264)
  | fuel, p, i =>
      match p.inputFragments[i]? with
      | none => some (true, p)
      | some fragment =>
          match fuel with
          | 0 => none
          | fuel + 1 => do
              if p.singlePacketCapacity i < fragment.length then
                let (ok, p) ← p.packetizeFuA i
                if ok then generateLoop fuel p (i + 1) else return (false, p)
              else
                let (i, p) ← p.packetizeStapA i
                generateLoop fuel p i

/-- `GeneratePackets`. -/
def generatePackets (p : RtpPacketizerH264) : Option (Bool × RtpPacketizerH264) :=
  generateLoop p.inputFragments.length p 0

/-- The constructor, for the NAL units of a frame. -/
def ofNalUnits (nalus : List Bytes) (limits : PayloadLimits) : Option RtpPacketizerH264 := do
  let (ok, p) ← generatePackets { limits, inputFragments := nalus }
  if ok then return p else return { p with packets := [], numPacketsLeft := 0 }

/-- The constructor. -/
def new (payload : Bytes) (limits : PayloadLimits) : Option RtpPacketizerH264 := do
  let nalus ← nalUnits payload
  ofNalUnits nalus limits

/-! ### The packets -/

/-- `input_fragments_.pop_front()`. -/
def popFragment (p : RtpPacketizerH264) : Option RtpPacketizerH264 :=
  match p.inputFragments with
  | [] => none
  | _ :: inputFragments => some { p with inputFragments }

/-- A unit that has been popped is not in the queue. -/
def outOfQueue (_ : PacketUnit) : Option PacketUnit := none

section

variable {P : Type} [RtpPacketOps P] (popped : PacketUnit → Option PacketUnit)

open RtpPacketOps (freeCapacity allocatePayload setPayloadSize write setMarker)

/-- The loop of `NextAggregatedPacket`: the packet, the offset behind what is written,
and the packetizer. -/
def aggregateLoop (rtpPacket : P) (index : Nat) (inputFragments : List Bytes) :
    List PacketUnit → Option (P × Nat × List Bytes × List PacketUnit)
  | [] => none
  | packet :: packets =>
      if packet.aggregated then
        match inputFragments with
        | [] => none
        | _ :: inputFragments => do
            let fragment := packet.sourceFragment
            let rtpPacket ← write rtpPacket index (writeUInt16 (UInt16.ofNat fragment.length))
            let index := index + kLengthFieldSize
            let rtpPacket ← write rtpPacket index fragment
            let index := index + fragment.length
            if packet.lastFragment then return (rtpPacket, index, inputFragments, packets)
            else aggregateLoop rtpPacket index inputFragments packets
      else some (rtpPacket, index, inputFragments, packet :: packets)

/-- `NextAggregatedPacket`, with the unit at the front of the queue. -/
def nextAggregatedPacket (p : RtpPacketizerH264) (packet : PacketUnit) (rtpPacket : P) :
    Option (P × RtpPacketizerH264) := do
  let rtpPacket ← allocatePayload rtpPacket (freeCapacity rtpPacket)
  let rtpPacket ← write rtpPacket 0 [(packet.header &&& fBitAndNriMask) ||| kStapA]
  let (rtpPacket, index, inputFragments, packets) ←
    aggregateLoop rtpPacket kNaluHeaderSize p.inputFragments p.packets
  let rtpPacket ← setPayloadSize rtpPacket index
  return (rtpPacket, { p with inputFragments, packets })

/-- `NextFragmentPacket`, with the unit at the front of the queue. Whether it was the last
fragment is read after it has been popped. -/
def nextFragmentPacket (p : RtpPacketizerH264) (packet : PacketUnit) (packets : List PacketUnit)
    (rtpPacket : P) : Option (P × RtpPacketizerH264) := do
  let fuIndicator := (packet.header &&& fBitAndNriMask) ||| kFuA
  let fuHeader := (if packet.firstFragment then kSBit else 0) |||
    (if packet.lastFragment then kEBit else 0) ||| (packet.header &&& kTypeMask)
  let rtpPacket ← allocatePayload rtpPacket (kFuAHeaderSize + packet.sourceFragment.length)
  let rtpPacket ← write rtpPacket 0 ([fuIndicator, fuHeader] ++ packet.sourceFragment)
  let p := { p with packets }
  let packet ← popped packet
  if packet.lastFragment then
    let p ← p.popFragment
    return (rtpPacket, p)
  else return (rtpPacket, p)

/-- `NextPacket`, the packet and the packetizer, before the counter and the marker. -/
def takePacket (p : RtpPacketizerH264) (packet : PacketUnit) (packets : List PacketUnit)
    (rtpPacket : P) : Option (P × RtpPacketizerH264) :=
  if packet.firstFragment && packet.lastFragment then do
    let rtpPacket ← allocatePayload rtpPacket packet.sourceFragment.length
    let rtpPacket ← write rtpPacket 0 packet.sourceFragment
    let p ← { p with packets }.popFragment
    return (rtpPacket, p)
  else if packet.aggregated then p.nextAggregatedPacket packet rtpPacket
  else p.nextFragmentPacket popped packet packets rtpPacket

/-- `NextPacket`: nothing when it returns false, else the packet and the packetizer. -/
def nextPacketWith (p : RtpPacketizerH264) (rtpPacket : P) :
    Option (Option (P × RtpPacketizerH264)) :=
  match p.packets with
  | [] => some none
  | packet :: packets => do
      let (rtpPacket, p) ← p.takePacket popped packet packets rtpPacket
      let numPacketsLeft ← subSize p.numPacketsLeft 1
      return some (setMarker rtpPacket p.packets.isEmpty, { p with numPacketsLeft })

/-- `NextPacket`, where a unit that has been popped is still in its place. -/
def nextPacket (p : RtpPacketizerH264) (rtpPacket : P) :
    Option (Option (P × RtpPacketizerH264)) :=
  p.nextPacketWith some rtpPacket

end

/-- Calls `NextPacket` with new packets until it returns false. Every packet takes at
least one unit of the queue. -/
def drainLoop (popped : PacketUnit → Option PacketUnit) :
    (fuel : Nat) → (p : RtpPacketizerH264) → Option (List RtpPacketToSend)
  | fuel, p =>
      match p.nextPacketWith popped ({} : RtpPacketToSend) with
      | none => none
      | some none => some []
      | some (some (rtpPacket, p)) =>
          match fuel with
          | 0 => none
          | fuel + 1 => (drainLoop popped fuel p).map (rtpPacket :: ·)

/-- The packets of a packetizer. -/
def drainWith (popped : PacketUnit → Option PacketUnit) (p : RtpPacketizerH264) :
    Option (List RtpPacketToSend) :=
  drainLoop popped p.packets.length p

/-- The packets, where a unit that has been popped is still in its place. -/
def drain (p : RtpPacketizerH264) : Option (List RtpPacketToSend) := p.drainWith some

end RtpPacketizerH264

end Xrtc.Rtp
