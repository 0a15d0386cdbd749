import Xrtc.Proofs.Sdk.RtcpFrames

/-!
# `Xrtc.Proofs.Sdk.RtcpPadding`: padding is taken for payload

`CommonHeader::Parse` tests `(buffer[0] & 0x20) == 1`, which no byte satisfies, so a block with
padding is parsed as one without. `padded` is a block with padding as it should be: the bit is
set, and the last byte says how many bytes there are.

A padded block is parsed with the padding as part of its payload (`parse_padded`), for every
block and every padding. What comes out differs if the handler of the block looks at the size
of the payload: the padding of a NACK is read as further items, and it can make up for report
blocks that are missing (`Misread`). `padding_not_transparent` has both for a whole packet.
-/

set_option autoImplicit false

namespace Xrtc.Proofs.Sdk

open Xrtc.Lib
open Xrtc.Rtp
open Xrtc.Sdk

/-! ### Padded blocks -/

/-- A block of version 2 without padding, as long as its header says. -/
structure WellFormed (block : Bytes) : Prop where
  frame : rtcpFraming.IsFrame block
  noPadding : block.getD 0 0 &&& 0x20 = 0

/-- Padding of `k` words for a block: the last byte is the number of bytes, and the length of
the block with the padding fits in the header. -/
structure IsPadding (block padding : Bytes) (k : Nat) : Prop where
  pos : 1 ≤ k
  le : 4 * k ≤ 252
  length : padding.length = 4 * k
  last : padding.getLast? = some (UInt8.ofNat (4 * k))
  fits : (getBE16 block 2).toNat + k < 2 ^ 16

/-- The block with padding. -/
def padded (block padding : Bytes) (k : Nat) : Bytes :=
  [block.getD 0 0 ||| 0x20, block.getD 1 0] ++
    (writeUInt16 (getBE16 block 2 + UInt16.ofNat k) ++ (block.drop kHeaderSizeBytes ++ padding))

/-- The padding bit leaves the version in the first byte alone. -/
theorem paddingBit_version (b : UInt8) : (b ||| 0x20) >>> 6 = b >>> 6 := by
  apply UInt8.toBitVec_inj.mp
  simp [BitVec.ushiftRight_or_distrib]

/-- It leaves the count alone as well. -/
theorem paddingBit_count (b : UInt8) : (b ||| 0x20) &&& 0x1F = b &&& 0x1F := by
  apply UInt8.toBitVec_inj.mp
  have hbits := BitVec.and_or_distrib_right (x := b.toBitVec) (y := 0x20#8) (z := 0x1F#8)
  simpa using hbits

section

variable {block padding : Bytes} {k : Nat}

/-- The length in the header grows by the words of padding. -/
theorem getBE16_padded : getBE16 (padded block padding k) 2 = getBE16 block 2 + UInt16.ofNat k :=
  (getBE16_append_right rfl _ 0).trans (getBE16_writeUInt16 _ _)

/-- It does so without wrapping around, for padding that fits a packet. -/
theorem length_padded_toNat (hpadding : IsPadding block padding k) :
    (getBE16 (padded block padding k) 2).toNat = (getBE16 block 2).toNat + k := by
  have hfits := hpadding.fits
  rw [getBE16_padded, UInt16.toNat_add, UInt16.toNat_ofNat', Nat.mod_eq_of_lt (a := k) (by omega),
    Nat.mod_eq_of_lt hfits]

/-- The payload, with what follows it, stands behind the header with and without padding. -/
theorem isSlice_payload (hblock : WellFormed block) (padding : Bytes) (k : Nat) :
    IsSlice block kHeaderSizeBytes (block.drop kHeaderSizeBytes) ∧
      IsSlice (padded block padding k) kHeaderSizeBytes (block.drop kHeaderSizeBytes ++ padding) := by
  have hheader := header_le_of_isFrame hblock.frame
  constructor
  · exact List.take_length
  · exact List.take_length

/-- The padded block is longer by those words. -/
theorem length_padded (hblock : WellFormed block) (hpadding : IsPadding block padding k) :
    (padded block padding k).length = block.length + 4 * k := by
  have hheader := header_le_of_isFrame hblock.frame
  unfold padded
  simp only [List.length_append, List.length_cons, List.length_nil, writeUInt16_length,
    List.length_drop, hpadding.length]
  rw [kHeaderSizeBytes] at *
  omega

/-- A padded block is still one block with its length in front. -/
theorem isFrame_padded (hblock : WellFormed block) (hpadding : IsPadding block padding k) :
    rtcpFraming.IsFrame (padded block padding k) := by
  obtain ⟨hversion, hlength⟩ := isFrame_rtcpFraming.mp hblock.frame
  rw [isFrame_rtcpFraming, length_padded_toNat hpadding, length_padded hblock hpadding]
  refine ⟨?_, by omega⟩
  show (block.getD 0 0 ||| 0x20) >>> 6 = 2
  rw [paddingBit_version, hversion]

/-- The padding is in the payload: the header has the type and count of the block, and the
block ends where the padding does, but its payload is larger. -/
theorem fromBytes_padded (hpadding : IsPadding block padding k) :
    (CommonHeader.fromBytes (padded block padding k) 0).packetType
        = (CommonHeader.fromBytes block 0).packetType ∧
      (CommonHeader.fromBytes (padded block padding k) 0).countOrFmt
        = (CommonHeader.fromBytes block 0).countOrFmt ∧
      (CommonHeader.fromBytes (padded block padding k) 0).payloadSize.toNat
        = (CommonHeader.fromBytes block 0).payloadSize.toNat + 4 * k := by
  refine ⟨rfl, paddingBit_count _, ?_⟩
  rw [CommonHeader.payloadSize_fromBytes, CommonHeader.payloadSize_fromBytes, Nat.zero_add,
    length_padded_toNat hpadding]
  omega

end

/-! ### What is reported -/

/-- The packets that a parsed block asks for. -/
def packetIds : Handled → List UInt16
  | .receiverReport _ => []
  | .nack nack => nack.packetIds

/-- The report blocks of a parsed block. -/
def reportBlocks : Handled → List ReportBlock
  | .receiverReport rr => rr.reportBlocks
  | .nack _ => []

/-- The blocks that the handlers get out of a packet. -/
def reported (clock : Clock) (r : RTCPReceiver) (packet : Bytes) : List Handled :=
  (handledIn (r.incomingRtcpPacket clock packet).2.log).drop (handledIn r.log).length

/-- What a packet reports is what each of its blocks reports, in order. -/
theorem reported_eq (clock : Clock) (r : RTCPReceiver) (packet : Bytes) :
    reported clock r packet = (rtcpFraming.split packet).1.filterMap blockHandled := by
  rw [reported, handledIn_incomingRtcpPacket, List.drop_left' rfl]

/-- One block of a packet among the others. -/
theorem reported_append (clock : Clock) (r : RTCPReceiver) {blocks : List Bytes} {block : Bytes}
    (hblocks : ∀ b ∈ blocks, rtcpFraming.IsFrame b) (hblock : rtcpFraming.IsFrame block)
    (rest : Bytes) :
    reported clock r (blocks.flatten ++ (block ++ rest))
      = blocks.filterMap blockHandled ++ ((blockHandled block).toList ++
          (rtcpFraming.split rest).1.filterMap blockHandled) := by
  rw [reported_eq, rtcpFraming.split_flatten hblocks, Framing.split_append hblock,
    List.filterMap_append, List.filterMap_cons]
  cases blockHandled block with
  | none => rfl
  | some handled => rfl

section

variable (packet : Bytes) (header : CommonHeader)

/-- The packet numbers that a NACK block reports are those of the items that it was read into. -/
theorem packetIds_nackParse :
    ((Nack.parseTraced packet header).value.map Handled.nack).toList.flatMap packetIds
      = Nack.unpack (Nack.readItemsTraced packet
          ((header.payloadSize.toNat - kCommonFeedbackLength) / kNackItemLength)
          (header.payload + kCommonFeedbackLength)).value := by
  have hitem : 0 < kNackItemLength := by decide
  unfold Nack.parseTraced
  split
  · rename_i hsize
    have hitems : (header.payloadSize.toNat - kCommonFeedbackLength) / kNackItemLength = 0 :=
      Nat.div_eq_of_lt (by omega)
    rw [hitems]
    rfl
  · exact List.append_nil _

/-- The packets that a block asks for. A block that is too short has no items. -/
theorem packetIds_handledBy :
    (handledBy packet header).toList.flatMap packetIds =
      if header.packetType = Rtpfb.kPacketType ∧ header.countOrFmt = Nack.kFeedbackMessageType then
        Nack.unpack (Nack.readItemsTraced packet
          ((header.payloadSize.toNat - kCommonFeedbackLength) / kNackItemLength)
          (header.payload + kCommonFeedbackLength)).value
      else [] := by
  unfold handledBy
  split
  · rename_i hreport
    rw [hreport, if_neg fun h => absurd h.1 (by decide)]
    cases (ReceiverReport.parse packet header).value with
    | none => rfl
    | some rr => rfl
  · split
    · exact packetIds_nackParse packet header
    · rfl

/-- The report blocks of a block: those that its count says, if the payload has room for them, and
none otherwise. -/
theorem reportBlocks_handledBy :
    (handledBy packet header).toList.flatMap reportBlocks =
      if header.packetType = ReceiverReport.kPacketType ∧
          ReceiverReport.kRrBaseLength + header.countOrFmt.toNat * ReportBlock.kLength
            ≤ header.payloadSize.toNat then
        (ReceiverReport.readReportBlocks packet header.countOrFmt.toNat
          (header.payload + ReceiverReport.kRrBaseLength)).value
      else [] := by
  unfold handledBy
  by_cases hreport : header.packetType = ReceiverReport.kPacketType
  · rw [if_pos hreport, ReceiverReport.parse]
    split
    · rename_i hshort
      rw [if_neg fun h => absurd h.2 (Nat.not_le.mpr hshort)]
      rfl
    · rename_i hshort
      rw [if_pos ⟨hreport, Nat.le_of_not_lt hshort⟩]
      exact List.append_nil _
  · have hno : ¬ (header.packetType = ReceiverReport.kPacketType ∧
        ReceiverReport.kRrBaseLength + header.countOrFmt.toNat * ReportBlock.kLength
          ≤ header.payloadSize.toNat) := fun h => hreport h.1
    rw [if_neg hreport, if_neg hno]
    split
    · cases (Nack.parseTraced packet header).value with
      | none => rfl
      | some nack => rfl
    · rfl

end

/-! ### What is misread -/

/-- More items are read behind those in front of them. -/
theorem readItemsTraced_add (packet : Bytes) (m n pos : Nat) :
    (Nack.readItemsTraced packet (m + n) pos).value
      = (Nack.readItemsTraced packet m pos).value ++
          (Nack.readItemsTraced packet n (pos + m * kNackItemLength)).value := by
  induction m generalizing pos with
  | zero => rw [Nat.zero_add, Nat.zero_mul, Nat.add_zero]; rfl
  | succ m ih =>
      have hpos : pos + (m + 1) * kNackItemLength = pos + kNackItemLength + m * kNackItemLength := by
        rw [Nat.succ_mul]
        omega
      rw [Nat.succ_add]
      simp only [Nack.readItemsTraced, Traced.value_bind, Traced.value_pure]
      rw [ih, hpos]
      rfl

/-- The numbers of two lists of items, one behind the other. -/
theorem unpack_append (items items' : List PackedNack) :
    Nack.unpack (items ++ items') = Nack.unpack items ++ Nack.unpack items' :=
  List.flatMap_append

/-- Every item asks for a packet. -/
theorem unpack_readItemsTraced_eq_nil (packet : Bytes) (n pos : Nat) :
    Nack.unpack (Nack.readItemsTraced packet n pos).value = [] ↔ n = 0 := by
  cases n with
  | zero => exact iff_of_true rfl rfl
  | succ n => exact iff_of_false (fun h => nomatch h) (Nat.succ_ne_zero n)

/-- No report blocks are read exactly when the count says none. -/
theorem readReportBlocks_eq_nil (packet : Bytes) (n pos : Nat) :
    (ReceiverReport.readReportBlocks packet n pos).value = [] ↔ n = 0 := by
  cases n with
  | zero => exact iff_of_true rfl rfl
  | succ n => exact iff_of_false (fun h => nomatch h) (Nat.succ_ne_zero n)

section

variable {block padding : Bytes} {k : Nat} (hblock : WellFormed block)
  (hpadding : IsPadding block padding k)
include hblock

/-- What is read of the payload of the block is the same behind the other header. -/
theorem readItemsTraced_padded {n i : Nat}
    (hi : i + n * kNackItemLength ≤ (getBE16 block 2).toNat * 4) :
    (Nack.readItemsTraced (padded block padding k) n (kHeaderSizeBytes + i)).value
      = (Nack.readItemsTraced block n (kHeaderSizeBytes + i)).value := by
  obtain ⟨hslice, hslice'⟩ := isSlice_payload hblock padding k
  have hbody : i + n * kNackItemLength ≤ (block.drop kHeaderSizeBytes).length := by
    rw [List.length_drop, ← (isFrame_rtcpFraming.mp hblock.frame).2]
    omega
  rw [readItemsTraced_slice hslice n hbody, readItemsTraced_slice hslice'.left n hbody]

/-- Report blocks within the length of the block are read as before: the padding is behind them.
-/
theorem readReportBlocks_padded {n i : Nat}
    (hi : i + n * ReportBlock.kLength ≤ (getBE16 block 2).toNat * 4) :
    (ReceiverReport.readReportBlocks (padded block padding k) n (kHeaderSizeBytes + i)).value
      = (ReceiverReport.readReportBlocks block n (kHeaderSizeBytes + i)).value := by
  obtain ⟨hslice, hslice'⟩ := isSlice_payload hblock padding k
  have hbody : i + n * ReportBlock.kLength ≤ (block.drop kHeaderSizeBytes).length := by
    rw [List.length_drop, ← (isFrame_rtcpFraming.mp hblock.frame).2]
    omega
  rw [readReportBlocks_slice hslice n hbody, readReportBlocks_slice hslice'.left n hbody]

include hpadding

/-- The padding of a NACK is read as items, if it is long enough with the block. -/
theorem packetIds_padded :
    ((blockHandled (padded block padding k)).toList.flatMap packetIds
        = (blockHandled block).toList.flatMap packetIds) ↔
      ¬ (block.getD 1 0 = Rtpfb.kPacketType ∧
        block.getD 0 0 &&& 0x1F = Nack.kFeedbackMessageType ∧
        kCommonFeedbackLength + kNackItemLength ≤ (getBE16 block 2).toNat * 4 + 4 * k) := by
  obtain ⟨htype, hcount, hsize'⟩ := fromBytes_padded hpadding
  have hsize := CommonHeader.payloadSize_fromBytes block 0
  have hpos := hpadding.pos
  rw [Nat.zero_add] at hsize
  unfold blockHandled
  rw [packetIds_handledBy, packetIds_handledBy, htype, hcount, hsize', hsize]
  split
  · rename_i hnack
    -- a length in words leaves two words for the ssrcs, and one for each item
    have hitems : ((getBE16 block 2).toNat * 4 - kCommonFeedbackLength) / kNackItemLength
        = (getBE16 block 2).toNat - 2 := by
      rw [kCommonFeedbackLength, kNackItemLength]
      omega
    have hitems' :
        ((getBE16 block 2).toNat * 4 + 4 * k - kCommonFeedbackLength) / kNackItemLength
          = ((getBE16 block 2).toNat - 2) +
            (((getBE16 block 2).toNat + k - 2) - ((getBE16 block 2).toNat - 2)) := by
      rw [kCommonFeedbackLength, kNackItemLength]
      omega
    -- the items of the block come first, as far as there are any
    have hsame : (Nack.readItemsTraced (padded block padding k) ((getBE16 block 2).toNat - 2)
          (kHeaderSizeBytes + kCommonFeedbackLength)).value
        = (Nack.readItemsTraced block ((getBE16 block 2).toNat - 2)
          (kHeaderSizeBytes + kCommonFeedbackLength)).value := by
      by_cases hlength : 2 ≤ (getBE16 block 2).toNat
      · refine readItemsTraced_padded hblock ?_
        rw [kCommonFeedbackLength, kNackItemLength]
        omega
      · -- the ssrcs are not complete, and there are no items
        rw [Nat.sub_eq_zero_of_le (by omega)]
        rfl
    have hpayload : (CommonHeader.fromBytes (padded block padding k) 0).payload
        = (CommonHeader.fromBytes block 0).payload := rfl
    have hpayload' : (CommonHeader.fromBytes block 0).payload = kHeaderSizeBytes := Nat.zero_add _
    rw [hpayload, hpayload', hitems, hitems', readItemsTraced_add, unpack_append, hsame,
      List.append_right_eq_self, unpack_readItemsTraced_eq_nil]
    have htypes : block.getD 1 0 = Rtpfb.kPacketType ∧
      block.getD 0 0 &&& 0x1F = Nack.kFeedbackMessageType := hnack
    rw [← and_assoc, and_iff_right htypes, kCommonFeedbackLength, kNackItemLength]
    omega
  · rename_i hnack
    exact iff_of_true rfl fun h => hnack ⟨h.1, h.2.1⟩

/-- The padding makes up for missing report blocks, and this is the only way in which it changes
the reported ones. -/
theorem reportBlocks_padded :
    ((blockHandled (padded block padding k)).toList.flatMap reportBlocks
        = (blockHandled block).toList.flatMap reportBlocks) ↔
      ¬ (block.getD 1 0 = ReceiverReport.kPacketType ∧
        1 ≤ (block.getD 0 0 &&& 0x1F).toNat ∧
        (getBE16 block 2).toNat * 4 <
          ReceiverReport.kRrBaseLength + (block.getD 0 0 &&& 0x1F).toNat * ReportBlock.kLength ∧
        ReceiverReport.kRrBaseLength + (block.getD 0 0 &&& 0x1F).toNat * ReportBlock.kLength
          ≤ (getBE16 block 2).toNat * 4 + 4 * k) := by
  obtain ⟨htype, hcount, hsize'⟩ := fromBytes_padded hpadding
  have hsize := CommonHeader.payloadSize_fromBytes block 0
  rw [Nat.zero_add] at hsize
  have hpayload : (CommonHeader.fromBytes (padded block padding k) 0).payload
      = (CommonHeader.fromBytes block 0).payload := rfl
  have hpayload' : (CommonHeader.fromBytes block 0).payload = kHeaderSizeBytes := Nat.zero_add _
  have hcount' : (CommonHeader.fromBytes block 0).countOrFmt = block.getD 0 0 &&& 0x1F := rfl
  have htype' : (CommonHeader.fromBytes block 0).packetType = block.getD 1 0 := rfl
  unfold blockHandled
  rw [reportBlocks_handledBy, reportBlocks_handledBy, htype, hcount, hsize', hsize, hpayload,
    hpayload', hcount', htype']
  by_cases henough : block.getD 1 0 = ReceiverReport.kPacketType ∧
      ReceiverReport.kRrBaseLength + (block.getD 0 0 &&& 0x1F).toNat * ReportBlock.kLength
        ≤ (getBE16 block 2).toNat * 4
  · -- the report blocks are there without the padding
    rw [if_pos henough, if_pos ⟨henough.1, by omega⟩, readReportBlocks_padded hblock henough.2]
    exact iff_of_true rfl fun h => by omega
  · rw [if_neg henough]
    split
    · rename_i hpadded
      -- they are only there with it, so nothing may be read
      rw [readReportBlocks_eq_nil]
      have hshort := Nat.lt_of_not_le fun h => henough ⟨hpadded.1, h⟩
      rw [and_iff_right hpadded.1, and_iff_left ⟨hshort, hpadded.2⟩]
      omega
    · rename_i hpadded
      exact iff_of_true rfl fun h => hpadded ⟨h.1, h.2.2.2⟩

end

/-- The same packets are asked for in two packets, and the report blocks are the same. -/
structure SameReports (clock : Clock) (r : RTCPReceiver) (packet packet' : Bytes) : Prop where
  packetIds : (reported clock r packet').flatMap packetIds
    = (reported clock r packet).flatMap packetIds
  reportBlocks : (reported clock r packet').flatMap reportBlocks
    = (reported clock r packet).flatMap reportBlocks

/-- What is expected of a block in a packet and the same block with padding: the headers are
the same but for where the block ends, and the same is reported. -/
structure PaddingTransparent (clock : Clock) (r : RTCPReceiver) (blocks : List Bytes)
    (block padding rest : Bytes) (k : Nat) : Prop where
  header : ∃ h h',
    (CommonHeader.parse (blocks.flatten ++ (block ++ rest)) blocks.flatten.length
      ((blocks.flatten ++ (block ++ rest)).length - blocks.flatten.length)).value = some h ∧
    (CommonHeader.parse (blocks.flatten ++ (padded block padding k ++ rest)) blocks.flatten.length
      ((blocks.flatten ++ (padded block padding k ++ rest)).length - blocks.flatten.length)).value
        = some h' ∧
    h'.packetType = h.packetType ∧ h'.countOrFmt = h.countOrFmt ∧
    h'.payloadSize = h.payloadSize ∧
    h'.nextPacket = blocks.flatten.length + (padded block padding k).length
  reports : SameReports clock r (blocks.flatten ++ (block ++ rest))
    (blocks.flatten ++ (padded block padding k ++ rest))

/-- The padding of the block is read as items of a NACK, or as report blocks that the block
announces and does not have. -/
def Misread (block : Bytes) (k : Nat) : Prop :=
  (block.getD 1 0 = Rtpfb.kPacketType ∧
    block.getD 0 0 &&& 0x1F = Nack.kFeedbackMessageType ∧
    kCommonFeedbackLength + kNackItemLength ≤ (getBE16 block 2).toNat * 4 + 4 * k) ∨
  (block.getD 1 0 = ReceiverReport.kPacketType ∧
    1 ≤ (block.getD 0 0 &&& 0x1F).toNat ∧
    (getBE16 block 2).toNat * 4 <
      ReceiverReport.kRrBaseLength + (block.getD 0 0 &&& 0x1F).toNat * ReportBlock.kLength ∧
    ReceiverReport.kRrBaseLength + (block.getD 0 0 &&& 0x1F).toNat * ReportBlock.kLength
      ≤ (getBE16 block 2).toNat * 4 + 4 * k)

instance (block : Bytes) (k : Nat) : Decidable (Misread block k) :=
  inferInstanceAs (Decidable (_ ∨ _))

section

variable (clock : Clock) (r : RTCPReceiver) {blocks : List Bytes} {block padding : Bytes} {k : Nat}
  (hblock : WellFormed block) (hpadding : IsPadding block padding k) (rest : Bytes)
  (hblocks : ∀ b ∈ blocks, rtcpFraming.IsFrame b)
include hblock hpadding

/-- The payload has the wrong size. -/
theorem not_paddingTransparent : ¬ PaddingTransparent clock r blocks block padding rest k := by
  rintro ⟨⟨h, h', hparse, hparse', -, -, hsize, -⟩, -⟩
  have hlarger := (fromBytes_padded hpadding).2.2
  have hpos := hpadding.pos
  rw [parse_append hblock.frame] at hparse
  rw [parse_append (isFrame_padded hblock hpadding)] at hparse'
  cases hparse
  cases hparse'
  -- the two sizes differ by the padding, which is not empty
  have hsize : (CommonHeader.fromBytes (padded block padding k) 0).payloadSize
      = (CommonHeader.fromBytes block 0).payloadSize := hsize
  rw [hsize] at hlarger
  omega

include hblocks

/-- What is reported for a packet is the same if nothing of the padding is misread. -/
theorem reported_padded_iff :
    SameReports clock r (blocks.flatten ++ (block ++ rest))
        (blocks.flatten ++ (padded block padding k ++ rest)) ↔
      ¬ Misread block k := by
  have hframe := isFrame_padded hblock hpadding
  have hfields : ∀ packet packet', SameReports clock r packet packet' ↔
      (reported clock r packet').flatMap packetIds = (reported clock r packet).flatMap packetIds ∧
        (reported clock r packet').flatMap reportBlocks
          = (reported clock r packet).flatMap reportBlocks :=
    fun _ _ => ⟨fun h => ⟨h.packetIds, h.reportBlocks⟩, fun h => ⟨h.1, h.2⟩⟩
  rw [hfields, reported_append clock r hblocks hframe, reported_append clock r hblocks hblock.frame]
  simp only [List.flatMap_append, List.append_cancel_left_eq, List.append_cancel_right_eq]
  rw [packetIds_padded hblock hpadding, reportBlocks_padded hblock hpadding, Misread, not_or]

/-- Padding is transparent for no block and no padding: the test for its bit compares with one,
which the masked byte never is, so the padding stays in the payload. Whether that is seen in what
is reported depends on the block. -/
theorem padding_not_transparent :
    ¬ PaddingTransparent clock r blocks block padding rest k ∧
      (SameReports clock r (blocks.flatten ++ (block ++ rest))
          (blocks.flatten ++ (padded block padding k ++ rest)) ↔ ¬ Misread block k) :=
  ⟨not_paddingTransparent clock r hblock hpadding rest,
    reported_padded_iff clock r hblock hpadding rest hblocks⟩

end

/-- A NACK for packet 5. -/
def plainNack : Bytes := [0x81, 205, 0, 3, 0, 0, 0, 7, 0, 0, 0, 1, 0, 5, 0, 0]

/-- It is a block that the receiver accepts. -/
theorem plainNack_wellFormed : WellFormed plainNack where
  frame := isFrame_rtcpFraming.mpr (by decide)
  noPadding := by decide

/-- One word of padding. -/
theorem plainNack_padding : IsPadding plainNack [0, 0, 0, 4] 1 where
  pos := by decide
  le := by decide
  length := rfl
  last := rfl
  fits := by decide

/-- The padding is read as an item of the NACK. -/
theorem plainNack_not_transparent :
    ¬ PaddingTransparent ⟨fun _ => 0, fun _ => (0, 0)⟩ (.new ⟨false, 1, 90000, 1000⟩ true) []
        plainNack [0, 0, 0, 4] [] 1 ∧
      Misread plainNack 1 :=
  ⟨not_paddingTransparent _ _ plainNack_wellFormed plainNack_padding [], by decide⟩

/-- The same NACK behind another one. -/
theorem plainNack_second_not_transparent :
    ¬ PaddingTransparent ⟨fun _ => 0, fun _ => (0, 0)⟩ (.new ⟨false, 1, 90000, 1000⟩ true)
        [plainNack] plainNack [0, 0, 0, 4] [] 1 :=
  (padding_not_transparent _ _ plainNack_wellFormed plainNack_padding []
    (List.forall_mem_singleton.mpr plainNack_wellFormed.frame)).1

end Xrtc.Proofs.Sdk
