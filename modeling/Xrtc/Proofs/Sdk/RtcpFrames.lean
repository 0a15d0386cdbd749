import Xrtc.Lib.Frames
import Xrtc.Proofs.Sdk.RtcpBlocks

/-!
# `Xrtc.Proofs.Sdk.RtcpFrames`: an RTCP packet as a list of blocks

The blocks of a compound packet are frames with a header of 4 bytes (`rtcpFraming`). What a
block does to the receiver depends on its own bytes only, not on where it stands
(`handledBy_block`). So a packet is handled block by block: `incomingRtcpPacket_eq` gives the
state after a packet as a fold over the frames that can be split off it.
-/

set_option autoImplicit false

namespace Xrtc.Proofs.Sdk

open Xrtc.Lib
open Xrtc.Rtp
open Xrtc.Sdk

/-- The framing of the blocks: version 2, and a length in words of 4 bytes that does not count
the header. -/
def rtcpFraming : Framing UInt8 :=
  .ofHeader kHeaderSizeBytes
    (fun s => if s.getD 0 0 >>> 6 = 2 then some ((getBE16 s 2).toNat * 4 + kHeaderSizeBytes) else none)
    (by decide)
    (fun s n h => by
      split at h
      · cases h
        exact Nat.le_add_left _ _
      · cases h)
    (fun s rest h => by
      rw [kHeaderSizeBytes] at h
      have hfirst : (s ++ rest).getD 0 0 = s.getD 0 0 :=
        (isSlice_append [] s rest).getD_eq (i := 0) (by omega) 0
      rw [getBE16_append_left (by omega), hfirst])

/-- The next block is as long as its header says, if the version is right and that many bytes are
there. -/
theorem next_rtcpFraming {s : Bytes} {n : Nat} :
    rtcpFraming.next s = some n ↔
      s.getD 0 0 >>> 6 = 2 ∧ (getBE16 s 2).toNat * 4 + kHeaderSizeBytes = n ∧ n ≤ s.length := by
  rw [rtcpFraming, Framing.next_ofHeader]
  split
  · rename_i hversion
    rw [Option.some.injEq]
    exact (and_iff_right hversion).symm
  · rename_i hversion
    exact iff_of_false (fun h => nomatch h.1) (fun h => hversion h.1)

/-- A block is exactly as long as its header says. -/
theorem isFrame_rtcpFraming {block : Bytes} :
    rtcpFraming.IsFrame block ↔
      block.getD 0 0 >>> 6 = 2 ∧
        (getBE16 block 2).toNat * 4 + kHeaderSizeBytes = block.length := by
  rw [Framing.IsFrame, next_rtcpFraming, and_iff_left (Nat.le_refl _)]

/-- So a block has a header. -/
theorem header_le_of_isFrame {block : Bytes} (h : rtcpFraming.IsFrame block) :
    kHeaderSizeBytes ≤ block.length := by
  have hlength := (isFrame_rtcpFraming.mp h).2
  omega

/-- `CommonHeader::Parse` finds the frames: it accepts a header exactly where the framing has a
next block, and reads the header of that block. -/
theorem value_parse_eq_next (packet : Bytes) (pos : Nat) :
    (CommonHeader.parse packet pos (packet.length - pos)).value
      = (rtcpFraming.next (packet.drop pos)).map fun _ => CommonHeader.fromBytes packet pos := by
  have hnext : ∀ n, rtcpFraming.next (packet.drop pos) = some n ↔
      packet.getD pos 0 >>> 6 = 2 ∧ (getBE16 packet (pos + 2)).toNat * 4 + kHeaderSizeBytes = n ∧
        n ≤ packet.length - pos := by
    intro n
    rw [next_rtcpFraming, getBE16_drop, List.length_drop, List.getD_eq_getElem?_getD,
      List.getElem?_drop, ← List.getD_eq_getElem?_getD]
    rfl
  rw [CommonHeader.value_parse]
  cases hframe : rtcpFraming.next (packet.drop pos) with
  | none =>
      split_ifs with hheader hversion hpayload
      · rfl
      · rfl
      · rfl
      · -- a header that `Parse` accepts is in front of a frame
        have hsome := (hnext _).mpr ⟨not_not.mp hversion, rfl, by omega⟩
        rw [hframe] at hsome
        cases hsome
  | some n =>
      obtain ⟨hversion, hlength, hle⟩ := (hnext n).mp hframe
      rw [if_neg (by omega), if_neg (not_not.mpr hversion), if_neg (by omega)]
      rfl

/-! ### A block on its own -/

section

variable {packet block : Bytes} {pos : Nat} (h : IsSlice packet pos block)
include h

/-- A report block inside a block is read from the packet as from the block alone. -/
theorem reportBlockParse_slice {i : Nat} (hi : i + ReportBlock.kLength ≤ block.length) :
    (ReportBlock.parse packet (pos + i) ReportBlock.kLength).value
      = (ReportBlock.parse block i ReportBlock.kLength).value := by
  rw [ReportBlock.kLength] at hi
  simp only [ReportBlock.parse, lt_irrefl, if_false, Traced.value_bind, Traced.value_pure,
    Traced.value_getByte, Traced.value_getBytes, Traced.value_getBE32, Nat.add_assoc]
  rw [h.getBE32_eq (by omega), h.getD_eq (by omega), h.slice_eq (by omega),
    h.getBE32_eq (by omega), h.getBE32_eq (by omega), h.getBE32_eq (by omega),
    h.getBE32_eq (by omega)]

/-- So are all of its report blocks, by induction on their number. -/
theorem readReportBlocks_slice (n : Nat) {i : Nat}
    (hi : i + n * ReportBlock.kLength ≤ block.length) :
    (ReceiverReport.readReportBlocks packet n (pos + i)).value
      = (ReceiverReport.readReportBlocks block n i).value := by
  induction n generalizing i with
  | zero => rfl
  | succ n ih =>
      rw [Nat.succ_mul] at hi
      simp only [ReceiverReport.readReportBlocks, Traced.value_bind, Traced.value_pure]
      rw [reportBlockParse_slice h (by omega), Nat.add_assoc, ih (by omega)]

/-- So are the items of a NACK. -/
theorem readItemsTraced_slice (n : Nat) {i : Nat} (hi : i + n * kNackItemLength ≤ block.length) :
    (Nack.readItemsTraced packet n (pos + i)).value = (Nack.readItemsTraced block n i).value := by
  induction n generalizing i with
  | zero => rfl
  | succ n ih =>
      have hitem : (4 : Nat) = kNackItemLength := rfl
      rw [Nat.succ_mul] at hi
      simp only [Nack.readItemsTraced, Traced.value_bind, Traced.value_pure, Traced.value_getBE16,
        Nat.add_assoc]
      rw [h.getBE16_eq (by omega), h.getBE16_eq (by omega), ih (by omega)]

variable {header : CommonHeader} {i : Nat}
  (hi : i + header.payloadSize.toNat ≤ block.length)
include hi

/-- A receiver report is parsed from the packet as from its block. -/
theorem receiverReportParse_slice :
    (ReceiverReport.parse packet { header with payload := pos + i }).value
      = (ReceiverReport.parse block { header with payload := i }).value := by
  unfold ReceiverReport.parse
  dsimp only
  split
  · rfl
  · rename_i hsize
    rw [ReceiverReport.kRrBaseLength] at hsize ⊢
    simp only [Traced.value_bind, Traced.value_pure, Traced.value_getBE32]
    rw [h.getBE32_eq (by omega), Nat.add_assoc, readReportBlocks_slice h _ (by omega)]

/-- So is a NACK. -/
theorem nackParse_slice :
    (Nack.parseTraced packet { header with payload := pos + i }).value
      = (Nack.parseTraced block { header with payload := i }).value := by
  unfold Nack.parseTraced
  dsimp only
  split
  · rfl
  · rename_i hsize
    have hitems := Nat.div_mul_le_self
      (header.payloadSize.toNat - kCommonFeedbackLength) kNackItemLength
    have hitem : (4 : Nat) = kNackItemLength := rfl
    rw [kCommonFeedbackLength] at *
    simp only [Traced.value_bind, Traced.value_pure, Traced.value_getBE32]
    rw [h.getBE32_eq (by omega), Nat.add_assoc, Nat.add_assoc, h.getBE32_eq (by omega),
      readItemsTraced_slice h _ (by omega)]

end

/-- The header of a block, where it stands in a packet. -/
theorem fromBytes_slice {packet block : Bytes} {pos : Nat} (h : IsSlice packet pos block)
    (hheader : kHeaderSizeBytes ≤ block.length) :
    CommonHeader.fromBytes packet pos
      = { CommonHeader.fromBytes block 0 with payload := pos + kHeaderSizeBytes } := by
  rw [kHeaderSizeBytes] at hheader
  have hfirst := h.getD_eq (i := 0) (by omega) 0
  have hsecond := h.getD_eq (i := 1) (by omega) 0
  have hlength := h.getBE16_eq (i := 2) (by omega)
  rw [Nat.add_zero] at hfirst
  simp only [CommonHeader.fromBytes, hfirst, hsecond, hlength, Nat.zero_add]

/-- The payload of a block is all but the header. -/
theorem payloadSize_of_isFrame {block : Bytes} (h : rtcpFraming.IsFrame block) :
    kHeaderSizeBytes + (CommonHeader.fromBytes block 0).payloadSize.toNat = block.length := by
  rw [CommonHeader.payloadSize_fromBytes, Nat.zero_add, ← (isFrame_rtcpFraming.mp h).2]
  exact Nat.add_comm _ _

/-- What a handler gets out of a block on its own. -/
def blockHandled (block : Bytes) : Option Handled :=
  handledBy block (CommonHeader.fromBytes block 0)

/-- A generic NACK, by its header. -/
theorem blockHandled_nack {block : Bytes} (htype : block.getD 1 0 = Rtpfb.kPacketType)
    (hfmt : block.getD 0 0 &&& 0x1F = Nack.kFeedbackMessageType) :
    blockHandled block
      = (Nack.parseTraced block (CommonHeader.fromBytes block 0)).value.map .nack := by
  have htype' : (CommonHeader.fromBytes block 0).packetType = Rtpfb.kPacketType := htype
  have hreport : ¬ (CommonHeader.fromBytes block 0).packetType = ReceiverReport.kPacketType := by
    rw [htype']
    decide
  rw [blockHandled, handledBy, if_neg hreport, if_pos ⟨htype', hfmt⟩]

/-- What a handler gets out of a block does not depend on where the block stands. -/
theorem handledBy_block {packet block : Bytes} {pos : Nat} (h : IsSlice packet pos block)
    (hframe : rtcpFraming.IsFrame block) :
    handledBy packet (CommonHeader.fromBytes packet pos) = blockHandled block := by
  have hpayload := Nat.le_of_eq (payloadSize_of_isFrame hframe)
  have hreport := receiverReportParse_slice h hpayload
  have hnack := nackParse_slice h hpayload
  rw [fromBytes_slice h (header_le_of_isFrame hframe)]
  unfold blockHandled handledBy
  rw [hreport, hnack]
  rfl

/-- `CommonHeader::Parse` of a block inside a packet. -/
theorem parse_append {block : Bytes} (hframe : rtcpFraming.IsFrame block) (a b : Bytes) :
    (CommonHeader.parse (a ++ (block ++ b)) a.length
        ((a ++ (block ++ b)).length - a.length)).value
      = some { CommonHeader.fromBytes block 0 with payload := a.length + kHeaderSizeBytes } := by
  rw [value_parse_eq_next, List.drop_left' rfl, hframe.next_append,
    ← fromBytes_slice (isSlice_append a block b) (header_le_of_isFrame hframe)]
  rfl

/-! ### The packet -/

/-- What the receiver does with a block on its own. -/
def handleFrame (clock : Clock) (r : RTCPReceiver) (block : Bytes) : RTCPReceiver :=
  (r.handleBlock clock block (CommonHeader.fromBytes block 0)).value

/-- A block is handled, or skipped if it is of a kind that is read but does not parse, or passed
over. -/
theorem handleFrame_eq (clock : Clock) (r : RTCPReceiver) (block : Bytes) :
    handleFrame clock r block =
      match blockHandled block with
      | some handled => handle clock r handled
      | none =>
          if block.getD 1 0 = ReceiverReport.kPacketType ∨ block.getD 1 0 = Rtpfb.kPacketType then
            r.skip
          else r :=
  handleBlock_value clock r block _

/-- What is handled over the blocks is what each of them is handled as, in order. -/
theorem handledIn_handleFrames (clock : Clock) (r : RTCPReceiver) (blocks : List Bytes) :
    handledIn (blocks.foldl (handleFrame clock) r).log
      = handledIn r.log ++ blocks.filterMap blockHandled := by
  induction blocks generalizing r with
  | nil => exact (List.append_nil _).symm
  | cons block blocks ih =>
      rw [List.foldl_cons, ih, handleFrame, handledIn_handleBlock, List.append_assoc]
      congr 1
      rw [List.filterMap_cons]
      show (blockHandled block).toList ++ _ = _
      cases blockHandled block with
      | none => rfl
      | some handled => rfl

/-- To handle the block at a position of the packet is to handle the block. -/
theorem handleBlock_frame (clock : Clock) (r : RTCPReceiver) {packet block : Bytes} {pos : Nat}
    (h : IsSlice packet pos block) (hframe : rtcpFraming.IsFrame block) :
    (r.handleBlock clock packet (CommonHeader.fromBytes packet pos)).value
      = handleFrame clock r block := by
  rw [handleBlock_value, handledBy_block h hframe, handleFrame_eq,
    fromBytes_slice h (header_le_of_isFrame hframe)]
  rfl

/-- The state after the rest of a packet: the frames are handled one after the other, and
what is left behind them counts as skipped, unless it is the whole packet. -/
theorem parseCompoundPacket_eq (clock : Clock) (r : RTCPReceiver) (packet : Bytes)
    (pos : Nat) (hle : pos ≤ packet.length) :
    (r.parseCompoundPacket clock packet pos hle).2 =
      let split := rtcpFraming.split (packet.drop pos)
      let handled := split.1.foldl (handleFrame clock) r
      if split.2 = [] ∨ pos = 0 ∧ split.1 = [] then handled else handled.skip := by
  by_cases hend : pos = packet.length
  · have hdrop : packet.drop pos = [] := List.drop_of_length_le (Nat.le_of_eq hend.symm)
    rw [parseCompoundPacket_of_eq clock r hle hend, hdrop,
      Framing.split_of_none Framing.next_nil]
    exact (if_pos (.inl rfl)).symm
  · have hparse := value_parse_eq_next packet pos
    cases hnext : rtcpFraming.next (packet.drop pos) with
    | none =>
        rw [hnext] at hparse
        have hdrop : packet.drop pos ≠ [] := fun h => hend
          (Nat.le_antisymm hle (List.drop_eq_nil_iff.mp h))
        -- what is left counts as skipped unless it is the whole packet
        rw [parseCompoundPacket_of_none clock r hle hend hparse, Framing.split_of_none hnext]
        simp only [hdrop, false_or, and_true, List.foldl_nil]
    | some n =>
        rw [hnext] at hparse
        have hpos := rtcpFraming.next_pos hnext
        have hlen := rtcpFraming.next_le hnext
        rw [List.length_drop] at hlen
        have hheader : (CommonHeader.fromBytes packet pos).nextPacket = pos + n := by
          have hsize := (next_rtcpFraming.mp hnext).2.1
          rw [getBE16_drop] at hsize
          rw [CommonHeader.nextPacket_fromBytes, hsize]
        have hframe := Framing.isFrame_take hnext
        have hslice : IsSlice packet pos ((packet.drop pos).take n) := by
          rw [IsSlice, List.length_take, List.length_drop, Nat.min_eq_left (by omega)]
          rfl
        have hrest : (packet.drop pos).drop n = packet.drop (pos + n) := List.drop_drop
        have hend' : (CommonHeader.fromBytes packet pos).nextPacket ≤ packet.length := by omega
        have hne : ¬ pos + n = 0 := by omega
        -- the first frame is this block, and the others are those of the rest
        rw [parseCompoundPacket_of_some clock r hle hend hparse hend']
        dsimp only
        rw [parseCompoundPacket_eq clock _ packet _ hend', hheader,
          handleBlock_frame clock r hslice hframe, Framing.split_of_some hnext, hrest]
        simp only [List.foldl_cons, List.cons_ne_nil, and_false, or_false, hne, false_and]
termination_by packet.length - pos
decreasing_by omega

/-- The state after a packet. -/
theorem incomingRtcpPacket_eq (clock : Clock) (r : RTCPReceiver) (packet : Bytes) :
    (r.incomingRtcpPacket clock packet).2 =
      let split := rtcpFraming.split packet
      let handled := split.1.foldl (handleFrame clock) r
      if split.2 = [] ∨ split.1 = [] then handled else handled.skip := by
  rw [incomingRtcpPacket_eq_parse, parseCompoundPacket_eq, List.drop_zero]
  simp only [true_and]

/-- What the handlers get out of a packet. -/
theorem handledIn_incomingRtcpPacket (clock : Clock) (r : RTCPReceiver) (packet : Bytes) :
    handledIn (r.incomingRtcpPacket clock packet).2.log
      = handledIn r.log ++ (rtcpFraming.split packet).1.filterMap blockHandled := by
  rw [incomingRtcpPacket_eq]
  dsimp only
  split
  · exact handledIn_handleFrames clock r _
  · exact handledIn_handleFrames clock r _

end Xrtc.Proofs.Sdk
