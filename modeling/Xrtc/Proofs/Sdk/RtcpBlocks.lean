import Xrtc.Sdk.RtcpReceiver

/-!
# `Xrtc.Proofs.Sdk.RtcpBlocks`: the blocks of an RTCP packet, one after the other

`ParseCompoundPacket` walks over a packet with a pointer that it compares with the end for
equality, so the pointer must not step over the end. The module proves, in this order,

* that the `Parse` functions read inside the block only, given that the block is as long as
  its header says (`handleBlock_within`),
* what a handler adds to the record (`handleBlock_value`),
* that the rounds of the loop tile a prefix of the packet (`Tiles`), and
* all of it for a whole packet (`incomingRtcpPacket_safe`).
-/

set_option autoImplicit false

namespace Xrtc.Proofs.Sdk

open Xrtc.Lib
open Xrtc.Rtp
open Xrtc.Sdk

/-! ### Reads -/

section

variable (packet : Bytes) {lo hi : Nat}

/-- `CommonHeader::Parse` reads the first four bytes of a block, and only where the block has so
many. -/
theorem commonHeaderParse_within {buffer len : Nat}
    (h : kHeaderSizeBytes ≤ len → buffer + kHeaderSizeBytes ≤ hi) :
    (CommonHeader.parse packet buffer len).Within buffer hi := by
  unfold CommonHeader.parse
  split
  · exact Traced.within_pure none
  · rename_i hlen
    have hhi := h (Nat.le_of_not_lt hlen)
    rw [kHeaderSizeBytes] at hhi
    simp only [Traced.within_bind, Traced.within_getByte]
    refine ⟨⟨Nat.le_refl _, by omega⟩, ?_⟩
    split
    · exact Traced.within_pure none
    · simp only [Traced.within_bind, Traced.within_getByte, Traced.within_getBE16]
      rw [Traced.value_getByte, CommonHeader.paddingTest_eq_false]
      -- without the branch for padding, all reads are in the header
      refine ⟨⟨Nat.le_refl _, by omega⟩, ⟨Nat.le_refl _, by omega⟩, ⟨by omega, by omega⟩,
        ⟨by omega, by omega⟩, ?_⟩
      split
      · exact Traced.within_pure none
      · exact Traced.within_pure _

/-- `ReportBlock::Parse` reads the 24 bytes of its report. -/
theorem reportBlockParse_within {buffer len : Nat} (hlo : lo ≤ buffer)
    (hhi : buffer + ReportBlock.kLength ≤ hi) :
    (ReportBlock.parse packet buffer len).Within lo hi := by
  rw [ReportBlock.kLength] at hhi
  unfold ReportBlock.parse
  split
  · exact Traced.within_pure none
  · simp only [Traced.within_bind, Traced.within_getByte, Traced.within_getBytes,
      Traced.within_getBE32, Traced.within_pure, and_true]
    omega

/-- The loop over the reports reads as many of them as it is told, by induction on their number.
-/
theorem readReportBlocks_within (n : Nat) {pos : Nat} (hlo : lo ≤ pos)
    (hhi : pos + n * ReportBlock.kLength ≤ hi) :
    (ReceiverReport.readReportBlocks packet n pos).Within lo hi := by
  induction n generalizing pos with
  | zero => exact Traced.within_pure []
  | succ n ih =>
      rw [Nat.succ_mul] at hhi
      unfold ReceiverReport.readReportBlocks
      simp only [Traced.within_bind, Traced.within_pure, and_true]
      exact ⟨reportBlockParse_within packet hlo (by omega), ih (by omega) (by omega)⟩

/-- The loop over the items of a NACK reads four bytes for each of them. -/
theorem readItemsTraced_within (n : Nat) {pos : Nat} (hlo : lo ≤ pos)
    (hhi : pos + n * kNackItemLength ≤ hi) :
    (Nack.readItemsTraced packet n pos).Within lo hi := by
  induction n generalizing pos with
  | zero => exact Traced.within_pure []
  | succ n ih =>
      rw [Nat.succ_mul] at hhi
      have hitem : (4 : Nat) = kNackItemLength := rfl
      unfold Nack.readItemsTraced
      simp only [Traced.within_bind, Traced.within_getBE16, Traced.within_pure, and_true]
      exact ⟨⟨hlo, by omega⟩, ⟨by omega, by omega⟩, ih (by omega) (by omega)⟩

variable {header : CommonHeader}

/-- The number of report blocks is checked against the payload. -/
theorem receiverReportParse_within (hlo : lo ≤ header.payload)
    (hhi : header.payload + header.payloadSize.toNat ≤ hi) :
    (ReceiverReport.parse packet header).Within lo hi := by
  unfold ReceiverReport.parse
  dsimp only
  split
  · exact Traced.within_pure none
  · rename_i hsize
    rw [ReceiverReport.kRrBaseLength] at hsize ⊢
    simp only [Traced.within_bind, Traced.within_getBE32, Traced.within_pure, and_true]
    -- the check that has failed to return bounds the loop
    exact ⟨⟨hlo, by omega⟩, readReportBlocks_within packet _ (by omega) (by omega)⟩

/-- The number of items is what fits in the payload. -/
theorem nackParse_within (hlo : lo ≤ header.payload)
    (hhi : header.payload + header.payloadSize.toNat ≤ hi) :
    (Nack.parseTraced packet header).Within lo hi := by
  unfold Nack.parseTraced
  split
  · exact Traced.within_pure none
  · rename_i hsize
    have hitems := Nat.div_mul_le_self
      (header.payloadSize.toNat - kCommonFeedbackLength) kNackItemLength
    rw [kCommonFeedbackLength, kNackItemLength] at *
    simp only [Traced.within_bind, Traced.within_getBE32, Traced.within_pure, and_true]
    exact ⟨⟨hlo, by omega⟩, ⟨by omega, by omega⟩,
      readItemsTraced_within packet _ (by omega) (by rw [kNackItemLength]; omega)⟩

/-- Handling a block reads within its payload. The handlers compare the size of the payload with
what they are going to read before they read it. -/
theorem handleBlock_within (clock : Clock) (r : RTCPReceiver) (hlo : lo ≤ header.payload)
    (hhi : header.payload + header.payloadSize.toNat ≤ hi) :
    (r.handleBlock clock packet header).Within lo hi := by
  unfold RTCPReceiver.handleBlock RTCPReceiver.handleReceiverReport RTCPReceiver.handleNack
  split
  · rw [Traced.within_bind]
    refine ⟨receiverReportParse_within packet hlo hhi, ?_⟩
    split <;> exact Traced.within_pure _
  · split
    · split
      · rw [Traced.within_bind]
        refine ⟨nackParse_within packet hlo hhi, ?_⟩
        split <;> exact Traced.within_pure _
      · exact Traced.within_pure _
    · exact Traced.within_pure _

end

/-! ### Handlers -/

/-- The blocks that handlers have parsed, according to a record. -/
def handledIn (log : List FeedbackEntry) : List Handled :=
  log.filterMap fun
    | .handled block => some block
    | .observer _ _ => none

/-- What the handler of a block gets out of it, for a block that has a handler. -/
def handledBy (packet : Bytes) (header : CommonHeader) : Option Handled :=
  if header.packetType = ReceiverReport.kPacketType then
    (ReceiverReport.parse packet header).value.map .receiverReport
  else if header.packetType = Rtpfb.kPacketType ∧ header.countOrFmt = Nack.kFeedbackMessageType then
    (Nack.parseTraced packet header).value.map .nack
  else none

/-- A receiver report that has the report blocks it announces, or a generic NACK with an
item. -/
def EnoughPayload (header : CommonHeader) : Prop :=
  (header.packetType = ReceiverReport.kPacketType ∧
    ReceiverReport.kRrBaseLength + header.countOrFmt.toNat * ReportBlock.kLength
      ≤ header.payloadSize.toNat) ∨
  (header.packetType = Rtpfb.kPacketType ∧ header.countOrFmt = Nack.kFeedbackMessageType ∧
    kCommonFeedbackLength + kNackItemLength ≤ header.payloadSize.toNat)

/-- A receiver report parses exactly if its payload has room for the ssrc of the sender and the
reports that are announced. -/
theorem receiverReportParse_isSome (packet : Bytes) (header : CommonHeader) :
    (ReceiverReport.parse packet header).value.isSome = true ↔
      ReceiverReport.kRrBaseLength + header.countOrFmt.toNat * ReportBlock.kLength
        ≤ header.payloadSize.toNat := by
  unfold ReceiverReport.parse
  dsimp only
  split
  · rename_i hsize
    exact iff_of_false Bool.false_ne_true (Nat.not_le.mpr hsize)
  · rename_i hsize
    exact iff_of_true rfl (Nat.le_of_not_lt hsize)

/-- A NACK parses exactly if its payload has room for the two ssrcs and one item. -/
theorem nackParse_isSome (packet : Bytes) (header : CommonHeader) :
    (Nack.parseTraced packet header).value.isSome = true ↔
      kCommonFeedbackLength + kNackItemLength ≤ header.payloadSize.toNat := by
  unfold Nack.parseTraced
  split
  · rename_i hsize
    exact iff_of_false Bool.false_ne_true (Nat.not_le.mpr hsize)
  · rename_i hsize
    exact iff_of_true rfl (Nat.le_of_not_lt hsize)

/-- So a block reaches its handler exactly if its type is known and its payload is long enough. -/
theorem handledBy_isSome (packet : Bytes) (header : CommonHeader) :
    (handledBy packet header).isSome = true ↔ EnoughPayload header := by
  have htypes : ¬ Rtpfb.kPacketType = ReceiverReport.kPacketType := by decide
  unfold handledBy EnoughPayload
  split
  · rename_i hreport
    rw [Option.isSome_map, receiverReportParse_isSome, hreport]
    simp only [Ne.symm htypes, true_and, false_and, or_false]
  · rename_i hreport
    split
    · rename_i hnack
      rw [Option.isSome_map, nackParse_isSome]
      simp only [hnack.1, hnack.2, htypes, false_and, true_and, false_or]
    · rename_i hnack
      refine iff_of_false Bool.false_ne_true ?_
      rintro (⟨h, -⟩ | ⟨h, hfmt, -⟩)
      · exact hreport h
      · exact hnack ⟨h, hfmt⟩

section

variable (clock : Clock) (r : RTCPReceiver)

/-- A block that was parsed is added to those that were. -/
theorem handledIn_push_handled (block : Handled) :
    handledIn (r.push (.handled block)).log = handledIn r.log ++ [block] := by
  unfold handledIn RTCPReceiver.push
  rw [List.filterMap_append]
  rfl

/-- A call of the observer is no block. -/
theorem handledIn_push_observer (ssrc : UInt32) (call : ObserverCall) :
    handledIn (r.push (.observer ssrc call)).log = handledIn r.log := by
  unfold handledIn RTCPReceiver.push
  rw [List.filterMap_append]
  exact List.append_nil _

/-- One report of a receiver report is no block of its own. -/
theorem handledIn_handleReportBlock (reportBlock : ReportBlock) :
    handledIn (r.handleReportBlock clock reportBlock).log = handledIn r.log := by
  unfold RTCPReceiver.handleReportBlock
  dsimp only
  split
  · rfl
  · split
    · split
      · exact handledIn_push_observer _ _ _
      · rfl
    · rfl

/-- A receiver report is handled once, however many reports it has. -/
theorem handledIn_handleReports (rr : ReceiverReport) :
    handledIn (r.handleReports clock rr).log = handledIn r.log ++ [.receiverReport rr] := by
  -- the report blocks add calls of the observer only
  have hblocks : ∀ (reportBlocks : List ReportBlock) (r : RTCPReceiver),
      handledIn (reportBlocks.foldl (RTCPReceiver.handleReportBlock clock) r).log
        = handledIn r.log := by
    intro reportBlocks
    induction reportBlocks with
    | nil => exact fun _ => rfl
    | cons reportBlock reportBlocks ih =>
        exact fun r => (ih _).trans (handledIn_handleReportBlock clock r reportBlock)
  exact (hblocks _ _).trans (handledIn_push_handled r _)

/-- A NACK is handled once. -/
theorem handledIn_handlePacketIds (nack : Nack) :
    handledIn (r.handlePacketIds nack).log = handledIn r.log ++ [.nack nack] := by
  unfold RTCPReceiver.handlePacketIds
  dsimp only
  split
  · exact (handledIn_push_observer _ _ _).trans (handledIn_push_handled r _)
  · exact handledIn_push_handled r _

/-- What the receiver does with a block that a handler has parsed. -/
def handle (r : RTCPReceiver) : Handled → RTCPReceiver
  | .receiverReport rr => r.handleReports clock rr
  | .nack nack => r.handlePacketIds nack

/-- So every block that has been parsed is handled once. -/
theorem handledIn_handle (block : Handled) :
    handledIn (handle clock r block).log = handledIn r.log ++ [block] := by
  cases block with
  | receiverReport rr => exact handledIn_handleReports clock r rr
  | nack nack => exact handledIn_handlePacketIds r nack

/-- A block is handled, counted as skipped or left alone. It is skipped if its type is known and
it does not parse. -/
theorem handleBlock_value (packet : Bytes) (header : CommonHeader) :
    (r.handleBlock clock packet header).value =
      match handledBy packet header with
      | some block => handle clock r block
      | none =>
          if header.packetType = ReceiverReport.kPacketType ∨
              header.packetType = Rtpfb.kPacketType then r.skip
          else r := by
  unfold RTCPReceiver.handleBlock handledBy
  by_cases hreport : header.packetType = ReceiverReport.kPacketType
  · rw [if_pos hreport, if_pos hreport, if_pos (.inl hreport), RTCPReceiver.handleReceiverReport,
      Traced.value_bind]
    cases (ReceiverReport.parse packet header).value with
    | none => rfl
    | some rr => rfl
  · rw [if_neg hreport, if_neg hreport]
    by_cases hfeedback : header.packetType = Rtpfb.kPacketType
    · rw [if_pos hfeedback, if_pos (Or.inr hfeedback : header.packetType = _ ∨ _)]
      by_cases hfmt : header.countOrFmt = Nack.kFeedbackMessageType
      · rw [if_pos hfmt, if_pos ⟨hfeedback, hfmt⟩, RTCPReceiver.handleNack, Traced.value_bind]
        cases (Nack.parseTraced packet header).value with
        | none => rfl
        | some nack => rfl
      · rw [if_neg hfmt, if_neg (mt And.right hfmt)]
        rfl
    · rw [if_neg hfeedback, if_neg (mt And.left hfeedback), if_neg (not_or.mpr ⟨hreport, hfeedback⟩)]
      rfl

/-- And a block of the packet is handled once if it parses, and not at all if it does not. -/
theorem handledIn_handleBlock (packet : Bytes) (header : CommonHeader) :
    handledIn (r.handleBlock clock packet header).value.log
      = handledIn r.log ++ (handledBy packet header).toList := by
  rw [handleBlock_value]
  cases handledBy packet header with
  | none =>
      dsimp only
      split
      · exact (List.append_nil _).symm
      · exact (List.append_nil _).symm
  | some block => exact handledIn_handle clock r block

end

/-! ### The loop -/

section

variable (clock : Clock) (r : RTCPReceiver) {packet : Bytes} {nextBlock : Nat}
  (hle : nextBlock ≤ packet.length)

/-- The loop ends at the end of the packet. -/
theorem parseCompoundPacket_of_eq (h : nextBlock = packet.length) :
    r.parseCompoundPacket clock packet nextBlock hle = ([], r) := by
  rw [RTCPReceiver.parseCompoundPacket, if_pos h]

/-- It ends at a block without a header, which counts as skipped unless it is the first one. -/
theorem parseCompoundPacket_of_none (h : nextBlock ≠ packet.length)
    (hparse : (CommonHeader.parse packet nextBlock (packet.length - nextBlock)).value = none) :
    r.parseCompoundPacket clock packet nextBlock hle =
      ([⟨nextBlock, none,
          (CommonHeader.parse packet nextBlock (packet.length - nextBlock)).accesses⟩],
        if nextBlock = 0 then r else r.skip) := by
  rw [RTCPReceiver.parseCompoundPacket, if_neg h]
  dsimp only
  split
  · rfl
  · rename_i hsome
    rw [hparse] at hsome
    cases hsome

/-- Otherwise the block is handled, and the loop goes on behind it. The round is noted with the
reads of the header and of the handler. -/
theorem parseCompoundPacket_of_some {header : CommonHeader} (h : nextBlock ≠ packet.length)
    (hparse : (CommonHeader.parse packet nextBlock (packet.length - nextBlock)).value = some header)
    (hnext : header.nextPacket ≤ packet.length) :
    r.parseCompoundPacket clock packet nextBlock hle =
      let rest := (r.handleBlock clock packet header).value.parseCompoundPacket clock packet
        header.nextPacket hnext
      (⟨nextBlock, some header,
          (CommonHeader.parse packet nextBlock (packet.length - nextBlock)).accesses ++
            (r.handleBlock clock packet header).accesses⟩ :: rest.1, rest.2) := by
  rw [RTCPReceiver.parseCompoundPacket, if_neg h]
  dsimp only
  split
  · rename_i hnone
    rw [hparse] at hnone
    cases hnone
  · rename_i hsome
    rw [hparse] at hsome
    cases hsome
    rfl

end

/-- Where the block of a round ends: the packet, for a block that does not parse. -/
def blockEnd (packet : Bytes) (round : RTCPReceiver.Round) : Nat :=
  match round.header with
  | none => packet.length
  | some header => header.nextPacket

/-- The rounds from an offset on: each starts where the one before has ended, and has the
header that `CommonHeader::Parse` finds there. A round whose block does not parse is the last
one, and without such a round the last block ends where the packet does. -/
def Tiles (packet : Bytes) : Nat → List RTCPReceiver.Round → Prop
  | pos, [] => pos = packet.length
  | pos, round :: rounds =>
      round.nextBlock = pos ∧ pos < packet.length ∧
      round.header = (CommonHeader.parse packet pos (packet.length - pos)).value ∧
      match round.header with
      | none => rounds = []
      | some header =>
          pos + kHeaderSizeBytes ≤ header.nextPacket ∧ header.nextPacket ≤ packet.length ∧
            Tiles packet header.nextPacket rounds

/-- The reads of a round are inside its block. -/
def ReadsInside (packet : Bytes) (round : RTCPReceiver.Round) : Prop :=
  ∀ a ∈ round.accesses, a.Within round.nextBlock (blockEnd packet round)

/-- Looking for a header reads nothing outside the packet. -/
theorem readsInside_of_none {packet : Bytes} {nextBlock : Nat} (hle : nextBlock ≤ packet.length) :
    ReadsInside packet ⟨nextBlock, none,
      (CommonHeader.parse packet nextBlock (packet.length - nextBlock)).accesses⟩ := by
  show (CommonHeader.parse packet nextBlock _).Within nextBlock packet.length
  exact commonHeaderParse_within packet (by omega)

/-- The handler reads behind the header, as far as the header says. -/
theorem readsInside_of_some (clock : Clock) (r : RTCPReceiver) {packet : Bytes}
    {nextBlock : Nat} {header : CommonHeader}
    (hparse : (CommonHeader.parse packet nextBlock (packet.length - nextBlock)).value
      = some header) :
    ReadsInside packet ⟨nextBlock, some header,
      (CommonHeader.parse packet nextBlock (packet.length - nextBlock)).accesses ++
        (r.handleBlock clock packet header).accesses⟩ := by
  intro a ha
  have hbounds := CommonHeader.nextPacket_of_parse hparse
  rcases List.mem_append.mp ha with ha | ha
  · exact commonHeaderParse_within packet (fun _ => hbounds.1) a ha
  · obtain ⟨hheader, -, -⟩ := CommonHeader.parse_eq_some hparse
    have hpayload : header.payload = nextBlock + kHeaderSizeBytes := by rw [hheader]; rfl
    have hlo : nextBlock ≤ header.payload := by omega
    have hhi : header.payload + header.payloadSize.toNat ≤ header.nextPacket := by
      unfold CommonHeader.nextPacket
      omega
    exact handleBlock_within packet clock r hlo hhi a ha

/-- What `ParseCompoundPacket` does from one block on, by induction over what is left of the
packet: each round takes at least a header. -/
theorem parseCompoundPacket_spec (clock : Clock) (r : RTCPReceiver) (packet : Bytes)
    (nextBlock : Nat) (hle : nextBlock ≤ packet.length) :
    let run := r.parseCompoundPacket clock packet nextBlock hle
    Tiles packet nextBlock run.1 ∧ (∀ round ∈ run.1, ReadsInside packet round) ∧
      handledIn run.2.log
        = handledIn r.log ++ run.1.filterMap fun round => round.header.bind (handledBy packet) := by
  by_cases hend : nextBlock = packet.length
  · rw [parseCompoundPacket_of_eq clock r hle hend]
    exact ⟨hend, fun _ h => (nomatch h), (List.append_nil _).symm⟩
  · cases hparse : (CommonHeader.parse packet nextBlock (packet.length - nextBlock)).value with
    | none =>
        rw [parseCompoundPacket_of_none clock r hle hend hparse]
        refine ⟨⟨rfl, by omega, hparse.symm, rfl⟩, ?_, ?_⟩
        · intro round hround
          obtain rfl := List.mem_singleton.mp hround
          exact readsInside_of_none hle
        · dsimp only
          split
          · exact (List.append_nil _).symm
          · exact (List.append_nil _).symm
    | some header =>
        have hbounds := CommonHeader.nextPacket_of_parse hparse
        have hnext : header.nextPacket ≤ packet.length := by omega
        rw [parseCompoundPacket_of_some clock r hle hend hparse hnext]
        dsimp only
        have hpos : nextBlock < header.nextPacket := by
          rw [kHeaderSizeBytes] at hbounds
          omega
        -- the rest of the packet starts where this block ends
        obtain ⟨htiles, hreads, hhandled⟩ := parseCompoundPacket_spec clock
          (r.handleBlock clock packet header).value packet header.nextPacket hnext
        refine ⟨⟨rfl, by omega, hparse.symm, hbounds.1, hnext, htiles⟩, ?_, ?_⟩
        · intro round hround
          rcases List.mem_cons.mp hround with rfl | hround
          · exact readsInside_of_some clock r hparse
          · exact hreads round hround
        · rw [hhandled, handledIn_handleBlock, List.append_assoc]
          congr 1
          simp only [List.filterMap_cons, Option.bind_some]
          cases handledBy packet header with
          | none => rfl
          | some block => rfl
termination_by packet.length - nextBlock
decreasing_by omega

/-- Every round but the last one takes a header from the packet. -/
theorem rounds_le {packet : Bytes} {pos : Nat} {rounds : List RTCPReceiver.Round}
    (h : Tiles packet pos rounds) : rounds.length ≤ (packet.length - pos) / kHeaderSizeBytes + 1 := by
  induction rounds generalizing pos with
  | nil => exact Nat.zero_le _
  | cons round rounds ih =>
      obtain ⟨-, hpos, -, h⟩ := h
      cases hheader : round.header with
      | none =>
          rw [hheader] at h
          rw [h]
          exact Nat.le_add_left _ _
      | some header =>
          rw [hheader] at h
          obtain ⟨hstart, hend, htiles⟩ := h
          have hrest := ih htiles
          rw [List.length_cons]
          rw [kHeaderSizeBytes] at *
          omega

/-- `IncomingRtcpPacket` begins with the first block. -/
theorem incomingRtcpPacket_eq_parse (clock : Clock) (r : RTCPReceiver) (packet : Bytes) :
    r.incomingRtcpPacket clock packet = r.parseCompoundPacket clock packet 0 (Nat.zero_le _) := by
  unfold RTCPReceiver.incomingRtcpPacket
  split
  · rename_i hempty
    rw [List.isEmpty_iff.mp hempty, parseCompoundPacket_of_eq clock r (Nat.zero_le _) rfl]
  · rfl

/-- For every byte string: `IncomingRtcpPacket` ends after so many rounds. Their blocks are
contiguous, at least a header long each, and they tile a prefix of the packet, or the packet
if all of them parse. What is read in a round is inside its block. The handlers parse the
receiver reports and generic NACKs with enough payload, each once and in order. -/
theorem incomingRtcpPacket_safe (clock : Clock) (r : RTCPReceiver) (packet : Bytes) :
    let run := r.incomingRtcpPacket clock packet
    run.1.length ≤ packet.length / kHeaderSizeBytes + 1 ∧
      Tiles packet 0 run.1 ∧
      (∀ round ∈ run.1, ReadsInside packet round) ∧
      handledIn run.2.log
        = handledIn r.log ++ run.1.filterMap (fun round => round.header.bind (handledBy packet)) ∧
      ∀ header, (handledBy packet header).isSome = true ↔ EnoughPayload header := by
  rw [incomingRtcpPacket_eq_parse]
  obtain ⟨htiles, hreads, hhandled⟩ :=
    parseCompoundPacket_spec clock r packet 0 (Nat.zero_le _)
  exact ⟨rounds_le htiles, htiles, hreads, hhandled, handledBy_isSome packet⟩

end Xrtc.Proofs.Sdk
