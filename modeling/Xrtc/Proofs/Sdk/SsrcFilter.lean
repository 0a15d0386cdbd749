import Mathlib.Logic.Relation
import Xrtc.Proofs.Sdk.RtcpFrames

/-!
# `Xrtc.Proofs.Sdk.SsrcFilter`: feedback for other streams

`HandleReportBlock` looks at the ssrc of a report block before it does anything.
`HandleNack` does not look at the media ssrc, which `ParseCommonFeedback` has read, and calls
the observer for every NACK.

Two packets that differ in report blocks and NACKs for other ssrcs (`Edit`) leave receivers
that agree on the calls for their own ssrc (`agree_of_edit`). A packet makes calls for other
ssrcs exactly if it has a NACK for one (`adds_incomingRtcpPacket`). Together these say when
feedback for other ssrcs makes no difference (`feedback_filtered_iff`).
-/

set_option autoImplicit false

namespace Xrtc.Proofs.Sdk

open Xrtc.Lib
open Xrtc.Rtp
open Xrtc.Sdk

/-! ### Packets with feedback for other ssrcs -/

/-- A generic NACK that is complete up to its media ssrc, which is none of some ssrcs. -/
structure ForeignNack (ssrcs : List UInt32) (block : Bytes) : Prop where
  frame : rtcpFraming.IsFrame block
  packetType : block.getD 1 0 = Rtpfb.kPacketType
  fmt : block.getD 0 0 &&& 0x1F = Nack.kFeedbackMessageType
  length : kHeaderSizeBytes + kCommonFeedbackLength ≤ block.length
  mediaSsrc : getBE32 block (kHeaderSizeBytes + 4) ∉ ssrcs

/-- A receiver report with its report blocks, and what follows them up to the end of the
block. -/
structure ReportPacket where
  first : UInt8
  length : UInt16
  senderSsrc : UInt32
  reports : List Bytes
  extension : Bytes
  version : first >>> 6 = 2
  count : (first &&& 0x1F).toNat = reports.length
  report_length : ∀ report ∈ reports, report.length = ReportBlock.kLength
  length_eq : length.toNat * 4 =
    ReceiverReport.kRrBaseLength + reports.length * ReportBlock.kLength + extension.length

/-- The block in the packet: the common header with the ssrc of the sender, then the reports one
behind the other, and whatever extension the length leaves room for. -/
def ReportPacket.bytes (p : ReportPacket) : Bytes :=
  ([p.first, ReceiverReport.kPacketType] ++ writeUInt16 p.length ++ writeUInt32 p.senderSsrc) ++
    (p.reports.flatten ++ p.extension)

/-- A NACK for another ssrc, or a report block for one, is inserted behind some blocks of a
packet. -/
inductive Edit (ssrcs : List UInt32) : Bytes → Bytes → Prop
  | nack (blocks : List Bytes) (nack rest : Bytes)
      (hblocks : ∀ block ∈ blocks, rtcpFraming.IsFrame block) (hnack : ForeignNack ssrcs nack) :
      Edit ssrcs (blocks.flatten ++ rest) (blocks.flatten ++ (nack ++ rest))
  | report (blocks : List Bytes) (p q : ReportPacket) (before after : List Bytes)
      (report rest : Bytes) (hblocks : ∀ block ∈ blocks, rtcpFraming.IsFrame block)
      (hp : p.reports = before ++ after) (hq : q.reports = before ++ report :: after)
      (hsender : q.senderSsrc = p.senderSsrc) (hextension : q.extension = p.extension)
      (hreport : getBE32 report 0 ∉ ssrcs) :
      Edit ssrcs (blocks.flatten ++ (p.bytes ++ rest)) (blocks.flatten ++ (q.bytes ++ rest))

/-! ### Calls of the observer -/

/-- The calls of the observer in a record, with their ssrcs. -/
def callsIn (log : List FeedbackEntry) : List (UInt32 × ObserverCall) :=
  log.filterMap fun
    | .handled _ => none
    | .observer ssrc call => some (ssrc, call)

/-- The calls in a longer record are those in its two parts. So a receiver that only adds to its
record keeps the calls it has made. -/
theorem callsIn_append (log log' : List FeedbackEntry) :
    callsIn (log ++ log') = callsIn log ++ callsIn log' :=
  List.filterMap_append

/-- The calls for registered ssrcs. -/
def ownCalls (r : RTCPReceiver) : List (UInt32 × ObserverCall) :=
  (callsIn r.log).filter fun call => r.isRegisteredSsrc call.1

/-- Two receivers that have made the same calls for registered ssrcs, and will do the same
with the same block. They may have skipped and handled different blocks. -/
structure Agree (r s : RTCPReceiver) : Prop where
  audio : r.audio = s.audio
  hasObserver : r.hasObserver = s.hasObserver
  registeredSsrcs : r.registeredSsrcs = s.registeredSsrcs
  readings : r.readings = s.readings
  ownCalls : ownCalls r = ownCalls s

namespace Agree

variable {r s t : RTCPReceiver}

/-- A receiver agrees with itself. -/
theorem refl (r : RTCPReceiver) : Agree r r := ⟨rfl, rfl, rfl, rfl, rfl⟩

/-- Agreement does not depend on the order of the two receivers. -/
theorem symm (h : Agree r s) : Agree s r :=
  ⟨h.audio.symm, h.hasObserver.symm, h.registeredSsrcs.symm, h.readings.symm, h.ownCalls.symm⟩

/-- Two receivers that agree with a third one agree with each other. -/
theorem trans (h : Agree r s) (h' : Agree s t) : Agree r t :=
  ⟨h.audio.trans h'.audio, h.hasObserver.trans h'.hasObserver,
    h.registeredSsrcs.trans h'.registeredSsrcs, h.readings.trans h'.readings,
    h.ownCalls.trans h'.ownCalls⟩

/-- A block that is only counted as skipped is seen in the counter alone, which agreement does not
look at. -/
theorem skip (r : RTCPReceiver) : Agree r.skip r := ⟨rfl, rfl, rfl, rfl, rfl⟩

/-- That a block was parsed is noted in the record, but it is no call of the observer. -/
theorem push_handled (r : RTCPReceiver) (block : Handled) : Agree (r.push (.handled block)) r := by
  refine ⟨rfl, rfl, rfl, rfl, ?_⟩
  show (callsIn (r.log ++ [.handled block])).filter _ = _
  rw [callsIn_append]
  exact congrArg (List.filter _) (List.append_nil _)

/-- A call for an ssrc that is not registered. -/
theorem push_foreign (r : RTCPReceiver) {ssrc : UInt32} (call : ObserverCall)
    (h : r.isRegisteredSsrc ssrc = false) : Agree (r.push (.observer ssrc call)) r := by
  refine ⟨rfl, rfl, rfl, rfl, ?_⟩
  show (callsIn (r.log ++ [.observer ssrc call])).filter _ = _
  rw [callsIn_append, List.filter_append]
  show _ ++ [(ssrc, call)].filter (fun call => r.isRegisteredSsrc call.1) = _
  rw [List.filter_cons_of_neg (by rw [h]; exact Bool.false_ne_true)]
  exact List.append_nil _

/-- Receivers that agree take the same ssrcs for their own. -/
theorem isRegisteredSsrc (h : Agree r s) (ssrc : UInt32) :
    r.isRegisteredSsrc ssrc = s.isRegisteredSsrc ssrc := by
  unfold RTCPReceiver.isRegisteredSsrc
  rw [h.registeredSsrcs]

/-- The same call of the observer is noted for both, and is a call for an own ssrc for both or for
neither. -/
theorem push_observer (h : Agree r s) (ssrc : UInt32) (call : ObserverCall) :
    Agree (r.push (.observer ssrc call)) (s.push (.observer ssrc call)) := by
  refine ⟨h.audio, h.hasObserver, h.registeredSsrcs, h.readings, ?_⟩
  have hcalls := h.ownCalls
  unfold Sdk.ownCalls at hcalls
  show (callsIn (r.log ++ [.observer ssrc call])).filter (fun call => r.isRegisteredSsrc call.1)
    = (callsIn (s.log ++ [.observer ssrc call])).filter (fun call => s.isRegisteredSsrc call.1)
  rw [callsIn_append, callsIn_append, List.filter_append, List.filter_append, hcalls]
  simp only [h.isRegisteredSsrc]

variable (clock : Clock)

/-- A report block is looked at by both or by neither, since the ssrcs are the same. The readings
of the clock may differ, the calls do not. -/
theorem handleReportBlock (h : Agree r s) (reportBlock : ReportBlock) :
    Agree (r.handleReportBlock clock reportBlock) (s.handleReportBlock clock reportBlock) := by
  unfold RTCPReceiver.handleReportBlock
  dsimp only
  rw [h.isRegisteredSsrc, h.readings]
  have hread : Agree (r.received (clock.reading s.readings))
      (s.received (clock.reading s.readings)) :=
    ⟨h.audio, h.hasObserver, h.registeredSsrcs, congrArg (· + 1) h.readings, h.ownCalls⟩
  rw [hread.hasObserver]
  split
  · exact h
  · split
    · split
      · exact hread.push_observer _ _
      · exact hread
    · exact hread

/-- The same for the report blocks of a packet, by induction on the list. -/
theorem handleReportBlocks (h : Agree r s) (reportBlocks : List ReportBlock) :
    Agree (reportBlocks.foldl (RTCPReceiver.handleReportBlock clock) r)
      (reportBlocks.foldl (RTCPReceiver.handleReportBlock clock) s) := by
  induction reportBlocks generalizing r s with
  | nil => exact h
  | cons reportBlock reportBlocks ih => exact ih (h.handleReportBlock clock reportBlock)

/-- The same for whatever `ParseCompoundPacket` has parsed: a receiver report or a NACK. -/
theorem handle (h : Agree r s) (block : Handled) :
    Agree (handle clock r block) (handle clock s block) := by
  have hpush : Agree (r.push (.handled block)) (s.push (.handled block)) :=
    ((push_handled r block).trans h).trans (push_handled s block).symm
  cases block with
  | receiverReport rr => exact hpush.handleReportBlocks clock rr.reportBlocks
  | nack nack =>
      show Agree (r.handlePacketIds nack) (s.handlePacketIds nack)
      unfold RTCPReceiver.handlePacketIds
      dsimp only
      rw [hpush.hasObserver]
      split
      · show Agree ((r.push (.handled (.nack nack))).push
            (.observer nack.mediaSsrc (.onNackReceived (if r.audio then .audio else .video) _))) _
        rw [h.audio]
        exact hpush.push_observer _ _
      · exact hpush

/-- The same for one block of a compound packet. A block that cannot be parsed is skipped by both.
-/
theorem handleFrame (h : Agree r s) (block : Bytes) :
    Agree (handleFrame clock r block) (handleFrame clock s block) := by
  rw [handleFrame_eq, handleFrame_eq]
  cases blockHandled block with
  | none =>
      dsimp only
      split
      · exact ((skip r).trans h).trans (skip s).symm
      · exact h
  | some handled => exact h.handle clock handled

/-- The same for all the blocks of a packet, by induction on the list. -/
theorem handleFrames (h : Agree r s) (blocks : List Bytes) :
    Agree (blocks.foldl (Sdk.handleFrame clock) r) (blocks.foldl (Sdk.handleFrame clock) s) := by
  induction blocks generalizing r s with
  | nil => exact h
  | cons block blocks ih => exact ih (h.handleFrame clock block)

/-- The end of a packet is not seen by an observer. -/
theorem incomingRtcpPacket (r : RTCPReceiver) (packet : Bytes) :
    Agree (r.incomingRtcpPacket clock packet).2
      ((rtcpFraming.split packet).1.foldl (Sdk.handleFrame clock) r) := by
  rw [incomingRtcpPacket_eq]
  dsimp only
  split
  · exact refl _
  · exact skip _

end Agree

/-- What a part of a packet adds: nothing but calls of the observer, and these are all for
registered ssrcs exactly if a condition holds. -/
structure Adds (r s : RTCPReceiver) (ok : Prop) : Prop where
  registeredSsrcs : s.registeredSsrcs = r.registeredSsrcs
  hasObserver : s.hasObserver = r.hasObserver
  calls : ∃ calls, callsIn s.log = callsIn r.log ++ calls ∧
    ((∀ call ∈ calls, call.1 ∈ r.registeredSsrcs) ↔ ok)

namespace Adds

variable {r s t : RTCPReceiver} {p q : Prop}

/-- The condition under which only own calls are added can be put in another form. -/
theorem congr (h : Adds r s p) (hpq : p ↔ q) : Adds r s q := by
  obtain ⟨hssrcs, hobserver, calls, hcalls, hok⟩ := h
  exact ⟨hssrcs, hobserver, calls, hcalls, hok.trans hpq⟩

/-- Two steps together add only own calls if each of them does. The second one meets the ssrcs and
the observer that the first one has left. -/
theorem trans (h : Adds r s p) (h' : Adds s t q) : Adds r t (p ∧ q) := by
  obtain ⟨hssrcs, hobserver, calls, hcalls, hok⟩ := h
  obtain ⟨hssrcs', hobserver', calls', hcalls', hok'⟩ := h'
  refine ⟨hssrcs'.trans hssrcs, hobserver'.trans hobserver, calls ++ calls', ?_, ?_⟩
  · rw [hcalls', hcalls, List.append_assoc]
  · rw [List.forall_mem_append, hok, ← hssrcs, hok']

/-- A step that makes no call adds nothing, whatever else it changes in the record. -/
theorem of_callsIn (hssrcs : s.registeredSsrcs = r.registeredSsrcs)
    (hobserver : s.hasObserver = r.hasObserver) (hcalls : callsIn s.log = callsIn r.log) :
    Adds r s True :=
  ⟨hssrcs, hobserver, [], by rw [hcalls, List.append_nil],
    iff_of_true (fun _ h => nomatch h) trivial⟩

/-- A step that does nothing adds no call. -/
theorem refl (r : RTCPReceiver) : Adds r r True := of_callsIn rfl rfl rfl

/-- A skipped block adds no call. -/
theorem skip (r : RTCPReceiver) : Adds r r.skip True := of_callsIn rfl rfl rfl

/-- A parsed block adds no call by itself. -/
theorem push_handled (r : RTCPReceiver) (block : Handled) :
    Adds r (r.push (.handled block)) True :=
  of_callsIn rfl rfl ((callsIn_append _ _).trans (List.append_nil _))

/-- One call adds exactly this call, and it is an own one if and only if the ssrc is registered.
-/
theorem push_observer (r : RTCPReceiver) (ssrc : UInt32) (call : ObserverCall) :
    Adds r (r.push (.observer ssrc call)) (ssrc ∈ r.registeredSsrcs) :=
  ⟨rfl, rfl, [(ssrc, call)], callsIn_append _ _, List.forall_mem_singleton⟩

variable (clock : Clock) (r)

/-- `HandleReportBlock` asks for the ssrc first. So the call it makes is always an own one. -/
theorem handleReportBlock (reportBlock : ReportBlock) :
    Adds r (r.handleReportBlock clock reportBlock) True := by
  unfold RTCPReceiver.handleReportBlock
  dsimp only
  split
  · exact refl r
  · rename_i hregistered
    have hread : Adds r (r.received (clock.reading r.readings)) True := of_callsIn rfl rfl rfl
    split
    · split
      · -- the call is for the ssrc that was looked up
        refine (hread.trans (push_observer _ _ _)).congr (iff_of_true ⟨trivial, ?_⟩ trivial)
        show reportBlock.sourceSsrc ∈ r.registeredSsrcs
        simpa [RTCPReceiver.isRegisteredSsrc] using hregistered
      · exact hread
    · exact hread

/-- The same for the report blocks of a packet, by induction on the list. -/
theorem handleReportBlocks (reportBlocks : List ReportBlock) :
    Adds r (reportBlocks.foldl (RTCPReceiver.handleReportBlock clock) r) True := by
  induction reportBlocks generalizing r with
  | nil => exact refl r
  | cons reportBlock reportBlocks ih =>
      exact ((handleReportBlock r clock reportBlock).trans (ih _)).congr (and_self_iff)

/-- Only a NACK can call the observer for an ssrc that is not registered. -/
theorem handle (block : Handled) :
    Adds r (handle clock r block)
      (r.hasObserver = true → ∀ nack, block = .nack nack → nack.mediaSsrc ∈ r.registeredSsrcs) := by
  have hpush := push_handled r block
  cases block with
  | receiverReport rr =>
      exact (hpush.trans (handleReportBlocks _ clock rr.reportBlocks)).congr
        (iff_of_true ⟨trivial, trivial⟩ fun _ _ h => nomatch h)
  | nack nack =>
      show Adds r (r.handlePacketIds nack) _
      unfold RTCPReceiver.handlePacketIds
      dsimp only
      split
      · rename_i hobserver
        have hobserver : r.hasObserver = true := hobserver
        refine (hpush.trans (push_observer _ _ _)).congr ?_
        rw [true_and]
        constructor
        · intro hmem _ _ h
          cases h
          exact hmem
        · intro h
          exact h hobserver nack rfl
      · rename_i hobserver
        exact hpush.congr (iff_of_true trivial fun h => absurd h hobserver)

end Adds

/-! ### One block -/

/-- The media ssrc of a NACK that parses is the second word of its payload. -/
theorem nackParse_mediaSsrc {packet : Bytes} {header : CommonHeader} {nack : Nack}
    (h : (Nack.parseTraced packet header).value = some nack) :
    nack.mediaSsrc = getBE32 packet (header.payload + 4) := by
  unfold Nack.parseTraced at h
  split at h
  · cases h
  · cases h
    rfl

/-- A NACK that `HandleNack` gets through, for an ssrc that is none of some ssrcs. -/
def ReceivedForeign (ssrcs : List UInt32) (block : Bytes) : Prop :=
  ForeignNack ssrcs block ∧
    kHeaderSizeBytes + (kCommonFeedbackLength + kNackItemLength) ≤ block.length

/-- On the bytes of a block: it is a NACK for a foreign ssrc exactly when its handler gets one.
The packet type, the format and the length decide whether `Nack::Parse` succeeds. -/
theorem receivedForeign_iff {ssrcs : List UInt32} {block : Bytes}
    (hframe : rtcpFraming.IsFrame block) :
    ReceivedForeign ssrcs block ↔
      ∃ nack, blockHandled block = some (.nack nack) ∧ nack.mediaSsrc ∉ ssrcs := by
  have hpayload := payloadSize_of_isFrame hframe
  have hsome := nackParse_isSome block (CommonHeader.fromBytes block 0)
  constructor
  · rintro ⟨⟨-, htype, hfmt, -, hforeign⟩, hlength⟩
    obtain ⟨nack, hnack⟩ := Option.isSome_iff_exists.mp (hsome.mpr (by omega))
    refine ⟨nack, ?_, ?_⟩
    · rw [blockHandled_nack htype hfmt, hnack]
      rfl
    · rw [nackParse_mediaSsrc hnack]
      exact hforeign
  · rintro ⟨nack, hhandled, hforeign⟩
    unfold blockHandled handledBy at hhandled
    split at hhandled
    · obtain ⟨_, -, h⟩ := Option.map_eq_some_iff.mp hhandled
      cases h
    · split at hhandled
      · rename_i htypes
        obtain ⟨_, hnack, h⟩ := Option.map_eq_some_iff.mp hhandled
        cases h
        have hlength := hsome.mp (Option.isSome_iff_exists.mpr ⟨nack, hnack⟩)
        have hitem : 0 < kNackItemLength := by decide
        rw [nackParse_mediaSsrc hnack] at hforeign
        exact ⟨⟨hframe, htypes.1, htypes.2, by omega, hforeign⟩, by omega⟩
      · cases hhandled

section

variable (clock : Clock) (r : RTCPReceiver)

/-- A block adds only own calls, unless it is a NACK for an ssrc that is not registered and there
is an observer to be called. -/
theorem adds_handleFrame {block : Bytes} (hframe : rtcpFraming.IsFrame block) :
    Adds r (handleFrame clock r block)
      (r.hasObserver = true → ¬ ReceivedForeign r.registeredSsrcs block) := by
  rw [handleFrame_eq, receivedForeign_iff hframe]
  cases blockHandled block with
  | none =>
      have hok : True ↔ (r.hasObserver = true → ¬ ∃ nack, none = some (Handled.nack nack) ∧
          nack.mediaSsrc ∉ r.registeredSsrcs) :=
        iff_of_true trivial fun _ ⟨_, h, _⟩ => nomatch h
      dsimp only
      split
      · exact (Adds.skip r).congr hok
      · exact (Adds.refl r).congr hok
  | some handled =>
      refine (Adds.handle r clock handled).congr (imp_congr_right fun _ => ?_)
      simp only [Option.some.injEq, not_exists, not_and, not_not]

/-- The same for all the blocks of a packet: every one of them has to be free of foreign NACKs.
The induction carries the ssrcs and the observer along. -/
theorem adds_handleFrames {blocks : List Bytes}
    (hblocks : ∀ block ∈ blocks, rtcpFraming.IsFrame block) :
    Adds r (blocks.foldl (handleFrame clock) r)
      (r.hasObserver = true → ∀ block ∈ blocks, ¬ ReceivedForeign r.registeredSsrcs block) := by
  induction blocks generalizing r with
  | nil => exact (Adds.refl r).congr (iff_of_true trivial fun _ _ h => nomatch h)
  | cons block blocks ih =>
      obtain ⟨hframe, hframes⟩ := List.forall_mem_cons.mp hblocks
      have hfirst := adds_handleFrame clock r hframe
      refine (hfirst.trans (ih _ hframes)).congr ?_
      rw [hfirst.registeredSsrcs, hfirst.hasObserver, ← forall_and]
      exact imp_congr_right fun _ =>
        (List.forall_mem_cons (p := fun block => ¬ ReceivedForeign r.registeredSsrcs block)).symm

end

/-! ### Receiver reports -/

/-- The report block that stands in some bytes. -/
def reportOf (report : Bytes) : ReportBlock :=
  (ReportBlock.parse report 0 ReportBlock.kLength).value.getD {}

/-- The ssrc that `HandleReportBlock` asks for is the first word of the report. -/
theorem reportOf_sourceSsrc (report : Bytes) : (reportOf report).sourceSsrc = getBE32 report 0 := rfl

/-- Reports of 24 bytes that lie one behind the other are read one by one. The induction is on the
list, with the position moving along. -/
theorem readReportBlocks_flatten {packet : Bytes} {reports : List Bytes} {pos : Nat}
    (hlength : ∀ report ∈ reports, report.length = ReportBlock.kLength)
    (h : IsSlice packet pos reports.flatten) :
    (ReceiverReport.readReportBlocks packet reports.length pos).value = reports.map reportOf := by
  induction reports generalizing pos with
  | nil => rfl
  | cons report reports ih =>
      obtain ⟨hfirst, hrest⟩ := List.forall_mem_cons.mp hlength
      rw [List.flatten_cons] at h
      have hright := h.right
      rw [hfirst] at hright
      have hblock := reportBlockParse_slice h.left (i := 0) (by omega)
      rw [Nat.add_zero] at hblock
      simp only [List.length_cons, ReceiverReport.readReportBlocks, Traced.value_bind,
        Traced.value_pure, List.map_cons]
      rw [hblock, ih hrest hright, reportOf]

namespace ReportPacket

variable (p : ReportPacket)

/-- The block has the length that its length field announces. -/
theorem length_bytes : p.bytes.length = kHeaderSizeBytes + p.length.toNat * 4 := by
  have hreports : p.reports.flatten.length = p.reports.length * ReportBlock.kLength := by
    rw [List.length_flatten, List.map_congr_left p.report_length, List.map_const',
      List.sum_replicate_nat]
  have hlength := p.length_eq
  rw [kHeaderSizeBytes, hlength, ReceiverReport.kRrBaseLength]
  unfold bytes
  simp only [List.length_append, List.length_cons, List.length_nil, writeUInt16_length,
    writeUInt32_length, hreports]
  omega

/-- The length field stands in the third and fourth byte. -/
theorem getBE16_bytes : getBE16 p.bytes 2 = p.length := by
  unfold bytes
  rw [List.append_assoc, List.append_assoc]
  exact (getBE16_append_right rfl _ 0).trans (getBE16_writeUInt16 _ _)

/-- So the block is a frame of its own in a compound packet. -/
theorem isFrame : rtcpFraming.IsFrame p.bytes := by
  rw [isFrame_rtcpFraming, getBE16_bytes, length_bytes]
  exact ⟨p.version, Nat.add_comm _ _⟩

/-- The handler gets the report blocks out of it. -/
theorem blockHandled_bytes :
    blockHandled p.bytes = some (.receiverReport ⟨p.senderSsrc, p.reports.map reportOf⟩) := by
  have hcount : (CommonHeader.fromBytes p.bytes 0).countOrFmt.toNat = p.reports.length := p.count
  have hsize : (CommonHeader.fromBytes p.bytes 0).payloadSize.toNat = p.length.toNat * 4 := by
    rw [CommonHeader.payloadSize_fromBytes, Nat.zero_add, getBE16_bytes]
  have hsender : getBE32 p.bytes (CommonHeader.fromBytes p.bytes 0).payload = p.senderSsrc := by
    unfold bytes
    rw [List.append_assoc]
    exact (getBE32_append_right rfl _ 0).trans (getBE32_writeUInt32 _ _)
  have hreports : IsSlice p.bytes ((CommonHeader.fromBytes p.bytes 0).payload +
      ReceiverReport.kRrBaseLength) p.reports.flatten := isSlice_append _ _ _
  have hparse : (ReceiverReport.parse p.bytes (CommonHeader.fromBytes p.bytes 0)).value
      = some ⟨p.senderSsrc, p.reports.map reportOf⟩ := by
    unfold ReceiverReport.parse
    dsimp only
    have hlength := p.length_eq
    rw [hcount, hsize, if_neg (by omega)]
    simp only [Traced.value_bind, Traced.value_pure, Traced.value_getBE32]
    rw [hsender, readReportBlocks_flatten p.report_length hreports]
  have htype : (CommonHeader.fromBytes p.bytes 0).packetType = ReceiverReport.kPacketType := rfl
  rw [blockHandled, handledBy, if_pos htype, hparse]
  rfl

end ReportPacket

/-! ### Two packets -/

section

variable (clock : Clock) (r : RTCPReceiver)

/-- A receiver report or a NACK that is for nobody here leaves the receiver in agreement with
itself: it may be parsed, but no call is made. -/
theorem agree_handleFrame_foreign {block : Bytes} (h : ForeignNack r.registeredSsrcs block) :
    Agree (handleFrame clock r block) r := by
  rw [handleFrame_eq, blockHandled_nack h.packetType h.fmt, if_pos (.inr h.packetType)]
  cases hnack : (Nack.parseTraced block (CommonHeader.fromBytes block 0)).value with
  | none => exact Agree.skip r
  | some nack =>
      have hmedia : nack.mediaSsrc ∉ r.registeredSsrcs := by
        rw [nackParse_mediaSsrc hnack]
        exact h.mediaSsrc
      have hssrc : r.isRegisteredSsrc nack.mediaSsrc = false := by
        simpa [RTCPReceiver.isRegisteredSsrc] using hmedia
      show Agree (r.handlePacketIds nack) r
      unfold RTCPReceiver.handlePacketIds
      dsimp only
      split
      · exact (Agree.push_foreign (r.push _) _ hssrc).trans (Agree.push_handled r _)
      · exact Agree.push_handled r _

/-- A report about an ssrc that is not registered does nothing at all, not even to the record. -/
theorem handleReportBlock_foreign {report : Bytes} (h : getBE32 report 0 ∉ r.registeredSsrcs) :
    r.handleReportBlock clock (reportOf report) = r := by
  have hssrc : r.isRegisteredSsrc (reportOf report).sourceSsrc = false := by
    rw [reportOf_sourceSsrc]
    simpa [RTCPReceiver.isRegisteredSsrc] using h
  rw [RTCPReceiver.handleReportBlock, hssrc]
  rfl

/-- One report about a foreign ssrc can be put into a receiver report, or taken out of it. The
other reports are read at other positions, and say the same. -/
theorem agree_handleFrame_report {p q : ReportPacket} {before after : List Bytes} {report : Bytes}
    (hp : p.reports = before ++ after) (hq : q.reports = before ++ report :: after)
    (hreport : getBE32 report 0 ∉ r.registeredSsrcs) :
    Agree (handleFrame clock r p.bytes) (handleFrame clock r q.bytes) := by
  have hpush : Agree (r.push (.handled (.receiverReport ⟨p.senderSsrc, p.reports.map reportOf⟩)))
      (r.push (.handled (.receiverReport ⟨q.senderSsrc, q.reports.map reportOf⟩))) :=
    (Agree.push_handled r _).trans (Agree.push_handled r _).symm
  have hfold : ∀ s t : RTCPReceiver, Agree s t → t.registeredSsrcs = r.registeredSsrcs →
      Agree ((p.reports.map reportOf).foldl (RTCPReceiver.handleReportBlock clock) s)
        ((q.reports.map reportOf).foldl (RTCPReceiver.handleReportBlock clock) t) := by
    intro s t h hssrcs
    rw [hp, hq, List.map_append, List.map_append, List.map_cons, List.foldl_append,
      List.foldl_append, List.foldl_cons]
    have hbefore := h.handleReportBlocks clock (before.map reportOf)
    have hssrc := (Adds.handleReportBlocks t clock (before.map reportOf)).registeredSsrcs
    rw [hssrcs] at hssrc
    refine Agree.handleReportBlocks clock (hbefore.trans ?_) _
    -- the report block for the other ssrc changes nothing
    rw [handleReportBlock_foreign clock _ (by rw [hssrc]; exact hreport)]
    exact Agree.refl _
  rw [handleFrame_eq, handleFrame_eq, p.blockHandled_bytes, q.blockHandled_bytes]
  exact hfold _ _ hpush rfl

/-- One edit of a packet leaves the receiver in agreement. The blocks in front of the edit bring
both receivers to the same state, and those behind it keep them in agreement. -/
theorem agree_of_edit {packet packet' : Bytes} (h : Edit r.registeredSsrcs packet packet') :
    Agree (r.incomingRtcpPacket clock packet).2 (r.incomingRtcpPacket clock packet').2 := by
  refine ((Agree.incomingRtcpPacket clock r packet).trans ?_).trans
    (Agree.incomingRtcpPacket clock r packet').symm
  -- the blocks before the change leave one state, and those behind it keep the agreement
  cases h with
  | nack blocks nack rest hblocks hnack =>
      rw [rtcpFraming.split_flatten hblocks, rtcpFraming.split_flatten hblocks,
        Framing.split_append hnack.frame, List.foldl_append, List.foldl_append, List.foldl_cons]
      refine Agree.handleFrames clock (Agree.symm (agree_handleFrame_foreign clock _ ?_)) _
      rw [(adds_handleFrames clock r hblocks).registeredSsrcs]
      exact hnack
  | report blocks p q before after report rest hblocks hp hq _ _ hreport =>
      rw [rtcpFraming.split_flatten hblocks, rtcpFraming.split_flatten hblocks,
        Framing.split_append p.isFrame, Framing.split_append q.isFrame, List.foldl_append,
        List.foldl_append, List.foldl_cons, List.foldl_cons]
      refine Agree.handleFrames clock (agree_handleFrame_report clock _ hp hq ?_) _
      rw [(adds_handleFrames clock r hblocks).registeredSsrcs]
      exact hreport

end

/-- Packets that differ in feedback for other ssrcs, inserted and deleted any number of
times. -/
abbrev SameOwnFeedback (ssrcs : List UInt32) : Bytes → Bytes → Prop := Relation.EqvGen (Edit ssrcs)

/-- So do any number of edits, by induction on their sequence. The registered ssrcs are those of
the receiver before the first packet. -/
theorem agree_of_sameOwnFeedback (clock : Clock) (r : RTCPReceiver) {packet packet' : Bytes}
    (h : SameOwnFeedback r.registeredSsrcs packet packet') :
    Agree (r.incomingRtcpPacket clock packet).2 (r.incomingRtcpPacket clock packet').2 := by
  induction h with
  | rel _ _ h => exact agree_of_edit clock r h
  | refl _ => exact Agree.refl _
  | symm _ _ _ ih => exact ih.symm
  | trans _ _ _ _ _ ih ih' => exact ih.trans ih'

/-- The calls that a packet makes, with their ssrcs. -/
def newCalls (clock : Clock) (r : RTCPReceiver) (packet : Bytes) : List (UInt32 × ObserverCall) :=
  (callsIn (r.incomingRtcpPacket clock packet).2.log).drop (callsIn r.log).length

/-- All calls that a packet makes are for registered ssrcs. -/
def Filtered (clock : Clock) (r : RTCPReceiver) (packet : Bytes) : Prop :=
  ∀ call ∈ newCalls clock r packet, call.1 ∈ r.registeredSsrcs

/-- The packet has a NACK for an ssrc that is not registered, and it is long enough for
`HandleNack`. -/
def HasForeignNack (ssrcs : List UInt32) (packet : Bytes) : Prop :=
  ∃ block ∈ (rtcpFraming.split packet).1, ReceivedForeign ssrcs block

section

variable (clock : Clock) (r : RTCPReceiver)

/-- A whole packet adds only own calls, unless there is a foreign NACK in it and an observer. A
packet that is no compound packet is dropped as it comes. -/
theorem adds_incomingRtcpPacket (packet : Bytes) :
    Adds r (r.incomingRtcpPacket clock packet).2
      (r.hasObserver = true → ¬ HasForeignNack r.registeredSsrcs packet) := by
  have hblocks := adds_handleFrames clock r (rtcpFraming.split_spec packet).1
  have hforeign : (r.hasObserver = true → ∀ block ∈ (rtcpFraming.split packet).1,
      ¬ ReceivedForeign r.registeredSsrcs block) ↔
      (r.hasObserver = true → ¬ HasForeignNack r.registeredSsrcs packet) := by
    unfold HasForeignNack
    simp only [not_exists, not_and]
  rw [incomingRtcpPacket_eq]
  dsimp only
  split
  · exact hblocks.congr hforeign
  · exact (hblocks.trans (Adds.skip _)).congr ((and_iff_left trivial).trans hforeign)

/-- The calls after a packet are those before it, followed by the new ones. -/
theorem callsIn_incomingRtcpPacket (packet : Bytes) :
    callsIn (r.incomingRtcpPacket clock packet).2.log
      = callsIn r.log ++ newCalls clock r packet := by
  obtain ⟨calls, hcalls, -⟩ := (adds_incomingRtcpPacket clock r packet).calls
  unfold newCalls
  rw [hcalls, List.drop_left' rfl]

/-- For one packet: the calls for it are all own ones if and only if it has no NACK for a foreign
ssrc, or nobody is there to be called. -/
theorem filtered_iff (packet : Bytes) :
    Filtered clock r packet ↔
      (r.hasObserver = true → ¬ HasForeignNack r.registeredSsrcs packet) := by
  obtain ⟨calls, hcalls, hok⟩ := (adds_incomingRtcpPacket clock r packet).calls
  rw [callsIn_incomingRtcpPacket] at hcalls
  rw [Filtered, List.append_cancel_left hcalls, hok]

/-- Where a packet is filtered, all of its calls are own calls. -/
theorem ownCalls_of_filtered {packet : Bytes} (h : Filtered clock r packet) :
    ownCalls (r.incomingRtcpPacket clock packet).2 = ownCalls r ++ newCalls clock r packet := by
  have hregistered : (fun call : UInt32 × ObserverCall =>
      (r.incomingRtcpPacket clock packet).2.isRegisteredSsrc call.1)
        = fun call => r.isRegisteredSsrc call.1 := by
    unfold RTCPReceiver.isRegisteredSsrc
    rw [(adds_incomingRtcpPacket clock r packet).registeredSsrcs]
  have hnew : (newCalls clock r packet).filter (fun call => r.isRegisteredSsrc call.1)
      = newCalls clock r packet :=
    List.filter_eq_self.mpr fun call hcall => List.contains_iff_mem.mpr (h call hcall)
  unfold ownCalls
  rw [hregistered, callsIn_incomingRtcpPacket, List.filter_append, hnew]

/-- What is expected of two packets that differ in feedback for other ssrcs: their calls are
for registered ssrcs, and they are the same. -/
structure FeedbackFiltered (packet packet' : Bytes) : Prop where
  filtered : Filtered clock r packet
  filtered' : Filtered clock r packet'
  calls : (newCalls clock r packet).map Prod.snd = (newCalls clock r packet').map Prod.snd

/-- Feedback for other ssrcs makes no difference exactly if there is no observer, or neither
of the packets has a NACK for another ssrc that `HandleNack` gets through. -/
theorem feedback_filtered_iff {packet packet' : Bytes}
    (h : SameOwnFeedback r.registeredSsrcs packet packet') :
    FeedbackFiltered clock r packet packet' ↔
      (r.hasObserver = true → ¬ HasForeignNack r.registeredSsrcs packet ∧
        ¬ HasForeignNack r.registeredSsrcs packet') := by
  constructor
  · rintro ⟨hfiltered, hfiltered', -⟩ hobserver
    exact ⟨(filtered_iff clock r packet).mp hfiltered hobserver,
      (filtered_iff clock r packet').mp hfiltered' hobserver⟩
  · intro hforeign
    have hfiltered := (filtered_iff clock r packet).mpr fun hobserver => (hforeign hobserver).1
    have hfiltered' := (filtered_iff clock r packet').mpr fun hobserver => (hforeign hobserver).2
    -- the calls for registered ssrcs are all there are
    have hown := (agree_of_sameOwnFeedback clock r h).ownCalls
    rw [ownCalls_of_filtered clock r hfiltered, ownCalls_of_filtered clock r hfiltered'] at hown
    exact ⟨hfiltered, hfiltered', congrArg _ (List.append_cancel_left hown)⟩

end

/-- A receiver of ssrc 1, with an observer. -/
def videoReceiver : RTCPReceiver :=
  .new { audio := false, localMediaSsrc := 1, clockRate := 90000, rtcpReportIntervalMs := 1000 } true

/-- A clock that stands still. -/
def stoppedClock : Clock := ⟨fun _ => 0, fun _ => (0, 0)⟩

/-- The packets with nothing, and with one NACK for another ssrc. -/
theorem sameOwnFeedback_nack {ssrcs : List UInt32} {nack : Bytes} (h : ForeignNack ssrcs nack) :
    SameOwnFeedback ssrcs [] nack := by
  have hedit := Edit.nack [] nack [] (fun _ h => nomatch h) h
  rw [List.append_nil nack] at hedit
  exact .rel _ _ hedit

/-- A foreign NACK that comes alone is the only block of its packet. -/
theorem split_nack {ssrcs : List UInt32} {nack : Bytes} (h : ForeignNack ssrcs nack) :
    (rtcpFraming.split nack).1 = [nack] := by
  have hsplit := Framing.split_append h.frame []
  rw [List.append_nil, Framing.split_of_none Framing.next_nil] at hsplit
  rw [hsplit]

/-- A NACK from ssrc 7 for packet 5 of ssrc 2. -/
def otherNack : Bytes := [0x81, 205, 0, 3, 0, 0, 0, 7, 0, 0, 0, 2, 0, 5, 0, 0]

/-- The example is a foreign NACK: it is a frame, and its media ssrc is not registered. -/
theorem otherNack_foreign : ForeignNack videoReceiver.registeredSsrcs otherNack where
  frame := isFrame_rtcpFraming.mpr (by decide)
  packetType := rfl
  fmt := by decide
  length := by decide
  mediaSsrc := by decide

/-- The observer is called for a packet that is only the NACK, and not for no packet. -/
theorem otherNack_not_filtered :
    SameOwnFeedback videoReceiver.registeredSsrcs [] otherNack ∧
      ¬ FeedbackFiltered stoppedClock videoReceiver [] otherNack := by
  refine ⟨sameOwnFeedback_nack otherNack_foreign, fun h => ?_⟩
  refine (filtered_iff _ _ _).mp h.filtered' rfl ⟨otherNack, ?_, otherNack_foreign, by decide⟩
  rw [split_nack otherNack_foreign]
  exact List.mem_singleton_self otherNack

/-- The same NACK without the packet it asks for. -/
def emptyNack : Bytes := [0x81, 205, 0, 2, 0, 0, 0, 7, 0, 0, 0, 2]

/-- The example without items is a foreign NACK as well. -/
theorem emptyNack_foreign : ForeignNack videoReceiver.registeredSsrcs emptyNack where
  frame := isFrame_rtcpFraming.mpr (by decide)
  packetType := rfl
  fmt := by decide
  length := by decide
  mediaSsrc := by decide

/-- `Nack::Parse` wants an item, and so this NACK makes no difference. -/
theorem emptyNack_filtered : FeedbackFiltered stoppedClock videoReceiver [] emptyNack := by
  refine (feedback_filtered_iff _ _ (sameOwnFeedback_nack emptyNack_foreign)).mpr fun _ => ⟨?_, ?_⟩
  · rintro ⟨block, hblock, -⟩
    rw [Framing.split_of_none Framing.next_nil] at hblock
    exact nomatch hblock
  · rintro ⟨block, hblock, -, hlength⟩
    rw [split_nack emptyNack_foreign, List.mem_singleton] at hblock
    rw [hblock] at hlength
    exact absurd hlength (by decide)

end Xrtc.Proofs.Sdk
