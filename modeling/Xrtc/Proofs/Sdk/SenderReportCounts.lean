import Xrtc.Proofs.Sdk.Retransmission
import Xrtc.Proofs.Sdk.SenderReports
import Xrtc.Sdk.VideoCall

/-!
# `Xrtc.Proofs.Sdk.SenderReportCounts`: the counters of a sender report

`SendEncodedImage` counts every packet before it sends it. `OnNackReceived` sends its
packets without counting them, although `GetFeedbackState` adds a counter for them. So the
counters are those of the media packets alone (`Counted`), and that is what every report
carries (`ReportsMedia`). A report is right as long as no NACK asked for a packet that is
in the cache (`reports_count_iff`). `retransmitted_notCounted` shows a NACK after which one
is wrong.
-/

set_option autoImplicit false

namespace Xrtc.Proofs.Sdk

open Xrtc.Lib
open Xrtc.Sdk

/-! ### What was sent -/

/-- The packets of `SendEncodedImage`. -/
def mediaOf (sent : List SentPacket) : List RtpPacket :=
  sent.filterMap fun
    | .media packet => some packet
    | _ => none

/-- The packets of `OnNackReceived`. -/
def rtxOf (sent : List SentPacket) : List RtpPacket :=
  sent.filterMap fun
    | .rtx packet => some packet
    | _ => none

/-- Media packets are added to the media. -/
theorem mediaOf_append_media (sent : List SentPacket) (packets : List RtpPacket) :
    mediaOf (sent ++ packets.map .media) = mediaOf sent ++ packets := by
  simp [mediaOf, List.filterMap_append, List.filterMap_map]

/-- Retransmissions are no media. -/
theorem mediaOf_append_rtx (sent : List SentPacket) (packets : List RtpPacket) :
    mediaOf (sent ++ packets.map .rtx) = mediaOf sent := by
  simp [mediaOf, List.filterMap_append, List.filterMap_map]

/-- Media packets are no retransmissions. -/
theorem rtxOf_append_media (sent : List SentPacket) (packets : List RtpPacket) :
    rtxOf (sent ++ packets.map .media) = rtxOf sent := by
  simp [rtxOf, List.filterMap_append, List.filterMap_map]

/-- Retransmissions are added to the retransmissions. -/
theorem rtxOf_append_rtx (sent : List SentPacket) (packets : List RtpPacket) :
    rtxOf (sent ++ packets.map .rtx) = rtxOf sent ++ packets := by
  simp [rtxOf, List.filterMap_append, List.filterMap_map]

/-- What goes out for a report is a report. -/
theorem mem_reports {pc : PeerConnection} {reports : List LocalRtcpPacket} {x : SentPacket}
    (hx : x ∈ reports.flatMap (VideoCall.onLocalRtcpPacket pc)) :
    ∃ report ∈ reports, x = .rtcp report := by
  obtain ⟨report, hreport, hlocal⟩ := List.mem_flatMap.mp hx
  unfold VideoCall.onLocalRtcpPacket at hlocal
  split at hlocal
  · cases hlocal
  · exact ⟨report, hreport, List.mem_singleton.mp hlocal⟩

/-- Behind what was sent before, reports add nothing to a stream of other packets. -/
theorem filterMap_append_reports {β : Type} {f : SentPacket → Option β}
    (hf : ∀ report, f (.rtcp report) = none) (sent : List SentPacket) (pc : PeerConnection)
    (reports : List LocalRtcpPacket) :
    (sent ++ reports.flatMap (VideoCall.onLocalRtcpPacket pc)).filterMap f = sent.filterMap f := by
  have hnone : (reports.flatMap (VideoCall.onLocalRtcpPacket pc)).filterMap f = [] := by
    refine List.filterMap_eq_nil_iff.mpr ?_
    intro packet hpacket
    obtain ⟨report, -, rfl⟩ := mem_reports hpacket
    exact hf report
  rw [List.filterMap_append, hnone, List.append_nil]

/-- Reports are no media. -/
theorem mediaOf_append_reports (sent : List SentPacket) (pc : PeerConnection)
    (reports : List LocalRtcpPacket) :
    mediaOf (sent ++ reports.flatMap (VideoCall.onLocalRtcpPacket pc)) = mediaOf sent :=
  filterMap_append_reports (fun _ => rfl) sent pc reports

/-- And no retransmissions. -/
theorem rtxOf_append_reports (sent : List SentPacket) (pc : PeerConnection)
    (reports : List LocalRtcpPacket) :
    rtxOf (sent ++ reports.flatMap (VideoCall.onLocalRtcpPacket pc)) = rtxOf sent :=
  filterMap_append_reports (fun _ => rfl) sent pc reports

/-- The payload bytes of packets. -/
def octets (packets : List RtpPacket) : Nat := (packets.map (·.payload.length)).sum

/-- The packet count of a sender report. -/
def packetCount (report : LocalRtcpPacket) : UInt32 := getBE32 report.data 20

/-- The octet count of a sender report. -/
def octetCount (report : LocalRtcpPacket) : UInt32 := getBE32 report.data 24

/-- `P` holds of every report, with what was sent before it. -/
def EachReport (P : List SentPacket → LocalRtcpPacket → Prop) (sent : List SentPacket) : Prop :=
  ∀ before report after, sent = before ++ .rtcp report :: after → P before report

/-- A report counts the media packets and the packets that were sent again. -/
def CountsSent (before : List SentPacket) (report : LocalRtcpPacket) : Prop :=
  packetCount report = UInt32.ofNat ((mediaOf before).length + (rtxOf before).length) ∧
    octetCount report = UInt32.ofNat (octets (mediaOf before) + octets (rtxOf before))

/-- A report counts the media packets. -/
def CountsMedia (before : List SentPacket) (report : LocalRtcpPacket) : Prop :=
  packetCount report = UInt32.ofNat (mediaOf before).length ∧
    octetCount report = UInt32.ofNat (octets (mediaOf before))

/-- What holds of every report that was sent holds with more packets, if it holds of the reports
among them, each with all that was sent before it. -/
theorem EachReport.append {P : List SentPacket → LocalRtcpPacket → Prop}
    {sent packets : List SentPacket} (h : EachReport P sent)
    (hpackets : ∀ before report after, packets = before ++ .rtcp report :: after →
      P (sent ++ before) report) :
    EachReport P (sent ++ packets) := by
  intro before report after heq
  obtain ⟨middle, hbefore, hrest⟩ | ⟨middle, hsent, hrest⟩ := List.append_eq_append_iff.mp heq
  · rw [hbefore]
    exact hpackets middle report after hrest
  · cases middle with
    | nil =>
        rw [List.append_nil] at hsent
        rw [← hsent, ← List.append_nil sent]
        exact hpackets [] report after hrest.symm
    | cons first middle =>
        cases hrest
        exact h before report middle hsent

/-- A 32-bit count is the same again exactly if a multiple of `2 ^ 32` was added. -/
theorem ofNat_eq_add_iff (a b : Nat) : UInt32.ofNat a = UInt32.ofNat (a + b) ↔ 2 ^ 32 ∣ b := by
  rw [← UInt32.toNat_inj, UInt32.toNat_ofNat', UInt32.toNat_ofNat']
  omega

/-- A report that counts the media packets counts all packets exactly if the others do not
show in 32 bits. -/
theorem CountsMedia.countsSent_iff {before : List SentPacket} {report : LocalRtcpPacket}
    (h : CountsMedia before report) :
    CountsSent before report ↔
      2 ^ 32 ∣ (rtxOf before).length ∧ 2 ^ 32 ∣ octets (rtxOf before) := by
  unfold CountsSent
  rw [h.1, h.2, ofNat_eq_add_iff, ofNat_eq_add_iff]

/-! ### The counters of the module -/

/-- The two counters in the bytes of a sender report. -/
theorem counts_bytes (time : Int) (sr : SenderReport) :
    packetCount ⟨time, sr.bytes⟩ = sr.sendPacketCount ∧
      octetCount ⟨time, sr.bytes⟩ = sr.sendPacketOctet := by
  have hhead : (createHeader 0 200 sr.headerLength ++ writeUInt32 sr.senderSsrc ++
      writeUInt32 sr.ntpTime.1 ++ writeUInt32 sr.ntpTime.2 ++
      writeUInt32 sr.rtpTimestamp).length = 20 := by
    simp [createHeader]
  constructor
  · show getBE32 sr.bytes (20 + 0) = _
    unfold SenderReport.bytes
    rw [List.append_assoc, getBE32_append_right hhead, getBE32_writeUInt32]
  · show getBE32 sr.bytes (20 + (4 + 0)) = _
    unfold SenderReport.bytes
    rw [List.append_assoc, getBE32_append_right hhead,
      getBE32_append_right (writeUInt32_length _), ← List.append_nil (writeUInt32 sr.sendPacketOctet),
      getBE32_writeUInt32]

/-- A report of the counters that the module has. -/
def CountsModule (m : ModuleRtpRtcp) (report : LocalRtcpPacket) : Prop :=
  packetCount report = m.getFeedbackState.packetsSent ∧
    octetCount report = UInt32.ofNat m.getFeedbackState.mediaBytesSent.toNat

/-- A report that is built has the counts of the module. -/
theorem countsModule_of_buildSr {clock : Clock} {m : ModuleRtpRtcp} {now time : Int}
    {sr : SenderReport} (h : m.rtcpSender.buildSr clock m.getFeedbackState now = some sr) :
    CountsModule m ⟨time, sr.bytes⟩ := by
  obtain ⟨captureTime, -, hsr⟩ := Option.bind_eq_some_iff.mp h
  cases hsr
  exact counts_bytes time _

/-- The module between two calls, for reports every second. -/
structure Awake (m : ModuleRtpRtcp) : Prop where
  ready : Ready 1000 m
  nextTime : ∃ t, m.rtcpSender.nextTimeToSendRtcp = some t

variable {clock : Clock} {rand : Nat → Int → Int → Int}

/-- A frame or a task sends at most one report, of the counters that the module has, and
counts nothing. -/
theorem handle_counts (clock : Clock) (hrand : RandWithin rand (timeToNextBounds 1000))
    {m : ModuleRtpRtcp}
    (h : Awake m) (e : ModuleRtpRtcp.Event) (fuel : Nat) :
    ∃ reports m', m.handle clock rand (fuel + 1) e = some (reports, m') ∧ Awake m' ∧
      m'.rtpStats = m.rtpStats ∧ m'.rtxRtpStats = m.rtxRtpStats ∧
      (reports = [] ∨ ∃ report, reports = [report] ∧ CountsModule m report) := by
  obtain ⟨t, hnext⟩ := h.nextTime
  cases hasks : asks clock m e with
  | none =>
      -- the event does not ask for a report
      obtain ⟨-, m', hm', hsame⟩ := handle_quiet rand hasks (fuel + 1)
      have hawake : Awake m' :=
        ⟨h.ready.of_rtcpSender hsame.rtcpSender, t, hsame.rtcpSender ▸ hnext⟩
      exact ⟨[], m', hm', hawake, hsame.rtpStats, hsame.rtxRtpStats, Or.inl rfl⟩
  | some pair =>
      obtain ⟨keyFrame, asked⟩ := pair
      obtain ⟨-, hasked⟩ := asks_spec hasks
      have hready : Ready 1000 asked := hasked.ready h.ready
      have hread : Ready 1000 (read asked) := hready.of_rtcpSender rfl
      have hnext' := hasked.nextTime.trans hnext
      rw [handle_asks rand hasks (fuel + 1)]
      obtain ⟨hsend, -⟩ | ⟨-, -, sr, hsr, hsend⟩ := sendIfTime_cases hready hnext'
        (timeToNext_ne (by decide) hrand (read asked)) fuel keyFrame
      · exact ⟨[], _, hsend, ⟨hread, t, hnext'⟩, hasked.rtpStats, hasked.rtxRtpStats, Or.inl rfl⟩
      · -- asking reads the clock and nothing else, so the report has the counts of before
        have hcounts : CountsModule asked
            ⟨clock.reading (asked.readings + 1), sr.bytes⟩ := countsModule_of_buildSr hsr
        unfold CountsModule ModuleRtpRtcp.getFeedbackState at hcounts
        rw [hasked.rtpStats, hasked.rtxRtpStats] at hcounts
        exact ⟨_, _, hsend, ⟨ready_afterReport clock hread _, _, rfl⟩, hasked.rtpStats,
          hasked.rtxRtpStats, Or.inr ⟨_, rfl, hcounts⟩⟩

/-! ### The connection -/

/-- A connected connection that has a video stream. -/
structure Sends (pc : PeerConnection) : Prop where
  connected : pc.pcState = .connected
  stream : pc.videoSendStream.isSome

/-- A connection that sends goes on to do so after an image. -/
theorem Sends.sendEncodedImage {pc pc' : PeerConnection} {frame : MediaFrame}
    {packets : List RtpPacket} (h : Sends pc)
    (hsend : pc.sendEncodedImage frame = some (packets, pc')) : Sends pc' := by
  rw [PeerConnection.sendEncodedImage, if_neg (not_not_intro h.connected)] at hsend
  obtain ⟨packetizer, hnew, hloop⟩ := Option.bind_eq_some_iff.mp hsend
  obtain ⟨payloads, hdrain, -⟩ :=
    Proofs.Rtp.new_spec Proofs.Rtp.defaultLimits_usable frame.length_lt.le hnew
  -- the loop changes the numbers and the cache alone
  rw [sendLoop_eq _ _ pc hdrain] at hloop
  cases hloop
  exact ⟨h.connected, h.stream⟩

/-- It goes on to do so after a list of NACKs, by induction on the list. -/
theorem Sends.onNackReceived (nackList : List UInt16) :
    ∀ {pc pc' : PeerConnection} {packets : List RtpPacket}, Sends pc →
      pc.onNackReceived nackList = some (packets, pc') → Sends pc' := by
  induction nackList with
  | nil =>
      intro pc pc' packets h hnack
      cases hnack
      exact h
  | cons nackId nackList ih =>
      intro pc pc' packets h hnack
      rw [PeerConnection.onNackReceived] at hnack
      split at hnack
      · obtain ⟨⟨rtxPacket, stream⟩, -, hnack⟩ := Option.bind_eq_some_iff.mp hnack
        obtain ⟨⟨rest, pc''⟩, hrest, hdone⟩ := Option.bind_eq_some_iff.mp hnack
        cases hdone
        have hnext : Sends { pc with videoSendStream := some stream } := ⟨h.connected, rfl⟩
        exact ih hnext hrest
      · exact ih h hnack

/-- A NACK that asks for no packet in the cache sends nothing. -/
theorem onNackReceived_miss (nackList : List UInt16) {pc : PeerConnection}
    (h : ∀ nackId ∈ nackList, pc.findVideoCache nackId = none) :
    pc.onNackReceived nackList = some ([], pc) := by
  induction nackList with
  | nil => rfl
  | cons nackId nackList ih =>
      rw [PeerConnection.onNackReceived, h nackId List.mem_cons_self]
      exact ih fun nackId' hmem => h nackId' (List.mem_cons_of_mem nackId hmem)

/-! ### Runs -/

/-- The counters of the module are those of the media packets, and so are the reports. -/
structure Counted (s : VideoCall) : Prop where
  sends : Sends s.pc
  awake : Awake s.m
  packets : s.m.rtpStats.transmitted.packets = UInt32.ofNat (mediaOf s.sent).length
  payloadBytes :
    s.m.rtpStats.transmitted.payloadBytes = UInt64.ofNat (octets (mediaOf s.sent))
  rtx : s.m.rtxRtpStats = {}
  reports : EachReport CountsMedia s.sent

/-- What a call of the module hands to the connection: no report, or one that counts what the
module has counted. It adds no media. -/
theorem Counted.reported {s : VideoCall} (h : Counted s) {reports : List LocalRtcpPacket}
    (hreports : reports = [] ∨ ∃ report, reports = [report] ∧ CountsModule s.m report) :
    mediaOf (s.sent ++ reports.flatMap (VideoCall.onLocalRtcpPacket s.pc)) = mediaOf s.sent ∧
      EachReport CountsMedia
        (s.sent ++ reports.flatMap (VideoCall.onLocalRtcpPacket s.pc)) := by
  obtain rfl | ⟨report, rfl, hreport⟩ := hreports
  · rw [List.flatMap_nil, List.append_nil]
    exact ⟨rfl, h.reports⟩
  · have hsent : [report].flatMap (VideoCall.onLocalRtcpPacket s.pc) = [.rtcp report] := by
      rw [List.flatMap_singleton, VideoCall.onLocalRtcpPacket,
        if_neg (not_not_intro h.sends.connected)]
    -- the counters of the retransmissions are zero, so the sums are those of the media
    have hmedia : CountsMedia s.sent report := by
      obtain ⟨hpackets, hbytes⟩ := hreport
      unfold ModuleRtpRtcp.getFeedbackState at hpackets hbytes
      rw [h.rtx, h.packets] at hpackets
      rw [h.rtx, h.payloadBytes] at hbytes
      refine ⟨hpackets.trans (UInt32.add_zero _), hbytes.trans ?_⟩
      show UInt32.ofNat (UInt64.ofNat (octets (mediaOf s.sent)) + 0).toNat = _
      rw [UInt64.add_zero, ← UInt32.toNat_inj, UInt32.toNat_ofNat', UInt64.toNat_ofNat',
        UInt32.toNat_ofNat']
      omega
    rw [hsent]
    refine ⟨by simp [mediaOf], h.reports.append ?_⟩
    intro before other after heq
    cases before with
    | nil =>
        cases heq
        rw [List.append_nil]
        exact hmedia
    | cons first before => simp at heq

/-- The packets of a frame are counted one after the other, in 32 bits and in 64, by induction on
the packets. -/
theorem foldl_updateRtpStats (packets : List RtpPacket) : ∀ {m : ModuleRtpRtcp} {n bytes : Nat},
    m.rtpStats.transmitted.packets = UInt32.ofNat n →
    m.rtpStats.transmitted.payloadBytes = UInt64.ofNat bytes →
    ∃ stats, packets.foldl (fun m packet => m.updateRtpStats packet false false) m =
        { m with rtpStats := stats } ∧
      stats.transmitted.packets = UInt32.ofNat (n + packets.length) ∧
      stats.transmitted.payloadBytes = UInt64.ofNat (bytes + octets packets) := by
  -- on the packets; the counters are modulo their width throughout
  induction packets with
  | nil =>
      intro m n bytes hn hbytes
      exact ⟨m.rtpStats, rfl, hn, hbytes⟩
  | cons packet packets ih =>
      intro m n bytes hn hbytes
      have hn' : (m.updateRtpStats packet false false).rtpStats.transmitted.packets =
          UInt32.ofNat (n + 1) := by
        show m.rtpStats.transmitted.packets + 1 = _
        rw [hn, UInt32.ofNat_add]
        rfl
      have hbytes' : (m.updateRtpStats packet false false).rtpStats.transmitted.payloadBytes =
          UInt64.ofNat (bytes + packet.payload.length) := by
        show m.rtpStats.transmitted.payloadBytes + UInt64.ofNat packet.payload.length = _
        rw [hbytes, UInt64.ofNat_add]
      obtain ⟨stats, hfold, hpackets, hpayload⟩ := ih hn' hbytes'
      refine ⟨stats, hfold, ?_, ?_⟩
      · rw [hpackets, List.length_cons]
        congr 1
        omega
      · rw [hpayload, octets, octets, List.map_cons, List.sum_cons, Nat.add_assoc]

/-- RTP packets are no reports, so nothing is to be shown for them. -/
theorem EachReport.append_packets {P : List SentPacket → LocalRtcpPacket → Prop}
    {sent : List SentPacket} (h : EachReport P sent) {packets : List RtpPacket}
    {tag : RtpPacket → SentPacket} (htag : ∀ packet report, tag packet ≠ .rtcp report) :
    EachReport P (sent ++ packets.map tag) := by
  refine h.append ?_
  intro before report after heq
  have hmem : SentPacket.rtcp report ∈ packets.map tag := by
    rw [heq]
    exact List.mem_append_right before List.mem_cons_self
  obtain ⟨packet, -, htagged⟩ := List.mem_map.mp hmem
  exact absurd htagged (htag packet report)

/-- The octets of two lists of packets add up. -/
theorem octets_append (a b : List RtpPacket) : octets (a ++ b) = octets a + octets b := by
  simp [octets]

variable {fuel : Nat}

/-- `SendEncodedImage` sends a report before the packets, which are counted. -/
theorem sendEncodedImage_split {s s' : VideoCall} (hsends : Sends s.pc) {frame : MediaFrame}
    {captureTimeMs : Int} {idr : Bool}
    (hstep : s.sendEncodedImage clock rand fuel frame captureTimeMs idr = some s') :
    ∃ reports m packets pc,
      s.m.handle clock rand fuel (.frame (frame.ts * 90) captureTimeMs idr) = some (reports, m) ∧
      s.pc.sendEncodedImage frame = some (packets, pc) ∧
      s' = {
        pc
        m := packets.foldl (fun m packet => m.updateRtpStats packet false false) m
        sent := s.sent ++ reports.flatMap (VideoCall.onLocalRtcpPacket s.pc) ++
          packets.map .media } := by
  rw [VideoCall.sendEncodedImage, if_neg (not_not_intro hsends.connected)] at hstep
  simp only [if_pos hsends.stream] at hstep
  obtain ⟨⟨reports, m⟩, hframe, hsend⟩ := Option.bind_eq_some_iff.mp hstep
  obtain ⟨⟨packets, pc⟩, himage, hdone⟩ := Option.bind_eq_some_iff.mp hsend
  cases hdone
  exact ⟨reports, m, packets, pc, hframe, himage, rfl⟩

/-- One event keeps the counts right: images are counted as they are sent, and packets that are
sent again are not. -/
theorem Counted.step (hrand : RandWithin rand (timeToNextBounds 1000)) {s s' : VideoCall}
    (h : Counted s) {e : VideoCall.Event} (hstep : s.step clock rand (fuel + 1) e = some s') :
    Counted s' := by
  cases e with
  | image frame captureTimeMs idr =>
      obtain ⟨reports, m, hm, hawake, hstats, hrtx, hreports⟩ :=
        handle_counts clock hrand h.awake (.frame (frame.ts * 90) captureTimeMs idr) fuel
      obtain ⟨hmedia, hsent⟩ := h.reported hreports
      obtain ⟨reports', m', packets, pc, hframe, himage, rfl⟩ :=
        sendEncodedImage_split h.sends hstep
      cases hframe.symm.trans hm
      -- the report comes before the packets of the frame
      obtain ⟨stats, hfold, hcount, hbytes⟩ := foldl_updateRtpStats packets (m := m)
        (hstats ▸ h.packets) (hstats ▸ h.payloadBytes)
      rw [hfold]
      exact {
        sends := h.sends.sendEncodedImage himage
        awake := ⟨hawake.ready.of_rtcpSender rfl, hawake.nextTime⟩
        packets := by
          rw [mediaOf_append_media, hmedia, List.length_append]
          exact hcount
        payloadBytes := by
          rw [mediaOf_append_media, hmedia, octets_append]
          exact hbytes
        rtx := hrtx.trans h.rtx
        reports := hsent.append_packets fun _ _ htag => by cases htag }
  | nack nackList =>
      obtain ⟨⟨packets, pc⟩, hnack, hdone⟩ := Option.bind_eq_some_iff.mp hstep
      cases hdone
      exact {
        sends := h.sends.onNackReceived nackList hnack
        awake := h.awake
        packets := by rw [mediaOf_append_rtx]; exact h.packets
        payloadBytes := by rw [mediaOf_append_rtx]; exact h.payloadBytes
        rtx := h.rtx
        reports := h.reports.append_packets fun _ _ htag => by cases htag }
  | task index =>
      obtain ⟨reports, m, hm, hawake, hstats, hrtx, hreports⟩ :=
        handle_counts clock hrand h.awake (.task index) fuel
      obtain ⟨hmedia, hsent⟩ := h.reported hreports
      obtain ⟨⟨reports', m'⟩, hfire, hdone⟩ := Option.bind_eq_some_iff.mp hstep
      cases hfire.symm.trans hm
      cases hdone
      exact {
        sends := h.sends
        awake := hawake
        packets := by rw [hmedia, hstats]; exact h.packets
        payloadBytes := by rw [hmedia, hstats]; exact h.payloadBytes
        rtx := hrtx.trans h.rtx
        reports := hsent }

/-- A connection starts with nothing sent. -/
theorem counted_start (clock : Clock) (rand : Nat → Int → Int → Int) {pc : PeerConnection}
    (hpc : Sends pc) (ssrc : UInt32) (fuel : Nat) :
    ∃ m, VideoCall.start clock rand fuel pc ssrc = some { pc, m } ∧ Counted { pc, m } := by
  have haudio : (createRtpRtcpModule ssrc).audio = false := rfl
  have hinterval : 2 ≤ (createRtpRtcpModule ssrc).rtcpReportIntervalMs := by
    show (2 : Int) ≤ 1000
    decide
  have hmode : RtcpMode.compound ≠ .off := by decide
  obtain ⟨m, hstart, hready, hnext, -, hstats, hrtx⟩ :=
    start_spec clock rand haudio hinterval hmode fuel
  refine ⟨m, congrArg (· >>= _) hstart, hpc, ⟨hready, hnext⟩, ?_, ?_, hrtx, ?_⟩
  · rw [hstats]
    rfl
  · rw [hstats]
    rfl
  · intro before report after heq
    simp at heq

/-- A NACK that asks for a packet in the cache is the only step that sends a packet without
counting it. -/
def NackMisses (s : VideoCall) : VideoCall.Event → Prop
  | .image _ _ _ => True
  | .nack nackList => ∀ nackId ∈ nackList, s.pc.findVideoCache nackId = none
  | .task _ => True

/-- An event whose NACKs find nothing in the cache sends nothing again. -/
theorem rtxOf_step {s s' : VideoCall} (hsends : Sends s.pc) {e : VideoCall.Event}
    (hmiss : NackMisses s e) (hstep : s.step clock rand fuel e = some s') :
    rtxOf s'.sent = rtxOf s.sent := by
  cases e with
  | image frame captureTimeMs idr =>
      obtain ⟨reports, m, packets, pc, -, -, rfl⟩ := sendEncodedImage_split hsends hstep
      rw [rtxOf_append_media, rtxOf_append_reports]
  | nack nackList =>
      obtain ⟨⟨packets, pc⟩, hnack, hdone⟩ := Option.bind_eq_some_iff.mp hstep
      cases hnack.symm.trans (onNackReceived_miss nackList hmiss)
      cases hdone
      exact congrArg rtxOf (List.append_nil s.sent)
  | task index =>
      obtain ⟨⟨reports, m⟩, -, hdone⟩ := Option.bind_eq_some_iff.mp hstep
      cases hdone
      exact rtxOf_append_reports s.sent s.pc reports

/-- The counters of the reports of a connection that sends video. Along a run in which no
NACK asks for a packet in the cache, every report counts all that was sent before it. In any
run, a report does so exactly if the packets that were sent again before it do not show in
32 bits. -/
theorem reports_count_iff (hrand : RandWithin rand (timeToNextBounds 1000)) {pc : PeerConnection}
    (hconnected : pc.pcState = .connected) (hstream : pc.videoSendStream.isSome) (ssrc : UInt32)
    (events : List VideoCall.Event) :
    ∃ start, VideoCall.start clock rand (fuel + 1) pc ssrc = some start ∧
      (StepsPartial (VideoCall.step clock rand (fuel + 1)) NackMisses start events →
        AlwaysPartial (VideoCall.step clock rand (fuel + 1))
          (fun s => EachReport CountsSent s.sent) start events) ∧
      ∀ s, runPartial (VideoCall.step clock rand (fuel + 1)) start events = some s →
        EachReport (fun before report => CountsSent before report ↔
          2 ^ 32 ∣ (rtxOf before).length ∧ 2 ^ 32 ∣ octets (rtxOf before)) s.sent := by
  obtain ⟨m, hstart, hcounted⟩ := counted_start clock rand ⟨hconnected, hstream⟩ ssrc (fuel + 1)
  refine ⟨_, hstart, ?_, ?_⟩
  · intro hmiss
    -- nothing is sent again along such a run
    have halways : AlwaysPartial (VideoCall.step clock rand (fuel + 1))
        (fun s => Counted s ∧ rtxOf s.sent = []) { pc, m } events := by
      refine alwaysPartial_of_steps ?_ ⟨hcounted, rfl⟩ hmiss
      intro s e s' hstep hs hok
      exact ⟨hs.1.step hrand hstep, (rtxOf_step hs.1.sends hok hstep).trans hs.2⟩
    refine halways.imp ?_
    rintro s ⟨hs, hrtx⟩ before report after hsent
    rw [(hs.reports before report after hsent).countsSent_iff]
    have hnone : rtxOf before = [] := by
      rw [hsent, rtxOf, List.filterMap_append] at hrtx
      exact (List.append_eq_nil_iff.mp hrtx).1
    rw [hnone]
    exact ⟨dvd_zero _, dvd_zero _⟩
  · intro s hrun before report after hsent
    have hs := invariant_of_runPartial (fun s e s' hstep hs => hs.step hrand hstep) hcounted hrun
    exact (hs.reports before report after hsent).countsSent_iff

/-- A connected connection with a video stream. -/
def sendingConnection : PeerConnection :=
  { pcState := .connected, videoPt := 107, localVideoSsrc := 11
    videoSendStream := some { rtx := ⟨12, 99⟩ } }

/-- The NACK asks for a packet that was not sent. -/
theorem missedNack_counts :
    ∃ start, VideoCall.start slowClock (fun _ low _ => low) 1 sendingConnection 11 = some start ∧
      (StepsPartial (VideoCall.step slowClock (fun _ low _ => low) 1) NackMisses start
          [.image smallImage 1 true, .nack [5]] →
        AlwaysPartial (VideoCall.step slowClock (fun _ low _ => low) 1)
          (fun s => EachReport CountsSent s.sent) start [.image smallImage 1 true, .nack [5]]) ∧
      ∀ s, runPartial (VideoCall.step slowClock (fun _ low _ => low) 1) start
          [.image smallImage 1 true, .nack [5]] = some s →
        EachReport (fun before report => CountsSent before report ↔
          2 ^ 32 ∣ (rtxOf before).length ∧ 2 ^ 32 ∣ octets (rtxOf before)) s.sent :=
  reports_count_iff (fun _ => ⟨le_refl _, by decide⟩) rfl rfl 11 _

/-- Two images, and between them a NACK for the packet of the first one. -/
def nackedImage : List VideoCall.Event :=
  [.image smallImage 1 true, .nack [1000], .image smallImage 2 true]

/-- The report before the second image: one packet with three bytes. -/
def secondReport : LocalRtcpPacket where
  time := 3200000
  data :=
    [128, 200, 0, 6, 0, 0, 0, 11, 0, 0, 0, 0, 0, 0, 0, 0, 0, 4, 114, 92, 0, 0, 0, 1, 0, 0, 0, 3]

/-- Two packets were sent before the second report. -/
theorem retransmitted_notCounted :
    ∃ start s, VideoCall.start slowClock (fun _ low _ => low) 1 sendingConnection 11 = some start ∧
      runPartial (VideoCall.step slowClock (fun _ low _ => low) 1) start nackedImage = some s ∧
      ¬ EachReport CountsSent s.sent := by
  have hsummary : (((VideoCall.start slowClock (fun _ low _ => low) 1 sendingConnection 11).bind
      fun start => runPartial (VideoCall.step slowClock (fun _ low _ => low) 1) start
        nackedImage).map fun s => (s.sent[3]?, (mediaOf (s.sent.take 3)).length +
          (rtxOf (s.sent.take 3)).length)) = some (some (.rtcp secondReport), 2) := by
    decide +kernel
  obtain ⟨s, hs, hpair⟩ := Option.map_eq_some_iff.mp hsummary
  obtain ⟨start, hstart, hrun⟩ := Option.bind_eq_some_iff.mp hs
  obtain ⟨hreport, hlength⟩ := Prod.mk.inj hpair
  obtain ⟨hlt, hget⟩ := List.getElem?_eq_some_iff.mp hreport
  have hsplit : s.sent = s.sent.take 3 ++ .rtcp secondReport :: s.sent.drop 4 := by
    rw [← hget, ← List.drop_eq_getElem_cons hlt, List.take_append_drop]
  refine ⟨start, s, hstart, hrun, ?_⟩
  intro hcounts
  have hcount := (hcounts _ _ _ hsplit).1
  rw [hlength] at hcount
  exact absurd hcount (by decide)

end Xrtc.Proofs.Sdk
