import Xrtc.Proofs.Sdk.Datagrams
import Xrtc.Proofs.Sdk.RtcpCompound
import Xrtc.Sdk.NegotiatedCall

/-!
# `Xrtc.Proofs.Sdk.WireStreams`: the streams that a call puts on the wire

A call sends three streams over one transport: its packets, the packets that NACKs ask for,
and its reports. `Reports` says that what the RTP module hands out is compound packets of
sender reports with the ssrc of the module, and it goes through the calls of the module in
each other (`reports_sendRtcp` is by induction on their number). `OnWire` is what holds of the
three streams of a call: the packets of each of the first two carry one ssrc and one payload
type, and have consecutive numbers over the whole call.

A datagram does to a call what the NACKs in it do (`call_of_onReadPacket`), so `OnWire` goes
through the events of a connection behind its transport. `streams_of_run` starts from an offer
that is accepted and the answer to it, which fix the payload types and the ssrcs of the streams.
-/

set_option autoImplicit false

namespace Xrtc.Proofs.Sdk

open Xrtc.Ice (ascii)
open Xrtc.Lib
open Xrtc.Pc (sdpFields)
open Xrtc.Rtp
open Xrtc.Sdk

/-! ### Reports -/

/-- A compound packet of sender reports from an ssrc. -/
def IsReport (ssrc : UInt32) (data : Bytes) : Prop :=
  ∃ srs, srs ≠ [] ∧ data = packetOf srs ∧ ∀ sr ∈ srs, sr.senderSsrc = ssrc

/-- A sender report behind other reports of the same ssrc makes one longer report, and behind
nothing it makes one. -/
theorem IsReport.append {ssrc : UInt32} {data : Bytes} (h : IsReport ssrc data ∨ data = [])
    {sr : SenderReport} (hssrc : sr.senderSsrc = ssrc) : IsReport ssrc (data ++ sr.bytes) := by
  have hone : packetOf [sr] = sr.bytes := List.append_nil _
  rcases h with ⟨srs, -, rfl, hall⟩ | rfl
  · refine ⟨srs ++ [sr], by simp, ?_, ?_⟩
    · rw [packetOf_append, hone]
    · intro sr' hsr'
      rcases List.mem_append.mp hsr' with hsr' | hsr'
      · exact hall sr' hsr'
      · rw [List.mem_singleton.mp hsr', hssrc]
  · exact ⟨[sr], by simp, hone.symm, by simpa using hssrc⟩

/-- The packets of a sender, the one that is not complete yet among them. -/
structure Reporting (ssrc : UInt32) (sender : PacketSender) : Prop where
  buffer : IsReport ssrc sender.buffer ∨ sender.buffer = []
  ready : ∀ data ∈ sender.ready, IsReport ssrc data

/-- `Append` keeps what the sender has to reports of its ssrc, also where the buffer was full and
has been sent. -/
theorem Reporting.append {ssrc : UInt32} {sender : PacketSender} (h : Reporting ssrc sender)
    (maxPacketSize : Nat) {sr : SenderReport} (hssrc : sr.senderSsrc = ssrc) :
    Reporting ssrc (sender.append maxPacketSize sr) := by
  have hone : IsReport ssrc sr.bytes := IsReport.append (.inr rfl) hssrc
  unfold PacketSender.append
  split
  · exact ⟨.inl (IsReport.append h.buffer hssrc), h.ready⟩
  · split
    · exact h
    · -- the buffer goes out, and the report begins the next one
      rename_i hlength
      have hready : ∀ data ∈ sender.ready ++ [sender.buffer], IsReport ssrc data := by
        intro data hdata
        rcases List.mem_append.mp hdata with hdata | hdata
        · exact h.ready data hdata
        · rw [List.mem_singleton.mp hdata]
          exact h.buffer.resolve_right fun hempty => hlength (by rw [hempty]; rfl)
      dsimp only
      split
      · exact ⟨.inl hone, hready⟩
      · exact ⟨.inr rfl, hready⟩

/-- So what `Send` hands over are such reports. -/
theorem Reporting.send {ssrc : UInt32} {sender : PacketSender} (h : Reporting ssrc sender) :
    ∀ data ∈ sender.send, IsReport ssrc data := by
  intro data hdata
  unfold PacketSender.send at hdata
  split at hdata
  · rename_i hlength
    rcases List.mem_append.mp hdata with hdata | hdata
    · exact h.ready data hdata
    · rw [List.mem_singleton.mp hdata]
      exact h.buffer.resolve_right fun hempty => by simp [hempty] at hlength
  · exact h.ready data hdata

/-- The loop over the flags only appends sender reports, each with the ssrc of the module. The
induction is on the flags. -/
theorem Reporting.buildPackets {clock : Clock} {s : RTCPSender} {feedbackState : FeedbackState}
    {now : Int} (flags : List ReportFlag) : ∀ {sender sender' : PacketSender},
    Reporting s.ssrc sender →
      s.buildPackets clock feedbackState now flags sender = some sender' →
        Reporting s.ssrc sender' := by
  induction flags with
  | nil =>
      intro sender sender' h hbuild
      cases hbuild
      exact h
  | cons flag flags ih =>
      intro sender sender' h hbuild
      obtain ⟨next, hnext, hrest⟩ := Option.bind_eq_some_iff.mp hbuild
      refine ih ?_ hrest
      dsimp only at hnext
      split at hnext
      · obtain ⟨sr, hsr, rfl⟩ := Option.map_eq_some_iff.mp hnext
        obtain ⟨captureTime, -, hsr⟩ := Option.bind_eq_some_iff.mp hsr
        cases hsr
        exact h.append s.maxPacketSize rfl
      · cases hnext
        exact h

/-- What a call of a module hands out are reports of the module, whose ssrc stays. -/
def Reports (ssrc : UInt32) (r : Option (List LocalRtcpPacket × ModuleRtpRtcp)) : Prop :=
  ∀ packets m, r = some (packets, m) →
    m.rtcpSender.ssrc = ssrc ∧ ∀ p ∈ packets, IsReport ssrc p.data

variable {ssrc : UInt32} {m : ModuleRtpRtcp} {clock : Clock} {rand : Nat → Int → Int → Int}

/-- Without a packet there is nothing to say. -/
theorem reports_nil (h : m.rtcpSender.ssrc = ssrc) : Reports ssrc (some ([], m)) := by
  intro packets m' heq
  cases heq
  exact ⟨h, fun p hp => absurd hp List.not_mem_nil⟩

section

variable {maybeSendRtcp : ModuleRtpRtcp → Option (List LocalRtcpPacket × ModuleRtpRtcp)}

/-- A new time for the next report may find that it is time already. Then what `maybe_send_rtcp`
sends are reports. -/
theorem reports_setNextRtcpSendEvaluationDuration
    (hmaybe : ∀ m, m.rtcpSender.ssrc = ssrc → Reports ssrc (maybeSendRtcp m))
    (h : m.rtcpSender.ssrc = ssrc) (duration : Int) :
    Reports ssrc (m.setNextRtcpSendEvaluationDuration clock maybeSendRtcp duration) := by
  unfold ModuleRtpRtcp.setNextRtcpSendEvaluationDuration ModuleRtpRtcp.scheduleNextRtcpSend
  dsimp only
  split
  · exact hmaybe _ h
  · exact reports_nil h

/-- The same for a new mode. -/
theorem reports_setRtcpStatus
    (hmaybe : ∀ m, m.rtcpSender.ssrc = ssrc → Reports ssrc (maybeSendRtcp m))
    (h : m.rtcpSender.ssrc = ssrc) (mode : RtcpMode) :
    Reports ssrc (m.setRtcpStatus clock maybeSendRtcp mode) := by
  intro packets m' heq
  unfold ModuleRtpRtcp.setRtcpStatus at heq
  split at heq
  · exact reports_nil h packets m' heq
  · split at heq
    · obtain ⟨⟨reports, next⟩, hnext, hdone⟩ := Option.bind_eq_some_iff.mp heq
      cases hdone
      exact reports_setNextRtcpSendEvaluationDuration hmaybe h _ _ next hnext
    · cases heq
      exact ⟨h, fun p hp => absurd hp List.not_mem_nil⟩

/-- What `ComputeCompoundRTCPPacket` builds are reports, and so is what is sent while it prepares
them. -/
theorem reports_computeReports
    (hmaybe : ∀ m, m.rtcpSender.ssrc = ssrc → Reports ssrc (maybeSendRtcp m))
    (h : m.rtcpSender.ssrc = ssrc) (feedbackState : FeedbackState) :
    Reports ssrc
      ((m.computeReports clock rand maybeSendRtcp feedbackState).map fun result => result.2) := by
  intro packets m' heq
  obtain ⟨⟨ret, result⟩, hcompute, rfl⟩ := Option.map_eq_some_iff.mp heq
  unfold ModuleRtpRtcp.computeReports at hcompute
  obtain ⟨⟨early, prepared⟩, hprepare, hcompute⟩ := Option.bind_eq_some_iff.mp hcompute
  obtain ⟨sender, hbuild, hdone⟩ := Option.bind_eq_some_iff.mp hcompute
  cases hdone
  have hprepared : prepared.rtcpSender.ssrc = ssrc ∧ ∀ p ∈ early, IsReport ssrc p.data := by
    refine reports_setNextRtcpSendEvaluationDuration hmaybe ?_ _ early prepared hprepare
    exact h
  refine ⟨hprepared.1, fun p hp => ?_⟩
  rcases List.mem_append.mp hp with hp | hp
  · exact hprepared.2 p hp
  · obtain ⟨data, hdata, rfl⟩ := List.mem_map.mp hp
    have hempty : Reporting prepared.rtcpSender.ssrc {} :=
      ⟨.inr rfl, fun data hdata => absurd hdata List.not_mem_nil⟩
    have hsent := (hempty.buildPackets _ hbuild).send data hdata
    rwa [hprepared.1] at hsent

/-- The same for `SendRTCP`, before the first RTP packet and after it. -/
theorem reports_sendRtcpWith
    (hmaybe : ∀ m, m.rtcpSender.ssrc = ssrc → Reports ssrc (maybeSendRtcp m))
    (h : m.rtcpSender.ssrc = ssrc) (feedbackState : FeedbackState) (packetType : UInt32) :
    Reports ssrc ((m.sendRtcpWith clock rand maybeSendRtcp feedbackState packetType).map
      fun result => result.2) := by
  unfold ModuleRtpRtcp.sendRtcpWith
  dsimp only
  split
  · refine reports_computeReports hmaybe ?_ feedbackState
    exact h
  · generalize ModuleRtpRtcp.withoutRtp _ = result
    obtain ⟨ret, flags⟩ := result
    cases ret with
    | some ret => exact reports_nil h
    | none =>
        refine reports_computeReports hmaybe ?_ feedbackState
        exact h

end

/-- All that `SendRTCP` hands out are reports, by induction on its calls in each other: a time
that has passed already makes it call itself again. -/
theorem reports_sendRtcp (fuel : Nat) : ∀ {m : ModuleRtpRtcp} (feedbackState : FeedbackState)
    (packetType : UInt32), m.rtcpSender.ssrc = ssrc →
      Reports ssrc ((m.sendRtcp clock rand fuel feedbackState packetType).map
        fun result => result.2) := by
  induction fuel with
  | zero =>
      intro m feedbackState packetType h packets m' heq
      cases heq
  | succ fuel ih =>
      intro m feedbackState packetType h
      rw [ModuleRtpRtcp.sendRtcp]
      refine reports_sendRtcpWith ?_ h feedbackState packetType
      -- `MaybeSendRTCP`, where a report is being prepared
      intro m h packets m' heq
      obtain ⟨⟨time, asked⟩, htime, heq⟩ := Option.bind_eq_some_iff.mp heq
      obtain ⟨nextTime, -, hasked⟩ := Option.bind_eq_some_iff.mp htime
      obtain ⟨-, rfl⟩ := Prod.mk.inj (Option.some.inj hasked)
      dsimp only at heq
      split at heq
      · obtain ⟨⟨ret, result⟩, hsend, hdone⟩ := Option.bind_eq_some_iff.mp heq
        cases hdone
        refine ih _ kRtcpReport ?_ _ _ (by rw [hsend]; rfl)
        exact h
      · cases heq
        exact ⟨h, fun p hp => absurd hp List.not_mem_nil⟩

/-- What the module sends because it is time are reports of its ssrc. The induction is on the
fuel, since sending one may find that it is time for the next. -/
theorem reports_sendIfTime (fuel : Nat) (h : m.rtcpSender.ssrc = ssrc) (keyFrame : Bool) :
    Reports ssrc (m.sendIfTime clock rand fuel keyFrame) := by
  intro packets m' heq
  unfold ModuleRtpRtcp.sendIfTime at heq
  obtain ⟨⟨time, asked⟩, htime, heq⟩ := Option.bind_eq_some_iff.mp heq
  obtain ⟨nextTime, -, hasked⟩ := Option.bind_eq_some_iff.mp htime
  obtain ⟨-, rfl⟩ := Prod.mk.inj (Option.some.inj hasked)
  dsimp only at heq
  split at heq
  · obtain ⟨⟨ret, result⟩, hsend, hdone⟩ := Option.bind_eq_some_iff.mp heq
    cases hdone
    refine reports_sendRtcp fuel _ kRtcpReport ?_ _ _ (by rw [hsend]; rfl)
    exact h
  · cases heq
    exact ⟨h, fun p hp => absurd hp List.not_mem_nil⟩

/-- What a frame sets off are reports. -/
theorem reports_onSendingRtpFrame (fuel : Nat) (h : m.rtcpSender.ssrc = ssrc)
    (rtpTimestamp : UInt32) (captureTimeMs : Int) (forcedReport : Bool) :
    Reports ssrc
      (m.onSendingRtpFrame clock rand fuel rtpTimestamp captureTimeMs forcedReport) := by
  unfold ModuleRtpRtcp.onSendingRtpFrame
  apply reports_sendIfTime
  unfold ModuleRtpRtcp.setLastRtpTimestamp
  dsimp only
  split <;> exact h

/-- What a task sets off are reports. -/
theorem reports_fireTask (fuel : Nat) (h : m.rtcpSender.ssrc = ssrc) (index : Nat) :
    Reports ssrc (m.fireTask clock rand fuel index) := by
  unfold ModuleRtpRtcp.fireTask
  split
  · exact reports_nil h
  · dsimp only
    split
    · apply reports_sendIfTime
      exact h
    · exact reports_nil h

/-- The module starts with the ssrc of its configuration, and may send before the first frame. -/
theorem reports_start (fuel : Nat) (config : Configuration) (mode : RtcpMode) :
    Reports config.localMediaSsrc (ModuleRtpRtcp.start clock rand fuel config mode) := by
  intro packets m' heq
  obtain ⟨⟨reports, next⟩, hnext, hdone⟩ := Option.bind_eq_some_iff.mp heq
  cases hdone
  exact reports_setRtcpStatus (fun m h => reports_sendIfTime fuel h false) rfl mode packets next
    hnext

/-! ### Numbers -/

/-- Packets of one payload type and one ssrc with consecutive numbers. -/
def Consecutive (payloadType : UInt8) (ssrc : UInt32) (first : UInt16) (packets : List RtpPacket) :
    Prop :=
  ∀ (i : Nat) (p : RtpPacket), packets[i]? = some p →
    p.payloadType = payloadType ∧ p.ssrc = ssrc ∧ p.sequenceNumber = first + UInt16.ofNat i

/-- No packets are numbered in order. -/
theorem consecutive_nil (payloadType : UInt8) (ssrc : UInt32) (first : UInt16) :
    Consecutive payloadType ssrc first [] := nofun

/-- Packets that go on with the number behind the last one are in order together with those before
them. -/
theorem Consecutive.append {payloadType : UInt8} {first : UInt16} {packets more : List RtpPacket}
    (h : Consecutive payloadType ssrc first packets)
    (hmore : Consecutive payloadType ssrc (first + UInt16.ofNat packets.length) more) :
    Consecutive payloadType ssrc first (packets ++ more) := by
  intro i p hp
  by_cases hi : i < packets.length
  · rw [List.getElem?_append_left hi] at hp
    exact h i p hp
  · rw [List.getElem?_append_right (by omega)] at hp
    obtain ⟨htype, hssrc, hnumber⟩ := hmore _ p hp
    refine ⟨htype, hssrc, ?_⟩
    rw [hnumber, UInt16.add_assoc, ← UInt16.ofNat_add]
    congr 2
    omega

/-- The packets of one image are numbered one after the other from the number of the connection.
-/
theorem consecutive_stamped (payloadType : UInt8) (timestamp ssrc : UInt32) (first : UInt16)
    (packets : List RtpPacketToSend) :
    Consecutive payloadType ssrc first (stamped payloadType timestamp ssrc first packets) := by
  intro i p hp
  rw [stamped_getElem?] at hp
  obtain ⟨packet, -, rfl⟩ := Option.map_eq_some_iff.mp hp
  exact ⟨rfl, rfl, rfl⟩

/-- The packets of a frame continue the numbers of the connection, which changes nothing else
but its cache. -/
theorem sendEncodedImage_consecutive {pc pc' : PeerConnection} {frame : MediaFrame}
    {packets : List RtpPacket} (hsend : pc.sendEncodedImage frame = some (packets, pc')) :
    Consecutive pc.videoPt pc.localVideoSsrc pc.videoSeq packets ∧
      ∃ cache, pc' = { pc with
        videoSeq := pc.videoSeq + UInt16.ofNat packets.length
        videoCache := cache } := by
  unfold PeerConnection.sendEncodedImage at hsend
  split at hsend
  · cases hsend
    refine ⟨consecutive_nil _ _ _, pc.videoCache, ?_⟩
    have hzero : pc.videoSeq + UInt16.ofNat 0 = pc.videoSeq := UInt16.add_zero _
    rw [List.length_nil, hzero]
  · obtain ⟨packetizer, hnew, hloop⟩ := Option.bind_eq_some_iff.mp hsend
    obtain ⟨payloads, hdrain, -⟩ :=
      Proofs.Rtp.new_spec Proofs.Rtp.defaultLimits_usable frame.length_lt.le hnew
    rw [sendLoop_eq _ _ pc hdrain] at hloop
    cases hloop
    refine ⟨consecutive_stamped _ _ _ _ _, ?_⟩
    rw [stamped_length]
    exact ⟨_, rfl⟩

/-- What a video stream has sent again, from one state of it to another. -/
inductive SendsAgain : Option VideoSendStream → Option VideoSendStream → List RtpPacket → Prop
  | none : SendsAgain none none []
  | some (stream : VideoSendStream) {packets : List RtpPacket}
      (h : Consecutive (UInt8.ofInt stream.rtx.payloadType) stream.rtx.ssrc stream.rtxSeq packets) :
      SendsAgain (some stream)
        (some { stream with rtxSeq := stream.rtxSeq + UInt16.ofNat packets.length }) packets

/-- Nothing is sent again. -/
theorem sendsAgain_nil (stream : Option VideoSendStream) : SendsAgain stream stream [] := by
  cases stream with
  | none => exact .none
  | some stream =>
      have hsame := SendsAgain.some stream (consecutive_nil _ _ _)
      have hzero : stream.rtxSeq + UInt16.ofNat 0 = stream.rtxSeq := UInt16.add_zero _
      rwa [List.length_nil, hzero] at hsame

/-- Retransmissions go on with the RTX numbers behind those before them. -/
theorem SendsAgain.append {first second third : Option VideoSendStream}
    {packets more : List RtpPacket} (h : SendsAgain first second packets)
    (hmore : SendsAgain second third more) : SendsAgain first third (packets ++ more) := by
  cases h with
  | none =>
      cases hmore
      exact .none
  | some stream h =>
      cases hmore with
      | some _ hmore =>
          have hall := SendsAgain.some stream (h.append hmore)
          rwa [List.length_append, UInt16.ofNat_add, ← UInt16.add_assoc] at hall

/-- What a stream has sent again has its numbers. -/
theorem SendsAgain.consecutive {first last : Option VideoSendStream} {packets : List RtpPacket}
    (h : SendsAgain first last packets) {stream : VideoSendStream}
    (hfirst : first = Option.some stream) :
    Consecutive (UInt8.ofInt stream.rtx.payloadType) stream.rtx.ssrc stream.rtxSeq packets := by
  subst hfirst
  cases h with
  | some _ hpackets => exact hpackets

/-- Induction on the numbers of the NACK, each of which sends one packet or none. -/
theorem onNackReceived_sendsAgain (nackList : List UInt16) : ∀ {pc pc' : PeerConnection}
    {packets : List RtpPacket}, pc.onNackReceived nackList = some (packets, pc') →
      SendsAgain pc.videoSendStream pc'.videoSendStream packets ∧
        pc' = { pc with videoSendStream := pc'.videoSendStream } := by
  induction nackList with
  | nil =>
      intro pc pc' packets hnack
      cases hnack
      exact ⟨sendsAgain_nil _, rfl⟩
  | cons nackId nackList ih =>
      intro pc pc' packets hnack
      rw [PeerConnection.onNackReceived] at hnack
      split at hnack
      · rename_i packet stream hcached hstream
        obtain ⟨⟨rtxPacket, next⟩, hbuild, hnack⟩ := Option.bind_eq_some_iff.mp hnack
        obtain ⟨⟨rest, pc''⟩, hrest, hdone⟩ := Option.bind_eq_some_iff.mp hnack
        cases hdone
        obtain ⟨hagain, hpc⟩ := ih hrest
        -- the packet that is sent first
        obtain ⟨p₁, -, hbuild⟩ := Option.bind_eq_some_iff.mp hbuild
        obtain ⟨p₂, -, hbuild⟩ := Option.bind_eq_some_iff.mp hbuild
        obtain ⟨p₃, -, hbuilt⟩ := Option.bind_eq_some_iff.mp hbuild
        cases hbuilt
        have hone : Consecutive (UInt8.ofInt stream.rtx.payloadType) stream.rtx.ssrc stream.rtxSeq
            [{ payloadType := UInt8.ofInt stream.rtx.payloadType, ssrc := stream.rtx.ssrc
               sequenceNumber := stream.rtxSeq, timestamp := packet.timestamp
               toRtpPacketToSend := p₃ }] := by
          intro i p hp
          cases i with
          | zero =>
              cases hp
              exact ⟨rfl, rfl, (UInt16.add_zero _).symm⟩
          | succ i => cases hp
        refine ⟨?_, hpc⟩
        rw [hstream]
        exact (SendsAgain.some stream hone).append hagain
      · exact ih hnack

/-! ### Runs -/

/-- The three streams of a call that has begun with a connection and an ssrc for reports. -/
structure OnWire (pc : PeerConnection) (ssrc : UInt32) (c : VideoCall) : Prop where
  videoPt : c.pc.videoPt = pc.videoPt
  localVideoSsrc : c.pc.localVideoSsrc = pc.localVideoSsrc
  media : Consecutive pc.videoPt pc.localVideoSsrc pc.videoSeq (mediaOf c.sent)
  next : c.pc.videoSeq = pc.videoSeq + UInt16.ofNat (mediaOf c.sent).length
  rtx : SendsAgain pc.videoSendStream c.pc.videoSendStream (rtxOf c.sent)
  reporting : c.m.rtcpSender.ssrc = ssrc
  reports : ∀ report, .rtcp report ∈ c.sent → IsReport ssrc report.data

/-- Reports are sent behind what there is. They belong to none of the two streams, so both go on
where they were. -/
theorem OnWire.report {pc : PeerConnection} {c : VideoCall} (h : OnWire pc ssrc c)
    {reports : List LocalRtcpPacket} {m : ModuleRtpRtcp} (hm : m.rtcpSender.ssrc = ssrc)
    (hreports : ∀ report ∈ reports, IsReport ssrc report.data) :
    OnWire pc ssrc
      { c with m, sent := c.sent ++ reports.flatMap (VideoCall.onLocalRtcpPacket c.pc) } where
  videoPt := h.videoPt
  localVideoSsrc := h.localVideoSsrc
  media := by
    show Consecutive _ _ _ (mediaOf (c.sent ++ _))
    rw [mediaOf_append_reports]
    exact h.media
  next := by
    show _ = _ + UInt16.ofNat (mediaOf (c.sent ++ _)).length
    rw [mediaOf_append_reports]
    exact h.next
  rtx := by
    show SendsAgain _ _ (rtxOf (c.sent ++ _))
    rw [rtxOf_append_reports]
    exact h.rtx
  reporting := hm
  reports := by
    intro report hreport
    rcases List.mem_append.mp hreport with hreport | hreport
    · exact h.reports report hreport
    · obtain ⟨report', hmem, heq⟩ := mem_reports hreport
      cases heq
      exact hreports report hmem

/-- The packets of a frame are sent behind what there is. -/
theorem OnWire.image {pc pc' : PeerConnection} {c : VideoCall} (h : OnWire pc ssrc c)
    {frame : MediaFrame} {packets : List RtpPacket}
    (hsend : c.pc.sendEncodedImage frame = some (packets, pc')) {m : ModuleRtpRtcp}
    (hm : m.rtcpSender.ssrc = ssrc) :
    OnWire pc ssrc { pc := pc', m, sent := c.sent ++ packets.map .media } := by
  obtain ⟨hpackets, cache, rfl⟩ := sendEncodedImage_consecutive hsend
  rw [h.videoPt, h.localVideoSsrc, h.next] at hpackets
  constructor
  · exact h.videoPt
  · exact h.localVideoSsrc
  · dsimp only
    rw [mediaOf_append_media]
    exact h.media.append hpackets
  · dsimp only
    rw [mediaOf_append_media, h.next, List.length_append, UInt16.ofNat_add, UInt16.add_assoc]
  · dsimp only
    rw [rtxOf_append_media]
    exact h.rtx
  · exact hm
  · intro report hreport
    rcases List.mem_append.mp hreport with hreport | hreport
    · exact h.reports report hreport
    · obtain ⟨packet, -, heq⟩ := List.mem_map.mp hreport
      cases heq

variable {fuel : Nat}

/-- Every event continues the three streams: an image the media, a NACK the packets that are sent
again, and any of them the reports. -/
theorem OnWire.step {pc : PeerConnection} {c c' : VideoCall} (h : OnWire pc ssrc c)
    {e : VideoCall.Event} (hstep : c.step clock rand fuel e = some c') : OnWire pc ssrc c' := by
  cases e with
  | image frame captureTimeMs idr =>
      change c.sendEncodedImage clock rand fuel frame captureTimeMs idr = some c' at hstep
      unfold VideoCall.sendEncodedImage at hstep
      split at hstep
      · cases hstep
        exact h
      dsimp only at hstep
      split at hstep
      · -- with a video stream, which may report first
        obtain ⟨⟨reports, m⟩, hreports, hstep⟩ := Option.bind_eq_some_iff.mp hstep
        obtain ⟨⟨packets, pc'⟩, hpackets, hstep⟩ := Option.bind_eq_some_iff.mp hstep
        cases hstep
        have hmade := reports_onSendingRtpFrame fuel h.reporting _ _ _ reports m hreports
        exact (h.report hmade.1 hmade.2).image hpackets (by rw [foldl_updateRtpStats_sender, hmade.1])
      · obtain ⟨⟨reports, m⟩, hreports, hstep⟩ := Option.bind_eq_some_iff.mp hstep
        cases hreports
        obtain ⟨⟨packets, pc'⟩, hpackets, hstep⟩ := Option.bind_eq_some_iff.mp hstep
        cases hstep
        have hsame := h.report h.reporting fun report hreport => absurd hreport List.not_mem_nil
        exact hsame.image hpackets h.reporting
  | nack nackList =>
      obtain ⟨⟨packets, pc'⟩, hnack, hdone⟩ := Option.bind_eq_some_iff.mp hstep
      cases hdone
      obtain ⟨hagain, hpc⟩ := onNackReceived_sendsAgain nackList hnack
      rw [hpc]
      constructor
      · exact h.videoPt
      · exact h.localVideoSsrc
      · dsimp only
        rw [mediaOf_append_rtx]
        exact h.media
      · dsimp only
        rw [mediaOf_append_rtx]
        exact h.next
      · dsimp only
        rw [rtxOf_append_rtx]
        exact h.rtx.append hagain
      · exact h.reporting
      · intro report hreport
        rcases List.mem_append.mp hreport with hreport | hreport
        · exact h.reports report hreport
        · obtain ⟨packet, -, heq⟩ := List.mem_map.mp hreport
          cases heq
  | task index =>
      obtain ⟨⟨reports, m⟩, hreports, hdone⟩ := Option.bind_eq_some_iff.mp hstep
      cases hdone
      have hmade := reports_fireTask fuel h.reporting index reports m hreports
      exact h.report hmade.1 hmade.2

/-- A call whose events are images, NACKs and tasks has on the wire what `OnWire` says, by
induction on the run. -/
theorem onWire_of_run {pc : PeerConnection} {start c : VideoCall}
    (hstart : VideoCall.start clock rand fuel pc ssrc = some start) {events : List VideoCall.Event}
    (hrun : runPartial (VideoCall.step clock rand fuel) start events = some c) :
    OnWire pc ssrc c := by
  refine invariant_of_runPartial (fun c e c' hstep h => OnWire.step h hstep) ?_ hrun
  unfold VideoCall.start at hstart
  obtain ⟨⟨reports, m⟩, hreports, hdone⟩ := Option.bind_eq_some_iff.mp hstart
  cases hdone
  have hmade := reports_start fuel (createRtpRtcpModule ssrc) .compound reports m hreports
  have hempty : OnWire pc ssrc { pc, m, sent := [] } := by
    constructor
    · rfl
    · rfl
    · exact consecutive_nil _ _ _
    · exact (UInt16.add_zero _).symm
    · exact sendsAgain_nil _
    · exact hmade.1
    · exact fun report hreport => absurd hreport List.not_mem_nil
  exact hempty.report hmade.1 hmade.2

/-! ### Behind the transport -/

section Negotiated

variable {receiverClock : Clock}

/-- The numbers that the calls of the observer ask for, one list for each NACK. -/
def nackLists (calls : List ObserverCall) : List (List UInt16) :=
  calls.filterMap fun
    | .onNackReceived _ packetIds => some packetIds
    | .onNetworkInfo _ _ _ _ => none

/-- The calls of the observer are NACKs for the call, one after the other. -/
theorem call_of_observe (calls : List ObserverCall) : ∀ {s s' : NegotiatedCall},
    calls.foldlM NegotiatedCall.observe s = some s' →
      runPartial (VideoCall.step clock rand fuel) s.call ((nackLists calls).map .nack)
        = some s'.call := by
  induction calls with
  | nil =>
      intro s s' h
      cases h
      rfl
  | cons call calls ih =>
      intro s s' h
      rw [List.foldlM_cons] at h
      obtain ⟨next, hnext, hrest⟩ := Option.bind_eq_some_iff.mp h
      cases call with
      | onNetworkInfo rttMs packetsLost fractionLost jitter =>
          cases hnext
          have hrun := ih hrest
          exact hrun
      | onNackReceived mediaType packetIds =>
          obtain ⟨call, hcall, hdone⟩ := Option.bind_eq_some_iff.mp hnext
          cases hdone
          have hstep : s.call.step clock rand fuel (.nack packetIds) = some call := hcall
          have hlists : (nackLists (.onNackReceived mediaType packetIds :: calls)).map
              VideoCall.Event.nack = .nack packetIds :: (nackLists calls).map .nack := rfl
          rw [hlists, runPartial_cons hstep]
          exact ih hrest

/-- What a datagram does to the call is what the NACKs in it do. -/
theorem call_of_onReadPacket {s s' : NegotiatedCall} {data : Bytes}
    (h : s.onReadPacket receiverClock data = some s') :
    ∃ lists : List (List UInt16),
      runPartial (VideoCall.step clock rand fuel) s.call (lists.map .nack) = some s'.call := by
  unfold NegotiatedCall.onReadPacket at h
  split at h
  · cases h
    exact ⟨[], rfl⟩
  · unfold NegotiatedCall.onRtcpPacketReceived at h
    split at h
    · have hrun := @call_of_observe clock rand fuel _ _ _ h
      exact ⟨_, hrun⟩
    · cases h
      exact ⟨[], rfl⟩
  · cases h
    exact ⟨[], rfl⟩

/-- A state of ICE decides whether packets are sent, and changes no stream. -/
theorem OnWire.iceState {pc : PeerConnection} {c : VideoCall} (h : OnWire pc ssrc c)
    (iceState : Ice.IceTransportState) :
    OnWire pc ssrc { c with pc := c.pc.onIceState iceState } :=
  ⟨h.videoPt, h.localVideoSsrc, h.media, h.next, h.rtx, h.reporting, h.reports⟩

/-- Every event of the connection continues the three streams. -/
theorem OnWire.negotiatedStep {pc : PeerConnection} {s s' : NegotiatedCall}
    (h : OnWire pc ssrc s.call) {e : NegotiatedCall.Event}
    (hstep : s.step receiverClock clock rand fuel e = some s') : OnWire pc ssrc s'.call := by
  cases e with
  | image frame captureTimeMs idr =>
      obtain ⟨call, hcall, hdone⟩ := Option.bind_eq_some_iff.mp hstep
      cases hdone
      have hstep : s.call.step clock rand fuel (.image frame captureTimeMs idr) = some call := hcall
      exact h.step hstep
  | datagram data =>
      obtain ⟨lists, hrun⟩ := @call_of_onReadPacket clock rand fuel _ _ _ _ hstep
      exact invariant_of_runPartial (fun c e c' hstep h => h.step hstep) h hrun
  | task index =>
      obtain ⟨call, hcall, hdone⟩ := Option.bind_eq_some_iff.mp hstep
      cases hdone
      have hstep : s.call.step clock rand fuel (.task index) = some call := hcall
      exact h.step hstep
  | iceState iceState =>
      cases hstep
      exact h.iceState iceState

/-- An offer that is accepted sets the payload types of the two codecs. -/
theorem videoCodecs_of_setRemoteSDP {pton6 : Bytes → Option (Vector UInt8 16)}
    {pc₀ pc : Signaling} {offer : Bytes} (hoffer : pc₀.setRemoteSDP pton6 offer = .returns 0 pc) :
    pc.toPeerConnection = pc₀.toPeerConnection.setVideoCodecs [107, 99] := by
  unfold Signaling.setRemoteSDP at hoffer
  split at hoffer
  · cases hoffer
  · split at hoffer
    · cases hoffer
    · cases hoffer
    · cases hoffer
      rfl

/-- An answer with video has the payload types of the offer, and the ssrcs that it has drawn,
which the module gets too. From there on, `OnWire` holds over every run. -/
theorem onWire_of_negotiated {pton6 : Bytes → Option (Vector UInt8 16)} {pc₀ pc : Signaling}
    {offer : Bytes} (hoffer : pc₀.setRemoteSDP pton6 offer = .returns 0 pc)
    (options : RTCOfferAnswerOptions) (streamId : Bytes) (random : AnswerRandom) :
    ∃ start, NegotiatedCall.start clock rand fuel pc options streamId random = some start ∧
      ∀ events s,
        runPartial (NegotiatedCall.step receiverClock clock rand fuel) start events = some s →
          OnWire
            ((pc₀.toPeerConnection.setVideoCodecs [107, 99]).createVideoAnswer random.videoSsrc
              random.videoRtxSsrc) random.videoSsrc s.call := by
  have haudio : (createRtpRtcpModule random.videoSsrc).audio = false := rfl
  have hinterval : 2 ≤ (createRtpRtcpModule random.videoSsrc).rtcpReportIntervalMs := by
    show (2 : Int) ≤ 1000
    decide
  have hmode : RtcpMode.compound ≠ .off := by decide
  obtain ⟨m, hm, -⟩ := start_spec clock rand haudio hinterval hmode fuel
  obtain ⟨call, hcall⟩ : ∃ call, VideoCall.start clock rand fuel
      (pc.toPeerConnection.createVideoAnswer random.videoSsrc random.videoRtxSsrc)
      random.videoSsrc = some call := by
    unfold VideoCall.start
    rw [hm]
    exact ⟨_, rfl⟩
  -- a call with no events yet is on the wire, and every step keeps it there
  have hwire := @onWire_of_run _ clock rand fuel _ _ _ hcall [] rfl
  rw [videoCodecs_of_setRemoteSDP hoffer] at hwire
  refine ⟨{ call, rtcpReceiver := .new (createRtpRtcpModule random.videoSsrc) true }, ?_, ?_⟩
  · show (VideoCall.start clock rand fuel _ random.videoSsrc >>= _) = _
    exact congrArg (· >>= _) hcall
  · intro events s hrun
    refine @invariant_of_runPartial _ _ (fun s : NegotiatedCall => OnWire _ _ s.call) _ ?_ _ _ _
      hwire hrun
    exact fun s e s' hstep h => h.negotiatedStep hstep

/-- The three streams of a connection that has drawn its ssrcs: packets under payload type 107,
retransmissions under 99, each with an ssrc of its own and with consecutive numbers, and compound
packets that read back as sender reports about the first stream. -/
structure Streams (random : AnswerRandom) (first : UInt16) (sent : List SentPacket) : Prop where
  media : Consecutive 107 random.videoSsrc first (mediaOf sent)
  rtx : Consecutive 99 random.videoRtxSsrc 1000 (rtxOf sent)
  reports : ∀ report, .rtcp report ∈ sent → ∃ srs, srs ≠ [] ∧
    recovered report.data = some srs ∧ ∀ sr ∈ srs, sr.senderSsrc = random.videoSsrc

/-- Over every run of a connection that has accepted an offer and answered it with video, in
whatever order images, datagrams, tasks and states of ICE come, and whatever is in the
datagrams. -/
theorem streams_of_run {pton6 : Bytes → Option (Vector UInt8 16)} {pc₀ pc : Signaling}
    {offer : Bytes} (hoffer : pc₀.setRemoteSDP pton6 offer = .returns 0 pc)
    (options : RTCOfferAnswerOptions) (streamId : Bytes) (random : AnswerRandom) :
    ∃ start, NegotiatedCall.start clock rand fuel pc options streamId random = some start ∧
      ∀ events s,
        runPartial (NegotiatedCall.step receiverClock clock rand fuel) start events = some s →
          Streams random pc₀.videoSeq s.call.sent := by
  obtain ⟨start, hstart, hwire⟩ :=
    @onWire_of_negotiated clock rand fuel receiverClock _ _ _ _ hoffer options streamId random
  refine ⟨start, hstart, fun events s hrun => ?_⟩
  have h := hwire events s hrun
  refine ⟨h.media, h.rtx.consecutive rfl, ?_⟩
  intro report hreport
  obtain ⟨srs, hne, hdata, hssrc⟩ := h.reports report hreport
  exact ⟨srs, hne, by rw [hdata, recovered_packetOf], hssrc⟩

end Negotiated

/-- The connection after an offer without candidates and parameters. -/
def offeredConnection : Signaling :=
  { toPeerConnection := ({} : PeerConnection).setVideoCodecs [107, 99]
    remoteDesc := some (RemoteOffer.description {}) }

/-- The connection of the example has got an offer without a video codec. -/
theorem offeredConnection_eq :
    Signaling.setRemoteSDP (fun _ => none) {} (ascii "v=0") = .returns 0 offeredConnection := by
  have hfields : sdpFields (ascii "v=0") ≠ [] := by decide +kernel
  have hparse : RemoteOffer.parseLines (fun _ => none) {} (sdpFields (ascii "v=0")) = .ok {} := by
    decide +kernel
  unfold Signaling.setRemoteSDP
  rw [if_neg hfields, hparse]
  rfl

/-- Ssrc 11 for the video, and 12 for what is sent again. -/
def drawnSsrcs : AnswerRandom where
  iceParam := ⟨[], []⟩
  cname := []
  audioId := []
  audioSsrc := 10
  videoId := []
  videoSsrc := 11
  videoRtxSsrc := 12

/-- Two images, and between them a datagram with a NACK for packet 1000. -/
def resentImage : List NegotiatedCall.Event :=
  [.iceState .connected, .image smallImage 1 true,
    .datagram [0x81, 205, 0, 3, 0, 0, 0, 7, 0, 0, 0, 11, 0x03, 0xe8, 0, 0],
    .image smallImage 2 true]

/-- Two packets of the first stream, and the one that the NACK asks for in the second. -/
theorem streams_of_resentImage :
    ∃ s : NegotiatedCall, (mediaOf s.call.sent).length = 2 ∧ (rtxOf s.call.sent).length = 1 ∧
      Streams drawnSsrcs 1000 s.call.sent := by
  have hevents : ((NegotiatedCall.start slowClock (fun _ low _ => low) 1 offeredConnection {} []
      drawnSsrcs).bind fun start =>
        runPartial (NegotiatedCall.step slowClock slowClock (fun _ low _ => low) 1) start
          resentImage).map (fun s => ((mediaOf s.call.sent).length, (rtxOf s.call.sent).length))
      = some (2, 1) := by
    decide +kernel
  obtain ⟨s, hs, hlengths⟩ := Option.map_eq_some_iff.mp hevents
  obtain ⟨start, hstart, hrun⟩ := Option.bind_eq_some_iff.mp hs
  obtain ⟨hmedia, hrtx⟩ := Prod.mk.inj hlengths
  obtain ⟨start', hstart', hstreams⟩ :=
    @streams_of_run slowClock _ 1 slowClock _ _ _ _ offeredConnection_eq {} [] drawnSsrcs
  cases hstart.symm.trans hstart'
  exact ⟨s, hmedia, hrtx, hstreams _ s hrun⟩

end Xrtc.Proofs.Sdk
