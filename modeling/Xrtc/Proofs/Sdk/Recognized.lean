import Xrtc.Proofs.Pc.Demux
import Xrtc.Proofs.Sdk.WireStreams

/-!
# `Xrtc.Proofs.Sdk.Recognized`: what the server makes of the packets of a call

The server offers a datagram to the recogniser of STUN first, then to those of DTLS and RTP, and
tells RTP from RTCP by the payload type. The first byte of a packet of a call is that of version
2, so it is never DTLS. What decides about STUN is the layout behind that byte, and in it bytes 4
to 8, which are to be the magic cookie: the timestamp of an RTP packet, the ssrc of a report
(`takenUp`).

`recognized_of_run` says that the server reads from every packet what the SDK meant by it, also
from packets under SRTP, which leaves the front of a packet as it is. The SDK would classify the
packet in the same way.
-/

set_option autoImplicit false

namespace Xrtc.Proofs.Sdk

open Xrtc.Ice (UDPPort MessageDigest kStunMagicCookie)
open Xrtc.Lib
open Xrtc.Proofs.Pc (StunLayout getStunMessage_ne_notStun_iff)
open Xrtc.Rtp
open Xrtc.Sdk

/-- `data` is a packet under encryption: as long at least, with the first bytes in the clear. -/
structure InClear (n : Nat) (packet data : Bytes) : Prop where
  front : IsSlice data 0 (packet.take n)
  length_le : packet.length ≤ data.length

/-- The type of a packet with a payload type: those from 64 to 95 belong to RTCP. -/
def typeOf (payloadType : UInt8) : RtpPacketType :=
  if RtpUtils.payloadTypeIsReservedForRtcp (payloadType &&& 0x7f) then .rtcp else .rtp

/-- Where the server takes a packet: to SRTP and not to DTLS. The recogniser of STUN takes it
first exactly if it is laid out as STUN, for which bytes 4 to 8 are to be the magic cookie. -/
structure TakenUp (data : Bytes) (word : UInt32) : Prop where
  rtp : Pc.isRtpPacket data = true
  notDtls : Pc.isDtlsPacket data = false
  stun_iff : ∀ (digest : MessageDigest) (port : UDPPort),
    UDPPort.getStunMessage digest port data ≠ .notStun ↔ StunLayout digest data
  notStun : word ≠ kStunMagicCookie → ∀ (digest : MessageDigest) (port : UDPPort),
    UDPPort.getStunMessage digest port data = .notStun

/-- What the server reads from a packet of RTP. The SDK wants a byte of payload too. -/
structure ReadAs (data : Bytes) (type : RtpPacketType) (timestamp ssrc : UInt32)
    (number : UInt16) : Prop where
  takenUp : TakenUp data timestamp
  packetType : RtpUtils.inferRtpPacketType data = type
  sdkType : 12 < data.length → SdkRtpUtils.inferRtpPacketType data = type
  ssrc : RtpUtils.parseRtpSsrc data = ssrc
  sequenceNumber : RtpUtils.parseRtpSequenceNumber data = number

/-- What the server reads from a sender report. -/
structure ReadAsReport (data : Bytes) (ssrc : UInt32) : Prop where
  takenUp : TakenUp data ssrc
  packetType : RtpUtils.inferRtpPacketType data = .rtcp
  sdkType : SdkRtpUtils.inferRtpPacketType data = .rtcp
  rtcpType : RtpUtils.getRtcpType data = some 200
  ssrc : getBE32 data 4 = ssrc

/-- A first byte of version 2 is that of a packet of SRTP. Its bit 3 is clear, so the recogniser
of STUN passes it too. -/
theorem takenUp {data : Bytes} {word : UInt32} (hfirst : data.getD 0 0 = 0x80)
    (hlength : 12 ≤ data.length) (hword : getBE32 data 4 = word) : TakenUp data word where
  rtp := by
    have hversion : (0x80 : UInt8) &&& 0xC0 = 0x80 := by decide
    unfold Pc.isRtpPacket
    rw [hfirst]
    simp [Pc.minRtpPacketLen, hlength, hversion]
  notDtls := by
    have hnot : ((0x80 : UInt8) > 19 && (0x80 : UInt8) < 64) = false := by decide
    unfold Pc.isDtlsPacket
    rw [hfirst, hnot, Bool.and_false]
  stun_iff := by
    intro digest port
    have hbit : (0x80 : UInt8) &&& 0x08 = 0 := by decide
    rw [getStunMessage_ne_notStun_iff, hfirst]
    exact and_iff_right hbit
  notStun := by
    intro hcookie digest port
    have hfingerprint : Ice.StunMessage.validateFingerprint digest data = false := by
      unfold Ice.StunMessage.validateFingerprint
      have hoffset : Ice.kStunTransactionIdOffset - Ice.kStunMagicCookieLength = 4 := rfl
      dsimp only
      rw [hoffset, hword, if_pos hcookie, ite_self]
    unfold UDPPort.getStunMessage
    rw [hfingerprint]
    rfl

/-- The types of a packet of version 2, by the payload type in its second byte. -/
theorem inferred {data : Bytes} (hfirst : data.getD 0 0 = 0x80) (hlength : 12 ≤ data.length) :
    RtpUtils.inferRtpPacketType data = typeOf (data.getD 1 0) ∧
      (12 < data.length → SdkRtpUtils.inferRtpPacketType data = typeOf (data.getD 1 0)) := by
  have hversion : RtpUtils.hasCorrectRtpVersion data = true := by
    unfold RtpUtils.hasCorrectRtpVersion
    rw [hfirst]
    decide
  have hsdkVersion : SdkRtpUtils.hasCorrectVersion data = true := hversion
  have hsdkReserved : SdkRtpUtils.payloadTypeIsReservedForRtcp (data.getD 1 0 &&& 0x7F) =
      RtpUtils.payloadTypeIsReservedForRtcp (data.getD 1 0 &&& 0x7f) := rfl
  have hshort : 4 ≤ data.length := by omega
  constructor
  · unfold RtpUtils.inferRtpPacketType RtpUtils.isRtpPacket RtpUtils.isRtcpPacket typeOf
    rw [hversion]
    cases RtpUtils.payloadTypeIsReservedForRtcp (data.getD 1 0 &&& 0x7f) <;>
      simp [RtpUtils.kMinRtpPacketLen, RtpUtils.kMinRtcpPacketLen, hlength, hshort]
  · intro hlong
    have hlonger : 4 < data.length := by omega
    unfold SdkRtpUtils.inferRtpPacketType SdkRtpUtils.isRtpPacket SdkRtpUtils.isRtcpPacket typeOf
    rw [hsdkVersion, hsdkReserved]
    cases RtpUtils.payloadTypeIsReservedForRtcp (data.getD 1 0 &&& 0x7f) <;>
      simp [SdkRtpUtils.kMinRtpPacketLength, SdkRtpUtils.kMinRtcpPacketLength, hlong, hlonger]

/-- A packet of RTP is read as what its header says. Under a payload type from 64 to 95 it is
taken for RTCP. -/
theorem readAs_datagram {p : RtpPacket} {data : Bytes} (h : InClear 12 (datagram p) data) :
    ReadAs data (typeOf p.payloadType) p.timestamp p.ssrc p.sequenceNumber := by
  have hfront : IsSlice data 0 (RtpHeader.encode (wireHeader p) []) := by
    have hslice := h.front
    unfold datagram at hslice
    rwa [RtpHeader.take_encode] at hslice
  have hlength : 12 ≤ data.length := by
    have hle := h.length_le
    unfold datagram at hle
    rw [RtpHeader.encode_length] at hle
    omega
  have hfirst : data.getD 0 0 = 0x80 := hfront.getD_eq (i := 0) (by simp) 0
  have hword : getBE32 data 4 = p.timestamp :=
    (hfront.getBE32_eq (i := 4) (by simp)).trans (RtpHeader.getBE32_encode_timestamp _ _)
  -- the marker is above the payload type
  have htype : typeOf (data.getD 1 0) = typeOf p.payloadType := by
    have hbyte : data.getD 1 0 = RtpHeader.markerAndType p.marker (p.payloadType &&& 0x7f) :=
      hfront.getD_eq (i := 1) (by simp) 0
    unfold typeOf
    rw [hbyte, (RtpHeader.markerAndType_bits _ _).2, and_mask_mask]
  obtain ⟨hserver, hsdk⟩ := inferred hfirst hlength
  rw [htype] at hserver hsdk
  exact ⟨takenUp hfirst hlength hword, hserver, hsdk,
    (hfront.getBE32_eq (i := 8) (by simp)).trans (RtpHeader.getBE32_encode_ssrc _ _),
    (hfront.getBE16_eq (i := 2) (by simp)).trans (RtpHeader.getBE16_encode _ _)⟩

/-- A compound packet of reports is read as a sender report of its ssrc. -/
theorem readAsReport_of_isReport {ssrc : UInt32} {packet data : Bytes}
    (hreport : IsReport ssrc packet) (h : InClear 8 packet data) : ReadAsReport data ssrc := by
  obtain ⟨srs, hne, rfl, hssrc⟩ := hreport
  obtain ⟨sr, rest, rfl⟩ := List.exists_cons_of_ne_nil hne
  -- the header of the first report and its ssrc
  have hfront : IsSlice data 0 (createHeader 0 200 sr.headerLength ++ writeUInt32 sr.senderSsrc) := by
    have hslice := h.front
    unfold packetOf at hslice
    rw [List.map_cons, List.flatten_cons] at hslice
    unfold SenderReport.bytes at hslice
    simp only [List.append_assoc] at hslice
    rw [← List.append_assoc (createHeader 0 200 sr.headerLength)] at hslice
    rwa [List.take_left' (by simp [createHeader])] at hslice
  have hhead : (createHeader 0 200 sr.headerLength).length = 4 := by simp [createHeader]
  have hfrontLength : (createHeader 0 200 sr.headerLength ++
      writeUInt32 sr.senderSsrc).length = 8 := by simp [createHeader]
  have hlength : 28 ≤ data.length := by
    have hle := h.length_le
    rw [length_packetOf, List.length_cons] at hle
    omega
  have hfirst : data.getD 0 0 = 0x80 := hfront.getD_eq (i := 0) (by rw [hfrontLength]; omega) 0
  have hsecond : data.getD 1 0 = 200 := hfront.getD_eq (i := 1) (by rw [hfrontLength]; omega) 0
  have hword : getBE32 data 4 = ssrc := by
    have hvalue := hfront.right.getBE32_eq (i := 0) (by simp)
    rw [hhead, ← List.append_nil (writeUInt32 sr.senderSsrc), getBE32_writeUInt32] at hvalue
    exact hvalue.trans (hssrc sr List.mem_cons_self)
  have htype : typeOf (data.getD 1 0) = .rtcp := by
    rw [hsecond]
    decide
  obtain ⟨hserver, hsdk⟩ := inferred hfirst (by omega)
  rw [htype] at hserver hsdk
  refine ⟨takenUp hfirst (by omega) hword, hserver, hsdk (by omega), ?_, hword⟩
  unfold RtpUtils.getRtcpType
  rw [if_neg (by unfold RtpUtils.kMinRtcpPacketLen; omega), hsecond]

/-- What the server reads from a packet of a connection that has drawn its ssrcs. -/
def Recognized (random : AnswerRandom) : SentPacket → Bytes → Prop
  | .media packet, data =>
      InClear 12 (datagram packet) data →
        ReadAs data .rtp packet.timestamp random.videoSsrc packet.sequenceNumber
  | .rtx packet, data =>
      InClear 12 (datagram packet) data →
        ReadAs data .rtp packet.timestamp random.videoRtxSsrc packet.sequenceNumber
  | .rtcp report, data => InClear 8 report.data data → ReadAsReport data random.videoSsrc

/-- The packets of a stream with a payload type that does not belong to RTCP. -/
theorem readAs_of_consecutive {payloadType : UInt8} {ssrc : UInt32} {first : UInt16}
    {packets : List RtpPacket} (h : Consecutive payloadType ssrc first packets)
    (htype : typeOf payloadType = .rtp) {packet : RtpPacket} (hmem : packet ∈ packets)
    {data : Bytes} (hclear : InClear 12 (datagram packet) data) :
    ReadAs data .rtp packet.timestamp ssrc packet.sequenceNumber := by
  obtain ⟨i, hi⟩ := List.mem_iff_getElem?.mp hmem
  obtain ⟨hpacket, hssrc, -⟩ := h i packet hi
  have hread := readAs_datagram hclear
  rwa [hpacket, htype, hssrc] at hread

/-- Over every run of a connection that has accepted an offer and answered it with video, the
server reads from each packet that is sent what the SDK meant by it: reports as RTCP, and media as
RTP of its stream, as neither of its payload types is one that belongs to RTCP. -/
theorem recognized_of_run {pton6 : Bytes → Option (Vector UInt8 16)} {pc₀ pc : Signaling}
    {offer : Bytes} (hoffer : pc₀.setRemoteSDP pton6 offer = .returns 0 pc)
    (receiverClock clock : Clock) (rand : Nat → Int → Int → Int) (fuel : Nat)
    (options : RTCOfferAnswerOptions) (streamId : Bytes) (random : AnswerRandom) :
    ∃ start, NegotiatedCall.start clock rand fuel pc options streamId random = some start ∧
      ∀ events s,
        runPartial (NegotiatedCall.step receiverClock clock rand fuel) start events = some s →
          ∀ x ∈ s.call.sent, ∀ data, Recognized random x data := by
  obtain ⟨start, hstart, hwire⟩ :=
    @onWire_of_negotiated clock rand fuel receiverClock _ _ _ _ hoffer options streamId random
  refine ⟨start, hstart, fun events s hrun x hx data => ?_⟩
  have h := hwire events s hrun
  have hmedia : typeOf 107 = .rtp := by decide
  have hrtx : typeOf (UInt8.ofInt 99) = .rtp := by decide
  cases x with
  | media packet =>
      have hmem : packet ∈ mediaOf s.call.sent := List.mem_filterMap.mpr ⟨_, hx, rfl⟩
      exact readAs_of_consecutive h.media hmedia hmem
  | rtx packet =>
      have hmem : packet ∈ rtxOf s.call.sent := List.mem_filterMap.mpr ⟨_, hx, rfl⟩
      exact readAs_of_consecutive (h.rtx.consecutive rfl) hrtx hmem
  | rtcp report => exact readAsReport_of_isReport (h.reports report hx)

/-- The five packets of two images, with a NACK between them, are all recognized. -/
theorem recognized_of_resentImage :
    ∃ s : NegotiatedCall, s.call.sent.length = 5 ∧
      ∀ x ∈ s.call.sent, ∀ data, Recognized drawnSsrcs x data := by
  have hevents : ((NegotiatedCall.start slowClock (fun _ low _ => low) 1 offeredConnection {} []
      drawnSsrcs).bind fun start =>
        runPartial (NegotiatedCall.step slowClock slowClock (fun _ low _ => low) 1) start
          resentImage).map (fun s => s.call.sent.length) = some 5 := by
    decide +kernel
  obtain ⟨s, hs, hlength⟩ := Option.map_eq_some_iff.mp hevents
  obtain ⟨start, hstart, hrun⟩ := Option.bind_eq_some_iff.mp hs
  obtain ⟨start', hstart', hrecognized⟩ :=
    recognized_of_run offeredConnection_eq slowClock slowClock (fun _ low _ => low) 1 {} []
      drawnSsrcs
  cases hstart.symm.trans hstart'
  exact ⟨s, hlength, hrecognized _ s hrun⟩

end Xrtc.Proofs.Sdk
