import Xrtc.Lib.Run
import Xrtc.Lib.SeqCache
import Xrtc.Proofs.Rtp.PayloadSize
import Xrtc.Sdk.VideoSender

/-!
# `Xrtc.Proofs.Sdk.Retransmission`: a NACK brings the packets back

The packet cache is a ring of the last packets (`Xrtc.Lib.SeqCache`), and in every run of
the video path it is the ring of the packets sent (`CacheCurrent`, `cacheCurrent_step`).
With what `Nack::Unpack` makes of an item (`unpack_eq`) and what `OnNackReceived` sends
(`onNackReceived_eq`) this gives `nack_retransmits`: one RTX packet for each number that
the NACK denotes and that belongs to one of the last 2048 packets, and no other packet.
-/

set_option autoImplicit false

namespace Xrtc.Proofs.Sdk

open Xrtc.Lib
open Xrtc.Rtp
open Xrtc.Sdk
open Xrtc.Sdk.PeerConnection

/-! ### The numbers a NACK denotes -/

/-- The sequence numbers an item of a NACK denotes. -/
def denoted (item : PackedNack) : List UInt16 :=
  item.firstPid ::
    ((List.range 16).filter fun i => item.bitmask.toNat.testBit i).map fun i =>
      item.firstPid + 1 + UInt16.ofNat i

/-- The payload of a NACK: the two ssrcs and the items. -/
def nackPayload (commonFeedback : Bytes) (items : List PackedNack) : Bytes :=
  commonFeedback ++
    items.flatMap fun item => writeUInt16 item.firstPid ++ writeUInt16 item.bitmask

/-- The shifts over the bit mask find the set bits in order. The induction is on the bits that are
left, with the packet number moved on by one. -/
theorem unpackBits_eq (k : Nat) : ∀ pid nackItem : UInt16, nackItem.toNat < 2 ^ k →
    Nack.unpackBits pid nackItem
      = ((List.range k).filter fun i => nackItem.toNat.testBit i).map fun i =>
          pid + UInt16.ofNat i := by
  -- on the number of bits that can be set
  induction k with
  | zero =>
      intro pid nackItem hlt
      have hzero : nackItem = 0 := UInt16.toNat_inj.mp (Nat.lt_one_iff.mp hlt)
      rw [Nack.unpackBits, if_pos hzero]
      rfl
  | succ k ih =>
      intro pid nackItem hlt
      rw [Nack.unpackBits]
      by_cases hzero : nackItem = 0
      · subst hzero
        simp
      · -- the lowest bit is the first number, and the rest is the mask of the next one
        have hshift : (nackItem >>> 1).toNat = nackItem.toNat / 2 := by
          rw [UInt16.toNat_shiftRight, Nat.shiftRight_eq_div_pow]
          rfl
        have hbit : nackItem &&& 1 ≠ 0 ↔ nackItem.toNat.testBit 0 = true := by
          rw [Nat.testBit_zero, decide_eq_true_iff, Ne, ← UInt16.toNat_inj, UInt16.toNat_and]
          show ¬ nackItem.toNat &&& 1 = 0 ↔ _
          rw [Nat.and_one_is_mod]
          omega
        have hrest := ih (pid + 1) (nackItem >>> 1) (by
          rw [hshift]
          rw [Nat.pow_succ] at hlt
          omega)
        rw [if_neg hzero, hrest, hshift, List.range_succ_eq_map, List.filter_cons,
          List.filter_map, Nat.testBit_zero]
        have htail : ((List.range k).filter fun i => (nackItem.toNat / 2).testBit i).map
              (fun i => pid + 1 + UInt16.ofNat i)
            = (((List.range k).filter fun i => nackItem.toNat.testBit (i + 1)).map Nat.succ).map
              fun i => pid + UInt16.ofNat i := by
          rw [List.map_map]
          simp only [Nat.testBit_succ]
          refine List.map_congr_left fun i _ => ?_
          show _ = pid + UInt16.ofNat (i + 1)
          rw [UInt16.ofNat_add, UInt16.add_assoc, UInt16.add_comm 1]
          rfl
        rw [htail]
        rw [Nat.testBit_zero] at hbit
        by_cases hlow : nackItem &&& 1 ≠ 0
        · rw [if_pos hlow, if_pos (hbit.mp hlow), List.map_cons]
          simp
          rfl
        · rw [if_neg hlow, if_neg (fun h => hlow (hbit.mpr h)), List.nil_append]
          rfl

/-- `Unpack` lists the numbers that the items denote. -/
theorem unpack_eq (items : List PackedNack) : Nack.unpack items = items.flatMap denoted := by
  unfold Nack.unpack
  refine List.flatMap_congr fun item _ => ?_
  rw [unpackBits_eq 16 _ _ item.bitmask.toNat_lt]
  rfl

/-- Items written one behind the other are read back. -/
theorem readItems_flatMap (items : List PackedNack) :
    Nack.readItems items.length
        (items.flatMap fun item => writeUInt16 item.firstPid ++ writeUInt16 item.bitmask)
      = items := by
  induction items with
  | nil => rfl
  | cons item items ih =>
      rw [List.flatMap_cons, List.append_assoc, List.length_cons, Nack.readItems,
        getBE16_writeUInt16, getBE16_append_right (k := 2) (writeUInt16_length _) _ 0,
        getBE16_writeUInt16, ← List.append_assoc,
        List.drop_left' (by rw [List.length_append]; simp [kNackItemLength]), ih]

/-- `Parse` gives the numbers that the items denote, if there is an item at all. -/
theorem parse_nackPayload {commonFeedback : Bytes}
    (h : commonFeedback.length = kCommonFeedbackLength) (items : List PackedNack) :
    (Nack.parse (nackPayload commonFeedback items)).getD [] = items.flatMap denoted := by
  have hlength : (nackPayload commonFeedback items).length
      = kCommonFeedbackLength + kNackItemLength * items.length := by
    unfold nackPayload
    rw [List.length_append, List.length_flatMap, h]
    simp [kNackItemLength, Nat.mul_comm]
  unfold Nack.parse
  rw [hlength]
  cases items with
  | nil => rfl
  | cons item items =>
      have hpos : ¬ kCommonFeedbackLength + kNackItemLength * (item :: items).length
          < kCommonFeedbackLength + kNackItemLength := by
        rw [List.length_cons]
        simp only [kNackItemLength]
        omega
      rw [if_neg hpos, Nat.add_sub_cancel_left, Nat.mul_div_cancel_left _ (by decide), nackPayload,
        List.drop_left' h]
      dsimp only
      rw [readItems_flatMap, unpack_eq]
      rfl

/-! ### RTX packets -/

/-- The RTX packet of a packet. -/
def rtxPacket (rtx : Rtx) (seq : UInt16) (packet : RtpPacket) : RtpPacket :=
  { payloadType := UInt8.ofInt rtx.payloadType
    sequenceNumber := seq
    timestamp := packet.timestamp
    ssrc := rtx.ssrc
    marker := packet.marker
    payload := writeUInt16 packet.sequenceNumber ++ packet.payload }

/-- The RTX packets of packets, with consecutive sequence numbers. -/
def rtxPackets (stream : VideoSendStream) (packets : List RtpPacket) : List RtpPacket :=
  packets.mapIdx fun k packet => rtxPacket stream.rtx (stream.rtxSeq + UInt16.ofNat k) packet

/-- The stream after some RTX packets. -/
def advanced (stream : VideoSendStream) (n : Nat) : VideoSendStream :=
  { stream with rtxSeq := stream.rtxSeq + UInt16.ofNat n }

/-- A stream that sent one more packet is advanced once more. -/
theorem advanced_succ (stream : VideoSendStream) (n : Nat) :
    advanced (advanced stream 1) n = advanced stream (n + 1) := by
  unfold advanced
  rw [UInt16.ofNat_add, UInt16.add_comm (UInt16.ofNat n), ← UInt16.add_assoc]

/-- The first packet takes the next RTX number, the others those behind it. -/
theorem rtxPackets_cons (stream : VideoSendStream) (packet : RtpPacket) (packets : List RtpPacket) :
    rtxPackets stream (packet :: packets)
      = rtxPacket stream.rtx stream.rtxSeq packet :: rtxPackets (advanced stream 1) packets := by
  have hzero : stream.rtxSeq + UInt16.ofNat 0 = stream.rtxSeq := UInt16.add_zero _
  unfold rtxPackets
  rw [List.mapIdx_cons, hzero]
  congr 2
  funext k packet
  rw [UInt16.ofNat_add, UInt16.add_comm (UInt16.ofNat k), ← UInt16.add_assoc]
  rfl

/-- A payload within the limit of the packetizer leaves room for the number in front. -/
theorem buildRtxPacket_eq (stream : VideoSendStream) {packet : RtpPacket}
    (h : packet.payload.length ≤ 1200) :
    stream.buildRtxPacket packet
      = some (rtxPacket stream.rtx stream.rtxSeq packet, advanced stream 1) := by
  generalize hfield : writeUInt16 packet.sequenceNumber = field
  have hfieldLength : field.length = kRtxHeaderSize := by
    rw [← hfield]
    exact writeUInt16_length _
  have hfit : packet.payload.length + kRtxHeaderSize ≤ Proofs.Rtp.packetRoom := by
    simp only [Proofs.Rtp.packetRoom, kRtxHeaderSize]
    omega
  have halloc := @Proofs.Rtp.allocatePayload_new packet.marker _ hfit
  -- the number is written, and then the payload
  generalize hroom : List.replicate (packet.payload.length + kRtxHeaderSize) (0 : UInt8) = room
    at halloc
  have hroomLength : room.length = packet.payload.length + kRtxHeaderSize := by
    rw [← hroom, List.length_replicate]
  have hnumber := Proofs.Rtp.write_append { marker := packet.marker } []
    (show field.length ≤ room.length by omega)
  have hpayload := Proofs.Rtp.write_append { marker := packet.marker } field
    (show packet.payload.length ≤ (room.drop field.length).length by
      rw [List.length_drop]
      omega)
  have hrest : (room.drop field.length).drop packet.payload.length = [] := by
    refine List.drop_eq_nil_of_le ?_
    rw [List.length_drop]
    omega
  rw [hrest, List.append_nil, hfieldLength] at hpayload
  rw [hfieldLength] at hnumber
  unfold VideoSendStream.buildRtxPacket
  rw [hfield]
  dsimp only
  rw [halloc]
  dsimp only [Option.bind_eq_bind, Option.bind_some]
  rw [show RtpPacketToSend.write { marker := packet.marker, payload := room } 0 field = _ from
    hnumber]
  dsimp only [Option.bind_some]
  rw [List.nil_append, hpayload, rtxPacket, hfield]
  rfl

/-- `OnNackReceived` sends the RTX packets of those packets that are in the cache, if
there is room for them. -/
theorem onNackReceived_eq (nackList : List UInt16) : ∀ {pc : PeerConnection}
    {stream : VideoSendStream}, pc.videoSendStream = some stream →
      (∀ nackId packet, pc.findVideoCache nackId = some packet → packet.payload.length ≤ 1200) →
      pc.onNackReceived nackList
        = some (rtxPackets stream (nackList.filterMap pc.findVideoCache),
            { pc with
                videoSendStream :=
                  some (advanced stream (nackList.filterMap pc.findVideoCache).length) }) := by
  -- on the list: a packet that is not in the cache is left out, and takes no number
  induction nackList with
  | nil =>
      intro pc stream hstream _
      have hzero : advanced stream 0 = stream := by
        unfold advanced
        rw [show stream.rtxSeq + UInt16.ofNat 0 = stream.rtxSeq from UInt16.add_zero _]
      rw [onNackReceived, List.filterMap_nil, List.length_nil, hzero, ← hstream]
      rfl
  | cons nackId nackList ih =>
      intro pc stream hstream hroom
      rw [onNackReceived, hstream]
      cases hfind : pc.findVideoCache nackId with
      | none =>
          dsimp only
          rw [ih hstream hroom, List.filterMap_cons_none hfind]
      | some packet =>
          dsimp only
          rw [buildRtxPacket_eq stream (hroom nackId packet hfind), List.filterMap_cons_some hfind,
            rtxPackets_cons, List.length_cons,
            ← advanced_succ stream (nackList.filterMap pc.findVideoCache).length]
          dsimp only [Option.bind_eq_bind, Option.bind_some]
          rw [@ih { pc with videoSendStream := some (advanced stream 1) } _ rfl hroom]
          rfl

/-! ### The cache -/

/-- The number of a packet in the cache. -/
def seqNum (packet : RtpPacket) : Nat := packet.sequenceNumber.toNat

/-- The cache of the connection is the ring of the library, at the sizes of the source. -/
theorem addVideoCache_eq (pc : PeerConnection) (packet : RtpPacket) :
    pc.addVideoCache packet
      = { pc with
            videoCache := SeqCache.add seqNum rtcPacketCacheSize pc.videoCache packet } := by
  unfold addVideoCache SeqCache.add
  simp only [seqNum, UInt16.toNat_inj]
  split <;> rfl

/-- So is the lookup in it. -/
theorem findVideoCache_eq (pc : PeerConnection) (seq : UInt16) :
    pc.findVideoCache seq = SeqCache.find seqNum rtcPacketCacheSize pc.videoCache seq.toNat := by
  unfold findVideoCache SeqCache.find
  simp only [seqNum, UInt16.toNat_inj]

/-- The packets of a frame with their header fields. -/
def stamped (payloadType : UInt8) (timestamp ssrc : UInt32) : UInt16 → List RtpPacketToSend →
    List RtpPacket
  | _, [] => []
  | sequenceNumber, packet :: packets =>
      { toRtpPacketToSend := packet, payloadType, sequenceNumber, timestamp, ssrc } ::
        stamped payloadType timestamp ssrc (sequenceNumber + 1) packets

/-- The loop of `SendEncodedImage` sends the packets of the packetizer with consecutive
numbers, and stores them. -/
theorem sendLoop_eq (timestamp : UInt32) (fuel : Nat) : ∀ {packetizer : RtpPacketizerH264}
    {packets : List RtpPacketToSend} (pc : PeerConnection),
      packetizer.drainLoop some fuel = some packets →
      sendLoop timestamp fuel packetizer pc
        = some (stamped pc.videoPt timestamp pc.localVideoSsrc pc.videoSeq packets,
            { pc with
                videoSeq := pc.videoSeq + UInt16.ofNat packets.length
                videoCache :=
                  (stamped pc.videoPt timestamp pc.localVideoSsrc pc.videoSeq packets).foldl
                    (SeqCache.add seqNum rtcPacketCacheSize) pc.videoCache }) := by
  -- without a packet, the peer connection stays as it is
  have hdrained : ∀ pc : PeerConnection, some ([], pc)
      = some (stamped pc.videoPt timestamp pc.localVideoSsrc pc.videoSeq [],
          { pc with
              videoSeq := pc.videoSeq + UInt16.ofNat ([] : List RtpPacketToSend).length
              videoCache :=
                (stamped pc.videoPt timestamp pc.localVideoSsrc pc.videoSeq []).foldl
                  (SeqCache.add seqNum rtcPacketCacheSize) pc.videoCache }) := by
    intro pc
    have hzero : pc.videoSeq + UInt16.ofNat 0 = pc.videoSeq := UInt16.add_zero _
    rw [List.length_nil, hzero]
    rfl
  -- on the fuel, which both loops use up in step
  induction fuel with
  | zero =>
      intro packetizer packets pc hdrain
      rw [RtpPacketizerH264.drainLoop] at hdrain
      rw [sendLoop, RtpPacketizerH264.nextPacket]
      cases hnext : packetizer.nextPacketWith some ({} : RtpPacketToSend) with
      | none => simp [hnext] at hdrain
      | some result =>
          cases result with
          | none =>
              rw [hnext] at hdrain
              cases hdrain
              exact hdrained pc
          | some filled => simp [hnext] at hdrain
  | succ fuel ih =>
      intro packetizer packets pc hdrain
      rw [RtpPacketizerH264.drainLoop] at hdrain
      rw [sendLoop, RtpPacketizerH264.nextPacket]
      cases hnext : packetizer.nextPacketWith some ({} : RtpPacketToSend) with
      | none => simp [hnext] at hdrain
      | some result =>
          cases result with
          | none =>
              rw [hnext] at hdrain
              cases hdrain
              exact hdrained pc
          | some result =>
              -- a packet: it is stamped, cached and sent, and the sequence number goes on
              obtain ⟨filled, packetizer'⟩ := result
              rw [hnext] at hdrain
              obtain ⟨rest, hrest, rfl⟩ := Option.map_eq_some_iff.mp hdrain
              dsimp only
              rw [addVideoCache_eq, ih _ hrest, List.length_cons, UInt16.ofNat_add,
                UInt16.add_comm (UInt16.ofNat rest.length), ← UInt16.add_assoc]
              rfl

/-- Packets are put in the ring in the order they are sent. -/
theorem addAll_append (packets : List RtpPacket) : ∀ sent : List RtpPacket,
    SeqCache.addAll seqNum rtcPacketCacheSize (packets.reverse ++ sent)
      = packets.foldl (SeqCache.add seqNum rtcPacketCacheSize)
          (SeqCache.addAll seqNum rtcPacketCacheSize sent) := by
  induction packets with
  | nil => exact fun sent => rfl
  | cons packet packets ih =>
      intro sent
      rw [List.reverse_cons, List.append_assoc, List.singleton_append, ih, List.foldl_cons]
      rfl

/-- Stamped packets go on with the numbers of those sent before. -/
theorem numbered_append {payloadType : UInt8} {timestamp ssrc : UInt32} {start : Nat}
    (packets : List RtpPacketToSend) : ∀ {seq : UInt16} {sent : List RtpPacket},
    SeqCache.Numbered seqNum (2 ^ 16) start sent →
    seq.toNat = (start + sent.length) % 2 ^ 16 →
    SeqCache.Numbered seqNum (2 ^ 16) start
      ((stamped payloadType timestamp ssrc seq packets).reverse ++ sent) := by
  induction packets with
  | nil => exact fun h _ => h
  | cons packet packets ih =>
      intro seq sent h hseq
      rw [stamped, List.reverse_cons, List.append_assoc, List.singleton_append]
      refine ih ⟨hseq, h⟩ ?_
      rw [List.length_cons, UInt16.toNat_add, hseq]
      show (_ + 1) % _ = _
      rw [Nat.mod_add_mod, Nat.add_assoc]

/-- A stamp leaves the payloads alone. -/
theorem stamped_payload {payloadType : UInt8} {timestamp ssrc : UInt32}
    (packets : List RtpPacketToSend) : ∀ seq : UInt16,
    (stamped payloadType timestamp ssrc seq packets).map (fun packet => packet.payload)
      = packets.map RtpPacketToSend.payload := by
  induction packets with
  | nil => exact fun seq => rfl
  | cons packet packets ih =>
      intro seq
      rw [stamped, List.map_cons, List.map_cons, ih]

/-- It loses no packet. -/
theorem stamped_length {payloadType : UInt8} {timestamp ssrc : UInt32}
    (packets : List RtpPacketToSend) : ∀ seq : UInt16,
    (stamped payloadType timestamp ssrc seq packets).length = packets.length := by
  induction packets with
  | nil => exact fun seq => rfl
  | cons packet packets ih =>
      intro seq
      rw [stamped, List.length_cons, List.length_cons, ih]

/-- The cache is the ring of the packets sent, which have consecutive numbers and payloads
that can be sent again. -/
structure CacheCurrent (s : Session) : Prop where
  cache : s.pc.videoCache = SeqCache.addAll seqNum rtcPacketCacheSize s.sent.reverse
  numbered : SeqCache.Numbered seqNum (2 ^ 16) 1000 s.sent.reverse
  next : s.pc.videoSeq.toNat = (1000 + s.sent.length) % 2 ^ 16
  payloads : ∀ packet ∈ s.sent, packet.payload.length ≤ 1200

/-- The cache starts empty, and nothing has been sent. -/
theorem cacheCurrent_start : CacheCurrent {} :=
  ⟨rfl, trivial, rfl, fun _ hpacket => absurd hpacket List.not_mem_nil⟩

/-- The sequence number does not start again, and the cache holds what was sent. -/
theorem CacheCurrent.congr {s : Session} (h : CacheCurrent s) {pc : PeerConnection}
    (hcache : pc.videoCache = s.pc.videoCache) (hseq : pc.videoSeq = s.pc.videoSeq) :
    CacheCurrent { s with pc } :=
  ⟨hcache.trans h.cache, h.numbered, by rw [hseq, h.next], h.payloads⟩

/-- The packets of a frame are stored as they are sent, so the cache has the last ones of the
longer list. Their numbers go on from those before. -/
theorem CacheCurrent.sendEncodedImage {s : Session} (h : CacheCurrent s) {frame : MediaFrame}
    {packets : List RtpPacket} {pc : PeerConnection}
    (hsend : s.pc.sendEncodedImage frame = some (packets, pc)) :
    CacheCurrent { pc, sent := s.sent ++ packets } := by
  unfold PeerConnection.sendEncodedImage at hsend
  split at hsend
  · cases hsend
    rw [List.append_nil]
    exact h
  · obtain ⟨packetizer, hnew, hloop⟩ := Option.bind_eq_some_iff.mp hsend
    obtain ⟨payloads, hdrain, hlimit⟩ :=
      Proofs.Rtp.new_spec Proofs.Rtp.defaultLimits_usable frame.length_lt.le hnew
    rw [sendLoop_eq _ _ s.pc hdrain] at hloop
    cases hloop
    -- the cache, the numbers, the next number, and the sizes that a NACK relies on
    refine ⟨?_, ?_, ?_, ?_⟩
    · rw [List.reverse_append, addAll_append, ← h.cache]
    · rw [List.reverse_append]
      refine numbered_append _ h.numbered ?_
      rw [List.length_reverse]
      exact h.next
    · show (s.pc.videoSeq + UInt16.ofNat (Proofs.Rtp.marked payloads).length).toNat = _
      rw [List.length_append, stamped_length, UInt16.toNat_add, h.next, UInt16.toNat_ofNat',
        ← Nat.add_mod, Nat.add_assoc]
    · intro packet hpacket
      rcases List.mem_append.mp hpacket with hpacket | hpacket
      · exact h.payloads packet hpacket
      · refine hlimit packet.payload ?_
        rw [← Proofs.Rtp.marked_payload payloads, ← stamped_payload]
        exact List.mem_map_of_mem hpacket

/-- The packet that a NACK of a number brings back: the last one with the number, if it is
among the last 2048. -/
def lastSent (sent : List RtpPacket) (seq : UInt16) : Option RtpPacket :=
  (sent.reverse.take 2048).find? fun packet => packet.sequenceNumber = seq

/-- The cache finds the last packet sent under a number. -/
theorem CacheCurrent.findVideoCache {s : Session} (h : CacheCurrent s) (seq : UInt16) :
    s.pc.findVideoCache seq = lastSent s.sent seq := by
  rw [findVideoCache_eq, h.cache,
    SeqCache.find_addAll (by decide) (by decide) (by decide) h.numbered]
  simp only [seqNum, UInt16.toNat_inj]
  rfl

/-- What is in the cache can be sent again. -/
theorem CacheCurrent.payload_le {s : Session} (h : CacheCurrent s) :
    ∀ nackId packet, s.pc.findVideoCache nackId = some packet → packet.payload.length ≤ 1200 := by
  intro nackId packet hfind
  rw [h.findVideoCache] at hfind
  have hmem := List.mem_of_mem_take (List.mem_of_find?_eq_some hfind)
  exact h.payloads packet (List.mem_reverse.mp hmem)

/-- Handling a NACK touches neither the cache nor the sequence number. -/
theorem onNackReceived_frame (nackList : List UInt16) : ∀ {pc pc' : PeerConnection}
    {packets : List RtpPacket}, pc.onNackReceived nackList = some (packets, pc') →
      pc'.videoCache = pc.videoCache ∧ pc'.videoSeq = pc.videoSeq := by
  induction nackList with
  | nil =>
      intro pc pc' packets h
      cases h
      exact ⟨rfl, rfl⟩
  | cons nackId nackList ih =>
      intro pc pc' packets h
      rw [onNackReceived] at h
      split at h
      · obtain ⟨⟨rtxPacket, stream⟩, -, h⟩ := Option.bind_eq_some_iff.mp h
        obtain ⟨⟨rest, pc''⟩, hrest, h⟩ := Option.bind_eq_some_iff.mp h
        cases h
        exact @ih { pc with videoSendStream := some stream } _ _ hrest
      · exact ih h

/-- Every step keeps the cache current. Only images are stored: what a NACK sends again has
numbers of its own and is not in the cache. -/
theorem cacheCurrent_step (s : Session) (e : Event) (s' : Session) (hstep : s.step e = some s')
    (h : CacheCurrent s) : CacheCurrent s' := by
  cases e with
  | remoteSdp videoCodecs =>
      cases hstep
      exact h.congr rfl rfl
  | answer localVideoSsrc localVideoRtxSsrc =>
      cases hstep
      exact h.congr rfl rfl
  | iceState iceState =>
      cases hstep
      exact h.congr rfl rfl
  | image frame =>
      obtain ⟨⟨packets, pc⟩, hsend, hstep⟩ := Option.bind_eq_some_iff.mp hstep
      cases hstep
      exact h.sendEncodedImage hsend
  | nack payload =>
      obtain ⟨⟨packets, pc⟩, hnack, hstep⟩ := Option.bind_eq_some_iff.mp hstep
      cases hstep
      unfold PeerConnection.handleNack at hnack
      split at hnack
      · cases hnack
        exact h
      · obtain ⟨hcache, hseq⟩ := onNackReceived_frame _ hnack
        exact h.congr hcache hseq

/-- After any run, the packets sent have consecutive sequence numbers from 1000 on, and a
NACK is answered with an RTX packet for each number it denotes that belongs to one of the
last 2048 packets, in order and with consecutive sequence numbers, and with nothing else. -/
theorem nack_retransmits {events : List Event} {s : Session} {stream : VideoSendStream}
    (hrun : runPartial Session.step {} events = some s)
    (hstream : s.pc.videoSendStream = some stream)
    {commonFeedback : Bytes} (hcommon : commonFeedback.length = kCommonFeedbackLength)
    (items : List PackedNack) :
    (∀ k packet, s.sent[k]? = some packet →
      packet.sequenceNumber.toNat = (1000 + k) % 2 ^ 16) ∧
    ∃ packets, packets = (items.flatMap denoted).filterMap (lastSent s.sent) ∧
      s.pc.handleNack (nackPayload commonFeedback items)
        = some (rtxPackets stream packets,
            { s.pc with videoSendStream := some (advanced stream packets.length) }) := by
  have h := invariant_of_runPartial cacheCurrent_step cacheCurrent_start hrun
  refine ⟨fun k packet hpacket => ?_, _, rfl, ?_⟩
  · obtain ⟨hk, -⟩ := List.getElem?_eq_some_iff.mp hpacket
    -- the invariant counts from the last packet
    have hreverse : s.sent.reverse[s.sent.length - 1 - k]? = some packet := by
      rw [List.getElem?_reverse (by omega), show s.sent.length - 1 - (s.sent.length - 1 - k) = k by
        omega, hpacket]
    have hnum := h.numbered.getElem? hreverse
    rwa [List.length_reverse, show s.sent.length - 1 - (s.sent.length - 1 - k) = k by omega] at hnum
  · have hparse := parse_nackPayload hcommon items
    have hfind : s.pc.findVideoCache = lastSent s.sent := funext h.findVideoCache
    have hreceived := onNackReceived_eq (items.flatMap denoted) hstream h.payload_le
    rw [hfind] at hreceived
    unfold PeerConnection.handleNack
    -- a message without items is not parsed, and asks for nothing
    cases hids : Nack.parse (nackPayload commonFeedback items) with
    | none =>
        rw [hids, Option.getD_none] at hparse
        rw [← hparse] at hreceived ⊢
        exact hreceived
    | some packetIds =>
        rw [hids, Option.getD_some] at hparse
        rw [hparse]
        exact hreceived

/-- One NAL unit of three bytes. -/
def smallImage : MediaFrame := ⟨[0, 0, 1, 0x65, 7, 8], 40, by decide⟩

/-- A connection that sends two images, and loses them. -/
def twoImages : List Event :=
  [.remoteSdp [107, 99], .answer 11 12, .iceState .connected, .image smallImage, .image smallImage]

/-- Of the two packets that are sent, the second is asked for, and so are one that was never
sent and, with the mask, the second again. -/
theorem twoImages_retransmits :
    ∃ s stream, runPartial Session.step {} twoImages = some s ∧
      s.pc.videoSendStream = some stream ∧ s.sent.length = 2 ∧
      ∃ packets, packets = ([⟨1001, 0⟩, ⟨999, 2⟩].flatMap denoted).filterMap (lastSent s.sent) ∧
        s.pc.handleNack (nackPayload [0, 0, 0, 1, 0, 0, 0, 11] [⟨1001, 0⟩, ⟨999, 2⟩])
          = some (rtxPackets stream packets,
              { s.pc with videoSendStream := some (advanced stream packets.length) }) := by
  obtain ⟨s, hrun⟩ := Option.isSome_iff_exists.mp
    (by decide +kernel : (runPartial Session.step {} twoImages).isSome = true)
  have hsummary : ((runPartial Session.step {} twoImages).map fun s =>
      (s.pc.videoSendStream, s.sent.length)) = some (some { rtx := ⟨12, 99⟩ }, 2) := by
    decide +kernel
  rw [hrun, Option.map_some, Option.some.injEq, Prod.mk.injEq] at hsummary
  obtain ⟨hstream, hlength⟩ := hsummary
  exact ⟨s, _, hrun, hstream, hlength, (nack_retransmits hrun hstream rfl _).2⟩

end Xrtc.Proofs.Sdk
