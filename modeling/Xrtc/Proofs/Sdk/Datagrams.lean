import Xrtc.Proofs.Sdk.RtpPacketBuffer
import Xrtc.Proofs.Sdk.SenderReportCounts

/-!
# `Xrtc.Proofs.Sdk.Datagrams`: what `SendPacket` is called with

The packets in their buffers refine the packets of `Xrtc.Sdk.VideoCall`. `Image b p` says
that the buffer `b` is the packet `p`, with nothing left in it of what was in the block
before, and `Backs` that a connection and its cache are those of the other level. Every
function keeps this (`sendLoop_backs`, `onNackReceived_backs`), and so does every run of a
call (`sent_of_run`): the bytes that are sent are the encodings of the packets, whatever the
memory holds.
-/

set_option autoImplicit false

namespace Xrtc.Proofs.Sdk

open Xrtc.Lib
open Xrtc.Rtp
open Xrtc.Sdk

/-! ### One packet -/

/-- The header of a packet as a receiver knows it. -/
def wireHeader (p : RtpPacket) : RtpHeader where
  marker := p.marker
  payloadType := p.payloadType &&& 0x7f
  sequenceNumber := p.sequenceNumber
  timestamp := p.timestamp
  ssrc := p.ssrc

/-- The bytes of a packet. -/
def datagram (p : RtpPacket) : Bytes := RtpHeader.encode (wireHeader p) p.payload

/-- A packet is read back. -/
theorem parse_datagram (p : RtpPacket) :
    RtpHeader.parse (datagram p) = some (wireHeader p, p.payload) := by
  unfold datagram
  rw [RtpHeader.parse_encode]
  unfold wireHeader
  rw [and_mask_mask]

/-- The buffer is the packet. -/
structure Image (b : RtpPacketBuffer) (p : RtpPacket) : Prop where
  packet : b.toRtpPacket = p
  shows : ∀ f, Shows b f
  offset : b.payloadOffset = kFixedHeaderSize
  padding : b.paddingSize = 0

/-- A packet in its buffer is sent as the datagram of its fields and its payload. -/
theorem Image.bytes {b : RtpPacketBuffer} {p : RtpPacket} (h : Image b p) :
    b.bytes = datagram p := by
  rw [bytes_eq_encode h.shows h.offset h.padding, ← h.packet]
  rfl

/-- Its sequence number is the one of the packet. -/
theorem Image.sequenceNumber {b : RtpPacketBuffer} {p : RtpPacket} (h : Image b p) :
    b.sequenceNumber = p.sequenceNumber := by
  rw [← h.packet]
  rfl

/-- Its payload is as long as that of the packet. -/
theorem Image.payloadSize {b : RtpPacketBuffer} {p : RtpPacket} (h : Image b p) :
    b.payloadSize = p.payload.length := by
  rw [← h.packet]
  show _ = (b.buffer.read _ _).length
  rw [Memory.read_length]

/-- A new packet has an empty payload. -/
theorem holds_setters (memory : Memory) (marker : Bool) (setters : List Setter) :
    Holds (applyAll (RtpPacketBuffer.new memory) setters) { marker } 0 := by
  obtain ⟨hoffset, hsize, hpadding⟩ := applyAll_sizes setters (RtpPacketBuffer.new memory)
  have hroom : kFixedHeaderSize + 0 ≤ kDefaultCapacity := by decide
  exact ⟨hoffset, hpadding, rfl, hsize, hroom, Nat.le_refl _, rfl⟩

/-- A part of the header of a new packet that has been set is right after the payload has been
written. The marker is set later. -/
theorem shows_of_setters (memory : Memory) {setters : List Setter} {b : RtpPacketBuffer}
    (hsame : SameHeader (applyAll (RtpPacketBuffer.new memory) setters) b) {f : HeaderField}
    (hf : f = .version ∨ f ≠ .marker ∧ ∃ s ∈ setters, s.field = f) : Shows b f := by
  apply hsame.shows
  rcases hf with rfl | ⟨hne, s, hs, rfl⟩
  · exact (shows_new memory).applyAll (by simp)
  · exact shows_of_mem hs (fun hmarker => absurd hmarker hne) _

/-- The fields of a packet whose payload has been written. -/
theorem toRtpPacket_eq {b : RtpPacketBuffer} {p : RtpPacketToSend}
    (h : Holds b p p.payload.length) (hmarker : b.marker = p.marker) :
    b.toRtpPacket = { p with
      payloadType := b.payloadType
      sequenceNumber := b.sequenceNumber
      timestamp := b.timestamp
      ssrc := b.ssrc } := by
  unfold RtpPacketBuffer.toRtpPacket
  rw [h.payload, hmarker, ← h.capacity]

/-- A packet of `SendEncodedImage`: three setters, the payload, the marker and the number. -/
theorem image_media (memory : Memory) {type : UInt8} {ts ssrc : UInt32} {b : RtpPacketBuffer}
    {p : RtpPacketToSend}
    (hsame : SameHeader (applyAll (RtpPacketBuffer.new memory)
      [.payloadType type, .timestamp ts, .ssrc ssrc]) b)
    (h : Holds b p p.payload.length) (seq : UInt16) :
    Image ((b.setMarker p.marker).setSequenceNumber seq)
      { p with payloadType := type, timestamp := ts, ssrc, sequenceNumber := seq } := by
  have hset := fun f hf => shows_of_setters (f := f) memory hsame hf
  -- the marker and the number leave the rest of the header
  have hkept : ∀ f, f ≠ .marker → f ≠ .sequenceNumber → Shows b f →
      Shows ((b.setMarker p.marker).setSequenceNumber seq) f := by
    intro f hmarker hnumber hf
    have hmarked : Shows (b.setMarker p.marker) f :=
      hf.apply (s := .marker p.marker) hmarker fun _ => trivial
    exact hmarked.apply (s := .sequenceNumber seq) hnumber fun _ => trivial
  refine ⟨?_, ?_, h.offset, h.padding⟩
  · have hmarked : Holds ((b.setMarker p.marker).setSequenceNumber seq) p p.payload.length :=
      (h.apply (.marker p.marker)).apply (.sequenceNumber seq)
    rw [toRtpPacket_eq hmarked rfl]
    have htype : b.payloadType = type := hsame.values .payloadType
    have hts : b.timestamp = ts := hsame.values .timestamp
    have hssrc : b.ssrc = ssrc := hsame.values .ssrc
    show _ = ({ p with payloadType := type, timestamp := ts, ssrc, sequenceNumber := seq } : RtpPacket)
    rw [← htype, ← hts, ← hssrc]
    rfl
  · intro f
    cases f with
    | version => exact hkept _ (by decide) (by decide) (hset _ (.inl rfl))
    | payloadType =>
        exact hkept _ (by decide) (by decide) (hset _ (.inr ⟨by decide, _, .head _, rfl⟩))
    | timestamp =>
        exact hkept _ (by decide) (by decide) (hset _ (.inr ⟨by decide, _, .tail _ (.head _), rfl⟩))
    | ssrc =>
        exact hkept _ (by decide) (by decide)
          (hset _ (.inr ⟨by decide, _, .tail _ (.tail _ (.head _)), rfl⟩))
    | marker =>
        have hmarked := shows_apply_self b (.marker p.marker)
        exact hmarked.apply (s := .sequenceNumber seq) (by intro h; cases h) fun _ => trivial
    | sequenceNumber => exact shows_apply_self (b.setMarker p.marker) (.sequenceNumber seq)

/-- A packet of `BuildRtxPacket`: five setters, and the payload. Every field of the header has
been set, so nothing of it is left from the memory. -/
theorem image_rtx (memory : Memory) {type : UInt8} {ts ssrc : UInt32} {seq : UInt16}
    {b : RtpPacketBuffer} {p : RtpPacketToSend}
    (hsame : SameHeader (applyAll (RtpPacketBuffer.new memory)
      [.payloadType type, .ssrc ssrc, .sequenceNumber seq, .marker p.marker, .timestamp ts]) b)
    (h : Holds b p p.payload.length) :
    Image b { p with payloadType := type, timestamp := ts, ssrc, sequenceNumber := seq } := by
  have hset := fun f hf => shows_of_setters (f := f) memory hsame hf
  refine ⟨?_, ?_, h.offset, h.padding⟩
  · rw [toRtpPacket_eq h (hsame.values .marker)]
    have htype : b.payloadType = type := hsame.values .payloadType
    have hts : b.timestamp = ts := hsame.values .timestamp
    have hssrc : b.ssrc = ssrc := hsame.values .ssrc
    have hseq : b.sequenceNumber = seq := hsame.values .sequenceNumber
    rw [htype, hts, hssrc, hseq]
  · intro f
    cases f with
    | version => exact hset _ (.inl rfl)
    | payloadType => exact hset _ (.inr ⟨by decide, _, .head _, rfl⟩)
    | ssrc => exact hset _ (.inr ⟨by decide, _, .tail _ (.head _), rfl⟩)
    | sequenceNumber => exact hset _ (.inr ⟨by decide, _, .tail _ (.tail _ (.head _)), rfl⟩)
    | timestamp =>
        exact hset _ (.inr ⟨by decide, _, .tail _ (.tail _ (.tail _ (.tail _ (.head _)))), rfl⟩)
    | marker =>
        -- it was set after the payload type
        have hmarked := shows_apply_self (applyAll (RtpPacketBuffer.new memory)
          [.payloadType type, .ssrc ssrc, .sequenceNumber seq]) (.marker p.marker)
        exact hsame.shows (hmarked.apply (s := .timestamp ts) nofun fun _ => trivial)

/-- `NextPacket` returns false when no unit is left. -/
theorem nextPacket_none {packetizer : RtpPacketizerH264} {p : RtpPacketToSend}
    (h : packetizer.nextPacket p = some none) : packetizer.packets = [] := by
  unfold RtpPacketizerH264.nextPacket RtpPacketizerH264.nextPacketWith at h
  split at h
  · assumption
  · obtain ⟨_, -, h⟩ := Option.bind_eq_some_iff.mp h
    obtain ⟨_, -, h⟩ := Option.bind_eq_some_iff.mp h
    cases h

/-! ### The connection -/

/-- A connection has its fields and its cache from another level. -/
structure Backs (s : BufferedConnection) (pc : PeerConnection) : Prop where
  fields : pc = { s.pc with videoCache := pc.videoCache }
  cache : ∀ i, Option.Rel Image (s.videoCache i) (pc.videoCache i)

/-- Both caches take the packet into the slot of its number, unless the same packet is there
already. The two look at the same numbers, so they decide alike. -/
theorem Backs.addVideoCache {s : BufferedConnection} {pc : PeerConnection} (h : Backs s pc)
    {b : RtpPacketBuffer} {p : RtpPacket} (hp : Image b p) :
    Backs (s.addVideoCache b) (pc.addVideoCache p) := by
  unfold BufferedConnection.addVideoCache PeerConnection.addVideoCache
  rw [hp.sequenceNumber]
  dsimp only
  generalize p.sequenceNumber.toNat % rtcPacketCacheSize = index
  have hupdated : Backs { s with videoCache := Function.update s.videoCache index (some b) }
      { pc with videoCache := Function.update pc.videoCache index (some p) } := by
    refine ⟨by rw [h.fields], fun i => ?_⟩
    dsimp only
    by_cases hi : i = index
    · subst hi
      rw [Function.update_self, Function.update_self]
      exact .some hp
    · rw [Function.update_of_ne hi, Function.update_of_ne hi]
      exact h.cache i
  -- the slot is taken by another packet, or by the same one, which is not replaced
  have hslot := h.cache index
  generalize s.videoCache index = slot at hslot ⊢
  generalize pc.videoCache index = slot' at hslot ⊢
  cases hslot with
  | none =>
      rw [if_neg (by simp)]
      exact hupdated
  | some hcached =>
      dsimp only
      rw [hcached.sequenceNumber]
      split
      · rename_i hsame
        rw [if_pos (by simpa using hsame)]
        exact h
      · rename_i hsame
        rw [if_neg (by simpa using hsame)]
        exact hupdated

/-- What is found in the two caches belongs together. The slot is that of the number, and the
number of the packet in it is compared. -/
theorem Backs.findVideoCache {s : BufferedConnection} {pc : PeerConnection} (h : Backs s pc)
    (seq : UInt16) : Option.Rel Image (s.findVideoCache seq) (pc.findVideoCache seq) := by
  have hslot := h.cache (seq.toNat % rtcPacketCacheSize)
  unfold BufferedConnection.findVideoCache PeerConnection.findVideoCache
  dsimp only
  generalize s.videoCache (seq.toNat % rtcPacketCacheSize) = slot at hslot ⊢
  generalize pc.videoCache (seq.toNat % rtcPacketCacheSize) = slot' at hslot ⊢
  cases hslot with
  | none => exact .none
  | some hcached =>
      simp only [Option.filter_some, hcached.sequenceNumber]
      split
      · exact .some hcached
      · exact .none

variable (memory : Nat → Memory)

/-- The loop makes the same packets, and the same connection. By induction on its fuel: each
packet has its image, and is cached before the next one is made. -/
theorem sendLoop_backs (timestamp : UInt32) (fuel : Nat) : ∀ {packetizer : RtpPacketizerH264}
    {s : BufferedConnection} {pc pc' : PeerConnection} {packets : List RtpPacket}, Backs s pc →
      PeerConnection.sendLoop timestamp fuel packetizer pc = some (packets, pc') →
      ∃ bs s', BufferedConnection.sendLoop memory timestamp fuel packetizer s = some (bs, s') ∧
        List.Forall₂ Image bs packets ∧ Backs s' pc' := by
  induction fuel with
  | zero =>
      intro packetizer s pc pc' packets h hloop
      unfold PeerConnection.sendLoop at hloop
      unfold BufferedConnection.sendLoop
      dsimp only at hloop ⊢
      split at hloop
      · cases hloop
      · -- no packet is left
        rename_i hnext
        cases hloop
        have hempty : packetizer.packets = [] := nextPacket_none hnext
        unfold RtpPacketizerH264.nextPacket RtpPacketizerH264.nextPacketWith
        rw [hempty]
        exact ⟨[], _, rfl, .nil, ⟨h.fields, h.cache⟩⟩
      · cases hloop
  | succ fuel ih =>
      intro packetizer s pc pc' packets h hloop
      unfold PeerConnection.sendLoop at hloop
      unfold BufferedConnection.sendLoop
      dsimp only at hloop ⊢
      split at hloop
      · cases hloop
      · rename_i hnext
        cases hloop
        have hempty : packetizer.packets = [] := nextPacket_none hnext
        unfold RtpPacketizerH264.nextPacket RtpPacketizerH264.nextPacketWith
        rw [hempty]
        exact ⟨[], _, rfl, .nil, ⟨h.fields, h.cache⟩⟩
      · rename_i filled packetizer' hnext
        obtain ⟨⟨rest, pc₂⟩, hrest, hloop⟩ := Option.bind_eq_some_iff.mp hloop
        cases hloop
        have hpt : pc.videoPt = s.pc.videoPt := by rw [h.fields]
        have hssrc : pc.localVideoSsrc = s.pc.localVideoSsrc := by rw [h.fields]
        have hseq : pc.videoSeq = s.pc.videoSeq := by rw [h.fields]
        -- the same packet in its buffer
        obtain ⟨b₁, b', hb', rfl, hsame, hholds⟩ := nextPacket_holds
          (holds_setters (memory s.allocated) false
            [.payloadType s.pc.videoPt, .timestamp timestamp, .ssrc s.pc.localVideoSsrc]) hnext
        have himage := image_media (memory s.allocated) hsame hholds s.pc.videoSeq
        rw [← hpt, ← hssrc, ← hseq] at himage
        have hbacks : Backs { s with
            pc := { s.pc with videoSeq := s.pc.videoSeq + 1 }
            allocated := s.allocated + 1 } { pc with videoSeq := pc.videoSeq + 1 } :=
          ⟨by rw [h.fields], h.cache⟩
        obtain ⟨bs, s', hs', hforall, hbacks'⟩ := ih (hbacks.addVideoCache himage) hrest
        refine ⟨_ :: bs, s', ?_, .cons himage hforall, hbacks'⟩
        have hfilled : packetizer.nextPacket
            ((((RtpPacketBuffer.new (memory s.allocated)).setPayloadType s.pc.videoPt).setTimestamp
              timestamp).setSsrc s.pc.localVideoSsrc)
            = some (some (b₁.setMarker filled.marker, packetizer')) := hb'
        rw [hfilled]
        dsimp only
        rw [← hseq] at hs' ⊢
        rw [hs']
        rfl

/-- A step that leaves both caches keeps the connections together. -/
theorem Backs.congr {s s' : BufferedConnection} {pc pc' : PeerConnection} (h : Backs s pc)
    (hcache : s'.videoCache = s.videoCache) (hcache' : pc'.videoCache = pc.videoCache)
    (hfields : pc' = { s'.pc with videoCache := pc'.videoCache }) : Backs s' pc' :=
  ⟨hfields, fun i => by rw [hcache, hcache']; exact h.cache i⟩

/-- `BuildRtxPacket` makes the same packet: the number of the old one in front, its payload
behind, and the header of the RTX stream. -/
theorem buildRtxPacket_image (stream stream' : VideoSendStream) (block : Memory)
    {b : RtpPacketBuffer} {p p' : RtpPacket} (h : Image b p)
    (hrtx : stream.buildRtxPacket p = some (p', stream')) :
    ∃ b', RtpPacketBuffer.buildRtxPacket stream block b = some (b', stream') ∧ Image b' p' := by
  have hmarker : b.marker = p.marker := by
    rw [← h.packet]
    rfl
  have hts : b.timestamp = p.timestamp := by
    rw [← h.packet]
    rfl
  have hpayload : b.payload = p.payload := by
    rw [← h.packet]
    rfl
  unfold VideoSendStream.buildRtxPacket at hrtx
  obtain ⟨p₁, hp₁, hrtx⟩ := Option.bind_eq_some_iff.mp hrtx
  obtain ⟨p₂, hp₂, hrtx⟩ := Option.bind_eq_some_iff.mp hrtx
  obtain ⟨p₃, hp₃, hrtx⟩ := Option.bind_eq_some_iff.mp hrtx
  cases hrtx
  -- the setters, and then the two writes
  obtain ⟨b₁, hb₁, h₁, hsame₁⟩ := (holds_setters block p.marker
    [.payloadType (UInt8.ofInt stream.rtx.payloadType), .ssrc stream.rtx.ssrc,
      .sequenceNumber stream.rtxSeq, .marker p.marker, .timestamp p.timestamp]).allocatePayload hp₁
  obtain ⟨b₂, hb₂, h₂, hsame₂⟩ := h₁.write hp₂
  rw [writeUInt16_length] at h₂
  obtain ⟨b₃, hb₃, h₃, hsame₃⟩ := h₂.write hp₃
  have hfull : 0 + 2 + p.payload.length = p₃.payload.length := by
    rw [(write_spec hp₃).1, (write_spec hp₂).1, (allocatePayload_spec hp₁).1]
    unfold kRtxHeaderSize
    omega
  have hmarked : p₃.marker = p.marker := by
    rw [(write_spec hp₃).2, (write_spec hp₂).2, (allocatePayload_spec hp₁).2]
  rw [hfull] at h₃
  have hsame : SameHeader (applyAll (RtpPacketBuffer.new block)
      [.payloadType (UInt8.ofInt stream.rtx.payloadType), .ssrc stream.rtx.ssrc,
        .sequenceNumber stream.rtxSeq, .marker p₃.marker, .timestamp p.timestamp]) b₃ := by
    rw [hmarked]
    exact (hsame₁.trans hsame₂).trans hsame₃
  have himage := image_rtx block hsame h₃
  refine ⟨b₃, ?_, himage⟩
  unfold RtpPacketBuffer.buildRtxPacket
  rw [hmarker, hts, h.payloadSize, h.sequenceNumber, hpayload]
  dsimp only
  have halloc : RtpPacketBuffer.allocatePayload
      ((((((RtpPacketBuffer.new block).setPayloadType (UInt8.ofInt stream.rtx.payloadType)).setSsrc
        stream.rtx.ssrc).setSequenceNumber stream.rtxSeq).setMarker p.marker).setTimestamp p.timestamp)
      (p.payload.length + kRtxHeaderSize) = some b₁ := hb₁
  rw [halloc]
  simp only [Option.bind_eq_bind, Option.bind_some, hb₂]
  rw [show kRtxHeaderSize = 0 + 2 from rfl, hb₃]
  rfl

/-- `OnNackReceived` makes the same packets, by induction on the list of the NACK. Each finds its
packet in both caches or in neither. -/
theorem onNackReceived_backs (nackList : List UInt16) : ∀ {s : BufferedConnection}
    {pc pc' : PeerConnection} {packets : List RtpPacket}, Backs s pc →
      pc.onNackReceived nackList = some (packets, pc') →
      ∃ bs s', s.onNackReceived memory nackList = some (bs, s') ∧
        List.Forall₂ Image bs packets ∧ Backs s' pc' := by
  induction nackList with
  | nil =>
      intro s pc pc' packets h hnack
      cases hnack
      exact ⟨[], s, rfl, .nil, h⟩
  | cons nackId nackList ih =>
      intro s pc pc' packets h hnack
      have hstream : pc.videoSendStream = s.pc.videoSendStream := by rw [h.fields]
      have hfind := h.findVideoCache nackId
      unfold PeerConnection.onNackReceived at hnack
      unfold BufferedConnection.onNackReceived
      rw [hstream] at hnack
      generalize s.findVideoCache nackId = found at hfind ⊢
      generalize pc.findVideoCache nackId = found' at hfind hnack
      -- both caches have the packet, or neither has
      cases hfind with
      | none => exact ih h hnack
      | some hcached =>
          cases hs : s.pc.videoSendStream with
          | none =>
              rw [hs] at hnack
              exact ih h hnack
          | some stream =>
              rw [hs] at hnack
              dsimp only at hnack ⊢
              obtain ⟨⟨p', stream'⟩, hrtx, hnack⟩ := Option.bind_eq_some_iff.mp hnack
              obtain ⟨⟨rest, pc₂⟩, hrest, hnack⟩ := Option.bind_eq_some_iff.mp hnack
              cases hnack
              -- the packet that is made of the cached one is the image of the one made there
              obtain ⟨b', hb', himage⟩ :=
                buildRtxPacket_image stream stream' (memory s.allocated) hcached hrtx
              have hbacks : Backs { s with
                  pc := { s.pc with videoSendStream := some stream' }
                  allocated := s.allocated + 1 } { pc with videoSendStream := some stream' } :=
                h.congr rfl rfl (by rw [h.fields])
              obtain ⟨bs, s', hs', hforall, hbacks'⟩ := ih hbacks hrest
              refine ⟨b' :: bs, s', ?_, .cons himage hforall, hbacks'⟩
              rw [hb']
              simp only [Option.bind_eq_bind, Option.bind_some, hs']
              rfl

/-! ### A call -/

/-- What `SendPacket` is called with for a packet. -/
def wireBytes : SentPacket → Bytes
  | .media packet => datagram packet
  | .rtx packet => datagram packet
  | .rtcp packet => packet.data

/-- A call has its state from the call of another level, and has sent the bytes of its
packets. -/
structure CallBacks (s : BufferedCall) (c : VideoCall) : Prop where
  conn : Backs s.conn c.pc
  m : s.m = c.m
  sent : s.sent = c.sent.map wireBytes

/-- So the packets of a list are sent as their datagrams. -/
theorem map_bytes {bs : List RtpPacketBuffer} {packets : List RtpPacket}
    (h : List.Forall₂ Image bs packets) :
    bs.map RtpPacketBuffer.bytes = packets.map datagram := by
  induction h with
  | nil => rfl
  | cons hp _ ih => rw [List.map_cons, List.map_cons, hp.bytes, ih]

/-- The counters see the same packets. -/
theorem foldl_toRtpPacket {bs : List RtpPacketBuffer} {packets : List RtpPacket}
    (h : List.Forall₂ Image bs packets) (m : ModuleRtpRtcp) :
    bs.foldl (fun m b => m.updateRtpStats b.toRtpPacket false false) m
      = packets.foldl (fun m packet => m.updateRtpStats packet false false) m := by
  induction h generalizing m with
  | nil => rfl
  | cons hp _ ih => rw [List.foldl_cons, List.foldl_cons, hp.packet, ih]

/-- A report is sent as it is, while the connection is connected. -/
theorem map_reports {s : BufferedConnection} {pc : PeerConnection}
    (hstate : pc.pcState = s.pc.pcState) (reports : List LocalRtcpPacket) :
    reports.flatMap (BufferedCall.onLocalRtcpPacket s)
      = (reports.flatMap (VideoCall.onLocalRtcpPacket pc)).map wireBytes := by
  rw [List.map_flatMap]
  congr 1
  funext report
  unfold BufferedCall.onLocalRtcpPacket VideoCall.onLocalRtcpPacket
  rw [hstate]
  split <;> rfl

variable {clock : Clock} {rand : Nat → Int → Int → Int} {fuel : Nat}

/-- The packets of a frame, behind some reports. They are counted in both calls, where they are
counted, and the bytes that are sent are those of the packets. -/
theorem CallBacks.sendPackets {s : BufferedCall} {c : VideoCall} (h : CallBacks s c)
    (hup : ¬ s.conn.pc.pcState ≠ .connected) {frame : MediaFrame} {packets : List RtpPacket}
    {pc : PeerConnection} (hpackets : c.pc.sendEncodedImage frame = some (packets, pc))
    (reports : List LocalRtcpPacket) (m : ModuleRtpRtcp) (counted : Bool) :
    ∃ bs conn, s.conn.sendEncodedImage memory frame = some (bs, conn) ∧
      CallBacks
        { conn
          m :=
            if counted = true then
              bs.foldl (fun m b => m.updateRtpStats b.toRtpPacket false false) m
            else m
          sent :=
            s.sent ++ reports.flatMap (BufferedCall.onLocalRtcpPacket s.conn) ++
              bs.map RtpPacketBuffer.bytes }
        { pc
          m :=
            if counted = true then
              packets.foldl (fun m packet => m.updateRtpStats packet false false) m
            else m
          sent :=
            c.sent ++ reports.flatMap (VideoCall.onLocalRtcpPacket c.pc) ++
              packets.map .media } := by
  have hstate : c.pc.pcState = s.conn.pc.pcState := by rw [h.conn.fields]
  unfold PeerConnection.sendEncodedImage at hpackets
  rw [hstate, if_neg hup] at hpackets
  obtain ⟨packetizer, hnew, hloop⟩ := Option.bind_eq_some_iff.mp hpackets
  obtain ⟨bs, conn, hconn, hforall, hbacks⟩ := sendLoop_backs memory _ _ h.conn hloop
  -- the packets of the loop are counted and sent in the same way on both sides
  refine ⟨bs, conn, ?_, hbacks, ?_, ?_⟩
  · unfold BufferedConnection.sendEncodedImage
    rw [hnew]
    exact hconn
  · dsimp only
    rw [foldl_toRtpPacket hforall]
  · dsimp only
    rw [map_bytes hforall, map_reports hstate, h.sent]
    simp [Function.comp_def, wireBytes]

/-- One event of both calls. Whenever the call without bytes has a next state, the one with the
buffers has one, too, and what they have sent belongs together. -/
theorem CallBacks.step {s : BufferedCall} {c c' : VideoCall} (h : CallBacks s c)
    {e : VideoCall.Event} (hstep : c.step clock rand fuel e = some c') :
    ∃ s', s.step memory clock rand fuel e = some s' ∧ CallBacks s' c' := by
  have hstate : c.pc.pcState = s.conn.pc.pcState := by rw [h.conn.fields]
  have hstream : c.pc.videoSendStream = s.conn.pc.videoSendStream := by rw [h.conn.fields]
  cases e with
  | image frame captureTimeMs idr =>
      change c.sendEncodedImage clock rand fuel frame captureTimeMs idr = some c' at hstep
      show ∃ s', s.sendEncodedImage memory clock rand fuel frame captureTimeMs idr = some s' ∧ _
      unfold VideoCall.sendEncodedImage at hstep
      unfold BufferedCall.sendEncodedImage
      rw [hstate, hstream] at hstep
      rw [h.m]
      split at hstep
      · rename_i hdown
        cases hstep
        rw [if_pos hdown]
        exact ⟨s, rfl, h⟩
      · rename_i hup
        rw [if_neg hup]
        dsimp only at hstep ⊢
        -- with a stream the module makes reports first
        cases hcounted : s.conn.pc.videoSendStream.isSome with
        | true =>
            rw [hcounted, if_pos rfl] at hstep
            obtain ⟨⟨reports, m⟩, hreports, hstep⟩ := Option.bind_eq_some_iff.mp hstep
            obtain ⟨⟨packets, pc⟩, hpackets, hstep⟩ := Option.bind_eq_some_iff.mp hstep
            cases hstep
            obtain ⟨bs, conn, hconn, hcall⟩ :=
              h.sendPackets memory hup hpackets reports m true
            rw [if_pos rfl, hreports]
            simp only [Option.bind_eq_bind, Option.bind_some, hconn]
            exact ⟨_, rfl, hcall⟩
        | false =>
            rw [hcounted, if_neg (by simp)] at hstep
            obtain ⟨⟨reports, m⟩, hreports, hstep⟩ := Option.bind_eq_some_iff.mp hstep
            obtain ⟨⟨packets, pc⟩, hpackets, hstep⟩ := Option.bind_eq_some_iff.mp hstep
            cases hstep
            obtain ⟨bs, conn, hconn, hcall⟩ :=
              h.sendPackets memory hup hpackets reports m false
            rw [if_neg (by simp), hreports]
            simp only [Option.bind_eq_bind, Option.bind_some, hconn]
            exact ⟨_, rfl, hcall⟩
  | nack nackList =>
      change c.onNackReceived nackList = some c' at hstep
      show ∃ s', s.onNackReceived memory nackList = some s' ∧ _
      unfold VideoCall.onNackReceived at hstep
      obtain ⟨⟨packets, pc⟩, hpackets, hstep⟩ := Option.bind_eq_some_iff.mp hstep
      cases hstep
      obtain ⟨bs, conn, hconn, hforall, hbacks⟩ := onNackReceived_backs memory nackList h.conn hpackets
      unfold BufferedCall.onNackReceived
      rw [hconn]
      refine ⟨_, rfl, hbacks, h.m, ?_⟩
      dsimp only
      rw [map_bytes hforall, h.sent]
      simp [Function.comp_def, wireBytes]
  | task index =>
      change c.fireTask clock rand fuel index = some c' at hstep
      show ∃ s', s.fireTask clock rand fuel index = some s' ∧ _
      unfold VideoCall.fireTask at hstep
      obtain ⟨⟨reports, m⟩, hreports, hstep⟩ := Option.bind_eq_some_iff.mp hstep
      cases hstep
      unfold BufferedCall.fireTask
      rw [h.m, hreports]
      refine ⟨_, rfl, h.conn, rfl, ?_⟩
      dsimp only
      rw [map_reports hstate, h.sent, List.map_append]

/-- So it is with a run, by induction on the events. -/
theorem CallBacks.run {events : List VideoCall.Event} : ∀ {s : BufferedCall} {c c' : VideoCall},
    CallBacks s c → runPartial (VideoCall.step clock rand fuel) c events = some c' →
      ∃ s', runPartial (BufferedCall.step memory clock rand fuel) s events = some s' ∧
        CallBacks s' c' := by
  induction events with
  | nil =>
      intro s c c' h hrun
      cases hrun
      exact ⟨s, rfl, h⟩
  | cons e events ih =>
      intro s c c' h hrun
      obtain ⟨c₁, hstep, hrest⟩ := Option.bind_eq_some_iff.mp hrun
      obtain ⟨s₁, hs₁, h₁⟩ := h.step memory hstep
      obtain ⟨s', hs', h'⟩ := ih h₁ hrest
      exact ⟨s', by rw [runPartial_cons hs₁, hs'], h'⟩

/-- From the start on, every run of the call without bytes is a run of the call with the buffers.
Both have an empty cache then. -/
theorem callBacks_of_run {pc : PeerConnection} (hcache : ∀ i, pc.videoCache i = none)
    {ssrc : UInt32} {start c : VideoCall}
    (hstart : VideoCall.start clock rand fuel pc ssrc = some start)
    {events : List VideoCall.Event}
    (hrun : runPartial (VideoCall.step clock rand fuel) start events = some c) :
    ∃ bufferedStart s, BufferedCall.start clock rand fuel pc ssrc = some bufferedStart ∧
      runPartial (BufferedCall.step memory clock rand fuel) bufferedStart events = some s ∧
        CallBacks s c := by
  unfold VideoCall.start at hstart
  obtain ⟨⟨reports, m⟩, hreports, hstart⟩ := Option.bind_eq_some_iff.mp hstart
  cases hstart
  have hbacks : CallBacks
      { conn := { pc }, m, sent := reports.flatMap (BufferedCall.onLocalRtcpPacket { pc }) }
      { pc, m, sent := reports.flatMap (VideoCall.onLocalRtcpPacket pc) } := by
    refine ⟨⟨rfl, fun i => ?_⟩, rfl, map_reports rfl reports⟩
    rw [hcache i]
    exact .none
  obtain ⟨s, hs, hcall⟩ := hbacks.run memory hrun
  refine ⟨_, s, ?_, hs, hcall⟩
  unfold BufferedCall.start
  rw [hreports]
  rfl

/-- Every run of a call sends the bytes of its packets, whatever was in the memory that the
packets were built in. The run with the buffers is derived from the one without: each buffer is
the image of a packet, which every step of the call keeps. -/
theorem sent_of_run {pc : PeerConnection} (hcache : ∀ i, pc.videoCache i = none) {ssrc : UInt32}
    {start c : VideoCall} (hstart : VideoCall.start clock rand fuel pc ssrc = some start)
    {events : List VideoCall.Event}
    (hrun : runPartial (VideoCall.step clock rand fuel) start events = some c) :
    ∃ bufferedStart s, BufferedCall.start clock rand fuel pc ssrc = some bufferedStart ∧
      runPartial (BufferedCall.step memory clock rand fuel) bufferedStart events = some s ∧
        s.sent = c.sent.map wireBytes := by
  obtain ⟨bufferedStart, s, hbuffered, hs, hcall⟩ := callBacks_of_run memory hcache hstart hrun
  exact ⟨bufferedStart, s, hbuffered, hs, hcall.sent⟩

/-- Blocks with other bytes in them, one different from the next. -/
def dirtyMemory (n : Nat) : Memory := fun i => UInt8.ofNat (255 - n - i)

/-- Two images, a packet that is sent again, and the reports before the images. -/
theorem sent_of_nackedImage :
    ∃ start c bufferedStart s,
      VideoCall.start slowClock (fun _ low _ => low) 1 sendingConnection 11 = some start ∧
      runPartial (VideoCall.step slowClock (fun _ low _ => low) 1) start nackedImage = some c ∧
      c.sent.length = 5 ∧
      BufferedCall.start slowClock (fun _ low _ => low) 1 sendingConnection 11
        = some bufferedStart ∧
      runPartial (BufferedCall.step dirtyMemory slowClock (fun _ low _ => low) 1) bufferedStart
        nackedImage = some s ∧
      s.sent = c.sent.map wireBytes := by
  have hrun : ((VideoCall.start slowClock (fun _ low _ => low) 1 sendingConnection 11).bind
      fun start => runPartial (VideoCall.step slowClock (fun _ low _ => low) 1) start
        nackedImage).map (fun c => c.sent.length) = some 5 := by
    decide +kernel
  obtain ⟨c, hc, hlength⟩ := Option.map_eq_some_iff.mp hrun
  obtain ⟨start, hstart, hevents⟩ := Option.bind_eq_some_iff.mp hc
  obtain ⟨bufferedStart, s, hbuffered, hs, hsent⟩ :=
    sent_of_run dirtyMemory (fun _ => rfl) hstart hevents
  exact ⟨start, c, bufferedStart, s, hstart, hevents, hlength, hbuffered, hs, hsent⟩

/-! ### From a frame to its NAL units -/

/-- A receiver that parses the packets and puts their payloads together. -/
def receive (packets : List Bytes) : Option (List RtpHeader × List Bytes) := do
  let parsed ← packets.mapM RtpHeader.parse
  let nalus ← depacketize none (parsed.map Prod.snd)
  return (parsed.map Prod.fst, nalus)

/-- Every datagram of a list is parsed into the fields and the payload of its packet. -/
theorem mapM_parse (packets : List RtpPacket) :
    (packets.map datagram).mapM RtpHeader.parse
      = some (packets.map fun p => (wireHeader p, p.payload)) := by
  induction packets with
  | nil => rfl
  | cons p packets ih => simp [List.mapM_cons, parse_datagram, ih]

/-- The headers of the packets of a frame. -/
def frameHeaders (type : UInt8) (timestamp ssrc : UInt32) (first : UInt16) (count : Nat) :
    List RtpHeader :=
  (List.range count).map fun i =>
    ⟨decide (i + 1 = count), type &&& 0x7f, first + UInt16.ofNat i, timestamp, ssrc⟩

/-- The packets of a frame, with their markers. -/
theorem stamped_getElem? (type : UInt8) (timestamp ssrc : UInt32) (packets : List RtpPacketToSend) :
    ∀ (first : UInt16) (i : Nat), (stamped type timestamp ssrc first packets)[i]?
      = packets[i]?.map fun p =>
          ({ p with payloadType := type, sequenceNumber := first + UInt16.ofNat i, timestamp, ssrc } :
            RtpPacket) := by
  induction packets with
  | nil => exact fun _ _ => rfl
  | cons p packets ih =>
      intro first i
      cases i with
      | zero =>
          have hzero : first + UInt16.ofNat 0 = first := UInt16.add_zero _
          rw [stamped, List.getElem?_cons_zero, List.getElem?_cons_zero, Option.map_some, hzero]
      | succ i =>
          rw [stamped, List.getElem?_cons_succ, List.getElem?_cons_succ, ih]
          congr 1
          funext p
          rw [UInt16.ofNat_add, UInt16.add_comm (UInt16.ofNat i), ← UInt16.add_assoc]
          rfl

/-- The headers of the packets of an image: one after the other in their numbers, and the marker
on the last one. -/
theorem stamped_headers (type : UInt8) (timestamp ssrc : UInt32) (first : UInt16)
    (payloads : List Bytes) :
    (stamped type timestamp ssrc first (Proofs.Rtp.marked payloads)).map wireHeader
      = frameHeaders type timestamp ssrc first payloads.length := by
  apply List.ext_getElem?
  intro i
  rw [List.getElem?_map, stamped_getElem?, Option.map_map]
  unfold frameHeaders
  rw [List.getElem?_map]
  by_cases hi : i < payloads.length
  · rw [List.getElem?_range hi]
    obtain ⟨p, hp⟩ : ∃ p, (Proofs.Rtp.marked payloads)[i]? = some p :=
      ⟨_, List.getElem?_eq_getElem (by rwa [Proofs.Rtp.marked_length])⟩
    have hmarker := Proofs.Rtp.marked_marker payloads i p hp
    rw [hp]
    simp only [Option.map_some, Function.comp_apply, wireHeader, hmarker]
  · rw [List.getElem?_eq_none (by rw [Proofs.Rtp.marked_length]; omega),
      List.getElem?_eq_none (by simpa using hi)]
    rfl

/-- The packetizer of a frame makes payloads that a receiver puts together again. -/
theorem frame_payloads (frame : MediaFrame) {nalus : List Bytes}
    (hfind : nalUnits frame.data = some nalus)
    (hsingle : ∀ nalu ∈ nalus, Proofs.Rtp.IsSingle nalu) :
    ∃ packetizer payloads, RtpPacketizerH264.new frame.data {} = some packetizer ∧
      packetizer.drainLoop some packetizer.packets.length = some (Proofs.Rtp.marked payloads) ∧
        depacketize none payloads = some nalus := by
  have hle : ∀ nalu ∈ nalus, nalu.length ≤ 2 ^ 31 := fun nalu hnalu =>
    (Proofs.Rtp.nalUnits_length hfind nalu hnalu).trans frame.length_lt.le
  obtain ⟨groups, hqueue, hcover, hfits, -⟩ := Proofs.Rtp.ofNalUnits_spec
    Proofs.Rtp.defaultLimits_usable fun nalu hnalu => ⟨(hsingle nalu hnalu).1, hle nalu hnalu⟩
  have hroom := Proofs.Rtp.fits_packetRoom Proofs.Rtp.defaultLimits_usable hfits
  have hdrain := Proofs.Rtp.drainLoop_spec {} hroom _ (Proofs.Rtp.count_le hroom)
  have hreceived := Proofs.Rtp.depacketize_groups hroom (by rwa [hcover])
  rw [hcover] at hdrain hreceived
  refine ⟨⟨{}, nalus, groups.flatMap Proofs.Rtp.Group.units,
    (groups.map Proofs.Rtp.Group.count).sum⟩, groups.flatMap Proofs.Rtp.Group.payloads, ?_, hdrain,
    hreceived⟩
  rw [Proofs.Rtp.new_of_nalUnits hfind]
  exact hqueue

/-- An image is sent behind the reports that it triggers. -/
theorem image_split {c c' : VideoCall} (hconnected : c.pc.pcState = .connected) {frame : MediaFrame}
    {captureTimeMs : Int} {idr : Bool}
    (hstep : c.step clock rand fuel (.image frame captureTimeMs idr) = some c') :
    ∃ (reports : List LocalRtcpPacket) (packets : List RtpPacket),
      c.pc.sendEncodedImage frame = some (packets, c'.pc) ∧
        c'.sent = c.sent ++ reports.flatMap (VideoCall.onLocalRtcpPacket c.pc) ++
          packets.map .media := by
  change c.sendEncodedImage clock rand fuel frame captureTimeMs idr = some c' at hstep
  unfold VideoCall.sendEncodedImage at hstep
  rw [if_neg (not_not_intro hconnected)] at hstep
  dsimp only at hstep
  split at hstep <;>
  · obtain ⟨⟨reports, m⟩, -, hstep⟩ := Option.bind_eq_some_iff.mp hstep
    obtain ⟨⟨packets, pc⟩, hpackets, hstep⟩ := Option.bind_eq_some_iff.mp hstep
    cases hstep
    exact ⟨reports, packets, hpackets, rfl⟩

/-! #### The step of an image -/

/-- Counting packets leaves the sender of the reports as it is. -/
theorem foldl_updateRtpStats_sender (packets : List RtpPacket) : ∀ m : ModuleRtpRtcp,
    (packets.foldl (fun m packet => m.updateRtpStats packet false false) m).rtcpSender
      = m.rtcpSender := by
  induction packets with
  | nil => exact fun _ => rfl
  | cons packet packets ih => exact fun m => ih (m.updateRtpStats packet false false)

/-- Between the events of a call, the module can be asked for a report. -/
theorem awake_step (hrand : RandWithin rand (timeToNextBounds 1000)) {c c' : VideoCall}
    (h : Awake c.m) {e : VideoCall.Event} (hstep : c.step clock rand (fuel + 1) e = some c') :
    Awake c'.m := by
  cases e with
  | image frame captureTimeMs idr =>
      obtain ⟨reports, m, hm, hawake, -⟩ :=
        handle_counts clock hrand h (.frame (frame.ts * 90) captureTimeMs idr) fuel
      change c.m.onSendingRtpFrame clock rand (fuel + 1) _ _ _ = _ at hm
      change c.sendEncodedImage clock rand (fuel + 1) frame captureTimeMs idr = some c' at hstep
      unfold VideoCall.sendEncodedImage at hstep
      split at hstep
      · cases hstep
        exact h
      dsimp only at hstep
      split at hstep
      · -- the packets are counted, and the sender stays as it is
        obtain ⟨⟨reports', m'⟩, hm', hstep⟩ := Option.bind_eq_some_iff.mp hstep
        cases hm.symm.trans hm'
        obtain ⟨⟨packets, pc⟩, -, hstep⟩ := Option.bind_eq_some_iff.mp hstep
        cases hstep
        have hsender := foldl_updateRtpStats_sender packets m
        exact ⟨hawake.ready.of_rtcpSender hsender, by rw [hsender]; exact hawake.nextTime⟩
      · obtain ⟨⟨reports', m'⟩, hm', hstep⟩ := Option.bind_eq_some_iff.mp hstep
        cases hm'
        obtain ⟨⟨packets, pc⟩, -, hstep⟩ := Option.bind_eq_some_iff.mp hstep
        cases hstep
        exact h
  | nack nackList =>
      obtain ⟨⟨packets, pc⟩, -, hdone⟩ := Option.bind_eq_some_iff.mp hstep
      cases hdone
      exact h
  | task index =>
      obtain ⟨reports, m, hm, hawake, -⟩ := handle_counts clock hrand h (.task index) fuel
      obtain ⟨⟨reports', m'⟩, hfire, hdone⟩ := Option.bind_eq_some_iff.mp hstep
      cases hfire.symm.trans hm
      cases hdone
      exact hawake

/-- After every run the module is ready for its next timer, and knows when its next report is due.
So every further event has a next state. -/
theorem awake_of_run (hrand : RandWithin rand (timeToNextBounds 1000)) {pc : PeerConnection}
    {ssrc : UInt32} {start c : VideoCall}
    (hstart : VideoCall.start clock rand (fuel + 1) pc ssrc = some start)
    {events : List VideoCall.Event}
    (hrun : runPartial (VideoCall.step clock rand (fuel + 1)) start events = some c) :
    Awake c.m := by
  have haudio : (createRtpRtcpModule ssrc).audio = false := rfl
  have hinterval : 2 ≤ (createRtpRtcpModule ssrc).rtcpReportIntervalMs := by
    show (2 : Int) ≤ 1000
    decide
  have hmode : RtcpMode.compound ≠ .off := by decide
  obtain ⟨m, hm, hready, hnext, -⟩ := start_spec clock rand haudio hinterval hmode (fuel + 1)
  unfold VideoCall.start at hstart
  rw [hm] at hstart
  cases hstart
  have hawake : Awake m := ⟨hready, hnext⟩
  refine @invariant_of_runPartial _ _ (fun c : VideoCall => Awake c.m) _ ?_ _ _ _ hawake hrun
  exact fun c e c' hstep h => awake_step hrand h hstep

/-- An image with NAL units of its own can always be sent. -/
theorem exists_image (hrand : RandWithin rand (timeToNextBounds 1000)) {c : VideoCall}
    (h : Awake c.m) (hconnected : c.pc.pcState = .connected) {frame : MediaFrame}
    (hsingle : ∀ nalus, nalUnits frame.data = some nalus → ∀ nalu ∈ nalus,
      Proofs.Rtp.IsSingle nalu) (captureTimeMs : Int) (idr : Bool) :
    ∃ c', c.step clock rand (fuel + 1) (.image frame captureTimeMs idr) = some c' := by
  obtain ⟨reports, m, hm, -⟩ :=
    handle_counts clock hrand h (.frame (frame.ts * 90) captureTimeMs idr) fuel
  change c.m.onSendingRtpFrame clock rand (fuel + 1) _ _ _ = _ at hm
  obtain ⟨nalus, hfind⟩ := Proofs.Rtp.nalUnits_isSome frame.data
  obtain ⟨packetizer, payloads, hnew, hdrain, -⟩ :=
    frame_payloads frame hfind (hsingle nalus hfind)
  have hpackets := sendLoop_eq (frame.ts * 90) packetizer.packets.length c.pc hdrain
  change ∃ c', c.sendEncodedImage clock rand (fuel + 1) frame captureTimeMs idr = some c'
  unfold VideoCall.sendEncodedImage PeerConnection.sendEncodedImage
  rw [if_neg (not_not_intro hconnected), if_neg (not_not_intro hconnected), hnew]
  dsimp only
  rw [hm]
  simp only [Option.bind_eq_bind, Option.bind_some, hpackets]
  split <;> exact ⟨_, rfl⟩

/-! #### What is received -/

section

variable {pc : PeerConnection} (hcache : ∀ i, pc.videoCache i = none) {ssrc : UInt32}
  {start c c' : VideoCall} (hstart : VideoCall.start clock rand fuel pc ssrc = some start)
  {events : List VideoCall.Event}
  (hrun : runPartial (VideoCall.step clock rand fuel) start events = some c)
  (hconnected : c.pc.pcState = .connected) {frame : MediaFrame} {captureTimeMs : Int} {idr : Bool}
include hcache hstart hrun hconnected

/-- A receiver gets the NAL units of a frame from the bytes that are sent for it. -/
theorem received_of_step
    (hstep : c.step clock rand fuel (.image frame captureTimeMs idr) = some c')
    (hsingle : ∀ nalus, nalUnits frame.data = some nalus → ∀ nalu ∈ nalus,
      Proofs.Rtp.IsSingle nalu) :
    ∃ bufferedStart s s' reports datagrams nalus,
      BufferedCall.start clock rand fuel pc ssrc = some bufferedStart ∧
      runPartial (BufferedCall.step memory clock rand fuel) bufferedStart events = some s ∧
      s.step memory clock rand fuel (.image frame captureTimeMs idr) = some s' ∧
      s'.sent = s.sent ++ reports ++ datagrams ∧ nalUnits frame.data = some nalus ∧
      receive datagrams
        = some (frameHeaders c.pc.videoPt (frame.ts * 90) c.pc.localVideoSsrc c.pc.videoSeq
            datagrams.length, nalus) ∧
      s'.conn.pc.videoSeq = c.pc.videoSeq + UInt16.ofNat datagrams.length := by
  obtain ⟨bufferedStart, s, hbuffered, hs, hcall⟩ := callBacks_of_run memory hcache hstart hrun
  obtain ⟨s', hs', hcall'⟩ := hcall.step memory hstep
  obtain ⟨reports, packets, hpackets, hsent⟩ := image_split hconnected hstep
  -- what the packetizer makes of the frame
  obtain ⟨nalus, hfind⟩ := Proofs.Rtp.nalUnits_isSome frame.data
  obtain ⟨packetizer, payloads, hnew, hdrain, hreceived⟩ :=
    frame_payloads frame hfind (hsingle nalus hfind)
  unfold PeerConnection.sendEncodedImage at hpackets
  rw [if_neg (not_not_intro hconnected), hnew] at hpackets
  simp only [Option.bind_eq_bind, Option.bind_some] at hpackets
  rw [sendLoop_eq (frame.ts * 90) packetizer.packets.length c.pc hdrain, Option.some.injEq,
    Prod.mk.injEq] at hpackets
  obtain ⟨hstamped, hpc⟩ := hpackets
  have hlength : packets.length = payloads.length := by
    rw [← hstamped, ← List.length_map (f := wireHeader), stamped_headers]
    simp [frameHeaders]
  have hpayloads : packets.map (fun p => p.payload) = payloads := by
    rw [← hstamped, stamped_payload, Proofs.Rtp.marked_payload]
  refine ⟨bufferedStart, s, s', (reports.flatMap (VideoCall.onLocalRtcpPacket c.pc)).map wireBytes,
    packets.map datagram, nalus, hbuffered, hs, hs', ?_, hfind, ?_, ?_⟩
  · rw [hcall'.sent, hsent, hcall.sent]
    simp [Function.comp_def, wireBytes]
  · unfold receive
    rw [mapM_parse, List.length_map, hlength, ← stamped_headers, hstamped]
    simp only [Option.bind_eq_bind, Option.bind_some, List.map_map, Function.comp_def, hpayloads,
      hreceived]
    rfl
  · have hseq := congrArg PeerConnection.videoSeq hcall'.conn.fields
    dsimp only at hseq
    rw [← hseq, ← hpc, List.length_map, hlength, Proofs.Rtp.marked_length]

end

/-- At any time of a call that is connected, a receiver gets the NAL units of a frame from the
bytes that are sent for it. Only the last of them has the marker, and the sequence numbers go on
from one frame to the next. `random_` keeps to the bounds it is given, and one recursion is enough
for a report. -/
theorem frame_received {pc : PeerConnection} (hcache : ∀ i, pc.videoCache i = none)
    (hrand : RandWithin rand (timeToNextBounds 1000)) {ssrc : UInt32} {start c : VideoCall}
    (hstart : VideoCall.start clock rand (fuel + 1) pc ssrc = some start)
    {events : List VideoCall.Event}
    (hrun : runPartial (VideoCall.step clock rand (fuel + 1)) start events = some c)
    (hconnected : c.pc.pcState = .connected) {frame : MediaFrame} {captureTimeMs : Int} {idr : Bool}
    (hsingle : ∀ nalus, nalUnits frame.data = some nalus → ∀ nalu ∈ nalus,
      Proofs.Rtp.IsSingle nalu) :
    ∃ bufferedStart s s' reports datagrams nalus,
      BufferedCall.start clock rand (fuel + 1) pc ssrc = some bufferedStart ∧
      runPartial (BufferedCall.step memory clock rand (fuel + 1)) bufferedStart events = some s ∧
      s.step memory clock rand (fuel + 1) (.image frame captureTimeMs idr) = some s' ∧
      s'.sent = s.sent ++ reports ++ datagrams ∧ nalUnits frame.data = some nalus ∧
      receive datagrams
        = some (frameHeaders c.pc.videoPt (frame.ts * 90) c.pc.localVideoSsrc c.pc.videoSeq
            datagrams.length, nalus) ∧
      s'.conn.pc.videoSeq = c.pc.videoSeq + UInt16.ofNat datagrams.length := by
  obtain ⟨c', hstep⟩ := exists_image hrand (awake_of_run hrand hstart hrun) hconnected hsingle
    captureTimeMs idr
  exact received_of_step memory hcache hstart hrun hconnected hstep hsingle

/-- A key frame with its two parameter sets. -/
def keyImage : MediaFrame :=
  ⟨[0, 0, 1, 0x67, 1, 0, 0, 1, 0x68, 2, 0, 0, 1, 0x65, 7, 8], 80, by decide⟩

/-- A key frame behind two images and a packet that was sent again. -/
theorem keyImage_received :
    ∃ c : VideoCall, ∃ s s' : BufferedCall, ∃ reports datagrams,
      (VideoCall.start slowClock (fun _ low _ => low) 1 sendingConnection 11).bind (fun start =>
        runPartial (VideoCall.step slowClock (fun _ low _ => low) 1) start nackedImage) = some c ∧
      c.pc.videoSeq = 1002 ∧
      (BufferedCall.start slowClock (fun _ low _ => low) 1 sendingConnection 11).bind (fun start =>
        runPartial (BufferedCall.step dirtyMemory slowClock (fun _ low _ => low) 1) start
          nackedImage) = some s ∧
      s.step dirtyMemory slowClock (fun _ low _ => low) 1 (.image keyImage 3 true) = some s' ∧
      s'.sent = s.sent ++ reports ++ datagrams ∧
      receive datagrams = some (frameHeaders c.pc.videoPt (80 * 90) c.pc.localVideoSsrc 1002
        datagrams.length, [[0x67, 1], [0x68, 2], [0x65, 7, 8]]) := by
  -- the call without its bytes is run, which decides the premises
  have hrun : ((VideoCall.start slowClock (fun _ low _ => low) 1 sendingConnection 11).bind
      fun start => runPartial (VideoCall.step slowClock (fun _ low _ => low) 1) start
        nackedImage).map (fun c => (c.pc.pcState, c.pc.videoSeq)) = some (.connected, 1002) := by
    decide +kernel
  obtain ⟨c, hc, heq⟩ := Option.map_eq_some_iff.mp hrun
  obtain ⟨hconnected, hseq⟩ := Prod.mk.inj heq
  obtain ⟨start, hstart, hevents⟩ := Option.bind_eq_some_iff.mp hc
  have hnalus : nalUnits keyImage.data = some [[0x67, 1], [0x68, 2], [0x65, 7, 8]] := by
    decide +kernel
  have hrand : RandWithin (fun _ low _ => low) (timeToNextBounds 1000) := by
    intro n
    have hbounds : (timeToNextBounds 1000).1 ≤ (timeToNextBounds 1000).2 := by decide
    exact ⟨le_refl _, hbounds⟩
  have hsingle : ∀ nalus, nalUnits keyImage.data = some nalus → ∀ nalu ∈ nalus,
      Proofs.Rtp.IsSingle nalu := by
    intro nalus h
    rw [hnalus, Option.some.injEq] at h
    subst h
    unfold Proofs.Rtp.IsSingle
    decide
  -- what the receiver gets is the theorem's
  obtain ⟨bufferedStart, s, s', reports, datagrams, nalus, hbuffered, hs, hs', hsent, hfind,
      hreceived, -⟩ :=
    @frame_received dirtyMemory slowClock _ 0 _ (fun _ => rfl) hrand 11 start c hstart nackedImage
      hevents hconnected keyImage 3 true hsingle
  rw [hnalus] at hfind
  cases hfind
  rw [hseq] at hreceived
  exact ⟨c, s, s', reports, datagrams, hc, hseq, by rw [hbuffered, Option.bind_some, hs], hs', hsent,
    hreceived⟩

end Xrtc.Proofs.Sdk
