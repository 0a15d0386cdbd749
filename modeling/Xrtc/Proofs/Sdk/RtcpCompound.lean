import Xrtc.Proofs.Sdk.RtcpFrames
import Xrtc.Proofs.Sdk.SenderReports
import Xrtc.Sdk.RtcpCompound

/-!
# `Xrtc.Proofs.Sdk.RtcpCompound`: sender reports in compound packets

The array of a `PacketSender` holds the packet so far at its front (`Filled`), and every write
of `Create` goes right behind it. So the array does what the byte string of
`Xrtc.Sdk.RtpRtcp` does (`append_filled`, `compound_eq`), and what it held at first does not
matter.

The byte string is a list of whole reports at every time (`Packed`). The report that does not
fit is the first one of the next packet. A packet of reports is a list of frames, and `walk`,
which goes from header to header, finds them (`recovered_packetOf`).
-/

set_option autoImplicit false

namespace Xrtc.Proofs.Sdk

open Xrtc.Lib
open Xrtc.Rtp
open Xrtc.Sdk

/-! ### Writes to the array -/

/-- The array holds these bytes at its front, and `index_` and the packets called back are as
given. -/
structure Filled (s : PacketBuffer) (index : Nat) (ready : List Bytes) (front : Bytes) : Prop where
  index_eq : s.index = index
  ready_eq : s.ready = ready
  front_eq : s.buffer.take front.length = front

/-- A step over the array succeeds and fills it. -/
def Fills (r : Option PacketBuffer) (index : Nat) (ready : List Bytes) (front : Bytes) : Prop :=
  ∃ s, r = some s ∧ Filled s index ready front

section

variable {s : PacketBuffer} {index : Nat} {ready : List Bytes} {front : Bytes}

/-- A sender with some bytes in its buffer has a result. -/
theorem Filled.fills (h : Filled s index ready front) : Fills (some s) index ready front :=
  ⟨s, rfl, h⟩

/-- A write behind the bytes in front, and what is done after it. -/
theorem Filled.put_bind (h : Filled s index ready front) {offset : Nat} {bytes : Bytes}
    {next : PacketBuffer → Option PacketBuffer} {index' : Nat} {front' : Bytes}
    (hpos : index + offset = front.length) (hfit : front.length + bytes.length ≤ ipPacketSize)
    (hnext : ∀ s', Filled s' index ready (front ++ bytes) →
      Fills (next s') index' ready front') :
    Fills (s.put offset bytes >>= next) index' ready front' := by
  have hwrite : s.index + offset = front.length := by rw [h.index_eq, hpos]
  unfold PacketBuffer.put
  dsimp only
  rw [dif_pos (by omega)]
  apply hnext
  refine ⟨h.index_eq, h.ready_eq, ?_⟩
  show (s.buffer.take (s.index + offset) ++ bytes ++ _).take (front ++ bytes).length = _
  -- the bytes in front are not written to
  rw [hwrite, h.front_eq, List.take_left' rfl]

/-- The index can be moved on, the bytes in front of it stay. -/
theorem Filled.advance (h : Filled s index ready front) (n : Nat) :
    Filled (s.advance n) (index + n) ready front where
  index_eq := by rw [← h.index_eq]; rfl
  ready_eq := h.ready_eq
  front_eq := h.front_eq

/-- The two bytes that `CreateHeader` writes for the length. -/
theorem lengthBytes_eq (v : UInt16) :
    [((v >>> 8) &&& 0xFF).toUInt8] ++ [(v &&& 0xFF).toUInt8] = writeUInt16 v := by
  have hmask : ∀ n : Nat, n &&& 255 = n % 256 := fun n => Nat.and_two_pow_sub_one_eq_mod n 8
  have hhigh : ((v >>> 8) &&& 0xFF).toUInt8 = UInt8.ofNat (v.toNat / 256 ^ 1) := by
    apply UInt8.toNat_inj.mp
    simp [hmask, Nat.shiftRight_eq_div_pow]
  have hlow : (v &&& 0xFF).toUInt8 = UInt8.ofNat (v.toNat / 256 ^ 0) := by
    apply UInt8.toNat_inj.mp
    simp [hmask]
  rw [hhigh, hlow]
  rfl

/-- `CreateHeader` without padding writes the header of `Xrtc.Sdk.RtpRtcp`. -/
theorem Filled.createHeader (h : Filled s front.length ready front)
    (hfit : front.length + 4 ≤ ipPacketSize) (countOrFmt : Nat) (packetType : UInt8)
    (blockLength : UInt16) :
    Fills (s.createHeader countOrFmt packetType blockLength false) (front.length + 4) ready
      (front ++ createHeader countOrFmt packetType blockLength) := by
  have hfirst : (2 : UInt8) <<< 6 ||| 0 ||| UInt8.ofNat countOrFmt
      = 0x80 ||| UInt8.ofNat countOrFmt :=
    rfl
  unfold PacketBuffer.createHeader
  dsimp only
  -- four writes of one byte each, and the length is the last two
  refine h.put_bind (by omega) (by simp; omega) fun s h => ?_
  refine h.put_bind (by simp) (by simp; omega) fun s h => ?_
  refine h.put_bind (by simp) (by simp; omega) fun s h => ?_
  refine h.put_bind (by simp) (by simp; omega) fun s h => ?_
  have hadvance := (h.advance kHeaderSizeBytes).fills
  rw [List.append_assoc _ _ [(blockLength &&& 0xFF).toUInt8], lengthBytes_eq, List.append_assoc,
    List.append_assoc] at hadvance
  exact hadvance

/-! ### One report -/

/-- A report is written behind the bytes in front. -/
theorem Filled.write (h : Filled s front.length ready front) (sr : SenderReport)
    (hfit : front.length + sr.blockLength ≤ ipPacketSize) :
    Fills (s.write sr) (front.length + sr.blockLength) ready (front ++ sr.bytes) := by
  have hlength : sr.blockLength = 28 := rfl
  rw [hlength] at hfit ⊢
  have hheader : (Sdk.createHeader 0 SenderReport.kPacketType sr.headerLength).length = 4 := by
    simp [Sdk.createHeader]
  obtain ⟨s, hcreate, h⟩ :=
    h.createHeader (by omega) 0 SenderReport.kPacketType sr.headerLength
  unfold PacketBuffer.write
  rw [hcreate]
  -- the header, and then the six fields, each behind the one before
  refine h.put_bind (by simp; omega) (by simp; omega) fun s h => ?_
  refine h.put_bind (by simp; omega) (by simp; omega) fun s h => ?_
  refine h.put_bind (by simp; omega) (by simp; omega) fun s h => ?_
  refine h.put_bind (by simp; omega) (by simp; omega) fun s h => ?_
  refine h.put_bind (by simp; omega) (by simp; omega) fun s h => ?_
  refine h.put_bind (by simp; omega) (by simp; omega) fun s h => ?_
  have hadvance := (h.advance SenderReport.kSenderBaseLength).fills
  simp only [List.append_assoc] at hadvance
  unfold SenderReport.bytes
  simp only [List.append_assoc]
  exact hadvance

/-- Where there is room, nothing is sent. -/
theorem makeRoom_of_le {blockLength maxLength : Nat} (h : s.index + blockLength ≤ maxLength) :
    s.makeRoom blockLength maxLength = (true, s) := by
  rw [PacketBuffer.makeRoom, if_neg (Nat.not_lt.mpr h)]

/-- There is no room in an empty buffer. -/
theorem makeRoom_of_zero {blockLength maxLength : Nat} (h : maxLength < s.index + blockLength)
    (hindex : s.index = 0) : s.makeRoom blockLength maxLength = (false, s) := by
  have hfull : s.onBufferFull = none := if_pos hindex
  rw [PacketBuffer.makeRoom, if_pos h]
  split
  · rfl
  · rename_i hsome
    rw [hfull] at hsome
    cases hsome

/-- A packet that is not empty is called back, and the next one is empty. -/
theorem makeRoom_of_pos {blockLength maxLength : Nat} (h : maxLength < s.index + blockLength)
    (hindex : s.index ≠ 0) :
    s.makeRoom blockLength maxLength = s.callback.makeRoom blockLength maxLength := by
  have hfull : s.onBufferFull = some s.callback := if_neg hindex
  rw [PacketBuffer.makeRoom, if_pos h]
  split
  · rename_i hnone
    rw [hfull] at hnone
    cases hnone
  · rename_i hsome
    rw [hfull] at hsome
    cases hsome
    rfl

/-- The callback gets what was filled, and the buffer is empty again. The bytes of the array stay
where they are. -/
theorem Filled.callback (h : Filled s front.length ready front) :
    Filled s.callback 0 (ready ++ [front]) [] where
  index_eq := rfl
  ready_eq := by
    show s.ready ++ [s.buffer.take s.index] = _
    rw [h.ready_eq, h.index_eq, h.front_eq]
  front_eq := List.take_zero

end

/-- The array does what the byte string does. -/
def Mirrors (s : PacketBuffer) (sender : PacketSender) : Prop :=
  Filled s sender.buffer.length sender.ready sender.buffer

section

variable {maxPacketSize : Nat} {s s' : PacketBuffer} {sender : PacketSender} {sr : SenderReport}

/-- A report for which there is room goes behind the others. It is written byte by byte into the
array, which gives the same bytes as the report has. -/
theorem append_of_room {ready : List Bytes} {front : Bytes}
    (hroom : s.makeRoom sr.blockLength maxPacketSize = (true, s'))
    (h : Filled s' front.length ready front)
    (hfit : front.length + sr.blockLength ≤ ipPacketSize) :
    ∃ s'', s.append maxPacketSize sr = some s'' ∧ Mirrors s'' ⟨front ++ sr.bytes, ready⟩ := by
  obtain ⟨s'', hwrite, hfilled⟩ := h.write sr hfit
  have hlength : (front ++ sr.bytes).length = front.length + sr.blockLength := by
    rw [List.length_append, bytes_length]
    rfl
  refine ⟨s'', ?_, ?_⟩
  · simp [PacketBuffer.append, PacketBuffer.create, hroom, hwrite]
  · rw [← hlength] at hfilled
    exact hfilled

/-- A report that has no room in an empty buffer is left out. -/
theorem append_of_noRoom (hroom : s.makeRoom sr.blockLength maxPacketSize = (false, s')) :
    s.append maxPacketSize sr = some s' := by
  simp [PacketBuffer.append, PacketBuffer.create, hroom]

/-- One `Append`. Where there is no room in a buffer that is not empty, it is called back, and
`Create` goes on with an empty one. -/
theorem append_mirrors (h : Mirrors s sender) (hmax : maxPacketSize ≤ ipPacketSize) :
    ∃ s', s.append maxPacketSize sr = some s' ∧ Mirrors s' (sender.append maxPacketSize sr) := by
  have hindex : s.index = sender.buffer.length := h.index_eq
  unfold PacketSender.append
  split
  · -- the report fits behind the others
    rename_i hfits
    have hfits : s.index + sr.blockLength ≤ maxPacketSize := by
      rw [hindex]
      exact hfits
    exact append_of_room (makeRoom_of_le hfits) h (by omega)
  · rename_i hfull
    have hfull : maxPacketSize < s.index + sr.blockLength := by
      rw [hindex]
      omega
    split
    · -- it does not fit into an empty packet, and is left out
      rename_i hempty
      exact ⟨s, append_of_noRoom (makeRoom_of_zero hfull (hindex.trans hempty)), h⟩
    · rename_i hempty
      have hpos : s.index ≠ 0 := by
        rw [hindex]
        exact hempty
      have hroom := makeRoom_of_pos hfull hpos
      have hcallback := Filled.callback h
      dsimp only
      split
      · -- it is the first one of the next packet
        rename_i hfits
        have hempty : s.callback.index = 0 := hcallback.index_eq
        rw [makeRoom_of_le (s := s.callback) (by omega)] at hroom
        have hfilled : Filled s.callback ([] : Bytes).length (sender.ready ++ [sender.buffer]) [] :=
          hcallback
        exact append_of_room hroom hfilled (by rw [List.length_nil]; omega)
      · rename_i htooLarge
        have hempty : s.callback.index = 0 := hcallback.index_eq
        rw [makeRoom_of_zero (s := s.callback) (by omega) hempty] at hroom
        exact ⟨s.callback, append_of_noRoom hroom, hcallback⟩

/-- Any number of them. -/
theorem foldlM_append_mirrors (h : Mirrors s sender) (hmax : maxPacketSize ≤ ipPacketSize)
    (srs : List SenderReport) :
    ∃ s', srs.foldlM (PacketBuffer.append maxPacketSize) s = some s' ∧
      Mirrors s' (srs.foldl (PacketSender.append maxPacketSize) sender) := by
  induction srs generalizing s sender with
  | nil => exact ⟨s, rfl, h⟩
  | cons sr srs ih =>
      obtain ⟨s', happend, h'⟩ : ∃ s', s.append maxPacketSize sr = some s' ∧
          Mirrors s' (sender.append maxPacketSize sr) := append_mirrors h hmax
      obtain ⟨s'', hrest, h''⟩ := ih h'
      refine ⟨s'', ?_, h''⟩
      rw [List.foldlM_cons, happend]
      exact hrest

/-- What both senders hand over is the same. -/
theorem ready_send (h : Mirrors s sender) : s.send.ready = sender.send := by
  have hindex : s.index = sender.buffer.length := h.index_eq
  unfold PacketBuffer.send PacketSender.send
  rw [hindex]
  split
  · exact (Filled.callback h).ready_eq
  · exact h.ready_eq

end

/-- The packets are those of the byte string, whatever the array held at first. -/
theorem compound_eq (memory : Vector UInt8 ipPacketSize) {maxPacketSize : Nat}
    (hmax : maxPacketSize ≤ ipPacketSize) (srs : List SenderReport) :
    compound memory maxPacketSize srs
      = some (srs.foldl (PacketSender.append maxPacketSize) {}).send := by
  have hnew : Mirrors (PacketBuffer.new memory) {} := ⟨rfl, rfl, List.take_zero⟩
  obtain ⟨s, hfold, h⟩ := foldlM_append_mirrors hnew hmax srs
  unfold compound
  rw [hfold]
  exact congrArg some (ready_send h)

/-! ### Whole reports -/

/-- The packet that some reports make up. -/
def packetOf (srs : List SenderReport) : Bytes := (srs.map SenderReport.bytes).flatten

/-- Each report takes 28 bytes. -/
theorem length_packetOf (srs : List SenderReport) : (packetOf srs).length = 28 * srs.length := by
  induction srs with
  | nil => rfl
  | cons sr srs ih =>
      show (sr.bytes ++ packetOf srs).length = 28 * (srs.length + 1)
      rw [List.length_append, bytes_length, ih]
      omega

/-- The bytes of two lists of reports lie one behind the other. -/
theorem packetOf_append (srs srs' : List SenderReport) :
    packetOf (srs ++ srs') = packetOf srs ++ packetOf srs' := by
  unfold packetOf
  rw [List.map_append, List.flatten_append]

/-- So it is with any number of lists. -/
theorem packetOf_flatten (groups : List (List SenderReport)) :
    packetOf groups.flatten = (groups.map packetOf).flatten := by
  induction groups with
  | nil => rfl
  | cons group groups ih =>
      rw [List.flatten_cons, packetOf_append, ih]
      rfl

/-- A packet that may be called back: it has a report, and is not too long. -/
def Fits (maxPacketSize : Nat) (group : List SenderReport) : Prop :=
  group ≠ [] ∧ (packetOf group).length ≤ maxPacketSize

/-- After these reports the sender has called back packets of whole reports, and what it
holds is whole reports too. -/
structure Packed (maxPacketSize : Nat) (srs : List SenderReport)
    (groups : List (List SenderReport)) (last : List SenderReport) (sender : PacketSender) :
    Prop where
  ready_eq : sender.ready = groups.map packetOf
  buffer_eq : sender.buffer = packetOf last
  reports : groups.flatten ++ last = srs
  fits : ∀ group ∈ groups, Fits maxPacketSize group
  length_le : (packetOf last).length ≤ maxPacketSize

/-- One report more: it goes into the last packet, or begins a new one if that is full. All
packets in front of it are full, and none is longer than allowed. -/
theorem packed_append {maxPacketSize : Nat} {srs last : List SenderReport}
    {groups : List (List SenderReport)} {sender : PacketSender}
    (h : Packed maxPacketSize srs groups last sender) (hmax : 28 ≤ maxPacketSize)
    (sr : SenderReport) :
    ∃ groups' last',
      Packed maxPacketSize (srs ++ [sr]) groups' last' (sender.append maxPacketSize sr) := by
  have hlength : sr.blockLength = 28 := rfl
  have hone : packetOf [sr] = sr.bytes := List.append_nil _
  unfold PacketSender.append
  rw [h.buffer_eq, hlength]
  split
  · -- the report fits behind the others
    rename_i hfits
    have hreports := h.reports
    exact ⟨groups, last ++ [sr],
      { ready_eq := h.ready_eq
        buffer_eq := by rw [packetOf_append, hone]
        reports := by rw [← List.append_assoc, hreports]
        fits := h.fits
        length_le := by rw [packetOf_append, hone, List.length_append, bytes_length]; exact hfits }⟩
  · rename_i hfull
    have hnonempty : (packetOf last).length ≠ 0 := by omega
    rw [if_neg hnonempty]
    have hlast : last ≠ [] := by
      rintro rfl
      exact hnonempty rfl
    have hready := h.ready_eq
    have hreports := h.reports
    exact ⟨groups ++ [last], [sr],
      { ready_eq := by rw [List.map_append, ← hready]; rfl
        buffer_eq := hone.symm
        reports := by rw [List.flatten_append, List.flatten_singleton, hreports]
        fits := by
          intro group hgroup
          rcases List.mem_append.mp hgroup with hgroup | hgroup
          · exact h.fits group hgroup
          · obtain rfl := List.mem_singleton.mp hgroup
            exact ⟨hlast, h.length_le⟩
        length_le := by rw [hone, bytes_length]; exact hmax }⟩

/-- So all reports are packed, by induction from the end of the list. -/
theorem packed_foldl {maxPacketSize : Nat} (hmax : 28 ≤ maxPacketSize) (srs : List SenderReport) :
    ∃ groups last,
      Packed maxPacketSize srs groups last
        (srs.foldl (PacketSender.append maxPacketSize) {}) := by
  induction srs using List.reverseRecOn with
  | nil =>
      exact ⟨[], [],
        { ready_eq := rfl
          buffer_eq := rfl
          reports := rfl
          fits := fun _ hgroup => nomatch hgroup
          length_le := Nat.zero_le _ }⟩
  | append_singleton srs sr ih =>
      obtain ⟨groups, last, h⟩ := ih
      rw [List.foldl_append]
      exact packed_append h hmax sr

/-- `Send` calls back what is left, if there is any. -/
theorem packed_send {maxPacketSize : Nat} {srs last : List SenderReport}
    {groups : List (List SenderReport)} {sender : PacketSender}
    (h : Packed maxPacketSize srs groups last sender) :
    ∃ groups' : List (List SenderReport), sender.send = groups'.map packetOf ∧
      groups'.flatten = srs ∧ ∀ group ∈ groups', Fits maxPacketSize group := by
  have hreports := h.reports
  unfold PacketSender.send
  rw [h.buffer_eq, h.ready_eq, length_packetOf]
  split
  · rename_i hpos
    refine ⟨groups ++ [last], by rw [List.map_append]; rfl, ?_, ?_⟩
    · rw [List.flatten_append, List.flatten_singleton, hreports]
    · intro group hgroup
      rcases List.mem_append.mp hgroup with hgroup | hgroup
      · exact h.fits group hgroup
      · obtain rfl := List.mem_singleton.mp hgroup
        exact ⟨List.length_pos_iff.mp (by omega), h.length_le⟩
  · rename_i hzero
    have hlast : last = [] := List.eq_nil_of_length_eq_zero (by omega)
    rw [hlast, List.append_nil] at hreports
    exact ⟨groups, rfl, hreports, h.fits⟩

/-! ### Reading a packet -/

/-- The headers in a packet, from one to the next with `NextPacket`. There are none where
`Parse` fails before the end of the packet. -/
def walk (packet : Bytes) (nextBlock : Nat) (hle : nextBlock ≤ packet.length) :
    Option (List CommonHeader) :=
  if nextBlock = packet.length then some []
  else
    match hparse : (CommonHeader.parse packet nextBlock (packet.length - nextBlock)).value with
    | none => none
    | some header =>
        have hnext : nextBlock < header.nextPacket ∧ header.nextPacket ≤ packet.length := by
          have hbounds := CommonHeader.nextPacket_of_parse hparse
          rw [kHeaderSizeBytes] at hbounds
          omega
        (walk packet header.nextPacket hnext.2).map (header :: ·)
termination_by packet.length - nextBlock

/-- The sender report behind a header, by the layout that `Create` has. -/
def senderReportAt (packet : Bytes) (header : CommonHeader) : Option SenderReport :=
  if header.packetType = SenderReport.kPacketType ∧ header.countOrFmt = 0 ∧
      header.payloadSize.toNat = SenderReport.kSenderBaseLength then
    some
      { senderSsrc := getBE32 packet header.payload
        ntpTime := (getBE32 packet (header.payload + 4), getBE32 packet (header.payload + 8))
        rtpTimestamp := getBE32 packet (header.payload + 12)
        sendPacketCount := getBE32 packet (header.payload + 16)
        sendPacketOctet := getBE32 packet (header.payload + 20) }
  else none

/-- A packet has a first position. -/
theorem zero_le_length (packet : Bytes) : 0 ≤ packet.length := Nat.zero_le _

/-- The reports that a walk over the whole packet finds. -/
def recovered (packet : Bytes) : Option (List SenderReport) :=
  (walk packet 0 (zero_le_length packet)).bind fun headers =>
    headers.mapM (senderReportAt packet)

/-- The headers of blocks that stand one behind the other. -/
def headersAt : Nat → List Bytes → List CommonHeader
  | _, [] => []
  | pos, block :: blocks =>
      { CommonHeader.fromBytes block 0 with payload := pos + kHeaderSizeBytes } ::
        headersAt (pos + block.length) blocks

section

variable {packet : Bytes} {pos : Nat} {hle : pos ≤ packet.length}

/-- The walk ends at the end of the packet. -/
theorem walk_of_eq (hend : pos = packet.length) : walk packet pos hle = some [] := by
  rw [walk, if_pos hend]

/-- One step of the walk, from a header to the block behind it. -/
theorem walk_of_parse {header : CommonHeader} {next : Nat} (hend : pos ≠ packet.length)
    (hparse : (CommonHeader.parse packet pos (packet.length - pos)).value = some header)
    (hnext : header.nextPacket = next) (hle' : next ≤ packet.length) :
    walk packet pos hle = (walk packet next hle').map (header :: ·) := by
  subst hnext
  rw [walk, if_neg hend]
  split
  · rename_i hnone
    rw [hparse] at hnone
    cases hnone
  · rename_i hsome
    rw [hparse] at hsome
    cases hsome
    rfl

/-- A walk over blocks finds their headers, and ends at the end of the packet. -/
theorem walk_frames {blocks : List Bytes} {front : Bytes}
    (hframes : ∀ block ∈ blocks, rtcpFraming.IsFrame block)
    (hpacket : packet = front ++ blocks.flatten) (hpos : pos = front.length) :
    walk packet pos hle = some (headersAt pos blocks) := by
  induction blocks generalizing front pos with
  | nil =>
      apply walk_of_eq
      rw [hpacket, hpos, List.flatten_nil, List.append_nil]
  | cons block blocks ih =>
      have hframe := hframes block List.mem_cons_self
      have hpayload := payloadSize_of_isFrame hframe
      have hheader := header_le_of_isFrame hframe
      have hparse := parse_append hframe front blocks.flatten
      rw [List.flatten_cons] at hpacket
      rw [← hpacket, ← hpos] at hparse
      have hlength : packet.length = pos + block.length + blocks.flatten.length := by
        rw [hpacket, hpos, List.length_append, List.length_append, Nat.add_assoc]
      have hend : pos ≠ packet.length := by
        rw [kHeaderSizeBytes] at hheader
        omega
      -- the walk goes on behind the block
      have hnext : CommonHeader.nextPacket
          { CommonHeader.fromBytes block 0 with payload := pos + kHeaderSizeBytes }
            = pos + block.length := by
        show pos + kHeaderSizeBytes + 0 + (CommonHeader.fromBytes block 0).payloadSize.toNat = _
        omega
      have hle' : pos + block.length ≤ packet.length := by omega
      have hpacket' : packet = front ++ block ++ blocks.flatten := by
        rw [List.append_assoc, hpacket]
      have hrest : walk packet (pos + block.length) hle'
          = some (headersAt (pos + block.length) blocks) :=
        ih (fun b hb => hframes b (List.mem_cons_of_mem _ hb)) hpacket'
          (by rw [hpos, List.length_append])
      rw [walk_of_parse hend hparse hnext hle', hrest]
      rfl

end

/-! ### Sender reports -/

/-- A sender report is one block: its length field says how long it is. -/
theorem isFrame_bytes (sr : SenderReport) : rtcpFraming.IsFrame sr.bytes := by
  have hversion : sr.bytes.getD 0 0 >>> 6 = 2 := by
    show (0x80 ||| UInt8.ofNat 0) >>> 6 = 2
    decide
  have hlength : getBE16 sr.bytes 2 = sr.headerLength := by
    unfold SenderReport.bytes Sdk.createHeader
    simp only [List.append_assoc]
    rw [getBE16_append_right (k := 2) rfl _ 0, getBE16_writeUInt16]
  have hwords : sr.headerLength.toNat * 4 + kHeaderSizeBytes = 28 := by
    unfold SenderReport.headerLength SenderReport.blockLength
    decide
  rw [isFrame_rtcpFraming, bytes_length, hlength]
  exact ⟨hversion, hwords⟩

/-- What is read behind the header of a report is the report, field by field at its place. -/
theorem senderReportAt_slice {packet : Bytes} {pos : Nat} {sr : SenderReport}
    (h : IsSlice packet pos sr.bytes) :
    senderReportAt packet
        { CommonHeader.fromBytes sr.bytes 0 with payload := pos + kHeaderSizeBytes }
      = some sr := by
  have hcount : (CommonHeader.fromBytes sr.bytes 0).countOrFmt = 0 := by
    show (0x80 ||| UInt8.ofNat 0) &&& 0x1F = 0
    decide
  have hsize := payloadSize_of_isFrame (isFrame_bytes sr)
  rw [bytes_length, kHeaderSizeBytes] at hsize
  have hsize : (CommonHeader.fromBytes sr.bytes 0).payloadSize.toNat
      = SenderReport.kSenderBaseLength := Nat.add_left_cancel hsize
  have hheader : (Sdk.createHeader 0 200 sr.headerLength).length = kHeaderSizeBytes := by
    simp [Sdk.createHeader, kHeaderSizeBytes]
  -- the fields stand one behind the other
  have hfields := h
  unfold SenderReport.bytes at hfields
  simp only [List.append_assoc] at hfields
  have hfields := hfields.right
  rw [hheader] at hfields
  obtain ⟨hssrc, hfields⟩ := hfields.getBE32_writeUInt32
  obtain ⟨hseconds, hfields⟩ := hfields.getBE32_writeUInt32
  obtain ⟨hfractions, hfields⟩ := hfields.getBE32_writeUInt32
  obtain ⟨hrtp, hfields⟩ := hfields.getBE32_writeUInt32
  obtain ⟨hpackets, hfields⟩ := hfields.getBE32_writeUInt32
  rw [← List.append_nil (writeUInt32 sr.sendPacketOctet)] at hfields
  obtain ⟨hoctets, -⟩ := hfields.getBE32_writeUInt32
  unfold senderReportAt
  rw [if_pos ⟨rfl, hcount, hsize⟩]
  dsimp only
  rw [hssrc, hseconds, hfractions, hrtp, hpackets, hoctets]

/-- The headers of reports that stand one behind the other are those of the reports. -/
theorem mapM_senderReportAt {packet front : Bytes} (srs : List SenderReport)
    (hpacket : packet = front ++ packetOf srs) :
    (headersAt front.length (srs.map SenderReport.bytes)).mapM (senderReportAt packet)
      = some srs := by
  induction srs generalizing front with
  | nil => rfl
  | cons sr srs ih =>
      have hpacket' : packet = front ++ (sr.bytes ++ packetOf srs) := hpacket
      have hslice : IsSlice packet front.length sr.bytes := by
        rw [hpacket']
        exact isSlice_append front sr.bytes (packetOf srs)
      have hpacket'' : packet = front ++ sr.bytes ++ packetOf srs := by
        rw [List.append_assoc, hpacket']
      have hrest := ih hpacket''
      rw [List.length_append] at hrest
      rw [List.map_cons, headersAt, List.mapM_cons, senderReportAt_slice hslice, hrest]
      rfl

/-- The reports are read back from the packet, one for each block. -/
theorem recovered_packetOf (srs : List SenderReport) : recovered (packetOf srs) = some srs := by
  have hframes : ∀ block ∈ srs.map SenderReport.bytes, rtcpFraming.IsFrame block := by
    intro block hblock
    obtain ⟨sr, -, rfl⟩ := List.mem_map.mp hblock
    exact isFrame_bytes sr
  have hpacket : packetOf srs = [] ++ packetOf srs := rfl
  have hwalk : walk (packetOf srs) 0 (zero_le_length _)
      = some (headersAt 0 (srs.map SenderReport.bytes)) := walk_frames hframes hpacket rfl
  unfold recovered
  rw [hwalk]
  exact mapM_senderReportAt srs hpacket

/-! ### All of it -/

/-- What the callback gets: packets that are not empty and not too long, with all the reports in
order, and reading each packet to its end gives these reports back. This is for every list of
reports, and for whatever was in the buffer that the packets are built in. -/
theorem compound_lossless (memory : Vector UInt8 ipPacketSize) {maxPacketSize : Nat}
    (hmin : 28 ≤ maxPacketSize) (hmax : maxPacketSize ≤ 1500) (srs : List SenderReport) :
    ∃ packets : List Bytes, ∃ groups : List (List SenderReport),
      compound memory maxPacketSize srs = some packets ∧
      (∀ packet ∈ packets, packet ≠ [] ∧ packet.length ≤ maxPacketSize) ∧
      packets.flatten = (srs.map SenderReport.bytes).flatten ∧
      packets.map recovered = groups.map some ∧ groups.flatten = srs := by
  obtain ⟨groups, last, hpacked⟩ := packed_foldl hmin srs
  obtain ⟨groups, hsend, hreports, hfits⟩ := packed_send hpacked
  refine ⟨groups.map packetOf, groups, ?_, ?_, ?_, ?_, hreports⟩
  · rw [compound_eq memory hmax, hsend]
  · intro packet hpacket
    obtain ⟨group, hgroup, rfl⟩ := List.mem_map.mp hpacket
    obtain ⟨hnonempty, hlength⟩ := hfits group hgroup
    refine ⟨?_, hlength⟩
    intro hnil
    have hzero := length_packetOf group
    rw [hnil] at hzero
    exact hnonempty (List.eq_nil_of_length_eq_zero (by rw [List.length_nil] at hzero; omega))
  · rw [← packetOf_flatten, hreports]
    rfl
  · rw [List.map_map]
    exact List.map_congr_left fun group _ => recovered_packetOf group

/-- Three reports, where there is room for two in a packet. -/
theorem compound_lossless_three :
    ∃ packets : List Bytes, ∃ groups : List (List SenderReport),
      compound (Vector.replicate ipPacketSize 0xFF) 60
        [⟨1, (2, 3), 4, 5, 6⟩, ⟨1, (7, 8), 9, 10, 11⟩, ⟨1, (12, 13), 14, 15, 16⟩] = some packets ∧
      (∀ packet ∈ packets, packet ≠ [] ∧ packet.length ≤ 60) ∧
      packets.flatten =
        ([⟨1, (2, 3), 4, 5, 6⟩, ⟨1, (7, 8), 9, 10, 11⟩, ⟨1, (12, 13), 14, 15, 16⟩].map
          SenderReport.bytes).flatten ∧
      packets.map recovered = groups.map some ∧
      groups.flatten =
        [⟨1, (2, 3), 4, 5, 6⟩, ⟨1, (7, 8), 9, 10, 11⟩, ⟨1, (12, 13), 14, 15, 16⟩] :=
  compound_lossless _ (by decide) (by decide) _

end Xrtc.Proofs.Sdk
