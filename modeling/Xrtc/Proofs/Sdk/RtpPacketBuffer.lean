import Xrtc.Lib.Rfc3550
import Xrtc.Proofs.Sdk.Retransmission
import Xrtc.Sdk.RtpPacketBuffer

/-!
# `Xrtc.Proofs.Sdk.RtpPacketBuffer`: what is in a packet when it is sent

A setter of `RtpPacket` writes its own bits of the header and leaves the others as they are
(`Shows`). The one exception is a payload type of eight bits, which writes over the marker. So
the header is right in whatever order the setters are called, and whenever the payload is
written (`parse_editAll`).

`Holds b p n` relates a buffer to the packet of `Xrtc.Rtp.RtpPacketToSend`: the sizes agree,
and the first `n` bytes of the payload have been written. The packetizer writes its payloads
from the front to the end, and so nothing of what was in the block before gets out
(`nextPacket_holds`).
-/

set_option autoImplicit false

namespace Xrtc.Proofs.Sdk

open Xrtc.Lib
open Xrtc.Rtp
open Xrtc.Sdk

/-! ### The header -/

/-- The parts of the header that are written on their own. -/
inductive HeaderField where
  | version
  | marker
  | payloadType
  | sequenceNumber
  | timestamp
  | ssrc
  deriving DecidableEq, Repr

/-- A part of the header is in the buffer as the packet has it. -/
def Shows (b : RtpPacketBuffer) : HeaderField → Prop
  | .version => b.buffer 0 = 0x80
  | .marker => b.buffer 1 &&& 0x80 = if b.marker then 0x80 else 0
  | .payloadType => b.buffer 1 &&& 0x7f = b.payloadType &&& 0x7f
  | .sequenceNumber => b.buffer.read 2 2 = writeUInt16 b.sequenceNumber
  | .timestamp => b.buffer.read 4 4 = writeUInt32 b.timestamp
  | .ssrc => b.buffer.read 8 4 = writeUInt32 b.ssrc

/-- The setters of `RtpPacket`. -/
inductive Setter where
  | marker (markerBit : Bool)
  | payloadType (type : UInt8)
  | sequenceNumber (seqNo : UInt16)
  | timestamp (ts : UInt32)
  | ssrc (id : UInt32)
  deriving DecidableEq, Repr

namespace Setter

/-- The call of a setter. -/
def apply (b : RtpPacketBuffer) : Setter → RtpPacketBuffer
  | marker markerBit => b.setMarker markerBit
  | payloadType type => b.setPayloadType type
  | sequenceNumber seqNo => b.setSequenceNumber seqNo
  | timestamp ts => b.setTimestamp ts
  | ssrc id => b.setSsrc id

/-- The part of the header that a setter writes. -/
def field : Setter → HeaderField
  | marker _ => .marker
  | payloadType _ => .payloadType
  | sequenceNumber _ => .sequenceNumber
  | timestamp _ => .timestamp
  | ssrc _ => .ssrc

/-- A payload type that has room in its seven bits. -/
def Fits : Setter → Prop
  | payloadType type => type < 128
  | _ => True

end Setter

/-- What `SetMarker` does to the bits of a byte. -/
theorem setMarker_bits : ∀ x : UInt8,
    (x ||| 0x80) &&& 0x80 = 0x80 ∧ (x &&& 0x7f) &&& 0x80 = 0 ∧
      (x ||| 0x80) &&& 0x7f = x &&& 0x7f ∧ (x &&& 0x7f) &&& 0x7f = x &&& 0x7f := by
  decide +kernel

/-- A mask of a disjunction, bit by bit. -/
theorem or_and_distrib (x t mask : UInt8) : (x ||| t) &&& mask = x &&& mask ||| t &&& mask := by
  apply UInt8.toBitVec_inj.mp
  ext i hi
  simp [Bool.and_or_distrib_right]

/-- `SetPayloadType` writes the seven lower bits. -/
theorem setPayloadType_low (x t : UInt8) : ((x &&& 0x80) ||| t) &&& 0x7f = t &&& 0x7f := by
  rw [or_and_distrib, UInt8.and_assoc]
  show x &&& 0 ||| t &&& 0x7f = _
  simp

/-- It leaves the highest bit to a payload type that has none. -/
theorem setPayloadType_high (x : UInt8) {t : UInt8} (ht : t < 128) :
    ((x &&& 0x80) ||| t) &&& 0x80 = x &&& 0x80 := by
  have hzero : ∀ t : UInt8, t < 128 → t &&& 0x80 = 0 := by decide +kernel
  rw [or_and_distrib, UInt8.and_assoc, hzero t ht]
  simp

/-- A byte is its highest bit and the others. -/
theorem or_high_low : ∀ x : UInt8, (x &&& 0x80) ||| (x &&& 0x7f) = x := by decide +kernel

/-- A byte that was written is there. -/
@[simp] theorem write_one (mem : Memory) (i : Nat) (x : UInt8) :
    mem.write i [x] i = x := by simp [Memory.write]

/-- A setter writes its own part of the header. -/
theorem shows_apply_self (b : RtpPacketBuffer) (s : Setter) : Shows (s.apply b) s.field := by
  cases s with
  | marker markerBit =>
      show (b.buffer.write 1 _) 1 &&& 0x80 = _
      rw [write_one]
      have hbits := setMarker_bits (b.buffer 1)
      cases markerBit
      · exact hbits.2.1
      · exact hbits.1
  | payloadType payloadType =>
      show (b.buffer.write 1 _) 1 &&& 0x7f = _
      rw [write_one]
      exact setPayloadType_low _ _
  | sequenceNumber seqNo => exact b.buffer.read_write_self 2 (writeUInt16 seqNo)
  | timestamp ts => exact b.buffer.read_write_self 4 (writeUInt32 ts)
  | ssrc ssrc => exact b.buffer.read_write_self 8 (writeUInt32 ssrc)

/-- Where a part of the header is, and how long it is. -/
def HeaderField.place : HeaderField → Nat × Nat
  | .version => (0, 1)
  | .marker | .payloadType => (1, 1)
  | .sequenceNumber => (2, 2)
  | .timestamp => (4, 4)
  | .ssrc => (8, 4)

/-- Two packets have the same value for a part of the header. -/
def SameValue (b b' : RtpPacketBuffer) : HeaderField → Prop
  | .version => True
  | .marker => b'.marker = b.marker
  | .payloadType => b'.payloadType = b.payloadType
  | .sequenceNumber => b'.sequenceNumber = b.sequenceNumber
  | .timestamp => b'.timestamp = b.timestamp
  | .ssrc => b'.ssrc = b.ssrc

/-- What is read depends on the bytes in its range only. -/
theorem read_congr {mem mem' : Memory} {offset n : Nat}
    (h : ∀ i, offset ≤ i → i < offset + n → mem' i = mem i) :
    mem'.read offset n = mem.read offset n := by
  apply List.map_congr_left
  intro i hi
  have hlt := List.mem_range.mp hi
  exact h (offset + i) (by omega) (by omega)

/-- What a packet shows depends on the bytes at the place and on the value. -/
theorem Shows.congr {b b' : RtpPacketBuffer} {f : HeaderField} (h : Shows b f)
    (hbytes : ∀ i, f.place.1 ≤ i → i < f.place.1 + f.place.2 → b'.buffer i = b.buffer i)
    (hvalue : SameValue b b' f) : Shows b' f := by
  -- the first three are one byte each, the others words
  cases f with
  | version =>
      show b'.buffer 0 = 0x80
      rw [hbytes 0 (by simp [HeaderField.place]) (by simp [HeaderField.place])]
      exact h
  | marker =>
      show b'.buffer 1 &&& 0x80 = if b'.marker then 0x80 else 0
      rw [hbytes 1 (by simp [HeaderField.place]) (by simp [HeaderField.place]), hvalue]
      exact h
  | payloadType =>
      show b'.buffer 1 &&& 0x7f = b'.payloadType &&& 0x7f
      rw [hbytes 1 (by simp [HeaderField.place]) (by simp [HeaderField.place]), hvalue]
      exact h
  | sequenceNumber =>
      have hread : b'.buffer.read 2 2 = b.buffer.read 2 2 := read_congr hbytes
      show b'.buffer.read 2 2 = writeUInt16 b'.sequenceNumber
      rw [hread, hvalue]
      exact h
  | timestamp =>
      have hread : b'.buffer.read 4 4 = b.buffer.read 4 4 := read_congr hbytes
      show b'.buffer.read 4 4 = writeUInt32 b'.timestamp
      rw [hread, hvalue]
      exact h
  | ssrc =>
      have hread : b'.buffer.read 8 4 = b.buffer.read 8 4 := read_congr hbytes
      show b'.buffer.read 8 4 = writeUInt32 b'.ssrc
      rw [hread, hvalue]
      exact h

/-- A setter writes at the place of its part of the header only. -/
theorem apply_buffer_of_disjoint (b : RtpPacketBuffer) (s : Setter) {i : Nat}
    (h : i < s.field.place.1 ∨ s.field.place.1 + s.field.place.2 ≤ i) :
    (s.apply b).buffer i = b.buffer i := by
  cases s <;> exact b.buffer.write_of_disjoint (by simpa [Setter.field, HeaderField.place] using h)

/-- A setter leaves the fields of the others as they are: they lie at other bytes, or under
another mask of the same byte. -/
theorem sameValue_apply (b : RtpPacketBuffer) (s : Setter) {f : HeaderField} (hf : f ≠ s.field) :
    SameValue b (s.apply b) f := by
  cases s <;> cases f <;> first | exact absurd rfl hf | trivial

/-- A setter leaves the other parts of the header as they are, if a payload type has no more
than seven bits. -/
theorem Shows.apply {b : RtpPacketBuffer} {f : HeaderField} (h : Shows b f) {s : Setter}
    (hf : f ≠ s.field) (hfits : f = .marker → s.Fits) : Shows (s.apply b) f := by
  have hvalue := sameValue_apply b s hf
  by_cases hplace : f.place = s.field.place
  · -- the marker and the payload type are in one byte
    cases s with
    | marker markerBit =>
        cases f with
        | marker => exact absurd rfl hf
        | payloadType =>
            show (b.buffer.write 1 _) 1 &&& 0x7f = b.payloadType &&& 0x7f
            have hbits := setMarker_bits (b.buffer 1)
            rw [write_one, ← show b.buffer 1 &&& 0x7f = b.payloadType &&& 0x7f from h]
            cases markerBit
            · exact hbits.2.2.2
            · exact hbits.2.2.1
        | version | sequenceNumber | timestamp | ssrc => cases hplace
    | payloadType type =>
        cases f with
        | payloadType => exact absurd rfl hf
        | marker =>
            show (b.buffer.write 1 _) 1 &&& 0x80 = if b.marker then 0x80 else 0
            rw [write_one, setPayloadType_high _ (hfits rfl)]
            exact h
        | version | sequenceNumber | timestamp | ssrc => cases hplace
    | sequenceNumber | timestamp | ssrc =>
        cases f <;> first | exact absurd rfl hf | cases hplace
  · refine h.congr (fun i hlow hhigh => apply_buffer_of_disjoint b s ?_) hvalue
    -- different places do not meet
    cases s <;> cases f <;> simp [Setter.field, HeaderField.place] at hplace hlow hhigh ⊢ <;> omega

/-! ### Setters in any order -/

/-- The packet after a list of setters. -/
def applyAll (b : RtpPacketBuffer) (setters : List Setter) : RtpPacketBuffer :=
  setters.foldl Setter.apply b

/-- Setters are called in their order. -/
theorem applyAll_cons (b : RtpPacketBuffer) (s : Setter) (setters : List Setter) :
    applyAll b (s :: setters) = applyAll (s.apply b) setters := rfl

/-- A part of the header that is right stays right. -/
theorem Shows.applyAll {setters : List Setter} {b : RtpPacketBuffer} {f : HeaderField}
    (h : Shows b f) (hfits : f = .marker → ∀ s ∈ setters, s.Fits) :
    Shows (applyAll b setters) f := by
  induction setters generalizing b with
  | nil => exact h
  | cons s setters ih =>
      refine ih ?_ fun hf s' hs' => hfits hf s' (List.mem_cons_of_mem s hs')
      by_cases hf : f = s.field
      · rw [hf]
        exact shows_apply_self b s
      · exact h.apply hf fun hf => hfits hf s List.mem_cons_self

/-- A part of the header that has been set is right. -/
theorem shows_of_mem {setters : List Setter} {s : Setter} (hs : s ∈ setters)
    (hfits : s.field = .marker → ∀ s ∈ setters, s.Fits) (b : RtpPacketBuffer) :
    Shows (applyAll b setters) s.field := by
  induction setters generalizing b with
  | nil => cases hs
  | cons s' setters ih =>
      have hrest := fun hf s hs => hfits hf s (List.mem_cons_of_mem s' hs)
      rcases List.mem_cons.mp hs with rfl | hmem
      · exact (shows_apply_self b s).applyAll hrest
      · exact ih hmem hrest (s'.apply b)

/-- A new packet shows the version, whatever the memory held. -/
theorem shows_new (memory : Memory) : Shows (RtpPacketBuffer.new memory) .version := by
  show (memory.write 0 [kRtpVersion <<< 6]) 0 = 0x80
  rw [write_one]
  rfl

/-- A setter does not touch the sizes. -/
theorem applyAll_sizes (setters : List Setter) : ∀ b : RtpPacketBuffer,
    (applyAll b setters).payloadOffset = b.payloadOffset ∧
      (applyAll b setters).payloadSize = b.payloadSize ∧
        (applyAll b setters).paddingSize = b.paddingSize := by
  induction setters with
  | nil => exact fun b => ⟨rfl, rfl, rfl⟩
  | cons s setters ih =>
      intro b
      obtain ⟨hoffset, hsize, hpadding⟩ := ih (s.apply b)
      rw [applyAll_cons, hoffset, hsize, hpadding]
      cases s <;> exact ⟨rfl, rfl, rfl⟩

/-- The fields of a packet as a receiver knows them. -/
def rtpHeader (b : RtpPacketBuffer) : RtpHeader where
  marker := b.marker
  payloadType := b.payloadType &&& 0x7f
  sequenceNumber := b.sequenceNumber
  timestamp := b.timestamp
  ssrc := b.ssrc

/-- A mask twice is the mask. -/
theorem and_mask_mask : ∀ t : UInt8, t &&& 0x7f &&& 0x7f = t &&& 0x7f := by decide +kernel

/-- A packet whose header is all right is the encoding of its fields and its payload. -/
theorem bytes_eq_encode {b : RtpPacketBuffer} (hshows : ∀ f, Shows b f)
    (hoffset : b.payloadOffset = kFixedHeaderSize) (hpadding : b.paddingSize = 0) :
    b.bytes = RtpHeader.encode (rtpHeader b) b.payload := by
  have hsize : b.size = 1 + (1 + (2 + (4 + (4 + b.payloadSize)))) := by
    unfold RtpPacketBuffer.size
    rw [hoffset, hpadding]
    unfold kFixedHeaderSize
    omega
  have hone : ∀ i, b.buffer.read i 1 = [b.buffer i] := fun i => rfl
  have hsecond : b.buffer 1 = RtpHeader.markerAndType b.marker (b.payloadType &&& 0x7f) := by
    unfold RtpHeader.markerAndType
    rw [and_mask_mask, ← hshows .marker, ← hshows .payloadType, or_high_low]
  have hpayload : b.payload = b.buffer.read 12 b.payloadSize := by
    unfold RtpPacketBuffer.payload
    rw [hoffset]
    rfl
  unfold RtpPacketBuffer.bytes
  rw [hsize, Memory.read_add, Memory.read_add, Memory.read_add, Memory.read_add, Memory.read_add,
    hone, hone, hsecond, hpayload, show b.buffer 0 = 0x80 from hshows .version]
  unfold RtpHeader.encode rtpHeader
  rw [← hshows .sequenceNumber, ← hshows .timestamp, ← hshows .ssrc]
  simp only [List.append_assoc]
  rfl

/-! ### The payload -/

/-- Nothing has happened to the header. -/
structure SameHeader (b b' : RtpPacketBuffer) : Prop where
  bytes : ∀ i < kFixedHeaderSize, b'.buffer i = b.buffer i
  values : ∀ f, SameValue b b' f

/-- A packet has the header it has. -/
theorem SameHeader.refl (b : RtpPacketBuffer) : SameHeader b b :=
  ⟨fun _ _ => rfl, fun f => by cases f <;> trivial⟩

/-- Two steps that keep the header keep it together. -/
theorem SameHeader.trans {b₁ b₂ b₃ : RtpPacketBuffer} (h : SameHeader b₁ b₂)
    (h' : SameHeader b₂ b₃) : SameHeader b₁ b₃ := by
  refine ⟨fun i hi => (h'.bytes i hi).trans (h.bytes i hi), fun f => ?_⟩
  have hf := h.values f
  have hf' := h'.values f
  cases f <;> first | trivial | exact Eq.trans hf' hf

/-- A packet with the same header shows the same fields. -/
theorem SameHeader.shows {b b' : RtpPacketBuffer} (h : SameHeader b b') {f : HeaderField}
    (hf : Shows b f) : Shows b' f := by
  refine hf.congr (fun i _ hi => h.bytes i ?_) (h.values f)
  unfold kFixedHeaderSize
  cases f <;> simp [HeaderField.place] at hi <;> omega

/-- The buffer of a packet whose payload has been written up to its `n`th byte. -/
structure Holds (b : RtpPacketBuffer) (p : RtpPacketToSend) (n : Nat) : Prop where
  offset : b.payloadOffset = kFixedHeaderSize
  padding : b.paddingSize = 0
  capacity : p.capacity = kDefaultCapacity
  size : b.payloadSize = p.payload.length
  room : kFixedHeaderSize + p.payload.length ≤ kDefaultCapacity
  le : n ≤ p.payload.length
  written : b.buffer.read kFixedHeaderSize n = p.payload.take n

section

variable {b : RtpPacketBuffer} {p p' : RtpPacketToSend} {n : Nat}

/-- A payload that was allocated has the size that was asked for, and the marker stays. -/
theorem allocatePayload_spec {size : Nat} (hp : p.allocatePayload size = some p') :
    p'.payload.length = size ∧ p'.marker = p.marker := by
  unfold RtpPacketToSend.allocatePayload RtpPacketToSend.setPayloadSize at hp
  split at hp
  · cases hp
  · simp only [Option.bind_eq_bind, Option.bind_some] at hp
    split at hp
    · cases hp
    · cases hp
      simp

/-- A copy to the payload keeps its length and the marker. -/
theorem write_spec {bytes : Bytes} (hp : p.write n bytes = some p') :
    p'.payload.length = p.payload.length ∧ p'.marker = p.marker := by
  unfold RtpPacketToSend.write at hp
  split at hp
  · cases hp
  · cases hp
    simp only [List.length_append, List.length_take, List.length_drop, and_true]
    omega

/-- All of the payload has been written. -/
theorem Holds.payload (h : Holds b p p.payload.length) : b.payload = p.payload := by
  unfold RtpPacketBuffer.payload
  rw [h.offset, h.size, h.written, List.take_length]

/-- Both packets have the same room. -/
theorem Holds.freeCapacity (h : Holds b p n) : b.freeCapacity = p.freeCapacity := by
  unfold RtpPacketBuffer.freeCapacity RtpPacketBuffer.size RtpPacketToSend.freeCapacity
  rw [h.offset, h.size, h.padding, h.capacity, Nat.add_zero]

/-- Where the packet without a buffer gets its payload, the one with the buffer gets it, too, and
keeps its header. What the bytes hold then is not the same, so nothing of it counts as written. -/
theorem Holds.allocatePayload (h : Holds b p n) {size : Nat}
    (hp : p.allocatePayload size = some p') :
    ∃ b', b.allocatePayload size = some b' ∧ Holds b' p' 0 ∧ SameHeader b b' := by
  have hempty : b.setPayloadSize 0 = some { b with payloadSize := 0 } := by
    unfold RtpPacketBuffer.setPayloadSize
    rw [h.offset, if_neg (by decide)]
  unfold RtpPacketToSend.allocatePayload RtpPacketToSend.setPayloadSize at hp
  rw [h.capacity, if_neg (by decide)] at hp
  simp only [Option.bind_eq_bind, Option.bind_some] at hp
  split at hp
  · cases hp
  rename_i hroom
  cases hp
  refine ⟨{ b with payloadSize := size }, ?_, ?_, ⟨fun _ _ => rfl, (SameHeader.refl b).values⟩⟩
  · unfold RtpPacketBuffer.allocatePayload
    rw [hempty]
    show RtpPacketBuffer.setPayloadSize { b with payloadSize := 0 } size = _
    unfold RtpPacketBuffer.setPayloadSize
    rw [h.offset, if_neg hroom]
  · exact ⟨h.offset, h.padding, rfl, by simp, by simpa using hroom, Nat.zero_le _, rfl⟩

/-- Bytes are written behind what has been written, and the buffer goes on to hold what the packet
has. The header is in front of the payload and stays. -/
theorem Holds.write (h : Holds b p n) {bytes : Bytes} (hp : p.write n bytes = some p') :
    ∃ b', b.write n bytes = some b' ∧ Holds b' p' (n + bytes.length) ∧ SameHeader b b' := by
  unfold RtpPacketToSend.write at hp
  split at hp
  · cases hp
  rename_i hfits
  cases hp
  have hroom := h.room
  have htake : (p.payload.take n).length = n := List.length_take_of_le h.le
  refine ⟨b.writeAt (b.payloadOffset + n) bytes, ?_, ?_, ?_⟩
  · unfold RtpPacketBuffer.write
    rw [h.offset, if_neg (by omega)]
  · refine ⟨h.offset, h.padding, h.capacity, ?_, ?_, ?_, ?_⟩
    · show b.payloadSize = _
      rw [h.size]
      simp only [List.length_append, List.length_drop, htake]
      omega
    · simp only [List.length_append, List.length_drop, htake]
      omega
    · simp only [List.length_append, List.length_drop, htake]
      omega
    · show (b.buffer.write _ _).read _ _ = _
      rw [h.offset, Memory.read_add, Memory.read_write_self,
        Memory.read_write_of_disjoint _ (.inl (Nat.le_refl _)), h.written, ← htake,
        ← List.length_append, List.take_left', htake]
      simp
  · refine ⟨fun i hi => ?_, fun f => ?_⟩
    · exact b.buffer.write_of_disjoint (.inl (by rw [h.offset]; omega))
    · cases f <;> trivial

/-- The payload ends with what has been written. -/
theorem Holds.setPayloadSize (h : Holds b p n) (hp : p.setPayloadSize n = some p') :
    ∃ b', b.setPayloadSize n = some b' ∧ Holds b' p' p'.payload.length ∧ SameHeader b b' := by
  have hle := h.le
  have hroom := h.room
  have hp' : p' = { p with payload := p.payload.take n } := by
    unfold RtpPacketToSend.setPayloadSize at hp
    rw [if_neg (by rw [h.capacity]; omega), Nat.sub_eq_zero_of_le hle] at hp
    simp only [List.replicate_zero, List.append_nil, Option.some.injEq] at hp
    exact hp.symm
  subst hp'
  have htake : (p.payload.take n).length = n := List.length_take_of_le hle
  refine ⟨{ b with payloadSize := n }, ?_, ?_, ⟨fun _ _ => rfl, (SameHeader.refl b).values⟩⟩
  · unfold RtpPacketBuffer.setPayloadSize
    rw [h.offset, if_neg (by omega)]
  · refine ⟨h.offset, h.padding, h.capacity, htake.symm, ?_, Nat.le_refl _, ?_⟩
    · show kFixedHeaderSize + (p.payload.take n).length ≤ kDefaultCapacity
      rw [htake]
      omega
    · show b.buffer.read _ (p.payload.take n).length = (p.payload.take n).take _
      rw [htake, h.written, List.take_take, Nat.min_self]

end

/-! ### A packet that is edited -/

/-- What a caller does to a packet it has made. It calls a setter, or it allocates a payload and
writes all of it, one piece behind the other, as `BuildRtxPacket` writes the number of a packet
and then its payload. -/
inductive PacketEdit where
  | set (s : Setter)
  | write (pieces : List Bytes)
  deriving DecidableEq, Repr

/-- The pieces of a payload are written from an index on. -/
def writePieces (b : RtpPacketBuffer) (index : Nat) : List Bytes → Option RtpPacketBuffer
  | [] => some b
  | piece :: pieces => do
      let b ← b.write index piece
      writePieces b (index + piece.length) pieces

namespace PacketEdit

/-- The effect of an edit, which has none where the payload does not fit. -/
def apply (b : RtpPacketBuffer) : PacketEdit → Option RtpPacketBuffer
  | set s => some (s.apply b)
  | write pieces => do
      let b ← b.allocatePayload pieces.flatten.length
      writePieces b 0 pieces

/-- A payload type of seven bits, or a payload that has room in the block. -/
def Fits : PacketEdit → Prop
  | set s => s.Fits
  | write pieces => kFixedHeaderSize + pieces.flatten.length ≤ kDefaultCapacity

/-- What an edit is for: it replaces one field, or the payload. -/
def record (written : RtpHeader × Bytes) : PacketEdit → RtpHeader × Bytes
  | set (.marker marker) => ({ written.1 with marker }, written.2)
  | set (.payloadType payloadType) => ({ written.1 with payloadType }, written.2)
  | set (.sequenceNumber sequenceNumber) => ({ written.1 with sequenceNumber }, written.2)
  | set (.timestamp timestamp) => ({ written.1 with timestamp }, written.2)
  | set (.ssrc ssrc) => ({ written.1 with ssrc }, written.2)
  | write pieces => (written.1, pieces.flatten)

end PacketEdit

/-- The packet after a list of edits. A write behind the end of the block has no result. -/
def editAll (b : RtpPacketBuffer) (edits : List PacketEdit) : Option RtpPacketBuffer :=
  edits.foldlM PacketEdit.apply b

/-- The buffer has the fields and the payload of a record in it. Whether the bytes of the header
show the fields is the matter of `Shows`. -/
structure Written (b : RtpPacketBuffer) (written : RtpHeader × Bytes) : Prop where
  fields : (⟨b.marker, b.payloadType, b.sequenceNumber, b.timestamp, b.ssrc⟩ : RtpHeader) = written.1
  seven : b.payloadType < 128
  payload : Holds b { payload := written.2 } written.2.length

/-- A new packet has no payload, and all its fields are zero. -/
theorem written_new (memory : Memory) :
    Written (RtpPacketBuffer.new memory) (⟨false, 0, 0, 0, 0⟩, []) := by
  have hroom : kFixedHeaderSize + 0 ≤ kDefaultCapacity := by decide
  have hseven : (0 : UInt8) < 128 := by decide
  exact ⟨rfl, hseven, rfl, rfl, rfl, rfl, hroom, Nat.le_refl _, rfl⟩

/-- A setter writes in the header only, and leaves the payload as it is. -/
theorem Holds.apply {b : RtpPacketBuffer} {p : RtpPacketToSend} {n : Nat} (h : Holds b p n)
    (s : Setter) : Holds (s.apply b) p n := by
  have hplace : s.field.place.1 + s.field.place.2 ≤ kFixedHeaderSize := by
    cases s <;> simp [Setter.field, HeaderField.place, kFixedHeaderSize]
  have hread : (s.apply b).buffer.read kFixedHeaderSize n = b.buffer.read kFixedHeaderSize n :=
    read_congr fun i hi _ => apply_buffer_of_disjoint b s (.inr (hplace.trans hi))
  obtain ⟨hoffset, hsize, hpadding⟩ := applyAll_sizes [s] b
  exact ⟨hoffset.trans h.offset, hpadding.trans h.padding, h.capacity, hsize.trans h.size, h.room,
    h.le, hread.trans h.written⟩

/-- The pieces fill the place that has been allocated for them, by induction on the pieces. At the
end the payload is all of them, and none of the zeros is left. -/
theorem Holds.writePieces (pieces : List Bytes) : ∀ {b : RtpPacketBuffer} {done : Bytes},
    Holds b { payload := done ++ List.replicate pieces.flatten.length 0 } done.length →
      ∃ b', writePieces b done.length pieces = some b' ∧
        Holds b' { payload := done ++ pieces.flatten } (done ++ pieces.flatten).length ∧
          SameHeader b b' := by
  -- on the pieces, behind what has been written
  induction pieces with
  | nil =>
      intro b done h
      rw [List.flatten_nil, List.append_nil]
      rw [List.flatten_nil, List.length_nil, List.replicate_zero, List.append_nil] at h
      exact ⟨b, rfl, h, .refl b⟩
  | cons piece pieces ih =>
      intro b done h
      rw [List.flatten_cons, List.length_append, List.replicate_add] at h
      have hp : RtpPacketToSend.write
          { payload := done ++ (List.replicate piece.length 0 ++
              List.replicate pieces.flatten.length 0) } done.length piece
          = some { payload := (done ++ piece) ++ List.replicate pieces.flatten.length 0 } := by
        unfold RtpPacketToSend.write
        dsimp only
        have hfits : ¬ (done ++ (List.replicate piece.length (0 : UInt8) ++
            List.replicate pieces.flatten.length 0)).length < done.length + piece.length := by
          simp only [List.length_append, List.length_replicate]
          omega
        rw [if_neg hfits, List.take_left, ← List.drop_drop, List.drop_left, List.drop_left' (by simp)]
      obtain ⟨b₁, hb₁, h₁, hsame₁⟩ := h.write hp
      rw [← List.length_append] at h₁
      obtain ⟨b', hb', h', hsame'⟩ := ih h₁
      rw [List.length_append] at hb'
      rw [List.flatten_cons, ← List.append_assoc]
      refine ⟨b', ?_, h', hsame₁.trans hsame'⟩
      rw [Sdk.writePieces, hb₁]
      exact hb'

/-- One edit. It has the effect it is for, a part of the header that is right stays right, and
the part that is set is right. -/
theorem Written.apply {b : RtpPacketBuffer} {written : RtpHeader × Bytes} (h : Written b written)
    {edit : PacketEdit} (hfits : edit.Fits) :
    ∃ b', edit.apply b = some b' ∧ Written b' (edit.record written) ∧
      (∀ f, Shows b f → Shows b' f) ∧ ∀ s, edit = .set s → Shows b' s.field := by
  obtain ⟨header, payload⟩ := written
  cases edit with
  | set s =>
      -- a setter writes its own place, and takes the values of the others along
      have hkept : ∀ f, Shows b f → Shows (s.apply b) f := by
        intro f hf
        by_cases hown : f = s.field
        · rw [hown]
          exact shows_apply_self b s
        · exact hf.apply hown fun _ => hfits
      refine ⟨s.apply b, rfl, ?_, hkept, fun s' hs' => ?_⟩
      · have hpayload := h.payload.apply s
        have hfields := h.fields
        dsimp only at hfields
        subst hfields
        cases s with
        | payloadType type => exact ⟨rfl, hfits, hpayload⟩
        | marker | sequenceNumber | timestamp | ssrc => exact ⟨rfl, h.seven, hpayload⟩
      · cases hs'
        exact shows_apply_self b s
  | write pieces =>
      -- the payload of a packet is laid out anew, behind the header
      have hp : RtpPacketToSend.allocatePayload { payload } pieces.flatten.length
          = some { payload := [] ++ List.replicate pieces.flatten.length 0 } := by
        unfold RtpPacketToSend.allocatePayload RtpPacketToSend.setPayloadSize
        have hempty : ¬ kDefaultCapacity < kFixedHeaderSize + 0 := by decide
        rw [if_neg hempty]
        simp only [Option.bind_eq_bind, Option.bind_some]
        rw [if_neg (Nat.not_lt.mpr hfits)]
        simp
      obtain ⟨b₁, hb₁, h₁, hsame₁⟩ := h.payload.allocatePayload hp
      obtain ⟨b', hb', h', hsame'⟩ := h₁.writePieces pieces
      have hsame := hsame₁.trans hsame'
      refine ⟨b', ?_, ⟨?_, ?_, h'⟩, fun f hf => hsame.shows hf, fun s hs => by cases hs⟩
      · show (b.allocatePayload _).bind _ = _
        rw [hb₁]
        exact hb'
      · rw [hsame.values .marker, hsame.values .payloadType, hsame.values .sequenceNumber,
          hsame.values .timestamp, hsame.values .ssrc]
        exact h.fields
      · rw [hsame.values .payloadType]
        exact h.seven

/-- All of the edits. -/
theorem Written.editAll (edits : List PacketEdit) : ∀ {b : RtpPacketBuffer}
    {written : RtpHeader × Bytes}, Written b written → (∀ edit ∈ edits, edit.Fits) →
      ∃ b', editAll b edits = some b' ∧ Written b' (edits.foldl PacketEdit.record written) ∧
        (∀ f, Shows b f → Shows b' f) ∧ ∀ s, PacketEdit.set s ∈ edits → Shows b' s.field := by
  induction edits with
  | nil =>
      intro b written h _
      exact ⟨b, rfl, h, fun _ hf => hf, fun s hs => absurd hs List.not_mem_nil⟩
  | cons edit edits ih =>
      intro b written h hfits
      obtain ⟨hedit, hrest⟩ := List.forall_mem_cons.mp hfits
      obtain ⟨b₁, hb₁, h₁, hkept₁, hset₁⟩ := h.apply hedit
      obtain ⟨b', hb', h', hkept', hset'⟩ := ih h₁ hrest
      refine ⟨b', ?_, h', fun f hf => hkept' f (hkept₁ f hf), fun s hs => ?_⟩
      · rw [Sdk.editAll, List.foldlM_cons, hb₁]
        exact hb'
      · rcases List.mem_cons.mp hs with hs | hs
        · exact hkept' _ (hset₁ s hs.symm)
        · exact hset' s hs

/-- In whatever order the header of a new packet is set, however often, and whenever its payload
is written, the packet is read back with the fields that were set last and the payload that was
written last, whatever was in its block. Every field has to be set, as the constructor writes
only the version, and a payload type has seven bits. -/
theorem parse_editAll (memory : Memory) {edits : List PacketEdit} (hfits : ∀ edit ∈ edits, edit.Fits)
    (hall : ∀ f, f ≠ .version → ∃ s, PacketEdit.set s ∈ edits ∧ s.field = f) :
    ∃ b, editAll (RtpPacketBuffer.new memory) edits = some b ∧
      RtpHeader.parse b.bytes
        = some (edits.foldl PacketEdit.record (⟨false, 0, 0, 0, 0⟩, [])) := by
  obtain ⟨b, hb, h, hkept, hset⟩ := (written_new memory).editAll edits hfits
  have hshows : ∀ f, Shows b f := by
    intro f
    by_cases hversion : f = .version
    · rw [hversion]
      exact hkept _ (shows_new memory)
    · obtain ⟨s, hs, rfl⟩ := hall f hversion
      exact hset s hs
  refine ⟨b, hb, ?_⟩
  generalize edits.foldl PacketEdit.record _ = written at h
  have hmask : ∀ t : UInt8, t < 128 → t &&& 0x7f = t := by decide +kernel
  rw [bytes_eq_encode hshows h.payload.offset h.payload.padding, RtpHeader.parse_encode,
    h.payload.payload]
  unfold rtpHeader
  rw [hmask _ h.seven, hmask _ h.seven, h.fields]

/-- The packet that `BuildRtxPacket` makes, and one whose header is set behind its payload. -/
theorem parse_rtxOrder :
    (∃ b, editAll (RtpPacketBuffer.new fun i => UInt8.ofNat (255 - i))
        [.set (.payloadType 99), .set (.ssrc 12), .set (.sequenceNumber 1000), .set (.marker true),
          .set (.timestamp 3600), .write [[0, 7], [1, 2, 3]]] = some b ∧
      RtpHeader.parse b.bytes = some (⟨true, 99, 1000, 3600, 12⟩, [0, 7, 1, 2, 3])) := by
  refine parse_editAll (fun i => UInt8.ofNat (255 - i)) ?_ ?_
  · simp [PacketEdit.Fits, Setter.Fits, kFixedHeaderSize, kDefaultCapacity]
  · intro f hf
    cases f <;> simp_all [Setter.field]

/-! ### The packetizer -/

/-- The loop writes behind what it has written, by induction on the units. Each of them is written
as its length and its bytes. -/
theorem Holds.aggregateLoop (units : List PacketUnit) : ∀ {b : RtpPacketBuffer}
    {p p' : RtpPacketToSend} {index index' : Nat} {fragments fragments' : List Bytes}
    {units' : List PacketUnit}, Holds b p index →
      RtpPacketizerH264.aggregateLoop p index fragments units
        = some (p', index', fragments', units') →
      ∃ b', RtpPacketizerH264.aggregateLoop b index fragments units
          = some (b', index', fragments', units') ∧ Holds b' p' index' ∧ SameHeader b b' := by
  induction units with
  | nil =>
      intro b p p' index index' fragments fragments' units' h hp
      simp [RtpPacketizerH264.aggregateLoop] at hp
  | cons unit units ih =>
      intro b p p' index index' fragments fragments' units' h hp
      unfold RtpPacketizerH264.aggregateLoop at hp ⊢
      split at hp
      swap
      · -- the unit belongs to another packet
        rename_i haggregated
        cases hp
        rw [if_neg haggregated]
        exact ⟨b, rfl, h, .refl b⟩
      rename_i haggregated
      rw [if_pos haggregated]
      cases fragments with
      | nil => cases hp
      | cons fragment fragments =>
          obtain ⟨p₁, hp₁, hp⟩ := Option.bind_eq_some_iff.mp hp
          obtain ⟨p₂, hp₂, hp⟩ := Option.bind_eq_some_iff.mp hp
          obtain ⟨b₁, hb₁, h₁, hsame₁⟩ := h.write hp₁
          rw [writeUInt16_length] at h₁
          obtain ⟨b₂, hb₂, h₂, hsame₂⟩ := h₁.write hp₂
          have hsame := hsame₁.trans hsame₂
          dsimp only [RtpPacketBuffer.ops_write]
          rw [hb₁]
          simp only [Option.bind_eq_bind, Option.bind_some]
          rw [show index + kLengthFieldSize = index + 2 from rfl, hb₂]
          simp only [Option.bind_some]
          split at hp
          · rename_i hlast
            cases hp
            rw [if_pos hlast]
            exact ⟨b₂, rfl, h₂, hsame⟩
          · rename_i hlast
            rw [if_neg hlast]
            obtain ⟨b', hb', h', hsame'⟩ := ih h₂ hp
            exact ⟨b', hb', h', hsame.trans hsame'⟩

section

variable {b : RtpPacketBuffer} {p p' : RtpPacketToSend} {n : Nat}
  {packetizer packetizer' : RtpPacketizerH264} {unit : PacketUnit} {units : List PacketUnit}

/-- `NextAggregatedPacket` writes the same payload to both, each NAL unit behind its length. -/
theorem Holds.nextAggregatedPacket (h : Holds b p n)
    (hp : packetizer.nextAggregatedPacket unit p = some (p', packetizer')) :
    ∃ b', packetizer.nextAggregatedPacket unit b = some (b', packetizer') ∧
      Holds b' p' p'.payload.length ∧ SameHeader b b' := by
  unfold RtpPacketizerH264.nextAggregatedPacket at hp
  rw [RtpPacketToSend.ops_freeCapacity] at hp
  obtain ⟨p₁, hp₁, hp⟩ := Option.bind_eq_some_iff.mp hp
  obtain ⟨p₂, hp₂, hp⟩ := Option.bind_eq_some_iff.mp hp
  obtain ⟨⟨p₃, index, fragments, rest⟩, hp₃, hp⟩ := Option.bind_eq_some_iff.mp hp
  obtain ⟨p₄, hp₄, hp⟩ := Option.bind_eq_some_iff.mp hp
  cases hp
  obtain ⟨b₁, hb₁, h₁, hsame₁⟩ := h.allocatePayload hp₁
  obtain ⟨b₂, hb₂, h₂, hsame₂⟩ := h₁.write hp₂
  obtain ⟨b₃, hb₃, h₃, hsame₃⟩ := h₂.aggregateLoop packetizer.packets hp₃
  obtain ⟨b₄, hb₄, h₄, hsame₄⟩ := h₃.setPayloadSize hp₄
  refine ⟨b₄, ?_, h₄, (hsame₁.trans hsame₂).trans (hsame₃.trans hsame₄)⟩
  unfold RtpPacketizerH264.nextAggregatedPacket
  simp only [RtpPacketBuffer.ops_freeCapacity, RtpPacketBuffer.ops_allocatePayload,
    RtpPacketBuffer.ops_write, RtpPacketBuffer.ops_setPayloadSize]
  rw [h.freeCapacity, hb₁]
  simp only [Option.bind_eq_bind, Option.bind_some, hb₂]
  rw [show kNaluHeaderSize = 0 + [(unit.header &&& fBitAndNriMask) ||| kStapA].length from rfl, hb₃]
  simp only [Option.bind_some, hb₄]
  rfl

/-- A packet with one piece of a NAL unit, or with all of it. -/
theorem Holds.whole (h : Holds b p n) {size : Nat} {bytes : Bytes} (hsize : bytes.length = size)
    {p₁ : RtpPacketToSend} (hp₁ : p.allocatePayload size = some p₁)
    (hp₂ : p₁.write 0 bytes = some p') :
    ∃ b₁ b', b.allocatePayload size = some b₁ ∧ b₁.write 0 bytes = some b' ∧
      Holds b' p' p'.payload.length ∧ SameHeader b b' := by
  obtain ⟨b₁, hb₁, h₁, hsame₁⟩ := h.allocatePayload hp₁
  obtain ⟨b', hb', h', hsame'⟩ := h₁.write hp₂
  refine ⟨b₁, b', hb₁, hb', ?_, hsame₁.trans hsame'⟩
  -- the bytes fill the payload
  have hfull : 0 + bytes.length = p'.payload.length := by
    rw [(write_spec hp₂).1, (allocatePayload_spec hp₁).1, hsize, Nat.zero_add]
  rw [← hfull]
  exact h'

/-- `NextFragmentPacket` writes the same payload to both: the two bytes of the header, and the
fragment. -/
theorem Holds.nextFragmentPacket (h : Holds b p n)
    (hp : packetizer.nextFragmentPacket some unit units p = some (p', packetizer')) :
    ∃ b', packetizer.nextFragmentPacket some unit units b = some (b', packetizer') ∧
      Holds b' p' p'.payload.length ∧ SameHeader b b' := by
  unfold RtpPacketizerH264.nextFragmentPacket at hp
  obtain ⟨p₁, hp₁, hp⟩ := Option.bind_eq_some_iff.mp hp
  obtain ⟨p₂, hp₂, hp⟩ := Option.bind_eq_some_iff.mp hp
  have hsize : ∀ x y : UInt8, ([x, y] ++ unit.sourceFragment).length
      = kFuAHeaderSize + unit.sourceFragment.length := fun x y => by
    simp [kFuAHeaderSize]
    omega
  obtain ⟨b₁, b₂, hb₁, hb₂, h₂, hsame⟩ := h.whole (hsize _ _) hp₁ hp₂
  unfold RtpPacketizerH264.nextFragmentPacket
  dsimp only [RtpPacketBuffer.ops_allocatePayload, RtpPacketBuffer.ops_write]
  rw [hb₁]
  simp only [Option.bind_eq_bind, Option.bind_some, hb₂]
  dsimp only [Option.bind_eq_bind, Option.bind_some] at hp
  split at hp
  · rename_i hlast
    obtain ⟨popped, hpop, hp⟩ := Option.bind_eq_some_iff.mp hp
    cases hp
    rw [if_pos hlast, hpop]
    exact ⟨b₂, rfl, h₂, hsame⟩
  · rename_i hlast
    cases hp
    rw [if_neg hlast]
    exact ⟨b₂, rfl, h₂, hsame⟩

/-- So `NextPacket` writes the same payload to both, for each of its three kinds of packets. -/
theorem Holds.takePacket (h : Holds b p n)
    (hp : packetizer.takePacket some unit units p = some (p', packetizer')) :
    ∃ b', packetizer.takePacket some unit units b = some (b', packetizer') ∧
      Holds b' p' p'.payload.length ∧ SameHeader b b' := by
  unfold RtpPacketizerH264.takePacket at hp ⊢
  split at hp
  · rename_i hsingle
    obtain ⟨p₁, hp₁, hp⟩ := Option.bind_eq_some_iff.mp hp
    obtain ⟨p₂, hp₂, hp⟩ := Option.bind_eq_some_iff.mp hp
    obtain ⟨popped, hpop, hp⟩ := Option.bind_eq_some_iff.mp hp
    cases hp
    obtain ⟨b₁, b₂, hb₁, hb₂, h₂, hsame⟩ := h.whole rfl hp₁ hp₂
    rw [if_pos hsingle, RtpPacketBuffer.ops_allocatePayload, hb₁]
    simp only [Option.bind_eq_bind, Option.bind_some, RtpPacketBuffer.ops_write, hb₂, hpop]
    exact ⟨b₂, rfl, h₂, hsame⟩
  · rename_i hsingle
    rw [if_neg hsingle]
    split at hp
    · rename_i haggregated
      rw [if_pos haggregated]
      exact h.nextAggregatedPacket hp
    · rename_i haggregated
      rw [if_neg haggregated]
      exact h.nextFragmentPacket hp

/-- `NextPacket` fills the payload and sets the marker, and does nothing else to the header. -/
theorem nextPacket_holds (h : Holds b p n)
    (hp : packetizer.nextPacket p = some (some (p', packetizer'))) :
    ∃ b₁ b', packetizer.nextPacket b = some (some (b', packetizer')) ∧
      b' = b₁.setMarker p'.marker ∧ SameHeader b b₁ ∧ Holds b₁ p' p'.payload.length := by
  unfold RtpPacketizerH264.nextPacket RtpPacketizerH264.nextPacketWith at hp ⊢
  cases hunits : packetizer.packets with
  | nil =>
      rw [hunits] at hp
      cases hp
  | cons unit units =>
      rw [hunits] at hp
      obtain ⟨⟨p₁, packetizer₁⟩, hp₁, hp⟩ := Option.bind_eq_some_iff.mp hp
      obtain ⟨left, hleft, hp⟩ := Option.bind_eq_some_iff.mp hp
      cases hp
      obtain ⟨b₁, hb₁, h₁, hsame⟩ := h.takePacket hp₁
      dsimp only
      rw [hb₁]
      simp only [Option.bind_eq_bind, Option.bind_some, hleft]
      exact ⟨b₁, _, rfl, rfl, hsame,
        ⟨h₁.offset, h₁.padding, h₁.capacity, h₁.size, h₁.room, h₁.le, h₁.written⟩⟩

end

end Xrtc.Proofs.Sdk
