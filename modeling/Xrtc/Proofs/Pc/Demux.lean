import Mathlib.Data.Nat.Bitwise
import Xrtc.Ice.UdpPort
import Xrtc.Pc.DtlsTransport
import Xrtc.Proofs.Ice.StunWalk

/-!
# `Xrtc.Proofs.Pc.Demux`: which layer takes a datagram

A datagram from the network is offered to `get_stun_message` first. What that does
not take goes to the DTLS transport, which asks `is_dtls_packet` and `is_rtp_packet`.
These two look at the first byte, and they never both accept.

`read` has a test for the first byte as well. Its comment names the two top bits of
RTP, but the mask `0x0800` is bit 3 of that byte. So a first byte of DTLS or RTP with
bit 3 clear passes, and nothing behind it looks at the first byte again. `StunLayout`
is what is left of the recogniser: the trailer, the length field, and attributes that
fill the datagram. `getStunMessage_ne_notStun_iff` puts the recogniser together from
the two, and `unambiguous_iff` says for which datagrams the demultiplexing is
unambiguous.
-/

set_option autoImplicit false

namespace Xrtc.Proofs.Pc

open Xrtc.Lib
open Xrtc.Ice
open Xrtc.Ice.StunMessage
open Xrtc.Pc
open Xrtc.Proofs.Ice

/-! ### The attributes fill the datagram -/

/-- The attributes from an offset on end exactly where the datagram does, when each
takes a header and as many bytes as `read` takes for its type and length. -/
inductive AttrsFill (data : Bytes) : Nat → Prop where
  | done : AttrsFill data data.length
  | next {pos : Nat}
      (hin : pos + (4 + readWidth (getBE16 data pos) (getBE16 data (pos + 2))) ≤ data.length)
      (hrest : AttrsFill data
        (pos + (4 + readWidth (getBE16 data pos) (getBE16 data (pos + 2))))) :
      AttrsFill data pos

/-- The value of an attribute is read when its bytes are there. -/
theorem exists_readValue {buf : Bytes} {type length : UInt16}
    (hin : readWidth type length ≤ buf.length) :
    ∃ attr rest, readValue type length buf = some (attr, rest) := by
  rw [readValue]
  cases htype : getAttributeValueType type with
  | byteString =>
      rw [readWidth_byteString htype] at hin
      have hlen := Nat.le_trans (le_padded length.toNat) hin
      simp only [readBytes, if_pos hlen]
      exact ⟨_, _, rfl⟩
  | uint32 =>
      rw [readWidth_uint32 htype] at hin
      simp only [readUInt32, readBytes, if_pos hin]
      exact ⟨_, _, rfl⟩
  | unknown =>
      rw [readWidth_unknown htype] at hin
      have hskip : (UInt16.ofNat (padded length.toNat)).toNat ≤ buf.length := by
        rwa [UInt16.toNat_ofNat']
      simp only [consume, readBytes, if_pos hskip]
      exact ⟨_, _, rfl⟩

/-- An attribute that fits the datagram is read. -/
theorem exists_readAttr {data : Bytes} {pos : Nat}
    (hin : pos + (4 + readWidth (getBE16 data pos) (getBE16 data (pos + 2))) ≤ data.length) :
    ∃ a rest, readAttr (data.drop pos) = some (a, rest) := by
  have htype : readUInt16 (data.drop pos) = some (getBE16 data pos, data.drop (pos + 2)) := by
    rw [readUInt16_of_le (by rw [List.length_drop]; omega), getBE16_drop, List.drop_drop,
      Nat.add_zero]
  have hlength : readUInt16 (data.drop (pos + 2))
      = some (getBE16 data (pos + 2), data.drop (pos + 4)) := by
    rw [readUInt16_of_le (by rw [List.length_drop]; omega), getBE16_drop, List.drop_drop,
      Nat.add_zero]
  have hin' : readWidth (getBE16 data pos) (getBE16 data (pos + 2))
      ≤ (data.drop (pos + 4)).length := by
    rw [List.length_drop]
    omega
  obtain ⟨attr, rest, hvalue⟩ := exists_readValue hin'
  refine ⟨⟨getBE16 data pos, getBE16 data (pos + 2), attr⟩, rest, ?_⟩
  simp only [readAttr, htype, hlength, hvalue, Option.bind_eq_bind, Option.bind_some]
  rfl

/-- In aligned data the attribute loop gets through exactly when the attributes fill
the datagram. The induction is on the bytes left. -/
theorem readAttrs_isSome_iff {data : Bytes} (hdata : data.length % 4 = 0) (pos : Nat)
    (hpos : pos % 4 = 0) (hle : pos ≤ data.length) :
    (readAttrs pos (data.drop pos)).isSome ↔ AttrsFill data pos := by
  rcases Nat.eq_or_lt_of_le hle with rfl | hlt
  · rw [List.drop_length, readAttrs_nil]
    exact iff_of_true rfl .done
  · -- an attribute is there; the walk goes on behind it if it ends in the data
    have hmod := readWidth_mod (getBE16 data pos) (getBE16 data (pos + 2))
    by_cases hin : pos + (4 + readWidth (getBE16 data pos) (getBE16 data (pos + 2))) ≤ data.length
    · obtain ⟨a, rest, hread⟩ := exists_readAttr hin
      obtain ⟨htype, hlength, rfl, -⟩ := readAttr_width hdata hpos hread
      rw [htype, hlength] at hread
      have ih := readAttrs_isSome_iff hdata
        (pos + (4 + readWidth (getBE16 data pos) (getBE16 data (pos + 2)))) (by omega) hin
      rw [readAttrs_cons hread, Option.isSome_map, add_sub_length_drop hin, ih]
      constructor
      · exact fun hrest => .next hin hrest
      · intro hfill
        cases hfill with
        | done => omega
        | next _ hrest => exact hrest
    · constructor
      · intro hsome
        obtain ⟨visits, hvisits⟩ := Option.isSome_iff_exists.mp hsome
        obtain ⟨a, visits', -, -, htype, hlength, hnext, -⟩ :=
          readAttrs_drop hdata hpos hlt hvisits
        rw [htype, hlength] at hnext
        exact absurd hnext hin
      · intro hfill
        cases hfill with
        | done => omega
        | next hin' _ => exact absurd hin' hin
termination_by data.length - pos

/-! ### The recogniser of STUN -/

/-- A datagram that is laid out as STUN, but for its first byte: it ends with a
fingerprint, the length field counts the bytes behind the header, and attributes fill
these. -/
structure StunLayout (digest : MessageDigest) (data : Bytes) : Prop where
  fingerprint : validateFingerprint digest data = true
  length : data.length = kStunHeaderSize + (getBE16 data 2).toNat
  attrs : AttrsFill data kStunHeaderSize

/-- The mask of `read` picks bit 3 of the first byte. -/
theorem getBE16_and_mask {data : Bytes} (h : 2 ≤ data.length) :
    getBE16 data 0 &&& 0x0800 = 0 ↔ data.getD 0 0 &&& 0x08 = 0 := by
  match data, h with
  | b₀ :: b₁ :: rest, _ =>
      have hb₁ : b₁.toNat < 2 ^ 8 := b₁.toNat_lt
      have hb₀ : b₀.toNat < 2 ^ 8 := b₀.toNat_lt
      have hvalue : (getBE16 (b₀ :: b₁ :: rest) 0).toNat = 2 ^ 8 * b₀.toNat + b₁.toNat := by
        simp only [getBE16, slice, List.drop_zero, List.take_succ_cons, List.take_zero, ofBE,
          UInt16.toNat_ofNat', List.length_cons, List.length_nil]
        omega
      have hword : (getBE16 (b₀ :: b₁ :: rest) 0 &&& 0x0800 = 0)
          ↔ b₀.toNat.testBit 3 = false := by
        rw [← UInt16.toNat_inj, UInt16.toNat_and, hvalue]
        show _ &&& 2 ^ 11 = 0 ↔ _
        rw [Nat.and_two_pow, Nat.testBit_two_pow_mul_add _ hb₁]
        cases b₀.toNat.testBit 3 <;> simp
      have hbyte : (b₀ &&& 0x08 = 0) ↔ b₀.toNat.testBit 3 = false := by
        rw [← UInt8.toNat_inj, UInt8.toNat_and]
        show _ &&& 2 ^ 3 = 0 ↔ _
        rw [Nat.and_two_pow]
        cases b₀.toNat.testBit 3 <;> simp
      show _ ↔ b₀ &&& 0x08 = 0
      rw [hword, hbyte]

/-- `read` accepts aligned data of at least a header by bit 3 of the first byte, the
length field and the attributes. -/
theorem read_isSome_iff {data : Bytes} (hdata : data.length % 4 = 0)
    (h : kStunHeaderSize ≤ data.length) :
    (StunMessage.read data).isSome ↔
      data.getD 0 0 &&& 0x08 = 0 ∧ data.length = kStunHeaderSize + (getBE16 data 2).toNat ∧
        AttrsFill data kStunHeaderSize := by
  rw [kStunHeaderSize] at h
  rw [← readAttrs_isSome_iff hdata kStunHeaderSize (by decide) h,
    ← getBE16_and_mask (by omega)]
  simp only [StunMessage.read, readVisits, readHeader_of_le h]
  by_cases hmask : getBE16 data 0 &&& 0x0800 = 0
  · have hlength : (data.drop kStunHeaderSize).length = (getBE16 data 2).toNat ↔
        data.length = kStunHeaderSize + (getBE16 data 2).toNat := by
      rw [List.length_drop, kStunHeaderSize]
      omega
    rw [← hlength]
    by_cases hfield : (data.drop kStunHeaderSize).length = (getBE16 data 2).toNat
    · cases hattrs : readAttrs kStunHeaderSize (data.drop kStunHeaderSize) <;>
        simp [hmask, hfield, hattrs]
    · rw [List.length_drop] at hfield
      simp [hmask, hfield]
  · simp [hmask]

/-- `get_stun_message` returns true exactly on what is laid out as STUN with bit 3 of
the first byte clear. What the port does with a message afterwards does not matter. -/
theorem getStunMessage_ne_notStun_iff (digest : MessageDigest) (port : UDPPort) (data : Bytes) :
    UDPPort.getStunMessage digest port data ≠ .notStun ↔
      data.getD 0 0 &&& 0x08 = 0 ∧ StunLayout digest data := by
  by_cases hfingerprint : validateFingerprint digest data = true
  · obtain ⟨hdata, hsize, -⟩ := validateFingerprint_eq_true hfingerprint
    have hread := read_isSome_iff hdata (by rw [kStunHeaderSize]; omega)
    have hlayout : StunLayout digest data ↔
        data.length = kStunHeaderSize + (getBE16 data 2).toNat ∧ AttrsFill data kStunHeaderSize :=
      ⟨fun h => ⟨h.length, h.attrs⟩, fun h => ⟨hfingerprint, h.1, h.2⟩⟩
    rw [hlayout, ← hread, UDPPort.getStunMessage, hfingerprint]
    cases StunMessage.read data with
    | none => simp
    | some msg =>
        have hrequest : UDPPort.checkBindingRequest digest port msg ≠ .notStun := by
          rw [UDPPort.checkBindingRequest]
          grind
        simp only [Bool.not_true, Bool.false_eq_true, if_false, Option.isSome_some, iff_true]
        split
        · exact hrequest
        · simp
  · rw [UDPPort.getStunMessage, eq_false_of_ne_true hfingerprint]
    refine iff_of_false (by simp) ?_
    exact fun h => hfingerprint h.2.fingerprint

/-! ### The demultiplexing -/

/-- The first byte is one of DTLS records, or of RTP and RTCP. -/
def DtlsOrRtpByte (b : UInt8) : Prop := (19 < b ∧ b < 64) ∨ b &&& 0xC0 = 0x80

/-- At most one of the three recognisers accepts a datagram. In particular no datagram
with a first byte of DTLS or RTP is taken for STUN. -/
structure Unambiguous (digest : MessageDigest) (port : UDPPort) (data : Bytes) : Prop where
  stun_dtls : ¬ (UDPPort.getStunMessage digest port data ≠ .notStun ∧ isDtlsPacket data = true)
  stun_rtp : ¬ (UDPPort.getStunMessage digest port data ≠ .notStun ∧ isRtpPacket data = true)
  dtls_rtp : ¬ (isDtlsPacket data = true ∧ isRtpPacket data = true)
  foreign : DtlsOrRtpByte (data.getD 0 0) → UDPPort.getStunMessage digest port data = .notStun

/-- The two tests of the DTLS transport exclude each other. -/
theorem not_dtls_and_rtp (data : Bytes) : ¬ (isDtlsPacket data = true ∧ isRtpPacket data = true) := by
  rintro ⟨hdtls, hrtp⟩
  simp only [isDtlsPacket, isRtpPacket, Bool.and_eq_true, decide_eq_true_eq] at hdtls hrtp
  have hle : (data.getD 0 0 &&& 0xC0).toNat ≤ (data.getD 0 0).toNat := by
    rw [UInt8.toNat_and]
    exact Nat.and_le_left
  have hlt : (data.getD 0 0).toNat < 64 := UInt8.lt_iff_toNat_lt.mp hdtls.2.2
  rw [hrtp.2] at hle
  exact absurd hle (by rw [show (0x80 : UInt8).toNat = 128 from rfl]; omega)

/-- For every byte string, the demultiplexing is unambiguous unless the first byte is one of DTLS
or RTP with bit 3 clear and the rest is laid out as STUN. The test of the first byte looks at that
bit, where the top two were meant. -/
theorem unambiguous_iff (digest : MessageDigest) (port : UDPPort) (data : Bytes) :
    Unambiguous digest port data ↔
      ¬ (DtlsOrRtpByte (data.getD 0 0) ∧ data.getD 0 0 &&& 0x08 = 0 ∧ StunLayout digest data) := by
  have hstun := getStunMessage_ne_notStun_iff digest port data
  constructor
  · rintro h ⟨hbyte, hlayout⟩
    exact hstun.mpr hlayout (h.foreign hbyte)
  · intro h
    have hforeign : DtlsOrRtpByte (data.getD 0 0) →
        UDPPort.getStunMessage digest port data = .notStun := by
      intro hbyte
      by_contra hne
      exact h ⟨hbyte, hstun.mp hne⟩
    refine ⟨?_, ?_, not_dtls_and_rtp data, hforeign⟩
    · rintro ⟨hne, hdtls⟩
      simp only [isDtlsPacket, Bool.and_eq_true, decide_eq_true_eq] at hdtls
      exact hne (hforeign (Or.inl hdtls.2))
    · rintro ⟨hne, hrtp⟩
      simp only [isRtpPacket, Bool.and_eq_true, decide_eq_true_eq] at hrtp
      exact hne (hforeign (Or.inr hrtp.2))

/-- An RTP packet that is laid out as STUN: version 2 in the first byte, then type,
length, cookie, transaction id, and one fingerprint. -/
def rtpAsStun : Bytes :=
  [0x80, 0x01, 0x00, 0x08, 0x21, 0x12, 0xa4, 0x42] ++ emptyTransactionId ++
    [0x80, 0x28, 0x00, 0x04, 0x06, 0xf0, 0xd4, 0x42]

/-- Every port takes it for STUN. The checksum is the CRC32 of its first 20 bytes. -/
theorem rtpAsStun_ambiguous :
    isRtpPacket rtpAsStun = true ∧ ∀ port,
      ¬ Unambiguous (fixedDigest (Vector.replicate 20 0) 0x55a4810c) port rtpAsStun := by
  have hrtp : isRtpPacket rtpAsStun = true := by decide
  have hread : (StunMessage.read rtpAsStun).isSome := by decide +kernel
  obtain ⟨hbit, hlength, hattrs⟩ := (read_isSome_iff (by decide) (by decide)).mp hread
  have hfingerprint : validateFingerprint (fixedDigest (Vector.replicate 20 0) 0x55a4810c) rtpAsStun
      = true := by
    decide +kernel
  refine ⟨hrtp, ?_⟩
  intro port h
  have hstun := (getStunMessage_ne_notStun_iff _ port rtpAsStun).mpr
    ⟨hbit, hfingerprint, hlength, hattrs⟩
  exact h.stun_rtp ⟨hstun, hrtp⟩

end Xrtc.Proofs.Pc
