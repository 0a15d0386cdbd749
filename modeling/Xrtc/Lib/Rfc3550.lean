import Mathlib.Data.FinEnum
import Xrtc.Lib.Bytes

/-!
# `Xrtc.Lib.Rfc3550`: RTP packets

What a receiver makes of an RTP packet of RFC 3550. `RtpHeader.parse` takes the fixed header
off a packet, with the contributing sources, the extension and the padding that the packet
says it has. `RtpHeader.encode` is a packet without these three, and `parse_encode` reads it
back. A payload type has seven bits on the wire.

Nothing here names a program.
-/

set_option autoImplicit false

namespace Xrtc.Lib

/-- The fields of a fixed header that are the same for every receiver. -/
structure RtpHeader where
  marker : Bool
  payloadType : UInt8
  sequenceNumber : UInt16
  timestamp : UInt32
  ssrc : UInt32
  deriving DecidableEq, Repr

namespace RtpHeader

/-- The packet behind its header extension. -/
def skipExtension (data : Bytes) : Option Bytes :=
  if data.length < 4 then none
  else
    let length := 4 + 4 * (getBE16 data 2).toNat
    if data.length < length then none else some (data.drop length)

/-- The packet before its padding. The last byte counts the padding, with itself. -/
def dropPadding (data : Bytes) : Option Bytes :=
  let length := (data.getLastD 0).toNat
  if length = 0 ∨ data.length < length then none else some (data.take (data.length - length))

/-- The header and the payload of a packet. -/
def parse (data : Bytes) : Option (RtpHeader × Bytes) :=
  if data.length < 12 then none
  else
    let first := data.getD 0 0
    let second := data.getD 1 0
    if first >>> 6 ≠ 2 then none
    else
      let sources := 4 * (first &&& 0x0f).toNat
      if data.length < 12 + sources then none
      else do
        let rest := data.drop (12 + sources)
        let rest ← if first &&& 0x10 ≠ 0 then skipExtension rest else some rest
        let payload ← if first &&& 0x20 ≠ 0 then dropPadding rest else some rest
        return (⟨second &&& 0x80 != 0, second &&& 0x7f, getBE16 data 2, getBE32 data 4,
          getBE32 data 8⟩, payload)

/-- The second byte of a packet. -/
def markerAndType (marker : Bool) (payloadType : UInt8) : UInt8 :=
  (if marker then 0x80 else 0) ||| (payloadType &&& 0x7f)

/-- A packet without contributing sources, extension and padding. -/
def encode (header : RtpHeader) (payload : Bytes) : Bytes :=
  [0x80, markerAndType header.marker header.payloadType] ++ writeUInt16 header.sequenceNumber ++
    writeUInt32 header.timestamp ++ writeUInt32 header.ssrc ++ payload

/-- A packet is its header of twelve bytes and its payload. -/
@[simp] theorem encode_length (header : RtpHeader) (payload : Bytes) :
    (encode header payload).length = 12 + payload.length := by
  simp [encode]
  omega

/-- The second byte gives back the marker and seven bits of the payload type. -/
theorem markerAndType_bits (marker : Bool) : ∀ payloadType : UInt8,
    ((markerAndType marker payloadType &&& 0x80 != 0) = marker) ∧
      markerAndType marker payloadType &&& 0x7f = payloadType &&& 0x7f := by
  cases marker <;> decide +kernel

section

variable (header : RtpHeader) (payload : Bytes)

/-- The integers of a packet, each behind what is written before it. -/
theorem getBE16_encode : getBE16 (encode header payload) 2 = header.sequenceNumber := by
  unfold encode
  simp only [List.append_assoc]
  exact (getBE16_append_right (k := 2) rfl _ 0).trans (getBE16_writeUInt16 _ _)

/-- The timestamp is at its place in the header. -/
theorem getBE32_encode_timestamp : getBE32 (encode header payload) 4 = header.timestamp := by
  have h := getBE32_append_right (a := [0x80, markerAndType header.marker header.payloadType] ++
    writeUInt16 header.sequenceNumber) (k := 4) (by simp)
    (writeUInt32 header.timestamp ++ (writeUInt32 header.ssrc ++ payload)) 0
  rw [getBE32_writeUInt32] at h
  simpa [encode] using h

/-- So is the SSRC. -/
theorem getBE32_encode_ssrc : getBE32 (encode header payload) 8 = header.ssrc := by
  have h := getBE32_append_right (a := [0x80, markerAndType header.marker header.payloadType] ++
    writeUInt16 header.sequenceNumber ++ writeUInt32 header.timestamp) (k := 8) (by simp)
    (writeUInt32 header.ssrc ++ payload) 0
  rw [getBE32_writeUInt32] at h
  simpa [encode] using h

/-- The fixed header of a packet is a packet without a payload. -/
theorem take_encode : (encode header payload).take 12 = encode header [] := by
  unfold encode
  rw [List.append_nil]
  exact List.take_left' (by simp)

/-- A packet is read back, up to the bits of a payload type that it has no place for. -/
theorem parse_encode :
    parse (encode header payload)
      = some ({ header with payloadType := header.payloadType &&& 0x7f }, payload) := by
  have hbits := markerAndType_bits header.marker header.payloadType
  have hseq := getBE16_encode header payload
  have hts := getBE32_encode_timestamp header payload
  have hssrc := getBE32_encode_ssrc header payload
  have hdrop : (encode header payload).drop 12 = payload := by
    unfold encode
    exact List.drop_left' (by simp)
  unfold parse
  rw [encode_length, if_neg (by omega)]
  have hfirst : (encode header payload).getD 0 0 = 0x80 := rfl
  have hsecond : (encode header payload).getD 1 0
      = markerAndType header.marker header.payloadType := rfl
  simp only [hfirst, hsecond, hseq, hts, hssrc]
  -- neither contributing sources nor an extension nor padding
  have hsources : ((0x80 : UInt8) &&& 0x0f).toNat = 0 := rfl
  have hextension : ¬ (0x80 : UInt8) &&& 0x10 ≠ 0 := by decide
  have hpadding : ¬ (0x80 : UInt8) &&& 0x20 ≠ 0 := by decide
  rw [if_neg (by decide), hsources, if_neg (by omega), if_neg hextension, hdrop]
  show (some payload >>= fun rest => _) = _
  simp only [Option.bind_eq_bind, Option.bind_some, if_neg hpadding, hbits.1, hbits.2]
  rfl

end

end RtpHeader

end Xrtc.Lib
