import Xrtc.Ice.Stun
import Xrtc.Lib.Traced

/-!
# `Xrtc.Ice.IntegrityAccess`: the integrity check and the memory it touches

`StunMessage::validate_message_integrity` and `_validate_message_integrity_of_type` once
more, as computations that record every access to the datagram in `_buffer` and to the
temporary copy of its first bytes. `Xrtc.Ice.Stun` has the same functions without the
record.
-/

set_option autoImplicit false

namespace Xrtc.Ice.StunMessage

open Xrtc.Lib

/-- The scan of `_validate_message_integrity_of_type` from `currentPos`. -/
def scanAttrsTraced (miAttrType : UInt16) (data : Bytes) (currentPos : Nat) :
    Traced (Option Nat) :=
  if currentPos + kStunAttributeHeaderSize ≤ data.length then do
    let attrType ← Traced.getBE16 data currentPos
    let attrLength ← Traced.getBE16 data (currentPos + 2)
    if attrType = miAttrType then return some currentPos
    else
      scanAttrsTraced miAttrType data
        (currentPos + (kStunAttributeHeaderSize + padded attrLength.toNat))
  else return none
termination_by data.length - currentPos
decreasing_by
  simp only [kStunAttributeHeaderSize] at *
  omega

/-- The copy of the bytes before the integrity attribute, with the length field adjusted
if something follows the attribute. -/
def hmacInputTraced (data : Bytes) (miPos miAttrSize : Nat) : Traced Bytes := do
  let tempData ← Traced.memcpy (List.replicate miPos 0) data miPos
  if miPos + kStunAttributeHeaderSize + miAttrSize < data.length then
    let extraPos := miPos + kStunAttributeHeaderSize + miAttrSize
    let extraSize := data.length - extraPos
    Traced.setBE16 tempData 2 (data.length - extraSize - kStunHeaderSize)
  else return tempData

variable (digest : MessageDigest)

/-- `_validate_message_integrity_of_type`. `memcmp` looks at all the bytes it is given. -/
def validateMessageIntegrityOfTypeTraced (miAttrType : UInt16) (miAttrSize : Nat) (data : Bytes)
    (password : Bytes) : Traced Bool :=
  if data.length % 4 ≠ 0 ∨ data.length < kStunHeaderSize then return false
  else do
    let length ← Traced.getBE16 data 2
    if length.toNat + kStunHeaderSize ≠ data.length then return false
    else
      match ← scanAttrsTraced miAttrType data kStunHeaderSize with
      | none => return false
      | some miPos =>
          let tempData ← hmacInputTraced data miPos miAttrSize
          let input ← Traced.getBytes tempData 0 miPos
          let hmac := digest.hmacSha1 password input
          if hmac.length ≠ kStunMessageIntegritySize then return false
          else
            let value ← Traced.getBytes data (miPos + kStunAttributeHeaderSize) miAttrSize
            return value == hmac.take miAttrSize

/-- `validate_message_integrity`. -/
def validateMessageIntegrityTraced (m : StunMessage) (password : Bytes) : Traced StunMessage :=
  let m := { m with password := password }
  if (m.getByteString stunAttrMessageIntegrity).isSome then do
    if ← validateMessageIntegrityOfTypeTraced digest stunAttrMessageIntegrity
        kStunMessageIntegritySize m.buffer password then
      return { m with integrity := .integrityOk }
    else return { m with integrity := .integrityBad }
  else return { m with integrity := .noIntegrity }

end Xrtc.Ice.StunMessage
