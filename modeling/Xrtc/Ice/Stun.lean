import Xrtc.Lib.Bytes

/-!
# `Xrtc.Ice.Stun`: STUN messages

The model of `rtcserver/src/ice/stun.cpp`: attributes, building a message, and
`read`, `write`, `validate_fingerprint` and `validate_message_integrity`.

HMAC-SHA1 and CRC32 come from `rtc_base` and are a parameter (`MessageDigest`):
two functions of their input bytes, of which only the digest's length is known.

The source stores the length of an attribute in a field of its own. Every
constructor and setter derives it from the value, so here it is the function
`StunAttribute.length`. `read` is only called on fresh messages that are dropped
when it fails, so here it returns the message it fills in. The attributes are
read by a loop. `readAttr` is one iteration of it and `readAttrs` the whole loop,
with the offset at which each iteration starts.
-/

set_option autoImplicit false

namespace Xrtc.Ice

open Xrtc.Lib

/-! ### Constants -/

/-- `k_stun_header_size`. -/
def kStunHeaderSize : Nat := 20

/-- `k_stun_attribute_header_size`. -/
def kStunAttributeHeaderSize : Nat := 4

/-- `k_stun_transaction_id_offset`. -/
def kStunTransactionIdOffset : Nat := 8

/-- `k_stun_transaction_id_length`. -/
def kStunTransactionIdLength : Nat := 12

/-- `k_stun_magic_cookie`. -/
def kStunMagicCookie : UInt32 := 0x2112A442

/-- `k_stun_magic_cookie_length`. -/
def kStunMagicCookieLength : Nat := 4

/-- `k_stun_message_integrity_size`. -/
def kStunMessageIntegritySize : Nat := 20

/-- `STUN_FINGERPRINT_XOR_VALUE`. -/
def stunFingerprintXorValue : UInt32 := 0x5354554e

/-- `EMPTY_TRANSACION_ID`, twelve digits zero. -/
def emptyTransactionId : Bytes := List.replicate 12 0x30

/-- `STUN_BINDING_REQUEST`. -/
def stunBindingRequest : UInt16 := 0x0001

/-- `STUN_BINDING_RESPONSE`. -/
def stunBindingResponse : UInt16 := 0x0101

/-- `STUN_BINDING_ERROR_RESPONSE`. -/
def stunBindingErrorResponse : UInt16 := 0x0111

/-- `STUN_ATTR_USERNAME`. -/
def stunAttrUsername : UInt16 := 0x0006

/-- `STUN_ATTR_MESSAGE_INTEGRITY`. -/
def stunAttrMessageIntegrity : UInt16 := 0x0008

/-- `STUN_ATTR_ERROR_CODE`. -/
def stunAttrErrorCode : UInt16 := 0x0009

/-- `STUN_ATTR_XOR_MAPPED_ADDRESS`. -/
def stunAttrXorMappedAddress : UInt16 := 0x0020

/-- `STUN_ATTR_PRIORITY`. -/
def stunAttrPriority : UInt16 := 0x0024

/-- `STUN_ATTR_USE_CANDIDATE`. -/
def stunAttrUseCandidate : UInt16 := 0x0025

/-- `STUN_ATTR_FINGERPRINT`. -/
def stunAttrFingerprint : UInt16 := 0x8028

/-- `STUN_ATTR_ICE_CONTROLLING`. -/
def stunAttrIceControlling : UInt16 := 0x802A

/-- `STUN_ERROR_BAD_REQUEST`. -/
def stunErrorBadRequest : Nat := 400

/-- `STUN_ERROR_UNAUTHORIZED`. -/
def stunErrorUnauthorized : Nat := 401

/-- `STUN_ERROR_UNKNOWN_ATTRIBUTE`. -/
def stunErrorUnknownAttribute : Nat := 420

/-- `STUN_ERROR_SERVER_ERROR`. -/
def stunErrorServerError : Nat := 500

/-- `STUN_ERROR_GLOBAL_FAIL`. -/
def stunErrorGlobalFail : Nat := 600

/-- The bytes of an ASCII text. -/
def ascii (s : String) : Bytes := s.toList.map fun c => UInt8.ofNat c.toNat

/-- `STUN_ERROR_REASON_BAD_REQUEST`. -/
def stunErrorReasonBadRequest : Bytes := ascii "Bad request"

/-- `STUN_ERROR_REASON_UNAUTHORIZED`. -/
def stunErrorReasonUnauthorized : Bytes := ascii "Unauthorized"

/-- `is_stun_request_type`, with `k_stun_type_mask`. -/
def isStunRequestType (reqType : UInt16) : Bool := reqType &&& 0x0110 == 0

/-- `get_stun_success_response`. -/
def getStunSuccessResponse (reqType : UInt16) : Int :=
  if isStunRequestType reqType then (reqType ||| 0x0100).toNat else -1

/-- `get_stun_error_response`. -/
def getStunErrorResponse (reqType : UInt16) : Int :=
  if isStunRequestType reqType then (reqType ||| 0x0110).toNat else -1

/-! ### What `rtc_base` provides -/

/-- `rtc::ComputeHmac` with `DIGEST_SHA_1`, key first, and `rtc::ComputeCrc32`. -/
structure MessageDigest where
  hmacSha1 : Bytes → Bytes → Bytes
  crc32 : Bytes → UInt32
  /-- A SHA-1 digest has 20 bytes. -/
  hmacSha1_length : ∀ key data, (hmacSha1 key data).length = kStunMessageIntegritySize

/-- `rtc::IPAddress`. The IPv4 address is in host order, the IPv6 address is its
16 bytes. -/
inductive IPAddress where
  | unspec
  | v4 (addr : UInt32)
  | v6 (addr : Vector UInt8 16)
  deriving DecidableEq, Repr

/-- `rtc::SocketAddress`. -/
structure SocketAddress where
  ip : IPAddress
  port : UInt16
  deriving DecidableEq, Repr

/-! ### Attributes -/

/-- The value of an attribute, by the class that holds it. -/
inductive StunValue where
  | byteString (bytes : Bytes)
  | uint32 (bits : UInt32)
  | uint64 (bits : UInt64)
  | xorAddress (address : SocketAddress)
  | errorCode (cls number : UInt8) (reason : Bytes)
  deriving DecidableEq, Repr

/-- `StunAttribute`. -/
structure StunAttribute where
  type : UInt16
  value : StunValue
  deriving DecidableEq, Repr

/-- A length rounded up to a multiple of four. -/
def padded (n : Nat) : Nat :=
  if n % 4 ≠ 0 then n + (4 - n % 4) else n

/-- The zero bytes of `write_padding` after a value of `n` bytes. -/
def paddingBytes (n : Nat) : Bytes :=
  let remain := n % 4
  if 0 < remain then List.replicate (4 - remain) 0 else []

namespace StunAttribute

/-- `length()`: what `copy_bytes`, `set_address` and `set_reason` store in 16 bits,
and `SIZE` for the integers. -/
def length (a : StunAttribute) : UInt16 :=
  match a.value with
  | .byteString bytes => UInt16.ofNat bytes.length
  | .uint32 _ => 4
  | .uint64 _ => 8
  | .xorAddress address =>
      match address.ip with
      | .v4 _ => 8
      | .v6 _ => 20
      | .unspec => 0
  | .errorCode _ _ reason => UInt16.ofNat (4 + reason.length)

/-- `set_code` on an error attribute: both digits groups are stored in a byte. -/
def errorCodeOf (type : UInt16) (code : Nat) (reason : Bytes) : StunAttribute :=
  ⟨type, .errorCode (UInt8.ofNat (code / 100)) (UInt8.ofNat (code % 100)) reason⟩

/-- `StunErrorCodeAttribute::code`. -/
def code (a : StunAttribute) : Nat :=
  match a.value with
  | .errorCode cls number _ => cls.toNat * 100 + number.toNat
  | _ => 0

/-- `StunByteStringAttribute::get_string`. -/
def getString (a : StunAttribute) : Bytes :=
  match a.value with
  | .byteString bytes => bytes.take a.length.toNat
  | _ => []

/-- `StunUInt32Attribute::value`. -/
def bits (a : StunAttribute) : UInt32 :=
  match a.value with
  | .uint32 bits => bits
  | _ => 0

/-- `write`: the value of an attribute with its padding. The XOR of an IPv6
address is not implemented in the source and fails. -/
def write (a : StunAttribute) : Option Bytes :=
  match a.value with
  | .byteString bytes => some (bytes.take a.length.toNat ++ paddingBytes a.length.toNat)
  | .uint32 bits => some (writeUInt32 bits)
  | .uint64 bits => some (writeUInt64 bits)
  | .xorAddress address =>
      match address.ip with
      | .v4 addr =>
          some ([0, 1] ++ writeUInt16 (address.port ^^^ 0x2112)
            ++ writeUInt32 (addr ^^^ kStunMagicCookie))
      | .v6 _ => none
      | .unspec => none
  | .errorCode cls number reason =>
      some (writeUInt32 (cls.toUInt32 <<< 8 ||| number.toUInt32) ++ reason
        ++ paddingBytes a.length.toNat)

end StunAttribute

/-! ### Messages -/

/-- `StunMessage::IntegrityStatus`. -/
inductive IntegrityStatus where
  | notSet
  | noIntegrity
  | integrityOk
  | integrityBad
  deriving DecidableEq, Repr

/-- `StunMessage`. -/
structure StunMessage where
  type : UInt16 := 0
  length : UInt16 := 0
  transactionId : Bytes := emptyTransactionId
  attrs : List StunAttribute := []
  integrity : IntegrityStatus := .notSet
  password : Bytes := []
  buffer : Bytes := []
  deriving DecidableEq, Repr

namespace StunMessage

/-- `add_attribute`: the length field grows modulo `2 ^ 16`. -/
def addAttribute (m : StunMessage) (attr : StunAttribute) : StunMessage :=
  { m with
      length := m.length + UInt16.ofNat (padded attr.length.toNat + kStunAttributeHeaderSize)
      attrs := m.attrs ++ [attr] }

/-- The attribute part of `write`. -/
def writeAttrs : List StunAttribute → Option Bytes
  | [] => some []
  | attr :: attrs => do
      let value ← attr.write
      let rest ← writeAttrs attrs
      return writeUInt16 attr.type ++ writeUInt16 attr.length ++ value ++ rest

/-- The header part of `write`. -/
def writeHeader (m : StunMessage) : Bytes :=
  writeUInt16 m.type ++ writeUInt16 m.length ++ writeUInt32 kStunMagicCookie ++ m.transactionId

/-- `write`. -/
def write (m : StunMessage) : Option Bytes :=
  (writeAttrs m.attrs).map fun attrs => m.writeHeader ++ attrs

variable (digest : MessageDigest)

/-- `_add_message_integrity_of_type`. The attribute goes in with twenty digits
zero, the digest of the bytes before it is copied over them. -/
def addMessageIntegrityOfType (m : StunMessage) (attrType : UInt16) (attrSize : Nat)
    (key : Bytes) : Bool × StunMessage :=
  let miAttr : StunAttribute := ⟨attrType, .byteString (List.replicate attrSize 0x30)⟩
  let added := m.addAttribute miAttr
  match added.write with
  | none => (false, added)
  | some buf =>
      let msgLenForHmac := buf.length - kStunAttributeHeaderSize - miAttr.length.toNat
      let hmac := digest.hmacSha1 key (buf.take msgLenForHmac)
      if hmac.length ≠ kStunMessageIntegritySize then (false, added)
      else
        (true,
          { added with
              attrs := m.attrs ++ [⟨attrType, .byteString hmac⟩]
              password := key
              integrity := .integrityOk })

/-- `add_message_integrity`. -/
def addMessageIntegrity (m : StunMessage) (password : Bytes) : Bool × StunMessage :=
  m.addMessageIntegrityOfType digest stunAttrMessageIntegrity kStunMessageIntegritySize password

/-- `add_fingerprint`. -/
def addFingerprint (m : StunMessage) : Bool × StunMessage :=
  let fingerprintAttr : StunAttribute := ⟨stunAttrFingerprint, .uint32 0⟩
  let added := m.addAttribute fingerprintAttr
  match added.write with
  | none => (false, added)
  | some buf =>
      let msgLenForCrc32 := buf.length - kStunAttributeHeaderSize - fingerprintAttr.length.toNat
      let c := digest.crc32 (buf.take msgLenForCrc32)
      (true,
        { added with
            attrs := m.attrs ++ [⟨stunAttrFingerprint, .uint32 (c ^^^ stunFingerprintXorValue)⟩] })

/-- `validate_fingerprint`. -/
def validateFingerprint (data : Bytes) : Bool :=
  let fingerprintAttrSize := kStunAttributeHeaderSize + 4
  if data.length % 4 ≠ 0 ∨ data.length < kStunHeaderSize + fingerprintAttrSize then false
  else if getBE32 data (kStunTransactionIdOffset - kStunMagicCookieLength) ≠ kStunMagicCookie then
    false
  else
    let attrPos := data.length - fingerprintAttrSize
    if getBE16 data attrPos ≠ stunAttrFingerprint ∨ getBE16 data (attrPos + 2) ≠ 4 then false
    else
      let fingerprint := getBE32 data (attrPos + kStunAttributeHeaderSize)
      fingerprint ^^^ stunFingerprintXorValue == digest.crc32 (data.take attrPos)

/-! ### Reading -/

/-- `StunAttributeValueType`. -/
inductive ValueType where
  | unknown
  | uint32
  | byteString
  deriving DecidableEq, Repr

/-- `get_attribute_value_type`. -/
def getAttributeValueType (type : UInt16) : ValueType :=
  if type = stunAttrUsername then .byteString
  else if type = stunAttrMessageIntegrity then .byteString
  else if type = stunAttrPriority then .uint32
  else .unknown

/-- One iteration of the attribute loop of `read`: the type and length it reads,
and the attribute it decodes if the type is known. -/
structure ReadAttr where
  type : UInt16
  length : UInt16
  attr : Option StunAttribute
  deriving DecidableEq, Repr

/-- The value part of an iteration. A byte string takes its declared length and
then its padding, as far as there is any. An integer takes four bytes, whatever
length is declared. An attribute of unknown type is skipped by its padded length,
which is computed in 16 bits. -/
def readValue (type length : UInt16) (buf : Bytes) : Option (Option StunAttribute × Bytes) :=
  match getAttributeValueType type with
  | .byteString => do
      let (bytes, buf) ← readBytes length.toNat buf
      let remain := length.toNat % 4
      let buf := if 0 < remain then (consume (4 - remain) buf).getD buf else buf
      return (some ⟨type, .byteString bytes⟩, buf)
  | .uint32 => do
      let (bits, buf) ← readUInt32 buf
      return (some ⟨type, .uint32 bits⟩, buf)
  | .unknown => do
      let buf ← consume (UInt16.ofNat (padded length.toNat)).toNat buf
      return (none, buf)

/-- One iteration of the attribute loop of `read`. -/
def readAttr (buf : Bytes) : Option (ReadAttr × Bytes) := do
  let (type, buf) ← readUInt16 buf
  let (length, buf) ← readUInt16 buf
  let (attr, buf) ← readValue type length buf
  return (⟨type, length, attr⟩, buf)

/-- What is consumed does not come back. -/
theorem consume_getD_length_le (n : Nat) (buf : Bytes) :
    ((consume n buf).getD buf).length ≤ buf.length := by
  cases h : consume n buf with
  | none => simp
  | some rest =>
      obtain ⟨rfl, hn⟩ := consume_eq_some h
      simp

/-- The value of an attribute leaves no more than there was, whatever its type is read as. With
the four bytes of the header in front this makes the loop end. -/
theorem readValue_length_le {type length : UInt16} {buf rest : Bytes}
    {attr : Option StunAttribute} (h : readValue type length buf = some (attr, rest)) :
    rest.length ≤ buf.length := by
  unfold readValue at h
  split at h
  · -- a byte string: its bytes, and padding that may be missing
    simp only [Option.bind_eq_bind, Option.bind_eq_some_iff, Option.pure_def,
      Option.some.injEq, Prod.mk.injEq, Prod.exists] at h
    obtain ⟨bytes, buf', hread, rfl, rfl⟩ := h
    obtain ⟨rfl, -⟩ := readBytes_eq_some hread
    have hle := consume_getD_length_le (4 - length.toNat % 4) buf'
    rw [List.length_append]
    split <;> omega
  · simp only [readUInt32, Option.bind_eq_bind, Option.bind_eq_some_iff, Option.pure_def,
      Option.some.injEq, Prod.mk.injEq, Prod.exists, Option.map_eq_some_iff] at h
    obtain ⟨bits, buf', ⟨bytes, buf'', hread, rfl, rfl⟩, rfl, rfl⟩ := h
    obtain ⟨rfl, -⟩ := readBytes_eq_some hread
    rw [List.length_append]
    omega
  · simp only [Option.bind_eq_bind, Option.bind_eq_some_iff, Option.pure_def,
      Option.some.injEq, Prod.mk.injEq] at h
    obtain ⟨buf', hread, rfl, rfl⟩ := h
    obtain ⟨rfl, -⟩ := consume_eq_some hread
    rw [List.length_drop]
    omega

/-- An iteration splits four bytes of header off and then reads the value. -/
theorem readAttr_eq_some {buf rest : Bytes} {a : ReadAttr} (h : readAttr buf = some (a, rest)) :
    4 ≤ buf.length ∧ a.type = getBE16 buf 0 ∧ a.length = getBE16 buf 2 ∧
      readValue a.type a.length (buf.drop 4) = some (a.attr, rest) := by
  simp only [readAttr, Option.bind_eq_bind, Option.bind_eq_some_iff, Option.pure_def,
    Option.some.injEq, Prod.mk.injEq, Prod.exists] at h
  obtain ⟨type, buf₁, h₁, length, buf₂, h₂, attr, buf₃, h₃, rfl, rfl⟩ := h
  obtain ⟨-, rfl, rfl⟩ := readUInt16_eq_some h₁
  obtain ⟨hlen, rfl, rfl⟩ := readUInt16_eq_some h₂
  rw [List.length_drop] at hlen
  rw [List.drop_drop] at h₃
  exact ⟨by omega, rfl, getBE16_drop buf 2 0, h₃⟩

/-- An attribute leaves less, so the loop over them ends. -/
theorem readAttr_length_lt {buf rest : Bytes} {a : ReadAttr}
    (h : readAttr buf = some (a, rest)) : rest.length < buf.length := by
  obtain ⟨hlen, -, -, hvalue⟩ := readAttr_eq_some h
  have hle := readValue_length_le hvalue
  rw [List.length_drop] at hle
  omega

/-- The attribute loop of `read`, from the bytes left at offset `pos`: every
iteration with the offset it starts at. -/
def readAttrs (pos : Nat) (buf : Bytes) : Option (List (Nat × ReadAttr)) :=
  if buf.length = 0 then some []
  else
    match _h : readAttr buf with
    | none => none
    | some (a, rest) =>
        (readAttrs (pos + (buf.length - rest.length)) rest).map ((pos, a) :: ·)
termination_by buf.length
decreasing_by exact readAttr_length_lt (by assumption)

/-- The part of `read` before the attributes: the type, the length field, the
magic cookie, the transaction id and the bytes left. -/
def readHeader (buf : Bytes) : Option (UInt16 × UInt16 × Bytes × Bytes × Bytes) := do
  let (type, buf) ← readUInt16 buf
  if type &&& 0x0800 ≠ 0 then none
  else
    let (length, buf) ← readUInt16 buf
    let (magicCookie, buf) ← readBytes kStunMagicCookieLength buf
    let (transactionId, buf) ← readBytes kStunTransactionIdLength buf
    return (type, length, magicCookie, transactionId, buf)

/-- The iterations of the attribute loop of `read`, if `read` accepts. -/
def readVisits (data : Bytes) : Option (List (Nat × ReadAttr)) := do
  let (_, length, _, _, buf) ← readHeader data
  if buf.length ≠ length.toNat then none
  else readAttrs kStunHeaderSize buf

/-- `read`. A message without the magic cookie is taken for the older format,
whose transaction id starts there. -/
def read (data : Bytes) : Option StunMessage := do
  let (type, length, magicCookie, transactionId, _) ← readHeader data
  let visits ← readVisits data
  let transactionId :=
    if UInt32.ofNat (ofBE magicCookie) ≠ kStunMagicCookie then magicCookie ++ transactionId
    else transactionId
  return { type, length, transactionId, attrs := visits.filterMap (·.2.attr), buffer := data }

/-! ### Lookup -/

/-- `_get_attribute`, which is also `get_uint32` and `get_byte_string` up to a
cast. -/
def getAttribute (m : StunMessage) (type : UInt16) : Option StunAttribute :=
  m.attrs.find? (·.type == type)

/-- `get_uint32`. -/
def getUInt32 (m : StunMessage) (type : UInt16) : Option StunAttribute := m.getAttribute type

/-- `get_byte_string`. -/
def getByteString (m : StunMessage) (type : UInt16) : Option StunAttribute := m.getAttribute type

/-- `get_error_code_value`. -/
def getErrorCodeValue (m : StunMessage) : Nat :=
  match m.getAttribute stunAttrErrorCode with
  | some attr => attr.code
  | none => stunErrorGlobalFail

/-! ### Message integrity -/

/-- The scan of `_validate_message_integrity_of_type` from `currentPos`: the
offsets it looks at, and where it stops at an attribute of the given type. -/
def scanAttrs (miAttrType : UInt16) (data : Bytes) (currentPos : Nat) : List Nat × Option Nat :=
  if currentPos + kStunAttributeHeaderSize ≤ data.length then
    if getBE16 data currentPos = miAttrType then ([currentPos], some currentPos)
    else
      let attrLength := getBE16 data (currentPos + 2)
      let rest := scanAttrs miAttrType data
        (currentPos + (kStunAttributeHeaderSize + padded attrLength.toNat))
      (currentPos :: rest.1, rest.2)
  else ([], none)
termination_by data.length - currentPos
decreasing_by
  simp only [kStunAttributeHeaderSize] at *
  omega

/-- The bytes the digest is computed over: those before the integrity attribute,
with the length field set as if the attribute were the last. -/
def hmacInput (data : Bytes) (miPos miAttrSize : Nat) : Bytes :=
  let tempData := data.take miPos
  if miPos + kStunAttributeHeaderSize + miAttrSize < data.length then
    let extraPos := miPos + kStunAttributeHeaderSize + miAttrSize
    let extraSize := data.length - extraPos
    setBE16 tempData 2 (data.length - extraSize - kStunHeaderSize)
  else tempData

/-- `_validate_message_integrity_of_type`. An integrity attribute that is cut off
by the end of the data does not compare equal. -/
def validateMessageIntegrityOfType (miAttrType : UInt16) (miAttrSize : Nat) (data : Bytes)
    (password : Bytes) : Bool :=
  if data.length % 4 ≠ 0 ∨ data.length < kStunHeaderSize then false
  else if (getBE16 data 2).toNat + kStunHeaderSize ≠ data.length then false
  else
    match (scanAttrs miAttrType data kStunHeaderSize).2 with
    | none => false
    | some miPos =>
        let hmac := digest.hmacSha1 password (hmacInput data miPos miAttrSize)
        if hmac.length ≠ kStunMessageIntegritySize then false
        else (data.drop (miPos + kStunAttributeHeaderSize)).take miAttrSize == hmac.take miAttrSize

/-- `validate_message_integrity`. The status it returns is the field `integrity`. -/
def validateMessageIntegrity (m : StunMessage) (password : Bytes) : StunMessage :=
  let m := { m with password := password }
  if (m.getByteString stunAttrMessageIntegrity).isSome then
    if validateMessageIntegrityOfType digest stunAttrMessageIntegrity kStunMessageIntegritySize
        m.buffer password then
      { m with integrity := .integrityOk }
    else { m with integrity := .integrityBad }
  else { m with integrity := .noIntegrity }

end StunMessage

end Xrtc.Ice
