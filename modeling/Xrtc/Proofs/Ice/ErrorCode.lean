import Xrtc.Proofs.Ice.ChannelActions
import Xrtc.Proofs.Ice.StunRoundTrip

/-!
# `Xrtc.Proofs.Ice.ErrorCode`: the code of an error response

`send_binding_error_response` writes the code into an `ERROR-CODE` attribute.
`get_attribute_value_type` does not list that type, so `read` skips the attribute,
and `get_error_code_value` of every message that was read is the code it falls back
to, 600 (`getErrorCodeValue_of_read`). The class that would decode the attribute is
never built.

The response itself is well formed (`bindingErrorResponse_eq`). It is the signed
message of `Xrtc.Proofs.Ice.StunRoundTrip` with one attribute, for every code and
every reason that fits. So it is accepted, and a connection that gets it is destroyed,
whatever the code was. `survivesWire_iff` puts the two together.
-/

set_option autoImplicit false

namespace Xrtc.Proofs.Ice

open Xrtc.Lib
open Xrtc.Ice
open Xrtc.Ice.StunMessage

/-! ### What `read` drops -/

/-- An iteration decodes nothing of an unknown type. -/
theorem known_of_readAttr {buf rest : Bytes} {a : ReadAttr} {d : StunAttribute}
    (h : readAttr buf = some (a, rest)) (hd : a.attr = some d) :
    getAttributeValueType d.type ≠ .unknown := by
  have htype : d.type = a.type := (decoded_readAttr h).type d hd
  obtain ⟨-, -, -, hvalue⟩ := readAttr_eq_some h
  intro hunknown
  rw [htype] at hunknown
  simp only [readValue, hunknown, Option.bind_eq_bind, Option.bind_eq_some_iff, Option.pure_def,
    Option.some.injEq, Prod.mk.injEq] at hvalue
  obtain ⟨buf', -, hattr, -⟩ := hvalue
  rw [← hattr] at hd
  cases hd

/-- A message that was read has attributes of known types only. -/
theorem known_of_read {data : Bytes} {m : StunMessage} (h : StunMessage.read data = some m) :
    ∀ d ∈ m.attrs, getAttributeValueType d.type ≠ .unknown := by
  obtain ⟨visits, -, hvisits, -, hattrs, -⟩ := read_eq_some h
  intro d hd
  rw [hattrs] at hd
  obtain ⟨visit, hvisit, hattr⟩ := List.mem_filterMap.mp hd
  obtain ⟨front, rest, hread⟩ := readAttr_of_mem hvisits visit hvisit
  exact known_of_readAttr hread hattr

/-- A message that was read has the error code 600, whatever was sent. -/
theorem getErrorCodeValue_of_read {data : Bytes} {m : StunMessage}
    (h : StunMessage.read data = some m) : m.getErrorCodeValue = stunErrorGlobalFail := by
  have hnone : m.getAttribute stunAttrErrorCode = none := by
    refine List.find?_eq_none.mpr fun d hd htype => ?_
    rw [beq_iff_eq] at htype
    refine known_of_read h d hd ?_
    rw [htype]
    decide
  rw [getErrorCodeValue, hnone]

/-! ### The response as a signed message -/

/-- The attribute of an error response. -/
def errorAttr (code : Nat) (reason : Bytes) : StunAttribute :=
  StunAttribute.errorCodeOf stunAttrErrorCode code reason

/-- An error response is no request and no message of another protocol. -/
theorem stunBindingErrorResponse_and : stunBindingErrorResponse &&& 0x0800 = 0 := by decide

/-- The attribute is neither the integrity nor the priority. -/
theorem plain_errorAttr (code : Nat) (reason : Bytes) :
    ∀ a ∈ [errorAttr code reason], Plain a := by
  intro a ha
  rw [List.mem_singleton.mp ha]
  have hmi : (errorAttr code reason).type ≠ stunAttrMessageIntegrity := by
    show stunAttrErrorCode ≠ stunAttrMessageIntegrity
    decide
  have hpriority : (errorAttr code reason).type ≠ stunAttrPriority := by
    show stunAttrErrorCode ≠ stunAttrPriority
    decide
  exact ⟨trivial, hmi, fun h => absurd h hpriority⟩

/-- The attribute fits a message with room for the integrity and the fingerprint. -/
theorem size_errorAttr (code : Nat) {reason : Bytes} (hreason : reason.length < 60000) :
    ([errorAttr code reason].map wireSize).sum + 32 < 65536 := by
  have hsize : wireSize (errorAttr code reason) = 4 + padded (4 + reason.length) := rfl
  rw [List.map_singleton, List.sum_singleton, hsize, padded]
  split <;> omega

/-- An error response before it is signed. The id is that of the request, and the reason
fits. -/
def errorResponse (id : Bytes) (code : Nat) (reason : Bytes)
    (hid : id.length = kStunTransactionIdLength) (hreason : reason.length < 60000) :
    PlainMessage where
  type := stunBindingErrorResponse
  transactionId := id
  attrs := [errorAttr code reason]
  type_and := stunBindingErrorResponse_and
  length_transactionId := hid
  plain := plain_errorAttr code reason
  size := size_errorAttr code hreason

/-- `send_binding_error_response` sends the signed message, but for the two codes that
go without integrity. -/
theorem bindingErrorResponse_eq (digest : MessageDigest) (port : UDPPort) {msg : StunMessage}
    {code : Nat} {reason : Bytes} (hid : msg.transactionId.length = kStunTransactionIdLength)
    (hreason : reason.length < 60000) (hbad : code ≠ stunErrorBadRequest)
    (hunauthorized : code ≠ stunErrorUnauthorized) :
    bindingErrorResponse digest port msg code reason =
      some ((errorResponse msg.transactionId code reason hid hreason).wire digest
        port.iceParams.icePwd) := by
  have hsigned := (errorResponse msg.transactionId code reason hid hreason).addMessageIntegrity_message
    digest port.iceParams.icePwd
  have hfingerprinted := (errorResponse msg.transactionId code reason hid hreason).addFingerprint_signed
    digest port.iceParams.icePwd
  have hwrite := (errorResponse msg.transactionId code reason hid hreason).write_fingerprinted
    digest port.iceParams.icePwd
  have hmessage : (errorResponse msg.transactionId code reason hid hreason).message =
      ({ type := stunBindingErrorResponse
         transactionId := msg.transactionId } : StunMessage).addAttribute
          (StunAttribute.errorCodeOf stunAttrErrorCode code reason) := rfl
  rw [hmessage] at hsigned
  rw [bindingErrorResponse, if_pos ⟨hbad, hunauthorized⟩, hsigned, Xrtc.Ice.fingerprinted,
    hfingerprinted]
  exact hwrite

/-- The requests that are answered have passed `validate_fingerprint`. So they have the
magic cookie, and an id of 12 bytes. -/
theorem length_transactionId_of_read {digest : MessageDigest} {data : Bytes} {m : StunMessage}
    (hfingerprint : validateFingerprint digest data = true) (h : StunMessage.read data = some m) :
    m.transactionId.length = kStunTransactionIdLength := by
  have hcookie : getBE32 data 4 = kStunMagicCookie := by
    by_contra hne
    simp only [validateFingerprint] at hfingerprint
    rw [if_pos (show getBE32 data (kStunTransactionIdOffset - kStunMagicCookieLength)
      ≠ kStunMagicCookie from hne), ite_self] at hfingerprint
    cases hfingerprint
  simp only [StunMessage.read, Option.bind_eq_bind, Option.bind_eq_some_iff, Option.pure_def,
    Option.some.injEq, Prod.exists] at h
  obtain ⟨type, length, cookie, id, rest, hheader, visits, -, rfl⟩ := h
  simp only [readHeader, Option.bind_eq_bind, Option.bind_eq_some_iff, Option.pure_def,
    Option.some.injEq, Prod.mk.injEq, Prod.exists, Option.ite_none_left_eq_some] at hheader
  obtain ⟨type', buf₁, h₁, -, length', buf₂, h₂, cookie', buf₃, h₃, id', buf₄, h₄, rfl, rfl, rfl,
    rfl, rfl⟩ := hheader
  obtain ⟨-, -, rfl⟩ := readUInt16_eq_some h₁
  obtain ⟨-, -, rfl⟩ := readUInt16_eq_some h₂
  obtain ⟨hfront, hlength⟩ := readBytes_eq_some h₃
  obtain ⟨-, hid⟩ := readBytes_eq_some h₄
  -- the cookie that `read` takes is the one that was checked
  have hbytes : cookie' = slice data 4 4 := by
    rw [slice, show 4 = 2 + 2 from rfl, ← List.drop_drop, hfront]
    exact (List.take_left' hlength).symm
  dsimp only
  rw [hbytes, show UInt32.ofNat (ofBE (slice data 4 4)) = getBE32 data 4 from rfl, hcookie,
    if_neg (by simp)]
  exact hid

/-! ### The result -/

/-- The codes that `on_connection_request_error_response` lists as retryable. -/
def Retryable (code : Nat) : Prop :=
  code = stunErrorUnauthorized ∨ code = stunErrorUnknownAttribute ∨ code = stunErrorServerError

instance : DecidablePred Retryable := fun code =>
  inferInstanceAs (Decidable (code = stunErrorUnauthorized ∨ code = stunErrorUnknownAttribute ∨
    code = stunErrorServerError))

/-- The code of an error response survives the wire. The bytes that are sent are
accepted, the decoded message has the code, and a connection that gets it is kept
exactly for the retryable codes. -/
def SurvivesWire (digest : MessageDigest) (port : UDPPort) (msg : StunMessage) (code : Nat)
    (reason : Bytes) : Prop :=
  ∃ data m, bindingErrorResponse digest port msg code reason = some data ∧
    validateFingerprint digest data = true ∧
    StunMessage.read data = some m ∧
    m.getErrorCodeValue = code ∧
    ∀ (w : World) (p : Ptr) (now : Int), p ∈ w.live →
      (p ∈ (IceConnection.onConnectionRequestErrorResponse w p m now).live ↔ Retryable code)

/-- A connection that is destroyed no longer exists. -/
theorem not_mem_destroy_live (w : World) (p : Ptr) (now : Int) :
    p ∉ (IceConnection.destroy w p now).live := by
  intro hp
  exact of_decide_eq_true (List.mem_filter.mp hp).2 rfl

/-- An error response keeps the connection exactly if the code it decodes to is
retryable. -/
theorem mem_onConnectionRequestErrorResponse_live {w : World} {p : Ptr} (m : StunMessage)
    (now : Int) (hlive : p ∈ w.live) :
    p ∈ (IceConnection.onConnectionRequestErrorResponse w p m now).live ↔
      Retryable m.getErrorCodeValue := by
  unfold IceConnection.onConnectionRequestErrorResponse
  dsimp only
  split
  · rename_i hretry
    exact iff_of_true hlive hretry
  · rename_i hfail
    exact iff_of_false (not_mem_destroy_live _ p now) hfail

/-- What happens to the response to any code: it is accepted, decodes to 600, and the
connection is destroyed. -/
theorem errorResponse_received (digest : MessageDigest) (port : UDPPort) {msg : StunMessage}
    {code : Nat} {reason : Bytes} (hid : msg.transactionId.length = kStunTransactionIdLength)
    (hreason : reason.length < 60000) (hbad : code ≠ stunErrorBadRequest)
    (hunauthorized : code ≠ stunErrorUnauthorized) :
    ∃ data m, bindingErrorResponse digest port msg code reason = some data ∧
      validateFingerprint digest data = true ∧
      StunMessage.read data = some m ∧
      m.getErrorCodeValue = stunErrorGlobalFail ∧
      ∀ (w : World) (p : Ptr) (now : Int), p ∈ w.live →
        p ∉ (IceConnection.onConnectionRequestErrorResponse w p m now).live := by
  have hread := (errorResponse msg.transactionId code reason hid hreason).read_wire digest
    port.iceParams.icePwd
  have hcode := getErrorCodeValue_of_read hread
  refine ⟨_, _, bindingErrorResponse_eq digest port hid hreason hbad hunauthorized,
    PlainMessage.validateFingerprint_wire _ _ _, hread, hcode, fun w p now hlive => ?_⟩
  rw [mem_onConnectionRequestErrorResponse_live _ now hlive, hcode]
  decide

/-- The code of an error response survives the wire if and only if it is 600, for every reason
that fits. The reader has no case for the attribute, and takes a message without a code for a
global failure. -/
theorem survivesWire_iff (digest : MessageDigest) (port : UDPPort) {msg : StunMessage} {code : Nat}
    {reason : Bytes} (hid : msg.transactionId.length = kStunTransactionIdLength)
    (hbad : code ≠ stunErrorBadRequest) (hunauthorized : code ≠ stunErrorUnauthorized)
    (hreason : reason.length < 60000) :
    SurvivesWire digest port msg code reason ↔ code = stunErrorGlobalFail := by
  obtain ⟨data, m, hdata, hfingerprint, hread, hvalue, hdestroyed⟩ :=
    errorResponse_received digest port hid hreason hbad hunauthorized
  constructor
  · rintro ⟨data', m', -, -, hread', hvalue', -⟩
    rw [← hvalue']
    exact getErrorCodeValue_of_read hread'
  · rintro rfl
    refine ⟨data, m, hdata, hfingerprint, hread, hvalue, fun w p now hlive => ?_⟩
    exact iff_of_false (hdestroyed w p now hlive) (by decide)

/-! #### Two error responses -/

/-- The HMAC-SHA1 of the response with the code 420 under the password `lp`. -/
def unknownAttributeHmac : Vector UInt8 20 :=
  #v[0xe2, 0x53, 0xc2, 0xfc, 0xb6, 0xc2, 0x83, 0x3b, 0xcf, 0x04, 0x44, 0x62, 0xc7, 0xb7, 0x56, 0x72,
    0x4a, 0x96, 0x30, 0x38]

/-- The HMAC-SHA1 of the response with the code 600 under the password `lp`. -/
def globalFailHmac : Vector UInt8 20 :=
  #v[0xf7, 0x6f, 0x22, 0x19, 0xdf, 0xaf, 0xb0, 0x45, 0xea, 0x6e, 0x45, 0x24, 0xa7, 0xe3, 0xa3, 0x0f,
    0x54, 0xb2, 0xab, 0xe8]

/-- The digests of the two responses, told apart by their length. -/
def errorDigest : MessageDigest where
  hmacSha1 _ data :=
    if data.length = 48 then unknownAttributeHmac.toList else globalFailHmac.toList
  crc32 data := if data.length = 72 then 0xd5823f75 else 0xbcd70063
  hmacSha1_length key data := by
    split_ifs <;> exact Vector.length_toList

/-- A port with the password `lp`. -/
def errorPort : UDPPort where
  iceParams := ⟨ascii "l", ascii "lp"⟩
  localCandidate := ⟨⟨.v4 1, 1⟩, 0, [], []⟩

/-- A binding request that is answered with an error. -/
def errorRequest : StunMessage where
  type := stunBindingRequest
  transactionId := ascii "123412341234"

/-- A global failure is what every code is taken for. -/
theorem globalFail_survivesWire :
    SurvivesWire errorDigest errorPort errorRequest stunErrorGlobalFail (ascii "Global failure") :=
  (survivesWire_iff errorDigest errorPort (by simp [errorRequest, ascii, kStunTransactionIdLength])
    (by decide) (by decide) (by simp [ascii])).mpr rfl

/-- An unknown attribute is retryable, but arrives as a global failure. -/
theorem unknownAttribute_not_survivesWire :
    ¬ SurvivesWire errorDigest errorPort errorRequest stunErrorUnknownAttribute
      (ascii "Unknown attribute") := by
  rintro ⟨data, m, -, -, hread, hvalue, -⟩
  have hcode := getErrorCodeValue_of_read hread
  rw [hvalue] at hcode
  exact absurd hcode (by decide)

end Xrtc.Proofs.Ice
