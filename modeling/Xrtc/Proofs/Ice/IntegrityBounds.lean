import Xrtc.Ice.IntegrityAccess
import Xrtc.Proofs.Ice.StunWalk

/-!
# `Xrtc.Proofs.Ice.IntegrityBounds`: when the integrity check stays inside the datagram

The scan reads four bytes at a time and checks that they are there, and the copy is as long
as what is put into it. The comparison reads the twenty bytes behind the header of the first
integrity attribute, whatever length the attribute declares, and nobody has checked that
twenty bytes follow. `read` accepts an integrity attribute of any length. The fingerprint
behind it has only eight bytes, so an attribute of up to eight bytes is too short.

`integrity_inBounds_iff` is the exact condition, on the layout of the datagram by declared
lengths (`AttrAt`). `value_validateMessageIntegrityTraced` says that the functions with the
record compute what the functions of `Xrtc.Ice.Stun` compute.
-/

set_option autoImplicit false

namespace Xrtc.Proofs.Ice

open Xrtc.Lib
open Xrtc.Ice
open Xrtc.Ice.StunMessage

/-! ### The scan -/

section

variable {miAttrType : UInt16} {data : Bytes} {pos : Nat}

/-- The scan ends where no header of an attribute fits, and reads nothing there. -/
theorem scanAttrsTraced_end (h : data.length < pos + 4) :
    scanAttrsTraced miAttrType data pos = pure none := by
  rw [scanAttrsTraced, if_neg (by rw [kStunAttributeHeaderSize]; omega)]

/-- One turn of it reads the type and the length in front, and goes on behind the attribute. -/
theorem scanAttrsTraced_step (h : pos + 4 ≤ data.length) :
    scanAttrsTraced miAttrType data pos =
      Traced.getBE16 data pos >>= fun attrType =>
        Traced.getBE16 data (pos + 2) >>= fun attrLength =>
          if attrType = miAttrType then pure (some pos)
          else scanAttrsTraced miAttrType data (pos + (4 + padded attrLength.toNat)) := by
  rw [scanAttrsTraced, kStunAttributeHeaderSize, if_pos h]

end

/-- The scan finds what it finds without the record, and every header that it reads is
there. -/
theorem scanAttrsTraced_spec (miAttrType : UInt16) (data : Bytes) (pos : Nat) :
    (scanAttrsTraced miAttrType data pos).value = (scanAttrs miAttrType data pos).2 ∧
      (scanAttrsTraced miAttrType data pos).InBounds := by
  by_cases hin : pos + 4 ≤ data.length
  · rw [scanAttrsTraced_step hin]
    simp only [Traced.value_bind, Traced.inBounds_bind, Traced.inBounds_getBE16]
    rw [Traced.value_getBE16, Traced.value_getBE16]
    by_cases htype : getBE16 data pos = miAttrType
    · rw [if_pos htype, scanAttrs_found hin htype]
      exact ⟨rfl, by omega, by omega, Traced.inBounds_pure _⟩
    · obtain ⟨hvalue, hbounds⟩ := scanAttrsTraced_spec miAttrType data
        (pos + (4 + padded (getBE16 data (pos + 2)).toNat))
      rw [if_neg htype, scanAttrs_step hin htype]
      exact ⟨hvalue, by omega, by omega, hbounds⟩
  · rw [scanAttrsTraced_end (by omega), scanAttrs_end (by omega)]
    exact ⟨rfl, Traced.inBounds_pure _⟩
termination_by data.length - pos

/-- The scan stops at the first integrity attribute of the layout by declared lengths. -/
theorem scanAttrs_eq_some_iff (data : Bytes) (pos miPos : Nat) :
    (scanAttrs stunAttrMessageIntegrity data pos).2 = some miPos ↔
      AttrAt data pos miPos ∧ miPos + 4 ≤ data.length ∧
        getBE16 data miPos = stunAttrMessageIntegrity := by
  -- induction on the scan: at its end, at an integrity attribute, or behind another one
  by_cases hin : pos + 4 ≤ data.length
  · by_cases htype : getBE16 data pos = stunAttrMessageIntegrity
    · rw [scanAttrs_found hin htype]
      constructor
      · intro h
        cases h
        exact ⟨.here pos, hin, htype⟩
      · rintro ⟨hat, -, -⟩
        cases hat with
        | here => rfl
        | next _ hother _ => exact absurd htype hother
    · have hrest := scanAttrs_eq_some_iff data
        (pos + (4 + padded (getBE16 data (pos + 2)).toNat)) miPos
      rw [scanAttrs_step hin htype]
      refine hrest.trans (and_congr_left fun hmi => ?_)
      constructor
      · exact .next hin htype
      · intro hat
        cases hat with
        | here => exact absurd hmi.2 htype
        | next _ _ hnext => exact hnext
  · rw [scanAttrs_end (by omega)]
    constructor
    · intro h
      cases h
    · rintro ⟨hat, hmi, -⟩
      cases hat with
      | here => exact absurd hmi hin
      | next hin' _ _ => exact absurd hin' hin
termination_by data.length - pos

/-- The scan goes forward only. -/
theorem le_of_attrAt {data : Bytes} {pos pos' : Nat} (h : AttrAt data pos pos') : pos ≤ pos' := by
  induction h with
  | here => exact Nat.le_refl _
  | next _ _ _ ih => omega

/-! ### The check -/

/-- A patched length leaves the size of the buffer. -/
theorem length_setBE16 {data : Bytes} {pos v : Nat} (h : pos + 2 ≤ data.length) :
    (setBE16 data pos v).length = data.length := by
  simp only [setBE16, List.length_append, List.length_take, List.length_drop, toBE_length]
  omega

/-- The copy is exactly as long as the bytes before the integrity attribute. -/
theorem hmacInputTraced_spec {data : Bytes} {miPos : Nat} (miAttrSize : Nat) (hlow : 4 ≤ miPos)
    (hhigh : miPos ≤ data.length) :
    (hmacInputTraced data miPos miAttrSize).value = hmacInput data miPos miAttrSize ∧
      (hmacInputTraced data miPos miAttrSize).value.length = miPos ∧
      (hmacInputTraced data miPos miAttrSize).InBounds := by
  have hcopy : data.take miPos ++ (List.replicate miPos (0 : UInt8)).drop miPos
      = data.take miPos := by
    rw [List.drop_replicate, Nat.sub_self, List.replicate_zero, List.append_nil]
  have hlength : (data.take miPos).length = miPos := by
    rw [List.length_take]
    omega
  unfold hmacInputTraced hmacInput
  simp only [Traced.value_bind, Traced.inBounds_bind, Traced.value_memcpy, Traced.inBounds_memcpy,
    List.length_replicate, hcopy]
  split
  · refine ⟨rfl, ?_, ⟨hhigh, Nat.le_refl _⟩, ?_⟩
    · rw [Traced.value_setBE16, length_setBE16 (by omega), hlength]
    · rw [Traced.inBounds_setBE16]
      omega
  · exact ⟨rfl, hlength, ⟨hhigh, Nat.le_refl _⟩, Traced.inBounds_pure _⟩

/-- The code is computed over the whole copy. -/
theorem slice_hmacInput {data : Bytes} {miPos : Nat} (miAttrSize : Nat) (hlow : 4 ≤ miPos)
    (hhigh : miPos ≤ data.length) :
    slice (hmacInput data miPos miAttrSize) 0 miPos = hmacInput data miPos miAttrSize := by
  obtain ⟨hinput, hcopied, -⟩ := hmacInputTraced_spec miAttrSize hlow hhigh
  rw [hinput] at hcopied
  rw [slice, List.drop_zero]
  exact List.take_of_length_le hcopied.le

variable (digest : MessageDigest)

/-- The check computes what it computes without the record. It leaves the datagram exactly
if it comes to the comparison and the value is cut off. -/
theorem validateMessageIntegrityOfTypeTraced_spec (data password : Bytes) :
    (validateMessageIntegrityOfTypeTraced digest stunAttrMessageIntegrity
        kStunMessageIntegritySize data password).value
      = validateMessageIntegrityOfType digest stunAttrMessageIntegrity kStunMessageIntegritySize
          data password ∧
      ((validateMessageIntegrityOfTypeTraced digest stunAttrMessageIntegrity
          kStunMessageIntegritySize data password).InBounds ↔
        (data.length % 4 = 0 → data.length = kStunHeaderSize + (getBE16 data 2).toNat →
          ∀ miPos, (scanAttrs stunAttrMessageIntegrity data kStunHeaderSize).2 = some miPos →
            miPos + 24 ≤ data.length)) := by
  obtain ⟨hvalue, hbounds⟩ := scanAttrsTraced_spec stunAttrMessageIntegrity data kStunHeaderSize
  unfold validateMessageIntegrityOfTypeTraced validateMessageIntegrityOfType
  by_cases hsize : data.length % 4 ≠ 0 ∨ data.length < kStunHeaderSize
  · rw [if_pos hsize, if_pos hsize]
    refine ⟨rfl, iff_of_true (Traced.inBounds_pure _) fun hmod hlength => ?_⟩
    omega
  · rw [if_neg hsize, if_neg hsize]
    push Not at hsize
    rw [kStunHeaderSize] at hsize
    simp only [Traced.value_bind, Traced.inBounds_bind, Traced.inBounds_getBE16]
    rw [Traced.value_getBE16]
    by_cases hlength : (getBE16 data 2).toNat + kStunHeaderSize ≠ data.length
    · rw [if_pos hlength, if_pos hlength]
      refine ⟨rfl, iff_of_true ⟨by omega, Traced.inBounds_pure _⟩ fun _ heq => ?_⟩
      omega
    · rw [if_neg hlength, if_neg hlength]
      push Not at hlength
      simp only [Traced.value_bind, Traced.inBounds_bind]
      rw [hvalue]
      cases hscan : (scanAttrs stunAttrMessageIntegrity data kStunHeaderSize).2 with
      | none =>
          refine ⟨rfl, iff_of_true ⟨by omega, hbounds, Traced.inBounds_pure _⟩ ?_⟩
          exact fun _ _ miPos hnone => absurd hnone.symm (Option.some_ne_none miPos)
      | some miPos =>
          obtain ⟨hat, hin, -⟩ := (scanAttrs_eq_some_iff data _ miPos).mp hscan
          have hlow := le_of_attrAt hat
          rw [kStunHeaderSize] at hlow
          have hroom : 4 ≤ miPos ∧ miPos ≤ data.length := by omega
          obtain ⟨hinput, hcopied, hcopy⟩ :=
            hmacInputTraced_spec kStunMessageIntegritySize hroom.1 hroom.2
          have hall := slice_hmacInput kStunMessageIntegritySize hroom.1 hroom.2
          have hhmac : (digest.hmacSha1 password
              (hmacInput data miPos kStunMessageIntegritySize)).length
                = kStunMessageIntegritySize := digest.hmacSha1_length _ _
          have hnot : ¬ (digest.hmacSha1 password
              (hmacInput data miPos kStunMessageIntegritySize)).length
                ≠ kStunMessageIntegritySize := fun hne => hne hhmac
          rw [hinput] at hcopied
          dsimp only
          simp only [Traced.value_bind, Traced.inBounds_bind, Traced.inBounds_getBytes]
          rw [hinput, Traced.value_getBytes, hall, if_neg hnot, if_neg hnot]
          simp only [Traced.value_bind, Traced.inBounds_bind, Traced.inBounds_getBytes]
          refine ⟨rfl, ?_⟩
          -- Of the accesses on this path only the comparison can leave the datagram.
          constructor
          · rintro ⟨-, -, -, -, hcompare, -⟩ - - miPos' hfound
            cases hfound
            exact hcompare
          · intro hfits
            have hcompare := hfits hsize.1 (by omega) miPos rfl
            exact ⟨by omega, hbounds, hcopy, by omega, hcompare, Traced.inBounds_pure _⟩

/-- The traced check decides what the check decides. -/
theorem value_validateMessageIntegrityTraced (m : StunMessage) (password : Bytes) :
    (validateMessageIntegrityTraced digest m password).value
      = m.validateMessageIntegrity digest password := by
  have hvalue := (validateMessageIntegrityOfTypeTraced_spec digest m.buffer password).1
  unfold validateMessageIntegrityTraced validateMessageIntegrity
  dsimp only
  split
  · rw [Traced.value_bind, hvalue]
    split <;> rfl
  · rfl

/-- The first integrity attribute of a datagram from which `read` decodes one starts at
least 24 bytes before the end, where the attributes are laid out by their declared
lengths. -/
def IntegrityFits (data : Bytes) (m : StunMessage) : Prop :=
  (m.getByteString stunAttrMessageIntegrity).isSome →
    ∀ pos, AttrAt data kStunHeaderSize pos → pos + 4 ≤ data.length →
      getBE16 data pos = stunAttrMessageIntegrity → pos + 24 ≤ data.length

/-- For every datagram that passes `validate_fingerprint` and `read`: the integrity check
reads only bytes of the datagram and writes only into its copy if and only if the
integrity attribute fits. -/
theorem integrity_inBounds_iff {data : Bytes} {m : StunMessage}
    (hfingerprint : validateFingerprint digest data = true)
    (hread : StunMessage.read data = some m) (password : Bytes) :
    (validateMessageIntegrityTraced digest m password).InBounds ↔ IntegrityFits data m := by
  obtain ⟨hmod, -, -⟩ := validateFingerprint_eq_true hfingerprint
  obtain ⟨visits, -, -, hlength, -, rfl⟩ := read_eq_some hread
  have hcheck := (validateMessageIntegrityOfTypeTraced_spec digest m.buffer password).2
  have hsome : ({ m with password := password }.getByteString stunAttrMessageIntegrity).isSome
      = (m.getByteString stunAttrMessageIntegrity).isSome := rfl
  unfold validateMessageIntegrityTraced IntegrityFits
  dsimp only
  rw [hsome]
  split
  · rename_i hpresent
    rw [Traced.inBounds_bind, hcheck, imp_iff_right hmod, imp_iff_right hlength,
      imp_iff_right hpresent,
      and_iff_left (Traced.inBounds_ite (Traced.inBounds_pure _) (Traced.inBounds_pure _))]
    refine forall_congr' fun pos => ?_
    rw [scanAttrs_eq_some_iff]
    tauto
  · rename_i habsent
    exact iff_of_true (Traced.inBounds_pure _) fun hpresent => absurd hpresent habsent

/-- A binding request with an integrity attribute of twenty bytes. -/
def fullIntegrity : Bytes :=
  [0x00, 0x01, 0x00, 0x20, 0x21, 0x12, 0xa4, 0x42] ++ emptyTransactionId ++
    [0x00, 0x08, 0x00, 0x14] ++ List.replicate 20 0 ++
    [0x80, 0x28, 0x00, 0x04, 0x7d, 0x83, 0xbc, 0x1f]

/-- A binding request with an integrity attribute of no bytes before the fingerprint. -/
def emptyIntegrity : Bytes :=
  [0x00, 0x01, 0x00, 0x0c, 0x21, 0x12, 0xa4, 0x42] ++ emptyTransactionId ++
    [0x00, 0x08, 0x00, 0x00] ++ [0x80, 0x28, 0x00, 0x04, 0x58, 0x08, 0x38, 0xa2]

/-- A datagram whose integrity attribute has its twenty bytes. -/
theorem fullIntegrity_fits :
    ∃ m, StunMessage.read fullIntegrity = some m ∧ IntegrityFits fullIntegrity m ∧
      ∀ password, (validateMessageIntegrityTraced
        (fixedDigest (Vector.replicate 20 0) 0x2ed7e951) m password).InBounds := by
  obtain ⟨m, hread⟩ := Option.isSome_iff_exists.mp
    (show (StunMessage.read fullIntegrity).isSome = true by decide +kernel)
  have hfits : IntegrityFits fullIntegrity m := by
    rintro - pos hat - htype
    -- the integrity attribute is the first one
    cases hat with
    | here => decide
    | next _ hother _ => exact absurd (by decide +kernel) hother
  exact ⟨m, hread, hfits, fun password =>
    (integrity_inBounds_iff _ (by decide +kernel) hread password).mpr hfits⟩

/-- The fingerprint ends before the twenty bytes that the comparison reads. -/
theorem emptyIntegrity_not_inBounds :
    validateFingerprint (fixedDigest (Vector.replicate 20 0) 0x0b5c6dec) emptyIntegrity = true ∧
      ∃ m, StunMessage.read emptyIntegrity = some m ∧
        ¬ ∀ password, (validateMessageIntegrityTraced
          (fixedDigest (Vector.replicate 20 0) 0x0b5c6dec) m password).InBounds := by
  refine ⟨by decide +kernel, ?_⟩
  have hread : (StunMessage.read emptyIntegrity).map (fun m =>
      (validateMessageIntegrityTraced (fixedDigest (Vector.replicate 20 0) 0x0b5c6dec) m
        []).accesses.all fun a => decide a.InBounds) = some false := by
    decide +kernel
  obtain ⟨m, hm, hout⟩ := Option.map_eq_some_iff.mp hread
  refine ⟨m, hm, fun hall => ?_⟩
  have hin := List.all_eq_true.mpr fun a ha => decide_eq_true (hall [] a ha)
  rw [hout] at hin
  cases hin

end Xrtc.Proofs.Ice
