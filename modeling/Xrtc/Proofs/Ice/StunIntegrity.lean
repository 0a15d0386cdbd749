import Xrtc.Proofs.Ice.StunWalk

/-!
# `Xrtc.Proofs.Ice.StunIntegrity`: what the integrity check protects

The verifier digests the bytes before the first integrity attribute. `get_uint32`
and `get_byte_string` look through everything `read` has decoded, and `read` does
not stop at the integrity attribute. So a user name or a priority behind it, where
anybody can put one, is used as long as there is none before it.

Two datagrams that agree up to an offset are read the same way up to it
(`takeWhile_within_eq`). What is looked up is therefore the same for both exactly
when it stands before that offset, or when the first such attribute behind it is
the same (`sameLookups_iff`).
-/

set_option autoImplicit false

namespace Xrtc.Proofs.Ice

open Xrtc.Lib
open Xrtc.Ice
open Xrtc.Ice.StunMessage

/-! ### Reading depends on the bytes read -/

/-- The value of an attribute does not depend on the bytes behind it. -/
theorem readValue_append {type length : UInt16} {front rest : Bytes}
    {attr : Option StunAttribute} (hfront : front.length % 4 = 0)
    (h : readValue type length (front ++ rest) = some (attr, rest)) (rest' : Bytes) :
    readValue type length (front ++ rest') = some (attr, rest') := by
  have hcancel : ∀ {n : Nat}, n ≤ (front ++ rest).length → (front ++ rest).drop n = rest →
      n = front.length := by
    intro n hn hdrop
    have hlen := congrArg List.length hdrop
    rw [List.length_drop, List.length_append] at hlen
    rw [List.length_append] at hn
    omega
  unfold readValue at h ⊢
  cases htype : getAttributeValueType type with
  | byteString =>
      simp only [htype, readBytes, Option.bind_eq_bind, Option.bind_eq_some_iff, Option.pure_def,
        Option.some.injEq, Prod.mk.injEq, Prod.exists, Option.ite_none_right_eq_some] at h
      obtain ⟨bytes, buf, ⟨hlen, rfl, rfl⟩, rfl, hrest⟩ := h
      -- the padding is part of `front`, or there is none
      have hwidth : front.length = padded length.toNat := by
        by_cases hpad : 0 < length.toNat % 4
        · rw [if_pos hpad] at hrest
          cases hread : consume (4 - length.toNat % 4) ((front ++ rest).drop length.toNat) with
          | none =>
              rw [hread, Option.getD_none] at hrest
              have := hcancel hlen hrest
              omega
          | some buf' =>
              obtain ⟨rfl, hle⟩ := consume_eq_some hread
              rw [hread, Option.getD_some, List.drop_drop] at hrest
              rw [List.length_drop] at hle
              have := hcancel (by omega) hrest
              rw [padded, if_pos (by omega)]
              omega
        · rw [if_neg hpad] at hrest
          rw [padded, if_neg (by omega)]
          exact (hcancel hlen hrest).symm
      have hle := le_padded length.toNat
      have htake : ∀ r : Bytes, (front ++ r).take length.toNat = front.take length.toNat :=
        fun r => List.take_append_of_le_length (by omega)
      simp only [readBytes, if_pos (show length.toNat ≤ (front ++ rest').length by
        rw [List.length_append]; omega), Option.bind_eq_bind, Option.bind_some, Option.pure_def,
        htake, Option.some.injEq, Prod.mk.injEq, true_and]
      by_cases hpad : 0 < length.toNat % 4
      · have hpadded : padded length.toNat = length.toNat + (4 - length.toNat % 4) := by
          rw [padded, if_pos (by omega)]
        rw [if_pos hpad, consume, readBytes, if_pos (by
          rw [List.length_drop, List.length_append]
          omega), Option.map_some, Option.getD_some, List.drop_drop]
        exact List.drop_left' (by omega)
      · have hpadded : padded length.toNat = length.toNat := by
          rw [padded, if_neg (by omega)]
        rw [if_neg hpad]
        exact List.drop_left' (by omega)
  | uint32 =>
      simp only [htype, readUInt32, readBytes, Option.bind_eq_bind, Option.bind_eq_some_iff,
        Option.pure_def, Option.some.injEq, Prod.mk.injEq, Prod.exists, Option.map_eq_some_iff,
        Option.ite_none_right_eq_some] at h
      obtain ⟨bits, buf, ⟨bytes, buf', ⟨hlen, rfl, rfl⟩, rfl, rfl⟩, rfl, hrest⟩ := h
      have hwidth := hcancel hlen hrest
      have htake : ∀ r : Bytes, (front ++ r).take 4 = front := fun r => List.take_left' hwidth.symm
      simp only [readUInt32, readBytes_append hwidth.symm, Option.map_some, Option.bind_eq_bind,
        Option.bind_some, Option.pure_def, htake]
  | unknown =>
      simp only [htype, Option.bind_eq_bind, Option.bind_eq_some_iff, Option.pure_def,
        Option.some.injEq, Prod.mk.injEq] at h
      obtain ⟨buf, hread, rfl, rfl⟩ := h
      obtain ⟨hdrop, hle⟩ := consume_eq_some hread
      have hwidth := hcancel hle hdrop.symm
      simp only [consume_append hwidth.symm, Option.bind_eq_bind, Option.bind_some,
        Option.pure_def]

/-- An attribute is read the same way in front of other bytes. -/
theorem readAttr_append {front rest : Bytes} {a : ReadAttr} (hfront : front.length % 4 = 0)
    (h : readAttr (front ++ rest) = some (a, rest)) (rest' : Bytes) :
    readAttr (front ++ rest') = some (a, rest') := by
  have hlt := readAttr_length_lt h
  rw [List.length_append] at hlt
  obtain ⟨-, htype, hlength, hvalue⟩ := readAttr_eq_some h
  rw [getBE16_append_left (by omega)] at htype hlength
  have hdrop : ∀ r : Bytes, (front ++ r).drop 4 = front.drop 4 ++ r :=
    fun r => List.drop_append_of_le_length (by omega)
  rw [hdrop] at hvalue
  have hvalue' := readValue_append (by rw [List.length_drop]; omega) hvalue rest'
  have hread : ∀ {i : Nat}, i + 2 ≤ front.length →
      readUInt16 ((front ++ rest').drop i)
        = some (getBE16 front i, (front ++ rest').drop (i + 2)) := by
    intro i hi
    rw [readUInt16, readBytes, if_pos (by rw [List.length_drop, List.length_append]; omega),
      Option.map_some, List.drop_drop, ← getBE16_append_left hi rest']
    rfl
  have hread₀ := hread (i := 0) (by omega)
  rw [List.drop_zero] at hread₀
  simp only [readAttr, hread₀, hread (i := 2) (by omega), Option.bind_eq_bind, Option.bind_some,
    ← htype, ← hlength, hdrop, hvalue', Option.pure_def]

/-- The offset behind an iteration of `read`. -/
def visitEnd (visit : Nat × ReadAttr) : Nat :=
  visit.1 + (4 + readWidth visit.2.type visit.2.length)

/-- An iteration of `read` that takes no byte from an offset on. -/
def within (bound : Nat) (visit : Nat × ReadAttr) : Bool := decide (visitEnd visit ≤ bound)

/-- An iteration that stays within a range of equal bytes is the same in both. -/
theorem readAttr_congr {data data' rest : Bytes} {pos : Nat} {a : ReadAttr}
    (hdata : data.length % 4 = 0) (hpos : pos % 4 = 0)
    (h : readAttr (data.drop pos) = some (a, rest))
    (heq : ∀ i, pos ≤ i → i < visitEnd (pos, a) → data[i]? = data'[i]?) :
    readAttr (data'.drop pos) = some (a, data'.drop (visitEnd (pos, a))) := by
  obtain ⟨-, -, rfl, hle⟩ := readAttr_width hdata hpos h
  have hslice : slice data pos (4 + readWidth a.type a.length)
      = slice data' pos (4 + readWidth a.type a.length) := slice_congr heq
  have hmod := readWidth_mod a.type a.length
  have hlen : (slice data pos (4 + readWidth a.type a.length)).length
      = 4 + readWidth a.type a.length := by
    rw [slice, List.length_take, List.length_drop]
    omega
  rw [drop_eq_slice_append data pos (4 + readWidth a.type a.length)] at h
  rw [drop_eq_slice_append data' pos (4 + readWidth a.type a.length), ← hslice]
  exact readAttr_append (by omega) h _

/-- Two datagrams that agree below an offset, except for the length field, are read
the same way as far as the iterations stay below the offset. The induction is along
the walk, which is at the same offset in both. -/
theorem takeWhile_within_eq {data data' : Bytes} {bound : Nat} (hdata : data.length % 4 = 0)
    (hdata' : data'.length % 4 = 0)
    (heq : ∀ i, i < bound → i ≠ 2 → i ≠ 3 → data[i]? = data'[i]?) (pos : Nat)
    (visits visits' : List (Nat × ReadAttr)) (hpos : pos % 4 = 0) (hstart : 4 ≤ pos)
    (hread : readAttrs pos (data.drop pos) = some visits)
    (hread' : readAttrs pos (data'.drop pos) = some visits') :
    visits.takeWhile (within bound) = visits'.takeWhile (within bound) := by
  have hbytes : ∀ {a : ReadAttr}, visitEnd (pos, a) ≤ bound →
      ∀ i, pos ≤ i → i < visitEnd (pos, a) → data[i]? = data'[i]? :=
    fun ha i hi hlt => heq i (by omega) (by omega) (by omega)
  rcases readAttrs_eq_some hread with ⟨hnil, rfl⟩ | ⟨a, rest, visits₁, ha, hrest, rfl⟩
  · rcases readAttrs_eq_some hread' with ⟨-, rfl⟩ | ⟨a', rest', visits₁', ha', hrest', rfl⟩
    · rfl
    · -- an iteration below the offset would be there in `data` as well
      have hout : ¬ visitEnd (pos, a') ≤ bound := by
        intro hle
        have h := readAttr_congr hdata' hpos ha' fun i hi hlt => (hbytes hle i hi hlt).symm
        have hlt := readAttr_length_lt h
        rw [hnil] at hlt
        simp at hlt
      rw [List.takeWhile_nil, List.takeWhile_cons_of_neg (by simpa [within] using hout)]
  · by_cases hin : visitEnd (pos, a) ≤ bound
    · -- the same iteration in both, and the walks go on at the same offset
      have ha' := readAttr_congr hdata hpos ha (hbytes hin)
      obtain ⟨-, -, rfl, hle⟩ := readAttr_width hdata hpos ha
      obtain ⟨-, -, -, hle'⟩ := readAttr_width hdata' hpos ha'
      have hmod := readWidth_mod a.type a.length
      rw [readAttrs_cons ha', Option.map_eq_some_iff] at hread'
      obtain ⟨visits₁', hrest', rfl⟩ := hread'
      rw [add_sub_length_drop hle] at hrest
      rw [visitEnd, add_sub_length_drop hle'] at hrest'
      rw [List.takeWhile_cons_of_pos (by simpa [within] using hin),
        List.takeWhile_cons_of_pos (by simpa [within] using hin),
        takeWhile_within_eq hdata hdata' heq _ visits₁ visits₁' (by omega) (by omega) hrest hrest']
    · -- neither walk has an iteration below the offset
      rw [List.takeWhile_cons_of_neg (by simpa [within] using hin)]
      rcases readAttrs_eq_some hread' with ⟨-, rfl⟩ | ⟨a', rest', visits₁', ha', hrest', rfl⟩
      · rfl
      · have hout : ¬ visitEnd (pos, a') ≤ bound := by
          intro hle
          have h := readAttr_congr hdata' hpos ha' fun i hi hlt => (hbytes hle i hi hlt).symm
          rw [ha] at h
          cases h
          exact hin hle
        rw [List.takeWhile_cons_of_neg (by simpa [within] using hout)]
termination_by data.length - pos

/-! ### Looking up behind the integrity attribute -/

/-- A datagram that decodes to a binding request whose integrity check under a
password succeeds. -/
structure Verified (digest : MessageDigest) (password data : Bytes) (m : StunMessage) : Prop where
  read : StunMessage.read data = some m
  type : m.type = stunBindingRequest
  integrity : (m.validateMessageIntegrity digest password).integrity = .integrityOk

/-- Two datagrams agree from the first byte through the end of the first integrity
attribute, except for the length field. -/
structure SameThroughIntegrity (data data' : Bytes) (bound : Nat) : Prop where
  messageIntegrity : ∃ miPos, (scanAttrs stunAttrMessageIntegrity data kStunHeaderSize).2 = some miPos ∧
    bound = miPos + (4 + padded (getBE16 data (miPos + 2)).toNat)
  bytes : ∀ i, i < bound → i ≠ 2 → i ≠ 3 → data[i]? = data'[i]?

/-- The iterations of `read` that take no byte from an offset on. -/
def visitsWithin (data : Bytes) (bound : Nat) : List (Nat × ReadAttr) :=
  ((readVisits data).getD []).takeWhile (within bound)

/-- The iterations of `read` from the first that takes a byte behind an offset. -/
def visitsBeyond (data : Bytes) (bound : Nat) : List (Nat × ReadAttr) :=
  ((readVisits data).getD []).dropWhile (within bound)

/-- An attribute of the type stands before an offset. -/
def OccursWithin (data : Bytes) (bound : Nat) (type : UInt16) : Prop :=
  ∃ visit ∈ visitsWithin data bound, visit.2.type = type

/-- The first attribute of the type among those that do not end before an offset. -/
def firstBeyond (data : Bytes) (bound : Nat) (type : UInt16) : Option StunAttribute :=
  ((visitsBeyond data bound).find? (·.2.type == type)).bind (·.2.attr)

/-- What is looked up under a type does not depend on which of two datagrams is
read: it stands before the offset, or behind it the datagrams start with the same. -/
def Settled (data data' : Bytes) (bound : Nat) (type : UInt16) : Prop :=
  OccursWithin data bound type ∨ firstBeyond data bound type = firstBeyond data' bound type

/-- A verified message has a size that four divides. -/
theorem length_mod_of_verified {digest : MessageDigest} {password data : Bytes} {m : StunMessage}
    (h : Verified digest password data m) : data.length % 4 = 0 := by
  obtain ⟨visits, -, -, -, -, hbuffer⟩ := read_eq_some h.read
  have hok := h.integrity
  unfold validateMessageIntegrity at hok
  simp only [hbuffer] at hok
  split at hok
  · split at hok
    · rename_i hvalid
      unfold validateMessageIntegrityOfType at hvalid
      by_contra hmod
      rw [if_pos (Or.inl hmod)] at hvalid
      cases hvalid
    · cases hok
  · cases hok

/-- A lookup finds what stands before the offset, else the first behind it. -/
theorem getAttribute_eq {data : Bytes} {m : StunMessage} {type : UInt16} (bound : Nat)
    (hknown : getAttributeValueType type ≠ .unknown) (hread : StunMessage.read data = some m) :
    m.getAttribute type =
      ((visitsWithin data bound).find? (·.2.type == type)).elim (firstBeyond data bound type)
        (·.2.attr) := by
  obtain ⟨visits, hvisits, hloop, -, hattrs, -⟩ := read_eq_some hread
  have hsplit : visits = visitsWithin data bound ++ visitsBeyond data bound := by
    rw [visitsWithin, visitsBeyond, hvisits, Option.getD_some, List.takeWhile_append_dropWhile]
  rw [getAttribute, hattrs, find?_filterMap_attr hknown (decoded_readAttrs hloop), hsplit,
    List.find?_append]
  cases hfind : (visitsWithin data bound).find? (·.2.type == type) with
  | none => rfl
  | some visit => rfl

/-- Two verified messages that agree up to the integrity attribute are walked in the same way up
to the bound. -/
theorem visitsWithin_eq {digest : MessageDigest} {password data data' : Bytes}
    {m m' : StunMessage} {bound : Nat} (h : Verified digest password data m)
    (h' : Verified digest password data' m') (hsame : SameThroughIntegrity data data' bound) :
    visitsWithin data bound = visitsWithin data' bound := by
  obtain ⟨visits, hvisits, hloop, -⟩ := read_eq_some h.read
  obtain ⟨visits', hvisits', hloop', -⟩ := read_eq_some h'.read
  rw [visitsWithin, visitsWithin, hvisits, hvisits']
  exact takeWhile_within_eq (length_mod_of_verified h) (length_mod_of_verified h') hsame.bytes _
    visits visits' rfl (by decide) hloop hloop'

/-- One lookup gives the same for both datagrams exactly when it is settled. -/
theorem getAttribute_eq_iff {digest : MessageDigest} {password data data' : Bytes}
    {m m' : StunMessage} {bound : Nat} {type : UInt16}
    (hknown : getAttributeValueType type ≠ .unknown) (h : Verified digest password data m)
    (h' : Verified digest password data' m') (hsame : SameThroughIntegrity data data' bound) :
    m.getAttribute type = m'.getAttribute type ↔ Settled data data' bound type := by
  have hwithin := visitsWithin_eq h h' hsame
  rw [getAttribute_eq bound hknown h.read, getAttribute_eq bound hknown h'.read, ← hwithin,
    Settled, OccursWithin]
  cases hfind : (visitsWithin data bound).find? (·.2.type == type) with
  | none =>
      have hnone : ¬ ∃ visit ∈ visitsWithin data bound, visit.2.type = type := by
        rintro ⟨visit, hmem, htype⟩
        exact List.find?_eq_none.mp hfind visit hmem (by simpa using htype)
      exact ⟨Or.inr, fun hor => hor.resolve_left hnone⟩
  | some visit =>
      have htype := List.find?_some hfind
      rw [beq_iff_eq] at htype
      exact iff_of_true rfl (Or.inl ⟨visit, List.mem_of_find?_eq_some hfind, htype⟩)

/-- For any two verified binding requests that agree through the end of the first
integrity attribute, the user name and the priority that are looked up are the same
if and only if both are settled by then: they occur there, or what follows starts
with the same. -/
theorem sameLookups_iff (digest : MessageDigest) {password data data' : Bytes}
    {m m' : StunMessage} {bound : Nat} (h : Verified digest password data m)
    (h' : Verified digest password data' m') (hsame : SameThroughIntegrity data data' bound) :
    (m.getByteString stunAttrUsername = m'.getByteString stunAttrUsername ∧
      m.getUInt32 stunAttrPriority = m'.getUInt32 stunAttrPriority) ↔
      Settled data data' bound stunAttrUsername ∧ Settled data data' bound stunAttrPriority := by
  have husername : getAttributeValueType stunAttrUsername ≠ .unknown := by decide
  have hpriority : getAttributeValueType stunAttrPriority ≠ .unknown := by decide
  exact and_congr (getAttribute_eq_iff husername h h' hsame)
    (getAttribute_eq_iff hpriority h h' hsame)

/-! ### Two pairs of datagrams -/

/-- The header of a binding request. -/
def requestHeader (length : UInt8) : Bytes :=
  [0x00, 0x01, 0x00, length, 0x21, 0x12, 0xa4, 0x42] ++ emptyTransactionId

/-- A priority of four bytes. -/
def priorityBytes : Bytes := [0x00, 0x24, 0x00, 0x04, 0x6e, 0x7f, 0x1e, 0xff]

/-- The user name `a:` followed by one more letter. -/
def usernameBytes (letter : UInt8) : Bytes := [0x00, 0x06, 0x00, 0x03, 0x61, 0x3a, letter, 0x00]

/-- The HMAC-SHA1 under the password `pwd` of a request with a user name and a
priority. -/
def protectedHmac : Vector UInt8 20 :=
  #v[0x3d, 0xe9, 0x2b, 0x9f, 0xb3, 0xc2, 0x61, 0x5b, 0xa8, 0x75, 0x42, 0xe8, 0xf3, 0xff, 0x2b, 0x4b,
    0x75, 0x27, 0xcb, 0xa6]

/-- A request whose user name is before the integrity attribute, which is followed
by the fingerprint. -/
def protectedRequest : Bytes :=
  requestHeader 0x30 ++ usernameBytes 0x62 ++ priorityBytes ++ [0x00, 0x08, 0x00, 0x14] ++
    protectedHmac.toList ++ [0x80, 0x28, 0x00, 0x04, 0x13, 0xd6, 0x77, 0x77]

/-- The same request with another user name behind the integrity attribute. -/
def protectedRequestExtended : Bytes :=
  requestHeader 0x38 ++ usernameBytes 0x62 ++ priorityBytes ++ [0x00, 0x08, 0x00, 0x14] ++
    protectedHmac.toList ++ usernameBytes 0x63 ++ [0x80, 0x28, 0x00, 0x04, 0xe3, 0xef, 0x02, 0x46]

/-- The HMAC-SHA1 under the password `pwd` of a request with a priority only. -/
def openHmac : Vector UInt8 20 :=
  #v[0x1b, 0xba, 0xe6, 0x0c, 0x59, 0x87, 0x90, 0x52, 0x29, 0xdd, 0xd4, 0x46, 0xfb, 0x7a, 0x89, 0x89,
    0x8e, 0x45, 0xd9, 0xd2]

/-- A request whose user name is behind the integrity attribute. -/
def openRequest (letter : UInt8) (crc : Bytes) : Bytes :=
  requestHeader 0x30 ++ priorityBytes ++ [0x00, 0x08, 0x00, 0x14] ++ openHmac.toList ++
    usernameBytes letter ++ [0x80, 0x28, 0x00, 0x04] ++ crc

/-- The password `pwd`. -/
def pwd : Bytes := [0x70, 0x77, 0x64]

/-- Evaluation of the conditions of `Verified`. -/
theorem verified_of_map (digest : MessageDigest) (password data : Bytes)
    (h : (StunMessage.read data).map (fun m =>
      (m.type, (m.validateMessageIntegrity digest password).integrity))
      = some (stunBindingRequest, .integrityOk)) :
    ∃ m, Verified digest password data m := by
  obtain ⟨m, hread, hm⟩ := Option.map_eq_some_iff.mp h
  rw [Prod.mk.injEq] at hm
  exact ⟨m, hread, hm.1, hm.2⟩

/-- Both lookups are settled by the protected part of the first request, so the
user name behind it has no effect. -/
theorem protectedRequest_lookups :
    ∃ m m', Verified (fixedDigest protectedHmac 0) pwd protectedRequest m ∧
      Verified (fixedDigest protectedHmac 0) pwd protectedRequestExtended m' ∧
      m.getByteString stunAttrUsername = m'.getByteString stunAttrUsername ∧
      m.getUInt32 stunAttrPriority = m'.getUInt32 stunAttrPriority := by
  obtain ⟨m, hm⟩ := verified_of_map (fixedDigest protectedHmac 0) pwd protectedRequest
    (by decide +kernel)
  obtain ⟨m', hm'⟩ := verified_of_map (fixedDigest protectedHmac 0) pwd protectedRequestExtended
    (by decide +kernel)
  have hsame : SameThroughIntegrity protectedRequest protectedRequestExtended 60 :=
    ⟨⟨36, by decide +kernel, by decide +kernel⟩, by decide +kernel⟩
  have husername : OccursWithin protectedRequest 60 stunAttrUsername := by
    refine ⟨(20, ⟨0x0006, 3, some ⟨0x0006, .byteString [0x61, 0x3a, 0x62]⟩⟩), ?_, rfl⟩
    decide +kernel
  have hpriority : OccursWithin protectedRequest 60 stunAttrPriority := by
    refine ⟨(28, ⟨0x0024, 4, some ⟨0x0024, .uint32 0x6e7f1eff⟩⟩), ?_, rfl⟩
    decide +kernel
  have hlookups := (sameLookups_iff _ hm hm' hsame).mpr ⟨Or.inl husername, Or.inl hpriority⟩
  exact ⟨m, m', hm, hm', hlookups⟩

/-- Two requests with the same valid digest that differ in the user name behind it:
each is looked up under its own name. -/
theorem openRequest_lookups_differ :
    ∃ m m', Verified (fixedDigest openHmac 0) pwd (openRequest 0x62 [0xf0, 0xd0, 0xf6, 0xe4]) m ∧
      Verified (fixedDigest openHmac 0) pwd (openRequest 0x63 [0xe9, 0xcb, 0xc7, 0xa5]) m' ∧
      SameThroughIntegrity (openRequest 0x62 [0xf0, 0xd0, 0xf6, 0xe4])
        (openRequest 0x63 [0xe9, 0xcb, 0xc7, 0xa5]) 52 ∧
      m.getByteString stunAttrUsername ≠ m'.getByteString stunAttrUsername := by
  obtain ⟨m, hm⟩ := verified_of_map (fixedDigest openHmac 0) pwd
    (openRequest 0x62 [0xf0, 0xd0, 0xf6, 0xe4]) (by decide +kernel)
  obtain ⟨m', hm'⟩ := verified_of_map (fixedDigest openHmac 0) pwd
    (openRequest 0x63 [0xe9, 0xcb, 0xc7, 0xa5]) (by decide +kernel)
  have hsame : SameThroughIntegrity (openRequest 0x62 [0xf0, 0xd0, 0xf6, 0xe4])
      (openRequest 0x63 [0xe9, 0xcb, 0xc7, 0xa5]) 52 :=
    ⟨⟨28, by decide +kernel, by decide +kernel⟩, by decide +kernel⟩
  have hname : (StunMessage.read (openRequest 0x62 [0xf0, 0xd0, 0xf6, 0xe4])).map
      (fun m => m.getByteString stunAttrUsername)
      = some (some ⟨stunAttrUsername, .byteString [0x61, 0x3a, 0x62]⟩) := by
    decide +kernel
  have hname' : (StunMessage.read (openRequest 0x63 [0xe9, 0xcb, 0xc7, 0xa5])).map
      (fun m => m.getByteString stunAttrUsername)
      = some (some ⟨stunAttrUsername, .byteString [0x61, 0x3a, 0x63]⟩) := by
    decide +kernel
  rw [hm.read, Option.map_some, Option.some.injEq] at hname
  rw [hm'.read, Option.map_some, Option.some.injEq] at hname'
  refine ⟨m, m', hm, hm', hsame, ?_⟩
  rw [hname, hname']
  decide

end Xrtc.Proofs.Ice
