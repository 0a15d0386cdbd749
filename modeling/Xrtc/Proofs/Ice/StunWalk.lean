import Xrtc.Ice.Stun

/-!
# `Xrtc.Proofs.Ice.StunWalk`: the two walks over the attributes of a datagram

`read` and `_validate_message_integrity_of_type` each walk over the attributes of
a message with a loop of their own. The lemmas of the first section are the
equations of the two loops, one iteration at a time, and `readAttr_width` says by
how much the loop of `read` advances.

The scan advances by the declared length of an attribute, rounded up to four. The
loop of `read` advances by the same for the user name and the integrity attribute,
by four for a priority, and by the rounded length modulo `2 ^ 16` for the types it
does not know. So the two walks drift apart at a priority whose declared length is
not one to four, and at an unknown attribute of 65533 bytes or more. `WellSized`
excludes these two, along the walk by declared lengths, and `walksAgree_iff` says
that nothing else has to be excluded.
-/

set_option autoImplicit false

namespace Xrtc.Proofs.Ice

open Xrtc.Lib
open Xrtc.Ice
open Xrtc.Ice.StunMessage

/-! ### One iteration -/

/-- Padding makes nothing shorter. -/
theorem le_padded (n : Nat) : n ≤ padded n := by
  rw [padded]
  split <;> omega

/-- A padded length is a multiple of four. -/
theorem padded_mod (n : Nat) : padded n % 4 = 0 := by
  rw [padded]
  split <;> omega

/-- The loop of `read` ends with the bytes. -/
theorem readAttrs_nil (pos : Nat) : readAttrs pos [] = some [] := by
  rw [readAttrs]
  rfl

/-- One iteration of the loop and the loop from the next offset, which is as far on as bytes were
taken. -/
theorem readAttrs_cons {pos : Nat} {buf rest : Bytes} {a : ReadAttr}
    (h : readAttr buf = some (a, rest)) :
    readAttrs pos buf =
      (readAttrs (pos + (buf.length - rest.length)) rest).map ((pos, a) :: ·) := by
  have hlt := readAttr_length_lt h
  rw [readAttrs, if_neg (by omega)]
  split
  · rename_i hnone
    rw [h] at hnone
    cases hnone
  · rename_i a' rest' hsome
    rw [h] at hsome
    cases hsome
    rfl

/-- Where the loop succeeds it is at its end, or its next iteration succeeds. -/
theorem readAttrs_eq_some {pos : Nat} {buf : Bytes} {visits : List (Nat × ReadAttr)}
    (h : readAttrs pos buf = some visits) :
    (buf = [] ∧ visits = []) ∨
      ∃ a rest visits', readAttr buf = some (a, rest) ∧
        readAttrs (pos + (buf.length - rest.length)) rest = some visits' ∧
        visits = (pos, a) :: visits' := by
  by_cases hbuf : buf = []
  · subst hbuf
    rw [readAttrs_nil] at h
    cases h
    exact Or.inl ⟨rfl, rfl⟩
  · right
    cases hread : readAttr buf with
    | none =>
        rw [readAttrs, if_neg (by simpa using hbuf)] at h
        split at h
        · cases h
        · rename_i hsome
          rw [hread] at hsome
          cases hsome
    | some r =>
        obtain ⟨a, rest⟩ := r
        rw [readAttrs_cons hread, Option.map_eq_some_iff] at h
        obtain ⟨visits', hrest, rfl⟩ := h
        exact ⟨a, rest, visits', rfl, hrest, rfl⟩

section

variable {miAttrType : UInt16} {data : Bytes} {pos : Nat}

/-- The scan ends where no header of an attribute fits any more. -/
theorem scanAttrs_end (h : data.length < pos + 4) : scanAttrs miAttrType data pos = ([], none) := by
  rw [scanAttrs, if_neg (by rw [kStunAttributeHeaderSize]; omega)]

/-- It stops at the first attribute of the type that it looks for. -/
theorem scanAttrs_found (h : pos + 4 ≤ data.length) (htype : getBE16 data pos = miAttrType) :
    scanAttrs miAttrType data pos = ([pos], some pos) := by
  rw [scanAttrs, kStunAttributeHeaderSize, if_pos h, if_pos htype]

/-- It goes on behind any other attribute, by the declared length rounded up. -/
theorem scanAttrs_step (h : pos + 4 ≤ data.length) (htype : getBE16 data pos ≠ miAttrType) :
    scanAttrs miAttrType data pos =
      (pos :: (scanAttrs miAttrType data (pos + (4 + padded (getBE16 data (pos + 2)).toNat))).1,
        (scanAttrs miAttrType data (pos + (4 + padded (getBE16 data (pos + 2)).toNat))).2) := by
  rw [scanAttrs, kStunAttributeHeaderSize, if_pos h, if_neg htype]

end

/-! ### How far an iteration of `read` goes -/

/-- Only a priority is read as an integer. -/
theorem getAttributeValueType_eq_uint32 {type : UInt16}
    (h : getAttributeValueType type = .uint32) : type = stunAttrPriority := by
  simp only [getAttributeValueType] at h
  split at h
  · cases h
  · split at h
    · cases h
    · split at h
      · assumption
      · cases h

/-- The bytes of an attribute's value that the loop of `read` takes. -/
def readWidth (type length : UInt16) : Nat :=
  match getAttributeValueType type with
  | .byteString => padded length.toNat
  | .uint32 => 4
  | .unknown => padded length.toNat % 2 ^ 16

/-- A byte string takes its declared length, padded. -/
theorem readWidth_byteString {type length : UInt16}
    (h : getAttributeValueType type = .byteString) :
    readWidth type length = padded length.toNat := by
  rw [readWidth, h]

/-- An integer takes four bytes, whatever length is declared. -/
theorem readWidth_uint32 {type length : UInt16} (h : getAttributeValueType type = .uint32) :
    readWidth type length = 4 := by
  rw [readWidth, h]

/-- An attribute of an unknown type is skipped by its padded length, which is computed in 16 bits.
-/
theorem readWidth_unknown {type length : UInt16} (h : getAttributeValueType type = .unknown) :
    readWidth type length = padded length.toNat % 2 ^ 16 := by
  rw [readWidth, h]

/-- All of these are multiples of four. -/
theorem readWidth_mod (type length : UInt16) : readWidth type length % 4 = 0 := by
  have hpad := padded_mod length.toNat
  unfold readWidth
  split <;> omega

/-- In aligned data the padding of a byte string is always there, so the reader is behind the
attribute at the width that the types and lengths say. -/
theorem readValue_width {data rest : Bytes} {pos : Nat} {type length : UInt16}
    {attr : Option StunAttribute} (hdata : data.length % 4 = 0) (hpos : pos % 4 = 0)
    (h : readValue type length (data.drop pos) = some (attr, rest)) :
    rest = data.drop (pos + readWidth type length) ∧
      pos + readWidth type length ≤ max pos data.length := by
  unfold readValue at h
  cases htype : getAttributeValueType type with
  | byteString =>
      simp only [htype, readBytes, Option.bind_eq_bind, Option.bind_eq_some_iff, Option.pure_def,
        Option.some.injEq, Prod.mk.injEq, Prod.exists, Option.ite_none_right_eq_some] at h
      obtain ⟨bytes, buf, ⟨hlen, rfl, rfl⟩, -, rfl⟩ := h
      rw [List.length_drop] at hlen
      rw [readWidth_byteString htype]
      -- the padding is behind the value, and cannot be cut off: the end is a multiple of four
      by_cases hpad : 0 < length.toNat % 4
      · have hin : 4 - length.toNat % 4 ≤ ((data.drop pos).drop length.toNat).length := by
          rw [List.drop_drop, List.length_drop]
          omega
        have hwidth : padded length.toNat = length.toNat + (4 - length.toNat % 4) := by
          rw [padded, if_pos (by omega)]
        rw [if_pos hpad, consume, readBytes, if_pos hin, Option.map_some, Option.getD_some,
          List.drop_drop, List.drop_drop, hwidth]
        exact ⟨by rw [Nat.add_assoc], by omega⟩
      · have hwidth : padded length.toNat = length.toNat := by
          rw [padded, if_neg (by omega)]
        rw [if_neg hpad, List.drop_drop, hwidth]
        exact ⟨rfl, by omega⟩
  | uint32 =>
      simp only [htype, readUInt32, readBytes, Option.bind_eq_bind, Option.bind_eq_some_iff,
        Option.pure_def, Option.some.injEq, Prod.mk.injEq, Prod.exists, Option.map_eq_some_iff,
        Option.ite_none_right_eq_some] at h
      obtain ⟨bits, buf, ⟨bytes, buf', ⟨hlen, rfl, rfl⟩, rfl, rfl⟩, -, rfl⟩ := h
      rw [List.length_drop] at hlen
      rw [readWidth_uint32 htype, List.drop_drop]
      exact ⟨rfl, by omega⟩
  | unknown =>
      simp only [htype, Option.bind_eq_bind, Option.bind_eq_some_iff, Option.pure_def,
        Option.some.injEq, Prod.mk.injEq] at h
      obtain ⟨buf, hread, -, rfl⟩ := h
      obtain ⟨rfl, hlen⟩ := consume_eq_some hread
      rw [UInt16.toNat_ofNat', List.length_drop] at hlen
      rw [readWidth_unknown htype, UInt16.toNat_ofNat', List.drop_drop]
      exact ⟨rfl, by omega⟩

/-- An iteration of the loop of `read` at an offset, by what stands there. -/
theorem readAttr_width {data rest : Bytes} {pos : Nat} {a : ReadAttr}
    (hdata : data.length % 4 = 0) (hpos : pos % 4 = 0)
    (h : readAttr (data.drop pos) = some (a, rest)) :
    a.type = getBE16 data pos ∧ a.length = getBE16 data (pos + 2) ∧
      rest = data.drop (pos + (4 + readWidth a.type a.length)) ∧
      pos + (4 + readWidth a.type a.length) ≤ data.length := by
  obtain ⟨hlen, htype, hlength, hvalue⟩ := readAttr_eq_some h
  rw [List.length_drop] at hlen
  rw [List.drop_drop] at hvalue
  rw [getBE16_drop] at htype hlength
  obtain ⟨hrest, hle⟩ := readValue_width hdata (by omega) hvalue
  refine ⟨htype, hlength, ?_, by omega⟩
  rw [hrest, Nat.add_assoc]

/-- The offset the loop goes on at, from the bytes left before and after. -/
theorem add_sub_length_drop {data : Bytes} {pos n : Nat} (h : pos + n ≤ data.length) :
    pos + ((data.drop pos).length - (data.drop (pos + n)).length) = pos + n := by
  rw [List.length_drop, List.length_drop]
  omega

/-- The loop of `read` at an offset inside the data goes through one iteration. -/
theorem readAttrs_drop {data : Bytes} {pos : Nat} {visits : List (Nat × ReadAttr)}
    (hdata : data.length % 4 = 0) (hpos : pos % 4 = 0) (hlt : pos < data.length)
    (h : readAttrs pos (data.drop pos) = some visits) :
    ∃ a visits', visits = (pos, a) :: visits' ∧ pos + 4 ≤ data.length ∧
      a.type = getBE16 data pos ∧ a.length = getBE16 data (pos + 2) ∧
      pos + (4 + readWidth a.type a.length) ≤ data.length ∧
      readAttrs (pos + (4 + readWidth a.type a.length))
        (data.drop (pos + (4 + readWidth a.type a.length))) = some visits' := by
  rcases readAttrs_eq_some h with ⟨hnil, -⟩ | ⟨a, rest, visits', hread, hrest, rfl⟩
  · rw [List.drop_eq_nil_iff] at hnil
    omega
  · obtain ⟨htype, hlength, rfl, hle⟩ := readAttr_width hdata hpos hread
    rw [add_sub_length_drop hle] at hrest
    exact ⟨a, visits', rfl, by omega, htype, hlength, hle, hrest⟩

/-! ### The layout by declared lengths -/

/-- There is an attribute header at the second offset, when one starts at the first
offset and every attribute takes its declared length rounded up to four. The first
integrity attribute ends the layout. -/
inductive AttrAt (data : Bytes) : Nat → Nat → Prop where
  | here (pos : Nat) : AttrAt data pos pos
  | next {pos pos' : Nat} (hin : pos + 4 ≤ data.length)
      (htype : getBE16 data pos ≠ stunAttrMessageIntegrity)
      (hnext : AttrAt data (pos + (4 + padded (getBE16 data (pos + 2)).toNat)) pos') :
      AttrAt data pos pos'

/-- The declared length of the attribute at an offset is one for which `read`
advances as declared: a priority has one to four bytes, and an attribute of
unknown type has at most 65532 bytes or is cut off right behind its header. -/
def WellSizedAt (data : Bytes) (pos : Nat) : Prop :=
  let type := getBE16 data pos
  let length := (getBE16 data (pos + 2)).toNat
  (type = stunAttrPriority → 1 ≤ length ∧ length ≤ 4) ∧
    (getAttributeValueType type = .unknown → length ≤ 65532 ∨ pos + 4 = data.length)

/-- Every attribute from an offset on, up to the first integrity attribute, has
such a length. -/
def WellSizedFrom (data : Bytes) (start : Nat) : Prop :=
  ∀ pos, AttrAt data start pos → pos + 4 ≤ data.length → WellSizedAt data pos

/-- Every attribute of a message, up to the first integrity attribute, has such a
length. -/
def WellSized (data : Bytes) : Prop := WellSizedFrom data kStunHeaderSize

/-- At the end of the data there is no attribute left to look at. -/
theorem wellSizedFrom_end {data : Bytes} {pos : Nat} (h : data.length < pos + 4) :
    WellSizedFrom data pos := by
  intro pos' hat hin
  cases hat with
  | here => omega
  | next hin' _ _ => omega

/-- What comes behind the integrity attribute does not matter. -/
theorem wellSizedFrom_messageIntegrity {data : Bytes} {pos : Nat}
    (h : getBE16 data pos = stunAttrMessageIntegrity) : WellSizedFrom data pos := by
  intro pos' hat hin
  cases hat with
  | here =>
      have hpriority : stunAttrMessageIntegrity ≠ stunAttrPriority := by decide
      have hknown : getAttributeValueType stunAttrMessageIntegrity ≠ .unknown := by decide
      rw [WellSizedAt]
      simp only [h]
      exact ⟨fun h' => absurd h' hpriority, fun h' => absurd h' hknown⟩
  | next _ htype _ => exact absurd h htype

/-- Any other attribute has to be sized well, and so have those behind it. -/
theorem wellSizedFrom_step {data : Bytes} {pos : Nat} (hin : pos + 4 ≤ data.length)
    (htype : getBE16 data pos ≠ stunAttrMessageIntegrity) :
    WellSizedFrom data pos ↔
      WellSizedAt data pos ∧
        WellSizedFrom data (pos + (4 + padded (getBE16 data (pos + 2)).toNat)) := by
  constructor
  · intro h
    exact ⟨h pos (.here pos) hin, fun pos' hat => h pos' (.next hin htype hat)⟩
  · rintro ⟨hat, hrest⟩ pos' hpos' hin'
    cases hpos' with
    | here => exact hat
    | next _ _ hnext => exact hrest pos' hnext hin'

/-- Where the widths are equal, the length is well sized. -/
theorem wellSizedAt_of_readWidth {data : Bytes} {pos : Nat}
    (h : readWidth (getBE16 data pos) (getBE16 data (pos + 2))
      = padded (getBE16 data (pos + 2)).toNat) : WellSizedAt data pos := by
  rw [WellSizedAt]
  refine ⟨fun htype => ?_, fun htype => Or.inl ?_⟩
  · have hvalue : getAttributeValueType stunAttrPriority = .uint32 := by decide
    rw [htype, readWidth_uint32 hvalue, padded] at h
    split at h <;> omega
  · rw [readWidth_unknown htype, padded] at h
    split at h <;> omega

/-- A width differs from the declared one at a priority, where `read` takes four
bytes, or at an unknown attribute, where it takes none. -/
theorem readWidth_ne {type length : UInt16} (h : readWidth type length ≠ padded length.toNat) :
    (type = stunAttrPriority ∧ readWidth type length = 4 ∧
        ¬ (1 ≤ length.toNat ∧ length.toNat ≤ 4)) ∨
      (getAttributeValueType type = .unknown ∧ readWidth type length = 0 ∧
        65533 ≤ length.toNat ∧ padded length.toNat = 65536) := by
  have hlt : length.toNat < 65536 := length.toNat_lt
  cases htype : getAttributeValueType type with
  | byteString => exact absurd (readWidth_byteString htype) h
  | uint32 =>
      left
      refine ⟨getAttributeValueType_eq_uint32 htype, readWidth_uint32 htype, ?_⟩
      rintro ⟨hone, hfour⟩
      apply h
      rw [readWidth_uint32 htype, padded]
      split <;> omega
  | unknown =>
      right
      rw [readWidth_unknown htype, padded] at h
      have hlen : 65533 ≤ length.toNat := by
        split at h <;> omega
      have hpad : padded length.toNat = 65536 := by
        rw [padded]
        split <;> omega
      exact ⟨rfl, by rw [readWidth_unknown htype, hpad]; decide, hlen, hpad⟩

/-! ### When the two walks agree -/

/-- An iteration of `read` at an integrity attribute. -/
def isMessageIntegrity (visit : Nat × ReadAttr) : Bool :=
  visit.2.type == stunAttrMessageIntegrity

/-- The scan from an offset looks at the offsets of the iterations of `read` up to
the first integrity attribute, and stops there. -/
def AgreeFrom (data : Bytes) (pos : Nat) (visits : List (Nat × ReadAttr)) : Prop :=
  (scanAttrs stunAttrMessageIntegrity data pos).1
      = (visits.take (visits.findIdx isMessageIntegrity + 1)).map Prod.fst ∧
    (scanAttrs stunAttrMessageIntegrity data pos).2
      = (visits.find? isMessageIntegrity).map Prod.fst

/-- Both walks stop at an integrity attribute. -/
theorem agreeFrom_found {data : Bytes} {pos : Nat} {a : ReadAttr}
    {visits : List (Nat × ReadAttr)} (hin : pos + 4 ≤ data.length)
    (htype : getBE16 data pos = stunAttrMessageIntegrity)
    (ha : a.type = stunAttrMessageIntegrity) : AgreeFrom data pos ((pos, a) :: visits) := by
  have hmi : isMessageIntegrity (pos, a) = true := by simp [isMessageIntegrity, ha]
  rw [AgreeFrom, scanAttrs_found hin htype, List.findIdx_cons, List.find?_cons]
  simp [hmi]

/-- They agree from another attribute on if they agree from the one behind it. -/
theorem agreeFrom_step {data : Bytes} {pos : Nat} {a : ReadAttr}
    {visits : List (Nat × ReadAttr)} (hin : pos + 4 ≤ data.length)
    (htype : getBE16 data pos ≠ stunAttrMessageIntegrity)
    (ha : a.type ≠ stunAttrMessageIntegrity) :
    AgreeFrom data pos ((pos, a) :: visits) ↔
      AgreeFrom data (pos + (4 + padded (getBE16 data (pos + 2)).toNat)) visits := by
  have hmi : isMessageIntegrity (pos, a) = false := by simp [isMessageIntegrity, ha]
  rw [AgreeFrom, scanAttrs_step hin htype, List.findIdx_cons, List.find?_cons]
  simp [hmi, AgreeFrom]

/-- If the loop of `read` goes on at another offset than the scan, they differ. -/
theorem not_agreeFrom_of_ne {data : Bytes} {pos pos' : Nat} {a : ReadAttr}
    {visits : List (Nat × ReadAttr)} (hne : pos ≠ pos') :
    ¬ AgreeFrom data pos ((pos', a) :: visits) := by
  rintro ⟨hoffsets, -⟩
  rw [List.take_succ_cons, List.map_cons] at hoffsets
  by_cases hin : pos + 4 ≤ data.length
  · by_cases htype : getBE16 data pos = stunAttrMessageIntegrity
    · rw [scanAttrs_found hin htype] at hoffsets
      exact hne (List.cons.inj hoffsets).1
    · rw [scanAttrs_step hin htype] at hoffsets
      exact hne (List.cons.inj hoffsets).1
  · rw [scanAttrs_end (by omega)] at hoffsets
    cases hoffsets

/-- The walks agree from an offset on exactly when the attributes from there on are
well sized. The last attribute header that fits is that of the fingerprint, which
is no priority, so a priority is never the last iteration of `read`. -/
theorem agreeFrom_iff {data : Bytes} (hdata : data.length % 4 = 0) (hsize : data.length < 65556)
    (hlast : getBE16 data (data.length - 8) ≠ stunAttrPriority) (pos : Nat)
    (visits : List (Nat × ReadAttr)) (hpos : pos % 4 = 0) (hstart : kStunHeaderSize ≤ pos)
    (hle : pos ≤ data.length) (hread : readAttrs pos (data.drop pos) = some visits) :
    AgreeFrom data pos visits ↔ WellSizedFrom data pos := by
  rcases Nat.eq_or_lt_of_le hle with rfl | hlt
  · -- both walks are at the end
    rw [List.drop_length, readAttrs_nil] at hread
    cases hread
    rw [AgreeFrom, scanAttrs_end (by omega)]
    exact iff_of_true ⟨rfl, rfl⟩ (wellSizedFrom_end (by omega))
  · obtain ⟨a, visits', rfl, hin, htype, hlength, hnext, hrest⟩ :=
      readAttrs_drop hdata hpos hlt hread
    by_cases hmi : getBE16 data pos = stunAttrMessageIntegrity
    · exact iff_of_true (agreeFrom_found hin hmi (htype.trans hmi))
        (wellSizedFrom_messageIntegrity hmi)
    · rw [agreeFrom_step hin hmi (by rwa [htype]), wellSizedFrom_step hin hmi]
      rw [htype, hlength] at hnext hrest
      have hmod := readWidth_mod (getBE16 data pos) (getBE16 data (pos + 2))
      by_cases hwidth : readWidth (getBE16 data pos) (getBE16 data (pos + 2))
          = padded (getBE16 data (pos + 2)).toNat
      · rw [hwidth] at hnext hrest hmod
        rw [agreeFrom_iff hdata hsize hlast _ visits' (by omega) (by omega) hnext hrest]
        exact ⟨fun h => ⟨wellSizedAt_of_readWidth hwidth, h⟩, fun h => h.2⟩
      · rcases readWidth_ne hwidth with ⟨hpriority, hfour, hbad⟩ | ⟨hunknown, hzero, hlong, hpad⟩
        · -- a priority: `read` goes on eight bytes further, the scan does not
          have hmore : pos + (4 + 4) < data.length := by
            rw [hfour] at hnext
            rcases Nat.eq_or_lt_of_le hnext with heq | hmore
            · rw [← heq, Nat.add_sub_cancel, hpriority] at hlast
              exact absurd rfl hlast
            · exact hmore
          rw [hfour] at hrest hwidth
          obtain ⟨a', visits'', rfl, -⟩ := readAttrs_drop hdata (by omega) hmore hrest
          exact iff_of_false (not_agreeFrom_of_ne (by omega)) fun h => hbad (h.1.1 hpriority)
        · -- an unknown attribute: `read` goes on behind the header, the scan leaves
          -- the data
          rw [hzero] at hrest hnext
          have hout : data.length
              < pos + (4 + padded (getBE16 data (pos + 2)).toNat) + 4 := by
            rw [kStunHeaderSize] at hstart
            omega
          rcases Nat.eq_or_lt_of_le hnext with heq | hmore
          · rw [heq, List.drop_length, readAttrs_nil] at hrest
            cases hrest
            rw [AgreeFrom, scanAttrs_end hout]
            refine iff_of_true ⟨rfl, rfl⟩ ⟨⟨fun h => ?_, fun _ => Or.inr (by omega)⟩,
              wellSizedFrom_end hout⟩
            rw [h] at hunknown
            exact absurd hunknown (by decide)
          · obtain ⟨a', visits'', rfl, -⟩ := readAttrs_drop hdata (by omega) hmore hrest
            refine iff_of_false (not_agreeFrom_of_ne (by omega)) fun h => ?_
            rcases h.1.2 hunknown with hshort | hend
            · omega
            · omega
termination_by data.length - pos

/-! ### What `read` has checked -/

/-- The header of data that is long enough for one. -/
theorem readHeader_of_le {data : Bytes} (h : kStunHeaderSize ≤ data.length) :
    readHeader data =
      if getBE16 data 0 &&& 0x0800 ≠ 0 then none
      else some (getBE16 data 0, getBE16 data 2, slice data 4 4, slice data 8 12,
        data.drop kStunHeaderSize) := by
  rw [kStunHeaderSize] at h ⊢
  have hlength : readUInt16 (data.drop 2) = some (getBE16 data 2, data.drop 4) := by
    rw [readUInt16_of_le (by rw [List.length_drop]; omega), getBE16_drop, List.drop_drop]
  have hcookie : readBytes kStunMagicCookieLength (data.drop 4)
      = some (slice data 4 4, data.drop 8) := by
    rw [kStunMagicCookieLength, readBytes, if_pos (by rw [List.length_drop]; omega),
      List.drop_drop]
    rfl
  have hid : readBytes kStunTransactionIdLength (data.drop 8)
      = some (slice data 8 12, data.drop 20) := by
    rw [kStunTransactionIdLength, readBytes, if_pos (by rw [List.length_drop]; omega),
      List.drop_drop]
    rfl
  simp only [readHeader, readUInt16_of_le (show 2 ≤ data.length by omega), hlength, hcookie, hid,
    Option.bind_eq_bind, Option.bind_some]
  rfl

/-- A header that is read has twenty bytes, and its two fields are those at their offsets. -/
theorem readHeader_eq_some {data cookie transactionId rest : Bytes} {type length : UInt16}
    (h : readHeader data = some (type, length, cookie, transactionId, rest)) :
    20 ≤ data.length ∧ type = getBE16 data 0 ∧ length = getBE16 data 2 ∧ rest = data.drop 20 := by
  simp only [readHeader, Option.bind_eq_bind, Option.bind_eq_some_iff, Option.pure_def,
    Option.some.injEq, Prod.mk.injEq, Prod.exists, Option.ite_none_left_eq_some] at h
  obtain ⟨type', buf₁, h₁, -, length', buf₂, h₂, cookie', buf₃, h₃, tid, buf₄, h₄, rfl, rfl, rfl,
    rfl, rfl⟩ := h
  obtain ⟨-, rfl, rfl⟩ := readUInt16_eq_some h₁
  obtain ⟨-, rfl, rfl⟩ := readUInt16_eq_some h₂
  simp only [readBytes, Option.ite_none_right_eq_some, Option.some.injEq, Prod.mk.injEq] at h₃ h₄
  obtain ⟨-, -, rfl⟩ := h₃
  obtain ⟨hlen, -, rfl⟩ := h₄
  simp only [List.drop_drop, List.length_drop, kStunMagicCookieLength, kStunTransactionIdLength]
    at hlen ⊢
  exact ⟨by omega, trivial, getBE16_drop data 2 0, trivial⟩

/-- What is known of a datagram that `read` accepts: the loop ran through the bytes
behind the header, and the length field counts them. -/
theorem read_eq_some {data : Bytes} {m : StunMessage} (h : StunMessage.read data = some m) :
    ∃ visits, readVisits data = some visits ∧
      readAttrs kStunHeaderSize (data.drop kStunHeaderSize) = some visits ∧
      data.length = kStunHeaderSize + (getBE16 data 2).toNat ∧
      m.attrs = visits.filterMap (·.2.attr) ∧ m.buffer = data := by
  simp only [StunMessage.read, Option.bind_eq_bind, Option.bind_eq_some_iff, Option.pure_def,
    Option.some.injEq, Prod.exists] at h
  obtain ⟨type, length, cookie, tid, rest, hheader, visits, hvisits, rfl⟩ := h
  refine ⟨visits, hvisits, ?_⟩
  simp only [readVisits, hheader, Option.bind_eq_bind, Option.bind_some,
    Option.ite_none_left_eq_some] at hvisits
  obtain ⟨hlength, hattrs⟩ := hvisits
  obtain ⟨hsize, -, rfl, rfl⟩ := readHeader_eq_some hheader
  rw [List.length_drop] at hlength
  refine ⟨hattrs, ?_, rfl, rfl⟩
  rw [kStunHeaderSize]
  omega

/-- An iteration of `read` decodes an attribute of the type it has read, and it does
so for every known type. -/
structure Decoded (a : ReadAttr) : Prop where
  type : ∀ d, a.attr = some d → d.type = a.type
  isSome : getAttributeValueType a.type ≠ .unknown → a.attr.isSome

/-- An attribute of a known type that `read` accepts has a value of the class of its type. -/
theorem decoded_readAttr {buf rest : Bytes} {a : ReadAttr} (h : readAttr buf = some (a, rest)) :
    Decoded a := by
  obtain ⟨-, -, -, hvalue⟩ := readAttr_eq_some h
  unfold readValue at hvalue
  cases htype : getAttributeValueType a.type with
  | byteString =>
      simp only [htype, Option.bind_eq_bind, Option.bind_eq_some_iff, Option.pure_def,
        Option.some.injEq, Prod.mk.injEq, Prod.exists] at hvalue
      obtain ⟨bytes, buf', -, hattr, -⟩ := hvalue
      exact ⟨fun d hd => by rw [← hattr] at hd; cases hd; rfl, fun _ => by rw [← hattr]; rfl⟩
  | uint32 =>
      simp only [htype, Option.bind_eq_bind, Option.bind_eq_some_iff, Option.pure_def,
        Option.some.injEq, Prod.mk.injEq, Prod.exists] at hvalue
      obtain ⟨bits, buf', -, hattr, -⟩ := hvalue
      exact ⟨fun d hd => by rw [← hattr] at hd; cases hd; rfl, fun _ => by rw [← hattr]; rfl⟩
  | unknown =>
      simp only [htype, Option.bind_eq_bind, Option.bind_eq_some_iff, Option.pure_def,
        Option.some.injEq, Prod.mk.injEq] at hvalue
      obtain ⟨buf', -, hattr, -⟩ := hvalue
      exact ⟨fun d hd => (nomatch hattr.trans hd), fun hne => absurd htype hne⟩

/-- Every iteration of the loop is one of `readAttr`. -/
theorem readAttr_of_mem {pos : Nat} {buf : Bytes} {visits : List (Nat × ReadAttr)}
    (h : readAttrs pos buf = some visits) :
    ∀ visit ∈ visits, ∃ buf rest, readAttr buf = some (visit.2, rest) := by
  induction visits generalizing pos buf with
  | nil => exact fun visit hvisit => nomatch hvisit
  | cons visit visits ih =>
      rcases readAttrs_eq_some h with ⟨-, hnil⟩ | ⟨a, rest, visits', hread, hrest, heq⟩
      · cases hnil
      · cases heq
        intro visit hvisit
        rcases List.mem_cons.mp hvisit with rfl | hvisit
        · exact ⟨buf, rest, hread⟩
        · exact ih hrest visit hvisit

/-- So have all attributes of an accepted message. -/
theorem decoded_readAttrs {pos : Nat} {buf : Bytes} {visits : List (Nat × ReadAttr)}
    (h : readAttrs pos buf = some visits) : ∀ visit ∈ visits, Decoded visit.2 := by
  intro visit hvisit
  obtain ⟨front, rest, hread⟩ := readAttr_of_mem h visit hvisit
  exact decoded_readAttr hread

/-- A known type is looked up in the iterations of `read`. -/
theorem find?_filterMap_attr {type : UInt16} (htype : getAttributeValueType type ≠ .unknown)
    {visits : List (Nat × ReadAttr)} (h : ∀ visit ∈ visits, Decoded visit.2) :
    (visits.filterMap (·.2.attr)).find? (·.type == type)
      = (visits.find? (·.2.type == type)).bind (·.2.attr) := by
  induction visits with
  | nil => rfl
  | cons visit visits ih =>
      have hvisit := h visit List.mem_cons_self
      have hrest := ih fun v hv => h v (List.mem_cons_of_mem visit hv)
      rw [List.filterMap_cons]
      by_cases ha : visit.2.type = type
      · obtain ⟨d, hd⟩ := Option.isSome_iff_exists.mp (hvisit.isSome (by rwa [ha]))
        have hdtype : d.type = type := (hvisit.type d hd).trans ha
        simp only [hd]
        rw [List.find?_cons_of_pos (by simp [hdtype]), List.find?_cons_of_pos (by simp [ha]),
          Option.bind_some, hd]
      · rw [List.find?_cons_of_neg (by simp [ha]), ← hrest]
        cases hd : visit.2.attr with
        | none => rfl
        | some d =>
            have hdtype : d.type ≠ type := fun heq => ha ((hvisit.type d hd).symm.trans heq)
            exact List.find?_cons_of_neg (by simp [hdtype])

/-- Looking for a known type among the iterations finds an attribute whenever an iteration has
read that type. -/
theorem isSome_find?_bind_attr {type : UInt16} (htype : getAttributeValueType type ≠ .unknown)
    {visits : List (Nat × ReadAttr)} (h : ∀ visit ∈ visits, Decoded visit.2) :
    ((visits.find? (·.2.type == type)).bind (·.2.attr)).isSome
      = (visits.find? (·.2.type == type)).isSome := by
  cases hfind : visits.find? (·.2.type == type) with
  | none => rfl
  | some visit =>
      have hsome := List.find?_some hfind
      rw [beq_iff_eq] at hsome
      exact (h visit (List.mem_of_find?_eq_some hfind)).isSome (by rwa [hsome])

/-! ### The agreement of the walks -/

/-- The walks over a datagram agree. The scan looks at the offsets of the iterations
of `read` up to the first integrity attribute, it stops at the offset of that
iteration, and it finds an integrity attribute if and only if `read` decodes one. -/
def WalksAgree (data : Bytes) (m : StunMessage) : Prop :=
  ∃ visits, readVisits data = some visits ∧ AgreeFrom data kStunHeaderSize visits ∧
    ((m.getByteString stunAttrMessageIntegrity).isSome ↔
      (scanAttrs stunAttrMessageIntegrity data kStunHeaderSize).2.isSome)

/-- A datagram with a fingerprint has whole words, room for the header and the fingerprint, and
the type of the fingerprint eight bytes before its end. -/
theorem validateFingerprint_eq_true {digest : MessageDigest} {data : Bytes}
    (h : validateFingerprint digest data = true) :
    data.length % 4 = 0 ∧ 28 ≤ data.length ∧
      getBE16 data (data.length - 8) = stunAttrFingerprint := by
  simp only [validateFingerprint] at h
  split_ifs at h with hsize hcookie hattr
  rw [kStunHeaderSize, kStunAttributeHeaderSize] at hsize
  rw [kStunAttributeHeaderSize] at hattr
  push Not at hsize hattr
  exact ⟨hsize.1, by omega, hattr.1⟩

/-- For every datagram that passes `validate_fingerprint` and `read`, the two walks agree if and
only if its attributes are well sized. The walk of `read` pads in 16 bits and gives a priority
four bytes whatever it declares, and the scan does neither. -/
theorem walksAgree_iff (digest : MessageDigest) {data : Bytes} {m : StunMessage}
    (hfingerprint : validateFingerprint digest data = true)
    (hread : StunMessage.read data = some m) : WalksAgree data m ↔ WellSized data := by
  obtain ⟨hdata, hsize, hlast⟩ := validateFingerprint_eq_true hfingerprint
  obtain ⟨visits, hvisits, hloop, hlength, hattrs, -⟩ := read_eq_some hread
  have hfield : (getBE16 data 2).toNat < 65536 := (getBE16 data 2).toNat_lt
  have hagree := agreeFrom_iff hdata (by rw [hlength, kStunHeaderSize]; omega)
    (by rw [hlast]; decide) kStunHeaderSize visits rfl (Nat.le_refl _)
    (by rw [kStunHeaderSize]; omega) hloop
  have hknown : getAttributeValueType stunAttrMessageIntegrity ≠ .unknown := by decide
  have hget : (m.getByteString stunAttrMessageIntegrity).isSome
      = (visits.find? isMessageIntegrity).isSome := by
    rw [getByteString, getAttribute, hattrs,
      find?_filterMap_attr hknown (decoded_readAttrs hloop),
      isSome_find?_bind_attr hknown (decoded_readAttrs hloop)]
    rfl
  show WalksAgree data m ↔ WellSizedFrom data kStunHeaderSize
  rw [← hagree]
  constructor
  · rintro ⟨visits', hvisits', hagree', -⟩
    rw [hvisits] at hvisits'
    cases hvisits'
    exact hagree'
  · intro hagree'
    refine ⟨visits, hvisits, hagree', ?_⟩
    rw [hget, hagree'.2, Option.isSome_map]

/-! ### Two datagrams -/

/-- A digest that answers every question with the same values. -/
def fixedDigest (hmac : Vector UInt8 20) (crc : UInt32) : MessageDigest where
  hmacSha1 _ _ := hmac.toList
  crc32 _ := crc
  hmacSha1_length _ _ := hmac.length_toList

/-- The header of a binding request whose attributes take 16 bytes. -/
def shortHeader : Bytes :=
  [0x00, 0x01, 0x00, 0x10, 0x21, 0x12, 0xa4, 0x42] ++ emptyTransactionId

/-- A binding request with a priority of four bytes. -/
def fourBytePriority : Bytes :=
  shortHeader ++ [0x00, 0x24, 0x00, 0x04, 0x6e, 0x7f, 0x1e, 0xff] ++
    [0x80, 0x28, 0x00, 0x04, 0x20, 0x41, 0x93, 0x74]

/-- A binding request with a priority that declares no bytes at all, and four bytes
that look like the header of an integrity attribute behind it. -/
def emptyPriority : Bytes :=
  shortHeader ++ [0x00, 0x24, 0x00, 0x00, 0x00, 0x08, 0x00, 0x00] ++
    [0x80, 0x28, 0x00, 0x04, 0xa6, 0xc5, 0x1b, 0x03]

/-- The walks agree on the first datagram, so its attributes are well sized. The
checksum is the CRC32 of the bytes before the fingerprint. -/
theorem wellSized_fourBytePriority : WellSized fourBytePriority := by
  have hread : ∃ m, StunMessage.read fourBytePriority = some m := by
    rw [← Option.isSome_iff_exists]
    decide +kernel
  obtain ⟨m, hm⟩ := hread
  have hvisits : (readVisits fourBytePriority).isSome := by decide +kernel
  obtain ⟨visits, hvisits⟩ := Option.isSome_iff_exists.mp hvisits
  refine (walksAgree_iff (fixedDigest (Vector.replicate 20 0) 0x7315c63a) (by decide +kernel) hm).mp
    ⟨visits, hvisits, ⟨?_, ?_⟩, ?_⟩
  · have h : (readVisits fourBytePriority).map (fun visits =>
        (visits.take (visits.findIdx isMessageIntegrity + 1)).map Prod.fst)
        = some (scanAttrs stunAttrMessageIntegrity fourBytePriority kStunHeaderSize).1 := by
      decide +kernel
    rw [hvisits, Option.map_some, Option.some.injEq] at h
    exact h.symm
  · have h : (readVisits fourBytePriority).map (fun visits =>
        (visits.find? isMessageIntegrity).map Prod.fst)
        = some (scanAttrs stunAttrMessageIntegrity fourBytePriority kStunHeaderSize).2 := by
      decide +kernel
    rw [hvisits, Option.map_some, Option.some.injEq] at h
    exact h.symm
  · have h : (StunMessage.read fourBytePriority).map (fun m =>
        (m.getByteString stunAttrMessageIntegrity).isSome) = some
        (scanAttrs stunAttrMessageIntegrity fourBytePriority kStunHeaderSize).2.isSome := by
      decide +kernel
    rw [hm, Option.map_some, Option.some.injEq] at h
    rw [h]

/-- On the second datagram `read` steps over the four bytes as the value of the
priority, while the scan takes them for an integrity attribute at offset 24. -/
theorem emptyPriority_walks_differ :
    validateFingerprint (fixedDigest (Vector.replicate 20 0) 0xf5914e4d) emptyPriority = true ∧
      ∃ m, StunMessage.read emptyPriority = some m ∧
        m.getByteString stunAttrMessageIntegrity = none ∧
        (scanAttrs stunAttrMessageIntegrity emptyPriority kStunHeaderSize).2 = some 24 ∧
        ¬ WalksAgree emptyPriority m := by
  have hscan : (scanAttrs stunAttrMessageIntegrity emptyPriority kStunHeaderSize).2 = some 24 := by
    decide +kernel
  have hread : (StunMessage.read emptyPriority).map (fun m =>
      m.getByteString stunAttrMessageIntegrity) = some none := by
    decide +kernel
  refine ⟨by decide +kernel, ?_⟩
  obtain ⟨m, hm, hnone⟩ := Option.map_eq_some_iff.mp hread
  refine ⟨m, hm, hnone, hscan, ?_⟩
  rintro ⟨visits, -, -, hiff⟩
  rw [hnone, hscan] at hiff
  exact absurd (hiff.mpr rfl) (by simp)

end Xrtc.Proofs.Ice
