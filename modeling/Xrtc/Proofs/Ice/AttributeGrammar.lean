import Xrtc.Lib.Frames
import Xrtc.Proofs.Ice.StunWalk

/-!
# `Xrtc.Proofs.Ice.AttributeGrammar`: the attributes that `read` accepts

The bytes behind the header should be a concatenation of attributes, each with its declared
length and padded to a multiple of four, and a priority of four bytes (`IsSequence`). The
loop of `read` takes pieces off the front that are attributes of this kind but for two slips
(`Taken`): a priority is read as four bytes whatever length it declares, since its class does
not get the declared length, and the length of an unknown attribute is rounded up in 16 bits.

Both are framings, so the pieces of a datagram are unique, and `read_attrs` says that the
loop accepts exactly the concatenations of its own pieces. `readsGrammar_iff` compares the
two: `read` accepts the grammar and decodes what it should, unless the bytes are a
concatenation of the pieces of `read` with a slip in one of them.
-/

set_option autoImplicit false

namespace Xrtc.Proofs.Ice

open Xrtc.Lib
open Xrtc.Ice
open Xrtc.Ice.StunMessage

/-! ### The grammar -/

/-- The type of an attribute. -/
def attrType (a : Bytes) : UInt16 := getBE16 a 0

/-- The declared length of an attribute. -/
def attrLength (a : Bytes) : UInt16 := getBE16 a 2

/-- An attribute: its type and length, a value of this length, and padding to a multiple of
four. -/
def IsAttribute (a : Bytes) : Prop :=
  4 ≤ a.length ∧ a.length = 4 + padded (attrLength a).toNat

/-- The bytes are these attributes one after the other, and every priority has four bytes. -/
def IsSequence (bytes : Bytes) (attrs : List Bytes) : Prop :=
  bytes = attrs.flatten ∧
    ∀ a ∈ attrs, IsAttribute a ∧ (attrType a = stunAttrPriority → attrLength a = 4)

/-- The types that are decoded. -/
def isKnown (a : Bytes) : Bool :=
  attrType a == stunAttrUsername || attrType a == stunAttrMessageIntegrity ||
    attrType a == stunAttrPriority

/-- A decoded attribute has the type, the declared length and the value of an attribute. -/
structure DecodedFrom (d : StunAttribute) (a : Bytes) : Prop where
  type : d.type = attrType a
  length : d.length = attrLength a
  value : d.value =
    if attrType a = stunAttrPriority then .uint32 (getBE32 a 4)
    else .byteString (slice a 4 (attrLength a).toNat)

/-- `read` accepts a datagram exactly if the bytes behind its header are a sequence of
attributes, and then it has decoded those of a known type, in their order. -/
def ReadsGrammar (data : Bytes) : Prop :=
  ((StunMessage.read data).isSome ↔ ∃ attrs, IsSequence (data.drop kStunHeaderSize) attrs) ∧
    ∀ m attrs, StunMessage.read data = some m → IsSequence (data.drop kStunHeaderSize) attrs →
      List.Forall₂ DecodedFrom m.attrs (attrs.filter isKnown)

/-! ### The pieces of `read` -/

/-- What one iteration of `read` takes: an attribute of a known type with its declared
length, but of a priority only four bytes, and an attribute of unknown type with its length
rounded up in 16 bits. -/
def Taken (a : Bytes) : Prop :=
  4 ≤ a.length ∧ a.length = 4 + readWidth (attrType a) (attrLength a)

/-- A piece that is not what it declares: a priority that does not declare four bytes, or an
unknown attribute whose length does not fit once it is rounded up. -/
def Misread (a : Bytes) : Prop :=
  (attrType a = stunAttrPriority ∧ attrLength a ≠ 4) ∨
    (getAttributeValueType (attrType a) = .unknown ∧ 65533 ≤ (attrLength a).toNat)

instance (a : Bytes) : Decidable (Misread a) := inferInstanceAs (Decidable (_ ∨ _))

/-- The bytes are a concatenation of pieces, and one of them is misread. -/
def HasMisread (bytes : Bytes) : Prop :=
  ∃ pieces : List Bytes, bytes = pieces.flatten ∧ (∀ a ∈ pieces, Taken a) ∧ ∃ a ∈ pieces, Misread a

/-- The type of an attribute is within its first four bytes. -/
theorem attrType_append {a : Bytes} (h : 4 ≤ a.length) (rest : Bytes) :
    attrType (a ++ rest) = attrType a := getBE16_append_left (by omega) rest

/-- So is its length. -/
theorem attrLength_append {a : Bytes} (h : 4 ≤ a.length) (rest : Bytes) :
    attrLength (a ++ rest) = attrLength a := getBE16_append_left (by omega) rest

/-- The framing of pieces whose width is computed from their header. -/
def attrFraming (width : UInt16 → UInt16 → Nat) : Framing UInt8 :=
  .ofHeader 4 (fun s => some (4 + width (attrType s) (attrLength s))) (by decide)
    (fun s n h => by cases h; omega)
    (fun s rest h => by rw [attrType_append h, attrLength_append h])

/-- An attribute is its header, and as many bytes as the width says. -/
theorem isFrame_attrFraming {width : UInt16 → UInt16 → Nat} {a : Bytes} :
    (attrFraming width).IsFrame a ↔
      4 ≤ a.length ∧ a.length = 4 + width (attrType a) (attrLength a) := by
  rw [attrFraming, Framing.isFrame_ofHeader, Option.some.injEq]
  omega

/-- The pieces of `read`. -/
def taken : Framing UInt8 := attrFraming readWidth

/-- The pieces that the loop takes are those of its own width. -/
theorem isFrame_taken {a : Bytes} : taken.IsFrame a ↔ Taken a := isFrame_attrFraming

/-! ### The loop of `read` -/

/-- What an iteration of `read` decodes from a piece. -/
def valueOf (a : Bytes) : Option StunAttribute :=
  match getAttributeValueType (attrType a) with
  | .byteString => some ⟨attrType a, .byteString (slice a 4 (attrLength a).toNat)⟩
  | .uint32 => some ⟨attrType a, .uint32 (getBE32 a 4)⟩
  | .unknown => none

/-- The iteration of `read` at a piece. -/
def iterationOf (a : Bytes) : ReadAttr := ⟨attrType a, attrLength a, valueOf a⟩

/-- The padding as the source computes it. -/
theorem padded_eq (n : Nat) : padded n = n + if 0 < n % 4 then 4 - n % 4 else 0 := by
  unfold padded
  split_ifs <;> omega

/-- The value of a piece is read whatever follows it. The cases are the types of a value, and the
padding is part of the piece. -/
theorem readValue_of_taken {a : Bytes} (h : Taken a) (rest : Bytes) :
    readValue (attrType a) (attrLength a) (a.drop 4 ++ rest) = some (valueOf a, rest) := by
  obtain ⟨hlen, hwidth⟩ := h
  have hdrop : (a.drop 4).length = readWidth (attrType a) (attrLength a) := by
    rw [List.length_drop]
    omega
  unfold readValue valueOf
  cases htype : getAttributeValueType (attrType a) with
  | byteString =>
      rw [readWidth_byteString htype, padded_eq] at hdrop
      have htake : (a.drop 4 ++ rest).take (attrLength a).toNat = slice a 4 (attrLength a).toNat :=
        List.take_append_of_le_length (by omega)
      simp only [readBytes, Option.bind_eq_bind]
      rw [if_pos (by rw [List.length_append]; omega), htake]
      simp only [Option.bind_some, Option.pure_def, Option.some.injEq, Prod.mk.injEq, true_and]
      split
      · -- the padding is part of the piece
        rename_i hpad
        rw [if_pos hpad] at hdrop
        rw [consume, readBytes, if_pos (by rw [List.length_drop, List.length_append]; omega),
          Option.map_some, Option.getD_some, List.drop_drop]
        exact List.drop_left' hdrop
      · rename_i hpad
        rw [if_neg hpad, Nat.add_zero] at hdrop
        exact List.drop_left' hdrop
  | uint32 =>
      rw [readWidth_uint32 htype] at hdrop
      have hvalue : slice a 4 4 = a.drop 4 := List.take_of_length_le hdrop.le
      simp only [readUInt32, readBytes_append hdrop, Option.map_some, Option.bind_eq_bind,
        Option.bind_some, Option.pure_def, getBE32, hvalue]
  | unknown =>
      rw [readWidth_unknown htype] at hdrop
      have hskip : (UInt16.ofNat (padded (attrLength a).toNat)).toNat = (a.drop 4).length := by
        rw [UInt16.toNat_ofNat', hdrop]
      simp only [consume_append hskip.symm, Option.bind_eq_bind, Option.bind_some, Option.pure_def]

/-- One turn of the loop takes one piece, whatever is behind it. -/
theorem readAttr_of_taken {a : Bytes} (h : Taken a) (rest : Bytes) :
    readAttr (a ++ rest) = some (iterationOf a, rest) := by
  have hlen := h.1
  have htype : readUInt16 (a ++ rest) = some (attrType a, (a ++ rest).drop 2) := by
    rw [readUInt16_of_le (by rw [List.length_append]; omega), getBE16_append_left (by omega)]
    rfl
  have hlength : readUInt16 ((a ++ rest).drop 2) = some (attrLength a, a.drop 4 ++ rest) := by
    rw [readUInt16_of_le (by rw [List.length_drop, List.length_append]; omega), getBE16_drop,
      getBE16_append_left (by omega), List.drop_drop, List.drop_append_of_le_length (by omega)]
    rfl
  simp only [readAttr, htype, hlength, readValue_of_taken h rest, Option.bind_eq_bind,
    Option.bind_some, Option.pure_def]
  rfl

/-- Where the loop has an iteration, there is a piece. -/
theorem next_of_readAttr {s rest : Bytes} {a : ReadAttr} (hs : s.length % 4 = 0)
    (h : readAttr s = some (a, rest)) : ∃ n, taken.next s = some n := by
  have hdrop : readAttr (s.drop 0) = some (a, rest) := h
  obtain ⟨htype, hlength, -, hle⟩ := readAttr_width hs rfl hdrop
  rw [htype, hlength, Nat.zero_add] at hle
  refine ⟨4 + readWidth (attrType s) (attrLength s), ?_⟩
  rw [taken, attrFraming, Framing.next_ofHeader]
  exact ⟨rfl, hle⟩

/-- The loop of `read` accepts exactly the concatenations of its pieces, and has one
iteration for each. -/
theorem readAttrs_taken {s : Bytes} (hs : s.length % 4 = 0) (pos : Nat) :
    (readAttrs pos s).map (List.map Prod.snd) =
      if (taken.split s).2 = [] then some ((taken.split s).1.map iterationOf) else none := by
  cases hnext : taken.next s with
  -- no piece in front: the loop ends here only if nothing is left
  | none =>
      rw [Framing.split_of_none hnext]
      cases s with
      | nil => rw [readAttrs_nil]; rfl
      | cons b s =>
          rw [if_neg (by simp), Option.map_eq_none_iff, Option.eq_none_iff_forall_ne_some]
          intro visits hvisits
          rcases readAttrs_eq_some hvisits with ⟨hnil, -⟩ | ⟨a, rest, visits', hread, -⟩
          · cases hnil
          · obtain ⟨n, hn⟩ := next_of_readAttr hs hread
            rw [hnext] at hn
            cases hn
  -- one piece is one turn, and what is left is a multiple of four again
  | some n =>
      have hpiece := isFrame_taken.mp (Framing.isFrame_take hnext)
      have hpos := taken.next_pos hnext
      have hle := taken.next_le hnext
      have hlength : (s.take n).length = n := by
        rw [List.length_take]
        omega
      have hmod : n % 4 = 0 := by
        have hwidth := readWidth_mod (attrType (s.take n)) (attrLength (s.take n))
        have := hpiece.2
        omega
      have hread := readAttr_of_taken hpiece (s.drop n)
      rw [List.take_append_drop] at hread
      have hrest := readAttrs_taken (s := s.drop n) (by rw [List.length_drop]; omega)
        (pos + (s.length - (s.drop n).length))
      rw [readAttrs_cons hread, Framing.split_of_some hnext, Option.map_map]
      by_cases hend : (taken.split (s.drop n)).2 = []
      · rw [if_pos hend] at hrest ⊢
        obtain ⟨visits, hvisits, hmap⟩ := Option.map_eq_some_iff.mp hrest
        rw [hvisits, Option.map_some, Function.comp_apply, List.map_cons, hmap, List.map_cons]
      · rw [if_neg hend] at hrest ⊢
        rw [Option.map_eq_none_iff.mp hrest, Option.map_none]
termination_by s.length
decreasing_by
  rw [List.length_drop]
  omega

/-- A byte string that `read` does not refuse before the attributes: at least a header, a
size that is a multiple of four, a type without the bit `0x0800`, and a length field that
counts the bytes behind the header. -/
structure HasHeader (data : Bytes) : Prop where
  header : kStunHeaderSize ≤ data.length
  aligned : data.length % 4 = 0
  type : getBE16 data 0 &&& 0x0800 = 0
  length : data.length = kStunHeaderSize + (getBE16 data 2).toNat

instance (data : Bytes) : Decidable (HasHeader data) :=
  decidable_of_iff (kStunHeaderSize ≤ data.length ∧ data.length % 4 = 0 ∧
      getBE16 data 0 &&& 0x0800 = 0 ∧ data.length = kStunHeaderSize + (getBE16 data 2).toNat)
    ⟨fun h => ⟨h.1, h.2.1, h.2.2.1, h.2.2.2⟩, fun h => ⟨h.header, h.aligned, h.type, h.length⟩⟩

/-- A datagram with the header of a message is read up to its attributes. -/
theorem readHeader_of_hasHeader {data : Bytes} (h : HasHeader data) :
    ∃ cookie transactionId, readHeader data
      = some (getBE16 data 0, getBE16 data 2, cookie, transactionId, data.drop kStunHeaderSize) :=
  ⟨_, _, by rw [readHeader_of_le h.header, if_neg (not_not_intro h.type)]⟩

/-- `read` accepts exactly the concatenations of its pieces, and keeps the values of those it
knows. The header only has to be there: the length field and the size agree. -/
theorem read_attrs {data : Bytes} (h : HasHeader data) :
    (StunMessage.read data).map (·.attrs) =
      if (taken.split (data.drop kStunHeaderSize)).2 = [] then
        some ((taken.split (data.drop kStunHeaderSize)).1.filterMap valueOf)
      else none := by
  obtain ⟨cookie, transactionId, hheader⟩ := readHeader_of_hasHeader h
  have hlength := h.length
  have haligned := h.aligned
  -- the header leaves the loop all bytes behind it
  have hvisits : readVisits data = readAttrs kStunHeaderSize (data.drop kStunHeaderSize) := by
    simp only [readVisits, hheader, Option.bind_eq_bind, Option.bind_some]
    rw [if_neg]
    rw [List.length_drop]
    omega
  have hloop := readAttrs_taken (s := data.drop kStunHeaderSize)
    (by rw [List.length_drop, kStunHeaderSize] at *; omega) kStunHeaderSize
  have hattrs : ∀ visits : List (Nat × ReadAttr), visits.filterMap (·.2.attr)
      = (visits.map Prod.snd).filterMap ReadAttr.attr := by
    intro visits
    rw [List.filterMap_map]
    rfl
  simp only [StunMessage.read, hheader, hvisits, Option.bind_eq_bind, Option.bind_some,
    Option.pure_def]
  by_cases hend : (taken.split (data.drop kStunHeaderSize)).2 = []
  · rw [if_pos hend] at hloop ⊢
    obtain ⟨visits, hread, hmap⟩ := Option.map_eq_some_iff.mp hloop
    rw [hread, Option.bind_some, Option.map_some, hattrs, hmap, List.filterMap_map]
    rfl
  · rw [if_neg hend] at hloop ⊢
    rw [Option.map_eq_none_iff.mp hloop]
    rfl

/-! ### The two grammars -/

/-- An attribute of the grammar that fits into a message is a piece of `read`, and not
misread. -/
theorem taken_of_isAttribute {a : Bytes} (h : IsAttribute a) (hsize : a.length < 2 ^ 16)
    (hpriority : attrType a = stunAttrPriority → attrLength a = 4) : Taken a ∧ ¬ Misread a := by
  obtain ⟨hlen, hlength⟩ := h
  have hle := le_padded (attrLength a).toNat
  have hwidth : readWidth (attrType a) (attrLength a) = padded (attrLength a).toNat := by
    cases htype : getAttributeValueType (attrType a) with
    | byteString => exact readWidth_byteString htype
    | uint32 =>
        rw [readWidth_uint32 htype, hpriority (getAttributeValueType_eq_uint32 htype)]
        rfl
    | unknown =>
        rw [readWidth_unknown htype]
        exact Nat.mod_eq_of_lt (by omega)
  refine ⟨⟨hlen, by rw [hwidth]; exact hlength⟩, ?_⟩
  rintro (⟨htype, hne⟩ | ⟨-, hlong⟩)
  · exact hne (hpriority htype)
  · omega

/-- A piece that is not misread is an attribute of the grammar. -/
theorem isAttribute_of_taken {a : Bytes} (h : Taken a) (hread : ¬ Misread a) :
    IsAttribute a ∧ (attrType a = stunAttrPriority → attrLength a = 4) := by
  obtain ⟨hlen, hlength⟩ := h
  have hpriority : attrType a = stunAttrPriority → attrLength a = 4 := by
    intro htype
    by_contra hne
    exact hread (Or.inl ⟨htype, hne⟩)
  refine ⟨⟨hlen, ?_⟩, hpriority⟩
  cases htype : getAttributeValueType (attrType a) with
  | byteString => rwa [readWidth_byteString htype] at hlength
  | uint32 =>
      rw [readWidth_uint32 htype] at hlength
      rw [hpriority (getAttributeValueType_eq_uint32 htype), hlength]
      rfl
  | unknown =>
      have hshort : (attrLength a).toNat < 65533 := by
        by_contra hlong
        exact hread (Or.inr ⟨htype, by omega⟩)
      rw [readWidth_unknown htype, padded_eq] at hlength
      rw [padded_eq]
      split_ifs at hlength ⊢ <;> omega

/-- A sequence of attributes that fits into a message is what `read` splits it into. -/
theorem split_of_isSequence {bytes : Bytes} {attrs : List Bytes} (hsize : bytes.length < 2 ^ 16)
    (h : IsSequence bytes attrs) :
    taken.split bytes = (attrs, []) ∧ ∀ a ∈ attrs, ¬ Misread a := by
  obtain ⟨rfl, hattrs⟩ := h
  have hpieces : ∀ a ∈ attrs, Taken a ∧ ¬ Misread a := by
    intro a ha
    obtain ⟨hattr, hpriority⟩ := hattrs a ha
    exact taken_of_isAttribute hattr ((List.sublist_flatten_of_mem ha).length_le.trans_lt hsize)
      hpriority
  exact ⟨taken.split_flatten_nil fun a ha => isFrame_taken.mpr (hpieces a ha).1,
    fun a ha => (hpieces a ha).2⟩

/-- What `read` splits a message into is a sequence of attributes if nothing is misread. -/
theorem isSequence_of_split {bytes : Bytes} (hend : (taken.split bytes).2 = [])
    (hread : ∀ a ∈ (taken.split bytes).1, ¬ Misread a) :
    IsSequence bytes (taken.split bytes).1 := by
  obtain ⟨hframes, hflatten, -⟩ := taken.split_spec bytes
  rw [hend, List.append_nil] at hflatten
  exact ⟨hflatten.symm, fun a ha =>
    isAttribute_of_taken (isFrame_taken.mp (hframes a ha)) (hread a ha)⟩

/-- Whether a piece is misread can be told from the split of the bytes. -/
theorem hasMisread_iff (bytes : Bytes) :
    HasMisread bytes ↔
      (taken.split bytes).2 = [] ∧ ∃ a ∈ (taken.split bytes).1, Misread a := by
  constructor
  · rintro ⟨pieces, rfl, hpieces, hmisread⟩
    rw [taken.split_flatten_nil fun a ha => isFrame_taken.mpr (hpieces a ha)]
    exact ⟨rfl, hmisread⟩
  · rintro ⟨hend, hmisread⟩
    obtain ⟨hframes, hflatten, -⟩ := taken.split_spec bytes
    rw [hend, List.append_nil] at hflatten
    exact ⟨_, hflatten.symm, fun a ha => isFrame_taken.mp (hframes a ha), hmisread⟩

/-- What is decoded from the attributes of a sequence: one value for each attribute of a known
type, with its type, its length and its bytes. By induction on the sequence. -/
theorem decodedFrom_valueOf {attrs : List Bytes}
    (h : ∀ a ∈ attrs, IsAttribute a ∧ (attrType a = stunAttrPriority → attrLength a = 4)) :
    List.Forall₂ DecodedFrom (attrs.filterMap valueOf) (attrs.filter isKnown) := by
  induction attrs with
  | nil => exact .nil
  | cons a attrs ih =>
      have hrest := ih fun b hb => h b (List.mem_cons_of_mem a hb)
      obtain ⟨⟨hlen, hlength⟩, hpriority⟩ := h a List.mem_cons_self
      have hle := le_padded (attrLength a).toNat
      -- a known attribute is a priority or a string, and any other is skipped on both sides
      by_cases hknown : isKnown a = true
      · have hdecodes : ∃ d, valueOf a = some d ∧ DecodedFrom d a := by
          by_cases htype : attrType a = stunAttrPriority
          · refine ⟨⟨attrType a, .uint32 (getBE32 a 4)⟩, ?_, rfl, (hpriority htype).symm, ?_⟩
            · rw [valueOf, htype]
              rfl
            · rw [if_pos htype]
          · have hstring : getAttributeValueType (attrType a) = .byteString := by
              simp only [isKnown, Bool.or_eq_true, beq_iff_eq, htype, or_false] at hknown
              rcases hknown with hname | hmi
              · rw [hname]
                rfl
              · rw [hmi]
                rfl
            have hvalue : (slice a 4 (attrLength a).toNat).length = (attrLength a).toNat := by
              rw [slice, List.length_take, List.length_drop]
              omega
            refine ⟨⟨attrType a, .byteString (slice a 4 (attrLength a).toNat)⟩, ?_, rfl, ?_, ?_⟩
            · rw [valueOf, hstring]
            · show UInt16.ofNat (slice a 4 (attrLength a).toNat).length = _
              rw [hvalue, UInt16.ofNat_toNat]
            · rw [if_neg htype]
        obtain ⟨d, hd, hdecodes⟩ := hdecodes
        rw [List.filterMap_cons_some hd, List.filter_cons_of_pos hknown]
        exact .cons hdecodes hrest
      · have hnone : valueOf a = none := by
          simp only [isKnown, Bool.or_eq_true, beq_iff_eq, not_or] at hknown
          obtain ⟨⟨hname, hmi⟩, hpriority⟩ := hknown
          simp [valueOf, getAttributeValueType, hname, hmi, hpriority]
        rw [List.filterMap_cons_none hnone, List.filter_cons_of_neg hknown]
        exact hrest

/-- For every byte string with a header: `read` accepts exactly the sequences of attributes,
and decodes those of a known type, if and only if the bytes behind the header are not pieces
of `read` of which one is misread. -/
theorem readsGrammar_iff {data : Bytes} (h : HasHeader data) :
    ReadsGrammar data ↔ ¬ HasMisread (data.drop kStunHeaderSize) := by
  have hread := read_attrs h
  have hsize : (data.drop kStunHeaderSize).length < 2 ^ 16 := by
    have hlength := h.length
    have hfield : (getBE16 data 2).toNat < 65536 := (getBE16 data 2).toNat_lt
    rw [List.length_drop]
    omega
  rw [hasMisread_iff]
  constructor
  · rintro ⟨haccepts, -⟩ ⟨hend, a, ha, hmisread⟩
    rw [if_pos hend] at hread
    obtain ⟨m, hm, -⟩ := Option.map_eq_some_iff.mp hread
    obtain ⟨attrs, hattrs⟩ := haccepts.mp (by rw [hm]; rfl)
    -- the sequence is what `read` splits, and nothing in it is misread
    obtain ⟨hsplit, hright⟩ := split_of_isSequence hsize hattrs
    rw [hsplit] at ha
    exact hright a ha hmisread
  · intro hnot
    refine ⟨⟨fun haccepts => ?_, ?_⟩, ?_⟩
    · obtain ⟨m, hm⟩ := Option.isSome_iff_exists.mp haccepts
      rw [hm, Option.map_some] at hread
      by_cases hend : (taken.split (data.drop kStunHeaderSize)).2 = []
      · exact ⟨_, isSequence_of_split hend fun a ha hmisread => hnot ⟨hend, a, ha, hmisread⟩⟩
      · rw [if_neg hend] at hread
        cases hread
    · rintro ⟨attrs, hattrs⟩
      rw [(split_of_isSequence hsize hattrs).1, if_pos rfl] at hread
      obtain ⟨m, hm, -⟩ := Option.map_eq_some_iff.mp hread
      rw [hm]
      rfl
    · intro m attrs hm hattrs
      rw [hm, Option.map_some, (split_of_isSequence hsize hattrs).1, if_pos rfl,
        Option.some.injEq] at hread
      rw [hread]
      exact decodedFrom_valueOf hattrs.2

/-- A priority with the length the grammar wants. -/
theorem fourBytePriority_readsGrammar :
    HasHeader fourBytePriority ∧ ¬ HasMisread (fourBytePriority.drop kStunHeaderSize) ∧
      ReadsGrammar fourBytePriority := by
  have hheader : HasHeader fourBytePriority := by decide +kernel
  have hnot : ¬ HasMisread (fourBytePriority.drop kStunHeaderSize) := by
    rw [hasMisread_iff]
    decide +kernel
  exact ⟨hheader, hnot, (readsGrammar_iff hheader).mpr hnot⟩

/-- A priority that declares no bytes is read as one of four bytes. -/
theorem emptyPriority_not_readsGrammar :
    HasHeader emptyPriority ∧ ¬ ReadsGrammar emptyPriority := by
  have hheader : HasHeader emptyPriority := by decide +kernel
  refine ⟨hheader, fun hreads => ?_⟩
  have haccepted : (StunMessage.read emptyPriority).isSome = true := by decide +kernel
  obtain ⟨attrs, hattrs⟩ := hreads.1.mp haccepted
  obtain ⟨hsplit, hright⟩ := split_of_isSequence (by decide +kernel) hattrs
  have hmisread : ∃ a ∈ (taken.split (emptyPriority.drop kStunHeaderSize)).1, Misread a := by
    decide +kernel
  obtain ⟨a, ha, hwrong⟩ := hmisread
  rw [hsplit] at ha
  exact hright a ha hwrong

end Xrtc.Proofs.Ice
