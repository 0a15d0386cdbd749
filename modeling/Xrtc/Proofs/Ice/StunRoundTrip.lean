import Mathlib.Algebra.Order.BigOperators.Group.List
import Xrtc.Proofs.Ice.StunWalk

/-!
# `Xrtc.Proofs.Ice.StunRoundTrip`: a signed message is read back

A message that the server builds and signs is accepted by its own checks.
`encodeAttr` is an attribute on the wire and `encodeAttrs` a list of them, and the
lemmas say what each of the three walks does in front of such bytes: `writeAttrs`
produces them, `readAttrs` decodes them one by one, and `scanAttrs` steps over
them until the integrity attribute.

The length field is written three times, with the size of the message up to the
attributes, up to the integrity attribute and up to the fingerprint. `hmacInput`
puts the second value back (`hmacInput_signed`), and so the digest that was stored
is the digest that is checked.
-/

set_option autoImplicit false

namespace Xrtc.Proofs.Ice

open Xrtc.Lib
open Xrtc.Ice
open Xrtc.Ice.StunMessage

/-! ### Attributes on the wire -/

/-- The size of a value before padding. -/
def valueSize (a : StunAttribute) : Nat :=
  match a.value with
  | .byteString bytes => bytes.length
  | .uint32 _ => 4
  | .uint64 _ => 8
  | .xorAddress _ => 8
  | .errorCode _ _ reason => 4 + reason.length

/-- The bytes of an attribute's value before padding. -/
def valueBytes (a : StunAttribute) : Bytes :=
  match a.value with
  | .byteString bytes => bytes
  | .uint32 bits => writeUInt32 bits
  | .uint64 bits => writeUInt64 bits
  | .xorAddress address =>
      match address.ip with
      | .v4 addr =>
          [0, 1] ++ writeUInt16 (address.port ^^^ 0x2112) ++ writeUInt32 (addr ^^^ kStunMagicCookie)
      | _ => []
  | .errorCode cls number reason =>
      writeUInt32 (cls.toUInt32 <<< 8 ||| number.toUInt32) ++ reason

/-- The padded size of an attribute, header included. -/
def wireSize (a : StunAttribute) : Nat := kStunAttributeHeaderSize + padded (valueSize a)

/-- An attribute whose value the code can write: an address is an IPv4 address. -/
def Writable (a : StunAttribute) : Prop :=
  match a.value with
  | .xorAddress address => ∃ addr, address.ip = .v4 addr
  | _ => True

/-- An attribute on the wire. -/
def encodeAttr (a : StunAttribute) : Bytes :=
  writeUInt16 a.type ++
    (writeUInt16 a.length ++ (valueBytes a ++ paddingBytes (valueSize a)))

/-- A list of attributes on the wire. -/
def encodeAttrs (attrs : List StunAttribute) : Bytes := (attrs.map encodeAttr).flatten

/-- A value and its padding together have the padded length. -/
theorem length_paddingBytes (n : Nat) : n + (paddingBytes n).length = padded n := by
  simp only [paddingBytes, padded]
  split
  · rw [List.length_replicate, if_pos (by omega)]
  · rw [List.length_nil, if_neg (by omega), Nat.add_zero]

/-- What is written of a value has the length that is declared for it, for every class of
attributes that can be written. -/
theorem length_valueBytes {a : StunAttribute} (h : Writable a) :
    (valueBytes a).length = valueSize a := by
  obtain ⟨type, value⟩ := a
  cases value with
  | byteString bytes => rfl
  | uint32 bits => exact writeUInt32_length bits
  | uint64 bits => exact writeUInt64_length bits
  | xorAddress address =>
      obtain ⟨addr, haddr⟩ := h
      simp [valueBytes, valueSize, haddr]
  | errorCode cls number reason => simp [valueBytes, valueSize]

/-- The 16 bits of the length field are enough for a value below `2 ^ 16`. -/
theorem toNat_length {a : StunAttribute} (h : Writable a) (hsize : valueSize a < 2 ^ 16) :
    a.length.toNat = valueSize a := by
  obtain ⟨type, value⟩ := a
  cases value with
  | byteString bytes => exact UInt16.toNat_ofNat_of_lt' hsize
  | uint32 bits => rfl
  | uint64 bits => rfl
  | xorAddress address =>
      obtain ⟨addr, haddr⟩ := h
      simp [StunAttribute.length, valueSize, haddr]
  | errorCode cls number reason => exact UInt16.toNat_ofNat_of_lt' hsize

/-- What `write` puts after the two header fields. -/
theorem write_attribute {a : StunAttribute} (h : Writable a) (hsize : valueSize a < 2 ^ 16) :
    a.write = some (valueBytes a ++ paddingBytes (valueSize a)) := by
  have hlen := toNat_length h hsize
  obtain ⟨type, value⟩ := a
  cases value with
  | byteString bytes =>
      simp only [StunAttribute.write, hlen, valueBytes, valueSize, List.take_length]
  | uint32 bits => simp [StunAttribute.write, valueBytes, valueSize, paddingBytes]
  | uint64 bits => simp [StunAttribute.write, valueBytes, valueSize, paddingBytes]
  | xorAddress address =>
      obtain ⟨addr, haddr⟩ := h
      simp [StunAttribute.write, valueBytes, valueSize, paddingBytes, haddr]
  | errorCode cls number reason => simp only [StunAttribute.write, hlen, valueBytes]

/-- An attribute takes its four bytes of header and its padded value. -/
theorem length_encodeAttr {a : StunAttribute} (h : Writable a) :
    (encodeAttr a).length = wireSize a := by
  have hpad := length_paddingBytes (valueSize a)
  simp only [encodeAttr, wireSize, kStunAttributeHeaderSize, List.length_append,
    writeUInt16_length, length_valueBytes h]
  omega

/-- The first attribute comes first. -/
theorem encodeAttrs_cons (a : StunAttribute) (attrs : List StunAttribute) :
    encodeAttrs (a :: attrs) = encodeAttr a ++ encodeAttrs attrs := by
  simp [encodeAttrs]

/-- The bytes of attributes that follow each other lie one behind the other. -/
theorem encodeAttrs_append (attrs attrs' : List StunAttribute) :
    encodeAttrs (attrs ++ attrs') = encodeAttrs attrs ++ encodeAttrs attrs' := by
  simp [encodeAttrs]

/-- The bytes of all attributes are as many as they take together. -/
theorem length_encodeAttrs {attrs : List StunAttribute} (h : ∀ a ∈ attrs, Writable a) :
    (encodeAttrs attrs).length = (attrs.map wireSize).sum := by
  induction attrs with
  | nil => rfl
  | cons a attrs ih =>
      rw [encodeAttrs_cons, List.length_append, length_encodeAttr (h a List.mem_cons_self),
        ih fun b hb => h b (List.mem_cons_of_mem a hb), List.map_cons, List.sum_cons]

/-- The loop of `write` writes these bytes, as long as every value is below `2 ^ 16` bytes. That
is where a length field would wrap around. -/
theorem writeAttrs_eq {attrs : List StunAttribute}
    (h : ∀ a ∈ attrs, Writable a ∧ valueSize a < 2 ^ 16) :
    writeAttrs attrs = some (encodeAttrs attrs) := by
  induction attrs with
  | nil => rfl
  | cons a attrs ih =>
      obtain ⟨hwrite, hsize⟩ := h a List.mem_cons_self
      have hrest := ih fun b hb => h b (List.mem_cons_of_mem a hb)
      simp only [writeAttrs, write_attribute hwrite hsize, hrest, encodeAttrs_cons, encodeAttr,
        Option.bind_eq_bind, Option.bind_some, Option.pure_def, List.append_assoc]

/-! ### Reading the attributes back -/

/-- The attribute that `read` makes of an attribute on the wire. -/
def decoded (a : StunAttribute) : Option StunAttribute :=
  match getAttributeValueType a.type with
  | .byteString => some ⟨a.type, .byteString (valueBytes a)⟩
  | .uint32 => some a
  | .unknown => none

/-- An attribute that may stand before the integrity attribute: it is none itself,
the code can write it, and a priority is an integer. -/
structure Plain (a : StunAttribute) : Prop where
  writable : Writable a
  type_ne_messageIntegrity : a.type ≠ stunAttrMessageIntegrity
  priority : a.type = stunAttrPriority → ∃ bits, a.value = .uint32 bits

/-- A padded size below `2 ^ 16` survives the 16-bit arithmetic of `read`. -/
theorem toNat_padded {n : Nat} (h : padded n < 2 ^ 16) : (UInt16.ofNat (padded n)).toNat = padded n :=
  UInt16.toNat_ofNat_of_lt' h

/-- `read` takes the padding away again, whatever comes behind it. -/
theorem consume_paddingBytes (n : Nat) (rest : Bytes) :
    (if 0 < n % 4 then (consume (4 - n % 4) (paddingBytes n ++ rest)).getD (paddingBytes n ++ rest)
      else paddingBytes n ++ rest) = rest := by
  by_cases hn : 0 < n % 4
  · rw [if_pos hn, paddingBytes, if_pos hn, consume_append List.length_replicate, Option.getD_some]
  · rw [if_neg hn, paddingBytes, if_neg hn, List.nil_append]

/-- An attribute in front of other bytes is read as a whole and decoded. -/
theorem readAttr_encodeAttr {a : StunAttribute} (hwrite : Writable a)
    (hpriority : a.type = stunAttrPriority → ∃ bits, a.value = .uint32 bits)
    (hsize : padded (valueSize a) < 2 ^ 16) (rest : Bytes) :
    readAttr (encodeAttr a ++ rest) = some (⟨a.type, a.length, decoded a⟩, rest) := by
  have hlt : valueSize a < 2 ^ 16 := lt_of_le_of_lt (le_padded _) hsize
  have hlen := toNat_length hwrite hlt
  have hvalue : readValue a.type a.length (valueBytes a ++ (paddingBytes (valueSize a) ++ rest))
      = some (decoded a, rest) := by
    rw [readValue, decoded]
    -- by the type that the reader takes the value for
    cases htype : getAttributeValueType a.type with
    | byteString =>
        simp only [hlen, readBytes_append (length_valueBytes hwrite), Option.bind_eq_bind,
          Option.bind_some, Option.pure_def, consume_paddingBytes]
    | uint32 =>
        obtain ⟨bits, hbits⟩ := hpriority (getAttributeValueType_eq_uint32 htype)
        obtain ⟨type, value⟩ := a
        simp only at hbits
        subst hbits
        have hnopad : paddingBytes (valueSize ⟨type, .uint32 bits⟩) = [] := by
          simp [paddingBytes, valueSize]
        simp only [hnopad, List.nil_append, valueBytes, readUInt32_writeUInt32,
          Option.bind_eq_bind, Option.bind_some, Option.pure_def]
    | unknown =>
        have hpad : (valueBytes a ++ paddingBytes (valueSize a)).length = padded (valueSize a) := by
          rw [List.length_append, length_valueBytes hwrite, length_paddingBytes]
        simp only [hlen, toNat_padded hsize, ← List.append_assoc, consume_append hpad,
          Option.bind_eq_bind, Option.bind_some, Option.pure_def]
  simp only [readAttr, encodeAttr, List.append_assoc, readUInt16_writeUInt16, hvalue,
    Option.bind_eq_bind, Option.bind_some, Option.pure_def]

/-- The iterations of the attribute loop over a list of attributes at an offset. -/
def visitsOf (pos : Nat) : List StunAttribute → List (Nat × ReadAttr)
  | [] => []
  | a :: attrs => (pos, ⟨a.type, a.length, decoded a⟩) :: visitsOf (pos + wireSize a) attrs

/-- The attributes that `read` keeps are those of a known type, in their order. -/
theorem filterMap_visitsOf (pos : Nat) (attrs : List StunAttribute) :
    (visitsOf pos attrs).filterMap (·.2.attr) = attrs.filterMap decoded := by
  induction attrs generalizing pos with
  | nil => rfl
  | cons a attrs ih => simp only [visitsOf, List.filterMap_cons, ih]

/-- The attribute loop reads a list of attributes one by one. -/
theorem readAttrs_encodeAttrs {attrs : List StunAttribute} (hwrite : ∀ a ∈ attrs, Writable a)
    (hpriority : ∀ a ∈ attrs, a.type = stunAttrPriority → ∃ bits, a.value = .uint32 bits)
    (hsize : ∀ a ∈ attrs, padded (valueSize a) < 2 ^ 16) (pos : Nat) :
    readAttrs pos (encodeAttrs attrs) = some (visitsOf pos attrs) := by
  induction attrs generalizing pos with
  | nil => exact readAttrs_nil pos
  | cons a attrs ih =>
      have hlen := length_encodeAttr (hwrite a List.mem_cons_self)
      have hread := readAttr_encodeAttr (hwrite a List.mem_cons_self)
        (hpriority a List.mem_cons_self) (hsize a List.mem_cons_self) (encodeAttrs attrs)
      have hpos : (encodeAttr a ++ encodeAttrs attrs).length - (encodeAttrs attrs).length
          = wireSize a := by
        rw [List.length_append, hlen, Nat.add_sub_cancel]
      rw [encodeAttrs_cons, readAttrs_cons hread, hpos,
        ih (fun b hb => hwrite b (List.mem_cons_of_mem a hb))
          (fun b hb => hpriority b (List.mem_cons_of_mem a hb))
          (fun b hb => hsize b (List.mem_cons_of_mem a hb))]
      rfl

/-! ### The scan for the integrity attribute -/

/-- The scan steps over attributes of other types, each as long as its length and padding say, and
goes on behind them. By induction on the attributes. -/
theorem scanAttrs_encodeAttrs {miAttrType : UInt16} {attrs : List StunAttribute}
    (hwrite : ∀ a ∈ attrs, Writable a) (hsize : ∀ a ∈ attrs, valueSize a < 2 ^ 16)
    (htype : ∀ a ∈ attrs, a.type ≠ miAttrType) (front rest : Bytes) :
    (scanAttrs miAttrType (front ++ (encodeAttrs attrs ++ rest)) front.length).2 =
      (scanAttrs miAttrType (front ++ (encodeAttrs attrs ++ rest))
        (front.length + (encodeAttrs attrs).length)).2 := by
  -- on the attributes, with all that is in front of them
  induction attrs generalizing front with
  | nil => rfl
  | cons a attrs ih =>
      have hlen := length_encodeAttr (hwrite a List.mem_cons_self)
      have htoNat := toNat_length (hwrite a List.mem_cons_self) (hsize a List.mem_cons_self)
      have hne := htype a List.mem_cons_self
      -- the scan reads the type and the length of the attribute, and steps over it
      have htypeAt : getBE16 (front ++ (encodeAttr a ++ (encodeAttrs attrs ++ rest))) front.length
          = a.type := by
        have h := getBE16_append_right rfl (encodeAttr a ++ (encodeAttrs attrs ++ rest)) 0
          (a := front)
        rw [Nat.add_zero] at h
        rw [h, encodeAttr, List.append_assoc, getBE16_writeUInt16]
      have hlenAt : getBE16 (front ++ (encodeAttr a ++ (encodeAttrs attrs ++ rest)))
          (front.length + 2) = a.length := by
        rw [getBE16_append_right rfl, encodeAttr, List.append_assoc, List.append_assoc]
        have h := getBE16_append_right (writeUInt16_length a.type)
          (writeUInt16 a.length ++ (valueBytes a ++ paddingBytes (valueSize a) ++
            (encodeAttrs attrs ++ rest))) 0
        rw [Nat.add_zero] at h
        rw [h, getBE16_writeUInt16]
      have hin : front.length + kStunAttributeHeaderSize
          ≤ (front ++ (encodeAttr a ++ (encodeAttrs attrs ++ rest))).length := by
        rw [List.length_append, List.length_append, hlen, wireSize]
        omega
      have hstep := ih (fun b hb => hwrite b (List.mem_cons_of_mem a hb))
        (fun b hb => hsize b (List.mem_cons_of_mem a hb))
        (fun b hb => htype b (List.mem_cons_of_mem a hb)) (front ++ encodeAttr a)
      rw [List.append_assoc, List.length_append, hlen] at hstep
      rw [encodeAttrs_cons, List.append_assoc, scanAttrs_step hin (by rwa [htypeAt]), hlenAt, htoNat]
      show (scanAttrs miAttrType _ (front.length + wireSize a)).2 = _
      rw [hstep, List.length_append, hlen, Nat.add_assoc]

/-- The scan stops at an attribute of the type it looks for. -/
theorem scanAttrs_encodeAttr (mi : StunAttribute) (front rest : Bytes) :
    (scanAttrs mi.type (front ++ (encodeAttr mi ++ rest)) front.length).2 = some front.length := by
  have htypeAt : getBE16 (front ++ (encodeAttr mi ++ rest)) front.length = mi.type := by
    have h := getBE16_append_right rfl (encodeAttr mi ++ rest) 0 (a := front)
    rw [Nat.add_zero] at h
    rw [h, encodeAttr, List.append_assoc, getBE16_writeUInt16]
  have hin : front.length + kStunAttributeHeaderSize
      ≤ (front ++ (encodeAttr mi ++ rest)).length := by
    simp only [encodeAttr, kStunAttributeHeaderSize, List.length_append, writeUInt16_length]
    omega
  rw [scanAttrs_found hin htypeAt]

/-! ### Building and signing a message -/

/-- What a message is built from: a type, a transaction id and the attributes that
are added before it is signed. The two attributes of a signature take 32 bytes. -/
structure PlainMessage where
  type : UInt16
  transactionId : Bytes
  attrs : List StunAttribute
  type_and : type &&& 0x0800 = 0
  length_transactionId : transactionId.length = kStunTransactionIdLength
  plain : ∀ a ∈ attrs, Plain a
  size : (attrs.map wireSize).sum + 32 < 65536

instance : Inhabited PlainMessage :=
  ⟨{ type := stunBindingRequest
     transactionId := emptyTransactionId
     attrs := []
     type_and := by decide
     length_transactionId := rfl
     plain := fun _ h => nomatch h
     size := by decide }⟩

/-- The message of the parts, attribute by attribute. -/
def PlainMessage.message (p : PlainMessage) : StunMessage :=
  p.attrs.foldl addAttribute { type := p.type, transactionId := p.transactionId }

/-- An attribute takes no more than the list it is in. -/
theorem wireSize_le_sum {attrs : List StunAttribute} {a : StunAttribute} (h : a ∈ attrs) :
    wireSize a ≤ (attrs.map wireSize).sum :=
  List.single_le_sum (fun _ _ => Nat.zero_le _) _ (List.mem_map_of_mem h)

/-- Attributes that are added one by one end up in their order, and the length field is the sum of
what they take, modulo `2 ^ 16`. -/
theorem foldl_addAttribute {attrs : List StunAttribute}
    (h : ∀ a ∈ attrs, Writable a ∧ valueSize a < 2 ^ 16) (m : StunMessage) :
    attrs.foldl addAttribute m =
      { m with
          length := m.length + UInt16.ofNat (attrs.map wireSize).sum
          attrs := m.attrs ++ attrs } := by
  induction attrs generalizing m with
  | nil => simp
  | cons a attrs ih =>
      obtain ⟨hwrite, hsize⟩ := h a List.mem_cons_self
      rw [List.foldl_cons, ih fun b hb => h b (List.mem_cons_of_mem a hb)]
      simp only [addAttribute, toNat_length hwrite hsize, List.append_assoc,
        List.singleton_append, List.map_cons, List.sum_cons, UInt16.ofNat_add, wireSize,
        kStunAttributeHeaderSize]
      congr 1
      ac_rfl

/-! ### The two signing steps -/

/-- What `write` returns after one more attribute: the header with the new length,
the attributes so far, and the new one. -/
theorem write_addAttribute {m : StunMessage} {a : StunAttribute}
    (h : ∀ b ∈ m.attrs, Writable b ∧ valueSize b < 2 ^ 16) (hwrite : Writable a)
    (hsize : valueSize a < 2 ^ 16) :
    (m.addAttribute a).write =
      some (((m.addAttribute a).writeHeader ++ encodeAttrs m.attrs) ++ encodeAttr a) := by
  have hattrs : writeAttrs (m.attrs ++ [a]) = some (encodeAttrs (m.attrs ++ [a])) := by
    refine writeAttrs_eq fun b hb => ?_
    rcases List.mem_append.mp hb with hb | hb
    · exact h b hb
    · rw [List.mem_singleton.mp hb]
      exact ⟨hwrite, hsize⟩
  have hone : encodeAttrs [a] = encodeAttr a := by simp [encodeAttrs]
  show (writeAttrs (m.attrs ++ [a])).map _ = _
  rw [hattrs, Option.map_some, encodeAttrs_append, hone, List.append_assoc]

/-- Cutting the last attribute off by its own size leaves what stands before it. -/
theorem take_encodeAttr {a : StunAttribute} (hwrite : Writable a) (hsize : valueSize a < 2 ^ 16)
    (hpad : padded (valueSize a) = valueSize a) (front : Bytes) :
    (front ++ encodeAttr a).take
      ((front ++ encodeAttr a).length - kStunAttributeHeaderSize - a.length.toNat) = front := by
  have hlen := length_encodeAttr hwrite
  rw [wireSize, hpad, kStunAttributeHeaderSize] at hlen
  rw [List.length_append, hlen, toNat_length hwrite hsize, kStunAttributeHeaderSize]
  exact List.take_left' (by omega)

/-- The integrity attribute before the digest is copied into it. -/
def unsignedAttr : StunAttribute :=
  ⟨stunAttrMessageIntegrity, .byteString (List.replicate kStunMessageIntegritySize 0x30)⟩

/-- The fingerprint before the checksum is set. -/
def uncheckedAttr : StunAttribute := ⟨stunAttrFingerprint, .uint32 0⟩

/-- `add_message_integrity` in one step: the attribute is added with twenty digits zero, the
message with it is written, and the digest of what stands before the attribute takes their place.
-/
theorem addMessageIntegrity_eq (digest : MessageDigest) {m : StunMessage}
    (h : ∀ b ∈ m.attrs, Writable b ∧ valueSize b < 2 ^ 16) (password : Bytes) :
    m.addMessageIntegrity digest password =
      (true,
        { m.addAttribute unsignedAttr with
            attrs := m.attrs ++ [⟨stunAttrMessageIntegrity, .byteString (digest.hmacSha1 password
              ((m.addAttribute unsignedAttr).writeHeader ++ encodeAttrs m.attrs))⟩]
            password := password
            integrity := .integrityOk }) := by
  have hwritable : Writable unsignedAttr := trivial
  have hsize : valueSize unsignedAttr < 2 ^ 16 := by decide
  have hwrite := write_addAttribute h hwritable hsize
  have htake := take_encodeAttr hwritable hsize (by decide)
    ((m.addAttribute unsignedAttr).writeHeader ++ encodeAttrs m.attrs)
  have hlen := digest.hmacSha1_length password
    ((m.addAttribute unsignedAttr).writeHeader ++ encodeAttrs m.attrs)
  rw [unsignedAttr] at hwrite htake hlen
  rw [addMessageIntegrity, addMessageIntegrityOfType, unsignedAttr]
  simp only [hwrite, htake, hlen, ne_eq, not_true_eq_false, if_false]

/-- `add_fingerprint` in one step, in the same way: the checksum of the bytes before the attribute
is the one with the attribute counted in the length field. -/
theorem addFingerprint_eq (digest : MessageDigest) {m : StunMessage}
    (h : ∀ b ∈ m.attrs, Writable b ∧ valueSize b < 2 ^ 16) :
    m.addFingerprint digest =
      (true,
        { m.addAttribute uncheckedAttr with
            attrs := m.attrs ++ [⟨stunAttrFingerprint, .uint32 (digest.crc32
              ((m.addAttribute uncheckedAttr).writeHeader ++ encodeAttrs m.attrs)
                ^^^ stunFingerprintXorValue)⟩] }) := by
  have hwritable : Writable uncheckedAttr := trivial
  have hsize : valueSize uncheckedAttr < 2 ^ 16 := by decide
  have hwrite := write_addAttribute h hwritable hsize
  have htake := take_encodeAttr hwritable hsize (by decide)
    ((m.addAttribute uncheckedAttr).writeHeader ++ encodeAttrs m.attrs)
  rw [uncheckedAttr] at hwrite htake
  rw [addFingerprint, uncheckedAttr]
  simp only [hwrite, htake]

namespace PlainMessage

variable (digest : MessageDigest) (p : PlainMessage) (password : Bytes)

/-- The size of the attributes on the wire. -/
def attrsSize : Nat := (p.attrs.map wireSize).sum

/-- The header with a given length field. -/
def headerBytes (length : Nat) : Bytes :=
  writeUInt16 p.type ++
    (writeUInt16 (UInt16.ofNat length) ++ (writeUInt32 kStunMagicCookie ++ p.transactionId))

/-- The bytes that are signed. -/
def signedBytes : Bytes := p.headerBytes (p.attrsSize + 24) ++ encodeAttrs p.attrs

/-- The integrity attribute. -/
def miAttr : StunAttribute :=
  ⟨stunAttrMessageIntegrity, .byteString (digest.hmacSha1 password p.signedBytes)⟩

/-- The bytes of the checksum. -/
def checkedBytes : Bytes :=
  p.headerBytes (p.attrsSize + 32) ++ encodeAttrs (p.attrs ++ [p.miAttr digest password])

/-- The fingerprint. -/
def fingerprintAttr : StunAttribute :=
  ⟨stunAttrFingerprint,
    .uint32 (digest.crc32 (p.checkedBytes digest password) ^^^ stunFingerprintXorValue)⟩

/-- All attributes of the signed message. -/
def signedAttrs : List StunAttribute :=
  p.attrs ++ [p.miAttr digest password, p.fingerprintAttr digest password]

/-- The signed message on the wire. -/
def wire : Bytes := p.headerBytes (p.attrsSize + 32) ++ encodeAttrs (p.signedAttrs digest password)

/-- Every value of the message is short enough for a length field, because the whole message is.
-/
theorem valueSize_lt {a : StunAttribute} (ha : a ∈ p.attrs) : padded (valueSize a) < 2 ^ 16 := by
  have hle := wireSize_le_sum ha
  have hsize := p.size
  rw [wireSize] at hle
  omega

/-- So every attribute of the message can be written. -/
theorem writable {a : StunAttribute} (ha : a ∈ p.attrs) :
    Writable a ∧ valueSize a < 2 ^ 16 :=
  ⟨(p.plain a ha).writable, lt_of_le_of_lt (le_padded _) (p.valueSize_lt ha)⟩

/-- A digest has twenty bytes. -/
theorem valueSize_miAttr : valueSize (p.miAttr digest password) = 20 :=
  digest.hmacSha1_length password p.signedBytes

/-- The conditions of the walks hold for the signature as well. -/
theorem signedAttrs_walk {a : StunAttribute} (ha : a ∈ p.signedAttrs digest password) :
    Writable a ∧ (a.type = stunAttrPriority → ∃ bits, a.value = .uint32 bits) ∧
      padded (valueSize a) < 2 ^ 16 := by
  simp only [signedAttrs, List.mem_append, List.mem_cons, List.not_mem_nil, or_false] at ha
  rcases ha with ha | rfl | rfl
  · exact ⟨(p.plain a ha).writable, (p.plain a ha).priority, p.valueSize_lt ha⟩
  · have hne : stunAttrMessageIntegrity ≠ stunAttrPriority := by decide
    rw [valueSize_miAttr]
    exact ⟨trivial, fun h => absurd h hne, by decide⟩
  · have hfour : padded 4 < 2 ^ 16 := by decide
    exact ⟨trivial, fun _ => ⟨_, rfl⟩, hfour⟩

/-- The header has twenty bytes, whatever its length field says. -/
theorem length_headerBytes (length : Nat) : (p.headerBytes length).length = 20 := by
  have htid := p.length_transactionId
  rw [kStunTransactionIdLength] at htid
  simp only [headerBytes, List.length_append, writeUInt16_length, writeUInt32_length, htid]

/-- The attributes of the message take as many bytes as their sizes say. -/
theorem length_encodeAttrs_attrs : (encodeAttrs p.attrs).length = p.attrsSize :=
  length_encodeAttrs fun a ha => (p.plain a ha).writable

/-- The integrity attribute takes 24 bytes. -/
theorem length_encodeAttr_miAttr : (encodeAttr (p.miAttr digest password)).length = 24 := by
  have h : Writable (p.miAttr digest password) := trivial
  rw [length_encodeAttr h, wireSize, valueSize_miAttr, kStunAttributeHeaderSize, padded]
  simp

/-- The fingerprint takes eight bytes. -/
theorem length_encodeAttr_fingerprintAttr :
    (encodeAttr (p.fingerprintAttr digest password)).length = 8 := by
  have h : Writable (p.fingerprintAttr digest password) := trivial
  have hsize : valueSize (p.fingerprintAttr digest password) = 4 := rfl
  rw [length_encodeAttr h, wireSize, hsize, kStunAttributeHeaderSize, padded]
  simp

/-- The wire bytes in order: header, attributes, integrity, fingerprint. -/
theorem wire_eq :
    p.wire digest password =
      p.headerBytes (p.attrsSize + 32) ++
        (encodeAttrs p.attrs ++ (encodeAttr (p.miAttr digest password) ++
          encodeAttr (p.fingerprintAttr digest password))) := by
  rw [wire, signedAttrs, encodeAttrs_append]
  simp [encodeAttrs]

/-- What is sent are the bytes that the checksum is computed over, and the fingerprint behind
them. -/
theorem wire_eq_checkedBytes :
    p.wire digest password =
      p.checkedBytes digest password ++ encodeAttr (p.fingerprintAttr digest password) := by
  rw [wire_eq, checkedBytes, encodeAttrs_append]
  simp [encodeAttrs]

/-- What the checksum is computed over is the header, the attributes and the integrity attribute.
-/
theorem length_checkedBytes :
    (p.checkedBytes digest password).length = p.attrsSize + 44 := by
  rw [checkedBytes, encodeAttrs_append, List.length_append, List.length_append,
    p.length_headerBytes, p.length_encodeAttrs_attrs, encodeAttrs_cons, List.length_append,
    length_encodeAttr_miAttr]
  simp only [encodeAttrs, List.map_nil, List.flatten_nil, List.length_nil]
  omega

/-- What is sent is eight bytes longer. -/
theorem length_wire : (p.wire digest password).length = p.attrsSize + 52 := by
  rw [wire_eq_checkedBytes, List.length_append, length_checkedBytes,
    length_encodeAttr_fingerprintAttr]

/-! ### The three lengths -/

/-- The message before it is signed: its length field counts its own attributes. -/
theorem message_eq :
    p.message =
      { type := p.type
        length := UInt16.ofNat p.attrsSize
        transactionId := p.transactionId
        attrs := p.attrs } := by
  rw [message, foldl_addAttribute fun a ha => p.writable ha]
  simp [attrsSize]

/-- The message after `add_message_integrity`. -/
def signed : StunMessage :=
  { type := p.type
    length := UInt16.ofNat (p.attrsSize + 24)
    transactionId := p.transactionId
    attrs := p.attrs ++ [p.miAttr digest password]
    integrity := .integrityOk
    password := password }

/-- The message after `add_fingerprint`. -/
def fingerprinted : StunMessage :=
  { p.signed digest password with
      length := UInt16.ofNat (p.attrsSize + 32)
      attrs := p.signedAttrs digest password }

/-- The length field grows with each attribute of the signature. -/
theorem ofNat_add_padded (n : Nat) (a : StunAttribute) (k : Nat)
    (h : padded a.length.toNat + 4 = k) :
    UInt16.ofNat n + UInt16.ofNat (padded a.length.toNat + kStunAttributeHeaderSize)
      = UInt16.ofNat (n + k) := by
  rw [kStunAttributeHeaderSize, h, UInt16.ofNat_add]

/-- The digest is that of the bytes before the integrity attribute, with the
length field of a message that ends with the attribute. -/
theorem addMessageIntegrity_message :
    p.message.addMessageIntegrity digest password = (true, p.signed digest password) := by
  have hlength := ofNat_add_padded p.attrsSize unsignedAttr 24 (by decide)
  have hadded : p.message.addAttribute unsignedAttr =
      { type := p.type
        length := UInt16.ofNat (p.attrsSize + 24)
        transactionId := p.transactionId
        attrs := p.attrs ++ [unsignedAttr] } := by
    rw [message_eq, addAttribute, hlength]
  have hattrs : p.message.attrs = p.attrs := by rw [message_eq]
  have hfront : (p.message.addAttribute unsignedAttr).writeHeader ++ encodeAttrs p.message.attrs
      = p.signedBytes := by
    rw [hadded, hattrs]
    simp only [writeHeader, signedBytes, headerBytes, List.append_assoc]
  rw [addMessageIntegrity_eq digest (by rw [hattrs]; exact fun b hb => p.writable hb), hfront,
    hadded, hattrs]
  rfl

/-- The checksum is that of the bytes before the fingerprint, with the length field
of the whole message. -/
theorem addFingerprint_signed :
    (p.signed digest password).addFingerprint digest =
      (true, p.fingerprinted digest password) := by
  have hlength := ofNat_add_padded (p.attrsSize + 24) uncheckedAttr 8 (by decide)
  have hadded : (p.signed digest password).addAttribute uncheckedAttr =
      { p.signed digest password with
          length := UInt16.ofNat (p.attrsSize + 32)
          attrs := p.attrs ++ [p.miAttr digest password] ++ [uncheckedAttr] } := by
    rw [addAttribute]
    simp only [signed, hlength]
  have hfront : ((p.signed digest password).addAttribute uncheckedAttr).writeHeader ++
      encodeAttrs (p.signed digest password).attrs = p.checkedBytes digest password := by
    rw [hadded]
    simp only [writeHeader, signed, checkedBytes, headerBytes, List.append_assoc]
  have hattrs : ∀ b ∈ (p.signed digest password).attrs, Writable b ∧ valueSize b < 2 ^ 16 := by
    intro b hb
    obtain ⟨hwrite, -, hsize⟩ := p.signedAttrs_walk digest password (a := b) (by
      rcases List.mem_append.mp hb with hb | hb
      · exact List.mem_append_left _ hb
      · exact List.mem_append_right _ (by rw [List.mem_singleton.mp hb]; exact List.mem_cons_self))
    exact ⟨hwrite, lt_of_le_of_lt (le_padded _) hsize⟩
  rw [addFingerprint_eq digest hattrs, hfront, hadded]
  simp only [fingerprinted, signed, signedAttrs, fingerprintAttr, List.append_assoc,
    List.singleton_append]

/-- The signed message with its fingerprint is written, and this is what is sent. All its values
are short enough, and its length field has not wrapped around. -/
theorem write_fingerprinted :
    (p.fingerprinted digest password).write = some (p.wire digest password) := by
  have hattrs : writeAttrs (p.signedAttrs digest password)
      = some (encodeAttrs (p.signedAttrs digest password)) := by
    refine writeAttrs_eq fun a ha => ?_
    obtain ⟨hwrite, -, hsize⟩ := p.signedAttrs_walk digest password ha
    exact ⟨hwrite, lt_of_le_of_lt (le_padded _) hsize⟩
  show (writeAttrs (p.signedAttrs digest password)).map _ = _
  rw [hattrs, Option.map_some]
  simp only [writeHeader, fingerprinted, signed, wire, headerBytes, List.append_assoc]

/-! ### Reading the signed message back -/

/-- The two attributes that are added still fit the length field. -/
theorem attrsSize_lt : p.attrsSize + 32 < 2 ^ 16 := p.size

/-- Attributes are padded, so what they take is a multiple of four. -/
theorem attrsSize_mod : p.attrsSize % 4 = 0 := by
  have h : ∀ attrs : List StunAttribute, (attrs.map wireSize).sum % 4 = 0 := by
    intro attrs
    induction attrs with
    | nil => rfl
    | cons a attrs ih =>
        have hmod := padded_mod (valueSize a)
        rw [List.map_cons, List.sum_cons, wireSize, kStunAttributeHeaderSize]
        omega
  exact h p.attrs

/-- The length field, behind the type. -/
theorem getBE16_headerBytes (length : Nat) (rest : Bytes) :
    getBE16 (p.headerBytes length ++ rest) 2 = UInt16.ofNat length := by
  have h := getBE16_append_right (writeUInt16_length p.type)
    (writeUInt16 (UInt16.ofNat length) ++ (writeUInt32 kStunMagicCookie ++
      (p.transactionId ++ rest))) 0
  rw [headerBytes]
  simp only [List.append_assoc]
  rw [h, getBE16_writeUInt16]

/-- The length field of what is sent says how many bytes follow the header. -/
theorem toNat_getBE16_wire :
    (getBE16 (p.wire digest password) 2).toNat + 20 = (p.wire digest password).length := by
  rw [length_wire, wire, getBE16_headerBytes, UInt16.toNat_ofNat_of_lt' p.attrsSize_lt]

/-- The magic cookie, behind the type and the length field. -/
theorem getBE32_headerBytes (length : Nat) (rest : Bytes) :
    getBE32 (p.headerBytes length ++ rest) 4 = kStunMagicCookie := by
  have hfront : (writeUInt16 p.type ++ writeUInt16 (UInt16.ofNat length)).length = 4 := by
    rw [List.length_append, writeUInt16_length, writeUInt16_length]
  have h := getBE32_append_right hfront (writeUInt32 kStunMagicCookie ++
    (p.transactionId ++ rest)) 0
  rw [headerBytes]
  simp only [List.append_assoc] at h ⊢
  rw [h, getBE32_writeUInt32]

/-- `validate_fingerprint` accepts what is sent. The length, the cookie, the type and length of
the last attribute are what it looks for, and the checksum is taken over the same bytes as by the
writer. -/
theorem validateFingerprint_wire : validateFingerprint digest (p.wire digest password) = true := by
  have hlen := p.length_wire digest password
  have hmod := p.attrsSize_mod
  have hchecked := p.length_checkedBytes digest password
  have hpos : (p.wire digest password).length - (kStunAttributeHeaderSize + 4)
      = (p.checkedBytes digest password).length := by
    rw [hlen, hchecked, kStunAttributeHeaderSize]
    omega
  have hcookie : getBE32 (p.wire digest password)
      (kStunTransactionIdOffset - kStunMagicCookieLength) = kStunMagicCookie :=
    p.getBE32_headerBytes _ _
  -- the three fields of the fingerprint, from where it starts
  have hat : ∀ i, getBE16 (p.wire digest password) ((p.checkedBytes digest password).length + i)
      = getBE16 (encodeAttr (p.fingerprintAttr digest password)) i := fun i => by
    rw [wire_eq_checkedBytes, getBE16_append_right rfl]
  have htype : getBE16 (p.wire digest password) (p.checkedBytes digest password).length
      = stunAttrFingerprint := by
    have h := hat 0
    rw [Nat.add_zero] at h
    rw [h, encodeAttr, getBE16_writeUInt16]
    rfl
  have hlength : getBE16 (p.wire digest password) ((p.checkedBytes digest password).length + 2)
      = 4 := by
    have h := getBE16_append_right (writeUInt16_length (p.fingerprintAttr digest password).type)
      (writeUInt16 (p.fingerprintAttr digest password).length ++
        (valueBytes (p.fingerprintAttr digest password) ++
          paddingBytes (valueSize (p.fingerprintAttr digest password)))) 0
    rw [hat, encodeAttr, h, getBE16_writeUInt16]
    rfl
  have hvalue : getBE32 (p.wire digest password)
      ((p.checkedBytes digest password).length + kStunAttributeHeaderSize)
      = digest.crc32 (p.checkedBytes digest password) ^^^ stunFingerprintXorValue := by
    have hfront : (writeUInt16 (p.fingerprintAttr digest password).type ++
        writeUInt16 (p.fingerprintAttr digest password).length).length = 4 := by
      rw [List.length_append, writeUInt16_length, writeUInt16_length]
    have h := getBE32_append_right hfront (valueBytes (p.fingerprintAttr digest password) ++
      paddingBytes (valueSize (p.fingerprintAttr digest password))) 0
    rw [List.append_assoc] at h
    rw [wire_eq_checkedBytes, getBE32_append_right rfl, encodeAttr, kStunAttributeHeaderSize, h]
    exact getBE32_writeUInt32 _ _
  have htake : (p.wire digest password).take (p.checkedBytes digest password).length
      = p.checkedBytes digest password := by
    rw [wire_eq_checkedBytes, List.take_left]
  rw [validateFingerprint]
  simp only [hpos]
  rw [if_neg (by rw [hlen, kStunHeaderSize, kStunAttributeHeaderSize]; omega),
    if_neg (by rw [hcookie]; simp), htype, hlength, if_neg (by simp), hvalue, htake,
    UInt32.xor_assoc, UInt32.xor_self, UInt32.xor_zero]
  exact beq_self_eq_true _

/-- `read` gets the type, the length field and the transaction id back from a header. -/
theorem readHeader_headerBytes (length : Nat) (rest : Bytes) :
    readHeader (p.headerBytes length ++ rest) =
      some (p.type, UInt16.ofNat length, writeUInt32 kStunMagicCookie, p.transactionId, rest) := by
  have hcookie : readBytes kStunMagicCookieLength
      (writeUInt32 kStunMagicCookie ++ (p.transactionId ++ rest))
      = some (writeUInt32 kStunMagicCookie, p.transactionId ++ rest) :=
    readBytes_append (writeUInt32_length _) _
  simp only [readHeader, headerBytes, List.append_assoc, readUInt16_writeUInt16, p.type_and,
    hcookie, readBytes_append p.length_transactionId, Option.bind_eq_bind, Option.bind_some,
    Option.pure_def, ne_eq, not_true_eq_false, if_false]

/-- The message that `read` makes of the signed message. -/
def readBack : StunMessage :=
  { type := p.type
    length := UInt16.ofNat (p.attrsSize + 32)
    transactionId := p.transactionId
    attrs := (p.signedAttrs digest password).filterMap decoded
    buffer := p.wire digest password }

/-- `read` gets the message back: its known attributes, the integrity attribute and the
fingerprint, with the bytes and without a word about the integrity. -/
theorem read_wire : read (p.wire digest password) = some (p.readBack digest password) := by
  have hheader := p.readHeader_headerBytes (p.attrsSize + 32)
    (encodeAttrs (p.signedAttrs digest password))
  have hlen := p.length_wire digest password
  have hattrs : (encodeAttrs (p.signedAttrs digest password)).length = p.attrsSize + 32 := by
    rw [wire, List.length_append, length_headerBytes] at hlen
    omega
  have hloop := readAttrs_encodeAttrs
    (fun a ha => (p.signedAttrs_walk digest password ha).1)
    (fun a ha => (p.signedAttrs_walk digest password ha).2.1)
    (fun a ha => (p.signedAttrs_walk digest password ha).2.2) kStunHeaderSize
  have hvisits : readVisits (p.wire digest password)
      = some (visitsOf kStunHeaderSize (p.signedAttrs digest password)) := by
    simp only [readVisits, wire, hheader, Option.bind_eq_bind, Option.bind_some]
    rw [if_neg (by rw [hattrs, UInt16.toNat_ofNat_of_lt' p.attrsSize_lt]; simp), hloop]
  have hcookie : UInt32.ofNat (ofBE (writeUInt32 kStunMagicCookie)) = kStunMagicCookie := by
    decide +kernel
  rw [StunMessage.read, hvisits]
  simp only [wire, hheader, Option.bind_eq_bind, Option.bind_some, Option.pure_def, hcookie,
    ne_eq, not_true_eq_false, if_false, filterMap_visitsOf]
  rfl

/-- The scan of the verifier stops at the integrity attribute that was added. -/
theorem scanAttrs_wire :
    (scanAttrs stunAttrMessageIntegrity (p.wire digest password) kStunHeaderSize).2
      = some (20 + p.attrsSize) := by
  have hskip := scanAttrs_encodeAttrs (fun a ha => (p.plain a ha).writable)
    (fun a ha => (p.writable ha).2) (fun a ha => (p.plain a ha).type_ne_messageIntegrity)
    (p.headerBytes (p.attrsSize + 32))
    (encodeAttr (p.miAttr digest password) ++ encodeAttr (p.fingerprintAttr digest password))
  have hfound := scanAttrs_encodeAttr (p.miAttr digest password)
    (p.headerBytes (p.attrsSize + 32) ++ encodeAttrs p.attrs)
    (encodeAttr (p.fingerprintAttr digest password))
  rw [List.append_assoc, List.length_append, length_headerBytes, length_encodeAttrs_attrs] at hfound
  rw [length_headerBytes, length_encodeAttrs_attrs, ← wire_eq] at hskip
  rw [← wire_eq] at hfound
  rw [show kStunHeaderSize = 20 from rfl, hskip]
  exact hfound

/-- The verifier digests the bytes that were signed: it sets the length field back
to what it was before the fingerprint was added. -/
theorem hmacInput_wire :
    hmacInput (p.wire digest password) (20 + p.attrsSize) kStunMessageIntegritySize
      = p.signedBytes := by
  have hlen := p.length_wire digest password
  have htake : (p.wire digest password).take (20 + p.attrsSize)
      = p.headerBytes (p.attrsSize + 32) ++ encodeAttrs p.attrs := by
    rw [wire_eq, ← List.append_assoc]
    exact List.take_left' (by
      rw [List.length_append, length_headerBytes, length_encodeAttrs_attrs])
  have hlonger : 20 + p.attrsSize + kStunAttributeHeaderSize + kStunMessageIntegritySize
      < (p.wire digest password).length := by
    rw [hlen, kStunAttributeHeaderSize, kStunMessageIntegritySize]
    omega
  have hadjust : (p.wire digest password).length - ((p.wire digest password).length -
      (20 + p.attrsSize + kStunAttributeHeaderSize + kStunMessageIntegritySize)) - kStunHeaderSize
      = p.attrsSize + 24 := by
    rw [hlen, kStunAttributeHeaderSize, kStunMessageIntegritySize, kStunHeaderSize]
    omega
  have hword : toBE 2 (p.attrsSize + 24) = writeUInt16 (UInt16.ofNat (p.attrsSize + 24)) := by
    have hlt : p.attrsSize + 24 < 2 ^ 16 := by
      have := p.attrsSize_lt
      omega
    rw [writeUInt16, UInt16.toNat_ofNat_of_lt' hlt]
  -- the message is cut in front of the integrity, and its length is adjusted to end there
  rw [hmacInput]
  simp only [htake]
  rw [if_pos hlonger, hadjust, headerBytes]
  simp only [List.append_assoc]
  rw [setBE16_append (writeUInt16_length p.type), hword, signedBytes, headerBytes]
  simp only [List.append_assoc]

/-- The integrity of what is sent is valid under the same password. The scan stops at the
integrity attribute, and the bytes in front of it, with the length field adjusted, are those that
were digested. -/
theorem validateMessageIntegrityOfType_wire :
    validateMessageIntegrityOfType digest stunAttrMessageIntegrity kStunMessageIntegritySize
      (p.wire digest password) password = true := by
  have hlen := p.length_wire digest password
  have hmod := p.attrsSize_mod
  have hfield := p.toNat_getBE16_wire digest password
  -- the bytes compared with the digest are the value of the attribute
  have hstored : ((p.wire digest password).drop (20 + p.attrsSize + kStunAttributeHeaderSize)).take
      kStunMessageIntegritySize = digest.hmacSha1 password p.signedBytes := by
    have hvalue := digest.hmacSha1_length password p.signedBytes
    have hmi : encodeAttr (p.miAttr digest password) =
        (writeUInt16 stunAttrMessageIntegrity ++ writeUInt16 (p.miAttr digest password).length) ++
          (digest.hmacSha1 password p.signedBytes ++
            paddingBytes (valueSize (p.miAttr digest password))) := by
      rw [encodeAttr, List.append_assoc]
      rfl
    rw [wire_eq, hmi]
    simp only [← List.append_assoc]
    rw [List.append_assoc (_ ++ _ ++ _ ++ _ ++ _), List.append_assoc (_ ++ _ ++ _ ++ _),
      List.drop_left' (by
        simp only [List.length_append, length_headerBytes, length_encodeAttrs_attrs,
          writeUInt16_length, kStunAttributeHeaderSize]),
      List.take_left' hvalue]
  rw [validateMessageIntegrityOfType, if_neg (by rw [hlen, kStunHeaderSize]; omega),
    if_neg (by rw [kStunHeaderSize]; omega), scanAttrs_wire]
  simp only [hmacInput_wire, hstored]
  rw [if_neg (by rw [digest.hmacSha1_length]; simp),
    List.take_of_length_le (by rw [digest.hmacSha1_length])]
  exact beq_self_eq_true _

end PlainMessage

/-! ### The round trip -/

/-- The attributes `read` keeps: user name, priority and message integrity. -/
def Known (a : StunAttribute) : Prop :=
  a.type = stunAttrUsername ∨ a.type = stunAttrPriority ∨ a.type = stunAttrMessageIntegrity

instance : DecidablePred Known := fun a =>
  inferInstanceAs (Decidable (a.type = stunAttrUsername ∨ a.type = stunAttrPriority ∨
    a.type = stunAttrMessageIntegrity))

/-- The value of an attribute is of the class that `read` makes for its type. -/
def HasReadClass (a : StunAttribute) : Prop :=
  match getAttributeValueType a.type, a.value with
  | .byteString, .byteString _ => True
  | .uint32, .uint32 _ => True
  | _, _ => False

/-- A decoded attribute has the type and the value of an original. The value is
compared as bytes, since an original may be of another class than the one `read`
makes for its type. Where the class is the same, so is the attribute. -/
structure SameValue (d a : StunAttribute) : Prop where
  type : d.type = a.type
  length : d.length = a.length
  bytes : d.write = a.write
  eq : HasReadClass a → d = a

/-- `read` skips exactly the attributes whose type it does not know. -/
theorem getAttributeValueType_eq_unknown_iff {a : StunAttribute} :
    getAttributeValueType a.type = .unknown ↔ ¬ Known a := by
  simp only [getAttributeValueType, Known]
  split
  · simp [*]
  · split
    · simp [*]
    · split <;> simp [*]

/-- What `read` keeps of an attribute has its value. -/
theorem sameValue_of_decoded {a d : StunAttribute} (hwrite : Writable a)
    (hsize : valueSize a < 2 ^ 16) (h : decoded a = some d) : SameValue d a := by
  have hbytes := length_valueBytes hwrite
  have hlen := toNat_length hwrite hsize
  unfold decoded at h
  split at h
  · rename_i htype
    simp only [Option.some.injEq] at h
    subst h
    have hlength : (StunAttribute.length ⟨a.type, .byteString (valueBytes a)⟩) = a.length := by
      rw [← UInt16.toNat_inj, hlen, ← hbytes]
      exact UInt16.toNat_ofNat_of_lt' (by rwa [hbytes])
    refine ⟨rfl, hlength, ?_, fun hclass => ?_⟩
    · rw [write_attribute hwrite hsize, StunAttribute.write]
      simp only [hlength, hlen]
      rw [List.take_of_length_le (by omega)]
    · obtain ⟨type, value⟩ := a
      simp only [HasReadClass, htype] at hclass
      cases value <;> first | rfl | exact hclass.elim
  · cases h
    exact ⟨rfl, rfl, rfl, fun _ => rfl⟩
  · cases h

/-- `decoded` keeps exactly the known attributes, in order. -/
theorem forall₂_filterMap_decoded {attrs : List StunAttribute}
    (h : ∀ a ∈ attrs, Writable a ∧ valueSize a < 2 ^ 16) :
    List.Forall₂ SameValue (attrs.filterMap decoded) (attrs.filter fun a => decide (Known a)) := by
  induction attrs with
  | nil => exact List.Forall₂.nil
  | cons a attrs ih =>
      obtain ⟨hwrite, hsize⟩ := h a List.mem_cons_self
      have hrest := ih fun b hb => h b (List.mem_cons_of_mem a hb)
      by_cases hknown : Known a
      · obtain ⟨d, hd⟩ : ∃ d, decoded a = some d := by
          unfold decoded
          split
          · exact ⟨_, rfl⟩
          · exact ⟨_, rfl⟩
          · rename_i hunknown
            exact absurd hknown (getAttributeValueType_eq_unknown_iff.mp hunknown)
        rw [List.filterMap_cons_some hd, List.filter_cons_of_pos (by simpa using hknown)]
        exact List.Forall₂.cons (sameValue_of_decoded hwrite hsize hd) hrest
      · have hd : decoded a = none := by
          rw [decoded, getAttributeValueType_eq_unknown_iff.mpr hknown]
        rw [List.filterMap_cons_none hd, List.filter_cons_of_neg (by simpa using hknown)]
        exact hrest

/-- A message that is built, signed and fingerprinted passes its own checks. Its
length field is its size without the header, the fingerprint is valid, `read`
accepts it and gives back the type, the transaction id and the attributes it
knows, and the integrity check under the same password succeeds. -/
theorem read_write_signed (digest : MessageDigest) (p : PlainMessage) (password : Bytes) :
    ∃ signed message data back,
      p.message.addMessageIntegrity digest password = (true, signed) ∧
      signed.addFingerprint digest = (true, message) ∧
      message.write = some data ∧
      (getBE16 data 2).toNat + kStunHeaderSize = data.length ∧
      validateFingerprint digest data = true ∧
      StunMessage.read data = some back ∧
      back.type = p.type ∧
      back.transactionId = p.transactionId ∧
      List.Forall₂ SameValue back.attrs (message.attrs.filter fun a => decide (Known a)) ∧
      (back.validateMessageIntegrity digest password).integrity = .integrityOk := by
  refine ⟨p.signed digest password, p.fingerprinted digest password, p.wire digest password,
    p.readBack digest password, p.addMessageIntegrity_message digest password,
    p.addFingerprint_signed digest password, p.write_fingerprinted digest password,
    p.toNat_getBE16_wire digest password, p.validateFingerprint_wire digest password,
    p.read_wire digest password, rfl, rfl, ?_, ?_⟩
  · refine forall₂_filterMap_decoded fun a ha => ?_
    obtain ⟨hwrite, -, hsize⟩ := p.signedAttrs_walk digest password ha
    exact ⟨hwrite, lt_of_le_of_lt (le_padded _) hsize⟩
  · -- the decoded message has an integrity attribute, and its digest matches
    have hmem : (⟨stunAttrMessageIntegrity, .byteString (valueBytes (p.miAttr digest password))⟩ :
        StunAttribute) ∈ (p.readBack digest password).attrs := by
      refine List.mem_filterMap.mpr ⟨p.miAttr digest password, ?_, rfl⟩
      exact List.mem_append_right _ List.mem_cons_self
    have hfind : ((p.readBack digest password).getByteString stunAttrMessageIntegrity).isSome := by
      rw [getByteString, getAttribute, List.find?_isSome]
      exact ⟨_, hmem, beq_self_eq_true _⟩
    have hvalid := p.validateMessageIntegrityOfType_wire digest password
    rw [validateMessageIntegrity]
    simp only [getByteString, getAttribute] at hfind ⊢
    rw [if_pos hfind, if_pos (by exact hvalid)]

end Xrtc.Proofs.Ice
