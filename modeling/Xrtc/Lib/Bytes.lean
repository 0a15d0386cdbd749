import Mathlib.Tactic.Common
import Mathlib.Tactic.Ring

/-!
# `Xrtc.Lib.Bytes`: byte strings and fixed-width integers

Byte strings are lists of `UInt8`. `toBE k v` is the `k`-byte big-endian
encoding of `v`, and `ofBE` reads a byte string back as a number, most
significant byte first. `toLE` and `ofLE` are the same for little-endian bytes. A value
below `256 ^ k` survives `k` bytes (`ofBE_toBE`, `ofLE_toLE`).

A reader is the list of the bytes not read yet. `readBytes n` splits off the next
`n` bytes and fails when fewer are left, and `readUInt16` and `readUInt32` read a
big-endian integer. `readBytes_append` and its two corollaries say what a reader
returns in front of bytes that a writer has put there. `getBE16`, `getBE32` and
`setBE16` access a byte string at an offset instead, and `IsSlice` says that a block of bytes
stands at an offset, so that an access to it can be made to the block on its own.
-/

set_option autoImplicit false

namespace Xrtc.Lib

/-- A byte string. -/
abbrev Bytes := List UInt8

/-- The `k`-byte big-endian encoding of `v`, modulo `256 ^ k`. -/
def toBE : Nat → Nat → Bytes
  | 0,     _ => []
  | k + 1, v => UInt8.ofNat (v / 256 ^ k) :: toBE k v

/-- The bytes read as a number, most significant byte first. -/
def ofBE : Bytes → Nat
  | []      => 0
  | b :: bs => b.toNat * 256 ^ bs.length + ofBE bs

/-- The bytes read as a number, least significant byte first. -/
def ofLE : Bytes → Nat
  | []      => 0
  | b :: bs => b.toNat + 256 * ofLE bs

/-- The `k`-byte little-endian encoding of `v`, modulo `256 ^ k`. -/
def toLE : Nat → Nat → Bytes
  | 0,     _ => []
  | k + 1, v => UInt8.ofNat v :: toLE k (v / 256)

/-- As many bytes as were asked for. -/
@[simp] theorem toLE_length (k v : Nat) : (toLE k v).length = k := by
  induction k generalizing v with
  | zero => rfl
  | succ k ih => simp [toLE, ih]

/-- Reading back `k` little-endian bytes gives the value modulo `256 ^ k`. -/
theorem ofLE_toLE_mod (k v : Nat) : ofLE (toLE k v) = v % 256 ^ k := by
  induction k generalizing v with
  | zero => simp [toLE, ofLE, Nat.mod_one]
  | succ k ih =>
      have hbyte : (UInt8.ofNat v).toNat = v % 256 := by simp [UInt8.toNat_ofNat']
      rw [toLE, ofLE, ih, hbyte, Nat.pow_succ, Nat.mul_comm (256 ^ k), Nat.mod_mul]

/-- A number that fits comes back. -/
theorem ofLE_toLE {k v : Nat} (hv : v < 256 ^ k) : ofLE (toLE k v) = v := by
  rw [ofLE_toLE_mod, Nat.mod_eq_of_lt hv]

/-- As many bytes as were asked for. -/
@[simp] theorem toBE_length (k v : Nat) : (toBE k v).length = k := by
  induction k with
  | zero => rfl
  | succ k ih => simp [toBE, ih]

/-- Reading back `k` big-endian bytes gives the value modulo `256 ^ k`. -/
theorem ofBE_toBE_mod (k v : Nat) : ofBE (toBE k v) = v % 256 ^ k := by
  induction k with
  | zero => simp [toBE, ofBE, Nat.mod_one]
  | succ k ih =>
      have hbyte : (UInt8.ofNat (v / 256 ^ k)).toNat = v / 256 ^ k % 256 := by
        simp [UInt8.toNat_ofNat']
      have hsplit : v % 256 ^ (k + 1) = v / 256 ^ k % 256 * 256 ^ k + v % 256 ^ k := by
        rw [Nat.pow_succ, Nat.mod_mul, Nat.mul_comm (256 ^ k), Nat.add_comm]
      rw [toBE, ofBE, toBE_length, ih, hbyte, hsplit]

/-- A number that fits comes back. -/
theorem ofBE_toBE {k v : Nat} (hv : v < 256 ^ k) : ofBE (toBE k v) = v := by
  rw [ofBE_toBE_mod, Nat.mod_eq_of_lt hv]

/-! ### Reading -/

/-- The next `n` bytes and what is left, if there are as many. -/
def readBytes (n : Nat) (buf : Bytes) : Option (Bytes × Bytes) :=
  if n ≤ buf.length then some (buf.take n, buf.drop n) else none

/-- The next two bytes as a big-endian integer. -/
def readUInt16 (buf : Bytes) : Option (UInt16 × Bytes) :=
  (readBytes 2 buf).map fun r => (UInt16.ofNat (ofBE r.1), r.2)

/-- The next four bytes as a big-endian integer. -/
def readUInt32 (buf : Bytes) : Option (UInt32 × Bytes) :=
  (readBytes 4 buf).map fun r => (UInt32.ofNat (ofBE r.1), r.2)

/-- What is left after `n` bytes, if there are as many. -/
def consume (n : Nat) (buf : Bytes) : Option Bytes := (readBytes n buf).map Prod.snd

/-- The two big-endian bytes of an integer. -/
def writeUInt16 (v : UInt16) : Bytes := toBE 2 v.toNat

/-- The four big-endian bytes of an integer. -/
def writeUInt32 (v : UInt32) : Bytes := toBE 4 v.toNat

/-- The eight big-endian bytes of an integer. -/
def writeUInt64 (v : UInt64) : Bytes := toBE 8 v.toNat

/-- Two bytes. -/
@[simp] theorem writeUInt16_length (v : UInt16) : (writeUInt16 v).length = 2 := by
  simp [writeUInt16]

/-- Four bytes. -/
@[simp] theorem writeUInt32_length (v : UInt32) : (writeUInt32 v).length = 4 := by
  simp [writeUInt32]

/-- Eight bytes. -/
@[simp] theorem writeUInt64_length (v : UInt64) : (writeUInt64 v).length = 8 := by
  simp [writeUInt64]

/-- Reading takes the bytes that stand in front and leaves the rest. -/
theorem readBytes_append {n : Nat} {bs : Bytes} (h : bs.length = n) (rest : Bytes) :
    readBytes n (bs ++ rest) = some (bs, rest) := by
  subst h
  simp [readBytes]

/-- What was written is read back, whatever comes behind it. -/
theorem readUInt16_writeUInt16 (v : UInt16) (rest : Bytes) :
    readUInt16 (writeUInt16 v ++ rest) = some (v, rest) := by
  have hv : v.toNat < 256 ^ 2 := v.toNat_lt
  rw [readUInt16, readBytes_append (writeUInt16_length v), Option.map_some, writeUInt16,
    ofBE_toBE hv, UInt16.ofNat_toNat]

/-- What was written is read back, whatever comes behind it. -/
theorem readUInt32_writeUInt32 (v : UInt32) (rest : Bytes) :
    readUInt32 (writeUInt32 v ++ rest) = some (v, rest) := by
  have hv : v.toNat < 256 ^ 4 := v.toNat_lt
  rw [readUInt32, readBytes_append (writeUInt32_length v), Option.map_some, writeUInt32,
    ofBE_toBE hv, UInt32.ofNat_toNat]

/-- A successful read splits the buffer. -/
theorem readBytes_eq_some {n : Nat} {buf bs rest : Bytes}
    (h : readBytes n buf = some (bs, rest)) : buf = bs ++ rest ∧ bs.length = n := by
  unfold readBytes at h
  split at h
  · rename_i hn
    simp only [Option.some.injEq, Prod.mk.injEq] at h
    obtain ⟨rfl, rfl⟩ := h
    exact ⟨(List.take_append_drop n buf).symm, by simp [hn]⟩
  · simp at h

/-- Bytes can be skipped if there are so many, and the rest begins behind them. -/
theorem consume_eq_some {n : Nat} {buf rest : Bytes} (h : consume n buf = some rest) :
    rest = buf.drop n ∧ n ≤ buf.length := by
  unfold consume readBytes at h
  split at h
  · rename_i hn
    simp only [Option.map_some, Option.some.injEq] at h
    exact ⟨h.symm, hn⟩
  · simp at h

/-- Skipping takes away what stands in front. -/
theorem consume_append {n : Nat} {bs : Bytes} (h : bs.length = n) (rest : Bytes) :
    consume n (bs ++ rest) = some rest := by
  rw [consume, readBytes_append h, Option.map_some]

/-! ### Access at an offset -/

/-- The `n` bytes at an offset, as far as there are any. -/
def slice (data : Bytes) (pos n : Nat) : Bytes := (data.drop pos).take n

/-- The big-endian 16-bit integer at an offset. -/
def getBE16 (data : Bytes) (pos : Nat) : UInt16 := UInt16.ofNat (ofBE (slice data pos 2))

/-- The big-endian 32-bit integer at an offset. -/
def getBE32 (data : Bytes) (pos : Nat) : UInt32 := UInt32.ofNat (ofBE (slice data pos 4))

/-- Two bytes overwritten with a big-endian integer, modulo `2 ^ 16`. -/
def setBE16 (data : Bytes) (pos v : Nat) : Bytes :=
  data.take pos ++ toBE 2 v ++ data.drop (pos + 2)

/-- A slice of what follows a known number of bytes. -/
theorem slice_append_right {a : Bytes} {k : Nat} (h : a.length = k) (b : Bytes) (i n : Nat) :
    slice (a ++ b) (k + i) n = slice b i n := by
  subst h
  rw [slice, List.drop_append, List.drop_eq_nil_of_le (by omega), List.nil_append,
    Nat.add_sub_cancel_left, slice]

/-- A slice of the front part does not depend on what follows. -/
theorem slice_append_left {a : Bytes} {i n : Nat} (h : i + n ≤ a.length) (b : Bytes) :
    slice (a ++ b) i n = slice a i n := by
  have hdrop : (a ++ b).drop i = a.drop i ++ b := List.drop_append_of_le_length (by omega)
  rw [slice, hdrop, List.take_append_of_le_length (by rw [List.length_drop]; omega), slice]

/-- A slice depends on the bytes in its range only. -/
theorem slice_congr {data data' : Bytes} {pos n : Nat}
    (h : ∀ i, pos ≤ i → i < pos + n → data[i]? = data'[i]?) :
    slice data pos n = slice data' pos n := by
  apply List.ext_getElem?
  intro i
  rw [slice, slice, List.getElem?_take, List.getElem?_take, List.getElem?_drop, List.getElem?_drop]
  by_cases hi : i < n
  · rw [if_pos hi, if_pos hi, h (pos + i) (by omega) (by omega)]
  · rw [if_neg hi, if_neg hi]

/-- The bytes from an offset on, cut at a later offset. -/
theorem drop_eq_slice_append (data : Bytes) (pos n : Nat) :
    data.drop pos = slice data pos n ++ data.drop (pos + n) := by
  rw [slice, ← List.drop_drop, List.take_append_drop]

/-- A field behind a block of known length is a field of what follows the block. -/
theorem getBE16_append_right {a : Bytes} {k : Nat} (h : a.length = k) (b : Bytes) (i : Nat) :
    getBE16 (a ++ b) (k + i) = getBE16 b i := by
  rw [getBE16, slice_append_right h, getBE16]

/-- A field that ends within the first block is a field of this block. -/
theorem getBE16_append_left {a : Bytes} {i : Nat} (h : i + 2 ≤ a.length) (b : Bytes) :
    getBE16 (a ++ b) i = getBE16 a i := by
  rw [getBE16, slice_append_left h, getBE16]

/-- The same for a word behind a block. -/
theorem getBE32_append_right {a : Bytes} {k : Nat} (h : a.length = k) (b : Bytes) (i : Nat) :
    getBE32 (a ++ b) (k + i) = getBE32 b i := by
  rw [getBE32, slice_append_right h, getBE32]

/-- The field at the start of what was written is the number. -/
theorem getBE16_writeUInt16 (v : UInt16) (rest : Bytes) :
    getBE16 (writeUInt16 v ++ rest) 0 = v := by
  have hv : v.toNat < 256 ^ 2 := v.toNat_lt
  rw [getBE16, slice, List.drop_zero, List.take_append_of_le_length (by simp),
    List.take_of_length_le (by simp), writeUInt16, ofBE_toBE hv, UInt16.ofNat_toNat]

/-- The word at the start of what was written is the number. -/
theorem getBE32_writeUInt32 (v : UInt32) (rest : Bytes) :
    getBE32 (writeUInt32 v ++ rest) 0 = v := by
  have hv : v.toNat < 256 ^ 4 := v.toNat_lt
  rw [getBE32, slice, List.drop_zero, List.take_append_of_le_length (by simp),
    List.take_of_length_le (by simp), writeUInt32, ofBE_toBE hv, UInt32.ofNat_toNat]

/-- A field of what is left after the first bytes. -/
theorem getBE16_drop (data : Bytes) (k i : Nat) : getBE16 (data.drop k) i = getBE16 data (k + i) := by
  rw [getBE16, slice, List.drop_drop, getBE16, slice]

/-- The integer at an offset, byte by byte. -/
theorem getBE16_toNat {data : Bytes} {pos : Nat} (h : pos + 2 ≤ data.length) :
    (getBE16 data pos).toNat
      = (data.getD pos 0).toNat * 256 + (data.getD (pos + 1) 0).toNat := by
  have hslice : slice data pos 2 = [data.getD pos 0, data.getD (pos + 1) 0] := by
    rw [slice, List.drop_eq_getElem_cons (by omega), List.drop_eq_getElem_cons (by omega),
      List.getD_eq_getElem?_getD, List.getD_eq_getElem?_getD, List.getElem?_eq_getElem,
      List.getElem?_eq_getElem]
    rfl
  have hhigh := (data.getD pos 0).toNat_lt
  have hlow := (data.getD (pos + 1) 0).toNat_lt
  rw [getBE16, hslice]
  simp only [ofBE, List.length_cons, List.length_nil]
  rw [UInt16.toNat_ofNat', Nat.mod_eq_of_lt (by omega)]
  omega

/-- A successful read of an integer, by offsets. -/
theorem readUInt16_eq_some {buf rest : Bytes} {v : UInt16} (h : readUInt16 buf = some (v, rest)) :
    2 ≤ buf.length ∧ v = getBE16 buf 0 ∧ rest = buf.drop 2 := by
  simp only [readUInt16, Option.map_eq_some_iff, Prod.mk.injEq, Prod.exists] at h
  obtain ⟨bs, rest', hread, rfl, rfl⟩ := h
  obtain ⟨rfl, hlen⟩ := readBytes_eq_some hread
  refine ⟨by rw [List.length_append]; omega, ?_, (List.drop_left' hlen).symm⟩
  rw [getBE16, slice, List.drop_zero, List.take_left' hlen]

/-- Where there are two bytes, they can be read. -/
theorem readUInt16_of_le {buf : Bytes} (h : 2 ≤ buf.length) :
    readUInt16 buf = some (getBE16 buf 0, buf.drop 2) := by
  rw [readUInt16, readBytes, if_pos h, Option.map_some, getBE16, slice, List.drop_zero]

/-- Overwriting the integer that stands after a known number of bytes. -/
theorem setBE16_append {a : Bytes} {k : Nat} (h : a.length = k) (v : UInt16) (b : Bytes)
    (w : Nat) : setBE16 (a ++ (writeUInt16 v ++ b)) k w = a ++ (toBE 2 w ++ b) := by
  have htake : (a ++ (writeUInt16 v ++ b)).take k = a := by
    rw [List.take_append_of_le_length (by omega), List.take_of_length_le (by omega)]
  have hdrop : (a ++ (writeUInt16 v ++ b)).drop (k + 2) = b := by
    rw [← List.append_assoc]
    exact List.drop_left' (by rw [List.length_append, writeUInt16_length, h])
  rw [setBE16, htake, hdrop, List.append_assoc]

/-! ### A block inside the data -/

/-- The bytes of a block stand at an offset of the data. -/
def IsSlice (data : Bytes) (pos : Nat) (block : Bytes) : Prop := slice data pos block.length = block

/-- A block between others is the slice behind the first one. -/
theorem isSlice_append (a block b : Bytes) : IsSlice (a ++ (block ++ b)) a.length block := by
  rw [IsSlice, slice, List.drop_left' rfl, List.take_left' rfl]

/-- A slice of a slice is a slice of the whole, as long as it ends within the first. -/
theorem slice_slice {i n m : Nat} (data : Bytes) (pos : Nat) (h : i + n ≤ m) :
    slice (slice data pos m) i n = slice data (pos + i) n := by
  rw [slice, slice, List.drop_take, List.take_take, List.drop_drop, Nat.min_eq_left (by omega),
    slice]

namespace IsSlice

variable {data block : Bytes} {pos i : Nat} (h : IsSlice data pos block)
include h

/-- What is read inside the block does not depend on where it stands. -/
theorem slice_eq {n : Nat} (hi : i + n ≤ block.length) :
    slice data (pos + i) n = slice block i n := by
  conv_rhs => rw [← h]
  rw [slice_slice data pos hi]

/-- A field of the block is read in the whole at the offset of the block. -/
theorem getBE16_eq (hi : i + 2 ≤ block.length) : getBE16 data (pos + i) = getBE16 block i := by
  rw [getBE16, h.slice_eq hi, getBE16]

/-- So is a word of the block. -/
theorem getBE32_eq (hi : i + 4 ≤ block.length) : getBE32 data (pos + i) = getBE32 block i := by
  rw [getBE32, h.slice_eq hi, getBE32]

/-- So is a byte of the block. -/
theorem getD_eq (hi : i + 1 ≤ block.length) (d : UInt8) :
    data.getD (pos + i) d = block.getD i d := by
  have hhead := congrArg (fun bs : Bytes => bs.getD 0 d) (h.slice_eq hi)
  simpa [slice, List.getD_eq_getElem?_getD] using hhead

end IsSlice

section

variable {data a b : Bytes} {pos : Nat} (h : IsSlice data pos (a ++ b))
include h

/-- The first part of a block lies where the block lies. -/
theorem IsSlice.left : IsSlice data pos a := by
  have hleft := h.slice_eq (i := 0) (n := a.length) (by rw [List.length_append]; omega)
  rw [Nat.add_zero] at hleft
  rw [IsSlice, hleft, slice, List.drop_zero, List.take_left' rfl]

/-- The second part lies behind the first. -/
theorem IsSlice.right : IsSlice data (pos + a.length) b := by
  have hright := h.slice_eq (i := a.length) (n := b.length) (by rw [List.length_append])
  rw [IsSlice, hright, slice, List.drop_left' rfl, List.take_length]

end

/-- An integer at the front of a block, and the rest of the block. -/
theorem IsSlice.getBE32_writeUInt32 {data rest : Bytes} {pos : Nat} {v : UInt32}
    (h : IsSlice data pos (writeUInt32 v ++ rest)) :
    getBE32 data pos = v ∧ IsSlice data (pos + 4) rest := by
  have hvalue := h.getBE32_eq (i := 0) (by simp)
  have hrest := h.right
  rw [writeUInt32_length] at hrest
  rw [Nat.add_zero, Xrtc.Lib.getBE32_writeUInt32] at hvalue
  exact ⟨hvalue, hrest⟩

end Xrtc.Lib
