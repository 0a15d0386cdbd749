import Mathlib.Data.List.TakeWhile
import Xrtc.Lib.Bytes

/-!
# `Xrtc.Lib.Memory`: bytes written to a block and read back

A memory gives the byte at every offset of a block, also behind its end, where a
program should not look. `Memory.read` takes a range out of it and `Memory.write`
puts a byte string at an offset. A read is the reads of its parts
(`read_add`), a write is read back where it was made (`read_write_self`,
`read_write_take`), and it does not touch what is disjoint from it
(`read_write_of_disjoint`). Nothing here names a program.
-/

set_option autoImplicit false

namespace Xrtc.Lib

/-- The bytes at and behind the start of a block. -/
abbrev Memory := Nat → UInt8

namespace Memory

/-- The `n` bytes at an offset. -/
def read (mem : Memory) (offset n : Nat) : Bytes :=
  (List.range n).map fun i => mem (offset + i)

/-- The memory with a byte string written at an offset. -/
def write (mem : Memory) (offset : Nat) (bytes : Bytes) : Memory :=
  fun i => if offset ≤ i then bytes.getD (i - offset) (mem i) else mem i

/-- The byte string as a C string: what comes before the first NUL. -/
def cString (bytes : Bytes) : Bytes := bytes.takeWhile (· ≠ 0)

/-- `snprintf(buf + offset, n, "%s", bytes)`. -/
def snprintf (mem : Memory) (offset n : Nat) (bytes : Bytes) : Memory :=
  if n = 0 then mem else mem.write offset ((cString bytes).take (n - 1) ++ [0])

/-- As many bytes are read as are asked for. -/
@[simp] theorem read_length (mem : Memory) (offset n : Nat) :
    (mem.read offset n).length = n := by
  simp [read]

/-- Each of them is the one at its address. -/
theorem read_getElem? (mem : Memory) {offset n i : Nat} (h : i < n) :
    (mem.read offset n)[i]? = some (mem (offset + i)) := by
  simp [read, h]

/-- A range is a range and what follows it. -/
theorem read_add (mem : Memory) (offset m n : Nat) :
    mem.read offset (m + n) = mem.read offset m ++ mem.read (offset + m) n := by
  rw [read, List.range_add, List.map_append, List.map_map]
  simp only [read, Function.comp_def, Nat.add_assoc]

/-- The beginning of what has been written. -/
theorem read_write_take (mem : Memory) (offset : Nat) {bytes : Bytes} {n : Nat}
    (h : n ≤ bytes.length) : (mem.write offset bytes).read offset n = bytes.take n := by
  apply List.ext_getElem?
  intro i
  by_cases hi : i < n
  · rw [read_getElem? _ hi, List.getElem?_take_of_lt hi,
      List.getElem?_eq_getElem (Nat.lt_of_lt_of_le hi h)]
    simp [write, Nat.lt_of_lt_of_le hi h]
  · rw [List.getElem?_eq_none (by simpa using hi), List.getElem?_eq_none]
    rw [List.length_take]
    omega

/-- What was written is read back. -/
theorem read_write_self (mem : Memory) (offset : Nat) (bytes : Bytes) :
    (mem.write offset bytes).read offset bytes.length = bytes := by
  rw [read_write_take mem offset (Nat.le_refl _), List.take_length]

/-- A write leaves what lies before it and what lies behind it. -/
theorem write_of_disjoint (mem : Memory) {offset i : Nat} {bytes : Bytes}
    (h : i < offset ∨ offset + bytes.length ≤ i) : mem.write offset bytes i = mem i := by
  unfold write
  rcases h with h | h
  · rw [if_neg (by omega)]
  · rw [if_pos (by omega), List.getD_eq_getElem?_getD, List.getElem?_eq_none (by omega)]
    rfl

/-- A write somewhere else is not seen. -/
theorem read_write_of_disjoint (mem : Memory) {offset start n : Nat} {bytes : Bytes}
    (h : start + n ≤ offset ∨ offset + bytes.length ≤ start) :
    (mem.write offset bytes).read start n = mem.read start n := by
  apply List.map_congr_left
  intro i hi
  have hlt := List.mem_range.mp hi
  exact mem.write_of_disjoint (by omega)

/-- A byte string without a NUL is a C string. -/
theorem cString_eq_self {bytes : Bytes} (h : 0 ∉ bytes) : cString bytes = bytes := by
  apply List.takeWhile_eq_self_iff.mpr
  intro b hb
  have hne : b ≠ 0 := fun hzero => h (hzero ▸ hb)
  simpa using hne

/-- A text that is short enough is printed as a whole, with a NUL behind it. -/
theorem snprintf_of_lt (mem : Memory) (offset : Nat) {n : Nat} {bytes : Bytes}
    (hnul : 0 ∉ bytes) (h : bytes.length < n) :
    mem.snprintf offset n bytes = mem.write offset (bytes ++ [0]) := by
  rw [snprintf, if_neg (by omega), cString_eq_self hnul, List.take_of_length_le (by omega)]

/-- A text that is too long is cut, and the NUL takes the last place. -/
theorem snprintf_last (mem : Memory) (offset : Nat) {n : Nat} {bytes : Bytes}
    (hnul : 0 ∉ bytes) (h : n < bytes.length) :
    mem.snprintf offset (n + 1) bytes (offset + n) = 0 := by
  have hcut : (bytes.take n).length = n := by rw [List.length_take]; omega
  rw [snprintf, if_neg (by omega), cString_eq_self hnul, Nat.add_sub_cancel, write,
    if_pos (by omega), Nat.add_sub_cancel_left, List.getD_eq_getElem?_getD,
    List.getElem?_append_right (by omega), hcut, Nat.sub_self]
  rfl

end Memory

end Xrtc.Lib
