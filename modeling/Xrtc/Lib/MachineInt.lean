import Mathlib.Tactic.Ring
import Mathlib.Tactic.SplitIfs

/-!
# `Xrtc.Lib.MachineInt`: narrowing and widening of integers

Integers of the source are `Int` and `Nat` here. Where a value is converted to a
type that may not hold it, the conversion is written out: `toInt32` for an `int`,
`toInt64` for an `int64_t`, `toSizeT` for a `size_t`. Each has a lemma that it changes
nothing on the values that fit.
-/

set_option autoImplicit false

namespace Xrtc.Lib

/-- The value of an `int` that is assigned a wider or overflowing result. -/
def toInt32 (x : Int) : Int := Int.bmod x (2 ^ 32)

/-- The value of an `int64_t` that is assigned an overflowing result. -/
def toInt64 (x : Int) : Int := Int.bmod x (2 ^ 64)

/-- The value of a `size_t` of 64 bits that is assigned a signed or overflowing
result. -/
def toSizeT (x : Int) : Nat := (x % 2 ^ 64).toNat

/-- A number in range is its own `int`. -/
theorem toInt32_of_lt {x : Int} (hlow : -2 ^ 31 ≤ x) (hhigh : x < 2 ^ 31) : toInt32 x = x := by
  refine Int.bmod_eq_of_le ?_ ?_ <;> omega

/-- The same for 64 bits. -/
theorem toInt64_of_lt {x : Int} (hlow : -2 ^ 63 ≤ x) (hhigh : x < 2 ^ 63) : toInt64 x = x := by
  refine Int.bmod_eq_of_le ?_ ?_ <;> omega

/-- A sum that passes the largest `int64_t` comes out on the other end. -/
theorem toInt64_of_le {x : Int} (hlow : 2 ^ 63 ≤ x) (hhigh : x < 2 ^ 64) :
    toInt64 x = x - 2 ^ 64 := by
  unfold toInt64
  rw [Int.bmod_def]
  split_ifs <;> omega

/-- An `int` is in range. -/
theorem toInt32_lt (x : Int) : toInt32 x < 2 ^ 31 := by
  unfold toInt32
  rw [Int.bmod_def]
  split_ifs <;> omega

/-- An `int` that is added to wraps around as the sum does. -/
theorem toInt32_add (x y : Int) : toInt32 (toInt32 x + y) = toInt32 (x + y) :=
  Int.bmod_add_bmod

/-- An `int` that is assigned a size never holds more. -/
theorem toInt32_natCast_le (n : Nat) : toInt32 n ≤ n := by
  unfold toInt32
  rw [Int.bmod_def]
  split_ifs <;> omega

/-- It holds a negative number for the sizes from `2 ^ 31` on, before it wraps around. -/
theorem toInt32_neg {n : Nat} (hlow : 2 ^ 31 ≤ n) (hhigh : n < 2 ^ 32) : toInt32 n < 0 := by
  unfold toInt32
  rw [Int.bmod_def]
  split_ifs <;> omega

/-- A number that is not negative is its own `size_t`. -/
theorem toSizeT_of_nonneg {x : Int} (hlow : 0 ≤ x) (hhigh : x < 2 ^ 64) :
    toSizeT x = x.toNat := by
  unfold toSizeT
  rw [Int.emod_eq_of_lt hlow hhigh]

/-- So is a natural number. -/
theorem toSizeT_natCast {n : Nat} (h : n < 2 ^ 64) : toSizeT n = n := by
  rw [toSizeT_of_nonneg (by omega) (by omega), Int.toNat_natCast]

end Xrtc.Lib
