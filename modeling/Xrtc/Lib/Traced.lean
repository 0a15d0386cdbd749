import Mathlib.Tactic.Common
import Xrtc.Lib.Bytes

/-!
# `Xrtc.Lib.Traced`: computations with the memory accesses they make

`Traced α` is a value with the accesses that were made to blocks of memory on the way to
it. An access is recorded with the size of its block, so `InBounds` says that a computation
stays inside the blocks it was given. The primitive operations record the range they touch
themselves, and a program written with them cannot leave an access out.

`value_bind` takes the record away again, for the proof that a traced function computes the
same as one without a record. `inBounds_bind` splits the bounds of a program along its
steps, and `within_bind` does so for `Within`, the accesses to one part of a block. Nothing
here names a program.
-/

set_option autoImplicit false

namespace Xrtc.Lib

/-- An access to a range of a block of `limit` bytes. -/
inductive Access where
  | read (offset size limit : Nat)
  | write (offset size limit : Nat)
  deriving DecidableEq, Repr

/-- The range is inside the block. -/
def Access.InBounds : Access → Prop
  | .read offset size limit | .write offset size limit => offset + size ≤ limit

instance (a : Access) : Decidable a.InBounds := by
  cases a <;> exact inferInstanceAs (Decidable (_ ≤ _))

/-- The range is between two offsets of the block. -/
def Access.Within (lo hi : Nat) : Access → Prop
  | .read offset size _ | .write offset size _ => lo ≤ offset ∧ offset + size ≤ hi

instance (lo hi : Nat) (a : Access) : Decidable (a.Within lo hi) := by
  cases a <;> exact inferInstanceAs (Decidable (_ ∧ _))

/-- A value and the accesses that were made to compute it, the first one first. -/
structure Traced (α : Type) where
  value : α
  accesses : List Access
  deriving Repr

namespace Traced

variable {α β : Type}

instance : Monad Traced where
  pure value := ⟨value, []⟩
  bind t f := ⟨(f t.value).value, t.accesses ++ (f t.value).accesses⟩

/-- Every access is inside its block. -/
def InBounds (t : Traced α) : Prop := ∀ a ∈ t.accesses, a.InBounds

instance (t : Traced α) : Decidable t.InBounds :=
  inferInstanceAs (Decidable (∀ a ∈ t.accesses, a.InBounds))

/-- A computation without an access has its result. -/
@[simp] theorem value_pure (a : α) : (pure a : Traced α).value = a := rfl

/-- The result of two computations one after the other. -/
@[simp] theorem value_bind (t : Traced α) (f : α → Traced β) :
    (t >>= f).value = (f t.value).value := rfl

/-- Without an access nothing is out of bounds. -/
@[simp] theorem inBounds_pure (a : α) : (pure a : Traced α).InBounds := fun _ h => nomatch h

/-- The steps of a program stay in bounds one by one. -/
@[simp] theorem inBounds_bind (t : Traced α) (f : α → Traced β) :
    (t >>= f).InBounds ↔ t.InBounds ∧ (f t.value).InBounds :=
  List.forall_mem_append

/-- Both branches in bounds are enough. -/
theorem inBounds_ite {c : Prop} [Decidable c] {t u : Traced α} (ht : t.InBounds)
    (hu : u.InBounds) : (if c then t else u).InBounds := by
  split
  · exact ht
  · exact hu

section

variable {lo hi : Nat}

/-- Every access is between two offsets of its block. -/
def Within (lo hi : Nat) (t : Traced α) : Prop := ∀ a ∈ t.accesses, a.Within lo hi

/-- Without an access nothing is outside the range. -/
@[simp] theorem within_pure (a : α) : (pure a : Traced α).Within lo hi := fun _ h => nomatch h

/-- Two computations stay in the range if each of them does. -/
@[simp] theorem within_bind (t : Traced α) (f : α → Traced β) :
    (t >>= f).Within lo hi ↔ t.Within lo hi ∧ (f t.value).Within lo hi :=
  List.forall_mem_append

end

/-! ### Operations -/

/-- The byte at an offset. -/
def getByte (block : Bytes) (pos : Nat) : Traced UInt8 :=
  ⟨block.getD pos 0, [.read pos 1 block.length]⟩

/-- The `n` bytes at an offset. -/
def getBytes (block : Bytes) (pos n : Nat) : Traced Bytes :=
  ⟨slice block pos n, [.read pos n block.length]⟩

/-- The big-endian 16-bit integer at an offset. -/
def getBE16 (block : Bytes) (pos : Nat) : Traced UInt16 :=
  ⟨Lib.getBE16 block pos, [.read pos 2 block.length]⟩

/-- The big-endian 32-bit integer at an offset. -/
def getBE32 (block : Bytes) (pos : Nat) : Traced UInt32 :=
  ⟨Lib.getBE32 block pos, [.read pos 4 block.length]⟩

/-- Two bytes overwritten with a big-endian integer. -/
def setBE16 (block : Bytes) (pos v : Nat) : Traced Bytes :=
  ⟨Lib.setBE16 block pos v, [.write pos 2 block.length]⟩

/-- The first `n` bytes of a block copied over those of another. -/
def memcpy (dst src : Bytes) (n : Nat) : Traced Bytes :=
  ⟨src.take n ++ dst.drop n, [.read 0 n src.length, .write 0 n dst.length]⟩

section

variable (block : Bytes) (pos n : Nat)

/-- The byte that is read. -/
@[simp] theorem value_getByte : (getByte block pos).value = block.getD pos 0 := rfl

/-- The bytes that are read. -/
@[simp] theorem value_getBytes : (getBytes block pos n).value = slice block pos n := rfl

/-- The field that is read. -/
@[simp] theorem value_getBE16 : (getBE16 block pos).value = Lib.getBE16 block pos := rfl

/-- The word that is read. -/
@[simp] theorem value_getBE32 : (getBE32 block pos).value = Lib.getBE32 block pos := rfl

/-- The block with the field that was written. -/
@[simp] theorem value_setBE16 (v : Nat) :
    (setBE16 block pos v).value = Lib.setBE16 block pos v := rfl

/-- The block with the copied bytes in front. -/
@[simp] theorem value_memcpy (src : Bytes) :
    (memcpy block src n).value = src.take n ++ block.drop n := rfl

/-- A byte is read in bounds if it is there. -/
@[simp] theorem inBounds_getByte : (getByte block pos).InBounds ↔ pos + 1 ≤ block.length :=
  List.forall_mem_singleton

/-- So are several bytes. -/
@[simp] theorem inBounds_getBytes : (getBytes block pos n).InBounds ↔ pos + n ≤ block.length :=
  List.forall_mem_singleton

/-- So is a field of two bytes. -/
@[simp] theorem inBounds_getBE16 : (getBE16 block pos).InBounds ↔ pos + 2 ≤ block.length :=
  List.forall_mem_singleton

/-- A field is written in bounds if both of its bytes are there. -/
@[simp] theorem inBounds_setBE16 (v : Nat) :
    (setBE16 block pos v).InBounds ↔ pos + 2 ≤ block.length :=
  List.forall_mem_singleton

/-- A byte is read in the range it lies in. -/
@[simp] theorem within_getByte {lo hi : Nat} :
    (getByte block pos).Within lo hi ↔ lo ≤ pos ∧ pos + 1 ≤ hi :=
  List.forall_mem_singleton

/-- So are several bytes. -/
@[simp] theorem within_getBytes {lo hi : Nat} :
    (getBytes block pos n).Within lo hi ↔ lo ≤ pos ∧ pos + n ≤ hi :=
  List.forall_mem_singleton

/-- So is a field of two bytes. -/
@[simp] theorem within_getBE16 {lo hi : Nat} :
    (getBE16 block pos).Within lo hi ↔ lo ≤ pos ∧ pos + 2 ≤ hi :=
  List.forall_mem_singleton

/-- So is a word. -/
@[simp] theorem within_getBE32 {lo hi : Nat} :
    (getBE32 block pos).Within lo hi ↔ lo ≤ pos ∧ pos + 4 ≤ hi :=
  List.forall_mem_singleton

/-- A copy is in bounds if both blocks have so many bytes. -/
@[simp] theorem inBounds_memcpy (src : Bytes) :
    (memcpy block src n).InBounds ↔ n ≤ src.length ∧ n ≤ block.length := by
  simp [InBounds, memcpy, Access.InBounds]

end

end Traced

end Xrtc.Lib
