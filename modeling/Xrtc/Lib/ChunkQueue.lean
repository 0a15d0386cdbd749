import Mathlib.Tactic.Common

/-!
# `Xrtc.Lib.ChunkQueue`: a byte stream queued in chunks

A sender that cannot get rid of its data at once keeps it in a queue of chunks, with the
position up to which the first chunk is gone. What is still to be sent is a stream, `pending`.
The position is inside the first chunk, and there is no first chunk if and only if nothing is
pending (`Positioned`).

A chunk that is queued goes to the end of the stream (`pending_push`), and what a transfer
takes off the first chunk comes off the front of the stream, whether the position moves
(`pending_advance`) or the chunk is done (`pending_pop`). Nothing here names a program.
-/

set_option autoImplicit false

namespace Xrtc.Lib.ChunkQueue

variable {α : Type}

/-- What is still to be sent. -/
def pending (chunks : List (List α)) (pos : Nat) : List α := chunks.flatten.drop pos

/-- The position is inside the first chunk. -/
def Positioned : List (List α) → Nat → Prop
  | [], pos => pos = 0
  | chunk :: _, pos => pos < chunk.length

instance Positioned.decidable (chunks : List (List α)) (pos : Nat) :
    Decidable (Positioned chunks pos) :=
  match chunks with
  | [] => inferInstanceAs (Decidable (pos = 0))
  | chunk :: _ => inferInstanceAs (Decidable (pos < chunk.length))

variable {chunks : List (List α)} {chunk : List α} {pos : Nat}

/-- A position is not behind the last chunk. -/
theorem Positioned.le_length (h : Positioned chunks pos) : pos ≤ chunks.flatten.length := by
  cases chunks with
  | nil =>
      show pos ≤ 0
      exact Nat.le_of_eq h
  | cons chunk chunks =>
      have hlt : pos < chunk.length := h
      rw [List.flatten_cons, List.length_append]
      omega

/-- The position is that of a queue with any chunks, if none is empty. -/
theorem positioned_zero (hne : ∀ chunk ∈ chunks, chunk ≠ []) : Positioned chunks 0 := by
  cases chunks with
  | nil => rfl
  | cons chunk chunks => exact List.length_pos_iff.mpr (hne chunk List.mem_cons_self)

/-- A chunk behind the others leaves it where it is. -/
theorem Positioned.push (h : Positioned chunks pos) (hne : chunk ≠ []) :
    Positioned (chunks ++ [chunk]) pos := by
  cases chunks with
  | nil =>
      have hzero : pos = 0 := h
      show pos < chunk.length
      rw [hzero]
      exact List.length_pos_iff.mpr hne
  | cons first chunks => exact h

/-- The new chunk is still to come, behind what was. -/
theorem pending_push (h : Positioned chunks pos) (chunk : List α) :
    pending (chunks ++ [chunk]) pos = pending chunks pos ++ chunk := by
  unfold pending
  rw [List.flatten_append, List.flatten_singleton, List.drop_append_of_le_length h.le_length]

/-- A transfer of a part of the first chunk. -/
theorem pending_advance {n : Nat} (h : pos + n ≤ chunk.length) (chunks : List (List α)) :
    pending (chunk :: chunks) pos
      = (chunk.drop pos).take n ++ pending (chunk :: chunks) (pos + n) := by
  have hpos : pos ≤ chunk.length := by omega
  unfold pending
  rw [List.flatten_cons, List.drop_append_of_le_length hpos, List.drop_append_of_le_length h,
    ← List.append_assoc, ← List.drop_drop, List.take_append_drop]

/-- A transfer of all that is left of the first chunk. -/
theorem pending_pop (chunk : List α) (chunks : List (List α)) :
    pending (chunk :: chunks) chunk.length = pending chunks 0 := by
  unfold pending
  rw [List.flatten_cons, List.drop_left' rfl, List.drop_zero]

/-- Nothing is to come of no chunks. -/
theorem pending_nil (pos : Nat) : pending ([] : List (List α)) pos = [] := List.drop_nil

/-- Nothing is pending if and only if there are no chunks. -/
theorem pending_eq_nil_iff (h : Positioned chunks pos) : pending chunks pos = [] ↔ chunks = [] := by
  constructor
  · intro hnil
    cases chunks with
    | nil => rfl
    | cons chunk chunks =>
        have hlt : pos < chunk.length := h
        have hle := List.drop_eq_nil_iff.mp hnil
        rw [List.flatten_cons, List.length_append] at hle
        omega
  · intro hnil
    rw [hnil, pending_nil]

end Xrtc.Lib.ChunkQueue
