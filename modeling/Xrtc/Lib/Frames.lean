import Mathlib.Tactic.Common

/-!
# `Xrtc.Lib.Frames`: streams of frames that carry their own length

A `Framing` says how long the frame at the front of a stream is, from the frame alone. A
frame is a stream that is one such frame and nothing else (`IsFrame`). `split` takes frames
off the front of a stream for as long as there are any, and `Tiled` is the grammar: the
stream is a concatenation of frames.

Where a stream is a concatenation of frames, `split` finds them (`split_flatten`,
`tiled_iff`). `ofHeader` is the framing of a format whose frames start with a header that
gives the size of the frame. Nothing here names a program.
-/

set_option autoImplicit false

namespace Xrtc.Lib

/-- How long the frame at the front of a stream is, if there is a whole one. It does not
depend on what follows the frame. -/
structure Framing (α : Type) where
  next : List α → Option Nat
  next_pos : ∀ {s n}, next s = some n → 0 < n
  next_le : ∀ {s n}, next s = some n → n ≤ s.length
  next_take : ∀ {s n}, next s = some n → ∀ rest, next (s.take n ++ rest) = some n

namespace Framing

variable {α : Type} (F : Framing α)

/-- The stream is one frame. -/
def IsFrame (f : List α) : Prop := F.next f = some f.length

instance (f : List α) : Decidable (F.IsFrame f) :=
  inferInstanceAs (Decidable (F.next f = some f.length))

/-- The stream is a concatenation of frames. -/
def Tiled (s : List α) : Prop := ∃ fs : List (List α), (∀ f ∈ fs, F.IsFrame f) ∧ s = fs.flatten

/-- The frames at the front of a stream, and what is left when there is no other one. -/
def split (s : List α) : List (List α) × List α :=
  match _h : F.next s with
  | none => ([], s)
  | some n => (s.take n :: (split (s.drop n)).1, (split (s.drop n)).2)
termination_by s.length
decreasing_by
  all_goals
    have hpos := F.next_pos _h
    have hle := F.next_le _h
    rw [List.length_drop]
    omega

/-- The framing of frames with a header of a fixed size. The header is valid or not, and it
gives the size of the frame with the header. -/
def ofHeader (header : Nat) (size : List α → Option Nat) (hpos : 0 < header)
    (hsize : ∀ s n, size s = some n → header ≤ n)
    (happend : ∀ s rest, header ≤ s.length → size (s ++ rest) = size s) : Framing α where
  next s := (size s).filter (· ≤ s.length)
  next_pos {s n} h := by
    obtain ⟨hn, -⟩ := Option.filter_eq_some_iff.mp h
    exact Nat.lt_of_lt_of_le hpos (hsize s n hn)
  next_le {s n} h := by
    obtain ⟨-, hle⟩ := Option.filter_eq_some_iff.mp h
    exact of_decide_eq_true hle
  next_take {s n} h rest := by
    obtain ⟨hn, hle⟩ := Option.filter_eq_some_iff.mp h
    have hle := of_decide_eq_true hle
    have hheader := hsize s n hn
    have htake : (s.take n).length = n := by
      rw [List.length_take]
      omega
    have hsame : size (s.take n ++ rest) = size s := by
      conv_rhs => rw [← List.take_append_drop n s]
      rw [happend _ rest (by omega), happend _ (s.drop n) (by omega)]
    rw [hsame, hn, Option.filter_some, if_pos]
    rw [List.length_append]
    exact decide_eq_true (by omega)

section

variable {header : Nat} {size : List α → Option Nat} {hpos : 0 < header}
  {hsize : ∀ s n, size s = some n → header ≤ n}
  {happend : ∀ s rest, header ≤ s.length → size (s ++ rest) = size s}

/-- A frame with a header is there when as many bytes are as the header says. -/
theorem next_ofHeader {s : List α} {n : Nat} :
    (ofHeader header size hpos hsize happend).next s = some n ↔
      size s = some n ∧ n ≤ s.length := by
  show (size s).filter _ = some n ↔ _
  rw [Option.filter_eq_some_iff, decide_eq_true_iff]

/-- It is as long as its header says. -/
theorem isFrame_ofHeader {f : List α} :
    (ofHeader header size hpos hsize happend).IsFrame f ↔ size f = some f.length := by
  rw [IsFrame, next_ofHeader, and_iff_left (Nat.le_refl _)]

end

/-! ### One frame -/

section

variable {F} {f s : List α} {n : Nat}

/-- Nothing holds no frame, for no frame is empty. -/
theorem next_nil : F.next [] = none :=
  Option.eq_none_iff_forall_ne_some.mpr fun _ h =>
    absurd (F.next_pos h) (by have hle := F.next_le h; simpa using hle)

/-- What a framing finds at the front of a stream is a frame. -/
theorem isFrame_take (h : F.next s = some n) : F.IsFrame (s.take n) := by
  have htake := F.next_take h []
  have hle := F.next_le h
  rw [List.append_nil] at htake
  rw [IsFrame, htake, List.length_take, Nat.min_eq_left hle]

/-- A frame is found in front of anything. -/
theorem IsFrame.next_append (h : F.IsFrame f) (rest : List α) :
    F.next (f ++ rest) = some f.length := by
  have htake := F.next_take h rest
  rwa [List.take_length] at htake

/-- Without a frame in front everything is left. -/
theorem split_of_none (h : F.next s = none) : F.split s = ([], s) := by
  rw [split]
  split
  · rfl
  · rename_i hsome
    rw [h] at hsome
    cases hsome

/-- With one, it is split off, and the rest is split further. -/
theorem split_of_some (h : F.next s = some n) :
    F.split s = (s.take n :: (F.split (s.drop n)).1, (F.split (s.drop n)).2) := by
  rw [split]
  split
  · rename_i hnone
    rw [h] at hnone
    cases hnone
  · rename_i hsome
    rw [h] at hsome
    cases hsome
    rfl

/-- A whole frame in front comes off, whatever follows. -/
theorem split_append (h : F.IsFrame f) (rest : List α) :
    F.split (f ++ rest) = (f :: (F.split rest).1, (F.split rest).2) := by
  rw [split_of_some (h.next_append rest), List.take_left' rfl, List.drop_left' rfl]

end

/-! ### All frames -/

/-- Frames in front of a stream are split off it. -/
theorem split_flatten {fs : List (List α)} (h : ∀ f ∈ fs, F.IsFrame f) (rest : List α) :
    F.split (fs.flatten ++ rest) = (fs ++ (F.split rest).1, (F.split rest).2) := by
  induction fs with
  | nil => rfl
  | cons f fs ih =>
      rw [List.flatten_cons, List.append_assoc, split_append (h f List.mem_cons_self),
        ih fun g hg => h g (List.mem_cons_of_mem f hg)]
      rfl

/-- The frames and the rest make up the stream, and the rest has no frame in front. -/
theorem split_spec (s : List α) :
    (∀ f ∈ (F.split s).1, F.IsFrame f) ∧ (F.split s).1.flatten ++ (F.split s).2 = s ∧
      F.next (F.split s).2 = none := by
  cases hnext : F.next s with
  | none =>
      rw [split_of_none hnext]
      exact ⟨fun _ hf => (nomatch hf), rfl, hnext⟩
  | some n =>
      have hpos := F.next_pos hnext
      have hle := F.next_le hnext
      obtain ⟨hframes, hflatten, hrest⟩ := split_spec (s.drop n)
      rw [split_of_some hnext]
      refine ⟨fun f hf => ?_, ?_, hrest⟩
      · rcases List.mem_cons.mp hf with rfl | hf
        · exact isFrame_take hnext
        · exact hframes f hf
      · rw [List.flatten_cons, List.append_assoc, hflatten, List.take_append_drop]
termination_by s.length
decreasing_by
  rw [List.length_drop]
  omega

/-- Frames put together come apart again, and nothing is left. -/
theorem split_flatten_nil {fs : List (List α)} (h : ∀ f ∈ fs, F.IsFrame f) :
    F.split fs.flatten = (fs, []) := by
  have hsplit := F.split_flatten h []
  rwa [List.append_nil, split_of_none next_nil, List.append_nil] at hsplit

/-- A stream is a concatenation of frames if and only if splitting it leaves nothing. -/
theorem tiled_iff (s : List α) : F.Tiled s ↔ (F.split s).2 = [] := by
  constructor
  · rintro ⟨fs, hframes, rfl⟩
    rw [F.split_flatten_nil hframes]
  · intro hrest
    obtain ⟨hframes, hflatten, -⟩ := F.split_spec s
    rw [hrest, List.append_nil] at hflatten
    exact ⟨_, hframes, hflatten.symm⟩

/-- Nothing is tiled by no frames. -/
theorem tiled_nil : F.Tiled [] := ⟨[], fun _ hf => (nomatch hf), rfl⟩

/-- A frame in front of a stream does not matter for the grammar. -/
theorem tiled_append_iff {f : List α} (hf : F.IsFrame f) (rest : List α) :
    F.Tiled (f ++ rest) ↔ F.Tiled rest := by
  rw [tiled_iff, tiled_iff, split_append hf]

/-- A stream that is not empty and has no frame in front is no concatenation of frames. -/
theorem not_tiled_of_none {s : List α} (h : F.next s = none) (hne : s ≠ []) : ¬ F.Tiled s := by
  rw [tiled_iff, split_of_none h]
  exact hne

end Framing

end Xrtc.Lib
