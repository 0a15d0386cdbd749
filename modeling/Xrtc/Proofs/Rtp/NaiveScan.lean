import Xrtc.Proofs.Rtp.NalUnits

/-!
# `Xrtc.Proofs.Rtp.NaiveScan`: the scanner and the naive scan

The naive scan looks at every offset `i` with `i + 3 < n` and asks for the bytes 00 00 01
there. `NaiveScan` says what it finds in a buffer of `n` bytes, as entries of
`FindNaluIndices`: which payloads start, where each entry starts, how long its payload is, and
that the entries cover the buffer from the first one on.

`findNaluIndices_naive` proves that `FindNaluIndices` always has a result and that it is this
one. The scanner skips up to three bytes, and `findLoop_eq_foldlM` has settled that it misses
nothing there, so what is left is about the list of start codes. The fourth byte of a start
code belongs to two entries only if a payload could end before it starts (`naluEnd_spec`).
-/

set_option autoImplicit false

namespace Xrtc.Proofs.Rtp

open Xrtc.Lib
open Xrtc.Rtp

/-- The offsets of an entry, from its start to the end of its payload. -/
def interval (index : NaluIndex) : List Nat :=
  List.range' index.startOffset
    (index.payloadStartOffset + index.payloadSize - index.startOffset)

/-- What the naive scan finds in a buffer:

- `increasing`, `exact`: the payloads start, in increasing order, three bytes behind each
  start code that has a byte behind it;
- `starts`: an entry starts at its start code, or one byte earlier if there is a zero;
- `sizes`: a payload ends where the next entry starts, and the last one with the buffer. As
  sizes are not negative, this says that none of them would be;
- `covers`: the intervals follow each other, from the first entry to the end. -/
structure NaiveScan (buffer : Bytes) (indices : List NaluIndex) : Prop where
  increasing : (indices.map NaluIndex.payloadStartOffset).Pairwise (· < ·)
  exact : ∀ p, p ∈ indices.map NaluIndex.payloadStartOffset ↔
    ∃ i, i + 3 < buffer.length ∧ IsStartCode buffer i ∧ p = i + 3
  starts : ∀ index ∈ indices, ∃ i, index.payloadStartOffset = i + 3 ∧
    index.startOffset = if 0 < i ∧ buffer[i - 1]? = some 0 then i - 1 else i
  sizes : ∀ k index, indices[k]? = some index →
    index.payloadStartOffset + index.payloadSize
      = (indices[k + 1]?).elim buffer.length NaluIndex.startOffset
  covers : indices.flatMap interval
    = (indices.head?).elim [] fun first =>
        List.range' first.startOffset (buffer.length - first.startOffset)

/-! ### The payloads -/

/-- The payload of a unit begins three bytes behind its start code. -/
theorem payloads_naluIndices (buffer : Bytes) (codes : List Nat) :
    (naluIndices buffer codes).map NaluIndex.payloadStartOffset = codes.map (· + 3) := by
  induction codes with
  | nil => rfl
  | cons i codes ih =>
      rw [naluIndices, List.map_cons, List.map_cons, ih]

/-- Exactly the start codes are found that have a byte behind them. -/
theorem mem_startCodes {buffer : Bytes} {i : Nat} :
    i ∈ startCodes buffer 0 ↔ i + 3 < buffer.length ∧ IsStartCode buffer i := by
  rw [startCodes, List.mem_filter, List.mem_range'_1, decide_eq_true_eq]
  constructor
  · intro h
    exact ⟨by omega, h.2⟩
  · intro h
    exact ⟨by omega, h.2⟩

/-- They are found in order. -/
theorem pairwise_startCodes (buffer : Bytes) : (startCodes buffer 0).Pairwise (· < ·) :=
  List.Pairwise.filter _ List.pairwise_lt_range'

/-! ### The intervals -/

/-- An entry ends where its NAL unit does. -/
theorem payload_end {buffer : Bytes} {i : Nat} {codes : List Nat} (h : Spaced buffer (i :: codes)) :
    i + 3 + (naluEnd buffer codes - (i + 3)) = naluEnd buffer codes := by
  have hle := (naluEnd_spec h).1
  omega

/-- A unit ends where the next one starts, or with the buffer. -/
theorem naluEnd_eq (buffer : Bytes) (codes : List Nat) :
    naluEnd buffer codes
      = ((naluIndices buffer codes).head?).elim buffer.length NaluIndex.startOffset := by
  cases codes with
  | nil => rfl
  | cons i codes => exact naluEnd_cons buffer i codes

/-- So the sizes are right, by induction on the start codes. -/
theorem sizes_naluIndices {buffer : Bytes} (codes : List Nat) (h : Spaced buffer codes) :
    ∀ k index, (naluIndices buffer codes)[k]? = some index →
      index.payloadStartOffset + index.payloadSize
        = ((naluIndices buffer codes)[k + 1]?).elim buffer.length NaluIndex.startOffset := by
  induction codes with
  | nil =>
      intro k index hk
      cases hk
  | cons i codes ih =>
      intro k index hk
      cases k with
      | zero =>
          cases hk
          show i + 3 + (naluEnd buffer codes - (i + 3)) = _
          rw [payload_end h, naluEnd_eq, List.head?_eq_getElem?]
          rfl
      | succ k => exact ih h.2.2.2 k index hk

/-- The intervals of entries that follow each other are one interval: each unit ends where the
start code of the next one begins. By induction on the start codes. -/
theorem covers_naluIndices {buffer : Bytes} (codes : List Nat) (h : Spaced buffer codes) :
    (naluIndices buffer codes).flatMap interval
      = List.range' (naluEnd buffer codes) (buffer.length - naluEnd buffer codes) := by
  induction codes with
  | nil =>
      show [] = List.range' buffer.length (buffer.length - buffer.length)
      rw [Nat.sub_self]
      rfl
  | cons i codes ih =>
      obtain ⟨hle, hlength⟩ := naluEnd_spec h
      have hstart : startOf buffer i ≤ i := by
        rw [startOf]
        split_ifs
        · exact Nat.sub_le i 1
        · exact Nat.le_refl i
      have hinterval : interval ⟨startOf buffer i, i + 3, naluEnd buffer codes - (i + 3)⟩
          = List.range' (startOf buffer i) (naluEnd buffer codes - startOf buffer i) := by
        show List.range' _ (i + 3 + (naluEnd buffer codes - (i + 3)) - _) = _
        rw [payload_end h]
      -- the interval of this entry ends where those behind it begin
      have hend : naluEnd buffer codes
          = startOf buffer i + (naluEnd buffer codes - startOf buffer i) := by omega
      have hsum : buffer.length - startOf buffer i
          = (naluEnd buffer codes - startOf buffer i) + (buffer.length - naluEnd buffer codes) := by
        omega
      rw [naluIndices, List.flatMap_cons, ih h.2.2.2, hinterval, naluEnd_cons, hsum,
        ← List.range'_append_1, ← hend]

/-! ### The scan -/

/-- The indices that the scan finds are those of the definition, one by one. -/
theorem naiveScan_naluIndices (buffer : Bytes) :
    NaiveScan buffer (naluIndices buffer (startCodes buffer 0)) := by
  have hspaced := (spaced_startCodes buffer 0).1
  constructor
  · -- the payloads are in the order of their start codes
    rw [payloads_naluIndices, List.pairwise_map]
    exact (pairwise_startCodes buffer).imp fun hlt => Nat.add_lt_add_right hlt 3
  · intro p
    rw [payloads_naluIndices, List.mem_map]
    constructor
    · rintro ⟨i, hi, rfl⟩
      have hcode := mem_startCodes.mp hi
      exact ⟨i, hcode.1, hcode.2, rfl⟩
    · rintro ⟨i, hlt, hcode, rfl⟩
      exact ⟨i, mem_startCodes.mpr ⟨hlt, hcode⟩, rfl⟩
  · generalize startCodes buffer 0 = codes
    induction codes with
    | nil =>
        intro index hindex
        cases hindex
    | cons i codes ih =>
        intro index hindex
        rcases List.mem_cons.mp hindex with rfl | hindex
        · exact ⟨i, rfl, rfl⟩
        · exact ih index hindex
  · exact sizes_naluIndices _ hspaced
  · rw [covers_naluIndices _ hspaced, naluEnd_eq]
    cases (naluIndices buffer (startCodes buffer 0)).head? with
    | none =>
        show List.range' buffer.length (buffer.length - buffer.length) = []
        rw [Nat.sub_self]
        rfl
    | some first => rfl

/-- `FindNaluIndices` has a result for every buffer, and it is that of the naive scan. The source
skips ahead by what it sees in the third byte, and finds neither fewer start codes that way nor
more. -/
theorem findNaluIndices_naive (buffer : Bytes) :
    ∃ indices, findNaluIndices buffer = some indices ∧ NaiveScan buffer indices :=
  ⟨_, findNaluIndices_eq buffer, naiveScan_naluIndices buffer⟩

/-- Two start codes of four bytes: the zero in front of the second one is not payload. -/
example : naluIndices [0, 0, 0, 1, 0x65, 0, 0, 0, 1, 0x41] [1, 6]
    = [⟨0, 4, 1⟩, ⟨5, 9, 1⟩] := by decide

end Xrtc.Proofs.Rtp
