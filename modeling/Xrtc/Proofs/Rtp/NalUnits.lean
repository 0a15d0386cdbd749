import Mathlib.Tactic.SplitIfs
import Xrtc.Rtp.RtpFormatH264

/-!
# `Xrtc.Proofs.Rtp.NalUnits`: the NAL units of a frame

`FindNaluIndices` reads only inside the buffer and finds the start codes that have a byte
behind them (`startCodes`), all of them and in order (`findLoop_eq_foldlM`): where it skips
three bytes no start code begins. A NAL unit goes from behind its start code to the next
one, or to the end of the buffer (`naluRanges`).

No NAL unit ends before it starts. The reason is that the byte in front of a NAL unit is
the 1 of its start code, so that the start code behind an empty NAL unit is never taken
for one of four bytes. `nalUnits_eq` is the result.
-/

set_option autoImplicit false

namespace Xrtc.Proofs.Rtp

open Xrtc.Lib
open Xrtc.Rtp

/-- A difference of sizes is one when it is not negative. -/
theorem subSize_of_le {a b : Nat} (h : b ≤ a) : subSize a b = some (a - b) :=
  if_neg (by omega)

/-! ### Start codes -/

/-- A start code of three bytes at an offset. -/
def IsStartCode (buffer : Bytes) (i : Nat) : Prop :=
  buffer[i]? = some 0 ∧ buffer[i + 1]? = some 0 ∧ buffer[i + 2]? = some 1

instance (buffer : Bytes) (i : Nat) : Decidable (IsStartCode buffer i) :=
  inferInstanceAs (Decidable (_ ∧ _))

/-- The start codes from an offset on that have a byte behind them. -/
def startCodes (buffer : Bytes) (i : Nat) : List Nat :=
  (List.range' i (buffer.length - 3 - i)).filter fun i => IsStartCode buffer i

/-- No start code begins within the last three bytes. -/
theorem startCodes_of_le {buffer : Bytes} {i : Nat} (h : buffer.length - 3 ≤ i) :
    startCodes buffer i = [] := by
  unfold startCodes
  rw [Nat.sub_eq_zero_of_le h]
  rfl

/-- In front of them the scan tests one index after the other. -/
theorem startCodes_of_lt {buffer : Bytes} {i : Nat} (h : i < buffer.length - 3) :
    startCodes buffer i
      = if IsStartCode buffer i then i :: startCodes buffer (i + 1)
        else startCodes buffer (i + 1) := by
  unfold startCodes
  rw [show buffer.length - 3 - i = (buffer.length - 3 - (i + 1)) + 1 by omega, List.range'_succ,
    List.filter_cons]
  simp only [decide_eq_true_eq]

/-- Without a start code from `i` on, the scan finds none there. -/
theorem startCodes_eq_nil {buffer : Bytes} {i : Nat} (h : ∀ j, i ≤ j → ¬ IsStartCode buffer j) :
    startCodes buffer i = [] := by
  unfold startCodes
  rw [List.filter_eq_nil_iff]
  intro j hj
  rw [decide_eq_true_eq]
  exact h j (List.mem_range'_1.mp hj).1

/-- An offset where no start code begins is passed over. -/
theorem startCodes_next {buffer : Bytes} {i : Nat} (h : ¬ IsStartCode buffer i) :
    startCodes buffer i = startCodes buffer (i + 1) := by
  by_cases hi : i < buffer.length - 3
  · rw [startCodes_of_lt hi, if_neg h]
  · rw [startCodes_of_le (by omega), startCodes_of_le (by omega)]

/-- No start code begins at the two offsets in front of a byte that is not zero. -/
theorem startCodes_skip {buffer : Bytes} {i : Nat} {byte : UInt8} (hbyte : buffer[i + 2]? = some byte)
    (h : byte ≠ 0) : startCodes buffer (i + 1) = startCodes buffer (i + 3) := by
  have hzero : buffer[i + 2]? ≠ some 0 := by
    rw [hbyte]
    exact fun heq => h (Option.some.inj heq)
  have h1 : ¬ IsStartCode buffer (i + 1) := fun hstart => hzero hstart.2.1
  have h2 : ¬ IsStartCode buffer (i + 2) := fun hstart => hzero hstart.1
  rw [startCodes_next h1, startCodes_next h2]

/-- What the loop of `FindNaluIndices` does at a start code. -/
def pushStartCode (buffer : Bytes) (sequences : List NaluIndex) (i : Nat) :
    Option (List NaluIndex) := do
  let index ← startCodeAt buffer i
  let sequences ← setLastPayloadSize index.startOffset sequences
  return index :: sequences

/-- The loop of `FindNaluIndices` takes the start codes in order. The induction is on what is left
of the buffer, in the steps of one or three bytes that the source takes. -/
theorem findLoop_eq_foldlM (buffer : Bytes) (i : Nat) (sequences : List NaluIndex) :
    findLoop buffer (buffer.length - 3) i sequences
      = (startCodes buffer i).foldlM (pushStartCode buffer) sequences := by
  rw [findLoop]
  by_cases hlt : i < buffer.length - 3
  · have h0 := List.getElem?_eq_getElem (show i < buffer.length by omega)
    have h1 := List.getElem?_eq_getElem (show i + 1 < buffer.length by omega)
    have h2 := List.getElem?_eq_getElem (show i + 2 < buffer.length by omega)
    rw [if_pos hlt, h2]
    dsimp only [Option.bind_eq_bind, Option.bind_some]
    split_ifs with hgt hone
    · -- a byte that is in no start code that begins here or in front of it
      have hne : buffer[i + 2] ≠ 0 := fun heq => absurd hgt (by rw [heq]; decide)
      have hstart : ¬ IsStartCode buffer i := by
        intro hstart
        rw [IsStartCode, h2, Option.some.injEq] at hstart
        exact absurd hgt (by rw [hstart.2.2]; decide)
      rw [findLoop_eq_foldlM buffer (i + 3), startCodes_next hstart, startCodes_skip h2 hne]
    · -- the third byte is one: a start code begins here if there are two zeros in front of it
      have hne : buffer[i + 2] ≠ 0 := by
        rw [hone]
        decide
      rw [h0, h1]
      dsimp only [Option.bind_some]
      split_ifs with hzero
      · have hstart : IsStartCode buffer i := by
          rw [IsStartCode, h0, h1, h2, hzero.1, hzero.2, hone]
          exact ⟨rfl, rfl, rfl⟩
        rw [startCodes_of_lt hlt, if_pos hstart, List.foldlM_cons, startCodes_skip h2 hne]
        unfold pushStartCode
        cases startCodeAt buffer i with
        | none => rfl
        | some index =>
            dsimp only [Option.bind_eq_bind, Option.bind_some]
            cases setLastPayloadSize index.startOffset sequences with
            | none => rfl
            | some sequences => exact findLoop_eq_foldlM buffer (i + 3) (index :: sequences)
      · have hstart : ¬ IsStartCode buffer i := by
          intro hstart
          rw [IsStartCode, h0, h1, Option.some.injEq, Option.some.injEq] at hstart
          exact hzero ⟨hstart.1, hstart.2.1⟩
        rw [findLoop_eq_foldlM buffer (i + 3), startCodes_next hstart, startCodes_skip h2 hne]
    · -- the third byte is zero, so the next position is looked at
      have hstart : ¬ IsStartCode buffer i := by
        intro hstart
        rw [IsStartCode, h2, Option.some.injEq] at hstart
        exact hone hstart.2.2
      rw [findLoop_eq_foldlM buffer (i + 1), startCodes_next hstart]
  · rw [if_neg hlt, startCodes_of_le (by omega)]
    rfl
termination_by buffer.length - i

/-! ### NAL units -/

/-- Where a NAL unit ends, given the start codes behind it. The byte in front of a start
code belongs to it if it is zero. -/
def naluEnd (buffer : Bytes) : List Nat → Nat
  | [] => buffer.length
  | i :: _ => if buffer[i - 1]? = some 0 then i - 1 else i

/-- Where the NAL units start and end that are behind these start codes. -/
def naluRanges (buffer : Bytes) : List Nat → List (Nat × Nat)
  | [] => []
  | i :: codes => (i + 3, naluEnd buffer codes) :: naluRanges buffer codes

/-- The start codes are in order, do not overlap and end in front of the last byte. -/
def Spaced (buffer : Bytes) : List Nat → Prop
  | [] => True
  | i :: codes =>
      IsStartCode buffer i ∧ i + 3 < buffer.length ∧ (∀ j ∈ codes.head?, i + 3 ≤ j) ∧
        Spaced buffer codes

/-- The start codes that are found lie three bytes apart, for none of them begins inside another.
The induction is the one of the scan. -/
theorem spaced_startCodes (buffer : Bytes) (i : Nat) :
    Spaced buffer (startCodes buffer i) ∧ ∀ j ∈ (startCodes buffer i).head?, i ≤ j := by
  by_cases hlt : i < buffer.length - 3
  · by_cases hstart : IsStartCode buffer i
    · -- the next start code cannot begin inside this one
      obtain ⟨hspaced, hhead⟩ := spaced_startCodes buffer (i + 3)
      rw [startCodes_of_lt hlt, if_pos hstart, startCodes_skip hstart.2.2 (by decide)]
      exact ⟨⟨hstart, by omega, hhead, hspaced⟩,
        fun j hj => (Option.mem_some_iff.mp hj).le⟩
    · obtain ⟨hspaced, hhead⟩ := spaced_startCodes buffer (i + 1)
      rw [startCodes_next hstart]
      exact ⟨hspaced, fun j hj => (Nat.le_succ i).trans (hhead j hj)⟩
  · rw [startCodes_of_le (by omega)]
    exact ⟨trivial, fun j hj => nomatch hj⟩
termination_by buffer.length - i

/-- No NAL unit ends before it starts, or behind the end of the buffer. -/
theorem naluEnd_spec {buffer : Bytes} {i : Nat} {codes : List Nat}
    (h : Spaced buffer (i :: codes)) :
    i + 3 ≤ naluEnd buffer codes ∧ naluEnd buffer codes ≤ buffer.length := by
  obtain ⟨hstart, hlt, hnext, hspaced⟩ := h
  cases codes with
  | nil => exact ⟨hlt.le, le_refl _⟩
  | cons j codes =>
      have hle := hnext j (Option.mem_some_iff.mpr rfl)
      have hj := hspaced.2.1
      rw [naluEnd]
      split_ifs with hzero
      · -- the byte in front of a start code directly behind is a 1
        have hne : j ≠ i + 3 := by
          rintro rfl
          rw [show i + 3 - 1 = i + 2 by omega, hstart.2.2] at hzero
          exact absurd hzero (by decide)
        omega
      · omega

/-- The range of each unit is within the buffer. -/
theorem mem_naluRanges {buffer : Bytes} {codes : List Nat} (h : Spaced buffer codes)
    {range : Nat × Nat} (hrange : range ∈ naluRanges buffer codes) :
    range.1 ≤ range.2 ∧ range.2 ≤ buffer.length := by
  induction codes with
  | nil => exact absurd hrange List.not_mem_nil
  | cons i codes ih =>
      rcases List.mem_cons.mp hrange with rfl | hrange
      · exact naluEnd_spec h
      · exact ih h.2.2.2 hrange

/-! ### The entries -/

/-- Where the entry of a start code starts: one byte earlier if the byte in front of it is
zero. -/
def startOf (buffer : Bytes) (i : Nat) : Nat :=
  if 0 < i ∧ buffer[i - 1]? = some 0 then i - 1 else i

/-- A NAL unit ends where the entry behind it starts. -/
theorem naluEnd_cons (buffer : Bytes) (i : Nat) (codes : List Nat) :
    naluEnd buffer (i :: codes) = startOf buffer i := by
  rw [naluEnd, startOf]
  split_ifs with hzero hboth hboth
  · rfl
  · -- at the first byte there is nothing to take away
    have hi : ¬ 0 < i := fun hpos => hboth ⟨hpos, hzero⟩
    omega
  · exact absurd hboth.2 hzero
  · rfl

/-- The entries of these start codes. -/
def naluIndices (buffer : Bytes) : List Nat → List NaluIndex
  | [] => []
  | i :: codes =>
      ⟨startOf buffer i, i + 3, naluEnd buffer codes - (i + 3)⟩ :: naluIndices buffer codes

/-- What the scan of the source notes down at a start code. -/
theorem startCodeAt_eq {buffer : Bytes} {i : Nat} (hi : i < buffer.length) :
    startCodeAt buffer i = some ⟨startOf buffer i, i + 3, 0⟩ := by
  unfold startCodeAt
  split_ifs with hzero
  · rw [startOf, if_neg (fun h => absurd h.1 (by omega))]
  · have hget := List.getElem?_eq_getElem (show i - 1 < buffer.length by omega)
    have hpos : 0 < i := Nat.pos_of_ne_zero hzero
    rw [startOf, hget]
    simp only [Option.bind_eq_bind, Option.bind_some, Option.some.injEq, hpos, true_and]
    rfl

/-- The entries behind the first one, in front of which there is an entry whose size is set
when its end is found. -/
theorem foldlM_pushStartCode {buffer : Bytes} (codes : List Nat) :
    ∀ (i : Nat) (sequences : List NaluIndex), Spaced buffer (i :: codes) →
      (codes.foldlM (pushStartCode buffer) (⟨startOf buffer i, i + 3, 0⟩ :: sequences)).bind
          (setLastPayloadSize buffer.length)
        = some ((naluIndices buffer (i :: codes)).reverse ++ sequences) := by
  -- on the start codes behind the last one, whose NAL unit has no end yet
  induction codes with
  | nil =>
      intro i sequences h
      show setLastPayloadSize buffer.length (⟨startOf buffer i, i + 3, 0⟩ :: sequences) = _
      rw [setLastPayloadSize, subSize_of_le h.2.1.le]
      rfl
  | cons j codes ih =>
      intro i sequences h
      have hle := (naluEnd_spec h).1
      have hj : j < buffer.length := by
        have hbehind := h.2.2.2.2.1
        omega
      have hpush : pushStartCode buffer (⟨startOf buffer i, i + 3, 0⟩ :: sequences) j
          = some (⟨startOf buffer j, j + 3, 0⟩ ::
              ⟨startOf buffer i, i + 3, naluEnd buffer (j :: codes) - (i + 3)⟩ :: sequences) := by
        unfold pushStartCode
        rw [startCodeAt_eq hj]
        dsimp only [Option.bind_eq_bind, Option.bind_some]
        rw [setLastPayloadSize, ← naluEnd_cons buffer j codes, subSize_of_le hle]
        rfl
      rw [List.foldlM_cons, hpush]
      dsimp only [Option.bind_eq_bind, Option.bind_some]
      rw [ih j _ h.2.2.2, naluIndices.eq_2 buffer i, List.reverse_cons, List.append_assoc]
      rfl

/-- `FindNaluIndices` finds the entries of the start codes. The size of a unit is set when the
next one is found, and that of the last one behind the loop. -/
theorem findNaluIndices_eq (buffer : Bytes) :
    findNaluIndices buffer = some (naluIndices buffer (startCodes buffer 0)) := by
  unfold findNaluIndices
  by_cases hlength : buffer.length < kNaluShortStartSequenceSize
  · rw [if_pos hlength, startCodes_of_le (by unfold kNaluShortStartSequenceSize at hlength; omega)]
    rfl
  · rw [if_neg hlength, show kNaluShortStartSequenceSize = 3 from rfl, findLoop_eq_foldlM]
    have hspaced := (spaced_startCodes buffer 0).1
    generalize startCodes buffer 0 = codes at hspaced
    -- the first start code has no unit in front of it to complete
    cases codes with
    | nil => rfl
    | cons i codes =>
        have hi : i < buffer.length := by
          have hbehind := hspaced.2.1
          omega
        have hpush : pushStartCode buffer [] i = some [⟨startOf buffer i, i + 3, 0⟩] := by
          unfold pushStartCode
          rw [startCodeAt_eq hi]
          rfl
        have hfold := foldlM_pushStartCode codes i [] hspaced
        rw [List.append_nil] at hfold
        rw [List.foldlM_cons, hpush]
        dsimp only [Option.bind_eq_bind, Option.bind_some]
        obtain ⟨sequences, hloop, hlast⟩ := Option.bind_eq_some_iff.mp hfold
        rw [hloop]
        dsimp only [Option.bind_some]
        rw [hlast]
        dsimp only [Option.bind_some]
        rw [List.reverse_reverse]
        rfl

/-- The views of the NAL units are made of the entries. -/
theorem map_naluIndices (buffer : Bytes) (codes : List Nat) :
    (naluIndices buffer codes).map (fun nalu =>
        subview buffer nalu.payloadStartOffset nalu.payloadSize)
      = (naluRanges buffer codes).map fun range => subview buffer range.1 (range.2 - range.1) := by
  induction codes with
  | nil => rfl
  | cons i codes ih =>
      rw [naluIndices, naluRanges, List.map_cons, List.map_cons, ih]

/-- The NAL units of a frame are what is between its start codes. -/
theorem nalUnits_eq (buffer : Bytes) :
    nalUnits buffer = some ((naluRanges buffer (startCodes buffer 0)).map fun range =>
      subview buffer range.1 (range.2 - range.1)) := by
  unfold nalUnits
  rw [findNaluIndices_eq]
  exact congrArg some (map_naluIndices buffer _)

/-- Every buffer has a list of NAL units. -/
theorem nalUnits_isSome (buffer : Bytes) : ∃ nalus, nalUnits buffer = some nalus :=
  ⟨_, nalUnits_eq buffer⟩

/-- The packetizer of a buffer is the one of its units. -/
theorem new_of_nalUnits {buffer : Bytes} {nalus : List Bytes} (h : nalUnits buffer = some nalus)
    (limits : PayloadLimits) :
    RtpPacketizerH264.new buffer limits = RtpPacketizerH264.ofNalUnits nalus limits := by
  unfold RtpPacketizerH264.new
  rw [h]
  rfl

/-- A NAL unit is as long as its range. -/
theorem subview_range {buffer : Bytes} {codes : List Nat} (h : Spaced buffer codes)
    {range : Nat × Nat} (hrange : range ∈ naluRanges buffer codes) :
    (subview buffer range.1 (range.2 - range.1)).length = range.2 - range.1 := by
  obtain ⟨hle, hlength⟩ := mem_naluRanges h hrange
  unfold subview
  rw [List.length_take, List.length_drop]
  omega

end Xrtc.Proofs.Rtp
