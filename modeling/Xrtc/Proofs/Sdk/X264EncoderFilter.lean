import Mathlib.Algebra.Order.BigOperators.Group.List
import Mathlib.Data.List.Induction
import Xrtc.Sdk.X264EncoderFilter

/-!
# `Xrtc.Proofs.Sdk.X264EncoderFilter`: the size of an encoded frame

The first loop of `Encode` finds the slices and the last parameter sets (`scan_eq`), and the size
of the frame counts the parameter sets once if there is an IDR slice. The second loop writes one
copy behind the other (`Laid`), and writes the parameter sets in front of every IDR slice
(`dataIndex_foldl`).

So the frame is as long as what is copied to it if there are not two IDR slices, or nothing is
written in front of them. `encode_fits_iff` says that it is not in all other cases. x264 is set up
for one slice a frame, but `Encode` does not ask how many there are.
-/

set_option autoImplicit false

namespace Xrtc.Proofs.Sdk

open Xrtc.Lib
open Xrtc.Sdk

/-! ### The NAL units -/

/-- The slices. -/
def slices (nals : List Nal) : List Nal :=
  nals.filter fun nal => nal.type = .sliceIdr ∨ nal.type = .slice

/-- The IDR slices. -/
def idrSlices (nals : List Nal) : List Nal := nals.filter fun nal => nal.type = .sliceIdr

/-- The payload of the last NAL unit of a type, empty if there is none. -/
def lastPayload (type : NalType) (nals : List Nal) : Bytes :=
  ((nals.filter fun nal => nal.type = type).getLast?.map Nal.payload).getD []

/-- The sizes of some NAL units together. -/
def totalSize (nals : List Nal) : Nat := (nals.map fun nal => nal.payload.length).sum

/-- The sizes of the last parameter sets together. -/
def parameterSetsSize (nals : List Nal) : Nat :=
  (lastPayload .sps nals).length + (lastPayload .pps nals).length

/-- The parameter sets fit into the arrays of `Encode`. -/
def ParameterSetsFit (nals : List Nal) : Prop :=
  ∀ nal ∈ nals, nal.type = .sps ∨ nal.type = .pps → nal.payload.length ≤ parameterSetSize

/-- The units picked so far, with one more behind them. -/
theorem filter_concat (p : Nal → Bool) (nals : List Nal) (nal : Nal) :
    (nals ++ [nal]).filter p = if p nal then nals.filter p ++ [nal] else nals.filter p := by
  rw [List.filter_append]
  split
  · rename_i hp
    rw [List.filter_cons_of_pos hp, List.filter_nil]
  · rename_i hp
    rw [List.filter_cons_of_neg hp, List.filter_nil, List.append_nil]

/-- The slices of a picture with one more unit. -/
theorem slices_concat (nals : List Nal) (nal : Nal) :
    slices (nals ++ [nal]) = if nal.type = .sliceIdr ∨ nal.type = .slice then slices nals ++ [nal]
      else slices nals := by
  unfold slices
  rw [filter_concat]
  simp only [decide_eq_true_eq]

/-- Its IDR slices with one more unit. -/
theorem idrSlices_concat (nals : List Nal) (nal : Nal) :
    idrSlices (nals ++ [nal]) = if nal.type = .sliceIdr then idrSlices nals ++ [nal]
      else idrSlices nals := by
  unfold idrSlices
  rw [filter_concat]
  simp only [decide_eq_true_eq]

/-- The last parameter set of a kind is the new unit, if that is of the kind. -/
theorem lastPayload_concat (type : NalType) (nals : List Nal) (nal : Nal) :
    lastPayload type (nals ++ [nal])
      = if nal.type = type then nal.payload else lastPayload type nals := by
  unfold lastPayload
  rw [filter_concat]
  simp only [decide_eq_true_eq]
  split
  · rw [List.getLast?_concat]
    rfl
  · rfl

/-- The size grows by the payload of the unit. -/
theorem totalSize_concat (nals : List Nal) (nal : Nal) :
    totalSize (nals ++ [nal]) = totalSize nals + nal.payload.length := by
  unfold totalSize
  rw [List.map_append, List.sum_append]
  rfl

/-- The IDR slices are among the slices. -/
theorem idrSlices_slices (nals : List Nal) : idrSlices (slices nals) = idrSlices nals := by
  unfold idrSlices slices
  rw [List.filter_filter]
  apply List.filter_congr
  intro nal _
  cases nal.type <;> rfl

/-! ### The first pass -/

/-- What the first loop finds. -/
def scanned (nals : List Nal) : NalScan where
  dataSize := totalSize (slices nals)
  nals := slices nals
  idr := !(idrSlices nals).isEmpty
  sps := lastPayload .sps nals
  pps := lastPayload .pps nals

/-- One round, by the type of the NAL unit. -/
theorem add_scanned (nals : List Nal) {nal : Nal}
    (hfits : nal.type = .sps ∨ nal.type = .pps → nal.payload.length ≤ parameterSetSize) :
    (scanned nals).add nal = some (scanned (nals ++ [nal])) := by
  obtain ⟨type, payload⟩ := nal
  unfold scanned
  rw [slices_concat, idrSlices_concat, lastPayload_concat, lastPayload_concat]
  cases type with
  | slice => simp [NalScan.add, totalSize_concat]
  | sliceIdr => simp [NalScan.add, totalSize_concat]
  | sps => simp [NalScan.add, hfits (.inl rfl)]
  | pps => simp [NalScan.add, hfits (.inr rfl)]
  | _ => rfl

/-- The first loop. Induction on the NAL units from the last one back, since the last parameter
sets count. -/
theorem scan_eq {nals : List Nal} (hfits : ParameterSetsFit nals) :
    nals.foldlM NalScan.add {} = some (scanned nals) := by
  induction nals using List.reverseRecOn with
  | nil => rfl
  | append_singleton nals nal ih =>
      have hbefore := ih fun n hn => hfits n (List.mem_append_left _ hn)
      rw [List.foldlM_append, hbefore]
      show [nal].foldlM NalScan.add (scanned nals) = _
      rw [List.foldlM_cons, add_scanned nals (hfits nal List.mem_concat_self)]
      rfl

/-! ### The second pass -/

/-- The bytes of some copies together. -/
def copiedSize (copies : List Copy) : Nat := (copies.map fun copy => copy.bytes.length).sum

/-- What is copied ends at `data_index`. -/
structure Laid (w : FrameWriter) : Prop where
  copied : copiedSize w.copies = w.dataIndex
  ends : ∀ copy ∈ w.copies, copy.dataIndex + copy.bytes.length ≤ w.dataIndex

/-- Nothing has been copied at the start. -/
theorem laid_new : Laid {} := ⟨rfl, fun _ hcopy => absurd hcopy List.not_mem_nil⟩

/-- Bytes copied at the index follow those in front of them. -/
theorem Laid.copy {w : FrameWriter} (h : Laid w) (bytes : Bytes) : Laid (w.copy bytes) where
  copied := by
    have hcopied := h.copied
    show copiedSize (w.copies ++ [⟨w.dataIndex, bytes⟩]) = _
    unfold copiedSize
    rw [List.map_append, List.sum_append]
    show copiedSize w.copies + (bytes.length + 0) = w.dataIndex + bytes.length
    rw [hcopied, Nat.add_zero]
  ends := by
    intro copy hcopy
    show copy.dataIndex + copy.bytes.length ≤ w.dataIndex + bytes.length
    rcases List.mem_append.mp hcopy with hcopy | hcopy
    · exact Nat.le_trans (h.ends copy hcopy) (Nat.le_add_right _ _)
    · obtain rfl := List.mem_singleton.mp hcopy
      exact Nat.le_refl _

section

variable (sps pps : Bytes)

/-- A unit is copied behind the others, an IDR slice with its parameter sets in front. -/
theorem Laid.add {w : FrameWriter} (h : Laid w) (nal : Nal) : Laid (w.add sps pps nal) := by
  unfold FrameWriter.add
  -- an IDR slice comes with two copies in front of its own
  split
  · exact ((h.copy sps).copy pps).copy nal.payload
  · exact h.copy nal.payload

/-- So all units of a picture are, by induction on them. -/
theorem Laid.foldl {w : FrameWriter} (h : Laid w) (nals : List Nal) :
    Laid (nals.foldl (FrameWriter.add sps pps) w) := by
  induction nals generalizing w with
  | nil => exact h
  | cons nal nals ih => exact ih (h.add sps pps nal)

/-- The index moves on by the unit, and by both parameter sets in front of an IDR slice. -/
theorem dataIndex_add (w : FrameWriter) (nal : Nal) :
    (w.add sps pps nal).dataIndex = w.dataIndex
      + ((if nal.type = .sliceIdr then sps.length + pps.length else 0) + nal.payload.length) := by
  unfold FrameWriter.add
  split
  · show w.dataIndex + sps.length + pps.length + nal.payload.length = _
    omega
  · show w.dataIndex + nal.payload.length = _
    omega

/-- Every IDR slice comes with the parameter sets. -/
theorem dataIndex_foldl (nals : List Nal) :
    (nals.foldl (FrameWriter.add sps pps) {}).dataIndex
      = totalSize nals + (idrSlices nals).length * (sps.length + pps.length) := by
  induction nals using List.reverseRecOn with
  | nil => rw [idrSlices, List.filter_nil, List.length_nil, Nat.zero_mul]; rfl
  | append_singleton nals nal ih =>
      rw [List.foldl_append, List.foldl_cons, List.foldl_nil, dataIndex_add, ih, idrSlices_concat,
        totalSize_concat]
      split
      · rw [List.length_append, List.length_singleton, Nat.succ_mul]
        omega
      · omega

end

/-! ### The frame -/

/-- What is copied to a frame is as long as the frame, and so is what it announces. No copy ends
behind its end. -/
structure FitsFrame (f : EncodedFrame) : Prop where
  announced : f.dataLen = f.maxSize
  copied : copiedSize f.copies = f.maxSize
  ends : ∀ copy ∈ f.copies, copy.dataIndex + copy.bytes.length ≤ f.maxSize

/-- Parameter sets counted once are enough for `n` copies exactly when there is at most one copy,
or nothing to copy. -/
theorem mul_eq_ite_iff (n p : Nat) :
    (n * p = if n = 0 then 0 else p) ↔ n ≤ 1 ∨ p = 0 := by
  match n with
  | 0 => simp
  | 1 => simp
  | n + 2 =>
      rw [if_neg (by omega), Nat.succ_mul]
      constructor
      · intro h
        have hzero : (n + 1) * p = 0 := by omega
        rcases Nat.mul_eq_zero.mp hzero with hn | hp
        · omega
        · exact .inr hp
      · rintro (hle | rfl)
        · omega
        · rw [Nat.mul_zero]

/-- The last NAL unit of a type is one of them. -/
theorem lastPayload_length_le (type : NalType) (nals : List Nal) :
    (lastPayload type nals).length ≤ totalSize (nals.filter fun nal => nal.type = type) := by
  unfold lastPayload
  cases hlast : (nals.filter fun nal => nal.type = type).getLast? with
  | none => exact Nat.zero_le _
  | some nal =>
      have hmem := List.mem_map_of_mem (f := fun nal : Nal => nal.payload.length)
        (List.mem_of_getLast? hlast)
      exact List.le_sum_of_mem hmem

/-- The slices and the last parameter sets are no more than all that x264 has returned. -/
theorem slices_parameterSets_le (nals : List Nal) :
    totalSize (slices nals) + parameterSetsSize nals ≤ totalSize nals := by
  have hparts : totalSize (slices nals) + totalSize (nals.filter fun nal => nal.type = .sps)
      + totalSize (nals.filter fun nal => nal.type = .pps) ≤ totalSize nals := by
    -- on the NAL units from the last one back; each is in one of the three lists at most
    induction nals using List.reverseRecOn with
    | nil => exact Nat.le_refl _
    | append_singleton nals nal ih =>
        rw [slices_concat, filter_concat, filter_concat, totalSize_concat]
        simp only [decide_eq_true_eq]
        cases htype : nal.type <;> simp [totalSize_concat] <;> omega
  have hsps := lastPayload_length_le .sps nals
  have hpps := lastPayload_length_le .pps nals
  unfold parameterSetsSize
  omega

/-- The frame that `Encode` makes is as long as what is copied to it if and only if x264 has
returned at most one IDR slice, or nothing is to be written in front of the IDR slices. x264
returns the size of its NAL units as an `int`, so an `int` holds the size of the frame. -/
theorem encode_fits_iff (x264EncoderEncode : Int → EncoderOutput) (frame : RawFrame)
    (hsize : 0 < (x264EncoderEncode frame.ts.toNat).size)
    (hint : totalSize (x264EncoderEncode frame.ts.toNat).nals < 2 ^ 31)
    (hfits : ParameterSetsFit (x264EncoderEncode frame.ts.toNat).nals) :
    ∃ f, encode x264EncoderEncode frame = some (.frame f) ∧ f.maxSize < 2 ^ 31 ∧
      (FitsFrame f ↔
        (idrSlices (x264EncoderEncode frame.ts.toNat).nals).length ≤ 1 ∨
          parameterSetsSize (x264EncoderEncode frame.ts.toNat).nals = 0) := by
  unfold encode
  dsimp only
  rw [if_neg (by omega), if_neg (by omega), scan_eq hfits]
  refine ⟨_, rfl, ?_⟩
  generalize (x264EncoderEncode frame.ts.toNat).nals = nals at hint ⊢
  have hlaid := laid_new.foldl (scanned nals).sps (scanned nals).pps (scanned nals).nals
  have hindex := dataIndex_foldl (scanned nals).sps (scanned nals).pps (slices nals)
  have hframe : (scanned nals).frameSize = totalSize (slices nals)
      + if (idrSlices nals).length = 0 then 0 else parameterSetsSize nals := by
    unfold NalScan.frameSize
    show (if !(idrSlices nals).isEmpty then _ else _) = _
    cases idrSlices nals <;> rfl
  have hbound : (scanned nals).frameSize < 2 ^ 31 := by
    have hle := slices_parameterSets_le nals
    rw [hframe]
    split_ifs <;> omega
  refine ⟨hbound, ?_⟩
  have hnals : (scanned nals).nals = slices nals := rfl
  rw [hnals] at hlaid ⊢
  rw [idrSlices_slices] at hindex
  rw [← mul_eq_ite_iff]
  -- the slices count the same in both loops, so only the parameter sets are left to compare
  generalize (slices nals).foldl _ _ = writer at hlaid hindex ⊢
  constructor
  · intro hfitsFrame
    have hcopied : copiedSize writer.copies = (scanned nals).frameSize := hfitsFrame.copied
    rw [hlaid.copied, hindex, hframe] at hcopied
    exact Nat.add_left_cancel hcopied
  · intro hequal
    have hsame : writer.dataIndex = (scanned nals).frameSize := by
      rw [hframe, ← hequal]
      exact hindex
    exact ⟨rfl, hlaid.copied.trans hsame,
      fun copy hcopy => Nat.le_trans (hlaid.ends copy hcopy) (Nat.le_of_eq hsame)⟩

/-- An encoder that returns these NAL units for every picture. -/
def encoderOf (nals : List Nal) : Int → EncoderOutput := fun pts => ⟨totalSize nals, nals, pts⟩

/-- An IDR frame of one slice, as x264 is set up to return it. -/
def oneSlice : List Nal :=
  [⟨.sps, [0, 0, 0, 1, 0x67]⟩, ⟨.pps, [0, 0, 0, 1, 0x68]⟩, ⟨.sei, [0, 0, 1, 6]⟩,
    ⟨.sliceIdr, [0, 0, 1, 0x65, 1]⟩]

/-- A picture with a single IDR slice. -/
theorem oneSlice_fits_iff :
    ∃ f, encode (encoderOf oneSlice) ⟨0, 0⟩ = some (.frame f) ∧ f.maxSize < 2 ^ 31 ∧
      (FitsFrame f ↔ (idrSlices oneSlice).length ≤ 1 ∨ parameterSetsSize oneSlice = 0) :=
  encode_fits_iff (encoderOf oneSlice) ⟨0, 0⟩ (by decide) (by decide)
    (by show ∀ nal ∈ _, _; decide)

/-- An IDR frame of two slices. -/
def twoSlices : List Nal :=
  [⟨.sps, [0, 0, 0, 1, 0x67]⟩, ⟨.pps, [0, 0, 0, 1, 0x68]⟩, ⟨.sliceIdr, [0, 0, 1, 0x65, 1]⟩,
    ⟨.sliceIdr, [0, 0, 1, 0x65, 2]⟩]

/-- For two slices, 30 bytes are copied to a frame of 20, the last ones behind its end. -/
theorem twoSlices_not_fits :
    ParameterSetsFit twoSlices ∧
      ∃ f, encode (encoderOf twoSlices) ⟨0, 0⟩ = some (.frame f) ∧ ¬ FitsFrame f ∧
        f.maxSize = 20 ∧ copiedSize f.copies = 30 ∧
        ∃ copy ∈ f.copies, f.maxSize < copy.dataIndex + copy.bytes.length := by
  refine ⟨by show ∀ nal ∈ _, _; decide, _, rfl, ?_, rfl, rfl, ?_⟩
  · intro hfits
    have hcopied := hfits.copied
    exact absurd hcopied (by decide)
  · decide

end Xrtc.Proofs.Sdk
