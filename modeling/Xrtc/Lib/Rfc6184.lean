import Mathlib.Data.FinEnum
import Xrtc.Lib.Bytes

/-!
# `Xrtc.Lib.Rfc6184`: a depacketizer for H.264

What a receiver makes of a sequence of RTP payloads in the non-interleaved mode of
RFC 6184: single NAL unit packets (types 1 to 23), aggregation packets (STAP-A, type
24) and fragments (FU-A, type 28). `depacketize` is strict. It accepts a sequence only
if every payload is well formed, every fragmented NAL unit begins with a fragment
that has the start bit, ends with one that has the end bit, is not in a single
fragment, and nothing comes between its fragments.

The lemmas say what each kind of packet contributes. Nothing here names a program.
-/

set_option autoImplicit false

namespace Xrtc.Lib

/-- The type of a NAL unit with this header. -/
def nalType (header : UInt8) : UInt8 := header &&& 0x1f

/-- The NAL units in the body of a STAP-A: each after its size in two bytes. -/
def aggregated (data : Bytes) : Option (List Bytes) :=
  if data = [] then some []
  else if data.length < 2 then none
  else
    let size := (getBE16 data 0).toNat
    if data.length < 2 + size then none
    else (aggregated (data.drop (2 + size))).map ((data.drop 2).take size :: ·)
termination_by data.length
decreasing_by
  rw [List.length_drop]
  omega

/-- What a FU-A, given by its two header bytes and the fragment, makes of the NAL unit
of the fragments so far, and whether it is finished. -/
def addFragment (current : Option Bytes) (header fuHeader : UInt8) (fragment : Bytes) :
    Option (Bytes × Bool) :=
  let start := fuHeader &&& 0x80 != 0
  let stop := fuHeader &&& 0x40 != 0
  match start, current with
  | true, none =>
      if stop then none else some (((header &&& 0xe0) ||| nalType fuHeader) :: fragment, false)
  | true, some _ => none
  | false, none => none
  | false, some current => some (current ++ fragment, stop)

/-- The NAL units of a sequence of payloads. `current` is the NAL unit of the fragments
so far, if it is not finished. -/
def depacketize (current : Option Bytes) : List Bytes → Option (List Bytes)
  | [] => if current.isNone then some [] else none
  | payload :: payloads =>
      match payload with
      | [] => none
      | header :: body =>
          if 1 ≤ nalType header ∧ nalType header ≤ 23 then
            if current.isNone then (depacketize none payloads).map (payload :: ·) else none
          else if nalType header = 24 then
            if current.isNone then
              (aggregated body).bind fun nalus => (depacketize none payloads).map (nalus ++ ·)
            else none
          else if nalType header = 28 then
            match body with
            | [] => none
            | fuHeader :: fragment =>
                match addFragment current header fuHeader fragment with
                | none => none
                | some (nalu, true) => (depacketize none payloads).map (nalu :: ·)
                | some (nalu, false) => depacketize (some nalu) payloads
          else none

/-! ### Aggregation packets -/

/-- The body of a STAP-A with these NAL units. -/
def aggregate (nalus : List Bytes) : Bytes :=
  nalus.flatMap fun nalu => writeUInt16 (UInt16.ofNat nalu.length) ++ nalu

/-- No units give an empty payload. -/
@[simp] theorem aggregate_nil : aggregate [] = [] := rfl

/-- Each unit comes behind its own length. -/
@[simp] theorem aggregate_cons (nalu : Bytes) (nalus : List Bytes) :
    aggregate (nalu :: nalus)
      = writeUInt16 (UInt16.ofNat nalu.length) ++ nalu ++ aggregate nalus := rfl

/-- The NAL units of a STAP-A come back, if their sizes fit in two bytes. -/
theorem aggregated_aggregate {nalus : List Bytes} (h : ∀ nalu ∈ nalus, nalu.length < 2 ^ 16) :
    aggregated (aggregate nalus) = some nalus := by
  induction nalus with
  | nil => rw [aggregate_nil, aggregated, if_pos rfl]
  | cons nalu nalus ih =>
      have hsize : (UInt16.ofNat nalu.length).toNat = nalu.length := by
        rw [UInt16.toNat_ofNat']
        exact Nat.mod_eq_of_lt (h nalu List.mem_cons_self)
      have hlength : (aggregate (nalu :: nalus)).length
          = 2 + nalu.length + (aggregate nalus).length := by
        simp [Nat.add_assoc]
      have hget : getBE16 (aggregate (nalu :: nalus)) 0 = UInt16.ofNat nalu.length := by
        rw [aggregate_cons, List.append_assoc, getBE16_writeUInt16]
      have hne : aggregate (nalu :: nalus) ≠ [] := by
        intro hnil
        rw [hnil] at hlength
        simp at hlength
        omega
      have hdrop : (aggregate (nalu :: nalus)).drop 2 = nalu ++ aggregate nalus := by
        rw [aggregate_cons, List.append_assoc]
        exact List.drop_left' (writeUInt16_length _)
      rw [aggregated, if_neg hne, if_neg (by omega)]
      dsimp only
      rw [hget, hsize, if_neg (by omega), ← List.drop_drop, hdrop, List.drop_left, List.take_left,
        ih fun n hn => h n (List.mem_cons_of_mem _ hn)]
      rfl

/-! ### What a packet contributes -/

/-- A payload of one of the plain types is the unit itself. -/
theorem depacketize_single {header : UInt8} (h : 1 ≤ nalType header ∧ nalType header ≤ 23)
    (body : Bytes) (payloads : List Bytes) :
    depacketize none ((header :: body) :: payloads)
      = (depacketize none payloads).map ((header :: body) :: ·) := by
  rw [depacketize.eq_def]
  dsimp only
  rw [if_pos h]
  rfl

/-- An aggregation holds its units, if their lengths fit two bytes. -/
theorem depacketize_stapA {header : UInt8} (h : nalType header = 24) {nalus : List Bytes}
    (hnalus : ∀ nalu ∈ nalus, nalu.length < 2 ^ 16) (payloads : List Bytes) :
    depacketize none ((header :: aggregate nalus) :: payloads)
      = (depacketize none payloads).map (nalus ++ ·) := by
  rw [depacketize.eq_def]
  dsimp only
  rw [if_neg (by rw [h]; decide), if_pos h, aggregated_aggregate hnalus]
  rfl

/-- The second header byte of a fragment: the start and the end bit, and the type of the
NAL unit. -/
def fuHeader (header : UInt8) (first last : Bool) : UInt8 :=
  (if first then 0x80 else 0) ||| (if last then 0x40 else 0) ||| (header &&& 0x1f)

/-- A fragment of a NAL unit with this header. -/
def fuA (header : UInt8) (first last : Bool) (fragment : Bytes) : Bytes :=
  (header &&& 0xe0 ||| 28) :: fuHeader header first last :: fragment

/-- The indicator of a fragment has type 28, whatever unit it belongs to. -/
theorem nalType_fuIndicator : ∀ header : UInt8, nalType (header &&& 0xe0 ||| 28) = 28 := by
  decide +kernel

/-- The start bit of a fragment is set on the first one only, the end bit on the last
one only, and the header of the NAL unit comes back. -/
theorem fuHeader_bits : ∀ (header : UInt8) (first last : Bool),
    (fuHeader header first last &&& 0x80 != 0) = first ∧
      (fuHeader header first last &&& 0x40 != 0) = last ∧
      (header &&& 0xe0 ||| 28) &&& 0xe0 ||| nalType (fuHeader header first last) = header := by
  decide +kernel

/-- A fragment goes behind those of its unit. -/
theorem depacketize_fuA (current : Option Bytes) (header : UInt8) (first last : Bool)
    (fragment : Bytes) (payloads : List Bytes) :
    depacketize current (fuA header first last fragment :: payloads)
      = match addFragment current (header &&& 0xe0 ||| 28) (fuHeader header first last) fragment with
        | none => none
        | some (nalu, true) => (depacketize none payloads).map (nalu :: ·)
        | some (nalu, false) => depacketize (some nalu) payloads := by
  have htype := nalType_fuIndicator header
  rw [fuA, depacketize.eq_def]
  dsimp only
  rw [if_neg (by rw [htype]; decide), if_neg (by rw [htype]; decide), if_pos htype]

/-- The first fragment opens the unit and gives it its header back. -/
theorem depacketize_fuA_first (header : UInt8) (fragment : Bytes) (payloads : List Bytes) :
    depacketize none (fuA header true false fragment :: payloads)
      = depacketize (some (header :: fragment)) payloads := by
  obtain ⟨hstart, hstop, hheader⟩ := fuHeader_bits header true false
  rw [depacketize_fuA, addFragment.eq_def]
  dsimp only
  rw [hstart, hstop, hheader]
  rfl

/-- A further fragment continues the unit, the last one completes it. -/
theorem depacketize_fuA_next (header : UInt8) (last : Bool) (current fragment : Bytes)
    (payloads : List Bytes) :
    depacketize (some current) (fuA header false last fragment :: payloads)
      = if last then (depacketize none payloads).map ((current ++ fragment) :: ·)
        else depacketize (some (current ++ fragment)) payloads := by
  obtain ⟨hstart, hstop, -⟩ := fuHeader_bits header false last
  rw [depacketize_fuA, addFragment.eq_def]
  dsimp only
  rw [hstart, hstop]
  cases last <;> rfl

/-- The payloads of the fragments of a NAL unit. -/
def fuAs (header : UInt8) (first : Bool) : List Bytes → List Bytes
  | [] => []
  | fragment :: fragments =>
      fuA header first fragments.isEmpty fragment :: fuAs header false fragments

/-- The fragments behind the first complete the unit, by induction on them. -/
theorem depacketize_fuAs_rest (header : UInt8) {fragments : List Bytes} (h : fragments ≠ [])
    (current : Bytes) (payloads : List Bytes) :
    depacketize (some current) (fuAs header false fragments ++ payloads)
      = (depacketize none payloads).map ((current ++ fragments.flatten) :: ·) := by
  induction fragments generalizing current with
  | nil => exact absurd rfl h
  | cons fragment fragments ih =>
      rw [fuAs, List.cons_append, depacketize_fuA_next]
      cases fragments with
      | nil => simp [fuAs]
      | cons next fragments =>
          rw [List.isEmpty_cons, if_neg (by decide), ih (List.cons_ne_nil _ _)]
          simp

/-- A NAL unit in two or more fragments comes back. -/
theorem depacketize_fuAs (header : UInt8) {fragments : List Bytes} (h : 2 ≤ fragments.length)
    (payloads : List Bytes) :
    depacketize none (fuAs header true fragments ++ payloads)
      = (depacketize none payloads).map ((header :: fragments.flatten) :: ·) := by
  match fragments, h with
  | fragment :: next :: fragments, _ =>
      rw [fuAs, List.cons_append, List.isEmpty_cons, depacketize_fuA_first,
        depacketize_fuAs_rest header (List.cons_ne_nil _ _)]
      simp

end Xrtc.Lib
