import Mathlib.Data.List.TakeWhile
import Xrtc.Proofs.Rtp.RoundTrip

/-!
# `Xrtc.Proofs.Rtp.InBounds`: when the packetizer reads only inside the frame

The model has no result for a read out of range, a unit taken from an empty queue or read when
it is no longer in the queue (`outOfQueue`), a size below zero, or a loop that does not end.
`inBounds_iff` says exactly for which frames it has one with the limits of a call that does not
set them.

There are two such reads. `PacketizeStapA` copies the header of every NAL unit it takes,
and an empty NAL unit, between two start codes, has none (`generateLoop_nonempty`). An empty
NAL unit behind one with a size that is not positive as an `int` is never reached: there
`GeneratePackets` gives up. And `NextFragmentPacket` looks at the unit of a fragment once more
after it has been popped (`nextPacket_outOfQueue`), so no frame with a fragment in its queue
is drained.

Everything else stays in range, whatever the sizes are (`Queued`): also the only fragment
of a NAL unit, which comes from a size that wraps around, is sent as if it were one.
-/

set_option autoImplicit false

namespace Xrtc.Proofs.Rtp

open Xrtc.Lib
open Xrtc.Rtp
open Xrtc.Rtp.RtpPacketizerH264

/-! ### NAL units that are not split -/

/-- The sizes of NAL units that `PacketizeFuA` fails for: an `int` holds no positive number
for what is behind the header. -/
def tooLong (size : Nat) : Bool := 1 < size && toInt32 ((size - 1 : Nat) : Int) ≤ 0

/-- A unit up to `2 ^ 31` bytes is not too long: its count is a number of bytes. -/
theorem tooLong_of_le {size : Nat} (h : size ≤ 2 ^ 31) : tooLong size = false := by
  unfold tooLong
  by_cases hone : 1 < size
  · have hvalue := toInt32_of_lt (x := ((size - 1 : Nat) : Int)) (by omega) (by omega)
    rw [hvalue, Bool.and_eq_false_iff]
    exact Or.inr (decide_eq_false (by omega))
  · rw [decide_eq_false hone, Bool.false_and]

/-- So one that is too long has more. -/
theorem length_of_tooLong {size : Nat} (h : tooLong size = true) : 2 ^ 31 < size := by
  by_contra hle
  rw [tooLong_of_le (not_lt.mp hle)] at h
  exact absurd h (by decide)

/-- Up to `2 ^ 32` bytes, more than `2 ^ 31` are too long. -/
theorem tooLong_of_lt {size : Nat} (hlow : 2 ^ 31 < size) (hhigh : size ≤ 2 ^ 32) :
    tooLong size = true := by
  have hneg := toInt32_neg (n := size - 1) (by omega) (by omega)
  unfold tooLong
  rw [decide_eq_true (show 1 < size by omega), Bool.true_and, decide_eq_true hneg.le]

/-- The sizes of NAL units that are sent in fragments with limits that are not set. They do not
fit a packet of 1200 bytes, and of what is behind the header, as an `int` holds its size, there is
more than the first fragment takes. A fragment has room for 1198 bytes. -/
def fragmented (size : Nat) : Bool :=
  1200 < size && ((size - 1) / ((size - 1 + 1198 - 1) / 1198) : Nat) < toInt32 (size - 1 : Nat)

/-- Up to `2 ^ 31` bytes these are all the sizes above 1200. -/
theorem fragmented_of_le {size : Nat} (h : size ≤ 2 ^ 31) :
    fragmented size = decide (1200 < size) := by
  unfold fragmented
  by_cases hlong : 1200 < size
  · have hvalue := toInt32_of_lt (x := ((size - 1 : Nat) : Int)) (by omega) (by omega)
    have htwo : 2 ≤ (size - 1 + 1198 - 1) / 1198 := by omega
    have hless := Nat.div_lt_self (show 0 < size - 1 by omega) htwo
    rw [hvalue, decide_eq_true hlong, Bool.true_and, decide_eq_true_eq]
    exact_mod_cast hless
  · rw [decide_eq_false hlong, Bool.false_and]

/-- Fragments are split with limits that keep room for their two bytes of header. -/
theorem fuALimits_default {p : RtpPacketizerH264} (h : p.limits = {}) (i : Nat) :
    p.fuALimits i = { maxPayloadLen := (1198 : Nat) } := by
  unfold fuALimits
  rw [h]
  dsimp only
  split_ifs <;> rfl

/-- A packet has 1200 bytes with limits that are not set. -/
theorem singlePacketCapacity_default {p : RtpPacketizerH264} (h : p.limits = {}) (i : Nat) :
    p.singlePacketCapacity i = 1200 := by
  unfold singlePacketCapacity
  rw [h]
  split_ifs <;> rfl

/-- What `PacketizeFuA` does with a NAL unit that does not fit one packet, whatever its
size is: nothing, if an `int` holds no positive number for what is behind the header, and else
units for pieces that fit a packet. -/
theorem packetizeFuA_total {p : RtpPacketizerH264} (h : Usable p.limits) {i : Nat} {nalu : Bytes}
    (hnalu : p.inputFragments[i]? = some nalu) (hlength : nalu.length < 2 ^ 63)
    (hfits : p.singlePacketCapacity i < nalu.length) :
    (tooLong nalu.length = true → packetizeFuA p i = some (false, p)) ∧
      (tooLong nalu.length = false → ∃ header pieces, pieces ≠ [] ∧
        packetizeFuA p i = some (true,
          { p with
              packets := p.packets ++ fragmentUnits header true pieces
              numPacketsLeft := p.numPacketsLeft + pieces.length }) ∧
        (∀ piece ∈ pieces, 2 + piece.length ≤ p.limits.maxPayloadLen.toNat) ∧
        (p.limits = {} → (pieces.length = 1 ↔ fragmented nalu.length = false))) := by
  obtain ⟨hi, -⟩ := List.getElem?_eq_some_iff.mp hnalu
  obtain ⟨header, body, rfl⟩ : ∃ header body, nalu = header :: body :=
    List.exists_cons_of_ne_nil fun hnil => by simp [hnil] at hfits
  obtain ⟨hroomy, hmaxEq, hsingle, hsingleLt, hnofit⟩ := fuALimits_spec h hi hfits
  rw [show (header :: body).length - 1 = body.length from rfl] at hnofit
  rw [List.length_cons] at hlength
  have hmax := h.maxLe
  -- the capacity of a packet is at least one byte
  have hpos : 0 < body.length := by
    have hcapacity := (singlePacketCapacity_bounds h i).1
    rw [List.length_cons] at hfits
    omega
  have hlong : tooLong (header :: body).length = decide (toInt32 body.length ≤ 0) := by
    unfold tooLong
    rw [decide_eq_true (show 1 < (header :: body).length by rw [List.length_cons]; omega),
      Bool.true_and]
    rfl
  rw [hlong, decide_eq_true_eq, decide_eq_false_iff_not]
  constructor
  · -- `payload_len` is an `int`, and not positive: the split gives nothing
    intro hnonpos
    exact packetizeFuA_eq hnalu (splitAboutEqual_of_nonpos hroomy hpos (by omega) hnonpos hsingle
      hsingleLt hnofit)
  · intro hsize
    obtain ⟨sizes, hsplit, hne, hsum, hbounds⟩ := splitAboutEqual_spec hroomy
      (show body.length < 2 ^ 63 by omega) (by omega) hsingle hsingleLt hnofit
    have hsizes : ∀ s ∈ sizes, 0 ≤ s ∧ s < 2 ^ 31 := by
      intro s hs
      have hs := hbounds s hs
      omega
    have hle := toInt32_natCast_le body.length
    have hmap : (piecesFrom (header :: body) 1 sizes).map (fun piece => (piece.length : Int))
        = sizes := by
      refine piecesFrom_sizes (header :: body) hsizes ?_
      show sizes.sum ≤ body.length
      omega
    have hfu := packetizeFuA_eq hnalu hsplit
    rw [if_neg hne] at hfu
    refine ⟨header, piecesFrom (header :: body) 1 sizes, ?_, hfu, fun piece hpiece => ?_,
      fun hdefault => ?_⟩
    · intro hnil
      rw [hnil] at hmap
      exact hne hmap.symm
    rotate_left
    · -- as many pieces as sizes, and these are those of a split of 1198 bytes
      have hcapacity : 1200 < (header :: body).length := by
        have hroom := singlePacketCapacity_default hdefault i
        omega
      rw [fuALimits_default hdefault] at hsplit
      have hone := splitAboutEqual_length_eq_one_iff (m := 1198) (by omega) (by omega)
        (show 1198 < body.length by rw [List.length_cons] at hcapacity; omega) (by omega) (by omega)
        hsplit
      rw [← hmap, List.length_map] at hone
      rw [hone, fragmented, decide_eq_true hcapacity, Bool.true_and, decide_eq_false_iff_not,
        not_lt]
      rfl
    · have hmem := List.mem_map_of_mem (f := fun piece : Bytes => (piece.length : Int)) hpiece
      rw [hmap] at hmem
      have hs := hbounds _ hmem
      omega

/-! ### The queue -/

/-- A queue whose units belong to the NAL units of the input, with the number of packets
that they make: NAL units that go into one packet, and the fragments of a NAL unit. -/
inductive Queued : List Bytes → List PacketUnit → Nat → Prop
  | nil (fragments : List Bytes) : Queued fragments [] 0
  | aggregation {nalus fragments : List Bytes} {units : List PacketUnit} {n : Nat}
      (hfits : Group.Fits packetRoom (.aggregation nalus)) (h : Queued fragments units n) :
      Queued (nalus ++ fragments) (aggregationUnits true nalus ++ units) (n + 1)
  | fragments (nalu : Bytes) (header : UInt8) {pieces fragments : List Bytes}
      {units : List PacketUnit} {n : Nat} (hne : pieces ≠ [])
      (hroom : ∀ piece ∈ pieces, 2 + piece.length ≤ packetRoom) (h : Queued fragments units n) :
      Queued (nalu :: fragments) (fragmentUnits header true pieces ++ units) (pieces.length + n)

/-- The queue holds no more whole units than units. -/
theorem Queued.count_le {fragments : List Bytes} {units : List PacketUnit} {n : Nat}
    (h : Queued fragments units n) : n ≤ units.length := by
  induction h with
  | nil fragments => exact Nat.zero_le _
  | @aggregation nalus fragments units n hfits h ih =>
      have hpos := List.length_pos_iff.mpr hfits.1
      rw [List.length_append, aggregationUnits_length]
      omega
  | @fragments nalu header pieces fragments units n hne hroom h ih =>
      rw [List.length_append, fragmentUnits_length]
      omega

/-- The only fragment of a NAL unit is sent as it is, as a NAL unit that fits a packet is, and its
unit is not read again. -/
theorem nextPacket_lone (popped : PacketUnit → Option PacketUnit) (limits : PayloadLimits)
    (header : UInt8) (piece nalu : Bytes) (fragments : List Bytes) (packets : List PacketUnit)
    (n : Nat) (hroom : piece.length ≤ packetRoom) :
    nextPacketWith popped
        ⟨limits, nalu :: fragments, fragmentUnits header true [piece] ++ packets, n + 1⟩
        ({} : RtpPacketToSend)
      = some (some ({ marker := packets.isEmpty, payload := piece },
          ⟨limits, fragments, packets, n⟩)) := by
  have hwrite := write_whole { payload := List.replicate piece.length 0 }
    (List.length_replicate : (List.replicate piece.length (0 : UInt8)).length = piece.length)
  show nextPacketWith popped
    ⟨limits, nalu :: fragments, ⟨piece, true, true, false, header⟩ :: packets, n + 1⟩ _ = _
  refine nextPacket_of_takePacket ?_
  unfold takePacket
  dsimp only [RtpPacketToSend.ops_allocatePayload]
  rw [Bool.and_self, if_pos rfl]
  rw [allocatePayload_new hroom]
  dsimp only [Option.bind_eq_bind, Option.bind_some, RtpPacketToSend.ops_write]
  rw [hwrite]
  rfl

/-- A unit that `NextFragmentPacket` makes a packet of. -/
def IsFragment (unit : PacketUnit) : Prop :=
  (unit.firstFragment && unit.lastFragment) = false ∧ unit.aggregated = false

/-- Where a unit that has been popped cannot be read, `NextFragmentPacket` has no result. -/
theorem nextPacket_outOfQueue {p : RtpPacketizerH264} {unit : PacketUnit}
    {packets : List PacketUnit} (hpackets : p.packets = unit :: packets) (h : IsFragment unit) :
    p.nextPacketWith outOfQueue ({} : RtpPacketToSend) = none := by
  have hpacket : p.nextFragmentPacket outOfQueue unit packets ({} : RtpPacketToSend) = none := by
    unfold nextFragmentPacket
    cases RtpPacketOps.allocatePayload ({} : RtpPacketToSend)
        (kFuAHeaderSize + unit.sourceFragment.length) with
    | none => rfl
    | some packet =>
        dsimp only [Option.bind_eq_bind, Option.bind_some]
        generalize RtpPacketOps.write packet 0 _ = written
        cases written <;> rfl
  unfold nextPacketWith takePacket
  rw [hpackets]
  dsimp only
  rw [h.1, if_neg (by decide), h.2, if_neg (by decide), hpacket]
  rfl

/-- NAL units that are aggregated, or go out alone, are not fragments. -/
theorem not_isFragment_aggregation {first : Bool} {nalus : List Bytes} :
    ∀ unit ∈ aggregationUnits first nalus, ¬ IsFragment unit := by
  induction nalus generalizing first with
  | nil => exact fun unit hunit => absurd hunit List.not_mem_nil
  | cons nalu nalus ih =>
      rw [aggregationUnits]
      exact List.forall_mem_cons.mpr ⟨fun h => Bool.noConfusion h.2, ih⟩

/-- The pieces of a NAL unit are fragments unless there is only one. -/
theorem not_isFragment_fragments {header : UInt8} {pieces : List Bytes} (hne : pieces ≠ []) :
    (∀ unit ∈ fragmentUnits header true pieces, ¬ IsFragment unit) ↔ pieces.length = 1 := by
  rcases pieces with _ | ⟨piece, _ | ⟨next, pieces⟩⟩
  · exact absurd rfl hne
  · refine iff_of_true (fun unit hunit h => ?_) rfl
    rw [List.mem_singleton.mp hunit] at h
    exact Bool.noConfusion h.1
  · refine iff_of_false (fun hall => ?_) (by simp)
    exact hall _ List.mem_cons_self ⟨rfl, rfl⟩

/-- A queue without fragments is emptied by `NextPacket`, which reads only units in the queue. -/
theorem Queued.drainLoop (limits : PayloadLimits) {fragments : List Bytes}
    {units : List PacketUnit} {n : Nat} (h : Queued fragments units n)
    (hwhole : ∀ unit ∈ units, ¬ IsFragment unit) :
    ∃ payloads, units.isEmpty = payloads.isEmpty ∧
      ∀ fuel, n ≤ fuel →
        RtpPacketizerH264.drainLoop outOfQueue fuel ⟨limits, fragments, units, n⟩
          = some (marked payloads) := by
  induction h with
  | nil fragments =>
      refine ⟨[], rfl, fun fuel _ => ?_⟩
      rw [RtpPacketizerH264.drainLoop]
      rfl
  | @aggregation nalus fragments units n hfits h ih =>
      obtain ⟨-, hunits⟩ := List.forall_mem_append.mp hwhole
      obtain ⟨payloads, hempty, hrest⟩ := ih hunits
      refine ⟨aggregationPayload nalus :: payloads, ?_, fun fuel hfuel => ?_⟩
      · obtain ⟨nalu, nalus, rfl⟩ := List.exists_cons_of_ne_nil hfits.1
        rfl
      · obtain ⟨fuel, rfl⟩ : ∃ k, fuel = k + 1 := ⟨fuel - 1, by omega⟩
        rcases nalus with _ | ⟨nalu, _ | ⟨next, nalus⟩⟩
        · exact absurd rfl hfits.1
        · exact drainLoop_of_nextPacket (nextPacket_single _ limits nalu _ _ _ hfits.2) hempty
            (hrest fuel (by omega))
        · exact drainLoop_of_nextPacket
            (nextPacket_aggregated _ limits nalu next nalus _ _ _ hfits.2) hempty
            (hrest fuel (by omega))
  | @fragments nalu header pieces fragments units n hne hroom h ih =>
      obtain ⟨hpieces, hunits⟩ := List.forall_mem_append.mp hwhole
      obtain ⟨payloads, hempty, hrest⟩ := ih hunits
      -- a single piece goes out alone
      obtain ⟨piece, rfl⟩ := List.length_eq_one_iff.mp ((not_isFragment_fragments hne).mp hpieces)
      refine ⟨piece :: payloads, rfl, fun fuel hfuel => ?_⟩
      rw [List.length_singleton, Nat.add_comm] at hfuel ⊢
      obtain ⟨fuel, rfl⟩ : ∃ k, fuel = k + 1 := ⟨fuel - 1, by omega⟩
      have hpiece := hroom piece List.mem_cons_self
      exact drainLoop_of_nextPacket
        (nextPacket_lone _ limits header piece nalu _ _ _ (by omega)) hempty
        (hrest fuel (by omega))

/-- A packet has been made of every unit when the queue is empty, so there was no fragment. -/
theorem Queued.whole_of_drainLoop (limits : PayloadLimits) {fragments : List Bytes}
    {units : List PacketUnit} {n : Nat} (h : Queued fragments units n) :
    ∀ {fuel : Nat} {packets : List RtpPacketToSend},
      RtpPacketizerH264.drainLoop outOfQueue fuel ⟨limits, fragments, units, n⟩ = some packets →
        ∀ unit ∈ units, ¬ IsFragment unit := by
  -- a call has left the queue that the rest of the loop has to empty
  have hloop : ∀ {p p' : RtpPacketizerH264} {packet : RtpPacketToSend} {fuel : Nat}
      {packets : List RtpPacketToSend},
      p.nextPacketWith outOfQueue ({} : RtpPacketToSend) = some (some (packet, p')) →
        RtpPacketizerH264.drainLoop outOfQueue fuel p = some packets →
          ∃ fuel' packets', RtpPacketizerH264.drainLoop outOfQueue fuel' p' = some packets' := by
    intro p p' packet fuel packets hnext hdrain
    rw [RtpPacketizerH264.drainLoop, hnext] at hdrain
    cases fuel with
    | zero => cases hdrain
    | succ fuel =>
        obtain ⟨packets', hrest, -⟩ := Option.map_eq_some_iff.mp hdrain
        exact ⟨fuel, packets', hrest⟩
  induction h with
  | nil fragments => exact fun _ unit hunit => absurd hunit List.not_mem_nil
  | @aggregation nalus fragments units n hfits h ih =>
      intro fuel packets hdrain
      refine List.forall_mem_append.mpr ⟨not_isFragment_aggregation, ?_⟩
      rcases nalus with _ | ⟨nalu, _ | ⟨next, nalus⟩⟩
      · exact absurd rfl hfits.1
      · obtain ⟨fuel', packets', hrest⟩ := hloop
          (nextPacket_single _ limits nalu fragments units n hfits.2) hdrain
        exact ih hrest
      · obtain ⟨fuel', packets', hrest⟩ := hloop
          (nextPacket_aggregated _ limits nalu next nalus fragments units n hfits.2) hdrain
        exact ih hrest
  | @fragments nalu header pieces fragments units n hne hroom h ih =>
      intro fuel packets hdrain
      rcases pieces with _ | ⟨piece, _ | ⟨next, pieces⟩⟩
      · exact absurd rfl hne
      · have hpiece := hroom piece List.mem_cons_self
        rw [List.length_singleton, Nat.add_comm] at hdrain
        obtain ⟨fuel', packets', hrest⟩ := hloop
          (nextPacket_lone _ limits header piece nalu fragments units n (by omega)) hdrain
        exact List.forall_mem_append.mpr
          ⟨(not_isFragment_fragments (List.cons_ne_nil _ _)).mpr rfl, ih hrest⟩
      · -- the first of several pieces
        have hnone := nextPacket_outOfQueue
          (p := ⟨limits, nalu :: fragments,
            fragmentUnits header true (piece :: next :: pieces) ++ units,
            (piece :: next :: pieces).length + n⟩) rfl ⟨rfl, rfl⟩
        rw [RtpPacketizerH264.drainLoop, hnone] at hdrain
        cases hdrain

/-! ### A frame whose reachable NAL units are not empty -/

/-- A NAL unit that is aggregated takes its length at least. -/
theorem length_le_aggregationSize {nalu : Bytes} {nalus : List Bytes} (h : nalu ∈ nalus) :
    nalu.length ≤ Group.aggregationSize nalus := by
  match nalus, h with
  | [first], h => rw [List.mem_singleton.mp h]; exact le_refl _
  | first :: next :: nalus, h =>
      have hle := length_le_aggregate h
      show _ ≤ 1 + (aggregate (first :: next :: nalus)).length
      omega

/-- The loop of `GeneratePackets` over NAL units that are not empty, up to one that
`PacketizeFuA` fails for, or to the end of the frame. -/
theorem generateLoop_queued {limits : PayloadLimits} (h : Usable limits)
    {nalus behind : List Bytes} (hnalus : ∀ nalu ∈ nalus, nalu ≠ [] ∧ nalu.length < 2 ^ 63)
    (hshort : ∀ nalu ∈ nalus, tooLong nalu.length = false)
    (hbehind : ∀ nalu ∈ behind.head?, nalu.length < 2 ^ 63 ∧ tooLong nalu.length = true)
    (fuel : Nat) :
    ∀ (i : Nat) (packets : List PacketUnit) (n : Nat), i ≤ nalus.length →
      (nalus ++ behind).length ≤ fuel + i →
        ∃ units count,
          generateLoop fuel ⟨limits, nalus ++ behind, packets, n⟩ i
            = some (behind.isEmpty,
                ⟨limits, nalus ++ behind, packets ++ units, n + count⟩) ∧
            Queued (nalus.drop i ++ behind) units count ∧
            (limits = {} → ((∀ unit ∈ units, ¬ IsFragment unit) ↔
              ∀ nalu ∈ nalus.drop i, fragmented nalu.length = false)) := by
  have hmax := h.maxLe
  induction fuel with
  | zero =>
      intro i packets n hi hfuel
      rw [List.length_append] at hfuel
      have hnil : behind = [] := List.eq_nil_of_length_eq_zero (by omega)
      subst hnil
      have hnone : (nalus ++ [])[i]? = none :=
        List.getElem?_eq_none (by rw [List.append_nil]; omega)
      refine ⟨[], 0, ?_, .nil _, fun _ => iff_of_true (List.forall_mem_nil _) ?_⟩
      · rw [generateLoop]
        dsimp only
        rw [hnone, List.append_nil packets]
        rfl
      · rw [List.drop_eq_nil_of_le (by omega)]
        exact List.forall_mem_nil _
  | succ fuel ih =>
      intro i packets n hi hfuel
      rw [generateLoop]
      dsimp only
      by_cases hend : i = nalus.length
      · subst hend
        cases behind with
        | nil =>
            have hnone : (nalus ++ ([] : List Bytes))[nalus.length]? = none :=
              List.getElem?_eq_none (by rw [List.append_nil])
            refine ⟨[], 0, ?_, .nil _, fun _ => iff_of_true (List.forall_mem_nil _) ?_⟩
            · rw [hnone, List.append_nil packets]
              rfl
            · rw [List.drop_length]
              exact List.forall_mem_nil _
        | cons nalu behind =>
            -- the loop gives up
            obtain ⟨hlength, hlong⟩ := hbehind nalu (Option.mem_some_iff.mpr rfl)
            have hlarge := length_of_tooLong hlong
            have hnalu : (nalus ++ nalu :: behind)[nalus.length]? = some nalu := by simp
            have hcapacity := (singlePacketCapacity_bounds
              (p := ⟨limits, nalus ++ nalu :: behind, packets, n⟩) h nalus.length).2
            have hfits : singlePacketCapacity ⟨limits, nalus ++ nalu :: behind, packets, n⟩
                nalus.length < nalu.length := by
              dsimp only at hcapacity
              omega
            have hfu := (packetizeFuA_total (p := ⟨limits, nalus ++ nalu :: behind, packets, n⟩) h
              hnalu hlength hfits).1 hlong
            refine ⟨[], 0, ?_, .nil _, fun _ => iff_of_true (List.forall_mem_nil _) ?_⟩
            · rw [hnalu]
              dsimp only
              rw [if_pos hfits, hfu, List.append_nil]
              rfl
            · rw [List.drop_length]
              exact List.forall_mem_nil _
      · obtain ⟨nalu, hget⟩ : ∃ nalu, nalus[i]? = some nalu :=
          ⟨_, List.getElem?_eq_getElem (by omega)⟩
        have hnalu : (nalus ++ behind)[i]? = some nalu := by
          rw [List.getElem?_append_left (by omega), hget]
        have hmem := List.mem_of_getElem? hget
        rw [hnalu]
        dsimp only
        by_cases hfits : singlePacketCapacity ⟨limits, nalus ++ behind, packets, n⟩ i < nalu.length
        · -- the NAL unit is fragmented
          obtain ⟨header, pieces, hne, hfu, hroom, hone⟩ :=
            (packetizeFuA_total (p := ⟨limits, nalus ++ behind, packets, n⟩) h hnalu
              (hnalus nalu hmem).2 hfits).2 (hshort nalu hmem)
          obtain ⟨units, count, hloop, hqueued, hwhole⟩ := ih (i + 1)
            (packets ++ fragmentUnits header true pieces) (n + pieces.length) (by omega) (by omega)
          obtain ⟨hlt, hget⟩ := List.getElem?_eq_some_iff.mp hget
          have hdrop : nalus.drop i = nalu :: nalus.drop (i + 1) := by
            rw [List.drop_eq_getElem_cons hlt, hget]
          refine ⟨fragmentUnits header true pieces ++ units, pieces.length + count, ?_, ?_,
            fun hdefault => ?_⟩
          · rw [if_pos hfits, hfu]
            dsimp only [Option.bind_eq_bind, Option.bind_some]
            rw [if_pos rfl, hloop, List.append_assoc, Nat.add_assoc]
          · rw [hdrop, List.cons_append]
            refine .fragments nalu header hne (fun piece hpiece => ?_) hqueued
            have hle := hroom piece hpiece
            dsimp only at hle
            unfold packetRoom
            omega
          · rw [hdrop, List.forall_mem_append, List.forall_mem_cons, not_isFragment_fragments hne,
              hone hdefault, hwhole hdefault]
        · -- the NAL unit is aggregated with those behind it
          have hlarge : ∀ n ∈ behind.head?, limits.maxPayloadLen.toNat < n.length ∧
              n.length < 2 ^ 63 := by
            intro n hn
            have hlong := length_of_tooLong (hbehind n hn).2
            exact ⟨by omega, (hbehind n hn).1⟩
          obtain ⟨taken, rest, hsplit, htaken, hstap, hsize, -⟩ :=
            packetizeStapA_spec (p := ⟨limits, nalus ++ behind, packets, n⟩) h rfl hnalus hlarge
              hget (by omega)
          have hpos := List.length_pos_iff.mpr htaken
          have hcount := congrArg List.length hsplit
          rw [List.length_drop, List.length_append] at hcount
          obtain ⟨units, count, hloop, hqueued, hwhole⟩ := ih (i + taken.length)
            (packets ++ aggregationUnits true taken) (n + 1) (by omega) (by omega)
          refine ⟨aggregationUnits true taken ++ units, count + 1, ?_, ?_, fun hdefault => ?_⟩
          · rw [if_neg hfits, hstap]
            dsimp only [Option.bind_eq_bind, Option.bind_some]
            rw [hloop, List.append_assoc, Nat.add_assoc, Nat.add_comm 1]
          · rw [← List.drop_drop, hsplit, List.drop_left] at hqueued
            rw [hsplit, List.append_assoc]
            refine .aggregation ⟨htaken, ?_⟩ hqueued
            dsimp only at hsize
            unfold packetRoom
            omega
          · have hshort : ∀ nalu ∈ taken, fragmented nalu.length = false := by
              intro nalu hnalu
              have hle := (length_le_aggregationSize hnalu).trans hsize
              rw [show limits.maxPayloadLen.toNat = 1200 by rw [hdefault]; rfl] at hle
              rw [fragmented, decide_eq_false (by omega), Bool.false_and]
            have hdrop : nalus.drop (i + taken.length) = rest := by
              rw [← List.drop_drop, hsplit, List.drop_left]
            rw [hdrop] at hwhole
            rw [hsplit, List.forall_mem_append, List.forall_mem_append, hwhole hdefault]
            exact and_congr_left fun _ => iff_of_true not_isFragment_aggregation hshort

/-- The queue of a packetizer for NAL units none of which is empty, as far as they are
reached. It is dropped again when one of them is too long. -/
theorem ofNalUnits_queued {limits : PayloadLimits} (h : Usable limits) {nalus : List Bytes}
    (hlength : ∀ nalu ∈ nalus, nalu.length < 2 ^ 63)
    (hne : ∀ nalu ∈ nalus.takeWhile fun nalu => !tooLong nalu.length, nalu ≠ []) :
    ∃ units count, Queued nalus units count ∧
      ofNalUnits nalus limits = some (if ∀ nalu ∈ nalus, tooLong nalu.length = false then
        ⟨limits, nalus, units, count⟩ else ⟨limits, nalus, [], 0⟩) ∧
      (limits = {} → (∀ nalu ∈ nalus, tooLong nalu.length = false) →
        ((∀ unit ∈ units, ¬ IsFragment unit) ↔
          ∀ nalu ∈ nalus, fragmented nalu.length = false)) := by
  -- the NAL units that are reached, and the one that is too long with those behind it
  have hsplit := List.takeWhile_append_dropWhile (p := fun nalu : Bytes => !tooLong nalu.length)
    (l := nalus)
  have hstop := List.head?_dropWhile_not (fun nalu : Bytes => !tooLong nalu.length) nalus
  have hshort : ∀ nalu ∈ nalus.takeWhile fun nalu => !tooLong nalu.length,
      tooLong nalu.length = false := by
    intro nalu hnalu
    have hnot := List.mem_takeWhile_imp hnalu
    simpa using hnot
  generalize nalus.takeWhile (fun nalu => !tooLong nalu.length) = reached at hsplit hne hshort
  generalize nalus.dropWhile (fun nalu => !tooLong nalu.length) = behind at hsplit hstop
  subst hsplit
  have hbehind : ∀ nalu ∈ behind.head?, nalu.length < 2 ^ 63 ∧ tooLong nalu.length = true := by
    intro nalu hnalu
    rw [Option.mem_def.mp hnalu] at hstop
    exact ⟨hlength nalu (List.mem_append_right _ (List.mem_of_mem_head? hnalu)), by simpa using hstop⟩
  obtain ⟨units, count, hloop, hqueued, hwhole⟩ := generateLoop_queued h
    (fun nalu hnalu => ⟨hne nalu hnalu, hlength nalu (List.mem_append_left _ hnalu)⟩) hshort hbehind
    (reached ++ behind).length 0 [] 0 (Nat.zero_le _) (le_refl _)
  refine ⟨units, count, hqueued, ?_, fun hdefault hall => ?_⟩
  rotate_left
  · -- then all of them are reached
    have hnil : behind = [] := by
      cases behind with
      | nil => rfl
      | cons nalu behind =>
          have hlong := (hbehind nalu (Option.mem_some_iff.mpr rfl)).2
          rw [hall nalu (List.mem_append_right _ List.mem_cons_self)] at hlong
          cases hlong
    rw [hnil, List.append_nil]
    exact hwhole hdefault
  unfold ofNalUnits generatePackets
  dsimp only
  rw [hloop]
  dsimp only [Option.bind_eq_bind, Option.bind_some]
  -- the loop comes to the end, or it fails and the queue is dropped
  cases behind with
  | nil =>
      have hall : ∀ nalu ∈ reached ++ [], tooLong nalu.length = false := by
        rwa [List.append_nil]
      show some (⟨limits, reached ++ [], [] ++ units, 0 + count⟩ : RtpPacketizerH264) = _
      rw [if_pos hall, List.nil_append, Nat.zero_add]
  | cons nalu behind =>
      have hlong := (hbehind nalu (Option.mem_some_iff.mpr rfl)).2
      have hnot : ¬ ∀ nalu' ∈ reached ++ nalu :: behind, tooLong nalu'.length = false := by
        intro hall
        rw [hall nalu (List.mem_append_right _ List.mem_cons_self)] at hlong
        exact absurd hlong (by decide)
      show some (⟨limits, reached ++ nalu :: behind, [], 0⟩ : RtpPacketizerH264) = _
      rw [if_neg hnot]

/-! ### A frame with a result -/

/-- The NAL units that the loop of `PacketizeStapA` takes have a header to read. -/
theorem stapALoop_nonempty {p : RtpPacketizerH264} (nalus : List Bytes) :
    ∀ {left aggregated headerLength i : Nat} {units : List PacketUnit} {j : Nat},
      stapALoop p left aggregated headerLength i nalus = some (units, j) →
        i ≤ j ∧ ∀ nalu ∈ nalus.take (j - i), nalu ≠ [] := by
  induction nalus with
  | nil =>
      intro left aggregated headerLength i units j h
      rw [stapALoop, Option.some.injEq, Prod.mk.injEq] at h
      exact ⟨h.2.le, by simp⟩
  | cons nalu nalus ih =>
      intro left aggregated headerLength i units j h
      rw [stapALoop] at h
      change (if payloadSizeNeeded p i (nalu.length + headerLength) ≤ left then _ else _) = _ at h
      split at h
      · simp only [Option.bind_eq_bind, Option.bind_eq_some_iff] at h
        obtain ⟨header, hheader, _, _, _, _, ⟨units', j'⟩, hloop, hresult⟩ := h
        obtain ⟨-, rfl⟩ := Prod.mk.inj (Option.some.inj hresult)
        obtain ⟨hle, hall⟩ := ih hloop
        refine ⟨by omega, ?_⟩
        rw [show j' - i = (j' - (i + 1)) + 1 by omega, List.take_succ_cons]
        intro n hn
        rcases List.mem_cons.mp hn with rfl | hn
        · rintro rfl
          exact absurd hheader (by simp)
        · exact hall n hn
      · rw [Option.some.injEq, Prod.mk.injEq] at h
        obtain ⟨-, rfl⟩ := h
        exact ⟨le_refl _, by simp⟩

/-- So have those that `PacketizeStapA` takes, and nothing else changes than the queue. -/
theorem packetizeStapA_nonempty {limits : PayloadLimits} {nalus : List Bytes}
    {packets : List PacketUnit} {n i j : Nat} {p : RtpPacketizerH264}
    (h : packetizeStapA ⟨limits, nalus, packets, n⟩ i = some (j, p)) :
    i ≤ j ∧ (∀ nalu ∈ (nalus.drop i).take (j - i), nalu ≠ []) ∧
      p = ⟨limits, nalus, p.packets, n + 1⟩ := by
  unfold packetizeStapA at h
  simp only [Option.bind_eq_bind, Option.bind_eq_some_iff] at h
  obtain ⟨⟨units, j'⟩, hloop, packets', -, hresult⟩ := h
  obtain ⟨rfl, rfl⟩ := Prod.mk.inj (Option.some.inj hresult)
  obtain ⟨hle, hall⟩ := stapALoop_nonempty _ hloop
  exact ⟨hle, hall, rfl⟩

/-- What is taken of two lists is in the first, or is taken of the second. -/
theorem mem_takeWhile_append {α : Type} {p : α → Bool} {x : α} {xs ys : List α}
    (h : x ∈ (xs ++ ys).takeWhile p) : x ∈ xs ∨ x ∈ ys.takeWhile p := by
  rw [List.takeWhile_append] at h
  split at h
  · exact List.mem_append.mp h
  · exact Or.inl (List.takeWhile_subset p h)

/-- At the end of the list nothing is reached. -/
theorem ne_nil_of_getElem?_eq_none {nalus : List Bytes} {i : Nat} (h : nalus[i]? = none)
    (p : Bytes → Bool) : ∀ nalu ∈ (nalus.drop i).takeWhile p, nalu ≠ [] := by
  rw [List.drop_eq_nil_of_le (List.getElem?_eq_none_iff.mp h)]
  intro nalu hmem
  cases hmem

/-- When the loop of `GeneratePackets` has a result, no NAL unit from the index on is
empty, as far as they are reached. -/
theorem generateLoop_nonempty {limits : PayloadLimits} (h : Usable limits) {nalus : List Bytes}
    (hlength : ∀ nalu ∈ nalus, nalu.length < 2 ^ 63) (fuel : Nat) :
    ∀ {i : Nat} {packets : List PacketUnit} {n : Nat} {r : Bool × RtpPacketizerH264},
      generateLoop fuel ⟨limits, nalus, packets, n⟩ i = some r →
        ∀ nalu ∈ (nalus.drop i).takeWhile fun nalu => !tooLong nalu.length, nalu ≠ [] := by
  -- on the fuel; a result means that the loop has come to the end or to a failure
  induction fuel with
  | zero =>
      intro i packets n r hloop
      rw [generateLoop] at hloop
      dsimp only at hloop
      cases hnalu : nalus[i]? with
      | none => exact ne_nil_of_getElem?_eq_none hnalu _
      | some nalu => simp [hnalu] at hloop
  | succ fuel ih =>
      intro i packets n r hloop
      rw [generateLoop] at hloop
      dsimp only at hloop
      cases hnalu : nalus[i]? with
      | none => exact ne_nil_of_getElem?_eq_none hnalu _
      | some nalu =>
          rw [hnalu] at hloop
          dsimp only at hloop
          obtain ⟨hi, hget⟩ := List.getElem?_eq_some_iff.mp hnalu
          split at hloop
          · -- a NAL unit that is fragmented is longer than the room of a packet
            rename_i hfits
            obtain ⟨hfail, hsplit⟩ := packetizeFuA_total (p := ⟨limits, nalus, packets, n⟩) h hnalu
              (hlength _ (List.mem_of_getElem? hnalu)) hfits
            rw [List.drop_eq_getElem_cons hi, hget, List.takeWhile_cons]
            cases hlong : tooLong nalu.length with
            | true =>
                -- a NAL unit that is too long ends the packetizing
                intro nalu hmem
                cases hmem
            | false =>
                obtain ⟨header, pieces, -, hfu, -⟩ := hsplit hlong
                rw [hfu] at hloop
                have hrest := ih (i := i + 1) hloop
                intro nalu' hmem
                rcases List.mem_cons.mp hmem with rfl | hmem
                · rintro rfl
                  exact absurd hfits (Nat.not_lt_zero _)
                · exact hrest nalu' hmem
          · -- those that are aggregated are read
            obtain ⟨⟨j, p⟩, hstap, hloop⟩ := Option.bind_eq_some_iff.mp hloop
            obtain ⟨hle, hall, hp⟩ := packetizeStapA_nonempty hstap
            dsimp only at hloop
            rw [hp] at hloop
            have hrest := ih hloop
            rw [← List.take_append_drop (j - i) (nalus.drop i), List.drop_drop,
              show i + (j - i) = j by omega]
            intro nalu hmem
            rcases mem_takeWhile_append hmem with hmem | hmem
            · exact hall nalu hmem
            · exact hrest nalu hmem

/-! ### Frames -/

/-- Making a packetizer for a frame and draining it reads only inside the frame, its NAL
units and its queues, and computes no size below zero. A unit that has been popped is not in the
queue any more. -/
def InBounds (buffer : Bytes) (limits : PayloadLimits) : Prop :=
  ∃ p packets, RtpPacketizerH264.new buffer limits = some p ∧ p.drainWith outOfQueue = some packets

/-- The sizes of the NAL units of a frame, which are the bytes behind a start code up to the next
one. -/
def naluSizes (buffer : Bytes) : List Nat :=
  (naluRanges buffer (startCodes buffer 0)).map fun range => range.2 - range.1

/-- No NAL unit is empty, in front of the first one that is too long to be packetized. -/
def NoReachableEmptyNalu (buffer : Bytes) : Prop :=
  ∀ size ∈ (naluSizes buffer).takeWhile fun size => !tooLong size, size ≠ 0

/-- No NAL unit is sent in fragments, as none of them is larger than a packet, or nothing of the
frame is sent, as one of them is too long to be packetized. -/
def NoFragmentSent (buffer : Bytes) : Prop :=
  (∃ size ∈ naluSizes buffer, tooLong size = true) ∨
    ∀ size ∈ naluSizes buffer, fragmented size = false

instance (buffer : Bytes) : Decidable (NoReachableEmptyNalu buffer) :=
  inferInstanceAs (Decidable (∀ size ∈ _, _))

instance (buffer : Bytes) : Decidable (NoFragmentSent buffer) :=
  inferInstanceAs (Decidable (_ ∨ _))

/-- The sizes are those of the views that the constructor makes. -/
theorem naluSizes_eq {buffer : Bytes} {nalus : List Bytes} (h : nalUnits buffer = some nalus) :
    naluSizes buffer = nalus.map List.length := by
  rw [nalUnits_eq, Option.some.injEq] at h
  rw [← h, naluSizes, List.map_map]
  refine List.map_congr_left fun range hrange => ?_
  exact (subview_range (spaced_startCodes buffer 0).1 hrange).symm

/-- The NAL units that are reached are not empty, as views and as ranges. -/
theorem noReachableEmptyNalu_iff {buffer : Bytes} {nalus : List Bytes}
    (h : nalUnits buffer = some nalus) :
    NoReachableEmptyNalu buffer ↔
      ∀ nalu ∈ nalus.takeWhile fun nalu => !tooLong nalu.length, nalu ≠ [] := by
  unfold NoReachableEmptyNalu
  rw [naluSizes_eq h, List.takeWhile_map, List.forall_mem_map]
  exact forall₂_congr fun nalu _ => not_congr List.length_eq_zero_iff

/-- So is the size of a NAL unit that is sent in fragments. -/
theorem noFragmentSent_iff {buffer : Bytes} {nalus : List Bytes}
    (h : nalUnits buffer = some nalus) :
    NoFragmentSent buffer ↔
      ((∀ nalu ∈ nalus, tooLong nalu.length = false) →
        ∀ nalu ∈ nalus, fragmented nalu.length = false) := by
  have hall : (¬ ∃ size ∈ nalus.map List.length, tooLong size = true) ↔
      ∀ nalu ∈ nalus, tooLong nalu.length = false := by
    simp only [not_exists, not_and, Bool.not_eq_true, List.forall_mem_map]
  unfold NoFragmentSent
  rw [naluSizes_eq h, List.forall_mem_map, or_iff_not_imp_left, hall]

/-- No view of a frame is longer than the frame. -/
theorem nalUnits_length {buffer : Bytes} {nalus : List Bytes} (h : nalUnits buffer = some nalus) :
    ∀ nalu ∈ nalus, nalu.length ≤ buffer.length := by
  obtain ⟨indices, -, hresult⟩ := Option.bind_eq_some_iff.mp h
  rw [← Option.some.inj hresult]
  intro nalu hnalu
  obtain ⟨index, -, rfl⟩ := List.mem_map.mp hnalu
  rw [subview, List.length_take, List.length_drop]
  omega

/-- With the limits of a call that sets none, the packetizer stays in range exactly for
the frames without an empty NAL unit that is reached, and without a fragment that is sent. No
object has `2 ^ 63` bytes. -/
theorem inBounds_iff {buffer : Bytes} (hlength : buffer.length < 2 ^ 63) :
    InBounds buffer {} ↔ NoReachableEmptyNalu buffer ∧ NoFragmentSent buffer := by
  obtain ⟨nalus, hfind⟩ := nalUnits_isSome buffer
  have hnew := new_of_nalUnits hfind {}
  have hle : ∀ nalu ∈ nalus, nalu.length < 2 ^ 63 :=
    fun nalu hnalu => (nalUnits_length hfind nalu hnalu).trans_lt hlength
  rw [noReachableEmptyNalu_iff hfind, noFragmentSent_iff hfind, InBounds, hnew]
  constructor
  · rintro ⟨p, packets, hqueue, hdrain⟩
    obtain ⟨r, hloop, -⟩ := Option.bind_eq_some_iff.mp hqueue
    have hne := generateLoop_nonempty defaultLimits_usable hle _ hloop
    refine ⟨hne, fun hshort => ?_⟩
    -- every unit that was queued has been sent
    obtain ⟨units, count, hqueued, hunits, hwhole⟩ :=
      ofNalUnits_queued defaultLimits_usable hle hne
    rw [hunits, if_pos hshort, Option.some.injEq] at hqueue
    subst hqueue
    exact (hwhole rfl hshort).mp (hqueued.whole_of_drainLoop {} hdrain)
  · rintro ⟨hne, hfragments⟩
    obtain ⟨units, count, hqueued, hunits, hwhole⟩ :=
      ofNalUnits_queued defaultLimits_usable hle hne
    rw [hunits]
    split
    · rename_i hshort
      obtain ⟨payloads, -, hdrain⟩ :=
        hqueued.drainLoop {} ((hwhole rfl hshort).mpr (hfragments hshort))
      exact ⟨_, marked payloads, rfl, hdrain _ hqueued.count_le⟩
    · exact ⟨_, [], rfl, rfl⟩

/-- A frame of small units stays inside. -/
theorem smallFrame_inBounds : InBounds smallFrame {} :=
  (inBounds_iff (by decide)).mpr (by decide +kernel)

/-- Between two start codes there is an empty NAL unit, and of a NAL unit that does not fit a
packet the fragments are sent. -/
theorem adjacentStartCodes_not_inBounds :
    ¬ InBounds [0, 0, 1, 0, 0, 1, 0x41] {} ∧ ¬ InBounds (loneNalu 1200) {} := by
  have hlength : (loneNalu 1200).length < 2 ^ 63 := by
    unfold loneNalu
    rw [List.length_append, List.length_replicate]
    decide
  -- a NAL unit of 1201 bytes, which is not too long
  have hsizes : naluSizes (loneNalu 1200) = [1201] := by
    rw [naluSizes_eq (nalUnits_loneNalu 1200), List.map_singleton, List.length_cons,
      List.length_replicate]
  have hsent : ¬ NoFragmentSent (loneNalu 1200) := by
    unfold NoFragmentSent
    rw [hsizes]
    decide
  rw [inBounds_iff (by decide), inBounds_iff hlength]
  exact ⟨by decide +kernel, fun h => hsent h.2⟩

end Xrtc.Proofs.Rtp
