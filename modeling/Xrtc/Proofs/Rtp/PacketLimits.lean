import Xrtc.Proofs.Rtp.PayloadSize

/-!
# `Xrtc.Proofs.Rtp.PacketLimits`: the first and the last packet of a frame

The packets of a frame keep within `max_payload_len`, the first and the last of several
leave room for their reductions, and so does the only packet of a frame with one NAL unit
(`WithinLimits`). The reductions are applied in three places: `PacketizeFuA` hands those
of the NAL unit to the split, `PacketizeStapA` starts with less room, and needs more for
the last NAL unit of the frame. `Xrtc.Proofs.Rtp.Groups` says for each group what its
packets leave (`Group.Placed`); here this is put together for the whole queue.

A frame with a NAL unit of more than `2 ^ 31` bytes has no packets at all, as long as the
size does not wrap around to a positive `int`. From `2 ^ 32 + 2` bytes on it does, and then
the limits are not kept (`wrappedNalu_not_withinLimits`).
-/

set_option autoImplicit false

namespace Xrtc.Proofs.Rtp

open Xrtc.Lib
open Xrtc.Rtp
open Xrtc.Rtp.RtpPacketizerH264

/-! ### Groups in a row -/

/-- The sizes of a group are those of its payloads. -/
theorem Group.payloads_map_length (g : Group) : g.payloads.map List.length = g.sizes := by
  cases g with
  | aggregation nalus =>
      show [(aggregationPayload nalus).length] = [Group.aggregationSize nalus]
      rw [aggregationPayload_length]
  | fragments header pieces =>
      show (fuAs header true pieces).map List.length = pieces.map (2 + ·.length)
      generalize true = first
      induction pieces generalizing first with
      | nil => rfl
      | cons piece pieces ih =>
          rw [fuAs, List.map_cons, ih, List.map_cons, fuA, List.length_cons, List.length_cons]
          congr 1
          omega

/-- A group has a packet. -/
theorem Group.Fits.sizes_ne_nil {room : Nat} {g : Group} (h : g.Fits room) : g.sizes ≠ [] := by
  rw [← g.payloads_map_length]
  exact fun hnil => (payloads_ne_nil h).1 (List.map_eq_nil_iff.mp hnil)

/-- And a unit in it. -/
theorem Group.Fits.nalus_pos {room : Nat} {g : Group} (h : g.Fits room) : 0 < g.nalus.length := by
  cases g with
  | aggregation nalus => exact List.length_pos_iff.mpr h.1
  | fragments header pieces => exact Nat.one_pos

/-- The last packet of groups that end with the frame, if it is not the first one too. -/
theorem AllPlaced.last {limits : PayloadLimits} {n room : Nat} {groups : List Group} :
    ∀ {i : Nat}, AllPlaced limits n i groups → (∀ g ∈ groups, g.Fits room) →
      i + (groups.flatMap Group.nalus).length = n →
      (i ≠ 0 ∨ 2 ≤ (groups.flatMap Group.sizes).length) →
        ∀ s ∈ (groups.flatMap Group.sizes).getLast?,
          (s : Int) ≤ limits.maxPayloadLen - limits.lastPacketReductionLen := by
  induction groups with
  | nil => exact fun _ _ _ _ s hs => nomatch hs
  | cons g groups ih =>
      intro i hplaced hfits hend hseveral s hs
      have hpos := (hfits g List.mem_cons_self).nalus_pos
      rw [List.flatMap_cons] at hend hseveral hs
      cases groups with
      | nil =>
          rw [List.flatMap_nil, List.append_nil] at hend hseveral hs
          exact hplaced.1.last hend hseveral s hs
      | cons next groups =>
          -- the last packet is one of the groups behind the first
          have hne : (next :: groups).flatMap Group.sizes ≠ [] := by
            rw [List.flatMap_cons]
            exact List.append_ne_nil_of_left_ne_nil
              (hfits next (List.mem_cons_of_mem _ List.mem_cons_self)).sizes_ne_nil _
          rw [List.getLast?_append_of_ne_nil _ hne] at hs
          rw [List.length_append] at hend
          exact ih hplaced.2 (fun h hh => hfits h (List.mem_cons_of_mem _ hh)) (by omega)
            (Or.inl (by omega)) s hs

/-! ### Frames -/

/-- The packets of a frame keep the limits. -/
structure WithinLimits (limits : PayloadLimits) (nalus : List Bytes) (sizes : List Nat) : Prop where
  max : ∀ s ∈ sizes, (s : Int) ≤ limits.maxPayloadLen
  first : 2 ≤ sizes.length → ∀ s ∈ sizes.head?,
    (s : Int) ≤ limits.maxPayloadLen - limits.firstPacketReductionLen
  last : 2 ≤ sizes.length → ∀ s ∈ sizes.getLast?,
    (s : Int) ≤ limits.maxPayloadLen - limits.lastPacketReductionLen
  single : nalus.length = 1 → ∀ s, sizes = [s] →
    (s : Int) ≤ limits.maxPayloadLen - limits.singlePacketReductionLen

/-- No packets are within every limit. -/
theorem withinLimits_nil (limits : PayloadLimits) (nalus : List Bytes) :
    WithinLimits limits nalus [] :=
  ⟨fun _ hs => absurd hs List.not_mem_nil, fun htwo => absurd htwo (by simp),
    fun htwo => absurd htwo (by simp), fun _ s hs => absurd hs (by simp)⟩

/-- The groups of a frame keep the limits, each by the reductions of its place: the first and the
last packet of a frame have their own. -/
theorem withinLimits_groups {limits : PayloadLimits} (h : Usable limits) {groups : List Group}
    (hfits : ∀ g ∈ groups, g.Fits limits.maxPayloadLen.toNat)
    (hplaced : AllPlaced limits (groups.flatMap Group.nalus).length 0 groups) :
    WithinLimits limits (groups.flatMap Group.nalus) (groups.flatMap Group.sizes) := by
  have hnonneg : 0 ≤ limits.maxPayloadLen := by
    have hlow := h.singleNonneg
    have hhigh := h.singleLe
    omega
  have hsizes : ∀ s ∈ groups.flatMap Group.sizes, (s : Int) ≤ limits.maxPayloadLen := by
    intro s hs
    obtain ⟨g, hg, hs⟩ := List.mem_flatMap.mp hs
    rw [← g.payloads_map_length] at hs
    obtain ⟨payload, hpayload, rfl⟩ := List.mem_map.mp hs
    have hle := (hfits g hg).payload_length payload hpayload
    omega
  cases groups with
  | nil => exact withinLimits_nil limits _
  | cons g groups =>
      have hne := (hfits g List.mem_cons_self).sizes_ne_nil
      have hhead : ((g :: groups).flatMap Group.sizes).head? = g.sizes.head? := by
        rw [List.flatMap_cons, List.head?_append_of_ne_nil _ hne]
      -- a frame with one NAL unit has one group
      have hone : ((g :: groups).flatMap Group.nalus).length = 1 → groups = [] := by
        intro hlength
        have hpos := (hfits g List.mem_cons_self).nalus_pos
        cases groups with
        | nil => rfl
        | cons next groups =>
            have hnext := (hfits next (List.mem_cons_of_mem _ List.mem_cons_self)).nalus_pos
            rw [List.flatMap_cons, List.flatMap_cons, List.length_append, List.length_append]
              at hlength
            omega
      refine ⟨hsizes, fun htwo s hs => ?_, fun htwo => hplaced.last hfits (Nat.zero_add _)
        (Or.inr htwo), fun hlength s hs => ?_⟩
      · rw [hhead] at hs
        refine hplaced.1.first rfl ?_ s hs
        by_cases hlength : ((g :: groups).flatMap Group.nalus).length = 1
        · rw [hone hlength, List.flatMap_cons, List.flatMap_nil, List.append_nil] at htwo
          exact Or.inr htwo
        · exact Or.inl hlength
      · have hgroups := hone hlength
        subst hgroups
        rw [List.flatMap_cons, List.flatMap_nil, List.append_nil] at hs
        refine hplaced.1.single hlength ?_ s ?_
        · rw [hs]
          rfl
        · rw [hs]
          rfl

/-- A frame has packets that keep the limits. -/
def PacketizesWithinLimits (buffer : Bytes) (limits : PayloadLimits) : Prop :=
  ∃ nalus p packets,
    nalUnits buffer = some nalus ∧ RtpPacketizerH264.new buffer limits = some p ∧
      p.drain = some packets ∧
      WithinLimits limits nalus (packets.map fun packet => packet.payload.length)

/-- The packets of a frame keep the limits, if its NAL units have at most `2 ^ 32` bytes each.
Behind that bound the `int` that counts the bytes of a unit wraps around to a positive number,
which is then planned for. -/
theorem packetize_withinLimits (buffer : Bytes) (limits : PayloadLimits) (h : Usable limits)
    (hnalus : ∀ nalus, nalUnits buffer = some nalus →
      ∀ nalu ∈ nalus, nalu ≠ [] ∧ nalu.length ≤ 2 ^ 32) :
    PacketizesWithinLimits buffer limits := by
  obtain ⟨nalus, hfind⟩ := nalUnits_isSome buffer
  have hnalus := hnalus nalus hfind
  have hnew := new_of_nalUnits hfind limits
  by_cases hshort : ∀ nalu ∈ nalus, tooLong nalu.length = false
  · have hlong : ∀ nalu ∈ nalus, nalu.length ≤ 2 ^ 31 := by
      intro nalu hnalu
      by_contra hlt
      have htoo := tooLong_of_lt (not_le.mp hlt) (hnalus nalu hnalu).2
      rw [hshort nalu hnalu] at htoo
      exact absurd htoo (by decide)
    -- all NAL units are queued, and draining the queue gives the packets of the groups
    obtain ⟨groups, hqueue, hcover, hfits, hplaced⟩ := ofNalUnits_spec h
      fun nalu hnalu => ⟨(hnalus nalu hnalu).1, hlong nalu hnalu⟩
    have hroom := fits_packetRoom h hfits
    have hdrain := drainLoop_spec limits hroom _ (count_le hroom)
    rw [hcover] at hdrain
    refine ⟨nalus, ⟨limits, nalus, groups.flatMap Group.units, (groups.map Group.count).sum⟩,
      marked (groups.flatMap Group.payloads), hfind, hnew.trans hqueue, hdrain, ?_⟩
    have hwithin := withinLimits_groups h hfits (by rwa [hcover])
    rw [hcover] at hwithin
    have hsizes : (marked (groups.flatMap Group.payloads)).map (fun packet => packet.payload.length)
        = groups.flatMap Group.sizes := by
      show (marked _).map (List.length ∘ RtpPacketToSend.payload) = _
      rw [← List.map_map, marked_payload, List.map_flatMap]
      exact List.flatMap_congr fun g _ => g.payloads_map_length
    rwa [hsizes]
  · -- the queue is dropped, and there are no packets
    obtain ⟨units, count, -, hqueue, -⟩ := ofNalUnits_queued h
      (fun nalu hnalu => by have := (hnalus nalu hnalu).2; omega)
      (fun nalu hnalu => (hnalus nalu (List.takeWhile_subset _ hnalu)).1)
    rw [if_neg hshort] at hqueue
    exact ⟨nalus, ⟨limits, nalus, [], 0⟩, [], hfind, hnew.trans hqueue, rfl,
      withinLimits_nil limits nalus⟩

/-- The parameter sets are one packet, and the slice is two. -/
theorem smallFrame_withinLimits : PacketizesWithinLimits smallFrame smallLimits := by
  have hnalus : nalUnits smallFrame
      = some [[0x67, 1, 2], [0x68, 3], [0x65, 4, 5, 6, 7, 8, 9, 10, 11, 12, 13, 14, 15]] := by
    decide +kernel
  refine packetize_withinLimits smallFrame smallLimits (by constructor <;> decide) fun nalus h => ?_
  rw [hnalus, Option.some.injEq] at h
  subst h
  decide

/-! ### A NAL unit whose size wraps around -/

/-- Limits that leave three bytes for the only packet of a frame with one NAL unit. -/
def tightLimits : PayloadLimits := ⟨12, 9, 0, 0⟩

/-- Of a NAL unit with `2 ^ 32 + 5` bytes behind its header, five bytes are sent, in one
packet. -/
theorem ofNalUnits_wrapped (header : UInt8) {body : Bytes} (hlength : body.length = 2 ^ 32 + 5) :
    ∃ piece : Bytes, piece.length = 5 ∧
      ofNalUnits [header :: body] tightLimits
        = some ⟨tightLimits, [header :: body], fragmentUnits header true [piece] ++ [], 1⟩ := by
  generalize hp : (⟨tightLimits, [header :: body], [], 0⟩ : RtpPacketizerH264) = p
  have hnalu : p.inputFragments[0]? = some (header :: body) := by rw [← hp]; rfl
  have hfits : p.singlePacketCapacity 0 < (header :: body).length := by
    rw [← hp, List.length_cons, hlength]
    show toSizeT (12 - 9) < 2 ^ 32 + 5 + 1
    decide
  have hlimits : p.fuALimits 0 = ⟨10, 9, 0, 0⟩ := by rw [← hp]; rfl
  -- the count of its bytes wraps around to five
  have hsplit : splitAboutEqual body.length (p.fuALimits 0) = some [5] := by
    rw [hlimits, hlength]
    decide +kernel
  have hsizes : (piecesFrom (header :: body) 1 [5]).map (fun piece => (piece.length : Int)) = [5] := by
    refine piecesFrom_sizes (header :: body) (by decide) ?_
    show (5 : Int) ≤ body.length
    omega
  have hfu := packetizeFuA_eq hnalu hsplit
  rw [if_neg (by decide)] at hfu
  obtain ⟨piece, hpiece⟩ : ∃ piece, piecesFrom (header :: body) 1 [5] = [piece] := ⟨_, rfl⟩
  rw [hpiece] at hfu hsizes
  refine ⟨piece, Int.ofNat.inj (List.cons.inj hsizes).1, ?_⟩
  unfold ofNalUnits generatePackets
  rw [List.length_singleton, hp, generateLoop]
  dsimp only
  rw [hnalu]
  dsimp only
  rw [if_pos hfits, hfu, ← hp]
  rfl

/-- Where the count wraps around to five, the unit becomes one packet that is far too long. -/
theorem loneNalu_not_withinLimits {n : Nat} (hn : n = 2 ^ 32 + 5) :
    ¬ PacketizesWithinLimits (loneNalu n) tightLimits := by
  obtain ⟨piece, hpiece, hqueue⟩ := ofNalUnits_wrapped 0x41
    (show (List.replicate n (0xff : UInt8)).length = 2 ^ 32 + 5 by rw [List.length_replicate, hn])
  rintro ⟨nalus, p, packets, hfind, hnew, hdrain, hwithin⟩
  rw [new_of_nalUnits hfind] at hnew
  rw [nalUnits_loneNalu, Option.some.injEq] at hfind
  subst hfind
  rw [hqueue, Option.some.injEq] at hnew
  subst hnew
  have hnext := nextPacket_lone some tightLimits 0x41 piece (0x41 :: List.replicate n 0xff) [] [] 0
    (by unfold packetRoom; omega)
  have hpackets : drain ⟨tightLimits, [0x41 :: List.replicate n 0xff],
      fragmentUnits 0x41 true [piece] ++ [], 1⟩ = some (marked [piece]) :=
    drainLoop_of_nextPacket hnext rfl rfl
  rw [hpackets, Option.some.injEq] at hdrain
  subst hdrain
  have hle := hwithin.single rfl piece.length rfl
  rw [hpiece] at hle
  exact absurd hle (by decide)

/-- The packets of this frame do not leave room for the reduction. -/
theorem wrappedNalu_not_withinLimits :
    Usable tightLimits ∧
      (∀ nalus, nalUnits (loneNalu (2 ^ 32 + 5)) = some nalus → ∀ nalu ∈ nalus, nalu ≠ []) ∧
      ¬ PacketizesWithinLimits (loneNalu (2 ^ 32 + 5)) tightLimits :=
  ⟨by constructor <;> decide, fun nalus h nalu hnalu => (loneNalu_isSingle _ nalus h nalu hnalu).1,
    loneNalu_not_withinLimits rfl⟩

end Xrtc.Proofs.Rtp
