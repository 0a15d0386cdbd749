import Mathlib.Algebra.Order.BigOperators.Group.List
import Xrtc.Lib.Rfc6184
import Xrtc.Proofs.Rtp.NalUnits
import Xrtc.Proofs.Rtp.SplitCorrect

/-!
# `Xrtc.Proofs.Rtp.Groups`: what the packetizer queues

The queue of a packetizer is a sequence of groups (`Group`): NAL units that go into
one packet together, and a NAL unit in fragments. A group knows its NAL units, the
units that stand for it in the queue, its number of packets and their payloads.

`ofNalUnits_spec` says that the queue that `GeneratePackets` builds is that of groups with
exactly the NAL units of the frame, in order, that every packet of them fits
(`Group.Fits`), and that the first and the last one leave room for their reductions
(`Group.Placed`).
-/

set_option autoImplicit false

namespace Xrtc.Proofs.Rtp

open Xrtc.Lib
open Xrtc.Rtp
open Xrtc.Rtp.RtpPacketizerH264

/-! ### Groups -/

/-- What goes into one packet, or is cut into several. -/
inductive Group where
  | aggregation (nalus : List Bytes)
  | fragments (header : UInt8) (pieces : List Bytes)

/-- The units of NAL units that are aggregated. -/
def aggregationUnits (first : Bool) : List Bytes → List PacketUnit
  | [] => []
  | nalu :: nalus =>
      ⟨nalu, first, nalus.isEmpty, true, nalu.headD 0⟩ :: aggregationUnits false nalus

/-- The units of the fragments of a NAL unit. -/
def fragmentUnits (header : UInt8) (first : Bool) : List Bytes → List PacketUnit
  | [] => []
  | piece :: pieces =>
      ⟨piece, first, pieces.isEmpty, false, header⟩ :: fragmentUnits header false pieces

namespace Group

def nalus : Group → List Bytes
  | aggregation nalus => nalus
  | fragments header pieces => [header :: pieces.flatten]

def units : Group → List PacketUnit
  | aggregation nalus => aggregationUnits true nalus
  | fragments header pieces => fragmentUnits header true pieces

/-- The number of packets of a group. -/
def count : Group → Nat
  | aggregation _ => 1
  | fragments _ pieces => pieces.length

/-- The bytes of an aggregation in a packet. A NAL unit that is alone is sent as it is. -/
def aggregationSize : List Bytes → Nat
  | [] => 0
  | [nalu] => nalu.length
  | nalu :: nalus => 1 + (aggregate (nalu :: nalus)).length

/-- The sizes of the packets of a group. -/
def sizes : Group → List Nat
  | aggregation nalus => [aggregationSize nalus]
  | fragments _ pieces => pieces.map (2 + ·.length)

/-- A group is not empty, and its packets take at most `room` bytes. A NAL unit is never
in a single fragment. -/
def Fits (room : Nat) : Group → Prop
  | aggregation nalus => nalus ≠ [] ∧ aggregationSize nalus ≤ room
  | fragments _ pieces => 2 ≤ pieces.length ∧ ∀ piece ∈ pieces, 2 + piece.length ≤ room

/-- The reductions of the packets of a group, given the number of NAL units of the frame
and the index of the first one of the group. -/
structure Placed (limits : PayloadLimits) (n i : Nat) (g : Group) : Prop where
  single : n = 1 → g.sizes.length = 1 →
    ∀ s ∈ g.sizes.head?, (s : Int) ≤ limits.maxPayloadLen - limits.singlePacketReductionLen
  first : i = 0 → (n ≠ 1 ∨ 2 ≤ g.sizes.length) →
    ∀ s ∈ g.sizes.head?, (s : Int) ≤ limits.maxPayloadLen - limits.firstPacketReductionLen
  last : i + g.nalus.length = n → (i ≠ 0 ∨ 2 ≤ g.sizes.length) →
    ∀ s ∈ g.sizes.getLast?, (s : Int) ≤ limits.maxPayloadLen - limits.lastPacketReductionLen

end Group

/-- The groups are placed one behind the other. -/
def AllPlaced (limits : PayloadLimits) (n : Nat) : Nat → List Group → Prop
  | _, [] => True
  | i, g :: groups => g.Placed limits n i ∧ AllPlaced limits n (i + g.nalus.length) groups

/-! ### Aggregation -/

/-- The bytes that `PacketizeStapA` counts in front of a NAL unit, given the number of
those already aggregated: nothing for the first one, the header of the packet and two
sizes for the second, and a size for the others. -/
def headerLength (aggregatedFragment : Nat) : Nat :=
  if aggregatedFragment = 0 then 0 else if aggregatedFragment = 1 then 5 else 2

/-- A unit costs at most five bytes besides its own: the header of the first and two lengths. -/
theorem headerLength_le (aggregatedFragment : Nat) : headerLength aggregatedFragment ≤ 5 := by
  unfold headerLength
  split_ifs <;> omega

/-- The bytes that `PacketizeStapA` counts for NAL units. -/
def aggregationCost (aggregatedFragment : Nat) : List Bytes → Nat
  | [] => 0
  | nalu :: nalus =>
      nalu.length + headerLength aggregatedFragment + aggregationCost (aggregatedFragment + 1) nalus

/-- From the second unit on, the cost is what the unit adds to the aggregated payload. -/
theorem aggregationCost_of_le {k : Nat} (hk : 2 ≤ k) (nalus : List Bytes) :
    aggregationCost k nalus = (aggregate nalus).length := by
  induction nalus generalizing k with
  | nil => rfl
  | cons nalu nalus ih =>
      rw [aggregationCost, ih (by omega), headerLength, if_neg (by omega), if_neg (by omega)]
      simp
      omega

/-- The count is the size of the packet. -/
theorem aggregationCost_zero (nalus : List Bytes) :
    aggregationCost 0 nalus = Group.aggregationSize nalus := by
  cases nalus with
  | nil => rfl
  | cons nalu nalus =>
      cases nalus with
      | nil => simp [aggregationCost, headerLength, Group.aggregationSize]
      | cons nalu' nalus =>
          rw [aggregationCost, aggregationCost, aggregationCost_of_le (le_refl 2)]
          show _ = 1 + (aggregate (nalu :: nalu' :: nalus)).length
          simp [headerLength]
          omega

/-- The units that the loop queues, before the last one is marked. -/
def unmarkedUnits (first : Bool) : List Bytes → List PacketUnit
  | [] => []
  | nalu :: nalus => ⟨nalu, first, false, true, nalu.headD 0⟩ :: unmarkedUnits false nalus

/-- The mark goes to the last of all units. -/
theorem markLast_append (units : List PacketUnit) {units' : List PacketUnit} (h : units' ≠ []) :
    markLast (units ++ units') = (markLast units').map (units ++ ·) := by
  induction units with
  | nil => simp
  | cons unit units ih =>
      have hcons : ∀ {rest : List PacketUnit}, rest ≠ [] →
          markLast (unit :: rest) = (markLast rest).map (unit :: ·) := by
        intro rest hrest
        cases rest with
        | nil => exact absurd rfl hrest
        | cons next rest =>
            rw [markLast]
            · cases markLast (next :: rest) <;> rfl
            · exact fun h => nomatch h
      rw [List.cons_append, hcons (by simp [h]), ih, Option.map_map]
      rfl

/-- With its last unit marked, an aggregation is complete. -/
theorem markLast_unmarkedUnits (first : Bool) {nalus : List Bytes} (h : nalus ≠ []) :
    markLast (unmarkedUnits first nalus) = some (aggregationUnits first nalus) := by
  induction nalus generalizing first with
  | nil => exact absurd rfl h
  | cons nalu nalus ih =>
      cases nalus with
      | nil => rfl
      | cons nalu' nalus =>
          have hrest := ih false (List.cons_ne_nil _ _)
          have hne : unmarkedUnits false (nalu' :: nalus) ≠ [] := by simp [unmarkedUnits]
          have happend := markLast_append [⟨nalu, first, false, true, nalu.headD 0⟩] hne
          rw [List.singleton_append, hrest] at happend
          rw [unmarkedUnits, happend]
          rfl

/-- The bytes `PacketizeStapA` needs for a NAL unit. -/
def payloadSizeNeeded (p : RtpPacketizerH264) (fragmentIndex size : Nat) : Nat :=
  if p.inputFragments.length ≠ 1 ∧ fragmentIndex = p.inputFragments.length - 1 then
    toSizeT (size + p.limits.lastPacketReductionLen)
  else size

/-- A unit that fits joins the aggregation. -/
theorem stapALoop_cons_of_le {p : RtpPacketizerH264} {left k i : Nat} {b : UInt8} {body : Bytes}
    {nalus : List Bytes}
    (hfits : payloadSizeNeeded p i ((b :: body).length + headerLength k) ≤ left)
    (hsize : (b :: body).length + headerLength k ≤ left) :
    stapALoop p left k (headerLength k) i ((b :: body) :: nalus)
      = (stapALoop p (left - (b :: body).length - headerLength k) (k + 1) (headerLength (k + 1))
          (i + 1) nalus).map fun r => (⟨b :: body, k = 0, false, true, b⟩ :: r.1, r.2) := by
  have hnext : (if k = 0 then kLengthFieldSize + (kNaluHeaderSize + kLengthFieldSize)
      else kLengthFieldSize) = headerLength (k + 1) := by
    simp only [headerLength, kLengthFieldSize, kNaluHeaderSize]
    split_ifs <;> omega
  rw [stapALoop]
  change (if payloadSizeNeeded p i ((b :: body).length + headerLength k) ≤ left then _ else _) = _
  rw [if_pos hfits, List.head?_cons, subSize_of_le (by omega), hnext]
  dsimp only [Option.bind_eq_bind, Option.bind_some]
  rw [subSize_of_le (by omega)]
  dsimp only [Option.bind_eq_bind, Option.bind_some]
  cases stapALoop p (left - (b :: body).length - headerLength k) (k + 1) (headerLength (k + 1))
    (i + 1) nalus <;> rfl

/-- The first unit that does not fit ends it. -/
theorem stapALoop_cons_of_lt {p : RtpPacketizerH264} {left k i : Nat} {nalu : Bytes}
    {nalus : List Bytes}
    (hfits : ¬ payloadSizeNeeded p i (nalu.length + headerLength k) ≤ left) :
    stapALoop p left k (headerLength k) i (nalu :: nalus) = some ([], i) := by
  rw [stapALoop]
  change (if payloadSizeNeeded p i (nalu.length + headerLength k) ≤ left then _ else _) = _
  rw [if_neg hfits]

/-- The loop of `PacketizeStapA` takes some of the NAL units, in order, that fit
together, and at least the first one if that fits. It stops in front of one that is too
large. When it takes the last one of the frame, what that one needs more is left. -/
theorem stapALoop_spec {p : RtpPacketizerH264} {room : Nat} {behind : List Bytes}
    (hbehind : ∀ nalu ∈ behind.head?, ∀ i k,
      room < payloadSizeNeeded p i (nalu.length + headerLength k)) (nalus : List Bytes)
    (hneeded : ∀ nalu ∈ nalus, nalu ≠ [] ∧
      ∀ i k, nalu.length + headerLength k ≤ payloadSizeNeeded p i (nalu.length + headerLength k)) :
    ∀ left k i : Nat, left ≤ room → ∃ taken rest, nalus = taken ++ rest ∧
      stapALoop p left k (headerLength k) i (nalus ++ behind)
        = some (unmarkedUnits (k = 0) taken, i + taken.length) ∧
      aggregationCost k taken ≤ left ∧
      (∀ nalu, nalus.head? = some nalu →
        payloadSizeNeeded p i (nalu.length + headerLength k) ≤ left → taken ≠ []) ∧
      (∀ extra, (∀ nalu ∈ nalus, ∀ k,
          payloadSizeNeeded p (p.inputFragments.length - 1) (nalu.length + headerLength k)
            = nalu.length + headerLength k + extra) →
        taken ≠ [] → i + taken.length = p.inputFragments.length →
          aggregationCost k taken + extra ≤ left) := by
  -- on the NAL units that may be taken; those behind them stop the loop
  induction nalus with
  | nil =>
      intro left k i hleft
      refine ⟨[], [], rfl, ?_, Nat.zero_le _, fun nalu h => absurd h (by simp),
        fun _ _ hne => absurd rfl hne⟩
      cases behind with
      | nil =>
          rw [List.nil_append, stapALoop]
          rfl
      | cons nalu behind =>
          have hlarge := hbehind nalu (Option.mem_some_iff.mpr rfl) i k
          exact stapALoop_cons_of_lt (by omega)
  | cons nalu nalus ih =>
      intro left k i hleft
      obtain ⟨hne, hle⟩ := hneeded nalu List.mem_cons_self
      rw [List.cons_append]
      by_cases hfits : payloadSizeNeeded p i (nalu.length + headerLength k) ≤ left
      · have hsize := (hle i k).trans hfits
        obtain ⟨b, body, rfl⟩ := List.exists_cons_of_ne_nil hne
        -- it is taken, and the loop goes on with the room that is left
        obtain ⟨taken, rest, hsplit, hloop, hcost, -, hextra⟩ :=
          ih (fun n hn => hneeded n (List.mem_cons_of_mem _ hn))
            (left - (b :: body).length - headerLength k) (k + 1) (i + 1) (by omega)
        refine ⟨(b :: body) :: taken, rest, by rw [hsplit]; rfl, ?_, ?_, fun _ _ _ => by simp,
          fun extra hneed _ hend => ?_⟩
        · rw [stapALoop_cons_of_le hfits hsize, hloop, Option.map_some, unmarkedUnits,
            List.length_cons, List.headD_cons, Nat.add_assoc, Nat.add_comm 1]
          rfl
        · rw [aggregationCost]
          omega
        · rw [List.length_cons] at hend
          rw [aggregationCost]
          by_cases htaken : taken = []
          · -- this is the last NAL unit of the frame
            subst htaken
            rw [show i = p.inputFragments.length - 1 by simp at hend; omega,
              hneed _ List.mem_cons_self] at hfits
            rw [aggregationCost]
            omega
          · have hrest := hextra extra (fun n hn => hneed n (List.mem_cons_of_mem _ hn)) htaken
              (by omega)
            omega
      · refine ⟨[], nalu :: nalus, rfl, stapALoop_cons_of_lt hfits, Nat.zero_le _,
          fun n hn hle' => ?_, fun _ _ hne => absurd rfl hne⟩
        cases hn
        exact absurd hle' hfits

/-! ### The limits -/

/-- The limits of a packetizer whose packets have room for a header and some data. -/
structure Usable (limits : PayloadLimits) : Prop where
  maxLe : limits.maxPayloadLen ≤ 1488
  singleNonneg : 0 ≤ limits.singlePacketReductionLen
  singleLe : limits.singlePacketReductionLen ≤ limits.maxPayloadLen - 3
  firstNonneg : 0 ≤ limits.firstPacketReductionLen
  firstLe : limits.firstPacketReductionLen ≤ limits.maxPayloadLen - 3
  lastNonneg : 0 ≤ limits.lastPacketReductionLen
  lastLe : limits.lastPacketReductionLen ≤ limits.maxPayloadLen - 3

/-- A NAL unit that is not empty and whose size the split can count. -/
def Countable (nalu : Bytes) : Prop := nalu ≠ [] ∧ nalu.length ≤ 2 ^ 31

/-- The room is not negative within usable limits, so the cast to `size_t` keeps it. -/
theorem toSizeT_room {limits : PayloadLimits} (h : Usable limits) {reduction : Int}
    (hlow : 0 ≤ reduction) (hhigh : reduction ≤ limits.maxPayloadLen - 3) :
    toSizeT (limits.maxPayloadLen - reduction) = (limits.maxPayloadLen - reduction).toNat := by
  have hmax := h.maxLe
  exact toSizeT_of_nonneg (by omega) (by omega)

/-- What a NAL unit may take, without the conversions. -/
theorem singlePacketCapacity_eq {p : RtpPacketizerH264} (h : Usable p.limits) (i : Nat) :
    (p.singlePacketCapacity i : Int) = p.limits.maxPayloadLen -
      (if p.inputFragments.length = 1 then p.limits.singlePacketReductionLen
        else if i = 0 then p.limits.firstPacketReductionLen
        else if i + 1 = p.inputFragments.length then p.limits.lastPacketReductionLen
        else 0) := by
  obtain ⟨hmax, hsingle, hsingleLe, hfirst, hfirstLe, hlast, hlastLe⟩ := id h
  unfold singlePacketCapacity
  split_ifs
  · rw [toSizeT_room h hsingle hsingleLe]
    omega
  · rw [toSizeT_room h hfirst hfirstLe]
    omega
  · rw [toSizeT_room h hlast hlastLe]
    omega
  · rw [toSizeT_of_nonneg (by omega) (by omega)]
    omega

/-- There is room for the indicator, the header and one byte of a fragment. -/
theorem singlePacketCapacity_bounds {p : RtpPacketizerH264} (h : Usable p.limits) (i : Nat) :
    3 ≤ p.singlePacketCapacity i ∧ p.singlePacketCapacity i ≤ p.limits.maxPayloadLen.toNat := by
  have hcapacity := singlePacketCapacity_eq h i
  obtain ⟨-, hsingle, hsingleLe, hfirst, hfirstLe, hlast, hlastLe⟩ := h
  split_ifs at hcapacity <;> omega

/-- What `PacketizeStapA` needs for a NAL unit, without the conversion. -/
theorem payloadSizeNeeded_eq {p : RtpPacketizerH264} (h : Usable p.limits) (i : Nat) {size : Nat}
    (hsize : size < 2 ^ 63 + 8) :
    (payloadSizeNeeded p i size : Int) = size +
      (if p.inputFragments.length ≠ 1 ∧ i = p.inputFragments.length - 1 then
        p.limits.lastPacketReductionLen else 0) := by
  have hmax := h.maxLe
  have hlast := h.lastNonneg
  have hlastLe := h.lastLe
  unfold payloadSizeNeeded
  split
  · rw [toSizeT_of_nonneg (by omega) (by omega)]
    omega
  · omega

/-- A unit needs at least its own size: the reductions are not negative, and no sum wraps around.
-/
theorem le_payloadSizeNeeded {p : RtpPacketizerH264} (h : Usable p.limits) (i : Nat) {size : Nat}
    (hsize : size < 2 ^ 63 + 8) : size ≤ payloadSizeNeeded p i size := by
  have heq := payloadSizeNeeded_eq h i hsize
  have hlast := h.lastNonneg
  split at heq <;> omega

/-- The room that `PacketizeStapA` starts with, without the conversions. -/
theorem stapARoom_eq {limits : PayloadLimits} (h : Usable limits) (count i : Nat) :
    (((if count = 1 then toSizeT (limits.maxPayloadLen - limits.singlePacketReductionLen)
      else if i = 0 then toSizeT (limits.maxPayloadLen - limits.firstPacketReductionLen)
      else toSizeT limits.maxPayloadLen : Nat)) : Int) = limits.maxPayloadLen -
        (if count = 1 then limits.singlePacketReductionLen
          else if i = 0 then limits.firstPacketReductionLen else 0) := by
  obtain ⟨hmax, hsingle, hsingleLe, hfirst, hfirstLe, -, -⟩ := id h
  split_ifs
  · rw [toSizeT_room h hsingle hsingleLe]
    omega
  · rw [toSizeT_room h hfirst hfirstLe]
    omega
  · rw [toSizeT_of_nonneg (by omega) (by omega)]
    omega

/-- `PacketizeStapA` queues the group of some NAL units from the index on, at least of
the first one, that fit one packet. The NAL unit in front of which it stops at the latest
is larger than a packet. -/
theorem packetizeStapA_spec {p : RtpPacketizerH264} (h : Usable p.limits)
    {nalus behind : List Bytes} (hfragments : p.inputFragments = nalus ++ behind)
    (hnalus : ∀ nalu ∈ nalus, nalu ≠ [] ∧ nalu.length < 2 ^ 63)
    (hbehind : ∀ nalu ∈ behind.head?, p.limits.maxPayloadLen.toNat < nalu.length ∧
      nalu.length < 2 ^ 63) {i : Nat} {nalu : Bytes} (hnalu : nalus[i]? = some nalu)
    (hfits : nalu.length ≤ p.singlePacketCapacity i) :
    ∃ taken rest, nalus.drop i = taken ++ rest ∧ taken ≠ [] ∧
      packetizeStapA p i = some (i + taken.length,
        { p with
            packets := p.packets ++ aggregationUnits true taken
            numPacketsLeft := p.numPacketsLeft + 1 }) ∧
      Group.aggregationSize taken ≤ p.limits.maxPayloadLen.toNat ∧
      Group.Placed p.limits p.inputFragments.length i (.aggregation taken) := by
  obtain ⟨hmax, hsingle, hsingleLe, hfirst, hfirstLe, hlast, hlastLe⟩ := id h
  obtain ⟨hi, hget⟩ := List.getElem?_eq_some_iff.mp hnalu
  have hcapacity := singlePacketCapacity_eq h i
  unfold packetizeStapA
  have hleftMax := stapARoom_eq h p.inputFragments.length i
  generalize (if p.inputFragments.length = 1 then
      toSizeT (p.limits.maxPayloadLen - p.limits.singlePacketReductionLen)
    else if i = 0 then toSizeT (p.limits.maxPayloadLen - p.limits.firstPacketReductionLen)
    else toSizeT p.limits.maxPayloadLen) = left at hleftMax ⊢
  have hroom : left ≤ p.limits.maxPayloadLen.toNat := by
    split_ifs at hleftMax <;> omega
  have hneeded : ∀ n : Bytes, n.length < 2 ^ 63 → ∀ j k,
      n.length + headerLength k ≤ payloadSizeNeeded p j (n.length + headerLength k) := by
    intro n hlen j k
    have hk := headerLength_le k
    exact le_payloadSizeNeeded h j (by omega)
  have hlarge : ∀ n ∈ behind.head?, ∀ j k,
      p.limits.maxPayloadLen.toNat < payloadSizeNeeded p j (n.length + headerLength k) := by
    intro n hn j k
    have hle := hneeded n (hbehind n hn).2 j k
    have hlong := (hbehind n hn).1
    omega
  obtain ⟨taken, rest, hsplit, hloop, hcost, hprogress, hextra⟩ :=
    stapALoop_spec hlarge (nalus.drop i)
      (fun n hn => ⟨(hnalus n (List.mem_of_mem_drop hn)).1,
        hneeded n (hnalus n (List.mem_of_mem_drop hn)).2⟩)
      left 0 i hroom
  have hstart : headerLength 0 = 0 := rfl
  rw [hstart] at hloop hprogress
  rw [aggregationCost_zero] at hcost hextra
  have htaken : taken ≠ [] := by
    refine hprogress nalu ?_ ?_
    · rw [List.head?_drop, hnalu]
    · -- the room for the first NAL unit is what the caller tested it against
      have hlength := (hnalus nalu (List.mem_of_getElem? hnalu)).2
      have hlt : i < p.inputFragments.length := by
        rw [hfragments, List.length_append]
        omega
      have heq := payloadSizeNeeded_eq h i (show nalu.length + 0 < 2 ^ 63 + 8 by omega)
      split_ifs at heq hleftMax hcapacity <;> omega
  refine ⟨taken, rest, hsplit, htaken, ?_, by omega, ?_⟩
  · have hunits : unmarkedUnits true taken ≠ [] := by
      cases taken with
      | nil => exact absurd rfl htaken
      | cons => simp [unmarkedUnits]
    have hmark := markLast_append p.packets hunits
    rw [markLast_unmarkedUnits true htaken] at hmark
    dsimp only
    rw [hfragments, List.drop_append_of_le_length hi.le, hloop]
    simp only [Option.bind_eq_bind, Option.bind_some, decide_true]
    rw [hmark]
    rfl
  · constructor
    · intro hn _ s hs
      rw [Group.sizes, List.head?_cons, Option.mem_some_iff] at hs
      rw [if_pos hn] at hleftMax
      omega
    · intro hzero hn s hs
      rw [Group.sizes, List.head?_cons, Option.mem_some_iff] at hs
      have hn : p.inputFragments.length ≠ 1 := hn.resolve_right (by simp [Group.sizes])
      rw [if_neg hn, if_pos hzero] at hleftMax
      omega
    · intro hend hi' s hs
      have hi' : i ≠ 0 := hi'.resolve_right (by simp [Group.sizes])
      have hend : i + taken.length = p.inputFragments.length := hend
      rw [Group.sizes, List.getLast?_singleton, Option.mem_some_iff] at hs
      -- the last NAL unit was taken together with the last reduction
      have hlastCost := hextra p.limits.lastPacketReductionLen.toNat
        (fun n hn k => by
          have hk := headerLength_le k
          have hlen := (hnalus n (List.mem_of_mem_drop hn)).2
          have heq := payloadSizeNeeded_eq h (p.inputFragments.length - 1)
            (show n.length + headerLength k < 2 ^ 63 + 8 by omega)
          rw [if_pos ⟨by have := List.length_pos_iff.mpr htaken; omega, rfl⟩] at heq
          omega)
        htaken hend
      omega

/-! ### Fragments -/

/-- The parts of a NAL unit from an offset on. -/
def piecesFrom (fragment : Bytes) (offset : Nat) : List Int → List Bytes
  | [] => []
  | size :: sizes =>
      subview fragment offset (toSizeT size) :: piecesFrom fragment (offset + toSizeT size) sizes

/-- There is one piece for each size. -/
theorem piecesFrom_length (fragment : Bytes) (offset : Nat) (sizes : List Int) :
    (piecesFrom fragment offset sizes).length = sizes.length := by
  induction sizes generalizing offset with
  | nil => rfl
  | cons size sizes ih => rw [piecesFrom, List.length_cons, List.length_cons, ih]

/-- The units of a fragmented NAL unit are its pieces, the first and the last of them marked. -/
theorem fuAUnits_eq (fragment : Bytes) (header : UInt8) (offset : Nat) (first : Bool)
    (sizes : List Int) :
    fuAUnits fragment header offset first sizes
      = fragmentUnits header first (piecesFrom fragment offset sizes) := by
  induction sizes generalizing offset first with
  | nil => rfl
  | cons size sizes ih =>
      have hempty : (piecesFrom fragment (offset + toSizeT size) sizes).isEmpty
          = sizes.isEmpty := by
        rw [Bool.eq_iff_iff, List.isEmpty_iff_length_eq_zero, List.isEmpty_iff_length_eq_zero,
          piecesFrom_length]
      rw [fuAUnits, piecesFrom, fragmentUnits, hempty, ih]

/-- Parts whose sizes make up the rest of a NAL unit are the rest of it. -/
theorem piecesFrom_flatten (fragment : Bytes) {offset : Nat} {sizes : List Int}
    (hsizes : ∀ s ∈ sizes, 0 ≤ s ∧ s < 2 ^ 31)
    (hsum : sizes.sum = (fragment.drop offset).length) :
    (piecesFrom fragment offset sizes).flatten = fragment.drop offset := by
  induction sizes generalizing offset with
  | nil =>
      have hnil : (fragment.drop offset).length = 0 := by
        rw [List.sum_nil] at hsum
        omega
      rw [List.length_eq_zero_iff.mp hnil]
      rfl
  | cons size sizes ih =>
      obtain ⟨hlow, hhigh⟩ := hsizes size List.mem_cons_self
      have hrest : ∀ s ∈ sizes, 0 ≤ s ∧ s < 2 ^ 31 :=
        fun s hs => hsizes s (List.mem_cons_of_mem _ hs)
      have hnonneg : 0 ≤ sizes.sum := List.sum_nonneg fun s hs => (hrest s hs).1
      rw [List.sum_cons] at hsum
      rw [piecesFrom, List.flatten_cons, toSizeT_of_nonneg hlow (by omega), ih hrest, subview,
        ← List.drop_drop, List.take_append_drop]
      rw [List.length_drop] at hsum ⊢
      omega

/-- The sizes of the parts are those of the split, if the NAL unit is long enough. -/
theorem piecesFrom_sizes (fragment : Bytes) {offset : Nat} {sizes : List Int}
    (hsizes : ∀ s ∈ sizes, 0 ≤ s ∧ s < 2 ^ 31)
    (hsum : sizes.sum ≤ (fragment.drop offset).length) :
    (piecesFrom fragment offset sizes).map (fun piece => (piece.length : Int)) = sizes := by
  induction sizes generalizing offset with
  | nil => rfl
  | cons size sizes ih =>
      obtain ⟨hlow, hhigh⟩ := hsizes size List.mem_cons_self
      have hrest : ∀ s ∈ sizes, 0 ≤ s ∧ s < 2 ^ 31 :=
        fun s hs => hsizes s (List.mem_cons_of_mem _ hs)
      have hnonneg : 0 ≤ sizes.sum := List.sum_nonneg fun s hs => (hrest s hs).1
      rw [List.sum_cons, List.length_drop] at hsum
      rw [piecesFrom, List.map_cons, toSizeT_of_nonneg hlow (by omega), ih hrest, subview,
        List.length_take, List.length_drop]
      · congr 1
        omega
      · rw [List.length_drop]
        omega

/-- The limits that `PacketizeFuA` splits with leave room in every packet, and a NAL
unit that does not fit one packet does not fit with them either. -/
theorem fuALimits_spec {p : RtpPacketizerH264} (h : Usable p.limits) {i : Nat} {length : Nat}
    (hi : i < p.inputFragments.length) (hfits : p.singlePacketCapacity i < length) :
    Roomy (p.fuALimits i) ∧ (p.fuALimits i).maxPayloadLen = p.limits.maxPayloadLen - 2 ∧
      0 ≤ (p.fuALimits i).singlePacketReductionLen ∧
      (p.fuALimits i).singlePacketReductionLen < 2 ^ 31 ∧
      (p.fuALimits i).maxPayloadLen
        < ((length - 1 : Nat) : Int) + (p.fuALimits i).singlePacketReductionLen := by
  obtain ⟨hmax, hsingle, hsingleLe, hfirst, hfirstLe, hlast, hlastLe⟩ := id h
  have hcapacity := singlePacketCapacity_eq h i
  unfold fuALimits
  simp only [kFuAHeaderSize]
  split_ifs at hcapacity ⊢ <;>
    first
      | omega
      | exact ⟨by constructor <;> dsimp only <;> omega, by dsimp only; omega, by dsimp only; omega,
          by dsimp only; omega, by dsimp only; omega⟩

/-- The first NAL unit of the frame is split with the first reduction, and the last one with
the last. -/
theorem fuALimits_reductions (p : RtpPacketizerH264) (i : Nat) :
    (i = 0 → (p.fuALimits i).firstPacketReductionLen = p.limits.firstPacketReductionLen) ∧
      (i + 1 = p.inputFragments.length →
        (p.fuALimits i).lastPacketReductionLen = p.limits.lastPacketReductionLen) := by
  unfold fuALimits
  dsimp only
  constructor
  · intro hzero
    rw [if_neg (show ¬ i ≠ 0 by omega)]
    split_ifs <;> rfl
  · intro hend
    rw [if_neg (show ¬ i ≠ p.inputFragments.length - 1 by omega)]
    split_ifs <;> rfl

/-- `PacketizeFuA` on a NAL unit that is split in parts of these sizes. -/
theorem packetizeFuA_eq {p : RtpPacketizerH264} {i : Nat} {header : UInt8} {body : Bytes}
    {sizes : List Int} (hnalu : p.inputFragments[i]? = some (header :: body))
    (hsplit : splitAboutEqual body.length (p.fuALimits i) = some sizes) :
    packetizeFuA p i = some (if sizes = [] then (false, p) else (true,
      { p with
          packets := p.packets ++ fragmentUnits header true (piecesFrom (header :: body) 1 sizes)
          numPacketsLeft := p.numPacketsLeft + (piecesFrom (header :: body) 1 sizes).length })) := by
  unfold packetizeFuA
  rw [hnalu]
  dsimp only [Option.bind_eq_bind, Option.bind_some]
  rw [show subSize (header :: body).length kNaluHeaderSize = some body.length from
    subSize_of_le (by simp [kNaluHeaderSize])]
  dsimp only [Option.bind_some]
  rw [hsplit]
  dsimp only [Option.bind_some]
  split
  · rfl
  · rw [List.head?_cons, Option.bind_some, fuAUnits_eq, piecesFrom_length]
    rfl

/-- `PacketizeFuA` queues the group of the fragments of a NAL unit that does not fit one
packet. -/
theorem packetizeFuA_spec {p : RtpPacketizerH264} (h : Usable p.limits) {i : Nat} {header : UInt8}
    {body : Bytes} (hnalu : p.inputFragments[i]? = some (header :: body))
    (hlength : (header :: body).length ≤ 2 ^ 31)
    (hfits : p.singlePacketCapacity i < (header :: body).length) :
    ∃ pieces, packetizeFuA p i = some (true,
        { p with
            packets := p.packets ++ fragmentUnits header true pieces
            numPacketsLeft := p.numPacketsLeft + pieces.length }) ∧
      pieces.flatten = body ∧
      Group.Fits p.limits.maxPayloadLen.toNat (.fragments header pieces) ∧
      Group.Placed p.limits p.inputFragments.length i (.fragments header pieces) := by
  obtain ⟨hi, -⟩ := List.getElem?_eq_some_iff.mp hnalu
  obtain ⟨hroomy, hmaxEq, hsingle, hsingleLt, hnofit⟩ := fuALimits_spec h hi hfits
  have hcapacity := (singlePacketCapacity_bounds h i).1
  have hmax := h.maxLe
  have hbody : (header :: body).length - 1 = body.length := rfl
  rw [hbody] at hnofit
  rw [List.length_cons] at hlength hfits
  -- a NAL unit that does not fit into one packet has a byte for each of two fragments
  have htwo : 2 ≤ body.length := by omega
  obtain ⟨sizes, hsplit, hcorrect⟩ :=
    splitAboutEqual_correct hroomy htwo (by omega) hsingle hsingleLt hnofit
  have hsizes : ∀ s ∈ sizes, 0 ≤ s ∧ s < 2 ^ 31 := by
    intro s hs
    have hbounds := hcorrect.bounds s hs
    omega
  have hmap : (piecesFrom (header :: body) 1 sizes).map (fun piece => (piece.length : Int)) = sizes :=
    piecesFrom_sizes (header :: body) hsizes hcorrect.sum.le
  have hflatten : (piecesFrom (header :: body) 1 sizes).flatten = body :=
    piecesFrom_flatten (header :: body) hsizes hcorrect.sum
  -- one fragment would be as large as the NAL unit, which does not fit
  have hlen : 2 ≤ sizes.length := by
    match sizes, hcorrect with
    | [], hcorrect =>
        have hsum := hcorrect.sum
        rw [List.sum_nil] at hsum
        omega
    | [s], hcorrect =>
        have hsum := hcorrect.sum
        have hle := hcorrect.single s rfl
        rw [List.sum_singleton] at hsum
        omega
    | _ :: _ :: _, _ => simp
  have hne : sizes ≠ [] := List.ne_nil_of_length_pos (by omega)
  have hfu := packetizeFuA_eq hnalu hsplit
  rw [if_neg hne] at hfu
  have hcount := piecesFrom_length (header :: body) 1 sizes
  generalize piecesFrom (header :: body) 1 sizes = pieces at hmap hflatten hfu hcount
  refine ⟨pieces, hfu, hflatten, ⟨by omega, fun piece hpiece => ?_⟩, ?_⟩
  · have hmem := List.mem_map_of_mem (f := fun piece : Bytes => (piece.length : Int)) hpiece
    rw [hmap] at hmem
    have hbounds := hcorrect.bounds _ hmem
    omega
  · -- the reductions that the split leaves room for are those of this NAL unit
    obtain ⟨hfirst, hlast⟩ := fuALimits_reductions p i
    have hshown : (Group.fragments header pieces).sizes = pieces.map (2 + ·.length) := rfl
    constructor
    · intro _ hone
      rw [hshown, List.length_map] at hone
      omega
    · intro hzero _ s hs
      rw [hshown, List.head?_map] at hs
      obtain ⟨piece, hpiece, rfl⟩ := Option.map_eq_some_iff.mp hs
      have hfirstLe := hcorrect.first hlen piece.length (by
        rw [← hmap, List.head?_map, hpiece]
        rfl)
      rw [hmaxEq, hfirst hzero] at hfirstLe
      omega
    · intro hend _ s hs
      rw [hshown, List.getLast?_map] at hs
      obtain ⟨piece, hpiece, rfl⟩ := Option.map_eq_some_iff.mp hs
      have hlastLe := hcorrect.last hlen piece.length (by
        rw [← hmap, List.getLast?_map, hpiece]
        rfl)
      rw [hmaxEq, hlast hend] at hlastLe
      omega

/-! ### All packets -/

/-- The loop of `GeneratePackets` queues groups with the NAL units from the index on. -/
theorem generateLoop_spec {limits : PayloadLimits} (h : Usable limits) {nalus : List Bytes}
    (hnalus : ∀ nalu ∈ nalus, Countable nalu) (fuel : Nat) :
    ∀ (i : Nat) (packets : List PacketUnit) (numPacketsLeft : Nat), nalus.length ≤ fuel + i →
      ∃ groups : List Group,
        generateLoop fuel ⟨limits, nalus, packets, numPacketsLeft⟩ i
          = some (true, ⟨limits, nalus, packets ++ groups.flatMap Group.units,
              numPacketsLeft + (groups.map Group.count).sum⟩) ∧
        groups.flatMap Group.nalus = nalus.drop i ∧
        (∀ g ∈ groups, g.Fits limits.maxPayloadLen.toNat) ∧
        AllPlaced limits nalus.length i groups := by
  -- on the fuel: every turn of the loop takes at least one NAL unit
  induction fuel with
  | zero =>
      intro i packets numPacketsLeft hfuel
      have hnone : nalus[i]? = none := List.getElem?_eq_none (by omega)
      refine ⟨[], ?_, ?_, (fun g hg => nomatch hg), trivial⟩
      · rw [generateLoop]
        dsimp only
        rw [hnone]
        simp
      · rw [List.drop_eq_nil_of_le (by omega)]
        rfl
  | succ fuel ih =>
      intro i packets numPacketsLeft hfuel
      rw [generateLoop]
      dsimp only
      cases hnalu : nalus[i]? with
      | none =>
          have hle := List.getElem?_eq_none_iff.mp hnalu
          refine ⟨[], by simp, ?_, (fun g hg => nomatch hg), trivial⟩
          rw [List.drop_eq_nil_of_le hle]
          rfl
      | some nalu =>
          obtain ⟨hne, hlength⟩ := hnalus nalu (List.mem_of_getElem? hnalu)
          dsimp only
          by_cases hfits : singlePacketCapacity ⟨limits, nalus, packets, numPacketsLeft⟩ i
              < nalu.length
          · -- the NAL unit is fragmented
            obtain ⟨header, body, rfl⟩ := List.exists_cons_of_ne_nil hne
            obtain ⟨pieces, hfu, hflatten, hroom, hplaced⟩ :=
              packetizeFuA_spec (p := ⟨limits, nalus, packets, numPacketsLeft⟩) h hnalu hlength hfits
            obtain ⟨groups, hloop, hcover, hall, hplacedAll⟩ := ih (i + 1)
              (packets ++ fragmentUnits header true pieces) (numPacketsLeft + pieces.length)
              (by omega)
            refine ⟨.fragments header pieces :: groups, ?_, ?_, ?_, hplaced, hplacedAll⟩
            · rw [if_pos hfits, hfu]
              dsimp only [Option.bind_eq_bind, Option.bind_some]
              rw [if_pos rfl, hloop]
              simp [Group.units, Group.count, Nat.add_assoc]
            · obtain ⟨hi, hget⟩ := List.getElem?_eq_some_iff.mp hnalu
              rw [List.flatMap_cons, hcover, List.drop_eq_getElem_cons hi, hget]
              simp [Group.nalus, hflatten]
            · intro g hg
              rcases List.mem_cons.mp hg with rfl | hg
              · exact hroom
              · exact hall g hg
          · -- the NAL unit is aggregated with those behind it
            have hsizes : ∀ n ∈ nalus, n ≠ [] ∧ n.length < 2 ^ 63 := by
              intro n hn
              have hle := (hnalus n hn).2
              exact ⟨(hnalus n hn).1, by omega⟩
            obtain ⟨taken, rest, hsplit, htaken, hstap, hsize, hplaced⟩ :=
              packetizeStapA_spec (p := ⟨limits, nalus, packets, numPacketsLeft⟩) h
                (List.append_nil nalus).symm hsizes (fun n hn => nomatch hn) hnalu (by omega)
            have hpos := List.length_pos_iff.mpr htaken
            obtain ⟨groups, hloop, hcover, hall, hplacedAll⟩ := ih (i + taken.length)
              (packets ++ aggregationUnits true taken) (numPacketsLeft + 1) (by omega)
            refine ⟨.aggregation taken :: groups, ?_, ?_, ?_, hplaced, hplacedAll⟩
            · rw [if_neg hfits, hstap]
              dsimp only [Option.bind_eq_bind, Option.bind_some]
              rw [hloop]
              simp [Group.units, Group.count, Nat.add_assoc]
            · rw [List.flatMap_cons, hcover, ← List.drop_drop, hsplit, List.drop_left]
              rfl
            · intro g hg
              rcases List.mem_cons.mp hg with rfl | hg
              · exact ⟨htaken, hsize⟩
              · exact hall g hg

/-- The queue of a new packetizer is that of groups with the NAL units of the frame. -/
theorem ofNalUnits_spec {limits : PayloadLimits} (h : Usable limits) {nalus : List Bytes}
    (hnalus : ∀ nalu ∈ nalus, Countable nalu) :
    ∃ groups : List Group,
      ofNalUnits nalus limits = some ⟨limits, nalus, groups.flatMap Group.units,
        (groups.map Group.count).sum⟩ ∧
      groups.flatMap Group.nalus = nalus ∧
      (∀ g ∈ groups, g.Fits limits.maxPayloadLen.toNat) ∧
      AllPlaced limits nalus.length 0 groups := by
  obtain ⟨groups, hloop, hcover, hall, hplaced⟩ :=
    generateLoop_spec h hnalus nalus.length 0 [] 0 (by omega)
  refine ⟨groups, ?_, hcover, hall, hplaced⟩
  unfold ofNalUnits generatePackets
  dsimp only
  rw [hloop]
  simp

end Xrtc.Proofs.Rtp
