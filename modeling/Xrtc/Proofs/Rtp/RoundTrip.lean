import Xrtc.Proofs.Rtp.Groups

/-!
# `Xrtc.Proofs.Rtp.RoundTrip`: a frame survives packetizing

`NextPacket` makes the payloads of the groups in the queue, in order
(`drainLoop_spec`), and an RFC 6184 receiver makes the NAL units of the groups from
these payloads (`depacketize_groups`). With the results on the queue this gives
`packetize_roundTrip` for every frame: as many packets as `NumPackets` says, the
marker on the last one only, and the NAL units of the frame, byte for byte.

The sizes of the split are of type `int`, so the NAL units of a frame have at most
`2 ^ 31` bytes each. A larger one is lost (`loneNalu_not_roundTrips`).
-/

set_option autoImplicit false

namespace Xrtc.Proofs.Rtp

open Xrtc.Lib
open Xrtc.Rtp
open Xrtc.Rtp.RtpPacketizerH264

/-! ### Writing a packet -/

/-- The payload room of a new packet. -/
def packetRoom : Nat := 1488

/-- A packet without a payload has room for one of up to 1488 bytes. -/
theorem allocatePayload_new {marker : Bool} {size : Nat} (h : size ≤ packetRoom) :
    RtpPacketToSend.allocatePayload { marker } size
      = some { marker, payload := List.replicate size 0 } := by
  have hsize : ¬ kDefaultCapacity < kFixedHeaderSize + size := by
    simp only [packetRoom, kDefaultCapacity, kFixedHeaderSize] at *
    omega
  unfold RtpPacketToSend.allocatePayload RtpPacketToSend.setPayloadSize
  simp [kDefaultCapacity, kFixedHeaderSize] at hsize ⊢
  omega

/-- Bytes written behind what is there. -/
theorem write_append (packet : RtpPacketToSend) (done : Bytes) {tail bytes : Bytes}
    (h : bytes.length ≤ tail.length) :
    RtpPacketToSend.write { packet with payload := done ++ tail } done.length bytes
      = some { packet with payload := done ++ bytes ++ tail.drop bytes.length } := by
  unfold RtpPacketToSend.write
  dsimp only
  rw [if_neg (by rw [List.length_append]; omega), List.take_left, ← List.drop_drop, List.drop_left]

/-- A copy that is as long as the payload replaces it. -/
theorem write_whole (packet : RtpPacketToSend) {bytes : Bytes}
    (h : packet.payload.length = bytes.length) :
    packet.write 0 bytes = some { packet with payload := bytes } := by
  have hwrite := write_append packet [] h.ge
  rwa [List.nil_append, List.nil_append, List.drop_eq_nil_of_le h.le, List.append_nil] at hwrite

/-! ### One packet -/

/-- The payload of an aggregation. -/
def aggregationPayload : List Bytes → Bytes
  | [] => []
  | [nalu] => nalu
  | nalu :: nalus => ((nalu.headD 0 &&& 0xe0) ||| 24) :: aggregate (nalu :: nalus)

/-- The payloads of the packets of a group. -/
def Group.payloads : Group → List Bytes
  | aggregation nalus => [aggregationPayload nalus]
  | fragments header pieces => fuAs header true pieces

/-- The loop of `NextAggregatedPacket` writes the NAL units of a group behind what is
there. -/
theorem aggregateLoop_spec (packet : RtpPacketToSend) (fragments : List Bytes)
    (packets : List PacketUnit) {nalus : List Bytes} (hne : nalus ≠ []) :
    ∀ (first : Bool) (done tail : Bytes), (aggregate nalus).length ≤ tail.length →
      aggregateLoop { packet with payload := done ++ tail } done.length (nalus ++ fragments)
          (aggregationUnits first nalus ++ packets)
        = some ({ packet with
              payload := done ++ aggregate nalus ++ tail.drop (aggregate nalus).length },
            (done ++ aggregate nalus).length, fragments, packets) := by
  induction nalus with
  | nil => exact absurd rfl hne
  | cons nalu nalus ih =>
      intro first done tail hroom
      rw [aggregate_cons, List.length_append, List.length_append, writeUInt16_length] at hroom
      generalize hfield : writeUInt16 (UInt16.ofNat nalu.length) = field
      have hfieldLength : field.length = 2 := by
        rw [← hfield]
        exact writeUInt16_length _
      -- the size of the NAL unit is written, and then the NAL unit
      have hsize := write_append packet done (show field.length ≤ tail.length by omega)
      have hnalu := write_append packet (done ++ field)
        (show nalu.length ≤ (tail.drop field.length).length by rw [List.length_drop]; omega)
      rw [List.length_append, hfieldLength] at hnalu
      rw [hfieldLength] at hsize
      rw [aggregationUnits, List.cons_append, List.cons_append, aggregateLoop]
      dsimp only [RtpPacketToSend.ops_write]
      rw [if_pos rfl, hfield, hsize]
      dsimp only [Option.bind_eq_bind, Option.bind_some, RtpPacketToSend.ops_write]
      rw [show kLengthFieldSize = 2 from rfl, hnalu]
      dsimp only [Option.bind_some]
      have hindex : done.length + 2 + nalu.length = (done ++ field ++ nalu).length := by
        rw [List.length_append, List.length_append, hfieldLength]
      cases nalus with
      | nil =>
          rw [List.isEmpty_nil, if_pos rfl, hindex]
          simp [aggregate, hfield, hfieldLength, aggregationUnits]
      | cons next nalus =>
          rw [if_neg (by simp), hindex,
            ih (List.cons_ne_nil _ _) false (done ++ field ++ nalu)
              ((tail.drop 2).drop nalu.length) (by simp only [List.length_drop]; omega)]
          rw [aggregate_cons nalu, hfield]
          simp [hfieldLength, Nat.add_assoc]

/-- `NextPacket` on a queue that is not empty: the counter goes down, and the marker is set when
the queue has become empty. -/
theorem nextPacket_of_takePacket {popped : PacketUnit → Option PacketUnit}
    {limits : PayloadLimits} {fragments fragments' : List Bytes} {packet : PacketUnit}
    {packets packets' : List PacketUnit} {payload : Bytes} {n : Nat}
    (h : takePacket popped ⟨limits, fragments, packet :: packets, n + 1⟩ packet packets
        ({} : RtpPacketToSend)
      = some ({ payload }, ⟨limits, fragments', packets', n + 1⟩)) :
    nextPacketWith popped ⟨limits, fragments, packet :: packets, n + 1⟩ ({} : RtpPacketToSend)
      = some (some ({ marker := packets'.isEmpty, payload },
          ⟨limits, fragments', packets', n⟩)) := by
  unfold nextPacketWith
  dsimp only
  rw [h]
  rfl

/-- A NAL unit that is alone in its group is sent as it is, and leaves the queue and the
input. -/
theorem nextPacket_single (popped : PacketUnit → Option PacketUnit) (limits : PayloadLimits)
    (nalu : Bytes) (fragments : List Bytes) (packets : List PacketUnit) (n : Nat)
    (hroom : nalu.length ≤ packetRoom) :
    nextPacketWith popped ⟨limits, nalu :: fragments, aggregationUnits true [nalu] ++ packets, n + 1⟩
        ({} : RtpPacketToSend)
      = some (some ({ marker := packets.isEmpty, payload := nalu },
          ⟨limits, fragments, packets, n⟩)) := by
  have hwrite := write_whole { payload := List.replicate nalu.length 0 }
    (List.length_replicate : (List.replicate nalu.length (0 : UInt8)).length = nalu.length)
  refine nextPacket_of_takePacket ?_
  unfold takePacket
  rw [if_pos rfl]
  dsimp only [RtpPacketToSend.ops_allocatePayload]
  rw [allocatePayload_new hroom]
  dsimp only [Option.bind_eq_bind, Option.bind_some, RtpPacketToSend.ops_write]
  rw [hwrite]
  rfl

/-- `NextAggregatedPacket` takes the room of the whole packet, writes the header and the NAL units
with their sizes, and gives the rest of the room back. -/
theorem nextAggregatedPacket_spec (limits : PayloadLimits) (unit : PacketUnit) {nalus : List Bytes}
    (hne : nalus ≠ []) (fragments : List Bytes) (packets : List PacketUnit) (n : Nat)
    (hroom : 1 + (aggregate nalus).length ≤ packetRoom) :
    nextAggregatedPacket ⟨limits, nalus ++ fragments, aggregationUnits true nalus ++ packets, n⟩
        unit ({} : RtpPacketToSend)
      = some ({ payload := ((unit.header &&& 0xe0) ||| 24) :: aggregate nalus },
          ⟨limits, fragments, packets, n⟩) := by
  have hfree : RtpPacketToSend.freeCapacity {} = packetRoom := rfl
  generalize hstapA : (unit.header &&& 0xe0) ||| 24 = stapA
  have hheader := write_append {} []
    (show ([stapA] : Bytes).length ≤ (List.replicate packetRoom (0 : UInt8)).length by
      rw [List.length_replicate, List.length_singleton, packetRoom]; omega)
  generalize htail : (List.replicate packetRoom (0 : UInt8)).drop [stapA].length = tail at hheader
  have htailLength : tail.length = packetRoom - 1 := by
    rw [← htail, List.length_drop, List.length_replicate, List.length_singleton]
  have hloop := aggregateLoop_spec {} fragments packets hne true [stapA] tail (by omega)
  unfold nextAggregatedPacket
  rw [RtpPacketToSend.ops_freeCapacity, RtpPacketToSend.ops_allocatePayload, hfree,
    allocatePayload_new (le_refl _)]
  dsimp only [Option.bind_eq_bind, Option.bind_some, RtpPacketToSend.ops_write]
  rw [show (unit.header &&& fBitAndNriMask) ||| kStapA = stapA from hstapA]
  rw [List.nil_append, List.nil_append] at hheader
  rw [show ([] : Bytes).length = 0 from rfl] at hheader
  rw [hheader]
  dsimp only [Option.bind_some]
  rw [show kNaluHeaderSize = [stapA].length from rfl, hloop]
  dsimp only [Option.bind_some, RtpPacketToSend.ops_setPayloadSize]
  -- what is behind the NAL units is cut off
  have hcut : RtpPacketToSend.setPayloadSize
      { payload := [stapA] ++ aggregate nalus ++ tail.drop (aggregate nalus).length }
      ([stapA] ++ aggregate nalus).length = some { payload := stapA :: aggregate nalus } := by
    unfold RtpPacketToSend.setPayloadSize
    have hcapacity : ¬ kDefaultCapacity < kFixedHeaderSize + ([stapA] ++ aggregate nalus).length := by
      rw [List.length_append, List.length_singleton]
      simp only [packetRoom, kDefaultCapacity, kFixedHeaderSize] at *
      omega
    dsimp only
    rw [if_neg hcapacity, List.take_left]
    simp
  rw [hcut]
  rfl

/-- NAL units that are aggregated go into one packet. -/
theorem nextPacket_aggregated (popped : PacketUnit → Option PacketUnit) (limits : PayloadLimits)
    (nalu next : Bytes) (nalus : List Bytes) (fragments : List Bytes) (packets : List PacketUnit)
    (n : Nat) (hroom : 1 + (aggregate (nalu :: next :: nalus)).length ≤ packetRoom) :
    nextPacketWith popped ⟨limits, (nalu :: next :: nalus) ++ fragments,
        aggregationUnits true (nalu :: next :: nalus) ++ packets, n + 1⟩ ({} : RtpPacketToSend)
      = some (some ({ marker := packets.isEmpty
                      payload := aggregationPayload (nalu :: next :: nalus) },
          ⟨limits, fragments, packets, n⟩)) := by
  refine nextPacket_of_takePacket ?_
  unfold takePacket
  dsimp only
  rw [List.isEmpty_cons, Bool.and_false, if_neg (by decide), if_pos rfl]
  exact nextAggregatedPacket_spec limits _ (List.cons_ne_nil _ _) fragments packets (n + 1) hroom

/-- A fragment that is not the only one of its NAL unit goes into a packet of its own,
and the last one takes the NAL unit from the input, as the unit that has been popped is still
in its place. -/
theorem nextPacket_fragment (limits : PayloadLimits) (header : UInt8) (first : Bool) (piece : Bytes)
    (pieces : List Bytes) (nalu : Bytes) (fragments : List Bytes) (packets : List PacketUnit)
    (n : Nat) (honly : first = true → pieces ≠ []) (hroom : 2 + piece.length ≤ packetRoom) :
    nextPacketWith some ⟨limits, nalu :: fragments,
        fragmentUnits header first (piece :: pieces) ++ packets, n + 1⟩ ({} : RtpPacketToSend)
      = some (some (
          { marker := (fragmentUnits header false pieces ++ packets).isEmpty
            payload := fuA header first pieces.isEmpty piece },
          ⟨limits, if pieces.isEmpty then fragments else nalu :: fragments,
            fragmentUnits header false pieces ++ packets, n⟩)) := by
  -- it is not both first and last, so it is sent as a fragment
  have hflags : (first && pieces.isEmpty) = false := by
    cases first with
    | false => rfl
    | true => simpa using honly rfl
  have hlength : (List.replicate (2 + piece.length) (0 : UInt8)).length
      = (fuA header first pieces.isEmpty piece).length := by
    rw [List.length_replicate, fuA, List.length_cons, List.length_cons]
    omega
  -- the room that is set aside is the size of the fragment with its two bytes
  have hwrite := write_whole { payload := List.replicate (2 + piece.length) 0 } hlength
  refine nextPacket_of_takePacket ?_
  unfold takePacket
  dsimp only
  rw [hflags, if_neg (by decide), if_neg (by decide)]
  unfold nextFragmentPacket
  dsimp only [RtpPacketToSend.ops_allocatePayload]
  rw [show kFuAHeaderSize = 2 from rfl, allocatePayload_new hroom]
  dsimp only [Option.bind_eq_bind, Option.bind_some]
  change (RtpPacketToSend.write _ 0 (fuA header first pieces.isEmpty piece)).bind _ = _
  rw [hwrite]
  cases pieces <;> rfl

/-! ### All packets -/

/-- The packets with these payloads and the marker on the last one. -/
def marked : List Bytes → List RtpPacketToSend
  | [] => []
  | payload :: payloads => { marker := payloads.isEmpty, payload } :: marked payloads

/-- A packet and those behind it. The last one of them has the marker exactly if the queue is
empty by then. -/
theorem drainLoop_of_nextPacket {popped : PacketUnit → Option PacketUnit} {p : RtpPacketizerH264}
    {limits : PayloadLimits}
    {fragments : List Bytes} {packets : List PacketUnit} {n fuel : Nat} {payload : Bytes}
    {payloads : List Bytes}
    (hnext : p.nextPacketWith popped ({} : RtpPacketToSend)
      = some (some ({ marker := packets.isEmpty, payload }, ⟨limits, fragments, packets, n⟩)))
    (hempty : packets.isEmpty = payloads.isEmpty)
    (hrest : drainLoop popped fuel ⟨limits, fragments, packets, n⟩ = some (marked payloads)) :
    drainLoop popped (fuel + 1) p = some (marked (payload :: payloads)) := by
  rw [drainLoop]
  dsimp only
  rw [hnext]
  dsimp only
  rw [hrest, hempty]
  rfl

/-- The packets of the fragments of a NAL unit, in front of others. -/
theorem drainLoop_fragments (limits : PayloadLimits) (header : UInt8) (nalu : Bytes)
    (fragments : List Bytes) (packets : List PacketUnit) (n : Nat) {payloads : List Bytes}
    (hempty : packets.isEmpty = payloads.isEmpty)
    (hrest : ∀ fuel, n ≤ fuel → drainLoop some fuel ⟨limits, fragments, packets, n⟩
      = some (marked payloads)) {pieces : List Bytes} :
    ∀ first : Bool, pieces ≠ [] → (first = true → 2 ≤ pieces.length) →
      (∀ piece ∈ pieces, 2 + piece.length ≤ packetRoom) →
      ∀ fuel, pieces.length + n ≤ fuel →
        drainLoop some fuel ⟨limits, nalu :: fragments, fragmentUnits header first pieces ++ packets,
            pieces.length + n⟩
          = some (marked (fuAs header first pieces ++ payloads)) := by
  -- on the pieces of one NAL unit; the first one is special, and the last one frees the fragment
  induction pieces with
  | nil => exact fun _ hne => absurd rfl hne
  | cons piece pieces ih =>
      intro first _ honly hroom fuel hfuel
      rw [List.length_cons, Nat.add_right_comm] at hfuel ⊢
      obtain ⟨fuel, rfl⟩ : ∃ k, fuel = k + 1 := ⟨fuel - 1, by omega⟩
      have hnext := nextPacket_fragment limits header first piece pieces nalu fragments packets
        (pieces.length + n)
        (fun hfirst hnil => by have := honly hfirst; simp [hnil] at this)
        (hroom piece List.mem_cons_self)
      rw [fuAs, List.cons_append]
      refine drainLoop_of_nextPacket hnext ?_ ?_
      · cases pieces with
        | nil => exact hempty
        | cons => rfl
      · cases pieces with
        | nil =>
            have hdone := hrest fuel (by simpa using hfuel)
            simpa [fragmentUnits, fuAs] using hdone
        | cons next pieces =>
            exact ih false (List.cons_ne_nil _ _) (fun h => absurd h Bool.false_ne_true)
              (fun q hq => hroom q (List.mem_cons_of_mem _ hq)) fuel (by omega)

/-- No packet comes from nothing, and no unit either. -/
theorem payloads_ne_nil {room : Nat} {g : Group} (h : g.Fits room) :
    g.payloads ≠ [] ∧ g.units ≠ [] := by
  cases g with
  | aggregation nalus =>
      obtain ⟨nalu, nalus, rfl⟩ := List.exists_cons_of_ne_nil h.1
      exact ⟨List.cons_ne_nil _ _, List.cons_ne_nil _ _⟩
  | fragments header pieces =>
      cases pieces with
      | nil => exact absurd h.1 (by simp)
      | cons => exact ⟨List.cons_ne_nil _ _, List.cons_ne_nil _ _⟩

/-- There is a unit in the queue exactly if there is a packet to come. -/
theorem units_isEmpty {room : Nat} {groups : List Group} (h : ∀ g ∈ groups, g.Fits room) :
    (groups.flatMap Group.units).isEmpty = (groups.flatMap Group.payloads).isEmpty := by
  cases groups with
  | nil => rfl
  | cons g groups =>
      obtain ⟨hpayloads, hunits⟩ := payloads_ne_nil (h g List.mem_cons_self)
      rw [List.flatMap_cons, List.flatMap_cons,
        List.isEmpty_eq_false_iff.mpr (List.append_ne_nil_of_left_ne_nil hunits _),
        List.isEmpty_eq_false_iff.mpr (List.append_ne_nil_of_left_ne_nil hpayloads _)]

/-- `NextPacket`, called until it returns false, makes the payloads of the groups in the
queue, in order. -/
theorem drainLoop_spec (limits : PayloadLimits) {groups : List Group}
    (h : ∀ g ∈ groups, g.Fits packetRoom) :
    ∀ fuel, (groups.map Group.count).sum ≤ fuel →
      drainLoop some fuel ⟨limits, groups.flatMap Group.nalus, groups.flatMap Group.units,
          (groups.map Group.count).sum⟩
        = some (marked (groups.flatMap Group.payloads)) := by
  -- on the groups: an aggregation is one packet, and fragments are one packet each
  induction groups with
  | nil =>
      intro fuel _
      rw [drainLoop]
      rfl
  | cons g groups ih =>
      have hgroups : ∀ g ∈ groups, g.Fits packetRoom := fun g hg => h g (List.mem_cons_of_mem _ hg)
      have hempty := units_isEmpty hgroups
      have hg := h g List.mem_cons_self
      intro fuel hfuel
      rw [List.map_cons, List.sum_cons] at hfuel
      simp only [List.flatMap_cons, List.map_cons, List.sum_cons]
      cases g with
      | aggregation nalus =>
          rw [show (Group.aggregation nalus).count = 1 from rfl, Nat.add_comm] at hfuel ⊢
          obtain ⟨fuel, rfl⟩ : ∃ k, fuel = k + 1 := ⟨fuel - 1, by omega⟩
          have hrest := ih hgroups fuel (by omega)
          match nalus, hg with
          | [nalu], hg =>
              exact drainLoop_of_nextPacket (nextPacket_single some limits nalu _ _ _ hg.2) hempty hrest
          | nalu :: next :: nalus, hg =>
              exact drainLoop_of_nextPacket
                (nextPacket_aggregated some limits nalu next nalus _ _ _ hg.2) hempty hrest
      | fragments header pieces =>
          have hpos : pieces ≠ [] := by
            rintro rfl
            exact absurd hg.1 (by simp)
          exact drainLoop_fragments limits header _ _ _ _ hempty (ih hgroups) true hpos
            (fun _ => hg.1) hg.2 fuel hfuel

/-- One unit for each NAL unit that is aggregated. -/
theorem aggregationUnits_length (first : Bool) (nalus : List Bytes) :
    (aggregationUnits first nalus).length = nalus.length := by
  induction nalus generalizing first with
  | nil => rfl
  | cons nalu nalus ih => rw [aggregationUnits, List.length_cons, List.length_cons, ih]

/-- One unit for each piece. -/
theorem fragmentUnits_length (header : UInt8) (first : Bool) (pieces : List Bytes) :
    (fragmentUnits header first pieces).length = pieces.length := by
  induction pieces generalizing first with
  | nil => rfl
  | cons piece pieces ih => rw [fragmentUnits, List.length_cons, List.length_cons, ih]

/-- Every packet takes at least one unit. -/
theorem count_le {room : Nat} {groups : List Group} (h : ∀ g ∈ groups, g.Fits room) :
    (groups.map Group.count).sum ≤ (groups.flatMap Group.units).length := by
  induction groups with
  | nil => exact Nat.zero_le _
  | cons g groups ih =>
      have hrest := ih fun g hg => h g (List.mem_cons_of_mem _ hg)
      have hg : g.count ≤ g.units.length := by
        cases g with
        | aggregation nalus =>
            rw [Group.units, aggregationUnits_length]
            exact List.length_pos_iff.mpr (h _ List.mem_cons_self).1
        | fragments header pieces =>
            rw [Group.units, fragmentUnits_length]
            exact le_refl _
      rw [List.map_cons, List.sum_cons, List.flatMap_cons, List.length_append]
      omega

/-- One payload for each piece. -/
theorem fuAs_length (header : UInt8) (first : Bool) (pieces : List Bytes) :
    (fuAs header first pieces).length = pieces.length := by
  induction pieces generalizing first with
  | nil => rfl
  | cons piece pieces ih => rw [fuAs, List.length_cons, List.length_cons, ih]

/-- There are as many payloads as the packetizer has counted. -/
theorem payloads_length (groups : List Group) :
    (groups.flatMap Group.payloads).length = (groups.map Group.count).sum := by
  induction groups with
  | nil => rfl
  | cons g groups ih =>
      have hg : g.payloads.length = g.count := by
        cases g with
        | aggregation nalus => rfl
        | fragments header pieces => exact fuAs_length header true pieces
      rw [List.flatMap_cons, List.length_append, List.map_cons, List.sum_cons, ih, hg]

/-- One packet for each payload. -/
@[simp] theorem marked_length (payloads : List Bytes) :
    (marked payloads).length = payloads.length := by
  induction payloads with
  | nil => rfl
  | cons payload payloads ih => rw [marked, List.length_cons, List.length_cons, ih]

/-- The packets have the payloads in order. -/
theorem marked_payload (payloads : List Bytes) :
    (marked payloads).map RtpPacketToSend.payload = payloads := by
  induction payloads with
  | nil => rfl
  | cons payload payloads ih => rw [marked, List.map_cons, ih]

/-- The marker is set on the last packet and on no other. -/
theorem marked_marker (payloads : List Bytes) (i : Nat) (packet : RtpPacketToSend)
    (h : (marked payloads)[i]? = some packet) :
    packet.marker = decide (i + 1 = payloads.length) := by
  induction payloads generalizing i with
  | nil => simp [marked] at h
  | cons payload payloads ih =>
      cases i with
      | zero =>
          rw [marked, List.getElem?_cons_zero, Option.some.injEq] at h
          subst h
          rw [List.length_cons]
          cases payloads <;> simp
      | succ i =>
          rw [marked, List.getElem?_cons_succ] at h
          rw [ih i h, List.length_cons]
          simp

/-! ### The receiver -/

/-- A NAL unit that is not empty, of one of the types that a receiver takes from a packet
of its own. -/
def IsSingle (nalu : Bytes) : Prop :=
  nalu ≠ [] ∧ 1 ≤ nalType (nalu.headD 0) ∧ nalType (nalu.headD 0) ≤ 23

/-- A header that takes over F and NRI and says 24 is that of an aggregation. -/
theorem nalType_stapAHeader : ∀ header : UInt8, nalType ((header &&& 0xe0) ||| 24) = 24 := by
  decide +kernel

/-- A NAL unit is not longer than the aggregation that it is in. -/
theorem length_le_aggregate {nalu : Bytes} {nalus : List Bytes} (h : nalu ∈ nalus) :
    nalu.length ≤ (aggregate nalus).length := by
  induction nalus with
  | nil => exact absurd h List.not_mem_nil
  | cons first nalus ih =>
      rw [aggregate_cons, List.length_append, List.length_append]
      rcases List.mem_cons.mp h with rfl | h
      · omega
      · have hle := ih h
        omega

/-- A receiver makes the NAL units of the groups from their payloads. No group ends in the middle
of a unit, so each of them can be read by itself. -/
theorem depacketize_groups {groups : List Group} (hfits : ∀ g ∈ groups, g.Fits packetRoom)
    (hsingle : ∀ nalu ∈ groups.flatMap Group.nalus, IsSingle nalu) :
    depacketize none (groups.flatMap Group.payloads) = some (groups.flatMap Group.nalus) := by
  induction groups with
  | nil => rfl
  | cons g groups ih =>
      have hrest := ih (fun g hg => hfits g (List.mem_cons_of_mem _ hg))
        (fun nalu hnalu => hsingle nalu (List.mem_append_right _ hnalu))
      have hg := hfits g List.mem_cons_self
      rw [List.flatMap_cons, List.flatMap_cons]
      -- a single NAL unit is its own packet, several are a STAP-A, and fragments are FU-As
      match g, hg with
      | .aggregation [nalu], hg =>
          have hmem : nalu ∈ Group.nalus (.aggregation [nalu]) := List.mem_singleton_self nalu
          obtain ⟨hne, htype⟩ := hsingle nalu (List.mem_append_left _ hmem)
          obtain ⟨header, body, rfl⟩ := List.exists_cons_of_ne_nil hne
          show depacketize none ((header :: body) :: groups.flatMap Group.payloads) = _
          rw [List.headD_cons] at htype
          rw [depacketize_single htype, hrest]
          rfl
      | .aggregation (nalu :: next :: nalus), hg =>
          have hsize : ∀ n ∈ nalu :: next :: nalus, n.length < 2 ^ 16 := by
            intro n hn
            have hle := length_le_aggregate hn
            have hroom : 1 + (aggregate (nalu :: next :: nalus)).length ≤ packetRoom := hg.2
            unfold packetRoom at hroom
            omega
          show depacketize none ((_ :: aggregate (nalu :: next :: nalus)) ::
            groups.flatMap Group.payloads) = _
          rw [depacketize_stapA (nalType_stapAHeader _) hsize, hrest]
          rfl
      | .fragments header pieces, hg =>
          show depacketize none (fuAs header true pieces ++ groups.flatMap Group.payloads) = _
          rw [depacketize_fuAs header hg.1, hrest]
          rfl

/-! ### The round trip -/

/-- The packets of a frame are as many as `NumPackets` says before the first of them, the
marker is on the last one only, and a receiver makes the NAL units of the frame from
their payloads. -/
def RoundTrips (buffer : Bytes) (limits : PayloadLimits) : Prop :=
  ∃ nalus p packets,
    nalUnits buffer = some nalus ∧ RtpPacketizerH264.new buffer limits = some p ∧
      p.drain = some packets ∧ packets.length = p.numPackets ∧
      (∀ i packet, packets[i]? = some packet →
        packet.marker = decide (i + 1 = packets.length)) ∧
      depacketize none (packets.map RtpPacketToSend.payload) = some nalus

/-- What fits a packet fits a larger one. -/
theorem Group.Fits.mono {room room' : Nat} {g : Group} (h : g.Fits room) (hle : room ≤ room') :
    g.Fits room' := by
  cases g with
  | aggregation nalus => exact ⟨h.1, h.2.trans hle⟩
  | fragments header pieces => exact ⟨h.1, fun piece hpiece => (h.2 piece hpiece).trans hle⟩

/-- What fits into a payload fits into a packet. -/
theorem fits_packetRoom {limits : PayloadLimits} (h : Usable limits) {groups : List Group}
    (hfits : ∀ g ∈ groups, g.Fits limits.maxPayloadLen.toNat) :
    ∀ g ∈ groups, g.Fits packetRoom := by
  intro g hg
  refine (hfits g hg).mono ?_
  have hmax := h.maxLe
  unfold packetRoom
  omega

/-- A frame survives packetizing, if its NAL units have at most `2 ^ 31` bytes each: a receiver
that puts the packets together by RFC 6184 gets the units back, in their order. Behind that bound
the `int` that counts the bytes of a unit is negative, and the unit is lost. -/
theorem packetize_roundTrip (buffer : Bytes) (limits : PayloadLimits) (h : Usable limits)
    (hnalus : ∀ nalus, nalUnits buffer = some nalus →
      ∀ nalu ∈ nalus, IsSingle nalu ∧ nalu.length ≤ 2 ^ 31) :
    RoundTrips buffer limits := by
  obtain ⟨nalus, hfind⟩ := nalUnits_isSome buffer
  have hsingle := hnalus nalus hfind
  obtain ⟨groups, hqueue, hcover, hfits, -⟩ := ofNalUnits_spec h
    fun nalu hnalu => ⟨(hsingle nalu hnalu).1.1, (hsingle nalu hnalu).2⟩
  have hroom := fits_packetRoom h hfits
  have hdrain := drainLoop_spec limits hroom _ (count_le hroom)
  have hreceived := depacketize_groups hroom (by
    rw [hcover]
    exact fun nalu hnalu => (hsingle nalu hnalu).1)
  rw [hcover] at hdrain hreceived
  refine ⟨nalus, ⟨limits, nalus, groups.flatMap Group.units, (groups.map Group.count).sum⟩,
    marked (groups.flatMap Group.payloads), hfind, ?_, hdrain, ?_, ?_, ?_⟩
  · rw [new_of_nalUnits hfind]
    exact hqueue
  · rw [marked_length]
    exact payloads_length groups
  · rw [marked_length]
    exact marked_marker _
  · rw [marked_payload]
    exact hreceived

/-- A frame with parameter sets and a slice of 13 bytes. -/
def smallFrame : Bytes :=
  [0, 0, 0, 1, 0x67, 1, 2, 0, 0, 1, 0x68, 3, 0, 0, 0, 1, 0x65, 4, 5, 6, 7, 8, 9, 10, 11, 12, 13,
    14, 15]

/-- Limits of a few bytes, so that small NAL units do not fit. -/
def smallLimits : PayloadLimits := ⟨12, 1, 1, 1⟩

/-- The parameter sets are aggregated, and the slice is in two fragments. -/
theorem smallFrame_roundTrips :
    (RtpPacketizerH264.new smallFrame smallLimits).map numPackets = some 3 ∧
      RoundTrips smallFrame smallLimits := by
  have hnalus : nalUnits smallFrame
      = some [[0x67, 1, 2], [0x68, 3], [0x65, 4, 5, 6, 7, 8, 9, 10, 11, 12, 13, 14, 15]] := by
    decide +kernel
  refine ⟨by decide +kernel, packetize_roundTrip smallFrame smallLimits ?_ ?_⟩
  · constructor <;> decide
  · intro nalus h
    rw [hnalus, Option.some.injEq] at h
    subst h
    unfold IsSingle
    decide

/-! ### A NAL unit that is too large -/

/-- A frame of one NAL unit of more than `2 ^ 31` bytes has no packets. -/
theorem ofNalUnits_huge {limits : PayloadLimits} (h : Usable limits) (header : UInt8) {body : Bytes}
    (hlow : 2 ^ 31 ≤ body.length) (hhigh : body.length < 2 ^ 32) :
    ofNalUnits [header :: body] limits = some ⟨limits, [header :: body], [], 0⟩ := by
  generalize hp : (⟨limits, [header :: body], [], 0⟩ : RtpPacketizerH264) = p
  have husable : Usable p.limits := by rwa [← hp]
  have hnalu : p.inputFragments[0]? = some (header :: body) := by rw [← hp]; rfl
  have hcapacity : p.singlePacketCapacity 0 < (header :: body).length := by
    have heq := singlePacketCapacity_eq husable 0
    have hmax := husable.maxLe
    have hsingle := husable.singleNonneg
    have hlength : p.inputFragments.length = 1 := by rw [← hp]; rfl
    rw [if_pos hlength] at heq
    rw [List.length_cons]
    omega
  obtain ⟨hroomy, -, hsingle, hsingleLt, hnofit⟩ :=
    fuALimits_spec husable (show 0 < p.inputFragments.length by rw [← hp]; exact Nat.one_pos)
      hcapacity
  -- the count of its bytes is negative as an `int`, so the split gives no sizes
  have hfu : packetizeFuA p 0 = some (false, p) :=
    packetizeFuA_eq hnalu (splitAboutEqual_of_nonpos hroomy (by omega) (by omega)
      (toInt32_neg hlow hhigh).le hsingle hsingleLt hnofit)
  have hgenerate : generateLoop 1 p 0 = some (false, p) := by
    rw [generateLoop]
    dsimp only
    rw [hnalu]
    dsimp only
    rw [if_pos hcapacity, hfu]
    rfl
  unfold ofNalUnits generatePackets
  rw [List.length_singleton, hp, hgenerate, ← hp]
  rfl

/-- A frame of one NAL unit with `n` bytes behind its header. -/
def loneNalu (n : Nat) : Bytes := [0, 0, 1, 0x41] ++ List.replicate n 0xff

/-- The buffer of the example has one NAL unit, of as many bytes as it was made with. -/
theorem nalUnits_loneNalu (n : Nat) :
    nalUnits (loneNalu n) = some [0x41 :: List.replicate n 0xff] := by
  have hlength : (loneNalu n).length = n + 4 := by
    rw [loneNalu, List.length_append, List.length_replicate]
    exact Nat.add_comm 4 n
  have hcodes : startCodes (loneNalu n) 0 = [0] := by
    rw [startCodes_of_lt (by omega), if_pos ⟨rfl, rfl, rfl⟩, startCodes_eq_nil]
    -- behind the start code there is no byte 1
    intro j hj hstart
    have hone := hstart.2.2
    rw [loneNalu, List.getElem?_append] at hone
    split_ifs at hone with hshort
    · have hj : j = 1 := by
        simp only [List.length_cons, List.length_nil] at hshort
        omega
      subst hj
      exact absurd hone (by decide)
    · rw [List.getElem?_replicate] at hone
      split_ifs at hone
      exact absurd (Option.some.inj hone) (by decide)
  rw [nalUnits_eq, hcodes]
  show some [((loneNalu n).drop 3).take ((loneNalu n).length - 3)] = _
  rw [List.take_of_length_le (by rw [List.length_drop]), loneNalu]
  rfl

/-- Its type is one of a single NAL unit packet. -/
theorem loneNalu_isSingle (n : Nat) :
    ∀ nalus, nalUnits (loneNalu n) = some nalus → ∀ nalu ∈ nalus, IsSingle nalu := by
  intro nalus h nalu hnalu
  rw [nalUnits_loneNalu, Option.some.injEq] at h
  subst h
  rw [List.mem_singleton] at hnalu
  subst hnalu
  refine ⟨List.cons_ne_nil _ _, ?_⟩
  rw [List.headD_cons]
  decide

/-- No packet is made of a NAL unit that is too large. -/
theorem loneNalu_not_roundTrips {limits : PayloadLimits} (h : Usable limits) {n : Nat}
    (hlow : 2 ^ 31 ≤ n) (hhigh : n < 2 ^ 32) : ¬ RoundTrips (loneNalu n) limits := by
  have hqueue := ofNalUnits_huge h 0x41
    (show 2 ^ 31 ≤ (List.replicate n (0xff : UInt8)).length by rwa [List.length_replicate])
    (by rwa [List.length_replicate])
  rintro ⟨nalus, p, packets, hfind, hnew, hdrain, -, -, hreceived⟩
  rw [new_of_nalUnits hfind] at hnew
  rw [nalUnits_loneNalu, Option.some.injEq] at hfind
  subst hfind
  rw [hqueue, Option.some.injEq] at hnew
  subst hnew
  have hnone : packets = [] := (Option.some.inj hdrain).symm
  subst hnone
  exact absurd hreceived (by simp [depacketize])

/-- The default limits leave room for a packet. -/
theorem defaultLimits_usable : Usable {} := by
  constructor <;> decide

/-- With `2 ^ 31` bytes behind its header, a NAL unit of type 1 is lost. -/
theorem hugeNalu_lost :
    Usable {} ∧
      (∀ nalus, nalUnits (loneNalu (2 ^ 31)) = some nalus → ∀ nalu ∈ nalus, IsSingle nalu) ∧
      ¬ RoundTrips (loneNalu (2 ^ 31)) {} :=
  ⟨defaultLimits_usable, loneNalu_isSingle _,
    loneNalu_not_roundTrips defaultLimits_usable (le_refl _) (by decide)⟩

end Xrtc.Proofs.Rtp
