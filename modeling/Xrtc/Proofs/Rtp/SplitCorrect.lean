import Mathlib.Algebra.Order.BigOperators.Group.List
import Xrtc.Proofs.Rtp.SplitAboutEqual

/-!
# `Xrtc.Proofs.Rtp.SplitCorrect`: every packet of a split gets data that fits

`Xrtc.Proofs.Rtp.SplitAboutEqual` says that the loop ends and that the sizes make up
the payload. Here are the limits of the first, the last and a sole packet, and that no
packet is empty (`CorrectSplit`).

No packet gets more than is planned for it, and the last reduction is part of the plan.
So the data left for the last packets stays below their plan by that reduction
(`splitLoop_correct`). A packet is empty only if the data is used up before the last
two packets. The plan rules that out (`planned_le`), but for a payload of one byte that
may not be sent alone: it is planned for two packets, and the first one gets nothing.
`correctSplit_iff` is the exact condition.
-/

set_option autoImplicit false

namespace Xrtc.Proofs.Rtp

open Xrtc.Lib
open Xrtc.Rtp

/-! ### The packets behind the first -/

/-- Sizes of packets with data, the last of which leaves room for a reduction. -/
structure TailSizes (max last remain : Int) (sizes : List Int) : Prop where
  ne : sizes ≠ []
  sum : sizes.sum = remain
  bounds : ∀ s ∈ sizes, 1 ≤ s ∧ s ≤ max
  lastFits : ∀ s ∈ sizes.getLast?, s ≤ max - last

/-- One more packet in front of the sizes, with at least a byte and within the limit. -/
theorem TailSizes.cons {max last remain current : Int} {sizes : List Int}
    (h : TailSizes max last (remain - current) sizes) (hlow : 1 ≤ current) (hhigh : current ≤ max) :
    TailSizes max last remain (current :: sizes) := by
  refine ⟨List.cons_ne_nil _ _, ?_, fun s hs => ?_, fun s hs => ?_⟩
  · rw [List.sum_cons, h.sum]
    omega
  · rcases List.mem_cons.mp hs with rfl | hs
    · exact ⟨hlow, hhigh⟩
    · exact h.bounds s hs
  · rw [List.getLast?_cons_of_ne_nil h.ne] at hs
    exact h.lastFits s hs

/-- The last packet has its own reduction to obey. -/
theorem tailSizes_singleton {max last current : Int} (hlow : 1 ≤ current) (hnonneg : 0 ≤ last)
    (hfits : current ≤ max - last) : TailSizes max last current [current] := by
  refine ⟨List.cons_ne_nil _ _, by simp, fun s hs => ?_, fun s hs => ?_⟩
  · rw [List.mem_singleton.mp hs]
    omega
  · rw [List.getLast?_singleton, Option.mem_some_iff] at hs
    omega

/-- No `k` packets are planned for more than the room of all of them. -/
theorem planned_le {q r m : Nat} (hq : q ≤ m) (hr : 0 < r → q < m) (j k : Nat) :
    planned q r (j + k) ≤ planned q r j + k * m := by
  induction k with
  | zero => simp
  | succ k ih =>
      have hstep : (if j + k + 1 ≤ r then q + 1 else q) ≤ m := by
        split <;> omega
      rw [← Nat.add_assoc, planned, Nat.succ_mul]
      omega

/-- The last packet takes all the data that is left. -/
theorem splitLoop_one (limits : PayloadLimits) {q r : Nat} {remain : Int}
    (hlow : 1 ≤ remain) (hhigh : remain ≤ planned q r 1) (hint : (planned q r 1 : Int) < 2 ^ 31) :
    splitLoop limits r 1 (if 1 < r then q + 1 else q) remain false = some [remain] := by
  have hbytes : (if 0 + 1 = r then (if 1 < r then q + 1 else q) + 1
      else if 1 < r then q + 1 else q) = planned q r 1 := by
    simp only [planned]
    split_ifs <;> omega
  have hzero : remain - remain = 0 := Int.sub_self remain
  rw [splitLoop, if_pos (by omega), hbytes]
  dsimp only
  rw [currentPacketBytes_next limits hint, if_neg (by omega), min_eq_left hhigh, hzero,
    splitLoop, if_neg (by omega)]
  rfl

/-- The loop from the last two packets on, with at least a byte for each. -/
theorem splitLoop_two (limits : PayloadLimits) {q r m : Nat} {last remain : Int} (hq : q ≤ m)
    (hr : 0 < r → q < m) (hpos : 0 < q) (hm : (m : Int) < 2 ^ 31) (hlast : 0 ≤ last)
    (hlastLt : last < m) (hlow : 2 ≤ remain) (hhigh : remain + last ≤ planned q r 2) :
    ∃ sizes, splitLoop limits r 2 (if 2 < r then q + 1 else q) remain false = some sizes ∧
      TailSizes m last remain sizes := by
  have hbytes : (if 1 + 1 = r then (if 1 + 1 < r then q + 1 else q) + 1
      else if 1 + 1 < r then q + 1 else q) = if 2 ≤ r then q + 1 else q := by
    split_ifs <;> omega
  have hplan : planned q r 2 = planned q r 1 + if 2 ≤ r then q + 1 else q := rfl
  have hone : 1 ≤ planned q r 1 ∧ planned q r 1 ≤ m := by
    simp only [planned]
    split <;> omega
  generalize hsize : (if 2 ≤ r then q + 1 else q) = size at hbytes hplan
  have hsizeLe : 1 ≤ size ∧ size ≤ m := by
    rw [← hsize]
    split <;> omega
  rw [splitLoop, if_pos (by omega), hbytes]
  dsimp only
  rw [currentPacketBytes_next limits (by omega)]
  generalize hcurrent : (if 1 + 1 = 2 ∧ remain ≤ size then remain - 1 else min remain size) = current
  have hleft : 1 ≤ current ∧ current ≤ m ∧ 1 ≤ remain - current ∧
      remain - current ≤ planned q r 1 ∧ remain - current ≤ m - last := by
    split_ifs at hcurrent <;> omega
  obtain ⟨hcurrentPos, hcurrentLe, hpositive, hfits, hroom⟩ := hleft
  rw [show (if 2 ≤ r then q + 1 else q) = (if 1 < r then q + 1 else q) from rfl] at hsize
  rw [← hsize, splitLoop_one limits hpositive hfits (by omega)]
  exact ⟨[current, remain - current], rfl,
    (tailSizes_singleton hpositive hlast hroom).cons hcurrentPos hcurrentLe⟩

/-- The loop behind the first packet. As long as the data covers the plan for all but the
last two packets, and a byte for each of these, the packets get what is planned. -/
theorem splitLoop_correct (limits : PayloadLimits) {q r m : Nat} {last : Int} (hq : q ≤ m)
    (hr : 0 < r → q < m) (hpos : 0 < q) (hm : (m : Int) < 2 ^ 31) (hlast : 0 ≤ last)
    (hlastLt : last < m) (k : Nat) :
    ∀ remain : Int, (planned q r (2 + k) : Int) + 2 ≤ remain + planned q r 2 →
      remain + last ≤ planned q r (2 + k) →
      ∃ sizes,
        splitLoop limits r (2 + k) (if 2 + k < r then q + 1 else q) remain false = some sizes ∧
          TailSizes m last remain sizes := by
  -- on the packets that are left besides the last two, which `splitLoop_two` splits
  induction k with
  | zero =>
      intro remain hlow hhigh
      rw [Nat.add_zero] at hlow hhigh
      exact splitLoop_two limits hq hr hpos hm hlast hlastLt (by omega) hhigh
  | succ k ih =>
      intro remain hlow hhigh
      have hbytes : (if 2 + k + 1 = r then (if 2 + k + 1 < r then q + 1 else q) + 1
          else if 2 + k + 1 < r then q + 1 else q) = if 2 + k + 1 ≤ r then q + 1 else q := by
        split_ifs <;> omega
      have hplan : planned q r (2 + k + 1)
          = planned q r (2 + k) + if 2 + k + 1 ≤ r then q + 1 else q := rfl
      have hmore : planned q r 2 ≤ planned q r (2 + k) := by
        rw [planned_eq, planned_eq]
        have := Nat.mul_le_mul_right q (show 2 ≤ 2 + k by omega)
        omega
      rw [← Nat.add_assoc] at hlow hhigh ⊢
      -- this packet has its planned size, and the bounds hold of what is left without it
      generalize hsize : (if 2 + k + 1 ≤ r then q + 1 else q) = size at hbytes hplan
      have hsizeLe : 1 ≤ size ∧ size ≤ m := by
        rw [← hsize]
        split <;> omega
      obtain ⟨sizes, hsizes, htail⟩ := ih (remain - size) (by omega) (by omega)
      rw [show (if 2 + k < r then q + 1 else q) = size from hsize] at hsizes
      rw [splitLoop, if_pos (by omega), hbytes]
      dsimp only
      rw [currentPacketBytes_next limits (by omega), if_neg (by omega), min_eq_right (by omega),
        hsizes]
      exact ⟨size :: sizes, rfl, htail.cons (by omega) (by omega)⟩

/-! ### The first packet -/

/-- The first packet gets what is planned for it less its reduction, but at least a byte,
and leaves a byte if there are only two packets. -/
theorem currentPacketBytes_first (limits : PayloadLimits) {n bytes : Nat} {payload : Int}
    (hbytes : (bytes : Int) < 2 ^ 31) :
    currentPacketBytes limits n bytes payload true =
      if n = 2 ∧ payload ≤ max 1 (bytes - limits.firstPacketReductionLen) then payload - 1
      else min payload (max 1 (bytes - limits.firstPacketReductionLen)) := by
  unfold currentPacketBytes
  rw [toInt32_of_lt (by omega) hbytes]
  simp only [if_true]
  split_ifs <;> omega

/-- A split that is none of the exceptions: sizes of packets with data that make up the
payload, within the limits of a sole packet, of the first one and of the last one. -/
structure CorrectSplit (limits : PayloadLimits) (payload : Nat) (sizes : List Int) : Prop where
  sum : sizes.sum = payload
  bounds : ∀ s ∈ sizes, 1 ≤ s ∧ s ≤ limits.maxPayloadLen
  single : ∀ s, sizes = [s] → s ≤ limits.maxPayloadLen - limits.singlePacketReductionLen
  first : 2 ≤ sizes.length →
    ∀ s ∈ sizes.head?, s ≤ limits.maxPayloadLen - limits.firstPacketReductionLen
  last : 2 ≤ sizes.length →
    ∀ s ∈ sizes.getLast?, s ≤ limits.maxPayloadLen - limits.lastPacketReductionLen

/-- The first packet has another one, and the others are those behind it. -/
theorem correctSplit_cons {limits : PayloadLimits} {payload : Nat} {current : Int}
    {sizes : List Int}
    (h : TailSizes limits.maxPayloadLen limits.lastPacketReductionLen (payload - current) sizes)
    (hnonneg : 0 ≤ limits.firstPacketReductionLen) (hlow : 1 ≤ current)
    (hhigh : current ≤ limits.maxPayloadLen - limits.firstPacketReductionLen) :
    CorrectSplit limits payload (current :: sizes) := by
  have htail := h.cons hlow (show current ≤ limits.maxPayloadLen by omega)
  refine ⟨htail.sum, htail.bounds, fun s hs => ?_, fun _ s hs => ?_, fun _ => htail.lastFits⟩
  · exact absurd (List.cons.inj hs).2 h.ne
  · rw [List.head?_cons, Option.mem_some_iff] at hs
    omega

/-- The loop for two packets. The first one leaves at least one byte for the second, and both stay
within their room. -/
theorem splitLoop_pair {limits : PayloadLimits} (hlimits : Roomy limits) {payload q r m : Nat}
    (hm : limits.maxPayloadLen = m) (hq : q ≤ m) (hr : 0 < r → q < m) (hrlt : r < 2)
    (hpayload : 2 ≤ payload)
    (htotal : (payload : Int) + limits.firstPacketReductionLen + limits.lastPacketReductionLen
      = planned q r 2) :
    ∃ sizes, splitLoop limits r 2 q payload true = some sizes ∧
      CorrectSplit limits payload sizes := by
  obtain ⟨hmax, hmaxlt, hfirst, hfirstlt, hlast, hlastlt⟩ := hlimits
  have hplan : planned q r 2 = planned q r 1 + q := by
    rw [planned, if_neg (by omega)]
  have hone : 1 ≤ planned q r 1 ∧ planned q r 1 ≤ m := by
    simp only [planned] at *
    split_ifs at * <;> omega
  rw [splitLoop, if_pos (by omega), if_neg (by omega)]
  dsimp only
  rw [currentPacketBytes_first limits (by omega)]
  -- the first packet leaves at least one byte for the second
  generalize hcurrent : (if 1 + 1 = 2 ∧ (payload : Int) ≤ max 1 (q - limits.firstPacketReductionLen)
    then (payload : Int) - 1 else min (payload : Int) (max 1 (q - limits.firstPacketReductionLen)))
      = current
  have hleft : 1 ≤ current ∧ current ≤ m - limits.firstPacketReductionLen ∧
      1 ≤ payload - current ∧ payload - current ≤ planned q r 1 ∧
      payload - current ≤ m - limits.lastPacketReductionLen := by
    split_ifs at hcurrent <;> omega
  obtain ⟨hlow, hhigh, hpositive, hfits, hroom⟩ := hleft
  have hrest := splitLoop_one limits hpositive hfits (by omega)
  rw [if_neg (by omega)] at hrest
  rw [hrest]
  rw [← hm] at hroom hhigh
  exact ⟨_, rfl, correctSplit_cons (tailSizes_singleton hpositive hlast hroom) hfirst hlow hhigh⟩

/-- The loop for three packets or more. The first one takes its share and leaves enough for all
the others, which fill up what is left from the plan. -/
theorem splitLoop_many {limits : PayloadLimits} (hlimits : Roomy limits) {payload q r m k : Nat}
    (hm : limits.maxPayloadLen = m) (hq : q ≤ m) (hr : 0 < r → q < m) (hrlt : r < 2 + k + 1)
    (hpos : 0 < q) (hpayload : 0 < payload)
    (htotal : (payload : Int) + limits.firstPacketReductionLen + limits.lastPacketReductionLen
      = planned q r (2 + k + 1))
    (hcount : (2 + k) * m < planned q r (2 + k + 1)) :
    ∃ sizes, splitLoop limits r (2 + k + 1) q payload true = some sizes ∧
      CorrectSplit limits payload sizes := by
  obtain ⟨hmax, hmaxlt, hfirst, hfirstlt, hlast, hlastlt⟩ := hlimits
  have hplan : planned q r (2 + k + 1) = planned q r (2 + k) + q := by
    rw [planned, if_neg (by omega)]
  -- the plan for the first packet and the last two is more than two packets of room
  have hmiddle := planned_le hq hr 2 k
  rw [Nat.add_mul] at hcount
  rw [splitLoop, if_pos (by omega), if_neg (by omega)]
  dsimp only
  rw [currentPacketBytes_first limits (by omega)]
  generalize hcurrent : (if 2 + k + 1 = 2 ∧
      (payload : Int) ≤ max 1 (q - limits.firstPacketReductionLen) then (payload : Int) - 1
    else min (payload : Int) (max 1 (q - limits.firstPacketReductionLen))) = current
  have hleft : 1 ≤ current ∧ current ≤ m - limits.firstPacketReductionLen ∧
      (planned q r (2 + k) : Int) + 2 ≤ payload - current + planned q r 2 ∧
      payload - current + limits.lastPacketReductionLen ≤ planned q r (2 + k) := by
    generalize k * m = middle at *
    split_ifs at hcurrent <;> omega
  obtain ⟨hlow, hhigh, hcover, hfits⟩ := hleft
  obtain ⟨sizes, hsizes, htail⟩ := splitLoop_correct limits hq hr hpos (by omega) hlast
    (by omega) k (payload - current) hcover hfits
  rw [if_neg (by omega)] at hsizes
  rw [hsizes]
  rw [← hm] at htail hhigh
  exact ⟨_, rfl, correctSplit_cons htail hfirst hlow hhigh⟩

/-! ### The result -/

/-- A payload of two bytes or more that does not fit one packet. -/
theorem splitAboutEqual_correct {limits : PayloadLimits} (hlimits : Roomy limits) {payload : Nat}
    (hpayload : 2 ≤ payload) (hint : (payload : Int) < 2 ^ 31)
    (hsingle : 0 ≤ limits.singlePacketReductionLen)
    (hsingleLt : limits.singlePacketReductionLen < 2 ^ 31)
    (hfit : limits.maxPayloadLen < payload + limits.singlePacketReductionLen) :
    ∃ sizes, splitAboutEqual payload limits = some sizes ∧ CorrectSplit limits payload sizes := by
  obtain ⟨m, total, n, hm, htotal, hloop, htwo, hup, hmany⟩ :=
    splitAboutEqual_eq_splitLoop hlimits (by omega) (by omega) hsingle hsingleLt hfit
  obtain ⟨hq, hr, hmod⟩ := bytesPerPacket_spec htwo hup
  have hplan := planned_total total (show 0 < n by omega)
  rw [hloop, toInt32_of_lt (by omega) hint]
  by_cases hn : n = 2
  · subst hn
    exact splitLoop_pair hlimits hm hq hr hmod hpayload (by rw [htotal, hplan])
  · obtain ⟨k, rfl⟩ : ∃ k, n = 2 + k + 1 := ⟨n - 3, by omega⟩
    have hcount := hmany (by omega)
    rw [Nat.add_sub_cancel] at hcount
    have hpos : 0 < total / (2 + k + 1) := by
      refine Nat.div_pos ?_ (by omega)
      have hmax := hlimits.maxPos
      have hle := Nat.le_mul_of_pos_right (2 + k) (show 0 < m by omega)
      omega
    exact splitLoop_many hlimits hm hq hr hmod hpos (by omega) (by rw [htotal, hplan])
      (by rwa [hplan])

/-- Limits of `int`s: packets have room, and no reduction is negative or above it. -/
structure SplitLimits (limits : PayloadLimits) : Prop where
  maxPos : 1 ≤ limits.maxPayloadLen
  maxLt : limits.maxPayloadLen < 2 ^ 31
  singleNonneg : 0 ≤ limits.singlePacketReductionLen
  singleLe : limits.singlePacketReductionLen ≤ limits.maxPayloadLen
  firstNonneg : 0 ≤ limits.firstPacketReductionLen
  firstLe : limits.firstPacketReductionLen ≤ limits.maxPayloadLen
  lastNonneg : 0 ≤ limits.lastPacketReductionLen
  lastLe : limits.lastPacketReductionLen ≤ limits.maxPayloadLen

/-- `SplitAboutEqual` ends. It gives no sizes only for a payload that does not fit one
packet when there is no room in the first or in the last packet, and otherwise a correct
split. -/
def SplitsCorrectly (payload : Nat) (limits : PayloadLimits) : Prop :=
  ∃ sizes, splitAboutEqual payload limits = some sizes ∧
    (sizes = [] → limits.maxPayloadLen < payload + limits.singlePacketReductionLen ∧
      (limits.maxPayloadLen - limits.firstPacketReductionLen < 1 ∨
        limits.maxPayloadLen - limits.lastPacketReductionLen < 1)) ∧
    (sizes ≠ [] → CorrectSplit limits payload sizes)

/-- A payload of one byte that may not be sent alone has no correct split, unless there is
no room in the first or in the last packet. -/
theorem not_splitsCorrectly_one {limits : PayloadLimits}
    (hsingle : limits.singlePacketReductionLen = limits.maxPayloadLen)
    (hfirst : limits.firstPacketReductionLen < limits.maxPayloadLen)
    (hlast : limits.lastPacketReductionLen < limits.maxPayloadLen) :
    ¬ SplitsCorrectly 1 limits := by
  rintro ⟨sizes, -, hempty, hcorrect⟩
  cases sizes with
  | nil =>
      obtain ⟨-, hroom⟩ := hempty rfl
      omega
  | cons s sizes =>
      have h := hcorrect (List.cons_ne_nil _ _)
      have hone : 1 ≤ s := (h.bounds s List.mem_cons_self).1
      cases sizes with
      | nil =>
          have hle := h.single s rfl
          omega
      | cons t sizes =>
          -- two sizes of a byte or more are more than the payload
          have htwo : 1 ≤ t := (h.bounds t (List.mem_cons_of_mem _ List.mem_cons_self)).1
          have hrest : 0 ≤ sizes.sum := List.sum_nonneg fun u hu => by
            have := (h.bounds u (List.mem_cons_of_mem _ (List.mem_cons_of_mem _ hu))).1
            omega
          have hsum := h.sum
          rw [List.sum_cons, List.sum_cons] at hsum
          omega

/-- The split of a payload is correct, except for a payload of one byte with no room for it in a
sole packet but in the first and in the last one. The source asks for two packets there, and one
of them is empty. -/
theorem splitsCorrectly_iff {payload : Nat} {limits : PayloadLimits} (hpayload : 1 ≤ payload)
    (hint : (payload : Int) < 2 ^ 31) (hlimits : SplitLimits limits) :
    SplitsCorrectly payload limits ↔
      ¬ (payload = 1 ∧ limits.singlePacketReductionLen = limits.maxPayloadLen ∧
        limits.firstPacketReductionLen < limits.maxPayloadLen ∧
        limits.lastPacketReductionLen < limits.maxPayloadLen) := by
  constructor
  · rintro h ⟨rfl, hsingle, hfirst, hlast⟩
    exact not_splitsCorrectly_one hsingle hfirst hlast h
  intro h
  obtain ⟨hmax, hmaxlt, hsingle, hsingleLe, hfirst, hfirstLe, hlast, hlastLe⟩ := hlimits
  -- several packets, of which the first or the last may have no room, or a single one
  by_cases hfit : limits.maxPayloadLen < payload + limits.singlePacketReductionLen
  · by_cases hroom : limits.maxPayloadLen - limits.firstPacketReductionLen < 1 ∨
        limits.maxPayloadLen - limits.lastPacketReductionLen < 1
    · refine ⟨[], ?_, fun _ => ⟨hfit, hroom⟩, fun hne => absurd rfl hne⟩
      unfold splitAboutEqual
      rw [toSizeT_of_nonneg (x := (payload : Int) + _) (by omega) (by omega),
        toSizeT_of_nonneg (x := limits.maxPayloadLen) (by omega) (by omega), if_neg (by omega),
        if_pos hroom]
    · have hroomy : Roomy limits :=
        ⟨hmax, hmaxlt, hfirst, by omega, hlast, by omega⟩
      obtain ⟨sizes, hsizes, hcorrect⟩ :=
        splitAboutEqual_correct hroomy (by omega) hint hsingle (by omega) hfit
      refine ⟨sizes, hsizes, ?_, fun _ => hcorrect⟩
      rintro rfl
      have hsum := hcorrect.sum
      rw [List.sum_nil] at hsum
      omega
  · refine ⟨[(payload : Int)], ?_, fun hne => absurd hne (List.cons_ne_nil _ _), fun _ => ?_⟩
    · unfold splitAboutEqual
      rw [toSizeT_of_nonneg (x := (payload : Int) + _) (by omega) (by omega),
        toSizeT_of_nonneg (x := limits.maxPayloadLen) (by omega) (by omega), if_pos (by omega),
        toInt32_of_lt (by omega) hint]
    · refine ⟨by simp, fun s hs => ?_, fun s hs => ?_, fun h => absurd h (by simp),
        fun h => absurd h (by simp)⟩
      · rw [List.mem_singleton.mp hs]
        omega
      · rw [← (List.cons.inj hs).1]
        omega

/-- Five bytes in packets of four, of which the first takes three and the last two. -/
theorem fiveBytes_splitsCorrectly : SplitsCorrectly 5 ⟨4, 0, 1, 2⟩ :=
  (splitsCorrectly_iff (by decide) (by decide) (by constructor <;> decide)).mpr (by decide)

/-- One byte that may not be sent alone is split in a packet without data and one with
it. -/
theorem oneByte_not_splitsCorrectly :
    splitAboutEqual 1 ⟨2, 2, 0, 0⟩ = some [0, 1] ∧ ¬ SplitsCorrectly 1 ⟨2, 2, 0, 0⟩ :=
  ⟨by decide +kernel, not_splitsCorrectly_one rfl (by decide) (by decide)⟩

/-! ### A split in one part -/

/-- The loop goes on exactly as long as there is data. -/
theorem splitLoop_eq_nil_iff {limits : PayloadLimits} {larger k bytes : Nat} {remain : Int}
    {first : Bool} {sizes : List Int}
    (h : splitLoop limits larger k bytes remain first = some sizes) :
    sizes = [] ↔ remain ≤ 0 := by
  cases k with
  | zero =>
      rw [splitLoop] at h
      split at h
      · cases h
      · cases h
        exact iff_of_true rfl (by omega)
  | succ k =>
      rw [splitLoop] at h
      split at h
      · obtain ⟨rest, -, rfl⟩ := Option.map_eq_some_iff.mp h
        exact iff_of_false (List.cons_ne_nil _ _) (by omega)
      · cases h
        exact iff_of_true rfl (by omega)

/-- A payload that does not fit a packet of `m` bytes is one packet all the same exactly if what an
`int` holds of its size is no more than the bytes for each packet. -/
theorem splitAboutEqual_length_eq_one_iff {payload m : Nat} (hm : 4 ≤ m) (hmax : m < 2 ^ 29)
    (hfit : m < payload) (hsize : payload < 2 ^ 63) (hpos : 0 < toInt32 payload) {sizes : List Int}
    (h : splitAboutEqual payload { maxPayloadLen := m } = some sizes) :
    sizes.length = 1 ↔ toInt32 payload ≤ (payload / ((payload + m - 1) / m) : Nat) := by
  have hcount := @packetCount_spec payload m _ (by omega) (by omega) rfl
  have hdivmod := Nat.div_add_mod (payload + m - 1) m
  have hmod := Nat.mod_lt (payload + m - 1) (show 0 < m by omega)
  have hsecond : (payload + m - 1) / m ≠ 1 := by
    intro hone
    rw [hone] at hdivmod
    omega
  rw [if_neg hsecond] at hcount
  have hceil : ((payload : Int) + m - 1).toNat = payload + m - 1 := by omega
  unfold splitAboutEqual at h
  dsimp only at h
  rw [Int.add_zero, Int.add_zero, toSizeT_natCast (by omega), toSizeT_natCast (by omega),
    if_neg (by omega), if_neg (by omega), if_neg (by omega),
    toSizeT_of_nonneg (x := (payload : Int) + m - 1) (by omega) (by omega), hceil, if_neg hsecond,
    if_neg (by omega)] at h
  obtain ⟨hq, -, hr⟩ := bytesPerPacket_spec hcount.1 hcount.2.1
  have hdivmod' := Nat.div_add_mod payload ((payload + m - 1) / m)
  -- the bytes for each packet are at least half of its room
  have hone : 2 ≤ payload / ((payload + m - 1) / m) := by
    have hfour := Nat.mul_le_mul_right ((payload + m - 1) / m) hm
    rw [Nat.le_div_iff_mul_le (by omega)]
    omega
  generalize (payload + m - 1) / m = n at *
  obtain ⟨k, rfl⟩ : ∃ k, n = k + 1 := ⟨n - 1, by omega⟩
  generalize payload / (k + 1) = q at *
  have htwo : k + 1 = 2 → (q : Int) < toInt32 payload := by
    intro hk
    rw [hk] at hcount hdivmod'
    rw [toInt32_of_lt (by omega) (by omega)]
    omega
  rw [splitLoop, if_pos hpos, if_neg (by omega)] at h
  dsimp only at h
  have hcurrent : currentPacketBytes { maxPayloadLen := m } (k + 1) q (toInt32 payload) true
      = min (toInt32 payload) q := by
    rw [currentPacketBytes_first _ (by omega)]
    dsimp only
    rw [Int.sub_zero, max_eq_right (by omega), if_neg (by omega)]
  rw [hcurrent] at h
  obtain ⟨rest, hrest, rfl⟩ := Option.map_eq_some_iff.mp h
  have hnil := splitLoop_eq_nil_iff hrest
  rw [List.length_cons, Nat.add_eq_right, List.length_eq_zero_iff, hnil, sub_nonpos,
    le_min_iff]
  exact and_iff_right (le_refl _)
end Xrtc.Proofs.Rtp
