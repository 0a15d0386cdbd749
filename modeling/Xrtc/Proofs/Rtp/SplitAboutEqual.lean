import Xrtc.Rtp.RtpFormat

/-!
# `Xrtc.Proofs.Rtp.SplitAboutEqual`: what the split of a payload gives

`SplitAboutEqual` plans packets of about equal size for the payload and the two
reductions, and then takes the first reduction from the first packet. `planned` is
the total of its plan for the packets left. The loop never has more data left than
that (`splitLoop_spec`), so it ends with its counter, and every packet gets at most
what is planned for it.

`splitAboutEqual_spec` is the result for a payload that does not fit one packet.
-/

set_option autoImplicit false

namespace Xrtc.Proofs.Rtp

open Xrtc.Lib
open Xrtc.Rtp

/-- The bytes planned for the last `k` packets: `q` for each, and one more for the last
`r` of them. -/
def planned (q r : Nat) : Nat → Nat
  | 0 => 0
  | k + 1 => planned q r k + (if k + 1 ≤ r then q + 1 else q)

/-- The plan in closed form, with one more byte for as many packets as the division leaves over.
-/
theorem planned_eq (q r k : Nat) : planned q r k = k * q + min k r := by
  induction k with
  | zero => simp [planned]
  | succ k ih =>
      rw [planned, ih, Nat.succ_mul]
      split <;> omega

/-- The plan for all packets is the total. -/
theorem planned_total (total : Nat) {n : Nat} (h : 0 < n) :
    planned (total / n) (total % n) n = total := by
  have hmod := Nat.mod_lt total h
  rw [planned_eq, Nat.min_eq_right hmod.le]
  exact Nat.div_add_mod total n

/-- The bytes a packet gets that is not the first one. -/
theorem currentPacketBytes_next (limits : PayloadLimits) {k bytes : Nat} {remain : Int}
    (hbytes : (bytes : Int) < 2 ^ 31) :
    currentPacketBytes limits k bytes remain false
      = if k = 2 ∧ remain ≤ bytes then remain - 1 else min remain bytes := by
  unfold currentPacketBytes
  rw [toInt32_of_lt (by omega) hbytes]
  simp only [Bool.false_eq_true, if_false]
  split_ifs <;> omega

/-- The loop behind the first packet: it ends, the sizes are those of all the data, and
none is above the plan. -/
theorem splitLoop_spec (limits : PayloadLimits) {q r m : Nat} (hq : q ≤ m) (hr : 0 < r → q < m)
    (hpos : 0 < q + r) (hm : (m : Int) < 2 ^ 31) (k : Nat) :
    ∀ remain : Int, 0 ≤ remain → remain ≤ planned q r k →
      ∃ sizes, splitLoop limits r k (if k < r then q + 1 else q) remain false = some sizes ∧
        sizes.sum = remain ∧ (∀ s ∈ sizes, 0 ≤ s ∧ s ≤ m) ∧ (0 < remain → sizes ≠ []) := by
  induction k with
  | zero =>
      intro remain hlow hhigh
      have hzero : remain = 0 := by
        simp only [planned] at hhigh
        omega
      subst hzero
      exact ⟨[], by rw [splitLoop, if_neg (by omega)], rfl, fun s hs => (nomatch hs),
        fun h => absurd h (by omega)⟩
  | succ k ih =>
      intro remain hlow hhigh
      rw [splitLoop]
      by_cases hremain : 0 < remain
      · have hbytes : (if k + 1 = r then (if k + 1 < r then q + 1 else q) + 1
            else if k + 1 < r then q + 1 else q) = if k + 1 ≤ r then q + 1 else q := by
          split_ifs <;> omega
        have hnext : (if k < r then q + 1 else q) = if k + 1 ≤ r then q + 1 else q := rfl
        rw [if_pos hremain, hbytes]
        dsimp only
        -- the bytes planned for this packet
        generalize hsize : (if k + 1 ≤ r then q + 1 else q) = size
        have hsizem : size ≤ m := by
          rw [← hsize]
          split <;> omega
        have hplan : planned q r (k + 1) = planned q r k + size := by
          rw [planned, hsize]
        rw [currentPacketBytes_next limits (by omega)]
        generalize hcurrent : (if k + 1 = 2 ∧ remain ≤ size then remain - 1 else min remain size)
          = current
        have hone : k = 1 → 1 ≤ planned q r k := by
          rintro rfl
          rw [planned_eq]
          omega
        have hleft : 0 ≤ current ∧ current ≤ size ∧ current ≤ remain ∧
            remain - current ≤ planned q r k := by
          split_ifs at hcurrent <;> omega
        obtain ⟨sizes, hsizes, hsum, hbounds, -⟩ :=
          ih (remain - current) (by omega) hleft.2.2.2
        rw [hnext, hsize] at hsizes
        rw [hsizes]
        refine ⟨current :: sizes, rfl, ?_, ?_, fun _ => List.cons_ne_nil _ _⟩
        · rw [List.sum_cons, hsum]
          omega
        · intro s hs
          rcases List.mem_cons.mp hs with rfl | hs
          · omega
          · exact hbounds s hs
      · have hzero : remain = 0 := by omega
        subst hzero
        rw [if_neg (by omega)]
        exact ⟨[], rfl, rfl, fun s hs => (nomatch hs), fun h => absurd h (by omega)⟩

/-- Limits that leave room in the first and in the last packet. -/
structure Roomy (limits : PayloadLimits) : Prop where
  maxPos : 1 ≤ limits.maxPayloadLen
  maxLt : limits.maxPayloadLen < 2 ^ 31
  firstNonneg : 0 ≤ limits.firstPacketReductionLen
  firstLt : limits.firstPacketReductionLen < limits.maxPayloadLen
  lastNonneg : 0 ≤ limits.lastPacketReductionLen
  lastLt : limits.lastPacketReductionLen < limits.maxPayloadLen

/-- The first packet of data of `v` bytes, of a payload that may be larger: not all that is
planned is left behind it. -/
theorem firstPacket_spec {limits : PayloadLimits} (hlimits : Roomy limits) {total n q : Nat}
    {v : Int} (hpos : 0 < v) (hint : v < 2 ^ 31)
    (htotal : v + limits.firstPacketReductionLen + limits.lastPacketReductionLen ≤ total)
    (hq : (q : Int) ≤ limits.maxPayloadLen) (hn : 2 ≤ n)
    (hmany : 2 < n → 2 * limits.maxPayloadLen < total ∧ 3 * q ≤ total)
    (htwo : n = 2 → q < total) :
    let current := currentPacketBytes limits n q v true
    0 ≤ current ∧ current ≤ limits.maxPayloadLen ∧ current ≤ v ∧ v - current ≤ total - q := by
  obtain ⟨hmax, hmaxlt, hfirst, hfirstlt, hlast, hlastlt⟩ := hlimits
  unfold currentPacketBytes
  rw [toInt32_of_lt (by omega) (by omega)]
  simp only [if_true]
  by_cases h : n = 2
  · have hqt := htwo h
    split_ifs <;> omega
  · obtain ⟨hlarge, hthird⟩ := hmany (by omega)
    split_ifs <;> omega

/-- The number of packets: the total divided by the room of a packet, rounded up, but at
least two. -/
theorem packetCount_spec {total m n : Nat} (htotal : 0 < total) (hm : 0 < m)
    (hn : (if (total + m - 1) / m = 1 then 2 else (total + m - 1) / m) = n) :
    2 ≤ n ∧ total ≤ n * m ∧ (2 < n → (n - 1) * m < total) := by
  have hdiv := Nat.div_add_mod (total + m - 1) m
  have hmod := Nat.mod_lt (total + m - 1) hm
  generalize (total + m - 1) / m = c at hn hdiv
  have hpos : 0 < c := by
    rcases Nat.eq_zero_or_pos c with rfl | hc
    · omega
    · exact hc
  have hup : total ≤ c * m := by
    rw [Nat.mul_comm]
    omega
  by_cases hc : c = 1
  · rw [if_pos hc] at hn
    subst hn hc
    refine ⟨le_refl _, by omega, fun h => absurd h (by omega)⟩
  · rw [if_neg hc] at hn
    subst hn
    refine ⟨by omega, hup, fun _ => ?_⟩
    rw [Nat.sub_mul, Nat.one_mul, Nat.mul_comm]
    omega

/-- What `SplitAboutEqual` plans for a payload that does not fit one packet: the room of a
packet, the total and the number of packets, with which it runs the loop. -/
theorem splitAboutEqual_eq_splitLoop {limits : PayloadLimits} (hlimits : Roomy limits)
    {payload : Nat} (hpayload : 0 < payload) (hsize : payload < 2 ^ 63)
    (hsingle : 0 ≤ limits.singlePacketReductionLen)
    (hsingleLt : limits.singlePacketReductionLen < 2 ^ 31)
    (hfit : limits.maxPayloadLen < payload + limits.singlePacketReductionLen) :
    ∃ m total n : Nat,
      limits.maxPayloadLen = m ∧
      (payload : Int) + limits.firstPacketReductionLen + limits.lastPacketReductionLen = total ∧
      splitAboutEqual payload limits
        = splitLoop limits (total % n) n (total / n) (toInt32 payload) true ∧
      2 ≤ n ∧ total ≤ n * m ∧ (2 < n → (n - 1) * m < total) := by
  obtain ⟨hmax, hmaxlt, hfirst, hfirstlt, hlast, hlastlt⟩ := hlimits
  obtain ⟨m, hm⟩ := Int.eq_ofNat_of_zero_le (show 0 ≤ limits.maxPayloadLen by omega)
  obtain ⟨total, htotal⟩ := Int.eq_ofNat_of_zero_le
    (show 0 ≤ (payload : Int) + limits.firstPacketReductionLen + limits.lastPacketReductionLen by
      omega)
  have hmsize : toSizeT limits.maxPayloadLen = m := by
    rw [hm]
    exact toSizeT_natCast (by omega)
  -- the rounding up of the division, without a negative number in it
  have hceil : ((total : Int) + limits.maxPayloadLen - 1).toNat = total + m - 1 := by omega
  generalize hn : (if (total + m - 1) / m = 1 then 2 else (total + m - 1) / m) = n
  obtain ⟨htwo, hup, hmany⟩ := packetCount_spec (by omega) (by omega) hn
  refine ⟨m, total, n, hm, htotal, ?_, htwo, hup, hmany⟩
  -- none of the sums wraps around in this range
  unfold splitAboutEqual
  rw [toSizeT_of_nonneg (x := (payload : Int) + _) (by omega) (by omega), hmsize,
    if_neg (by omega), if_neg (by omega), htotal]
  dsimp only
  rw [toSizeT_natCast (by omega), if_neg (by omega),
    toSizeT_of_nonneg (x := (total : Int) + _ - 1) (by omega) (by omega), hceil, hn,
    if_neg (by omega)]

/-- The bytes of each packet: the room is not exceeded, not even by the larger ones. -/
theorem bytesPerPacket_spec {total m n : Nat} (hn : 2 ≤ n) (hup : total ≤ n * m) :
    total / n ≤ m ∧ (0 < total % n → total / n < m) ∧ total % n < n := by
  have hdivmod := Nat.div_add_mod total n
  refine ⟨Nat.div_le_of_le_mul hup, fun h => ?_, Nat.mod_lt total (by omega)⟩
  by_contra hge
  have hle := Nat.mul_le_mul_left n (not_lt.mp hge)
  omega

/-- A payload that does not fit one packet is split in parts that make up what an `int`
holds of its size, none larger than a packet. -/
theorem splitAboutEqual_spec {limits : PayloadLimits} (hlimits : Roomy limits) {payload : Nat}
    (hsize : payload < 2 ^ 63) (hpos : 0 < toInt32 payload)
    (hsingle : 0 ≤ limits.singlePacketReductionLen)
    (hsingleLt : limits.singlePacketReductionLen < 2 ^ 31)
    (hfit : limits.maxPayloadLen < payload + limits.singlePacketReductionLen) :
    ∃ sizes, splitAboutEqual payload limits = some sizes ∧ sizes ≠ [] ∧
      sizes.sum = toInt32 payload ∧ ∀ s ∈ sizes, 0 ≤ s ∧ s ≤ limits.maxPayloadLen := by
  have hpayload : 0 < payload := by
    rcases Nat.eq_zero_or_pos payload with rfl | h
    · exact absurd hpos (by decide)
    · exact h
  -- the call is a loop over `n` packets, for a total that includes the reductions
  obtain ⟨m, total, n, hm, htotal, hloop, htwo, hup, hmany⟩ :=
    splitAboutEqual_eq_splitLoop hlimits hpayload hsize hsingle hsingleLt hfit
  have hfirst := hlimits.firstNonneg
  have hlast := hlimits.lastNonneg
  have hmaxlt := hlimits.maxLt
  have hint := toInt32_lt payload
  have hle := toInt32_natCast_le payload
  obtain ⟨hq, hr, hmod⟩ := bytesPerPacket_spec htwo hup
  have hdivmod := Nat.div_add_mod total n
  have hplan := planned_total total (show 0 < n by omega)
  have hlarge : 2 < n → 2 * m < total ∧ 3 * (total / n) ≤ total := by
    intro h
    have hroom := Nat.mul_le_mul_right m (show 2 ≤ n - 1 by omega)
    have hle := Nat.mul_le_mul_right (total / n) (show 3 ≤ n by omega)
    have hcount := hmany h
    omega
  have hhalf : n = 2 → total / n < total := fun h => Nat.div_lt_self (by omega) (by omega)
  -- from here on only the bounds of quotient and remainder matter
  generalize total / n = q at *
  generalize total % n = r at *
  generalize toInt32 payload = v at *
  -- the first packet is different, and the others are those of `splitLoop_spec`
  obtain ⟨hlow, hhigh, hless, hleft⟩ := firstPacket_spec hlimits hpos hint
    (show _ ≤ (total : Int) by omega) (by omega) htwo
    (fun h => ⟨by have := hlarge h; omega, (hlarge h).2⟩) hhalf
  obtain ⟨k, rfl⟩ : ∃ k, n = k + 1 := ⟨n - 1, by omega⟩
  have hrest : planned q r k + q = total := by
    rwa [planned, if_neg (by omega)] at hplan
  have hqr : 0 < q + r := by
    rcases Nat.eq_zero_or_pos q with rfl | hq
    · rw [Nat.mul_zero] at hdivmod
      omega
    · omega
  obtain ⟨sizes, hsizes, hsum, hbounds, -⟩ := splitLoop_spec limits hq hr hqr (by omega) k
    (v - currentPacketBytes limits (k + 1) q v true) (by omega) (by omega)
  rw [if_neg (by omega)] at hsizes
  rw [hloop, splitLoop, if_pos hpos, if_neg (by omega)]
  dsimp only
  rw [hsizes]
  refine ⟨_, rfl, List.cons_ne_nil _ _, ?_, ?_⟩
  · rw [List.sum_cons, hsum]
    omega
  · intro s hs
    rcases List.mem_cons.mp hs with rfl | hs
    · exact ⟨hlow, hhigh⟩
    · rw [hm]
      exact hbounds s hs

/-- A payload whose size is not positive for the loop has no packets. -/
theorem splitAboutEqual_of_nonpos {limits : PayloadLimits} (hlimits : Roomy limits)
    {payload : Nat} (hpayload : 0 < payload) (hsize : payload < 2 ^ 63)
    (hnonpos : toInt32 payload ≤ 0) (hsingle : 0 ≤ limits.singlePacketReductionLen)
    (hsingleLt : limits.singlePacketReductionLen < 2 ^ 31)
    (hfit : limits.maxPayloadLen < payload + limits.singlePacketReductionLen) :
    splitAboutEqual payload limits = some [] := by
  obtain ⟨m, total, n, -, -, hloop, -⟩ :=
    splitAboutEqual_eq_splitLoop hlimits hpayload hsize hsingle hsingleLt hfit
  rw [hloop]
  cases n <;> rw [splitLoop, if_neg (by omega)]

end Xrtc.Proofs.Rtp
