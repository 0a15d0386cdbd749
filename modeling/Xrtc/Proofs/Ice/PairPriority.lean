import Xrtc.Ice.IceController

/-!
# `Xrtc.Proofs.Ice.PairPriority`: the priority of a candidate pair

The comment on `IceConnection::priority` gives the formula of RFC 5245,
`2^32 * min(g, d) + 2 * max(g, d) + (g > d ? 1 : 0)`. In the code `2 * std::max(g, d)` is a
product of 32 bits, so the formula holds exactly while both priorities are below `2 ^ 31`
(`followsFormula_iff`). The priority of the peer comes from its PRIORITY attribute, and
nothing bounds it.

With the same local priority, two pairs are still in the order of the remote priorities,
unless the lost bit turns them round: the smaller one is at least the local priority and
below `2 ^ 31`, and the larger one is at least `2 ^ 31`, but by no more than the smaller one.
-/

set_option autoImplicit false

namespace Xrtc.Proofs.Ice

open Xrtc.Lib
open Xrtc.Ice
open Xrtc.Ice.IceController

/-- The priority of the local candidate of a connection. -/
def localPriority (w : Core) (p : Ptr) : UInt32 := (w.ports (w.heap p).port).localCandidate.priority

/-- The priority of its remote candidate. -/
def remotePriority (w : Core) (p : Ptr) : UInt32 := (w.heap p).remoteCandidate.priority

/-- The formula of RFC 5245, for the priority `g` of the controlling agent's candidate and
`d` of the controlled agent's. -/
def pairPriority (g d : Nat) : Nat := 2 ^ 32 * min g d + 2 * max g d + if d < g then 1 else 0

/-- Two connections are ordered by their remote priorities: a larger one gives a larger
priority, and decides between connections in the same state. -/
structure OrderedByRemote (w : Core) (a b : Ptr) : Prop where
  lower : priority w a < priority w b ↔ remotePriority w a < remotePriority w b
  higher : priority w b < priority w a ↔ remotePriority w b < remotePriority w a
  compares : (w.heap a).writeState = (w.heap b).writeState →
    (w.heap a).receiving = (w.heap b).receiving →
    (compareConnections w a b = -1 ↔ remotePriority w a < remotePriority w b) ∧
      (compareConnections w a b = 1 ↔ remotePriority w b < remotePriority w a)

/-- The priorities of two connections are those of the formula, and their order is that of
the remote priorities. -/
structure FollowsFormula (w : Core) (a b : Ptr) : Prop where
  formula : ∀ p, p = a ∨ p = b → (priority w p).toNat
    = pairPriority (localPriority w p).toNat (remotePriority w p).toNat % 2 ^ 64
  ordered : OrderedByRemote w a b

/-- The lower remote priority is at least `g` and keeps its highest bit when it is doubled,
the higher one loses it, and does not make up for it. -/
def TurnedRound (g d d' : Nat) : Prop :=
  g ≤ min d d' ∧ min d d' < 2 ^ 31 ∧ 2 ^ 31 ≤ max d d' ∧ max d d' ≤ min d d' + 2 ^ 31

/-! ### What the code computes -/

/-- The smaller of two words, as a number. -/
theorem toNat_min (g d : UInt32) : (min g d).toNat = min g.toNat d.toNat := by
  show (if g ≤ d then g else d).toNat = _
  split <;> rename_i hle <;> rw [UInt32.le_iff_toNat_le] at hle <;> omega

/-- The larger of them. -/
theorem toNat_max (g d : UInt32) : (max g d).toNat = max g.toNat d.toNat := by
  show (if g ≤ d then d else g).toNat = _
  split <;> rename_i hle <;> rw [UInt32.le_iff_toNat_le] at hle <;> omega

/-- What the code adds up. The larger priority has lost its highest bit when it is doubled. -/
theorem priority_toNat (w : Core) (p : Ptr) :
    (priority w p).toNat =
      2 ^ 32 * min (localPriority w p).toNat (remotePriority w p).toNat +
        2 * max (localPriority w p).toNat (remotePriority w p).toNat % 2 ^ 32 +
        if (remotePriority w p).toNat < (localPriority w p).toNat then 1 else 0 := by
  change (((min (localPriority w p) (remotePriority w p)).toUInt64 <<< 32) +
    (2 * max (localPriority w p) (remotePriority w p)).toUInt64 +
      (if remotePriority w p < localPriority w p then 1 else 0)).toNat = _
  generalize localPriority w p = g
  generalize remotePriority w p = d
  have hg := g.toNat_lt
  have hd := d.toNat_lt
  have htwo : (2 : UInt32).toNat = 2 := rfl
  have hshift : (32 : UInt64).toNat % 64 = 32 := rfl
  have hlast : (if d < g then (1 : UInt64) else 0).toNat = if d.toNat < g.toNat then 1 else 0 := by
    simp only [UInt32.lt_iff_toNat_lt]
    split <;> rfl
  rw [UInt64.toNat_add, UInt64.toNat_add, UInt64.toNat_shiftLeft, UInt32.toNat_toUInt64,
    UInt32.toNat_toUInt64, UInt32.toNat_mul, toNat_min, toNat_max, htwo, hshift, hlast,
    Nat.shiftLeft_eq]
  -- the smaller priority leaves room for the other two summands
  split <;> omega

/-- The formula holds for a pair exactly while the doubled priority fits into 32 bits. -/
theorem formula_iff (w : Core) (p : Ptr) :
    (priority w p).toNat
        = pairPriority (localPriority w p).toNat (remotePriority w p).toNat % 2 ^ 64 ↔
      (localPriority w p).toNat < 2 ^ 31 ∧ (remotePriority w p).toNat < 2 ^ 31 := by
  have hg := (localPriority w p).toNat_lt
  have hd := (remotePriority w p).toNat_lt
  rw [priority_toNat, pairPriority]
  generalize (localPriority w p).toNat = g at *
  generalize (remotePriority w p).toNat = d at *
  split <;> omega

/-- Between connections in the same state the priority decides. -/
theorem compareConnections_of_sameState {w : Core} {a b : Ptr}
    (hwrite : (w.heap a).writeState = (w.heap b).writeState)
    (hreceiving : (w.heap a).receiving = (w.heap b).receiving) :
    (compareConnections w a b = -1 ↔ priority w a < priority w b) ∧
      (compareConnections w a b = 1 ↔ priority w b < priority w a) := by
  have hcompare : compareConnections w a b
      = if priority w b < priority w a then 1 else if priority w a < priority w b then -1 else 0 := by
    unfold compareConnections IceConnection.writable
    simp [hwrite, hreceiving]
  rw [hcompare]
  simp only [UInt64.lt_iff_toNat_lt]
  split_ifs <;> simp <;> omega

section

variable {w : Core} {a b : Ptr} (hlocal : localPriority w a = localPriority w b)
include hlocal

/-- With the same local priority, the priorities are in the order of the remote ones, unless
the lost bit turns them round. -/
theorem priority_order_iff :
    ((priority w a < priority w b ↔ remotePriority w a < remotePriority w b) ∧
        (priority w b < priority w a ↔ remotePriority w b < remotePriority w a)) ↔
      ¬ TurnedRound (localPriority w a).toNat (remotePriority w a).toNat
        (remotePriority w b).toNat := by
  have hg := (localPriority w a).toNat_lt
  have hd := (remotePriority w a).toNat_lt
  have hd' := (remotePriority w b).toNat_lt
  simp only [UInt32.lt_iff_toNat_lt, UInt64.lt_iff_toNat_lt, priority_toNat, ← hlocal]
  generalize (localPriority w a).toNat = g at *
  generalize (remotePriority w a).toNat = d at *
  generalize (remotePriority w b).toNat = d' at *
  rw [TurnedRound]
  split <;> split <;> omega

/-- The order of two pairs is that of their remote priorities, unless the product wraps around
between them. -/
theorem orderedByRemote_iff :
    OrderedByRemote w a b ↔
      ¬ TurnedRound (localPriority w a).toNat (remotePriority w a).toNat
        (remotePriority w b).toNat := by
  rw [← priority_order_iff hlocal]
  constructor
  · intro h
    exact ⟨h.lower, h.higher⟩
  · rintro ⟨hlower, hhigher⟩
    refine ⟨hlower, hhigher, fun hwrite hreceiving => ?_⟩
    rw [← hlower, ← hhigher]
    exact compareConnections_of_sameState hwrite hreceiving

/-- For two connections with the same local priority, of any priorities: the formula and the
order it gives hold if and only if all three priorities are below `2 ^ 31`. The order alone
holds if and only if the lost bit does not turn the two round. -/
theorem followsFormula_iff :
    (FollowsFormula w a b ↔
        (localPriority w a).toNat < 2 ^ 31 ∧ (remotePriority w a).toNat < 2 ^ 31 ∧
          (remotePriority w b).toNat < 2 ^ 31) ∧
      (OrderedByRemote w a b ↔
        ¬ TurnedRound (localPriority w a).toNat (remotePriority w a).toNat
          (remotePriority w b).toNat) := by
  refine ⟨⟨fun h => ?_, fun h => ⟨?_, ?_⟩⟩, orderedByRemote_iff hlocal⟩
  · obtain ⟨hg, hd⟩ := (formula_iff w a).mp (h.formula a (Or.inl rfl))
    exact ⟨hg, hd, ((formula_iff w b).mp (h.formula b (Or.inr rfl))).2⟩
  · rintro p (rfl | rfl)
    · exact (formula_iff w p).mpr ⟨h.1, h.2.1⟩
    · exact (formula_iff w p).mpr ⟨hlocal ▸ h.1, h.2.2⟩
  · refine (orderedByRemote_iff hlocal).mpr fun hturned => ?_
    have hhigh := hturned.2.2.1
    omega

end

/-! ### Two peers -/

/-- A candidate with a priority. -/
def candidateOf (priority : UInt32) : Candidate :=
  { address := ⟨.v4 0, 0⟩, priority, username := [], password := [] }

/-- Two connections of one port, with the priority of a host candidate, to peers with given
priorities. -/
def pairsOf (d d' : UInt32) : Core where
  heap p := { port := 0, remoteCandidate := candidateOf (if p = 0 then d else d') }
  ports _ := { iceParams := {}, localCandidate := candidateOf 0x7effffff }

/-- Two peer-reflexive candidates, by the formula. -/
theorem peerReflexive_followsFormula :
    FollowsFormula (pairsOf 0x6e7f1eff 0x6e7f1e00) 0 1 :=
  (followsFormula_iff (w := pairsOf 0x6e7f1eff 0x6e7f1e00) (a := 0) (b := 1) rfl).1.mpr (by decide)

/-- The peer that sends `2 ^ 31` as its priority comes behind the one that sends one less. -/
theorem highPriority_not_followsFormula :
    ¬ FollowsFormula (pairsOf 0x7fffffff 0x80000000) 0 1 ∧
      priority (pairsOf 0x7fffffff 0x80000000) 1 < priority (pairsOf 0x7fffffff 0x80000000) 0 := by
  constructor
  · intro h
    have hsmall := (formula_iff (pairsOf 0x7fffffff 0x80000000) 1).mp (h.formula 1 (Or.inr rfl))
    revert hsmall
    decide
  · decide

end Xrtc.Proofs.Ice
