import Mathlib.Data.List.Sort
import Mathlib.Order.Defs.Unbundled

/-!
# `Xrtc.Lib.StableSort`: sorting by a strict comparison

A sort function takes a strict comparison `lt` and moves an element in front of another one
only if it is less. The comparisons here are those of a rank in a linear order
(`IsRank`). Such a comparison is a strict weak order, and the sort by it is a permutation
in the order of the ranks, where the elements of one rank keep their order.

Nothing here names a program.
-/

set_option autoImplicit false

namespace Xrtc.Lib

variable {α β : Type} [LinearOrder β] {rank : α → β} {lt : α → α → Bool}

/-- A comparison is that of the ranks. -/
def IsRank (rank : α → β) (lt : α → α → Bool) : Prop := ∀ a b, lt a b = true ↔ rank a < rank b

/-- The stable sort by a strict comparison. An element stays in front of another one unless
the other one is less. -/
def stableSort (lt : α → α → Bool) (l : List α) : List α :=
  l.insertionSort fun a b => lt b a = false

/-- Neither of two elements is less. -/
def tied (lt : α → α → Bool) (a b : α) : Bool := !lt a b && !lt b a

/-- An element does not come first exactly when its rank is not smaller. -/
theorem IsRank.eq_false_iff (h : IsRank rank lt) (a b : α) : lt b a = false ↔ rank a ≤ rank b := by
  rw [← Bool.not_eq_true, h, not_lt]

/-- Two elements are tied exactly when their ranks are equal. -/
theorem IsRank.tied_iff (h : IsRank rank lt) (a b : α) : tied lt a b = true ↔ rank a = rank b := by
  rw [tied, Bool.and_eq_true, Bool.not_eq_true', Bool.not_eq_true', h.eq_false_iff,
    h.eq_false_iff, le_antisymm_iff, and_comm]

/-- The comparison of ranks is what a sort function expects. -/
theorem IsRank.isStrictWeakOrder (h : IsRank rank lt) :
    IsStrictWeakOrder α fun a b => lt a b = true where
  irrefl a hlt := lt_irrefl _ ((h a a).mp hlt)
  trans a b c hab hbc := (h a c).mpr (((h a b).mp hab).trans ((h b c).mp hbc))
  incomp_trans a b c hab hbc := by
    rw [h, h, not_lt, not_lt] at *
    exact ⟨hbc.1.trans hab.1, hab.2.trans hbc.2⟩

/-- Sorting loses nothing and adds nothing. -/
theorem perm_stableSort (lt : α → α → Bool) (l : List α) : (stableSort lt l).Perm l :=
  List.perm_insertionSort _ l

/-- The sorted list is in the order of the ranks. -/
theorem IsRank.pairwise_stableSort (h : IsRank rank lt) (l : List α) :
    (stableSort lt l).Pairwise fun a b => rank a ≤ rank b := by
  have : Std.Total fun a b => lt b a = false :=
    ⟨fun a b => by
      rw [h.eq_false_iff, h.eq_false_iff]
      exact le_total _ _⟩
  have : IsTrans α fun a b => lt b a = false :=
    ⟨fun a b c hab hbc => by
      rw [h.eq_false_iff] at *
      exact hab.trans hbc⟩
  exact (List.pairwise_insertionSort _ l).imp fun hab => (h.eq_false_iff _ _).mp hab

/-- The elements that are tied with a given one keep their order. -/
theorem IsRank.filter_stableSort (h : IsRank rank lt) (a : α) (l : List α) :
    (stableSort lt l).filter (tied lt a) = l.filter (tied lt a) := by
  -- what is tied with `a` is in order already, so the sort keeps it as a sublist
  have hordered : (l.filter (tied lt a)).Pairwise fun b c => lt c b = false := by
    refine List.pairwise_of_forall_mem_list fun b hb c hc => ?_
    have hrank := ((h.tied_iff a b).mp (List.mem_filter.mp hb).2).symm.trans
      ((h.tied_iff a c).mp (List.mem_filter.mp hc).2)
    exact (h.eq_false_iff b c).mpr hrank.le
  have hsub := (List.sublist_insertionSort hordered List.filter_sublist).filter (tied lt a)
  simp only [List.filter_filter, Bool.and_self] at hsub
  exact (hsub.eq_of_length ((perm_stableSort lt l).filter _).length_eq.symm).symm

end Xrtc.Lib
