import Xrtc.Proofs.Ice.SelectedConnection

/-!
# `Xrtc.Proofs.Ice.ConnectionSort`: the order of the connections

`sort_and_switch_connection` hands its comparison to `std::stable_sort`, which expects a
strict weak order. The comparison is that of a rank (`isRank_rank`), so it is one, and the
lemmas of `Xrtc.Lib.StableSort` say what the sort does.
-/

set_option autoImplicit false

namespace Xrtc.Proofs.Ice

open Xrtc.Lib
open Xrtc.Ice
open Xrtc.Ice.IceController

/-- A list holds the connections of a controller in the order of their ranks: by write state,
receiving ones first, then by higher priority, then by lower rtt. Connections between which
the comparison does not decide are in their old order. -/
structure WellSorted (w : Core) (sorted : List Ptr) : Prop where
  perm : sorted.Perm w.controller.connections
  ordered : sorted.Pairwise fun a b => rank w a ≤ rank w b
  stable : ∀ a, sorted.filter (tied (sortsBefore w) a)
    = w.controller.connections.filter (tied (sortsBefore w) a)

/-- The first of the connections can be sent on exactly if any can. -/
theorem readyToSend_head_iff (w : Core) :
    readyToSend w (sortConnections w).head? = true ↔
      ∃ p ∈ w.controller.connections, readyToSend w (some p) = true := by
  constructor
  · intro hready
    cases hhead : (sortConnections w).head? with
    | none =>
        rw [hhead] at hready
        cases hready
    | some top => exact ⟨top, (best_head hhead).1, hhead ▸ hready⟩
  · rintro ⟨p, hp, hready⟩
    obtain ⟨top, htop⟩ := head_isSome hp
    rw [htop]
    exact readyToSend_of_best (best_head htop) hp hready

/-- For every list of connections in every state: the comparison is a strict weak order, the
list is sorted by it and stably, and the first connection can be sent on if and only if some
connection can. -/
theorem sort_wellDefined (w : Core) :
    IsStrictWeakOrder Ptr (fun a b => sortsBefore w a b = true) ∧
      WellSorted w (sortAndSwitchConnection w).2.connections ∧
      (readyToSend w (sortAndSwitchConnection w).2.connections.head? = true ↔
        ∃ p ∈ w.controller.connections, readyToSend w (some p) = true) := by
  have hrank := isRank_rank w
  have hsorted : (sortAndSwitchConnection w).2.connections
      = stableSort (sortsBefore w) w.controller.connections := rfl
  refine ⟨hrank.isStrictWeakOrder, ?_, readyToSend_head_iff w⟩
  rw [hsorted]
  exact ⟨perm_stableSort _ _, hrank.pairwise_stableSort _, fun a => hrank.filter_stableSort a _⟩

end Xrtc.Proofs.Ice
