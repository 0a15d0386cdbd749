import Mathlib.Data.Finset.Basic
import Mathlib.Data.List.Count

/-!
# `Xrtc.Lib.Lifetime`: the life times of objects in a trace

A program creates objects, uses them and deletes them. A trace lists these operations in
the order they happen, over any type of object names. `Safe` says that no object is used or
deleted when it is not there, and `liveAfter` which objects are there at the end.

The ledger of a safe trace is `count_delete_add_present`: what was created has been deleted,
or is still there. So an object that is created once and is gone at the end was deleted
exactly once (`count_delete_eq_one`).

Nothing here names a program.
-/

set_option autoImplicit false

namespace Xrtc.Lib.Lifetime

universe u

/-- An operation on an object. -/
inductive Op (α : Type u) where
  | create (o : α)
  | use (o : α)
  | delete (o : α)
  deriving DecidableEq

variable {α : Type u} [DecidableEq α]

/-- The objects that are there after an operation. -/
def Op.after (live : Finset α) : Op α → Finset α
  | .create o => insert o live
  | .use _ => live
  | .delete o => live.erase o

/-- The operation does not touch an object that is not there. -/
def Op.Allowed (live : Finset α) : Op α → Prop
  | .create o => o ∉ live
  | .use o => o ∈ live
  | .delete o => o ∈ live

instance decidableAllowed (live : Finset α) : (op : Op α) → Decidable (op.Allowed live)
  | .create o => inferInstanceAs (Decidable (o ∉ live))
  | .use o => inferInstanceAs (Decidable (o ∈ live))
  | .delete o => inferInstanceAs (Decidable (o ∈ live))

/-- The objects that are there after a trace. -/
def liveAfter (live : Finset α) (ops : List (Op α)) : Finset α := ops.foldl Op.after live

/-- No operation of the trace touches an object that is not there. -/
def Safe : Finset α → List (Op α) → Prop
  | _, [] => True
  | live, op :: ops => op.Allowed live ∧ Safe (op.after live) ops

instance decidableSafe : (live : Finset α) → (ops : List (Op α)) → Decidable (Safe live ops)
  | _, [] => isTrue trivial
  | live, op :: ops =>
      have := decidableSafe (op.after live) ops
      inferInstanceAs (Decidable (op.Allowed live ∧ Safe (op.after live) ops))

variable {live : Finset α}

/-- Without operations everything stays alive. -/
@[simp] theorem liveAfter_nil : liveAfter live [] = live := rfl

/-- The first operation has its effect before the others. -/
@[simp] theorem liveAfter_cons (op : Op α) (ops : List (Op α)) :
    liveAfter live (op :: ops) = liveAfter (op.after live) ops := rfl

/-- Two traces, one behind the other. -/
theorem liveAfter_append (ops ops' : List (Op α)) :
    liveAfter live (ops ++ ops') = liveAfter (liveAfter live ops) ops' :=
  List.foldl_append

/-- A trace is safe if its parts are, one from where the other ends. -/
theorem safe_append_iff (ops ops' : List (Op α)) :
    Safe live (ops ++ ops') ↔ Safe live ops ∧ Safe (liveAfter live ops) ops' := by
  induction ops generalizing live with
  | nil => simp [Safe]
  | cons op ops ih =>
      rw [List.cons_append, Safe, Safe, ih, liveAfter_cons, and_assoc]

/-- One for an object that is there. -/
def present (live : Finset α) (o : α) : Nat := if o ∈ live then 1 else 0

/-- A live object counts one. -/
theorem present_of_mem {o : α} (h : o ∈ live) : present live o = 1 := if_pos h

/-- Any other counts none. -/
theorem present_of_notMem {o : α} (h : o ∉ live) : present live o = 0 := if_neg h

/-- The ledger of one operation: what was created or there before is deleted or there afterwards.
Only a creation of something dead and a deletion of something alive are allowed. -/
theorem count_delete_add_present_after (o : α) {op : Op α} (h : op.Allowed live) :
    [op].count (.delete o) + present (op.after live) o
      = [op].count (.create o) + present live o := by
  cases op with
  | create o' =>
      by_cases ho : o' = o
      · subst ho
        have hafter : present (Op.after live (.create o')) o' = 1 :=
          present_of_mem (Finset.mem_insert_self o' live)
        have hbefore : present live o' = 0 := present_of_notMem h
        simp [hafter, hbefore]
      · have hafter : present (Op.after live (.create o')) o = present live o := by
          simp only [present, Op.after, Finset.mem_insert, Ne.symm ho, false_or]
        simp [hafter, ho]
  | use o' => simp [Op.after]
  | delete o' =>
      by_cases ho : o' = o
      · subst ho
        have hafter : present (Op.after live (.delete o')) o' = 0 :=
          present_of_notMem (Finset.notMem_erase o' live)
        have hbefore : present live o' = 1 := present_of_mem h
        simp [hafter, hbefore]
      · have hafter : present (Op.after live (.delete o')) o = present live o := by
          simp only [present, Op.after, Finset.mem_erase, ne_eq, Ne.symm ho, not_false_eq_true,
            true_and]
        simp [hafter, ho]

/-- The ledger of a safe trace. -/
theorem count_delete_add_present (o : α) {ops : List (Op α)} (h : Safe live ops) :
    ops.count (.delete o) + present (liveAfter live ops) o
      = ops.count (.create o) + present live o := by
  induction ops generalizing live with
  | nil => rfl
  | cons op ops ih =>
      obtain ⟨hop, hrest⟩ := h
      have hone := count_delete_add_present_after o hop
      have hledger := ih hrest
      have hsplit : ∀ e : Op α, ([op] ++ ops).count e = [op].count e + ops.count e :=
        fun _ => List.count_append
      rw [← List.singleton_append]
      rw [hsplit, hsplit, List.singleton_append, liveAfter_cons]
      omega

/-- What a safe trace creates once, from nothing, and does not leave behind, it deletes
exactly once. -/
theorem count_delete_eq_one {o : α} {ops : List (Op α)} (h : Safe live ops) (hlive : o ∉ live)
    (hcreate : ops.count (.create o) = 1) (hgone : o ∉ liveAfter live ops) :
    ops.count (.delete o) = 1 := by
  have hledger := count_delete_add_present o h
  rw [present_of_notMem hgone, present_of_notMem hlive, hcreate] at hledger
  exact hledger

/-- The objects that are there are among those from the start and those created. -/
theorem mem_liveAfter {o : α} {ops : List (Op α)} (h : o ∈ liveAfter live ops) :
    o ∈ live ∨ .create o ∈ ops := by
  induction ops generalizing live with
  | nil => exact Or.inl h
  | cons op ops ih =>
      rcases ih h with hmem | hmem
      · cases op with
        | create o' =>
            rcases Finset.mem_insert.mp hmem with rfl | hmem
            · exact Or.inr List.mem_cons_self
            · exact Or.inl hmem
        | use o' => exact Or.inl hmem
        | delete o' => exact Or.inl (Finset.mem_of_mem_erase hmem)
      · exact Or.inr (List.mem_cons_of_mem _ hmem)

end Xrtc.Lib.Lifetime
