import Mathlib.Data.List.Basic

/-!
# `Xrtc.Lib.SortedMap`: a map as the list of its entries in the order of the keys

`insert` puts an entry at its place, or replaces the one with the same key. Entries that come in
the order of their keys go to the end one after the other, so that a sorted list of entries is
the map built from it (`ofList_eq`). Nothing here names a program.
-/

set_option autoImplicit false

namespace Xrtc.Lib.SortedMap

variable {κ α β : Type} [LT κ] [DecidableRel (α := κ) (· < ·)]

/-- The map with an entry. -/
def insert (key : κ) (value : α) : List (κ × α) → List (κ × α)
  | [] => [(key, value)]
  | (key', value') :: entries =>
      if key < key' then (key, value) :: (key', value') :: entries
      else if key' < key then (key', value') :: insert key value entries
      else (key, value) :: entries

/-- The map with some entries, put in one after the other. -/
def ofList (entries : List (κ × α)) : List (κ × α) :=
  entries.foldl (fun map entry => insert entry.1 entry.2 map) []

omit [DecidableRel (α := κ) (· < ·)] in
/-- The keys are in order, and no two are the same. -/
def Sorted (entries : List (κ × α)) : Prop := entries.Pairwise fun e e' => e.1 < e'.1

instance Sorted.decidable (entries : List (κ × α)) : Decidable (Sorted entries) :=
  inferInstanceAs (Decidable (entries.Pairwise _))

variable [Std.Asymm (α := κ) (· < ·)]

/-- A key behind all others goes to the end. -/
theorem insert_of_lt {key : κ} {value : α} {entries : List (κ × α)}
    (h : ∀ entry ∈ entries, entry.1 < key) :
    insert key value entries = entries ++ [(key, value)] := by
  induction entries with
  | nil => rfl
  | cons entry entries ih =>
      have hlt := h entry List.mem_cons_self
      rw [insert, if_neg (Std.Asymm.asymm _ _ hlt), if_pos hlt,
        ih fun e he => h e (List.mem_cons_of_mem _ he)]
      rfl

/-- Entries in the order of their keys are put in behind one another. -/
theorem foldl_insert_eq {map entries : List (κ × α)} (h : Sorted (map ++ entries)) :
    entries.foldl (fun map entry => insert entry.1 entry.2 map) map = map ++ entries := by
  induction entries generalizing map with
  | nil => exact (List.append_nil map).symm
  | cons entry entries ih =>
      have hbefore : ∀ e ∈ map, e.1 < entry.1 := fun e he =>
        (List.pairwise_append.mp h).2.2 e he entry List.mem_cons_self
      have hsorted : Sorted (map ++ [entry] ++ entries) := by
        rw [← List.append_cons]
        exact h
      rw [List.foldl_cons, insert_of_lt hbefore, ih hsorted, ← List.append_cons]

/-- Entries in order are the map built from them. -/
theorem ofList_eq {entries : List (κ × α)} (h : Sorted entries) : ofList entries = entries := by
  have hnil : Sorted ([] ++ entries) := h
  exact foldl_insert_eq hnil

omit [DecidableRel (α := κ) (· < ·)] [Std.Asymm (α := κ) (· < ·)] in
/-- The order is one of the keys, whatever the values are. -/
theorem Sorted.map {entries : List (κ × α)} (h : Sorted entries) (f : α → β) :
    Sorted (entries.map fun entry => (entry.1, f entry.2)) :=
  List.pairwise_map.mpr h

end Xrtc.Lib.SortedMap
