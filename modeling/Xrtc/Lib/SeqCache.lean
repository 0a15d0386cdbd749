import Mathlib.Data.Nat.ModEq
import Mathlib.Logic.Function.Basic
import Mathlib.Tactic.Common

/-!
# `Xrtc.Lib.SeqCache`: a ring of the last numbered things

A ring of `C` slots keeps things that carry a number modulo `M`. Number `n` belongs to
slot `n % C`. A thing whose number is already in its slot is not stored again (`add`), and
a number is looked up in its slot only (`find`).

`find_addAll` says what a ring is good for: when consecutive numbers are stored, `C`
divides `M` and is smaller, a look-up finds the thing with that number among the last `C`,
and nothing else.

Nothing here names a program.
-/

set_option autoImplicit false

namespace Xrtc.Lib.SeqCache

universe u

variable {α : Type u} (num : α → Nat) (C : Nat)

/-- The slots of a ring. -/
abbrev Slots (α : Type u) := Nat → Option α

/-- Stores a thing, unless its slot has one with its number. -/
def add (slots : Slots α) (x : α) : Slots α :=
  if ∃ y ∈ slots (num x % C), num y = num x then slots
  else Function.update slots (num x % C) (some x)

/-- The thing with a number. -/
def find (slots : Slots α) (n : Nat) : Option α := (slots (n % C)).filter fun x => num x = n

/-- The ring after things are stored, the last one first. -/
def addAll : List α → Slots α
  | [] => fun _ => none
  | x :: xs => add num C (addAll xs) x

/-- Things with consecutive numbers modulo `M` from `start` on, the last one first. -/
def Numbered (M start : Nat) : List α → Prop
  | [] => True
  | x :: xs => num x = (start + xs.length) % M ∧ Numbered M start xs

variable {num C}

/-- The number of an element, by how many come before it. -/
theorem Numbered.getElem? {M start : Nat} {xs : List α} (h : Numbered num M start xs) {i : Nat}
    {x : α} (hx : xs[i]? = some x) : num x = (start + (xs.length - 1 - i)) % M := by
  induction xs generalizing i with
  | nil => simp at hx
  | cons y ys ih =>
      cases i with
      | zero =>
          rw [List.getElem?_cons_zero, Option.some.injEq] at hx
          subst hx
          simpa using h.1
      | succ i =>
          rw [List.getElem?_cons_succ] at hx
          rw [ih h.2 hx, List.length_cons,
            show ys.length + 1 - 1 - (i + 1) = ys.length - 1 - i by omega]

/-- Two things share a slot exactly if a multiple of `C` is between their positions. -/
theorem mod_eq_iff {M start : Nat} (hdvd : C ∣ M) {xs : List α} (h : Numbered num M start xs)
    {i j : Nat} (hij : i ≤ j) {x y : α} (hx : xs[i]? = some x) (hy : xs[j]? = some y) :
    num x % C = num y % C ↔ C ∣ j - i := by
  obtain ⟨hj, -⟩ := List.getElem?_eq_some_iff.mp hy
  have hsplit : start + (xs.length - 1 - i) = start + (xs.length - 1 - j) + (j - i) := by omega
  rw [h.getElem? hx, h.getElem? hy, Nat.mod_mod_of_dvd _ hdvd, Nat.mod_mod_of_dvd _ hdvd, hsplit,
    eq_comm]
  change _ ≡ _ [MOD C] ↔ _
  rw [Nat.modEq_iff_dvd' (Nat.le_add_right _ _), Nat.add_sub_cancel_left]

/-- The slots of the last `C` things are different. -/
theorem pairwise_take {M start : Nat} (hdvd : C ∣ M) {xs : List α} (h : Numbered num M start xs) :
    (xs.take C).Pairwise fun x y => num x % C ≠ num y % C := by
  rw [List.pairwise_iff_getElem]
  intro i j hi hj hij heq
  rw [List.getElem_take, List.getElem_take] at heq
  rw [List.length_take] at hi hj
  have hd := (mod_eq_iff hdvd h hij.le (List.getElem?_eq_getElem (by omega))
    (List.getElem?_eq_getElem (by omega))).mp heq
  have := Nat.le_of_dvd (by omega) hd
  omega

/-- In a list whose keys are all different, the first thing with a key is the only one. -/
theorem find?_filter {β : Type*} [DecidableEq β] (key : α → β) {xs : List α}
    (h : xs.Pairwise fun x y => key x ≠ key y) (b : β) {q : α → Bool}
    (hq : ∀ x, q x = true → key x = b) :
    (xs.find? fun x => key x = b).filter q = xs.find? q := by
  induction xs with
  | nil => rfl
  | cons x xs ih =>
      obtain ⟨hx, hxs⟩ := List.pairwise_cons.mp h
      by_cases hkey : key x = b
      · rw [List.find?_cons_of_pos (by simpa using hkey), Option.filter_some]
        by_cases hqx : q x = true
        · rw [List.find?_cons_of_pos hqx, if_pos hqx]
        · have hnone : xs.find? q = none := by
            rw [List.find?_eq_none]
            exact fun y hy hqy => hx y hy (hkey.trans (hq y hqy).symm)
          rw [List.find?_cons_of_neg hqx, hnone, if_neg hqx]
      · have hqx : ¬ q x = true := fun hqx => hkey (hq x hqx)
        rw [List.find?_cons_of_neg (by simpa using hkey), List.find?_cons_of_neg hqx, ih hxs]

/-- A slot holds the one of the last `C` things that belongs to it. -/
theorem addAll_apply {M start : Nat} (hpos : 0 < C) (hdvd : C ∣ M) (hlt : C < M) {xs : List α}
    (h : Numbered num M start xs) (i : Nat) :
    addAll num C xs i = (xs.take C).find? fun x => num x % C = i := by
  induction xs generalizing i with
  | nil => simp [addAll]
  | cons x xs ih =>
      obtain ⟨c, rfl⟩ : ∃ c, C = c + 1 := ⟨C - 1, by omega⟩
      have hlast : ∀ {j : Nat} {y : α}, xs[j]? = some y →
          (num x % (c + 1) = num y % (c + 1) ↔ c + 1 ∣ j + 1) := fun {j y} hy =>
        mod_eq_iff hdvd h (Nat.zero_le _) List.getElem?_cons_zero
          (by rwa [List.getElem?_cons_succ] : (x :: xs)[j + 1]? = some y)
      -- the slot of the new thing holds the one that is `C` numbers older, if any
      have hstore : ¬ ∃ y ∈ addAll num (c + 1) xs (num x % (c + 1)), num y = num x := by
        rintro ⟨y, hy, heq⟩
        rw [ih h.2, Option.mem_def] at hy
        obtain ⟨j, hj, rfl⟩ := List.getElem_of_mem (List.mem_of_find?_eq_some hy)
        rw [List.length_take] at hj
        rw [List.getElem_take] at heq
        have hget : (x :: xs)[j + 1]? = some xs[j] := by
          rw [List.getElem?_cons_succ, List.getElem?_eq_getElem (by omega)]
        have hx := h.getElem? (i := 0) List.getElem?_cons_zero
        have hmod := (h.getElem? hget).symm.trans (heq.trans hx)
        rw [List.length_cons] at hmod
        have hsplit : start + (xs.length + 1 - 1 - 0)
            = start + (xs.length + 1 - 1 - (j + 1)) + (j + 1) := by omega
        rw [hsplit] at hmod
        have hd := (Nat.modEq_iff_dvd' (Nat.le_add_right _ _)).mp hmod
        rw [Nat.add_sub_cancel_left] at hd
        have := Nat.le_of_dvd (by omega) hd
        omega
      rw [addAll, add, if_neg hstore, List.take_succ_cons]
      by_cases hi : i = num x % (c + 1)
      · subst hi
        rw [Function.update_self, List.find?_cons_of_pos (by simp)]
      · rw [Function.update_of_ne hi, ih h.2,
          List.find?_cons_of_neg (by simpa using fun h => hi h.symm)]
        -- the thing that leaves the last `C` is not in this slot
        rw [List.take_add_one, List.find?_append]
        cases hget : xs[c]? with
        | none => simp
        | some y =>
            have hy : num y % (c + 1) ≠ i := fun h =>
              hi (h.symm.trans ((hlast hget).mpr (dvd_refl _)).symm)
            simp [hy]

/-- A look-up finds the thing with the number among the last `C`, and nothing else. -/
theorem find_addAll {M start : Nat} (hpos : 0 < C) (hdvd : C ∣ M) (hlt : C < M) {xs : List α}
    (h : Numbered num M start xs) (n : Nat) :
    find num C (addAll num C xs) n = (xs.take C).find? fun x => num x = n := by
  rw [find, addAll_apply hpos hdvd hlt h]
  exact find?_filter (fun x => num x % C) (pairwise_take hdvd h) (n % C) fun x hx => by
    rw [of_decide_eq_true hx]

end Xrtc.Lib.SeqCache
