import Mathlib.Data.List.Forall2

/-!
# `Xrtc.Lib.Fuel`: results that more fuel does not change

A function that calls itself without a bound is written with a bound on these calls, its fuel,
and has no result (`none`) where the fuel is used up. Such a function of its fuel settles on a
result if it has this result whenever there is fuel enough (`Settles`). It settles on one result
at most.

What is put together from parts that settle settles too: a step after another one
(`Settles.map`), a loop that collects results (`Settles.mapM`) and a loop over an accumulator
(`Settles.foldlM`). The parts of a loop may each need their own fuel. Nothing here names a
program.
-/

set_option autoImplicit false

namespace Xrtc.Lib

variable {α β γ : Type}

/-- With fuel enough, this is the result. -/
def Settles (f : Nat → Option α) (a : α) : Prop := ∃ n, ∀ fuel, n ≤ fuel → f fuel = some a

namespace Settles

variable {f : Nat → Option α} {a b : α}

/-- A result that takes no fuel. -/
theorem of_forall (h : ∀ fuel, f fuel = some a) : Settles f a := ⟨0, fun fuel _ => h fuel⟩

/-- A computation settles at one value. -/
theorem unique (ha : Settles f a) (hb : Settles f b) : a = b := by
  obtain ⟨n, hn⟩ := ha
  obtain ⟨m, hm⟩ := hb
  have hresult := hn (max n m) (Nat.le_max_left n m)
  rw [hm (max n m) (Nat.le_max_right n m)] at hresult
  exact (Option.some.inj hresult).symm

/-- A call inside another one. -/
theorem of_succ (h : Settles (fun fuel => f (fuel + 1)) a) : Settles f a := by
  obtain ⟨n, hn⟩ := h
  refine ⟨n + 1, fun fuel hfuel => ?_⟩
  obtain ⟨m, rfl⟩ : ∃ m, fuel = m + 1 := ⟨fuel - 1, by omega⟩
  exact hn m (by omega)

/-- A call with no other one inside. -/
theorem of_forall_succ (h : ∀ fuel, f (fuel + 1) = some a) : Settles f a := of_succ (of_forall h)

/-- What is computed from it settles as well. -/
theorem map (h : Settles f a) (g : α → β) : Settles (fun fuel => (f fuel).map g) (g a) := by
  obtain ⟨n, hn⟩ := h
  refine ⟨n, fun fuel hfuel => ?_⟩
  show (f fuel).map g = _
  rw [hn fuel hfuel]
  rfl

/-- A loop that collects what its rounds settle on. Induction on the rounds. -/
theorem mapM {f : Nat → α → Option β} {xs : List α} {ys : List β}
    (h : List.Forall₂ (fun x y => Settles (fun fuel => f fuel x) y) xs ys) :
    Settles (fun fuel => xs.mapM (f fuel)) ys := by
  induction h with
  | nil => exact of_forall fun _ => rfl
  | cons hx _ ih =>
      obtain ⟨n, hn⟩ := hx
      obtain ⟨m, hm⟩ := ih
      refine ⟨max n m, fun fuel hfuel => ?_⟩
      have hfirst := hn fuel (Nat.le_trans (Nat.le_max_left n m) hfuel)
      have hrest := hm fuel (Nat.le_trans (Nat.le_max_right n m) hfuel)
      dsimp only at hfirst hrest ⊢
      rw [List.mapM_cons, hfirst, hrest]
      rfl

/-- A loop over an accumulator, whose rounds settle whatever it is. -/
theorem foldlM {f : Nat → γ → α → Option γ} {g : γ → β → γ} {xs : List α} {ys : List β}
    (h : List.Forall₂ (fun x y => ∀ acc, Settles (fun fuel => f fuel acc x) (g acc y)) xs ys)
    (acc : γ) : Settles (fun fuel => xs.foldlM (f fuel) acc) (ys.foldl g acc) := by
  induction h generalizing acc with
  | nil => exact of_forall fun _ => rfl
  | cons hx _ ih =>
      obtain ⟨n, hn⟩ := hx acc
      obtain ⟨m, hm⟩ := ih (g acc _)
      refine ⟨max n m, fun fuel hfuel => ?_⟩
      have hfirst := hn fuel (Nat.le_trans (Nat.le_max_left n m) hfuel)
      have hrest := hm fuel (Nat.le_trans (Nat.le_max_right n m) hfuel)
      dsimp only at hfirst hrest ⊢
      rw [List.foldlM_cons, hfirst]
      exact hrest

end Settles

end Xrtc.Lib
