import Mathlib.Logic.Relation
import Mathlib.Tactic.Common

/-!
# `Xrtc.Lib.Run`: runs of a deterministic step function

A component is a state type `σ`, an event type `ε` and a total step function
`step : σ → ε → σ`. A run is a finite list of events, and `run step s es` is the
state it ends in. The file states what the proofs about long-running objects
need, once and for every component:

* `Always step P s es`: `P` holds in every state the run visits, the first and
  the last included.
* `Steps step ok s es`: every step of the run is taken in a state where
  `ok state event` holds.
* `always_of_steps`: an invariant that every `ok` step keeps holds along every
  run whose steps are all `ok`.
* `always_iff_steps`: the exact form. If a step that is not `ok` breaks `P` at
  once, then `P` holds along a run exactly when all its steps are `ok`.
* `preserved_of_reflTransGen`: a property that every action keeps is kept by every
  sequence of actions. A step that is such a sequence keeps it too.
* `runPartial`: a run of a step function that may have no next state, and its
  invariant rule `invariant_of_runPartial`, which is `history_of_runPartial` for an
  invariant of the events and the state. `AlwaysPartial`, `StepsPartial`,
  `alwaysPartial_of_steps` and `alwaysPartial_iff_steps` are the rules above for such a step
  function.

Nothing here names a program.
-/

set_option autoImplicit false

namespace Xrtc.Lib

universe u v

variable {σ : Type u} {ε : Type v}

/-- The state a run of events ends in. -/
def run (step : σ → ε → σ) (s : σ) (es : List ε) : σ := es.foldl step s

/-- `P` holds in every state the run visits, the start and the end included. -/
def Always (step : σ → ε → σ) (P : σ → Prop) : σ → List ε → Prop
  | s, []      => P s
  | s, e :: es => P s ∧ Always step P (step s e) es

/-- Every step of the run is taken in a state that allows it. -/
def Steps (step : σ → ε → σ) (ok : σ → ε → Prop) : σ → List ε → Prop
  | _, []      => True
  | s, e :: es => ok s e ∧ Steps step ok (step s e) es

variable {step : σ → ε → σ} {P Inv : σ → Prop} {ok : σ → ε → Prop}

/-- A run without events stays where it is. -/
@[simp] theorem run_nil (s : σ) : run step s [] = s := rfl

/-- The first event comes before the others. -/
@[simp] theorem run_cons (s : σ) (e : ε) (es : List ε) :
    run step s (e :: es) = run step (step s e) es := rfl

instance Always.decidable [DecidablePred P] :
    (s : σ) → (es : List ε) → Decidable (Always step P s es)
  | s, []      => inferInstanceAs (Decidable (P s))
  | s, e :: es =>
      have := Always.decidable (step s e) es
      inferInstanceAs (Decidable (P s ∧ Always step P (step s e) es))

/-- A run over a concatenation is the second run from the end of the first. -/
theorem run_append (s : σ) (es fs : List ε) :
    run step s (es ++ fs) = run step (run step s es) fs := by
  unfold run
  rw [List.foldl_append]

/-- A property that holds along a run holds in its last state. -/
theorem Always.last {s : σ} {es : List ε} (h : Always step P s es) :
    P (run step s es) := by
  induction es generalizing s with
  | nil => exact h
  | cons e es ih => exact ih h.2

/-- A property that holds along a run holds in its first state. -/
theorem Always.head {s : σ} {es : List ε} (h : Always step P s es) : P s := by
  cases es with
  | nil => exact h
  | cons e es => exact h.1

/-- The invariant rule: an invariant that every allowed step keeps holds along
every run whose steps are all allowed. -/
theorem always_of_steps (hstep : ∀ s e, Inv s → ok s e → Inv (step s e))
    {s : σ} {es : List ε} (hs : Inv s) (hok : Steps step ok s es) :
    Always step Inv s es := by
  induction es generalizing s with
  | nil => exact hs
  | cons e es ih => exact ⟨hs, ih (hstep s e hs hok.1) hok.2⟩

/-- A condition on the events alone. -/
theorem steps_of_forall {p : ε → Prop} {s : σ} {es : List ε} (h : ∀ e ∈ es, p e) :
    Steps step (fun _ e => p e) s es := by
  induction es generalizing s with
  | nil => trivial
  | cons e es ih =>
      exact ⟨h e List.mem_cons_self, ih fun e' he' => h e' (List.mem_cons_of_mem e he')⟩

/-- The invariant rule without a condition on the steps. -/
theorem always_of_step (hstep : ∀ s e, Inv s → Inv (step s e))
    {s : σ} (hs : Inv s) (es : List ε) : Always step Inv s es := by
  induction es generalizing s with
  | nil => exact hs
  | cons e es ih => exact ⟨hs, ih (hstep s e hs)⟩

/-- A weaker property holds along every run a stronger one holds along. -/
theorem Always.imp {Q : σ → Prop} (hPQ : ∀ s, P s → Q s) {s : σ} {es : List ε}
    (h : Always step P s es) : Always step Q s es := by
  induction es generalizing s with
  | nil => exact hPQ s h
  | cons e es ih => exact ⟨hPQ s h.1, ih h.2⟩

/-- Two properties that hold along a run hold along it together. -/
theorem Always.and {Q : σ → Prop} {s : σ} {es : List ε} (hP : Always step P s es)
    (hQ : Always step Q s es) : Always step (fun s => P s ∧ Q s) s es := by
  induction es generalizing s with
  | nil => exact ⟨hP, hQ⟩
  | cons e es ih => exact ⟨⟨hP.1, hQ.1⟩, ih hP.2 hQ.2⟩

/-- A property that holds along a run holds after each of its steps. -/
theorem Always.steps_next {s : σ} {es : List ε} (h : Always step P s es) :
    Steps step (fun s e => P (step s e)) s es := by
  induction es generalizing s with
  | nil => trivial
  | cons e es ih => exact ⟨h.2.head, ih h.2⟩

/-- A property that holds along a run holds along its second part. -/
theorem Always.append_right {s : σ} {es fs : List ε} (h : Always step P s (es ++ fs)) :
    Always step P (run step s es) fs := by
  induction es generalizing s with
  | nil => exact h
  | cons e es ih => exact ih h.2

/-- A property that holds along a run holds along its first part. -/
theorem Always.append_left {s : σ} {es fs : List ε} (h : Always step P s (es ++ fs)) :
    Always step P s es := by
  induction es generalizing s with
  | nil => exact h.head
  | cons e es ih => exact ⟨h.1, ih h.2⟩

/-- A property that holds along a run and after one more event holds along the longer run. -/
theorem Always.concat {s : σ} {es : List ε} {e : ε} (h : Always step P s es)
    (he : P (step (run step s es) e)) : Always step P s (es ++ [e]) := by
  induction es generalizing s with
  | nil => exact ⟨h, he⟩
  | cons e' es ih => exact ⟨h.1, ih h.2 he⟩

/-- The exact form of the invariant rule. The invariant gives the property, an
allowed step keeps the invariant, and a step that is not allowed leads out of
the property. Then the property holds along a run exactly when every step of
the run is allowed. -/
theorem always_iff_steps (hP : ∀ s, Inv s → P s)
    (hstep : ∀ s e, Inv s → ok s e → Inv (step s e))
    (hbreak : ∀ s e, Inv s → ¬ ok s e → ¬ P (step s e))
    {s : σ} {es : List ε} (hs : Inv s) :
    Always step P s es ↔ Steps step ok s es := by
  constructor
  · intro h
    induction es generalizing s with
    | nil => trivial
    | cons e es ih =>
        have hok : ok s e := by
          by_contra hno
          exact hbreak s e hs hno h.2.head
        exact ⟨hok, ih (hstep s e hs hok) h.2⟩
  · intro h
    exact (always_of_steps hstep hs h).imp hP

/-- The invariant rule for a step that is a sequence of smaller actions. -/
theorem preserved_of_reflTransGen {act : σ → σ → Prop} (hact : ∀ s s', act s s' → P s → P s')
    {s s' : σ} (h : Relation.ReflTransGen act s s') (hs : P s) : P s' := by
  induction h with
  | refl => exact hs
  | tail _ hlast ih => exact hact _ _ hlast ih

/-! ### Partial steps -/

/-- The state a run ends in, if every step of it has a next state. -/
def runPartial (step : σ → ε → Option σ) (s : σ) (es : List ε) : Option σ := es.foldlM step s

/-- The invariant rule for partial steps. -/
theorem invariant_of_runPartial {step : σ → ε → Option σ}
    (hstep : ∀ s e s', step s e = some s' → Inv s → Inv s') {s s' : σ} {es : List ε}
    (hs : Inv s) (hrun : runPartial step s es = some s') : Inv s' := by
  induction es generalizing s with
  | nil =>
      cases hrun
      exact hs
  | cons e es ih =>
      obtain ⟨t, ht, hrest⟩ := Option.bind_eq_some_iff.mp hrun
      exact ih (hstep s e t ht hs) hrest

/-- A run goes on behind its first step, where there is one. -/
theorem runPartial_cons {step : σ → ε → Option σ} {s t : σ} {e : ε} (h : step s e = some t)
    (es : List ε) : runPartial step s (e :: es) = runPartial step t es := by
  unfold runPartial
  rw [List.foldlM_cons, h]
  rfl

/-- A run of partial steps has an end if every step has a next state where the invariant
holds. -/
theorem exists_runPartial {step : σ → ε → Option σ}
    (hstep : ∀ s e, Inv s → ∃ s', step s e = some s' ∧ Inv s') {s : σ} (hs : Inv s)
    (es : List ε) : ∃ s', runPartial step s es = some s' ∧ Inv s' := by
  induction es generalizing s with
  | nil => exact ⟨s, rfl, hs⟩
  | cons e es ih =>
      obtain ⟨t, ht, hinv⟩ := hstep s e hs
      obtain ⟨s', hrun, hs'⟩ := ih hinv
      exact ⟨s', Option.bind_eq_some_iff.mpr ⟨t, ht, hrun⟩, hs'⟩

/-- A run of partial steps over a concatenation is the second run from the end of the
first. -/
theorem runPartial_append {step : σ → ε → Option σ} {s t : σ} {es : List ε}
    (h : runPartial step s es = some t) (fs : List ε) :
    runPartial step s (es ++ fs) = runPartial step t fs := by
  unfold runPartial at *
  rw [List.foldlM_append, h]
  rfl

/-- The invariant rule for an invariant that speaks of the events of the run so far. -/
theorem history_of_runPartial {step : σ → ε → Option σ} {P : List ε → σ → Prop} {s₀ : σ}
    (hstep : ∀ es s e s', runPartial step s₀ es = some s → step s e = some s' → P es s →
      P (es ++ [e]) s')
    (hs₀ : P [] s₀) {s : σ} {es : List ε} (hrun : runPartial step s₀ es = some s) :
    P es s := by
  -- the events that are left, after those that the invariant speaks of
  have hrest : ∀ (rest past : List ε) (t : σ), runPartial step s₀ past = some t → P past t →
      runPartial step t rest = some s → P (past ++ rest) s := by
    intro rest
    induction rest with
    | nil =>
        intro past t _ hpast ht
        cases ht
        rwa [List.append_nil]
    | cons e rest ih =>
        intro past t hreach hpast ht
        obtain ⟨u, hu, hlast⟩ := Option.bind_eq_some_iff.mp ht
        have hreach' : runPartial step s₀ (past ++ [e]) = some u := by
          rw [runPartial_append hreach, runPartial_cons hu]
          rfl
        rw [List.append_cons]
        exact ih _ u hreach' (hstep past t e u hreach hu hpast) hlast
  exact hrest es [] s₀ rfl hs₀ hrun

/-- `P` holds in every state that a run of partial steps visits. -/
def AlwaysPartial (step : σ → ε → Option σ) (P : σ → Prop) : σ → List ε → Prop
  | s, []      => P s
  | s, e :: es => P s ∧ ∀ s', step s e = some s' → AlwaysPartial step P s' es

/-- Every partial step of the run is taken in a state that allows it. -/
def StepsPartial (step : σ → ε → Option σ) (ok : σ → ε → Prop) : σ → List ε → Prop
  | _, []      => True
  | s, e :: es => ok s e ∧ ∀ s', step s e = some s' → StepsPartial step ok s' es

/-- What always holds holds at the start. -/
theorem AlwaysPartial.head {step : σ → ε → Option σ} {s : σ} {es : List ε}
    (h : AlwaysPartial step P s es) : P s := by
  cases es with
  | nil => exact h
  | cons e es => exact h.1

/-- A property that holds along a run of partial steps holds in its last state. -/
theorem AlwaysPartial.last {step : σ → ε → Option σ} {s s' : σ} {es : List ε}
    (h : AlwaysPartial step P s es) (hrun : runPartial step s es = some s') : P s' := by
  induction es generalizing s with
  | nil =>
      cases hrun
      exact h
  | cons e es ih =>
      obtain ⟨t, ht, hrest⟩ := Option.bind_eq_some_iff.mp hrun
      exact ih (h.2 t ht) hrest

/-- An invariant that every allowed partial step keeps holds along every run whose steps are
all allowed. -/
theorem alwaysPartial_of_steps {step : σ → ε → Option σ}
    (hstep : ∀ s e s', step s e = some s' → Inv s → ok s e → Inv s') {s : σ} {es : List ε}
    (hs : Inv s) (hok : StepsPartial step ok s es) : AlwaysPartial step Inv s es := by
  induction es generalizing s with
  | nil => exact hs
  | cons e es ih =>
      exact ⟨hs, fun s' hnext => ih (hstep s e s' hnext hs hok.1) (hok.2 s' hnext)⟩

/-- A weaker property holds along every run of partial steps a stronger one holds along. -/
theorem AlwaysPartial.imp {step : σ → ε → Option σ} {Q : σ → Prop} (hPQ : ∀ s, P s → Q s) {s : σ}
    {es : List ε} (h : AlwaysPartial step P s es) : AlwaysPartial step Q s es := by
  induction es generalizing s with
  | nil => exact hPQ s h
  | cons e es ih => exact ⟨hPQ s h.1, fun s' hnext => ih (h.2 s' hnext)⟩

/-- The exact form of the invariant rule for partial steps. A step that is not allowed
has a next state, and it leads out of the property. -/
theorem alwaysPartial_iff_steps {step : σ → ε → Option σ} (hP : ∀ s, Inv s → P s)
    (hstep : ∀ s e s', step s e = some s' → Inv s → ok s e → Inv s')
    (hbreak : ∀ s e, Inv s → ¬ ok s e → ∃ s', step s e = some s' ∧ ¬ P s')
    {s : σ} {es : List ε} (hs : Inv s) :
    AlwaysPartial step P s es ↔ StepsPartial step ok s es := by
  constructor
  · intro h
    induction es generalizing s with
    | nil => trivial
    | cons e es ih =>
        have hok : ok s e := by
          by_contra hno
          obtain ⟨s', hnext, hnot⟩ := hbreak s e hs hno
          exact hnot (h.2 s' hnext).head
        exact ⟨hok, fun s' hnext => ih (hstep s e s' hnext hs hok) (h.2 s' hnext)⟩
  · intro h
    exact (alwaysPartial_of_steps hstep hs h).imp hP

end Xrtc.Lib
