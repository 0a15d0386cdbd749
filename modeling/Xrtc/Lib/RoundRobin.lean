import Mathlib.Data.Set.Insert
import Xrtc.Lib.Run

/-!
# `Xrtc.Lib.RoundRobin`: taking turns, the oldest first

A scheduler keeps its members in two sets, those that wait and those that were served in
this round, with the time each was last served. When no eligible member waits, everyone
waits again (`Refill`). It serves a waiting eligible member that was served longest ago
(`Serve`). Members come and go between the rounds (`Change`), and who is eligible changes
as well.

`served_between` is the fairness of such a scheduler, for any step function whose states can
be looked at in this way: between two turns of a member, every other member has one that is
there and eligible all the time. `Behind` is the invariant that carries it. It relates the
two sets to the times, since the round itself is not remembered.

Nothing here names a program.
-/

set_option autoImplicit false

namespace Xrtc.Lib

universe u v

/-- The state of a scheduler. -/
structure Rounds (M : Type) where
  waiting : Set M
  served : Set M
  last : M → Int
  time : Int
  eligible : Set M

namespace Rounds

variable {M : Type}

def members (s : Rounds M) : Set M := s.waiting ∪ s.served

/-- The two sets are disjoint, and nobody was served later than the latest turn. -/
structure Valid (s : Rounds M) : Prop where
  disjoint : ∀ m ∈ s.waiting, m ∉ s.served
  last_le : ∀ m ∈ s.served, s.last m ≤ s.time

/-- Members come and go. Those that stay keep their place, and the new ones wait. -/
structure Change (s s' : Rounds M) : Prop where
  served : ∀ m ∈ s'.served, m ∈ s.served
  waiting : ∀ m ∈ s'.waiting, m ∉ s.served
  last : ∀ m ∈ s.members, m ∈ s'.members → s'.last m = s.last m
  time : s'.time = s.time

/-- An eligible member waits, or everyone waits again. -/
inductive Refill : Rounds M → Rounds M → Prop where
  | kept {s : Rounds M} (h : ∃ m ∈ s.waiting, m ∈ s.eligible) : Refill s s
  | refilled {s : Rounds M} (h : ∀ m ∈ s.waiting, m ∉ s.eligible) :
      Refill s { s with waiting := s.members, served := ∅ }

/-- A waiting eligible member that was served longest ago has its turn. -/
structure Serve (m : M) (s s' : Rounds M) : Prop where
  isWaiting : m ∈ s.waiting
  isEligible : m ∈ s.eligible
  oldest : ∀ q ∈ s.waiting, q ∈ s.eligible → s.last m ≤ s.last q
  waiting : ∀ q, q ∈ s'.waiting ↔ q ∈ s.waiting ∧ q ≠ m
  served : ∀ q, q ∈ s'.served ↔ q ∈ s.served ∨ q = m
  last : s'.last m = s'.time
  others : ∀ q, q ≠ m → s'.last q = s.last q
  time : s.time < s'.time
  eligible : s'.eligible = s.eligible

/-- What happens at one step of a program: a change, and perhaps a turn. -/
inductive Event : Option M → Rounds M → Rounds M → Prop where
  | change {s s' : Rounds M} (h : Change s s') : Event none s s'
  | refill {s s₁ s' : Rounds M} (h : Change s s₁) (hrefill : Refill s₁ s') : Event none s s'
  | serve {s s₁ s₂ s' : Rounds M} {m : M} (h : Change s s₁) (hrefill : Refill s₁ s₂)
      (hserve : Serve m s₂ s') : Event (some m) s s'

/-! ### The sets stay disjoint -/

/-- A change of the members keeps waiting and served ones apart. -/
theorem Valid.change {s s' : Rounds M} (hs : s.Valid) (h : Change s s') : s'.Valid where
  disjoint m hwaiting hserved := h.waiting m hwaiting (h.served m hserved)
  last_le m hserved := by
    rw [h.last m (Or.inr (h.served m hserved)) (Or.inr hserved), h.time]
    exact hs.last_le m (h.served m hserved)

/-- So does a refill, where all members wait. -/
theorem Valid.refill {s s' : Rounds M} (hs : s.Valid) (h : Refill s s') : s'.Valid := by
  cases h with
  | kept h => exact hs
  | refilled h => exact ⟨fun m _ hserved => hserved, fun m hserved => hserved.elim⟩

/-- So does a service, where one member changes sides. -/
theorem Valid.serve {s s' : Rounds M} {m : M} (hs : s.Valid) (h : Serve m s s') : s'.Valid := by
  constructor
  · intro q hwaiting hserved
    obtain ⟨hq, hne⟩ := (h.waiting q).mp hwaiting
    rcases (h.served q).mp hserved with hold | heq
    · exact hs.disjoint q hq hold
    · exact hne heq
  · intro q hserved
    by_cases heq : q = m
    · rw [heq, h.last]
    · have hold := ((h.served q).mp hserved).resolve_right heq
      rw [h.others q heq]
      exact (hs.last_le q hold).trans h.time.le

/-- So does every event. -/
theorem Valid.event {s s' : Rounds M} {o : Option M} (hs : s.Valid) (h : Event o s s') :
    s'.Valid := by
  cases h with
  | change h => exact hs.change h
  | refill h hrefill => exact (hs.change h).refill hrefill
  | serve h hrefill hserve => exact ((hs.change h).refill hrefill).serve hserve

/-- Neither a new round nor a turn changes who the members are. -/
theorem members_refill {s s' : Rounds M} (h : Refill s s') : s'.members = s.members := by
  cases h with
  | kept h => rfl
  | refilled h => exact Set.union_empty _

/-- A service changes no membership. -/
theorem members_serve {s s' : Rounds M} {m : M} (h : Serve m s s') : s'.members = s.members := by
  ext q
  simp only [members, Set.mem_union, h.waiting, h.served]
  have hm := h.isWaiting
  grind

/-- A refill does not decide who may be served. -/
theorem eligible_refill {s s' : Rounds M} (h : Refill s s') : s'.eligible = s.eligible := by
  cases h <;> rfl

/-! ### Who comes next -/

/-- The second member has its next turn before the first one. The first was served in this
round, and the second was not or it was served earlier, or else both wait and the second was
served earlier. -/
def Behind (a b : M) (s : Rounds M) : Prop :=
  (a ∈ s.served ∧ (b ∈ s.waiting ∨ s.last b < s.last a)) ∨
    (a ∈ s.waiting ∧ b ∈ s.waiting ∧ s.last b < s.last a)

section

variable {s s' : Rounds M} {a b : M}

/-- Who stays keeps its place. -/
theorem Change.place {m : M} (hvalid : s.Valid) (h : Change s s') (hm : m ∈ s'.members) :
    (m ∈ s.served → m ∈ s'.served) ∧ (m ∈ s.waiting → m ∈ s'.waiting) := by
  rcases hm with hwaiting | hserved
  · exact ⟨fun hold => absurd hold (h.waiting m hwaiting), fun _ => hwaiting⟩
  · exact ⟨fun _ => hserved, fun hold => absurd (h.served m hserved) (hvalid.disjoint m hold)⟩

/-- Who is behind is a member. -/
theorem Behind.mem (hs : Behind a b s) : a ∈ s.members := by
  rcases hs with ⟨hserved, -⟩ | ⟨hwaiting, -⟩
  · exact Or.inr hserved
  · exact Or.inl hwaiting

/-- Nobody is behind itself. -/
theorem Behind.ne (hs : Behind a b s) (hvalid : s.Valid) : a ≠ b := by
  rintro rfl
  rcases hs with ⟨hserved, hwaiting | hlt⟩ | ⟨-, -, hlt⟩
  · exact hvalid.disjoint a hwaiting hserved
  · exact lt_irrefl _ hlt
  · exact lt_irrefl _ hlt

/-- Other members may come and go meanwhile. -/
theorem Behind.change (hs : Behind a b s) (hvalid : s.Valid) (h : Change s s')
    (ha : a ∈ s'.members) (hb : b ∈ s.members) (hb' : b ∈ s'.members) : Behind a b s' := by
  rw [Behind, h.last a hs.mem ha, h.last b hb hb']
  obtain ⟨haserved, hawaiting⟩ := h.place hvalid ha
  have hbwaiting := (h.place hvalid hb').2
  exact hs.imp (fun hs => ⟨haserved hs.1, hs.2.imp_left hbwaiting⟩)
    fun hs => ⟨hawaiting hs.1, hbwaiting hs.2.1, hs.2.2⟩

/-- When everyone waits again, the second member has been served already, if it could be. -/
theorem Behind.refill (hs : Behind a b s) (hb : b ∈ s.members) (heligible : b ∈ s.eligible)
    (h : Refill s s') : Behind a b s' := by
  cases h with
  | kept h => exact hs
  | refilled h =>
      have hnot : b ∉ s.waiting := fun hwaiting => h b hwaiting heligible
      have ha := hs.mem
      rcases hs with ⟨-, hwaiting | hlt⟩ | ⟨-, hwaiting, -⟩
      · exact absurd hwaiting hnot
      · exact Or.inr ⟨ha, hb, hlt⟩
      · exact absurd hwaiting hnot

/-- It is not the turn of the first member, and if it is not the turn of the second one
either, it still is behind. -/
theorem Behind.serve {m : M} (hs : Behind a b s) (hvalid : s.Valid) (heligible : b ∈ s.eligible)
    (h : Serve m s s') (hb : m ≠ b) : m ≠ a ∧ Behind a b s' := by
  have hne : m ≠ a := by
    rintro rfl
    rcases hs with ⟨hserved, -⟩ | ⟨-, hwaiting, hlt⟩
    · exact hvalid.disjoint m h.isWaiting hserved
    · have hle := h.oldest b hwaiting heligible
      omega
  refine ⟨hne, ?_⟩
  rw [Behind, h.others a hne.symm, h.others b hb.symm]
  exact hs.imp
    (fun hs => ⟨(h.served a).mpr (Or.inl hs.1),
      hs.2.imp_left fun hwaiting => (h.waiting b).mpr ⟨hwaiting, hb.symm⟩⟩)
    fun hs => ⟨(h.waiting a).mpr ⟨hs.1, hne.symm⟩, (h.waiting b).mpr ⟨hs.2.1, hb.symm⟩, hs.2.2⟩

/-- One step: it is not the turn of the first member, and unless it is the turn of the second
one, the first stays behind. -/
theorem Behind.event {o : Option M} (hs : Behind a b s) (hvalid : s.Valid)
    (h : Event o s s') (ha' : a ∈ s'.members) (hb : b ∈ s.members) (hb' : b ∈ s'.members)
    (heligible : b ∈ s'.eligible) (hnot : o ≠ some b) : o ≠ some a ∧ Behind a b s' := by
  cases h with
  | change h => exact ⟨nofun, hs.change hvalid h ha' hb hb'⟩
  | refill h hrefill =>
      rw [members_refill hrefill] at ha' hb'
      rw [eligible_refill hrefill] at heligible
      exact ⟨nofun, (hs.change hvalid h ha' hb hb').refill hb' heligible hrefill⟩
  | @serve _ s₁ s₂ _ m h hrefill hserve =>
      rw [members_serve hserve] at ha' hb'
      rw [hserve.eligible] at heligible
      have hmembers := members_refill hrefill
      have hbehind : Behind a b s₂ :=
        (hs.change hvalid h (hmembers ▸ ha') hb (hmembers ▸ hb')).refill (hmembers ▸ hb')
          (eligible_refill hrefill ▸ heligible) hrefill
      obtain ⟨hne, hbehind'⟩ := hbehind.serve ((hvalid.change h).refill hrefill) heligible hserve
        (fun heq => hnot (heq ▸ rfl))
      exact ⟨fun heq => hne (Option.some.inj heq), hbehind'⟩

/-- Who has just had its turn is behind everyone else. -/
theorem behind_of_event (hvalid : s.Valid) (h : Event (some a) s s') (hb : b ∈ s'.members)
    (hne : a ≠ b) : Behind a b s' := by
  cases h with
  | @serve _ s₁ s₂ _ _ h hrefill hserve =>
      have hvalid₂ := (hvalid.change h).refill hrefill
      rw [members_serve hserve] at hb
      refine Or.inl ⟨(hserve.served a).mpr (Or.inr rfl), ?_⟩
      rw [hserve.last, hserve.others b hne.symm]
      rcases hb with hwaiting | hserved
      · exact Or.inl ((hserve.waiting b).mpr ⟨hwaiting, hne.symm⟩)
      · exact Or.inr ((hvalid₂.last_le b hserved).trans_lt hserve.time)

end

/-! ### Runs -/

section

variable {σ : Type u} {ε : Type v} {step : σ → ε → σ} {view : σ → Rounds M}
  {turn : σ → ε → Option M} {ok : σ → Prop}

/-- A step function whose steps are those of a scheduler is fair: before a member has its
turn again, each other one that is there and eligible all the time has its turn. -/
theorem served_between
    (hevent : ∀ s e, ok s → ok (step s e) → Event (turn s e) (view s) (view (step s e)))
    {a b : M} {s : σ} {es : List ε} {e : ε} (hok : Always step ok s (es ++ [e]))
    (hpresent : Always step (fun s => a ∈ (view s).members ∧ b ∈ (view s).members ∧
      b ∈ (view s).eligible) s (es ++ [e]))
    (hvalid : (view s).Valid) (hbehind : Behind a b (view s))
    (hturn : turn (run step s es) e = some a) :
    ∃ before e' after, es = before ++ e' :: after ∧ turn (run step s before) e' = some b := by
  induction es generalizing s with
  | nil =>
      -- the next step would be the turn of the first member, which is behind
      have h := hevent s e hok.head hok.2.head
      by_cases hb : turn s e = some b
      · exact absurd (Option.some.inj (hturn.symm.trans hb)) (hbehind.ne hvalid)
      · exact absurd hturn (hbehind.event hvalid h hpresent.2.1 hpresent.1.2.1 hpresent.2.2.1
          hpresent.2.2.2 hb).1
  | cons e' es ih =>
      have h := hevent s e' hok.head hok.2.head
      by_cases hb : turn s e' = some b
      · exact ⟨[], e', es, rfl, hb⟩
      · have hbehind' := (hbehind.event hvalid h hpresent.2.head.1 hpresent.1.2.1
          hpresent.2.head.2.1 hpresent.2.head.2.2 hb).2
        obtain ⟨before, e₁, after, rfl, hmine⟩ :=
          ih hok.2 hpresent.2 (hvalid.event h) hbehind' hturn
        exact ⟨e' :: before, e₁, after, rfl, hmine⟩

end

end Rounds

end Xrtc.Lib
