import Mathlib.Data.List.Induction
import Mathlib.Data.List.Nodup

/-!
# `Xrtc.Lib.Grouping`: entries merged into groups by a key

A program goes through a list of entries and keeps a list of groups. An entry joins the first
group that has its key, or starts a new group behind the others. `Grouping` is what such a
loop needs: the keys, the group that a key starts with, and what an entry adds to its group.

`collect_eq` says what comes out, for every list of entries: one group for each key, in the
order in which the keys occur first (`firsts`), and in the group of a key what its entries
have added one after the other. So the groups do not depend on how the entries of different
keys are interleaved.

Nothing here names a program.
-/

set_option autoImplicit false

namespace Xrtc.Lib

universe u v w

section

variable {κ : Type v} [DecidableEq κ]

/-- The first occurrences, in order. -/
def firsts (ks : List κ) : List κ := ks.eraseDups

/-- Every key has its first mention. -/
@[simp] theorem mem_firsts {ks : List κ} {k : κ} : k ∈ firsts ks ↔ k ∈ ks := List.mem_eraseDups

/-- Each has one only. -/
theorem nodup_firsts (ks : List κ) : (firsts ks).Nodup := by
  match ks with
  | [] => exact List.nodup_nil
  | k :: ks =>
      have hlt : (ks.filter fun k' => !k' == k).length < ks.length + 1 :=
        Nat.lt_succ_of_le (List.length_filter_le _ ks)
      rw [firsts, List.eraseDups_cons, List.nodup_cons, List.mem_eraseDups]
      refine ⟨fun hmem => ?_, nodup_firsts _⟩
      have hne := (List.mem_filter.mp hmem).2
      rw [beq_self_eq_true] at hne
      cases hne
termination_by ks.length

/-- One more key at the end is new or not. -/
theorem firsts_concat (ks : List κ) (k : κ) :
    firsts (ks ++ [k]) = if k ∈ ks then firsts ks else firsts ks ++ [k] := by
  unfold firsts
  rw [List.eraseDups_append]
  split_ifs with hmem
  · rw [show [k].removeAll ks = [] by simp [List.removeAll, hmem], List.eraseDups_nil,
      List.append_nil]
  · rw [show [k].removeAll ks = [k] by simp [List.removeAll, hmem]]
    rfl

end

/-- What a loop that merges entries into groups needs. -/
structure Grouping (ε : Type u) (κ : Type v) (γ : Type w) where
  key : ε → κ
  groupKey : γ → κ
  start : κ → γ
  add : γ → ε → γ
  groupKey_start : ∀ k, groupKey (start k) = k
  groupKey_add : ∀ g e, groupKey (add g e) = groupKey g

namespace Grouping

variable {ε : Type u} {κ : Type v} {γ : Type w} (G : Grouping ε κ γ)

/-- Entries do not rename their group. -/
theorem groupKey_foldl (es : List ε) (g : γ) : G.groupKey (es.foldl G.add g) = G.groupKey g := by
  induction es generalizing g with
  | nil => rfl
  | cons e es ih => exact (ih (G.add g e)).trans (G.groupKey_add g e)

variable [DecidableEq κ]

/-- The loop body: an entry joins the first group with its key, or starts one. -/
def insert (e : ε) : List γ → List γ
  | [] => [G.add (G.start (G.key e)) e]
  | g :: gs => if G.groupKey g = G.key e then G.add g e :: gs else g :: insert e gs

/-- The groups after all entries. -/
def collect (es : List ε) : List γ := es.foldl (fun gs e => G.insert e gs) []

/-- What the entries of a key make of its group. -/
def group (es : List ε) (k : κ) : γ := (es.filter fun e => G.key e = k).foldl G.add (G.start k)

/-- A group has the key it was asked for. -/
@[simp] theorem groupKey_group (es : List ε) (k : κ) : G.groupKey (G.group es k) = k :=
  (G.groupKey_foldl _ _).trans (G.groupKey_start k)

/-- A key without entries has the group that it starts with. -/
theorem group_of_notMem {es : List ε} {k : κ} (h : k ∉ es.map G.key) :
    G.group es k = G.start k := by
  have hnone : (es.filter fun e => G.key e = k) = [] := by
    rw [List.filter_eq_nil_iff]
    intro e he hkey
    exact h (List.mem_map.mpr ⟨e, he, of_decide_eq_true hkey⟩)
  rw [group, hnone]
  rfl

/-- One more entry adds to the group of its key. -/
theorem group_concat (es : List ε) (e : ε) (k : κ) :
    G.group (es ++ [e]) k = if G.key e = k then G.add (G.group es k) e else G.group es k := by
  unfold group
  rw [List.filter_append, List.foldl_append]
  split_ifs with hkey
  · have hone : ([e].filter fun e => G.key e = k) = [e] :=
      List.filter_cons_of_pos (decide_eq_true hkey)
    rw [hone]
    rfl
  · have hnone : ([e].filter fun e => G.key e = k) = [] :=
      List.filter_cons_of_neg (by rwa [decide_eq_true_eq])
    rw [hnone]
    rfl

/-- An entry joins the group of its key, in groups with distinct keys. -/
theorem insert_of_mem {f : κ → γ} (hf : ∀ k, G.groupKey (f k) = k) (e : ε) {ks : List κ}
    (hnodup : ks.Nodup) (hmem : G.key e ∈ ks) :
    G.insert e (ks.map f) = ks.map fun k => if G.key e = k then G.add (f k) e else f k := by
  induction ks with
  | nil => exact absurd hmem List.not_mem_nil
  | cons k ks ih =>
      obtain ⟨hnotMem, hnodup⟩ := List.nodup_cons.mp hnodup
      rw [List.map_cons, List.map_cons, insert, hf]
      by_cases hkey : k = G.key e
      · -- behind the group of this key there is no other one
        have hrest : ∀ k' ∈ ks, f k' = if G.key e = k' then G.add (f k') e else f k' := by
          intro k' hk'
          rw [if_neg]
          rintro rfl
          exact hnotMem (hkey ▸ hk')
        rw [if_pos hkey, if_pos hkey.symm, List.map_congr_left hrest]
      · have hmem : G.key e ∈ ks := by
          rcases List.mem_cons.mp hmem with heq | hmem
          · exact absurd heq.symm hkey
          · exact hmem
        rw [if_neg hkey, if_neg (fun heq => hkey heq.symm), ih hnodup hmem]

/-- An entry with a new key starts a group behind the others. -/
theorem insert_of_notMem {f : κ → γ} (hf : ∀ k, G.groupKey (f k) = k) (e : ε) {ks : List κ}
    (hmem : G.key e ∉ ks) :
    G.insert e (ks.map f) = ks.map f ++ [G.add (G.start (G.key e)) e] := by
  induction ks with
  | nil => rfl
  | cons k ks ih =>
      have hne : ¬ k = G.key e := fun heq => hmem (heq ▸ List.mem_cons_self)
      rw [List.map_cons, insert, hf, if_neg hne, ih fun h => hmem (List.mem_cons_of_mem k h)]
      rfl

/-- There is one group for each key, in the order of the first occurrences. -/
theorem collect_eq (es : List ε) :
    G.collect es = (firsts (es.map G.key)).map (G.group es) := by
  -- on the last entry
  induction es using List.reverseRecOn with
  | nil => rfl
  | append_singleton es e ih =>
      have hcollect : G.collect (es ++ [e]) = G.insert e (G.collect es) := by
        rw [collect, List.foldl_append]
        rfl
      rw [hcollect, ih, List.map_append, List.map_singleton, firsts_concat]
      split_ifs with hmem
      · rw [G.insert_of_mem (G.groupKey_group es) e (nodup_firsts _)
          (mem_firsts.mpr hmem)]
        exact List.map_congr_left fun k _ => (G.group_concat es e k).symm
      · rw [G.insert_of_notMem (G.groupKey_group es) e (fun h => hmem (mem_firsts.mp h)),
          List.map_append, List.map_singleton, G.group_concat, if_pos rfl,
          G.group_of_notMem hmem]
        congr 1
        refine List.map_congr_left fun k hk => ?_
        rw [G.group_concat, if_neg]
        rintro rfl
        exact hmem (mem_firsts.mp hk)

/-- Two lists of entries make the same groups exactly if their keys occur first in the same
order, and make the same group each. -/
theorem collect_eq_collect_iff (es es' : List ε) : G.collect es = G.collect es' ↔
    firsts (es.map G.key) = firsts (es'.map G.key) ∧
      ∀ k ∈ es.map G.key, G.group es k = G.group es' k := by
  have hkeys : ∀ es : List ε, (G.collect es).map G.groupKey = firsts (es.map G.key) := by
    intro es
    rw [G.collect_eq, List.map_map]
    exact (List.map_congr_left fun k _ => G.groupKey_group es k).trans (List.map_id _)
  constructor
  · intro heq
    have hfirsts := congrArg (List.map G.groupKey) heq
    rw [hkeys, hkeys] at hfirsts
    refine ⟨hfirsts, fun k hk => ?_⟩
    rw [G.collect_eq, G.collect_eq, ← hfirsts] at heq
    exact List.map_inj_left.mp heq k (mem_firsts.mpr hk)
  · rintro ⟨hfirsts, hgroups⟩
    rw [G.collect_eq, G.collect_eq, ← hfirsts]
    exact List.map_congr_left fun k hk => hgroups k (mem_firsts.mp hk)

/-- An entry with another key than all of the groups goes behind them. -/
theorem insert_append {e : ε} {gs : List γ} (h : ∀ g ∈ gs, G.groupKey g ≠ G.key e)
    (rest : List γ) : G.insert e (gs ++ rest) = gs ++ G.insert e rest := by
  induction gs with
  | nil => rfl
  | cons g gs ih =>
      obtain ⟨hg, hgs⟩ := List.forall_mem_cons.mp h
      rw [List.cons_append, insert, if_neg hg, ih hgs]
      rfl

/-- Entries with one key that no group has make one group behind the others. -/
theorem foldl_insert_block {k : κ} {gs : List γ} (hgs : ∀ g ∈ gs, G.groupKey g ≠ k) {e : ε}
    {es : List ε} (hkey : ∀ e' ∈ e :: es, G.key e' = k) :
    (e :: es).foldl (fun gs e => G.insert e gs) gs
      = gs ++ [(e :: es).foldl G.add (G.start k)] := by
  obtain ⟨rfl, hkey⟩ := List.forall_mem_cons.mp hkey
  have hlast : ∀ (es : List ε) (g : γ), G.groupKey g = G.key e → (∀ e' ∈ es, G.key e' = G.key e) →
      es.foldl (fun gs e => G.insert e gs) (gs ++ [g]) = gs ++ [es.foldl G.add g] := by
    -- on the entries that are left; the group that they join keeps its key
    intro es
    induction es with
    | nil => exact fun g _ _ => rfl
    | cons e' es ih =>
        intro g hg hes
        obtain ⟨he', hes⟩ := List.forall_mem_cons.mp hes
        rw [List.foldl_cons, G.insert_append (fun g hmem => he' ▸ hgs g hmem), insert,
          if_pos (hg.trans he'.symm), ih _ ((G.groupKey_add g e').trans hg) hes, List.foldl_cons]
  have hfirst : G.insert e gs = gs ++ [G.add (G.start (G.key e)) e] := by
    have happend := G.insert_append hgs []
    rwa [List.append_nil] at happend
  rw [List.foldl_cons, hfirst, hlast es _ ((G.groupKey_add _ e).trans (G.groupKey_start _)) hkey,
    List.foldl_cons]

/-- Blocks of entries, each with a key of its own, make a group each. -/
theorem collect_blocks {β : Type*} (k : β → κ) (entries : β → List ε) {bs : List β}
    (hnodup : (bs.map k).Nodup) (hne : ∀ b ∈ bs, entries b ≠ [])
    (hkey : ∀ b ∈ bs, ∀ e ∈ entries b, G.key e = k b) :
    G.collect (bs.flatMap entries) = bs.map fun b => (entries b).foldl G.add (G.start (k b)) := by
  -- on the last block: its key is new
  induction bs using List.reverseRecOn with
  | nil => rfl
  | append_singleton bs b ih =>
      rw [List.map_append, List.map_singleton, List.nodup_append] at hnodup
      obtain ⟨hnodup, -, hnew⟩ := hnodup
      have hgroups := ih hnodup (fun b hb => hne b (List.mem_append_left _ hb))
        fun b hb => hkey b (List.mem_append_left _ hb)
      have hb : b ∈ bs ++ [b] := List.mem_append_right _ (List.mem_singleton_self b)
      obtain ⟨e, es, hes⟩ := List.exists_cons_of_ne_nil (hne b hb)
      have hothers : ∀ g ∈ bs.map fun b => (entries b).foldl G.add (G.start (k b)),
          G.groupKey g ≠ k b := by
        intro g hg
        obtain ⟨b', hb', rfl⟩ := List.mem_map.mp hg
        rw [G.groupKey_foldl, G.groupKey_start]
        exact hnew (k b') (List.mem_map_of_mem hb') (k b) (List.mem_singleton_self _)
      rw [collect] at hgroups ⊢
      rw [List.flatMap_append, List.foldl_append, hgroups, List.flatMap_singleton, hes,
        G.foldl_insert_block hothers (fun e' he' => hkey b hb e' (hes ▸ he')), List.map_append,
        List.map_singleton, hes]

end Grouping

end Xrtc.Lib
