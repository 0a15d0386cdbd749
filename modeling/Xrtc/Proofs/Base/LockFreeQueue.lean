import Xrtc.Base.LockFreeQueue
import Xrtc.Lib.Run

/-!
# `Xrtc.Proofs.Base.LockFreeQueue`: one producer and one consumer

The nodes of the queue are a chain from `first` to `last` (`Chained`). Those in front of
`divider` are garbage, which only the producer deletes, and those behind it hold the values
produced and not consumed. The two threads meet at `divider`: the producer reads it once
for each node and may see it late, but it only ever moves on (`Shape`).

`ProducerOk` and `ConsumerOk` say what the local variables of a thread still mean at each
of its steps. They are kept by the steps of both threads (`stepProducer_inv`,
`stepConsumer_inv`), so an access never fails and the queue is correct in every state of
every run (`run_correct`).

`_size` is an `int`. It holds the number of values in the queue as long as that is below
`2 ^ 31` (`produced_size_ne`).
-/

set_option autoImplicit false

namespace Xrtc.Proofs.Base

open Xrtc.Lib
open Xrtc.Base
open Xrtc.Base.LockFreeQueue

variable {T : Type}

/-! ### Chains of nodes -/

/-- The pointer to the first of some nodes, or to what is behind them. -/
def headPtr (end_ : NodePtr) : List (Nat × T) → NodePtr
  | [] => end_
  | (a, _) :: _ => some a

/-- The nodes at these addresses hold these values, and each points to the one behind it. -/
def Chained (heap : Nat → Option (Node T)) (end_ : NodePtr) : List (Nat × T) → Prop
  | [] => True
  | (a, v) :: nodes => heap a = some ⟨v, headPtr end_ nodes⟩ ∧ Chained heap end_ nodes

/-- The addresses of some nodes. -/
def addresses (nodes : List (Nat × T)) : List Nat := nodes.map Prod.fst

/-- The address of the node in front comes first. -/
@[simp] theorem addresses_cons (a : Nat) (v : T) (nodes : List (Nat × T)) :
    addresses ((a, v) :: nodes) = a :: addresses nodes := rfl

/-- The addresses of two runs of nodes, one behind the other. -/
@[simp] theorem addresses_append (xs ys : List (Nat × T)) :
    addresses (xs ++ ys) = addresses xs ++ addresses ys := List.map_append

/-- The pointer to two runs of nodes is the one to the first of them, which ends at the second. -/
theorem headPtr_append (end_ : NodePtr) (xs ys : List (Nat × T)) :
    headPtr end_ (xs ++ ys) = headPtr (headPtr end_ ys) xs := by
  cases xs <;> rfl

/-- Two runs are linked as one, if the first is linked to the head of the second. -/
theorem chained_append {heap : Nat → Option (Node T)} {end_ : NodePtr} {xs ys : List (Nat × T)} :
    Chained heap end_ (xs ++ ys) ↔ Chained heap (headPtr end_ ys) xs ∧ Chained heap end_ ys := by
  induction xs with
  | nil => simp [Chained]
  | cons x xs ih =>
      obtain ⟨a, v⟩ := x
      rw [List.cons_append, Chained, Chained, ih, headPtr_append, and_assoc]

/-- A node of a chain is there. -/
theorem Chained.heap_ne_none {heap : Nat → Option (Node T)} {end_ : NodePtr}
    {nodes : List (Nat × T)} (h : Chained heap end_ nodes) {a : Nat} (ha : a ∈ addresses nodes) :
    heap a ≠ none := by
  induction nodes with
  | nil => exact absurd ha List.not_mem_nil
  | cons x nodes ih =>
      obtain ⟨b, v⟩ := x
      rcases List.mem_cons.mp ha with rfl | ha
      · rw [h.1]
        exact Option.some_ne_none _
      · exact ih h.2 ha

/-- A write to another node keeps a chain. -/
theorem Chained.update {heap : Nat → Option (Node T)} {end_ : NodePtr} {nodes : List (Nat × T)}
    (h : Chained heap end_ nodes) {a : Nat} (ha : a ∉ addresses nodes) (node : Option (Node T)) :
    Chained (Function.update heap a node) end_ nodes := by
  induction nodes with
  | nil => trivial
  | cons x nodes ih =>
      obtain ⟨b, v⟩ := x
      rw [addresses_cons, List.mem_cons, not_or] at ha
      refine ⟨?_, ih h.2 ha.2⟩
      rw [Function.update_of_ne (Ne.symm ha.1), h.1]

/-- The last node of a chain is made to point to another one. -/
theorem Chained.link {heap : Nat → Option (Node T)} {end_ : NodePtr} {front : List (Nat × T)}
    {l : Nat} {w : T} (h : Chained heap end_ (front ++ [(l, w)]))
    (hnodup : (addresses (front ++ [(l, w)])).Nodup) (p : NodePtr) :
    Chained (Function.update heap l (some ⟨w, p⟩)) p (front ++ [(l, w)]) := by
  rw [chained_append] at h ⊢
  refine ⟨h.1.update ?_ _, Function.update_self _ _ _, trivial⟩
  intro hmem
  rw [addresses_append] at hnodup
  exact (List.nodup_append.mp hnodup).2.2 l hmem l List.mem_cons_self rfl

/-- The node behind a chain becomes a part of it. -/
theorem Chained.extend {heap : Nat → Option (Node T)} {nodes : List (Nat × T)} {b : Nat} {t : T}
    (h : Chained heap (some b) nodes) (hb : heap b = some ⟨t, none⟩) :
    Chained heap none (nodes ++ [(b, t)]) :=
  chained_append.mpr ⟨h, hb, trivial⟩

/-! ### The invariant -/

/-- The shape of the queue: the garbage, the node at `divider`, the nodes with the values
that are not consumed, and what the last of them points to. -/
structure Shape (q : LockFreeQueue T) (garbage : List (Nat × T)) (divider : Nat × T)
    (pending : List (Nat × T)) (end_ : NodePtr) : Prop where
  chained : Chained q.heap end_ (garbage ++ divider :: pending)
  nodup : (addresses (garbage ++ divider :: pending)).Nodup
  atFirst : q.first = headPtr none (garbage ++ divider :: pending)
  atDivider : q.divider = some divider.1
  atLast : q.last = (divider :: pending).getLast?.map Prod.fst
  values : q.consumed ++ pending.map Prod.snd = q.produced

/-- A node that is not in the queue yet. -/
def Fresh (heap : Nat → Option (Node T)) (nodes : List (Nat × T)) (node : Nat) (t : T) : Prop :=
  heap node = some ⟨t, none⟩ ∧ node ∉ addresses nodes

/-- What the local variables of the producer are. -/
def ProducerOk (q : LockFreeQueue T) (garbage : List (Nat × T)) (divider : Nat × T)
    (pending : List (Nat × T)) (end_ : NodePtr) : Prop :=
  let nodes := garbage ++ divider :: pending
  match q.producer with
  | .idle | .allocate _ | .increment | .testDivider => end_ = none
  | .linkLast t node => end_ = none ∧ Fresh q.heap nodes node t
  | .linkNext t node last => end_ = none ∧ Fresh q.heap nodes node t ∧ last = q.last
  | .publishLast t => ∃ node, end_ = some node ∧ Fresh q.heap nodes node t
  | .publishNext t last => ∃ node, end_ = some node ∧ Fresh q.heap nodes node t ∧ last = q.last
  | .publish t next => ∃ node, end_ = some node ∧ Fresh q.heap nodes node t ∧ next = some node
  | .testFirst p => end_ = none ∧ ∃ a ∈ addresses (garbage ++ [divider]), p = some a
  | .readTemp => end_ = none ∧ garbage ≠ []
  | .advanceFirst temp => end_ = none ∧ garbage ≠ [] ∧ temp = q.first
  | .advanceNext temp first => end_ = none ∧ garbage ≠ [] ∧ temp = q.first ∧ first = q.first
  | .advance temp next => end_ = none ∧ ∃ x rest, garbage = x :: rest ∧ temp = some x.1 ∧
      next = headPtr none (rest ++ divider :: pending)
  | .delete temp => end_ = none ∧ ∃ a node, temp = some a ∧ q.heap a = some node ∧
      a ∉ addresses nodes

/-- What the local variables of the consumer are. -/
def ConsumerOk (q : LockFreeQueue T) (divider : Nat × T) (pending : List (Nat × T)) : Prop :=
  match q.consumer with
  | .idle | .testDivider | .decrement => True
  | .testLast p => p = some divider.1
  | .resultDivider => pending ≠ []
  | .resultNext p => pending ≠ [] ∧ p = some divider.1
  | .resultValue p => ∃ x rest, pending = x :: rest ∧ p = some x.1
  | .advanceDivider result => ∃ a rest, pending = (a, result) :: rest
  | .advanceNext result p => ∃ a rest, pending = (a, result) :: rest ∧ p = some divider.1
  | .advance result p => ∃ a rest, pending = (a, result) :: rest ∧ p = some a

/-- The values that are published and not counted yet. -/
def uncountedProduced : Producer T → Int
  | .increment => 1
  | _ => 0

/-- The values that are consumed and still counted. -/
def uncountedConsumed : Consumer T → Int
  | .decrement => 1
  | _ => 0

/-- What holds in every state. -/
structure Inv (q : LockFreeQueue T) : Prop where
  shape : ∃ garbage divider pending end_, Shape q garbage divider pending end_ ∧
    ProducerOk q garbage divider pending end_ ∧ ConsumerOk q divider pending
  size : q.size = toInt32 (q.produced.length - q.consumed.length
    - uncountedProduced q.producer + uncountedConsumed q.consumer)
  emptyReads : ∀ r ∈ q.emptyReads, r.1 = r.2

/-! ### What the steps do with the queue -/

section

variable {q : LockFreeQueue T} {garbage pending : List (Nat × T)} {divider : Nat × T}
  {end_ : NodePtr}

/-- The last node of the queue. -/
theorem Shape.exists_last (h : Shape q garbage divider pending end_) :
    ∃ front l w, garbage ++ divider :: pending = front ++ [(l, w)] ∧ q.last = some l := by
  have hne : divider :: pending ≠ [] := List.cons_ne_nil _ _
  have hlast := List.getLast?_eq_some_getLast hne
  have hsplit := List.dropLast_concat_getLast hne
  generalize (divider :: pending).getLast hne = x at hlast hsplit
  obtain ⟨l, w⟩ := x
  refine ⟨garbage ++ (divider :: pending).dropLast, l, w, ?_, ?_⟩
  · rw [List.append_assoc, hsplit]
  · rw [h.atLast, hlast]
    rfl

/-- A new node is at an address outside of the queue. -/
theorem Shape.allocate (h : Shape q garbage divider pending end_) {address : Nat}
    (hfree : q.heap address = none) (t : T) (producer : Producer T) :
    let heap := Function.update q.heap address (some ⟨t, none⟩)
    Shape { q with heap, producer } garbage divider pending end_ ∧
      Fresh heap (garbage ++ divider :: pending) address t := by
  have hnew : address ∉ addresses (garbage ++ divider :: pending) :=
    fun hmem => h.chained.heap_ne_none hmem hfree
  exact ⟨⟨h.chained.update hnew _, h.nodup, h.atFirst, h.atDivider, h.atLast, h.values⟩,
    Function.update_self _ _ _, hnew⟩

/-- The last node gets a new one behind it, which is not published. -/
theorem Shape.link (h : Shape q garbage divider pending none) {node : Nat} {t : T}
    (hfresh : Fresh q.heap (garbage ++ divider :: pending) node t) (producer : Producer T) :
    ∃ l old, q.last = some l ∧ q.heap l = some old ∧
      let heap := Function.update q.heap l (some { old with next := some node })
      Shape { q with heap, producer } garbage divider pending (some node) ∧
        Fresh heap (garbage ++ divider :: pending) node t := by
  obtain ⟨front, l, w, hnodes, hlast⟩ := h.exists_last
  have hchained := h.chained
  have hnodup := h.nodup
  rw [hnodes] at hchained hnodup
  have hold : q.heap l = some ⟨w, none⟩ := (chained_append.mp hchained).2.1
  refine ⟨l, ⟨w, none⟩, hlast, hold,
    ⟨?_, h.nodup, h.atFirst, h.atDivider, h.atLast, h.values⟩, ?_, hfresh.2⟩
  · rw [hnodes]
    exact hchained.link hnodup (some node)
  · have hne : node ≠ l := by
      rintro rfl
      refine hfresh.2 ?_
      rw [hnodes, addresses_append]
      exact List.mem_append_right _ List.mem_cons_self
    rw [Function.update_of_ne hne, hfresh.1]

/-- The new node is published. -/
theorem Shape.publish {node : Nat} (h : Shape q garbage divider pending (some node)) {t : T}
    (hfresh : Fresh q.heap (garbage ++ divider :: pending) node t) (producer : Producer T) :
    Shape { q with last := some node, producer, produced := q.produced ++ [t] } garbage divider
      (pending ++ [(node, t)]) none := by
  have hnodes : garbage ++ divider :: (pending ++ [(node, t)])
      = (garbage ++ divider :: pending) ++ [(node, t)] := by
    rw [List.append_assoc, List.cons_append]
  refine ⟨?_, ?_, ?_, h.atDivider, ?_, ?_⟩
  · rw [hnodes]
    exact h.chained.extend hfresh.1
  · rw [hnodes, addresses_append, List.nodup_append]
    refine ⟨h.nodup, List.pairwise_singleton _ node, ?_⟩
    rintro a ha b hb rfl
    rw [List.mem_singleton.mp hb] at ha
    exact hfresh.2 ha
  · show q.first = _
    rw [hnodes, headPtr_append, h.atFirst]
    cases garbage <;> rfl
  · rw [← List.cons_append, List.getLast?_concat]
    rfl
  · show q.consumed ++ (pending ++ [(node, t)]).map Prod.snd = q.produced ++ [t]
    rw [List.map_append, ← List.append_assoc, h.values]
    rfl

/-- The first node is taken out of the queue. -/
theorem Shape.advanceFirst {x : Nat × T} {rest : List (Nat × T)}
    (h : Shape q (x :: rest) divider pending none) (producer : Producer T) :
    Shape { q with first := headPtr none (rest ++ divider :: pending), producer } rest divider
        pending none ∧
      (∃ node, q.heap x.1 = some node) ∧ x.1 ∉ addresses (rest ++ divider :: pending) := by
  obtain ⟨a, v⟩ := x
  have hnodup := h.nodup
  rw [List.cons_append, addresses_cons, List.nodup_cons] at hnodup
  exact ⟨⟨h.chained.2, hnodup.2, rfl, h.atDivider, h.atLast, h.values⟩, ⟨_, h.chained.1⟩,
    hnodup.1⟩

/-- A node outside of the queue is deleted. -/
theorem Shape.delete (h : Shape q garbage divider pending end_) {a : Nat}
    (ha : a ∉ addresses (garbage ++ divider :: pending)) (producer : Producer T) :
    Shape { q with heap := Function.update q.heap a none, producer } garbage divider pending end_ :=
  ⟨h.chained.update ha _, h.nodup, h.atFirst, h.atDivider, h.atLast, h.values⟩

/-- The node at `divider` becomes garbage. -/
theorem Shape.advanceDivider {a : Nat} {v : T} {rest : List (Nat × T)}
    (h : Shape q garbage divider ((a, v) :: rest) end_) (consumer : Consumer T) :
    Shape { q with divider := some a, consumer, consumed := q.consumed ++ [v] }
      (garbage ++ [divider]) (a, v) rest end_ := by
  have hnodes : (garbage ++ [divider]) ++ (a, v) :: rest = garbage ++ divider :: (a, v) :: rest := by
    rw [List.append_assoc, List.singleton_append]
  refine ⟨?_, ?_, ?_, rfl, ?_, ?_⟩
  · rw [hnodes]
    exact h.chained
  · rw [hnodes]
    exact h.nodup
  · rw [hnodes]
    exact h.atFirst
  · show q.last = _
    rw [h.atLast, List.getLast?_cons_cons]
  · show q.consumed ++ [v] ++ rest.map Prod.snd = q.produced
    rw [← h.values, List.append_assoc]
    rfl

/-- The last node points to what is behind the queue. -/
theorem Shape.node_last (h : Shape q garbage divider pending end_) :
    ∃ w, q.node q.last = some ⟨w, end_⟩ := by
  obtain ⟨front, l, w, hnodes, hlast⟩ := h.exists_last
  have hchained := h.chained
  rw [hnodes] at hchained
  refine ⟨w, ?_⟩
  rw [hlast]
  exact (chained_append.mp hchained).2.1

/-- The first node is there as long as there is garbage, and points to the second one. -/
theorem Shape.node_first {x : Nat × T} {rest : List (Nat × T)}
    (h : Shape q (x :: rest) divider pending end_) :
    q.first = some x.1 ∧
      q.node q.first = some ⟨x.2, headPtr end_ (rest ++ divider :: pending)⟩ := by
  have hfirst : q.first = some x.1 := h.atFirst
  refine ⟨hfirst, ?_⟩
  rw [hfirst]
  exact h.chained.1

/-- The node at `divider` is there, and points to the one behind it. -/
theorem Shape.node_divider (h : Shape q garbage divider pending end_) :
    q.node (some divider.1) = some ⟨divider.2, headPtr end_ pending⟩ :=
  (chained_append.mp h.chained).2.1

/-- The node behind `divider` is there, with the next value. -/
theorem Shape.node_pending {x : Nat × T} {rest : List (Nat × T)}
    (h : Shape q garbage divider (x :: rest) end_) :
    q.node (some x.1) = some ⟨x.2, headPtr end_ rest⟩ :=
  (chained_append.mp h.chained).2.2.1

/-- What `divider` and `first` are as long as there is garbage. -/
theorem Shape.garbage_ne_nil (h : Shape q garbage divider pending end_) {a : Nat}
    (ha : a ∈ addresses (garbage ++ [divider])) (hne : some a ≠ q.first) : garbage ≠ [] := by
  rintro rfl
  rw [List.mem_singleton.mp ha, h.atFirst] at hne
  exact hne rfl

/-- The queue is empty when `divider` is `last`. -/
theorem Shape.pending_eq_nil_iff (h : Shape q garbage divider pending end_) :
    q.divider = q.last ↔ pending = [] := by
  rw [h.atDivider, h.atLast]
  constructor
  · intro heq
    by_contra hne
    obtain ⟨x, hx⟩ : ∃ x, pending.getLast? = some x := ⟨_, List.getLast?_eq_some_getLast hne⟩
    rw [List.getLast?_cons_of_ne_nil hne, hx, Option.map_some, Option.some.injEq] at heq
    have hnodup := h.nodup
    rw [addresses_append] at hnodup
    have hdivider := (List.nodup_cons.mp (List.nodup_append.mp hnodup).2.1).1
    exact hdivider (List.mem_map.mpr ⟨x, List.mem_of_getLast? hx, heq.symm⟩)
  · rintro rfl
    rfl

end

/-! ### Steps -/

/-- A value that is published while the consumer is in a call is one more behind those it
looks at. -/
theorem ConsumerOk.append {q q' : LockFreeQueue T} {divider : Nat × T}
    {pending : List (Nat × T)} (h : ConsumerOk q divider pending)
    (hconsumer : q'.consumer = q.consumer) (x : Nat × T) :
    ConsumerOk q' divider (pending ++ [x]) := by
  unfold ConsumerOk at h ⊢
  rw [hconsumer]
  -- the consumer only knows the front of the pending nodes, and the new one is at their end
  cases hc : q.consumer with
  | idle => trivial
  | testDivider => trivial
  | decrement => trivial
  | testLast p =>
      rw [hc] at h
      exact h
  | resultDivider => simp
  | resultNext p =>
      rw [hc] at h
      exact ⟨by simp, h.2⟩
  | resultValue p =>
      rw [hc] at h
      obtain ⟨y, rest, rfl, hp⟩ := h
      exact ⟨y, rest ++ [x], rfl, hp⟩
  | advanceDivider result =>
      rw [hc] at h
      obtain ⟨a, rest, rfl⟩ := h
      exact ⟨a, rest ++ [x], rfl⟩
  | advanceNext result p =>
      rw [hc] at h
      obtain ⟨a, rest, rfl, hp⟩ := h
      exact ⟨a, rest ++ [x], rfl, hp⟩
  | advance result p =>
      rw [hc] at h
      obtain ⟨a, rest, rfl, hp⟩ := h
      exact ⟨a, rest ++ [x], rfl, hp⟩

/-- The producer looks at the same nodes when `divider` moves on. The one that becomes garbage is
kept until the producer has passed it, so no pointer it holds goes stale. -/
theorem ProducerOk.advanceDivider {q q' : LockFreeQueue T} {garbage rest : List (Nat × T)}
    {divider x : Nat × T} {end_ : NodePtr}
    (h : ProducerOk q garbage divider (x :: rest) end_) (hproducer : q'.producer = q.producer)
    (hheap : q'.heap = q.heap) (hfirst : q'.first = q.first) (hlast : q'.last = q.last) :
    ProducerOk q' (garbage ++ [divider]) x rest end_ := by
  have hnodes : (garbage ++ [divider]) ++ x :: rest = garbage ++ divider :: x :: rest := by
    rw [List.append_assoc, List.singleton_append]
  unfold ProducerOk at h ⊢
  rw [hproducer, hheap, hfirst, hlast, hnodes]
  dsimp only at h ⊢
  -- the divider only joins the garbage, so the node the producer is at stays where it is
  cases hp : q.producer with
  | testFirst p =>
      rw [hp] at h
      obtain ⟨hend, a, ha, hpa⟩ := h
      refine ⟨hend, a, ?_, hpa⟩
      rw [addresses_append]
      exact List.mem_append_left _ ha
  | readTemp =>
      rw [hp] at h
      exact ⟨h.1, by simp⟩
  | advanceFirst temp =>
      rw [hp] at h
      exact ⟨h.1, by simp, h.2.2⟩
  | advanceNext temp first =>
      rw [hp] at h
      exact ⟨h.1, by simp, h.2.2⟩
  | advance temp next =>
      rw [hp] at h
      obtain ⟨hend, y, garbage, rfl, htemp, hnext⟩ := h
      refine ⟨hend, y, garbage ++ [divider], rfl, htemp, ?_⟩
      rw [List.append_assoc, List.singleton_append]
      exact hnext
  | _ =>
      rw [hp] at h
      exact h

/-- A step of the producer that changes its local variables only. -/
theorem Inv.setProducer {q : LockFreeQueue T} (h : Inv q) {producer : Producer T}
    (hok : ∀ garbage divider pending end_, Shape q garbage divider pending end_ →
      ProducerOk q garbage divider pending end_ →
        ProducerOk { q with producer } garbage divider pending end_)
    (hcount : uncountedProduced producer = uncountedProduced q.producer) :
    Inv { q with producer } := by
  obtain ⟨⟨garbage, divider, pending, end_, hshape, hproducer, hconsumer⟩, hsize, hempty⟩ := h
  refine ⟨⟨garbage, divider, pending, end_, ⟨hshape.chained, hshape.nodup, hshape.atFirst,
    hshape.atDivider, hshape.atLast, hshape.values⟩,
    hok garbage divider pending end_ hshape hproducer, hconsumer⟩, ?_, hempty⟩
  show q.size = toInt32 (_ - uncountedProduced producer + _)
  rw [hcount]
  exact hsize

/-- A node from the allocator is at an address that no node of the list has, so the links stay. -/
theorem allocate_inv {q : LockFreeQueue T} (h : Inv q) {t : T} (hp : q.producer = .allocate t)
    {address : Nat} (hfree : q.heap address = none) :
    Inv { q with
      heap := Function.update q.heap address (some ⟨t, none⟩)
      producer := .linkLast t address } := by
  obtain ⟨⟨garbage, divider, pending, end_, hshape, hok, hconsumer⟩, hsize, hempty⟩ := h
  rw [hp] at hsize
  simp only [ProducerOk, hp] at hok
  obtain ⟨hnew, hfresh⟩ := hshape.allocate hfree t (.linkLast t address)
  exact ⟨⟨garbage, divider, pending, end_, hnew, ⟨hok, hfresh⟩, hconsumer⟩, hsize, hempty⟩

/-- The last node is there, and gets the new one behind it. -/
theorem linkNext_inv {q : LockFreeQueue T} (h : Inv q) {t : T} {node : Nat} {last : NodePtr}
    (hp : q.producer = .linkNext t node last) :
    ∃ l old, last = some l ∧ q.heap l = some old ∧
      Inv { q with
        heap := Function.update q.heap l (some { old with next := some node })
        producer := .publishLast t } := by
  obtain ⟨⟨garbage, divider, pending, end_, hshape, hok, hconsumer⟩, hsize, hempty⟩ := h
  rw [hp] at hsize
  simp only [ProducerOk, hp] at hok
  obtain ⟨rfl, hfresh, hlast⟩ := hok
  obtain ⟨l, old, hl, hold, hnew, hfresh⟩ := hshape.link hfresh (.publishLast t)
  exact ⟨l, old, hlast.trans hl, hold,
    ⟨garbage, divider, pending, some node, hnew, ⟨node, rfl, hfresh⟩, hconsumer⟩, hsize, hempty⟩

/-- With `last` moved on, the new node belongs to the values that were produced. -/
theorem publish_inv {q : LockFreeQueue T} (h : Inv q) {t : T} {next : NodePtr}
    (hp : q.producer = .publish t next) :
    Inv { q with last := next, producer := .increment, produced := q.produced ++ [t] } := by
  obtain ⟨⟨garbage, divider, pending, end_, hshape, hok, hconsumer⟩, hsize, hempty⟩ := h
  rw [hp] at hsize
  simp only [ProducerOk, hp] at hok
  obtain ⟨node, rfl, hfresh, rfl⟩ := hok
  refine ⟨⟨garbage, divider, pending ++ [(node, t)], none, hshape.publish hfresh .increment, rfl,
    hconsumer.append rfl _⟩, ?_, hempty⟩
  -- one value more is published, and it is not counted yet
  show q.size = toInt32 ((q.produced ++ [t]).length - q.consumed.length - 1
    + uncountedConsumed q.consumer)
  rw [hsize, List.length_append, List.length_singleton]
  congr 1
  simp only [uncountedProduced]
  omega

/-- The increment brings the size back in step with the values produced. -/
theorem increment_inv {q : LockFreeQueue T} (h : Inv q) (hp : q.producer = .increment) :
    Inv { q with size := toInt32 (q.size + 1), producer := .testDivider } := by
  obtain ⟨⟨garbage, divider, pending, end_, hshape, hok, hconsumer⟩, hsize, hempty⟩ := h
  rw [hp] at hsize
  simp only [ProducerOk, hp] at hok
  refine ⟨⟨garbage, divider, pending, end_, ⟨hshape.chained, hshape.nodup, hshape.atFirst,
    hshape.atDivider, hshape.atLast, hshape.values⟩, hok, hconsumer⟩, ?_, hempty⟩
  show toInt32 (q.size + 1) = toInt32 (q.produced.length - q.consumed.length - 0
    + uncountedConsumed q.consumer)
  rw [hsize, toInt32_add]
  congr 1
  simp only [uncountedProduced]
  omega

/-- The node that `first` leaves is behind the divider: nobody else reads it any more. -/
theorem advanceFirst_inv {q : LockFreeQueue T} (h : Inv q) {temp next : NodePtr}
    (hp : q.producer = .advance temp next) :
    Inv { q with first := next, producer := .delete temp } := by
  obtain ⟨⟨garbage, divider, pending, end_, hshape, hok, hconsumer⟩, hsize, hempty⟩ := h
  rw [hp] at hsize
  simp only [ProducerOk, hp] at hok
  obtain ⟨rfl, x, rest, rfl, rfl, rfl⟩ := hok
  obtain ⟨hnew, ⟨node, hnode⟩, hout⟩ := hshape.advanceFirst (.delete (some x.1))
  exact ⟨⟨rest, divider, pending, none, hnew, ⟨rfl, x.1, node, rfl, hnode, hout⟩, hconsumer⟩, hsize,
    hempty⟩

/-- The node to delete is there, and outside of the queue. -/
theorem delete_inv {q : LockFreeQueue T} (h : Inv q) {temp : NodePtr}
    (hp : q.producer = .delete temp) :
    ∃ a node, temp = some a ∧ q.heap a = some node ∧
      Inv { q with heap := Function.update q.heap a none, producer := .testDivider } := by
  obtain ⟨⟨garbage, divider, pending, end_, hshape, hok, hconsumer⟩, hsize, hempty⟩ := h
  rw [hp] at hsize
  simp only [ProducerOk, hp] at hok
  obtain ⟨rfl, a, node, htemp, hnode, hout⟩ := hok
  exact ⟨a, node, htemp, hnode,
    ⟨garbage, divider, pending, none, hshape.delete hout .testDivider, rfl, hconsumer⟩, hsize,
    hempty⟩

/-- The last node is there, and points to the new one while that is not published. -/
theorem publishNext_inv {q : LockFreeQueue T} (h : Inv q) {t : T} {last : NodePtr}
    (hp : q.producer = .publishNext t last) :
    ∃ node, q.node last = some node ∧ Inv { q with producer := .publish t node.next } := by
  obtain ⟨garbage, divider, pending, end_, hshape, hok, -⟩ := h.shape
  simp only [ProducerOk, hp] at hok
  obtain ⟨new, hend, -, hlast⟩ := hok
  obtain ⟨w, hnode⟩ := hshape.node_last
  refine ⟨⟨w, end_⟩, by rw [hlast, hnode], h.setProducer ?_ (by rw [hp]; rfl)⟩
  intro garbage' divider' pending' end' hshape' hok'
  simp only [ProducerOk, hp] at hok'
  obtain ⟨new', hend', hfresh', -⟩ := hok'
  obtain ⟨w', hnode'⟩ := hshape'.node_last
  rw [hnode, Option.some.injEq, Node.mk.injEq] at hnode'
  exact ⟨new', hend', hfresh', hnode'.2.trans hend'⟩

/-- The first node is there, as long as there is garbage. -/
theorem advanceNext_inv {q : LockFreeQueue T} (h : Inv q) {temp first : NodePtr}
    (hp : q.producer = .advanceNext temp first) :
    ∃ node, q.node first = some node ∧ Inv { q with producer := .advance temp node.next } := by
  obtain ⟨garbage, divider, pending, end_, hshape, hok, -⟩ := h.shape
  simp only [ProducerOk, hp] at hok
  obtain ⟨rfl, hne, htemp, hfirst⟩ := hok
  obtain ⟨x, rest, rfl⟩ := List.exists_cons_of_ne_nil hne
  obtain ⟨hx, hnode⟩ := hshape.node_first
  refine ⟨_, by rw [hfirst, hnode], h.setProducer ?_ (by rw [hp]; rfl)⟩
  intro garbage' divider' pending' end' hshape' hok'
  simp only [ProducerOk, hp] at hok'
  obtain ⟨rfl, hne', -, -⟩ := hok'
  obtain ⟨y, rest', rfl⟩ := List.exists_cons_of_ne_nil hne'
  obtain ⟨hy, hnode'⟩ := hshape'.node_first
  rw [hnode, Option.some.injEq, Node.mk.injEq] at hnode'
  exact ⟨rfl, y, rest', rfl, htemp.trans hy, hnode'.2⟩

/-- A step of the producer has a result, and keeps the invariant. The cases are the places the
producer can be at, one step of memory each. -/
theorem stepProducer_inv {q : LockFreeQueue T} (h : Inv q) (address : Nat) :
    ∃ q', q.stepProducer address = some q' ∧ Inv q' := by
  unfold stepProducer
  cases hp : q.producer with
  | idle => exact ⟨q, rfl, h⟩
  | allocate t =>
      dsimp only
      cases hfree : q.heap address with
      | some node => exact ⟨q, rfl, h⟩
      | none => exact ⟨_, rfl, allocate_inv h hp hfree⟩
  | linkLast t node =>
      refine ⟨_, rfl, h.setProducer (fun garbage divider pending end_ _ hok => ?_) (by rw [hp]; rfl)⟩
      simp only [ProducerOk, hp] at hok
      exact ⟨hok.1, hok.2, rfl⟩
  | linkNext t node last =>
      obtain ⟨l, old, rfl, hold, hnew⟩ := linkNext_inv h hp
      dsimp only [Option.bind_eq_bind, Option.bind_some]
      rw [hold]
      exact ⟨_, rfl, hnew⟩
  | publishLast t =>
      refine ⟨_, rfl, h.setProducer (fun garbage divider pending end_ _ hok => ?_) (by rw [hp]; rfl)⟩
      simp only [ProducerOk, hp] at hok
      obtain ⟨node, hend, hfresh⟩ := hok
      exact ⟨node, hend, hfresh, rfl⟩
  | publishNext t last =>
      obtain ⟨node, hnode, hnew⟩ := publishNext_inv h hp
      dsimp only
      rw [hnode]
      exact ⟨_, rfl, hnew⟩
  | publish t next => exact ⟨_, rfl, publish_inv h hp⟩
  | increment => exact ⟨_, rfl, increment_inv h hp⟩
  | testDivider =>
      refine ⟨_, rfl, h.setProducer (fun garbage divider pending end_ hshape hok => ?_)
        (by rw [hp]; rfl)⟩
      simp only [ProducerOk, hp] at hok
      refine ⟨hok, divider.1, ?_, hshape.atDivider⟩
      rw [addresses_append]
      exact List.mem_append_right _ List.mem_cons_self
  | testFirst p =>
      -- garbage is left if the value of `divider` that was read is not `first`
      by_cases hne : p ≠ q.first
      · refine ⟨_, rfl, h.setProducer (fun garbage divider pending end_ hshape hok => ?_) ?_⟩
        · simp only [ProducerOk, hp] at hok
          obtain ⟨hend, a, ha, rfl⟩ := hok
          rw [if_pos hne]
          exact ⟨hend, hshape.garbage_ne_nil ha hne⟩
        · rw [if_pos hne, hp]
          rfl
      · refine ⟨_, rfl, h.setProducer (fun garbage divider pending end_ hshape hok => ?_) ?_⟩
        · simp only [ProducerOk, hp] at hok
          rw [if_neg hne]
          exact hok.1
        · rw [if_neg hne, hp]
          rfl
  | readTemp =>
      refine ⟨_, rfl, h.setProducer (fun garbage divider pending end_ _ hok => ?_) (by rw [hp]; rfl)⟩
      simp only [ProducerOk, hp] at hok
      exact ⟨hok.1, hok.2, rfl⟩
  | advanceFirst temp =>
      refine ⟨_, rfl, h.setProducer (fun garbage divider pending end_ _ hok => ?_) (by rw [hp]; rfl)⟩
      simp only [ProducerOk, hp] at hok
      exact ⟨hok.1, hok.2.1, hok.2.2, rfl⟩
  | advanceNext temp first =>
      obtain ⟨node, hnode, hnew⟩ := advanceNext_inv h hp
      dsimp only
      rw [hnode]
      exact ⟨_, rfl, hnew⟩
  | advance temp next => exact ⟨_, rfl, advanceFirst_inv h hp⟩
  | delete temp =>
      obtain ⟨a, node, rfl, hnode, hnew⟩ := delete_inv h hp
      dsimp only
      rw [hnode]
      exact ⟨_, rfl, hnew⟩

/-! ### Steps of the consumer -/

/-- A step of the consumer that changes its local variables only. -/
theorem Inv.setConsumer {q : LockFreeQueue T} (h : Inv q) {consumer : Consumer T}
    (hok : ∀ garbage divider pending end_, Shape q garbage divider pending end_ →
      ConsumerOk q divider pending → ConsumerOk { q with consumer } divider pending)
    (hcount : uncountedConsumed consumer = uncountedConsumed q.consumer) :
    Inv { q with consumer } := by
  obtain ⟨⟨garbage, divider, pending, end_, hshape, hproducer, hconsumer⟩, hsize, hempty⟩ := h
  refine ⟨⟨garbage, divider, pending, end_, ⟨hshape.chained, hshape.nodup, hshape.atFirst,
    hshape.atDivider, hshape.atLast, hshape.values⟩, hproducer,
    hok garbage divider pending end_ hshape hconsumer⟩, ?_, hempty⟩
  show q.size = toInt32 (_ + uncountedConsumed consumer)
  rw [hcount]
  exact hsize

/-- The queue is found empty: all values that are published are consumed. -/
theorem testLast_inv {q : LockFreeQueue T} (h : Inv q) (hc : q.consumer = .testLast q.last) :
    Inv { q with consumer := .idle, emptyReads := q.emptyReads ++ [(q.produced, q.consumed)] } := by
  obtain ⟨⟨garbage, divider, pending, end_, hshape, hproducer, hok⟩, hsize, hempty⟩ := h
  rw [hc] at hsize
  simp only [ConsumerOk, hc] at hok
  have hnil := hshape.pending_eq_nil_iff.mp (hshape.atDivider.trans hok.symm)
  subst hnil
  refine ⟨⟨garbage, divider, [], end_, ⟨hshape.chained, hshape.nodup, hshape.atFirst,
    hshape.atDivider, hshape.atLast, hshape.values⟩, hproducer, trivial⟩, hsize, ?_⟩
  intro r hr
  rcases List.mem_append.mp hr with hr | hr
  · exact hempty r hr
  · rw [List.mem_singleton.mp hr]
    have hvalues := hshape.values
    rw [List.map_nil, List.append_nil] at hvalues
    exact hvalues.symm

/-- With the divider moved on, the value that was read belongs to those consumed. -/
theorem advance_inv {q : LockFreeQueue T} (h : Inv q) {result : T} {next : NodePtr}
    (hc : q.consumer = .advance result next) :
    Inv { q with divider := next, consumer := .decrement, consumed := q.consumed ++ [result] } := by
  obtain ⟨⟨garbage, divider, pending, end_, hshape, hproducer, hok⟩, hsize, hempty⟩ := h
  rw [hc] at hsize
  simp only [ConsumerOk, hc] at hok
  obtain ⟨a, rest, rfl, rfl⟩ := hok
  refine ⟨⟨garbage ++ [divider], (a, result), rest, end_, hshape.advanceDivider .decrement,
    hproducer.advanceDivider rfl rfl rfl rfl, trivial⟩, ?_, hempty⟩
  -- one value more is consumed, and it is still counted
  show q.size = toInt32 (q.produced.length - (q.consumed ++ [result]).length
    - uncountedProduced q.producer + 1)
  rw [hsize, List.length_append, List.length_singleton]
  congr 1
  simp only [uncountedConsumed]
  omega

/-- The decrement brings the size back in step with the values consumed. -/
theorem decrement_inv {q : LockFreeQueue T} (h : Inv q) (hc : q.consumer = .decrement) :
    Inv { q with size := toInt32 (q.size - 1), consumer := .idle } := by
  obtain ⟨⟨garbage, divider, pending, end_, hshape, hproducer, hok⟩, hsize, hempty⟩ := h
  rw [hc] at hsize
  refine ⟨⟨garbage, divider, pending, end_, ⟨hshape.chained, hshape.nodup, hshape.atFirst,
    hshape.atDivider, hshape.atLast, hshape.values⟩, hproducer, trivial⟩, ?_, hempty⟩
  show toInt32 (q.size - 1) = toInt32 (q.produced.length - q.consumed.length
    - uncountedProduced q.producer + 0)
  rw [hsize, sub_eq_add_neg, toInt32_add]
  congr 1
  simp only [uncountedConsumed]
  omega

/-- A step of the consumer has a result, and keeps the invariant. It reads the node behind the
divider, which the producer deletes only after the divider has left it. -/
theorem stepConsumer_inv {q : LockFreeQueue T} (h : Inv q) :
    ∃ q', q.stepConsumer = some q' ∧ Inv q' := by
  obtain ⟨garbage, divider, pending, end_, hshape, -, hok⟩ := h.shape
  unfold stepConsumer
  -- one case for each point of `consume`; reads are of nodes that the shape has
  cases hc : q.consumer with
  | idle => exact ⟨q, rfl, h⟩
  | testDivider =>
      exact ⟨_, rfl, h.setConsumer (fun _ _ _ _ hshape _ => hshape.atDivider) (by rw [hc]; rfl)⟩
  | testLast p =>
      by_cases hne : p ≠ q.last
      · dsimp only
        rw [if_pos hne]
        refine ⟨_, rfl, h.setConsumer (fun garbage divider pending end_ hshape hok => ?_)
          (by rw [hc]; rfl)⟩
        simp only [ConsumerOk, hc] at hok
        intro hnil
        rw [← hshape.pending_eq_nil_iff, hshape.atDivider, ← hok] at hnil
        exact hne hnil
      · dsimp only
        rw [if_neg hne]
        rw [not_not] at hne
        subst hne
        exact ⟨_, rfl, testLast_inv h hc⟩
  | resultDivider =>
      refine ⟨_, rfl, h.setConsumer (fun garbage divider pending end_ hshape hok => ?_)
        (by rw [hc]; rfl)⟩
      simp only [ConsumerOk, hc] at hok
      exact ⟨hok, hshape.atDivider⟩
  | resultNext p =>
      simp only [ConsumerOk, hc] at hok
      obtain ⟨hne, rfl⟩ := hok
      have hnode := hshape.node_divider
      dsimp only
      rw [hnode]
      refine ⟨_, rfl, h.setConsumer (fun garbage' divider' pending' end' hshape' hok' => ?_)
        (by rw [hc]; rfl)⟩
      simp only [ConsumerOk, hc] at hok'
      obtain ⟨hne', hp'⟩ := hok'
      -- the node behind the divider is the first pending one
      obtain ⟨y, rest', rfl⟩ := List.exists_cons_of_ne_nil hne'
      have hnode' := hshape'.node_divider
      rw [← hp', hnode, Option.some.injEq, Node.mk.injEq] at hnode'
      exact ⟨y, rest', rfl, hnode'.2⟩
  | resultValue p =>
      simp only [ConsumerOk, hc] at hok
      obtain ⟨x, rest, rfl, rfl⟩ := hok
      have hnode := hshape.node_pending
      dsimp only
      rw [hnode]
      refine ⟨_, rfl, h.setConsumer (fun garbage' divider' pending' end' hshape' hok' => ?_)
        (by rw [hc]; rfl)⟩
      simp only [ConsumerOk, hc] at hok'
      obtain ⟨y, rest', rfl, hy⟩ := hok'
      have hnode' := hshape'.node_pending
      rw [← hy, hnode, Option.some.injEq, Node.mk.injEq] at hnode'
      refine ⟨y.1, rest', ?_⟩
      rw [hnode'.1]
  | advanceDivider result =>
      refine ⟨_, rfl, h.setConsumer (fun garbage divider pending end_ hshape hok => ?_)
        (by rw [hc]; rfl)⟩
      simp only [ConsumerOk, hc] at hok
      obtain ⟨a, rest, hpending⟩ := hok
      exact ⟨a, rest, hpending, hshape.atDivider⟩
  | advanceNext result p =>
      simp only [ConsumerOk, hc] at hok
      obtain ⟨a, rest, rfl, rfl⟩ := hok
      have hnode := hshape.node_divider
      dsimp only
      rw [hnode]
      refine ⟨_, rfl, h.setConsumer (fun garbage' divider' pending' end' hshape' hok' => ?_)
        (by rw [hc]; rfl)⟩
      simp only [ConsumerOk, hc] at hok'
      obtain ⟨b, rest', rfl, hp'⟩ := hok'
      have hnode' := hshape'.node_divider
      rw [← hp', hnode, Option.some.injEq, Node.mk.injEq] at hnode'
      exact ⟨b, rest', rfl, hnode'.2⟩
  | advance result next => exact ⟨_, rfl, advance_inv h hc⟩
  | decrement => exact ⟨_, rfl, decrement_inv h hc⟩

/-! ### Runs -/

/-- The queue starts with one node that holds no value, and all pointers at it. -/
theorem inv_new [Inhabited T] (address : Nat) : Inv (LockFreeQueue.new address : LockFreeQueue T) := by
  refine ⟨⟨[], (address, default), [], none, ?_, rfl, trivial⟩, ?_, fun r hr => nomatch hr⟩
  · refine ⟨⟨?_, trivial⟩, List.pairwise_singleton _ address, rfl, rfl, rfl, rfl⟩
    show Function.update (fun _ => none) address (some (⟨default, none⟩ : Node T)) address = _
    rw [Function.update_self]
    rfl
  · show (0 : Int) = toInt32 0
    decide

/-- Every step of a thread has a result, and keeps the invariant. -/
theorem step_inv {q : LockFreeQueue T} (event : QueueEvent T) (h : Inv q) :
    ∃ q', q.step event = some q' ∧ Inv q' := by
  cases event with
  | producer address => exact stepProducer_inv h address
  | consumer => exact stepConsumer_inv h
  | produce t =>
      unfold LockFreeQueue.step
      dsimp only
      cases hp : q.producer with
      | idle =>
          refine ⟨_, rfl, h.setProducer (fun garbage divider pending end_ _ hok => ?_)
            (by rw [hp]; rfl)⟩
          simp only [ProducerOk, hp] at hok
          exact hok
      | _ => exact ⟨q, rfl, h⟩
  | consume =>
      unfold LockFreeQueue.step
      dsimp only
      cases hc : q.consumer with
      | idle =>
          exact ⟨_, rfl, h.setConsumer (fun garbage divider pending end_ _ _ => trivial)
            (by rw [hc]; rfl)⟩
      | _ => exact ⟨q, rfl, h⟩

/-- An address is that of a node at or behind a pointer. -/
inductive AtOrAfter (heap : Nat → Option (Node T)) : NodePtr → Nat → Prop
  | here (a : Nat) : AtOrAfter heap (some a) a
  | next {a b : Nat} {node : Node T} (hnode : heap a = some node)
      (h : AtOrAfter heap node.next b) : AtOrAfter heap (some a) b

/-- What is behind the first node of a chain is in the chain or behind it. -/
theorem Chained.atOrAfter {heap : Nat → Option (Node T)} {end_ : NodePtr} {b : Nat}
    {nodes : List (Nat × T)} (h : Chained heap end_ nodes)
    (hafter : AtOrAfter heap (headPtr end_ nodes) b) :
    b ∈ addresses nodes ∨ AtOrAfter heap end_ b := by
  induction nodes with
  | nil => exact Or.inr hafter
  | cons x nodes ih =>
      obtain ⟨a, v⟩ := x
      cases hafter with
      | here => exact Or.inl List.mem_cons_self
      | next hnode hrest =>
          rw [h.1, Option.some.injEq] at hnode
          subst hnode
          exact (ih h.2 hrest).imp (List.mem_cons_of_mem _) id

/-- Behind the queue there is nothing, or a new node that is not published. -/
theorem ProducerOk.end_eq {q : LockFreeQueue T} {garbage pending : List (Nat × T)}
    {divider : Nat × T} {end_ : NodePtr} (h : ProducerOk q garbage divider pending end_) :
    end_ = none ∨ ∃ node t, end_ = some node ∧ q.heap node = some ⟨t, none⟩ := by
  unfold ProducerOk at h
  dsimp only at h
  cases hp : q.producer with
  | publishLast t =>
      rw [hp] at h
      obtain ⟨node, hend, hfresh⟩ := h
      exact Or.inr ⟨node, t, hend, hfresh.1⟩
  | publishNext t last =>
      rw [hp] at h
      obtain ⟨node, hend, hfresh, -⟩ := h
      exact Or.inr ⟨node, t, hend, hfresh.1⟩
  | publish t next =>
      rw [hp] at h
      obtain ⟨node, hend, hfresh, -⟩ := h
      exact Or.inr ⟨node, t, hend, hfresh.1⟩
  | idle => rw [hp] at h; exact Or.inl h
  | allocate t => rw [hp] at h; exact Or.inl h
  | increment => rw [hp] at h; exact Or.inl h
  | testDivider => rw [hp] at h; exact Or.inl h
  | _ => rw [hp] at h; exact Or.inl h.1

/-- No node at or behind `divider` is deleted. -/
theorem Inv.heap_ne_none {q : LockFreeQueue T} (h : Inv q) {a : Nat}
    (ha : AtOrAfter q.heap q.divider a) : q.heap a ≠ none := by
  obtain ⟨garbage, divider, pending, end_, hshape, hok, -⟩ := h.shape
  have hchained := (chained_append.mp hshape.chained).2
  have hafter : AtOrAfter q.heap (headPtr end_ (divider :: pending)) a := by
    rw [hshape.atDivider] at ha
    exact ha
  rcases hchained.atOrAfter hafter with hmem | hbehind
  · exact hchained.heap_ne_none hmem
  · rcases hok.end_eq with rfl | ⟨node, t, rfl, hnode⟩
    · cases hbehind
    · -- the new node has nothing behind it
      cases hbehind with
      | here =>
          rw [hnode]
          exact Option.some_ne_none _
      | next hnode' hrest =>
          rw [hnode, Option.some.injEq] at hnode'
          subst hnode'
          cases hrest

/-- A queue for one producer and one consumer, with a size that is right as far as an
`int` can hold it. -/
structure QueueCorrect (q : LockFreeQueue T) : Prop where
  consumed : q.consumed <+: q.produced
  live : ∀ a, AtOrAfter q.heap q.divider a → q.heap a ≠ none
  emptyReads : ∀ r ∈ q.emptyReads, r.1 = r.2
  size : q.producer = .idle → q.consumer = .idle →
    q.size = toInt32 (q.produced.length - q.consumed.length)

/-- What the queue promises, read off the invariant. -/
theorem Inv.correct {q : LockFreeQueue T} (h : Inv q) : QueueCorrect q := by
  refine ⟨?_, fun a ha => h.heap_ne_none ha, h.emptyReads, fun hp hc => ?_⟩
  · obtain ⟨garbage, divider, pending, end_, hshape, -⟩ := h.shape
    exact ⟨pending.map Prod.snd, hshape.values⟩
  · rw [h.size, hp, hc]
    congr 1
    simp [uncountedProduced, uncountedConsumed]

/-- Every run of the two threads has a next state for every step, which means that no node is read
that was deleted, and the queue is correct in all of them. The steps are the single reads and
writes of shared memory, and an address may be used again once it is free. -/
theorem run_correct [Inhabited T] (address : Nat) (events : List (QueueEvent T)) :
    ∃ q, runPartial LockFreeQueue.step (LockFreeQueue.new address) events = some q ∧
      QueueCorrect q := by
  obtain ⟨q, hrun, hinv⟩ :=
    exists_runPartial (fun q event => step_inv event) (inv_new address) events
  exact ⟨q, hrun, hinv.correct⟩

/-! ### A queue that is longer than an `int` can say -/

/-- A call of `produce` from its start to its end, while `divider` is `first`. -/
def produceCall (t : T) (address : Nat) : List (QueueEvent T) :=
  .produce t :: List.replicate 9 (.producer address)

/-- A queue with `n` values after calls of `produce` only. -/
structure Produced (n : Nat) (q : LockFreeQueue T) : Prop where
  producer : q.producer = .idle
  consumer : q.consumer = .idle
  garbage : q.divider = q.first
  last : q.last = some n
  node : ∃ v, q.heap n = some ⟨v, none⟩
  free : ∀ m, n < m → q.heap m = none
  produced : q.produced.length = n
  consumed : q.consumed = []

/-- One more call of the producer, with nobody consuming: the six steps of it one after another,
each with its own next state. -/
theorem Produced.call {n : Nat} {q : LockFreeQueue T} (h : Produced n q) (t : T) :
    ∃ q', runPartial LockFreeQueue.step q (produceCall t (n + 1)) = some q' ∧
      Produced (n + 1) q' := by
  obtain ⟨hp, hc, hgarbage, hlast, ⟨v, hnode⟩, hfree, hproduced, hconsumed⟩ := h
  have hnew : q.heap (n + 1) = none := hfree (n + 1) (Nat.lt_succ_self n)
  have hne : n ≠ n + 1 := Nat.ne_of_lt (Nat.lt_succ_self n)
  -- the heap with the new node, and with the link to it
  generalize hheap₁ : Function.update q.heap (n + 1) (some ⟨t, none⟩) = heap₁
  have hold : heap₁ n = some ⟨v, none⟩ := by
    rw [← hheap₁, Function.update_of_ne hne, hnode]
  generalize hheap₂ : Function.update heap₁ n (some ⟨v, some (n + 1)⟩) = heap₂
  have hlinked : heap₂ n = some ⟨v, some (n + 1)⟩ := by
    rw [← hheap₂, Function.update_self]
  refine ⟨{ q with
    heap := heap₂
    last := some (n + 1)
    size := toInt32 (q.size + 1)
    producer := .idle
    produced := q.produced ++ [t] }, ?_, ?_⟩
  · refine (runPartial_cons (t := { q with producer := .allocate t }) ?_ _).trans ?_
    · unfold LockFreeQueue.step
      dsimp only
      rw [hp]
    refine (runPartial_cons
      (t := { q with heap := heap₁, producer := .linkLast t (n + 1) }) ?_ _).trans ?_
    · unfold LockFreeQueue.step stepProducer
      dsimp only
      rw [hnew, hheap₁]
    refine (runPartial_cons (t := { q with
      heap := heap₁, producer := .linkNext t (n + 1) (some n) }) ?_ _).trans ?_
    · unfold LockFreeQueue.step stepProducer
      dsimp only
      rw [hlast]
    refine (runPartial_cons (t := { q with heap := heap₂, producer := .publishLast t }) ?_ _).trans ?_
    · unfold LockFreeQueue.step stepProducer
      dsimp only [Option.bind_eq_bind, Option.bind_some]
      rw [hold, ← hheap₂]
      rfl
    refine (runPartial_cons
      (t := { q with heap := heap₂, producer := .publishNext t (some n) }) ?_ _).trans ?_
    · unfold LockFreeQueue.step stepProducer
      dsimp only
      rw [hlast]
    refine (runPartial_cons
      (t := { q with heap := heap₂, producer := .publish t (some (n + 1)) }) ?_ _).trans ?_
    · unfold LockFreeQueue.step stepProducer LockFreeQueue.node
      dsimp only [Option.bind_eq_bind, Option.bind_some]
      rw [hlinked]
      rfl
    refine (runPartial_cons rfl _).trans ?_
    refine (runPartial_cons rfl _).trans ?_
    refine (runPartial_cons rfl _).trans ?_
    refine (runPartial_cons (t := { q with
      heap := heap₂, last := some (n + 1), size := toInt32 (q.size + 1), producer := .idle,
      produced := q.produced ++ [t] }) ?_ _).trans rfl
    show some _ = some _
    rw [if_neg (not_not.mpr hgarbage)]
  · refine ⟨rfl, hc, hgarbage, rfl, ⟨t, ?_⟩, fun m hm => ?_, ?_, hconsumed⟩
    · show heap₂ (n + 1) = _
      rw [← hheap₂, Function.update_of_ne (Ne.symm hne), ← hheap₁, Function.update_self]
    · show heap₂ m = none
      rw [← hheap₂, Function.update_of_ne (by omega), ← hheap₁, Function.update_of_ne (by omega)]
      exact hfree m (by omega)
    · show (q.produced ++ [t]).length = n + 1
      rw [List.length_append, hproduced, List.length_singleton]

/-- There is a run that produces any number of values and consumes none. -/
theorem exists_produced [Inhabited T] (n : Nat) :
    ∃ (events : List (QueueEvent T)) (q : LockFreeQueue T),
      runPartial LockFreeQueue.step (LockFreeQueue.new 0) events = some q ∧ Produced n q := by
  induction n with
  | zero =>
      refine ⟨[], _, rfl, rfl, rfl, rfl, rfl, ⟨default, ?_⟩, fun m hm => ?_, rfl, rfl⟩
      · show Function.update (fun _ => none) 0 (some (⟨default, none⟩ : Node T)) 0 = _
        rw [Function.update_self]
      · show Function.update (fun _ => none) 0 (some (⟨default, none⟩ : Node T)) m = none
        rw [Function.update_of_ne (Nat.ne_of_gt hm)]
  | succ n ih =>
      obtain ⟨events, q, hrun, hq⟩ := ih
      obtain ⟨q', hcall, hq'⟩ := hq.call default
      exact ⟨events ++ produceCall default (n + 1), q', (runPartial_append hrun _).trans hcall, hq'⟩

/-- Where the counter of the queue wraps around. -/
theorem toInt32_two_pow : toInt32 (2 ^ 31) = -2 ^ 31 := by decide

/-- With `2 ^ 31` values in the queue and both threads idle, the size is not their number. -/
theorem produced_size_ne :
    ∃ (events : List (QueueEvent Nat)) (q : LockFreeQueue Nat),
      runPartial LockFreeQueue.step (LockFreeQueue.new 0) events = some q ∧
        q.producer = .idle ∧ q.consumer = .idle ∧
        q.size ≠ q.produced.length - q.consumed.length := by
  obtain ⟨events, q, hrun, hq⟩ := exists_produced (T := Nat) (2 ^ 31)
  obtain ⟨q', hrun', hinv⟩ := exists_runPartial (fun q event => step_inv event) (inv_new 0) events
  rw [hrun, Option.some.injEq] at hrun'
  subst hrun'
  refine ⟨events, q, hrun, hq.producer, hq.consumer, ?_⟩
  have hsize := hinv.correct.size hq.producer hq.consumer
  rw [hq.produced, hq.consumed, List.length_nil] at hsize ⊢
  rw [hsize, Int.ofNat_zero, sub_zero]
  show toInt32 (2 ^ 31) ≠ _
  rw [toInt32_two_pow]
  decide

end Xrtc.Proofs.Base
