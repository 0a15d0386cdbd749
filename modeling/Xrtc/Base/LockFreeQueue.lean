import Mathlib.Logic.Function.Basic
import Xrtc.Lib.MachineInt

/-!
# `Xrtc.Base.LockFreeQueue`: the queue between two threads

The model of `rtcserver/src/base/lock_free_queue.h`, for one thread that calls `produce`
and one that calls `consume`. Every read and write of `first`, `divider`, `last`, `next`
and `_size` is a step of its own, and the threads take steps in any order, each of which
is seen by the other one at once.

A thread that is in a call is at one of the accesses (`Producer`, `Consumer`), with the
local variables that are still needed. `new` gives any address that is free, also that of
a node that was deleted, and an access to a node that is not there has no result.

The values produced and consumed, and what they are when a `consume` finds the queue
empty, are recorded for the statements only. A value is produced when its node is
published in `last`, and consumed when `divider` moves to its node.
-/

set_option autoImplicit false

namespace Xrtc.Base

open Xrtc.Lib

/-- A pointer to a node. `none` is `nullptr`. -/
abbrev NodePtr := Option Nat

/-- `Node`. -/
structure Node (T : Type) where
  value : T
  next : NodePtr

/-- Where the producer is, with the value it produces and its local variables. -/
inductive Producer (T : Type) where
  | idle
  /-- `new Node(t)` -/
  | allocate (t : T)
  /-- `last->next = node`: reads `last` -/
  | linkLast (t : T) (node : Nat)
  /-- writes `next` -/
  | linkNext (t : T) (node : Nat) (last : NodePtr)
  /-- `last = last->next`: reads `last` -/
  | publishLast (t : T)
  /-- reads `next` -/
  | publishNext (t : T) (last : NodePtr)
  /-- writes `last` -/
  | publish (t : T) (next : NodePtr)
  /-- `++_size` -/
  | increment
  /-- `divider != first`: reads `divider` -/
  | testDivider
  /-- reads `first` -/
  | testFirst (divider : NodePtr)
  /-- `temp = first` -/
  | readTemp
  /-- `first = first->next`: reads `first` -/
  | advanceFirst (temp : NodePtr)
  /-- reads `next` -/
  | advanceNext (temp first : NodePtr)
  /-- writes `first` -/
  | advance (temp next : NodePtr)
  /-- `delete temp` -/
  | delete (temp : NodePtr)

/-- Where the consumer is, with the value that `*result` has got. -/
inductive Consumer (T : Type) where
  | idle
  /-- `divider != last`: reads `divider` -/
  | testDivider
  /-- reads `last` -/
  | testLast (divider : NodePtr)
  /-- `*result = divider->next->value`: reads `divider` -/
  | resultDivider
  /-- reads `next` -/
  | resultNext (divider : NodePtr)
  /-- reads `value` -/
  | resultValue (next : NodePtr)
  /-- `divider = divider->next`: reads `divider` -/
  | advanceDivider (result : T)
  /-- reads `next` -/
  | advanceNext (result : T) (divider : NodePtr)
  /-- writes `divider` -/
  | advance (result : T) (next : NodePtr)
  /-- `--_size` -/
  | decrement

/-- A `LockFreeQueue` with its two threads. `emptyReads` has the values produced and
consumed at the read of `last`, for every `consume` that has returned false. -/
structure LockFreeQueue (T : Type) where
  heap : Nat → Option (Node T)
  first : NodePtr
  divider : NodePtr
  last : NodePtr
  size : Int := 0
  producer : Producer T := .idle
  consumer : Consumer T := .idle
  produced : List T := []
  consumed : List T := []
  emptyReads : List (List T × List T) := []

namespace LockFreeQueue

variable {T : Type}

/-- The constructor, with the address of its node. -/
def new [Inhabited T] (address : Nat) : LockFreeQueue T where
  heap := Function.update (fun _ => none) address (some ⟨default, none⟩)
  first := some address
  divider := some address
  last := some address

/-- The node at a pointer. -/
def node (q : LockFreeQueue T) (p : NodePtr) : Option (Node T) := p.bind q.heap

/-- The next step of the producer in a call of `produce`. An address that is not free is
never given out. -/
def stepProducer (q : LockFreeQueue T) (address : Nat) : Option (LockFreeQueue T) :=
  match q.producer with
  | .idle => some q
  | .allocate t =>
      match q.heap address with
      | some _ => some q
      | none =>
          some
            { q with
                heap := Function.update q.heap address (some ⟨t, none⟩)
                producer := .linkLast t address }
  | .linkLast t node => some { q with producer := .linkNext t node q.last }
  | .linkNext t node last => do
      let address ← last
      let old ← q.heap address
      return { q with
        heap := Function.update q.heap address (some { old with next := some node })
        producer := .publishLast t }
  | .publishLast t => some { q with producer := .publishNext t q.last }
  | .publishNext t last => do
      let node ← q.node last
      return { q with producer := .publish t node.next }
  | .publish t next =>
      some { q with last := next, producer := .increment, produced := q.produced ++ [t] }
  | .increment => some { q with size := toInt32 (q.size + 1), producer := .testDivider }
  | .testDivider => some { q with producer := .testFirst q.divider }
  | .testFirst divider =>
      some { q with producer := if divider ≠ q.first then .readTemp else .idle }
  | .readTemp => some { q with producer := .advanceFirst q.first }
  | .advanceFirst temp => some { q with producer := .advanceNext temp q.first }
  | .advanceNext temp first => do
      let node ← q.node first
      return { q with producer := .advance temp node.next }
  | .advance temp next => some { q with first := next, producer := .delete temp }
  | .delete none => some { q with producer := .testDivider }
  | .delete (some address) => do
      let _ ← q.heap address
      return { q with
        heap := Function.update q.heap address none
        producer := .testDivider }

/-- The next step of the consumer in a call of `consume`. -/
def stepConsumer (q : LockFreeQueue T) : Option (LockFreeQueue T) :=
  match q.consumer with
  | .idle => some q
  | .testDivider => some { q with consumer := .testLast q.divider }
  | .testLast divider =>
      if divider ≠ q.last then some { q with consumer := .resultDivider }
      else
        some
          { q with
              consumer := .idle
              emptyReads := q.emptyReads ++ [(q.produced, q.consumed)] }
  | .resultDivider => some { q with consumer := .resultNext q.divider }
  | .resultNext divider => do
      let node ← q.node divider
      return { q with consumer := .resultValue node.next }
  | .resultValue next => do
      let node ← q.node next
      return { q with consumer := .advanceDivider node.value }
  | .advanceDivider result => some { q with consumer := .advanceNext result q.divider }
  | .advanceNext result divider => do
      let node ← q.node divider
      return { q with consumer := .advance result node.next }
  | .advance result next =>
      some
        { q with divider := next, consumer := .decrement, consumed := q.consumed ++ [result] }
  | .decrement => some { q with size := toInt32 (q.size - 1), consumer := .idle }

end LockFreeQueue

/-- What a thread does: it calls `produce` or `consume`, or takes a step of its call. -/
inductive QueueEvent (T : Type) where
  | produce (t : T)
  | producer (address : Nat)
  | consume
  | consumer

/-- One step of a thread. A call does not begin before the last one has ended. -/
def LockFreeQueue.step {T : Type} (q : LockFreeQueue T) :
    QueueEvent T → Option (LockFreeQueue T)
  | .produce t =>
      match q.producer with
      | .idle => some { q with producer := .allocate t }
      | _ => some q
  | .producer address => q.stepProducer address
  | .consume =>
      match q.consumer with
      | .idle => some { q with consumer := .testDivider }
      | _ => some q
  | .consumer => q.stepConsumer

end Xrtc.Base
