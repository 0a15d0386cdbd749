import Xrtc.Proofs.Ice.ChannelActions

/-!
# `Xrtc.Proofs.Ice.ChannelState`: the derived state of a channel

A channel keeps `_writable`, `_receiving` and `_state` as copies of what its
connections say, and it remembers whether it has been writable. `Sound` says that
between events the copies are right, that the controller's connections are the
connections that exist, and that the selected connection is one of them. The last
two are what keeps the copies right while the memory of destroyed connections
changes.

`sound_action` checks every kind of action, and `always_derived` is the result for
every run. It needs no condition: every path that changes the write state or the
receiving flag of a connection ends in `_update_state`.
-/

set_option autoImplicit false

namespace Xrtc.Proofs.Ice

open Xrtc.Lib
open Xrtc.Ice
open Xrtc.Ice.IceTransportChannel

/-- The channel remembers exactly whether it has ever been set writable. -/
def HasBeen (w : World) : Prop :=
  w.channel.hasBeenConnection = true ↔ Entry.writable true ∈ w.log

/-- The invariant of a channel between events. -/
structure Sound (w : World) : Prop where
  members : ∀ p, p ∈ w.controller.connections ↔ p ∈ w.live
  selected : ∀ p, w.channel.selectedConnection = some p → p ∈ w.live
  derived : Derived w.toCore
  hasBeen : HasBeen w

/-! ### What the derived values depend on -/

/-- Whether the channel is writable depends on the write state of the selected connection only. -/
theorem computeWritable_congr {v w : Core}
    (hselected : v.channel.selectedConnection = w.channel.selectedConnection)
    (hheap : ∀ p, w.channel.selectedConnection = some p →
      (v.heap p).writeState = (w.heap p).writeState) :
    computeWritable v = computeWritable w := by
  unfold computeWritable
  rw [hselected]
  cases h : w.channel.selectedConnection with
  | none => rfl
  | some p =>
      show (v.heap p).writable = (w.heap p).writable
      rw [IceConnection.writable, hheap p h, IceConnection.writable]

/-- Whether it receives depends on the flags of its connections only. -/
theorem computeReceiving_congr {v w : Core}
    (hconnections : v.controller.connections = w.controller.connections)
    (hheap : ∀ p ∈ w.controller.connections, (v.heap p).receiving = (w.heap p).receiving) :
    computeReceiving v = computeReceiving w := by
  unfold computeReceiving
  rw [hconnections, Bool.eq_iff_iff, List.any_eq_true, List.any_eq_true]
  constructor
  · rintro ⟨p, hp, hr⟩
    exact ⟨p, hp, by rwa [hheap p hp] at hr⟩
  · rintro ⟨p, hp, hr⟩
    exact ⟨p, hp, by rwa [hheap p hp]⟩

/-- Its state depends on the write states, and on what the channel remembers. -/
theorem computeIceTransportState_congr {v w : Core}
    (hconnections : v.controller.connections = w.controller.connections)
    (hhad : v.channel.hadConnection = w.channel.hadConnection)
    (hbeen : v.channel.hasBeenConnection = w.channel.hasBeenConnection)
    (hwritable : v.channel.writable = w.channel.writable)
    (hheap : ∀ p ∈ w.controller.connections, (v.heap p).writeState = (w.heap p).writeState) :
    computeIceTransportState v = computeIceTransportState w := by
  have hactive : (v.controller.connections.any fun conn => (v.heap conn).active)
      = w.controller.connections.any fun conn => (w.heap conn).active := by
    rw [hconnections, Bool.eq_iff_iff, List.any_eq_true, List.any_eq_true]
    constructor
    · rintro ⟨p, hp, hr⟩
      exact ⟨p, hp, by rwa [IceConnection.active, hheap p hp] at hr⟩
    · rintro ⟨p, hp, hr⟩
      exact ⟨p, hp, by rwa [IceConnection.active, hheap p hp]⟩
  unfold computeIceTransportState
  rw [hactive, hhad, hbeen, hwritable]

/-- Two states of a channel that agree in everything the derived values are computed
from, and in the values. -/
structure SameView (v w : Core) : Prop where
  connections : v.controller.connections = w.controller.connections
  selected : v.channel.selectedConnection = w.channel.selectedConnection
  writable : v.channel.writable = w.channel.writable
  receiving : v.channel.receiving = w.channel.receiving
  state : v.channel.state = w.channel.state
  hadConnection : v.channel.hadConnection = w.channel.hadConnection
  hasBeenConnection : v.channel.hasBeenConnection = w.channel.hasBeenConnection
  live : v.live = w.live
  heap : ∀ p ∈ w.live, (v.heap p).writeState = (w.heap p).writeState ∧
    (v.heap p).receiving = (w.heap p).receiving

/-- The invariant carries over to a state that looks the same, if the record does. -/
theorem Sound.of_sameView {v w : World} (h : Sound w) (hview : SameView v.toCore w.toCore)
    (hlog : Entry.writable true ∈ v.log ↔ Entry.writable true ∈ w.log) : Sound v := by
  have hmem : ∀ p ∈ w.controller.connections, p ∈ w.live := fun p hp => (h.members p).mp hp
  refine ⟨fun p => ?_, fun p hp => ?_, ⟨?_, ?_, ?_⟩, ?_⟩
  · rw [hview.connections, hview.live]
    exact h.members p
  · rw [hview.selected] at hp
    rw [hview.live]
    exact h.selected p hp
  · rw [hview.writable, h.derived.writable]
    exact (computeWritable_congr hview.selected fun p hp =>
      (hview.heap p (h.selected p hp)).1).symm
  · rw [hview.receiving, h.derived.receiving]
    exact (computeReceiving_congr hview.connections fun p hp => (hview.heap p (hmem p hp)).2).symm
  · rw [hview.state, h.derived.state]
    exact (computeIceTransportState_congr hview.connections hview.hadConnection
      hview.hasBeenConnection hview.writable fun p hp => (hview.heap p (hmem p hp)).1).symm
  · rw [HasBeen, hview.hasBeenConnection, hlog]
    exact h.hasBeen

/-- A change of fields the channel does not look at leaves the view as it is. -/
theorem sameView_modify (w : World) (p : Ptr) {f : IceConnection → IceConnection}
    (hwrite : ∀ c, (f c).writeState = c.writeState) (hreceiving : ∀ c, (f c).receiving = c.receiving) :
    SameView (w.modify p f).toCore w.toCore := by
  refine ⟨rfl, rfl, rfl, rfl, rfl, rfl, rfl, rfl, fun q _ => ?_⟩
  by_cases hq : q = p
  · subst hq
    rw [World.modify_heap_self]
    exact ⟨hwrite _, hreceiving _⟩
  · rw [World.modify_heap_of_ne _ _ hq]
    exact ⟨rfl, rfl⟩

/-! ### The record of the writable flag -/

/-- The channel remembers that it was writable, when it becomes so. -/
theorem hasBeen_setWritable {w : World} (h : HasBeen w) (b : Bool) : HasBeen (setWritable w b) := by
  unfold setWritable
  split
  · exact h
  · cases b with
    | true => exact iff_of_true rfl List.mem_cons_self
    | false =>
        show w.channel.hasBeenConnection = true ↔ Entry.writable true ∈ .writable false :: w.log
        rw [List.mem_cons]
        simpa [HasBeen] using h

/-- The update of the state keeps the memory, for it goes through `setWritable`. -/
theorem hasBeen_updateState {w : World} (h : HasBeen w) :
    HasBeen (IceTransportChannel.updateState w) := by
  have hreceiving : ∀ {v : World} (b : Bool), HasBeen v → HasBeen (setReceiving v b) := by
    intro v b hv
    unfold setReceiving
    split
    · exact hv
    · show v.channel.hasBeenConnection = true ↔ Entry.writable true ∈ .receiving b :: v.log
      rw [List.mem_cons]
      simpa [HasBeen] using hv
  have hstate : ∀ {v : World}, HasBeen v → HasBeen (setIceState v) := by
    intro v hv
    unfold setIceState
    simp only
    split
    · show v.channel.hasBeenConnection = true ↔ Entry.writable true ∈ .iceState _ :: v.log
      rw [List.mem_cons]
      simpa [HasBeen] using hv
    · exact hv
  exact hstate (hreceiving _ (hasBeen_setWritable h _))

/-- A switch of the connection does not touch the memory itself. -/
theorem switchSelectedConnection_hasBeen (v : World) (conn : Option Ptr) :
    (switchSelectedConnection v conn).channel.hasBeenConnection
      = v.channel.hasBeenConnection := by
  unfold switchSelectedConnection
  cases v.channel.selectedConnection <;> cases conn <;> rfl

/-- So it keeps it. -/
theorem hasBeen_switchSelectedConnection {w : World} (h : HasBeen w) (conn : Option Ptr) :
    HasBeen (switchSelectedConnection w conn) := by
  rw [HasBeen, switchSelectedConnection_hasBeen, switchSelectedConnection_log]
  exact h

/-- Sorting the connections keeps it, with the switch and the update it ends in. -/
theorem hasBeen_sort {w : World} (h : HasBeen w) (now : Int) :
    HasBeen (sortConnectionsAndUpdateState w now) := by
  have hswitched : HasBeen (switchedWorld w) := by
    unfold switchedWorld maybeSwitchSelectedConnection
    split
    · exact h
    · exact hasBeen_switchSelectedConnection (show HasBeen (sortedWorld w) from h) _
  have hupdated := hasBeen_updateState hswitched
  show (sortAndUpdate w now).channel.hasBeenConnection = true ↔
    Entry.writable true ∈ .sorted _ _ :: (sortAndUpdate w now).log
  rw [sortAndUpdate_eq, maybeStartPinging_eq, List.mem_cons]
  simpa [HasBeen] using hupdated

/-! ### The invariant -/

/-- A sort makes the derived values right, so all it needs is that the pointers are
in order. -/
theorem sound_sort {w : World} (hmembers : ∀ p, p ∈ w.controller.connections ↔ p ∈ w.live)
    (hselected : ∀ p, w.channel.selectedConnection = some p → p ∈ w.live) (hbeen : HasBeen w)
    (now : Int) : Sound (sortConnectionsAndUpdateState w now) := by
  refine ⟨fun p => ?_, fun p hp => ?_, derived_sort w now, hasBeen_sort hbeen now⟩
  · rw [sort_controller, switchedWorld_connections, mem_sortConnections, sort_live,
      switchedWorld_live]
    exact hmembers p
  · rw [sort_live, switchedWorld_live]
    rcases sort_selectedConnection_cases w now hp with hsame | hmem
    · exact hselected p hsame
    · exact (hmembers p).mp hmem

/-- A new connection is added, and the states are derived again. It is neither writable nor
selected before the sort that ends the event. -/
theorem sound_create {allocator : Allocator} {w : World} (h : Sound w) (port : Nat)
    (remoteCandidate : Candidate) (address : SocketAddress) (data : Option Bytes) (now : Int) :
    Sound (sortConnectionsAndUpdateState
      ((addConnection (createConnection allocator w port remoteCandidate)
        (allocator.pick w.toCore)).send address data) now) := by
  have hcreated : HasBeen (addConnection (createConnection allocator w port remoteCandidate)
      (allocator.pick w.toCore)) := by
    show w.channel.hasBeenConnection = true ↔ Entry.writable true ∈ .created _ :: w.log
    rw [List.mem_cons]
    simpa [HasBeen] using h.hasBeen
  apply sound_sort
  · intro p
    rw [World.send_toCore]
    show p ∈ w.controller.connections ++ [allocator.pick w.toCore] ↔
      p ∈ allocator.pick w.toCore :: w.live
    rw [List.mem_append, List.mem_singleton, List.mem_cons, h.members p, or_comm]
  · intro p hp
    rw [World.send_toCore] at hp ⊢
    exact List.mem_cons_of_mem _ (h.selected p hp)
  · cases data with
    | none => exact hcreated
    | some data =>
        show _ ↔ Entry.writable true ∈ .sent address data :: (addConnection _ _).log
        rw [List.mem_cons]
        simpa [HasBeen] using hcreated

/-- Freeing the connection and noting it, after the channel was told. -/
theorem sound_free {w : World} {p : Ptr}
    (hmembers : ∀ q, q ∈ w.controller.connections ↔ q ∈ w.live ∧ q ≠ p)
    (hselected : ∀ q, w.channel.selectedConnection = some q → q ∈ w.live ∧ q ≠ p)
    (hderived : Derived w.toCore) (hbeen : HasBeen w) :
    Sound (World.push { w with live := w.live.filter (· ≠ p) } (.destroyed p)) := by
  have hfilter : ∀ q, q ∈ w.live.filter (· ≠ p) ↔ q ∈ w.live ∧ q ≠ p := by
    intro q
    simp [List.mem_filter]
  refine ⟨fun q => (hmembers q).trans (hfilter q).symm,
    fun q hq => (hfilter q).mpr (hselected q hq),
    ⟨hderived.writable, hderived.receiving, hderived.state⟩, ?_⟩
  show w.channel.hasBeenConnection = true ↔ Entry.writable true ∈ .destroyed p :: w.log
  rw [List.mem_cons]
  simpa [HasBeen] using hbeen

/-- A connection is taken out. The controller forgets it before the states are derived, so these
do not depend on it. -/
theorem sound_destroy {w : World} (h : Sound w) (p : Ptr) (now : Int) :
    Sound (IceConnection.destroy w p now) := by
  have hfilter : ∀ q, q ∈ w.controller.connections.filter (· ≠ p) ↔ q ∈ w.live ∧ q ≠ p := by
    intro q
    rw [List.mem_filter, h.members q]
    simp
  unfold IceConnection.destroy onConnectionDestroyed
  dsimp only
  split
  · -- the selected connection goes: none is selected, and the rest is sorted
    refine sound_free (fun q => ?_) (fun q hq => ?_) (derived_sort _ now) (hasBeen_sort ?_ now)
    · rw [sort_controller, switchedWorld_connections, mem_sortConnections,
        switchSelectedConnection_connections, sort_live, switchedWorld_live,
        switchSelectedConnection_live]
      exact hfilter q
    · rw [sort_live, switchedWorld_live, switchSelectedConnection_live]
      rcases sort_selectedConnection_cases _ now hq with hnone | hmem
      · rw [switchSelectedConnection_selectedConnection] at hnone
        cases hnone
      · rw [switchSelectedConnection_connections] at hmem
        exact (hfilter q).mp hmem
    · exact hasBeen_switchSelectedConnection (show HasBeen
        { w with controller := w.controller.onConnectionDestroyed p } from h.hasBeen) none
  · -- another connection goes: the selected one stays
    rename_i hother
    refine sound_free (fun q => ?_) (fun q hq => ?_) (derived_updateState _)
      (hasBeen_updateState h.hasBeen)
    · rw [updateState_controller, updateState_live]
      exact hfilter q
    · rw [updateState_selectedConnection] at hq
      rw [updateState_live]
      refine ⟨h.selected q hq, ?_⟩
      rintro rfl
      exact hother hq

/-- Every action keeps the invariant, whatever it is permitted to do. Each of them that changes
what the states are derived from ends by deriving them again. -/
theorem sound_action {allocator : Allocator} {ok : Permits} {w w' : World}
    (haction : Action allocator ok w w') (h : Sound w) : Sound w' := by
  cases haction with
  | sent address data =>
      refine h.of_sameView ⟨rfl, rfl, rfl, rfl, rfl, rfl, rfl, rfl, fun _ _ => ⟨rfl, rfl⟩⟩ ?_
      simp [World.push]
  | quiet p f hf => exact h.of_sameView (sameView_modify w p hf.writeState hf.receiving) Iff.rfl
  -- these three sort again, so nothing is needed of the old state but the lists
  | receiving p b now =>
      exact sound_sort (w := w.modify p fun c => { c with receiving := b })
        h.members h.selected h.hasBeen now
  | writeState p s now hs =>
      exact sound_sort (w := w.modify p fun c => { c with writeState := s })
        h.members h.selected h.hasBeen now
  | sort now => exact sound_sort h.members h.selected h.hasBeen now
  | bookkeeping controller params lastPing interval hselected hconnections =>
      exact h.of_sameView
        ⟨hconnections, rfl, rfl, rfl, rfl, rfl, rfl, rfl, fun _ _ => ⟨rfl, rfl⟩⟩ Iff.rfl
  | ping p id now hpassword =>
      have hview := sameView_modify w p (f := fun c => c.notePing id now) (fun _ => rfl)
        (fun _ => rfl)
      exact h.of_sameView hview (by simp [World.push])
  | answer p id =>
      have hview := sameView_modify w p (f := fun c => c.removeRequest id) (fun _ => rfl)
        (fun _ => rfl)
      exact h.of_sameView hview (by simp [IceConnection.deleteRequest, World.push])
  | create port remoteCandidate address data now hcreate =>
      exact sound_create h port remoteCandidate address data now
  | destroy p now hdestroy => exact sound_destroy h p now
  | reuse heap =>
      refine h.of_sameView ⟨rfl, rfl, rfl, rfl, rfl, rfl, rfl, rfl, fun p hp => ?_⟩ Iff.rfl
      simp only [if_pos hp]
      exact ⟨trivial, trivial⟩

/-- Every event keeps the invariant. -/
theorem sound_step (digest : MessageDigest) (allocator : Allocator) (w : World) (e : Event)
    (h : Sound w) : Sound (step digest allocator w e) :=
  preserved_of_reflTransGen (P := Sound) (fun _ _ haction hs => sound_action haction hs)
    (actions_step digest w e) h

/-- It holds of a channel without connections. -/
theorem sound_init (heap : Ptr → IceConnection) (params : Nat → IceParameters)
    (localCandidate : Nat → Candidate) : Sound (World.init heap params localCandidate) := by
  refine ⟨fun p => Iff.rfl, fun p hp => (nomatch hp), ⟨rfl, rfl, rfl⟩, ?_⟩
  exact iff_of_false (by simp [World.init]) (by simp [World.init])

/-- In every state of every run of a channel, the three derived values are those of
the current connections, and the channel remembers exactly whether it has been
writable. -/
theorem always_derived (digest : MessageDigest) (allocator : Allocator)
    (heap : Ptr → IceConnection) (params : Nat → IceParameters)
    (localCandidate : Nat → Candidate) (events : List Event) :
    Always (step digest allocator)
      (fun w =>
        w.channel.writable = computeWritable w.toCore ∧
        w.channel.receiving = computeReceiving w.toCore ∧
        w.channel.state = computeIceTransportState w.toCore ∧
        (w.channel.hasBeenConnection = true ↔ Entry.writable true ∈ w.log))
      (World.init heap params localCandidate) events := by
  have hsound := always_of_step (sound_step digest allocator)
    (sound_init heap params localCandidate) events
  exact hsound.imp fun w h =>
    ⟨h.derived.writable, h.derived.receiving, h.derived.state, h.hasBeen⟩

end Xrtc.Proofs.Ice
