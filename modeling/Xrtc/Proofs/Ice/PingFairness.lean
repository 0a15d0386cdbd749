import Xrtc.Lib.RoundRobin
import Xrtc.Proofs.Ice.SelectedConnection

/-!
# `Xrtc.Proofs.Ice.PingFairness`: whose turn it is to be pinged

The controller keeps the connections that were pinged in this round apart from the others,
and pings the one of the others that was pinged longest ago. Without a selected connection
it pings at every tick, and only passes over the connections without remote credentials.
That is a scheduler of `Xrtc.Lib.RoundRobin` (`rounds`, `event_step`), and `ping_fair` is
its fairness for the runs of a channel. `pings_step` says that the turns of the scheduler
are the pings of the record.

A ping is later than the one before by itself: a tick pings only when the ping interval has
gone by.
-/

set_option autoImplicit false

namespace Xrtc.Proofs.Ice

open Xrtc.Lib
open Xrtc.Ice
open Xrtc.Ice.IceTransportChannel
open Xrtc.Ice.IceController

/-! ### The scheduler -/

/-- The remote credentials of a connection are known. -/
def HasCredentials (w : Core) (p : Ptr) : Prop :=
  (w.heap p).remoteCandidate.username ≠ [] ∧ (w.heap p).remoteCandidate.password ≠ []

instance (w : Core) (p : Ptr) : Decidable (HasCredentials w p) :=
  inferInstanceAs (Decidable (_ ∧ _))

/-- The controller as a scheduler of pings. -/
def rounds (w : Core) : Rounds Ptr where
  waiting := {p | p ∈ w.controller.unpingedConnections}
  served := {p | p ∈ w.controller.pingedConnections}
  last p := (w.heap p).lastPingSent
  time := w.channel.lastPingSentMs
  eligible := {p | HasCredentials w p}

/-- The two sets of the controller are disjoint and hold its connections. -/
structure Partitioned (c : IceController) : Prop where
  disjoint : ∀ p ∈ c.unpingedConnections, p ∉ c.pingedConnections
  members : ∀ p, p ∈ c.connections ↔ p ∈ c.unpingedConnections ∨ p ∈ c.pingedConnections

/-- The connection that an entry of the record says was pinged. -/
def pingOf : Entry → Option Ptr
  | .pinged p _ => some p
  | _ => none

/-- The pings of the record, latest first. -/
def pings (w : World) : List Ptr := w.log.filterMap pingOf

/-- The connection that an event pings. -/
def pingedBy (w : World) : Event → Option Ptr
  | .tick now _ =>
      if w.channel.startPinging then
        let v := updateConnectionStates w now
        (selectConnectionToPing v.toCore (v.channel.lastPingSentMs - pingIntervalDiff) now).1
      else none
  | _ => none

/-! ### Calls that ping nobody -/

/-- What the scheduler looks at is as it was, and so are the pings. -/
structure MarksKept (v w : World) : Prop where
  connections : ∀ p, p ∈ w.controller.connections ↔ p ∈ v.controller.connections
  unpinged : w.controller.unpingedConnections = v.controller.unpingedConnections
  pinged : w.controller.pingedConnections = v.controller.pingedConnections
  time : w.channel.lastPingSentMs = v.channel.lastPingSentMs
  lastPingSent : ∀ p, (w.heap p).lastPingSent = (v.heap p).lastPingSent
  remoteCandidate : ∀ p, (w.heap p).remoteCandidate = (v.heap p).remoteCandidate
  pings : pings w = pings v

/-- A step that does nothing keeps the marks. -/
theorem MarksKept.refl (w : World) : MarksKept w w :=
  ⟨fun _ => Iff.rfl, rfl, rfl, rfl, fun _ => rfl, fun _ => rfl, rfl⟩

/-- What two steps keep, they keep together. -/
theorem MarksKept.trans {u v w : World} (h : MarksKept u v) (h' : MarksKept v w) :
    MarksKept u w :=
  ⟨fun p => (h'.connections p).trans (h.connections p), h'.unpinged.trans h.unpinged,
    h'.pinged.trans h.pinged, h'.time.trans h.time,
    fun p => (h'.lastPingSent p).trans (h.lastPingSent p),
    fun p => (h'.remoteCandidate p).trans (h.remoteCandidate p), h'.pings.trans h.pings⟩

/-- A change of a connection keeps the marks if it leaves the time of its last ping and its remote
candidate. -/
theorem marksKept_modify (w : World) (p : Ptr) {f : IceConnection → IceConnection}
    (hlast : ∀ c, (f c).lastPingSent = c.lastPingSent)
    (hremote : ∀ c, (f c).remoteCandidate = c.remoteCandidate) : MarksKept w (w.modify p f) := by
  refine ⟨fun _ => Iff.rfl, rfl, rfl, rfl, fun q => ?_, fun q => ?_, rfl⟩ <;> by_cases hq : q = p
  · rw [hq, World.modify_heap_self, hlast]
  · rw [World.modify_heap_of_ne _ _ hq]
  · rw [hq, World.modify_heap_self, hremote]
  · rw [World.modify_heap_of_ne _ _ hq]

/-- An entry that is no ping adds none to the pings. -/
theorem pings_push {w : World} {e : Entry} (he : pingOf e = none) : pings (w.push e) = pings w :=
  List.filterMap_cons_none he

/-- An entry that is no ping keeps the marks. -/
theorem marksKept_push (w : World) {e : Entry} (he : pingOf e = none) : MarksKept w (w.push e) :=
  ⟨fun _ => Iff.rfl, rfl, rfl, rfl, fun _ => rfl, fun _ => rfl, pings_push he⟩

/-- A packet that is sent is no ping in this sense: `ping` adds an entry of its own. -/
theorem marksKept_send (w : World) (address : SocketAddress) (data : Option Bytes) :
    MarksKept w (w.send address data) := by
  cases data with
  | none => exact .refl w
  | some data => exact marksKept_push w rfl

/-- A switch of the selected connection keeps the marks. It changes the sets of the controller in
no way. -/
theorem marksKept_switch (w : World) (conn : Option Ptr) :
    MarksKept w (switchSelectedConnection w conn) := by
  have hheap := switchSelectedConnection_heap w conn
  refine ⟨fun p => ?_, ?_, ?_, ?_, fun p => ?_, fun p => ?_, ?_⟩
  · rw [switchSelectedConnection_connections]
  · unfold switchSelectedConnection
    cases w.channel.selectedConnection <;> cases conn <;> rfl
  · unfold switchSelectedConnection
    cases w.channel.selectedConnection <;> cases conn <;> rfl
  · unfold switchSelectedConnection
    cases w.channel.selectedConnection <;> cases conn <;> rfl
  · obtain ⟨b, hb⟩ := hheap p
    rw [hb]
  · obtain ⟨b, hb⟩ := hheap p
    rw [hb]
  · unfold pings
    rw [switchSelectedConnection_log]

/-- `_update_state` raises signals and computes the state of the channel. -/
theorem marksKept_update (w : World) : MarksKept w (updateState w) := by
  refine ⟨fun p => ?_, ?_, ?_, ?_, fun p => ?_, fun p => ?_, ?_⟩
  · rw [updateState_controller]
  · rw [updateState_controller]
  · rw [updateState_controller]
  · rw [updateState_toCore]
    rfl
  · rw [updateState_heap]
  · rw [updateState_heap]
  · obtain ⟨new, hlog, hnew⟩ := updateState_log w
    unfold pings
    rw [hlog, List.filterMap_append, List.filterMap_eq_nil_iff.mpr, List.nil_append]
    intro e he
    rcases hnew e he with ⟨_, rfl⟩ | ⟨_, rfl⟩ | ⟨_, rfl⟩ <;> rfl

/-- The sort puts the connections into another order. Which of them are in which set does not
depend on the order. -/
theorem marksKept_sort (w : World) (now : Int) :
    MarksKept w (sortConnectionsAndUpdateState w now) := by
  have hsorted : MarksKept w (sortedWorld w) :=
    ⟨fun _ => mem_sortConnections, rfl, rfl, rfl, fun _ => rfl, fun _ => rfl, rfl⟩
  have hswitched : MarksKept w (switchedWorld w) := by
    unfold switchedWorld maybeSwitchSelectedConnection
    split
    · exact hsorted
    · exact hsorted.trans (marksKept_switch _ _)
  have hstart : MarksKept (updateState (switchedWorld w)) (sortAndUpdate w now) := by
    rw [sortAndUpdate_eq, maybeStartPinging_eq]
    exact ⟨fun _ => Iff.rfl, rfl, rfl, rfl, fun _ => rfl, fun _ => rfl, rfl⟩
  have hsignalled : MarksKept (sortAndUpdate w now) (sortConnectionsAndUpdateState w now) :=
    marksKept_push _ rfl
  exact ((hswitched.trans (marksKept_update _)).trans hstart).trans hsignalled

section

variable (w : World) (p : Ptr) (now : Int)

/-- `update_receiving` and the sort behind it keep the marks. -/
theorem marksKept_updateReceiving : MarksKept w (IceConnection.updateReceiving w p now) := by
  unfold IceConnection.updateReceiving
  dsimp only
  split
  · exact .refl w
  · refine .trans ?_ (marksKept_sort _ now)
    exact marksKept_modify w p (fun _ => rfl) fun _ => rfl

/-- So do `set_write_state` and the sort behind it. -/
theorem marksKept_setWriteState (state : WriteState) :
    MarksKept w (IceConnection.setWriteState w p state now) := by
  unfold IceConnection.setWriteState
  split
  · exact .refl w
  · refine .trans ?_ (marksKept_sort _ now)
    exact marksKept_modify w p (fun _ => rfl) fun _ => rfl

/-- So does `update_state`, whose two tests only set the write state. -/
theorem marksKept_updateState : MarksKept w (IceConnection.updateState w p now) := by
  have hunreliable : ∀ v : World, MarksKept v (IceConnection.updateUnreliable v p now) := by
    intro v
    unfold IceConnection.updateUnreliable
    dsimp only
    split
    · exact marksKept_setWriteState v p now .writeUnreliable
    · exact .refl v
  have htimeout : ∀ v : World, MarksKept v (IceConnection.updateTimeout v p now) := by
    intro v
    unfold IceConnection.updateTimeout
    dsimp only
    split
    · exact marksKept_setWriteState v p now .writeTimeout
    · exact .refl v
  exact ((hunreliable w).trans (htimeout _)).trans (marksKept_updateReceiving _ p now)

/-- So does a response that is credited: the time of the last ping stays. -/
theorem marksKept_receivedPingResponse (rtt : Int) :
    MarksKept w (IceConnection.receivedPingResponse w p rtt now) := by
  unfold IceConnection.receivedPingResponse
  dsimp only
  refine .trans ?_ (marksKept_modify _ p (fun _ => rfl) fun _ => rfl)
  refine .trans ?_ (marksKept_setWriteState _ p now .writable)
  refine .trans ?_ (marksKept_updateReceiving _ p now)
  exact marksKept_modify w p (fun _ => rfl) fun _ => rfl

end

/-- So does the loop of the timer over the connections, by the rule for folds. -/
theorem marksKept_updateConnectionStates (w : World) (now : Int) :
    MarksKept w (updateConnectionStates w now) := by
  unfold updateConnectionStates
  generalize w.controller.connections = conns
  induction conns generalizing w with
  | nil => exact .refl w
  | cons conn conns ih => exact (marksKept_updateState w conn now).trans (ih _)

/-- Where the marks are kept, the scheduler is in the same state. -/
theorem MarksKept.rounds_eq {v w : World} (h : MarksKept v w) :
    rounds w.toCore = rounds v.toCore := by
  unfold rounds HasCredentials
  simp only [h.unpinged, h.pinged, h.time, h.lastPingSent, h.remoteCandidate]

/-- The two sets still make up the connections, since all three are the same up to the order. -/
theorem MarksKept.partitioned {v w : World} (h : MarksKept v w)
    (hv : Partitioned v.controller) : Partitioned w.controller := by
  refine ⟨fun p => ?_, fun p => ?_⟩
  · rw [h.unpinged, h.pinged]
    exact hv.disjoint p
  · rw [h.connections, h.unpinged, h.pinged]
    exact hv.members p

/-- The members of a set after an insertion. -/
theorem mem_setInsert {p q : Ptr} {set : List Ptr} :
    p ∈ setInsert q set ↔ p = q ∨ p ∈ set := by
  unfold setInsert
  split
  · rename_i hmem
    exact ⟨Or.inr, fun h => h.elim (fun heq => heq ▸ hmem) id⟩
  · exact List.mem_orderedInsert _

/-- The members after a list was inserted one by one. -/
theorem mem_foldl_setInsert {p : Ptr} (new set : List Ptr) :
    p ∈ new.foldl (fun set conn => setInsert conn set) set ↔ p ∈ set ∨ p ∈ new := by
  induction new generalizing set with
  | nil => simp
  | cons q new ih => simp only [List.foldl_cons, ih, mem_setInsert, List.mem_cons]; tauto

/-! ### Calls that change the connections -/

/-- The connections change, the two sets still are a partition of them, and nobody is
pinged. -/
structure Regrouped (v w : World) : Prop where
  change : Rounds.Change (rounds v.toCore) (rounds w.toCore)
  partitioned : Partitioned w.controller
  pings : pings w = pings v

/-- Steps that keep the marks are the simplest case of regrouping. -/
theorem regrouped_of_marksKept {v w : World} (hv : Partitioned v.controller)
    (h : MarksKept v w) : Regrouped v w := by
  refine ⟨?_, h.partitioned hv, h.pings⟩
  rw [h.rounds_eq]
  exact ⟨fun _ hp => hp, hv.disjoint, fun _ _ _ => rfl, rfl⟩

/-- Steps that keep the marks may follow a regrouping. -/
theorem Regrouped.marksKept {u v w : World} (h : Regrouped u v) (h' : MarksKept v w) :
    Regrouped u w := by
  refine ⟨?_, h'.partitioned h.partitioned, h'.pings.trans h.pings⟩
  rw [h'.rounds_eq]
  exact h.change

/-- They may also come before it. -/
theorem MarksKept.regrouped {u v w : World} (h : MarksKept u v) (h' : Regrouped v w) :
    Regrouped u w := by
  refine ⟨?_, h'.partitioned, h'.pings.trans h.pings⟩
  rw [← h.rounds_eq]
  exact h'.change

/-- A destroyed connection leaves the connections and its set, and no other one changes its set.
-/
theorem regrouped_destroy {w : World} (hw : Partitioned w.controller) (p : Ptr) (now : Int) :
    Regrouped w (IceConnection.destroy w p now) := by
  let v : World := { w with controller := w.controller.onConnectionDestroyed p }
  have hremoved : Regrouped w v := by
    refine ⟨⟨fun q hq => ?_, fun q hq => ?_, fun _ _ _ => rfl, rfl⟩,
      ⟨fun q hq => ?_, fun q => ?_⟩, rfl⟩
    · exact (List.mem_filter.mp hq).1
    · exact hw.disjoint q (List.mem_filter.mp hq).1
    · intro hpinged
      exact hw.disjoint q (List.mem_filter.mp hq).1 (List.mem_filter.mp hpinged).1
    · show q ∈ w.controller.connections.filter (· ≠ p) ↔
        q ∈ w.controller.unpingedConnections.filter (· ≠ p) ∨
          q ∈ w.controller.pingedConnections.filter (· ≠ p)
      simp only [List.mem_filter, hw.members q]
      tauto
  have htold : MarksKept v (IceTransportChannel.onConnectionDestroyed w p now) := by
    unfold IceTransportChannel.onConnectionDestroyed
    dsimp only
    split
    · exact (marksKept_switch v none).trans (marksKept_sort _ now)
    · exact marksKept_update v
  have hfreed : MarksKept (IceTransportChannel.onConnectionDestroyed w p now)
      (IceConnection.destroy w p now) :=
    ⟨fun _ => Iff.rfl, rfl, rfl, rfl, fun _ => rfl, fun _ => rfl, pings_push rfl⟩
  exact (hremoved.marksKept htold).marksKept hfreed

/-- A response is credited, or its error destroys the connection, or it only leaves the map of
requests. All three regroup at most. -/
theorem regrouped_checkResponse {w : World} (hw : Partitioned w.controller) (p : Ptr)
    (msg : StunMessage) (now : Int) : Regrouped w (IceConnection.checkResponse w p msg now) := by
  have hdelete : ∀ (v : World) (id : Bytes), MarksKept v (IceConnection.deleteRequest v p id) :=
    fun v id => (marksKept_modify v p (f := fun c => c.removeRequest id) (fun _ => rfl)
      fun _ => rfl).trans (marksKept_push _ rfl)
  unfold IceConnection.checkResponse
  split
  · exact regrouped_of_marksKept hw (.refl w)
  · rename_i request _
    split
    · have hreceived := marksKept_receivedPingResponse w p now (request.elapsed now)
      exact regrouped_of_marksKept hw (hreceived.trans (hdelete _ request.id))
    · split
      · refine Regrouped.marksKept ?_ (hdelete _ _)
        unfold IceConnection.onConnectionRequestErrorResponse
        dsimp only
        split
        · exact regrouped_of_marksKept hw (.refl w)
        · have hstate : MarksKept w (IceConnection.setState w p .failed) :=
            marksKept_modify w p (fun _ => rfl) fun _ => rfl
          exact hstate.regrouped (regrouped_destroy (hstate.partitioned hw) p now)
      · exact regrouped_of_marksKept hw (hdelete w _)

/-- A new connection waits. It is entered in the set of those not pinged and in the list, and no
other connection changes its set. -/
theorem regrouped_onUnknownAddress (digest : MessageDigest) (allocator : Allocator) {w : World}
    (hsound : Sound w) (hw : Partitioned w.controller) (port : Nat) (addr : SocketAddress)
    (msg : StunMessage) (remoteUfrag : Bytes) (now : Int) :
    Regrouped w (onUnknownAddress digest allocator w port addr msg remoteUfrag now) := by
  unfold onUnknownAddress
  split
  · exact regrouped_of_marksKept hw (marksKept_send w _ _)
  · rename_i priorityAttr _
    dsimp only
    -- the pointer of the new connection is not among those that wait or were served
    have hnew : ∀ p, p ∈ w.controller.unpingedConnections ∨ p ∈ w.controller.pingedConnections →
        p ≠ allocator.pick w.toCore := by
      rintro p hp rfl
      exact allocator.pick_not_mem w.toCore ((hsound.members _).mp ((hw.members _).mpr hp))
    have hadded : Regrouped w (IceTransportChannel.addConnection (createConnection allocator w port
        ⟨addr, priorityAttr.bits, remoteUfrag, w.channel.remoteIceParams.icePwd⟩)
        (allocator.pick w.toCore)) := by
      refine ⟨⟨fun _ hp => hp, fun p hp => ?_, fun p hp _ => ?_, rfl⟩,
        ⟨fun p hp => ?_, fun p => ?_⟩, pings_push rfl⟩
      · rcases mem_setInsert.mp hp with heq | hold
        · exact fun hpinged => hnew p (Or.inr hpinged) heq
        · exact hw.disjoint p hold
      · show (Function.update w.heap _ _ p).lastPingSent = _
        rw [Function.update_of_ne (hnew p hp)]
        rfl
      · rcases mem_setInsert.mp hp with heq | hold
        · exact fun hpinged => hnew p (Or.inr hpinged) heq
        · exact hw.disjoint p hold
      · show p ∈ w.controller.connections ++ [allocator.pick w.toCore] ↔
          p ∈ setInsert _ w.controller.unpingedConnections ∨ _
        rw [List.mem_append, List.mem_singleton, mem_setInsert, hw.members p]
        tauto
    refine (hadded.marksKept ?_).marksKept (marksKept_sort _ now)
    · unfold IceConnection.handleStunBindingRequest
      split
      · exact .refl _
      · exact marksKept_send _ _ _

/-- The remote parameters may give connections the password that they need to be pinged. They stay
in their sets. -/
theorem regrouped_setRemoteIceParams {w : World} (hw : Partitioned w.controller)
    (params : IceParameters) (now : Int) : Regrouped w (setRemoteIceParams w params now) := by
  -- the loop over the connections sets their passwords, and nothing the rounds depend on
  have hfold : ∀ (conns : List Ptr) (v : World),
      (conns.foldl (fun w conn => w.modify conn fun c => c.maybeSetRemoteIceParams params)
        v).controller = v.controller ∧
      (conns.foldl (fun w conn => w.modify conn fun c => c.maybeSetRemoteIceParams params)
        v).channel = v.channel ∧
      (∀ p, ((conns.foldl (fun w conn => w.modify conn fun c => c.maybeSetRemoteIceParams params)
        v).heap p).lastPingSent = (v.heap p).lastPingSent) ∧
      (conns.foldl (fun w conn => w.modify conn fun c => c.maybeSetRemoteIceParams params)
        v).log = v.log := by
    intro conns
    induction conns with
    | nil => exact fun v => ⟨rfl, rfl, fun _ => rfl, rfl⟩
    | cons conn conns ih =>
        intro v
        obtain ⟨hcontroller, hchannel, hlast, hlog⟩ :=
          ih (v.modify conn fun c => c.maybeSetRemoteIceParams params)
        refine ⟨hcontroller, hchannel, fun p => (hlast p).trans ?_, hlog⟩
        by_cases hp : p = conn
        · rw [hp, World.modify_heap_self]
          unfold IceConnection.maybeSetRemoteIceParams
          split <;> rfl
        · rw [World.modify_heap_of_ne _ _ hp]
  unfold setRemoteIceParams
  dsimp only
  refine Regrouped.marksKept ?_ (marksKept_sort _ now)
  obtain ⟨hcontroller, hchannel, hlast, hlog⟩ := hfold w.controller.connections
    { w with channel := { w.channel with remoteIceParams := params } }
  refine ⟨⟨fun p hp => ?_, fun p hp => ?_, fun p _ _ => hlast p, ?_⟩, ?_, ?_⟩
  · simpa only [rounds, hcontroller] using hp
  · simp only [rounds, hcontroller] at hp
    exact hw.disjoint p hp
  · simp only [rounds, hchannel]
  · rw [hcontroller]
    exact hw
  · unfold pings
    rw [hlog]

/-- The memory of destroyed connections is no part of the two sets, since every member of a set
exists. -/
theorem regrouped_reuse {w : World} (hsound : Sound w) (hw : Partitioned w.controller)
    (heap : Ptr → IceConnection) :
    Regrouped w { w with heap := fun p => if p ∈ w.live then w.heap p else heap p } := by
  refine ⟨⟨fun _ hp => hp, hw.disjoint, fun p hp _ => ?_, rfl⟩, hw, rfl⟩
  have hlive : p ∈ w.live := (hsound.members p).mp ((hw.members p).mpr hp)
  show (if p ∈ w.live then w.heap p else heap p).lastPingSent = _
  rw [if_pos hlive]
  rfl

/-! ### The choice of a connection -/

/-- The search finds one of the pingable connections, and none of them was pinged longer
ago. -/
theorem findPingable_oldest {w : Core} {now : Int} {m : Ptr} (conns : List Ptr)
    (init : Option Ptr) (h : findPingable w now conns init = some m) :
    (init = some m ∨ m ∈ conns ∧ isPingable w m now = true) ∧
      ∀ q, (init = some q ∨ q ∈ conns ∧ isPingable w q now = true) →
        (w.heap m).lastPingSent ≤ (w.heap q).lastPingSent := by
  induction conns generalizing init with
  | nil =>
      have hinit : init = some m := h
      refine ⟨Or.inl hinit, fun q hq => ?_⟩
      rcases hq with hq | ⟨hq, -⟩
      · rw [Option.some.inj (hinit.symm.trans hq)]
      · cases hq
  | cons conn conns ih =>
      rw [findPingable] at h
      by_cases hconn : isPingable w conn now = true
      · rw [if_neg (by simp [hconn])] at h
        by_cases hmore : morePingable w conn init = true
        · -- it is the oldest so far
          rw [if_pos hmore] at h
          obtain ⟨hfound, holdest⟩ := ih (some conn) h
          refine ⟨Or.inr ?_, fun q hq => ?_⟩
          · rcases hfound with heq | ⟨hmem, hpingable⟩
            · rw [← Option.some.inj heq]
              exact ⟨List.mem_cons_self, hconn⟩
            · exact ⟨List.mem_cons_of_mem conn hmem, hpingable⟩
          · rcases hq with hq | ⟨hmem, hpingable⟩
            · have hlt : (w.heap conn).lastPingSent < (w.heap q).lastPingSent := by
                simpa [morePingable, hq] using hmore
              exact (holdest conn (Or.inl rfl)).trans hlt.le
            · rcases List.mem_cons.mp hmem with heq | htail
              · exact holdest q (Or.inl (heq ▸ rfl))
              · exact holdest q (Or.inr ⟨htail, hpingable⟩)
        · -- another one was pinged earlier, or at the same time
          rw [if_neg hmore] at h
          obtain ⟨hfound, holdest⟩ := ih init h
          refine ⟨hfound.imp_right fun hm => ⟨List.mem_cons_of_mem conn hm.1, hm.2⟩,
            fun q hq => ?_⟩
          rcases hq with hq | ⟨hmem, hpingable⟩
          · exact holdest q (Or.inl hq)
          · rcases List.mem_cons.mp hmem with heq | htail
            · cases hinit : init with
              | none => simp [morePingable, hinit] at hmore
              | some best =>
                  have hle : (w.heap best).lastPingSent ≤ (w.heap conn).lastPingSent := by
                    simpa [morePingable, hinit] using hmore
                  rw [heq]
                  exact (holdest best (Or.inl hinit)).trans hle
            · exact holdest q (Or.inr ⟨htail, hpingable⟩)
      · rw [if_pos (by simpa using hconn)] at h
        obtain ⟨hfound, holdest⟩ := ih init h
        refine ⟨hfound.imp_right fun hm => ⟨List.mem_cons_of_mem conn hm.1, hm.2⟩, fun q hq => ?_⟩
        rcases hq with hq | ⟨hmem, hpingable⟩
        · exact holdest q (Or.inl hq)
        · rcases List.mem_cons.mp hmem with heq | htail
          · exact absurd (heq ▸ hpingable) hconn
          · exact holdest q (Or.inr ⟨htail, hpingable⟩)

/-- The controller in the round that the next ping belongs to. -/
def nextRound (w : Core) (now : Int) : IceController :=
  if w.controller.unpingedConnections.any fun conn => isPingable w conn now then w.controller
  else
    { w.controller with
        unpingedConnections := w.controller.pingedConnections.foldl
          (fun set conn => setInsert conn set) w.controller.unpingedConnections
        pingedConnections := [] }

section

variable {w : Core} (hnone : w.controller.selectedConnection = none) (now : Int)
include hnone

/-- Without a selected connection all that counts is the credentials. -/
theorem isPingable_iff (p : Ptr) : isPingable w p now = true ↔ HasCredentials w p := by
  unfold isPingable HasCredentials weak
  rw [hnone]
  simp

/-- `_find_next_pingable_connection` starts a new round where it has to, and then takes the oldest
pingable connection of the round. -/
theorem findNextPingableConnection_eq :
    findNextPingableConnection w now
      = (findPingable w now (nextRound w now).unpingedConnections none, nextRound w now) := by
  unfold findNextPingableConnection nextRound
  dsimp only
  rw [hnone]
  rfl

/-- The new round is a refill of the scheduler: it happens only where nobody in the current round
can be pinged. -/
theorem refill_nextRound :
    Rounds.Refill (rounds w) (rounds { w with controller := nextRound w now }) := by
  unfold nextRound
  by_cases hany : (w.controller.unpingedConnections.any fun conn => isPingable w conn now) = true
  · rw [if_pos hany]
    obtain ⟨p, hp, hpingable⟩ := List.any_eq_true.mp hany
    exact .kept ⟨p, hp, (isPingable_iff hnone now p).mp hpingable⟩
  · rw [if_neg hany]
    have hrefilled := Rounds.Refill.refilled (s := rounds w) fun p hp heligible =>
      hany (List.any_eq_true.mpr ⟨p, hp, (isPingable_iff hnone now p).mpr heligible⟩)
    convert hrefilled using 1
    simp only [rounds, Rounds.members, Rounds.mk.injEq]
    refine ⟨?_, ?_, trivial, trivial, rfl⟩
    · ext p
      exact mem_foldl_setInsert _ _
    · ext p
      exact List.mem_nil_iff p

end

/-- The two sets make up the connections in the new round, too. -/
theorem partitioned_nextRound {w : Core} (hw : Partitioned w.controller) (now : Int) :
    Partitioned (nextRound w now) := by
  unfold nextRound
  split
  · exact hw
  · refine ⟨fun p _ hp => (nomatch hp), fun p => ?_⟩
    rw [mem_foldl_setInsert, ← hw.members p]
    simp

/-- A connection that was not pinged in this round goes to the other set. -/
theorem partitioned_markConnectionPinged {c : IceController} (hc : Partitioned c) {p : Ptr}
    (hp : p ∈ c.unpingedConnections) : Partitioned (c.markConnectionPinged p) := by
  unfold markConnectionPinged
  rw [if_neg (hc.disjoint p hp)]
  refine ⟨fun q hq hpinged => ?_, fun q => ?_⟩
  · obtain ⟨hold, hne⟩ := List.mem_filter.mp hq
    rcases mem_setInsert.mp hpinged with heq | hmem
    · simp [heq] at hne
    · exact hc.disjoint q hold hmem
  · rw [hc.members q, List.mem_filter, mem_setInsert]
    by_cases hq : q = p
    · simp [hq, hp]
    · simp [hq]

/-- A ping comes at least the weak ping interval after the last one. -/
theorem lastPingSentMs_lt {w : Core} {last now : Int} {p : Ptr}
    (h : (selectConnectionToPing w (last - pingIntervalDiff) now).1 = some p) : last < now := by
  unfold selectConnectionToPing at h
  dsimp only at h
  simp only [pingIntervalDiff, weakPingInterval, strongPingInterval] at h
  split_ifs at h <;> omega

/-! ### One event -/

section

variable (digest : MessageDigest) (allocator : Allocator)

/-- Without a connection to ping, the timer only keeps the interval, and the sets as the search
has left them. -/
theorem pingNext_eq_of_none {v : World} {now : Int} (id : Bytes)
    (h : (selectConnectionToPing v.toCore (v.channel.lastPingSentMs - pingIntervalDiff) now).1
      = none) :
    pingNext digest v now id =
      { v with
          controller := (selectConnectionToPing v.toCore
            (v.channel.lastPingSentMs - pingIntervalDiff) now).2.2
          channel := { v.channel with
            curPingInterval := (selectConnectionToPing v.toCore
              (v.channel.lastPingSentMs - pingIntervalDiff) now).2.1 } } := by
  unfold pingNext
  dsimp only
  rw [h]

/-- A ping adds itself to the pings, and nothing else of what it does is one. -/
theorem ping_log (w : World) (p : Ptr) (now : Int) (id : Bytes) :
    (IceConnection.ping digest w p now id).log.filterMap pingOf
      = p :: w.log.filterMap pingOf := by
  have hsent := (marksKept_send ((w.modify p fun c => c.notePing id now).push (.pinged p id))
    (w.heap p).remoteCandidate.address (pingPacket digest (w.ports (w.heap p).port) (w.heap p)
      id)).pings
  exact hsent.trans (List.filterMap_cons_some rfl)

/-- What a tick that pings does to the marks: the connection that is pinged is marked, and the
time of the ping is noted. What else the ping does is of no account for the rounds. -/
theorem pingNext_marks {v : World} {now : Int} (id : Bytes) {p : Ptr}
    (h : (selectConnectionToPing v.toCore (v.channel.lastPingSentMs - pingIntervalDiff) now).1
      = some p) :
    (pingNext digest v now id).controller
        = (selectConnectionToPing v.toCore (v.channel.lastPingSentMs - pingIntervalDiff)
            now).2.2.markConnectionPinged p ∧
      (pingNext digest v now id).channel.lastPingSentMs = now ∧
      (pingNext digest v now id).heap
        = Function.update v.heap p ((v.heap p).notePing id now) ∧
      (pingNext digest v now id).log.filterMap pingOf = p :: v.log.filterMap pingOf := by
  unfold pingNext
  dsimp only
  rw [h]
  dsimp only
  refine ⟨?_, ?_, ?_, ?_⟩
  · unfold IceConnection.ping
    rw [World.send_toCore]
    rfl
  · unfold IceConnection.ping
    rw [World.send_toCore]
    rfl
  · unfold IceConnection.ping
    rw [World.send_toCore]
    rfl
  · exact ping_log digest _ p now id

/-- A tick that pings a connection of the round serves it: the connection leaves the set of those
that wait for the set of those that were served. -/
theorem serve_pingNext {v : World} (hv : Partitioned v.controller)
    (hnone : v.controller.selectedConnection = none) {now : Int} (id : Bytes) {p : Ptr}
    (hchosen : (selectConnectionToPing v.toCore (v.channel.lastPingSentMs - pingIntervalDiff)
      now).1 = some p)
    (hfound : findPingable v.toCore now (nextRound v.toCore now).unpingedConnections none = some p)
    (hmarked : (selectConnectionToPing v.toCore (v.channel.lastPingSentMs - pingIntervalDiff)
      now).2.2 = nextRound v.toCore now) :
    Rounds.Serve p (rounds { v.toCore with controller := nextRound v.toCore now })
        (rounds (pingNext digest v now id).toCore) ∧
      Partitioned (pingNext digest v now id).controller := by
  have hround := partitioned_nextRound hv now
  obtain ⟨hcontroller, htime, hheap⟩ := pingNext_marks digest id hchosen
  rw [hmarked] at hcontroller
  have hlater := lastPingSentMs_lt hchosen
  obtain ⟨hmem, holdest⟩ := findPingable_oldest _ none hfound
  obtain ⟨hwaiting, hpingable⟩ := hmem.resolve_left nofun
  have hnotPinged := hround.disjoint p hwaiting
  refine ⟨⟨hwaiting, ?_, ?_, ?_, ?_, ?_, ?_, ?_, ?_⟩, ?_⟩
  · exact (isPingable_iff hnone now p).mp hpingable
  · exact fun q hq heligible =>
      holdest q (Or.inr ⟨hq, (isPingable_iff hnone now q).mpr heligible⟩)
  · intro q
    simp only [rounds, hcontroller, markConnectionPinged, if_neg hnotPinged]
    simp
  · intro q
    simp only [rounds, hcontroller, markConnectionPinged, if_neg hnotPinged]
    rw [Set.mem_ofPred_eq, mem_setInsert, or_comm]
    rfl
  · simp only [rounds, hheap, htime, Function.update_self]
    rfl
  · intro q hq
    simp only [rounds, hheap, Function.update_of_ne hq]
  · simp only [rounds, htime]
    exact hlater
  · -- Noting the ping leaves the credentials of the connection as they are.
    ext q
    simp only [rounds, HasCredentials, hheap, Set.mem_ofPred_eq]
    by_cases hq : q = p
    · rw [hq, Function.update_self]
      rfl
    · rw [Function.update_of_ne hq]
  · rw [hcontroller]
    exact partitioned_markConnectionPinged hround hwaiting

/-- A tick with no connection selected is a turn of the scheduler: it serves a member of the
round, after a refill if none waits, or nobody. -/
theorem event_tick {v : World} (hv : Partitioned v.controller)
    (hnone : v.controller.selectedConnection = none) {s : Rounds Ptr}
    (hchange : Rounds.Change s (rounds v.toCore)) (now : Int) (id : Bytes) :
    Rounds.Event
        (selectConnectionToPing v.toCore (v.channel.lastPingSentMs - pingIntervalDiff) now).1
        s (rounds (pingNext digest v now id).toCore) ∧
      Partitioned (pingNext digest v now id).controller := by
  have hrefill := refill_nextRound hnone now
  have hround := partitioned_nextRound hv now
  have hcases := selectConnectionToPing_cases v.toCore (v.channel.lastPingSentMs - pingIntervalDiff)
    now
  rw [findNextPingableConnection_eq hnone now] at hcases
  cases hchosen : (selectConnectionToPing v.toCore
    (v.channel.lastPingSentMs - pingIntervalDiff) now).1 with
  | none =>
      rw [pingNext_eq_of_none digest id hchosen]
      dsimp only
      -- Not due, or a round in which nobody can be pinged: at most the sets are refilled.
      rcases hcases with ⟨-, hkept⟩ | ⟨-, hfound⟩
      · rw [hkept]
        exact ⟨.change hchange, hv⟩
      · rw [hfound]
        exact ⟨.refill hchange hrefill, hround⟩
  | some p =>
      rcases hcases with ⟨hno, -⟩ | ⟨hfound, hmarked⟩
      · rw [hno] at hchosen
        cases hchosen
      · obtain ⟨hserve, hpartitioned⟩ :=
          serve_pingNext digest hv hnone id hchosen (hfound.symm.trans hchosen) hmarked
        exact ⟨.serve hchange hrefill hserve, hpartitioned⟩

/-- A tick keeps the connections, their credentials and the selected connection. -/
theorem pingNext_kept (v : World) (now : Int) (id : Bytes) :
    (pingNext digest v now id).controller.selectedConnection = v.controller.selectedConnection ∧
      (pingNext digest v now id).controller.connections = v.controller.connections ∧
      ∀ p, HasCredentials (pingNext digest v now id).toCore p ↔ HasCredentials v.toCore p := by
  have hcontroller := selectConnectionToPing_controller v.toCore
    (v.channel.lastPingSentMs - pingIntervalDiff) now
  cases hchosen : (selectConnectionToPing v.toCore
    (v.channel.lastPingSentMs - pingIntervalDiff) now).1 with
  | none =>
      rw [pingNext_eq_of_none digest id hchosen]
      exact ⟨hcontroller.1, hcontroller.2, fun _ => Iff.rfl⟩
  | some p =>
      obtain ⟨hmarked, -, hheap, -⟩ := pingNext_marks digest id hchosen
      obtain ⟨hselected, hconnections⟩ := markConnectionPinged_controller
        (selectConnectionToPing v.toCore (v.channel.lastPingSentMs - pingIntervalDiff) now).2.2 p
      rw [hmarked]
      refine ⟨hselected.trans hcontroller.1, hconnections.trans hcontroller.2, fun q => ?_⟩
      unfold HasCredentials
      rw [hheap]
      by_cases hq : q = p
      · rw [hq, Function.update_self]
        rfl
      · rw [Function.update_of_ne hq]

/-- An event that is no tick pings nobody. -/
theorem regrouped_step {w : World} (hsound : Sound w) (hw : Partitioned w.controller) {e : Event}
    (htick : ∀ now id, e ≠ .tick now id) : Regrouped w (step digest allocator w e) := by
  have hkept := regrouped_of_marksKept hw (.refl w)
  cases e with
  | unknownAddress port addr msg remoteUfrag now =>
      exact regrouped_onUnknownAddress digest allocator hsound hw port addr msg remoteUfrag now
  | response p msg now =>
      show Regrouped w (if p ∈ w.live then _ else w)
      split
      · exact regrouped_checkResponse hw p msg now
      · exact hkept
  | connectionState p now =>
      show Regrouped w (if p ∈ w.live then _ else w)
      split
      · exact regrouped_of_marksKept hw (marksKept_updateState w p now)
      · exact hkept
  | tick now id => exact absurd rfl (htick now id)
  | destroy p now =>
      show Regrouped w (if p ∈ w.live then _ else w)
      split
      · exact regrouped_destroy hw p now
      · exact hkept
  | setRemoteIceParams params now => exact regrouped_setRemoteIceParams hw params now
  | reuse heap => exact regrouped_reuse hsound hw heap

/-- What the scheduler keeps between events. -/
structure Scheduled (w : World) : Prop where
  sound : Sound w
  partitioned : Partitioned w.controller
  valid : (rounds w.toCore).Valid

/-- An event that leaves no connection selected is an event of the scheduler. -/
theorem event_step {w : World} (hw : Scheduled w) (e : Event)
    (hnone : (step digest allocator w e).controller.selectedConnection = none) :
    Rounds.Event (pingedBy w e) (rounds w.toCore) (rounds (step digest allocator w e).toCore) ∧
      Partitioned (step digest allocator w e).controller := by
  by_cases htick : ∃ now id, e = .tick now id
  · obtain ⟨now, id, rfl⟩ := htick
    unfold pingedBy
    dsimp only [step] at hnone ⊢
    split
    · rename_i hpinging
      rw [if_pos hpinging] at hnone
      have hupdated := regrouped_of_marksKept hw.partitioned (marksKept_updateConnectionStates w now)
      rw [onCheckAndPing, (pingNext_kept digest _ now id).1] at hnone
      exact event_tick digest hupdated.partitioned hnone hupdated.change now id
    · exact ⟨.change (regrouped_of_marksKept hw.partitioned (.refl w)).change, hw.partitioned⟩
  · have hno : ∀ now id, e ≠ .tick now id := fun now id he => htick ⟨now, id, he⟩
    have hregrouped := regrouped_step digest allocator hw.sound hw.partitioned hno
    have hpings : pingedBy w e = none := by
      cases e with
      | tick now id => exact absurd rfl (hno now id)
      | _ => rfl
    rw [hpings]
    exact ⟨.change hregrouped.change, hregrouped.partitioned⟩

/-- The invariant of the scheduler holds after every event, as long as no connection is selected.
-/
theorem scheduled_step {w : World} (hw : Scheduled w) (e : Event)
    (hnone : (step digest allocator w e).controller.selectedConnection = none) :
    Scheduled (step digest allocator w e) := by
  obtain ⟨hevent, hpartitioned⟩ := event_step digest allocator hw e hnone
  exact ⟨sound_step digest allocator w e hw.sound, hpartitioned, hw.valid.event hevent⟩

/-- The record has exactly the pings of `pingedBy`. -/
theorem pings_step {w : World} (hw : Scheduled w) (e : Event) :
    pings (step digest allocator w e) = (pingedBy w e).toList ++ pings w := by
  by_cases htick : ∃ now id, e = .tick now id
  · obtain ⟨now, id, rfl⟩ := htick
    unfold pingedBy
    dsimp only [step]
    split
    · have hupdated := (marksKept_updateConnectionStates w now).pings
      rw [onCheckAndPing, ← hupdated]
      cases hchosen : (selectConnectionToPing (updateConnectionStates w now).toCore
        ((updateConnectionStates w now).channel.lastPingSentMs - pingIntervalDiff) now).1 with
      | none =>
          rw [pingNext_eq_of_none digest id hchosen]
          rfl
      | some p => exact (pingNext_marks digest id hchosen).2.2.2
    · rfl
  · have hno : ∀ now id, e ≠ .tick now id := fun now id he => htick ⟨now, id, he⟩
    have hpings := (regrouped_step digest allocator hw.sound hw.partitioned hno).pings
    cases e with
    | tick now id => exact absurd rfl (hno now id)
    | _ => exact hpings

/-- Who is there and has credentials when a ping is due still is and has after it. -/
theorem kept_of_pingedBy {w : World} {e : Event} {a p : Ptr} (h : pingedBy w e = some a) :
    (p ∈ (step digest allocator w e).controller.connections ↔ p ∈ w.controller.connections) ∧
      (HasCredentials (step digest allocator w e).toCore p ↔ HasCredentials w.toCore p) := by
  cases e with
  | tick now id =>
      dsimp only [step]
      split
      · have hupdated := marksKept_updateConnectionStates w now
        obtain ⟨-, hconnections, hcredentials⟩ :=
          pingNext_kept digest (updateConnectionStates w now) now id
        refine ⟨?_, (hcredentials p).trans ?_⟩
        · rw [onCheckAndPing, hconnections]
          exact hupdated.connections p
        · unfold HasCredentials
          rw [hupdated.remoteCandidate p]
      · exact ⟨Iff.rfl, Iff.rfl⟩
  | unknownAddress | response | connectionState | destroy | setRemoteIceParams | reuse => cases h

end

/-! ### Runs -/

/-- It holds of a new channel, which has no connection. -/
theorem scheduled_init (heap : Ptr → IceConnection) (params : Nat → IceParameters)
    (localCandidate : Nat → Candidate) : Scheduled (World.init heap params localCandidate) :=
  ⟨sound_init heap params localCandidate, ⟨fun _ hp => (nomatch hp), fun p => by simp [World.init]⟩,
    ⟨fun _ hp => (nomatch hp), fun _ hp => (nomatch hp)⟩⟩

/-- In every run of a channel that never selects a connection: the two sets of the
controller are a partition of its connections in every state, and between two pings of a
connection that is there all the time, every other connection that is there with remote
credentials all the time is pinged. -/
theorem ping_fair (digest : MessageDigest) (allocator : Allocator)
    (heap : Ptr → IceConnection) (params : Nat → IceParameters)
    (localCandidate : Nat → Candidate) (events : List Event)
    (hnone : Always (step digest allocator)
      (fun w => w.controller.selectedConnection = none)
      (World.init heap params localCandidate) events) :
    Always (step digest allocator) (fun w => Partitioned w.controller)
        (World.init heap params localCandidate) events ∧
      ∀ before first between second after a b,
        events = before ++ first :: between ++ second :: after →
        let start := run (step digest allocator) (World.init heap params localCandidate) before
        let pinged := step digest allocator start first
        pingedBy start first = some a →
        pingedBy (run (step digest allocator) pinged between) second = some a →
        Always (step digest allocator)
          (fun w => a ∈ w.controller.connections ∧ b ∈ w.controller.connections ∧
            HasCredentials w.toCore b) pinged between →
        b ≠ a →
        ∃ earlier turn later, between = earlier ++ turn :: later ∧
          pingedBy (run (step digest allocator) pinged earlier) turn = some b := by
  have hscheduled : Always (step digest allocator) Scheduled
      (World.init heap params localCandidate) events :=
    always_of_steps (fun w e hw hnext => scheduled_step digest allocator hw e hnext)
      (scheduled_init heap params localCandidate) hnone.steps_next
  refine ⟨hscheduled.imp fun w hw => hw.partitioned, ?_⟩
  rintro before first between second after a b rfl start pinged hfirst hsecond hpresent hne
  -- the part of the run from the first ping to the second
  have hok := hscheduled.and hnone
  rw [List.append_assoc] at hok
  have hstart := hok.append_right
  have hperiod : Always (step digest allocator)
      (fun w => Scheduled w ∧ w.controller.selectedConnection = none) pinged
      (between ++ [second]) := by
    have hrest : Always (step digest allocator)
        (fun w => Scheduled w ∧ w.controller.selectedConnection = none) pinged
        (between ++ second :: after) := hstart.2
    rw [← List.singleton_append, ← List.append_assoc] at hrest
    exact hrest.append_left
  have hmember : ∀ {w : World} {p : Ptr}, Partitioned w.controller →
      p ∈ w.controller.connections → p ∈ (rounds w.toCore).members :=
    fun hw hp => (hw.members _).mp hp
  have hthere := hpresent.concat (e := second) (by
    have hlast := hpresent.last
    rw [(kept_of_pingedBy digest allocator hsecond).1, (kept_of_pingedBy digest allocator hsecond).1,
      (kept_of_pingedBy digest allocator hsecond).2]
    exact hlast)
  have hmembers := (hperiod.and hthere).imp
    (Q := fun w => a ∈ (rounds w.toCore).members ∧ b ∈ (rounds w.toCore).members ∧
      b ∈ (rounds w.toCore).eligible)
    fun w hw => ⟨hmember hw.1.1.partitioned hw.2.1, hmember hw.1.1.partitioned hw.2.2.1, hw.2.2.2⟩
  -- after its ping the first connection is behind the other one
  have hbehind : Rounds.Behind a b (rounds pinged.toCore) := by
    have hevent := (event_step digest allocator hstart.head.1 first hperiod.head.2).1
    rw [show pingedBy _ first = some a from hfirst] at hevent
    exact Rounds.behind_of_event hstart.head.1.valid hevent hmembers.head.2.1 hne.symm
  have hevents : ∀ w e, (Scheduled w ∧ w.controller.selectedConnection = none) →
      (Scheduled (step digest allocator w e) ∧
        (step digest allocator w e).controller.selectedConnection = none) →
      Rounds.Event (pingedBy w e) (rounds w.toCore) (rounds (step digest allocator w e).toCore) :=
    fun w e hw hnext => (event_step digest allocator hw.1 e hnext.2).1
  exact Rounds.served_between hevents hperiod hmembers hperiod.head.1.valid hbehind hsecond

/-- Two peers that never answer. The first one is pinged twice. -/
def silentPeers : List Event :=
  [.setRemoteIceParams ⟨ascii "r", ascii "p"⟩ 900,
    .unknownAddress 0 ⟨.v4 1, 1⟩ bindingRequest (ascii "r") 900,
    .unknownAddress 0 ⟨.v4 2, 2⟩ bindingRequest (ascii "r") 900,
    .tick 1000 [1],
    .tick 1048 [2],
    .tick 1096 [3]]

/-- Two peers that never answer: between two pings of the first one there is a ping of the other.
-/
theorem silentPeers_fair :
    ∃ earlier turn later, [Event.tick 1048 [2]] = earlier ++ turn :: later ∧
      pingedBy (run (step (fixedDigest (Vector.replicate 20 0) 0) nextFree)
        (afterRun (silentPeers.take 4)) earlier) turn = some 2 := by
  have hnone : Always (step (fixedDigest (Vector.replicate 20 0) 0) nextFree)
      (fun w => w.controller.selectedConnection = none) freshChannel silentPeers := by
    decide +kernel
  exact (ping_fair _ nextFree _ _ _ silentPeers hnone).2 (silentPeers.take 3) (.tick 1000 [1])
    [.tick 1048 [2]] (.tick 1096 [3]) [] 1 2 rfl (by decide +kernel) (by decide +kernel)
    (by decide +kernel) (by decide)

end Xrtc.Proofs.Ice
