import Mathlib.Algebra.Order.BigOperators.Group.List
import Mathlib.Data.Prod.Lex
import Xrtc.Lib.StableSort
import Xrtc.Proofs.Ice.ChannelState
import Xrtc.Proofs.Ice.StunWalk

/-!
# `Xrtc.Proofs.Ice.SelectedConnection`: which connection is selected

The channel sends on its selected connection, and the controller keeps a pointer of
its own to the one it selected last. Two results, both about every run of a channel:

* `failsOver_iff`: a call of `_sort_connections_and_update_state` leaves a usable
  connection selected whenever there is one, exactly when it is not blocked. It is
  blocked when the selected connection is not usable and the best connection is not
  `k_min_improvement` better, in round-trip time, than the connection the controller
  remembers, be that one timed out or destroyed.
* `always_coherent_iff`: the two pointers and the flags of the connections agree in
  every state of a run, exactly when no step of it destroys the selected connection
  without finding a replacement that passes the same test.

The first section shows that the comparison of the sort is the lexicographic order
of a rank, so the first connection after the sort is a best one (`best_head`).
-/

set_option autoImplicit false

namespace Xrtc.Proofs.Ice

open Xrtc.Lib
open Xrtc.Ice
open Xrtc.Ice.IceTransportChannel
open Xrtc.Ice.IceController

/-! ### The order of the connections -/

/-- What the comparison looks at, in its order. A smaller rank sorts first. -/
def rank (w : Core) (p : Ptr) : Nat ×ₗ Nat ×ₗ Natᵒᵈ ×ₗ Int :=
  toLex ((w.heap p).writeState.toNat, toLex ((!(w.heap p).receiving).toNat,
    toLex (OrderDual.toDual (priority w p).toNat, (w.heap p).rtt)))

/-- The comparison is that of the ranks, in the order of the sort. -/
theorem sortsBefore_iff (w : Core) (a b : Ptr) :
    sortsBefore w a b = true ↔ rank w a < rank w b := by
  -- the first test, for writable connections, is a case of the second, for write states
  have hwrite : ∀ p, (w.heap p).writable = decide ((w.heap p).writeState.toNat = 0) := by
    intro p
    cases h : (w.heap p).writeState <;> simp [IceConnection.writable, h, WriteState.toNat]
  simp only [rank, Prod.Lex.toLex_lt_toLex, OrderDual.toDual_lt_toDual, sortsBefore,
    compareConnections, hwrite, UInt64.lt_iff_toNat_lt, EmbeddingLike.apply_eq_iff_eq]
  generalize (w.heap a).writeState.toNat = wa
  generalize (w.heap b).writeState.toNat = wb
  generalize (priority w a).toNat = pa
  generalize (priority w b).toNat = pb
  cases (w.heap a).receiving <;> cases (w.heap b).receiving <;> simp <;> grind

/-- So the ranks are what the sort goes by. -/
theorem isRank_rank (w : Core) : IsRank (rank w) (sortsBefore w) := sortsBefore_iff w

/-- One connection does not come after another exactly when its rank is at most the other one's.
-/
theorem not_sortsBefore_iff (w : Core) (a b : Ptr) :
    sortsBefore w b a = false ↔ rank w a ≤ rank w b := (isRank_rank w).eq_false_iff a b

/-- A connection of the controller that no other sorts before. -/
def Best (w : Core) (top : Ptr) : Prop :=
  top ∈ w.controller.connections ∧ ∀ q ∈ w.controller.connections, sortsBefore w q top = false

/-- No connection in the sorted list would come before one in front of it. -/
theorem pairwise_sortConnections (w : Core) :
    (sortConnections w).Pairwise fun a b => sortsBefore w b a = false :=
  ((isRank_rank w).pairwise_stableSort w.controller.connections).imp
    fun hab => (not_sortsBefore_iff w _ _).mpr hab

/-- The sort puts a best connection first. -/
theorem best_head {w : Core} {top : Ptr} (h : (sortConnections w).head? = some top) :
    Best w top := by
  have hpairwise := pairwise_sortConnections w
  obtain ⟨rest, hrest⟩ : ∃ rest, sortConnections w = top :: rest := by
    cases hsorted : sortConnections w with
    | nil => simp [hsorted] at h
    | cons a rest =>
        rw [hsorted] at h
        cases h
        exact ⟨rest, rfl⟩
  rw [hrest] at hpairwise
  refine ⟨mem_sortConnections.mp (List.mem_of_mem_head? h), fun q hq => ?_⟩
  rw [← mem_sortConnections, hrest, List.mem_cons] at hq
  rcases hq with rfl | hq
  · rw [not_sortsBefore_iff]
  · exact List.rel_of_pairwise_cons hpairwise hq

/-- Where there is a connection, the sorted list has a first one. -/
theorem head_isSome {w : Core} {p : Ptr} (h : p ∈ w.controller.connections) :
    ∃ top, (sortConnections w).head? = some top := by
  cases hsorted : sortConnections w with
  | nil =>
      rw [← mem_sortConnections, hsorted] at h
      cases h
  | cons top rest => exact ⟨top, rfl⟩

/-- Two best connections have the same round-trip time, so it does not matter which of
them the sort puts first. -/
theorem rtt_eq_of_best {w : Core} {a b : Ptr} (ha : Best w a) (hb : Best w b) :
    (w.heap a).rtt = (w.heap b).rtt := by
  have hrank : rank w a = rank w b := le_antisymm
    ((not_sortsBefore_iff w a b).mp (ha.2 b hb.1)) ((not_sortsBefore_iff w b a).mp (hb.2 a ha.1))
  simp only [rank, EmbeddingLike.apply_eq_iff_eq, Prod.mk.injEq] at hrank
  exact hrank.2.2.2

/-- A connection is ready to send while its write state is one of the first two. -/
theorem readyToSend_iff (w : Core) (p : Ptr) :
    readyToSend w (some p) = true ↔ (w.heap p).writeState.toNat ≤ 1 := by
  show ((w.heap p).writeState == .writable || (w.heap p).writeState == .writeUnreliable) = true ↔ _
  cases (w.heap p).writeState <;> decide

/-- A best connection can be sent on if any can. -/
theorem readyToSend_of_best {w : Core} {top p : Ptr} (htop : Best w top)
    (hp : p ∈ w.controller.connections) (hready : readyToSend w (some p) = true) :
    readyToSend w (some top) = true := by
  have hrank := (not_sortsBefore_iff w top p).mp (htop.2 p hp)
  rw [readyToSend_iff] at hready ⊢
  simp only [rank, Prod.Lex.toLex_le_toLex] at hrank
  omega

/-! ### The switch -/

/-- A connection passes the test against the connection the controller remembers. -/
def Improves (w : Core) (conn : Ptr) : Prop :=
  ∀ s, w.controller.selectedConnection = some s →
    (w.heap conn).rtt ≤ (w.heap s).rtt - kMinImprovement

/-- `sort_and_switch_connection` returns the first connection after the sort, if it can
be sent on and passes the test. -/
theorem sortAndSwitchConnection_eq_some_iff {w : Core} {conn : Ptr} :
    (sortAndSwitchConnection w).1 = some conn ↔
      (sortConnections w).head? = some conn ∧ readyToSend w (some conn) = true ∧
        Improves w conn := by
  show switchTarget w (sortConnections w).head? = some conn ↔ _
  cases hhead : (sortConnections w).head? with
  | none =>
      constructor
      · intro h
        cases h
      · rintro ⟨h, -⟩
        cases h
  | some top =>
      unfold switchTarget Improves
      by_cases hready : readyToSend w (some top) = true
      · cases hselected : w.controller.selectedConnection with
        | none =>
            dsimp only
            rw [if_neg (by simp [hready])]
            constructor
            · intro h
              cases h
              -- without a selected connection there is nothing to improve on
              exact ⟨rfl, hready, fun s hs => nomatch hs⟩
            · exact fun h => h.1
        | some s =>
            by_cases hrtt : (w.heap top).rtt ≤ (w.heap s).rtt - kMinImprovement
            · -- the improvement is positive, so the remembered connection is another one
              have hne : s ≠ top := by
                rintro rfl
                simp only [kMinImprovement] at hrtt
                omega
              dsimp only
              rw [if_neg (by simp [hready, hne]), if_pos hrtt]
              constructor
              · intro h
                cases h
                exact ⟨rfl, hready, fun s' hs' => by cases hs'; exact hrtt⟩
              · exact fun h => h.1
            · dsimp only
              rw [if_neg hrtt, ite_self]
              constructor
              · intro h
                cases h
              · rintro ⟨h, -, himproves⟩
                cases h
                exact absurd (himproves s rfl) hrtt
      · dsimp only
        rw [if_pos (by simp [hready])]
        constructor
        · intro h
          cases h
        · rintro ⟨h, hready', -⟩
          cases h
          exact absurd hready' hready

/-- What is selected after the sort: the connection that was switched to, or else the one before.
-/
theorem switchedWorld_selectedConnection (w : World) :
    (switchedWorld w).channel.selectedConnection
      = (sortAndSwitchConnection w.toCore).1.or w.channel.selectedConnection := by
  unfold switchedWorld maybeSwitchSelectedConnection
  split
  · rename_i h
    rw [h]
    rfl
  · rename_i conn h
    rw [h]
    exact switchSelectedConnection_selectedConnection _ _

/-! ### Fail-over -/

/-- Some connection of the controller can be sent on. -/
def SomeReady (w : Core) : Prop :=
  ∃ p ∈ w.controller.connections, readyToSend w (some p) = true

instance (w : Core) : Decidable (SomeReady w) :=
  inferInstanceAs (Decidable (∃ p ∈ w.controller.connections, readyToSend w (some p) = true))

/-- If some connection can be sent on, then the channel has selected one that can. -/
def FailsOver (w : Core) : Prop :=
  SomeReady w → readyToSend w w.channel.selectedConnection = true

instance (w : Core) : Decidable (FailsOver w) :=
  inferInstanceAs (Decidable (SomeReady w → readyToSend w w.channel.selectedConnection = true))

/-- The sort can fail over: if some connection can be sent on, then the selected one
can, or a best one passes the test against the one the controller remembers. -/
def Unblocked (w : Core) : Prop :=
  SomeReady w → readyToSend w w.channel.selectedConnection = true ∨
    ∃ top, Best w top ∧ Improves w top

section

variable (w : World) (now : Int)

/-- No connection becomes ready to send by the sort, and none ceases to be. -/
theorem sortAndUpdate_readyToSend (conn : Option Ptr) :
    readyToSend (sortAndUpdate w now).toCore conn = readyToSend w.toCore conn := by
  cases conn with
  | none => rfl
  | some p =>
      obtain ⟨b, hb⟩ := switchedWorld_heap w p
      have hheap : (sortAndUpdate w now).heap p = { w.heap p with selected := b } := by
        rw [← hb]
        exact congrFun (sort_heap w now) p
      unfold readyToSend
      dsimp only
      rw [hheap]
      rfl

/-- So there is a ready one afterwards if there was one before. -/
theorem sortAndUpdate_someReady :
    SomeReady (sortAndUpdate w now).toCore ↔ SomeReady w.toCore := by
  have hmem : ∀ p, p ∈ (sortAndUpdate w now).controller.connections ↔
      p ∈ w.controller.connections := by
    intro p
    have hcontroller : (sortAndUpdate w now).controller = (switchedWorld w).controller :=
      sort_controller w now
    rw [hcontroller, switchedWorld_connections, mem_sortConnections]
  unfold SomeReady
  simp only [hmem, sortAndUpdate_readyToSend]

/-- One call: it leaves a usable connection selected exactly if it is not blocked. -/
theorem failsOver_sortAndUpdate_iff :
    FailsOver (sortAndUpdate w now).toCore ↔ Unblocked w.toCore := by
  have hselected : (sortAndUpdate w now).channel.selectedConnection
      = (sortAndSwitchConnection w.toCore).1.or w.channel.selectedConnection :=
    (sort_selectedConnection w now).trans (switchedWorld_selectedConnection w)
  unfold FailsOver Unblocked
  rw [sortAndUpdate_someReady, sortAndUpdate_readyToSend, hselected]
  refine imp_congr_right fun hready => ?_
  obtain ⟨p, hp, hpready⟩ := hready
  obtain ⟨top, hhead⟩ := head_isSome hp
  have hbest := best_head hhead
  have htopready := readyToSend_of_best hbest hp hpready
  cases hswitch : (sortAndSwitchConnection w.toCore).1 with
  | some conn =>
      -- it switches, and to a connection that can be sent on
      obtain ⟨hconn, hconnready, himproves⟩ := sortAndSwitchConnection_eq_some_iff.mp hswitch
      exact iff_of_true hconnready (Or.inr ⟨conn, best_head hconn, himproves⟩)
  | none =>
      -- it stays, so the first connection did not pass the test, and no best one does
      show readyToSend w.toCore w.channel.selectedConnection = true ↔ _
      constructor
      · exact Or.inl
      · rintro (hstays | ⟨other, hother, himproves⟩)
        · exact hstays
        · have htest : Improves w.toCore top := by
            intro s hs
            rw [rtt_eq_of_best hbest hother]
            exact himproves s hs
          have hsome := sortAndSwitchConnection_eq_some_iff.mpr ⟨hhead, htopready, htest⟩
          rw [hswitch] at hsome
          cases hsome

end

/-- Every recorded sort is a call of the code. -/
def Recorded (w : World) : Prop :=
  ∀ before after, Entry.sorted before after ∈ w.log →
    ∃ (v : World) (now : Int), v.toCore = before ∧ (sortAndUpdate v now).toCore = after

/-- A state whose sorts are all in a recorded one is recorded. -/
theorem Recorded.of_log {v w : World} (h : Recorded w)
    (hlog : ∀ before after, Entry.sorted before after ∈ v.log → Entry.sorted before after ∈ w.log) :
    Recorded v :=
  fun before after hmem => h before after (hlog before after hmem)

/-- A sort puts itself on record, with the state before it and after it. -/
theorem recorded_sort {w : World} (h : Recorded w) (now : Int) :
    Recorded (sortConnectionsAndUpdateState w now) := by
  obtain ⟨new, hlog, hnew⟩ := sort_log w now
  intro before after hmem
  rw [hlog, List.mem_cons, List.mem_append] at hmem
  rcases hmem with hcall | hsignal | hold
  · cases hcall
    exact ⟨w, now, rfl, rfl⟩
  · rcases hnew _ hsignal with ⟨_, he⟩ | ⟨_, he⟩ | ⟨_, he⟩ <;> cases he
  · exact h before after hold

/-- `_update_state` sorts nothing. -/
theorem recorded_updateState {w : World} (h : Recorded w) :
    Recorded (IceTransportChannel.updateState w) := by
  obtain ⟨new, hlog, hnew⟩ := updateState_log w
  refine h.of_log fun before after hmem => ?_
  rw [hlog, List.mem_append] at hmem
  rcases hmem with hsignal | hold
  · rcases hnew _ hsignal with ⟨_, he⟩ | ⟨_, he⟩ | ⟨_, he⟩ <;> cases he
  · exact hold

/-- An entry that is no sort needs no record. -/
theorem recorded_push {w : World} (h : Recorded w) {e : Entry}
    (he : ∀ before after, e ≠ .sorted before after) : Recorded (w.push e) :=
  h.of_log fun before after hmem => by
    rcases List.mem_cons.mp hmem with heq | hold
    · exact absurd heq.symm (he before after)
    · exact hold

/-- Neither does a packet. -/
theorem recorded_send {w : World} (h : Recorded w) (address : SocketAddress)
    (data : Option Bytes) : Recorded (w.send address data) := by
  cases data with
  | none => exact h
  | some data => exact recorded_push h fun _ _ he => by cases he

/-- A destroyed connection is taken out of the controller before the sort. -/
theorem recorded_destroy {w : World} (h : Recorded w) (p : Ptr) (now : Int) :
    Recorded (IceConnection.destroy w p now) := by
  refine recorded_push (w := { onConnectionDestroyed w p now with live := _ }) ?_
    fun _ _ he => by cases he
  show Recorded (onConnectionDestroyed w p now)
  unfold IceTransportChannel.onConnectionDestroyed
  dsimp only
  split
  · refine recorded_sort (h.of_log fun before after hmem => ?_) now
    rwa [switchSelectedConnection_log] at hmem
  · exact recorded_updateState (w := { w with controller := _ }) h

/-- So every action keeps the record, case by case. -/
theorem recorded_action {allocator : Allocator} {ok : Permits} {w w' : World}
    (haction : Action allocator ok w w') (h : Recorded w) : Recorded w' := by
  cases haction with
  | sent address data => exact recorded_push h fun _ _ he => by cases he
  | quiet p f hf => exact h
  | receiving p b now =>
      exact recorded_sort (w := w.modify p fun c => { c with receiving := b }) h now
  | writeState p s now hs =>
      exact recorded_sort (w := w.modify p fun c => { c with writeState := s }) h now
  | sort now => exact recorded_sort h now
  | bookkeeping controller params lastPing interval hselected hconnections => exact h
  | ping p id now hpassword =>
      exact recorded_push (w := w.modify p fun c => c.notePing id now) h fun _ _ he => by cases he
  | answer p id =>
      exact recorded_push (w := w.modify p fun c => c.removeRequest id) h fun _ _ he => by cases he
  | create port remoteCandidate address data now hcreate =>
      have hcreated : Recorded (createConnection allocator w port remoteCandidate) :=
        recorded_push (w := { w with heap := _, live := _, ports := _ }) h fun _ _ he => by cases he
      have hadded : Recorded (IceTransportChannel.addConnection
          (createConnection allocator w port remoteCandidate) (allocator.pick w.toCore)) := hcreated
      exact recorded_sort (recorded_send hadded address data) now
  | destroy p now hdestroy => exact recorded_destroy h p now
  | reuse heap => exact h

/-- And so does every event, which is a sequence of actions. -/
theorem recorded_step (digest : MessageDigest) (allocator : Allocator) (w : World) (e : Event)
    (h : Recorded w) : Recorded (step digest allocator w e) :=
  preserved_of_reflTransGen (P := Recorded) (fun _ _ haction hw => recorded_action haction hw)
    (actions_step digest w e) h

/-- In every run of a channel, every call of `_sort_connections_and_update_state` ends with a
usable connection selected, if there is one, exactly when it is not blocked. It is blocked by a
stale pointer of the controller, whose connection no candidate improves on. -/
theorem failsOver_iff (digest : MessageDigest) (allocator : Allocator)
    (heap : Ptr → IceConnection) (params : Nat → IceParameters)
    (localCandidate : Nat → Candidate) (events : List Event) (before after : Core)
    (h : Entry.sorted before after ∈
      (run (step digest allocator) (World.init heap params localCandidate) events).log) :
    FailsOver after ↔ Unblocked before := by
  have hinit : Recorded (World.init heap params localCandidate) :=
    fun _ _ hmem => by cases hmem
  have hrecorded := (always_of_step (recorded_step digest allocator) hinit events).last
  obtain ⟨v, now, rfl, rfl⟩ := hrecorded before after h
  exact failsOver_sortAndUpdate_iff v now

/-! #### Two peers -/

/-- An allocator that takes an address above all in use. -/
def nextFree : Allocator where
  pick w := w.live.sum + 1
  pick_not_mem _ hmem := absurd (List.le_sum_of_mem hmem) (Nat.not_succ_le_self _)

/-- A binding request with a user name and a priority. -/
def bindingRequest : StunMessage :=
  { type := stunBindingRequest
    attrs := [⟨stunAttrUsername, .byteString (ascii "l:r")⟩, ⟨stunAttrPriority, .uint32 1⟩] }

/-- A candidate with nothing in it. -/
def noCandidate : Candidate :=
  { address := ⟨.unspec, 0⟩, priority := 0, username := [], password := [] }

/-- A channel with ports that have no credentials, and memory with nothing in it. -/
def freshChannel : World :=
  World.init (fun _ => { port := 0, remoteCandidate := noCandidate }) (fun _ => {})
    (fun _ => noCandidate)

/-- Two connections are made and pinged, and both answer. The first has a round-trip
time of 60 ms and is selected, the second one of 100 ms. -/
def twoPeers : List Event :=
  [.setRemoteIceParams ⟨ascii "r", ascii "p"⟩ 900,
    .unknownAddress 0 ⟨.v4 1, 1⟩ bindingRequest (ascii "r") 900,
    .unknownAddress 0 ⟨.v4 2, 2⟩ bindingRequest (ascii "r") 900,
    .tick 1000 [1],
    .tick 1048 [2],
    .response 1 { type := stunBindingResponse, transactionId := [1] } 1060,
    .response 2 { type := stunBindingResponse, transactionId := [2] } 1148]

/-- The first peer answers the next ping with an error response, and its connection is
destroyed. -/
def twoPeersOneFails : List Event :=
  twoPeers ++
    [.tick 1200 [3],
      .response 1 { type := stunBindingErrorResponse, transactionId := [3] } 1210]

/-- The channel after a run of events, with the digests left out. -/
def afterRun (events : List Event) : World :=
  run (step (fixedDigest (Vector.replicate 20 0) 0) nextFree) freshChannel events

/-- The record has a sort that ends in a state with a given property. -/
theorem exists_sorted {w : World} {P : Core → Prop} [DecidablePred P]
    (h : (w.log.any fun e =>
      match e with
      | .sorted _ after => decide (P after)
      | _ => false) = true) :
    ∃ before after, Entry.sorted before after ∈ w.log ∧ P after := by
  obtain ⟨e, hmem, he⟩ := List.any_eq_true.mp h
  cases e with
  | sorted before after => exact ⟨before, after, hmem, of_decide_eq_true he⟩
  | _ => cases he

/-- With both peers answering, a sort ends with a usable connection selected, so it was
not blocked. -/
theorem twoPeers_failsOver :
    ∃ before after, Entry.sorted before after ∈ (afterRun twoPeers).log ∧
      SomeReady after ∧ Unblocked before := by
  obtain ⟨before, after, hmem, hready, hover⟩ :=
    exists_sorted (w := afterRun twoPeers) (P := fun after => SomeReady after ∧ FailsOver after)
      (by decide +kernel)
  exact ⟨before, after, hmem, hready, (failsOver_iff _ _ _ _ _ _ before after hmem).mp hover⟩

/-- After the first connection is destroyed, the second is writable but not selected:
its round-trip time is no improvement over that of the destroyed one. -/
theorem twoPeersOneFails_not_failsOver :
    ¬ ∀ before after, Entry.sorted before after ∈ (afterRun twoPeersOneFails).log →
      FailsOver after := by
  intro h
  obtain ⟨before, after, hmem, hnot⟩ :=
    exists_sorted (w := afterRun twoPeersOneFails) (P := fun after => ¬ FailsOver after)
      (by decide +kernel)
  exact hnot (h before after hmem)

/-! ### Coherence -/

/-- The channel and the controller have selected the same connection, which is one of
the controller's, and of the connections that exist exactly that one is flagged. -/
structure Coherent (w : Core) : Prop where
  pointers : w.channel.selectedConnection = w.controller.selectedConnection
  member : ∀ p, w.channel.selectedConnection = some p → p ∈ w.controller.connections
  flags : ∀ p ∈ w.live, (w.heap p).selected = true ↔ w.channel.selectedConnection = some p

/-- Coherence depends on the pointers, the members, the connections that exist and
their flags. -/
theorem Coherent.congr {v w : Core} (hw : Coherent w)
    (hchannel : v.channel.selectedConnection = w.channel.selectedConnection)
    (hcontroller : v.controller.selectedConnection = w.controller.selectedConnection)
    (hmembers : ∀ p, p ∈ w.controller.connections → p ∈ v.controller.connections)
    (hlive : ∀ p ∈ v.live, p ∈ w.live ∧ (v.heap p).selected = (w.heap p).selected) :
    Coherent v := by
  refine ⟨?_, fun p hp => ?_, fun p hp => ?_⟩
  · rw [hchannel, hcontroller]
    exact hw.pointers
  · rw [hchannel] at hp
    exact hmembers p (hw.member p hp)
  · obtain ⟨hlive, hflag⟩ := hlive p hp
    rw [hflag, hchannel]
    exact hw.flags p hlive

/-- A change of one connection that keeps its flag. -/
theorem coherent_modify_iff (w : World) (p : Ptr) {f : IceConnection → IceConnection}
    (hf : ∀ c, (f c).selected = c.selected) :
    Coherent (w.modify p f).toCore ↔ Coherent w.toCore := by
  have hflag : ∀ q, ((w.modify p f).heap q).selected = (w.heap q).selected := by
    intro q
    by_cases hqp : q = p
    · subst hqp
      rw [World.modify_heap_self, hf]
    · rw [World.modify_heap_of_ne _ _ hqp]
  constructor
  · intro h
    exact h.congr rfl rfl (fun _ hq => hq) fun q hq => ⟨hq, (hflag q).symm⟩
  · intro h
    exact h.congr rfl rfl (fun _ hq => hq) fun q hq => ⟨hq, hflag q⟩

/-- A change of a connection that leaves its flag keeps the channel and the controller coherent.
-/
theorem coherent_modify {w : World} (h : Coherent w.toCore) (p : Ptr)
    {f : IceConnection → IceConnection} (hf : ∀ c, (f c).selected = c.selected) :
    Coherent (w.modify p f).toCore :=
  (coherent_modify_iff w p hf).mpr h

/-- A switch to a connection of the controller makes the channel coherent, if no other
connection is flagged than the one that was selected. -/
theorem coherent_switchSelectedConnection {w : World} {conn : Ptr}
    (hmem : conn ∈ w.controller.connections)
    (hflags : ∀ p ∈ w.live, (w.heap p).selected = true → w.channel.selectedConnection = some p) :
    Coherent (switchSelectedConnection w (some conn)).toCore := by
  have hcontroller : (switchSelectedConnection w (some conn)).controller.selectedConnection
      = some conn := by
    unfold switchSelectedConnection
    cases w.channel.selectedConnection <;> rfl
  -- the flag was set of the old connection only, and there it is taken back
  have hunselected : ∀ p ∈ w.live, p ≠ conn →
      ((switchSelectedConnection w (some conn)).heap p).selected = false := by
    intro p hp hne
    unfold switchSelectedConnection
    cases hold : w.channel.selectedConnection with
    | none =>
        dsimp only
        rw [World.modify_heap_of_ne _ _ hne]
        exact Bool.eq_false_iff.mpr fun hflag => by
          have := hflags p hp hflag
          rw [hold] at this
          cases this
    | some old =>
        dsimp only
        rw [World.modify_heap_of_ne _ _ hne]
        by_cases hpold : p = old
        · subst hpold
          rw [World.modify_heap_self]
        · rw [World.modify_heap_of_ne _ _ hpold]
          exact Bool.eq_false_iff.mpr fun hflag => by
            have := hflags p hp hflag
            rw [hold] at this
            cases this
            exact hpold rfl
  have hselected : ((switchSelectedConnection w (some conn)).heap conn).selected = true := by
    unfold switchSelectedConnection
    cases w.channel.selectedConnection <;> simp
  refine ⟨?_, fun p hp => ?_, fun p hp => ?_⟩
  · rw [switchSelectedConnection_selectedConnection, hcontroller]
  · rw [switchSelectedConnection_selectedConnection] at hp
    cases hp
    rw [switchSelectedConnection_connections]
    exact hmem
  · rw [switchSelectedConnection_live] at hp
    rw [switchSelectedConnection_selectedConnection]
    by_cases hpconn : p = conn
    · subst hpconn
      exact iff_of_true hselected rfl
    · rw [hunselected p hp hpconn]
      exact iff_of_false (by decide) fun heq => hpconn (Option.some.inj heq).symm

/-- Coherence of the state after a sort is that of the state after the switch. -/
theorem coherent_sort_iff (w : World) (now : Int) :
    Coherent (sortConnectionsAndUpdateState w now).toCore ↔ Coherent (switchedWorld w).toCore := by
  have hlive : ∀ p, p ∈ (sortConnectionsAndUpdateState w now).live ↔ p ∈ (switchedWorld w).live :=
    fun p => by rw [sort_live]
  constructor
  · intro h
    refine h.congr (sort_selectedConnection w now).symm ?_ ?_ ?_
    · rw [sort_controller]
    · rw [sort_controller]
      exact fun _ hp => hp
    · exact fun p hp => ⟨(hlive p).mpr hp, by rw [sort_heap]⟩
  · intro h
    refine h.congr (sort_selectedConnection w now) ?_ ?_ ?_
    · rw [sort_controller]
    · rw [sort_controller]
      exact fun _ hp => hp
    · exact fun p hp => ⟨(hlive p).mp hp, by rw [sort_heap]⟩

/-- A sort that switches makes the channel coherent. -/
theorem coherent_of_switch {w : World} {conn : Ptr}
    (hswitch : (sortAndSwitchConnection w.toCore).1 = some conn)
    (hflags : ∀ p ∈ w.live, (w.heap p).selected = true → w.channel.selectedConnection = some p)
    (now : Int) : Coherent (sortConnectionsAndUpdateState w now).toCore := by
  rw [coherent_sort_iff]
  unfold switchedWorld
  rw [hswitch]
  refine coherent_switchSelectedConnection (w := sortedWorld w) ?_ hflags
  exact mem_sortConnections.mpr (switchTarget_mem hswitch)

/-- A sort keeps them coherent, whether it switches or not. -/
theorem coherent_sort {w : World} (h : Coherent w.toCore) (now : Int) :
    Coherent (sortConnectionsAndUpdateState w now).toCore := by
  cases hswitch : (sortAndSwitchConnection w.toCore).1 with
  | some conn => exact coherent_of_switch hswitch (fun p hp => (h.flags p hp).mp) now
  | none =>
      rw [coherent_sort_iff]
      unfold switchedWorld
      rw [hswitch]
      exact h.congr (v := (sortedWorld w).toCore) rfl rfl
        (fun _ => mem_sortConnections.mpr) fun p hp => ⟨hp, rfl⟩

/-- A new connection is not flagged, and its address is not the selected one. -/
theorem coherent_create {allocator : Allocator} {w : World} (hsound : Sound w)
    (h : Coherent w.toCore) (port : Nat) (remoteCandidate : Candidate) (address : SocketAddress)
    (data : Option Bytes) (now : Int) :
    Coherent (sortConnectionsAndUpdateState
      ((IceTransportChannel.addConnection (createConnection allocator w port remoteCandidate)
        (allocator.pick w.toCore)).send address data) now).toCore := by
  have hfresh := allocator.pick_not_mem w.toCore
  refine coherent_sort ?_ now
  rw [World.send_toCore]
  refine ⟨h.pointers, fun p hp => List.mem_append_left _ (h.member p hp), fun p hp => ?_⟩
  show (Function.update w.heap (allocator.pick w.toCore) _ p).selected = true ↔
    w.channel.selectedConnection = some p
  rcases List.mem_cons.mp hp with rfl | hp
  · rw [Function.update_self]
    refine iff_of_false (by simp) fun hselected => hfresh (hsound.selected _ hselected)
  · have hne : p ≠ allocator.pick w.toCore := fun heq => hfresh (heq ▸ hp)
    rw [Function.update_of_ne hne]
    exact h.flags p hp

/-- Every action but the destruction of a connection keeps the channel coherent. Only a switch
touches the selected connection, and it sets all three places. -/
theorem coherent_action {allocator : Allocator} {ok : Permits} {w w' : World}
    (haction : Action allocator ok w w') (hok : ∀ p, ¬ ok.destroy p) (hsound : Sound w)
    (h : Coherent w.toCore) : Coherent w'.toCore := by
  cases haction with
  | sent address data => exact h
  | quiet p f hf => exact coherent_modify h p hf.selected
  | receiving p b now =>
      exact coherent_sort
        (coherent_modify h p (f := fun c => { c with receiving := b }) fun _ => rfl) now
  | writeState p s now hs =>
      exact coherent_sort
        (coherent_modify h p (f := fun c => { c with writeState := s }) fun _ => rfl) now
  | sort now => exact coherent_sort h now
  | bookkeeping controller params lastPing interval hselected hconnections =>
      exact h.congr rfl hselected (fun p hp => by rwa [hconnections]) fun p hp => ⟨hp, rfl⟩
  | ping p id now hpassword =>
      exact coherent_modify h p (f := fun c => c.notePing id now) fun _ => rfl
  | answer p id => exact coherent_modify h p (f := fun c => c.removeRequest id) fun _ => rfl
  | create port remoteCandidate address data now hcreate =>
      exact coherent_create hsound h port remoteCandidate address data now
  | destroy p now hdestroy => exact absurd hdestroy (hok p)
  | reuse heap =>
      refine h.congr rfl rfl (fun _ hp => hp) fun p hp => ⟨hp, ?_⟩
      have hlive : p ∈ w.live := hp
      simp only [if_pos hlive]

/-! #### Destroying a connection -/

/-- The channel's objects without a connection that is about to be freed. -/
def without (w : Core) (p : Ptr) : Core :=
  { w with controller := w.controller.onConnectionDestroyed p }

/-- The connection can be replaced: a best one of the others can be sent on, and its
round-trip time is an improvement. -/
def Replaceable (w : Core) (p : Ptr) : Prop :=
  ∃ top, Best (without w p) top ∧ readyToSend w (some top) = true ∧
    (w.heap top).rtt ≤ (w.heap p).rtt - kMinImprovement

/-- The comparison of two connections depends on these two and on the ports only. -/
theorem sortsBefore_congr {v w : Core} {a b : Ptr} (hports : v.ports = w.ports)
    (ha : v.heap a = w.heap a) (hb : v.heap b = w.heap b) :
    sortsBefore v a b = sortsBefore w a b := by
  unfold sortsBefore compareConnections priority
  rw [ha, hb, hports]

/-- A connection that was taken out is not among the others. -/
theorem ne_of_mem_without {w : Core} {p q : Ptr}
    (h : q ∈ (without w p).controller.connections) : q ≠ p := by
  have hfilter : q ∈ w.controller.connections.filter (· ≠ p) := h
  simpa using (List.mem_filter.mp hfilter).2

/-- The best of the others is the same in any state that differs in one connection. -/
theorem best_congr {v w : Core} {p top : Ptr}
    (hconnections : v.controller.connections = (without w p).controller.connections)
    (hports : v.ports = w.ports) (hheap : ∀ q, q ≠ p → v.heap q = w.heap q) :
    Best v top ↔ Best (without w p) top := by
  unfold Best
  rw [hconnections]
  refine and_congr_right fun htop => forall₂_congr fun q hq => ?_
  rw [sortsBefore_congr (w := without w p) hports (hheap q (ne_of_mem_without hq))
    (hheap top (ne_of_mem_without htop))]

/-- Whether a connection is ready depends on this connection only. -/
theorem readyToSend_congr {v w : Core} {p : Ptr} (h : v.heap p = w.heap p) :
    readyToSend v (some p) = readyToSend w (some p) := by
  unfold readyToSend
  dsimp only
  rw [h]

/-- Whether a destroyed connection can be replaced does not depend on what it says about itself,
apart from its rtt. -/
theorem replaceable_modify (w : World) (p : Ptr) {f : IceConnection → IceConnection}
    (hf : ∀ c, (f c).rtt = c.rtt) :
    Replaceable (w.modify p f).toCore p ↔ Replaceable w.toCore p := by
  refine exists_congr fun top => ?_
  rw [best_congr (v := without (w.modify p f).toCore p) (w := w.toCore) rfl rfl
    fun q hq => World.modify_heap_of_ne w f hq]
  refine and_congr_right fun htop => ?_
  have hne := ne_of_mem_without htop.1
  rw [World.modify_heap_self, hf, World.modify_heap_of_ne w f hne,
    readyToSend_congr (World.modify_heap_of_ne w f hne)]

/-- A sort without the connection, while the controller still remembers it, switches
exactly if it can be replaced. -/
theorem switches_iff_replaceable {v w : Core} {p : Ptr}
    (hconnections : v.controller.connections = (without w p).controller.connections)
    (hselected : v.controller.selectedConnection = some p) (hports : v.ports = w.ports)
    (hheap : ∀ q, q ≠ p → v.heap q = w.heap q) (hrtt : (v.heap p).rtt = (w.heap p).rtt) :
    (∃ conn, (sortAndSwitchConnection v).1 = some conn) ↔ Replaceable w p := by
  constructor
  · rintro ⟨conn, hswitch⟩
    obtain ⟨hhead, hready, himproves⟩ := sortAndSwitchConnection_eq_some_iff.mp hswitch
    have hbest := (best_congr hconnections hports hheap).mp (best_head hhead)
    have hsame := hheap conn (ne_of_mem_without hbest.1)
    refine ⟨conn, hbest, (readyToSend_congr hsame).symm.trans hready, ?_⟩
    rw [← hsame, ← hrtt]
    exact himproves p hselected
  · rintro ⟨top, htop, hready, himproves⟩
    have hbest := (best_congr hconnections hports hheap).mpr htop
    have hsame := hheap top (ne_of_mem_without htop.1)
    -- the sort may put another best connection first, with the same round-trip time
    obtain ⟨first, hhead⟩ := head_isSome hbest.1
    have hfirst := best_head hhead
    refine ⟨first, sortAndSwitchConnection_eq_some_iff.mpr ⟨hhead, ?_, fun s hs => ?_⟩⟩
    · exact readyToSend_of_best hfirst hbest.1 ((readyToSend_congr hsame).trans hready)
    · rw [hselected] at hs
      cases hs
      rw [rtt_eq_of_best hfirst hbest, hsame, hrtt]
      exact himproves

/-- Destroying a connection that is not selected keeps the channel coherent. -/
theorem coherent_destroy_of_ne {w : World} (h : Coherent w.toCore) {p : Ptr} (now : Int)
    (hne : w.channel.selectedConnection ≠ some p) :
    Coherent (IceConnection.destroy w p now).toCore := by
  unfold IceConnection.destroy IceTransportChannel.onConnectionDestroyed
  dsimp only
  rw [if_neg hne, World.push_toCore]
  refine ⟨?_, fun q hq => ?_, fun q hq => ?_⟩
  · dsimp only
    rw [updateState_selectedConnection, updateState_controller]
    exact h.pointers
  · dsimp only at hq ⊢
    rw [updateState_selectedConnection] at hq
    rw [updateState_controller]
    have hqp : q ≠ p := by
      rintro rfl
      exact hne hq
    show q ∈ w.controller.connections.filter (· ≠ p)
    exact List.mem_filter.mpr ⟨h.member q hq, by simpa using hqp⟩
  · dsimp only at hq ⊢
    rw [updateState_live] at hq
    rw [updateState_heap, updateState_selectedConnection]
    exact h.flags q (List.mem_filter.mp hq).1

/-- Destroying the selected connection keeps the channel coherent exactly if it can be
replaced. If not, the channel has no selected connection, but the controller still
points to the destroyed one. -/
theorem coherent_destroy_selected_iff {w : World} (h : Coherent w.toCore) {p : Ptr} (now : Int)
    (hselected : w.channel.selectedConnection = some p) :
    Coherent (IceConnection.destroy w p now).toCore ↔ Replaceable w.toCore p := by
  -- the state that is sorted
  let v : World := switchSelectedConnection
    { w with controller := w.controller.onConnectionDestroyed p } none
  have hv : v = World.modify
      { w with
          controller := w.controller.onConnectionDestroyed p
          channel := { w.channel with selectedConnection := none } }
      p fun c => { c with selected := false } := by
    show switchSelectedConnection _ none = _
    unfold switchSelectedConnection
    dsimp only
    rw [hselected]
  have hremembered : v.controller.selectedConnection = some p := by
    rw [hv]
    exact h.pointers.symm.trans hselected
  have hheap : ∀ q, q ≠ p → v.heap q = w.heap q := by
    intro q hq
    rw [hv, World.modify_heap_of_ne _ _ hq]
  have hswitches := switches_iff_replaceable (v := v.toCore) (w := w.toCore) (p := p)
    (by rw [hv]; rfl) hremembered (by rw [hv]; rfl) hheap (by rw [hv, World.modify_heap_self])
  have hdestroy : IceConnection.destroy w p now = World.push
      { sortConnectionsAndUpdateState v now with
          live := (sortConnectionsAndUpdateState v now).live.filter (· ≠ p) }
      (.destroyed p) := by
    unfold IceConnection.destroy IceTransportChannel.onConnectionDestroyed
    dsimp only
    rw [if_pos hselected]
  rw [hdestroy, ← hswitches]
  constructor
  · intro hcoherent
    by_contra hnone
    have hstays : (sortAndSwitchConnection v.toCore).1 = none :=
      Option.eq_none_iff_forall_ne_some.mpr fun conn hconn => hnone ⟨conn, hconn⟩
    have hpointers : (sortConnectionsAndUpdateState v now).channel.selectedConnection
        = (sortConnectionsAndUpdateState v now).controller.selectedConnection :=
      hcoherent.pointers
    rw [sort_selectedConnection, switchedWorld_selectedConnection, hstays, sort_controller]
      at hpointers
    have hkept : (switchedWorld v).controller.selectedConnection = some p := by
      unfold switchedWorld
      rw [hstays]
      exact hremembered
    rw [hkept, hv] at hpointers
    cases hpointers
  · rintro ⟨conn, hconn⟩
    have hunflagged : ∀ q ∈ v.live, (v.heap q).selected = true →
        v.channel.selectedConnection = some q := by
      intro q hq hflag
      by_cases hqp : q = p
      · subst hqp
        rw [hv, World.modify_heap_self] at hflag
        cases hflag
      · rw [hheap q hqp] at hflag
        have hlive : q ∈ w.live := by rwa [hv] at hq
        have hsame := (h.flags q hlive).mp hflag
        rw [hselected] at hsame
        exact absurd (Option.some.inj hsame).symm hqp
    have hsorted := coherent_of_switch hconn hunflagged now
    exact hsorted.congr rfl rfl (fun _ hq => hq) fun q hq => ⟨(List.mem_filter.mp hq).1, rfl⟩

/-! #### Runs -/

/-- The success and the error response to a request have different types. -/
theorem errorResponse_ne_successResponse {type reqType : UInt16}
    (h : (type.toNat : Int) = getStunErrorResponse reqType) :
    (type.toNat : Int) ≠ getStunSuccessResponse reqType := by
  unfold getStunErrorResponse getStunSuccessResponse at *
  split at h
  · rename_i hrequest
    rw [if_pos hrequest, h]
    intro heq
    have hor : reqType ||| 0x0110 = reqType ||| 0x0100 :=
      UInt16.toNat_inj.mp (Int.ofNat_inj.mp heq)
    have hmask : reqType &&& 0x0110 = 0 := by simpa [isStunRequestType] using hrequest
    -- the bit that makes an error response is clear in a request
    have hset := congrArg (fun x => x.toBitVec.getLsbD 4) hor
    have hclear := congrArg (fun x => x.toBitVec.getLsbD 4) hmask
    simp at hset hclear
    rw [hset] at hclear
    cases hclear
  · omega

/-- An event that destroys a connection does this, and at most removes the request that
was answered. -/
theorem step_eq_of_destroy (digest : MessageDigest) {allocator : Allocator} {w : World} {e : Event}
    {p : Ptr} (h : (permits w e).destroy p) :
    ∃ now, step digest allocator w e = IceConnection.destroy w p now ∨
      ∃ id, step digest allocator w e
        = IceConnection.deleteRequest (IceConnection.failAndDestroy w p now) p id := by
  cases e with
  | response q msg now =>
      obtain ⟨rfl, hlive, request, hrequest, htype, hcode⟩ := h
      refine ⟨now, Or.inr ⟨request.id, ?_⟩⟩
      show (if p ∈ w.live then IceConnection.checkResponse w p msg now else w) = _
      rw [if_pos hlive]
      unfold IceConnection.checkResponse
      rw [hrequest]
      dsimp only
      rw [if_neg (errorResponse_ne_successResponse htype), if_pos htype]
      unfold IceConnection.onConnectionRequestErrorResponse
      dsimp only
      rw [Tolerated] at hcode
      rw [if_neg hcode]
  | destroy q now =>
      obtain ⟨rfl, hlive⟩ := h
      exact ⟨now, Or.inl (if_pos hlive)⟩
  | unknownAddress | connectionState | tick | setRemoteIceParams | reuse => cases h

/-- The step does not destroy the selected connection, or it can be replaced. -/
def ReplacesSelected (w : World) (e : Event) : Prop :=
  ∀ p, w.channel.selectedConnection = some p → (permits w e).destroy p → Replaceable w.toCore p

/-- A step that destroys a connection keeps the channel coherent exactly if the
connection is not the selected one or can be replaced. -/
theorem coherent_step_iff_of_destroy (digest : MessageDigest) {allocator : Allocator} {w : World}
    {e : Event} {p : Ptr} (h : Coherent w.toCore) (hdestroy : (permits w e).destroy p) :
    Coherent (step digest allocator w e).toCore ↔
      (w.channel.selectedConnection = some p → Replaceable w.toCore p) := by
  have hdestroyed : ∀ (v : World) (now : Int), Coherent v.toCore →
      (Coherent (IceConnection.destroy v p now).toCore ↔
        (v.channel.selectedConnection = some p → Replaceable v.toCore p)) := by
    intro v now hv
    by_cases hselected : v.channel.selectedConnection = some p
    · rw [coherent_destroy_selected_iff hv now hselected, imp_iff_right hselected]
    · exact iff_of_true (coherent_destroy_of_ne hv now hselected) fun h => absurd h hselected
  obtain ⟨now, hstep | ⟨id, hstep⟩⟩ := step_eq_of_destroy digest hdestroy
  · rw [hstep]
    exact hdestroyed w now h
  · have hfailed : Coherent (IceConnection.setState w p .failed).toCore :=
      coherent_modify h p fun _ => rfl
    rw [hstep]
    unfold IceConnection.deleteRequest
    rw [World.push_toCore, coherent_modify_iff _ p (f := fun c => c.removeRequest id) fun _ => rfl]
    unfold IceConnection.failAndDestroy
    rw [hdestroyed _ now hfailed]
    unfold IceConnection.setState
    rw [replaceable_modify w p (f := fun c => { c with state := .failed }) fun _ => rfl,
      World.modify_channel]

/-- Every event keeps channel and controller coherent, unless it destroys a selected connection
that is not replaced. -/
theorem coherent_step (digest : MessageDigest) (allocator : Allocator) {w : World} {e : Event}
    (hsound : Sound w) (h : Coherent w.toCore) (hok : ReplacesSelected w e) :
    Coherent (step digest allocator w e).toCore := by
  by_cases hdestroy : ∃ p, (permits w e).destroy p
  · obtain ⟨p, hp⟩ := hdestroy
    exact (coherent_step_iff_of_destroy digest h hp).mpr fun hselected => hok p hselected hp
  · -- an event that destroys nothing is a sequence of actions that all keep coherence
    have hnone : ∀ p, ¬ (permits w e).destroy p := fun p hp => hdestroy ⟨p, hp⟩
    have hactions : Actions allocator (permits w e) w (step digest allocator w e) :=
      actions_step digest w e
    have hboth := preserved_of_reflTransGen (P := fun w => Sound w ∧ Coherent w.toCore)
      (fun _ _ haction hw =>
        ⟨sound_action haction hw.1, coherent_action haction hnone hw.1 hw.2⟩)
      hactions ⟨hsound, h⟩
    exact hboth.2

/-- In every run of a channel: the channel, the controller and the flags of the
connections agree on the selected connection in every state, exactly when no step
destroys the selected connection without a replacement for it. -/
theorem always_coherent_iff (digest : MessageDigest) (allocator : Allocator)
    (heap : Ptr → IceConnection) (params : Nat → IceParameters)
    (localCandidate : Nat → Candidate) (events : List Event) :
    Always (step digest allocator) (fun w => Coherent w.toCore)
        (World.init heap params localCandidate) events ↔
      Steps (step digest allocator) ReplacesSelected (World.init heap params localCandidate)
        events := by
  have hstep : ∀ w e, Sound w ∧ Coherent w.toCore → ReplacesSelected w e →
      Sound (step digest allocator w e) ∧ Coherent (step digest allocator w e).toCore :=
    fun w e hw hok =>
      ⟨sound_step digest allocator w e hw.1, coherent_step digest allocator hw.1 hw.2 hok⟩
  have hbreak : ∀ w e, Sound w ∧ Coherent w.toCore → ¬ ReplacesSelected w e →
      ¬ Coherent (step digest allocator w e).toCore :=
    fun w e hw hno hcoherent => hno fun p hselected hp =>
      (coherent_step_iff_of_destroy digest hw.2 hp).mp hcoherent hselected
  have hinit : Coherent (World.init heap params localCandidate).toCore :=
    ⟨rfl, fun p hp => (nomatch hp), fun p hp => (nomatch hp)⟩
  exact always_iff_steps (P := fun w => Coherent w.toCore) (fun _ hw => hw.2) hstep hbreak
    ⟨sound_init heap params localCandidate, hinit⟩

/-- When the selected connection is destroyed and the other one is slower, the channel
has no selected connection, and the controller still points to the destroyed one. -/
theorem twoPeersOneFails_not_coherent :
    ¬ Always (step (fixedDigest (Vector.replicate 20 0) 0) nextFree)
      (fun w => Coherent w.toCore) freshChannel twoPeersOneFails := by
  intro h
  have hchannel : (afterRun twoPeersOneFails).channel.selectedConnection = none := by
    decide +kernel
  have hcontroller : (afterRun twoPeersOneFails).controller.selectedConnection = some 1 := by
    decide +kernel
  have hpointers := Coherent.pointers (w := (afterRun twoPeersOneFails).toCore) h.last
  rw [hchannel, hcontroller] at hpointers
  cases hpointers

end Xrtc.Proofs.Ice
