import Xrtc.Ice.IceTransportChannel
import Xrtc.Lib.Run

/-!
# `Xrtc.Proofs.Ice.ChannelActions`: what an event can do to a channel

Every event of a channel is a sequence of a few kinds of actions (`Action`): one
connection changes a field and the channel sorts, a connection changes fields that
the channel does not look at, a ping goes out, a request is answered, a connection
is created or destroyed. `actions_step` proves this once, from the code of every
call. An invariant then only has to be checked for each kind of action.

The actions that matter for security need permission (`Permits`): which connection
may become writable, whether one may be created, and which may be destroyed.
`permits` gives the permissions of an event.

The first two sections say what `_update_state` and
`_sort_connections_and_update_state` change and what they leave alone.
-/

set_option autoImplicit false

namespace Xrtc.Proofs.Ice

open Xrtc.Lib
open Xrtc.Ice
open Xrtc.Ice.IceTransportChannel

/-! ### `_update_state` -/

/-- `_set_writable` leaves everything but the channel as it is. The first time it is set, the
channel has been connected from then on. -/
theorem setWritable_toCore (w : World) (b : Bool) :
    (setWritable w b).toCore =
      { w.toCore with
          channel :=
            { w.channel with
                writable := b
                hasBeenConnection := (setWritable w b).channel.hasBeenConnection } } := by
  unfold setWritable
  by_cases h : w.channel.writable = b
  · rw [if_pos h]
    subst h
    rfl
  · rw [if_neg h]
    rfl

/-- `_set_receiving` changes that one field of the channel. -/
theorem setReceiving_toCore (w : World) (b : Bool) :
    (setReceiving w b).toCore =
      { w.toCore with channel := { w.channel with receiving := b } } := by
  unfold setReceiving
  by_cases h : w.channel.receiving = b
  · rw [if_pos h]
    subst h
    rfl
  · rw [if_neg h]
    rfl

/-- The last part of `_update_state` sets the state that is computed from the connections, and
nothing else. -/
theorem setIceState_toCore (w : World) :
    (setIceState w).toCore =
      { w.toCore with
          channel := { w.channel with state := computeIceTransportState w.toCore } } := by
  unfold setIceState
  by_cases h : computeIceTransportState w.toCore ≠ w.channel.state
  · simp only [if_pos h]
    rfl
  · push Not at h
    simp only [h, ne_eq, not_true_eq_false, if_false]

/-- The channel when `_update_state` computes the transport state. -/
def updatedChannel (w : World) : IceTransportChannel :=
  { w.channel with
      writable := computeWritable w.toCore
      receiving := computeReceiving w.toCore
      hasBeenConnection := (setWritable w (computeWritable w.toCore)).channel.hasBeenConnection }

/-- `_update_state` sets the three derived values of the channel, notes that it has
been writable, and changes nothing else. -/
theorem updateState_toCore (w : World) :
    (updateState w).toCore =
      { w.toCore with
          channel :=
            { updatedChannel w with
                state :=
                  computeIceTransportState { w.toCore with channel := updatedChannel w } } } := by
  have hreceiving : computeReceiving (setWritable w (computeWritable w.toCore)).toCore
      = computeReceiving w.toCore := by
    rw [setWritable_toCore]
    rfl
  unfold updateState
  simp only
  rw [setIceState_toCore, setReceiving_toCore, hreceiving, setWritable_toCore]
  rfl

section

variable (w : World)

/-- `_update_state` does not touch a connection. -/
@[simp] theorem updateState_heap : (updateState w).heap = w.heap := by
  rw [updateState_toCore]

/-- `_update_state` creates and destroys no connection. -/
@[simp] theorem updateState_live : (updateState w).live = w.live := by
  rw [updateState_toCore]

/-- `_update_state` leaves the ports and their maps as they are. -/
@[simp] theorem updateState_ports : (updateState w).ports = w.ports := by
  rw [updateState_toCore]

/-- `_update_state` leaves the controller as it is. -/
@[simp] theorem updateState_controller : (updateState w).controller = w.controller := by
  rw [updateState_toCore]

/-- `_update_state` does not switch the selected connection. -/
@[simp] theorem updateState_selectedConnection :
    (updateState w).channel.selectedConnection = w.channel.selectedConnection := by
  rw [updateState_toCore]
  rfl

end

/-- The three values the channel derives from its connections are up to date. -/
structure Derived (w : Core) : Prop where
  writable : w.channel.writable = computeWritable w
  receiving : w.channel.receiving = computeReceiving w
  state : w.channel.state = computeIceTransportState w

/-- `_update_state` brings them up to date, whatever they were. -/
theorem derived_updateState (w : World) : Derived (updateState w).toCore := by
  rw [updateState_toCore]
  exact ⟨rfl, rfl, rfl⟩

/-- An entry that says what the channel signalled, sorted or sent, and nothing about
a connection or a request. -/
def IsSignal : Entry → Prop
  | .writable _ | .receiving _ | .iceState _ | .sent _ _ | .sorted _ _ => True
  | .created _ | .destroyed _ | .pinged _ _ | .answered _ _ => False

/-- The entries `_update_state` adds: at most one for each of the three values. -/
theorem updateState_log (w : World) :
    ∃ new, (updateState w).log = new ++ w.log ∧
      ∀ e ∈ new, (∃ b, e = .writable b) ∨ (∃ b, e = .receiving b) ∨ ∃ s, e = .iceState s := by
  have hwritable : ∀ (v : World) (b : Bool), ∃ new, (setWritable v b).log = new ++ v.log ∧
      ∀ e ∈ new, ∃ b, e = Entry.writable b := by
    intro v b
    unfold setWritable
    split_ifs
    · exact ⟨[], rfl, fun e he => nomatch he⟩
    · exact ⟨[.writable b], rfl, fun e he => ⟨b, List.mem_singleton.mp he⟩⟩
    · exact ⟨[.writable b], rfl, fun e he => ⟨b, List.mem_singleton.mp he⟩⟩
  have hreceiving : ∀ (v : World) (b : Bool), ∃ new, (setReceiving v b).log = new ++ v.log ∧
      ∀ e ∈ new, ∃ b, e = Entry.receiving b := by
    intro v b
    unfold setReceiving
    split_ifs
    · exact ⟨[], rfl, fun e he => nomatch he⟩
    · exact ⟨[.receiving b], rfl, fun e he => ⟨b, List.mem_singleton.mp he⟩⟩
  have hstate : ∀ v : World, ∃ new, (setIceState v).log = new ++ v.log ∧
      ∀ e ∈ new, ∃ s, e = Entry.iceState s := by
    intro v
    unfold setIceState
    simp only
    split_ifs
    · exact ⟨[_], rfl, fun e he => ⟨_, List.mem_singleton.mp he⟩⟩
    · exact ⟨[], rfl, fun e he => nomatch he⟩
  -- the three are called one after the other, each on the world that the one before leaves
  obtain ⟨new₁, h₁, he₁⟩ := hwritable w (computeWritable w.toCore)
  obtain ⟨new₂, h₂, he₂⟩ := hreceiving (setWritable w (computeWritable w.toCore))
    (computeReceiving (setWritable w (computeWritable w.toCore)).toCore)
  obtain ⟨new₃, h₃, he₃⟩ := hstate (setReceiving (setWritable w (computeWritable w.toCore))
    (computeReceiving (setWritable w (computeWritable w.toCore)).toCore))
  refine ⟨new₃ ++ new₂ ++ new₁, ?_, ?_⟩
  · show (setIceState _).log = _
    rw [h₃, h₂, h₁]
    simp only [List.append_assoc]
  · intro e he
    simp only [List.mem_append] at he
    rcases he with (he | he) | he
    · exact Or.inr (Or.inr (he₃ e he))
    · exact Or.inr (Or.inl (he₂ e he))
    · exact Or.inl (he₁ e he)

/-! ### `_sort_connections_and_update_state` -/

section

variable (w : World) (now : Int)

/-- The channel with its connections sorted, before the switch. -/
def sortedWorld : World :=
  { w with controller := (IceController.sortAndSwitchConnection w.toCore).2 }

/-- The channel after the switch, before `_update_state`. -/
def switchedWorld : World :=
  maybeSwitchSelectedConnection (sortedWorld w)
    (IceController.sortAndSwitchConnection w.toCore).1

/-- `_maybe_start_pinging` only starts the timer, and only once. -/
theorem maybeStartPinging_eq (v : World) :
    maybeStartPinging v now =
      { v with
          channel :=
            { v.channel with
                startPinging := (maybeStartPinging v now).channel.startPinging } } := by
  unfold maybeStartPinging
  split_ifs <;> rfl

/-- `_sort_connections_and_update_state` in its three parts: the sort with the switch,
`_update_state`, and the start of the timer. -/
theorem sortAndUpdate_eq :
    sortAndUpdate w now = maybeStartPinging (updateState (switchedWorld w)) now := rfl

/-- Behind the switch, the sort changes no connection. -/
@[simp] theorem sort_heap :
    (sortConnectionsAndUpdateState w now).heap = (switchedWorld w).heap := by
  show (sortAndUpdate w now).heap = _
  rw [sortAndUpdate_eq, maybeStartPinging_eq]
  exact updateState_heap _

/-- Behind the switch, the sort creates and destroys none. -/
@[simp] theorem sort_live :
    (sortConnectionsAndUpdateState w now).live = (switchedWorld w).live := by
  show (sortAndUpdate w now).live = _
  rw [sortAndUpdate_eq, maybeStartPinging_eq]
  exact updateState_live _

/-- Behind the switch, the ports are as they were. -/
@[simp] theorem sort_ports :
    (sortConnectionsAndUpdateState w now).ports = (switchedWorld w).ports := by
  show (sortAndUpdate w now).ports = _
  rw [sortAndUpdate_eq, maybeStartPinging_eq]
  exact updateState_ports _

/-- Behind the switch, the controller is as the sort has left it. -/
@[simp] theorem sort_controller :
    (sortConnectionsAndUpdateState w now).controller = (switchedWorld w).controller := by
  show (sortAndUpdate w now).controller = _
  rw [sortAndUpdate_eq, maybeStartPinging_eq]
  exact updateState_controller _

/-- The connection that the sort selects is the one that is selected at its end. -/
@[simp] theorem sort_selectedConnection :
    (sortConnectionsAndUpdateState w now).channel.selectedConnection
      = (switchedWorld w).channel.selectedConnection := by
  show (sortAndUpdate w now).channel.selectedConnection = _
  rw [sortAndUpdate_eq, maybeStartPinging_eq]
  exact updateState_selectedConnection _

/-- The sort ends with the derived values up to date. -/
theorem derived_sort : Derived (sortConnectionsAndUpdateState w now).toCore := by
  have h := derived_updateState (switchedWorld w)
  show Derived (sortAndUpdate w now).toCore
  rw [sortAndUpdate_eq, maybeStartPinging_eq]
  exact ⟨h.writable, h.receiving, h.state⟩

/-- The switch changes no connection but for the selected flag. -/
theorem switchSelectedConnection_heap (v : World) (conn : Option Ptr) (p : Ptr) :
    ∃ b, (switchSelectedConnection v conn).heap p = { v.heap p with selected := b } := by
  have hmodify : ∀ (u : World) (q : Ptr) (b : Bool) (c : IceConnection),
      (∃ b', u.heap p = { c with selected := b' }) →
      ∃ b', (u.modify q fun c => { c with selected := b }).heap p = { c with selected := b' } := by
    rintro u q b c ⟨b', hb'⟩
    by_cases hq : p = q
    · subst hq
      exact ⟨b, by rw [World.modify_heap_self, hb']⟩
    · exact ⟨b', by rw [World.modify_heap_of_ne _ _ hq, hb']⟩
  unfold switchSelectedConnection
  have hself : ∃ b, v.heap p = { v.heap p with selected := b } := ⟨(v.heap p).selected, rfl⟩
  cases hold : v.channel.selectedConnection with
  | none =>
      cases conn with
      | none => exact hself
      | some conn => exact hmodify _ conn true _ hself
  | some old =>
      cases conn with
      | none => exact hmodify _ old false _ hself
      | some conn => exact hmodify _ conn true _ (hmodify _ old false _ hself)

/-- A switch creates and destroys no connection. -/
@[simp] theorem switchSelectedConnection_live (v : World) (conn : Option Ptr) :
    (switchSelectedConnection v conn).live = v.live := by
  unfold switchSelectedConnection
  cases v.channel.selectedConnection <;> cases conn <;> rfl

/-- A switch leaves the ports as they are. -/
@[simp] theorem switchSelectedConnection_ports (v : World) (conn : Option Ptr) :
    (switchSelectedConnection v conn).ports = v.ports := by
  unfold switchSelectedConnection
  cases v.channel.selectedConnection <;> cases conn <;> rfl

/-- A switch leaves the connections of the controller as they are, also when it is to none. -/
@[simp] theorem switchSelectedConnection_connections (v : World) (conn : Option Ptr) :
    (switchSelectedConnection v conn).controller.connections = v.controller.connections := by
  unfold switchSelectedConnection
  cases v.channel.selectedConnection <;> cases conn <;> rfl

/-- A switch sends nothing and raises no signal. -/
@[simp] theorem switchSelectedConnection_log (v : World) (conn : Option Ptr) :
    (switchSelectedConnection v conn).log = v.log := by
  unfold switchSelectedConnection
  cases v.channel.selectedConnection <;> cases conn <;> rfl

/-- A switch does select what it is asked to select. -/
@[simp] theorem switchSelectedConnection_selectedConnection (v : World) (conn : Option Ptr) :
    (switchSelectedConnection v conn).channel.selectedConnection = conn := by
  unfold switchSelectedConnection
  cases v.channel.selectedConnection <;> cases conn <;> rfl

/-- The sort changes nothing of a connection but whether it is selected. -/
theorem switchedWorld_heap (p : Ptr) :
    ∃ b, (switchedWorld w).heap p = { w.heap p with selected := b } := by
  unfold switchedWorld maybeSwitchSelectedConnection
  split
  · exact ⟨(w.heap p).selected, rfl⟩
  · exact switchSelectedConnection_heap _ _ p

/-- The sort creates and destroys no connection. -/
@[simp] theorem switchedWorld_live : (switchedWorld w).live = w.live := by
  unfold switchedWorld maybeSwitchSelectedConnection
  split
  · rfl
  · rw [switchSelectedConnection_live]
    rfl

/-- The sort leaves the ports as they are. -/
@[simp] theorem switchedWorld_ports : (switchedWorld w).ports = w.ports := by
  unfold switchedWorld maybeSwitchSelectedConnection
  split
  · rfl
  · rw [switchSelectedConnection_ports]
    rfl

/-- Up to the switch, nothing is sent and no signal is raised. -/
@[simp] theorem switchedWorld_log : (switchedWorld w).log = w.log := by
  unfold switchedWorld maybeSwitchSelectedConnection
  split
  · rfl
  · rw [switchSelectedConnection_log]
    rfl

/-- The controller has the sorted connections afterwards, whether it has switched or not. -/
@[simp] theorem switchedWorld_connections :
    (switchedWorld w).controller.connections = IceController.sortConnections w.toCore := by
  unfold switchedWorld maybeSwitchSelectedConnection
  split
  · rfl
  · rw [switchSelectedConnection_connections]
    rfl

/-- Sorting keeps the connections. -/
theorem mem_sortConnections {v : Core} {p : Ptr} :
    p ∈ IceController.sortConnections v ↔ p ∈ v.controller.connections :=
  (List.perm_insertionSort _ _).mem_iff

/-- The switch is to the best connection of the controller. -/
theorem switchTarget_mem {v : Core} {p : Ptr}
    (h : (IceController.sortAndSwitchConnection v).1 = some p) :
    p ∈ v.controller.connections := by
  have hhead : (IceController.sortConnections v).head? = some p := by
    simp only [IceController.sortAndSwitchConnection, IceController.switchTarget] at h
    split at h
    · cases h
    · rename_i top htop
      split at h
      · cases h
      · split at h
        · rw [← h, htop]
        · split at h
          · rw [← h, htop]
          · cases h
  exact mem_sortConnections.mp (List.mem_of_mem_head? hhead)

/-- After the sort the channel's selected connection is the one before, or one of
the controller's. -/
theorem sort_selectedConnection_cases {p : Ptr}
    (h : (sortConnectionsAndUpdateState w now).channel.selectedConnection = some p) :
    w.channel.selectedConnection = some p ∨ p ∈ w.controller.connections := by
  rw [sort_selectedConnection] at h
  unfold switchedWorld maybeSwitchSelectedConnection at h
  split at h
  · exact Or.inl h
  · rename_i conn hconn
    rw [switchSelectedConnection_selectedConnection] at h
    cases h
    exact Or.inr (switchTarget_mem hconn)

/-- The entries of a sort: the signals of `_update_state`, and the call itself. -/
theorem sort_log :
    ∃ new, (sortConnectionsAndUpdateState w now).log
        = .sorted w.toCore (sortAndUpdate w now).toCore :: (new ++ w.log) ∧
      ∀ e ∈ new, (∃ b, e = .writable b) ∨ (∃ b, e = .receiving b) ∨ ∃ s, e = .iceState s := by
  obtain ⟨new, hnew, he⟩ := updateState_log (switchedWorld w)
  refine ⟨new, ?_, he⟩
  have hlog : (sortAndUpdate w now).log = new ++ w.log := by
    rw [sortAndUpdate_eq, maybeStartPinging_eq]
    rw [switchedWorld_log] at hnew
    exact hnew
  show _ :: (sortAndUpdate w now).log = _
  rw [hlog]

end

/-! ### Actions -/

/-- What an event is allowed to do: which connections it may make writable, whether
it may create one, and which ones it may destroy. -/
structure Permits where
  writable : Ptr → Prop := fun _ => False
  create : Prop := False
  destroy : Ptr → Prop := fun _ => False

/-- A change of a connection that leaves alone what the channel derives its state
from, the outstanding requests, and a password that is there. -/
structure Quiet (f : IceConnection → IceConnection) : Prop where
  writeState : ∀ c, (f c).writeState = c.writeState
  receiving : ∀ c, (f c).receiving = c.receiving
  selected : ∀ c, (f c).selected = c.selected
  requests : ∀ c, (f c).requests = c.requests
  password : ∀ c, c.remoteCandidate.password ≠ [] → (f c).remoteCandidate.password ≠ []

/-- One action of an event with given permissions. -/
inductive Action (allocator : Allocator) (ok : Permits) : World → World → Prop where
  | sent (w : World) (address : SocketAddress) (data : Bytes) :
      Action allocator ok w (w.push (.sent address data))
  | quiet (w : World) (p : Ptr) (f : IceConnection → IceConnection) (hf : Quiet f) :
      Action allocator ok w (w.modify p f)
  | receiving (w : World) (p : Ptr) (b : Bool) (now : Int) :
      Action allocator ok w
        (sortConnectionsAndUpdateState (w.modify p fun c => { c with receiving := b }) now)
  | writeState (w : World) (p : Ptr) (s : WriteState) (now : Int)
      (hs : s = .writable → ok.writable p) :
      Action allocator ok w
        (sortConnectionsAndUpdateState (w.modify p fun c => { c with writeState := s }) now)
  | sort (w : World) (now : Int) : Action allocator ok w (sortConnectionsAndUpdateState w now)
  | bookkeeping (w : World) (controller : IceController) (params : IceParameters)
      (lastPing interval : Int)
      (hselected : controller.selectedConnection = w.controller.selectedConnection)
      (hconnections : controller.connections = w.controller.connections) :
      Action allocator ok w
        { w with
            controller := controller
            channel :=
              { w.channel with
                  remoteIceParams := params
                  lastPingSentMs := lastPing
                  curPingInterval := interval } }
  | ping (w : World) (p : Ptr) (id : Bytes) (now : Int)
      (h : (w.heap p).writeState = .writable ∨ (w.heap p).remoteCandidate.password ≠ []) :
      Action allocator ok w ((w.modify p fun c => c.notePing id now).push (.pinged p id))
  | answer (w : World) (p : Ptr) (id : Bytes) :
      Action allocator ok w (IceConnection.deleteRequest w p id)
  | create (w : World) (port : Nat) (remoteCandidate : Candidate) (address : SocketAddress)
      (data : Option Bytes) (now : Int) (h : ok.create) :
      Action allocator ok w
        (sortConnectionsAndUpdateState
          ((addConnection (createConnection allocator w port remoteCandidate)
            (allocator.pick w.toCore)).send address data) now)
  | destroy (w : World) (p : Ptr) (now : Int) (h : ok.destroy p) :
      Action allocator ok w (IceConnection.destroy w p now)
  | reuse (w : World) (heap : Ptr → IceConnection) :
      Action allocator ok w { w with heap := fun p => if p ∈ w.live then w.heap p else heap p }

/-- A sequence of actions. -/
abbrev Actions (allocator : Allocator) (ok : Permits) : World → World → Prop :=
  Relation.ReflTransGen (Action allocator ok)

section

open IceConnection

variable {allocator : Allocator} {ok : Permits}

/-- Sending a packet is at most one action. A packet that could not be written is none. -/
theorem actions_send (w : World) (address : SocketAddress) (data : Option Bytes) :
    Actions allocator ok w (w.send address data) := by
  cases data with
  | none => exact .refl
  | some data => exact .single (.sent w address data)

/-- A loop whose body takes actions takes actions, by induction on the list. -/
theorem actions_foldl {α : Type} {f : World → α → World}
    (h : ∀ w a, Actions allocator ok w (f w a)) (l : List α) (w : World) :
    Actions allocator ok w (l.foldl f w) := by
  induction l generalizing w with
  | nil => exact .refl
  | cons a l ih => exact (h w a).trans (ih (f w a))

/-- Setting the state of a connection is quiet: its write state and its pings are as before. -/
theorem quiet_state (state : IceCandidatePairState) :
    Quiet fun c => { c with state := state } :=
  ⟨fun _ => rfl, fun _ => rfl, fun _ => rfl, fun _ => rfl, fun _ h => h⟩

/-- Crediting a response is quiet in the same sense. -/
theorem quiet_creditResponse (rtt now : Int) : Quiet fun c => c.creditResponse rtt now :=
  ⟨fun _ => rfl, fun _ => rfl, fun _ => rfl, fun _ => rfl, fun _ h => h⟩

/-- So is giving the remote password to the candidate of a connection. -/
theorem quiet_maybeSetRemoteIceParams (params : IceParameters) :
    Quiet fun c => c.maybeSetRemoteIceParams params := by
  constructor <;> intro c <;> unfold maybeSetRemoteIceParams <;> split
  case password.isTrue h => exact fun hne => absurd h.2 hne
  case password.isFalse => exact fun hne => hne
  all_goals rfl

/-- `update_receiving` sets one field, and tells the channel if that has changed. -/
theorem actions_updateReceiving (w : World) (p : Ptr) (now : Int) :
    Actions allocator ok w (updateReceiving w p now) := by
  unfold updateReceiving
  simp only
  split
  · exact .refl
  · exact .single (.receiving w p _ now)

/-- `set_write_state` is allowed where it does not make a connection writable, or where that is
permitted. -/
theorem actions_setWriteState (w : World) (p : Ptr) (s : WriteState) (now : Int)
    (hs : s = .writable → ok.writable p) :
    Actions allocator ok w (setWriteState w p s now) := by
  unfold setWriteState
  split
  · exact .refl
  · exact .single (.writeState w p s now hs)

/-- A credited response makes the connection writable, which is the only permission it needs. -/
theorem actions_receivedPingResponse (w : World) (p : Ptr) (rtt now : Int)
    (h : ok.writable p) : Actions allocator ok w (receivedPingResponse w p rtt now) := by
  unfold receivedPingResponse
  simp only
  refine .trans (.single (.quiet w p _ (quiet_creditResponse rtt now))) ?_
  refine .trans (actions_updateReceiving _ p now) ?_
  refine .trans (actions_setWriteState _ p .writable now fun _ => h) ?_
  exact .single (.quiet _ p _ (quiet_state .succeeded))

/-- `update_state` never makes a connection writable. -/
theorem actions_updateState (w : World) (p : Ptr) (now : Int) :
    Actions allocator ok w (IceConnection.updateState w p now) := by
  have hunreliable : ∀ v : World, Actions allocator ok v (updateUnreliable v p now) := by
    intro v
    unfold updateUnreliable
    simp only
    split
    · exact actions_setWriteState v p .writeUnreliable now fun h => nomatch h
    · exact .refl
  have htimeout : ∀ v : World, Actions allocator ok v (updateTimeout v p now) := by
    intro v
    unfold updateTimeout
    simp only
    split
    · exact actions_setWriteState v p .writeTimeout now fun h => nomatch h
    · exact .refl
  unfold IceConnection.updateState
  exact ((hunreliable w).trans (htimeout _)).trans (actions_updateReceiving _ p now)

/-- `fail_and_destroy` sets the state to failed and then destroys, which has to be permitted. -/
theorem actions_failAndDestroy (w : World) (p : Ptr) (now : Int) (h : ok.destroy p) :
    Actions allocator ok w (failAndDestroy w p now) :=
  .trans (.single (.quiet w p _ (quiet_state .failed))) (.single (.destroy _ p now h))

/-- The error codes that `on_connection_request_error_response` ignores. -/
def Tolerated (msg : StunMessage) : Prop :=
  msg.getErrorCodeValue = stunErrorUnauthorized ∨
    msg.getErrorCodeValue = stunErrorUnknownAttribute ∨
    msg.getErrorCodeValue = stunErrorServerError

/-- A response credits the connection if its type is the success type of the request,
and destroys it if its type is the error type and its code is not ignored. -/
theorem actions_checkResponse (w : World) (p : Ptr) (msg : StunMessage) (now : Int)
    (hwritable : ∀ request, (w.heap p).findRequest msg.transactionId = some request →
      (msg.type.toNat : Int) = getStunSuccessResponse request.type → ok.writable p)
    (hdestroy : ∀ request, (w.heap p).findRequest msg.transactionId = some request →
      (msg.type.toNat : Int) = getStunErrorResponse request.type → ¬ Tolerated msg →
      ok.destroy p) :
    Actions allocator ok w (checkResponse w p msg now) := by
  unfold checkResponse
  split
  · exact .refl
  · rename_i request hrequest
    split
    · rename_i htype
      exact (actions_receivedPingResponse w p _ now (hwritable request hrequest htype)).tail
        (.answer _ p request.id)
    · split
      · rename_i htype
        refine .tail ?_ (.answer _ p request.id)
        unfold onConnectionRequestErrorResponse
        simp only
        split
        · exact .refl
        · rename_i hcode
          exact actions_failAndDestroy w p now (hdestroy request hrequest htype hcode)
      · exact .single (.answer w p request.id)

/-- A connection is only pinged with the password of the peer: `_is_pingable` asks for it. -/
theorem password_of_isPingable {w : Core} {p : Ptr} {now : Int}
    (h : IceController.isPingable w p now = true) :
    (w.heap p).remoteCandidate.password ≠ [] := by
  intro hnone
  simp [IceController.isPingable, hnone] at h

/-- What the search for a connection to ping finds is pingable. -/
theorem isPingable_of_findPingable {w : Core} {now : Int} {p : Ptr} (conns : List Ptr) :
    ∀ init : Option Ptr, (∀ q, init = some q → IceController.isPingable w q now = true) →
      IceController.findPingable w now conns init = some p →
      IceController.isPingable w p now = true := by
  induction conns with
  | nil => exact fun init hinit hp => hinit p hp
  | cons conn conns ih =>
      intro init hinit hp
      rw [IceController.findPingable] at hp
      by_cases hconn : IceController.isPingable w conn now = true
      · rw [if_neg (by simp [hconn])] at hp
        split at hp
        · exact ih (some conn) (fun q hq => by cases hq; exact hconn) hp
        · exact ih init hinit hp
      · rw [if_pos (by simpa using hconn)] at hp
        exact ih init hinit hp

/-- The connection that is pinged next is the selected one, which is writable, or one
with a password. -/
theorem findNextPingableConnection_some {w : Core} {now : Int} {p : Ptr}
    (h : (IceController.findNextPingableConnection w now).1 = some p) :
    (w.heap p).writeState = .writable ∨ (w.heap p).remoteCandidate.password ≠ [] := by
  simp only [IceController.findNextPingableConnection] at h
  cases hbest : w.controller.selectedConnection.filter (fun conn =>
      (w.heap conn).writable && IceController.isConnectionPastPingInterval w conn now) with
  | some conn =>
      rw [hbest] at h
      cases h
      obtain ⟨-, hcond⟩ := Option.filter_eq_some_iff.mp hbest
      rw [Bool.and_eq_true] at hcond
      exact Or.inl (by simpa [IceConnection.writable] using hcond.1)
  | none =>
      rw [hbest] at h
      exact Or.inr (password_of_isPingable
        (isPingable_of_findPingable _ none (fun q hq => nomatch hq) h))

/-- The search for the next connection to ping moves connections between the two sets and changes
nothing else of the controller. -/
theorem findNextPingableConnection_controller (w : Core) (now : Int) :
    (IceController.findNextPingableConnection w now).2.selectedConnection
        = w.controller.selectedConnection ∧
      (IceController.findNextPingableConnection w now).2.connections
        = w.controller.connections := by
  simp only [IceController.findNextPingableConnection]
  cases w.controller.selectedConnection.filter (fun conn =>
      (w.heap conn).writable && IceController.isConnectionPastPingInterval w conn now) with
  | some conn => exact ⟨rfl, rfl⟩
  | none =>
      dsimp only
      split <;> exact ⟨rfl, rfl⟩

/-- A tick chooses nothing, or what the search finds. -/
theorem selectConnectionToPing_cases (w : Core) (last now : Int) :
    ((IceController.selectConnectionToPing w last now).1 = none ∧
        (IceController.selectConnectionToPing w last now).2.2 = w.controller) ∨
      ((IceController.selectConnectionToPing w last now).1
          = (IceController.findNextPingableConnection w now).1 ∧
        (IceController.selectConnectionToPing w last now).2.2
          = (IceController.findNextPingableConnection w now).2) := by
  unfold IceController.selectConnectionToPing
  simp only
  split_ifs
  · exact Or.inr ⟨rfl, rfl⟩
  · exact Or.inl ⟨rfl, rfl⟩
  · exact Or.inr ⟨rfl, rfl⟩
  · exact Or.inl ⟨rfl, rfl⟩

/-- Choosing a connection moves marks between the lists, and nothing else. -/
theorem selectConnectionToPing_controller (w : Core) (last now : Int) :
    (IceController.selectConnectionToPing w last now).2.2.selectedConnection
        = w.controller.selectedConnection ∧
      (IceController.selectConnectionToPing w last now).2.2.connections
        = w.controller.connections := by
  rcases selectConnectionToPing_cases w last now with ⟨-, hkept⟩ | ⟨-, hfound⟩
  · rw [hkept]
    exact ⟨rfl, rfl⟩
  · rw [hfound]
    exact findNextPingableConnection_controller w now

/-- The same for the mark of a connection that was pinged. -/
theorem markConnectionPinged_controller (c : IceController) (conn : Ptr) :
    (c.markConnectionPinged conn).selectedConnection = c.selectedConnection ∧
      (c.markConnectionPinged conn).connections = c.connections := by
  unfold IceController.markConnectionPinged
  split <;> exact ⟨rfl, rfl⟩

variable (digest : MessageDigest)

/-- A ping is one action. Its condition is that the connection is writable or has the remote
password. -/
theorem actions_ping (w : World) (p : Ptr) (now : Int) (id : Bytes)
    (h : (w.heap p).writeState = .writable ∨ (w.heap p).remoteCandidate.password ≠ []) :
    Actions allocator ok w (IceConnection.ping digest w p now id) := by
  unfold IceConnection.ping
  exact .trans (.single (.ping w p id now h)) (actions_send _ _ _)

/-- What the timer does once the connection states are updated: a ping of the connection that the
controller has chosen, if it has chosen one. The connection it chooses can be pinged. -/
theorem actions_pingNext (w : World) (now : Int) (id : Bytes) :
    Actions allocator ok w (pingNext digest w now id) := by
  have hcases := selectConnectionToPing_cases w.toCore (w.channel.lastPingSentMs - pingIntervalDiff)
    now
  have hcontroller := selectConnectionToPing_controller w.toCore
    (w.channel.lastPingSentMs - pingIntervalDiff) now
  unfold pingNext
  simp only
  generalize IceController.selectConnectionToPing w.toCore
    (w.channel.lastPingSentMs - pingIntervalDiff) now = r at hcases hcontroller
  cases hr : r.1 with
  | none =>
      exact .single (.bookkeeping w r.2.2 w.channel.remoteIceParams w.channel.lastPingSentMs r.2.1
        hcontroller.1 hcontroller.2)
  | some conn =>
      have hpassword : (w.heap conn).writeState = .writable ∨
          (w.heap conn).remoteCandidate.password ≠ [] := by
        rcases hcases with ⟨hnone, -⟩ | ⟨hsome, -⟩
        · rw [hnone] at hr
          cases hr
        · exact findNextPingableConnection_some (hsome.symm.trans hr)
      -- the choice, the ping, and the mark that it was pinged
      refine .trans (.single (.bookkeeping w r.2.2 w.channel.remoteIceParams now
        w.channel.curPingInterval hcontroller.1 hcontroller.2)) ?_
      refine .trans (actions_ping digest _ conn now id hpassword) ?_
      dsimp only
      obtain ⟨hsel, hconns⟩ := markConnectionPinged_controller (IceConnection.ping digest
        { w with
            controller := r.2.2
            channel := { w.channel with lastPingSentMs := now } } conn now id).controller conn
      exact .single (.bookkeeping _ _ _ _ r.2.1 hsel hconns)

/-- A binding request from an unknown address creates a connection, if it has a priority, and
answers it. Without a priority it is answered with an error. -/
theorem actions_onUnknownAddress (w : World) (port : Nat) (addr : SocketAddress)
    (msg : StunMessage) (remoteUfrag : Bytes) (now : Int)
    (h : (msg.getUInt32 stunAttrPriority).isSome → ok.create) :
    Actions allocator ok w
      (onUnknownAddress digest allocator w port addr msg remoteUfrag now) := by
  unfold onUnknownAddress
  cases hpriority : msg.getUInt32 stunAttrPriority with
  | none => exact actions_send _ _ _
  | some priorityAttr =>
      have hcreate : ok.create := h (by rw [hpriority]; rfl)
      simp only [IceConnection.handleStunBindingRequest]
      cases msg.getByteString stunAttrUsername with
      | none => exact .single (.create w port _ addr none now hcreate)
      | some _ => exact .single (.create w port _ _ _ now hcreate)

/-- The remote parameters reach every connection of the controller, one after the other, and then
comes the sort. -/
theorem actions_setRemoteIceParams (w : World) (params : IceParameters) (now : Int) :
    Actions allocator ok w (setRemoteIceParams w params now) := by
  unfold setRemoteIceParams
  dsimp only
  refine .tail ?_ (.sort _ now)
  refine .trans (.single (.bookkeeping w w.controller params w.channel.lastPingSentMs
    w.channel.curPingInterval rfl rfl)) ?_
  exact actions_foldl (fun v conn =>
    .single (.quiet v conn _ (quiet_maybeSetRemoteIceParams params))) w.controller.connections _

/-! ### Events -/

/-- The permissions of an event. A binding request with a priority may create a
connection. A response whose transaction id is outstanding may make the connection
writable or destroy it, by its type and error code. -/
def permits (w : World) : Event → Permits
  | .unknownAddress _ _ msg _ _ => { create := (msg.getUInt32 stunAttrPriority).isSome }
  | .response p msg _ =>
      { writable := fun q => q = p ∧ p ∈ w.live ∧
          ∃ request, (w.heap p).findRequest msg.transactionId = some request ∧
            (msg.type.toNat : Int) = getStunSuccessResponse request.type
        destroy := fun q => q = p ∧ p ∈ w.live ∧
          ∃ request, (w.heap p).findRequest msg.transactionId = some request ∧
            (msg.type.toNat : Int) = getStunErrorResponse request.type ∧ ¬ Tolerated msg }
  | .destroy p _ => { destroy := fun q => q = p ∧ p ∈ w.live }
  | _ => {}

/-- Every event is a sequence of actions within its permissions. The invariants of the channel are
proved for single actions, and this lemma takes them to events. -/
theorem actions_step (w : World) (e : Event) :
    Actions allocator (permits w e) w (step digest allocator w e) := by
  -- an event for a connection that is gone does nothing, and neither does a tick before pinging
  cases e with
  | unknownAddress port addr msg remoteUfrag now =>
      exact actions_onUnknownAddress digest w port addr msg remoteUfrag now id
  | response p msg now =>
      show Actions _ _ w (if p ∈ w.live then _ else w)
      split
      · rename_i hlive
        exact actions_checkResponse w p msg now
          (fun request hrequest htype => ⟨rfl, hlive, request, hrequest, htype⟩)
          (fun request hrequest htype hcode => ⟨rfl, hlive, request, hrequest, htype, hcode⟩)
      · exact .refl
  | connectionState p now =>
      show Actions _ _ w (if p ∈ w.live then _ else w)
      split
      · exact actions_updateState w p now
      · exact .refl
  | tick now id =>
      show Actions _ _ w (if w.channel.startPinging then _ else w)
      split
      · exact .trans (actions_foldl (fun v conn => actions_updateState v conn now) _ w)
          (actions_pingNext digest _ now id)
      · exact .refl
  | destroy p now =>
      show Actions _ _ w (if p ∈ w.live then _ else w)
      split
      · rename_i hlive
        exact .single (.destroy w p now ⟨rfl, hlive⟩)
      · exact .refl
  | setRemoteIceParams params now => exact actions_setRemoteIceParams w params now
  | reuse heap => exact .single (.reuse w heap)

end

end Xrtc.Proofs.Ice
