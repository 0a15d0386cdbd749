import Xrtc.Proofs.Ice.ChannelState
import Xrtc.Proofs.Ice.Authentication

/-!
# `Xrtc.Proofs.Ice.ChannelSignals`: a listener knows the values of a channel

A channel has three values that others follow by its signals alone: whether it is writable,
whether it is receiving, and its state. `Tells` says of two states of a channel that the
entries between them lead a listener from the values before to the values after. Every input
does (`tells_next`), so no change goes by without a signal.

`actions_next` says once more that an input is a sequence of actions, here with every
permission, which is enough for what does not depend on them.
-/

set_option autoImplicit false

namespace Xrtc.Proofs.Ice

open Xrtc.Lib
open Xrtc.Ice
open Xrtc.Ice.IceTransportChannel

/-! ### Listening to a channel -/

/-- The values that a channel signals. -/
structure ChannelValues where
  writable : Bool
  receiving : Bool
  state : IceTransportState

/-- The values of a channel. -/
def valuesOf (c : IceTransportChannel) : ChannelValues := ⟨c.writable, c.receiving, c.state⟩

/-- What a listener knows after an entry. -/
def ChannelValues.hear (v : ChannelValues) : Entry → ChannelValues
  | .writable writable => { v with writable }
  | .receiving receiving => { v with receiving }
  | .iceState state => { v with state }
  | _ => v

/-- What a listener knows after the entries of a record, whose latest entry is the first. -/
def heard (v : ChannelValues) (log : List Entry) : ChannelValues :=
  log.foldr (fun e v => v.hear e) v

/-- Without a signal nothing is heard. -/
@[simp] theorem heard_nil (v : ChannelValues) : heard v [] = v := rfl

/-- The latest entry is heard last. -/
@[simp] theorem heard_cons (v : ChannelValues) (e : Entry) (log : List Entry) :
    heard v (e :: log) = (heard v log).hear e := rfl

/-- What is heard of a longer record is heard of its older part first. -/
theorem heard_append (v : ChannelValues) (new log : List Entry) :
    heard v (new ++ log) = heard (heard v log) new := List.foldr_append

/-- The entries between two states of a channel tell what has become of its values. No channel
signals that it is closed. -/
def Tells (w w' : World) : Prop :=
  ∃ new, w'.log = new ++ w.log ∧ heard (valuesOf w.channel) new = valuesOf w'.channel ∧
    Entry.iceState .closed ∉ new

/-- Nothing happens, and nothing has to be told. -/
theorem Tells.refl (w : World) : Tells w w := ⟨[], rfl, rfl, List.not_mem_nil⟩

/-- Two steps that tell what they change tell it together. -/
theorem Tells.trans {u v w : World} (h₁ : Tells u v) (h₂ : Tells v w) : Tells u w := by
  obtain ⟨new₁, hlog₁, hheard₁, hopen₁⟩ := h₁
  obtain ⟨new₂, hlog₂, hheard₂, hopen₂⟩ := h₂
  refine ⟨new₂ ++ new₁, ?_, ?_, ?_⟩
  · rw [hlog₂, hlog₁, List.append_assoc]
  · rw [heard_append, hheard₁, hheard₂]
  · rw [List.mem_append]
    rintro (h | h)
    · exact hopen₂ h
    · exact hopen₁ h

/-- A change that leaves the values and the record alone. -/
theorem Tells.of_eq {w w' : World} (hlog : w'.log = w.log)
    (hvalues : valuesOf w'.channel = valuesOf w.channel) : Tells w w' :=
  ⟨[], hlog, hvalues.symm, List.not_mem_nil⟩

/-- An entry that is no signal. -/
theorem Tells.push {w w' : World} (h : Tells w w') {e : Entry}
    (hhear : ∀ v : ChannelValues, v.hear e = v) (hopen : e ≠ .iceState .closed) :
    Tells w (w'.push e) := by
  refine h.trans ⟨[e], rfl, ?_, ?_⟩
  · rw [heard_cons, hhear]
    rfl
  · rw [List.mem_singleton]
    exact fun he => hopen he.symm

/-- A packet is no value of the channel. -/
theorem Tells.send {w w' : World} (h : Tells w w') (address : SocketAddress)
    (data : Option Bytes) : Tells w (w'.send address data) := by
  cases data with
  | none => exact h
  | some data => exact h.push (fun _ => rfl) (by intro he; cases he)

/-! ### What a channel does -/

/-- No channel computes the state `closed`. -/
theorem computeIceTransportState_ne_closed (w : Core) : computeIceTransportState w ≠ .closed := by
  unfold computeIceTransportState
  dsimp only
  split_ifs <;> decide

/-- A channel that has had a connection and has not failed has an active one. -/
theorem active_of_not_failed {w : Core} (h : computeIceTransportState w ≠ .failed)
    (hhad : w.channel.hadConnection = true) :
    ∃ conn ∈ w.controller.connections, (w.heap conn).active = true := by
  rw [← List.any_eq_true]
  by_contra hnone
  rw [Bool.not_eq_true] at hnone
  apply h
  unfold computeIceTransportState
  dsimp only
  rw [hhad, hnone]
  rfl

/-- A channel computes that it is connected, or completed, only while it is writable. -/
theorem writable_of_connected {w : Core}
    (h : computeIceTransportState w ∈ [IceTransportState.connected, .completed, .closed]) :
    w.channel.writable = true := by
  unfold computeIceTransportState at h
  cases hwritable : w.channel.writable with
  | true => rfl
  | false =>
      cases hhad : w.channel.hadConnection <;> cases hbeen : w.channel.hasBeenConnection <;>
        cases hany : (w.controller.connections.any fun conn => (w.heap conn).active) <;>
        simp [hwritable, hhad, hbeen, hany] at h

/-- `_update_state` raises a signal for each of the three values that it changes, and for no other
one. -/
theorem tells_updateState (w : World) : Tells w (updateState w) := by
  have hwritable : ∀ (v : World) (b : Bool), Tells v (setWritable v b) := by
    intro v b
    unfold setWritable
    split
    · exact .refl v
    · exact ⟨[.writable b], rfl, rfl, by simp⟩
  have hreceiving : ∀ (v : World) (b : Bool), Tells v (setReceiving v b) := by
    intro v b
    unfold setReceiving
    split
    · exact .refl v
    · exact ⟨[.receiving b], rfl, rfl, by simp⟩
  have hstate : ∀ v : World, Tells v (setIceState v) := by
    intro v
    unfold setIceState
    dsimp only
    split
    · refine ⟨[.iceState (computeIceTransportState v.toCore)], rfl, rfl, ?_⟩
      simp [(computeIceTransportState_ne_closed v.toCore).symm]
    · exact .refl v
  unfold updateState
  exact ((hwritable w _).trans (hreceiving _ _)).trans (hstate _)

/-- A switch is no change of the three values. -/
theorem valuesOf_switchSelectedConnection (w : World) (conn : Option Ptr) :
    valuesOf (switchSelectedConnection w conn).channel = valuesOf w.channel := by
  unfold switchSelectedConnection
  cases w.channel.selectedConnection <;> cases conn <;> rfl

/-- A sort without `_update_state` changes none of the values. -/
theorem valuesOf_switchedWorld (w : World) :
    valuesOf (switchedWorld w).channel = valuesOf w.channel := by
  unfold switchedWorld maybeSwitchSelectedConnection
  split
  · rfl
  · exact valuesOf_switchSelectedConnection _ _

/-- So a sort tells what it changes. -/
theorem tells_sort (w : World) (now : Int) : Tells w (sortConnectionsAndUpdateState w now) := by
  have hswitched : Tells w (switchedWorld w) :=
    .of_eq (switchedWorld_log w) (valuesOf_switchedWorld w)
  have hpinging : Tells (updateState (switchedWorld w)) (sortAndUpdate w now) := by
    rw [sortAndUpdate_eq, maybeStartPinging_eq]
    exact .of_eq rfl rfl
  unfold sortConnectionsAndUpdateState
  exact ((hswitched.trans (tells_updateState _)).trans hpinging).push (fun _ => rfl)
    (by intro he; cases he)

/-- So does the end of a connection, which is followed by a sort. -/
theorem tells_destroy (w : World) (p : Ptr) (now : Int) :
    Tells w (IceConnection.destroy w p now) := by
  have htold : Tells w (onConnectionDestroyed w p now) := by
    unfold onConnectionDestroyed
    dsimp only
    split
    · refine .trans (.of_eq ?_ ?_) (tells_sort _ now)
      · exact switchSelectedConnection_log _ _
      · exact valuesOf_switchSelectedConnection _ _
    · refine .trans (.of_eq ?_ ?_) (tells_updateState _)
      · rfl
      · rfl
  have hfreed : Tells w { onConnectionDestroyed w p now with
      live := (onConnectionDestroyed w p now).live.filter (· ≠ p) } :=
    htold.trans (.of_eq rfl rfl)
  exact hfreed.push (fun _ => rfl) (by intro he; cases he)

/-- And so does every action, case by case. -/
theorem tells_action {allocator : Allocator} {ok : Permits} {w w' : World}
    (haction : Action allocator ok w w') : Tells w w' := by
  -- a change of a connection, which the channel itself does not notice
  have hmodify : ∀ p f, Tells w (w.modify p f) := fun _ _ => .of_eq rfl rfl
  cases haction with
  | sent address data => exact (Tells.refl w).push (fun _ => rfl) (by intro he; cases he)
  | quiet p f => exact hmodify p f
  | receiving p b now => exact (hmodify p _).trans (tells_sort _ now)
  | writeState p s now => exact (hmodify p _).trans (tells_sort _ now)
  | sort now => exact tells_sort w now
  | bookkeeping => exact .of_eq rfl rfl
  | ping p id now => exact (hmodify p _).push (fun _ => rfl) (by intro he; cases he)
  | answer p id => exact (hmodify p _).push (fun _ => rfl) (by intro he; cases he)
  | create port remoteCandidate address data now =>
      have hcreated : Tells w (createConnection allocator w port remoteCandidate) :=
        ⟨[.created (allocator.pick w.toCore)], rfl, rfl, by simp⟩
      have hadded : Tells w (addConnection (createConnection allocator w port remoteCandidate)
          (allocator.pick w.toCore)) := hcreated.trans (.of_eq rfl rfl)
      exact (hadded.send address data).trans (tells_sort _ now)
  | destroy p now => exact tells_destroy w p now
  | reuse heap => exact .of_eq rfl rfl

/-! ### Inputs -/

/-- Every permission. -/
def allPermits : Permits where
  writable _ := True
  create := True
  destroy _ := True

variable {digest : MessageDigest} {allocator : Allocator}

/-- An action that is permitted somewhere is permitted where everything is. -/
theorem Action.allPermits {ok : Permits} {w w' : World} (h : Action allocator ok w w') :
    Action allocator allPermits w w' := by
  cases h with
  | sent address data => exact .sent w address data
  | quiet p f hf => exact .quiet w p f hf
  | receiving p b now => exact .receiving w p b now
  | writeState p s now => exact .writeState w p s now fun _ => trivial
  | sort now => exact .sort w now
  | bookkeeping controller params lastPing interval hselected hconnections =>
      exact .bookkeeping w controller params lastPing interval hselected hconnections
  | ping p id now h => exact .ping w p id now h
  | answer p id => exact .answer w p id
  | create port remoteCandidate address data now =>
      exact .create w port remoteCandidate address data now trivial
  | destroy p now => exact .destroy w p now trivial
  | reuse heap => exact .reuse w heap

/-- Every event takes actions, if all of them are permitted. -/
theorem actions_step_allPermits (w : World) (e : Event) :
    Actions allocator allPermits w (step digest allocator w e) :=
  preserved_of_reflTransGen (P := Actions allocator allPermits w)
    (fun _ _ haction h => h.tail haction.allPermits) (actions_step digest w e) .refl

/-- So does a packet at a connection: a response, a request, or data. -/
theorem actions_onReadPacket_connection (w : World) (p : Ptr) (data : Bytes) (now : Int) :
    Actions allocator allPermits w (IceConnection.onReadPacket digest w p data now) := by
  unfold IceConnection.onReadPacket
  dsimp only
  split
  · exact .refl
  · exact actions_send _ _ _
  · split
    · split
      · exact actions_send _ _ _
      · unfold IceConnection.handleStunBindingRequest
        split
        · exact .refl
        · exact actions_send _ _ _
    · split
      · split
        · exact actions_checkResponse w p _ now (fun _ _ _ => trivial) fun _ _ _ _ => trivial
        · exact .refl
      · exact .refl

/-- An input is a sequence of actions, with all permissions: what a datagram may do is told by the
port that hands it on. -/
theorem actions_next {w w' : World} {i : Input} (h : next digest allocator w i = some w') :
    Actions allocator allPermits w w' := by
  cases i with
  -- a datagram goes to its connection, or is answered, or makes a new connection
  | datagram port addr data now =>
      change UDPPort.onReadPacket digest allocator w port addr data now = some w' at h
      unfold UDPPort.onReadPacket at h
      split at h
      · split at h
        · cases h
          exact actions_onReadPacket_connection w _ data now
        · cases h
      · split at h
        · cases h
          exact .refl
        · cases h
          exact actions_send _ _ _
        · split at h
          · cases h
            exact actions_onUnknownAddress digest w port addr _ _ now fun _ => trivial
          · cases h
            exact .refl
  | tick now id =>
      cases h
      exact actions_step_allPermits w (.tick now id)
  | setRemoteIceParams params now =>
      cases h
      exact actions_step_allPermits w (.setRemoteIceParams params now)
  | reuse heap =>
      cases h
      exact actions_step_allPermits w (.reuse heap)

/-- An input tells what it does to the values of the channel. -/
theorem tells_next {w w' : World} {i : Input} (h : next digest allocator w i = some w') :
    Tells w w' := by
  refine preserved_of_reflTransGen (P := Tells w) (fun v v' haction hv => ?_) (actions_next h)
    (.refl w)
  exact hv.trans (tells_action haction)

/-- An input leaves the channel sound. -/
theorem sound_next {w w' : World} {i : Input} (h : next digest allocator w i = some w')
    (hw : Sound w) : Sound w' :=
  preserved_of_reflTransGen (P := Sound) (fun _ _ haction hs => sound_action haction hs)
    (actions_next h) hw

end Xrtc.Proofs.Ice
