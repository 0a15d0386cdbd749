import Xrtc.Ice.ChannelPackets
import Xrtc.Proofs.Ice.AddressMap

/-!
# `Xrtc.Proofs.Ice.ChannelPackets`: whom a channel talks to

A peer proves itself with a binding request under the password of the port
(`ProvesItself`). Every address in the map of a port, and the address of every connection that
exists, is the address of a request that the run has had before (`KnownPeers`). The selected
connection of the channel exists (`Held`), also where the controller keeps a pointer to one
that does not. So packets of the layers above go to such addresses only, and come from them
only (`packets_of_run`).

What an event does to the places of the connections is one of three things. They stay
(`SamePlaces`), some of them go (`KeepsPlaces`), or a request adds one.
-/

set_option autoImplicit false

namespace Xrtc.Proofs.Ice

open Xrtc.Lib
open Xrtc.Ice
open Xrtc.Ice.IceTransportChannel

/-! ### The selected connection exists -/

/-- The connections that the controller has and the one that the channel sends on exist. -/
structure Held (w : Core) : Prop where
  members : ∀ p ∈ w.controller.connections, p ∈ w.live
  selected : ∀ p, w.channel.selectedConnection = some p → p ∈ w.live

/-- Whether the pointers are held depends on the live connections, the list of the controller and
the selected one. -/
theorem Held.congr {v w : Core} (h : Held v) (hlive : w.live = v.live)
    (hconnections : w.controller.connections = v.controller.connections)
    (hselected : w.channel.selectedConnection = v.channel.selectedConnection) : Held w := by
  refine ⟨fun p hp => ?_, fun p hp => ?_⟩
  · rw [hlive]
    rw [hconnections] at hp
    exact h.members p hp
  · rw [hlive]
    rw [hselected] at hp
    exact h.selected p hp

/-- The sort selects a connection of the controller, or leaves the selected one. -/
theorem Held.sort {w : World} (h : Held w.toCore) (now : Int) :
    Held (sortConnectionsAndUpdateState w now).toCore := by
  have hsame := samePlaces_sort w now
  refine ⟨fun p hp => ?_, fun p hp => ?_⟩
  · rw [hsame.live]
    exact h.members p ((hsame.connections p).mp hp)
  · rw [hsame.live]
    rcases sort_selectedConnection_cases w now hp with hp | hp
    · exact h.selected p hp
    · exact h.members p hp

/-- A destroyed connection is not selected any more, nor in the list of the controller. If it was
the selected one, none is, until the sort selects one of those that are left. -/
theorem Held.destroy {w : World} (h : Held w.toCore) (p : Ptr) (now : Int) :
    Held (IceConnection.destroy w p now).toCore := by
  -- the connections that are left, and a selected one among them
  have hleft : ∀ v : World, (∀ q ∈ v.controller.connections, q ∈ w.live ∧ q ≠ p) →
      (∀ q, v.channel.selectedConnection = some q → q ∈ w.live ∧ q ≠ p) →
      v.live = w.live → Held { v with live := v.live.filter (· ≠ p) }.toCore := by
    intro v hmembers hselected hlive
    refine ⟨fun q hq => ?_, fun q hq => ?_⟩
    · show q ∈ v.live.filter (· ≠ p)
      rw [hlive]
      exact List.mem_filter.mpr ⟨(hmembers q hq).1, by simpa using (hmembers q hq).2⟩
    · show q ∈ v.live.filter (· ≠ p)
      rw [hlive]
      exact List.mem_filter.mpr ⟨(hselected q hq).1, by simpa using (hselected q hq).2⟩
  have hmembers : ∀ q ∈ (w.controller.onConnectionDestroyed p).connections,
      q ∈ w.live ∧ q ≠ p := by
    intro q hq
    obtain ⟨hq, hne⟩ := List.mem_filter.mp hq
    exact ⟨h.members q hq, by simpa using hne⟩
  unfold IceConnection.destroy
  rw [World.push_toCore]
  unfold onConnectionDestroyed
  dsimp only
  split
  · -- the selected one: none is, and then the sort may select another one
    generalize hv : switchSelectedConnection
      { w with controller := w.controller.onConnectionDestroyed p } none = v
    have hlive : v.live = w.live := by
      rw [← hv]
      exact switchSelectedConnection_live _ _
    have hconnections : v.controller.connections
        = (w.controller.onConnectionDestroyed p).connections := by
      rw [← hv]
      exact switchSelectedConnection_connections _ _
    have hnone : v.channel.selectedConnection = none := by
      rw [← hv]
      exact switchSelectedConnection_selectedConnection _ _
    have hsame := samePlaces_sort v now
    apply hleft
    · intro q hq
      exact hmembers q (hconnections ▸ (hsame.connections q).mp hq)
    · intro q hq
      rcases sort_selectedConnection_cases v now hq with hq | hq
      · rw [hnone] at hq
        cases hq
      · exact hmembers q (hconnections ▸ hq)
    · rw [hsame.live, hlive]
  · rename_i hother
    apply hleft
    · intro q hq
      rw [updateState_controller] at hq
      exact hmembers q hq
    · intro q hq
      rw [updateState_selectedConnection] at hq
      refine ⟨h.selected q hq, ?_⟩
      rintro rfl
      exact hother hq
    · rw [updateState_live]

/-- No action leaves a dangling pointer behind. -/
theorem held_action {allocator : Allocator} {ok : Permits} {w w' : World}
    (haction : Action allocator ok w w') (h : Held w.toCore) : Held w'.toCore := by
  cases haction with
  | sent | quiet | ping | answer | reuse => exact ⟨h.members, h.selected⟩
  | receiving p b now =>
      apply Held.sort
      exact ⟨h.members, h.selected⟩
  | writeState p s now =>
      apply Held.sort
      exact ⟨h.members, h.selected⟩
  | sort now => exact h.sort now
  | bookkeeping controller params lastPing interval hselected hconnections =>
      exact h.congr rfl hconnections rfl
  | create port remoteCandidate address data now =>
      apply Held.sort
      rw [World.send_toCore]
      refine ⟨fun p hp => ?_, fun p hp => List.mem_cons_of_mem _ (h.selected p hp)⟩
      rcases List.mem_append.mp hp with hp | hp
      · exact List.mem_cons_of_mem _ (h.members p hp)
      · rw [List.mem_singleton.mp hp]
        exact List.mem_cons_self
  | destroy p now => exact h.destroy p now

/-- So no step does, from the actions it is made of. -/
theorem held_step (digest : MessageDigest) (allocator : Allocator) {w : World} (e : Event)
    (h : Held w.toCore) : Held (step digest allocator w e).toCore :=
  preserved_of_reflTransGen (P := fun v => Held v.toCore)
    (fun _ _ haction hv => held_action haction hv) (actions_step digest w e) h

/-! ### The places of the connections -/

/-- No port changes, and no connection comes to a new place. -/
structure KeepsPlaces (w w' : Core) : Prop where
  ports : w'.ports = w.ports
  live : ∀ p ∈ w'.live, p ∈ w.live
  place : ∀ p ∈ w'.live, place (w'.heap p) = place (w.heap p)

/-- What changes no place keeps them. -/
theorem SamePlaces.keepsPlaces {w w' : Core} (h : SamePlaces w w') : KeepsPlaces w w' := by
  have hlive : ∀ p ∈ w'.live, p ∈ w.live := by
    intro p hp
    rwa [h.live] at hp
  exact ⟨h.ports, hlive, fun p hp => h.place p (hlive p hp)⟩

/-- Two changes in a row keep the places. -/
theorem KeepsPlaces.trans {u v w : Core} (h₁ : KeepsPlaces u v) (h₂ : KeepsPlaces v w) :
    KeepsPlaces u w := by
  refine ⟨h₂.ports.trans h₁.ports, fun p hp => h₁.live p (h₂.live p hp), fun p hp => ?_⟩
  rw [h₂.place p hp, h₁.place p (h₂.live p hp)]

/-- A connection that is destroyed frees its place, and moves no other connection. -/
theorem keepsPlaces_destroy (w : World) (p : Ptr) (now : Int) :
    KeepsPlaces w.toCore (IceConnection.destroy w p now).toCore := by
  have htold : ∀ v : World, SamePlaces v.toCore (switchSelectedConnection v none).toCore := by
    intro v
    refine ⟨switchSelectedConnection_ports _ _, switchSelectedConnection_live _ _, fun q => ?_,
      fun q _ => ?_⟩
    · rw [switchSelectedConnection_connections]
    · obtain ⟨b, hb⟩ := switchSelectedConnection_heap v none q
      rw [hb]
      rfl
  -- the channel is told, which leaves all places, and then the object is gone
  have hports := onConnectionDestroyed_ports w p now
  have hsame : (onConnectionDestroyed w p now).live = w.live ∧
      ∀ q, place ((onConnectionDestroyed w p now).heap q) = place (w.heap q) := by
    unfold onConnectionDestroyed
    dsimp only
    split
    · constructor
      · rw [(samePlaces_sort _ now).live, (htold _).live]
      · intro q
        obtain ⟨b, hb⟩ := switchedWorld_heap (switchSelectedConnection
          { w with controller := w.controller.onConnectionDestroyed p } none) q
        obtain ⟨b', hb'⟩ := switchSelectedConnection_heap
          { w with controller := w.controller.onConnectionDestroyed p } none q
        rw [sort_heap, hb, hb']
        rfl
    · rw [updateState_live, updateState_heap]
      exact ⟨rfl, fun _ => rfl⟩
  unfold IceConnection.destroy
  rw [World.push_toCore]
  refine ⟨hports, fun q hq => ?_, fun q _ => hsame.2 q⟩
  rw [← hsame.1]
  exact (List.mem_filter.mp hq).1

/-- A response may destroy the connection it is for, and moves none. -/
theorem keepsPlaces_checkResponse (w : World) (p : Ptr) (msg : StunMessage) (now : Int) :
    KeepsPlaces w.toCore (IceConnection.checkResponse w p msg now).toCore := by
  have hdeleted : ∀ (v : World) (id : Bytes), KeepsPlaces w.toCore v.toCore →
      KeepsPlaces w.toCore (IceConnection.deleteRequest v p id).toCore :=
    fun v id h => h.trans (samePlaces_deleteRequest v p id).keepsPlaces
  unfold IceConnection.checkResponse
  split
  · exact (SamePlaces.refl _).keepsPlaces
  · split
    · exact hdeleted _ _ (samePlaces_receivedPingResponse w p now _).keepsPlaces
    · split
      · -- an error, for which the connection may be destroyed
        apply hdeleted
        unfold IceConnection.onConnectionRequestErrorResponse
        dsimp only
        split
        · exact (SamePlaces.refl _).keepsPlaces
        · have hfailed : SamePlaces w.toCore (IceConnection.setState w p .failed).toCore :=
            samePlaces_modify w p fun _ => rfl
          exact hfailed.keepsPlaces.trans (keepsPlaces_destroy _ p now)
      · exact hdeleted _ _ (SamePlaces.refl _).keepsPlaces

/-! ### Peers that have proved themselves -/

/-- A binding request that only a peer can make who knows the password of a port. -/
def ProvesItself (digest : MessageDigest) (params : IceParameters) (data : Bytes) : Prop :=
  ∃ (port : UDPPort) (m : StunMessage) (remoteUfrag : Bytes),
    port.iceParams = params ∧ GenuineRequest digest port data m remoteUfrag

/-- An input by which the peer at an address proves itself to a port. -/
def Proves (digest : MessageDigest) (params : Nat → IceParameters) (i : Input) (port : Nat)
    (addr : SocketAddress) : Prop :=
  ∃ data now, i = .datagram port addr data now ∧ ProvesItself digest (params port) data

/-- The channel has connections only for addresses with a property, and sends on one of them. -/
structure KnownPeers (params : Nat → IceParameters) (proved : Nat → SocketAddress → Prop)
    (w : Core) : Prop where
  iceParams : ∀ port, (w.ports port).iceParams = params port
  mapped : ∀ port addr p, (w.ports port).connections addr = some p → proved port addr
  placed : ∀ p ∈ w.live, proved (w.heap p).port (w.heap p).remoteCandidate.address
  held : Held w

variable {params : Nat → IceParameters} {proved : Nat → SocketAddress → Prop}
  {digest : MessageDigest} {allocator : Allocator}

/-- A peer that is known stays known when more of them are proved. -/
theorem KnownPeers.mono {w : Core} (h : KnownPeers params proved w)
    {proved' : Nat → SocketAddress → Prop}
    (himp : ∀ port addr, proved port addr → proved' port addr) : KnownPeers params proved' w :=
  ⟨h.iceParams, fun port addr p hp => himp _ _ (h.mapped port addr p hp),
    fun p hp => himp _ _ (h.placed p hp), h.held⟩

/-- So it does over a change that keeps the places. -/
theorem KnownPeers.keepsPlaces {w w' : Core} (h : KnownPeers params proved w)
    (hkeeps : KeepsPlaces w w') (hheld : Held w') : KnownPeers params proved w' := by
  refine ⟨fun port => ?_, fun port addr p hp => ?_, fun p hp => ?_, hheld⟩
  · rw [hkeeps.ports]
    exact h.iceParams port
  · rw [hkeeps.ports] at hp
    exact h.mapped port addr p hp
  · have hplace := hkeeps.place p hp
    rw [place, place, Prod.mk.injEq] at hplace
    rw [hplace.1, hplace.2]
    exact h.placed p (hkeeps.live p hp)

/-- A connection for an address that has the property. The map, the heap and the list each get the
new connection, and what they say of the others stays. -/
theorem KnownPeers.created {w : World} (h : KnownPeers params proved w.toCore) {port : Nat}
    {remoteCandidate : Candidate} (hproved : proved port remoteCandidate.address) :
    KnownPeers params proved (addConnection (createConnection allocator w port remoteCandidate)
      (allocator.pick w.toCore)).toCore := by
  refine ⟨fun port' => ?_, fun port' addr p hp => ?_, fun p hp => ?_, ?_, ?_⟩
  · show (Function.update w.ports port _ port').iceParams = params port'
    -- the port has one more entry in its map, and keeps its parameters
    by_cases hport : port' = port
    · rw [hport, Function.update_self]
      exact h.iceParams port
    · rw [Function.update_of_ne hport]
      exact h.iceParams port'
  · change ((createConnection allocator w port remoteCandidate).ports port').connections addr
      = some p at hp
    rw [createConnection_connections] at hp
    split at hp
    · rename_i hsame
      rw [hsame.1, hsame.2]
      exact hproved
    · exact h.mapped port' addr p hp
  · show proved (Function.update w.heap _ _ p).port
      (Function.update w.heap _ _ p).remoteCandidate.address
    -- the new connection is at the address, the others are where they were
    by_cases hnew : p = allocator.pick w.toCore
    · rw [hnew, Function.update_self]
      exact hproved
    · rw [Function.update_of_ne hnew]
      exact h.placed p ((List.mem_cons.mp hp).resolve_left hnew)
  · intro p hp
    rcases List.mem_append.mp hp with hp | hp
    · exact List.mem_cons_of_mem _ (h.held.members p hp)
    · rw [List.mem_singleton.mp hp]
      exact List.mem_cons_self
  · exact fun p hp => List.mem_cons_of_mem _ (h.held.selected p hp)

/-- An input leaves the addresses that are known, and adds the one at which it proves a peer. -/
theorem knownPeers_next {w w' : World} {i : Input} (h : KnownPeers params proved w.toCore)
    (hnext : next digest allocator w i = some w') :
    KnownPeers params (fun port addr => proved port addr ∨ Proves digest params i port addr)
      w'.toCore := by
  have hwider : KnownPeers params (fun port addr => proved port addr ∨
      Proves digest params i port addr) w.toCore := h.mono fun _ _ => .inl
  cases i with
  | datagram port addr data now =>
      cases effect_datagram hnext with
      | none hcore hlog =>
          rw [hcore]
          exact hwider
      | request m msg remoteUfrag haddr hgenuine hstep =>
          have hheld := held_step digest allocator
            (.unknownAddress port addr msg remoteUfrag now) h.held
          subst hstep
          have hproves : Proves digest params (.datagram port addr data now) port addr :=
            ⟨data, now, rfl, w.ports port, m, remoteUfrag, h.iceParams port, hgenuine⟩
          change Held (onUnknownAddress digest allocator w port addr msg remoteUfrag now).toCore
            at hheld
          show KnownPeers params _
            (onUnknownAddress digest allocator w port addr msg remoteUfrag now).toCore
          unfold onUnknownAddress at hheld ⊢
          split
          · rw [World.send_toCore]
            exact hwider
          · rename_i priorityAttr hpriority
            rw [hpriority] at hheld
            -- the new connection answers the request, and the connections are sorted
            refine KnownPeers.keepsPlaces (hwider.created ?_)
              ((samePlaces_handleStunBindingRequest _ _ msg).trans
                (samePlaces_sort _ now)).keepsPlaces hheld
            exact .inr hproves
      | response p m request haddr hlive hgenuine htype hrequest hstep =>
          have hheld := held_step digest allocator (.response p
            (m.validateMessageIntegrity digest (w.heap p).remoteCandidate.password) now) h.held
          subst hstep
          refine hwider.keepsPlaces ?_ hheld
          show KeepsPlaces w.toCore (if p ∈ w.live then _ else w).toCore
          rw [if_pos hlive]
          exact keepsPlaces_checkResponse w p _ now
  | tick now id =>
      cases hnext
      refine hwider.keepsPlaces ?_ (held_step digest allocator (.tick now id) h.held)
      show KeepsPlaces w.toCore (if w.channel.startPinging then _ else w).toCore
      split
      · exact (samePlaces_onCheckAndPing digest w now id).keepsPlaces
      · exact (SamePlaces.refl _).keepsPlaces
  | setRemoteIceParams remoteParams now =>
      cases hnext
      exact hwider.keepsPlaces (samePlaces_setRemoteIceParams w remoteParams now).keepsPlaces
        (held_step digest allocator (.setRemoteIceParams remoteParams now) h.held)
  | reuse heap =>
      cases hnext
      refine hwider.keepsPlaces ⟨rfl, fun p hp => hp, fun p hp => ?_⟩
        (held_step digest allocator (.reuse heap) h.held)
      have hlive : p ∈ w.live := hp
      show place (if p ∈ w.live then w.heap p else heap p) = _
      rw [if_pos hlive]

/-- A channel without connections knows nobody. -/
theorem knownPeers_init (heap : Ptr → IceConnection) (params : Nat → IceParameters)
    (localCandidate : Nat → Candidate) (proved : Nat → SocketAddress → Prop) :
    KnownPeers params proved (World.init heap params localCandidate).toCore := by
  refine ⟨fun _ => rfl, fun _ _ _ hp => ?_, fun _ hp => ?_, fun _ hp => ?_, fun _ hp => ?_⟩ <;>
    cases hp

/-! ### The packets of the layers above -/

/-- What is sent on a channel goes to an address that is known. -/
theorem KnownPeers.sendPacket {w : Core} (h : KnownPeers params proved w) {data : Bytes}
    {packet : PortPacket} (hsend : IceTransportChannel.sendPacket w data = some packet) :
    packet.data = data ∧ proved packet.port packet.address := by
  unfold IceTransportChannel.sendPacket at hsend
  split at hsend
  · cases hsend
  · rename_i conn hselected
    split at hsend
    · cases hsend
    · cases hsend
      exact ⟨rfl, h.placed conn (h.held.selected conn hselected)⟩

/-- What a channel hands on comes from an address that is known. -/
theorem KnownPeers.handsOn {w : Core} (h : KnownPeers params proved w) {port : Nat}
    {addr : SocketAddress} {data : Bytes}
    (hon : UDPPort.handsOn digest w port addr data = true) : proved port addr := by
  unfold UDPPort.handsOn at hon
  split at hon
  · rename_i conn hconn
    exact h.mapped port addr conn hconn
  · cases hon

/-- The addresses that are known after some inputs are those at which the inputs prove a peer. -/
theorem knownPeers_of_run {start w : World} {inputs : List Input}
    (hstart : KnownPeers params (fun _ _ => False) start.toCore)
    (hrun : runPartial (next digest allocator) start inputs = some w) :
    KnownPeers params (fun port addr => ∃ i ∈ inputs, Proves digest params i port addr)
      w.toCore := by
  refine history_of_runPartial (P := fun inputs w => KnownPeers params (fun port addr =>
    ∃ i ∈ inputs, Proves digest params i port addr) w.toCore) ?_ ?_ hrun
  · intro past v i v' _ hnext h
    refine (knownPeers_next h hnext).mono fun port addr hproved => ?_
    rcases hproved with ⟨j, hj, hproves⟩ | hproves
    · exact ⟨j, List.mem_append_left _ hj, hproves⟩
    · exact ⟨i, List.mem_append_right _ (List.mem_singleton.mpr rfl), hproves⟩
  · exact hstart.mono fun _ _ h => h.elim

/-- In every state that a channel can reach, the packets of the layers above go to a peer that
has proved itself, and come from one, whatever else has arrived and whichever connections have
been destroyed. -/
theorem packets_of_run (heap : Ptr → IceConnection) (params : Nat → IceParameters)
    (localCandidate : Nat → Candidate) {inputs : List Input} {w : World}
    (hrun : runPartial (next digest allocator) (World.init heap params localCandidate) inputs
      = some w) :
    (∀ data packet, IceTransportChannel.sendPacket w.toCore data = some packet →
      packet.data = data ∧ ∃ i ∈ inputs, Proves digest params i packet.port packet.address) ∧
    ∀ port addr data, UDPPort.handsOn digest w.toCore port addr data = true →
      ∃ i ∈ inputs, Proves digest params i port addr := by
  have h := knownPeers_of_run (knownPeers_init heap params localCandidate _) hrun
  exact ⟨fun data packet hsend => h.sendPacket hsend, fun port addr data hon => h.handsOn hon⟩

/-! #### A peer that answers the ping -/

/-- The HMAC-SHA1 of `peerAnswer` under the password `rp`. -/
def peerAnswerHmac : Vector UInt8 20 :=
  #v[0xac, 0x79, 0x56, 0xe0, 0xb8, 0xba, 0x51, 0x4d, 0x9f, 0x85, 0x61, 0x6a, 0x39, 0xc6, 0xbc, 0xa6,
    0x6c, 0x80, 0x56, 0xeb]

/-- The digests of the answer, and those of the other messages. -/
def answerDigest : MessageDigest where
  hmacSha1 key data :=
    if data.length = 20 then peerAnswerHmac.toList else peerDigest.hmacSha1 key data
  crc32 data := if data.length = 44 then 0x66ab9798 else peerDigest.crc32 data
  hmacSha1_length key data := by
    split_ifs
    · exact Vector.length_toList
    · exact peerDigest.hmacSha1_length key data

/-- A success response to the ping. -/
def peerAnswer : Bytes :=
  [0x01, 0x01, 0x00, 0x20, 0x21, 0x12, 0xa4, 0x42] ++ pingId ++
    [0x00, 0x08, 0x00, 0x14] ++ peerAnswerHmac.toList ++
    [0x80, 0x28, 0x00, 0x04, 0x35, 0xff, 0xc2, 0xd6]

/-- The peer asks for a connection, is pinged, and answers. -/
def answeredInputs : List Input := peerInputs ++ [.datagram 0 peerAddress peerAnswer 1010]

/-- Then packets go to the peer and come from it. -/
theorem packets_of_answeredInputs :
    ∃ w, runPartial (next answerDigest nextFree) peerChannel answeredInputs = some w ∧
      IceTransportChannel.sendPacket w.toCore [0x80] = some ⟨0, peerAddress, [0x80]⟩ ∧
      UDPPort.handsOn answerDigest w.toCore 0 peerAddress [0x80] = true ∧
      ∃ i ∈ answeredInputs,
        Proves answerDigest (fun _ => ⟨ascii "l", ascii "lp"⟩) i 0 peerAddress := by
  have hpackets : (runPartial (next answerDigest nextFree) peerChannel answeredInputs).map
      (fun w => (IceTransportChannel.sendPacket w.toCore [0x80],
        UDPPort.handsOn answerDigest w.toCore 0 peerAddress [0x80]))
      = some (some ⟨0, peerAddress, [0x80]⟩, true) := by
    decide +kernel
  obtain ⟨w, hw, heq⟩ := Option.map_eq_some_iff.mp hpackets
  obtain ⟨hsend, hon⟩ := Prod.mk.injEq _ _ _ _ ▸ heq
  exact ⟨w, hw, hsend, hon, ((packets_of_run _ _ _ hw).1 _ _ hsend).2⟩

end Xrtc.Proofs.Ice
