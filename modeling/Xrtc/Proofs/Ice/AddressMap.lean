import Xrtc.Proofs.Ice.Authentication
import Xrtc.Proofs.Ice.ErrorCode

/-!
# `Xrtc.Proofs.Ice.AddressMap`: the connections a port knows

A port finds the connection of a datagram in its map of remote addresses.
`create_connection` fills the map. When a connection is destroyed only the channel is
told, and the map keeps its pointer.

`MapAgrees` says that the map has no pointers but those of connections that exist and
that the controller has, and that the controller's connections are in the map under
their own addresses. As long as it holds, every input has a next state
(`portNext_isSome`). It holds along a run if and only if no connection is destroyed in
the run (`always_mapAgrees_iff`). A connection is destroyed by its owner, or by a
genuine error response to a request it has outstanding, whatever its code
(`getErrorCodeValue_of_read`).

Most of what an input does leaves the map and the addresses alone (`SamePlaces`).
-/

set_option autoImplicit false

namespace Xrtc.Proofs.Ice

open Xrtc.Lib
open Xrtc.Ice
open Xrtc.Ice.IceTransportChannel

/-! ### What leaves the map alone -/

/-- The port of a connection and the address it was created for. -/
def place (c : IceConnection) : Nat × SocketAddress := (c.port, c.remoteCandidate.address)

/-- The same connections at the same places. -/
structure SamePlaces (w w' : Core) : Prop where
  ports : w'.ports = w.ports
  live : w'.live = w.live
  connections : ∀ p, p ∈ w'.controller.connections ↔ p ∈ w.controller.connections
  place : ∀ p ∈ w.live, place (w'.heap p) = place (w.heap p)

/-- A channel has its places. -/
theorem SamePlaces.refl (w : Core) : SamePlaces w w :=
  ⟨rfl, rfl, fun _ => Iff.rfl, fun _ _ => rfl⟩

/-- What two steps leave in its place is there after both. -/
theorem SamePlaces.trans {u v w : Core} (h₁ : SamePlaces u v) (h₂ : SamePlaces v w) :
    SamePlaces u w := by
  refine ⟨h₂.ports.trans h₁.ports, h₂.live.trans h₁.live,
    fun p => (h₂.connections p).trans (h₁.connections p), fun p hp => ?_⟩
  rw [h₂.place p (h₁.live ▸ hp), h₁.place p hp]

/-- So it is with a loop, by induction on the list. -/
theorem samePlaces_foldl {α : Type} {f : World → α → World}
    (h : ∀ w a, SamePlaces w.toCore (f w a).toCore) (l : List α) (w : World) :
    SamePlaces w.toCore (l.foldl f w).toCore := by
  induction l generalizing w with
  | nil => exact .refl _
  | cons a l ih => exact (h w a).trans (ih (f w a))

/-- A change of a connection that leaves its port and its address moves nothing. -/
theorem samePlaces_modify (w : World) (p : Ptr) {f : IceConnection → IceConnection}
    (hf : ∀ c, place (f c) = place c) : SamePlaces w.toCore (w.modify p f).toCore := by
  refine ⟨rfl, rfl, fun _ => Iff.rfl, fun q _ => ?_⟩
  by_cases hq : q = p
  · subst hq
    rw [World.modify_heap_self]
    exact hf _
  · rw [World.modify_heap_of_ne _ _ hq]

/-- A sort moves nothing. -/
theorem samePlaces_sort (w : World) (now : Int) :
    SamePlaces w.toCore (sortConnectionsAndUpdateState w now).toCore := by
  refine ⟨?_, ?_, fun p => ?_, fun p _ => ?_⟩
  · rw [sort_ports, switchedWorld_ports]
  · rw [sort_live, switchedWorld_live]
  · rw [sort_controller, switchedWorld_connections, mem_sortConnections]
  · obtain ⟨b, hb⟩ := switchedWorld_heap w p
    rw [sort_heap, hb]
    rfl

section

open IceConnection

variable (w : World) (p : Ptr) (now : Int)

/-- Neither does `update_receiving`. -/
theorem samePlaces_updateReceiving :
    SamePlaces w.toCore (updateReceiving w p now).toCore := by
  unfold updateReceiving
  dsimp only
  split
  · exact .refl _
  · refine .trans ?_ (samePlaces_sort _ now)
    exact samePlaces_modify w p fun _ => rfl

/-- Nor `set_write_state`. -/
theorem samePlaces_setWriteState (s : WriteState) :
    SamePlaces w.toCore (setWriteState w p s now).toCore := by
  unfold setWriteState
  split
  · exact .refl _
  · refine .trans ?_ (samePlaces_sort _ now)
    exact samePlaces_modify w p fun _ => rfl

/-- Nor a response that is credited. -/
theorem samePlaces_receivedPingResponse (rtt : Int) :
    SamePlaces w.toCore (receivedPingResponse w p rtt now).toCore := by
  unfold receivedPingResponse setState
  have hcredited : SamePlaces w.toCore (w.modify p fun c => c.creditResponse rtt now).toCore :=
    samePlaces_modify w p fun _ => rfl
  refine .trans ?_ (samePlaces_modify _ p fun _ => rfl)
  exact (hcredited.trans (samePlaces_updateReceiving _ p now)).trans
    (samePlaces_setWriteState _ p now .writable)

/-- Nor `update_state`. -/
theorem samePlaces_updateState : SamePlaces w.toCore (IceConnection.updateState w p now).toCore := by
  have hunreliable : ∀ v, SamePlaces v.toCore (updateUnreliable v p now).toCore := by
    intro v
    unfold updateUnreliable
    dsimp only
    split
    · exact samePlaces_setWriteState v p now .writeUnreliable
    · exact .refl _
  have htimeout : ∀ v, SamePlaces v.toCore (updateTimeout v p now).toCore := by
    intro v
    unfold updateTimeout
    dsimp only
    split
    · exact samePlaces_setWriteState v p now .writeTimeout
    · exact .refl _
  exact ((hunreliable w).trans (htimeout _)).trans (samePlaces_updateReceiving _ p now)

/-- The end of every response. -/
theorem samePlaces_deleteRequest (id : Bytes) :
    SamePlaces w.toCore (deleteRequest w p id).toCore :=
  samePlaces_modify w p (f := fun c => c.removeRequest id) fun _ => rfl

/-- Nor a ping. -/
theorem samePlaces_ping (digest : MessageDigest) (id : Bytes) :
    SamePlaces w.toCore (ping digest w p now id).toCore := by
  have hnoted : SamePlaces w.toCore (w.modify p fun c => c.notePing id now).toCore :=
    samePlaces_modify w p fun _ => rfl
  unfold ping
  dsimp only
  rw [World.send_toCore, World.push_toCore]
  exact hnoted

end

/-- Only the bookkeeping of the controller and of the channel changes. -/
theorem samePlaces_bookkeeping (w : World) {controller : IceController}
    (channel : IceTransportChannel) (h : controller.connections = w.controller.connections) :
    SamePlaces w.toCore { w with controller := controller, channel := channel }.toCore :=
  ⟨rfl, rfl, fun p => by rw [h], fun _ _ => rfl⟩

/-- So the timer moves nothing once the connection states are updated. -/
theorem samePlaces_pingNext (digest : MessageDigest) (w : World) (now : Int) (id : Bytes) :
    SamePlaces w.toCore (pingNext digest w now id).toCore := by
  have hconnections := (selectConnectionToPing_controller w.toCore
    (w.channel.lastPingSentMs - pingIntervalDiff) now).2
  unfold pingNext
  simp only
  generalize IceController.selectConnectionToPing w.toCore
    (w.channel.lastPingSentMs - pingIntervalDiff) now = r at hconnections
  cases r.1 with
  | none => exact samePlaces_bookkeeping w _ hconnections
  | some conn =>
      have hselected : SamePlaces w.toCore
          { w with
              controller := r.2.2
              channel := { w.channel with lastPingSentMs := now } }.toCore :=
        samePlaces_bookkeeping w _ hconnections
      refine (hselected.trans (samePlaces_ping _ conn now digest id)).trans ?_
      dsimp only
      generalize IceConnection.ping digest _ conn now id = v
      exact samePlaces_bookkeeping v _ (markConnectionPinged_controller v.controller conn).2

/-- The ping timer. -/
theorem samePlaces_onCheckAndPing (digest : MessageDigest) (w : World) (now : Int) (id : Bytes) :
    SamePlaces w.toCore (onCheckAndPing digest w now id).toCore :=
  (samePlaces_foldl (fun v conn => samePlaces_updateState v conn now) w.controller.connections
    w).trans (samePlaces_pingNext digest _ now id)

/-- Remote parameters give a candidate its password and move nothing. -/
theorem samePlaces_setRemoteIceParams (w : World) (params : IceParameters) (now : Int) :
    SamePlaces w.toCore (setRemoteIceParams w params now).toCore := by
  have hplace : ∀ c : IceConnection, place (c.maybeSetRemoteIceParams params) = place c := by
    intro c
    unfold IceConnection.maybeSetRemoteIceParams
    split <;> rfl
  have hparams : SamePlaces w.toCore
      { w with channel := { w.channel with remoteIceParams := params } }.toCore :=
    ⟨rfl, rfl, fun _ => Iff.rfl, fun _ _ => rfl⟩
  have hconnections : ∀ v : World, SamePlaces v.toCore (w.controller.connections.foldl
      (fun v conn => v.modify conn fun c => c.maybeSetRemoteIceParams params) v).toCore :=
    samePlaces_foldl (fun v conn => samePlaces_modify v conn hplace) w.controller.connections
  exact (hparams.trans (hconnections _)).trans (samePlaces_sort _ now)

/-! ### The map and the controller -/

/-- The map of every port has only connections that exist and that the controller has,
and a connection of the controller is the one that the map of its port has for its own
address. -/
structure MapAgrees (w : Core) : Prop where
  exists_of_mem : ∀ port addr p, (w.ports port).connections addr = some p →
    p ∈ w.live ∧ p ∈ w.controller.connections
  stored : ∀ p ∈ w.controller.connections,
    (w.ports (w.heap p).port).connections (w.heap p).remoteCandidate.address = some p

/-- What is kept along a run: the map agrees, the controller has the connections that
exist, and the requests are accounted for. -/
structure Mapped (w : World) : Prop where
  agrees : MapAgrees w.toCore
  members : ∀ p, p ∈ w.controller.connections ↔ p ∈ w.live
  accountable : Accountable w

/-- The map of a port agrees with the connections as long as nothing moves and none comes or goes.
-/
theorem MapAgrees.of_samePlaces {v w : Core} (h : MapAgrees v) (hsame : SamePlaces v w)
    (hmembers : ∀ p, p ∈ v.controller.connections ↔ p ∈ v.live) : MapAgrees w := by
  refine ⟨fun port addr p hp => ?_, fun p hp => ?_⟩
  · rw [hsame.ports] at hp
    obtain ⟨hlive, hmem⟩ := h.exists_of_mem port addr p hp
    rw [hsame.live]
    exact ⟨hlive, (hsame.connections p).mpr hmem⟩
  · have hmem := (hsame.connections p).mp hp
    have hplace := hsame.place p ((hmembers p).mp hmem)
    rw [place, place, Prod.mk.injEq] at hplace
    rw [hsame.ports, hplace.1, hplace.2]
    exact h.stored p hmem

/-- The same for the invariant, which also knows that every connection is one of the controller.
-/
theorem Mapped.of_samePlaces {v : Core} {w : World} (hagrees : MapAgrees v)
    (hmembers : ∀ p, p ∈ v.controller.connections ↔ p ∈ v.live) (hsame : SamePlaces v w.toCore)
    (haccountable : Accountable w) : Mapped w := by
  refine ⟨hagrees.of_samePlaces hsame hmembers, fun p => ?_, haccountable⟩
  rw [hsame.connections p, hsame.live]
  exact hmembers p

/-- What the maps have after a connection is created. -/
theorem createConnection_connections (allocator : Allocator) (w : World) (port : Nat)
    (remoteCandidate : Candidate) (port' : Nat) (addr : SocketAddress) :
    ((createConnection allocator w port remoteCandidate).ports port').connections addr =
      if port' = port ∧ addr = remoteCandidate.address then some (allocator.pick w.toCore)
      else (w.ports port').connections addr := by
  show (Function.update w.ports port _ port').connections addr = _
  by_cases hport : port' = port
  · subst hport
    rw [Function.update_self]
    show Function.update (w.ports port').connections _ _ addr = _
    by_cases haddr : addr = remoteCandidate.address
    · rw [if_pos ⟨rfl, haddr⟩, haddr, Function.update_self]
    · rw [if_neg fun h => haddr h.2, Function.update_of_ne haddr]
  · rw [Function.update_of_ne hport, if_neg fun h => hport h.1]

/-- A connection for an address that has none keeps the invariant: it is entered in the map of its
port and added to the controller at once. -/
theorem mapped_addConnection (allocator : Allocator) {w : World} (h : Mapped w) {port : Nat}
    (remoteCandidate : Candidate)
    (haddr : (w.ports port).connections remoteCandidate.address = none) :
    MapAgrees (addConnection (createConnection allocator w port remoteCandidate)
        (allocator.pick w.toCore)).toCore ∧
      ∀ p, p ∈ w.controller.connections ++ [allocator.pick w.toCore] ↔
        p ∈ allocator.pick w.toCore :: w.live := by
  have hfresh := allocator.pick_not_mem w.toCore
  have hlookup := createConnection_connections allocator w port remoteCandidate
  refine ⟨⟨fun port' addr p hp => ?_, fun p hp => ?_⟩, fun p => ?_⟩
  · change ((createConnection allocator w port remoteCandidate).ports port').connections addr
      = some p at hp
    show p ∈ allocator.pick w.toCore :: w.live ∧
      p ∈ w.controller.connections ++ [allocator.pick w.toCore]
    -- the entry is the new one, or it was there before
    rw [hlookup] at hp
    split at hp
    · cases hp
      exact ⟨List.mem_cons_self, List.mem_append_right _ (List.mem_singleton.mpr rfl)⟩
    · obtain ⟨hlive, hmem⟩ := h.agrees.exists_of_mem port' addr p hp
      exact ⟨List.mem_cons_of_mem _ hlive, List.mem_append_left _ hmem⟩
  · change p ∈ w.controller.connections ++ [allocator.pick w.toCore] at hp
    show ((createConnection allocator w port remoteCandidate).ports
      (Function.update w.heap _ _ p).port).connections
        (Function.update w.heap _ _ p).remoteCandidate.address = some p
    rw [hlookup]
    rcases List.mem_append.mp hp with hp | hp
    · -- an old connection: its address was in the map, so it is not the new one
      have hne : p ≠ allocator.pick w.toCore := by
        rintro rfl
        exact hfresh ((h.members _).mp hp)
      have hstored := h.agrees.stored p hp
      rw [Function.update_of_ne hne, if_neg]
      · exact hstored
      · rintro ⟨hport, haddress⟩
        rw [hport, haddress, haddr] at hstored
        cases hstored
    · rw [List.mem_singleton.mp hp, Function.update_self, if_pos ⟨rfl, rfl⟩]
  · rw [List.mem_append, List.mem_singleton, List.mem_cons, h.members p, or_comm]

/-! ### Inputs -/

section

variable {digest : MessageDigest} {allocator : Allocator}

/-- An event destroys a connection: its owner does, or it is a genuine error response to
a request that the connection has outstanding. -/
def Destroys (digest : MessageDigest) (w : World) : PortEvent → Prop
  | .destroy p _ => p ∈ w.live
  | .input i => ∃ p ∈ w.live, IsResponse digest w i stunBindingErrorResponse p

/-- A genuine success response keeps the places. -/
theorem samePlaces_checkResponse {w : World} {p : Ptr} {msg : StunMessage} {now : Int}
    (h : ∀ request, (w.heap p).findRequest msg.transactionId = some request →
      (msg.type.toNat : Int) ≠ getStunErrorResponse request.type) :
    SamePlaces w.toCore (IceConnection.checkResponse w p msg now).toCore := by
  unfold IceConnection.checkResponse
  split
  · exact .refl _
  · rename_i request hrequest
    split
    · exact (samePlaces_receivedPingResponse w p now _).trans (samePlaces_deleteRequest _ p _)
    · rw [if_neg (h request hrequest)]
      exact samePlaces_deleteRequest w p _

/-- A binding request is answered, and nothing moves. -/
theorem samePlaces_handleStunBindingRequest (w : World) (p : Ptr) (msg : StunMessage) :
    SamePlaces w.toCore (IceConnection.handleStunBindingRequest digest w p msg).toCore := by
  unfold IceConnection.handleStunBindingRequest
  split
  · exact .refl _
  · dsimp only
    rw [World.send_toCore]
    exact .refl _

/-- The first binding request from an address. -/
theorem mapped_onUnknownAddress {w : World} {port : Nat} {addr : SocketAddress} {msg : StunMessage}
    {remoteUfrag : Bytes} {now : Int} (h : Mapped w)
    (haddr : (w.ports port).connections addr = none)
    (haccountable : Accountable
      (onUnknownAddress digest allocator w port addr msg remoteUfrag now)) :
    Mapped (onUnknownAddress digest allocator w port addr msg remoteUfrag now) := by
  unfold onUnknownAddress at haccountable ⊢
  split
  · rename_i hpriority
    rw [hpriority] at haccountable
    refine .of_samePlaces h.agrees h.members ?_ haccountable
    rw [World.send_toCore]
    exact .refl _
  · rename_i priorityAttr hpriority
    rw [hpriority] at haccountable
    obtain ⟨hagrees, hmembers⟩ := mapped_addConnection allocator h
      ⟨addr, priorityAttr.bits, remoteUfrag, w.channel.remoteIceParams.icePwd⟩ haddr
    exact .of_samePlaces hagrees hmembers
      ((samePlaces_handleStunBindingRequest _ _ msg).trans (samePlaces_sort _ now)) haccountable

/-- An outstanding request is found by its id, and it is a binding request. -/
theorem findRequest_of_outstanding {w : World} {p : Ptr} {id : Bytes} (h : Accountable w)
    (hlive : p ∈ w.live) (houtstanding : Outstanding p id w.log) :
    ∃ request, (w.heap p).findRequest id = some request ∧ request.type = stunBindingRequest := by
  obtain ⟨r, hr, hid⟩ := (h.outstanding p hlive id).mpr houtstanding
  have hsome : ((w.heap p).findRequest id).isSome := by
    rw [IceConnection.findRequest, List.find?_isSome]
    exact ⟨r, hr, by simp [hid]⟩
  obtain ⟨request, hrequest⟩ := Option.isSome_iff_exists.mp hsome
  exact ⟨request, hrequest, h.types p hlive request (List.mem_of_find?_eq_some hrequest)⟩

/-- An event that destroys no connection keeps the invariant. A datagram may create a connection,
the others touch neither the maps nor the list. -/
theorem mapped_portNext {w w' : World} {e : PortEvent} (hnext : portNext digest allocator w e = some w')
    (h : Mapped w) (hkept : ¬ Destroys digest w e) : Mapped w' := by
  have hsame : ∀ {v : World}, SamePlaces w.toCore v.toCore → Accountable v → Mapped v :=
    fun hplaces haccountable => .of_samePlaces h.agrees h.members hplaces haccountable
  cases e with
  | destroy p now =>
      cases hnext
      change p ∉ w.live at hkept
      show Mapped (if p ∈ w.live then _ else w)
      rw [if_neg hkept]
      exact h
  | input i =>
      have haccountable : Accountable w' := accountable_next hnext h.accountable
      cases i with
      | datagram port addr data now =>
          cases effect_datagram hnext with
          | none hcore hlog =>
              refine hsame ?_ haccountable
              rw [hcore]
              exact .refl _
          | request m msg remoteUfrag haddr hgenuine hstep =>
              subst hstep
              exact mapped_onUnknownAddress h haddr haccountable
          | response p m request haddr hlive hgenuine htype hrequest hstep =>
              -- an error response would destroy the connection, so this is a success response
              have hbinding : m.type = stunBindingResponse := by
                refine htype.resolve_right fun herror => hkept ⟨p, hlive, ?_⟩
                have hid : request.id = m.transactionId := by
                  simpa using List.find?_some hrequest
                exact ⟨port, addr, data, now, m, rfl, haddr, hgenuine, herror,
                  (h.accountable.outstanding p hlive _).mp
                    ⟨request, List.mem_of_find?_eq_some hrequest, hid⟩⟩
              obtain ⟨status, hstatus⟩ :=
                validateMessageIntegrity_eq digest m (w.heap p).remoteCandidate.password
              rw [hstatus] at hstep
              rw [hstep] at haccountable ⊢
              refine hsame ?_ haccountable
              show SamePlaces w.toCore (if p ∈ w.live then _ else w).toCore
              rw [if_pos hlive]
              refine samePlaces_checkResponse fun request' hrequest' => ?_
              rw [h.accountable.types p hlive request' (List.mem_of_find?_eq_some hrequest')]
              show (m.type.toNat : Int) ≠ _
              rw [hbinding]
              decide
      | tick now id =>
          cases hnext
          refine hsame ?_ haccountable
          show SamePlaces w.toCore (if w.channel.startPinging then _ else w).toCore
          split
          · exact samePlaces_onCheckAndPing digest w now id
          · exact .refl _
      | setRemoteIceParams params now =>
          cases hnext
          exact hsame (samePlaces_setRemoteIceParams w params now) haccountable
      | reuse heap =>
          cases hnext
          refine hsame ⟨rfl, rfl, fun _ => Iff.rfl, fun p hp => ?_⟩ haccountable
          show place (if p ∈ w.live then w.heap p else heap p) = _
          rw [if_pos hp]

/-! ### Destroying a connection -/

/-- The channel does not tell a port that a connection of it is gone. -/
theorem onConnectionDestroyed_ports (w : World) (p : Ptr) (now : Int) :
    (onConnectionDestroyed w p now).ports = w.ports := by
  unfold onConnectionDestroyed
  dsimp only
  split
  · rw [sort_ports, switchedWorld_ports, switchSelectedConnection_ports]
  · rw [updateState_ports]

/-- A map that keeps its pointer to a connection that is destroyed does not agree. -/
theorem not_mapAgrees_of_not_live {w w' : World} {p : Ptr} (h : Mapped w) (hlive : p ∈ w.live)
    (hports : w'.ports = w.ports) (hgone : p ∉ w'.live) : ¬ MapAgrees w'.toCore := by
  intro hagrees
  have hstored := h.agrees.stored p ((h.members p).mpr hlive)
  rw [← hports] at hstored
  exact hgone (hagrees.exists_of_mem _ _ p hstored).1

/-- A genuine error response to an outstanding request destroys the connection. Its code
does not matter: after `read` it is always 600. -/
theorem onReadPacket_of_error {w : World} {p : Ptr} {data : Bytes} {m : StunMessage} (now : Int)
    {request : StunRequest} (hgenuine : GenuineResponse digest (w.heap p) data m)
    (herror : m.type = stunBindingErrorResponse)
    (hrequest : (w.heap p).findRequest m.transactionId = some request)
    (hbinding : request.type = stunBindingRequest) :
    IceConnection.onReadPacket digest w p data now =
      IceConnection.deleteRequest (IceConnection.failAndDestroy w p now) p request.id := by
  have hnot : m.type ≠ stunBindingRequest := by
    rw [herror]
    decide
  have hmessage : UDPPort.getStunMessage digest (w.ports (w.heap p).port) data = .accepted m [] := by
    rw [UDPPort.getStunMessage, hgenuine.fingerprint, hgenuine.read]
    exact if_neg hnot
  obtain ⟨status, hstatus⟩ :=
    validateMessageIntegrity_eq digest m (w.heap p).remoteCandidate.password
  have hcode := getErrorCodeValue_of_read hgenuine.read
  -- a message that was read has no error code, so none of the two that are tried again
  have hdestroyed : IceConnection.onConnectionRequestErrorResponse w p
      { m with password := (w.heap p).remoteCandidate.password, integrity := status } now
        = IceConnection.failAndDestroy w p now := by
    refine if_neg ?_
    change ¬ Retryable m.getErrorCodeValue
    rw [hcode]
    decide
  unfold IceConnection.onReadPacket
  simp only [hmessage]
  rw [if_neg hnot, if_pos (Or.inr herror), if_pos hgenuine.integrity, hstatus]
  unfold IceConnection.checkResponse
  simp only [hrequest, herror, hbinding]
  rw [if_neg (by decide), if_pos (by decide)]
  exact congrArg (IceConnection.deleteRequest · p request.id) hdestroyed

/-- An event that destroys a connection leaves its pointer in the map: the controller forgets it,
and `_on_connection_destroyed` does not tell the port. -/
theorem not_mapAgrees_portNext {w : World} {e : PortEvent} (h : Mapped w)
    (hdestroys : Destroys digest w e) :
    ∃ w', portNext digest allocator w e = some w' ∧ ¬ MapAgrees w'.toCore := by
  cases e with
  | destroy p now =>
      change p ∈ w.live at hdestroys
      refine ⟨_, rfl, ?_⟩
      show ¬ MapAgrees (if p ∈ w.live then IceConnection.destroy w p now else w).toCore
      rw [if_pos hdestroys]
      exact not_mapAgrees_of_not_live h hdestroys (onConnectionDestroyed_ports w p now)
        (not_mem_destroy_live w p now)
  | input i =>
      obtain ⟨p, hlive, port, addr, data, now, m, rfl, haddr, hgenuine, herror, houtstanding⟩ :=
        hdestroys
      obtain ⟨request, hrequest, hbinding⟩ :=
        findRequest_of_outstanding h.accountable hlive houtstanding
      have hstep := onReadPacket_of_error now hgenuine herror hrequest hbinding
      refine ⟨IceConnection.onReadPacket digest w p data now, ?_, ?_⟩
      · show UDPPort.onReadPacket digest allocator w port addr data now = _
        rw [UDPPort.onReadPacket, haddr]
        exact if_pos hlive
      · rw [hstep]
        refine not_mapAgrees_of_not_live h hlive ?_ ?_
        · show (onConnectionDestroyed (IceConnection.setState w p .failed) p now).ports = w.ports
          rw [onConnectionDestroyed_ports]
          rfl
        · exact not_mem_destroy_live _ p now

/-- A new channel has no connection, and its ports have empty maps. -/
theorem mapped_init (heap : Ptr → IceConnection) (params : Nat → IceParameters)
    (localCandidate : Nat → Candidate) : Mapped (World.init heap params localCandidate) :=
  ⟨⟨fun _ _ _ hp => (nomatch hp), fun _ hp => (nomatch hp)⟩, fun _ => Iff.rfl,
    accountable_init heap params localCandidate⟩

/-! ### The result -/

/-- As long as the map agrees, a datagram from a known address goes to a connection that
exists, and every event has a next state. -/
theorem portNext_isSome {w : World} (h : MapAgrees w.toCore) (e : PortEvent) :
    (portNext digest allocator w e).isSome := by
  cases e with
  | destroy p now => rfl
  | input i =>
      cases i with
      | datagram port addr data now =>
          show (UDPPort.onReadPacket digest allocator w port addr data now).isSome
          unfold UDPPort.onReadPacket
          split
          · rename_i conn hconn
            rw [if_pos (h.exists_of_mem port addr conn hconn).1]
            rfl
          · split
            · rfl
            · rfl
            · split <;> rfl
      | tick now id => rfl
      | setRemoteIceParams params now => rfl
      | reuse heap => rfl

end

/-- The maps of the ports agree with the controller in every state of a run if and only if no
connection is destroyed in the run. A port never erases an address, so the pointer of a destroyed
connection stays in its map for good. -/
theorem always_mapAgrees_iff (digest : MessageDigest) (allocator : Allocator)
    (heap : Ptr → IceConnection) (params : Nat → IceParameters)
    (localCandidate : Nat → Candidate) (events : List PortEvent) :
    AlwaysPartial (portNext digest allocator) (fun w => MapAgrees w.toCore)
        (World.init heap params localCandidate) events ↔
      StepsPartial (portNext digest allocator) (fun w e => ¬ Destroys digest w e)
        (World.init heap params localCandidate) events :=
  alwaysPartial_iff_steps (fun _ (h : Mapped _) => h.agrees)
    (fun _ _ _ hnext h hkept => mapped_portNext hnext h hkept)
    (fun _ _ h hdestroys => not_mapAgrees_portNext h (not_not.mp hdestroys))
    (mapped_init heap params localCandidate)

/-- A peer asks for a connection, is pinged, and answers with an error. -/
def errorEvents : List PortEvent :=
  peerInputs.map .input ++ [.input (.datagram 0 peerAddress peerError 1010)]

/-- The error response destroys the connection, and its pointer stays in the map. -/
theorem errorEvents_not_mapAgrees :
    ¬ AlwaysPartial (portNext peerDigest nextFree) (fun w => MapAgrees w.toCore) peerChannel
      errorEvents := by
  have hlast : (runPartial (portNext peerDigest nextFree) peerChannel errorEvents).map
      (fun w => ((w.ports 0).connections peerAddress, w.live)) = some (some 1, []) := by
    decide +kernel
  obtain ⟨w, hrun, hw⟩ := Option.map_eq_some_iff.mp hlast
  rw [Prod.mk.injEq] at hw
  intro h
  have hlive := ((h.last hrun).exists_of_mem 0 peerAddress 1 hw.1).1
  rw [hw.2] at hlive
  cases hlive

end Xrtc.Proofs.Ice
