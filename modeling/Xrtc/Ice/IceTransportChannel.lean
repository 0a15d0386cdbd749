import Xrtc.Ice.IceController

/-!
# `Xrtc.Ice.IceTransportChannel`: a channel and its connections

The model of `rtcserver/src/ice/ice_transport_channel.cpp` and of the parts of
`ice_connection.cpp`, `stun_request.cpp` and `udp_port.cpp` that it calls or that
call it. The signals of a connection are direct calls here: `signal_state_change`
is `sortConnectionsAndUpdateState` and `signal_connection_destroy` is
`onConnectionDestroyed`.

`step` is what one call from outside does to the channel, for each kind of call in
`Event`. A call reads the clock several times. The model takes the same reading
for all of them, and it is part of the event, as is the random transaction id of
the ping a timer tick may send. `Event.reuse` is no call: it lets the memory of
destroyed connections change to anything.
-/

set_option autoImplicit false

namespace Xrtc.Ice

open Xrtc.Lib

/-! ### Packets -/

/-- The bytes of a message with a fingerprint. -/
def fingerprinted (digest : MessageDigest) (m : StunMessage) : Option Bytes :=
  (m.addFingerprint digest).2.write

/-- `ConnectionRequest::prepare` and `StunRequest::send`: the bytes of a ping. -/
def pingPacket (digest : MessageDigest) (port : UDPPort) (c : IceConnection) (id : Bytes) :
    Option Bytes :=
  let remote := c.remoteCandidate
  let username := remote.username ++ ascii ":" ++ port.iceParams.iceUfrag
  let prflxPriority :=
    iceTypePreferencePrflx <<< 24 ||| (port.localCandidate.priority &&& 0x00FFFFFF)
  let m : StunMessage := { type := stunBindingRequest, transactionId := id }
  let m := m.addAttribute ⟨stunAttrUsername, .byteString username⟩
  let m := m.addAttribute ⟨stunAttrIceControlling, .uint64 0⟩
  let m := m.addAttribute ⟨stunAttrUseCandidate, .byteString []⟩
  let m := m.addAttribute ⟨stunAttrPriority, .uint32 prflxPriority⟩
  fingerprinted digest (m.addMessageIntegrity digest remote.password).2

/-- `send_stun_binding_response`: the bytes of the response to a request. -/
def bindingResponse (digest : MessageDigest) (port : UDPPort) (msg : StunMessage)
    (address : SocketAddress) : Option Bytes :=
  let m : StunMessage := { type := stunBindingResponse, transactionId := msg.transactionId }
  let m := m.addAttribute ⟨stunAttrXorMappedAddress, .xorAddress address⟩
  fingerprinted digest (m.addMessageIntegrity digest port.iceParams.icePwd).2

/-- `send_binding_error_response`: the bytes of the error response to a request. Bad
and unauthorised requests get one without integrity. -/
def bindingErrorResponse (digest : MessageDigest) (port : UDPPort) (msg : StunMessage)
    (errCode : Nat) (reason : Bytes) : Option Bytes :=
  let m : StunMessage := { type := stunBindingErrorResponse, transactionId := msg.transactionId }
  let m := m.addAttribute (StunAttribute.errorCodeOf stunAttrErrorCode errCode reason)
  let m :=
    if errCode ≠ stunErrorBadRequest ∧ errCode ≠ stunErrorUnauthorized then
      (m.addMessageIntegrity digest port.iceParams.icePwd).2
    else m
  fingerprinted digest m

/-! ### The derived state of the channel -/

namespace IceTransportChannel

/-- `_set_writable`. -/
def setWritable (w : World) (writable : Bool) : World :=
  if w.channel.writable = writable then w
  else
    let hasBeen := if writable then true else w.channel.hasBeenConnection
    World.push
      { w with channel := { w.channel with hasBeenConnection := hasBeen, writable := writable } }
      (.writable writable)

/-- `_set_receiving`. -/
def setReceiving (w : World) (receiving : Bool) : World :=
  if w.channel.receiving = receiving then w
  else
    World.push { w with channel := { w.channel with receiving := receiving } }
      (.receiving receiving)

/-- `_compute_ice_transport_state`. -/
def computeIceTransportState (w : Core) : IceTransportState :=
  let hasConnection := w.controller.connections.any fun conn => (w.heap conn).active
  if w.channel.hadConnection && !hasConnection then .failed
  else if w.channel.hasBeenConnection && !w.channel.writable then .disconnected
  else if !w.channel.hadConnection && !hasConnection then .new
  else if hasConnection && !w.channel.writable then .checking
  else .connected

/-- The value of `_writable` that `_update_state` computes. -/
def computeWritable (w : Core) : Bool :=
  match w.channel.selectedConnection with
  | none => false
  | some conn => (w.heap conn).writable

/-- The value of `_receiving` that `_update_state` computes. -/
def computeReceiving (w : Core) : Bool :=
  w.controller.connections.any fun conn => (w.heap conn).receiving

/-- The last part of `_update_state`. -/
def setIceState (w : World) : World :=
  let state := computeIceTransportState w.toCore
  if state ≠ w.channel.state then
    World.push { w with channel := { w.channel with state := state } } (.iceState state)
  else w

/-- `_update_state`. -/
def updateState (w : World) : World :=
  let w := setWritable w (computeWritable w.toCore)
  let w := setReceiving w (computeReceiving w.toCore)
  setIceState w

/-! ### The selected connection -/

/-- `_switch_selected_connection`. Switching to none leaves the controller's selected
connection as it is. -/
def switchSelectedConnection (w : World) (conn : Option Ptr) : World :=
  let old := w.channel.selectedConnection
  let w : World := { w with channel := { w.channel with selectedConnection := conn } }
  let w :=
    match old with
    | none => w
    | some old => w.modify old fun c => { c with selected := false }
  match conn with
  | none => w
  | some conn =>
      let w := w.modify conn fun c => { c with selected := true }
      { w with controller := { w.controller with selectedConnection := some conn } }

/-- `_maybe_switch_selected_connection`. -/
def maybeSwitchSelectedConnection (w : World) (conn : Option Ptr) : World :=
  match conn with
  | none => w
  | some conn => switchSelectedConnection w (some conn)

/-- `_maybe_start_pinging`. -/
def maybeStartPinging (w : World) (now : Int) : World :=
  if w.channel.startPinging then w
  else if IceController.hasPingableConnection w.toCore now then
    { w with channel := { w.channel with startPinging := true } }
  else w

/-- `_sort_connections_and_update_state` without the record. -/
def sortAndUpdate (w : World) (now : Int) : World :=
  let r := IceController.sortAndSwitchConnection w.toCore
  let w : World := { w with controller := r.2 }
  let w := maybeSwitchSelectedConnection w r.1
  let w := updateState w
  maybeStartPinging w now

/-- `_sort_connections_and_update_state`. -/
def sortConnectionsAndUpdateState (w : World) (now : Int) : World :=
  (sortAndUpdate w now).push (.sorted w.toCore (sortAndUpdate w now).toCore)

/-- `_add_connection`. -/
def addConnection (w : World) (conn : Ptr) : World :=
  { w with
      channel := { w.channel with hadConnection := true }
      controller := w.controller.addConnection conn }

/-- `_on_connection_destroyed`. -/
def onConnectionDestroyed (w : World) (conn : Ptr) (now : Int) : World :=
  let w : World := { w with controller := w.controller.onConnectionDestroyed conn }
  if w.channel.selectedConnection = some conn then
    sortConnectionsAndUpdateState (switchSelectedConnection w none) now
  else updateState w

end IceTransportChannel

/-! ### A connection and its signals -/

namespace IceConnection

open IceTransportChannel

/-- `update_receiving`. -/
def updateReceiving (w : World) (p : Ptr) (now : Int) : World :=
  let receiving := (w.heap p).computeReceiving now
  if (w.heap p).receiving = receiving then w
  else
    sortConnectionsAndUpdateState (w.modify p fun c => { c with receiving := receiving }) now

/-- `set_write_state`. -/
def setWriteState (w : World) (p : Ptr) (state : WriteState) (now : Int) : World :=
  if (w.heap p).writeState = state then w
  else
    sortConnectionsAndUpdateState (w.modify p fun c => { c with writeState := state }) now

/-- `set_state`. -/
def setState (w : World) (p : Ptr) (state : IceCandidatePairState) : World :=
  w.modify p fun c => { c with state := state }

/-- `received_ping_response`. -/
def receivedPingResponse (w : World) (p : Ptr) (rtt now : Int) : World :=
  let w := w.modify p fun c => c.creditResponse rtt now
  let w := updateReceiving w p now
  let w := setWriteState w p .writable now
  setState w p .succeeded

/-- `update_state`, its first test: too many pings without a response. -/
def updateUnreliable (w : World) (p : Ptr) (now : Int) : World :=
  let c := w.heap p
  if c.writeState = .writable ∧
      c.tooManyPingFails connectionWriteConnectFails c.responseBound now ∧
      c.tooLongWithoutResponse connectionWriteConnectTimeout now then
    setWriteState w p .writeUnreliable now
  else w

/-- `update_state`, its second test: too long without a response. -/
def updateTimeout (w : World) (p : Ptr) (now : Int) : World :=
  let c := w.heap p
  if (c.writeState = .writeUnreliable ∨ c.writeState = .writeInit) ∧
      c.tooLongWithoutResponse connectionWriteTimeout now then
    setWriteState w p .writeTimeout now
  else w

/-- `update_state`. -/
def updateState (w : World) (p : Ptr) (now : Int) : World :=
  let w := updateUnreliable w p now
  let w := updateTimeout w p now
  updateReceiving w p now

/-- `destroy`: the channel is told first, then the object is freed. -/
def destroy (w : World) (p : Ptr) (now : Int) : World :=
  let w := onConnectionDestroyed w p now
  World.push { w with live := w.live.filter (· ≠ p) } (.destroyed p)

/-- `fail_and_destroy`. -/
def failAndDestroy (w : World) (p : Ptr) (now : Int) : World :=
  destroy (setState w p .failed) p now

/-- `on_connection_request_error_response`. -/
def onConnectionRequestErrorResponse (w : World) (p : Ptr) (msg : StunMessage) (now : Int) :
    World :=
  let errorCode := msg.getErrorCodeValue
  if errorCode = stunErrorUnauthorized ∨ errorCode = stunErrorUnknownAttribute ∨
      errorCode = stunErrorServerError then w
  else failAndDestroy w p now

/-- The end of `check_response`: the request is deleted and leaves the map. -/
def deleteRequest (w : World) (p : Ptr) (id : Bytes) : World :=
  (w.modify p fun c => c.removeRequest id).push (.answered p id)

/-- `StunRequestManager::check_response`. -/
def checkResponse (w : World) (p : Ptr) (msg : StunMessage) (now : Int) : World :=
  match (w.heap p).findRequest msg.transactionId with
  | none => w
  | some request =>
      if (msg.type.toNat : Int) = getStunSuccessResponse request.type then
        deleteRequest (receivedPingResponse w p (request.elapsed now) now) p request.id
      else if (msg.type.toNat : Int) = getStunErrorResponse request.type then
        deleteRequest (onConnectionRequestErrorResponse w p msg now) p request.id
      else deleteRequest w p request.id

/-- `ping`. -/
def ping (digest : MessageDigest) (w : World) (p : Ptr) (now : Int) (id : Bytes) : World :=
  let c := w.heap p
  let packet := pingPacket digest (w.ports c.port) c id
  ((w.modify p fun c => c.notePing id now).push (.pinged p id)).send c.remoteCandidate.address
    packet

/-- `handle_stun_binding_request`. -/
def handleStunBindingRequest (digest : MessageDigest) (w : World) (p : Ptr) (msg : StunMessage) :
    World :=
  match msg.getByteString stunAttrUsername with
  | none => w
  | some _ =>
      let c := w.heap p
      w.send c.remoteCandidate.address
        (bindingResponse digest (w.ports c.port) msg c.remoteCandidate.address)

end IceConnection

/-! ### Calls from outside -/

namespace IceTransportChannel

variable (digest : MessageDigest) (allocator : Allocator)

/-- `UDPPort::create_connection`. -/
def createConnection (w : World) (port : Nat) (remoteCandidate : Candidate) : World :=
  let conn := allocator.pick w.toCore
  let udpPort := w.ports port
  World.push
    { w with
        heap := Function.update w.heap conn { port, remoteCandidate }
        live := conn :: w.live
        ports := Function.update w.ports port
          { udpPort with
              connections :=
                Function.update udpPort.connections remoteCandidate.address (some conn) } }
    (.created conn)

/-- `_on_unknown_address`. -/
def onUnknownAddress (w : World) (port : Nat) (addr : SocketAddress) (msg : StunMessage)
    (remoteUfrag : Bytes) (now : Int) : World :=
  match msg.getUInt32 stunAttrPriority with
  | none =>
      w.send addr (bindingErrorResponse digest (w.ports port) msg stunErrorBadRequest
        stunErrorReasonBadRequest)
  | some priorityAttr =>
      let conn := allocator.pick w.toCore
      let w := createConnection allocator w port
        { address := addr
          priority := priorityAttr.bits
          username := remoteUfrag
          password := w.channel.remoteIceParams.icePwd }
      let w := addConnection w conn
      let w := IceConnection.handleStunBindingRequest digest w conn msg
      sortConnectionsAndUpdateState w now

/-- `set_remote_ice_params`. -/
def setRemoteIceParams (w : World) (params : IceParameters) (now : Int) : World :=
  let w : World := { w with channel := { w.channel with remoteIceParams := params } }
  let w := w.controller.connections.foldl
    (fun w conn => w.modify conn fun c => c.maybeSetRemoteIceParams params) w
  sortConnectionsAndUpdateState w now

/-- `_update_connection_states`. -/
def updateConnectionStates (w : World) (now : Int) : World :=
  w.controller.connections.foldl (fun w conn => IceConnection.updateState w conn now) w

/-- `PING_INTERVAL_DIFF`. -/
def pingIntervalDiff : Int := 5

/-- `_on_check_and_ping` after the connection states are updated. -/
def pingNext (w : World) (now : Int) (id : Bytes) : World :=
  let r := IceController.selectConnectionToPing w.toCore
    (w.channel.lastPingSentMs - pingIntervalDiff) now
  let w : World := { w with controller := r.2.2 }
  let w :=
    match r.1 with
    | none => w
    | some conn =>
        let w : World := { w with channel := { w.channel with lastPingSentMs := now } }
        let w := IceConnection.ping digest w conn now id
        { w with controller := w.controller.markConnectionPinged conn }
  { w with channel := { w.channel with curPingInterval := r.2.1 } }

/-- `_on_check_and_ping`. -/
def onCheckAndPing (w : World) (now : Int) (id : Bytes) : World :=
  pingNext digest (updateConnectionStates w now) now id

/-- A call from outside. -/
inductive Event where
  /-- A binding request from an address without a connection. -/
  | unknownAddress (port : Nat) (addr : SocketAddress) (msg : StunMessage) (remoteUfrag : Bytes)
      (now : Int)
  /-- A response that a connection hands to its request manager. -/
  | response (p : Ptr) (msg : StunMessage) (now : Int)
  /-- A connection checks its state. -/
  | connectionState (p : Ptr) (now : Int)
  /-- The ping timer. -/
  | tick (now : Int) (id : Bytes)
  /-- A connection is destroyed. -/
  | destroy (p : Ptr) (now : Int)
  /-- The remote parameters arrive. -/
  | setRemoteIceParams (params : IceParameters) (now : Int)
  /-- The memory of destroyed connections is used for something else. -/
  | reuse (heap : Ptr → IceConnection)

/-- What an event does. A call on a connection that does not exist is no event, and
the timer only runs once pinging has started. -/
def step (w : World) : Event → World
  | .unknownAddress port addr msg remoteUfrag now =>
      onUnknownAddress digest allocator w port addr msg remoteUfrag now
  | .response p msg now => if p ∈ w.live then IceConnection.checkResponse w p msg now else w
  | .connectionState p now => if p ∈ w.live then IceConnection.updateState w p now else w
  | .tick now id => if w.channel.startPinging then onCheckAndPing digest w now id else w
  | .destroy p now => if p ∈ w.live then IceConnection.destroy w p now else w
  | .setRemoteIceParams params now => setRemoteIceParams w params now
  | .reuse heap => { w with heap := fun p => if p ∈ w.live then w.heap p else heap p }

end IceTransportChannel

end Xrtc.Ice
