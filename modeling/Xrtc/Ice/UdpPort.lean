import Xrtc.Ice.IceTransportChannel

/-!
# `Xrtc.Ice.UdpPort`: datagrams

The model of `_on_read_packet`, `get_stun_message` and `_parse_stun_username` of
`rtcserver/src/ice/udp_port.cpp`, and of `IceConnection::on_read_packet`.

A port keeps the connection of every remote address it has created one for, also
after the connection is destroyed. A datagram from such an address reads freed
memory, which means nothing, so there is no next state (`none`). Packets that are
not STUN go on to the DTLS transport and leave the channel alone.

`Input` is what reaches a channel from outside, and `next` is what it does.
-/

set_option autoImplicit false

namespace Xrtc.Ice

open Xrtc.Lib

/-- `rtc::split`, with the bytes of the current field so far. -/
def split (delimiter : UInt8) (field : Bytes) : Bytes → List Bytes
  | [] => [field]
  | b :: source =>
      if b = delimiter then field :: split delimiter [] source
      else split delimiter (field ++ [b]) source

/-- The character `:`. -/
def colon : UInt8 := 0x3a

/-- What `get_stun_message` makes of a packet. -/
inductive Received where
  /-- It returns false: not a STUN message. -/
  | notStun
  /-- It returns true without a message, after an error response. -/
  | rejected (msg : StunMessage) (errCode : Nat) (reason : Bytes)
  /-- It returns a message, with the remote part of the user name if it is a binding
  request. -/
  | accepted (msg : StunMessage) (remoteUfrag : Bytes)
  deriving DecidableEq

namespace UDPPort

variable (digest : MessageDigest)

/-- `_parse_stun_username`: the local and the remote part. -/
def parseStunUsername (msg : StunMessage) : Option (Bytes × Bytes) :=
  match msg.getByteString stunAttrUsername with
  | none => none
  | some attr =>
      match split colon [] attr.getString with
      | [localUfrag, remoteUfrag] => some (localUfrag, remoteUfrag)
      | _ => none

/-- `get_stun_message`, the checks on a binding request. -/
def checkBindingRequest (port : UDPPort) (msg : StunMessage) : Received :=
  if (msg.getByteString stunAttrUsername).isNone ∨
      (msg.getByteString stunAttrMessageIntegrity).isNone then
    .rejected msg stunErrorBadRequest stunErrorReasonBadRequest
  else
    match parseStunUsername msg with
    | none => .rejected msg stunErrorUnauthorized stunErrorReasonUnauthorized
    | some (localUfrag, remoteUfrag) =>
        if localUfrag ≠ port.iceParams.iceUfrag then
          .rejected msg stunErrorUnauthorized stunErrorReasonUnauthorized
        else
          let msg := msg.validateMessageIntegrity digest port.iceParams.icePwd
          if msg.integrity ≠ .integrityOk then
            .rejected msg stunErrorUnauthorized stunErrorReasonUnauthorized
          else .accepted msg remoteUfrag

/-- `get_stun_message`. A message that `read` accepts leaves no bytes over. -/
def getStunMessage (port : UDPPort) (data : Bytes) : Received :=
  if !StunMessage.validateFingerprint digest data then .notStun
  else
    match StunMessage.read data with
    | none => .notStun
    | some msg =>
        if msg.type = stunBindingRequest then checkBindingRequest digest port msg
        else .accepted msg []

end UDPPort

/-- `IceConnection::on_read_packet`. -/
def IceConnection.onReadPacket (digest : MessageDigest) (w : World) (p : Ptr) (data : Bytes)
    (now : Int) : World :=
  let c := w.heap p
  let port := w.ports c.port
  let remote := c.remoteCandidate
  match UDPPort.getStunMessage digest port data with
  | .notStun => w
  | .rejected msg errCode reason =>
      w.send remote.address (bindingErrorResponse digest port msg errCode reason)
  | .accepted msg remoteUfrag =>
      if msg.type = stunBindingRequest then
        if remoteUfrag ≠ remote.username then
          w.send remote.address (bindingErrorResponse digest port msg stunErrorUnauthorized
            stunErrorReasonUnauthorized)
        else handleStunBindingRequest digest w p msg
      else if msg.type = stunBindingResponse ∨ msg.type = stunBindingErrorResponse then
        let msg := msg.validateMessageIntegrity digest remote.password
        if msg.integrity = .integrityOk then checkResponse w p msg now else w
      else w

/-- `UDPPort::_on_read_packet`. -/
def UDPPort.onReadPacket (digest : MessageDigest) (allocator : Allocator) (w : World) (port : Nat)
    (addr : SocketAddress) (data : Bytes) (now : Int) : Option World :=
  match (w.ports port).connections addr with
  | some conn =>
      if conn ∈ w.live then some (IceConnection.onReadPacket digest w conn data now) else none
  | none =>
      match getStunMessage digest (w.ports port) data with
      | .notStun => some w
      | .rejected msg errCode reason =>
          some (w.send addr (bindingErrorResponse digest (w.ports port) msg errCode reason))
      | .accepted msg remoteUfrag =>
          if msg.type = stunBindingRequest then
            some (IceTransportChannel.onUnknownAddress digest allocator w port addr msg remoteUfrag
              now)
          else some w

/-! ### Inputs -/

/-- What reaches a channel from outside: a datagram at one of its ports, the ping
timer, the remote parameters. The memory of destroyed connections may change at any
time. -/
inductive Input where
  | datagram (port : Nat) (addr : SocketAddress) (data : Bytes) (now : Int)
  | tick (now : Int) (id : Bytes)
  | setRemoteIceParams (params : IceParameters) (now : Int)
  | reuse (heap : Ptr → IceConnection)

/-- The state after an input, if it is defined. -/
def next (digest : MessageDigest) (allocator : Allocator) (w : World) : Input → Option World
  | .datagram port addr data now => UDPPort.onReadPacket digest allocator w port addr data now
  | .tick now id => some (IceTransportChannel.step digest allocator w (.tick now id))
  | .setRemoteIceParams params now =>
      some (IceTransportChannel.step digest allocator w (.setRemoteIceParams params now))
  | .reuse heap => some (IceTransportChannel.step digest allocator w (.reuse heap))

/-- An input, or the destruction of a connection by the channel that owns it. -/
inductive PortEvent where
  | input (i : Input)
  | destroy (p : Ptr) (now : Int)

/-- The state after an input or a destruction, if it is defined. -/
def portNext (digest : MessageDigest) (allocator : Allocator) (w : World) : PortEvent → Option World
  | .input i => next digest allocator w i
  | .destroy p now => some (IceTransportChannel.step digest allocator w (.destroy p now))

end Xrtc.Ice
