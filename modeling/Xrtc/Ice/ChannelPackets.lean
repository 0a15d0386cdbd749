import Xrtc.Ice.UdpPort

/-!
# `Xrtc.Ice.ChannelPackets`: the packets of the layers above a channel

The model of `send_packet` and `_on_read_packet` of
`rtcserver/src/ice/ice_transport_channel.cpp`, and of the part of `ice_connection.cpp` and
`udp_port.cpp` that packets other than STUN go through. `Xrtc.Ice.UdpPort` leaves them alone,
as they change nothing in a channel.
-/

set_option autoImplicit false

namespace Xrtc.Ice

open Xrtc.Lib

/-- What `UDPPort::send_to` is called with, and the port it is called for. -/
structure PortPacket where
  port : Nat
  address : SocketAddress
  data : Bytes
  deriving DecidableEq

/-- `IceConnection::send_packet`. -/
def IceConnection.sendPacket (w : Core) (p : Ptr) (data : Bytes) : PortPacket where
  port := (w.heap p).port
  address := (w.heap p).remoteCandidate.address
  data := data

/-- `IceTransportChannel::send_packet`. -/
def IceTransportChannel.sendPacket (w : Core) (data : Bytes) : Option PortPacket :=
  match w.channel.selectedConnection with
  | none => none
  | some conn =>
      if !IceController.readyToSend w (some conn) then none
      else some (IceConnection.sendPacket w conn data)

/-- Whether `IceConnection::on_read_packet` hands a packet on, which the channel does too. -/
def IceConnection.handsOn (digest : MessageDigest) (w : Core) (p : Ptr) (data : Bytes) : Bool :=
  match UDPPort.getStunMessage digest (w.ports (w.heap p).port) data with
  | .notStun => true
  | _ => false

/-- Whether a packet that arrives at a port goes through the channel to the transport above. -/
def UDPPort.handsOn (digest : MessageDigest) (w : Core) (port : Nat) (addr : SocketAddress)
    (data : Bytes) : Bool :=
  match (w.ports port).connections addr with
  | some conn => IceConnection.handsOn digest w conn data
  | none => false

end Xrtc.Ice
