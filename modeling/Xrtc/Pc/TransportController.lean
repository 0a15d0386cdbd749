import Xrtc.Pc.DtlsTransport
import Xrtc.Pc.SessionDescription

/-!
# `Xrtc.Pc.TransportController`: descriptions and events

The model of `set_local_description` and `set_remote_description` of
`rtcserver/src/pc/transport_controller.cpp`, and of what reaches the transports from
outside (`Event`).

What an `IceTransportChannel` does with its connections is the subject of `Xrtc.Ice`.
Here its `_update_state` comes with the three values it computes, and each value that
has changed raises a signal: `signal_writable_state` and `signal_receiving_state` go to
the agent and then to the DTLS transport, `signal_ice_state_changed` to the agent.
-/

set_option autoImplicit false

namespace Xrtc.Pc

open Xrtc.Lib
open Xrtc.Ice (IceParameters IceTransportState)

namespace IceChannel

variable (ssl : SslAdapter)

/-- `IceTransportChannel::_set_writable`. -/
def setWritable (c : TransportController) (name : Bytes) (writable : Bool) :
    TransportController :=
  if (c.transports name).channel.writable = writable then c
  else
    let c := c.modify name fun t =>
      let hasBeenConnection := if writable then true else t.channel.hasBeenConnection
      { t with channel := { t.channel with hasBeenConnection, writable } }
    DtlsTransport.onWritableState ssl (IceAgent.updateState c) name

/-- `IceTransportChannel::_set_receiving`. -/
def setReceiving (c : TransportController) (name : Bytes) (receiving : Bool) :
    TransportController :=
  if (c.transports name).channel.receiving = receiving then c
  else
    let c := c.modify name fun t => { t with channel := { t.channel with receiving } }
    DtlsTransport.onReceivingState (IceAgent.updateState c) name

/-- The last part of `IceTransportChannel::_update_state`. -/
def setState (c : TransportController) (name : Bytes) (state : IceTransportState) :
    TransportController :=
  if state ≠ (c.transports name).channel.state then
    IceAgent.updateState (c.modify name fun t => { t with channel := { t.channel with state } })
  else c

/-- `IceTransportChannel::_update_state`, with the values it computes. -/
def updateState (c : TransportController) (name : Bytes) (writable receiving : Bool)
    (state : IceTransportState) : TransportController :=
  setState (setReceiving (setWritable ssl c name writable) name receiving) name state

end IceChannel

namespace TransportController

/-! ### Descriptions -/

/-- The body of the loop of `set_local_description`. A channel that exists is used
again, the two transports are new. -/
def addTransport (c : TransportController) (mid : Bytes) : TransportController :=
  let channel := if mid ∈ c.names then (c.transports mid).channel else {}
  let dtls := (DtlsTransport.setLocalCertificate {} c.localCertificate).2
  { c.modify mid fun _ => { channel, dtls } with
    names := if mid ∈ c.names then c.names else c.names ++ [mid] }

/-- The transports for a list of sections. -/
def addTransports (c : TransportController) (mids : List Bytes) : TransportController :=
  mids.foldl addTransport c

/-- `set_local_description`. -/
def setLocalDescription (c : TransportController) (desc : SessionDescription) :
    TransportController :=
  c.addTransports (desc.transportSections.map MediaContentDescription.mid)

/-- `IceAgent::set_remote_ice_params`. -/
def setRemoteIceParams (c : TransportController) (mid : Bytes) (params : IceParameters) :
    TransportController :=
  if mid ∈ c.names then
    c.modify mid fun t => { t with channel := { t.channel with remoteIceParams := params } }
  else c

/-- The body of the loop of `set_remote_description`. A section that has a transport but
no fingerprint makes it dereference a null pointer (`none`). -/
def setRemoteTransport (ssl : SslAdapter) (desc : SessionDescription) (c : TransportController)
    (mid : Bytes) : Option TransportController :=
  match desc.getTransportInfo mid with
  | none => some c
  | some td =>
      let c := c.setRemoteIceParams mid ⟨td.iceUfrag, td.icePwd⟩
      if mid ∈ c.names then
        match td.identityFingerprint with
        | none => none
        | some fp => some (DtlsTransport.setRemoteFingerprint ssl c mid fp.algorithm fp.digest).2
      else some c

/-- `set_remote_description`. -/
def setRemoteDescription (ssl : SslAdapter) (c : TransportController)
    (desc : SessionDescription) : Option TransportController :=
  desc.transportSections.foldlM (fun c content => c.setRemoteTransport ssl desc content.mid) c

/-- `_get_dtls_srtp_transport`. -/
def getDtlsSrtpTransport (c : TransportController) (transportName : Bytes) :
    Option SrtpTransport :=
  if transportName ∈ c.names then some (c.transports transportName).srtp else none

/-! ### Events -/

/-- What reaches the transport of a name: `_update_state` of its channel, a packet, an
event of its adapter, a fingerprint. -/
inductive Event where
  | iceChannel (writable receiving : Bool) (state : IceTransportState)
  | readPacket (buf : Bytes) (ts : Int)
  | dtlsEvent (e : SslEvent)
  | setRemoteFingerprint (digestAlg digest : Bytes)
  deriving DecidableEq, Repr

/-- What an event does to the transport of a name. An adapter that does not exist raises
no event. -/
def handle (ssl : SslAdapter) (c : TransportController) (name : Bytes) :
    Event → TransportController
  | .iceChannel writable receiving state =>
      IceChannel.updateState ssl c name writable receiving state
  | .readPacket buf ts => DtlsTransport.onReadPacket ssl c name buf ts
  | .dtlsEvent e =>
      if (c.transports name).dtls.dtls.isSome then DtlsTransport.onDtlsEvent ssl c name e else c
  | .setRemoteFingerprint digestAlg digest =>
      (DtlsTransport.setRemoteFingerprint ssl c name digestAlg digest).2

/-- An event at the transport of a name, if there is one. -/
def step (ssl : SslAdapter) (c : TransportController) (e : Bytes × Event) : TransportController :=
  if e.1 ∈ c.names then handle ssl c e.1 e.2 else c

end TransportController

end Xrtc.Pc
