import Xrtc.Ice.ChannelPackets
import Xrtc.Stream.MediaWorker

/-!
# `Xrtc.Stream.NetworkWorker`: a worker with its ICE channels

The media side of an `RtcWorker` as a whole, from the datagrams that arrive to those that are
sent. `MediaWorker` takes the values and the packets of a channel as events. Here they come
from the `IceTransportChannel` of `Xrtc.Ice` that is under every transport of every stream, and
what the worker forwards goes through such a channel again.

What an input adds to the record of a channel has the signals of the input
(`signalled`). They reach the transport one after the other, and then the packet does if it is
one for the layers above. A channel is made with the parameters of the offer, and it has ports
if neither of these is empty. The remote parameters of an answer reach the channel as an input
of their own, before the answer. No packet of a DTLS handshake is sent here.

`ports` says how the memory of a channel looks when it is made, and what the candidates of its
ports are.
-/

set_option autoImplicit false

namespace Xrtc.Stream

open Xrtc.Lib
open Xrtc.Ice (ascii IceParameters MessageDigest Allocator PortPacket)
open Xrtc.Pc

/-- A packet that was forwarded, and the datagram that it left in. -/
structure Datagram where
  forwarded : ForwardedPacket
  packet : PortPacket
  deriving DecidableEq

/-- The parts of a new channel that no code sets. -/
structure ChannelPorts where
  heap : Ice.Ptr → Ice.IceConnection
  localCandidate : Nat → Ice.Candidate

/-- The parameters that the offer of a stream gives a channel. -/
def offeredParameters (pc : PeerConnection) (name : Bytes) : IceParameters :=
  match pc.localDesc.bind fun desc => desc.getTransportInfo name with
  | some td => ⟨td.iceUfrag, td.icePwd⟩
  | none => ⟨[], []⟩

/-- Whether `gathering_candidate` makes ports. -/
def gathersCandidates (params : IceParameters) : Bool :=
  !(params.iceUfrag.isEmpty || params.icePwd.isEmpty)

/-- A worker with the channels of its streams. -/
structure NetworkWorker where
  media : MediaWorker := {}
  channels : Nat → Bytes → Ice.World
  datagrams : List Datagram := []

namespace NetworkWorker

/-! ### From a channel to its transport -/

/-- A signal of a channel, with the other values of the channel as they were. -/
def channelSignal (c : Ice.IceTransportChannel) : Ice.Entry → Option TransportController.Event
  | .writable writable => some (.iceChannel writable c.receiving c.state)
  | .receiving receiving => some (.iceChannel c.writable receiving c.state)
  | .iceState state => some (.iceChannel c.writable c.receiving state)
  | _ => none

/-- What an input has added to the record of a channel, the earliest entry first. -/
def newEntries (before after : Ice.World) : List Ice.Entry :=
  (after.log.take (after.log.length - before.log.length)).reverse

variable (crypto : SrtpCrypto) (ssl : Nat → SslAdapter)

/-- A signal of the channel of a stream reaches its transport. -/
def signalled (p : Nat) (name : Bytes) (media : MediaWorker) (e : Ice.Entry) : MediaWorker :=
  match media.manager.heap p with
  | none => media
  | some stream =>
      match channelSignal (stream.pc.transportController.transports name).channel e with
      | none => media
      | some e => media.transportEvent crypto ssl p name e

variable (digest : MessageDigest)

/-- A packet that is not for the channel itself goes up. -/
def handUp (p : Nat) (name : Bytes) (channel : Ice.World) (media : MediaWorker) :
    Ice.Input → MediaWorker
  | .datagram port addr data now =>
      if Ice.UDPPort.handsOn digest channel.toCore port addr data then
        media.transportEvent crypto ssl p name (.readPacket data now)
      else media
  | _ => media

/-! ### From a stream to the network -/

/-- The datagrams of what a worker has forwarded, sent on the channels as they are. -/
def transmit (channels : Nat → Bytes → Ice.World) (forwarded : List ForwardedPacket) :
    List Datagram :=
  forwarded.filterMap fun x =>
    (Ice.IceTransportChannel.sendPacket (channels x.target (ascii "audio")).toCore x.data).map
      fun packet => ⟨x, packet⟩

/-- The worker after something has happened to its streams and its channels. -/
def update (w : NetworkWorker) (media : MediaWorker) (channels : Nat → Bytes → Ice.World) :
    NetworkWorker where
  media := media
  channels := channels
  datagrams := w.datagrams ++ transmit channels (media.sent.drop w.media.sent.length)

/-! ### Runs -/

/-- What reaches a worker: a message, a timer or an event of an adapter, or an input of a
channel. -/
inductive Event where
  | worker (e : MediaWorker.Event)
  | channel (stream : Nat) (name : Bytes) (i : Ice.Input)

/-- The events of a worker that only a channel raises. -/
def fromChannel : MediaWorker.Event → Bool
  | .transport _ _ (.iceChannel ..) => true
  | .transport _ _ (.readPacket ..) => true
  | _ => false

/-- The inputs that only a port hears. -/
def needsPort : Ice.Input → Bool
  | .datagram .. => true
  | _ => false

variable (ports : Nat → Bytes → ChannelPorts) (ntop6 : Vector UInt8 16 → Bytes)

/-- `IceAgent::create_channel` and `set_ice_params`. -/
def createChannel (p : Nat) (name : Bytes) (pc : PeerConnection) : Ice.World :=
  Ice.World.init (ports p name).heap (fun _ => offeredParameters pc name)
    (ports p name).localCandidate

/-- The channels of the streams that are new. -/
def createChannels (w : NetworkWorker) (media : MediaWorker) (p : Nat) (name : Bytes) :
    Ice.World :=
  if p < w.media.manager.next then w.channels p name
  else
    match media.manager.heap p with
    | none => w.channels p name
    | some stream => createChannel ports p name stream.pc

/-- No stream yet. -/
def empty : NetworkWorker where
  channels p name := createChannel ports p name {}

/-- A message, a timer or an event of an adapter. -/
def workerEvent (w : NetworkWorker) (e : MediaWorker.Event) : Option NetworkWorker :=
  if fromChannel e then none
  else
    (w.media.step crypto ssl ntop6 e).map fun media =>
      w.update media (w.createChannels ports media)

variable (allocator : Allocator)

/-- An input of the channel of a stream. -/
def channelInput (w : NetworkWorker) (p : Nat) (name : Bytes) (i : Ice.Input) :
    Option NetworkWorker :=
  match w.media.manager.heap p with
  | none => some w
  | some stream =>
      if !stream.pc.transportController.names.contains name then some w
      else if needsPort i && !gathersCandidates (offeredParameters stream.pc name) then some w
      else
        let channel := w.channels p name
        (Ice.next digest allocator channel i).map fun channel' =>
          let told := (newEntries channel channel').foldl (signalled crypto ssl p name) w.media
          let media := handUp crypto ssl digest p name channel told i
          w.update media fun q other =>
            if q = p ∧ other = name then channel' else w.channels q other

/-- One event. There is no next state where the code has none. -/
def step (w : NetworkWorker) : Event → Option NetworkWorker
  | .worker e => w.workerEvent crypto ssl ports ntop6 e
  | .channel p name i => w.channelInput crypto ssl digest allocator p name i

end NetworkWorker

end Xrtc.Stream
