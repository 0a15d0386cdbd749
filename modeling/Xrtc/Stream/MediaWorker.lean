import Xrtc.Pc.MediaPath
import Xrtc.Stream.SetAnswer

/-!
# `Xrtc.Stream.MediaWorker`: the streams of a worker with their transports

The model of an `RtcWorker` at work: `Xrtc.Stream.RtcStreamManager` with the streams it has
created, each with the peer connection of `Xrtc.Pc`, and everything that reaches them one
after the other in the event loop. It puts together `stream/rtc_stream.cpp`,
`on_rtp_packet_received`, `on_rtcp_packet_received` and `on_connection_state` of
`rtc_stream_manager.cpp`, and the `_process_*` of `server/rtc_worker.cpp`.

An event at a transport raises signals of its `TransportController`. They are read off the
record of the controller, which is empty before the event, and reach the stream and the
manager in their order (`deliver`). A stream that has been deleted is connected to no
signal, and its timer is deleted with it.

The SSL adapters under a stream are the ones of its number. `sent` is not part of the
program. It lists the packets that were forwarded and handed to an ICE channel.
-/

set_option autoImplicit false

namespace Xrtc.Stream

open Xrtc.Lib
open Xrtc.Ice (ascii IceParameters)
open Xrtc.Pc

/-! ### Where a packet goes -/

namespace RtcStreamManager

variable {Pc : Type}

/-- `_find_pull_stream`. -/
def findPullStream (m : RtcStreamManager Pc) (streamName : String) : Option Nat :=
  m.pullStreams streamName

/-- `on_rtp_packet_received`: the stream whose `send_rtp` it calls. -/
def onRtpPacketReceived (m : RtcStreamManager Pc) (stream : RtcStream Pc) : Option Nat :=
  match stream.streamType with
  | .push => m.findPullStream stream.streamName
  | .pull => none

/-- `on_rtcp_packet_received`: the stream whose `send_rtcp` it calls. -/
def onRtcpPacketReceived (m : RtcStreamManager Pc) (stream : RtcStream Pc) : Option Nat :=
  match stream.streamType with
  | .push => m.findPullStream stream.streamName
  | .pull => m.findPushStream stream.streamName

/-- The stream that a packet of a kind goes on to. -/
def destination (m : RtcStreamManager Pc) (stream : RtcStream Pc) : MediaKind → Option Nat
  | .rtp => m.onRtpPacketReceived stream
  | .rtcp => m.onRtcpPacketReceived stream

end RtcStreamManager

/-! ### The peer connection of a stream -/

/-- `rtc::RTCCertificate`, with the fingerprint that is made of it. -/
structure LocalCertificate where
  certificate : Certificate
  fingerprint : Option SSLFingerprint
  deriving DecidableEq, Repr

/-- What `create_offer` draws and gathers. -/
structure OfferDraw where
  iceParam : IceParameters
  allocated : Bytes → List Candidate

/-- `PeerConnection::init`. -/
def initPeerConnection (pc : PeerConnection) (certificate : Option LocalCertificate) :
    PeerConnection :=
  { pc with
      certificate := certificate.map LocalCertificate.fingerprint
      transportController :=
        { pc.transportController with
            localCertificate := certificate.map LocalCertificate.certificate } }

/-- The options of a stream, with the defaults of the three it does not set. -/
def offerAnswerOptions (options : RTCOfferAnswerOptions) : Pc.RTCOfferAnswerOptions where
  sendAudio := options.sendAudio
  sendVideo := options.sendVideo
  recvAudio := options.recvAudio
  recvVideo := options.recvVideo

/-- The text of an offer, a character for each of its bytes. -/
def offerText (text : Bytes) : String := String.ofList (text.map fun b => Char.ofNat b.toNat)

/-- The peer connection of `Xrtc.Pc` under the streams. -/
def peerConnectionOps (ntop6 : Vector UInt8 16 → Bytes) (draw : OfferDraw) :
    PeerConnectionOps PeerConnection (Option LocalCertificate) StreamParams where
  new := {}
  init := initPeerConnection
  createOffer pc options :=
    let offer := pc.createOffer ntop6 draw.allocated (offerAnswerOptions options) draw.iceParam
    (offer.2, offerText offer.1)
  remoteStreams pc mid :=
    pc.remoteDesc.bind fun d => (d.getContent (ascii mid)).map MediaContentDescription.sendStreams
  addAudioSource pc source := { pc with audioSource := source }
  addVideoSource pc source := { pc with videoSource := source }

/-! ### The worker -/

/-- A packet that came in on one stream and went out on another. -/
structure ForwardedPacket where
  source : Nat
  target : Nat
  kind : MediaKind
  data : Bytes
  deriving DecidableEq, Repr

/-- An `RtcWorker` with its streams. `state` is the `_state` of a stream, and `iceTimeout`
says that its `_ice_timeout_watcher` is running. -/
structure MediaWorker where
  manager : RtcStreamManager PeerConnection := RtcStreamManager.empty
  state : Nat → PeerConnectionState := fun _ => .new
  iceTimeout : Nat → Bool := fun _ => false
  cryptoCalls : Nat := 0
  sent : List ForwardedPacket := []

namespace MediaWorker

variable (crypto : SrtpCrypto)

/-! ### Signals -/

/-- `RtcStream::_on_connection_state`. -/
def onConnectionState (w : MediaWorker) (p : Nat) (state : PeerConnectionState) : MediaWorker :=
  match w.manager.heap p with
  | none => w
  | some _ =>
      if w.state p = state then w
      else
        { w with
            state := Function.update w.state p state
            iceTimeout :=
              if state = .connected then Function.update w.iceTimeout p false else w.iceTimeout
            manager := w.manager.onConnectionState p state }

/-- `RtcStream::send_rtp` and `send_rtcp`, for a packet from the stream `p`. -/
def send (w : MediaWorker) (p q : Nat) (kind : MediaKind) (packet : Bytes) : MediaWorker :=
  match w.manager.heap q with
  | none => w
  | some target =>
      let sending := { w with cryptoCalls := w.cryptoCalls + 1 }
      match target.pc.send crypto w.cryptoCalls kind packet with
      | none => sending
      | some data => { sending with sent := w.sent ++ [⟨p, q, kind, data⟩] }

/-- `DtlsSrtpTransport::_on_read_packet` at a transport of the stream `p`. A packet that comes
out of SRTP goes through the controller, the peer connection and the stream to the manager. -/
def onReadPacket (w : MediaWorker) (p : Nat) (name data : Bytes) : MediaWorker :=
  match w.manager.heap p with
  | none => w
  | some stream =>
      let srtp := (stream.pc.transportController.transports name).srtp
      let received := { w with cryptoCalls := w.cryptoCalls + 1 }
      match DtlsSrtpTransport.onReadPacket crypto w.cryptoCalls srtp data with
      | none => received
      | some (kind, packet) =>
          match w.manager.destination stream kind with
          | none => received
          | some q => received.send crypto p q kind packet

/-- A signal of the controller of the stream `p`. -/
def deliver (p : Nat) (w : MediaWorker) : Entry → MediaWorker
  | .connectionState state => w.onConnectionState p state
  | .readPacket name data _ => w.onReadPacket crypto p name data
  | _ => w

/-- The controller of a stream after an event, and then its signals. -/
def signal (w : MediaWorker) (p : Nat) (stream : RtcStream PeerConnection) (pc : PeerConnection) :
    MediaWorker :=
  let manager :=
    { w.manager with heap := Function.update w.manager.heap p (some { stream with pc }) }
  pc.transportController.log.reverse.foldl (deliver crypto p) { w with manager }

/-- A peer connection with an empty record. -/
def clearLog (pc : PeerConnection) : PeerConnection :=
  { pc with transportController := { pc.transportController with log := [] } }

/-! ### Messages -/

/-- A stream that a call may have created. `RtcStream::start` starts the timer. -/
def created (w : MediaWorker) (result : Int × String × RtcStreamManager PeerConnection) :
    MediaWorker :=
  if result.1 = 0 then
    { w with
        manager := result.2.2
        state := Function.update w.state w.manager.next .new
        iceTimeout := Function.update w.iceTimeout w.manager.next true }
  else { w with manager := result.2.2 }

variable (ssl : Nat → SslAdapter)

/-- `set_answer`, the part for a stream type, with the signals it raises. -/
def answerStream (w : MediaWorker) (t : RtcStreamType) (uid : UInt64) (streamName : String)
    (answer : Bytes) : Option MediaWorker :=
  w.manager.answerStreamWith t uid streamName w fun p stream =>
    match (clearLog stream.pc).setRemoteSdp (ssl p) answer with
    | .returns _ pc => some (w.signal crypto p stream pc)
    | _ => none

/-- `set_answer`. -/
def setAnswer (w : MediaWorker) (uid : UInt64) (streamName : String) (answer : Bytes)
    (streamType : String) : Option MediaWorker :=
  if "push" = streamType then w.answerStream crypto ssl .push uid streamName answer
  else if "pull" = streamType then w.answerStream crypto ssl .pull uid streamName answer
  else some w

/-- An event at a transport of the stream `p`. -/
def transportEvent (w : MediaWorker) (p : Nat) (name : Bytes) (e : TransportController.Event) :
    MediaWorker :=
  match w.manager.heap p with
  | none => w
  | some stream =>
      let c := TransportController.step (ssl p) (clearLog stream.pc).transportController (name, e)
      w.signal crypto p stream { stream.pc with transportController := c }

/-- `ice_timeout_cb`. The timer is not repeated. -/
def iceTimeoutCb (w : MediaWorker) (p : Nat) : MediaWorker :=
  match w.manager.heap p with
  | none => w
  | some _ =>
      if !w.iceTimeout p then w
      else
        let w := { w with iceTimeout := Function.update w.iceTimeout p false }
        if w.state p ≠ .connected then { w with manager := w.manager.onStreamException p } else w

/-! ### Runs -/

/-- What the event loop of a worker gets to do. -/
inductive Event where
  | push (uid : UInt64) (streamName : String) (audio video : Bool) (logId : UInt32)
      (certificate : Option LocalCertificate) (draw : OfferDraw)
  | pull (uid : UInt64) (streamName : String) (audio video : Bool) (logId : UInt32)
      (certificate : Option LocalCertificate) (draw : OfferDraw)
  | answer (uid : UInt64) (streamName : String) (sdp : Bytes) (streamType : String)
  | stopPush (uid : UInt64) (streamName : String)
  | stopPull (uid : UInt64) (streamName : String)
  | transport (stream : Nat) (name : Bytes) (e : TransportController.Event)
  | iceTimeout (stream : Nat)

variable (ntop6 : Vector UInt8 16 → Bytes)

/-- One event. There is no next state where `set_remote_sdp` does not return. -/
def step (w : MediaWorker) : Event → Option MediaWorker
  | .push uid streamName audio video logId certificate draw =>
      some (w.created (w.manager.createPushStream (peerConnectionOps ntop6 draw) uid streamName
        audio video logId certificate))
  | .pull uid streamName audio video logId certificate draw =>
      some (w.created (w.manager.createPullStream (peerConnectionOps ntop6 draw) uid streamName
        audio video logId certificate))
  | .answer uid streamName sdp streamType => w.setAnswer crypto ssl uid streamName sdp streamType
  | .stopPush uid streamName => some { w with manager := (w.manager.stopPush uid streamName).2 }
  | .stopPull uid streamName => some { w with manager := (w.manager.stopPull uid streamName).2 }
  | .transport p name e => some (w.transportEvent crypto ssl p name e)
  | .iceTimeout p => some (w.iceTimeoutCb p)

end MediaWorker

end Xrtc.Stream
