import Xrtc.Pc.PeerConnection
import Xrtc.Rtp.RtpUtils

/-!
# `Xrtc.Pc.MediaPath`: packets under SRTP

The model of the packet path of `rtcserver/src/pc/srtp_session.cpp`, `srtp_transport.cpp`
and `dtls_srtp_transport.cpp`, and of `send_rtp` and `send_rtcp` in
`transport_controller.cpp` and `peer_connection.cpp`. The keys and the sessions are those
of `Xrtc.Pc.SrtpTransport`.

What libsrtp does to a packet is a parameter (`SrtpCrypto`). The functions for RTP and for
RTCP differ in the call of libsrtp, in the length of the authentication tag and in the four
bytes of the SRTCP index, and so each pair is one definition with a `MediaKind`.

A packet that is sent ends here with the call of `IceTransportChannel::send_packet`.
-/

set_option autoImplicit false

namespace Xrtc.Pc

open Xrtc.Lib
open Xrtc.Ice (ascii)
open Xrtc.Rtp (RtpPacketType)

/-- The packets that SRTP protects. -/
inductive MediaKind where
  | rtp
  | rtcp
  deriving DecidableEq, Repr

/-- The room for the index of SRTCP, `sizeof(uint32_t)`. -/
def MediaKind.indexLen : MediaKind → Nat
  | .rtp => 0
  | .rtcp => 4

/-- What `infer_rtp_packet_type` answers for the packets of a kind. -/
def MediaKind.packetType : MediaKind → RtpPacketType
  | .rtp => .rtp
  | .rtcp => .rtcp

/-- libsrtp on packets: `auth_tag_len` of the policies of a crypto suite, then
`srtp_protect` and `srtp_unprotect` with their RTCP siblings. The number is the number of
the call, as a session remembers the packets it has seen. `none` is an error. -/
structure SrtpCrypto where
  authTagLen : MediaKind → Int → Nat
  protect : Nat → MediaKind → SrtpPolicy → Bytes → Option Bytes
  unprotect : Nat → MediaKind → SrtpPolicy → Bytes → Option Bytes

variable (crypto : SrtpCrypto) (n : Nat)

/-! ### `SrtpSession` -/

namespace SrtpSession

/-- `get_auth_tag_len`, which leaves the zero of the caller without a session. A session has
the lengths of the policy it was last given. -/
def getAuthTagLen (s : SrtpSession) (kind : MediaKind) : Nat :=
  match s.session with
  | none => 0
  | some policy => crypto.authTagLen kind policy.cs

/-- `unprotect_rtp` and `unprotect_rtcp`. -/
def unprotect (kind : MediaKind) (s : SrtpSession) (p : Bytes) : Option Bytes :=
  match s.session with
  | none => none
  | some policy => crypto.unprotect n kind policy p

/-- `protect_rtp` and `protect_rtcp`, in a buffer of `maxLen` bytes. -/
def protect (kind : MediaKind) (s : SrtpSession) (p : Bytes) (maxLen : Nat) : Option Bytes :=
  match s.session with
  | none => none
  | some policy =>
      let needLen := p.length + crypto.authTagLen kind policy.cs + kind.indexLen
      if maxLen < needLen then none else crypto.protect n kind policy p

end SrtpSession

/-! ### `SrtpTransport` -/

namespace SrtpTransport

/-- `get_send_auth_tag_len`. -/
def getSendAuthTagLen (t : SrtpTransport) (kind : MediaKind) : Nat :=
  match t.sendSession with
  | none => 0
  | some s => s.getAuthTagLen crypto kind

/-- `unprotect_rtp` and `unprotect_rtcp`. -/
def unprotect (kind : MediaKind) (t : SrtpTransport) (p : Bytes) : Option Bytes :=
  if !t.isSrtpActive then none else t.recvSession.bind fun s => s.unprotect crypto n kind p

/-- `protect_rtp` and `protect_rtcp`. -/
def protect (kind : MediaKind) (t : SrtpTransport) (p : Bytes) (maxLen : Nat) : Option Bytes :=
  if !t.isSrtpActive then none else t.sendSession.bind fun s => s.protect crypto n kind p maxLen

end SrtpTransport

/-! ### `DtlsSrtpTransport` -/

namespace DtlsSrtpTransport

/-- `_on_rtp_packet_received` and `_on_rtcp_packet_received`: the packet that the signal
carries. -/
def onPacketReceived (kind : MediaKind) (t : SrtpTransport) (packet : Bytes) :
    Option (MediaKind × Bytes) :=
  if !t.isSrtpActive then none else (t.unprotect crypto n kind packet).map (kind, ·)

/-- `_on_rtp_packet_received`. -/
def onRtpPacketReceived (t : SrtpTransport) (packet : Bytes) : Option (MediaKind × Bytes) :=
  onPacketReceived crypto n .rtp t packet

/-- `_on_rtcp_packet_received`. -/
def onRtcpPacketReceived (t : SrtpTransport) (packet : Bytes) : Option (MediaKind × Bytes) :=
  onPacketReceived crypto n .rtcp t packet

/-- `_on_read_packet`. -/
def onReadPacket (t : SrtpTransport) (data : Bytes) : Option (MediaKind × Bytes) :=
  match Rtp.RtpUtils.inferRtpPacketType data with
  | .unknown => none
  | .rtcp => onRtcpPacketReceived crypto n t data
  | .rtp => onRtpPacketReceived crypto n t data

/-- `send_rtp` and `send_rtcp`: what is handed to the ICE channel. The buffer has room for
the tag and for the index. -/
def send (kind : MediaKind) (t : SrtpTransport) (buf : Bytes) : Option Bytes :=
  if !t.isSrtpActive then none
  else
    let authTagLen := t.getSendAuthTagLen crypto kind
    t.protect crypto n kind buf (buf.length + authTagLen + kind.indexLen)

/-- `send_rtp`. -/
def sendRtp (t : SrtpTransport) (buf : Bytes) : Option Bytes := send crypto n .rtp t buf

/-- `send_rtcp`. -/
def sendRtcp (t : SrtpTransport) (buf : Bytes) : Option Bytes := send crypto n .rtcp t buf

end DtlsSrtpTransport

/-! ### `TransportController` and `PeerConnection` -/

/-- `TransportController::send_rtp` and `send_rtcp`. -/
def TransportController.send (kind : MediaKind) (c : TransportController) (transportName : Bytes)
    (data : Bytes) : Option Bytes :=
  match c.getDtlsSrtpTransport transportName with
  | none => none
  | some dtlsSrtp =>
      match kind with
      | .rtp => DtlsSrtpTransport.sendRtp crypto n dtlsSrtp data
      | .rtcp => DtlsSrtpTransport.sendRtcp crypto n dtlsSrtp data

/-- `PeerConnection::send_rtp` and `send_rtcp`. The transport is always that of the audio
section. -/
def PeerConnection.send (kind : MediaKind) (pc : PeerConnection) (data : Bytes) : Option Bytes :=
  pc.transportController.send crypto n kind (ascii "audio") data

end Xrtc.Pc
