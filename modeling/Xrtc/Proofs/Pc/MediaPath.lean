import Xrtc.Pc.MediaPath
import Xrtc.Proofs.Pc.SrtpKeys

/-!
# `Xrtc.Proofs.Pc.MediaPath`: packets pass under the keys of the DTLS session

A sound transport lets a packet through exactly while it is connected, and then under the
keys that its present DTLS session has exported (`Secured`). `onReadPacket_eq_some` says
this for the packets it receives and `send_eq_some` for those it sends. The buffer that a
packet is sent in always has the room that `protect` asks for.
-/

set_option autoImplicit false

namespace Xrtc.Proofs.Pc

open Xrtc.Lib
open Xrtc.Ice (ascii)
open Xrtc.Rtp (RtpPacketType)
open Xrtc.Pc

/-- A transport is connected, and its SRTP sessions have the keys of its DTLS session: it
receives with what the client writes, and it sends as the server. -/
structure Secured (ssl : SslAdapter) (t : Transport) (recvKey sendKey : SrtpPolicy) : Prop where
  connected : t.dtls.dtlsState = .connected
  exported : ∃ session cs keyLen saltLen, t.dtls.dtls = some session ∧
    getSrtpKeyAndSaltLengths cs = some (keyLen, saltLen) ∧
    ∃ keys : ExportedKeys (ssl.material session (keyLen * 2 + saltLen * 2)).toList keyLen saltLen,
      recvKey = ⟨.anyInbound, cs, keys.clientKey ++ keys.clientSalt⟩ ∧
        sendKey = ⟨.anyOutbound, cs, keys.serverKey ++ keys.serverSalt⟩
  sendSession : t.srtp.sendSession = some ⟨some sendKey⟩
  recvSession : t.srtp.recvSession = some ⟨some recvKey⟩

variable {ssl : SslAdapter} {t : Transport} {recvKey sendKey : SrtpPolicy}

/-- A transport with both keys has its session. -/
theorem Secured.isSrtpActive (h : Secured ssl t recvKey sendKey) : t.srtp.isSrtpActive = true := by
  unfold SrtpTransport.isSrtpActive
  rw [h.sendSession, h.recvSession]
  rfl

/-- SRTP is active on a sound transport while it is secured. -/
theorem Sound.secured (h : Sound ssl t) (hactive : t.srtp.isSrtpActive = true) :
    ∃ recvKey sendKey, Secured ssl t recvKey sendKey := by
  rcases h.current with ⟨hsend, -⟩ | ⟨hconnected, session, hsession, hinstalled⟩
  · -- without a session SRTP is not active
    unfold SrtpTransport.isSrtpActive at hactive
    rw [hsend] at hactive
    simp at hactive
  · obtain ⟨cs, keyLen, saltLen, hlengths, keys, hsend, hrecv⟩ := hinstalled
    exact ⟨_, _, hconnected, ⟨session, cs, keyLen, saltLen, hsession, hlengths, keys, rfl, rfl⟩,
      hsend, hrecv⟩

variable (crypto : SrtpCrypto) (n : Nat)

/-! ### Receiving -/

/-- A packet is unprotected with the key of the receiver. -/
theorem Secured.onPacketReceived (h : Secured ssl t recvKey sendKey) (kind : MediaKind)
    (data : Bytes) :
    DtlsSrtpTransport.onPacketReceived crypto n kind t.srtp data
      = (crypto.unprotect n kind recvKey data).map (kind, ·) := by
  unfold DtlsSrtpTransport.onPacketReceived SrtpTransport.unprotect
  rw [h.isSrtpActive, h.recvSession]
  rfl

/-- A datagram is passed on exactly when it is of that kind, and can be unprotected. -/
theorem Secured.onReadPacket (h : Secured ssl t recvKey sendKey) {kind : MediaKind}
    {data packet : Bytes} :
    DtlsSrtpTransport.onReadPacket crypto n t.srtp data = some (kind, packet) ↔
      Rtp.RtpUtils.inferRtpPacketType data = kind.packetType ∧
        crypto.unprotect n kind recvKey data = some packet := by
  unfold DtlsSrtpTransport.onReadPacket DtlsSrtpTransport.onRtcpPacketReceived
    DtlsSrtpTransport.onRtpPacketReceived
  cases hinfer : Rtp.RtpUtils.inferRtpPacketType data with
  | unknown => cases kind <;> simp [MediaKind.packetType]
  | rtp | rtcp =>
      dsimp only
      rw [h.onPacketReceived]
      cases kind <;> simp [MediaKind.packetType]

/-- What a sound transport makes of a packet. -/
theorem onReadPacket_eq_some (h : Sound ssl t) (kind : MediaKind) (data packet : Bytes) :
    DtlsSrtpTransport.onReadPacket crypto n t.srtp data = some (kind, packet) ↔
      Rtp.RtpUtils.inferRtpPacketType data = kind.packetType ∧
        ∃ recvKey sendKey, Secured ssl t recvKey sendKey ∧
          crypto.unprotect n kind recvKey data = some packet := by
  constructor
  · intro hread
    have hactive : t.srtp.isSrtpActive = true := by
      by_contra hinactive
      have hnone : ∀ k, DtlsSrtpTransport.onPacketReceived crypto n k t.srtp data = none := by
        intro k
        unfold DtlsSrtpTransport.onPacketReceived
        simp [hinactive]
      unfold DtlsSrtpTransport.onReadPacket DtlsSrtpTransport.onRtcpPacketReceived
        DtlsSrtpTransport.onRtpPacketReceived at hread
      rw [hnone, hnone] at hread
      split at hread <;> cases hread
    obtain ⟨recvKey, sendKey, hsecured⟩ := h.secured hactive
    obtain ⟨hinfer, hpacket⟩ := (hsecured.onReadPacket crypto n).mp hread
    exact ⟨hinfer, recvKey, sendKey, hsecured, hpacket⟩
  · rintro ⟨hinfer, recvKey, sendKey, hsecured, hpacket⟩
    exact (hsecured.onReadPacket crypto n).mpr ⟨hinfer, hpacket⟩

/-! ### Sending -/

/-- There is always room for what `protect` adds. -/
theorem Secured.send (h : Secured ssl t recvKey sendKey) (kind : MediaKind) (buf : Bytes) :
    DtlsSrtpTransport.send crypto n kind t.srtp buf = crypto.protect n kind sendKey buf := by
  have hlen : t.srtp.getSendAuthTagLen crypto kind = crypto.authTagLen kind sendKey.cs := by
    unfold SrtpTransport.getSendAuthTagLen
    rw [h.sendSession]
    rfl
  unfold DtlsSrtpTransport.send SrtpTransport.protect
  rw [h.isSrtpActive, h.sendSession, hlen]
  show SrtpSession.protect crypto n kind ⟨some sendKey⟩ buf _ = _
  unfold SrtpSession.protect
  simp

/-- What a sound transport hands to its ICE channel. -/
theorem send_eq_some (h : Sound ssl t) {kind : MediaKind} {buf data : Bytes} :
    DtlsSrtpTransport.send crypto n kind t.srtp buf = some data ↔
      ∃ recvKey sendKey, Secured ssl t recvKey sendKey ∧
        crypto.protect n kind sendKey buf = some data := by
  constructor
  · intro hsent
    have hactive : t.srtp.isSrtpActive = true := by
      by_contra hinactive
      unfold DtlsSrtpTransport.send at hsent
      simp [hinactive] at hsent
    obtain ⟨recvKey, sendKey, hsecured⟩ := h.secured hactive
    exact ⟨recvKey, sendKey, hsecured, by rw [← hsent, hsecured.send]⟩
  · rintro ⟨recvKey, sendKey, hsecured, hprotected⟩
    rw [hsecured.send, hprotected]

/-- A packet leaves by the transport of its name, if there is one. -/
theorem transportController_send (kind : MediaKind) (c : TransportController) (name data : Bytes) :
    c.send crypto n kind name data
      = if name ∈ c.names then DtlsSrtpTransport.send crypto n kind (c.transports name).srtp data
        else none := by
  unfold TransportController.send TransportController.getDtlsSrtpTransport
  by_cases hname : name ∈ c.names
  · simp only [if_pos hname]
    cases kind <;> rfl
  · simp only [if_neg hname]

/-- A peer connection sends on the transport of its audio section. -/
theorem peerConnection_send_eq_some {pc : PeerConnection}
    (h : Sound ssl (pc.transportController.transports (ascii "audio"))) (kind : MediaKind)
    (buf data : Bytes) :
    pc.send crypto n kind buf = some data ↔
      ascii "audio" ∈ pc.transportController.names ∧
        ∃ recvKey sendKey,
          Secured ssl (pc.transportController.transports (ascii "audio")) recvKey sendKey ∧
            crypto.protect n kind sendKey buf = some data := by
  unfold PeerConnection.send
  rw [transportController_send]
  split
  · rename_i hname
    rw [send_eq_some crypto n h]
    simp [hname]
  · rename_i hname
    simp [hname]

end Xrtc.Proofs.Pc
