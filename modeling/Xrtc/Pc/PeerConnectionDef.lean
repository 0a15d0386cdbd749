/-!
# `Xrtc.Pc.PeerConnectionDef`: the state of a peer connection

The enumeration of `rtcserver/src/pc/peer_connection_def.h`.
-/

set_option autoImplicit false

namespace Xrtc.Pc

/-- `PeerConnectionState`. -/
inductive PeerConnectionState where
  | new
  | connecting
  | connected
  | disconnected
  | failed
  | closed
  deriving DecidableEq, Repr

end Xrtc.Pc
