import Xrtc.Pc.PeerConnection
import Xrtc.Stream.RtcStreamManager

/-!
# `Xrtc.Stream.SetAnswer`: an answer reaches its stream

The model of `RtcStreamManager::set_answer` of `rtcserver/src/stream/rtc_stream_manager.cpp`
and of `RtcStream::set_remote_sdp`, for streams with the peer connection of
`Xrtc.Pc.PeerConnection`. There is no result where `set_remote_sdp` does not return.
-/

set_option autoImplicit false

namespace Xrtc.Stream.RtcStreamManager

open Xrtc.Lib
open Xrtc.Pc (PeerConnection SslAdapter)

/-- The part of `set_answer` for a stream type. The stream that is found goes to `setRemoteSdp`,
and without one of the uid nothing changes. -/
def answerStreamWith {α : Type} (m : RtcStreamManager PeerConnection) (t : RtcStreamType)
    (uid : UInt64) (streamName : String) (unchanged : α)
    (setRemoteSdp : Nat → RtcStream PeerConnection → Option α) : Option α :=
  match m.streams t streamName with
  | none => some unchanged
  | some p =>
      match m.heap p with
      | none => none
      | some stream => if uid ≠ stream.uid then some unchanged else setRemoteSdp p stream

/-- The part for a stream type, with its return value. -/
def answerStream (ssl : SslAdapter) (m : RtcStreamManager PeerConnection) (t : RtcStreamType)
    (uid : UInt64) (streamName : String) (answer : Bytes) :
    Option (Int × RtcStreamManager PeerConnection) :=
  m.answerStreamWith t uid streamName (-1, m) fun p stream =>
    match stream.pc.setRemoteSdp ssl answer with
    | .returns _ pc =>
        some (0, { m with heap := Function.update m.heap p (some { stream with pc }) })
    | _ => none

/-- `set_answer`. -/
def setAnswer (ssl : SslAdapter) (m : RtcStreamManager PeerConnection) (uid : UInt64)
    (streamName : String) (answer : Bytes) (streamType : String) :
    Option (Int × RtcStreamManager PeerConnection) :=
  if "push" = streamType then m.answerStream ssl .push uid streamName answer
  else if "pull" = streamType then m.answerStream ssl .pull uid streamName answer
  else some (0, m)

end Xrtc.Stream.RtcStreamManager
