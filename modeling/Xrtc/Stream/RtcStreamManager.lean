import Mathlib.Logic.Function.Basic
import Xrtc.Pc.PeerConnectionDef

/-!
# `Xrtc.Stream.RtcStreamManager`: the registry of push and pull streams

The model of `rtcserver/src/stream/rtc_stream_manager.cpp` and of the parts of
`rtc_stream.cpp`, `push_stream.cpp` and `pull_stream.cpp` it calls. A stream is a
heap object. The manager holds raw pointers to streams in two hash maps keyed by
the stream name, `_push_streams` and `_pull_streams`, and it is the only owner:
`delete` on a stream happens in the manager and nowhere else.

The heap is explicit. `heap p` is the stream object at `p`, or `none` when no
object is there, and `next` is the identity the next `new` hands out. An
identity is never handed out twice, so a pointer stands for one object for the
whole run.

The peer connection inside a stream is a parameter, `PeerConnectionOps`. Its
methods decide the text of an offer and the media sources a pull stream copies.
No decision of the manager depends on them.
-/

set_option autoImplicit false

namespace Xrtc.Stream

open Xrtc.Pc (PeerConnectionState)

/-- `RtcStreamType`. -/
inductive RtcStreamType where
  | push
  | pull
  deriving DecidableEq, Repr

/-- `RTCOfferAnswerOptions`, the four fields the two streams set. -/
structure RTCOfferAnswerOptions where
  sendAudio : Bool
  sendVideo : Bool
  recvAudio : Bool
  recvVideo : Bool
  deriving DecidableEq, Repr

/-- What a stream asks of its `PeerConnection`. `remoteStreams pc mid` is
`pc->remote_desc()->get_content(mid)->streams()`, and `none` when the remote
description or the section is missing. -/
structure PeerConnectionOps (Pc Cert Source : Type) where
  new : Pc
  init : Pc → Cert → Pc
  createOffer : Pc → RTCOfferAnswerOptions → Pc × String
  remoteStreams : Pc → String → Option (List Source)
  addAudioSource : Pc → List Source → Pc
  addVideoSource : Pc → List Source → Pc

/-- `RtcStream` together with the type tag of its subclass. -/
structure RtcStream (Pc : Type) where
  streamType : RtcStreamType
  uid : UInt64
  streamName : String
  audio : Bool
  video : Bool
  logId : UInt32
  pc : Pc
  deriving DecidableEq

/-- `PushStream::create_offer` and `PullStream::create_offer`: a push stream
receives what it was asked for, a pull stream sends it. -/
def RtcStream.offerOptions {Pc : Type} (stream : RtcStream Pc) : RTCOfferAnswerOptions :=
  match stream.streamType with
  | .push => ⟨false, false, stream.audio, stream.video⟩
  | .pull => ⟨stream.audio, stream.video, false, false⟩

/-- `RtcStreamManager` and the heap of the streams it has created. -/
structure RtcStreamManager (Pc : Type) where
  heap : Nat → Option (RtcStream Pc)
  next : Nat
  pushStreams : String → Option Nat
  pullStreams : String → Option Nat

namespace RtcStreamManager

variable {Pc Cert Source : Type}

/-- A fresh manager: no stream has been created. -/
def empty : RtcStreamManager Pc :=
  { heap := fun _ => none, next := 0, pushStreams := fun _ => none, pullStreams := fun _ => none }

/-- The map a stream type is registered in. -/
def streams (m : RtcStreamManager Pc) : RtcStreamType → String → Option Nat
  | .push => m.pushStreams
  | .pull => m.pullStreams

/-- Replace the map of one stream type. -/
def setStreams (m : RtcStreamManager Pc) :
    RtcStreamType → (String → Option Nat) → RtcStreamManager Pc
  | .push, f => { m with pushStreams := f }
  | .pull, f => { m with pullStreams := f }

/-- `_push_streams.erase(stream_name)`, and its pull sibling. -/
def eraseName (m : RtcStreamManager Pc) (t : RtcStreamType) (streamName : String) :
    RtcStreamManager Pc :=
  m.setStreams t (Function.update (m.streams t) streamName none)

/-- `_push_streams[stream_name] = stream`, and its pull sibling. -/
def insertName (m : RtcStreamManager Pc) (t : RtcStreamType) (streamName : String) (p : Nat) :
    RtcStreamManager Pc :=
  m.setStreams t (Function.update (m.streams t) streamName (some p))

/-- `delete stream`. -/
def deleteStream (m : RtcStreamManager Pc) (p : Nat) : RtcStreamManager Pc :=
  { m with heap := Function.update m.heap p none }

/-- `new PushStream(...)` or `new PullStream(...)`, already carrying the state the
following calls on the object leave it in. -/
def newStream (m : RtcStreamManager Pc) (stream : RtcStream Pc) : RtcStreamManager Pc × Nat :=
  ({ m with heap := Function.update m.heap m.next (some stream), next := m.next + 1 }, m.next)

/-- `_find_push_stream`. -/
def findPushStream (m : RtcStreamManager Pc) (streamName : String) : Option Nat :=
  m.pushStreams streamName

/-- `_remove_push_stream(uid, stream_name)` and `_remove_pull_stream(uid, stream_name)`:
erase the entry of the name and delete its stream, if the stream has this uid. -/
def removeStream (m : RtcStreamManager Pc) (t : RtcStreamType) (uid : UInt64)
    (streamName : String) : RtcStreamManager Pc :=
  match m.streams t streamName with
  | none => m
  | some p =>
      if (m.heap p).map RtcStream.uid = some uid then
        (m.eraseName t streamName).deleteStream p
      else m

/-- `_remove_push_stream(uid, stream_name)`. -/
def removePushStream (m : RtcStreamManager Pc) (uid : UInt64) (streamName : String) :
    RtcStreamManager Pc := m.removeStream .push uid streamName

/-- `_remove_pull_stream(uid, stream_name)`. -/
def removePullStream (m : RtcStreamManager Pc) (uid : UInt64) (streamName : String) :
    RtcStreamManager Pc := m.removeStream .pull uid streamName

/-- `create_push_stream`. A push stream already registered under the name is
erased and deleted, whatever its uid. The result is the return code, the offer
and the manager. -/
def createPushStream (ops : PeerConnectionOps Pc Cert Source) (m : RtcStreamManager Pc)
    (uid : UInt64) (streamName : String) (audio video : Bool) (logId : UInt32)
    (certificate : Cert) : Int × String × RtcStreamManager Pc :=
  let m := match m.findPushStream streamName with
    | some p => (m.eraseName .push streamName).deleteStream p
    | none => m
  let stream : RtcStream Pc := ⟨.push, uid, streamName, audio, video, logId, ops.new⟩
  -- `stream->start(certificate)`, then `stream->create_offer()`
  let offer := ops.createOffer (ops.init stream.pc certificate) stream.offerOptions
  let created := m.newStream { stream with pc := offer.1 }
  (0, offer.2, created.1.insertName .push streamName created.2)

/-- `create_pull_stream`. It fails without a push stream of the name. Otherwise it
removes the registered pull stream of the same name *and uid*, and then stores
the new one under the name. -/
def createPullStream (ops : PeerConnectionOps Pc Cert Source) (m : RtcStreamManager Pc)
    (uid : UInt64) (streamName : String) (audio video : Bool) (logId : UInt32)
    (certificate : Cert) : Int × String × RtcStreamManager Pc :=
  match m.findPushStream streamName with
  | none => (-1, "", m)
  | some push =>
      let m := m.removePullStream uid streamName
      -- `get_audio_source` and `get_video_source` leave the vector empty on failure
      let source (mid : String) : List Source :=
        ((m.heap push).bind fun s => ops.remoteStreams s.pc mid).getD []
      let pc := ops.addVideoSource (ops.addAudioSource ops.new (source "audio")) (source "video")
      let stream : RtcStream Pc := ⟨.pull, uid, streamName, audio, video, logId, pc⟩
      let offer := ops.createOffer (ops.init stream.pc certificate) stream.offerOptions
      let created := m.newStream { stream with pc := offer.1 }
      (0, offer.2, created.1.insertName .pull streamName created.2)

/-- `stop_push`. -/
def stopPush (m : RtcStreamManager Pc) (uid : UInt64) (streamName : String) :
    Int × RtcStreamManager Pc := (0, m.removePushStream uid streamName)

/-- `stop_pull`. -/
def stopPull (m : RtcStreamManager Pc) (uid : UInt64) (streamName : String) :
    Int × RtcStreamManager Pc := (0, m.removePullStream uid streamName)

/-- `on_stream_exception`: remove the stream by its own uid and name. A deleted
stream makes no call back, its timer is deleted and its signals are
disconnected with it. -/
def onStreamException (m : RtcStreamManager Pc) (p : Nat) : RtcStreamManager Pc :=
  match m.heap p with
  | none => m
  | some stream =>
      match stream.streamType with
      | .push => m.removePushStream stream.uid stream.streamName
      | .pull => m.removePullStream stream.uid stream.streamName

/-- `on_connection_state`: only `k_failed` does anything, the same removal. -/
def onConnectionState (m : RtcStreamManager Pc) (p : Nat) (state : PeerConnectionState) :
    RtcStreamManager Pc :=
  if state = .failed then
    match m.heap p with
    | none => m
    | some stream =>
        match stream.streamType with
        | .push => m.removePushStream stream.uid stream.streamName
        | .pull => m.removePullStream stream.uid stream.streamName
  else m

/-- One call on the manager. The last two come from a stream, given by its
pointer. -/
inductive Call (Cert : Type) where
  | createPushStream (uid : UInt64) (streamName : String) (audio video : Bool)
      (logId : UInt32) (certificate : Cert)
  | createPullStream (uid : UInt64) (streamName : String) (audio video : Bool)
      (logId : UInt32) (certificate : Cert)
  | stopPush (uid : UInt64) (streamName : String)
  | stopPull (uid : UInt64) (streamName : String)
  | onConnectionState (stream : Nat) (state : PeerConnectionState)
  | onStreamException (stream : Nat)

/-- The manager after one call. -/
def step (ops : PeerConnectionOps Pc Cert Source) (m : RtcStreamManager Pc) :
    Call Cert → RtcStreamManager Pc
  | .createPushStream uid streamName audio video logId certificate =>
      (m.createPushStream ops uid streamName audio video logId certificate).2.2
  | .createPullStream uid streamName audio video logId certificate =>
      (m.createPullStream ops uid streamName audio video logId certificate).2.2
  | .stopPush uid streamName => (m.stopPush uid streamName).2
  | .stopPull uid streamName => (m.stopPull uid streamName).2
  | .onConnectionState stream state => m.onConnectionState stream state
  | .onStreamException stream => m.onStreamException stream

end RtcStreamManager

end Xrtc.Stream
