import Xrtc.Ice.IceConnection

/-!
# `Xrtc.Pc.SessionDescription`: what an SDP text says

The data of `rtcserver/src/pc/session_description.h`, `codec_info.h` and
`stream_params.h`, with the lookups of `session_description.cpp`. A section of the
description (`MediaContentDescription`) is named by its `mid`, which is the name of
its media type. Candidates have the fields that are written into a description.

A `shared_ptr` to a section or to a transport description is the value it points to.
The codecs of a section are those its constructor puts there.
-/

set_option autoImplicit false

namespace Xrtc.Pc

open Xrtc.Lib
open Xrtc.Ice (ascii IPAddress IceParameters)

/-- `SdpType`. -/
inductive SdpType where
  | offer
  | answer
  deriving DecidableEq, Repr

/-- `MediaType`. -/
inductive MediaType where
  | audio
  | video
  deriving DecidableEq, Repr

/-- `RtpDirection`. -/
inductive RtpDirection where
  | sendRecv
  | sendOnly
  | recvOnly
  | inactive
  deriving DecidableEq, Repr

/-- `ConnectionRole`. -/
inductive ConnectionRole where
  | none
  | active
  | passive
  | actpass
  | holdconn
  deriving DecidableEq, Repr

/-! ### Codecs and streams -/

/-- `FeedbackParam`. -/
structure FeedbackParam where
  id : Bytes
  param : Bytes := []
  deriving DecidableEq, Repr

/-- `CodecInfo`. `codecParam` is a `std::map`, in the order of its keys, and `channels`
belongs to the audio codecs. -/
structure CodecInfo where
  id : Nat
  name : Bytes
  clockrate : Nat
  channels : Nat := 0
  feedbackParam : List FeedbackParam := []
  codecParam : List (Bytes × Bytes) := []
  deriving DecidableEq, Repr

/-- `SsrcGroup`. -/
structure SsrcGroup where
  semantics : Bytes
  ssrcs : List UInt32
  deriving DecidableEq, Repr

/-- `StreamParams`. -/
structure StreamParams where
  id : Bytes := []
  ssrcs : List UInt32 := []
  ssrcGroups : List SsrcGroup := []
  cname : Bytes := []
  streamId : Bytes := []
  deriving DecidableEq, Repr

/-- `StreamParams::has_ssrc`. -/
def StreamParams.hasSsrc (t : StreamParams) (ssrc : UInt32) : Bool := t.ssrcs.contains ssrc

/-- `Candidate`, the fields of an `a=candidate` line. -/
structure Candidate where
  foundation : Bytes
  component : Nat
  protocol : Bytes
  priority : UInt32
  address : IPAddress
  port : Nat
  type : Bytes
  deriving DecidableEq, Repr

/-! ### Sections -/

/-- `MediaContentDescription`. The constructors leave the direction open. -/
structure MediaContentDescription where
  type : MediaType
  codecs : List CodecInfo
  direction : RtpDirection := .sendRecv
  rtcpMux : Bool := true
  candidates : List Candidate := []
  sendStreams : List StreamParams := []
  deriving DecidableEq, Repr

/-- The name of the section of a media type. -/
def MediaType.mid : MediaType → Bytes
  | .audio => ascii "audio"
  | .video => ascii "video"

/-- `mid`. -/
def MediaContentDescription.mid (c : MediaContentDescription) : Bytes := c.type.mid

/-- `add_candidates`, of the section that `get_content` finds. -/
def addCandidates (mid : Bytes) (candidates : List Candidate) :
    List MediaContentDescription → List MediaContentDescription
  | [] => []
  | content :: contents =>
      if mid = content.mid then { content with candidates } :: contents
      else content :: addCandidates mid candidates contents

/-- The codec of `AudioContentDescription`. -/
def opusCodec : CodecInfo where
  id := 111
  name := ascii "opus"
  clockrate := 48000
  channels := 2
  feedbackParam := [{ id := ascii "transport-cc" }]
  codecParam := [(ascii "minptime", ascii "10"), (ascii "useinbandfec", ascii "1")]

/-- The first codec of `VideoContentDescription`. -/
def h264Codec : CodecInfo where
  id := 107
  name := ascii "H264"
  clockrate := 90000
  feedbackParam :=
    [{ id := ascii "goog-remb" }, { id := ascii "transport-cc" },
      { id := ascii "ccm", param := ascii "fir" }, { id := ascii "nack" },
      { id := ascii "nack", param := ascii "pli" }]
  codecParam :=
    [(ascii "level-asymmetry-allowed", ascii "1"), (ascii "packetization-mode", ascii "1"),
      (ascii "profile-level-id", ascii "42e01f")]

/-- The codec of the retransmissions. -/
def rtxCodec : CodecInfo where
  id := 99
  name := ascii "rtx"
  clockrate := 90000
  codecParam := [(ascii "apt", ascii "107")]

/-- `AudioContentDescription::AudioContentDescription`. -/
def audioContentDescription : MediaContentDescription where
  type := .audio
  codecs := [opusCodec]

/-- `VideoContentDescription::VideoContentDescription`. -/
def videoContentDescription : MediaContentDescription where
  type := .video
  codecs := [h264Codec, rtxCodec]

/-! ### Groups and transports -/

/-- `ContentGroup`. -/
structure ContentGroup where
  semantics : Bytes
  contentNames : List Bytes := []
  deriving DecidableEq, Repr

/-- `ContentGroup::add_content_name`. -/
def ContentGroup.addContentName (g : ContentGroup) (name : Bytes) : ContentGroup :=
  if g.contentNames.contains name then g else { g with contentNames := g.contentNames ++ [name] }

/-- `rtc::SSLFingerprint`. -/
structure SSLFingerprint where
  algorithm : Bytes
  digest : Bytes
  deriving DecidableEq, Repr

/-- `TransportDescription`. -/
structure TransportDescription where
  mid : Bytes := []
  iceUfrag : Bytes := []
  icePwd : Bytes := []
  identityFingerprint : Option SSLFingerprint := none
  connectionRole : ConnectionRole := .none
  deriving DecidableEq, Repr

/-! ### The description -/

/-- `SessionDescription`. -/
structure SessionDescription where
  sdpType : SdpType
  contents : List MediaContentDescription := []
  contentGroups : List ContentGroup := []
  transportInfos : List TransportDescription := []
  deriving DecidableEq, Repr

namespace SessionDescription

/-- `get_content`. -/
def getContent (d : SessionDescription) (mid : Bytes) : Option MediaContentDescription :=
  d.contents.find? fun c => mid = c.mid

/-- `add_content`. -/
def addContent (d : SessionDescription) (c : MediaContentDescription) : SessionDescription :=
  { d with contents := d.contents ++ [c] }

/-- `add_group`. -/
def addGroup (d : SessionDescription) (g : ContentGroup) : SessionDescription :=
  { d with contentGroups := d.contentGroups ++ [g] }

/-- `get_group_by_name`. -/
def getGroupByName (d : SessionDescription) (name : Bytes) : List ContentGroup :=
  d.contentGroups.filter fun g => g.semantics = name

/-- `add_transport_info`, of a description that is there already. -/
def addTransportInfo (d : SessionDescription) (td : TransportDescription) : SessionDescription :=
  { d with transportInfos := d.transportInfos ++ [td] }

/-- `get_transport_info`. -/
def getTransportInfo (d : SessionDescription) (mid : Bytes) : Option TransportDescription :=
  d.transportInfos.find? fun td => td.mid = mid

/-- `is_bundle`. -/
def isBundle (d : SessionDescription) (mid : Bytes) : Bool :=
  (d.getGroupByName (ascii "BUNDLE")).any fun g => g.contentNames.contains mid

/-- `get_first_bundle_mid`. Every group that is added to a description has a name. -/
def getFirstBundleMid (d : SessionDescription) : Bytes :=
  match d.getGroupByName (ascii "BUNDLE") with
  | [] => []
  | g :: _ => g.contentNames.headD []

/-- The sections that have a transport of their own, in the order of the loops of
`TransportController`: a section of a bundle uses the transport of the first one. -/
def transportSections (d : SessionDescription) : List MediaContentDescription :=
  d.contents.filter fun c => !(d.isBundle c.mid && c.mid != d.getFirstBundleMid)

end SessionDescription

end Xrtc.Pc
