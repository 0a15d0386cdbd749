import Xrtc.Pc.SdpText
import Xrtc.Pc.TransportController

/-!
# `Xrtc.Pc.PeerConnection`: offers, and answers that are parsed

The model of `create_offer` and `set_remote_sdp` of `rtcserver/src/pc/peer_connection.cpp`.

`set_remote_sdp` goes through the lines of the text and keeps what it has found in local
objects (`RemoteSdp`). The two sections are objects that the new description shares as soon
as an `m=` line has named them. A line that cannot be parsed ends the call with the
description as it is then (`Failure.rejected`), and a `substr` behind the end of a string
throws an exception that nothing catches (`Failure.outOfRange`).
-/

set_option autoImplicit false

namespace Xrtc.Pc

open Xrtc.Base
open Xrtc.Lib
open Xrtc.Ice (ascii colon split IceParameters)

/-- `PeerConnection`, its descriptions and its transports. The `certificate` is the
fingerprint that `SSLFingerprint::CreateFromCertificate` makes of the certificate. -/
structure PeerConnection where
  certificate : Option (Option SSLFingerprint) := none
  localDesc : Option SessionDescription := none
  remoteDesc : Option SessionDescription := none
  audioSource : List StreamParams := []
  videoSource : List StreamParams := []
  transportController : TransportController := {}

/-! ### `create_offer` -/

/-- `RTCOfferAnswerOptions`. -/
structure RTCOfferAnswerOptions where
  sendAudio : Bool := true
  sendVideo : Bool := true
  recvAudio : Bool := true
  recvVideo : Bool := true
  useRtpMux : Bool := true
  useRtcpMux : Bool := true
  dtlsOn : Bool := true
  deriving DecidableEq, Repr

/-- `get_direction`. -/
def getDirection (send recv : Bool) : RtpDirection :=
  match send, recv with
  | true, true => .sendRecv
  | true, false => .sendOnly
  | false, true => .recvOnly
  | false, false => .inactive

/-- `add_transport_info`, of a section of an offer. Without a fingerprint of the
certificate it adds nothing. -/
def SessionDescription.addOfferTransportInfo (d : SessionDescription) (mid : Bytes)
    (iceParam : IceParameters) (certificate : Option (Option SSLFingerprint)) :
    SessionDescription :=
  let tdesc : TransportDescription :=
    { mid, iceUfrag := iceParam.iceUfrag, icePwd := iceParam.icePwd, connectionRole := .actpass }
  match certificate with
  | none => d.addTransportInfo tdesc
  | some none => d
  | some fingerprint => d.addTransportInfo { tdesc with identityFingerprint := fingerprint }

namespace PeerConnection

/-- A section of an offer, with its transport. -/
def addOfferContent (pc : PeerConnection) (options : RTCOfferAnswerOptions)
    (iceParam : IceParameters) (content : MediaContentDescription) (send recv : Bool)
    (source : List StreamParams) (d : SessionDescription) : SessionDescription :=
  if recv || send then
    let content :=
      { content with
          direction := getDirection send recv
          rtcpMux := options.useRtcpMux
          sendStreams := if send then source else [] }
    (d.addContent content).addOfferTransportInfo content.mid iceParam pc.certificate
  else d

/-- The description of an offer. -/
def offerDescription (pc : PeerConnection) (options : RTCOfferAnswerOptions)
    (iceParam : IceParameters) : SessionDescription :=
  let d : SessionDescription := { sdpType := .offer }
  let d := pc.addOfferContent options iceParam audioContentDescription options.sendAudio
    options.recvAudio pc.audioSource d
  let d := pc.addOfferContent options iceParam videoContentDescription options.sendVideo
    options.recvVideo pc.videoSource d
  if options.useRtpMux then
    let offerBundle := d.contents.foldl
      (fun (g : ContentGroup) content => g.addContentName content.mid) ⟨ascii "BUNDLE", []⟩
    if offerBundle.contentNames ≠ [] then d.addGroup offerBundle else d
  else d

/-- `_on_candidate_allocate_done`, for the transports of a description: each of them gets
the candidates that were gathered for it. -/
def onCandidatesAllocated (allocated : Bytes → List Candidate) (names : List Bytes)
    (d : SessionDescription) : SessionDescription :=
  { d with
      contents := names.foldl (fun contents mid => addCandidates mid (allocated mid) contents)
        d.contents }

/-- `create_offer`, with the credentials it draws and the candidates that are gathered. They
are there before the description is printed. -/
def createOffer (ntop6 : Vector UInt8 16 → Bytes) (allocated : Bytes → List Candidate)
    (pc : PeerConnection) (options : RTCOfferAnswerOptions) (iceParam : IceParameters) :
    Bytes × PeerConnection :=
  if options.dtlsOn && pc.certificate.isNone then ([], pc)
  else
    let localDesc := pc.offerDescription options iceParam
    let transportController := pc.transportController.setLocalDescription localDesc
    let localDesc := onCandidatesAllocated allocated transportController.names localDesc
    (localDesc.toString ntop6,
      { pc with localDesc := some localDesc, transportController })

end PeerConnection

/-! ### Lines of an answer -/

/-- How a line ends the parsing. -/
inductive Failure where
  | rejected
  | outOfRange
  deriving DecidableEq, Repr

/-- `SsrcInfo`. -/
structure SsrcInfo where
  ssrcId : UInt32
  cname : Bytes := []
  streamId : Bytes := []
  trackId : Bytes := []
  deriving DecidableEq, Repr

/-- `get_attribute`, empty if the line is not of the form `name:value`. -/
def getAttribute (line : Bytes) : Bytes :=
  match tokenize colon [] line with
  | [_, value] => value
  | _ => []

/-- `SSLFingerprint::CreateUniqueFromRfc4572`. -/
def SSLFingerprint.createUniqueFromRfc4572 (algorithm fingerprint : Bytes) :
    Option SSLFingerprint :=
  if ¬ isFips180DigestAlgorithm algorithm ∨ fingerprint = [] then none
  else (hexDecodeWithDelimiter kMaxSize fingerprint colon).map fun digest => ⟨algorithm, digest⟩

/-- A value that must be there. -/
def orElse {α : Type} (failure : Failure) : Option α → Except Failure α
  | none => .error failure
  | some a => .ok a

/-- A value that must not be empty. -/
def nonEmpty (value : Bytes) : Except Failure Bytes :=
  if value = [] then .error .rejected else .ok value

/-- `parse_transport_info`. -/
def parseTransportInfo (td : TransportDescription) (line : Bytes) :
    Except Failure TransportDescription :=
  if contains (ascii "a=ice-ufrag") line then do
    let iceUfrag ← nonEmpty (getAttribute line)
    return { td with iceUfrag }
  else if contains (ascii "a=ice-pwd") line then do
    let icePwd ← nonEmpty (getAttribute line)
    return { td with icePwd }
  else if contains (ascii "a=fingerprint") line then
    match tokenize space [] line with
    | [item, content] => do
        let alg ← orElse .outOfRange (substr item 14)
        let fingerprint ← orElse .rejected
          (SSLFingerprint.createUniqueFromRfc4572 (alg.map toLower) content)
        return { td with identityFingerprint := some fingerprint }
    | _ => .error .rejected
  else .ok td

/-- What a line says about an ssrc. -/
inductive SsrcAttribute where
  | cname (value : Bytes)
  | msid (streamId : Bytes) (trackId : Option Bytes)
  | other
  deriving DecidableEq, Repr

/-- The ssrc of a line of `parse_ssrc_info`, and the rest of the line. -/
def parseSsrcId (line : Bytes) : Except Failure (UInt32 × Bytes) := do
  let (field1, field2) ← orElse .rejected (tokenizeFirst space (line.drop 2))
  let ssrcIdS ← orElse .outOfRange (substr field1 5)
  let ssrcId ← orElse .rejected (fromString ssrcIdS)
  return (ssrcId, field2)

/-- The fields of `msid`, of which there are one or two. -/
def parseMsid (value : Bytes) : Except Failure SsrcAttribute :=
  match split space [] value with
  | [streamId] => .ok (.msid streamId none)
  | [streamId, trackId] => .ok (.msid streamId (some trackId))
  | _ => .error .rejected

/-- The attribute of a line of `parse_ssrc_info`. -/
def parseSsrcAttribute (attr value : Bytes) : Except Failure SsrcAttribute :=
  if attr = ascii "cname" then .ok (.cname value)
  else if attr = ascii "msid" then parseMsid value
  else .ok .other

/-- The attribute is kept with the ssrc. -/
def SsrcInfo.set (info : SsrcInfo) : SsrcAttribute → SsrcInfo
  | .cname value => { info with cname := value }
  | .msid streamId trackId => { info with streamId, trackId := trackId.getD info.trackId }
  | .other => info

/-- The first entry of an ssrc is changed, or one is added behind the others. -/
def setSsrcInfo (ssrcId : UInt32) (attr : SsrcAttribute) : List SsrcInfo → List SsrcInfo
  | [] => [({ ssrcId } : SsrcInfo).set attr]
  | info :: infos =>
      if info.ssrcId = ssrcId then info.set attr :: infos
      else info :: setSsrcInfo ssrcId attr infos

/-- `parse_ssrc_info`. -/
def parseSsrcInfo (ssrcInfo : List SsrcInfo) (line : Bytes) : Except Failure (List SsrcInfo) :=
  if contains (ascii "a=ssrc:") line then do
    let (ssrcId, field2) ← parseSsrcId line
    let (attr, value) ← orElse .rejected (tokenizeFirst colon field2)
    let attr ← parseSsrcAttribute attr value
    return setSsrcInfo ssrcId attr ssrcInfo
  else .ok ssrcInfo

/-- The group of a line of `parse_ssrc_group_info`. -/
def parseSsrcGroup (line : Bytes) : Option SsrcGroup :=
  match split space [] (line.drop 2) with
  | name :: ssrc :: ssrcs => do
      let semantics := getAttribute name
      let ssrcs ← (ssrc :: ssrcs).mapM fromString
      if semantics = [] then none else return { semantics, ssrcs }
  | _ => none

/-- `parse_ssrc_group_info`. -/
def parseSsrcGroupInfo (ssrcGroups : List SsrcGroup) (line : Bytes) :
    Except Failure (List SsrcGroup) :=
  if contains (ascii "a=ssrc-group:") line then do
    let group ← orElse .rejected (parseSsrcGroup line)
    return ssrcGroups ++ [group]
  else .ok ssrcGroups

/-! ### Tracks -/

/-- The loop body of `create_track_from_ssrc_info`: an ssrc joins the first track with its
track id, or a new one behind the others. -/
def addToTrack (info : SsrcInfo) : List StreamParams → List StreamParams
  | [] =>
      [{ id := info.trackId, cname := info.cname, streamId := info.streamId,
         ssrcs := [info.ssrcId] }]
  | track :: tracks =>
      if track.id = info.trackId then
        { track with
            cname := info.cname
            streamId := info.streamId
            ssrcs := track.ssrcs ++ [info.ssrcId] } :: tracks
      else track :: addToTrack info tracks

/-- `create_track_from_ssrc_info`. -/
def createTrackFromSsrcInfo (ssrcInfos : List SsrcInfo) : List StreamParams :=
  ssrcInfos.foldl (fun tracks info => addToTrack info tracks) []

/-- The groups go to the tracks that have their first ssrc. -/
def addSsrcGroup (tracks : List StreamParams) (group : SsrcGroup) : List StreamParams :=
  match group.ssrcs with
  | [] => tracks
  | ssrc :: _ =>
      tracks.map fun track =>
        if track.hasSsrc ssrc then { track with ssrcGroups := track.ssrcGroups ++ [group] }
        else track

/-! ### `set_remote_sdp` -/

/-- The local objects of a section. -/
structure RemoteSection where
  td : TransportDescription := {}
  ssrcInfo : List SsrcInfo := []
  ssrcGroups : List SsrcGroup := []
  deriving DecidableEq, Repr

/-- The local objects of `set_remote_sdp`, and what it has put into the description. A
content of the description is one of the two sections. -/
structure RemoteSdp where
  contents : List MediaType := []
  contentGroups : List ContentGroup := []
  mediaType : Bytes := []
  audio : RemoteSection := {}
  video : RemoteSection := {}
  deriving DecidableEq, Repr

namespace RemoteSection

/-- The calls for a line in a section. Ssrc groups are those of the video section. -/
def parseLine (type : MediaType) (s : RemoteSection) (line : Bytes) :
    Except Failure RemoteSection := do
  let td ← parseTransportInfo s.td line
  let ssrcGroups ←
    if type = .video then parseSsrcGroupInfo s.ssrcGroups line else .ok s.ssrcGroups
  let ssrcInfo ← parseSsrcInfo s.ssrcInfo line
  return { td, ssrcInfo, ssrcGroups }

/-- The tracks of a section. -/
def tracks (s : RemoteSection) : List StreamParams :=
  s.ssrcGroups.foldl addSsrcGroup (createTrackFromSsrcInfo s.ssrcInfo)

end RemoteSection

namespace RemoteSdp

/-- A section that an `m=` line names. -/
def enter (s : RemoteSdp) (mediaType : Bytes) : RemoteSdp :=
  let s := { s with mediaType }
  if ascii "audio" = mediaType then
    { s with
        contents := s.contents ++ [.audio]
        audio := { s.audio with td := { s.audio.td with mid := ascii "audio" } } }
  else if ascii "video" = mediaType then
    { s with
        contents := s.contents ++ [.video]
        video := { s.video with td := { s.video.td with mid := ascii "video" } } }
  else s

/-- The first part of the loop body: groups and sections. -/
def parseMediaLine (s : RemoteSdp) (field : Bytes) : Except Failure RemoteSdp :=
  if contains (ascii "m=group:BUNDLE") field then
    match split space [] field with
    | _ :: name :: names =>
        let answerBundle := (name :: names).foldl ContentGroup.addContentName ⟨ascii "BUNDLE", []⟩
        .ok { s with contentGroups := s.contentGroups ++ [answerBundle] }
    | _ => .ok s
  else if contains (ascii "m=") field then
    match split space [] field with
    | item :: _ :: _ :: _ => do
        let mediaType ← orElse .outOfRange (substr item 2)
        return s.enter mediaType
    | _ => .error .rejected
  else .ok s

/-- The second part of the loop body: the line in the current section. -/
def parseSectionLine (s : RemoteSdp) (field : Bytes) : Except Failure RemoteSdp :=
  if ascii "audio" = s.mediaType then do
    let audio ← s.audio.parseLine .audio field
    return { s with audio }
  else if ascii "video" = s.mediaType then do
    let video ← s.video.parseLine .video field
    return { s with video }
  else .ok s

/-- The loop. When it ends early, the local objects are those at that moment. -/
def parseLines (s : RemoteSdp) : List Bytes → Except (Failure × RemoteSdp) RemoteSdp
  | [] => .ok s
  | field :: fields => do
      let s ← (s.parseMediaLine field).mapError (·, s)
      let s ← (s.parseSectionLine field).mapError (·, s)
      parseLines s fields

/-- The description while the lines are parsed: the sections have no streams yet. -/
def partialDescription (s : RemoteSdp) : SessionDescription where
  sdpType := .answer
  contents := s.contents.map fun
    | .audio => audioContentDescription
    | .video => videoContentDescription
  contentGroups := s.contentGroups

/-- The description after the last line. -/
def description (s : RemoteSdp) : SessionDescription where
  sdpType := .answer
  contents := s.contents.map fun
    | .audio => { audioContentDescription with sendStreams := s.audio.tracks }
    | .video => { videoContentDescription with sendStreams := s.video.tracks }
  contentGroups := s.contentGroups
  transportInfos := [s.audio.td, s.video.td]

end RemoteSdp

/-- The lines of a text. If there is a CRLF anywhere then every line loses its last
character. -/
def sdpFields (sdp : Bytes) : List Bytes :=
  let fields := tokenize lf [] sdp
  if contains [cr, lf] sdp then fields.map List.dropLast else fields

/-- How `set_remote_sdp` ends: it returns, an exception leaves it, or
`TransportController::set_remote_description` dereferences a null pointer. -/
inductive SetRemoteSdp where
  | returns (ret : Int) (pc : PeerConnection)
  | outOfRange
  | nullPointer

/-- `set_remote_sdp`. -/
def PeerConnection.setRemoteSdp (ssl : SslAdapter) (pc : PeerConnection) (sdp : Bytes) :
    SetRemoteSdp :=
  if sdpFields sdp = [] then .returns (-1) pc
  else
    match RemoteSdp.parseLines {} (sdpFields sdp) with
    | .error (.outOfRange, _) => .outOfRange
    | .error (.rejected, s) => .returns (-1) { pc with remoteDesc := some s.partialDescription }
    | .ok s =>
        match pc.transportController.setRemoteDescription ssl s.description with
        | none => .nullPointer
        | some transportController =>
            .returns 0 { pc with remoteDesc := some s.description, transportController }

end Xrtc.Pc
