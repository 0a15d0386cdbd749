import Xrtc.Pc.PeerConnection
import Xrtc.Sdk.SessionDescription
import Xrtc.Sdk.VideoSender

/-!
# `Xrtc.Sdk.Signaling`: offers that are parsed, and answers

The model of `SetRemoteSDP` and `CreateAnswer` of `xrtcsdk/xrtc/rtc/pc/peer_connection.cpp`.

As in the server, the lines of an offer are read one after the other into local objects
(`RemoteOffer`), of which the sections belong to the description as soon as their `m=` line
has been read. Candidates are added to the sections at once. A text that cannot be parsed
leaves the description as it is then.
-/

set_option autoImplicit false

namespace Xrtc.Sdk

open Xrtc.Base
open Xrtc.Lib
open Xrtc.Ice (ascii IceParameters)
open Xrtc.Pc (MediaType ContentGroup StreamParams Failure getAttribute sdpFields getDirection)

/-! ### Numbers -/

/-- `isspace`. -/
def isSpace (b : UInt8) : Bool := b = 0x20 || (0x09 ≤ b && b ≤ 0x0d)

/-- `INT_MAX`. -/
def intMax : Int := 2 ^ 31 - 1

/-- `std::atoi`. A number that is no `int` is taken to the next one. -/
def atoi (str : Bytes) : Int :=
  let str := (cStr str).dropWhile isSpace
  let negative := str.head? = some minus
  let digits := if negative ∨ str.head? = some 0x2b then str.drop 1 else str
  let value : Int := ofDigits (digits.takeWhile isDigit)
  if negative then max (-value) (-intMax - 1) else min value intMax

/-! ### Lines of an offer -/

section Lines

variable (pton6 : Bytes → Option (Vector UInt8 16))

/-- `ParseCandidates`, the candidates that it adds. -/
def parseCandidates (line : Bytes) : Option (List Candidate) :=
  if contains (ascii "a=candidate:") line then
    let attrValue := getAttribute line
    if attrValue = [] then none
    else
      match tokenize space [] attrValue with
      | foundation :: component :: protocol :: priority :: ip :: port :: _ :: type :: _ =>
          some
            [{ foundation
               component := atoi component
               protocol
               priority := UInt32.ofInt (atoi priority)
               port := atoi port
               address := .ofHostname pton6 ip (atoi port)
               type }]
      | _ => none
  else some []

/-- `ParseTransportInfo`. -/
def parseTransportInfo (td : TransportDescription) (line : Bytes) : Option TransportDescription :=
  if contains (ascii "a=ice-ufrag") line then
    let iceUfrag := getAttribute line
    if iceUfrag = [] then none else some { td with iceUfrag }
  else if contains (ascii "a=ice-pwd") line then
    let icePwd := getAttribute line
    if icePwd = [] then none else some { td with icePwd }
  else some td

/-- The local objects of a section. -/
structure OfferSection where
  td : TransportDescription := {}
  candidates : List Candidate := []
  deriving DecidableEq, Repr

/-- The calls for a line in a section, and whether they succeed. -/
def OfferSection.parseLine (s : OfferSection) (line : Bytes) : OfferSection × Bool :=
  match parseCandidates pton6 line with
  | none => (s, false)
  | some candidates =>
      let s := { s with candidates := s.candidates ++ candidates }
      match parseTransportInfo s.td line with
      | none => (s, false)
      | some td => ({ s with td }, true)

end Lines

/-! ### `SetRemoteSDP` -/

/-- The local objects of `SetRemoteSDP`, and what it has put into the description. -/
structure RemoteOffer where
  contents : List MediaType := []
  contentGroups : List ContentGroup := []
  mid : Bytes := []
  audio : OfferSection := {}
  video : OfferSection := {}
  deriving DecidableEq, Repr

namespace RemoteOffer

/-- A section that an `m=` line names. -/
def enter (s : RemoteOffer) (mid : Bytes) : RemoteOffer :=
  let s := { s with mid }
  if mid = ascii "audio" then
    { s with
        contents := s.contents ++ [.audio]
        audio := { s.audio with td := { s.audio.td with mid } } }
  else if mid = ascii "video" then
    { s with
        contents := s.contents ++ [.video]
        video := { s.video with td := { s.video.td with mid } } }
  else s

/-- The first part of the loop body: groups and sections. `find_first_of("m=")` looks for
either of the two characters. -/
def parseMediaLine (s : RemoteOffer) (field : Bytes) : Except Failure RemoteOffer :=
  if contains (ascii "a=group:BUNDLE") field then
    match tokenize space [] field with
    | _ :: name :: names =>
        let offerBundle := (name :: names).foldl ContentGroup.addContentName ⟨ascii "BUNDLE", []⟩
        .ok { s with contentGroups := s.contentGroups ++ [offerBundle] }
    | _ => .ok s
  else if ∃ b ∈ field.head?, b ∈ ascii "m=" then
    match tokenize space [] field with
    | item :: _ :: _ :: _ =>
        match substr item 2 with
        | none => .error .outOfRange
        | some mid => .ok (s.enter mid)
    | _ => .error .rejected
  else .ok s

variable (pton6 : Bytes → Option (Vector UInt8 16))

/-- The second part of the loop body: the line in the current section, and whether it can be
parsed there. -/
def parseSectionLine (s : RemoteOffer) (field : Bytes) : RemoteOffer × Bool :=
  if ascii "audio" = s.mid then
    let (audio, ok) := s.audio.parseLine pton6 field
    ({ s with audio }, ok)
  else if ascii "video" = s.mid then
    let (video, ok) := s.video.parseLine pton6 field
    ({ s with video }, ok)
  else (s, true)

/-- The loop. When it ends early, the local objects are those at that moment. -/
def parseLines (s : RemoteOffer) : List Bytes → Except (Failure × RemoteOffer) RemoteOffer
  | [] => .ok s
  | field :: fields =>
      match s.parseMediaLine field with
      | .error failure => .error (failure, s)
      | .ok s =>
          match s.parseSectionLine pton6 field with
          | (s, false) => .error (.rejected, s)
          | (s, true) => parseLines s fields

/-- The description while the lines are parsed. -/
def partialDescription (s : RemoteOffer) : SessionDescription where
  sdpType := .offer
  contents := s.contents.map fun
    | .audio => { audioContentDescription with candidates := s.audio.candidates }
    | .video => { videoContentDescription with candidates := s.video.candidates }
  contentGroups := s.contentGroups

/-- The description after the last line. -/
def description (s : RemoteOffer) : SessionDescription :=
  { s.partialDescription with transportInfos := [s.audio.td, s.video.td] }

end RemoteOffer

/-- `PeerConnection`, with its descriptions. -/
structure Signaling extends PeerConnection where
  localDesc : Option SessionDescription := none
  remoteDesc : Option SessionDescription := none

/-- How `SetRemoteSDP` ends: it returns, or an exception leaves it. -/
inductive SetRemoteSDP where
  | returns (ret : Int) (pc : Signaling)
  | outOfRange

namespace Signaling

/-- `SetRemoteSDP`. -/
def setRemoteSDP (pton6 : Bytes → Option (Vector UInt8 16)) (pc : Signaling) (sdp : Bytes) :
    SetRemoteSDP :=
  if sdpFields sdp = [] then .returns (-1) pc
  else
    match RemoteOffer.parseLines pton6 {} (sdpFields sdp) with
    | .error (.outOfRange, _) => .outOfRange
    | .error (.rejected, s) => .returns (-1) { pc with remoteDesc := some s.partialDescription }
    | .ok s =>
        let videoCodecs := videoContentDescription.codecs.map fun codec => UInt8.ofNat codec.id
        .returns 0
          { pc with
              toPeerConnection := pc.toPeerConnection.setVideoCodecs videoCodecs
              remoteDesc := some s.description }

end Signaling

/-! ### `CreateAnswer` -/

/-- `RTCOfferAnswerOptions`. -/
structure RTCOfferAnswerOptions where
  sendAudio : Bool := true
  sendVideo : Bool := true
  recvAudio : Bool := true
  recvVideo : Bool := true
  useRtpMux : Bool := true
  useRtcpMux : Bool := true
  deriving DecidableEq, Repr

/-- The values that `CreateAnswer` draws. -/
structure AnswerRandom where
  iceParam : IceParameters
  cname : Bytes
  audioId : Bytes
  audioSsrc : UInt32
  videoId : Bytes
  videoSsrc : UInt32
  videoRtxSsrc : UInt32

/-- The stream of the audio section. -/
def audioStream (streamId : Bytes) (random : AnswerRandom) : StreamParams where
  id := random.audioId
  streamId := streamId
  cname := random.cname
  ssrcs := [random.audioSsrc]

/-- The streams of the video section: that of the video, and that of the retransmissions. -/
def videoStreams (streamId : Bytes) (random : AnswerRandom) : List StreamParams :=
  [{ id := random.videoId
     streamId := streamId
     cname := random.cname
     ssrcs := [random.videoSsrc, random.videoRtxSsrc]
     ssrcGroups := [⟨ascii "FID", [random.videoSsrc, random.videoRtxSsrc]⟩] },
    { id := random.videoId
      streamId := streamId
      cname := random.cname
      ssrcs := [random.videoRtxSsrc] }]

/-- A section of an answer, with its transport. -/
def addAnswerContent (options : RTCOfferAnswerOptions) (iceParam : IceParameters)
    (content : MediaContentDescription) (send recv : Bool) (streams : List StreamParams)
    (d : SessionDescription) : SessionDescription :=
  if send || recv then
    let content :=
      { content with
          direction := getDirection send recv
          rtcpMux := options.useRtcpMux
          sendStreams := if send then streams else [] }
    (d.addContent content).addTransportInfo content.mid iceParam
  else d

/-- The description of an answer. -/
def answerDescription (options : RTCOfferAnswerOptions) (streamId : Bytes) (random : AnswerRandom) :
    SessionDescription :=
  let d : SessionDescription := { sdpType := .answer }
  let d := addAnswerContent options random.iceParam audioContentDescription options.sendAudio
    options.recvAudio [audioStream streamId random] d
  let d := addAnswerContent options random.iceParam videoContentDescription options.sendVideo
    options.recvVideo (videoStreams streamId random) d
  if options.useRtpMux then
    let answerBundle := d.contents.foldl
      (fun (g : ContentGroup) content => g.addContentName content.mid) ⟨ascii "BUNDLE", []⟩
    if answerBundle.contentNames ≠ [] then d.addGroup answerBundle else d
  else d

/-- `CreateAnswer`. -/
def Signaling.createAnswer (pc : Signaling) (options : RTCOfferAnswerOptions) (streamId : Bytes)
    (random : AnswerRandom) : Bytes × Signaling :=
  let localDesc := answerDescription options streamId random
  (localDesc.toString,
    { pc with
        toPeerConnection :=
          if options.sendVideo then
            pc.toPeerConnection.createVideoAnswer random.videoSsrc random.videoRtxSsrc
          else pc.toPeerConnection
        localDesc := some localDesc })

end Xrtc.Sdk
