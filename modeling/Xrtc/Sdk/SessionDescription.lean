import Xrtc.Pc.SdpText

/-!
# `Xrtc.Sdk.SessionDescription`: descriptions on the other side

The model of `xrtcsdk/xrtc/rtc/pc/session_description.{h,cpp}`. What the SDK has in the same
form as the server is taken from `Xrtc.Pc`: the codecs of the two sections, streams and
groups, and the functions that print them (`AddRtcpFbLine`, `AddFmtpLine`, `BuildRtpMap`,
`GetDirection`). Transports have no fingerprint here, candidates are those of remote sections,
and of several BUNDLE groups only the first counts.

The address of a candidate is a text. That of an IPv6 address is read by `inet_pton`
(`pton6`), and an IPv4 address as in `rtc_base/win32.cc`.
-/

set_option autoImplicit false

namespace Xrtc.Sdk

open Xrtc.Base
open Xrtc.Lib
open Xrtc.Ice (ascii IPAddress IceParameters)
open Xrtc.Pc (MediaType SdpType RtpDirection CodecInfo StreamParams ContentGroup opusCodec h264Codec
  rtxCodec mediaLine rtpDirectionLine rtpMapLines ssrcLine ssrcGroupLine printLines)

/-! ### Addresses -/

/-- The loop of `inet_pton_v4`: a number, and one more behind a dot. -/
def inetPtonV4Loop (found : List UInt8) : Bytes → Option (List UInt8)
  | [] => some found
  | b :: src =>
      if ¬ isDigit b then none
      else
        let value := ofDigits ((b :: src).takeWhile isDigit)
        let rest := (b :: src).dropWhile isDigit
        if 255 < value ∨ found.length = 4 then none
        else if rest = [] then some (found ++ [UInt8.ofNat value])
        else if rest.head? = some 0x2e then
          inetPtonV4Loop (found ++ [UInt8.ofNat value]) (rest.drop 1)
        else none
  termination_by src => src.length
  decreasing_by
    have hlen := (List.dropWhile_sublist (l := b :: src) isDigit).length_le
    simp only [List.length_cons, List.length_drop] at hlen ⊢
    omega

/-- `inet_pton_v4`. -/
def inetPtonV4 (src : Bytes) : Option UInt32 :=
  match inetPtonV4Loop [] src with
  | some [a, b, c, d] =>
      some (UInt32.ofNat (a.toNat * 256 ^ 3 + b.toNat * 256 ^ 2 + c.toNat * 256 + d.toNat))
  | _ => none

/-- `rtc::IPFromString`. -/
def ipFromString (pton6 : Bytes → Option (Vector UInt8 16)) (str : Bytes) : Option IPAddress :=
  match inetPtonV4 (cStr str) with
  | some addr => some (.v4 addr)
  | none => (pton6 (cStr str)).map .v6

/-- `rtc::SocketAddress`. -/
structure SocketAddress where
  hostname : Bytes
  literal : Bool
  ip : IPAddress
  port : UInt16
  deriving DecidableEq, Repr

/-- `SocketAddress::SocketAddress(hostname, port)`. -/
def SocketAddress.ofHostname (pton6 : Bytes → Option (Vector UInt8 16)) (hostname : Bytes)
    (port : Int) : SocketAddress :=
  match ipFromString pton6 hostname with
  | some ip => { hostname, literal := true, ip, port := UInt16.ofInt port }
  | none => { hostname, literal := false, ip := .unspec, port := UInt16.ofInt port }

/-! ### Sections -/

/-- `ice::Candidate`, the fields of an `a=candidate` line. -/
structure Candidate where
  foundation : Bytes
  component : Int
  protocol : Bytes
  priority : UInt32
  port : Int
  address : SocketAddress
  type : Bytes
  deriving DecidableEq, Repr

/-- `TransportDescription`. -/
structure TransportDescription where
  mid : Bytes := []
  iceUfrag : Bytes := []
  icePwd : Bytes := []
  deriving DecidableEq, Repr

/-- `MediaContentDescription`. -/
structure MediaContentDescription where
  type : MediaType
  codecs : List CodecInfo
  candidates : List Candidate := []
  direction : RtpDirection := .inactive
  rtcpMux : Bool := true
  sendStreams : List StreamParams := []
  deriving DecidableEq, Repr

/-- `mid`. -/
def MediaContentDescription.mid (c : MediaContentDescription) : Bytes := c.type.mid

/-- `AudioContentDescription::AudioContentDescription`. -/
def audioContentDescription : MediaContentDescription where
  type := .audio
  codecs := [opusCodec]

/-- `VideoContentDescription::VideoContentDescription`. -/
def videoContentDescription : MediaContentDescription where
  type := .video
  codecs := [h264Codec, rtxCodec]

/-! ### The description -/

/-- `SessionDescription`. -/
structure SessionDescription where
  sdpType : SdpType
  contents : List MediaContentDescription := []
  contentGroups : List ContentGroup := []
  transportInfos : List TransportDescription := []
  deriving DecidableEq, Repr

/-- `BuildSsrc`. -/
def ssrcLines (streams : List StreamParams) : List Bytes :=
  streams.flatMap fun stream =>
    ((stream.ssrcGroups.filter fun g => g.ssrcs ≠ []).map fun g =>
        ssrcGroupLine (ascii "FID") g.ssrcs) ++
      stream.ssrcs.flatMap fun ssrc =>
        [ssrcLine ssrc (ascii "cname") stream.cname,
          ssrcLine ssrc (ascii "msid") (stream.streamId ++ ascii " " ++ stream.id)]

namespace SessionDescription

/-- `AddContent`. -/
def addContent (d : SessionDescription) (c : MediaContentDescription) : SessionDescription :=
  { d with contents := d.contents ++ [c] }

/-- `GetGroupByName`. -/
def getGroupByName (d : SessionDescription) (name : Bytes) : Option ContentGroup :=
  d.contentGroups.find? fun g => g.semantics = name

/-- `AddGroup`. -/
def addGroup (d : SessionDescription) (g : ContentGroup) : SessionDescription :=
  { d with contentGroups := d.contentGroups ++ [g] }

/-- `GetTransportInfo`. -/
def getTransportInfo (d : SessionDescription) (transportName : Bytes) :
    Option TransportDescription :=
  d.transportInfos.find? fun td => td.mid = transportName

/-- `AddTransportInfo`, of credentials. -/
def addTransportInfo (d : SessionDescription) (mid : Bytes) (iceParam : IceParameters) :
    SessionDescription :=
  { d with
      transportInfos := d.transportInfos ++
        [{ mid, iceUfrag := iceParam.iceUfrag, icePwd := iceParam.icePwd }] }

/-- `IsBundle`. -/
def isBundle (d : SessionDescription) (mid : Bytes) : Bool :=
  match d.getGroupByName (ascii "BUNDLE") with
  | none => false
  | some g => g.contentNames.contains mid

/-- `GetFirstBundleId`. -/
def getFirstBundleId (d : SessionDescription) : Bytes :=
  match d.getGroupByName (ascii "BUNDLE") with
  | none => []
  | some g => g.contentNames.headD []

/-- The line of the BUNDLE group. -/
def bundleLines (d : SessionDescription) : List Bytes :=
  match d.getGroupByName (ascii "BUNDLE") with
  | none => []
  | some g =>
      if g.contentNames = [] then []
      else [ascii "a=group:BUNDLE" ++ g.contentNames.flatMap fun name => ascii " " ++ name]

/-- The lines of a section. -/
def sectionLines (d : SessionDescription) (content : MediaContentDescription) : List Bytes :=
  [mediaLine content.mid (ascii "RTP/SAVPF") content.codecs, ascii "c=IN IP4 0.0.0.0",
      ascii "a=rtcp:9 IN IP4 0.0.0.0"] ++
    (match d.getTransportInfo content.mid with
      | none => []
      | some td => [ascii "a=ice-ufrag:" ++ td.iceUfrag, ascii "a=ice-pwd:" ++ td.icePwd]) ++
    [ascii "a=mid:" ++ content.mid, rtpDirectionLine content.direction] ++
    (if content.rtcpMux then [ascii "a=rtcp-mux"] else []) ++
    rtpMapLines content.type content.codecs ++
    ssrcLines content.sendStreams

/-- The lines of `ToString`. -/
def lines (d : SessionDescription) : List Bytes :=
  Pc.SessionDescription.versionLines ++ d.bundleLines ++ [ascii "a=msid-semantic: WMS"] ++
    d.contents.flatMap d.sectionLines

/-- `ToString`. -/
def toString (d : SessionDescription) : Bytes := printLines d.lines

end SessionDescription

end Xrtc.Sdk
