import Xrtc.Base.StringEncode
import Xrtc.Pc.SessionDescription

/-!
# `Xrtc.Pc.SdpText`: printing a description

The model of `SessionDescription::to_string` of
`rtcserver/src/pc/session_description.cpp` and of the functions it calls. Each of them
gives the lines that it writes, and every line is ended by CRLF (`printLines`).

The text of an IPv6 address is that of `inet_ntop` (`ntop6`).
-/

set_option autoImplicit false

namespace Xrtc.Pc

open Xrtc.Base
open Xrtc.Lib
open Xrtc.Ice (ascii IPAddress)

/-- The text of lines that are each ended by CRLF. -/
def printLines (lines : List Bytes) : Bytes := lines.flatMap fun line => line ++ [cr, lf]

/-! ### Addresses -/

/-- The dotted decimal text of an IPv4 address. -/
def dotted (addr : UInt32) : Bytes :=
  let octet (i : Nat) := decimal (addr.toNat / 256 ^ i % 256)
  octet 3 ++ ascii "." ++ octet 2 ++ ascii "." ++ octet 1 ++ ascii "." ++ octet 0

/-- `SocketAddress::HostAsURIString`, of an address that is not a hostname. -/
def hostAsURIString (ntop6 : Vector UInt8 16 → Bytes) : IPAddress → Bytes
  | .unspec => []
  | .v4 addr => dotted addr
  | .v6 addr => ascii "[" ++ ntop6 addr ++ ascii "]"

/-! ### Codecs -/

/-- `add_rtcp_fb_line`. -/
def rtcpFbLines (codec : CodecInfo) : List Bytes :=
  codec.feedbackParam.map fun param =>
    ascii "a=rtcp-fb:" ++ decimal codec.id ++ ascii " " ++ param.id ++
      if param.param = [] then [] else ascii " " ++ param.param

/-- `add_fmtp_line`. -/
def fmtpLines (codec : CodecInfo) : List Bytes :=
  if codec.codecParam = [] then []
  else
    let data := codec.codecParam.flatMap fun param =>
      ascii ";" ++ param.1 ++ ascii "=" ++ param.2
    [ascii "a=fmtp:" ++ decimal codec.id ++ ascii " " ++ data.drop 1]

/-- `build_rtp_map`. -/
def rtpMapLines (type : MediaType) (codecs : List CodecInfo) : List Bytes :=
  codecs.flatMap fun codec =>
    (ascii "a=rtpmap:" ++ decimal codec.id ++ ascii " " ++ codec.name ++ ascii "/" ++
      decimal codec.clockrate ++
        if type = .audio then ascii "/" ++ decimal codec.channels else []) ::
      (rtcpFbLines codec ++ fmtpLines codec)

/-- `build_rtp_direction`. -/
def rtpDirectionLine : RtpDirection → Bytes
  | .sendRecv => ascii "a=sendrecv"
  | .sendOnly => ascii "a=sendonly"
  | .recvOnly => ascii "a=recvonly"
  | .inactive => ascii "a=inactive"

/-! ### Candidates and streams -/

/-- `build_candidates`. -/
def candidateLine (ntop6 : Vector UInt8 16 → Bytes) (c : Candidate) : Bytes :=
  ascii "a=candidate:" ++ c.foundation ++ ascii " " ++ decimal c.component ++ ascii " " ++
    c.protocol ++ ascii " " ++ decimal c.priority.toNat ++ ascii " " ++
    hostAsURIString ntop6 c.address ++ ascii " " ++ decimal c.port ++ ascii " typ " ++ c.type

/-- `add_ssrc_line`. -/
def ssrcLine (ssrc : UInt32) (attr value : Bytes) : Bytes :=
  ascii "a=ssrc:" ++ decimal ssrc.toNat ++ ascii " " ++ attr ++ ascii ":" ++ value

/-- A line of `build_ssrc` for a group. -/
def ssrcGroupLine (semantics : Bytes) (ssrcs : List UInt32) : Bytes :=
  ascii "a=ssrc-group:" ++ semantics ++ ssrcs.flatMap fun ssrc => ascii " " ++ decimal ssrc.toNat

/-- `build_ssrc`. -/
def ssrcLines (streams : List StreamParams) : List Bytes :=
  streams.flatMap fun track =>
    ((track.ssrcGroups.filter fun g => g.ssrcs ≠ []).map fun g => ssrcGroupLine g.semantics g.ssrcs) ++
      track.ssrcs.flatMap fun ssrc =>
        [ssrcLine ssrc (ascii "cname") track.cname,
          ssrcLine ssrc (ascii "msid") (track.streamId ++ ascii " " ++ track.id),
          ssrcLine ssrc (ascii "mslabel") track.streamId, ssrcLine ssrc (ascii "lable") track.id]

/-! ### The description -/

/-- `connection_role_to_string`. -/
def ConnectionRole.toString : ConnectionRole → Bytes
  | .active => ascii "active"
  | .passive => ascii "passive"
  | .actpass => ascii "actpass"
  | .holdconn => ascii "holdconn"
  | .none => ascii "none"

/-- `hex_encode`, with `toupper`. -/
def hexDigit (val : UInt8) : UInt8 := if val < 10 then 0x30 + val else 0x41 + (val - 10)

/-- `SSLFingerprint::GetRfc4572Fingerprint`. -/
def SSLFingerprint.getRfc4572Fingerprint (fp : SSLFingerprint) : Bytes :=
  (fp.digest.flatMap fun (b : UInt8) => ascii ":" ++ [hexDigit (b >>> 4), hexDigit (b &&& 0xf)]).drop 1

/-- The lines of a transport in a section. -/
def transportLines (td : TransportDescription) : List Bytes :=
  [ascii "a=ice-ufrag:" ++ td.iceUfrag, ascii "a=ice-pwd:" ++ td.icePwd] ++
    match td.identityFingerprint with
    | none => []
    | some fp =>
        [ascii "a=fingerprint:" ++ fp.algorithm ++ ascii " " ++ fp.getRfc4572Fingerprint,
          ascii "a=setup:" ++ td.connectionRole.toString]

/-- The `m=` line of a section. -/
def mediaLine (mid protocol : Bytes) (codecs : List CodecInfo) : Bytes :=
  ascii "m=" ++ mid ++ ascii " 9 " ++ protocol ++
    codecs.flatMap fun codec => ascii " " ++ decimal codec.id

namespace SessionDescription

/-- The lines in front of the sections, without the BUNDLE group. -/
def versionLines : List Bytes :=
  [ascii "v=0", ascii "o=- 0 2 IN IP4 127.0.0.1", ascii "s=-", ascii "t=0 0"]

/-- The line of the BUNDLE groups. -/
def bundleLines (d : SessionDescription) : List Bytes :=
  match d.getGroupByName (ascii "BUNDLE") with
  | [] => []
  | groups =>
      [ascii "a=group:BUNDLE" ++
        groups.flatMap fun g => g.contentNames.flatMap fun name => ascii " " ++ name]

/-- The lines of a section. -/
def sectionLines (ntop6 : Vector UInt8 16 → Bytes) (d : SessionDescription)
    (content : MediaContentDescription) : List Bytes :=
  [mediaLine content.mid (ascii "UDP/TLS/RTP/SAVPF") content.codecs, ascii "c=IN IP4 0.0.0.0",
      ascii "a=rtcp:9 IN IP4 0.0.0.0"] ++
    content.candidates.map (candidateLine ntop6) ++
    (match d.getTransportInfo content.mid with
      | none => []
      | some td => transportLines td) ++
    [ascii "a=mid:" ++ content.mid, rtpDirectionLine content.direction] ++
    (if content.rtcpMux then [ascii "a=rtcp-mux"] else []) ++
    rtpMapLines content.type content.codecs ++
    ssrcLines content.sendStreams

/-- The lines of `to_string`. -/
def lines (ntop6 : Vector UInt8 16 → Bytes) (d : SessionDescription) : List Bytes :=
  versionLines ++ d.bundleLines ++ [ascii "a=msid-semantic: WMS"] ++
    d.contents.flatMap (d.sectionLines ntop6)

/-- `to_string`. -/
def toString (ntop6 : Vector UInt8 16 → Bytes) (d : SessionDescription) : Bytes :=
  printLines (d.lines ntop6)

end SessionDescription

end Xrtc.Pc
