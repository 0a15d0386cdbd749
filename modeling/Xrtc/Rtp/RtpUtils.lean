import Xrtc.Lib.Bytes

/-!
# `Xrtc.Rtp.RtpUtils`: telling RTP from RTCP

The model of `rtcserver/src/module/rtp_rtcp/rtp_utils.cpp`, and in `Xrtc.Rtp.SdkRtpUtils`
of the classification in `xrtcsdk/xrtc/rtc/modules/rtp_rtcp/rtp_utils.cpp`. The two differ
in the shortest packet they know.

A packet that is too short is not read, as the length is asked for first.
-/

set_option autoImplicit false

namespace Xrtc.Rtp

open Xrtc.Lib

/-- `RtpPacketType`. -/
inductive RtpPacketType where
  | rtp
  | rtcp
  | unknown
  deriving DecidableEq, Repr

namespace RtpUtils

/-- `k_rtp_version`. -/
def kRtpVersion : UInt8 := 2

/-- `k_min_rtp_packet_len`. -/
def kMinRtpPacketLen : Nat := 12

/-- `k_min_rtcp_packet_len`. -/
def kMinRtcpPacketLen : Nat := 4

/-- `has_correct_rtp_version`. -/
def hasCorrectRtpVersion (packet : Bytes) : Bool := packet.getD 0 0 >>> 6 == kRtpVersion

/-- `payload_type_is_reserved_for_rtcp`. -/
def payloadTypeIsReservedForRtcp (payloadType : UInt8) : Bool :=
  64 ≤ payloadType && payloadType < 96

/-- `is_rtp_packet`. -/
def isRtpPacket (packet : Bytes) : Bool :=
  kMinRtpPacketLen ≤ packet.length && hasCorrectRtpVersion packet &&
    !payloadTypeIsReservedForRtcp (packet.getD 1 0 &&& 0x7F)

/-- `is_rtcp_packet`. -/
def isRtcpPacket (packet : Bytes) : Bool :=
  kMinRtcpPacketLen ≤ packet.length && hasCorrectRtpVersion packet &&
    payloadTypeIsReservedForRtcp (packet.getD 1 0 &&& 0x7F)

/-- `infer_rtp_packet_type`. -/
def inferRtpPacketType (packet : Bytes) : RtpPacketType :=
  if isRtpPacket packet then .rtp
  else if isRtcpPacket packet then .rtcp
  else .unknown

/-- `parse_rtp_sequence_number`. -/
def parseRtpSequenceNumber (packet : Bytes) : UInt16 := getBE16 packet 2

/-- `parse_rtp_ssrc`. -/
def parseRtpSsrc (packet : Bytes) : UInt32 := getBE32 packet 8

/-- `get_rtcp_type`. -/
def getRtcpType (data : Bytes) : Option UInt8 :=
  if data.length < kMinRtcpPacketLen then none else some (data.getD 1 0)

end RtpUtils

namespace SdkRtpUtils

/-- `kMinRtpPacketLength`. -/
def kMinRtpPacketLength : Nat := 12

/-- `kMinRtcpPacketLength`. -/
def kMinRtcpPacketLength : Nat := 4

/-- `kRtpVersion`. -/
def kRtpVersion : UInt8 := 2

/-- `HasCorrectVersion`. -/
def hasCorrectVersion (packet : Bytes) : Bool := packet.getD 0 0 >>> 6 == kRtpVersion

/-- `PayloadTypeIsReservedForRtcp`. -/
def payloadTypeIsReservedForRtcp (pt : UInt8) : Bool := 64 ≤ pt && pt < 96

/-- `IsRtcpPacket`. -/
def isRtcpPacket (packet : Bytes) : Bool :=
  packet.length > kMinRtcpPacketLength && hasCorrectVersion packet &&
    payloadTypeIsReservedForRtcp (packet.getD 1 0 &&& 0x7F)

/-- `IsRtpPacket`. -/
def isRtpPacket (packet : Bytes) : Bool :=
  packet.length > kMinRtpPacketLength && hasCorrectVersion packet &&
    !payloadTypeIsReservedForRtcp (packet.getD 1 0 &&& 0x7F)

/-- `InferRtpPacketType`. It asks for RTCP first. -/
def inferRtpPacketType (packet : Bytes) : RtpPacketType :=
  if isRtcpPacket packet then .rtcp
  else if isRtpPacket packet then .rtp
  else .unknown

end SdkRtpUtils

end Xrtc.Rtp
