import Xrtc.Ice.Stun
import Xrtc.Pc.SdpText

/-!
# `Xrtc.Pc.HostCandidate`: the candidates of an offer

The model of `UDPPort::create_ice_candidate` of `rtcserver/src/ice/udp_port.cpp`, with
`compute_foundation` and `Candidate::get_priority` of `ice/candidate.cpp`. The port is that
of the socket. `NetworkManager` keeps the networks that have an IPv4 address.
-/

set_option autoImplicit false

namespace Xrtc.Pc

open Xrtc.Base
open Xrtc.Lib
open Xrtc.Ice (ascii IPAddress MessageDigest)

/-- `IceCandidateComponent`. -/
inductive IceCandidateComponent where
  | rtp
  | rtcp
  deriving DecidableEq, Repr

/-- The number of a component. -/
def IceCandidateComponent.toNat : IceCandidateComponent → Nat
  | .rtp => 1
  | .rtcp => 2

/-- `LOCAL_PORT_TYPE`. -/
def localPortType : Bytes := ascii "host"

/-- `ICE_TYPE_PREFERENCE_HOST`. -/
def iceTypePreferenceHost : UInt32 := 126

/-- `rtc::IPAddressPrecedence`, of an IPv4 address. -/
def ipv4Precedence : UInt32 := 30

/-- `compute_foundation`. -/
def computeFoundation (digest : MessageDigest) (ntop6 : Vector UInt8 16 → Bytes)
    (type protocol relayProtocol : Bytes) (base : IPAddress) : Bytes :=
  decimal (digest.crc32 (type ++ hostAsURIString ntop6 base ++ protocol ++ relayProtocol)).toNat

/-- `get_priority`, of an IPv4 address. -/
def getPriority (typePreference networkAdapterPreference relayPreference : UInt32)
    (component : IceCandidateComponent) : UInt32 :=
  let localPref := (networkAdapterPreference <<< 8 ||| ipv4Precedence) + relayPreference
  typePreference <<< 24 ||| localPref <<< 8 ||| (256 - UInt32.ofNat component.toNat)

/-- `create_ice_candidate`, the candidate it makes. -/
def createIceCandidate (digest : MessageDigest) (ntop6 : Vector UInt8 16 → Bytes)
    (component : IceCandidateComponent) (ip : UInt32) (port : UInt16) : Candidate where
  foundation := computeFoundation digest ntop6 localPortType (ascii "udp") [] (.v4 ip)
  component := component.toNat
  protocol := ascii "udp"
  priority := getPriority iceTypePreferenceHost 0 0 component
  address := .v4 ip
  port := port.toNat
  type := localPortType

end Xrtc.Pc
