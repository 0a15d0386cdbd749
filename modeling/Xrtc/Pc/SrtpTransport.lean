import Xrtc.Lib.Bytes

/-!
# `Xrtc.Pc.SrtpTransport`: the two SRTP sessions of a transport

The model of `rtcserver/src/pc/srtp_transport.cpp` and of the key handling of
`srtp_session.cpp`. A transport has one session for each direction, and a session is
what `srtp_create` has been given.

libsrtp is a parameter (`Libsrtp`): it says which crypto suites it knows and how long
their keys are, and whether each of its calls succeeds. The calls of one
`set_rtp_params` have a common number `n`.
-/

set_option autoImplicit false

namespace Xrtc.Pc

open Xrtc.Lib

/-- `ssrc_any_outbound` and `ssrc_any_inbound`. -/
inductive SsrcType where
  | anyOutbound
  | anyInbound
  deriving DecidableEq, Repr

/-- The policy of a libsrtp session: the direction, the crypto suite, and the master
key followed by the master salt. -/
structure SrtpPolicy where
  type : SsrcType
  cs : Int
  key : Bytes
  deriving DecidableEq, Repr

/-- libsrtp. -/
structure Libsrtp where
  /-- `_increment_libsrtp_usage_count_and_maybe_init`. -/
  init : Nat → SsrcType → Bool
  /-- `srtp_crypto_policy_set_from_profile_for_rtp` and `…_for_rtcp`, with the
  `cipher_key_len` they set. -/
  cipherKeyLen : Int → Option Nat
  /-- `srtp_create`. -/
  create : Nat → SsrcType → Bool
  /-- `srtp_update`. -/
  update : Nat → SsrcType → Bool

/-- `SrtpSession`, with what `_session` points to. -/
structure SrtpSession where
  session : Option SrtpPolicy := none
  deriving DecidableEq, Repr

namespace SrtpSession

variable (lib : Libsrtp) (n : Nat)

/-- `_do_set_key`. -/
def doSetKey (s : SrtpSession) (type : SsrcType) (cs : Int) (key : Bytes) :
    Bool × SrtpSession :=
  match lib.cipherKeyLen cs with
  | none => (false, s)
  | some cipherKeyLen =>
      if key.length ≠ cipherKeyLen then (false, s)
      else
        let done := if s.session.isNone then lib.create n type else lib.update n type
        if done then (true, { s with session := some ⟨type, cs, key⟩ }) else (false, s)

/-- `_set_key`. -/
def setKey (s : SrtpSession) (type : SsrcType) (cs : Int) (key : Bytes) : Bool × SrtpSession :=
  if s.session.isSome then (false, s)
  else if lib.init n type then doSetKey lib n s type cs key
  else (false, s)

/-- `_update_key`. -/
def updateKey (s : SrtpSession) (type : SsrcType) (cs : Int) (key : Bytes) :
    Bool × SrtpSession :=
  if s.session.isNone then (false, s) else doSetKey lib n s type cs key

end SrtpSession

/-- `SrtpTransport`. -/
structure SrtpTransport where
  sendSession : Option SrtpSession := none
  recvSession : Option SrtpSession := none
  deriving DecidableEq, Repr

namespace SrtpTransport

/-- `is_srtp_active`. -/
def isSrtpActive (t : SrtpTransport) : Bool := t.sendSession.isSome && t.recvSession.isSome

/-- `reset_params`. -/
def resetParams (t : SrtpTransport) : SrtpTransport :=
  { t with sendSession := none, recvSession := none }

/-- `_create_srtp_session`. -/
def createSrtpSession (t : SrtpTransport) : SrtpTransport :=
  { t with sendSession := some {}, recvSession := some {} }

variable (lib : Libsrtp) (n : Nat)

/-- `set_rtp_params`. The two session pointers are dereferenced, and the last branch is
the one where they cannot be. -/
def setRtpParams (t : SrtpTransport) (sendCs : Int) (sendKey : Bytes) (recvCs : Int)
    (recvKey : Bytes) : Bool × SrtpTransport :=
  let newSession := t.sendSession.isNone
  let t := if newSession then t.createSrtpSession else t
  match t.sendSession, t.recvSession with
  | some send, some recv =>
      let (ret, send) :=
        if newSession then send.setKey lib n .anyOutbound sendCs sendKey
        else send.updateKey lib n .anyOutbound sendCs sendKey
      if !ret then (false, t.resetParams)
      else
        let (ret, recv) :=
          if newSession then recv.setKey lib n .anyInbound recvCs recvKey
          else recv.updateKey lib n .anyInbound recvCs recvKey
        if !ret then (false, t.resetParams)
        else (true, { t with sendSession := some send, recvSession := some recv })
  | _, _ => (false, t)

end SrtpTransport

end Xrtc.Pc
