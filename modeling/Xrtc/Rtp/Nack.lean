import Xrtc.Lib.Bytes

/-!
# `Xrtc.Rtp.Nack`: the packets a generic NACK asks for

The model of `Nack::Parse` and `Nack::Unpack` of
`xrtcsdk/xrtc/rtc/modules/rtp_rtcp/rtcp_packet/nack.cpp`. An item of a NACK names one
packet, and with the bits of its mask some of the sixteen behind it.
-/

set_option autoImplicit false

namespace Xrtc.Rtp

open Xrtc.Lib

/-- `Rtpfb::kCommonFeedabackLength`. -/
def kCommonFeedbackLength : Nat := 8

/-- `Nack::kNackItemLength`. -/
def kNackItemLength : Nat := 4

/-- `Nack::PackedNack`. -/
structure PackedNack where
  firstPid : UInt16
  bitmask : UInt16
  deriving DecidableEq, Repr

namespace Nack

/-- The loop of `Parse` over the items, with the bytes from the next one on. -/
def readItems : (nackItems : Nat) → (nextNack : Bytes) → List PackedNack
  | 0, _ => []
  | n + 1, nextNack =>
      ⟨getBE16 nextNack 0, getBE16 nextNack 2⟩ ::
        readItems n (nextNack.drop kNackItemLength)

/-- The loop of `Unpack` over the bits of a mask. -/
def unpackBits (pid nackItem : UInt16) : List UInt16 :=
  if nackItem = 0 then []
  else (if nackItem &&& 1 ≠ 0 then [pid] else []) ++ unpackBits (pid + 1) (nackItem >>> 1)
termination_by nackItem.toNat
decreasing_by
  rename_i hne
  have hpos : 0 < nackItem.toNat :=
    Nat.pos_of_ne_zero fun h => hne (UInt16.toNat_inj.mp h)
  rw [UInt16.toNat_shiftRight, Nat.shiftRight_eq_div_pow]
  exact Nat.div_lt_self hpos (by decide)

/-- `Unpack`. -/
def unpack (packed : List PackedNack) : List UInt16 :=
  packed.flatMap fun nack => nack.firstPid :: unpackBits (nack.firstPid + 1) nack.bitmask

/-- `Parse`, of the payload of the RTCP packet: `packet_ids`, or nothing when it returns
false. -/
def parse (payload : Bytes) : Option (List UInt16) :=
  if payload.length < kCommonFeedbackLength + kNackItemLength then none
  else
    let nackItems := (payload.length - kCommonFeedbackLength) / kNackItemLength
    some (unpack (readItems nackItems (payload.drop kCommonFeedbackLength)))

end Nack

end Xrtc.Rtp
