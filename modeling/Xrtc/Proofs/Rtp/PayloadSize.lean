import Xrtc.Proofs.Rtp.InBounds

/-!
# `Xrtc.Proofs.Rtp.PayloadSize`: every payload is within the limit

Whatever the frame is, when packetizing it has a result then no payload is longer than
`max_payload_len` (`new_spec`). The queue of the frame is that of groups that fit
(`Xrtc.Proofs.Rtp.Groups`) as soon as none of its NAL units is empty, and a frame with an
empty one has no result (`generateLoop_nonempty`).
-/

set_option autoImplicit false

namespace Xrtc.Proofs.Rtp

open Xrtc.Lib
open Xrtc.Rtp
open Xrtc.Rtp.RtpPacketizerH264

/-! ### Payloads of groups -/

/-- An aggregated payload is as long as its group says. -/
theorem aggregationPayload_length (nalus : List Bytes) :
    (aggregationPayload nalus).length = Group.aggregationSize nalus := by
  match nalus with
  | [] => rfl
  | [nalu] => rfl
  | nalu :: next :: nalus =>
      show (aggregate (nalu :: next :: nalus)).length + 1 = 1 + _
      exact Nat.add_comm _ _

/-- No fragment is longer than the room, with its two bytes in front. -/
theorem fuAs_length_le {header : UInt8} {pieces : List Bytes} {room : Nat}
    (h : ∀ piece ∈ pieces, 2 + piece.length ≤ room) (first : Bool) :
    ∀ payload ∈ fuAs header first pieces, payload.length ≤ room := by
  induction pieces generalizing first with
  | nil => exact fun payload hpayload => absurd hpayload List.not_mem_nil
  | cons piece pieces ih =>
      intro payload hpayload
      rcases List.mem_cons.mp hpayload with rfl | hpayload
      · have hpiece := h piece List.mem_cons_self
        rw [fuA, List.length_cons, List.length_cons]
        omega
      · exact ih (fun q hq => h q (List.mem_cons_of_mem _ hq)) false payload hpayload

/-- The payloads of a group that fits are within the room. -/
theorem Group.Fits.payload_length {room : Nat} {g : Group} (h : g.Fits room) :
    ∀ payload ∈ g.payloads, payload.length ≤ room := by
  cases g with
  | aggregation nalus =>
      intro payload hpayload
      rw [List.mem_singleton.mp hpayload, aggregationPayload_length]
      exact h.2
  | fragments header pieces => exact fuAs_length_le h.2 true

/-! ### A frame with a result -/

/-- When packetizing a frame has a result, it makes packets of payloads within the limit,
the last of them with the marker. -/
theorem new_spec {limits : PayloadLimits} (h : Usable limits) {buffer : Bytes}
    (hlength : buffer.length ≤ 2 ^ 31) {p : RtpPacketizerH264}
    (hnew : RtpPacketizerH264.new buffer limits = some p) :
    ∃ payloads, p.drain = some (marked payloads) ∧
      ∀ payload ∈ payloads, payload.length ≤ limits.maxPayloadLen.toNat := by
  obtain ⟨nalus, hfind, hqueue⟩ := Option.bind_eq_some_iff.mp hnew
  have hle : ∀ nalu ∈ nalus, nalu.length ≤ 2 ^ 31 :=
    fun nalu hnalu => (nalUnits_length hfind nalu hnalu).trans hlength
  have hne : ∀ nalu ∈ nalus, nalu ≠ [] := by
    obtain ⟨r, hloop, -⟩ := Option.bind_eq_some_iff.mp hqueue
    have hreached := generateLoop_nonempty h
      (fun nalu hnalu => by have := hle nalu hnalu; omega) _ hloop
    -- all NAL units are reached
    rwa [List.drop_zero, List.takeWhile_eq_self_iff.mpr] at hreached
    intro nalu hnalu
    rw [tooLong_of_le (hle nalu hnalu)]
    rfl
  obtain ⟨groups, hgroups, hcover, hfits, -⟩ :=
    ofNalUnits_spec h fun nalu hnalu => ⟨hne nalu hnalu, hle nalu hnalu⟩
  rw [hgroups, Option.some.injEq] at hqueue
  subst hqueue
  have hroom : ∀ g ∈ groups, g.Fits packetRoom := by
    intro g hg
    refine (hfits g hg).mono ?_
    have hmax := h.maxLe
    unfold packetRoom
    omega
  refine ⟨groups.flatMap Group.payloads, ?_, fun payload hpayload => ?_⟩
  · have hdrain := drainLoop_spec limits hroom _ (count_le hroom)
    rw [hcover] at hdrain
    exact hdrain
  · obtain ⟨g, hg, hmem⟩ := List.mem_flatMap.mp hpayload
    exact (hfits g hg).payload_length payload hmem

end Xrtc.Proofs.Rtp
