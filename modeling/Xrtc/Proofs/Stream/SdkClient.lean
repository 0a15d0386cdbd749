import Xrtc.Proofs.Sdk.OfferParsed
import Xrtc.Proofs.Stream.WorkerStreams

/-!
# `Xrtc.Proofs.Stream.SdkClient`: a client with the SDK at a worker

`XRTCMediaSink` asks for a stream without DTLS (`isDtls=0`), and its answer has no fingerprint.
Nothing in the signaling or in the server reads `isDtls`, so the offer of a push stream is made
with a certificate, and its first section has a DTLS transport. `set_remote_description` then
takes the fingerprint of the answer for this transport, and it is not there.

`sdkAnswer_fails_iff` is what this means for a worker, after any run: the answer of the SDK ends
it exactly if the answer has the section that the transport is of, which is the first one of the
offer (`first_of_run`).
-/

set_option autoImplicit false

namespace Xrtc.Proofs.Stream

open Xrtc.Base
open Xrtc.Lib
open Xrtc.Ice (ascii)
open Xrtc.Pc
open Xrtc.Sdk (Signaling AnswerRandom)
open Xrtc.Stream
open Xrtc.Proofs.Pc
open Xrtc.Proofs.Sdk (IsDigits Drawn answerTypes parseLines_answer sdpFields_answer readSection_td
  drawn drawn_spec isDigits_one mid_injective)

variable {ssl : Nat → SslAdapter} {crypto : SrtpCrypto} {ntop6 : Vector UInt8 16 → Bytes}
  {w : MediaWorker}

/-! ### The answer of a client -/

/-- A client that makes its answer with the SDK, and what it draws for it. -/
structure SdkClient where
  signaling : Signaling
  options : Sdk.RTCOfferAnswerOptions
  streamId : Bytes
  random : AnswerRandom
  digits : IsDigits streamId
  drawn : Drawn random

/-- `CreateAnswer`. -/
def SdkClient.answer (client : SdkClient) : Bytes :=
  (client.signaling.createAnswer client.options client.streamId client.random).1

/-- The answer is accepted by the loop, has its sections, and no fingerprint. -/
theorem parseLines_sdkClient (client : SdkClient) :
    sdpFields client.answer ≠ [] ∧
      ∃ s, RemoteSdp.parseLines {} (sdpFields client.answer) = .ok s ∧
        s.contents = answerTypes client.options ∧ s.contentGroups = [] ∧
        ∀ type ∈ s.contents, (sectionAt s type).td.identityFingerprint = none := by
  have hfields : sdpFields client.answer
      = (Sdk.answerDescription client.options client.streamId client.random).lines :=
    sdpFields_answer client.options client.digits client.drawn
  obtain ⟨s, hparse, hcontents, hgroups, hread⟩ :=
    parseLines_answer client.options client.digits client.drawn
  rw [hfields]
  refine ⟨?_, s, hparse, hcontents, hgroups, ?_⟩
  · unfold Sdk.SessionDescription.lines SessionDescription.versionLines
    simp
  · intro type htype
    rw [hread type (hcontents ▸ htype), readSection_td]

/-- `set_remote_description` with it comes to the end if no transport is that of a section. -/
theorem setRemoteDescription_sdkClient (ssl : SslAdapter) (c : TransportController)
    {lines : List Bytes} {s : RemoteSdp} (hparse : RemoteSdp.parseLines {} lines = .ok s)
    (hgroups : s.contentGroups = [])
    (hnone : ∀ type ∈ s.contents, (sectionAt s type).td.identityFingerprint = none) :
    (c.setRemoteDescription ssl s.description).isSome ↔
      ∀ type ∈ s.contents, type.mid ∉ c.names := by
  have hnamed : Named s := (parseLines_spec _ hparse).2.2.2 fun type => by cases type <;> rfl
  -- without a group every section has a transport of its own
  have hsections : s.description.transportSections = s.description.contents := by
    refine List.filter_eq_self.mpr fun content _ => ?_
    have hbundle : s.description.isBundle content.mid = false := by
      unfold SessionDescription.isBundle SessionDescription.getGroupByName
      show (s.contentGroups.filter _).any _ = false
      rw [hgroups]
      rfl
    rw [hbundle]
    rfl
  have hmids : ∀ content ∈ s.description.contents, ∃ type ∈ s.contents,
      content.mid = type.mid := by
    intro content hcontent
    have hmid := List.mem_map_of_mem (f := MediaContentDescription.mid) hcontent
    rw [mids_description] at hmid
    obtain ⟨type, htype, hmid⟩ := List.mem_map.mp hmid
    exact ⟨type, htype, hmid.symm⟩
  unfold TransportController.setRemoteDescription
  rw [hsections, setRemoteDescription_isSome_iff]
  constructor
  · intro h type htype hname
    have hmid : type.mid ∈ s.description.contents.map MediaContentDescription.mid := by
      rw [mids_description]
      exact List.mem_map_of_mem htype
    obtain ⟨content, hcontent, heq⟩ := List.mem_map.mp hmid
    have hfingerprinted := h content hcontent (heq.symm ▸ hname)
    rw [heq] at hfingerprinted
    exact hfingerprinted _ (getTransportInfo_description hnamed htype) (hnone type htype)
  · intro h content hcontent hname
    obtain ⟨type, htype, hmid⟩ := hmids content hcontent
    rw [hmid] at hname
    exact absurd hname (h type htype)

/-- The answer of the SDK ends a worker exactly if `set_remote_sdp` dereferences the fingerprint
that it does not have, and this is exactly if the answer has the first section of the offer. -/
theorem sdkAnswer_fails_iff {es : List MediaWorker.Event}
    (hrun : runPartial (MediaWorker.step crypto ssl ntop6) {} es = some w) {name : String} {p : Nat}
    {stream : RtcStream PeerConnection} (hfound : w.manager.streams .push name = some p)
    (hheap : w.manager.heap p = some stream) (hoffer : stream.pc.localDesc.isSome = true)
    (client : SdkClient) :
    (w.step crypto ssl ntop6 (.answer stream.uid name client.answer "push") = none ↔
      (MediaWorker.clearLog stream.pc).setRemoteSdp (ssl p) client.answer = .nullPointer) ∧
    ((MediaWorker.clearLog stream.pc).setRemoteSdp (ssl p) client.answer = .nullPointer ↔
      ∃ type, firstSection stream = some type ∧ type ∈ answerTypes client.options) := by
  have hnames : (MediaWorker.clearLog stream.pc).transportController.names
      = ((firstSection stream).map MediaType.mid).toList := by
    show stream.pc.transportController.names = _
    rw [first_of_run hrun p stream hheap, if_pos hoffer]
  obtain ⟨hne, s, hparse, hcontents, hgroups, hnone⟩ := parseLines_sdkClient client
  have hisSome := setRemoteDescription_sdkClient (ssl p)
    (MediaWorker.clearLog stream.pc).transportController hparse hgroups hnone
  rw [hnames, hcontents] at hisSome
  -- the lines are accepted, and what is left is `set_remote_description`
  have hnull : (MediaWorker.clearLog stream.pc).setRemoteSdp (ssl p) client.answer = .nullPointer ↔
      (MediaWorker.clearLog stream.pc).transportController.setRemoteDescription (ssl p)
        s.description = none := by
    unfold PeerConnection.setRemoteSdp
    rw [if_neg hne, hparse]
    dsimp only
    cases (MediaWorker.clearLog stream.pc).transportController.setRemoteDescription (ssl p)
      s.description <;> simp
  constructor
  · -- the event goes through to `set_remote_sdp`, which does not throw
    rw [hnull]
    show w.answerStream crypto ssl .push stream.uid name client.answer = none ↔ _
    unfold MediaWorker.answerStream
    rw [answerStreamWith_found hfound hheap]
    unfold PeerConnection.setRemoteSdp
    rw [if_neg hne, hparse]
    dsimp only
    cases (MediaWorker.clearLog stream.pc).transportController.setRemoteDescription (ssl p)
      s.description <;> simp
  · rw [hnull, ← Option.not_isSome_iff_eq_none, hisSome]
    push Not
    constructor
    · rintro ⟨type, htype, hmem⟩
      obtain ⟨first, hfirst, hmid⟩ := Option.map_eq_some_iff.mp (Option.mem_toList.mp hmem)
      exact ⟨first, hfirst, mid_injective hmid ▸ htype⟩
    · rintro ⟨type, hfirst, htype⟩
      refine ⟨type, htype, ?_⟩
      rw [hfirst]
      exact List.mem_singleton_self _

/-- A client that sends both media, as `XRTCMediaSink` does. -/
def sendingClient : SdkClient where
  signaling := {}
  options := { recvAudio := false, recvVideo := false }
  streamId := ascii "1"
  random := drawn
  digits := isDigits_one
  drawn := drawn_spec

/-- Its answer ends a worker that has just been asked for the stream. -/
theorem sdkAnswer_fails_sendingClient : ∃ w : MediaWorker,
    w.manager.streams .push "s" = some 0 ∧
      w.step tagCrypto (fun _ => quietAdapter) (fun _ => [])
        (.answer 1 "s" sendingClient.answer "push") = none := by
  let pushEvents : List MediaWorker.Event :=
    [.push 1 "s" true true 0 (some ⟨0, some ⟨ascii "sha-256", [1]⟩⟩) ⟨drawn.iceParam, fun _ => []⟩]
  have hrun : (passRun pushEvents).bind (fun w => (w.manager.heap 0).map fun s =>
      (w.manager.streams .push "s", s.uid, s.audio, s.pc.localDesc.isSome))
        = some (some 0, 1, true, true) := by
    decide +kernel
  obtain ⟨w, hw, hs⟩ := Option.bind_eq_some_iff.mp hrun
  obtain ⟨stream, hheap, heq⟩ := Option.map_eq_some_iff.mp hs
  simp only [Prod.mk.injEq] at heq
  obtain ⟨hfound, huid, haudio, hoffer⟩ := heq
  refine ⟨w, hfound, ?_⟩
  rw [← huid]
  obtain ⟨hstep, hnull⟩ := sdkAnswer_fails_iff hw hfound hheap hoffer sendingClient
  refine hstep.mpr (hnull.mpr ⟨.audio, ?_, ?_⟩)
  · unfold firstSection
    rw [if_pos haudio]
  · decide

end Xrtc.Proofs.Stream
