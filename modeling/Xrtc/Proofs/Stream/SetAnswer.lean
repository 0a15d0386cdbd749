import Xrtc.Proofs.Pc.SetRemoteSdp
import Xrtc.Stream.SetAnswer

/-!
# `Xrtc.Proofs.Stream.SetAnswer`: an answer that is rejected

`set_remote_sdp` replaces the remote description before it looks at the lines, and
`set_answer` does not look at its result. So a text that is rejected (`Rejected`, a matter
of its lines) leaves a trace in the connection and is not reported:
`rejectionClean_iff`. What does stay as it was is the transport controller
(`setRemoteSdp_rejected`).
-/

set_option autoImplicit false

namespace Xrtc.Proofs.Stream

open Xrtc.Lib
open Xrtc.Base
open Xrtc.Ice (ascii)
open Xrtc.Pc
open Xrtc.Stream
open Xrtc.Proofs.Pc

/-- A text without a line, or with a line that is reached and not accepted. -/
def Rejected (sdp : Bytes) : Prop :=
  sdpFields sdp = [] ∨ SafeLines [] (sdpFields sdp) ∧ ¬ AcceptedLines [] (sdpFields sdp)

/-- The name of a stream type in a request. -/
def typeName : RtcStreamType → String
  | .push => "push"
  | .pull => "pull"

/-- A rejected answer leaves the connection as it was, and `set_answer` does not return
zero for it. -/
def RejectionClean (ssl : SslAdapter) (pc : PeerConnection) (sdp : Bytes) : Prop :=
  ∀ pc', pc.setRemoteSdp ssl sdp = .returns (-1) pc' →
    pc'.remoteDesc = pc.remoteDesc ∧ pc'.transportController = pc.transportController ∧
      ∀ (m : RtcStreamManager PeerConnection) (t : RtcStreamType) (streamName : String) (p : Nat)
        (stream : RtcStream PeerConnection), m.streams t streamName = some p →
        m.heap p = some stream → stream.pc = pc →
          ∀ ret m', m.setAnswer ssl stream.uid streamName sdp (typeName t) = some (ret, m') → ret ≠ 0

/-- A text is rejected when its lines are. -/
theorem rejected_of_parseLines {sdp : Bytes} {s : RemoteSdp}
    (h : RemoteSdp.parseLines {} (sdpFields sdp) = .error (.rejected, s)) : Rejected sdp := by
  have hok := parseLines_isOk_iff (s := {}) (sdpFields sdp)
  have hthrow := parseLines_outOfRange_iff (s := {}) (sdpFields sdp)
  rw [h] at hok hthrow
  exact .inr ⟨by simpa using hthrow, by simpa using hok⟩

/-- The call returns -1 exactly for the texts that are rejected. The transport controller
is not touched, and the description is a new one if there was a line. -/
theorem setRemoteSdp_rejected (ssl : SslAdapter) (pc : PeerConnection) (sdp : Bytes) :
    ((∃ pc', pc.setRemoteSdp ssl sdp = .returns (-1) pc') ↔ Rejected sdp) ∧
      ∀ pc', pc.setRemoteSdp ssl sdp = .returns (-1) pc' →
        pc'.transportController = pc.transportController ∧
          (sdpFields sdp = [] → pc' = pc) ∧
          (sdpFields sdp ≠ [] → ∃ s : RemoteSdp, pc'.remoteDesc = some s.partialDescription) := by
  have hok := parseLines_isOk_iff (s := {}) (sdpFields sdp)
  have hthrow := parseLines_outOfRange_iff (s := {}) (sdpFields sdp)
  rw [show ({} : RemoteSdp).mediaType = [] from rfl] at hok hthrow
  unfold PeerConnection.setRemoteSdp Rejected
  by_cases hempty : sdpFields sdp = []
  · rw [if_pos hempty]
    refine ⟨⟨fun _ => .inl hempty, fun _ => ⟨pc, rfl⟩⟩, fun pc' h => ?_⟩
    cases h
    exact ⟨rfl, fun _ => rfl, fun hne => absurd hempty hne⟩
  · rw [if_neg hempty]
    cases hparse : RemoteSdp.parseLines {} (sdpFields sdp) with
    | error e =>
        -- the loop ends early: -1 for a line that is rejected, and an exception otherwise
        obtain ⟨failure, s⟩ := e
        rw [hparse] at hok hthrow
        have hnot : ¬ AcceptedLines [] (sdpFields sdp) := by simpa using hok
        cases failure with
        | rejected =>
            refine ⟨⟨fun _ => rejected_of_parseLines hparse, fun _ => ⟨_, rfl⟩⟩, fun pc' h => ?_⟩
            cases h
            exact ⟨rfl, fun he => absurd he hempty, fun _ => ⟨s, rfl⟩⟩
        | outOfRange =>
            have hunsafe : ¬ SafeLines [] (sdpFields sdp) := hthrow.mp ⟨s, rfl⟩
            refine ⟨⟨fun ⟨_, h⟩ => by simp at h, fun h => ?_⟩, fun pc' h => by simp at h⟩
            rcases h with h | h
            · exact absurd h hempty
            · exact absurd h.1 hunsafe
    | ok s =>
        rw [hparse] at hok
        have haccepted : AcceptedLines [] (sdpFields sdp) := hok.mp ⟨s, rfl⟩
        dsimp only
        -- all lines are accepted, and what is behind the loop never returns -1
        cases pc.transportController.setRemoteDescription ssl s.description with
        | none =>
            refine ⟨⟨fun ⟨_, h⟩ => by simp at h, fun h => ?_⟩, fun pc' h => by simp at h⟩
            rcases h with h | h
            · exact absurd h hempty
            · exact absurd haccepted h.2
        | some c =>
            refine ⟨⟨fun ⟨_, h⟩ => by simp at h, fun h => ?_⟩, fun pc' h => by simp at h⟩
            rcases h with h | h
            · exact absurd h hempty
            · exact absurd haccepted h.2

section

variable {α : Type} {m : RtcStreamManager PeerConnection} {t : RtcStreamType} {streamName : String}
  {unchanged : α} {setRemoteSdp : Nat → RtcStream PeerConnection → Option α}

/-- An answer with the uid of the stream that is found reaches this stream. -/
theorem answerStreamWith_found {p : Nat} {stream : RtcStream PeerConnection}
    (hp : m.streams t streamName = some p) (hstream : m.heap p = some stream) :
    m.answerStreamWith t stream.uid streamName unchanged setRemoteSdp = setRemoteSdp p stream := by
  rw [RtcStreamManager.answerStreamWith, hp]
  dsimp only
  rw [hstream]
  dsimp only
  rw [if_neg (not_not.mpr rfl)]

/-- What `set_answer` can do for a stream type: nothing, or what `set_remote_sdp` does for the
stream of the name and the uid. -/
theorem answerStreamWith_cases {uid : UInt64} {result : α}
    (h : m.answerStreamWith t uid streamName unchanged setRemoteSdp = some result) :
    result = unchanged ∨ ∃ p stream, m.streams t streamName = some p ∧ m.heap p = some stream ∧
      stream.uid = uid ∧ setRemoteSdp p stream = some result := by
  cases hp : m.streams t streamName with
  | none =>
      rw [RtcStreamManager.answerStreamWith, hp] at h
      cases h
      exact .inl rfl
  | some p =>
      rw [RtcStreamManager.answerStreamWith, hp] at h
      dsimp only at h
      cases hstream : m.heap p with
      | none =>
          rw [hstream] at h
          cases h
      | some stream =>
          rw [hstream] at h
          dsimp only at h
          by_cases huid : uid = stream.uid
          · rw [if_neg (not_not.mpr huid)] at h
            exact .inr ⟨p, stream, rfl, hstream, huid.symm, h⟩
          · rw [if_pos huid] at h
            cases h
            exact .inl rfl

end

/-- Whatever `set_remote_sdp` returns, `set_answer` returns zero. -/
theorem setAnswer_of_returns (ssl : SslAdapter) {m : RtcStreamManager PeerConnection}
    {t : RtcStreamType} {streamName : String} {p : Nat} {stream : RtcStream PeerConnection}
    (hp : m.streams t streamName = some p) (hstream : m.heap p = some stream) {sdp : Bytes}
    {ret : Int} {pc' : PeerConnection} (h : stream.pc.setRemoteSdp ssl sdp = .returns ret pc') :
    m.setAnswer ssl stream.uid streamName sdp (typeName t)
      = some (0, { m with heap := Function.update m.heap p (some { stream with pc := pc' }) }) := by
  have htype : m.setAnswer ssl stream.uid streamName sdp (typeName t)
      = m.answerStream ssl t stream.uid streamName sdp := by
    unfold RtcStreamManager.setAnswer
    cases t with
    | push => exact if_pos rfl
    | pull => exact (if_neg (by decide)).trans (if_pos rfl)
  rw [htype, RtcStreamManager.answerStream, answerStreamWith_found hp hstream]
  rw [h]

/-- A manager with one push stream. -/
def managerOf (pc : PeerConnection) : RtcStreamManager PeerConnection where
  heap := fun p => if p = 0 then some ⟨.push, 7, "room", true, true, 1, pc⟩ else none
  next := 1
  pushStreams := fun name => if name = "room" then some 0 else none
  pullStreams := fun _ => none

/-- A text that is rejected is reported as an answer that was set. -/
theorem not_clean_of_returns (ssl : SslAdapter) {pc pc' : PeerConnection} {sdp : Bytes}
    (h : pc.setRemoteSdp ssl sdp = .returns (-1) pc') : ¬ RejectionClean ssl pc sdp := by
  intro hclean
  obtain ⟨-, -, hreported⟩ := hclean pc' h
  have hp : (managerOf pc).streams .push "room" = some 0 := rfl
  have hstream : (managerOf pc).heap 0 = some ⟨.push, 7, "room", true, true, 1, pc⟩ := rfl
  have hanswer := setAnswer_of_returns ssl hp hstream h
  exact hreported (managerOf pc) .push "room" 0 _ hp hstream rfl 0 _ hanswer rfl

/-- No text that is rejected is rejected cleanly: `set_answer` returns 0 for it, just as for one
that is accepted. -/
theorem rejectionClean_iff (ssl : SslAdapter) (pc : PeerConnection) (sdp : Bytes) :
    RejectionClean ssl pc sdp ↔ ¬ Rejected sdp := by
  rw [← (setRemoteSdp_rejected ssl pc sdp).1]
  constructor
  · rintro hclean ⟨pc', h⟩
    exact not_clean_of_returns ssl h hclean
  · exact fun hnot pc' h => absurd ⟨pc', h⟩ hnot

/-- An `m=` line without its fields. -/
theorem offering_rejects : ¬ RejectionClean quietAdapter offering (ascii "m=audio\n") := by
  have hrejected : Rejected (ascii "m=audio\n") :=
    rejected_of_parseLines (s := {}) (by decide +kernel)
  obtain ⟨pc', h⟩ := (setRemoteSdp_rejected quietAdapter offering _).1.mpr hrejected
  exact not_clean_of_returns quietAdapter h

end Xrtc.Proofs.Stream
