import Xrtc.Proofs.Pc.AcceptedAnswer
import Xrtc.Proofs.Pc.ConnectionState

/-!
# `Xrtc.Proofs.Pc.SetRemoteSdp`: when `set_remote_sdp` returns

A text is safe if its lines are safe up to the first that is not accepted, and if, when all
of them are accepted, every section with a transport of its own has a fingerprint
(`FingerprintsPresent`): `TransportController::set_remote_description` dereferences it, and
the parser does not ask for it. `setRemoteSdp_returns_iff` is the exact condition, for every
connection and every text. `not_returns_of_outOfRange` and `not_returns_of_noFingerprint` are
the two ways out, and `offering_leaves` takes both, on a connection that has made an offer.
-/

set_option autoImplicit false

namespace Xrtc.Proofs.Pc

open Xrtc.Base
open Xrtc.Lib
open Xrtc.Ice (ascii)
open Xrtc.Pc

/-! ### `set_remote_description` -/

/-- A section of a description has a fingerprint, if it has a transport description. -/
def Fingerprinted (desc : SessionDescription) (mid : Bytes) : Prop :=
  ∀ td, desc.getTransportInfo mid = some td → td.identityFingerprint ≠ none

/-- The transport of a section fails exactly when there is one and no fingerprint for it. The
names stay. -/
theorem setRemoteTransport_spec (ssl : SslAdapter) (desc : SessionDescription)
    (c : TransportController) (mid : Bytes) :
    (c.setRemoteTransport ssl desc mid = none ↔ mid ∈ c.names ∧ ¬ Fingerprinted desc mid) ∧
      ∀ c', c.setRemoteTransport ssl desc mid = some c' → c'.names = c.names := by
  unfold TransportController.setRemoteTransport Fingerprinted
  have hparams : ∀ params, (c.setRemoteIceParams mid params).names = c.names := by
    intro params
    unfold TransportController.setRemoteIceParams
    split <;> rfl
  cases htd : desc.getTransportInfo mid with
  | none => simp
  | some td =>
      dsimp only
      rw [hparams]
      by_cases hmem : mid ∈ c.names
      · rw [if_pos hmem]
        cases hfp : td.identityFingerprint with
        | none => simp [hmem, hfp]
        | some fp =>
            refine ⟨by simp [hfp], fun c' h => ?_⟩
            cases h
            exact (Actions.names (actions_setRemoteFingerprint ssl fp.algorithm fp.digest)).trans
              (hparams _)
      · rw [if_neg hmem]
        refine ⟨by simp [hmem], fun c' h => ?_⟩
        cases h
        exact hparams _

/-- `set_remote_description` comes to the end exactly if every section it looks at has a
fingerprint. -/
theorem setRemoteDescription_isSome_iff (ssl : SslAdapter) (desc : SessionDescription)
    (contents : List MediaContentDescription) (c : TransportController) :
    (contents.foldlM (fun (c : TransportController) content =>
        c.setRemoteTransport ssl desc content.mid) c).isSome ↔
      ∀ content ∈ contents, content.mid ∈ c.names → Fingerprinted desc content.mid := by
  induction contents generalizing c with
  | nil => simp
  | cons content contents ih =>
      obtain ⟨hnone, hnames⟩ := setRemoteTransport_spec ssl desc c content.mid
      rw [List.foldlM_cons, List.forall_mem_cons]
      cases hstep : c.setRemoteTransport ssl desc content.mid with
      | none =>
          have hbad := hnone.mp hstep
          exact ⟨fun h => absurd h (by simp), fun h => absurd (h.1 hbad.1) hbad.2⟩
      | some c' =>
          rw [hstep] at hnone
          simp only [reduceCtorEq, false_iff, not_and, not_not] at hnone
          dsimp only [Option.bind_eq_bind, Option.bind_some]
          rw [ih, hnames c' hstep]
          exact ⟨fun h => ⟨hnone, h⟩, fun h => h.2⟩

/-! ### The description -/

/-- The groups of an answer. -/
def answerGroups (lines : List Bytes) : SessionDescription where
  sdpType := .answer
  contentGroups := lines.filterMap bundleOf

/-- Every section of the answer that has a transport, and one of its own, has a
fingerprint. -/
def FingerprintsPresent (names lines : List Bytes) : Prop :=
  ∀ type ∈ lines.filterMap namedSection, type.mid ∈ names →
    ((answerGroups lines).isBundle type.mid → type.mid = (answerGroups lines).getFirstBundleMid) →
      HasFingerprint type [] lines

/-- The transport description of a section is found by the name of the section. -/
theorem getTransportInfo_description {s : RemoteSdp} (hs : Named s) {type : MediaType}
    (hmem : type ∈ s.contents) :
    s.description.getTransportInfo type.mid = some (sectionAt s type).td := by
  have hmid := hs type
  have haudio := hs .audio
  rw [if_pos hmem] at hmid
  show [s.audio.td, s.video.td].find? _ = _
  cases type with
  | audio => exact List.find?_cons_of_pos (decide_eq_true hmid)
  | video =>
      have hne : ¬ s.audio.td.mid = MediaType.video.mid := by
        rw [show s.audio.td.mid = _ from haudio]
        split_ifs <;> decide +kernel
      rw [List.find?_cons_of_neg (by simpa using hne)]
      exact List.find?_cons_of_pos (decide_eq_true hmid)

/-- The names of the sections of the description. -/
theorem mids_description (s : RemoteSdp) :
    s.description.contents.map MediaContentDescription.mid = s.contents.map MediaType.mid := by
  show (s.contents.map _).map _ = _
  rw [List.map_map]
  refine List.map_congr_left fun type _ => ?_
  cases type <;> rfl

/-- The sections of accepted lines have their fingerprints exactly if
`set_remote_description` comes to the end. -/
theorem setRemoteDescription_of_parseLines (ssl : SslAdapter) (c : TransportController)
    {lines : List Bytes} {s : RemoteSdp} (h : RemoteSdp.parseLines {} lines = .ok s) :
    (c.setRemoteDescription ssl s.description).isSome ↔ FingerprintsPresent c.names lines := by
  obtain ⟨hcontents, hgroups, hfingerprint, hnamed⟩ := parseLines_spec lines h
  have hs : Named s := hnamed fun type => by cases type <;> rfl
  have hbundle : ∀ mid, s.description.isBundle mid = (answerGroups lines).isBundle mid ∧
      s.description.getFirstBundleMid = (answerGroups lines).getFirstBundleMid := by
    intro mid
    have hgroup : s.description.contentGroups = (answerGroups lines).contentGroups := hgroups
    unfold SessionDescription.isBundle SessionDescription.getFirstBundleMid
      SessionDescription.getGroupByName
    rw [hgroup]
    exact ⟨rfl, rfl⟩
  rw [List.nil_append] at hcontents
  unfold TransportController.setRemoteDescription
  rw [setRemoteDescription_isSome_iff]
  unfold FingerprintsPresent SessionDescription.transportSections
  rw [← hcontents]
  -- the fingerprints that the lines have are those that the description has
  have hfound : ∀ type ∈ s.contents,
      (Fingerprinted s.description type.mid ↔ HasFingerprint type [] lines) := by
    intro type hmem
    have hiff := hfingerprint type
    have hstart : (sectionAt {} type).td.identityFingerprint.isSome = false := by
      cases type <;> rfl
    rw [hstart] at hiff
    unfold Fingerprinted
    rw [getTransportInfo_description hs hmem]
    simp only [Option.some.injEq, forall_eq', Bool.false_eq_true, false_or] at hiff ⊢
    rw [← hiff, Option.isSome_iff_ne_none]
  constructor
  · intro hall type hmem hname hown
    -- a section that a line names is one of the description, and the other way round
    have hmid : type.mid ∈ s.description.contents.map MediaContentDescription.mid := by
      rw [mids_description]
      exact List.mem_map_of_mem hmem
    obtain ⟨content, hcontent, hmid⟩ := List.mem_map.mp hmid
    rw [← hfound type hmem, ← hmid]
    refine hall content (List.mem_filter.mpr ⟨hcontent, ?_⟩) (by rw [hmid]; exact hname)
    rw [hmid, (hbundle _).1, (hbundle type.mid).2]
    cases hb : (answerGroups lines).isBundle type.mid with
    | false => rfl
    | true => simp [← hown hb]
  · intro hall content hcontent hname
    obtain ⟨hcontent, hown⟩ := List.mem_filter.mp hcontent
    have hmid : content.mid ∈ s.contents.map MediaType.mid := by
      rw [← mids_description]
      exact List.mem_map_of_mem hcontent
    obtain ⟨type, hmem, hmid⟩ := List.mem_map.mp hmid
    rw [← hmid] at hname hown ⊢
    rw [(hbundle _).1, (hbundle type.mid).2] at hown
    refine (hfound type hmem).mpr (hall type hmem hname fun hb => ?_)
    simpa [hb] using hown

/-! ### The call -/

/-- The call returns 0 or -1. -/
def Returns (r : SetRemoteSdp) : Prop := ∃ pc, r = .returns 0 pc ∨ r = .returns (-1) pc

/-- `set_remote_sdp` returns exactly if the lines are safe up to the first that is not
accepted and, when all of them are accepted, no fingerprint is missing. -/
theorem setRemoteSdp_returns_iff (ssl : SslAdapter) (pc : PeerConnection) (sdp : Bytes) :
    Returns (pc.setRemoteSdp ssl sdp) ↔
      SafeLines [] (sdpFields sdp) ∧
        (AcceptedLines [] (sdpFields sdp) →
          FingerprintsPresent pc.transportController.names (sdpFields sdp)) := by
  have hok := parseLines_isOk_iff (s := {}) (sdpFields sdp)
  have hthrow := parseLines_outOfRange_iff (s := {}) (sdpFields sdp)
  rw [show ({} : RemoteSdp).mediaType = [] from rfl] at hok hthrow
  unfold PeerConnection.setRemoteSdp
  by_cases hempty : sdpFields sdp = []
  · rw [if_pos hempty, hempty]
    exact ⟨fun _ => ⟨trivial, fun _ type hmem => absurd hmem List.not_mem_nil⟩,
      fun _ => ⟨pc, .inr rfl⟩⟩
  · rw [if_neg hempty]
    -- the parser decides about the lines, and the transports about the fingerprints
    cases hparse : RemoteSdp.parseLines {} (sdpFields sdp) with
    | error e =>
        obtain ⟨failure, s⟩ := e
        rw [hparse] at hok hthrow
        have hrejected : ¬ AcceptedLines [] (sdpFields sdp) := by simpa using hok
        cases failure with
        | rejected =>
            have hsafe : SafeLines [] (sdpFields sdp) := by simpa using hthrow
            exact ⟨fun _ => ⟨hsafe, fun h => absurd h hrejected⟩, fun _ => ⟨_, .inr rfl⟩⟩
        | outOfRange =>
            have hunsafe : ¬ SafeLines [] (sdpFields sdp) := hthrow.mp ⟨s, rfl⟩
            exact ⟨fun ⟨_, h⟩ => by simp at h, fun h => absurd h.1 hunsafe⟩
    | ok s =>
        rw [hparse] at hok hthrow
        have hsafe : SafeLines [] (sdpFields sdp) := by simpa using hthrow
        have haccepted : AcceptedLines [] (sdpFields sdp) := hok.mp ⟨s, rfl⟩
        rw [← setRemoteDescription_of_parseLines ssl pc.transportController hparse]
        dsimp only
        cases hset : pc.transportController.setRemoteDescription ssl s.description with
        | none => exact ⟨fun ⟨_, h⟩ => by simp at h, fun h => absurd (h.2 haccepted) (by simp)⟩
        | some c => exact ⟨fun _ => ⟨hsafe, fun _ => rfl⟩, fun _ => ⟨_, .inl rfl⟩⟩

/-- A text that fails to parse has a line. -/
theorem sdpFields_ne_nil {sdp : Bytes} {e : Failure × RemoteSdp}
    (h : RemoteSdp.parseLines {} (sdpFields sdp) = .error e) : sdpFields sdp ≠ [] := by
  intro hempty
  rw [hempty] at h
  cases h

/-- A text that makes the loop look behind the end of a string. -/
theorem not_returns_of_outOfRange (ssl : SslAdapter) (pc : PeerConnection) {sdp : Bytes}
    {s : RemoteSdp} (h : RemoteSdp.parseLines {} (sdpFields sdp) = .error (.outOfRange, s)) :
    ¬ Returns (pc.setRemoteSdp ssl sdp) := by
  have hleaves : pc.setRemoteSdp ssl sdp = .outOfRange := by
    unfold PeerConnection.setRemoteSdp
    rw [if_neg (sdpFields_ne_nil h), h]
  rw [hleaves]
  rintro ⟨pc', h | h⟩ <;> cases h

/-- A text with a section that has a transport of its own and no fingerprint. -/
theorem not_returns_of_noFingerprint (ssl : SslAdapter) (pc : PeerConnection) {sdp : Bytes}
    {s : RemoteSdp} (h : RemoteSdp.parseLines {} (sdpFields sdp) = .ok s) {type : MediaType}
    (hnamed : type ∈ (sdpFields sdp).filterMap namedSection)
    (hname : type.mid ∈ pc.transportController.names)
    (hbundle : (answerGroups (sdpFields sdp)).isBundle type.mid = false)
    (hfingerprint : ¬ HasFingerprint type [] (sdpFields sdp)) :
    ¬ Returns (pc.setRemoteSdp ssl sdp) := by
  have habsent : ¬ FingerprintsPresent pc.transportController.names (sdpFields sdp) := by
    intro hpresent
    refine hfingerprint (hpresent type hnamed hname fun hb => ?_)
    rw [hbundle] at hb
    cases hb
  have hnone : pc.transportController.setRemoteDescription ssl s.description = none := by
    rw [← setRemoteDescription_of_parseLines ssl pc.transportController h] at habsent
    exact Option.not_isSome_iff_eq_none.mp habsent
  have hnull : pc.setRemoteSdp ssl sdp = .nullPointer := by
    unfold PeerConnection.setRemoteSdp
    rw [if_neg, h]
    · dsimp only
      rw [hnone]
    · intro hempty
      rw [hempty] at hnamed
      exact absurd hnamed List.not_mem_nil
  rw [hnull]
  rintro ⟨pc', h | h⟩ <;> cases h

/-- A connection that has made an offer of an audio section. -/
def offering : PeerConnection :=
  (PeerConnection.createOffer (fun _ => []) (fun _ => [])
    { certificate := some (some ⟨ascii "sha-256", [1]⟩) }
    { sendVideo := false, recvVideo := false } ⟨ascii "ufrag", ascii "password"⟩).2

/-- An `m=` line of which the first field has one character, and a section without a
fingerprint. -/
theorem offering_leaves :
    ¬ Returns (offering.setRemoteSdp quietAdapter (ascii "m 9 m=\n")) ∧
      ¬ Returns (offering.setRemoteSdp quietAdapter (ascii "m=audio 9 X\n")) := by
  constructor
  · exact not_returns_of_outOfRange (s := {}) quietAdapter offering (by decide +kernel)
  · have hnamed : MediaType.audio ∈
        (sdpFields (ascii "m=audio 9 X\n")).filterMap namedSection := by
      decide +kernel
    exact not_returns_of_noFingerprint
      (s :=
        { contents := [.audio], mediaType := ascii "audio",
          audio := { td := { mid := ascii "audio" } } })
      quietAdapter offering (by decide +kernel) hnamed (by decide +kernel) (by decide +kernel)
      (by decide +kernel)

end Xrtc.Proofs.Pc
